import Mathlib.Data.List.Basic
import Mathlib.Tactic.Common

/-!
# Readers of Characters

A reader takes something off the beginning of a text. Readers are put together from smaller ones,
and what they have in common is proved of the parts: a reader leaves the end of the text
(`Lawful.suffix`), what it reads does not depend on what comes later (`Lawful.later`), and a reader
that may take more steps reads no less (`Refines`).

A reader may have to see what stops it, as that of a number does; `stops` says which texts do.

## Main results

* `Lawful.andThen`, `Lawful.change`, `Lawful.ite`, `Lawful.ifHead`: readers that are put together.
* `Lawful.andThen_closed`: a reader that is followed by one that reads something needs no stop.
-/

namespace Readers

/-- A reader returns what it has read from a text and the rest of the text. -/
abbrev Reader (α : Type) : Type := List Char → Option (α × List Char)

variable {α β : Type}

namespace Reader

/-- One reader after another. -/
def andThen (read : Reader α) (next : α → Reader β) : Reader β := fun cs =>
  (read cs).bind fun p => next p.1 p.2

/-- What is read, changed. -/
def change (f : α → β) (read : Reader α) : Reader β := fun cs =>
  (read cs).map fun p => (f p.1, p.2)

/-- The reader that reads nothing. -/
def done (a : α) : Reader α := fun cs => some (a, cs)

/-- The reader that refuses every text. -/
def refuse : Reader α := fun _ => none

/-- A value that is there. -/
def lift (a? : Option α) : Reader α := fun cs => a?.map fun a => (a, cs)

/-- One reader behind a character of some kind, another one where there is none. -/
def ifHead (p : Char → Bool) (yes no : Reader α) : Reader α := fun cs =>
  if cs.head?.any p then yes cs.tail else no cs

/-- The second reader goes on where the first one stopped. -/
theorem andThen_of_eq {read : Reader α} {next : α → Reader β} {cs rest : List Char} {a : α}
    (h : read cs = some (a, rest)) : read.andThen next cs = next a rest := by
  rw [andThen, h, Option.bind_some]

/-- A changed reader reads what the reader reads. -/
theorem change_of_eq {f : α → β} {read : Reader α} {cs rest : List Char} {a : α}
    (h : read cs = some (a, rest)) : read.change f cs = some (f a, rest) := by
  rw [change, h, Option.map_some]

/-- **Inversion** of one reader after another. -/
theorem andThen_eq_some {read : Reader α} {next : α → Reader β} {cs : List Char}
    {p : β × List Char} (h : read.andThen next cs = some p) :
    ∃ q, read cs = some q ∧ next q.1 q.2 = some p :=
  Option.bind_eq_some_iff.mp h

/-- Inversion of a changed reader. -/
theorem change_eq_some {f : α → β} {read : Reader α} {cs rest : List Char} {b : β}
    (h : read.change f cs = some (b, rest)) : ∃ a, read cs = some (a, rest) ∧ f a = b := by
  obtain ⟨⟨a, rest'⟩, hread, heq⟩ := Option.map_eq_some_iff.mp h
  obtain ⟨rfl, rfl⟩ := Prod.mk.inj heq
  exact ⟨a, hread, rfl⟩

/-- What one reader reads, the other reads too. -/
def Refines (read read' : Reader α) : Prop := ∀ cs p, read cs = some p → read' cs = some p

/-- A reader reads what it reads. -/
theorem Refines.refl (read : Reader α) : read.Refines read := fun _ _ h => h

/-- One reader after another reads no less than smaller ones do. -/
theorem Refines.andThen {read read' : Reader α} {next next' : α → Reader β}
    (h : read.Refines read') (hnext : ∀ a, (next a).Refines (next' a)) :
    (read.andThen next).Refines (read'.andThen next') := by
  intro cs p hp
  obtain ⟨q, hq, hrest⟩ := andThen_eq_some hp
  rw [andThen_of_eq (h cs q hq)]
  exact hnext q.1 q.2 p hrest

/-- A changed reader reads no less than a smaller one, changed. -/
theorem Refines.change {f : α → β} {read read' : Reader α} (h : read.Refines read') :
    (read.change f).Refines (read'.change f) := by
  rintro cs ⟨b, rest⟩ hp
  obtain ⟨a, hread, rfl⟩ := change_eq_some hp
  exact change_of_eq (h cs _ hread)

/-- **What a reader leaves is the end of the text**, and it reads from a longer text what it reads
from a text. Where it has read the text to its end, it has to stop at what comes later. -/
structure Lawful (stops : List Char → Prop) (read : Reader α) : Prop where
  suffix : ∀ {cs a rest}, read cs = some (a, rest) → rest <:+ cs
  later : ∀ {cs a rest later}, read cs = some (a, rest) → (rest = [] → stops later) →
    read (cs ++ later) = some (a, rest ++ later)

variable {stops : List Char → Prop}

/-- A reader that does not look behind what it reads. -/
abbrev Closed (read : Reader α) : Prop := read.Lawful fun _ => True

/-- A reader that does not look behind what it reads needs no stop. -/
theorem Lawful.over {read : Reader α} (h : read.Closed) : read.Lawful stops where
  suffix := h.suffix
  later hread _ := h.later hread fun _ => trivial

/-- The reader of nothing is lawful. -/
theorem closed_done (a : α) : (done a).Closed where
  suffix h := by
    obtain ⟨-, rfl⟩ := Prod.mk.inj (Option.some.inj h)
    exact List.suffix_refl _
  later h _ := by
    obtain ⟨rfl, rfl⟩ := Prod.mk.inj (Option.some.inj h)
    rfl

/-- The reader that refuses is lawful. -/
theorem closed_refuse : (refuse : Reader α).Closed where
  suffix h := by cases h
  later h _ := by cases h

/-- **One lawful reader after another** is lawful. -/
theorem Lawful.andThen {read : Reader α} {next : α → Reader β} (h : read.Lawful stops)
    (hnext : ∀ a, (next a).Lawful stops) : (read.andThen next).Lawful stops where
  suffix hb := by
    obtain ⟨q, hq, hrest⟩ := andThen_eq_some hb
    exact ((hnext q.1).suffix hrest).trans (h.suffix hq)
  later hb hlater := by
    obtain ⟨⟨a, rest'⟩, hq, hrest⟩ := andThen_eq_some hb
    have hends := (hnext a).suffix hrest
    rw [andThen_of_eq (h.later hq fun hnil => hlater (List.suffix_nil.mp (hnil ▸ hends)))]
    exact (hnext a).later hrest hlater

/-- A reader that is followed by one that reads something. -/
theorem Lawful.andThen_closed {read : Reader α} {next : α → Reader β} (h : read.Lawful stops)
    (hnext : ∀ a, (next a).Closed) (hnil : ∀ a, next a [] = none) : (read.andThen next).Closed where
  suffix hb := by
    obtain ⟨q, hq, hrest⟩ := andThen_eq_some hb
    exact ((hnext q.1).suffix hrest).trans (h.suffix hq)
  later hb hlater := by
    obtain ⟨⟨a, rest'⟩, hq, hrest⟩ := andThen_eq_some hb
    have hne : rest' ≠ [] := by
      rintro rfl
      rw [hnil a] at hrest
      cases hrest
    rw [andThen_of_eq (h.later hq fun hnil => absurd hnil hne)]
    exact (hnext a).later hrest hlater

/-- A changed lawful reader is lawful. -/
theorem Lawful.change {f : α → β} {read : Reader α} (h : read.Lawful stops) :
    (read.change f).Lawful stops where
  suffix hb := by
    obtain ⟨a, hread, -⟩ := change_eq_some hb
    exact h.suffix hread
  later hb hlater := by
    obtain ⟨a, hread, rfl⟩ := change_eq_some hb
    exact change_of_eq (h.later hread hlater)

/-- A reader that is chosen. -/
theorem Lawful.ite {p : Prop} [Decidable p] {read read' : Reader α} (h : read.Lawful stops)
    (h' : read'.Lawful stops) : (if p then read else read').Lawful stops := by
  split
  · exact h
  · exact h'

/-- The reader of a value that is there is lawful. -/
theorem closed_lift (a? : Option α) : (lift a?).Closed where
  suffix h := by
    obtain ⟨a, -, heq⟩ := Option.map_eq_some_iff.mp h
    obtain ⟨-, rfl⟩ := Prod.mk.inj heq
    exact List.suffix_refl _
  later h _ := by
    obtain ⟨a, rfl, heq⟩ := Option.map_eq_some_iff.mp h
    obtain ⟨rfl, rfl⟩ := Prod.mk.inj heq
    rfl

/-- A reader that is chosen reads no less than a smaller choice. -/
theorem Refines.ite {p : Prop} [Decidable p] {read₁ read₁' read₂ read₂' : Reader α}
    (h₁ : read₁.Refines read₁') (h₂ : read₂.Refines read₂') :
    Reader.Refines (if p then read₁ else read₂) (if p then read₁' else read₂') := by
  split
  · exact h₁
  · exact h₂

/-- A reader that looks at the next character. -/
theorem Lawful.ifHead {p : Char → Bool} {yes no : Reader α} (hyes : yes.Lawful stops)
    (hno : no.Lawful stops) (hstops : ∀ later, stops later → later.head?.any p = false) :
    (Reader.ifHead p yes no).Lawful stops where
  suffix {cs a rest} h := by
    by_cases hhead : cs.head?.any p = true
    · rw [Reader.ifHead, if_pos hhead] at h
      exact (hyes.suffix h).trans (List.tail_suffix cs)
    · rw [Reader.ifHead, if_neg hhead] at h
      exact hno.suffix h
  later {cs a rest later} h hlater := by
    cases cs with
    | nil =>
        rw [Reader.ifHead, if_neg (by exact Bool.false_ne_true)] at h
        have hnil : rest = [] := List.suffix_nil.mp (hno.suffix h)
        rw [List.nil_append, Reader.ifHead, if_neg (by rw [hstops later (hlater hnil)]; decide)]
        exact hno.later h hlater
    | cons c cs =>
        by_cases hhead : p c = true
        · rw [Reader.ifHead, if_pos (show (c :: cs).head?.any p = true from hhead)] at h
          rw [Reader.ifHead, if_pos (show ((c :: cs) ++ later).head?.any p = true from hhead)]
          exact hyes.later h hlater
        · rw [Reader.ifHead, if_neg (show ¬ (c :: cs).head?.any p = true from hhead)] at h
          rw [Reader.ifHead, if_neg (show ¬ ((c :: cs) ++ later).head?.any p = true from hhead)]
          exact hno.later h hlater

end Reader

end Readers
