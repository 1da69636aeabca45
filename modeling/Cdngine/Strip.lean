import Mathlib.Data.List.DropRight
import Mathlib.Tactic.Common

/-!
# Stripping, Splitting and First Occurrences

Three operations on lists that normalizations of texts are made of: dropping the elements of
a kind at both ends, splitting at the elements of another kind, and keeping the first
occurrence of every element.

## Main results

* `strip_strip`, `unique_eq_self`: a second normalization changes nothing.
* `map_strip_splitOnP`: stripping the whole does not change the stripped pieces.
-/

namespace Strip

variable {α : Type*}

/-! ### Stripping -/

/-- A list without the elements at its ends that meet `p`. -/
def strip (p : α → Bool) (l : List α) : List α := ((l.dropWhile p).reverse.dropWhile p).reverse

section Strip

variable {p : α → Bool} {l : List α} {a : α}

/-- Nothing is stripped of the empty list. -/
@[simp] theorem strip_nil : strip p ([] : List α) = [] := rfl

/-- An element that meets `p` is stripped at the front. -/
theorem strip_cons (h : p a = true) (l : List α) : strip p (a :: l) = strip p l := by
  rw [strip, List.dropWhile_cons_of_pos h, strip]

/-- An element that meets `p` is stripped at the end. -/
theorem strip_concat (h : p a = true) (l : List α) : strip p (l ++ [a]) = strip p l := by
  rw [strip, List.dropWhile_append]
  split
  · rename_i hempty
    rw [List.dropWhile_cons_of_pos h, strip, List.isEmpty_iff.mp hempty]
    rfl
  · rw [List.reverse_append, List.reverse_singleton, List.singleton_append,
      List.dropWhile_cons_of_pos h, strip]

/-- The ends of a list do not meet `p`. -/
def Stripped (p : α → Bool) (l : List α) : Prop :=
  (∀ a ∈ l.head?, p a = false) ∧ ∀ a ∈ l.getLast?, p a = false

/-- Nothing is dropped in front of an element that does not meet `p`. -/
theorem dropWhile_eq_self (h : ∀ a ∈ l.head?, p a = false) : l.dropWhile p = l := by
  cases l with
  | nil => rfl
  | cons a l => exact List.dropWhile_cons_of_neg (by simp [h a rfl])

/-- What is left begins with an element that does not meet `p`. -/
theorem head?_dropWhile (p : α → Bool) (l : List α) : ∀ a ∈ (l.dropWhile p).head?, p a = false := by
  induction l with
  | nil => exact fun a ha => by cases ha
  | cons b l ih =>
      cases hb : p b with
      | true =>
          rw [List.dropWhile_cons_of_pos hb]
          exact ih
      | false =>
          rw [List.dropWhile_cons_of_neg (by simp [hb])]
          rintro a ⟨⟩
          exact hb

/-- A stripped list is left as it is. -/
theorem strip_eq_self (h : Stripped p l) : strip p l = l := by
  have hlast : ∀ a ∈ l.reverse.head?, p a = false := by
    rw [List.head?_reverse]
    exact h.2
  rw [strip, dropWhile_eq_self h.1, dropWhile_eq_self hlast, List.reverse_reverse]

/-- **Stripping strips**: the ends of what is left do not meet `p`. -/
theorem stripped_strip (p : α → Bool) (l : List α) : Stripped p (strip p l) := by
  constructor
  · intro a ha
    have hsuffix : (l.dropWhile p).reverse.dropWhile p <:+ (l.dropWhile p).reverse :=
      List.dropWhile_suffix p
    have hpre : strip p l <+: l.dropWhile p := by
      simpa [strip] using List.reverse_prefix.mpr hsuffix
    obtain ⟨rest, hrest⟩ := hpre
    refine head?_dropWhile p l a ?_
    rw [← hrest, List.head?_append]
    simp only [Option.mem_def] at ha ⊢
    rw [ha, Option.some_or]
  · rw [strip, List.getLast?_reverse]
    exact head?_dropWhile p _

/-- **Stripping twice is stripping once.** -/
theorem strip_strip (p : α → Bool) (l : List α) : strip p (strip p l) = strip p l :=
  strip_eq_self (stripped_strip p l)

/-- What is left is of the list. -/
theorem mem_of_mem_strip (h : a ∈ strip p l) : a ∈ l := by
  have hdrop := List.mem_reverse.mp ((List.dropWhile_suffix p).subset (List.mem_reverse.mp h))
  exact (List.dropWhile_suffix p).subset hdrop

/-- An element that does not meet `p` is kept. -/
theorem mem_strip_of_neg (h : a ∈ l) (ha : p a = false) : a ∈ strip p l := by
  have hdrop : ∀ l : List α, a ∈ l → a ∈ l.dropWhile p := by
    intro l hl
    rw [← List.takeWhile_append_dropWhile (p := p) (l := l)] at hl
    cases List.mem_append.mp hl with
    | inl htake =>
        have hp := List.mem_takeWhile_imp htake
        rw [ha] at hp
        cases hp
    | inr hdrop => exact hdrop
  exact List.mem_reverse.mpr (hdrop _ (List.mem_reverse.mpr (hdrop l h)))

/-- What is left stands in the order of the list. -/
theorem strip_sublist (p : α → Bool) (l : List α) : (strip p l).Sublist l := by
  have hback := ((l.dropWhile p).reverse.dropWhile_sublist p).reverse
  rw [List.reverse_reverse] at hback
  exact hback.trans (l.dropWhile_sublist p)

/-- Nothing is dropped in front of a list whose first element does not meet `p`. -/
theorem strip_prefix (h : ∀ a ∈ l.head?, p a = false) : strip p l <+: l := by
  have hsuffix := List.reverse_prefix.mpr (l.reverse.dropWhile_suffix p)
  rw [List.reverse_reverse] at hsuffix
  rw [strip, dropWhile_eq_self h]
  exact hsuffix

/-- **Stripping keeps prefixes.** -/
theorem strip_prefix_strip_append (p : α → Bool) (l m : List α) :
    strip p l <+: strip p (l ++ m) := by
  have hfront : l.dropWhile p <+: (l ++ m).dropWhile p := by
    rw [List.dropWhile_append]
    split
    · rename_i hempty
      rw [List.isEmpty_iff.mp hempty]
      exact List.nil_prefix
    · exact List.prefix_append _ m
  obtain ⟨rest, hrest⟩ := hfront
  rw [strip, strip, ← hrest]
  generalize l.dropWhile p = k
  -- what is dropped at the end of `k` is at most more at the end of `k` and `rest`
  rw [List.reverse_append, List.dropWhile_append]
  split
  · exact List.prefix_refl _
  · rw [List.reverse_append, List.reverse_reverse]
    have hsuffix := List.reverse_prefix.mpr (k.reverse.dropWhile_suffix p)
    rw [List.reverse_reverse] at hsuffix
    exact hsuffix.trans (List.prefix_append k _)

end Strip

/-! ### Splitting -/

section Split

variable {sep p : α → Bool}

/-- The pieces of a list do not change, up to `f`, when `f` ignores an element at the end. -/
theorem map_splitOnPPrepend_concat {β : Type*} {f : List α → β} {a : α} (hsep : sep a = false)
    (hf : ∀ l, f (l ++ [a]) = f l) (l acc : List α) :
    (List.splitOnPPrepend sep (l ++ [a]) acc).map f = (List.splitOnPPrepend sep l acc).map f := by
  induction l generalizing acc with
  | nil =>
      rw [List.nil_append, List.splitOnPPrepend_cons_eq_if, hsep]
      simp only [Bool.false_eq_true, if_false, List.splitOnPPrepend_nil, List.map_cons,
        List.map_nil, List.reverse_cons, hf]
  | cons b l ih =>
      rw [List.cons_append, List.splitOnPPrepend_cons_eq_if, List.splitOnPPrepend_cons_eq_if]
      split
      · rw [List.map_cons, List.map_cons, ← List.splitOnPPrepend_nil_right,
          ← List.splitOnPPrepend_nil_right, ih []]
      · exact ih (b :: acc)

/-- The same for an element at the front. -/
theorem map_splitOnP_cons {β : Type*} {f : List α → β} {a : α} (hsep : sep a = false)
    (hf : ∀ l, f (a :: l) = f l) (l : List α) :
    ((a :: l).splitOnP sep).map f = (l.splitOnP sep).map f := by
  rw [List.splitOnP_cons_eq_if_modifyHead, hsep]
  cases hpieces : l.splitOnP sep with
  | nil => exact absurd hpieces (List.splitOnP_ne_nil sep l)
  | cons piece pieces => simp [hf]

/-- **Stripping a list does not change its stripped pieces**, when no separator is stripped. -/
theorem map_strip_splitOnP (hsep : ∀ a, p a = true → sep a = false) (l : List α) :
    ((strip p l).splitOnP sep).map (strip p) = (l.splitOnP sep).map (strip p) := by
  have hfront : ∀ l : List α,
      ((l.dropWhile p).splitOnP sep).map (strip p) = (l.splitOnP sep).map (strip p) := by
    intro l
    induction l with
    | nil => rfl
    | cons a l ih =>
        cases ha : p a with
        | true =>
            rw [List.dropWhile_cons_of_pos ha, ih, map_splitOnP_cons (hsep a ha) (strip_cons ha)]
        | false => rw [List.dropWhile_cons_of_neg (by simp [ha])]
  have hback : ∀ l : List α,
      ((l.dropWhile p).reverse.splitOnP sep).map (strip p) =
        (l.reverse.splitOnP sep).map (strip p) := by
    intro l
    induction l with
    | nil => rfl
    | cons a l ih =>
        cases ha : p a with
        | true =>
            rw [List.dropWhile_cons_of_pos ha, ih, List.reverse_cons,
              ← @List.splitOnPPrepend_nil_right _ _ (l.reverse ++ [a]),
              map_splitOnPPrepend_concat (hsep a ha) (strip_concat ha),
              List.splitOnPPrepend_nil_right]
        | false => rw [List.dropWhile_cons_of_neg (by simp [ha])]
  rw [strip, hback, List.reverse_reverse, hfront]

/-- A piece holds elements of the list, and no separator. -/
theorem mem_splitOnP {l piece : List α} (h : piece ∈ l.splitOnP sep) :
    ∀ a ∈ piece, a ∈ l ∧ sep a = false := by
  induction l generalizing piece with
  | nil =>
      obtain rfl := List.mem_singleton.mp h
      exact fun a ha => absurd ha List.not_mem_nil
  | cons b l ih =>
      have htail : ∀ piece ∈ l.splitOnP sep, ∀ a ∈ piece, a ∈ b :: l ∧ sep a = false :=
        fun piece hpiece a ha => (ih hpiece a ha).imp_left (List.mem_cons_of_mem b)
      rw [List.splitOnP_cons_eq_if_modifyHead] at h
      cases hb : sep b with
      | true =>
          rw [if_pos hb] at h
          cases List.mem_cons.mp h with
          | inl h => exact fun a ha => absurd (h ▸ ha) List.not_mem_nil
          | inr h => exact htail piece h
      | false =>
          rw [if_neg (Bool.eq_false_iff.mp hb)] at h
          cases hpieces : l.splitOnP sep with
          | nil => exact absurd hpieces (List.splitOnP_ne_nil sep l)
          | cons first rest =>
              rw [hpieces, List.modifyHead_cons] at h
              cases List.mem_cons.mp h with
              | inl h =>
                  subst h
                  intro a ha
                  cases List.mem_cons.mp ha with
                  | inl ha =>
                      subst ha
                      exact ⟨List.mem_cons_self, hb⟩
                  | inr ha => exact htail first (hpieces ▸ List.mem_cons_self) a ha
              | inr h => exact htail piece (hpieces ▸ List.mem_cons_of_mem first h)

/-- A piece between single separators holds elements of the list, and no separator. -/
theorem mem_splitOn [DecidableEq α] {sep : α} {l piece : List α} (h : piece ∈ l.splitOn sep) :
    ∀ a ∈ piece, a ∈ l ∧ a ≠ sep := by
  rw [List.splitOn_eq_splitOnP] at h
  exact fun a ha => (mem_splitOnP h a ha).imp_right beq_eq_false_iff_ne.mp

/-- A list with no empty piece does not end in a separator. -/
theorem getLast_ne_of_splitOn [DecidableEq α] {sep : α} {l : List α} (h : [] ∉ l.splitOn sep)
    (hne : l ≠ []) : l.getLast hne ≠ sep := by
  intro hlast
  rw [← List.dropLast_concat_getLast hne, hlast, List.splitOn_append_cons_self] at h
  exact h (List.mem_append_right _ List.mem_cons_self)

/-- Nor does it begin with one. -/
theorem head_ne_of_splitOn [DecidableEq α] {sep : α} {l : List α} (h : [] ∉ l.splitOn sep)
    {a : α} (ha : a ∈ l.head?) : a ≠ sep := by
  rintro rfl
  cases l with
  | nil => cases ha
  | cons b l =>
      obtain rfl := Option.some.inj ha
      rw [List.splitOn_cons_eq_if_modifyHead, if_pos (beq_self_eq_true b)] at h
      exact h List.mem_cons_self

/-- Joined pieces begin with the first piece, and a separator follows it. -/
theorem intercalate_cons_eq (sep : α) (piece : List α) (pieces : List (List α)) :
    ∃ rest, [sep].intercalate (piece :: pieces) = piece ++ rest ∧ ∀ a ∈ rest.head?, a = sep := by
  cases pieces with
  | nil => exact ⟨[], by rw [List.intercalate_singleton, List.append_nil], fun a ha => by cases ha⟩
  | cons second rest =>
      refine ⟨sep :: [sep].intercalate (second :: rest), ?_, ?_⟩
      · rw [List.intercalate_cons_cons, List.append_assoc, List.singleton_append]
      · rintro a ⟨⟩
        rfl

/-- What is joined are the pieces and the separator. -/
theorem mem_intercalate {sep a : α} {pieces : List (List α)}
    (h : a ∈ [sep].intercalate pieces) : a = sep ∨ ∃ piece ∈ pieces, a ∈ piece := by
  induction pieces with
  | nil => cases h
  | cons piece pieces ih =>
      cases pieces with
      | nil =>
          rw [List.intercalate_singleton] at h
          exact .inr ⟨piece, List.mem_cons_self, h⟩
      | cons second rest =>
          rw [List.intercalate_cons_cons, List.mem_append, List.mem_append,
            List.mem_singleton] at h
          rcases h with (h | h) | h
          · exact .inr ⟨piece, List.mem_cons_self, h⟩
          · exact .inl h
          · refine (ih h).imp_right ?_
            rintro ⟨piece', hpiece', ha⟩
            exact ⟨piece', List.mem_cons_of_mem piece hpiece', ha⟩

end Split

/-! ### First occurrences -/

section Unique

variable [DecidableEq α]

/-- The first occurrences of the elements of a list, in order. -/
def unique : List α → List α
  | [] => []
  | a :: l => a :: (unique l).filter fun b => b ≠ a

/-- The first occurrences are of the same elements. -/
@[simp] theorem mem_unique {l : List α} {a : α} : a ∈ unique l ↔ a ∈ l := by
  induction l with
  | nil => simp [unique]
  | cons b l ih =>
      simp only [unique, List.mem_cons, List.mem_filter, ih, decide_eq_true_eq]
      by_cases hab : a = b
      · simp [hab]
      · simp [hab]

/-- First occurrences do not repeat. -/
theorem nodup_unique (l : List α) : (unique l).Nodup := by
  induction l with
  | nil => exact List.nodup_nil
  | cons a l ih =>
      refine List.nodup_cons.mpr ⟨?_, ih.filter _⟩
      simp

/-- **A list without repetitions is its first occurrences.** -/
theorem unique_eq_self {l : List α} (h : l.Nodup) : unique l = l := by
  induction l with
  | nil => rfl
  | cons a l ih =>
      obtain ⟨hnew, hnodup⟩ := List.nodup_cons.mp h
      rw [unique, ih hnodup, List.filter_eq_self.mpr]
      intro b hb
      exact decide_eq_true fun heq => hnew (heq ▸ hb)

/-- There are at most as many first occurrences as elements. -/
theorem length_unique_le (l : List α) : (unique l).length ≤ l.length := by
  induction l with
  | nil => exact Nat.le_refl _
  | cons a l ih =>
      have hfilter := List.length_filter_le (fun b => decide (b ≠ a)) (unique l)
      simp only [unique, List.length_cons]
      omega

/-- A list that is as long as its first occurrences has no repetitions. -/
theorem nodup_of_length_unique {l : List α} (h : (unique l).length = l.length) : l.Nodup := by
  induction l with
  | nil => exact List.nodup_nil
  | cons a l ih =>
      have hfilter := List.length_filter_le (fun b => decide (b ≠ a)) (unique l)
      have hle := length_unique_le l
      simp only [unique, List.length_cons] at h
      refine List.nodup_cons.mpr ⟨fun ha => ?_, ih (by omega)⟩
      have hlt : ((unique l).filter fun b => decide (b ≠ a)).length < (unique l).length :=
        List.length_filter_lt_length_iff_exists.mpr ⟨a, mem_unique.mpr ha, by simp⟩
      omega

/-- Only the empty list has no first occurrences. -/
theorem unique_eq_nil_iff {l : List α} : unique l = [] ↔ l = [] := by
  cases l <;> simp [unique]

end Unique

end Strip
