import Mathlib.Data.List.Basic
import Mathlib.Tactic.Common

/-!
# Content-Defined Chunking

A chunker reads a sequence with a state that starts afresh after every cut, and cuts where the
state says so. Whatever the state is, such chunks have the property that deduplication rests on:
from a boundary on they depend on nothing that comes before it.

## Main results

* `flatten_chunks`, `ne_nil_of_mem_chunksAfter`: the chunks are the input, and none is empty.
* `chunks_after_boundary`: from a boundary on, the chunks of an input are those of the rest of
  it.
-/

namespace Chunkers

variable {σ α : Type}

/-- A **chunker**: the state after a cut, the state after an element, and whether the input is
cut there. -/
structure Chunker (σ α : Type) where
  start : σ
  step : σ → α → σ
  cut : σ → Bool

namespace Chunker

variable (c : Chunker σ α)

/-- The chunks of what follows the elements since the last cut, newest first, and their state. -/
def chunksAfter (chunk : List α) (s : σ) : List α → List (List α)
  | [] => if chunk.isEmpty then [] else [chunk.reverse]
  | a :: as =>
      let s := c.step s a
      if c.cut s then (a :: chunk).reverse :: chunksAfter [] c.start as
      else chunksAfter (a :: chunk) s as

/-- The chunks of an input. -/
def chunks (input : List α) : List (List α) := c.chunksAfter [] c.start input

variable {c}

theorem flatten_chunksAfter (chunk : List α) (s : σ) (input : List α) :
    (c.chunksAfter chunk s input).flatten = chunk.reverse ++ input := by
  induction input generalizing chunk s with
  | nil =>
      rw [chunksAfter]
      cases chunk with
      | nil => rfl
      | cons a chunk => simp
  | cons a input ih =>
      rw [chunksAfter]
      split
      · rw [List.flatten_cons, ih, List.reverse_cons, List.reverse_nil, List.nil_append,
          List.append_assoc, List.singleton_append]
      · rw [ih, List.reverse_cons, List.append_assoc, List.singleton_append]

/-- **The chunks are the input.** -/
theorem flatten_chunks (input : List α) : (c.chunks input).flatten = input := by
  rw [chunks, flatten_chunksAfter, List.reverse_nil, List.nil_append]

/-- **No chunk is empty.** -/
theorem ne_nil_of_mem_chunksAfter {chunk : List α} {s : σ} {input : List α} :
    ∀ piece ∈ c.chunksAfter chunk s input, piece ≠ [] := by
  induction input generalizing chunk s with
  | nil =>
      intro piece hpiece
      rw [chunksAfter] at hpiece
      cases chunk with
      | nil => cases hpiece
      | cons a chunk =>
          obtain rfl := List.mem_singleton.mp hpiece
          simp
  | cons a input ih =>
      intro piece hpiece
      rw [chunksAfter] at hpiece
      split at hpiece
      · rcases List.mem_cons.mp hpiece with rfl | hpiece
        · simp
        · exact ih piece hpiece
      · exact ih piece hpiece

/-- The first chunk takes up the open one and at least one element more. -/
theorem length_lt_of_chunksAfter_eq_cons {chunk piece : List α} {s : σ} {a : α} {input : List α}
    {rest : List (List α)} (h : c.chunksAfter chunk s (a :: input) = piece :: rest) :
    chunk.length < piece.length := by
  induction input generalizing chunk s a with
  | nil =>
      rw [chunksAfter] at h
      split at h
      · obtain ⟨rfl, -⟩ := List.cons.inj h
        simp
      · rw [chunksAfter, List.isEmpty_cons, if_neg Bool.false_ne_true] at h
        obtain ⟨rfl, -⟩ := List.cons.inj h
        simp
  | cons b input ih =>
      rw [chunksAfter] at h
      split at h
      · obtain ⟨rfl, -⟩ := List.cons.inj h
        simp
      · have hlonger := ih h
        rw [List.length_cons] at hlonger
        omega

/-- Chunks that add up to the open elements leave the chunks of the input behind them. -/
theorem chunksAfter_open_boundary {chunk : List α} {s : σ} {input : List α}
    {pieces rest : List (List α)} (hopen : chunk = [] → s = c.start)
    (hsplit : c.chunksAfter chunk s input = pieces ++ rest)
    (hpieces : pieces.flatten = chunk.reverse) : rest = c.chunks input := by
  have hnonempty : ∀ piece ∈ pieces ++ rest, piece ≠ [] :=
    hsplit ▸ ne_nil_of_mem_chunksAfter
  cases pieces with
  | nil =>
      have hchunk : chunk = [] := List.reverse_eq_nil_iff.mp hpieces.symm
      rw [List.nil_append] at hsplit
      rw [← hsplit, hopen hchunk, hchunk, chunks]
  | cons piece pieces =>
      cases input with
      | nil =>
          -- the open elements are the only chunk, and `rest` has no room for another one
          have hrest : rest.flatten = [] := by
            have hall := hsplit ▸ flatten_chunksAfter chunk s []
            rw [List.flatten_append, hpieces, List.append_nil] at hall
            exact List.append_right_eq_self.mp hall
          cases rest with
          | nil => rfl
          | cons next rest =>
              have hnext : next = [] := (List.append_eq_nil_iff.mp hrest).1
              exact absurd hnext (hnonempty next
                (List.mem_append_right _ List.mem_cons_self))
      | cons a input =>
          have hlonger := length_lt_of_chunksAfter_eq_cons hsplit
          have hlength := congrArg List.length hpieces
          rw [List.flatten_cons, List.length_append, List.length_reverse] at hlength
          omega

theorem chunksAfter_boundary {chunk : List α} {s : σ} {before suffix : List α}
    {pieces rest : List (List α)} (hopen : chunk = [] → s = c.start)
    (hsplit : c.chunksAfter chunk s (before ++ suffix) = pieces ++ rest)
    (hpieces : pieces.flatten = chunk.reverse ++ before) : rest = c.chunks suffix := by
  induction before generalizing chunk s pieces with
  | nil =>
      rw [List.append_nil] at hpieces
      exact chunksAfter_open_boundary hopen hsplit hpieces
  | cons a before ih =>
      rw [List.cons_append, chunksAfter] at hsplit
      split at hsplit
      · cases pieces with
        | nil => exact absurd hpieces (by simp)
        | cons piece pieces =>
            obtain ⟨rfl, htail⟩ := List.cons.inj hsplit
            have hrest : pieces.flatten = before := by
              rw [List.flatten_cons, List.reverse_cons, List.append_assoc,
                List.append_cancel_left_eq, List.singleton_append] at hpieces
              exact (List.cons.inj hpieces).2
            exact ih (fun _ => rfl) htail (by rw [hrest, List.reverse_nil, List.nil_append])
      · have hpieces' : pieces.flatten = (a :: chunk).reverse ++ before := by
          rw [hpieces, List.reverse_cons, List.append_assoc, List.singleton_append]
        exact ih (fun h => by cases h) hsplit hpieces'

/-- **From a boundary on, the chunks are those of the rest of the input.** -/
theorem chunks_after_boundary {before suffix : List α} {pieces rest : List (List α)}
    (hsplit : c.chunks (before ++ suffix) = pieces ++ rest) (hpieces : pieces.flatten = before) :
    rest = c.chunks suffix :=
  chunksAfter_boundary (fun _ => rfl) hsplit (by rw [hpieces, List.reverse_nil, List.nil_append])

end Chunker

end Chunkers
