import Cdngine.XetCommands

/-!
# Boundaries of Chunks

`chunkBuffer` is a content-defined chunker: its loop carries the size and the rolling
fingerprint of the open chunk, and both start afresh after a cut. Two files that have a
boundary before a common suffix share all the chunks of it, however they differ before.

## Main results

* `chunkBuffer_contentDefined`: the chunks are the buffer, keep to the sizes, and from a
  boundary on depend only on the bytes after it.
-/

open Chunkers

namespace Cdngine

/-- The chunks of a buffer have a **boundary** between two parts of it; `rest` are the chunks of
the second part. -/
def BoundaryAfter (before suffix : List UInt8) (rest : List (List UInt8)) : Prop :=
  ∃ chunks, chunkBuffer (before ++ suffix) = chunks ++ rest ∧ chunks.flatten = before

/-- The chunks after a boundary are the chunks of the second part by itself. -/
theorem BoundaryAfter.rest_eq {before suffix : List UInt8} {rest : List (List UInt8)}
    (h : BoundaryAfter before suffix rest) : rest = chunkBuffer suffix := by
  obtain ⟨chunks, hsplit, hbefore⟩ := h
  rw [chunkBuffer_eq_chunks] at hsplit ⊢
  exact Chunker.chunks_after_boundary hsplit hbefore

/-- There is a boundary after the first chunk of a buffer. -/
theorem boundaryAfter_first {buffer chunk : List UInt8} {rest : List (List UInt8)}
    (h : chunkBuffer buffer = chunk :: rest) : BoundaryAfter chunk rest.flatten rest := by
  have hbuffer : chunk ++ rest.flatten = buffer := by
    rw [← flatten_chunkBuffer buffer, h, List.flatten_cons]
  refine ⟨[chunk], ?_, ?_⟩
  · rw [hbuffer, h, List.singleton_append]
  · rw [List.flatten_singleton]

/-- **The law of `chunkBuffer`**: the chunks are the buffer; none is empty or above the largest
size, and all but the last have the least size; and where two buffers have a boundary before a
common suffix, its chunks are the same in both. -/
theorem chunkBuffer_contentDefined :
    (∀ buffer, (chunkBuffer buffer).flatten = buffer ∧ ChunkSizes (chunkBuffer buffer)) ∧
      ∀ before before' suffix rest rest',
        BoundaryAfter before suffix rest → BoundaryAfter before' suffix rest' → rest = rest' := by
  refine ⟨fun buffer => ⟨flatten_chunkBuffer buffer, chunkBuffer_sizes buffer⟩, ?_⟩
  intro before before' suffix rest rest' h h'
  rw [h.rest_eq, h'.rest_eq]

/-- A buffer above the largest size has a boundary with bytes on both sides, and what follows it
is cut as it is at the start of a buffer. -/
theorem long_buffer_rejoins :
    ∃ before suffix rest, before ≠ [] ∧ suffix ≠ [] ∧ BoundaryAfter before suffix rest ∧
      rest = chunkBuffer suffix := by
  have hsizes := (chunkBuffer_contentDefined.1 (List.replicate (maxChunkSize + 1) 0)).2
  have hflatten := (chunkBuffer_contentDefined.1 (List.replicate (maxChunkSize + 1) 0)).1
  cases hchunks : chunkBuffer (List.replicate (maxChunkSize + 1) 0) with
  | nil =>
      rw [hchunks, List.flatten_nil] at hflatten
      exact absurd (congrArg List.length hflatten) (by rw [List.length_replicate]; exact nofun)
  | cons chunk rest =>
      rw [hchunks] at hsizes hflatten
      have hlength : chunk.length + rest.flatten.length = maxChunkSize + 1 := by
        rw [← List.length_append, ← List.flatten_cons, hflatten, List.length_replicate]
      have hle : chunk.length ≤ maxChunkSize := hsizes.le_max chunk List.mem_cons_self
      have hsuffix : rest.flatten ≠ [] := fun h => by
        rw [h, List.length_nil] at hlength
        omega
      have hboundary := boundaryAfter_first hchunks
      have hstart : BoundaryAfter [] rest.flatten (chunkBuffer rest.flatten) := ⟨[], rfl, rfl⟩
      exact ⟨chunk, rest.flatten, rest, hsizes.nonempty chunk List.mem_cons_self, hsuffix,
        hboundary, chunkBuffer_contentDefined.2 _ _ _ _ _ hboundary hstart⟩

end Cdngine
