import Mathlib.Algebra.Group.Nat.Defs
import Mathlib.Tactic.Common

/-!
# Byte Buffers

Buffers as lists: cutting a piece out, overwriting a piece in place, and little-endian numbers.
A record is a buffer whose slots were filled one after the other; a reader gets a slot back as
the slots do not overlap.

## Main results

* `slice_fill`: a slot of a record is read back.
* `readLE_record`, `slice_record`: so are the numbers and the tail of a record that a buffer
  holds.
* `slice_of_holdsAt`, `holdsAt_append`: what a buffer holds at an offset, and how that is cut in
  two.
-/

namespace ByteBuffer

variable {α : Type*}

/-! ### Pieces of a buffer -/

/-- The piece of `width` elements at an offset, shorter where the buffer ends. -/
def slice (b : List α) (offset width : Nat) : List α := (b.drop offset).take width

/-- The buffer with a piece overwritten. -/
def write (b : List α) (offset : Nat) (piece : List α) : List α :=
  b.take offset ++ piece ++ b.drop (offset + piece.length)

theorem getElem?_slice (b : List α) (offset width i : Nat) :
    (slice b offset width)[i]? = if i < width then b[offset + i]? else none := by
  rw [slice, List.getElem?_take, List.getElem?_drop]

theorem length_slice (b : List α) (offset width : Nat) :
    (slice b offset width).length = min width (b.length - offset) := by
  rw [slice, List.length_take, List.length_drop]

theorem length_write {b piece : List α} {offset : Nat} (h : offset + piece.length ≤ b.length) :
    (write b offset piece).length = b.length := by
  rw [write, List.length_append, List.length_append, List.length_take, List.length_drop]
  omega

theorem getElem?_write {b piece : List α} {offset : Nat} (h : offset + piece.length ≤ b.length)
    (i : Nat) :
    (write b offset piece)[i]? =
      if offset ≤ i ∧ i < offset + piece.length then piece[i - offset]? else b[i]? := by
  have htake : (b.take offset).length = offset := by
    rw [List.length_take]
    omega
  rw [write, List.append_assoc]
  by_cases hbefore : i < offset
  · rw [List.getElem?_append_left (by omega), List.getElem?_take, if_pos hbefore,
      if_neg (by omega)]
  · rw [List.getElem?_append_right (by omega), htake]
    by_cases hin : i < offset + piece.length
    · rw [List.getElem?_append_left (by omega), if_pos ⟨by omega, hin⟩]
    · rw [List.getElem?_append_right (by omega), List.getElem?_drop, if_neg (by omega)]
      congr 1
      omega

/-- A write changes nothing beside it. -/
theorem slice_write_of_disjoint {b piece : List α} {o offset width : Nat}
    (h : o + piece.length ≤ b.length) (hdisjoint : offset + width ≤ o ∨ o + piece.length ≤ offset) :
    slice (write b o piece) offset width = slice b offset width := by
  apply List.ext_getElem?
  intro i
  rw [getElem?_slice, getElem?_slice]
  split
  · rw [getElem?_write h, if_neg (by omega)]
  · rfl

/-- A write at the start of a piece leaves the rest of the piece. -/
theorem slice_write_start {b piece : List α} {offset width : Nat}
    (h : offset + piece.length ≤ b.length) (hwidth : piece.length ≤ width) :
    slice (write b offset piece) offset width =
      piece ++ slice b (offset + piece.length) (width - piece.length) := by
  apply List.ext_getElem?
  intro i
  rw [getElem?_slice, getElem?_write h]
  by_cases hin : i < piece.length
  · rw [if_pos (by omega), if_pos (by omega), List.getElem?_append_left hin]
    congr 1
    omega
  · rw [List.getElem?_append_right (by omega), getElem?_slice]
    by_cases hend : i < width
    · rw [if_pos hend, if_neg (by omega), if_pos (by omega)]
      congr 1
      omega
    · rw [if_neg hend, if_neg (by omega)]

/-- A write is read back. -/
theorem slice_write_self {b piece : List α} {offset : Nat} (h : offset + piece.length ≤ b.length) :
    slice (write b offset piece) offset piece.length = piece := by
  rw [slice_write_start h (Nat.le_refl _), Nat.sub_self, slice, List.take_zero, List.append_nil]

theorem slice_replicate {offset width n : Nat} (h : offset + width ≤ n) (a : α) :
    slice (List.replicate n a) offset width = List.replicate width a := by
  rw [slice, List.drop_replicate, List.take_replicate, Nat.min_eq_left (by omega)]

/-! ### Records -/

/-- A slot of a record: where it starts, how much room it has, and what is written at its
start. -/
structure Slot (α : Type*) where
  offset : Nat
  width : Nat
  piece : List α

/-- Where a slot is. -/
def Slot.span (s : Slot α) : Nat × Nat := (s.offset, s.width)

/-- Two spans share no position. -/
def Apart (s t : Nat × Nat) : Prop := s.1 + s.2 ≤ t.1 ∨ t.1 + t.2 ≤ s.1

instance : DecidableRel Apart :=
  fun s t => inferInstanceAs (Decidable (s.1 + s.2 ≤ t.1 ∨ t.1 + t.2 ≤ s.1))

/-- The spans of a record of a fixed size: each is within the record, and no two overlap. -/
def Layout (size : Nat) (spans : List (Nat × Nat)) : Prop :=
  (∀ s ∈ spans, s.1 + s.2 ≤ size) ∧ spans.Pairwise Apart

instance (size : Nat) (spans : List (Nat × Nat)) : Decidable (Layout size spans) :=
  inferInstanceAs (Decidable ((∀ s ∈ spans, s.1 + s.2 ≤ size) ∧ spans.Pairwise Apart))

/-- The buffer after the slots are written, one after the other. -/
def fill (b : List α) (slots : List (Slot α)) : List α :=
  slots.foldl (fun b s => write b s.offset s.piece) b

/-- Every piece fits its slot, and every slot the buffer. -/
def Fit (length : Nat) (slots : List (Slot α)) : Prop :=
  ∀ s ∈ slots, s.piece.length ≤ s.width ∧ s.offset + s.width ≤ length

section Fill

variable {b : List α} {slots : List (Slot α)}

theorem fit_of_layout {size : Nat} (hlayout : Layout size (slots.map Slot.span))
    (hsize : size ≤ b.length) (hwidth : ∀ s ∈ slots, s.piece.length ≤ s.width) :
    Fit b.length slots := fun s hs =>
  ⟨hwidth s hs, Nat.le_trans (hlayout.1 s.span (List.mem_map_of_mem hs)) hsize⟩

theorem Fit.write_length {s : Slot α} (h : Fit b.length (s :: slots)) :
    (write b s.offset s.piece).length = b.length := by
  obtain ⟨hwidth, hend⟩ := h s List.mem_cons_self
  exact length_write (by omega)

theorem Fit.tail {s : Slot α} (h : Fit b.length (s :: slots)) :
    Fit (write b s.offset s.piece).length slots := by
  rw [h.write_length]
  exact fun t ht => h t (List.mem_cons_of_mem s ht)

theorem length_fill (h : Fit b.length slots) : (fill b slots).length = b.length := by
  induction slots generalizing b with
  | nil => rfl
  | cons s slots ih => rw [fill, List.foldl_cons, ← fill, ih h.tail, h.write_length]

/-- A piece of the buffer that is apart from the slots stays. -/
theorem slice_fill_of_apart (h : Fit b.length slots) {offset width : Nat}
    (hapart : ∀ s ∈ slots, Apart (offset, width) s.span) :
    slice (fill b slots) offset width = slice b offset width := by
  induction slots generalizing b with
  | nil => rfl
  | cons s slots ih =>
      obtain ⟨hwidth, hend⟩ := h s List.mem_cons_self
      have hs : offset + width ≤ s.offset ∨ s.offset + s.width ≤ offset :=
        hapart s List.mem_cons_self
      rw [fill, List.foldl_cons, ← fill,
        ih h.tail fun t ht => hapart t (List.mem_cons_of_mem s ht),
        slice_write_of_disjoint (by omega) (by omega)]

/-- **A slot is read back**, and behind its piece what was there before. -/
theorem slice_fill (h : Fit b.length slots) (hlayout : (slots.map Slot.span).Pairwise Apart)
    {s : Slot α} (hs : s ∈ slots) :
    slice (fill b slots) s.offset s.width =
      s.piece ++ slice b (s.offset + s.piece.length) (s.width - s.piece.length) := by
  induction slots generalizing b with
  | nil => cases hs
  | cons t slots ih =>
      rw [List.map_cons, List.pairwise_cons] at hlayout
      obtain ⟨hwidth, hend⟩ := h t List.mem_cons_self
      rw [fill, List.foldl_cons, ← fill]
      cases List.mem_cons.mp hs with
      | inl heq =>
          subst heq
          rw [slice_fill_of_apart h.tail fun t ht => hlayout.1 t.span (List.mem_map_of_mem ht),
            slice_write_start (by omega) hwidth]
      | inr hmem =>
          have hfits := (h s (List.mem_cons_of_mem t hmem)).1
          have hapart : t.offset + t.width ≤ s.offset ∨ s.offset + s.width ≤ t.offset :=
            hlayout.1 s.span (List.mem_map_of_mem hmem)
          rw [ih h.tail hlayout.2 hmem, slice_write_of_disjoint (by omega) (by omega)]

end Fill

/-! ### What a buffer holds at an offset -/

/-- The buffer holds a piece at an offset. -/
def HoldsAt (b : List α) (offset : Nat) (piece : List α) : Prop := piece <+: b.drop offset

section HoldsAt

variable {b first second piece : List α} {offset : Nat}

theorem holdsAt_append :
    HoldsAt b offset (first ++ second) ↔
      HoldsAt b offset first ∧ HoldsAt b (offset + first.length) second := by
  rw [HoldsAt, HoldsAt, HoldsAt, ← List.drop_drop]
  constructor
  · rintro ⟨rest, hrest⟩
    rw [← hrest, List.append_assoc, List.drop_left]
    exact ⟨List.prefix_append first _, List.prefix_append second rest⟩
  · rintro ⟨⟨rest, hfirst⟩, hsecond⟩
    rw [← hfirst, List.drop_left] at hsecond
    rw [← hfirst]
    exact (List.prefix_append_right_inj first).mpr hsecond

theorem holdsAt_length (front piece : List α) : HoldsAt (front ++ piece) front.length piece :=
  ⟨[], by rw [List.drop_left, List.append_nil]⟩

theorem HoldsAt.end_le (h : HoldsAt b offset piece) (hne : piece ≠ []) :
    offset + piece.length ≤ b.length := by
  have hle := List.IsPrefix.length_le h
  rw [List.length_drop] at hle
  have hpos := List.length_pos_iff.mpr hne
  omega

/-- A piece of a piece. -/
theorem slice_of_holdsAt (h : HoldsAt b offset piece) {o width : Nat}
    (hle : o + width ≤ piece.length) : slice b (offset + o) width = slice piece o width := by
  obtain ⟨rest, hrest⟩ := h
  rw [slice, ← List.drop_drop, ← hrest, List.drop_append_of_le_length (by omega),
    List.take_append_of_le_length (by rw [List.length_drop]; omega), slice]

theorem slice_of_holdsAt_self (h : HoldsAt b offset piece) :
    slice b offset piece.length = piece := by
  obtain ⟨rest, hrest⟩ := h
  rw [slice, ← hrest, List.take_left]

end HoldsAt

/-! ### Little-endian numbers -/

/-- The bytes of a number, the lowest first. -/
def bytesLE : (width value : Nat) → List UInt8
  | 0, _ => []
  | width + 1, value => UInt8.ofNat (value % 256) :: bytesLE width (value / 256)

/-- The number that bytes stand for, the lowest first. -/
def valueLE : List UInt8 → Nat
  | [] => 0
  | byte :: rest => byte.toNat + 256 * valueLE rest

@[simp] theorem length_bytesLE (width value : Nat) : (bytesLE width value).length = width := by
  induction width generalizing value with
  | zero => rfl
  | succ width ih => rw [bytesLE, List.length_cons, ih]

theorem valueLE_bytesLE {width value : Nat} (h : value < 256 ^ width) :
    valueLE (bytesLE width value) = value := by
  induction width generalizing value with
  | zero => rw [bytesLE, valueLE]; rw [Nat.pow_zero] at h; omega
  | succ width ih =>
      have hrest : value / 256 < 256 ^ width := by
        rw [Nat.div_lt_iff_lt_mul (by decide), ← Nat.pow_succ]
        exact h
      have hbyte : (UInt8.ofNat (value % 256)).toNat = value % 256 := by
        simp [UInt8.toNat_ofNat']
      rw [bytesLE, valueLE, ih hrest, hbyte]
      omega

/-- A number at an offset; there is none beyond the end of the buffer. -/
def readLE (b : List UInt8) (offset width : Nat) : Option Nat :=
  if offset + width ≤ b.length then some (valueLE (slice b offset width)) else none

/-- A number of a record: where it starts, how many bytes it takes, and what it is. -/
structure Field where
  offset : Nat
  width : Nat
  value : Nat

/-- The slot of a number. -/
def Field.toSlot (f : Field) : Slot UInt8 := ⟨f.offset, f.width, bytesLE f.width f.value⟩

/-- The buffer with numbers written to it; a number that is too large is refused. -/
def writeFields (b : List UInt8) (fields : List Field) : Option (List UInt8) :=
  if ∀ f ∈ fields, f.value < 256 ^ f.width then some (fill b (fields.map Field.toSlot)) else none

section Fields

variable {b b' : List UInt8} {fields : List Field} {size : Nat}

theorem writeFields_eq_some (h : writeFields b fields = some b') :
    (∀ f ∈ fields, f.value < 256 ^ f.width) ∧ b' = fill b (fields.map Field.toSlot) := by
  rw [writeFields] at h
  split at h
  · rename_i hvalues
    exact ⟨hvalues, (Option.some.inj h).symm⟩
  · cases h

theorem fit_toSlot (hlayout : Layout size ((fields.map Field.toSlot).map Slot.span))
    (hsize : size ≤ b.length) : Fit b.length (fields.map Field.toSlot) := by
  refine fit_of_layout hlayout hsize fun s hs => ?_
  obtain ⟨f, -, rfl⟩ := List.mem_map.mp hs
  exact Nat.le_of_eq (length_bytesLE f.width f.value)

theorem length_writeFields (h : writeFields b fields = some b')
    (hlayout : Layout size ((fields.map Field.toSlot).map Slot.span)) (hsize : size ≤ b.length) :
    b'.length = b.length := by
  rw [(writeFields_eq_some h).2, length_fill (fit_toSlot hlayout hsize)]

/-- **A number of a record is read back.** -/
theorem valueLE_writeFields (h : writeFields b fields = some b')
    (hlayout : Layout size ((fields.map Field.toSlot).map Slot.span)) (hsize : size ≤ b.length)
    {f : Field} (hf : f ∈ fields) : valueLE (slice b' f.offset f.width) = f.value := by
  obtain ⟨hvalues, rfl⟩ := writeFields_eq_some h
  have hread := slice_fill (fit_toSlot hlayout hsize) hlayout.2 (List.mem_map_of_mem hf)
  have hrest : slice b (f.offset + f.width) 0 = [] := by rw [slice, List.take_zero]
  rw [Field.toSlot, length_bytesLE, Nat.sub_self, hrest, List.append_nil] at hread
  rw [hread, valueLE_bytesLE (hvalues f hf)]

end Fields

/-! ### Records with a tail -/

/-- A record: numbers in a head of a fixed size, and a tail of bytes behind it. -/
def record (size : Nat) (fields : List Field) (tail : List UInt8) : Option (List UInt8) :=
  (writeFields (List.replicate (size + tail.length) 0) fields).map fun b => write b size tail

section Record

variable {b r tail : List UInt8} {size offset : Nat} {fields : List Field}

/-- The bytes of a record before its tail is written. -/
theorem length_recordHead {head : List UInt8}
    (hlayout : Layout size ((fields.map Field.toSlot).map Slot.span))
    (hhead : writeFields (List.replicate (size + tail.length) 0) fields = some head) :
    head.length = size + tail.length := by
  rw [length_writeFields hhead hlayout (by rw [List.length_replicate]; omega),
    List.length_replicate]

theorem length_record (h : record size fields tail = some r)
    (hlayout : Layout size ((fields.map Field.toSlot).map Slot.span)) :
    r.length = size + tail.length := by
  obtain ⟨head, hhead, rfl⟩ := Option.map_eq_some_iff.mp h
  have hlength := length_recordHead hlayout hhead
  rw [length_write (by omega), hlength]

/-- **A number of a record is read back** from a buffer that holds the record. -/
theorem readLE_record (h : record size fields tail = some r)
    (hlayout : Layout size ((fields.map Field.toSlot).map Slot.span)) (hat : HoldsAt b offset r)
    {f : Field} (hf : f ∈ fields) (hpos : 0 < f.width) :
    readLE b (offset + f.offset) f.width = some f.value := by
  have hlength := length_record h hlayout
  have hwithin : f.offset + f.width ≤ size :=
    hlayout.1 _ (List.mem_map_of_mem (List.mem_map_of_mem hf))
  obtain ⟨head, hhead, rfl⟩ := Option.map_eq_some_iff.mp h
  have hheadLength := length_recordHead hlayout hhead
  have hend := hat.end_le (List.ne_nil_of_length_pos (by omega))
  rw [readLE, if_pos (by omega), slice_of_holdsAt hat (by omega),
    slice_write_of_disjoint (by omega) (.inl hwithin),
    valueLE_writeFields hhead hlayout (by rw [List.length_replicate]; omega) hf]

/-- The tail of a record is read back, too. -/
theorem slice_record (h : record size fields tail = some r)
    (hlayout : Layout size ((fields.map Field.toSlot).map Slot.span)) (hat : HoldsAt b offset r) :
    slice b (offset + size) tail.length = tail := by
  have hlength := length_record h hlayout
  obtain ⟨head, hhead, rfl⟩ := Option.map_eq_some_iff.mp h
  have hheadLength := length_recordHead hlayout hhead
  rw [slice_of_holdsAt hat (by omega), slice_write_self (by omega)]

end Record

end ByteBuffer
