import Mathlib.Tactic.Common

/-!
# UTF-8 over Sixteen-Bit Strings

A string here is a list of UTF-16 code units in which surrogates need not be paired. Encoding it
writes the replacement character for every lone surrogate; decoding reads any bytes at all, and
puts the replacement character for each longest invalid piece, as the decoder of the Encoding
standard does: it keeps the number of continuation bytes that are due and the bounds of the
next one.

## Main results

* `decode_encode`: a well-formed string survives encoding and decoding.
* `wellFormed_append_cons`, `wellFormed_intercalate`: a string is well-formed when its parts
  around units that are no surrogates are.
* `zero_notMem_encode`: only a zero unit is encoded with a zero byte.
* `decodeScalars_take`: bytes that are cut are read as the code points before the cut, and a
  replacement character where the cut is inside of one.
-/

namespace Utf8

/-! ### Code units -/

/-- The first unit of a surrogate pair. -/
def isHigh (u : UInt16) : Bool := decide (0xD800 ≤ u.toNat ∧ u.toNat < 0xDC00)

/-- The second unit of a surrogate pair. -/
def isLow (u : UInt16) : Bool := decide (0xDC00 ≤ u.toNat ∧ u.toNat < 0xE000)

/-- The replacement character. -/
def replacement : Nat := 0xFFFD

/-- The code point of a unit that stands alone. -/
def single (u : UInt16) : Nat := if isHigh u || isLow u then replacement else u.toNat

/-- The code point of a surrogate pair. -/
def pair (u v : UInt16) : Nat := 0x10000 + (u.toNat - 0xD800) * 0x400 + (v.toNat - 0xDC00)

/-- The code points of a string, a lone surrogate counting as the replacement character. -/
def scalars : List UInt16 → List Nat
  | [] => []
  | [u] => [single u]
  | u :: v :: rest =>
      if isHigh u && isLow v then pair u v :: scalars rest else single u :: scalars (v :: rest)

/-- The code units of a code point. -/
def units (cp : Nat) : List UInt16 :=
  if cp < 0x10000 then [UInt16.ofNat cp]
  else
    [UInt16.ofNat (0xD800 + (cp - 0x10000) / 0x400),
      UInt16.ofNat (0xDC00 + (cp - 0x10000) % 0x400)]

/-- Every surrogate of the string is half of a pair. -/
def WellFormed : List UInt16 → Prop
  | [] => True
  | [u] => isHigh u = false ∧ isLow u = false
  | u :: v :: rest =>
      if isHigh u && isLow v then WellFormed rest
      else isHigh u = false ∧ isLow u = false ∧ WellFormed (v :: rest)

/-- The instance that decides `WellFormed`. -/
def decidableWellFormed : (s : List UInt16) → Decidable (WellFormed s)
  | [] => isTrue trivial
  | [u] => inferInstanceAs (Decidable (isHigh u = false ∧ isLow u = false))
  | u :: v :: rest =>
      haveI := decidableWellFormed rest
      haveI := decidableWellFormed (v :: rest)
      inferInstanceAs (Decidable
        (if isHigh u && isLow v then WellFormed rest
          else isHigh u = false ∧ isLow u = false ∧ WellFormed (v :: rest)))

instance : DecidablePred WellFormed := decidableWellFormed

/-! ### The code -/

/-- The bytes of a code point. -/
def encodeScalar (cp : Nat) : List UInt8 :=
  if cp < 0x80 then [UInt8.ofNat cp]
  else if cp < 0x800 then [UInt8.ofNat (0xC0 + cp / 64), UInt8.ofNat (0x80 + cp % 64)]
  else if cp < 0x10000 then
    [UInt8.ofNat (0xE0 + cp / 4096), UInt8.ofNat (0x80 + cp / 64 % 64),
      UInt8.ofNat (0x80 + cp % 64)]
  else
    [UInt8.ofNat (0xF0 + cp / 262144), UInt8.ofNat (0x80 + cp / 4096 % 64),
      UInt8.ofNat (0x80 + cp / 64 % 64), UInt8.ofNat (0x80 + cp % 64)]

/-- The bytes of a string. -/
def encode (s : List UInt16) : List UInt8 := (scalars s).flatMap encodeScalar

/-- The decoder between two bytes: how many continuation bytes are due, the bounds of the next
one, and the code point read so far. -/
structure State where
  needed : Nat
  lower : Nat
  upper : Nat
  codePoint : Nat

/-- The decoder between two code points. -/
def State.initial : State := ⟨0, 0x80, 0xBF, 0⟩

/-- The decoder at the first byte of a code point: what it puts out and how it goes on. -/
def lead (byte : Nat) : List Nat × State :=
  if byte < 0x80 then ([byte], .initial)
  else if 0xC2 ≤ byte ∧ byte ≤ 0xDF then ([], ⟨1, 0x80, 0xBF, byte % 32⟩)
  else if 0xE0 ≤ byte ∧ byte ≤ 0xEF then
    ([], ⟨2, if byte = 0xE0 then 0xA0 else 0x80, if byte = 0xED then 0x9F else 0xBF, byte % 16⟩)
  else if 0xF0 ≤ byte ∧ byte ≤ 0xF4 then
    ([], ⟨3, if byte = 0xF0 then 0x90 else 0x80, if byte = 0xF4 then 0x8F else 0xBF, byte % 8⟩)
  else ([replacement], .initial)

/-- The code points of a sequence of bytes, from a state of the decoder. -/
def decodeScalars : State → List UInt8 → List Nat
  | state, [] => if state.needed = 0 then [] else [replacement]
  | state, byte :: rest =>
      if state.needed = 0 then
        (lead byte.toNat).1 ++ decodeScalars (lead byte.toNat).2 rest
      else if state.lower ≤ byte.toNat ∧ byte.toNat ≤ state.upper then
        let codePoint := state.codePoint * 64 + byte.toNat % 64
        if state.needed = 1 then codePoint :: decodeScalars .initial rest
        else decodeScalars ⟨state.needed - 1, 0x80, 0xBF, codePoint⟩ rest
      else
        -- the byte is read again, as the first of a code point
        replacement :: (lead byte.toNat).1 ++ decodeScalars (lead byte.toNat).2 rest

/-- The string that a sequence of bytes is read as. -/
def decode (bytes : List UInt8) : List UInt16 := (decodeScalars .initial bytes).flatMap units

/-- Overlong forms, surrogates and cut sequences are replaced, a longest piece at a time. -/
example : decode [0x61, 0xC0, 0xAF, 0xED, 0xA0, 0xE2, 0x82] =
    [0x61, 0xFFFD, 0xFFFD, 0xFFFD, 0xFFFD, 0xFFFD] := by decide

example : decode [0xF0, 0x9F, 0x93, 0xA6] = [0xD83D, 0xDCE6] := by decide

/-! ### Reading code points back -/

/-- A code point that is no surrogate. -/
def IsScalar (cp : Nat) : Prop := cp < 0xD800 ∨ 0xE000 ≤ cp ∧ cp < 0x110000

theorem isHigh_iff {u : UInt16} : isHigh u = true ↔ 0xD800 ≤ u.toNat ∧ u.toNat < 0xDC00 :=
  decide_eq_true_iff

theorem isLow_iff {u : UInt16} : isLow u = true ↔ 0xDC00 ≤ u.toNat ∧ u.toNat < 0xE000 :=
  decide_eq_true_iff

theorem isScalar_single (u : UInt16) : IsScalar (single u) := by
  have hu : u.toNat < 65536 := u.toNat_lt
  rw [single]
  cases h : isHigh u || isLow u with
  | true =>
      rw [if_pos rfl]
      exact .inr ⟨by decide, by decide⟩
  | false =>
      rw [if_neg Bool.false_ne_true]
      have hneither := Bool.or_eq_false_iff.mp h
      rw [← Bool.not_eq_true, ← Bool.not_eq_true, isHigh_iff, isLow_iff] at hneither
      rw [IsScalar]
      omega

theorem pair_eq {u v : UInt16} (hu : isHigh u = true) (hv : isLow v = true) :
    ∃ a b, u.toNat = 0xD800 + a ∧ a < 0x400 ∧ v.toNat = 0xDC00 + b ∧ b < 0x400 ∧
      pair u v = 0x10000 + a * 0x400 + b := by
  have hhigh := isHigh_iff.mp hu
  have hlow := isLow_iff.mp hv
  exact ⟨u.toNat - 0xD800, v.toNat - 0xDC00, by omega, by omega, by omega, by omega, rfl⟩

theorem isScalar_pair {u v : UInt16} (hu : isHigh u = true) (hv : isLow v = true) :
    IsScalar (pair u v) := by
  obtain ⟨a, b, -, ha, -, hb, hpair⟩ := pair_eq hu hv
  rw [hpair, IsScalar]
  omega

theorem isScalar_of_mem_scalars {s : List UInt16} {cp : Nat} (h : cp ∈ scalars s) :
    IsScalar cp := by
  fun_induction scalars s with
  | case1 => cases h
  | case2 u =>
      obtain rfl := List.mem_singleton.mp h
      exact isScalar_single u
  | case3 u v rest hpair ih =>
      obtain ⟨hu, hv⟩ := Bool.and_eq_true_iff.mp hpair
      cases List.mem_cons.mp h with
      | inl h => exact h ▸ isScalar_pair hu hv
      | inr h => exact ih h
  | case4 u v rest hpair ih =>
      cases List.mem_cons.mp h with
      | inl h => exact h ▸ isScalar_single u
      | inr h => exact ih h

/-- One continuation byte, from a state where more than one is due. -/
theorem decodeScalars_continue {needed lower upper cp : Nat} {byte : UInt8} (rest : List UInt8)
    (hneeded : 2 ≤ needed) (hlower : lower ≤ byte.toNat) (hupper : byte.toNat ≤ upper) :
    decodeScalars ⟨needed, lower, upper, cp⟩ (byte :: rest) =
      decodeScalars ⟨needed - 1, 0x80, 0xBF, cp * 64 + byte.toNat % 64⟩ rest := by
  simp only [decodeScalars]
  rw [if_neg (by omega), if_pos ⟨hlower, hupper⟩, if_neg (by omega)]

/-- The last continuation byte. -/
theorem decodeScalars_last {lower upper cp : Nat} {byte : UInt8} (rest : List UInt8)
    (hlower : lower ≤ byte.toNat) (hupper : byte.toNat ≤ upper) :
    decodeScalars ⟨1, lower, upper, cp⟩ (byte :: rest) =
      (cp * 64 + byte.toNat % 64) :: decodeScalars .initial rest := by
  have hone : (State.mk 1 lower upper cp).needed ≠ 0 := Nat.one_ne_zero
  rw [decodeScalars, if_neg hone, if_pos ⟨hlower, hupper⟩]
  exact if_pos rfl

/-- The first byte of a code point. -/
theorem decodeScalars_lead (byte : UInt8) (rest : List UInt8) :
    decodeScalars .initial (byte :: rest) =
      (lead byte.toNat).1 ++ decodeScalars (lead byte.toNat).2 rest := rfl

/-- A code point is read back from its bytes. -/
theorem decodeScalars_encodeScalar {cp : Nat} (h : IsScalar cp) (rest : List UInt8) :
    decodeScalars .initial (encodeScalar cp ++ rest) = cp :: decodeScalars .initial rest := by
  have hbyte : ∀ n < 256, (UInt8.ofNat n).toNat = n := fun n hn => by
    simp [UInt8.toNat_ofNat', Nat.mod_eq_of_lt hn]
  simp only [IsScalar] at h
  simp only [encodeScalar]
  split
  · rw [List.singleton_append, decodeScalars_lead, hbyte cp (by omega), lead, if_pos (by omega)]
    rfl
  split
  · rw [List.cons_append, List.singleton_append, decodeScalars_lead, hbyte _ (by omega), lead,
      if_neg (by omega), if_pos (by omega), List.nil_append,
      decodeScalars_last _ (by rw [hbyte _ (by omega)]; omega) (by rw [hbyte _ (by omega)]; omega),
      hbyte _ (by omega)]
    congr 1
    omega
  split
  · have hlow : (if 0xE0 + cp / 4096 = 0xE0 then 0xA0 else 0x80) ≤ 0x80 + cp / 64 % 64 := by
      split <;> omega
    have hhigh : 0x80 + cp / 64 % 64 ≤ if 0xE0 + cp / 4096 = 0xED then 0x9F else 0xBF := by
      split <;> omega
    rw [List.cons_append, List.cons_append, List.singleton_append, decodeScalars_lead,
      hbyte _ (by omega), lead, if_neg (by omega), if_neg (by omega), if_pos (by omega),
      List.nil_append,
      decodeScalars_continue _ (Nat.le_refl 2) (by rw [hbyte _ (by omega)]; exact hlow)
        (by rw [hbyte _ (by omega)]; exact hhigh),
      decodeScalars_last _ (by rw [hbyte _ (by omega)]; omega) (by rw [hbyte _ (by omega)]; omega),
      hbyte _ (by omega), hbyte _ (by omega)]
    congr 1
    omega
  · have hlow : (if 0xF0 + cp / 262144 = 0xF0 then 0x90 else 0x80) ≤ 0x80 + cp / 4096 % 64 := by
      split <;> omega
    have hhigh : 0x80 + cp / 4096 % 64 ≤ if 0xF0 + cp / 262144 = 0xF4 then 0x8F else 0xBF := by
      split <;> omega
    rw [List.cons_append, List.cons_append, List.cons_append, List.singleton_append,
      decodeScalars_lead, hbyte _ (by omega), lead, if_neg (by omega), if_neg (by omega),
      if_neg (by omega), if_pos (by omega), List.nil_append,
      decodeScalars_continue _ (by omega) (by rw [hbyte _ (by omega)]; exact hlow)
        (by rw [hbyte _ (by omega)]; exact hhigh),
      decodeScalars_continue _ (Nat.le_refl 2) (by rw [hbyte _ (by omega)]; omega)
        (by rw [hbyte _ (by omega)]; omega),
      decodeScalars_last _ (by rw [hbyte _ (by omega)]; omega) (by rw [hbyte _ (by omega)]; omega),
      hbyte _ (by omega), hbyte _ (by omega), hbyte _ (by omega)]
    congr 1
    omega

/-- Code points are read back from their bytes. -/
theorem decodeScalars_flatMap {cps : List Nat} (h : ∀ cp ∈ cps, IsScalar cp) :
    decodeScalars .initial (cps.flatMap encodeScalar) = cps := by
  induction cps with
  | nil => rfl
  | cons cp cps ih =>
      rw [List.flatMap_cons, decodeScalars_encodeScalar (h cp List.mem_cons_self),
        ih fun cp' hcp' => h cp' (List.mem_cons_of_mem cp hcp')]

/-! ### Strings -/

theorem units_single {u : UInt16} (hhigh : isHigh u = false) (hlow : isLow u = false) :
    units (single u) = [u] := by
  have hu := u.toNat_lt
  rw [single, hhigh, hlow, Bool.or_false, if_neg Bool.false_ne_true, units, if_pos (by omega),
    UInt16.ofNat_toNat]

theorem units_pair {u v : UInt16} (hu : isHigh u = true) (hv : isLow v = true) :
    units (pair u v) = [u, v] := by
  obtain ⟨a, b, ha, -, hb, hbound, hpair⟩ := pair_eq hu hv
  have hfirst : 0xD800 + (pair u v - 0x10000) / 0x400 = u.toNat := by
    rw [hpair, ha]
    omega
  have hsecond : 0xDC00 + (pair u v - 0x10000) % 0x400 = v.toNat := by
    rw [hpair, hb]
    omega
  rw [units, if_neg (by rw [hpair]; omega), hfirst, hsecond, UInt16.ofNat_toNat,
    UInt16.ofNat_toNat]

theorem units_scalars {s : List UInt16} (h : WellFormed s) : (scalars s).flatMap units = s := by
  fun_induction scalars s with
  | case1 => rfl
  | case2 u =>
      rw [List.flatMap_singleton, units_single h.1 h.2]
  | case3 u v rest hpair ih =>
      rw [WellFormed, if_pos hpair] at h
      obtain ⟨hu, hv⟩ := Bool.and_eq_true_iff.mp hpair
      rw [List.flatMap_cons, units_pair hu hv, ih h]
      rfl
  | case4 u v rest hpair ih =>
      rw [WellFormed, if_neg hpair] at h
      rw [List.flatMap_cons, units_single h.1 h.2.1, ih h.2.2]
      rfl

/-- **A well-formed string survives encoding and decoding.** -/
theorem decode_encode {s : List UInt16} (h : WellFormed s) : decode (encode s) = s := by
  rw [decode, encode, decodeScalars_flatMap fun _ => isScalar_of_mem_scalars, units_scalars h]

/-- Bytes below 128 are the units they are written from. -/
theorem decode_ascii {s : List UInt16} (h : ∀ u ∈ s, u.toNat < 128) :
    decode (s.map UInt16.toUInt8) = s := by
  induction s with
  | nil => rfl
  | cons u s ih =>
      have hu := h u List.mem_cons_self
      have hbyte : u.toUInt8.toNat = u.toNat := by
        rw [UInt16.toNat_toUInt8]
        omega
      have hrest := ih fun v hv => h v (List.mem_cons_of_mem u hv)
      rw [decode] at hrest ⊢
      rw [List.map_cons, decodeScalars_lead, hbyte, lead, if_pos hu, List.singleton_append,
        List.flatMap_cons, hrest, units, if_pos (by omega), UInt16.ofNat_toNat,
        List.singleton_append]

/-! ### Well-formed parts -/

theorem wellFormed_cons {x : UInt16} (hhigh : isHigh x = false) (hlow : isLow x = false)
    {t : List UInt16} : WellFormed (x :: t) ↔ WellFormed t := by
  cases t with
  | nil => exact iff_of_true ⟨hhigh, hlow⟩ trivial
  | cons y t =>
      rw [WellFormed, hhigh, Bool.false_and, if_neg Bool.false_ne_true]
      exact ⟨fun h => h.2.2, fun h => ⟨rfl, hlow, h⟩⟩

/-- **A string can be cut at every unit that is no surrogate.** -/
theorem wellFormed_append_cons {x : UInt16} (hhigh : isHigh x = false) (hlow : isLow x = false)
    {s t : List UInt16} : WellFormed (s ++ x :: t) ↔ WellFormed s ∧ WellFormed t := by
  fun_induction WellFormed s with
  | case1 => rw [List.nil_append, wellFormed_cons hhigh hlow, true_and]
  | case2 u =>
      rw [List.singleton_append, WellFormed, hlow, Bool.and_false, if_neg Bool.false_ne_true,
        wellFormed_cons hhigh hlow, and_assoc]
  | case3 u v rest hpair ih => rw [List.cons_append, List.cons_append, WellFormed, if_pos hpair, ih]
  | case4 u v rest hpair ih =>
      rw [List.cons_append, List.cons_append, WellFormed, if_neg hpair, ← List.cons_append, ih,
        and_assoc, and_assoc]

/-- Exchanging units that are no surrogates changes nothing. -/
theorem wellFormed_map {f : UInt16 → UInt16}
    (hf : ∀ u, isHigh (f u) = isHigh u ∧ isLow (f u) = isLow u) {s : List UInt16} :
    WellFormed (s.map f) ↔ WellFormed s := by
  fun_induction WellFormed s with
  | case1 => exact Iff.rfl
  | case2 u => rw [List.map_singleton, WellFormed, (hf u).1, (hf u).2]
  | case3 u v rest hpair ih =>
      rw [List.map_cons, List.map_cons, WellFormed, (hf u).1, (hf v).2, if_pos hpair, ih]
  | case4 u v rest hpair ih =>
      rw [List.map_cons, List.map_cons, WellFormed, (hf u).1, (hf v).2, if_neg hpair, (hf u).2,
        ← List.map_cons, ih]

/-- Joined pieces are well-formed exactly when each of them is. -/
theorem wellFormed_intercalate {x : UInt16} (hhigh : isHigh x = false) (hlow : isLow x = false)
    {pieces : List (List UInt16)} :
    WellFormed ([x].intercalate pieces) ↔ ∀ piece ∈ pieces, WellFormed piece := by
  induction pieces with
  | nil => exact iff_of_true trivial fun piece hpiece => absurd hpiece List.not_mem_nil
  | cons piece pieces ih =>
      cases pieces with
      | nil => rw [List.intercalate_singleton, List.forall_mem_singleton]
      | cons second rest =>
          rw [List.intercalate_cons_cons, List.append_assoc, List.singleton_append,
            wellFormed_append_cons hhigh hlow, ih]
          exact List.forall_mem_cons.symm

/-! ### Zero bytes -/

theorem zero_notMem_encodeScalar {cp : Nat} (h : IsScalar cp) (hne : cp ≠ 0) :
    (0 : UInt8) ∉ encodeScalar cp := by
  have hbyte : ∀ n < 256, 0 < n → (0 : UInt8) ≠ UInt8.ofNat n := fun n hn hpos heq => by
    have := congrArg UInt8.toNat heq
    simp only [UInt8.toNat_ofNat', Nat.mod_eq_of_lt hn] at this
    exact absurd this (Nat.ne_of_lt hpos)
  simp only [IsScalar] at h
  simp only [encodeScalar]
  split
  · simp only [List.mem_singleton]
    exact hbyte cp (by omega) (by omega)
  split
  · simp only [List.mem_cons, List.not_mem_nil, or_false, not_or]
    exact ⟨hbyte _ (by omega) (by omega), hbyte _ (by omega) (by omega)⟩
  split
  · simp only [List.mem_cons, List.not_mem_nil, or_false, not_or]
    exact ⟨hbyte _ (by omega) (by omega), hbyte _ (by omega) (by omega),
      hbyte _ (by omega) (by omega)⟩
  · simp only [List.mem_cons, List.not_mem_nil, or_false, not_or]
    exact ⟨hbyte _ (by omega) (by omega), hbyte _ (by omega) (by omega),
      hbyte _ (by omega) (by omega), hbyte _ (by omega) (by omega)⟩

theorem zero_mem_of_mem_scalars {s : List UInt16} (h : 0 ∈ scalars s) : (0 : UInt16) ∈ s := by
  have hsingle : ∀ u : UInt16, 0 = single u → u = 0 := by
    intro u hu
    rw [single] at hu
    split at hu
    · cases hu
    · exact UInt16.toNat_inj.mp hu.symm
  fun_induction scalars s with
  | case1 => cases h
  | case2 u => exact List.mem_singleton.mpr (hsingle u (List.mem_singleton.mp h)).symm
  | case3 u v rest hpair ih =>
      cases List.mem_cons.mp h with
      | inl h =>
          obtain ⟨hu, hv⟩ := Bool.and_eq_true_iff.mp hpair
          obtain ⟨a, b, -, -, -, -, heq⟩ := pair_eq hu hv
          rw [heq] at h
          omega
      | inr h => exact List.mem_cons_of_mem u (List.mem_cons_of_mem v (ih h))
  | case4 u v rest hpair ih =>
      cases List.mem_cons.mp h with
      | inl h => exact hsingle u h ▸ List.mem_cons_self
      | inr h => exact List.mem_cons_of_mem u (ih h)

/-- The bytes of a string without a zero unit have no zero byte. -/
theorem zero_notMem_encode {s : List UInt16} (h : (0 : UInt16) ∉ s) : (0 : UInt8) ∉ encode s := by
  rw [encode, List.mem_flatMap]
  rintro ⟨cp, hcp, hzero⟩
  refine zero_notMem_encodeScalar (isScalar_of_mem_scalars hcp) ?_ hzero
  rintro rfl
  exact h (zero_mem_of_mem_scalars hcp)

/-! ### Cut bytes -/

theorem length_encodeScalar_pos (cp : Nat) : 0 < (encodeScalar cp).length := by
  simp only [encodeScalar]
  split
  · exact Nat.one_pos
  split
  · exact Nat.two_pos
  split
  · exact Nat.succ_pos _
  · exact Nat.succ_pos _

/-- A code point whose last bytes are missing is read as a replacement character. -/
theorem decodeScalars_encodeScalar_take {cp n : Nat} (h : IsScalar cp) (hpos : 0 < n)
    (hn : n < (encodeScalar cp).length) :
    decodeScalars .initial ((encodeScalar cp).take n) = [replacement] := by
  have hbyte : ∀ n < 256, (UInt8.ofNat n).toNat = n := fun n hn => by
    simp [UInt8.toNat_ofNat', Nat.mod_eq_of_lt hn]
  simp only [IsScalar] at h
  simp only [encodeScalar] at hn ⊢
  split at hn
  · exact absurd hn (Nat.not_lt.mpr hpos)
  rename_i hone
  rw [if_neg hone]
  split at hn
  · rename_i htwo
    obtain rfl : n = 1 := Nat.le_antisymm (Nat.le_of_lt_succ hn) hpos
    rw [if_pos htwo, List.take_succ_cons, List.take_zero, decodeScalars_lead, hbyte _ (by omega),
      lead, if_neg (by omega), if_pos (by omega)]
    rfl
  rename_i htwo
  rw [if_neg htwo]
  split at hn
  · rename_i hthree
    have hlow : (if 0xE0 + cp / 4096 = 0xE0 then 0xA0 else 0x80) ≤ 0x80 + cp / 64 % 64 := by
      split <;> omega
    have hhigh : 0x80 + cp / 64 % 64 ≤ if 0xE0 + cp / 4096 = 0xED then 0x9F else 0xBF := by
      split <;> omega
    have hlead : lead (UInt8.ofNat (0xE0 + cp / 4096)).toNat =
        ([], ⟨2, if 0xE0 + cp / 4096 = 0xE0 then 0xA0 else 0x80,
          if 0xE0 + cp / 4096 = 0xED then 0x9F else 0xBF, (0xE0 + cp / 4096) % 16⟩) := by
      rw [hbyte _ (by omega), lead, if_neg (by omega), if_neg (by omega), if_pos (by omega)]
    rw [if_pos hthree]
    have hcases : n = 1 ∨ n = 2 := by
      simp only [List.length_cons, List.length_nil] at hn
      omega
    cases hcases with
    | inl hn =>
        rw [hn, List.take_succ_cons, List.take_zero, decodeScalars_lead, hlead]
        rfl
    | inr hn =>
        rw [hn, List.take_succ_cons, List.take_succ_cons, List.take_zero, decodeScalars_lead, hlead,
          List.nil_append, decodeScalars_continue _ (Nat.le_refl 2)
            (by rw [hbyte _ (by omega)]; exact hlow) (by rw [hbyte _ (by omega)]; exact hhigh)]
        rfl
  · rename_i hthree
    have hlow : (if 0xF0 + cp / 262144 = 0xF0 then 0x90 else 0x80) ≤ 0x80 + cp / 4096 % 64 := by
      split <;> omega
    have hhigh : 0x80 + cp / 4096 % 64 ≤ if 0xF0 + cp / 262144 = 0xF4 then 0x8F else 0xBF := by
      split <;> omega
    have hlead : lead (UInt8.ofNat (0xF0 + cp / 262144)).toNat =
        ([], ⟨3, if 0xF0 + cp / 262144 = 0xF0 then 0x90 else 0x80,
          if 0xF0 + cp / 262144 = 0xF4 then 0x8F else 0xBF, (0xF0 + cp / 262144) % 8⟩) := by
      rw [hbyte _ (by omega), lead, if_neg (by omega), if_neg (by omega), if_neg (by omega),
        if_pos (by omega)]
    rw [if_neg hthree]
    have hcases : n = 1 ∨ n = 2 ∨ n = 3 := by
      simp only [List.length_cons, List.length_nil] at hn
      omega
    rcases hcases with hn | hn | hn
    · rw [hn, List.take_succ_cons, List.take_zero, decodeScalars_lead, hlead]
      rfl
    · rw [hn, List.take_succ_cons, List.take_succ_cons, List.take_zero, decodeScalars_lead, hlead,
        List.nil_append, decodeScalars_continue _ (by omega)
          (by rw [hbyte _ (by omega)]; exact hlow) (by rw [hbyte _ (by omega)]; exact hhigh)]
      rfl
    · rw [hn, List.take_succ_cons, List.take_succ_cons, List.take_succ_cons, List.take_zero,
        decodeScalars_lead, hlead, List.nil_append, decodeScalars_continue _ (by omega)
          (by rw [hbyte _ (by omega)]; exact hlow) (by rw [hbyte _ (by omega)]; exact hhigh),
        decodeScalars_continue _ (Nat.le_refl 2) (by rw [hbyte _ (by omega)]; omega)
          (by rw [hbyte _ (by omega)]; omega)]
      rfl

/-- **Bytes that are cut** are read as the code points that are there in full, and a replacement
character where the cut is inside of one. -/
theorem decodeScalars_take {cps : List Nat} (h : ∀ cp ∈ cps, IsScalar cp) (n : Nat) :
    ∃ k later, decodeScalars .initial ((cps.flatMap encodeScalar).take n) = cps.take k ++ later ∧
      (later = [] ∨ later = [replacement]) ∧
      (n < (cps.flatMap encodeScalar).length → k < cps.length) := by
  induction cps generalizing n with
  | nil =>
      refine ⟨0, [], by rw [List.flatMap_nil, List.take_nil]; rfl, .inl rfl, fun hn => ?_⟩
      exact absurd hn (Nat.not_lt_zero n)
  | cons cp cps ih =>
      obtain ⟨hcp, hcps⟩ := List.forall_mem_cons.mp h
      by_cases hinside : n < (encodeScalar cp).length
      · have htake : ((cp :: cps).flatMap encodeScalar).take n = (encodeScalar cp).take n := by
          rw [List.flatMap_cons, List.take_append_of_le_length (Nat.le_of_lt hinside)]
        rw [htake]
        by_cases hpos : 0 < n
        · exact ⟨0, [replacement], decodeScalars_encodeScalar_take hcp hpos hinside, .inr rfl,
            fun _ => Nat.succ_pos _⟩
        · obtain rfl : n = 0 := Nat.eq_zero_of_not_pos hpos
          exact ⟨0, [], rfl, .inl rfl, fun _ => Nat.succ_pos _⟩
      · obtain ⟨k, later, hread, hlater, hlength⟩ := ih hcps (n - (encodeScalar cp).length)
        have htake : ((cp :: cps).flatMap encodeScalar).take n = encodeScalar cp ++
            (cps.flatMap encodeScalar).take (n - (encodeScalar cp).length) := by
          rw [List.flatMap_cons, List.take_append,
            List.take_of_length_le (Nat.le_of_not_lt hinside)]
        refine ⟨k + 1, later, ?_, hlater, fun hn => ?_⟩
        · rw [htake, decodeScalars_encodeScalar hcp, hread, List.take_succ_cons, List.cons_append]
        · rw [List.flatMap_cons, List.length_append] at hn
          rw [List.length_cons]
          exact Nat.succ_lt_succ (hlength (by omega))

end Utf8
