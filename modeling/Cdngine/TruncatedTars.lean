import Cdngine.SplitArtifacts

/-!
# Truncated Tar Archives

What the split-history adapters make of a tar archive that is cut off. A header is read back
whatever its entry holds, unless a number of it reads as negative or its path is refused; the loop
of the reader stops at the end of the bytes as it stops at a zero block, so that a cut between two
entries gives the entries before it.

## Main results

* `parseTarOctal_writeTarOctal`: which numbers are read back at all.
* `unpackTarFrom_take`: what is unpacked of an archive that ends at a block.
* `truncated_archive_iff`: which cuts are noticed, or lose nothing.
-/

open ByteBuffer

namespace Cdngine

/-! ### Any number in octal -/

/-- A number whose digits fill its field but for the minus sign before them; the sign is cut off
from longer ones, and stands behind zeros in shorter ones. -/
def ReadNegative (width : Nat) : Option Int → Prop
  | some value => value < 0 ∧ 8 ^ (width - 3) ≤ value.natAbs ∧ value.natAbs < 8 ^ (width - 2)
  | none => False

/-- The text that `writeTarOctal` writes. -/
def fieldText (width : Nat) (value : Option Int) : JsString :=
  lastUnits (padWithZeros (toOctalString value) (width - 1)) (width - 1)

/-- A unit of the text of a number: a digit, a minus sign, or a letter of `NaN`. -/
def isFieldUnit (u : UInt16) : Bool := isOctalDigit u || u = 45 || u = 78 || u = 97

theorem isFieldUnit_of_digit {u : UInt16} (h : isOctalDigit u = true) : isFieldUnit u = true := by
  rw [isFieldUnit, h]
  rfl

theorem isFieldUnit_toOctalString {value : Option Int} :
    ∀ u ∈ toOctalString value, isFieldUnit u = true := by
  cases value with
  | none =>
      have hall : (toOctalString none).all isFieldUnit = true := by decide
      exact List.all_eq_true.mp hall
  | some value =>
      intro u hu
      cases List.mem_append.mp hu with
      | inl hsign =>
          split at hsign
          · obtain rfl := List.mem_singleton.mp hsign
            rfl
          · cases hsign
      | inr hdigit => exact isFieldUnit_of_digit (isOctalDigit_of_mem hdigit)

theorem isFieldUnit_fieldText {width : Nat} {value : Option Int} :
    ∀ u ∈ fieldText width value, isFieldUnit u = true := by
  intro u hu
  cases List.mem_append.mp (List.mem_of_mem_drop hu) with
  | inl hzero => exact List.eq_of_mem_replicate hzero ▸ rfl
  | inr hmem => exact isFieldUnit_toOctalString u hmem

theorem length_fieldText (width : Nat) (value : Option Int) :
    (fieldText width value).length = width - 1 := by
  rw [fieldText, lastUnits, List.length_drop, length_padWithZeros]
  omega

/-- The units of a number are below 128, not zero and no white space. -/
theorem isFieldUnit_spec {u : UInt16} (h : isFieldUnit u = true) :
    0 < u.toNat ∧ u.toNat < 128 ∧ isStrWhiteSpace (Char.ofNat u.toNat) = false := by
  simp only [isFieldUnit, Bool.or_eq_true, decide_eq_true_eq] at h
  obtain ((hdigit | rfl) | rfl) | rfl := h
  · obtain ⟨hlow, hhigh⟩ := isOctalDigit_iff.mp hdigit
    exact ⟨by omega, by omega, isStrWhiteSpace_digit hdigit⟩
  · decide
  · decide
  · decide

/-- The text of a number is read back, and parsed. -/
theorem parseTarOctal_eq {buffer : List UInt8} {start width : Nat} {value : Option Int}
    (hwidth : 2 ≤ width)
    (h : slice buffer start width = (writeTarOctal start width value).piece) {n : Nat} :
    parseTarOctal buffer start width = .ok n ↔
      parseIntOctal (fieldText width value) = some (n : Int) := by
  have hunits := @isFieldUnit_fieldText width value
  have hlength := length_fieldText width value
  have hpiece : (writeTarOctal start width value).piece =
      asciiBytes (fieldText width value) ++ [0] := rfl
  generalize fieldText width value = text at hunits hlength hpiece
  have hne : text ≠ [] := by
    rw [← List.length_pos_iff]
    omega
  have hzero : (0 : UInt8) ∉ asciiBytes text := by
    intro hzero
    obtain ⟨u, hu, hbyte⟩ := List.mem_map.mp hzero
    obtain ⟨hpos, hlt, -⟩ := isFieldUnit_spec (hunits u hu)
    have hnat := congrArg UInt8.toNat hbyte
    rw [UInt16.toNat_toUInt8] at hnat
    change u.toNat % 2 ^ 8 = 0 at hnat
    omega
  have hread : readNullTerminated buffer start width = text := by
    rw [readNullTerminated, h, hpiece, takeWhile_zero hzero (by rintro b ⟨⟩; rfl), asciiBytes,
      Utf8.decode_ascii]
    exact fun u hu => (isFieldUnit_spec (hunits u hu)).2.1
  have htrim : trimUnits text = text := by
    refine Strip.strip_eq_self ⟨fun u hu => ?_, fun u hu => ?_⟩
    · exact (isFieldUnit_spec (hunits u (List.mem_of_mem_head? hu))).2.2
    · exact (isFieldUnit_spec (hunits u (List.mem_of_mem_getLast? hu))).2.2
  simp only [parseTarOctal]
  rw [hread, htrim, if_neg hne]
  cases parseIntOctal text with
  | none => exact ⟨fun h => (by cases h), fun h => (by cases h)⟩
  | some parsed =>
      simp only
      split
      · rename_i hneg
        exact ⟨fun h => (by cases h), fun h => absurd (Option.some.inj h) (by omega)⟩
      · rw [Except.ok.injEq, Option.some.injEq]
        omega

/-- A text that begins with a digit is a number that is not negative. -/
theorem parseIntOctal_of_head {text : JsString} (h : ∃ u rest, text = u :: rest ∧
    isOctalDigit u = true) : ∃ n : Nat, parseIntOctal text = some (n : Int) := by
  obtain ⟨u, rest, rfl, hdigit⟩ := h
  obtain ⟨hlow, -⟩ := isOctalDigit_iff.mp hdigit
  have hsign : u ≠ 45 ∧ u ≠ 43 := by
    refine ⟨?_, ?_⟩
    · rintro rfl
      exact absurd hlow (by decide)
    · rintro rfl
      exact absurd hlow (by decide)
  refine ⟨octalValue ((u :: rest).takeWhile isOctalDigit), ?_⟩
  simp only [parseIntOctal]
  rw [if_neg (not_or.mpr hsign), List.takeWhile_cons_of_pos hdigit, if_neg (List.cons_ne_nil _ _),
    if_neg hsign.1]

/-- Digits behind a minus sign are a number that is not positive. -/
theorem parseIntOctal_minus {digits : JsString} (hne : digits ≠ [])
    (h : ∀ u ∈ digits, isOctalDigit u = true) :
    parseIntOctal (45 :: digits) = some (-(octalValue digits : Int)) := by
  simp only [parseIntOctal, true_or, if_true]
  rw [List.takeWhile_eq_self_iff.mpr h, if_neg hne]

/-- How many digits a number has. -/
theorem length_octalDigits_eq_iff {n k : Nat} (hn : 0 < n) :
    (octalDigits n).length = k + 1 ↔ 8 ^ k ≤ n ∧ n < 8 ^ (k + 1) := by
  have hle := @Nat.digits_length_le_iff 8 (k + 1) (by decide) n
  have hlt := @Nat.lt_digits_length_iff 8 k (by decide) n
  rw [octalDigits, if_neg (by omega), List.length_map, List.length_reverse]
  omega

/-- A text that leaves room in its field has zeros before it. -/
theorem fieldText_of_short {width : Nat} {value : Option Int}
    (h : (toOctalString value).length < width - 1) :
    ∃ u rest, fieldText width value = u :: rest ∧ isOctalDigit u = true := by
  obtain ⟨zeros, hzeros⟩ := Nat.exists_eq_add_of_lt h
  have hpad : padWithZeros (toOctalString value) (width - 1) =
      48 :: (List.replicate zeros 48 ++ toOctalString value) := by
    rw [padWithZeros, hzeros, ← List.cons_append, ← List.replicate_succ]
    congr 2
    omega
  refine ⟨48, List.replicate zeros 48 ++ toOctalString value, ?_, rfl⟩
  rw [fieldText, lastUnits, length_padWithZeros, Nat.max_eq_left h.le, Nat.sub_self,
    List.drop_zero, hpad]

/-- A text that fills its field is cut to its last units. -/
theorem fieldText_of_long {width : Nat} {value : Option Int}
    (h : width - 1 ≤ (toOctalString value).length) :
    fieldText width value = lastUnits (toOctalString value) (width - 1) := by
  rw [fieldText, padWithZeros, Nat.sub_eq_zero_of_le h, List.replicate_zero, List.nil_append]

/-- The last units of digits begin with a digit. -/
theorem lastUnits_digits {width : Nat} (hwidth : 2 ≤ width) {digits : JsString}
    (h : ∀ u ∈ digits, isOctalDigit u = true) (hlength : width - 1 ≤ digits.length) :
    ∃ u rest, lastUnits digits (width - 1) = u :: rest ∧ isOctalDigit u = true := by
  have hne : lastUnits digits (width - 1) ≠ [] := by
    rw [← List.length_pos_iff, lastUnits, List.length_drop]
    omega
  obtain ⟨u, rest, hcons⟩ := List.exists_cons_of_ne_nil hne
  have hmem : u ∈ lastUnits digits (width - 1) := hcons ▸ List.mem_cons_self
  exact ⟨u, rest, hcons, h u (List.mem_of_mem_drop hmem)⟩

/-- The text of a number reads as a number that is not negative, unless the minus sign is its first
unit. -/
theorem parseIntOctal_fieldText {width : Nat} (hwidth : 5 ≤ width) (value : Option Int) :
    (∃ n : Nat, parseIntOctal (fieldText width value) = some (n : Int)) ↔
      ¬ReadNegative width value := by
  by_cases hshort : (toOctalString value).length < width - 1
  · refine iff_of_true (parseIntOctal_of_head (fieldText_of_short hshort)) ?_
    cases value with
    | none => exact not_false
    | some value =>
        rintro ⟨hneg, hle, hlt⟩
        have hdigits : (octalDigits value.natAbs).length = width - 3 + 1 :=
          (length_octalDigits_eq_iff (by omega)).mpr
            ⟨hle, by rwa [show width - 3 + 1 = width - 2 by omega]⟩
        rw [toOctalString, if_pos hneg, List.length_append, hdigits,
          List.length_singleton] at hshort
        omega
  rw [not_lt] at hshort
  rw [fieldText_of_long hshort]
  cases value with
  | none =>
      have hnan : (toOctalString none).length = 3 := by decide
      omega
  | some value =>
      have hdigits : ∀ u ∈ octalDigits value.natAbs, isOctalDigit u = true :=
        fun u hu => isOctalDigit_of_mem hu
      rw [toOctalString] at hshort ⊢
      by_cases hneg : value < 0
      · rw [if_pos hneg, List.singleton_append] at hshort ⊢
        rw [List.length_cons] at hshort
        by_cases hfull : (octalDigits value.natAbs).length = width - 3 + 1
        · -- the sign and the digits are as long as the field
          have hread : ReadNegative width (some value) := by
            obtain ⟨hle, hlt⟩ := (length_octalDigits_eq_iff (by omega)).mp hfull
            exact ⟨hneg, hle, by rwa [show width - 2 = width - 3 + 1 by omega]⟩
          have hne : octalDigits value.natAbs ≠ [] := by
            rw [← List.length_pos_iff]
            omega
          refine iff_of_false ?_ (not_not_intro hread)
          rintro ⟨n, hn⟩
          rw [lastUnits, List.length_cons, hfull, show width - 3 + 1 + 1 - (width - 1) = 0 by omega,
            List.drop_zero, parseIntOctal_minus hne hdigits, octalValue_octalDigits] at hn
          have hvalue := Option.some.inj hn
          omega
        · -- the sign is cut off
          have hlong : width - 1 ≤ (octalDigits value.natAbs).length := by omega
          have hcut : lastUnits (45 :: octalDigits value.natAbs) (width - 1) =
              lastUnits (octalDigits value.natAbs) (width - 1) := by
            rw [lastUnits, lastUnits, List.length_cons, Nat.sub_add_comm hlong, List.drop_succ_cons]
          rw [hcut]
          refine iff_of_true (parseIntOctal_of_head (lastUnits_digits (by omega) hdigits hlong)) ?_
          rintro ⟨-, hle, hlt⟩
          exact hfull ((length_octalDigits_eq_iff (by omega)).mpr
            ⟨hle, by rwa [show width - 3 + 1 = width - 2 by omega]⟩)
      · rw [if_neg hneg, List.nil_append] at hshort ⊢
        exact iff_of_true (parseIntOctal_of_head (lastUnits_digits (by omega) hdigits hshort))
          fun h => hneg h.1

/-- **Which numbers are read back at all**: all but those that read as negative. -/
theorem parseTarOctal_writeTarOctal {buffer : List UInt8} {start width : Nat} {value : Option Int}
    (hwidth : 5 ≤ width)
    (h : slice buffer start width = (writeTarOctal start width value).piece) :
    (∃ n, parseTarOctal buffer start width = .ok n) ↔ ¬ReadNegative width value :=
  (exists_congr fun _ => parseTarOctal_eq (by omega) h).trans (parseIntOctal_fieldText hwidth value)

/-! ### Any header -/

/-- What a header gives back for a text: what stands before the first zero byte, with `U+FFFD` for
every half of a surrogate pair. -/
def heldText (s : JsString) : JsString := Utf8.decode ((Utf8.encode s).takeWhile fun b => b ≠ 0)

/-- The path that is read from a header with a name and a prefix. -/
def heldPath (name pathPrefix : JsString) : Except SplitArtifactError JsString :=
  normalizeArchivePath
    (if heldText pathPrefix ≠ [] then heldText pathPrefix ++ [slash] ++ heldText name
    else heldText name)

theorem readNullTerminated_slot {buffer : List UInt8} {start length n : Nat} {s : JsString}
    (h : slice buffer start length = Utf8.encode s ++ List.replicate n 0) :
    readNullTerminated buffer start length = heldText s := by
  have hzeros : (List.replicate n (0 : UInt8)).takeWhile (fun b => b ≠ 0) = [] := by
    cases n with
    | zero => rfl
    | succ n => exact List.takeWhile_cons_of_neg (by decide)
  rw [readNullTerminated, h, heldText, List.takeWhile_append, hzeros, List.append_nil]
  split
  · rename_i hfull
    exact congrArg Utf8.decode (List.takeWhile_prefix _ |>.eq_of_length hfull).symm
  · rfl

section Header

variable {name pathPrefix : JsString} {entry : SplitArtifactEntry}

/-- A number of a header is read back, unless it reads as negative. -/
theorem exists_parseTarOctal (hname : (Utf8.encode name).length ≤ 100)
    (hpre : (Utf8.encode pathPrefix).length ≤ 155) {offset width : Nat} {value : Option Int}
    (hwidth : 5 ≤ width)
    (hs : writeTarOctal offset width value ∈ ustarSlots name pathPrefix entry)
    (hapart : Apart (offset, width) (148, 8)) :
    (∃ n, parseTarOctal (ustarHeader name pathPrefix entry) offset width = .ok n) ↔
      ¬ReadNegative width value :=
  parseTarOctal_writeTarOctal hwidth
    (slice_ustarHeader_full hname hpre hs hapart (length_writeTarOctal offset (by omega) _))

/-- **What the reader makes of any header** of an entry that is not too long. -/
theorem readTarHeader_eq_ok_iff (hname : (Utf8.encode name).length ≤ 100)
    (hpre : (Utf8.encode pathPrefix).length ≤ 155) (hsize : entry.data.length < 8 ^ 11)
    {h : TarHeader} :
    readTarHeader (ustarHeader name pathPrefix entry) = .ok h ↔
      parseTarOctal (ustarHeader name pathPrefix entry) 100 8 = .ok h.mode ∧
      h.size = entry.data.length ∧
      parseTarOctal (ustarHeader name pathPrefix entry) 136 12 = .ok h.mtimeSeconds ∧
      heldPath name pathPrefix = .ok h.logicalPath ∧ h.typeflag = codeUnits "0" := by
  have hreadName : readNullTerminated (ustarHeader name pathPrefix entry) 0 100 = heldText name :=
    readNullTerminated_slot (slice_ustarHeader hname hpre (s := ⟨0, 100, Utf8.encode name⟩)
      (by simp [ustarSlots]) (.inl (by decide : 0 + 100 ≤ 148)))
  have hreadPrefix : readNullTerminated (ustarHeader name pathPrefix entry) 345 155 =
      heldText pathPrefix :=
    readNullTerminated_slot (slice_ustarHeader hname hpre
      (s := ⟨345, 155, Utf8.encode pathPrefix⟩) (by simp [ustarSlots])
      (.inr (by decide : 148 + 8 ≤ 345)))
  have hlength : parseTarOctal (ustarHeader name pathPrefix entry) 124 12 =
      .ok entry.data.length :=
    parseTarOctal_ustarHeader hname hpre (by decide) hsize (by simp [ustarSlots]) (by decide)
  have hflag : slice (ustarHeader name pathPrefix entry) 156 1 = asciiBytes (codeUnits "0") :=
    slice_ustarHeader_full hname hpre (s := ⟨156, 1, asciiBytes (codeUnits "0")⟩)
      (by simp [ustarSlots]) (by decide) (by decide)
  rw [readTarHeader, hreadName, hreadPrefix, hlength, hflag]
  constructor
  · intro hread
    obtain ⟨mode, hmode, hread⟩ := bind_eq_ok.mp hread
    obtain ⟨size, hread', hread⟩ := bind_eq_ok.mp hread
    obtain rfl := Except.ok.inj hread'
    obtain ⟨mtimeSeconds, htime, hread⟩ := bind_eq_ok.mp hread
    obtain ⟨path, hpath, hread⟩ := bind_eq_ok.mp hread
    obtain rfl := Except.ok.inj hread
    exact ⟨hmode, rfl, htime, hpath, rfl⟩
  · rintro ⟨hmode, hsize, htime, hpath, htype⟩
    obtain ⟨path, mode, size, seconds, typeflag⟩ := h
    obtain rfl : size = entry.data.length := hsize
    obtain rfl : typeflag = codeUnits "0" := htype
    rw [heldPath] at hpath
    simp only [hmode, htime, hpath, bind, Except.bind]
    rfl

end Header

/-! ### An archive that is cut off -/

/-- The entry that is read back from the header that is written for an entry. -/
def heldEntry (entry : SplitArtifactEntry) : Except SplitArtifactError SplitArtifactEntry := do
  let header ← readTarHeader
    (ustarHeader (ustarName entry.logicalPath) (ustarPrefix entry.logicalPath) entry)
  .ok { data := entry.data
        logicalPath := header.logicalPath
        mode := some header.mode
        mtime := some (.valid (header.mtimeSeconds * 1000)) }

/-- How many bytes the headers and the blocks of entries take. -/
def tarLength (entries : List SplitArtifactEntry) : Nat :=
  (entries.map fun entry => 512 + padLength entry.data.length 512).sum

@[simp] theorem tarLength_nil : tarLength [] = 0 := rfl

@[simp] theorem tarLength_cons (entry : SplitArtifactEntry) (rest : List SplitArtifactEntry) :
    tarLength (entry :: rest) = 512 + padLength entry.data.length 512 + tarLength rest := rfl

/-- Whole entries before an end: the first ones, or all of them when the end comes later. -/
def EndsAfter (entries : List SplitArtifactEntry) (m k : Nat) : Prop :=
  k ≤ entries.length ∧
    (m = tarLength (entries.take k) ∨ k = entries.length ∧ tarLength entries ≤ m)

/-- An end inside the first entry, or before it. -/
theorem endsAfter_cons_of_lt {entry : SplitArtifactEntry} {rest : List SplitArtifactEntry}
    {m k : Nat} (hm : m < 512 + padLength entry.data.length 512) :
    EndsAfter (entry :: rest) m k ↔ k = 0 ∧ m = 0 := by
  constructor
  · rintro ⟨-, hend | ⟨-, hall⟩⟩
    · cases k with
      | zero => exact ⟨rfl, hend⟩
      | succ k =>
          rw [List.take_succ_cons, tarLength_cons] at hend
          omega
    · rw [tarLength_cons] at hall
      omega
  · rintro ⟨rfl, rfl⟩
    exact ⟨Nat.zero_le _, .inl rfl⟩

/-- An end behind the first entry. -/
theorem endsAfter_cons_add {entry : SplitArtifactEntry} {rest : List SplitArtifactEntry}
    {m k : Nat} :
    EndsAfter (entry :: rest) (512 + padLength entry.data.length 512 + m) k ↔
      ∃ j, k = j + 1 ∧ EndsAfter rest m j := by
  constructor
  · rintro ⟨hle, hend⟩
    cases k with
    | zero =>
        rw [List.take_zero, tarLength_nil, List.length_cons] at hend
        omega
    | succ j =>
        rw [List.take_succ_cons, tarLength_cons, tarLength_cons, List.length_cons] at hend
        rw [List.length_cons] at hle
        exact ⟨j, rfl, by omega, by omega⟩
  · rintro ⟨j, rfl, hle, hend⟩
    rw [EndsAfter, List.take_succ_cons, tarLength_cons, tarLength_cons, List.length_cons]
    omega

theorem unpackTarFrom_zeros (n : Nat) : unpackTarFrom (List.replicate n 0) = .ok [] := by
  rw [unpackTarFrom]
  split
  · rfl
  · rename_i hlength
    rw [List.length_replicate, not_lt] at hlength
    have hzero : isZeroBlock (slice (List.replicate n 0) 0 512) = true := by
      rw [slice_replicate (by omega), isZeroBlock, List.all_eq_true]
      exact fun b hb => decide_eq_true (List.eq_of_mem_replicate hb)
    rw [if_pos hzero]

/-- What an unpacked archive begins with, when it is no zero block. -/
theorem exists_header_of_unpack {header rest : List UInt8} {out : List SplitArtifactEntry}
    (hlength : header.length = 512) (hzero : isZeroBlock header = false)
    (h : unpackTarFrom (header ++ rest) = .ok out) :
    ∃ fields, readTarHeader header = .ok fields ∧ fields.size ≤ rest.length := by
  have hheader : slice (header ++ rest) 0 512 = header := by
    rw [slice, List.drop_zero, ← hlength, List.take_left]
  have htotal : (header ++ rest).length = 512 + rest.length := by
    rw [List.length_append, hlength]
  rw [unpackTarFrom, if_neg (by omega), hheader, hzero, if_neg Bool.false_ne_true] at h
  obtain ⟨fields, hread, h⟩ := bind_eq_ok.mp h
  refine ⟨fields, hread, ?_⟩
  split at h
  · cases h
  · omega

/-- A block is less than 512 bytes longer than what it holds. -/
theorem padLength_lt (length : Nat) : padLength length 512 < length + 512 := by
  rw [padLength]
  omega

/-- The header of an entry, with its own path cut in two. -/
abbrev entryHeader (entry : SplitArtifactEntry) : List UInt8 :=
  ustarHeader (ustarName entry.logicalPath) (ustarPrefix entry.logicalPath) entry

/-- The path and the data of an entry can be written. -/
structure Writable (entry : SplitArtifactEntry) : Prop where
  name : (Utf8.encode (ustarName entry.logicalPath)).length ≤ 100
  pathPrefix : (Utf8.encode (ustarPrefix entry.logicalPath)).length ≤ 155
  size : entry.data.length < 8 ^ 11

section Writable

variable {entry : SplitArtifactEntry}

theorem Writable.length_header (h : Writable entry) : (entryHeader entry).length = 512 :=
  length_ustarHeader h.name h.pathPrefix

theorem Writable.isZeroBlock_header (h : Writable entry) :
    isZeroBlock (entryHeader entry) = false :=
  isZeroBlock_ustarHeader h.name h.pathPrefix

theorem Writable.header_fields (h : Writable entry) {fields : TarHeader}
    (hread : readTarHeader (entryHeader entry) = .ok fields) :
    fields.size = entry.data.length ∧ fields.typeflag = codeUnits "0" := by
  rw [readTarHeader_eq_ok_iff h.name h.pathPrefix h.size] at hread
  exact ⟨hread.2.1, hread.2.2.2.2⟩

/-- An end inside the data of an entry is noticed. -/
theorem Writable.unpack_cut (h : Writable entry) {rest : List UInt8}
    (hrest : rest.length < entry.data.length) {out : List SplitArtifactEntry} :
    unpackTarFrom (entryHeader entry ++ rest) ≠ .ok out := by
  intro hunpack
  obtain ⟨fields, hread, hle⟩ :=
    exists_header_of_unpack h.length_header h.isZeroBlock_header hunpack
  rw [(h.header_fields hread).1] at hle
  omega

/-- The entry of the first blocks, and the entries behind it. -/
theorem Writable.unpack_block (h : Writable entry) {rest : List UInt8}
    {out : List SplitArtifactEntry} :
    unpackTarFrom (entryHeader entry ++ entry.data ++
        List.replicate (padLength entry.data.length 512 - entry.data.length) 0 ++ rest) = .ok out ↔
      ∃ o outs, heldEntry entry = .ok o ∧ unpackTarFrom rest = .ok outs ∧ out = o :: outs := by
  constructor
  · intro hunpack
    obtain ⟨fields, hread, -⟩ := exists_header_of_unpack h.length_header h.isZeroBlock_header
      (by simpa only [List.append_assoc] using hunpack)
    obtain ⟨hsize, hflag⟩ := h.header_fields hread
    rw [unpackTarFrom_cons h.length_header h.isZeroBlock_header hread hsize hflag] at hunpack
    cases hrest : unpackTarFrom rest with
    | error e =>
        rw [hrest] at hunpack
        cases hunpack
    | ok outs =>
        rw [hrest] at hunpack
        refine ⟨_, outs, ?_, rfl, (Except.ok.inj hunpack).symm⟩
        rw [heldEntry, hread]
        rfl
  · rintro ⟨o, outs, hentry, hrest, rfl⟩
    obtain ⟨fields, hread, hentry⟩ := bind_eq_ok.mp hentry
    obtain rfl := Except.ok.inj hentry
    obtain ⟨hsize, hflag⟩ := h.header_fields hread
    rw [unpackTarFrom_cons h.length_header h.isZeroBlock_header hread hsize hflag, hrest]
    rfl

/-- How many bytes an entry takes. -/
theorem Writable.length_blocks (h : Writable entry) :
    (entryHeader entry ++ entry.data ++
      List.replicate (padLength entry.data.length 512 - entry.data.length) 0).length =
        512 + padLength entry.data.length 512 := by
  have hpad := le_padLength entry.data.length
  rw [List.length_append, List.length_append, List.length_replicate, h.length_header]
  omega

end Writable

/-- **What is unpacked of an archive that ends at a block**: the entries before the end, when the
end is between two entries or behind them all. -/
theorem unpackTarFrom_take {skip : Bool} {entries : List SplitArtifactEntry} {tar : List UInt8}
    (hpack : packTar skip entries = .ok tar)
    (hwritten : ∀ entry ∈ entries, writtenPath skip entry.logicalPath = .ok entry.logicalPath)
    (hsizes : ∀ entry ∈ entries, entry.data.length < 8 ^ 11) {m : Nat} (hm : m % 512 = 0)
    {out : List SplitArtifactEntry} :
    unpackTarFrom (tar.take m) = .ok out ↔
      ∃ k, EndsAfter entries m k ∧
        List.Forall₂ (fun entry o => heldEntry entry = .ok o) (entries.take k) out := by
  induction entries generalizing tar m out with
  | nil =>
      obtain rfl := Except.ok.inj hpack
      rw [List.take_replicate, unpackTarFrom_zeros]
      constructor
      · intro h
        obtain rfl := Except.ok.inj h
        exact ⟨0, ⟨le_rfl, .inr ⟨rfl, Nat.zero_le m⟩⟩, .nil⟩
      · rintro ⟨k, -, hread⟩
        rw [List.take_nil] at hread
        cases hread
        rfl
  | cons entry rest ih =>
      obtain ⟨header, blocks, hheader, hblocks, rfl⟩ := packTar_cons_eq_ok hpack
      obtain ⟨path, hpath, hname, hpre, hheaderEq⟩ := exists_ustarHeader hheader
      rw [List.forall_mem_cons] at hwritten hsizes
      rw [hwritten.1] at hpath
      obtain rfl := Except.ok.inj hpath
      rw [hheaderEq]
      have hentry : Writable entry := ⟨hname, hpre, hsizes.1⟩
      by_cases hcut : m < 512 + padLength entry.data.length 512
      · simp only [endsAfter_cons_of_lt hcut]
        by_cases hstart : m = 0
        · subst hstart
          rw [List.take_zero, unpackTarFrom, if_pos (by decide)]
          constructor
          · intro h
            obtain rfl := Except.ok.inj h
            exact ⟨0, ⟨rfl, rfl⟩, .nil⟩
          · rintro ⟨k, ⟨rfl, -⟩, hread⟩
            cases hread
            rfl
        · -- the end is inside the data
          have hpadLt := padLength_lt entry.data.length
          have hblock : padLength entry.data.length 512 % 512 = 0 := Nat.mul_mod_left _ 512
          rw [List.append_assoc, List.append_assoc, List.take_append,
            List.take_of_length_le (by rw [hentry.length_header]; omega), hentry.length_header]
          refine iff_of_false (hentry.unpack_cut ?_) ?_
          · rw [List.length_take]
            omega
          · rintro ⟨k, ⟨-, hzero⟩, -⟩
            exact hstart hzero
      · obtain ⟨m', rfl⟩ := Nat.exists_eq_add_of_le (not_lt.mp hcut)
        have hblock : padLength entry.data.length 512 % 512 = 0 := Nat.mul_mod_left _ 512
        rw [← hentry.length_blocks, List.take_length_add_append, hentry.unpack_block,
          hentry.length_blocks]
        simp only [ih hblocks hwritten.2 hsizes.2 (show m' % 512 = 0 by omega), endsAfter_cons_add]
        constructor
        · rintro ⟨o, outs, hread, ⟨j, hends, hrest⟩, rfl⟩
          exact ⟨j + 1, ⟨j, rfl, hends⟩, .cons hread hrest⟩
        · rintro ⟨k, ⟨j, rfl, hends⟩, hread⟩
          rw [List.take_succ_cons] at hread
          cases hread with
          | cons hread hrest => exact ⟨_, _, hread, ⟨j, hends, hrest⟩, rfl⟩

/-! ### Entries that are written and read back -/

/-- The entry whose path is the written one. -/
def WrittenAs (skip : Bool) (entry written : SplitArtifactEntry) : Prop :=
  writtenPath skip entry.logicalPath = .ok written.logicalPath ∧
    written = { entry with logicalPath := written.logicalPath }

/-- A written path is written as it is. -/
theorem WrittenAs.writtenPath_eq {skip : Bool} {entry written : SplitArtifactEntry}
    (h : WrittenAs skip entry written) :
    writtenPath skip written.logicalPath = .ok written.logicalPath := by
  cases skip with
  | true => rfl
  | false => exact (normalizeArchivePath_safe h.1).normalizeArchivePath_eq

/-- The checks give the entries that are written, none of them too long. -/
theorem validateEach_writtenAs {limits : SplitArtifactLimits} {skip : Bool} {seen : List JsString}
    {total : Nat} {entries out : List SplitArtifactEntry}
    (h : validateEach limits skip seen total entries = .ok out) :
    List.Forall₂ (WrittenAs skip) entries out ∧
      ∀ entry ∈ entries, exceeds entry.data.length limits.maxEntryByteLength = false := by
  induction entries generalizing seen total out with
  | nil =>
      obtain rfl := Except.ok.inj h
      exact ⟨.nil, fun entry hentry => absurd hentry List.not_mem_nil⟩
  | cons entry rest ih =>
      have hstep : validateEach limits skip seen total (entry :: rest) =
          writtenPath skip entry.logicalPath >>= fun path =>
            if path ∈ seen then
              .error (.archiveSafety
                (codeUnits "Archive contains duplicate path " ++ inQuotes path ++ codeUnits "."))
            else if exceeds entry.data.length limits.maxEntryByteLength then
              .error (.archiveSafety (codeUnits "Archive entry " ++ inQuotes path ++
                codeUnits " exceeds per-entry byte limit."))
            else if exceeds (total + entry.data.length) limits.maxTotalUnpackedByteLength then
              .error (.archiveSafety (codeUnits "Archive exceeds total unpacked byte limit."))
            else (({ entry with logicalPath := path } : SplitArtifactEntry) :: ·) <$>
              validateEach limits skip (path :: seen) (total + entry.data.length) rest := by
        cases skip with
        | false => rfl
        | true => rfl
      rw [hstep] at h
      obtain ⟨path, hpath, h⟩ := bind_eq_ok.mp h
      split at h
      · cases h
      split at h
      · cases h
      rename_i hlength
      split at h
      · cases h
      cases hrest : validateEach limits skip (path :: seen) (total + entry.data.length) rest with
      | error e =>
          rw [hrest] at h
          cases h
      | ok outs =>
          rw [hrest] at h
          obtain rfl := Except.ok.inj h
          obtain ⟨hwritten, hlengths⟩ := ih hrest
          exact ⟨.cons ⟨hpath, rfl⟩ hwritten,
            List.forall_mem_cons.mpr ⟨Bool.not_eq_true _ ▸ hlength, hlengths⟩⟩

/-- Lists with safe paths pass the checks unchanged. -/
theorem validateEntries_eq_of_safe {rt : Runtime} {limits : SplitArtifactLimits}
    {entries out : List SplitArtifactEntry}
    (hsafe : ∀ entry ∈ entries, SafeArchivePath entry.logicalPath)
    (h : validateEntries rt entries limits false = .ok out) : out = entries := by
  rw [validateEntries] at h
  split at h
  · cases h
  obtain ⟨hwritten, -⟩ := validateEach_writtenAs h
  clear * - hwritten hsafe
  induction hwritten with
  | nil => rfl
  | @cons entry written rest out hentry hrest ih =>
      rw [List.forall_mem_cons] at hsafe
      obtain ⟨hpath, hentry⟩ := hentry
      rw [writtenPath, if_neg Bool.false_ne_true, hsafe.1.normalizeArchivePath_eq] at hpath
      rw [ih hsafe.2, hentry, ← Except.ok.inj hpath]

/-- Lists with safe paths pass the checks when they are valid, and unchanged. -/
theorem validateEntries_eq_ok_iff {rt : Runtime} {limits : SplitArtifactLimits}
    {entries out : List SplitArtifactEntry}
    (hsafe : ∀ entry ∈ entries, SafeArchivePath entry.logicalPath) (hne : entries ≠ []) :
    validateEntries rt entries limits false = .ok out ↔
      ValidEntries limits entries ∧ out = entries := by
  constructor
  · intro h
    have hsame := validateEntries_eq_of_safe hsafe h
    exact ⟨hsame ▸ (validateEntries_valid h (exceeds_zero_of_validate hne h)).1, hsame⟩
  · rintro ⟨hvalid, rfl⟩
    exact hvalid.validateEntries rt

/-- What is read back of an entry. -/
def ReadBack (skip : Bool) (entry out : SplitArtifactEntry) : Prop :=
  ∃ written, WrittenAs skip entry written ∧ heldEntry written = .ok out

theorem forall₂_readBack_iff {skip : Bool} {entries written out : List SplitArtifactEntry}
    (h : List.Forall₂ (WrittenAs skip) entries written) :
    List.Forall₂ (fun entry o => heldEntry entry = .ok o) written out ↔
      List.Forall₂ (ReadBack skip) entries out := by
  induction h generalizing out with
  | nil => rw [List.forall₂_nil_left_iff, List.forall₂_nil_left_iff]
  | @cons entry w rest ws hentry hrest ih =>
      rw [List.forall₂_cons_left_iff, List.forall₂_cons_left_iff]
      refine exists_congr fun o => exists_congr fun outs => ?_
      rw [ih]
      refine and_congr_left fun _ => ⟨fun hread => ⟨w, hentry, hread⟩, ?_⟩
      rintro ⟨w', ⟨hpath', hw'⟩, hread⟩
      obtain ⟨hpath, hw⟩ := hentry
      rw [hpath] at hpath'
      rw [hw, Except.ok.inj hpath', ← hw']
      exact hread

/-- What is read for the path of an entry, when its header is read back: neither its mode nor its
time reads as negative, and the path is accepted. -/
def HeldAs (skip : Bool) (entry : SplitArtifactEntry) (path : JsString) : Prop :=
  ¬ReadNegative 8 (some (entry.mode.getD 0o644)) ∧ ¬ReadNegative 12 (mtimeSeconds entry.mtime) ∧
    ∃ written, writtenPath skip entry.logicalPath = .ok written ∧
      heldPath (ustarName written) (ustarPrefix written) = .ok path

/-- The mode and the time of a header are read back, unless they read as negative. -/
theorem Writable.exists_numbers {entry : SplitArtifactEntry} (h : Writable entry) :
    ((∃ n, parseTarOctal (entryHeader entry) 100 8 = .ok n) ↔
      ¬ReadNegative 8 (some (entry.mode.getD 0o644))) ∧
    ((∃ n, parseTarOctal (entryHeader entry) 136 12 = .ok n) ↔
      ¬ReadNegative 12 (mtimeSeconds entry.mtime)) :=
  ⟨exists_parseTarOctal h.name h.pathPrefix (by decide) (by simp [ustarSlots]) (by decide),
    exists_parseTarOctal h.name h.pathPrefix (by decide) (by simp [ustarSlots]) (by decide)⟩

/-- The entry that is read back has the data and a safe path. -/
theorem heldEntry_eq_ok {entry out : SplitArtifactEntry} (h : Writable entry)
    (hheld : heldEntry entry = .ok out) :
    out.data = entry.data ∧ SafeArchivePath out.logicalPath ∧
      ¬ReadNegative 8 (some (entry.mode.getD 0o644)) ∧
      ¬ReadNegative 12 (mtimeSeconds entry.mtime) ∧
      heldPath (ustarName entry.logicalPath) (ustarPrefix entry.logicalPath) =
        .ok out.logicalPath := by
  obtain ⟨fields, hread, hheld⟩ := bind_eq_ok.mp hheld
  obtain rfl := Except.ok.inj hheld
  obtain ⟨hmode, -, htime, hpath, -⟩ :=
    (readTarHeader_eq_ok_iff h.name h.pathPrefix h.size).mp hread
  exact ⟨rfl, normalizeArchivePath_safe hpath, h.exists_numbers.1.mp ⟨_, hmode⟩,
    h.exists_numbers.2.mp ⟨_, htime⟩, hpath⟩

/-- An entry is read back when its numbers and its path are. -/
theorem exists_heldEntry {entry : SplitArtifactEntry} (h : Writable entry)
    (hmode : ¬ReadNegative 8 (some (entry.mode.getD 0o644)))
    (htime : ¬ReadNegative 12 (mtimeSeconds entry.mtime)) {path : JsString}
    (hpath : heldPath (ustarName entry.logicalPath) (ustarPrefix entry.logicalPath) = .ok path) :
    ∃ out, heldEntry entry = .ok out ∧ out.logicalPath = path := by
  obtain ⟨mode, hreadMode⟩ := h.exists_numbers.1.mpr hmode
  obtain ⟨seconds, hreadTime⟩ := h.exists_numbers.2.mpr htime
  have hread : readTarHeader (entryHeader entry) =
      .ok ⟨path, mode, entry.data.length, seconds, codeUnits "0"⟩ :=
    (readTarHeader_eq_ok_iff h.name h.pathPrefix h.size).mpr
      ⟨hreadMode, rfl, hreadTime, hpath, rfl⟩
  refine ⟨⟨entry.data, path, some mode, some (.valid (seconds * 1000))⟩, ?_, rfl⟩
  rw [heldEntry, hread]
  rfl

/-- Entries that are written and can be: their headers hold their paths and their lengths. -/
def WritableAs (skip : Bool) (entry : SplitArtifactEntry) : Prop :=
  ∃ written, WrittenAs skip entry written ∧ Writable written

section ReadBack

variable {skip : Bool} {entry out : SplitArtifactEntry}

theorem ReadBack.heldAs (hentry : WritableAs skip entry) (h : ReadBack skip entry out) :
    HeldAs skip entry out.logicalPath ∧ out.data = entry.data ∧
      SafeArchivePath out.logicalPath := by
  obtain ⟨written, ⟨hpath, hwritten⟩, hwritable⟩ := hentry
  obtain ⟨written', ⟨hpath', hwritten'⟩, hheld⟩ := h
  rw [hpath] at hpath'
  have hsame : written' = written := by
    rw [hwritten', ← Except.ok.inj hpath', ← hwritten]
  rw [hsame] at hheld
  obtain ⟨hdata, hsafe, hmode, htime, hheldPath⟩ := heldEntry_eq_ok hwritable hheld
  rw [hwritten] at hdata hmode htime
  exact ⟨⟨hmode, htime, written.logicalPath, hpath, hheldPath⟩, hdata, hsafe⟩

theorem HeldAs.exists_readBack (hentry : WritableAs skip entry) {path : JsString}
    (h : HeldAs skip entry path) : ∃ out, ReadBack skip entry out ∧ out.logicalPath = path := by
  obtain ⟨written, ⟨hpath, hwritten⟩, hwritable⟩ := hentry
  obtain ⟨hmode, htime, path', hpath', hheldPath⟩ := h
  rw [hpath] at hpath'
  obtain rfl := Except.ok.inj hpath'
  obtain ⟨out, hheld, hout⟩ := exists_heldEntry hwritable (by rw [hwritten]; exact hmode)
    (by rw [hwritten]; exact htime) hheldPath
  exact ⟨out, ⟨written, ⟨hpath, hwritten⟩, hheld⟩, hout⟩

end ReadBack

/-- Entries are as many and as long as limits allow. -/
structure WithinLimits (limits : SplitArtifactLimits) (entries : List SplitArtifactEntry) :
    Prop where
  count : exceeds entries.length limits.maxEntryCount = false
  byteLength : ∀ entry ∈ entries, exceeds entry.data.length limits.maxEntryByteLength = false
  total : exceeds (totalByteLength entries) limits.maxTotalUnpackedByteLength = false

/-- Entries that are read back and accepted: every header is read back, the paths that are read
differ, and the limits are kept. -/
def AcceptedBack (skip : Bool) (limits : SplitArtifactLimits)
    (entries : List SplitArtifactEntry) : Prop :=
  ∃ paths, List.Forall₂ (HeldAs skip) entries paths ∧ paths.Nodup ∧ WithinLimits limits entries

section AcceptedBack

variable {skip : Bool} {limits : SplitArtifactLimits} {entries out : List SplitArtifactEntry}

/-- Entries that are read back have the data and safe paths. -/
theorem forall₂_readBack_spec (hentries : ∀ entry ∈ entries, WritableAs skip entry)
    (h : List.Forall₂ (ReadBack skip) entries out) :
    List.Forall₂ (HeldAs skip) entries (out.map SplitArtifactEntry.logicalPath) ∧
      out.map SplitArtifactEntry.data = entries.map SplitArtifactEntry.data ∧
      ∀ entry ∈ out, SafeArchivePath entry.logicalPath := by
  induction h with
  | nil => exact ⟨.nil, rfl, fun entry hentry => absurd hentry List.not_mem_nil⟩
  | @cons entry o rest outs hentry hrest ih =>
      rw [List.forall_mem_cons] at hentries
      obtain ⟨hheld, hdata, hsafe⟩ := hentry.heldAs hentries.1
      obtain ⟨hheldRest, hdataRest, hsafeRest⟩ := ih hentries.2
      refine ⟨.cons hheld hheldRest, ?_, List.forall_mem_cons.mpr ⟨hsafe, hsafeRest⟩⟩
      rw [List.map_cons, List.map_cons, hdata, hdataRest]

theorem exists_forall₂_readBack (hentries : ∀ entry ∈ entries, WritableAs skip entry)
    {paths : List JsString} (h : List.Forall₂ (HeldAs skip) entries paths) :
    ∃ out, List.Forall₂ (ReadBack skip) entries out ∧
      out.map SplitArtifactEntry.logicalPath = paths := by
  induction h with
  | nil => exact ⟨[], .nil, rfl⟩
  | @cons entry path rest paths hentry hrest ih =>
      rw [List.forall_mem_cons] at hentries
      obtain ⟨o, hread, hpath⟩ := hentry.exists_readBack hentries.1
      obtain ⟨outs, hreads, hpaths⟩ := ih hentries.2
      exact ⟨o :: outs, .cons hread hreads, by rw [List.map_cons, hpath, hpaths]⟩

/-- Data decides what is within limits. -/
theorem withinLimits_congr
    (hdata : out.map SplitArtifactEntry.data = entries.map SplitArtifactEntry.data) :
    WithinLimits limits out ↔ WithinLimits limits entries := by
  have hlength := congrArg List.length hdata
  rw [List.length_map, List.length_map] at hlength
  have htotal : totalByteLength out = totalByteLength entries := by
    have hsum := congrArg (fun data : List (List UInt8) => (data.map List.length).sum) hdata
    simp only [List.map_map] at hsum
    exact hsum
  have hbytes : ∀ es : List SplitArtifactEntry,
      (∀ entry ∈ es, exceeds entry.data.length limits.maxEntryByteLength = false) ↔
        ∀ data ∈ es.map SplitArtifactEntry.data,
          exceeds data.length limits.maxEntryByteLength = false := by
    intro es
    rw [List.forall_mem_map]
  constructor
  · rintro ⟨hcount, hentries, hsum⟩
    exact ⟨hlength ▸ hcount, (hbytes _).mpr (hdata ▸ (hbytes _).mp hentries), htotal ▸ hsum⟩
  · rintro ⟨hcount, hentries, hsum⟩
    exact ⟨hlength ▸ hcount, (hbytes _).mpr (hdata ▸ (hbytes _).mp hentries), htotal ▸ hsum⟩

/-- **When entries that are read back are accepted.** -/
theorem acceptedBack_iff (hentries : ∀ entry ∈ entries, WritableAs skip entry) :
    AcceptedBack skip limits entries ↔
      ∃ out, List.Forall₂ (ReadBack skip) entries out ∧ ValidEntries limits out := by
  constructor
  · rintro ⟨paths, hheld, hnodup, hlimits⟩
    obtain ⟨out, hread, hpaths⟩ := exists_forall₂_readBack hentries hheld
    obtain ⟨-, hdata, hsafe⟩ := forall₂_readBack_spec hentries hread
    obtain ⟨hcount, hlength, htotal⟩ := (withinLimits_congr hdata).mpr hlimits
    exact ⟨out, hread, hsafe, hpaths.symm ▸ hnodup, hcount, hlength, htotal⟩
  · rintro ⟨out, hread, hvalid⟩
    obtain ⟨hheld, hdata, -⟩ := forall₂_readBack_spec hentries hread
    exact ⟨_, hheld, hvalid.distinct,
      (withinLimits_congr hdata).mp ⟨hvalid.count, hvalid.byteLength, hvalid.total⟩⟩

end AcceptedBack

/-! ### Which cuts are noticed -/

/-- What is split under the filename of a tar archive. -/
theorem splitArtifactArchive_tar_iff {rt : ArchiveRuntime} {archive : List UInt8}
    {filename : JsString} {limits : Option PartialSplitArtifactLimits}
    {result : SplitArtifactArchiveResult}
    (hfilename : endsWith (rt.toLowerCase filename) ".tar" = true) :
    splitArtifactArchive rt ⟨archive, filename, limits⟩ = .ok result ↔
      looksLikeTar archive = true ∧ ∃ unpacked entries, unpackTarFrom archive = .ok unpacked ∧
        validateEntries rt.toRuntime unpacked (resolveLimits limits) false = .ok entries ∧
        result = ⟨entries, .tar, archive.length⟩ := by
  rw [splitArtifactArchive,
    @detectSplitArtifactFormat_of_matches rt filename archive .tar hfilename, looksLike]
  cases looksLikeTar archive with
  | false => exact ⟨fun h => (by cases h), fun h => (by cases h.1)⟩
  | true =>
      simp only [if_true, true_and]
      constructor
      · intro h
        obtain ⟨entries, hunpack, h⟩ := bind_eq_ok.mp h
        obtain ⟨unpacked, hunpacked, hvalidate⟩ := bind_eq_ok.mp hunpack
        exact ⟨unpacked, entries, hunpacked, hvalidate, (Except.ok.inj h).symm⟩
      · rintro ⟨unpacked, entries, hunpacked, hvalidate, rfl⟩
        simp only [unpackDetected, unpackTar, hunpacked, bind, Except.bind, hvalidate]

/-- The beginning of an archive looks like one when it is whole blocks, and at least two. -/
theorem looksLikeTar_take_iff {skip : Bool} {entries : List SplitArtifactEntry} {tar : List UInt8}
    (hpack : packTar skip entries = .ok tar) {m : Nat} (hm : m ≤ tar.length) :
    looksLikeTar (tar.take m) = true ↔ 1024 ≤ m ∧ m % 512 = 0 := by
  rw [looksLikeTar, List.length_take, Nat.min_eq_left hm]
  split
  · exact iff_of_false Bool.false_ne_true (by omega)
  · rename_i hblocks
    rw [not_or, not_lt, not_not] at hblocks
    refine iff_of_true ?_ hblocks
    have hslice : ∀ offset width, offset + width ≤ m →
        slice (tar.take m) offset width = slice tar offset width := by
      intro offset width hle
      rw [slice, slice, List.drop_take, List.take_take, Nat.min_eq_left (by omega)]
    rw [hslice 257 6 (by omega), hslice 0 512 (by omega), Bool.or_eq_true]
    refine (packTar_front hpack).imp_left fun hfront => ?_
    rw [hfront]
    decide

theorem tarLength_congr {entries out : List SplitArtifactEntry}
    (hdata : out.map SplitArtifactEntry.data = entries.map SplitArtifactEntry.data) :
    tarLength out = tarLength entries := by
  have hsum := congrArg (fun data : List (List UInt8) =>
    (data.map fun bytes => 512 + padLength bytes.length 512).sum) hdata
  simp only [List.map_map] at hsum
  exact hsum

/-- Everything that is packed can be written. -/
theorem packTar_writable {skip : Bool} {entries : List SplitArtifactEntry} {tar : List UInt8}
    (hpack : packTar skip entries = .ok tar)
    (hwritten : ∀ entry ∈ entries, writtenPath skip entry.logicalPath = .ok entry.logicalPath)
    (hsizes : ∀ entry ∈ entries, entry.data.length < 8 ^ 11) :
    ∀ entry ∈ entries, Writable entry := by
  induction entries generalizing tar with
  | nil => exact fun entry hentry => absurd hentry List.not_mem_nil
  | cons entry rest ih =>
      obtain ⟨header, blocks, hheader, hblocks, -⟩ := packTar_cons_eq_ok hpack
      obtain ⟨path, hpath, hname, hpre, -⟩ := exists_ustarHeader hheader
      rw [List.forall_mem_cons] at hwritten hsizes ⊢
      rw [hwritten.1] at hpath
      obtain rfl := Except.ok.inj hpath
      exact ⟨⟨hname, hpre, hsizes.1⟩, ih hblocks hwritten.2 hsizes.2⟩

/-- What a tar archive is created of. -/
structure PackedTar (skip : Bool) (entries validated : List SplitArtifactEntry)
    (archive : List UInt8) : Prop where
  written : List.Forall₂ (WrittenAs skip) entries validated
  writable : ∀ entry ∈ validated, Writable entry
  pack : packTar skip validated = .ok archive

theorem exists_packedTar {rt : ArchiveRuntime} {skip : Bool} {entries : List SplitArtifactEntry}
    {archive : List UInt8}
    (h : createSplitArtifactArchive rt ⟨entries, .tar, skip⟩ = .ok archive) :
    ∃ written, PackedTar skip entries written archive := by
  obtain ⟨written, hvalidate, hpack⟩ := bind_eq_ok.mp h
  rw [validateEntries] at hvalidate
  split at hvalidate
  · cases hvalidate
  have hchecked : List.Forall₂ (WrittenAs skip) entries written ∧ ∀ entry ∈ entries,
      exceeds entry.data.length defaultLimits.maxEntryByteLength = false :=
    validateEach_writtenAs hvalidate
  obtain ⟨hwritten, hlengths⟩ := hchecked
  have hentries : ∀ w ∈ written, writtenPath skip w.logicalPath = .ok w.logicalPath ∧
      w.data.length < 8 ^ 11 := by
    clear * - hwritten hlengths
    induction hwritten with
    | nil => exact fun w hw => absurd hw List.not_mem_nil
    | @cons entry w rest ws hentry hrest ih =>
        rw [List.forall_mem_cons] at hlengths ⊢
        refine ⟨⟨hentry.writtenPath_eq, ?_⟩, ih hlengths.2⟩
        rw [hentry.2]
        exact length_lt_of_defaultLimits hlengths.1
  exact ⟨written, hwritten, packTar_writable hpack (fun w hw => (hentries w hw).1)
    fun w hw => (hentries w hw).2, hpack⟩

section PackedTar

variable {skip : Bool} {entries written : List SplitArtifactEntry} {archive : List UInt8}

theorem PackedTar.map_data (h : PackedTar skip entries written archive) (k : Nat) :
    (written.take k).map SplitArtifactEntry.data =
      (entries.take k).map SplitArtifactEntry.data := by
  have hall : written.map SplitArtifactEntry.data = entries.map SplitArtifactEntry.data := by
    obtain ⟨hwritten, -, -⟩ := h
    induction hwritten with
    | nil => rfl
    | cons hentry hrest ih =>
        rw [List.map_cons, List.map_cons, ih, hentry.2]
  rw [List.map_take, List.map_take, hall]

theorem PackedTar.writableAs (h : PackedTar skip entries written archive) :
    ∀ entry ∈ entries, WritableAs skip entry := by
  obtain ⟨hwritten, hwritable, -⟩ := h
  induction hwritten with
  | nil => exact fun entry hentry => absurd hentry List.not_mem_nil
  | @cons entry w rest ws hentry hrest ih =>
      rw [List.forall_mem_cons] at hwritable ⊢
      exact ⟨⟨w, hentry, hwritable.1⟩, ih hwritable.2⟩

theorem PackedTar.writtenPath_eq (h : PackedTar skip entries written archive) :
    ∀ w ∈ written, writtenPath skip w.logicalPath = .ok w.logicalPath := by
  obtain ⟨hwritten, -, -⟩ := h
  induction hwritten with
  | nil => exact fun w hw => absurd hw List.not_mem_nil
  | cons hentry hrest ih => exact List.forall_mem_cons.mpr ⟨hentry.writtenPath_eq, ih⟩

theorem PackedTar.endsAfter_iff (h : PackedTar skip entries written archive) {m k : Nat} :
    EndsAfter written m k ↔ EndsAfter entries m k := by
  have hlength := h.written.length_eq
  have hall := tarLength_congr (h.map_data written.length)
  rw [List.take_length, ← hlength, List.take_length] at hall
  rw [EndsAfter, EndsAfter, ← hlength, hall, tarLength_congr (h.map_data k)]

/-- What is unpacked of a created archive that ends at a block. -/
theorem PackedTar.unpack_take (h : PackedTar skip entries written archive) {m : Nat}
    (hm : m % 512 = 0) {out : List SplitArtifactEntry} :
    unpackTarFrom (archive.take m) = .ok out ↔
      ∃ k, EndsAfter entries m k ∧ List.Forall₂ (ReadBack skip) (entries.take k) out := by
  rw [unpackTarFrom_take h.pack h.writtenPath_eq (fun w hw => (h.writable w hw).size) hm]
  refine exists_congr fun k => ?_
  rw [h.endsAfter_iff, forall₂_readBack_iff (List.forall₂_take k h.written)]

end PackedTar

/-- An archive that is cut off between two entries, behind two blocks at least, where the entries
before the cut are read back and accepted. -/
def CutBetweenEntries (skip : Bool) (limits : SplitArtifactLimits)
    (entries : List SplitArtifactEntry) (m : Nat) : Prop :=
  1024 ≤ m ∧ ∃ k < entries.length, m = tarLength (entries.take k) ∧
    AcceptedBack skip limits (entries.take k)

/-- **A truncated archive is refused, or gives all the entries**, as the whole archive does, unless
it is cut off between two entries. -/
theorem truncated_archive_iff {rt : ArchiveRuntime} {skip : Bool}
    {entries : List SplitArtifactEntry} {archive : List UInt8} {filename : JsString}
    {limits : Option PartialSplitArtifactLimits} {m : Nat}
    (hfilename : endsWith (rt.toLowerCase filename) ".tar" = true)
    (hcreate : createSplitArtifactArchive rt ⟨entries, .tar, skip⟩ = .ok archive)
    (hm : m < archive.length) :
    (∀ result, splitArtifactArchive rt ⟨archive.take m, filename, limits⟩ = .ok result →
        result.entries.map SplitArtifactEntry.data = entries.map SplitArtifactEntry.data ∧
        splitArtifactArchive rt ⟨archive, filename, limits⟩ =
          .ok { result with originalLogicalByteLength := archive.length }) ↔
      ¬CutBetweenEntries skip (resolveLimits limits) entries m := by
  obtain ⟨written, hpacked⟩ := exists_packedTar hcreate
  have hwritable := hpacked.writableAs
  have hwritableTake : ∀ k, ∀ entry ∈ entries.take k, WritableAs skip entry :=
    fun k entry hentry => hwritable entry (List.mem_of_mem_take hentry)
  constructor
  · rintro hall ⟨hleast, k, hk, hmk, haccepted⟩
    obtain ⟨out, hread, hvalid⟩ := (acceptedBack_iff (hwritableTake k)).mp haccepted
    have hblocks : m % 512 = 0 := by
      rw [hmk]
      clear * -
      induction entries.take k with
      | nil => rfl
      | cons entry rest ih =>
          have hblock : padLength entry.data.length 512 % 512 = 0 := Nat.mul_mod_left _ 512
          rw [tarLength_cons]
          omega
    have hunpack : unpackTarFrom (archive.take m) = .ok out :=
      (hpacked.unpack_take hblocks).mpr ⟨k, ⟨hk.le, .inl hmk⟩, hread⟩
    have hlooks := (looksLikeTar_take_iff hpacked.pack hm.le).mpr ⟨hleast, hblocks⟩
    obtain ⟨hdata, -⟩ := hall _ ((splitArtifactArchive_tar_iff hfilename).mpr
      ⟨hlooks, out, out, hunpack, hvalid.validateEntries _, rfl⟩)
    have hlength := congrArg List.length hdata
    rw [List.length_map, List.length_map, ← hread.length_eq, List.length_take] at hlength
    omega
  · intro hcut result hsplit
    obtain ⟨hlooks, out, accepted, hunpack, hvalidate, rfl⟩ :=
      (splitArtifactArchive_tar_iff hfilename).mp hsplit
    obtain ⟨hleast, hblocks⟩ := (looksLikeTar_take_iff hpacked.pack hm.le).mp hlooks
    obtain ⟨k, hends, hread⟩ := (hpacked.unpack_take hblocks).mp hunpack
    obtain ⟨-, hdata, hsafe⟩ := forall₂_readBack_spec (hwritableTake k) hread
    by_cases hk : k = entries.length
    · subst hk
      obtain rfl := validateEntries_eq_of_safe hsafe hvalidate
      rw [List.take_length] at hdata hread
      refine ⟨hdata, (splitArtifactArchive_tar_iff hfilename).mpr
        ⟨looksLikeTar_packTar hpacked.pack, accepted, accepted, ?_, hvalidate, rfl⟩⟩
      have hlength : tarLength entries ≤ archive.length := by
        have := hends.2
        rw [List.take_length] at this
        omega
      have hwhole := (hpacked.unpack_take (length_packTar hpacked.pack).2).mpr
        ⟨entries.length, ⟨le_rfl, .inr ⟨rfl, hlength⟩⟩, by rw [List.take_length]; exact hread⟩
      rwa [List.take_length] at hwhole
    · -- the end is between two entries
      obtain ⟨hle, hmk⟩ := hends
      have hend : m = tarLength (entries.take k) := by omega
      have hne : out ≠ [] := by
        rintro rfl
        have hnone := hread.length_eq
        rw [List.eq_nil_of_length_eq_zero hnone, tarLength_nil] at hend
        omega
      obtain ⟨hvalid, -⟩ := (validateEntries_eq_ok_iff hsafe hne).mp hvalidate
      exact absurd ⟨hleast, k, by omega, hend,
        (acceptedBack_iff (hwritableTake k)).mpr ⟨out, hread, hvalid⟩⟩ hcut

/-- The sample entries, cut off inside the second one. -/
theorem sample_archive_cut :
    ∃ archive,
      createSplitArtifactArchive sampleArchiveRuntime ⟨sampleSplitEntries, .tar, false⟩ =
        .ok archive ∧
      1536 < archive.length ∧
      ((∀ result, splitArtifactArchive sampleArchiveRuntime
          ⟨archive.take 1536, codeUnits "sample.tar", none⟩ = .ok result →
        result.entries.map SplitArtifactEntry.data =
            sampleSplitEntries.map SplitArtifactEntry.data ∧
          splitArtifactArchive sampleArchiveRuntime ⟨archive, codeUnits "sample.tar", none⟩ =
            .ok { result with originalLogicalByteLength := archive.length }) ↔
        ¬CutBetweenEntries false defaultLimits sampleSplitEntries 1536) := by
  have hcreated : (createSplitArtifactArchive sampleArchiveRuntime
      ⟨sampleSplitEntries, .tar, false⟩).isOk = true := by
    decide +kernel
  obtain ⟨archive, harchive⟩ := exists_of_isOk hcreated
  have hlength : (createSplitArtifactArchive sampleArchiveRuntime
      ⟨sampleSplitEntries, .tar, false⟩).map List.length = .ok 3072 := by
    decide +kernel
  rw [harchive] at hlength
  have hcut : 1536 < archive.length := by
    rw [Except.ok.inj hlength]
    decide
  exact ⟨archive, harchive, hcut, truncated_archive_iff (by decide) harchive hcut⟩

/-- The sample entries, cut off behind the blocks of the first one: it is returned alone. -/
theorem first_entry_returned_alone :
    ∃ archive result,
      createSplitArtifactArchive sampleArchiveRuntime ⟨sampleSplitEntries, .tar, false⟩ =
        .ok archive ∧
      1024 < archive.length ∧
      splitArtifactArchive sampleArchiveRuntime
        ⟨archive.take 1024, codeUnits "sample.tar", none⟩ = .ok result ∧
      result.entries.map SplitArtifactEntry.data = [[0x61]] ∧
      sampleSplitEntries.map SplitArtifactEntry.data = [[0x61], [0x50, 0x4b, 0x05, 0x06]] := by
  have hcreated : (createSplitArtifactArchive sampleArchiveRuntime
      ⟨sampleSplitEntries, .tar, false⟩).isOk = true := by
    decide +kernel
  obtain ⟨archive, harchive⟩ := exists_of_isOk hcreated
  have hlength : (createSplitArtifactArchive sampleArchiveRuntime
      ⟨sampleSplitEntries, .tar, false⟩).map List.length = .ok 3072 := by
    decide +kernel
  rw [harchive] at hlength
  have hcut : 1024 < archive.length := by
    rw [Except.ok.inj hlength]
    decide
  obtain ⟨written, hpacked⟩ := exists_packedTar harchive
  have hheld : (heldEntry ⟨[0x61], codeUnits "Assets/a.txt", some 0o644,
      some (.valid 1777593600000)⟩) =
      .ok ⟨[0x61], codeUnits "Assets/a.txt", some 0o644, some (.valid 1777593600000)⟩ := by
    decide +kernel
  have hread : List.Forall₂ (ReadBack false) (sampleSplitEntries.take 1)
      [⟨[0x61], codeUnits "Assets/a.txt", some 0o644, some (.valid 1777593600000)⟩] :=
    .cons ⟨_, ⟨by decide +kernel, rfl⟩, hheld⟩ .nil
  have hunpack := (hpacked.unpack_take (by decide : 1024 % 512 = 0)).mpr
    ⟨1, ⟨by decide, .inl (by decide)⟩, hread⟩
  have hvalidate : validateEntries sampleRuntime
      [⟨[0x61], codeUnits "Assets/a.txt", some 0o644, some (.valid 1777593600000)⟩]
      (resolveLimits none) false =
        .ok [⟨[0x61], codeUnits "Assets/a.txt", some 0o644, some (.valid 1777593600000)⟩] := by
    decide +kernel
  exact ⟨archive, _, harchive, hcut, (splitArtifactArchive_tar_iff (by decide)).mpr
    ⟨(looksLikeTar_take_iff hpacked.pack hcut.le).mpr (by decide), _, _, hunpack, hvalidate, rfl⟩,
    rfl, rfl⟩

end Cdngine
