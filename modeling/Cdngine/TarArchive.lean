import Mathlib.Data.Nat.Digits.Lemmas
import Cdngine.ArchivePaths
import Cdngine.ByteBuffer

/-!
# Tar Archives

Writing and reading the ustar archives of the split-history adapters: a header of 512 bytes for
every entry, its data padded to whole blocks, and two zero blocks at the end. Numbers are octal
digits in fields of fixed width, ended by a zero byte; a path of more than 100 bytes is cut into a
prefix and a name, which the reader joins with a slash.

## Main results

* `parseTarOctal_slot`: a number that fits its field is read back.
* `readTarHeader_ustarHeader`: what the reader makes of a header that was written.
* `unpackTarFrom_packTar`: the entries of a packed archive.
-/

open ByteBuffer

namespace Cdngine

/-! ### Numbers in octal -/

/-- The octal digits of a number. -/
def octalDigits (n : Nat) : JsString :=
  if n = 0 then [48] else (Nat.digits 8 n).reverse.map fun d => UInt16.ofNat (48 + d)

/-- `value.toString(8)`; there is no value for `NaN`. -/
def toOctalString : Option Int → JsString
  | some value => (if value < 0 then [45] else []) ++ octalDigits value.natAbs
  | none => codeUnits "NaN"

/-- `.padStart(length, '0')`. -/
def padWithZeros (s : JsString) (length : Nat) : JsString :=
  List.replicate (length - s.length) 48 ++ s

/-- `.slice(-length)`. -/
def lastUnits (s : JsString) (length : Nat) : JsString := s.drop (s.length - length)

/-- The bytes that `buffer.write(s, ..., 'ascii')` writes. -/
def asciiBytes (s : JsString) : List UInt8 := s.map UInt16.toUInt8

/-- `buffer.toString('ascii')`. -/
def asciiText (bytes : List UInt8) : JsString := bytes.map fun b => UInt16.ofNat (b.toNat % 128)

/-- What `writeTarOctal` writes: digits that leave one byte of the field, and a zero byte. -/
def writeTarOctal (offset width : Nat) (value : Option Int) : Slot UInt8 where
  offset := offset
  width := width
  piece := asciiBytes
    (lastUnits (padWithZeros (toOctalString value) (width - 1)) (width - 1)) ++ [0]

/-- `readNullTerminated`. -/
def readNullTerminated (buffer : List UInt8) (start length : Nat) : JsString :=
  Utf8.decode ((slice buffer start length).takeWhile fun b => b ≠ 0)

/-- `.trim()`. -/
def trimUnits (s : JsString) : JsString :=
  Strip.strip (fun u => isStrWhiteSpace (Char.ofNat u.toNat)) s

/-- An octal digit. -/
def isOctalDigit (u : UInt16) : Bool := decide (48 ≤ u.toNat ∧ u.toNat < 56)

/-- The number that octal digits stand for. -/
def octalValue (digits : JsString) : Nat :=
  digits.foldl (fun value u => 8 * value + (u.toNat - 48)) 0

/-- `Number.parseInt(value, 8)` of a trimmed text: a sign, and the octal digits up to the first
other character; `none` is `NaN`. -/
def parseIntOctal : JsString → Option Int
  | [] => none
  | u :: rest =>
      let digits := (if u = 45 ∨ u = 43 then rest else u :: rest).takeWhile isOctalDigit
      if digits = [] then none
      else some (if u = 45 then -(octalValue digits : Int) else octalValue digits)

/-- `parseTarOctal`. -/
def parseTarOctal (buffer : List UInt8) (start length : Nat) : Except SplitArtifactError Nat :=
  let value := trimUnits (readNullTerminated buffer start length)
  let invalid : Except SplitArtifactError Nat :=
    .error (.archiveSafety (codeUnits "Invalid tar numeric field " ++ inQuotes value ++
      codeUnits "."))
  if value = [] then .ok 0
  else
    match parseIntOctal value with
    | none => invalid
    | some parsed => if parsed < 0 then invalid else .ok parsed.toNat

/-- `padLength`. -/
def padLength (length blockSize : Nat) : Nat := (length + blockSize - 1) / blockSize * blockSize

/-! ### Reading -/

/-- `isZeroBlock`. -/
def isZeroBlock (block : List UInt8) : Bool := block.all fun b => b = 0

/-- What `unpackTar` reads from a header. -/
structure TarHeader where
  logicalPath : JsString
  mode : Nat
  size : Nat
  mtimeSeconds : Nat
  typeflag : JsString

/-- The fields of a header, as `unpackTar` reads them. -/
def readTarHeader (header : List UInt8) : Except SplitArtifactError TarHeader := do
  let name := readNullTerminated header 0 100
  let mode ← parseTarOctal header 100 8
  let size ← parseTarOctal header 124 12
  let mtimeSeconds ← parseTarOctal header 136 12
  let flag := asciiText (slice header 156 1)
  let pathPrefix := readNullTerminated header 345 155
  let logicalPath ←
    normalizeArchivePath (if pathPrefix ≠ [] then pathPrefix ++ [slash] ++ name else name)
  .ok ⟨logicalPath, mode, size, mtimeSeconds, if flag = [] then codeUnits "0" else flag⟩

/-- The loop of `unpackTar` over what is left of the archive. -/
def unpackTarFrom (tarBuffer : List UInt8) : Except SplitArtifactError (List SplitArtifactEntry) :=
  if tarBuffer.length < 512 then .ok []
  else if isZeroBlock (slice tarBuffer 0 512) then .ok []
  else do
    let header ← readTarHeader (slice tarBuffer 0 512)
    if tarBuffer.length < 512 + header.size then
      .error (.archiveSafety (codeUnits "Tar entry " ++ inQuotes header.logicalPath ++
        codeUnits " extends past archive end."))
    else if header.typeflag = codeUnits "0" ∨ header.typeflag = [0] then
      let entry : SplitArtifactEntry :=
        { data := slice tarBuffer 512 header.size
          logicalPath := header.logicalPath
          mode := some header.mode
          mtime := some (.valid (header.mtimeSeconds * 1000)) }
      (entry :: ·) <$> unpackTarFrom (tarBuffer.drop (512 + padLength header.size 512))
    else if header.typeflag = codeUnits "5" then
      unpackTarFrom (tarBuffer.drop (512 + padLength header.size 512))
    else
      .error (.archiveSafety (codeUnits "Unsupported tar entry type " ++ inQuotes header.typeflag ++
        codeUnits " for " ++ inQuotes header.logicalPath ++ codeUnits "."))
termination_by tarBuffer.length
decreasing_by all_goals (rw [List.length_drop]; omega)

/-- `unpackTar`. -/
def unpackTar (rt : Runtime) (tarBuffer : List UInt8) (limits : SplitArtifactLimits) :
    Except SplitArtifactError (List SplitArtifactEntry) := do
  let entries ← unpackTarFrom tarBuffer
  validateEntries rt entries limits false

/-! ### Writing -/

/-- `Math.floor((mtime?.getTime() ?? 0) / 1000)`. -/
def mtimeSeconds : Option JsDate → Option Int
  | some (.valid t) => some (t.fdiv 1000)
  | some .invalid => none
  | none => some 0

/-- The name of a header: the path, or the last 100 units of one that takes more bytes. -/
def ustarName (logicalPath : JsString) : JsString :=
  if (Utf8.encode logicalPath).length ≤ 100 then logicalPath else lastUnits logicalPath 100

/-- The prefix of a header: what stands before the name and one more unit. -/
def ustarPrefix (logicalPath : JsString) : JsString :=
  if (Utf8.encode logicalPath).length ≤ 100 then []
  else logicalPath.take (logicalPath.length - (ustarName logicalPath).length - 1)

/-- What a header is filled with, before the checksum. -/
def ustarSlots (name pathPrefix : JsString) (entry : SplitArtifactEntry) : List (Slot UInt8) :=
  [⟨0, 100, Utf8.encode name⟩, writeTarOctal 100 8 (some (entry.mode.getD 0o644)),
    writeTarOctal 108 8 (some 0), writeTarOctal 116 8 (some 0),
    writeTarOctal 124 12 (some entry.data.length), writeTarOctal 136 12 (mtimeSeconds entry.mtime),
    ⟨148, 8, List.replicate 8 0x20⟩, ⟨156, 1, asciiBytes (codeUnits "0")⟩,
    ⟨257, 6, asciiBytes (codeUnits "ustar")⟩, ⟨263, 2, asciiBytes (codeUnits "00")⟩,
    -- an empty prefix writes nothing
    ⟨345, 155, Utf8.encode pathPrefix⟩]

/-- The checksum of a header, in the place of the blanks it is summed with. -/
def checksumSlots (header : List UInt8) : List (Slot UInt8) :=
  let checksum := (header.map UInt8.toNat).sum
  [⟨148, 6, (asciiBytes (padWithZeros (toOctalString (some checksum)) 6)).take 6⟩, ⟨154, 1, [0]⟩,
    ⟨155, 1, [0x20]⟩]

/-- The header of a name, a prefix and an entry. -/
def ustarHeader (name pathPrefix : JsString) (entry : SplitArtifactEntry) : List UInt8 :=
  let header := fill (List.replicate 512 0) (ustarSlots name pathPrefix entry)
  fill header (checksumSlots header)

/-- `writeTarHeader`. -/
def writeTarHeader (entry : SplitArtifactEntry) (skipPathValidation : Bool) :
    Except SplitArtifactError (List UInt8) := do
  let logicalPath ←
    if skipPathValidation then .ok entry.logicalPath else normalizeArchivePath entry.logicalPath
  let name := ustarName logicalPath
  let pathPrefix := ustarPrefix logicalPath
  if (Utf8.encode name).length > 100 ∨ (Utf8.encode pathPrefix).length > 155 then
    .error (.archiveSafety (codeUnits "Tar path " ++ inQuotes logicalPath ++
      codeUnits " is too long for ustar output."))
  else .ok (ustarHeader name pathPrefix entry)

/-- The loop of `packTar`, with the end of the archive. -/
def packTar (skipPathValidation : Bool) :
    List SplitArtifactEntry → Except SplitArtifactError (List UInt8)
  | [] => .ok (List.replicate 1024 0)
  | entry :: rest => do
      let header ← writeTarHeader entry skipPathValidation
      let padding := padLength entry.data.length 512 - entry.data.length
      let blocks ← packTar skipPathValidation rest
      .ok (header ++ entry.data ++ List.replicate padding 0 ++ blocks)

/-! ### Digits are read back -/

theorem isOctalDigit_digit {d : Nat} (h : d < 8) :
    isOctalDigit (UInt16.ofNat (48 + d)) = true ∧ (UInt16.ofNat (48 + d)).toNat - 48 = d := by
  have hunit : (UInt16.ofNat (48 + d)).toNat = 48 + d := by
    rw [UInt16.toNat_ofNat']
    omega
  rw [isOctalDigit, hunit]
  exact ⟨decide_eq_true (by omega), by omega⟩

theorem octalValue_append (s : JsString) (u : UInt16) :
    octalValue (s ++ [u]) = 8 * octalValue s + (u.toNat - 48) := by
  rw [octalValue, List.foldl_append]
  rfl

/-- Digits, the lowest first, stand for their value when they are turned around. -/
theorem octalValue_reverse {digits : List Nat} (h : ∀ d ∈ digits, d < 8) :
    octalValue (digits.reverse.map fun d => UInt16.ofNat (48 + d)) = Nat.ofDigits 8 digits := by
  induction digits with
  | nil => rfl
  | cons d digits ih =>
      rw [List.reverse_cons, List.map_append, List.map_singleton, octalValue_append,
        ih fun d' hd' => h d' (List.mem_cons_of_mem d hd'),
        (isOctalDigit_digit (h d List.mem_cons_self)).2, Nat.ofDigits_cons,
        Nat.add_comm]

theorem octalValue_octalDigits (n : Nat) : octalValue (octalDigits n) = n := by
  rw [octalDigits]
  split
  · rename_i hzero
    exact hzero ▸ rfl
  · rw [octalValue_reverse fun d hd => Nat.digits_lt_base (by decide) hd, Nat.ofDigits_digits]

theorem isOctalDigit_of_mem {n : Nat} {u : UInt16} (h : u ∈ octalDigits n) :
    isOctalDigit u = true := by
  rw [octalDigits] at h
  split at h
  · obtain rfl := List.mem_singleton.mp h
    rfl
  · obtain ⟨d, hd, rfl⟩ := List.mem_map.mp h
    exact (isOctalDigit_digit (Nat.digits_lt_base (by decide) (List.mem_reverse.mp hd))).1

theorem length_octalDigits_le {n k : Nat} (hk : 0 < k) (h : n < 8 ^ k) :
    (octalDigits n).length ≤ k := by
  rw [octalDigits]
  split
  · exact hk
  · rw [List.length_map, List.length_reverse]
    exact (Nat.digits_length_le_iff (by decide) n).mpr h

theorem octalValue_padWithZeros (s : JsString) (length : Nat) :
    octalValue (padWithZeros s length) = octalValue s := by
  have hzeros : ∀ n, (List.replicate n (48 : UInt16)).foldl
      (fun value u => 8 * value + (u.toNat - 48)) 0 = 0 := by
    intro n
    induction n with
    | zero => rfl
    | succ n ih =>
        rw [List.replicate_succ', List.foldl_append, ih]
        rfl
  rw [octalValue, padWithZeros, List.foldl_append, hzeros]
  rfl

theorem length_padWithZeros (s : JsString) (length : Nat) :
    (padWithZeros s length).length = max length s.length := by
  rw [padWithZeros, List.length_append, List.length_replicate]
  omega

/-- A field is filled, whatever the number. -/
theorem length_writeTarOctal (offset : Nat) {width : Nat} (h : 0 < width) (value : Option Int) :
    (writeTarOctal offset width value).piece.length = width := by
  simp only [writeTarOctal, asciiBytes, lastUnits, List.length_append, List.length_map,
    List.length_drop, length_padWithZeros, List.length_singleton]
  omega

/-- The bytes of a field whose number fits. -/
theorem writeTarOctal_piece (offset : Nat) {width n : Nat} (hwidth : 2 ≤ width)
    (h : n < 8 ^ (width - 1)) :
    (writeTarOctal offset width (some n)).piece =
      asciiBytes (padWithZeros (octalDigits n) (width - 1)) ++ [0] := by
  have hdigits := length_octalDigits_le (by omega) h
  have hlast : ∀ s : JsString, s.length = width - 1 → lastUnits s (width - 1) = s := by
    intro s hs
    rw [lastUnits, hs, Nat.sub_self, List.drop_zero]
  have hstring : toOctalString (some (n : Int)) = octalDigits n := by
    rw [toOctalString, if_neg (by omega), List.nil_append, Int.natAbs_natCast]
  rw [writeTarOctal, hstring, hlast _ (by rw [length_padWithZeros]; omega)]

theorem isOctalDigit_iff {u : UInt16} : isOctalDigit u = true ↔ 48 ≤ u.toNat ∧ u.toNat < 56 :=
  decide_eq_true_iff

/-- An octal digit is no white space. -/
theorem isStrWhiteSpace_digit {u : UInt16} (h : isOctalDigit u = true) :
    isStrWhiteSpace (Char.ofNat u.toNat) = false := by
  obtain ⟨hlow, hhigh⟩ := isOctalDigit_iff.mp h
  generalize u.toNat = n at hlow hhigh
  interval_cases n <;> decide

/-- Octal digits parse to their value. -/
theorem parseIntOctal_of_digits {digits : JsString} (hne : digits ≠ [])
    (h : ∀ u ∈ digits, isOctalDigit u = true) :
    parseIntOctal digits = some (octalValue digits : Int) := by
  cases digits with
  | nil => exact absurd rfl hne
  | cons u rest =>
      obtain ⟨hlow, -⟩ := isOctalDigit_iff.mp (h u List.mem_cons_self)
      have hminus : u ≠ 45 := by
        rintro rfl
        exact absurd hlow (by decide)
      have hplus : u ≠ 43 := by
        rintro rfl
        exact absurd hlow (by decide)
      have htake : (u :: rest).takeWhile isOctalDigit = u :: rest :=
        List.takeWhile_eq_self_iff.mpr h
      rw [parseIntOctal, if_neg (not_or.mpr ⟨hminus, hplus⟩), htake]
      simp only [if_neg hminus, reduceCtorEq, if_false]

/-- What stands before a zero byte. -/
theorem takeWhile_zero {bytes rest : List UInt8} (h : (0 : UInt8) ∉ bytes)
    (hrest : ∀ b ∈ rest.head?, b = 0) : (bytes ++ rest).takeWhile (fun b => b ≠ 0) = bytes := by
  have hbytes : ∀ b ∈ bytes, decide (b ≠ 0) = true := fun b hb =>
    decide_eq_true fun heq => h (heq ▸ hb)
  rw [List.takeWhile_append_of_pos hbytes]
  cases rest with
  | nil => rw [List.takeWhile_nil, List.append_nil]
  | cons b rest =>
      obtain rfl := hrest b rfl
      rw [List.takeWhile_cons_of_neg (by decide), List.append_nil]

/-- A text without zero unit is read back from its bytes. -/
theorem readNullTerminated_of_slice {buffer : List UInt8} {start length n : Nat} {s : JsString}
    (h : slice buffer start length = Utf8.encode s ++ List.replicate n 0)
    (hwell : Utf8.WellFormed s) (hzero : (0 : UInt16) ∉ s) :
    readNullTerminated buffer start length = s := by
  rw [readNullTerminated, h, takeWhile_zero (Utf8.zero_notMem_encode hzero) fun b hb => ?_,
    Utf8.decode_encode hwell]
  exact List.eq_of_mem_replicate (List.mem_of_mem_head? hb)

/-- **A number that fits its field is read back.** -/
theorem parseTarOctal_slot {buffer : List UInt8} {start width n : Nat} (hwidth : 2 ≤ width)
    (hn : n < 8 ^ (width - 1))
    (h : slice buffer start width = (writeTarOctal start width (some n)).piece) :
    parseTarOctal buffer start width = .ok n := by
  set digits := padWithZeros (octalDigits n) (width - 1) with hdef
  have hdigits : ∀ u ∈ digits, isOctalDigit u = true := by
    intro u hu
    cases List.mem_append.mp hu with
    | inl hzero => exact List.eq_of_mem_replicate hzero ▸ rfl
    | inr hmem => exact isOctalDigit_of_mem hmem
  have hne : digits ≠ [] := by
    rw [← List.length_pos_iff, hdef, length_padWithZeros]
    omega
  have hbytes : (0 : UInt8) ∉ asciiBytes digits := by
    intro hzero
    obtain ⟨u, hu, hbyte⟩ := List.mem_map.mp hzero
    have hrange := isOctalDigit_iff.mp (hdigits u hu)
    have hnat := congrArg UInt8.toNat hbyte
    rw [UInt16.toNat_toUInt8] at hnat
    change u.toNat % 2 ^ 8 = 0 at hnat
    omega
  have hread : readNullTerminated buffer start width = digits := by
    rw [readNullTerminated, h, writeTarOctal_piece start hwidth hn,
      takeWhile_zero hbytes (by rintro b ⟨⟩; rfl), asciiBytes, Utf8.decode_ascii]
    intro u hu
    have := isOctalDigit_iff.mp (hdigits u hu)
    omega
  have htrim : trimUnits digits = digits := by
    refine Strip.strip_eq_self ⟨fun u hu => ?_, fun u hu => ?_⟩
    · exact isStrWhiteSpace_digit (hdigits u (List.mem_of_mem_head? hu))
    · exact isStrWhiteSpace_digit (hdigits u (List.mem_of_mem_getLast? hu))
  simp only [parseTarOctal]
  rw [hread, htrim, if_neg hne, parseIntOctal_of_digits hne hdigits, hdef,
    octalValue_padWithZeros, octalValue_octalDigits]
  exact if_neg (by omega)

/-! ### A header is read back -/

section Header

variable {name pathPrefix : JsString} {entry : SplitArtifactEntry}

theorem layout_ustarSlots :
    Layout 512 ((ustarSlots name pathPrefix entry).map Slot.span) := by
  change Layout 512 [(0, 100), (100, 8), (108, 8), (116, 8), (124, 12), (136, 12), (148, 8),
    (156, 1), (257, 6), (263, 2), (345, 155)]
  decide

theorem fit_ustarSlots (hname : (Utf8.encode name).length ≤ 100)
    (hpre : (Utf8.encode pathPrefix).length ≤ 155) :
    Fit (List.replicate 512 (0 : UInt8)).length (ustarSlots name pathPrefix entry) := by
  refine fit_of_layout layout_ustarSlots (by rw [List.length_replicate]) fun s hs => ?_
  simp only [ustarSlots, List.mem_cons, List.not_mem_nil, or_false] at hs
  rcases hs with rfl | rfl | rfl | rfl | rfl | rfl | rfl | rfl | rfl | rfl | rfl
  · exact hname
  · exact Nat.le_of_eq (length_writeTarOctal 100 (by decide) _)
  · exact Nat.le_of_eq (length_writeTarOctal 108 (by decide) _)
  · exact Nat.le_of_eq (length_writeTarOctal 116 (by decide) _)
  · exact Nat.le_of_eq (length_writeTarOctal 124 (by decide) _)
  · exact Nat.le_of_eq (length_writeTarOctal 136 (by decide) _)
  · decide
  · decide
  · decide
  · decide
  · exact hpre

theorem fit_checksumSlots {header : List UInt8} (h : header.length = 512) :
    Fit header.length (checksumSlots header) := by
  intro s hs
  simp only [checksumSlots, List.mem_cons, List.not_mem_nil, or_false] at hs
  rw [h]
  rcases hs with rfl | rfl | rfl
  · exact ⟨List.length_take_le 6 _, by dsimp only; omega⟩
  · decide
  · decide

theorem length_ustarHeader (hname : (Utf8.encode name).length ≤ 100)
    (hpre : (Utf8.encode pathPrefix).length ≤ 155) :
    (ustarHeader name pathPrefix entry).length = 512 := by
  have hlength : (fill (List.replicate 512 0) (ustarSlots name pathPrefix entry)).length = 512 := by
    rw [length_fill (fit_ustarSlots hname hpre), List.length_replicate]
  rw [ustarHeader, length_fill (fit_checksumSlots hlength), hlength]

/-- A slot beside the checksum is read back, with zero bytes behind its piece. -/
theorem slice_ustarHeader (hname : (Utf8.encode name).length ≤ 100)
    (hpre : (Utf8.encode pathPrefix).length ≤ 155) {s : Slot UInt8}
    (hs : s ∈ ustarSlots name pathPrefix entry) (hapart : Apart s.span (148, 8)) :
    slice (ustarHeader name pathPrefix entry) s.offset s.width =
      s.piece ++ List.replicate (s.width - s.piece.length) 0 := by
  have hfit := @fit_ustarSlots name pathPrefix entry hname hpre
  have hlength : (fill (List.replicate 512 0) (ustarSlots name pathPrefix entry)).length = 512 := by
    rw [length_fill hfit, List.length_replicate]
  obtain ⟨hwidth, hend⟩ := hfit s hs
  rw [List.length_replicate] at hend
  rw [ustarHeader, slice_fill_of_apart (fit_checksumSlots hlength) fun t ht => ?_,
    slice_fill hfit layout_ustarSlots.2 hs, slice_replicate (by omega)]
  simp only [checksumSlots, List.mem_cons, List.not_mem_nil, or_false] at ht
  simp only [Apart, Slot.span] at hapart ⊢
  rcases ht with rfl | rfl | rfl <;> dsimp only <;> omega

/-- The zero bytes that a slot is read with, when its piece fills it. -/
theorem slice_ustarHeader_full (hname : (Utf8.encode name).length ≤ 100)
    (hpre : (Utf8.encode pathPrefix).length ≤ 155) {s : Slot UInt8}
    (hs : s ∈ ustarSlots name pathPrefix entry) (hapart : Apart s.span (148, 8))
    (hfull : s.piece.length = s.width) :
    slice (ustarHeader name pathPrefix entry) s.offset s.width = s.piece := by
  rw [slice_ustarHeader hname hpre hs hapart, hfull, Nat.sub_self, List.replicate_zero,
    List.append_nil]

/-- A number of a header is read back. -/
theorem parseTarOctal_ustarHeader (hname : (Utf8.encode name).length ≤ 100)
    (hpre : (Utf8.encode pathPrefix).length ≤ 155) {offset width n : Nat} (hwidth : 2 ≤ width)
    (hn : n < 8 ^ (width - 1))
    (hs : writeTarOctal offset width (some n) ∈ ustarSlots name pathPrefix entry)
    (hapart : Apart (offset, width) (148, 8)) :
    parseTarOctal (ustarHeader name pathPrefix entry) offset width = .ok n :=
  parseTarOctal_slot hwidth hn
    (slice_ustarHeader_full hname hpre hs hapart (length_writeTarOctal offset (by omega) _))

/-- What the header of an entry can hold: a mode of seven octal digits, fewer bytes than eleven
octal digits count, and a time of whole seconds that eleven octal digits count. -/
structure UstarNumbers (entry : SplitArtifactEntry) (mode seconds : Nat) : Prop where
  mode_eq : entry.mode.getD 0o644 = mode
  mode_lt : mode < 8 ^ 7
  size_lt : entry.data.length < 8 ^ 11
  seconds_eq : mtimeSeconds entry.mtime = some seconds
  seconds_lt : seconds < 8 ^ 11

/-- **What the reader makes of a header**: the numbers that were written, and the prefix and the
name joined with a slash. -/
theorem readTarHeader_ustarHeader (hname : (Utf8.encode name).length ≤ 100)
    (hpre : (Utf8.encode pathPrefix).length ≤ 155) (hnameText : Utf8.WellFormed name)
    (hpreText : Utf8.WellFormed pathPrefix) (hnameZero : (0 : UInt16) ∉ name)
    (hpreZero : (0 : UInt16) ∉ pathPrefix) {mode seconds : Nat}
    (hnumbers : UstarNumbers entry mode seconds) {path : JsString}
    (hpath : normalizeArchivePath
      (if pathPrefix ≠ [] then pathPrefix ++ [slash] ++ name else name) = .ok path) :
    readTarHeader (ustarHeader name pathPrefix entry) =
      .ok ⟨path, mode, entry.data.length, seconds, codeUnits "0"⟩ := by
  have hreadName : readNullTerminated (ustarHeader name pathPrefix entry) 0 100 = name :=
    readNullTerminated_of_slice (slice_ustarHeader hname hpre
      (s := ⟨0, 100, Utf8.encode name⟩) (by simp [ustarSlots])
      (.inl (by decide : 0 + 100 ≤ 148))) hnameText hnameZero
  have hreadPrefix : readNullTerminated (ustarHeader name pathPrefix entry) 345 155 = pathPrefix :=
    readNullTerminated_of_slice (slice_ustarHeader hname hpre
      (s := ⟨345, 155, Utf8.encode pathPrefix⟩) (by simp [ustarSlots])
      (.inr (by decide : 148 + 8 ≤ 345))) hpreText hpreZero
  have hmode : parseTarOctal (ustarHeader name pathPrefix entry) 100 8 = .ok mode :=
    parseTarOctal_ustarHeader hname hpre (by decide) hnumbers.mode_lt
      (by simp [ustarSlots, hnumbers.mode_eq]) (by decide)
  have hsize : parseTarOctal (ustarHeader name pathPrefix entry) 124 12 = .ok entry.data.length :=
    parseTarOctal_ustarHeader hname hpre (by decide) hnumbers.size_lt
      (by simp [ustarSlots]) (by decide)
  have hseconds : parseTarOctal (ustarHeader name pathPrefix entry) 136 12 = .ok seconds :=
    parseTarOctal_ustarHeader hname hpre (by decide) hnumbers.seconds_lt
      (by simp [ustarSlots, hnumbers.seconds_eq]) (by decide)
  have hflag : slice (ustarHeader name pathPrefix entry) 156 1 = asciiBytes (codeUnits "0") :=
    slice_ustarHeader_full hname hpre (s := ⟨156, 1, asciiBytes (codeUnits "0")⟩)
      (by simp [ustarSlots]) (by decide) (by decide)
  simp only [readTarHeader, hmode, hsize, hseconds, hflag, hreadName, hreadPrefix, bind,
    Except.bind]
  rw [hpath]
  rfl

/-- A header is no zero block. -/
theorem isZeroBlock_ustarHeader (hname : (Utf8.encode name).length ≤ 100)
    (hpre : (Utf8.encode pathPrefix).length ≤ 155) :
    isZeroBlock (ustarHeader name pathPrefix entry) = false := by
  have hflag : slice (ustarHeader name pathPrefix entry) 156 1 = asciiBytes (codeUnits "0") :=
    slice_ustarHeader_full hname hpre (s := ⟨156, 1, asciiBytes (codeUnits "0")⟩)
      (by simp [ustarSlots]) (by decide) (by decide)
  have hmem : (48 : UInt8) ∈ ustarHeader name pathPrefix entry := by
    have hslice : (48 : UInt8) ∈ slice (ustarHeader name pathPrefix entry) 156 1 := by
      rw [hflag]
      decide
    exact List.mem_of_mem_drop (List.mem_of_mem_take hslice)
  rw [isZeroBlock, List.all_eq_false]
  exact ⟨48, hmem, by decide⟩

end Header

/-! ### An archive is read back -/

theorem le_padLength (length : Nat) : length ≤ padLength length 512 := by
  rw [padLength]
  omega

/-- One entry of an archive, and what is left behind it. -/
theorem unpackTarFrom_cons {header data rest : List UInt8} {h : TarHeader}
    (hlength : header.length = 512) (hzero : isZeroBlock header = false)
    (hread : readTarHeader header = .ok h) (hsize : h.size = data.length)
    (hflag : h.typeflag = codeUnits "0") :
    unpackTarFrom
        (header ++ data ++ List.replicate (padLength data.length 512 - data.length) 0 ++ rest) =
      (({ data := data
          logicalPath := h.logicalPath
          mode := some h.mode
          mtime := some (.valid (h.mtimeSeconds * 1000)) } : SplitArtifactEntry) :: ·) <$>
        unpackTarFrom rest := by
  have hpad := le_padLength data.length
  set archive := header ++ data ++ List.replicate
    (padLength data.length 512 - data.length) 0 ++ rest
    with hdef
  have hheader : slice archive 0 512 = header := by
    rw [slice, List.drop_zero, hdef, List.append_assoc, List.append_assoc, ← hlength,
      List.take_left]
  have hdata : slice archive 512 data.length = data := by
    rw [slice, hdef, List.append_assoc, List.append_assoc, ← hlength, List.drop_left,
      List.take_left]
  have hrest : archive.drop (512 + padLength data.length 512) = rest := by
    have hfirst : (header ++ data ++
        List.replicate (padLength data.length 512 - data.length) 0).length =
          512 + padLength data.length 512 := by
      rw [List.length_append, List.length_append, List.length_replicate, hlength]
      omega
    rw [hdef, ← hfirst, List.drop_left]
  have htotal : 512 + data.length ≤ archive.length := by
    rw [hdef, List.length_append, List.length_append, List.length_append, hlength]
    omega
  rw [unpackTarFrom, if_neg (by omega), hheader, hzero, if_neg Bool.false_ne_true, hread]
  simp only [bind, Except.bind, hsize]
  rw [if_neg (by omega), if_pos (.inl hflag), hdata, hrest]

theorem isZeroBlock_end : isZeroBlock (slice (List.replicate 1024 0) 0 512) = true := by
  rw [slice_replicate (by decide), isZeroBlock, List.all_eq_true]
  exact fun b hb => decide_eq_true (List.eq_of_mem_replicate hb)

theorem unpackTarFrom_end : unpackTarFrom (List.replicate 1024 0) = .ok [] := by
  rw [unpackTarFrom, if_neg (by rw [List.length_replicate]; decide), if_pos isZeroBlock_end]

/-! ### Paths that a header can hold -/

/-- A path that a header gives back: it has no zero unit, and when it takes more than 100 bytes, the
unit before its last 100, which is in neither the prefix nor the name, is a slash. -/
def FitsUstar (path : JsString) : Prop :=
  (0 : UInt16) ∉ path ∧
    ((Utf8.encode path).length ≤ 100 ∨ path[path.length - 101]? = some slash)

section FitsUstar

variable {path : JsString}

/-- A path that takes more bytes than the name has room for has more than 100 units. -/
theorem length_of_long (hlong : ¬(Utf8.encode path).length ≤ 100)
    (hname : (Utf8.encode (ustarName path)).length ≤ 100) : 100 < path.length := by
  by_contra hshort
  have hall : ustarName path = path := by
    rw [ustarName, if_neg hlong, lastUnits, Nat.sub_eq_zero_of_le (by omega), List.drop_zero]
  exact hlong (hall ▸ hname)

/-- A long path is its prefix, the unit that is left out, and its name. -/
theorem ustar_cut (hlong : ¬(Utf8.encode path).length ≤ 100) (hlength : 100 < path.length) :
    ∃ u, path[path.length - 101]? = some u ∧ path = ustarPrefix path ++ u :: ustarName path := by
  have hlt : path.length - 101 < path.length := by omega
  have hname : ustarName path = path.drop (path.length - 101 + 1) := by
    rw [ustarName, if_neg hlong, lastUnits]
    congr 1
    omega
  have hpre : ustarPrefix path = path.take (path.length - 101) := by
    rw [ustarPrefix, if_neg hlong, hname, List.length_drop]
    congr 1
    omega
  refine ⟨path[path.length - 101], List.getElem?_eq_getElem hlt, ?_⟩
  rw [hname, hpre, ← List.drop_eq_getElem_cons hlt, List.take_append_drop]

/-- What the reader joins from the two parts of a path. -/
def ustarJoined (path : JsString) : JsString :=
  if ustarPrefix path ≠ [] then ustarPrefix path ++ [slash] ++ ustarName path else ustarName path

/-- **The reader joins what the writer cut.** -/
theorem FitsUstar.join (h : FitsUstar path) (hsafe : SafeArchivePath path)
    (hname : (Utf8.encode (ustarName path)).length ≤ 100) : ustarJoined path = path := by
  rw [ustarJoined]
  by_cases hlong : (Utf8.encode path).length ≤ 100
  · have hnil : ustarPrefix path = [] := if_pos hlong
    rw [hnil, if_neg (not_not_intro rfl), ustarName, if_pos hlong]
  · obtain ⟨u, hu, hcut⟩ := ustar_cut hlong (length_of_long hlong hname)
    have hslash : u = slash := by
      rw [h.2.resolve_left hlong] at hu
      exact (Option.some.inj hu).symm
    subst hslash
    have hne : ustarPrefix path ≠ [] := by
      intro hnil
      rw [hnil, List.nil_append] at hcut
      exact hsafe.relative (hcut ▸ rfl)
    rw [if_pos hne, List.append_assoc, List.singleton_append, ← hcut]

/-- Both parts of the path are well-formed texts without zero units. -/
theorem FitsUstar.parts (h : FitsUstar path) (hwell : Utf8.WellFormed path)
    (hname : (Utf8.encode (ustarName path)).length ≤ 100) :
    (Utf8.WellFormed (ustarName path) ∧ (0 : UInt16) ∉ ustarName path) ∧
      Utf8.WellFormed (ustarPrefix path) ∧ (0 : UInt16) ∉ ustarPrefix path := by
  by_cases hlong : (Utf8.encode path).length ≤ 100
  · rw [ustarName, ustarPrefix, if_pos hlong, if_pos hlong]
    exact ⟨⟨hwell, h.1⟩, trivial, List.not_mem_nil⟩
  · obtain ⟨u, hu, hcut⟩ := ustar_cut hlong (length_of_long hlong hname)
    have hslash : u = slash := by
      rw [h.2.resolve_left hlong] at hu
      exact (Option.some.inj hu).symm
    subst hslash
    have hzero := h.1
    generalize ustarPrefix path = pathPrefix at hcut
    generalize ustarName path = name at hcut
    subst hcut
    obtain ⟨hpre, hname⟩ := (Utf8.wellFormed_append_cons (by decide) (by decide)).mp hwell
    exact ⟨⟨hname, fun hmem => hzero (List.mem_append_right _ (List.mem_cons_of_mem _ hmem))⟩,
      hpre, fun hmem => hzero (List.mem_append_left _ hmem)⟩

end FitsUstar

/-! ### Packing and unpacking -/

/-- The numbers of an entry are within what a header can hold. -/
structure UstarBounds (entry : SplitArtifactEntry) : Prop where
  size : entry.data.length < 8 ^ 11
  mode : ∀ mode, entry.mode = some mode → 0 ≤ mode ∧ mode < 8 ^ 7
  mtime : ∀ date, entry.mtime = some date →
    ∃ seconds : Nat, seconds < 8 ^ 11 ∧ date = .valid (seconds * 1000)

/-- What a tar archive gives back for an entry, at the path that is read: a mode and a
modification time even where the entry has none. -/
def ustarRestored (entry : SplitArtifactEntry) (path : JsString) : SplitArtifactEntry where
  data := entry.data
  logicalPath := path
  mode := some (entry.mode.getD 0o644)
  mtime := some (entry.mtime.getD (.valid 0))

theorem UstarBounds.numbers {entry : SplitArtifactEntry} (h : UstarBounds entry) :
    ∃ mode seconds, UstarNumbers entry mode seconds ∧ ∀ path,
      ustarRestored entry path =
        { data := entry.data
          logicalPath := path
          mode := some mode
          mtime := some (.valid (seconds * 1000)) } := by
  obtain ⟨mode, hmode, hmodeLt⟩ : ∃ mode : Nat, entry.mode.getD 0o644 = mode ∧ mode < 8 ^ 7 := by
    cases hentry : entry.mode with
    | none => exact ⟨0o644, rfl, by decide⟩
    | some mode =>
        obtain ⟨hpos, hlt⟩ := h.mode mode hentry
        exact ⟨mode.toNat, (Int.toNat_of_nonneg hpos).symm, by omega⟩
  obtain ⟨seconds, htime, hlt⟩ :
      ∃ seconds : Nat, entry.mtime.getD (.valid 0) = .valid (seconds * 1000) ∧
        seconds < 8 ^ 11 := by
    cases hentry : entry.mtime with
    | none => exact ⟨0, rfl, by decide⟩
    | some date =>
        obtain ⟨seconds, hlt, hdate⟩ := h.mtime date hentry
        exact ⟨seconds, hdate, hlt⟩
  have hseconds : mtimeSeconds entry.mtime = some (seconds : Int) := by
    cases hentry : entry.mtime with
    | none =>
        rw [hentry] at htime
        have hzero : (0 : Int) = seconds * 1000 := JsDate.valid.inj htime
        rw [mtimeSeconds]
        congr 1
        omega
    | some date =>
        rw [hentry] at htime
        obtain rfl : date = .valid (seconds * 1000) := htime
        rw [mtimeSeconds, Int.mul_fdiv_cancel _ (by decide)]
  exact ⟨mode, seconds, ⟨hmode, hmodeLt, h.size, hseconds, hlt⟩,
    fun path => by rw [ustarRestored, hmode, htime]⟩

/-- An entry whose header is read back, and the path that is read. -/
structure UstarReadable (entry : SplitArtifactEntry) (path : JsString) : Prop where
  safe : SafeArchivePath entry.logicalPath
  bounds : UstarBounds entry
  name : Utf8.WellFormed (ustarName entry.logicalPath) ∧ (0 : UInt16) ∉ ustarName entry.logicalPath
  pathPrefix : Utf8.WellFormed (ustarPrefix entry.logicalPath) ∧
    (0 : UInt16) ∉ ustarPrefix entry.logicalPath
  joined : normalizeArchivePath (ustarJoined entry.logicalPath) = .ok path

/-- What a packed entry is read back as. -/
def UstarReadAs (entry restored : SplitArtifactEntry) : Prop :=
  UstarReadable entry restored.logicalPath ∧ restored = ustarRestored entry restored.logicalPath

/-- The path that a header is written for. -/
def writtenPath (skipPathValidation : Bool) (path : JsString) :
    Except SplitArtifactError JsString :=
  if skipPathValidation then .ok path else normalizeArchivePath path

/-- The header that is written for an entry. -/
theorem exists_ustarHeader {entry : SplitArtifactEntry} {skip : Bool} {header : List UInt8}
    (h : writeTarHeader entry skip = .ok header) :
    ∃ path, writtenPath skip entry.logicalPath = .ok path ∧
      (Utf8.encode (ustarName path)).length ≤ 100 ∧
      (Utf8.encode (ustarPrefix path)).length ≤ 155 ∧
      header = ustarHeader (ustarName path) (ustarPrefix path) entry := by
  have hwritten : writeTarHeader entry skip = writtenPath skip entry.logicalPath >>= fun path =>
      if (Utf8.encode (ustarName path)).length > 100 ∨
          (Utf8.encode (ustarPrefix path)).length > 155 then
        .error (.archiveSafety (codeUnits "Tar path " ++ inQuotes path ++
          codeUnits " is too long for ustar output."))
      else .ok (ustarHeader (ustarName path) (ustarPrefix path) entry) := by
    cases skip with
    | false => rfl
    | true => rfl
  rw [hwritten] at h
  obtain ⟨path, hpath, h⟩ := bind_eq_ok.mp h
  refine ⟨path, hpath, ?_⟩
  split at h
  · cases h
  rename_i hlengths
  rw [not_or, not_lt, not_lt] at hlengths
  exact ⟨hlengths.1, hlengths.2, (Except.ok.inj h).symm⟩

/-- The header that is written for a safe path. -/
theorem writeTarHeader_eq_ok {entry : SplitArtifactEntry} {header : List UInt8}
    (hsafe : SafeArchivePath entry.logicalPath) (h : writeTarHeader entry false = .ok header) :
    (Utf8.encode (ustarName entry.logicalPath)).length ≤ 100 ∧
      (Utf8.encode (ustarPrefix entry.logicalPath)).length ≤ 155 ∧
      header = ustarHeader (ustarName entry.logicalPath) (ustarPrefix entry.logicalPath) entry := by
  obtain ⟨path, hpath, hheader⟩ := exists_ustarHeader h
  rw [writtenPath, if_neg Bool.false_ne_true, hsafe.normalizeArchivePath_eq] at hpath
  obtain rfl := Except.ok.inj hpath
  exact hheader

theorem packTar_cons_eq_ok {entry : SplitArtifactEntry} {rest : List SplitArtifactEntry}
    {skip : Bool} {tar : List UInt8} (h : packTar skip (entry :: rest) = .ok tar) :
    ∃ header blocks, writeTarHeader entry skip = .ok header ∧ packTar skip rest = .ok blocks ∧
      tar = header ++ entry.data ++
        List.replicate (padLength entry.data.length 512 - entry.data.length) 0 ++ blocks := by
  rw [packTar] at h
  obtain ⟨header, hheader, h⟩ := bind_eq_ok.mp h
  obtain ⟨blocks, hblocks, h⟩ := bind_eq_ok.mp h
  exact ⟨header, blocks, hheader, hblocks, (Except.ok.inj h).symm⟩

/-- A path that a header can hold is read back as it is. -/
theorem FitsUstar.readAs {entry : SplitArtifactEntry} {header : List UInt8}
    (h : FitsUstar entry.logicalPath) (hsafe : SafeArchivePath entry.logicalPath)
    (hwell : Utf8.WellFormed entry.logicalPath) (hbounds : UstarBounds entry)
    (hheader : writeTarHeader entry false = .ok header) :
    UstarReadAs entry (ustarRestored entry entry.logicalPath) := by
  obtain ⟨hname, -, -⟩ := writeTarHeader_eq_ok hsafe hheader
  obtain ⟨hnameText, hpreText⟩ := h.parts hwell hname
  refine ⟨⟨hsafe, hbounds, hnameText, hpreText, ?_⟩, rfl⟩
  rw [h.join hsafe hname]
  exact hsafe.normalizeArchivePath_eq

/-- **The entries of a packed archive** are read back, in order. -/
theorem unpackTarFrom_packTar {entries restored : List SplitArtifactEntry} {tar : List UInt8}
    (h : packTar false entries = .ok tar) (hread : List.Forall₂ UstarReadAs entries restored) :
    unpackTarFrom tar = .ok restored := by
  induction hread generalizing tar with
  | nil =>
      obtain rfl := Except.ok.inj h
      exact unpackTarFrom_end
  | @cons entry out rest outs hentry hrest ih =>
      obtain ⟨header, blocks, hheader, hblocks, rfl⟩ := packTar_cons_eq_ok h
      obtain ⟨hreadable, hout⟩ := hentry
      obtain ⟨hname, hpre, hheaderEq⟩ := writeTarHeader_eq_ok hreadable.safe hheader
      obtain ⟨mode, seconds, hnumbers, hrestored⟩ := hreadable.bounds.numbers
      have hfields := readTarHeader_ustarHeader hname hpre hreadable.name.1
        hreadable.pathPrefix.1 hreadable.name.2 hreadable.pathPrefix.2 hnumbers hreadable.joined
      have hstep := @unpackTarFrom_cons _ entry.data blocks _ (length_ustarHeader hname hpre)
        (isZeroBlock_ustarHeader hname hpre) hfields rfl rfl
      rw [hheaderEq, hstep, ih hblocks, hout, hrestored]
      rfl

/-- Every header and every padded block is a multiple of 512 bytes. -/
theorem length_packTar {skip : Bool} {entries : List SplitArtifactEntry} {tar : List UInt8}
    (h : packTar skip entries = .ok tar) : 1024 ≤ tar.length ∧ tar.length % 512 = 0 := by
  induction entries generalizing tar with
  | nil =>
      obtain rfl := Except.ok.inj h
      rw [List.length_replicate]
      decide
  | cons entry rest ih =>
      obtain ⟨header, blocks, hheader, hblocks, rfl⟩ := packTar_cons_eq_ok h
      obtain ⟨path, -, hname, hpre, hheaderEq⟩ := exists_ustarHeader hheader
      have hlength : header.length = 512 := hheaderEq ▸ length_ustarHeader hname hpre
      obtain ⟨hleast, hmod⟩ := ih hblocks
      have hpad := le_padLength entry.data.length
      have hblock : padLength entry.data.length 512 % 512 = 0 := Nat.mul_mod_left _ 512
      rw [List.length_append, List.length_append, List.length_append, List.length_replicate,
        hlength]
      omega

/-- A packed archive is empty, or begins with a header that says `ustar`. -/
theorem packTar_front {skip : Bool} {entries : List SplitArtifactEntry} {tar : List UInt8}
    (h : packTar skip entries = .ok tar) :
    slice tar 257 6 = asciiBytes (codeUnits "ustar") ++ [0] ∨
      isZeroBlock (slice tar 0 512) = true := by
  cases entries with
  | nil =>
      obtain rfl := Except.ok.inj h
      exact .inr isZeroBlock_end
  | cons entry rest =>
      obtain ⟨header, blocks, hheader, hblocks, rfl⟩ := packTar_cons_eq_ok h
      obtain ⟨path, -, hname, hpre, hheaderEq⟩ := exists_ustarHeader hheader
      have hlength : header.length = 512 := hheaderEq ▸ length_ustarHeader hname hpre
      have hmagic : slice header 257 6 = asciiBytes (codeUnits "ustar") ++ [0] := by
        rw [hheaderEq]
        exact slice_ustarHeader hname hpre (s := ⟨257, 6, asciiBytes (codeUnits "ustar")⟩)
          (by simp [ustarSlots]) (by decide)
      left
      rw [← hmagic, slice, List.append_assoc, List.append_assoc,
        List.drop_append_of_le_length (by omega), List.take_append_of_le_length
          (by rw [List.length_drop]; omega), slice]

end Cdngine
