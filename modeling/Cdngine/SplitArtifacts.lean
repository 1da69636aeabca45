import Cdngine.TarArchive
import Cdngine.ZipArchive

/-!
# Splitting and Creating Archives

The two operations of the split-history adapters: `splitArtifactArchive` detects the format of an
archive from its filename and its bytes and returns its entries, and
`createSplitArtifactArchive` writes checked entries to an archive.

## Main results

* `splitArtifactArchive_safe`: whatever the bytes, the entries that are returned have safe and
  distinct paths and are within the limits.
* `splitArtifactArchive_createZip`: a zip archive gives back the paths and the data of the entries.
* `splitArtifactArchive_createTar`: so does a tar archive, with modes and modification times, when
  the headers can hold the paths.
-/

open ByteBuffer

namespace Cdngine

/-! ### Detecting the format -/

/-- `SplitArtifactFormat`. -/
inductive SplitArtifactFormat
  | gzipTar
  | tar
  | unitypackage
  | zip
  deriving DecidableEq, Repr

/-- `s.endsWith(suffix)`. -/
def endsWith (s : JsString) (suffix : String) : Bool := (codeUnits suffix).isSuffixOf s

/-- `looksLikeTar`. -/
def looksLikeTar (buffer : List UInt8) : Bool :=
  if buffer.length < 1024 ∨ buffer.length % 512 ≠ 0 then false
  else
    (codeUnits "ustar").isPrefixOf (asciiText (slice buffer 257 6)) ||
      isZeroBlock (slice buffer 0 512)

/-- `looksLikeGzipTar`. -/
def looksLikeGzipTar (rt : ArchiveRuntime) (buffer : List UInt8) : Bool :=
  if buffer.length < 2 ∨ buffer[0]? ≠ some 0x1f ∨ buffer[1]? ≠ some 0x8b then false
  else
    match rt.gunzipSync buffer with
    | some tar => looksLikeTar tar
    | none => false

/-- `looksLikeZip`. -/
def looksLikeZip (buffer : List UInt8) : Bool := (findZipEndOfCentralDirectory buffer).isSome

/-- `detectSplitArtifactFormat`. -/
def detectSplitArtifactFormat (rt : ArchiveRuntime) (filename : JsString) (archive : List UInt8) :
    Option SplitArtifactFormat :=
  let lower := rt.toLowerCase filename
  if endsWith lower ".unitypackage" then
    if looksLikeGzipTar rt archive then some .unitypackage else none
  else if endsWith lower ".tar.gz" || endsWith lower ".tgz" then
    if looksLikeGzipTar rt archive then some .gzipTar else none
  else if endsWith lower ".tar" then if looksLikeTar archive then some .tar else none
  else if endsWith lower ".zip" then if looksLikeZip archive then some .zip else none
  else none

/-! ### The two operations -/

/-- `SplitArtifactArchiveInput`. -/
structure SplitArtifactArchiveInput where
  archive : List UInt8
  filename : JsString
  limits : Option PartialSplitArtifactLimits

/-- `SplitArtifactArchiveResult`. -/
structure SplitArtifactArchiveResult where
  entries : List SplitArtifactEntry
  format : SplitArtifactFormat
  originalLogicalByteLength : Nat
  deriving DecidableEq, Repr

/-- `CreateSplitArtifactArchiveInput`. -/
structure CreateSplitArtifactArchiveInput where
  entries : List SplitArtifactEntry
  format : SplitArtifactFormat
  skipPathValidationForTesting : Bool

/-- The entries of an archive of a detected format. -/
def unpackDetected (rt : ArchiveRuntime) (archive : List UInt8) (limits : SplitArtifactLimits) :
    SplitArtifactFormat → Except SplitArtifactError (List SplitArtifactEntry)
  | .zip => unpackZip rt archive limits
  | .tar => unpackTar rt.toRuntime archive limits
  | .gzipTar | .unitypackage =>
      match rt.gunzipSync archive with
      | some tar => unpackTar rt.toRuntime tar limits
      | none => .error .invalidCompressedData

/-- `splitArtifactArchive`. -/
def splitArtifactArchive (rt : ArchiveRuntime) (input : SplitArtifactArchiveInput) :
    Except SplitArtifactError SplitArtifactArchiveResult :=
  match detectSplitArtifactFormat rt input.filename input.archive with
  | none =>
      .error (.unsupportedSplitArtifact (codeUnits "No split-history adapter is registered for " ++
        inQuotes input.filename ++ codeUnits "."))
  | some format => do
      let entries ← unpackDetected rt input.archive (resolveLimits input.limits) format
      .ok ⟨entries, format, input.archive.length⟩

/-- `createSplitArtifactArchive`. -/
def createSplitArtifactArchive (rt : ArchiveRuntime) (input : CreateSplitArtifactArchiveInput) :
    Except SplitArtifactError (List UInt8) := do
  let entries ← validateEntries rt.toRuntime input.entries defaultLimits
    input.skipPathValidationForTesting
  match input.format with
  | .zip => packZip rt entries
  | .tar => packTar input.skipPathValidationForTesting entries
  | .gzipTar | .unitypackage => do
      let tar ← packTar input.skipPathValidationForTesting entries
      .ok (rt.gzipSync tar)

/-- A platform for concrete inputs: lower case is that of the Latin letters, four bytes and one
byte are deflated as the compressor deflates them, and other data is kept behind a marker. -/
def sampleArchiveRuntime : ArchiveRuntime where
  toRuntime := sampleRuntime
  toLowerCase := List.map fun u => if 65 ≤ u ∧ u ≤ 90 then u + 32 else u
  deflateRawSync data :=
    if data = [0x61] then [0x4b, 0x04, 0x00]
    else if data = [0x50, 0x4b, 0x05, 0x06] then [0x0b, 0xf0, 0x66, 0x65, 0x03, 0x00]
    else 0x01 :: data
  inflateRawSync
    | [0x4b, 0x04, 0x00] => some [0x61]
    | [0x0b, 0xf0, 0x66, 0x65, 0x03, 0x00] => some [0x50, 0x4b, 0x05, 0x06]
    | 0x01 :: data => some data
    | _ => none
  gzipSync data := 0x1f :: 0x8b :: data
  gunzipSync
    | 0x1f :: 0x8b :: data => some data
    | _ => none

/-! ### What is returned is safe -/

/-- A number that is not negative. -/
def NonNegative : JsNumber → Prop
  | .finite q => 0 ≤ q
  | .nan => False
  | .infinity negative => negative = false

/-- `count <= limit`. -/
def AtMost (count : Nat) : JsNumber → Prop
  | .finite q => (count : Rat) ≤ q
  | .nan => False
  | .infinity negative => negative = false

theorem exceeds_zero {limit : JsNumber} (h : NonNegative limit) : exceeds 0 limit = false := by
  cases limit with
  | finite q => exact decide_eq_false (not_lt.mpr h)
  | nan => rfl
  | infinity negative => exact h

theorem atMost_of_exceeds {count : Nat} {limit : JsNumber} (hlimit : NonNegative limit)
    (h : exceeds count limit = false) : AtMost count limit := by
  cases limit with
  | finite q => exact not_lt.mp (of_decide_eq_false h)
  | nan => exact hlimit
  | infinity negative => exact h

/-- The limits that are given are not negative. -/
structure NonNegativeLimits (limits : PartialSplitArtifactLimits) : Prop where
  maxEntryByteLength : ∀ n, limits.maxEntryByteLength = some n → NonNegative n
  maxEntryCount : ∀ n, limits.maxEntryCount = some n → NonNegative n
  maxTotalUnpackedByteLength : ∀ n, limits.maxTotalUnpackedByteLength = some n → NonNegative n

/-- Nor are the resolved limits. -/
theorem nonNegative_resolveLimits {limits : Option PartialSplitArtifactLimits}
    (h : ∀ l, limits = some l → NonNegativeLimits l) :
    NonNegative (resolveLimits limits).maxEntryByteLength ∧
      NonNegative (resolveLimits limits).maxEntryCount ∧
      NonNegative (resolveLimits limits).maxTotalUnpackedByteLength := by
  have hdefault : NonNegative defaultLimits.maxEntryByteLength ∧
      NonNegative defaultLimits.maxEntryCount ∧
      NonNegative defaultLimits.maxTotalUnpackedByteLength := by
    simp only [NonNegative, defaultLimits]
    norm_num
  have hgetD : ∀ {n : Option JsNumber} {d : JsNumber}, (∀ m, n = some m → NonNegative m) →
      NonNegative d → NonNegative (n.getD d) := by
    intro n d hn hd
    cases n with
    | none => exact hd
    | some m => exact hn m rfl
  cases limits with
  | none => exact hdefault
  | some l =>
      obtain ⟨hlength, hcount, htotal⟩ := h l rfl
      exact ⟨hgetD hlength hdefault.1, hgetD hcount hdefault.2.1, hgetD htotal hdefault.2.2⟩

/-- Whatever the format, the entries that are unpacked have passed the checks. -/
theorem unpackDetected_eq_ok {rt : ArchiveRuntime} {archive : List UInt8}
    {limits : SplitArtifactLimits} {format : SplitArtifactFormat}
    {entries : List SplitArtifactEntry}
    (h : unpackDetected rt archive limits format = .ok entries) :
    ∃ unpacked, validateEntries rt.toRuntime unpacked limits false = .ok entries := by
  have htar : ∀ tar, unpackTar rt.toRuntime tar limits = .ok entries →
      ∃ unpacked, validateEntries rt.toRuntime unpacked limits false = .ok entries := by
    intro tar hunpack
    obtain ⟨unpacked, -, hunpack⟩ := bind_eq_ok.mp hunpack
    exact ⟨unpacked, hunpack⟩
  have hgzip : ∀ format, format = .gzipTar ∨ format = .unitypackage →
      unpackDetected rt archive limits format = .ok entries →
      ∃ unpacked, validateEntries rt.toRuntime unpacked limits false = .ok entries := by
    rintro format (rfl | rfl) hunpack
    all_goals
      rw [unpackDetected] at hunpack
      split at hunpack
      · exact htar _ hunpack
      · cases hunpack
  cases format with
  | zip =>
      rw [unpackDetected, unpackZip] at h
      split at h
      · cases h
      obtain ⟨entryCount, -, h⟩ := bind_eq_ok.mp h
      obtain ⟨offset, -, h⟩ := bind_eq_ok.mp h
      obtain ⟨unpacked, -, h⟩ := bind_eq_ok.mp h
      exact ⟨unpacked, h⟩
  | tar => exact htar archive h
  | gzipTar => exact hgzip .gzipTar (.inl rfl) h
  | unitypackage => exact hgzip .unitypackage (.inr rfl) h

/-- **Whatever the bytes, what is returned is safe**: every path stays below the root and is a
fixed point of the normalization, no two entries have one path, and the number of entries, their
lengths and the total are within the resolved limits. -/
theorem splitArtifactArchive_safe {rt : ArchiveRuntime} {input : SplitArtifactArchiveInput}
    {result : SplitArtifactArchiveResult}
    (hlimits : ∀ limits, input.limits = some limits → NonNegativeLimits limits)
    (h : splitArtifactArchive rt input = .ok result) :
    (∀ entry ∈ result.entries, SafeArchivePath entry.logicalPath ∧
      normalizeArchivePath entry.logicalPath = .ok entry.logicalPath) ∧
    (result.entries.map SplitArtifactEntry.logicalPath).Nodup ∧
    AtMost result.entries.length (resolveLimits input.limits).maxEntryCount ∧
    (∀ entry ∈ result.entries,
      AtMost entry.data.length (resolveLimits input.limits).maxEntryByteLength) ∧
    AtMost (totalByteLength result.entries)
      (resolveLimits input.limits).maxTotalUnpackedByteLength := by
  obtain ⟨hlength, hcount, htotal⟩ := nonNegative_resolveLimits hlimits
  rw [splitArtifactArchive] at h
  split at h
  · cases h
  obtain ⟨entries, hentries, h⟩ := bind_eq_ok.mp h
  obtain rfl := Except.ok.inj h
  obtain ⟨unpacked, hvalidate⟩ := unpackDetected_eq_ok hentries
  obtain ⟨hvalid, -⟩ := validateEntries_valid hvalidate (exceeds_zero htotal)
  refine ⟨fun entry hentry => ?_, hvalid.distinct, atMost_of_exceeds hcount hvalid.count,
    fun entry hentry => atMost_of_exceeds hlength (hvalid.byteLength entry hentry),
    atMost_of_exceeds htotal hvalid.total⟩
  have hsafe := hvalid.safe entry hentry
  exact ⟨hsafe, hsafe.normalizeArchivePath_eq⟩

/-- A zip archive of two stored entries, `a` and `b/c`. -/
def nestedArchive : List UInt8 :=
  [0x50, 0x4b, 0x03, 0x04, 0x14, 0x00, 0x00, 0x00, 0x00, 0x00, 0x00, 0x00, 0x21, 0x00, 0x43,
    0xbe, 0xb7, 0xe8, 0x01, 0x00, 0x00, 0x00, 0x01, 0x00, 0x00, 0x00, 0x01, 0x00, 0x00, 0x00,
    0x61, 0x61, 0x50, 0x4b, 0x03, 0x04, 0x14, 0x00, 0x00, 0x00, 0x00, 0x00, 0x00, 0x00, 0x21,
    0x00, 0xac, 0x2a, 0x93, 0xd8, 0x02, 0x00, 0x00, 0x00, 0x02, 0x00, 0x00, 0x00, 0x03, 0x00,
    0x00, 0x00, 0x62, 0x2f, 0x63, 0x68, 0x69, 0x50, 0x4b, 0x01, 0x02, 0x14, 0x00, 0x14, 0x00,
    0x00, 0x00, 0x00, 0x00, 0x00, 0x00, 0x21, 0x00, 0x43, 0xbe, 0xb7, 0xe8, 0x01, 0x00, 0x00,
    0x00, 0x01, 0x00, 0x00, 0x00, 0x01, 0x00, 0x00, 0x00, 0x00, 0x00, 0x00, 0x00, 0x00, 0x00,
    0x00, 0x00, 0x00, 0x00, 0x00, 0x00, 0x00, 0x00, 0x61, 0x50, 0x4b, 0x01, 0x02, 0x14, 0x00,
    0x14, 0x00, 0x00, 0x00, 0x00, 0x00, 0x00, 0x00, 0x21, 0x00, 0xac, 0x2a, 0x93, 0xd8, 0x02,
    0x00, 0x00, 0x00, 0x02, 0x00, 0x00, 0x00, 0x03, 0x00, 0x00, 0x00, 0x00, 0x00, 0x00, 0x00,
    0x00, 0x00, 0x00, 0x00, 0x00, 0x00, 0x20, 0x00, 0x00, 0x00, 0x62, 0x2f, 0x63, 0x50, 0x4b,
    0x05, 0x06, 0x00, 0x00, 0x00, 0x00, 0x02, 0x00, 0x02, 0x00, 0x60, 0x00, 0x00, 0x00, 0x43,
    0x00, 0x00, 0x00, 0x00, 0x00]

/-- Limits that the archive just meets. -/
def nestedLimits : PartialSplitArtifactLimits :=
  ⟨some (.finite 2), some (.finite 2), some (.finite 3)⟩

/-- A filename in capitals, and limits that the archive just meets. -/
theorem nestedArchive_safe :
    ∃ result,
      splitArtifactArchive sampleArchiveRuntime
        ⟨nestedArchive, codeUnits "A.ZIP", some nestedLimits⟩ = .ok result ∧
      result.entries.map (fun entry => (entry.logicalPath, entry.data)) =
        [(codeUnits "a", [0x61]), (codeUnits "b/c", [0x68, 0x69])] ∧
      (∀ entry ∈ result.entries, SafeArchivePath entry.logicalPath ∧
        normalizeArchivePath entry.logicalPath = .ok entry.logicalPath) ∧
      (result.entries.map SplitArtifactEntry.logicalPath).Nodup ∧
      AtMost result.entries.length (.finite 2) ∧
      (∀ entry ∈ result.entries, AtMost entry.data.length (.finite 2)) ∧
      AtMost (totalByteLength result.entries) (.finite 3) := by
  have hsplit : splitArtifactArchive sampleArchiveRuntime
      ⟨nestedArchive, codeUnits "A.ZIP", some nestedLimits⟩ =
        .ok ⟨[⟨[0x61], codeUnits "a", none, none⟩, ⟨[0x68, 0x69], codeUnits "b/c", none, none⟩],
          .zip, 185⟩ := by
    decide +kernel
  refine ⟨_, hsplit, rfl, splitArtifactArchive_safe ?_ hsplit⟩
  rintro limits ⟨⟩
  refine ⟨?_, ?_, ?_⟩
  · rintro n ⟨⟩
    exact zero_le_two
  · rintro n ⟨⟩
    exact zero_le_two
  · rintro n ⟨⟩
    exact zero_le_three

/-! ### Filenames and formats -/

/-- Of two suffixes of one string, one is a suffix of the other. -/
theorem endsWith_and {s : JsString} {first second : String} (hfirst : endsWith s first = true)
    (hsecond : endsWith s second = true) :
    (codeUnits first).isSuffixOf (codeUnits second) = true ∨
      (codeUnits second).isSuffixOf (codeUnits first) = true := by
  rw [endsWith, List.isSuffixOf_iff_suffix] at hfirst hsecond
  rw [List.isSuffixOf_iff_suffix, List.isSuffixOf_iff_suffix]
  exact List.suffix_or_suffix_of_suffix hfirst hsecond

/-- The filenames of a format, in lower case. -/
def MatchesFormat (lower : JsString) : SplitArtifactFormat → Prop
  | .gzipTar => endsWith lower ".tar.gz" = true ∨ endsWith lower ".tgz" = true
  | .tar => endsWith lower ".tar" = true
  | .unitypackage => endsWith lower ".unitypackage" = true
  | .zip => endsWith lower ".zip" = true

/-- An archive that looks like one of a format. -/
def looksLike (rt : ArchiveRuntime) (archive : List UInt8) : SplitArtifactFormat → Bool
  | .gzipTar | .unitypackage => looksLikeGzipTar rt archive
  | .tar => looksLikeTar archive
  | .zip => looksLikeZip archive

/-- The suffixes of the formats exclude each other. -/
theorem not_endsWith {s : JsString} {first second : String} (hfirst : endsWith s first = true)
    (hforward : (codeUnits first).isSuffixOf (codeUnits second) = false)
    (hbackward : (codeUnits second).isSuffixOf (codeUnits first) = false) :
    endsWith s second = false := by
  rw [← Bool.not_eq_true]
  intro hsecond
  cases endsWith_and hfirst hsecond with
  | inl h => rw [hforward] at h; cases h
  | inr h => rw [hbackward] at h; cases h

/-- **A filename of a format is detected when the bytes look like it**, and as nothing else. -/
theorem detectSplitArtifactFormat_of_matches {rt : ArchiveRuntime} {filename : JsString}
    (archive : List UInt8) {format : SplitArtifactFormat}
    (hfilename : MatchesFormat (rt.toLowerCase filename) format) :
    detectSplitArtifactFormat rt filename archive =
      if looksLike rt archive format = true then some format else none := by
  simp only [detectSplitArtifactFormat]
  generalize rt.toLowerCase filename = lower at hfilename
  cases format with
  | unitypackage =>
      have hsuffix : endsWith lower ".unitypackage" = true := hfilename
      rw [if_pos hsuffix, looksLike]
  | gzipTar =>
      have hunity : endsWith lower ".unitypackage" = false :=
        hfilename.elim (fun h => not_endsWith h (by decide) (by decide))
          fun h => not_endsWith h (by decide) (by decide)
      rw [hunity, if_neg Bool.false_ne_true, if_pos (Bool.or_eq_true_iff.mpr hfilename),
        looksLike]
  | tar =>
      have hsuffix : endsWith lower ".tar" = true := hfilename
      have hunity : endsWith lower ".unitypackage" = false :=
        not_endsWith hsuffix (by decide) (by decide)
      have hgz : endsWith lower ".tar.gz" = false := not_endsWith hsuffix (by decide) (by decide)
      have htgz : endsWith lower ".tgz" = false := not_endsWith hsuffix (by decide) (by decide)
      rw [hunity, hgz, htgz, Bool.or_false, if_neg Bool.false_ne_true, if_neg Bool.false_ne_true,
        if_pos hsuffix, looksLike]
  | zip =>
      have hsuffix : endsWith lower ".zip" = true := hfilename
      have hunity : endsWith lower ".unitypackage" = false :=
        not_endsWith hsuffix (by decide) (by decide)
      have hgz : endsWith lower ".tar.gz" = false := not_endsWith hsuffix (by decide) (by decide)
      have htgz : endsWith lower ".tgz" = false := not_endsWith hsuffix (by decide) (by decide)
      have htar : endsWith lower ".tar" = false := not_endsWith hsuffix (by decide) (by decide)
      rw [hunity, hgz, htgz, htar, Bool.or_false, if_neg Bool.false_ne_true,
        if_neg Bool.false_ne_true, if_neg Bool.false_ne_true, if_pos hsuffix, looksLike]

/-! ### What is created is read back -/

/-- Checked entries that are written to an archive. -/
def PackedAs (rt : ArchiveRuntime) (entries : List SplitArtifactEntry) (buffer : List UInt8) :
    SplitArtifactFormat → Prop
  | .zip => packZip rt entries = .ok buffer
  | .tar => packTar false entries = .ok buffer
  | .gzipTar | .unitypackage =>
      ∃ tar, packTar false entries = .ok tar ∧ buffer = rt.gzipSync tar

/-- The entries that an archive is created of. -/
theorem createSplitArtifactArchive_eq_ok {rt : ArchiveRuntime} {entries : List SplitArtifactEntry}
    {format : SplitArtifactFormat} {buffer : List UInt8}
    (h : createSplitArtifactArchive rt ⟨entries, format, false⟩ = .ok buffer)
    (hwell : ∀ entry ∈ entries, Utf8.WellFormed entry.logicalPath) :
    ∃ validated, ValidEntries defaultLimits validated ∧
      List.Forall₂ NormalizedTo entries validated ∧
      (∀ entry ∈ validated, Utf8.WellFormed entry.logicalPath) ∧
      PackedAs rt validated buffer format := by
  obtain ⟨validated, hvalidate, hpack⟩ := bind_eq_ok.mp h
  obtain ⟨hvalid, hnormalized⟩ := @validateEntries_valid _ _ entries validated hvalidate
    (exceeds_zero (@nonNegative_resolveLimits none fun l hl => by cases hl).2.2)
  have htexts : ∀ entry ∈ validated, Utf8.WellFormed entry.logicalPath := by
    clear hvalid hvalidate hpack h
    induction hnormalized with
    | nil => exact fun entry hentry => absurd hentry List.not_mem_nil
    | @cons given entry rest validated hgiven hrest ih =>
        rw [List.forall_mem_cons] at hwell ⊢
        exact ⟨normalizeArchivePath_wellFormed hgiven.1 hwell.1, ih hwell.2⟩
  refine ⟨validated, hvalid, hnormalized, htexts, ?_⟩
  cases format with
  | zip => exact hpack
  | tar => exact hpack
  | gzipTar =>
      obtain ⟨tar, htar, heq⟩ := bind_eq_ok.mp hpack
      exact ⟨tar, htar, (Except.ok.inj heq).symm⟩
  | unitypackage =>
      obtain ⟨tar, htar, heq⟩ := bind_eq_ok.mp hpack
      exact ⟨tar, htar, (Except.ok.inj heq).symm⟩

/-- **A zip archive is read back**: whatever the entries hold, their normalized paths and their data
come back in order. -/
theorem splitArtifactArchive_createZip {rt : ArchiveRuntime}
    (hinflate : ∀ data, rt.inflateRawSync (rt.deflateRawSync data) = some data)
    {entries : List SplitArtifactEntry} {buffer : List UInt8} {filename : JsString}
    (hwell : ∀ entry ∈ entries, Utf8.WellFormed entry.logicalPath)
    (hfilename : endsWith (rt.toLowerCase filename) ".zip" = true)
    (hcreate : createSplitArtifactArchive rt ⟨entries, .zip, false⟩ = .ok buffer) :
    ∃ restored,
      splitArtifactArchive rt ⟨buffer, filename, none⟩ = .ok ⟨restored, .zip, buffer.length⟩ ∧
      List.Forall₂ (fun entry r => normalizeArchivePath entry.logicalPath = .ok r.logicalPath ∧
        r.data = entry.data) entries restored := by
  obtain ⟨validated, hvalid, hnormalized, htexts, hpack⟩ :=
    createSplitArtifactArchive_eq_ok hcreate hwell
  obtain ⟨hlooks, hunpack⟩ := @unpackZip_packZip rt validated buffer defaultLimits hinflate
    (fun entry hentry => ⟨hvalid.safe entry hentry, htexts entry hentry⟩) hpack
  have hdetect : detectSplitArtifactFormat rt filename buffer = some .zip :=
    (@detectSplitArtifactFormat_of_matches rt _ _ .zip hfilename).trans (if_pos hlooks)
  refine ⟨validated.map zipRestored, ?_, ?_⟩
  · rw [splitArtifactArchive, hdetect]
    simp only [unpackDetected, resolveLimits, hunpack, bind, Except.bind]
    rw [(hvalid.map (f := zipRestored) fun entry => ⟨rfl, rfl⟩).validateEntries]
  · rw [List.forall₂_map_right_iff]
    refine hnormalized.imp fun entry normalized hentry => ⟨hentry.1, ?_⟩
    rw [hentry.2]
    rfl

/-- Two entries under one directory, one of them with the bytes of an end record's signature. -/
def sampleSplitEntries : List SplitArtifactEntry :=
  [⟨[0x61], codeUnits "Assets\\a.txt", some 0o644, some (.valid 1777593600000)⟩,
    ⟨[0x50, 0x4b, 0x05, 0x06], codeUnits "Assets/b.txt", some 0o755, some (.valid 0)⟩]

theorem sampleSplitEntries_zip :
    ∃ buffer restored,
      createSplitArtifactArchive sampleArchiveRuntime ⟨sampleSplitEntries, .zip, false⟩ =
        .ok buffer ∧
      splitArtifactArchive sampleArchiveRuntime ⟨buffer, codeUnits "sample.zip", none⟩ =
        .ok ⟨restored, .zip, buffer.length⟩ ∧
      List.Forall₂ (fun entry r => normalizeArchivePath entry.logicalPath = .ok r.logicalPath ∧
        r.data = entry.data) sampleSplitEntries restored := by
  have hcreated : (createSplitArtifactArchive sampleArchiveRuntime
      ⟨sampleSplitEntries, .zip, false⟩).isOk = true := by
    decide +kernel
  obtain ⟨buffer, hbuffer⟩ := exists_of_isOk hcreated
  have hinflate : ∀ data, sampleArchiveRuntime.inflateRawSync
      (sampleArchiveRuntime.deflateRawSync data) = some data := by
    intro data
    by_cases hletter : data = [0x61]
    · rw [hletter]
      rfl
    by_cases hsignature : data = [0x50, 0x4b, 0x05, 0x06]
    · rw [hsignature]
      rfl
    · simp only [sampleArchiveRuntime, if_neg hletter, if_neg hsignature]
  obtain ⟨restored, hsplit, hentries⟩ := @splitArtifactArchive_createZip sampleArchiveRuntime
    hinflate sampleSplitEntries buffer (codeUnits "sample.zip") (by decide) (by decide) hbuffer
  exact ⟨buffer, restored, hbuffer, hsplit, hentries⟩

/-! ### Tar archives are read back -/

/-- What the code relies on in the compressor: what is compressed comes back, and begins with
the two bytes that tell the format. -/
structure GzipRoundTrips (rt : ArchiveRuntime) : Prop where
  gunzip_gzip : ∀ data, rt.gunzipSync (rt.gzipSync data) = some data
  magic : ∀ data, ∃ rest, rt.gzipSync data = 0x1f :: 0x8b :: rest

theorem looksLikeTar_packTar {skip : Bool} {entries : List SplitArtifactEntry} {tar : List UInt8}
    (h : packTar skip entries = .ok tar) : looksLikeTar tar = true := by
  obtain ⟨hlength, hmod⟩ := length_packTar h
  rw [looksLikeTar, if_neg (by omega), Bool.or_eq_true]
  refine (packTar_front h).imp_left fun hfront => ?_
  rw [hfront]
  decide

theorem safe_of_ustarReadAs {entries restored : List SplitArtifactEntry}
    (h : List.Forall₂ UstarReadAs entries restored) :
    ∀ entry ∈ entries, SafeArchivePath entry.logicalPath := by
  induction h with
  | nil => exact fun entry hentry => absurd hentry List.not_mem_nil
  | cons hentry hrest ih => exact List.forall_mem_cons.mpr ⟨hentry.1.safe, ih⟩

/-- **A tar archive in any of its wrappings is read back** as its headers say. -/
theorem splitArtifactArchive_packedAs {rt : ArchiveRuntime} (hgzip : GzipRoundTrips rt)
    {format : SplitArtifactFormat} (hformat : format ≠ .zip)
    {entries restored : List SplitArtifactEntry} {buffer : List UInt8} {filename : JsString}
    (hpack : PackedAs rt entries buffer format) (hread : List.Forall₂ UstarReadAs entries restored)
    (hvalid : ValidEntries defaultLimits restored)
    (hfilename : MatchesFormat (rt.toLowerCase filename) format) :
    splitArtifactArchive rt ⟨buffer, filename, none⟩ =
      .ok ⟨restored, format, buffer.length⟩ := by
  have hsafe := safe_of_ustarReadAs hread
  have htar : ∀ tar, packTar false entries = .ok tar →
      looksLikeTar tar = true ∧ unpackTar rt.toRuntime tar defaultLimits = .ok restored := by
    intro tar htar
    refine ⟨looksLikeTar_packTar htar, ?_⟩
    rw [unpackTar, unpackTarFrom_packTar htar hread]
    exact hvalid.validateEntries _
  have hgz : ∀ tar, packTar false entries = .ok tar →
      looksLikeGzipTar rt (rt.gzipSync tar) = true := by
    intro tar htar'
    obtain ⟨rest, hrest⟩ := hgzip.magic tar
    rw [looksLikeGzipTar, hgzip.gunzip_gzip, hrest, if_neg (by simp)]
    exact (htar tar htar').1
  cases format with
  | zip => exact absurd rfl hformat
  | tar =>
      obtain ⟨hlooks, hunpack⟩ := htar buffer hpack
      have hdetect : detectSplitArtifactFormat rt filename buffer = some .tar :=
        (@detectSplitArtifactFormat_of_matches rt _ _ .tar hfilename).trans (if_pos hlooks)
      rw [splitArtifactArchive, hdetect]
      simp only [unpackDetected, resolveLimits, hunpack, bind, Except.bind]
  | gzipTar =>
      obtain ⟨tar, hpack, rfl⟩ := hpack
      have hdetect : detectSplitArtifactFormat rt filename (rt.gzipSync tar) = some .gzipTar :=
        (@detectSplitArtifactFormat_of_matches rt _ _ .gzipTar hfilename).trans
        (if_pos (hgz tar hpack))
      rw [splitArtifactArchive, hdetect]
      simp only [unpackDetected, resolveLimits, hgzip.gunzip_gzip, (htar tar hpack).2, bind,
        Except.bind]
  | unitypackage =>
      obtain ⟨tar, hpack, rfl⟩ := hpack
      have hdetect : detectSplitArtifactFormat rt filename (rt.gzipSync tar) = some .unitypackage :=
        (@detectSplitArtifactFormat_of_matches rt _ _ .unitypackage hfilename).trans
        (if_pos (hgz tar hpack))
      rw [splitArtifactArchive, hdetect]
      simp only [unpackDetected, resolveLimits, hgzip.gunzip_gzip, (htar tar hpack).2, bind,
        Except.bind]

/-- The default limits keep the length of an entry within eleven octal digits. -/
theorem length_lt_of_defaultLimits {length : Nat}
    (h : exceeds length defaultLimits.maxEntryByteLength = false) : length < 8 ^ 11 := by
  have hle : (length : Rat) ≤ 1024 * 1024 * 1024 := not_lt.mp (of_decide_eq_false h)
  have hnat : length ≤ 1024 * 1024 * 1024 := by exact_mod_cast hle
  omega

/-- Checked entries whose paths fit are read back at their own paths. -/
theorem forall₂_ustarReadAs {validated : List SplitArtifactEntry}
    {tar : List UInt8} (hpack : packTar false validated = .ok tar)
    (hentries : ∀ entry ∈ validated, SafeArchivePath entry.logicalPath ∧
      Utf8.WellFormed entry.logicalPath ∧ UstarBounds entry ∧ FitsUstar entry.logicalPath) :
    List.Forall₂ UstarReadAs validated
      (validated.map fun entry => ustarRestored entry entry.logicalPath) := by
  induction validated generalizing tar with
  | nil => exact .nil
  | cons entry rest ih =>
      obtain ⟨header, blocks, hheader, hblocks, -⟩ := packTar_cons_eq_ok hpack
      obtain ⟨hsafe, hwell, hbounds, hfits⟩ := hentries entry List.mem_cons_self
      exact .cons (hfits.readAs hsafe hwell hbounds hheader)
        (ih hblocks fun e he => hentries e (List.mem_cons_of_mem entry he))

/-- **A tar archive is read back**: the entries come back in order with the same normalized paths,
data, modes and modification times, a mode of `0o644` and the epoch standing for those that an entry
does not have, when the headers can hold the paths. -/
theorem splitArtifactArchive_createTar {rt : ArchiveRuntime} (hgzip : GzipRoundTrips rt)
    {format : SplitArtifactFormat} (hformat : format ≠ .zip)
    {entries : List SplitArtifactEntry} {buffer : List UInt8} {filename : JsString}
    (hwell : ∀ entry ∈ entries, Utf8.WellFormed entry.logicalPath)
    (hmode : ∀ entry ∈ entries, ∀ mode, entry.mode = some mode → 0 ≤ mode ∧ mode < 8 ^ 7)
    (hmtime : ∀ entry ∈ entries, ∀ date, entry.mtime = some date →
      ∃ seconds : Nat, seconds < 8 ^ 11 ∧ date = .valid (seconds * 1000))
    (hfits : ∀ entry ∈ entries, ∀ path, normalizeArchivePath entry.logicalPath = .ok path →
      FitsUstar path)
    (hfilename : MatchesFormat (rt.toLowerCase filename) format)
    (hcreate : createSplitArtifactArchive rt ⟨entries, format, false⟩ = .ok buffer) :
    ∃ restored,
      splitArtifactArchive rt ⟨buffer, filename, none⟩ = .ok ⟨restored, format, buffer.length⟩ ∧
      List.Forall₂ (fun entry r => normalizeArchivePath entry.logicalPath = .ok r.logicalPath ∧
        r.data = entry.data ∧ r.mode = some (entry.mode.getD 0o644) ∧
        r.mtime = some (entry.mtime.getD (.valid 0))) entries restored := by
  obtain ⟨validated, hvalid, hnormalized, htexts, hpack⟩ :=
    createSplitArtifactArchive_eq_ok hcreate hwell
  have hgiven : ∀ entry ∈ validated, UstarBounds entry ∧ FitsUstar entry.logicalPath := by
    have hlength := hvalid.byteLength
    clear hcreate hwell hvalid htexts hpack
    induction hnormalized with
    | nil => exact fun entry hentry => absurd hentry List.not_mem_nil
    | @cons given entry rest validated hgiven hrest ih =>
        rw [List.forall_mem_cons] at hmode hmtime hfits hlength ⊢
        refine ⟨⟨⟨length_lt_of_defaultLimits hlength.1, fun mode hentry => ?_,
          fun date hentry => ?_⟩, hfits.1 _ hgiven.1⟩, ih hmode.2 hmtime.2 hfits.2 hlength.2⟩
        · rw [hgiven.2] at hentry
          exact hmode.1 mode hentry
        · rw [hgiven.2] at hentry
          exact hmtime.1 date hentry
  have htar : ∃ tar, packTar false validated = .ok tar := by
    cases format with
    | zip => exact absurd rfl hformat
    | tar => exact ⟨buffer, hpack⟩
    | gzipTar => exact ⟨hpack.choose, hpack.choose_spec.1⟩
    | unitypackage => exact ⟨hpack.choose, hpack.choose_spec.1⟩
  obtain ⟨tar, htar⟩ := htar
  have hread := forall₂_ustarReadAs htar fun entry hentry =>
    ⟨hvalid.safe entry hentry, htexts entry hentry, hgiven entry hentry⟩
  refine ⟨_, splitArtifactArchive_packedAs hgzip hformat hpack hread
    (hvalid.map fun entry => ⟨rfl, rfl⟩) hfilename, ?_⟩
  rw [List.forall₂_map_right_iff]
  refine hnormalized.imp fun entry normalized hentry => ?_
  obtain ⟨hpath, heq⟩ := hentry
  refine ⟨hpath, ?_, ?_, ?_⟩
  · rw [heq]
    rfl
  · rw [heq]
    rfl
  · rw [heq]
    rfl

theorem sampleArchiveRuntime_gzip : GzipRoundTrips sampleArchiveRuntime :=
  ⟨fun _ => rfl, fun data => ⟨data, rfl⟩⟩

/-- A path of a directory and a name of 100 letters, which a header holds in two parts. -/
def deepPath : JsString :=
  codeUnits "Assets/" ++ List.replicate 100 0x6e

/-- An entry with a mode and a time, and one under a long path with neither. -/
def deepSplitEntries : List SplitArtifactEntry :=
  [⟨[0x61], codeUnits "Assets\\a.txt", some 0o755, some (.valid 1777593600000)⟩,
    ⟨[0x62], deepPath, none, none⟩]

theorem deepSplitEntries_tar :
    ∃ buffer restored,
      createSplitArtifactArchive sampleArchiveRuntime ⟨deepSplitEntries, .tar, false⟩ =
        .ok buffer ∧
      splitArtifactArchive sampleArchiveRuntime ⟨buffer, codeUnits "sample.tar", none⟩ =
        .ok ⟨restored, .tar, buffer.length⟩ ∧
      List.Forall₂ (fun entry r => normalizeArchivePath entry.logicalPath = .ok r.logicalPath ∧
        r.data = entry.data ∧ r.mode = some (entry.mode.getD 0o644) ∧
        r.mtime = some (entry.mtime.getD (.valid 0))) deepSplitEntries restored := by
  have hcreated : (createSplitArtifactArchive sampleArchiveRuntime
      ⟨deepSplitEntries, .tar, false⟩).isOk = true := by
    decide +kernel
  obtain ⟨buffer, hbuffer⟩ := exists_of_isOk hcreated
  have hmode : ∀ entry ∈ deepSplitEntries, ∀ mode, entry.mode = some mode →
      0 ≤ mode ∧ mode < 8 ^ 7 := by
    intro entry hentry mode hmode
    simp only [deepSplitEntries, List.mem_cons, List.not_mem_nil, or_false] at hentry
    rcases hentry with rfl | rfl <;> cases hmode
    decide
  have hmtime : ∀ entry ∈ deepSplitEntries, ∀ date, entry.mtime = some date →
      ∃ seconds : Nat, seconds < 8 ^ 11 ∧ date = .valid (seconds * 1000) := by
    intro entry hentry date hdate
    simp only [deepSplitEntries, List.mem_cons, List.not_mem_nil, or_false] at hentry
    rcases hentry with rfl | rfl
    · exact ⟨1777593600, by decide, (Option.some.inj hdate).symm⟩
    · cases hdate
  have hfits : ∀ entry ∈ deepSplitEntries, ∀ path,
      normalizeArchivePath entry.logicalPath = .ok path → FitsUstar path := by
    have hpaths : deepSplitEntries.map (fun entry => normalizeArchivePath entry.logicalPath) =
        [.ok (codeUnits "Assets/a.txt"), .ok deepPath] := by
      decide +kernel
    intro entry hentry path hpath
    have hmem := List.mem_map_of_mem (f := fun entry => normalizeArchivePath entry.logicalPath)
      hentry
    rw [hpaths, hpath] at hmem
    simp only [List.mem_cons, List.not_mem_nil, or_false, Except.ok.injEq] at hmem
    rcases hmem with rfl | rfl
    · exact ⟨by decide, .inl (by decide)⟩
    · exact ⟨by decide +kernel, .inr (by decide +kernel)⟩
  have hfilename : endsWith (sampleArchiveRuntime.toLowerCase (codeUnits "sample.tar")) ".tar" =
      true := by
    decide
  obtain ⟨restored, hsplit, hentries⟩ := @splitArtifactArchive_createTar sampleArchiveRuntime
    sampleArchiveRuntime_gzip .tar (by decide) deepSplitEntries buffer (codeUnits "sample.tar")
    (by decide +kernel) hmode hmtime hfits hfilename hbuffer
  exact ⟨buffer, restored, hbuffer, hsplit, hentries⟩

/-- A tar archive of valid entries on the sample platform. -/
theorem exists_tar_of_readAs {entries restored : List SplitArtifactEntry}
    (hentries : validateEntries sampleRuntime entries defaultLimits false = .ok entries)
    (hrestored : validateEntries sampleRuntime restored defaultLimits false = .ok restored)
    (hpack : (packTar false entries).isOk = true)
    (hread : List.Forall₂ UstarReadAs entries restored) :
    ∃ buffer, createSplitArtifactArchive sampleArchiveRuntime ⟨entries, .tar, false⟩ = .ok buffer ∧
      splitArtifactArchive sampleArchiveRuntime ⟨buffer, codeUnits "sample.tar", none⟩ =
        .ok ⟨restored, .tar, buffer.length⟩ := by
  obtain ⟨buffer, hbuffer⟩ := exists_of_isOk hpack
  have hnonneg := (@nonNegative_resolveLimits none fun l hl => by cases hl).2.2
  obtain ⟨hvalid, -⟩ := validateEntries_valid hrestored (exceeds_zero hnonneg)
  have hfilename : endsWith (sampleArchiveRuntime.toLowerCase (codeUnits "sample.tar")) ".tar" =
      true := by
    decide
  refine ⟨buffer, ?_, @splitArtifactArchive_packedAs sampleArchiveRuntime sampleArchiveRuntime_gzip
    .tar (by decide) entries restored buffer (codeUnits "sample.tar") hbuffer hread hvalid
    hfilename⟩
  rw [createSplitArtifactArchive]
  change validateEntries sampleRuntime entries defaultLimits false >>= _ = _
  rw [hentries]
  exact hbuffer

/-- A zip archive of one stored byte, under the path `a`. -/
def storedArchive : List UInt8 :=
  [0x50, 0x4b, 0x03, 0x04, 0x14, 0x00, 0x00, 0x00, 0x00, 0x00, 0x00, 0x00, 0x21, 0x00, 0x43,
    0xbe, 0xb7, 0xe8, 0x01, 0x00, 0x00, 0x00, 0x01, 0x00, 0x00, 0x00, 0x01, 0x00, 0x00, 0x00,
    0x61, 0x61, 0x50, 0x4b, 0x01, 0x02, 0x14, 0x00, 0x14, 0x00, 0x00, 0x00, 0x00, 0x00, 0x00,
    0x00, 0x21, 0x00, 0x43, 0xbe, 0xb7, 0xe8, 0x01, 0x00, 0x00, 0x00, 0x01, 0x00, 0x00, 0x00,
    0x01, 0x00, 0x00, 0x00, 0x00, 0x00, 0x00, 0x00, 0x00, 0x00, 0x00, 0x00, 0x00, 0x00, 0x00,
    0x00, 0x00, 0x00, 0x61, 0x50, 0x4b, 0x05, 0x06, 0x00, 0x00, 0x00, 0x00, 0x01, 0x00, 0x01,
    0x00, 0x2f, 0x00, 0x00, 0x00, 0x20, 0x00, 0x00, 0x00, 0x00, 0x00]

/-- An entry as a zip archive gives it comes back from a tar archive with a mode and a modification
time; and a path of 101 letters comes back without its first. -/
theorem tar_changes_entries :
    (∃ entry buffer,
      splitArtifactArchive sampleArchiveRuntime ⟨storedArchive, codeUnits "a.zip", none⟩ =
        .ok ⟨[entry], .zip, storedArchive.length⟩ ∧
      entry.mode = none ∧ entry.mtime = none ∧
      createSplitArtifactArchive sampleArchiveRuntime ⟨[entry], .tar, false⟩ = .ok buffer ∧
      splitArtifactArchive sampleArchiveRuntime ⟨buffer, codeUnits "sample.tar", none⟩ =
        .ok ⟨[{ entry with mode := some 0o644, mtime := some (.valid 0) }], .tar,
          buffer.length⟩) ∧
    ∃ buffer,
      createSplitArtifactArchive sampleArchiveRuntime
        ⟨[⟨[0x61], List.replicate 101 97, some 0o644, some (.valid 0)⟩], .tar, false⟩ =
          .ok buffer ∧
      splitArtifactArchive sampleArchiveRuntime ⟨buffer, codeUnits "sample.tar", none⟩ =
        .ok ⟨[⟨[0x61], List.replicate 100 97, some 0o644, some (.valid 0)⟩], .tar,
          buffer.length⟩ := by
  have hplain : UstarReadAs ⟨[0x61], codeUnits "a", none, none⟩
      ⟨[0x61], codeUnits "a", some 0o644, some (.valid 0)⟩ := by
    refine ⟨⟨safeArchivePath_iff.mpr (by decide +kernel), ⟨by decide, ?_, ?_⟩, by decide, by decide,
      by decide +kernel⟩, rfl⟩
    · exact fun mode hmode => by cases hmode
    · exact fun date hdate => by cases hdate
  have hlong : UstarReadAs ⟨[0x61], List.replicate 101 97, some 0o644, some (.valid 0)⟩
      ⟨[0x61], List.replicate 100 97, some 0o644, some (.valid 0)⟩ := by
    refine ⟨⟨safeArchivePath_iff.mpr (by decide +kernel), ⟨by decide, ?_, ?_⟩,
      by decide +kernel, by decide +kernel, by decide +kernel⟩, rfl⟩
    · rintro mode ⟨⟩
      decide
    · rintro date ⟨⟩
      exact ⟨0, by decide, rfl⟩
  obtain ⟨buffer, hcreate, hsplit⟩ := exists_tar_of_readAs (by decide +kernel) (by decide +kernel)
    (by decide +kernel) (.cons hplain .nil)
  obtain ⟨long, hlongCreate, hlongSplit⟩ := exists_tar_of_readAs (by decide +kernel)
    (by decide +kernel) (by decide +kernel) (.cons hlong .nil)
  exact ⟨⟨⟨[0x61], codeUnits "a", none, none⟩, buffer, by decide +kernel, rfl, rfl, hcreate,
    hsplit⟩, long, hlongCreate, hlongSplit⟩

end Cdngine
