import Mathlib.Algebra.Order.Ring.Rat
import Mathlib.Data.Nat.Cast.Order.Ring
import Mathlib.Data.List.DropRight
import Cdngine.Platform
import Cdngine.Strip
import Cdngine.Utf8

/-!
# Archive Entries and Their Paths

The entries that the split-history adapters read from archives and write to them, the
normalization of their paths, and the checks that every list of entries passes on its way in or
out. Strings are lists of UTF-16 code units, as the path of an entry is cut and encoded by unit.

## Main results

* `safeArchivePath_iff`: the safe paths are the fixed points of the normalization.
* `normalizeArchivePath_safe`: the normalization gives nothing else.
* `normalizeArchivePath_wellFormed`: it keeps a path well-formed.
* `validateEntries_valid`, `ValidEntries.validateEntries`: the checks give lists that are
  valid, and pass valid lists unchanged.
-/

namespace Cdngine

/-! ### Strings and errors -/

/-- A string: its UTF-16 code units. -/
abbrev JsString := List UInt16

/-- The code units of a text. -/
def codeUnits (text : String) : JsString := text.toList.flatMap fun c => Utf8.units c.toNat

/-- What the adapters throw: their own two errors, and the errors of buffers and of the
decompressors. -/
inductive SplitArtifactError
  | archiveSafety (message : JsString)
  | unsupportedSplitArtifact (message : JsString)
  | outOfRange
  | invalidCompressedData
  deriving DecidableEq, Repr

/-- What the adapters take from the platform beside the `Runtime`: lower case, and compression;
the decompressors fail on data they do not understand. -/
structure ArchiveRuntime extends Runtime where
  toLowerCase : JsString → JsString
  deflateRawSync : List UInt8 → List UInt8
  inflateRawSync : List UInt8 → Option (List UInt8)
  gzipSync : List UInt8 → List UInt8
  gunzipSync : List UInt8 → Option (List UInt8)

/-- `${...}` between double quotes. -/
def inQuotes (s : JsString) : JsString := codeUnits "\"" ++ s ++ codeUnits "\""

/-! ### Normalizing a path -/

/-- The units of the characters that a path is normalized by. -/
abbrev slash : UInt16 := 47

/-- The other separator. -/
abbrev backslash : UInt16 := 92

/-- The dot. -/
abbrev dot : UInt16 := 46

/-- The colon behind a drive letter. -/
abbrev colon : UInt16 := 58

/-- `.replace(/\\/g, '/')`. -/
def replaceBackslashes (path : JsString) : JsString :=
  path.map fun u => if u = backslash then slash else u

/-- `.replace(/^\.\/+/, '')`. -/
def stripDotSlash : JsString → JsString
  | u :: v :: rest =>
      if u = dot ∧ v = slash then rest.dropWhile fun u => u = slash else u :: v :: rest
  | path => path

/-- `.replace(/\/+$/g, '')`. -/
def stripTrailingSlashes (path : JsString) : JsString := path.rdropWhile fun u => u = slash

/-- `/^[A-Za-z]:/.test(path)`. -/
def hasDrivePrefix : JsString → Bool
  | letter :: u :: _ => ((65 ≤ letter ∧ letter ≤ 90) ∨ (97 ≤ letter ∧ letter ≤ 122)) ∧ u = colon
  | _ => false

/-- The segments `'.'` and `'..'`. -/
def isDotSegment (segment : JsString) : Bool := segment = [dot, dot] ∨ segment = [dot]

/-- `path.split('/').filter(Boolean)`. -/
def pathSegments (path : JsString) : List JsString :=
  (path.splitOn slash).filter fun segment => segment ≠ []

/-- `normalizeArchivePath`. -/
def normalizeArchivePath (rawPath : JsString) : Except SplitArtifactError JsString :=
  let normalized := stripTrailingSlashes (stripDotSlash (replaceBackslashes rawPath))
  let segments := pathSegments normalized
  if normalized = [] ∨ normalized.head? = some slash ∨ hasDrivePrefix normalized = true ∨
      segments.any isDotSegment = true then
    .error (.archiveSafety (codeUnits "Unsafe archive path " ++ inQuotes rawPath ++ codeUnits "."))
  else .ok ([slash].intercalate segments)

/-- A path that stays below the root: relative, without backslash or drive prefix, and without
an empty, `'.'` or `'..'` segment. -/
structure SafeArchivePath (path : JsString) : Prop where
  relative : path.head? ≠ some slash
  noBackslash : backslash ∉ path
  noDrive : hasDrivePrefix path = false
  segments : ∀ segment ∈ path.splitOn slash, segment ≠ [] ∧ segment ≠ [dot] ∧ segment ≠ [dot, dot]

theorem isDotSegment_eq_false_iff {segment : JsString} :
    isDotSegment segment = false ↔ segment ≠ [dot] ∧ segment ≠ [dot, dot] := by
  rw [isDotSegment, decide_eq_false_iff_not, not_or, and_comm]

section SafeArchivePath

variable {path : JsString}

theorem SafeArchivePath.nil_notMem (h : SafeArchivePath path) : [] ∉ path.splitOn slash :=
  fun hnil => (h.segments [] hnil).1 rfl

theorem SafeArchivePath.ne_nil (h : SafeArchivePath path) : path ≠ [] := by
  rintro rfl
  exact h.nil_notMem List.mem_cons_self

theorem SafeArchivePath.replaceBackslashes_eq (h : SafeArchivePath path) :
    replaceBackslashes path = path := by
  rw [replaceBackslashes]
  refine (List.map_congr_left fun u hu => ?_).trans (List.map_id path)
  have hne : u ≠ backslash := fun heq => h.noBackslash (heq ▸ hu)
  rw [if_neg hne, id]

theorem SafeArchivePath.stripDotSlash_eq (h : SafeArchivePath path) :
    stripDotSlash path = path := by
  match path, h with
  | [], _ => rfl
  | [u], _ => rfl
  | u :: v :: rest, h =>
      rw [stripDotSlash, if_neg]
      rintro ⟨rfl, rfl⟩
      have hfirst : [dot] ∈ (dot :: slash :: rest).splitOn slash := by
        have hsplit := List.splitOn_append_cons_self (a := slash) [dot] rest
        rw [List.singleton_append] at hsplit
        rw [hsplit]
        exact List.mem_append_left _ (by decide)
      exact (h.segments _ hfirst).2.1 rfl

theorem SafeArchivePath.stripTrailingSlashes_eq (h : SafeArchivePath path) :
    stripTrailingSlashes path = path := by
  rw [stripTrailingSlashes, List.rdropWhile_eq_self_iff]
  intro hne
  rw [decide_eq_true_iff]
  exact Strip.getLast_ne_of_splitOn h.nil_notMem hne

theorem SafeArchivePath.pathSegments_eq (h : SafeArchivePath path) :
    pathSegments path = path.splitOn slash := by
  rw [pathSegments, List.filter_eq_self]
  exact fun segment hsegment => decide_eq_true (h.segments segment hsegment).1

/-- A safe path is a fixed point of the normalization. -/
theorem SafeArchivePath.normalizeArchivePath_eq (h : SafeArchivePath path) :
    normalizeArchivePath path = .ok path := by
  have hdots : (path.splitOn slash).any isDotSegment = false := by
    rw [List.any_eq_false]
    intro segment hsegment
    rw [isDotSegment_eq_false_iff.mpr (h.segments segment hsegment).2]
    exact Bool.false_ne_true
  simp only [normalizeArchivePath]
  rw [h.replaceBackslashes_eq, h.stripDotSlash_eq, h.stripTrailingSlashes_eq, h.pathSegments_eq,
    hdots, h.noDrive, List.intercalate_splitOn, if_neg]
  rintro (hnil | hslash | hfalse | hfalse)
  · exact h.ne_nil hnil
  · exact h.relative hslash
  · cases hfalse
  · cases hfalse

end SafeArchivePath

/-- What follows the first segment does not make a drive prefix. -/
theorem hasDrivePrefix_append {first rest : JsString} (hne : first ≠ [])
    (hrest : ∀ u ∈ rest.head?, u = slash) :
    hasDrivePrefix (first ++ rest) = hasDrivePrefix first := by
  match first, hne with
  | [letter], _ =>
      cases rest with
      | nil => rfl
      | cons u rest =>
          obtain rfl := hrest u rfl
          rw [List.singleton_append, hasDrivePrefix, hasDrivePrefix, decide_eq_false]
          · rintro ⟨-, hcolon⟩
            cases hcolon
          · exact fun _ _ _ h => nomatch h
  | letter :: u :: first, _ => rfl

theorem mem_of_mem_stripDotSlash {u : UInt16} {path : JsString} (h : u ∈ stripDotSlash path) :
    u ∈ path := by
  match path with
  | [] => exact h
  | [v] => exact h
  | v :: w :: rest =>
      rw [stripDotSlash] at h
      split at h
      · exact List.mem_cons_of_mem v
          (List.mem_cons_of_mem w ((List.dropWhile_suffix _).subset h))
      · exact h

/-- The text that the checks look at has no backslash. -/
theorem backslash_notMem_normalized (rawPath : JsString) :
    backslash ∉ stripTrailingSlashes (stripDotSlash (replaceBackslashes rawPath)) := by
  intro h
  have hreplaced := mem_of_mem_stripDotSlash ((List.rdropWhile_prefix _ _).subset h)
  rw [replaceBackslashes, List.mem_map] at hreplaced
  obtain ⟨u, -, hu⟩ := hreplaced
  split at hu
  · cases hu
  · contradiction

/-- **The normalization gives safe paths only.** -/
theorem normalizeArchivePath_safe {rawPath path : JsString}
    (h : normalizeArchivePath rawPath = .ok path) : SafeArchivePath path := by
  simp only [normalizeArchivePath] at h
  have hbackslash := backslash_notMem_normalized rawPath
  generalize stripTrailingSlashes (stripDotSlash (replaceBackslashes rawPath)) = normalized
    at h hbackslash
  split at h
  · cases h
  rename_i hchecks
  obtain rfl := Except.ok.inj h
  simp only [not_or] at hchecks
  obtain ⟨hne, hslash, hdrive, hdots⟩ := hchecks
  have hsegment : ∀ segment ∈ pathSegments normalized, segment ≠ [] ∧
      (∀ u ∈ segment, u ∈ normalized ∧ u ≠ slash) ∧ segment ≠ [dot] ∧ segment ≠ [dot, dot] := by
    intro segment hsegment
    have hmem := List.mem_filter.mp hsegment
    refine ⟨of_decide_eq_true hmem.2, Strip.mem_splitOn hmem.1, ?_⟩
    rw [← isDotSegment_eq_false_iff, ← Bool.not_eq_true]
    exact fun hdot => hdots (List.any_eq_true.mpr ⟨segment, hsegment, hdot⟩)
  -- the first piece is not empty, so that it is the first segment too
  obtain ⟨first, pieces, hpieces⟩ :=
    List.exists_cons_of_ne_nil (List.splitOn_ne_nil slash normalized)
  have hnormalized : normalized = [slash].intercalate (first :: pieces) := by
    rw [← hpieces, List.intercalate_splitOn]
  obtain ⟨rest, hrest, hsep⟩ := Strip.intercalate_cons_eq slash first pieces
  rw [hrest] at hnormalized
  have hfirst : first ≠ [] := by
    rintro rfl
    rw [List.nil_append] at hnormalized
    subst hnormalized
    cases normalized with
    | nil => exact hne rfl
    | cons u rest => exact hslash (congrArg some (hsep u rfl))
  have hsegments : pathSegments normalized =
      first :: pieces.filter fun segment => segment ≠ [] := by
    rw [pathSegments, hpieces]
    exact List.filter_cons_of_pos (decide_eq_true hfirst)
  have hsplit : ([slash].intercalate (pathSegments normalized)).splitOn slash =
      pathSegments normalized := by
    refine List.splitOn_intercalate slash (fun segment hmem hslash => ?_) ?_
    · exact ((hsegment segment hmem).2.1 slash hslash).2 rfl
    · rw [hsegments]
      exact List.cons_ne_nil first _
  refine ⟨fun hhead => ?_, fun hmem => ?_, ?_, fun segment hmem => ?_⟩
  · refine Strip.head_ne_of_splitOn (fun hnil => ?_) hhead rfl
    exact (hsegment [] (hsplit ▸ hnil)).1 rfl
  · cases Strip.mem_intercalate hmem with
    | inl heq => cases heq
    | inr hpiece =>
        obtain ⟨segment, hmem, hu⟩ := hpiece
        exact hbackslash ((hsegment segment hmem).2.1 backslash hu).1
  · obtain ⟨rest', hrest', hsep'⟩ := Strip.intercalate_cons_eq slash first
      (pieces.filter fun segment => segment ≠ [])
    rw [hsegments, hrest', hasDrivePrefix_append hfirst hsep',
      ← hasDrivePrefix_append hfirst hsep, ← hnormalized]
    exact Bool.not_eq_true _ ▸ hdrive
  · have hsafe := hsegment segment (hsplit ▸ hmem)
    exact ⟨hsafe.1, hsafe.2.2⟩

/-- **The safe paths are the fixed points of the normalization.** -/
theorem safeArchivePath_iff {path : JsString} :
    SafeArchivePath path ↔ normalizeArchivePath path = .ok path :=
  ⟨SafeArchivePath.normalizeArchivePath_eq, normalizeArchivePath_safe⟩

/-! ### Well-formed paths -/

theorem isHigh_slash : Utf8.isHigh slash = false := by decide

theorem isLow_slash : Utf8.isLow slash = false := by decide

theorem wellFormed_dropSlashes {path : JsString} (h : Utf8.WellFormed path) :
    Utf8.WellFormed (path.dropWhile fun u => u = slash) := by
  induction path with
  | nil => exact h
  | cons u path ih =>
      rw [List.dropWhile_cons]
      split
      · rename_i heq
        obtain rfl := of_decide_eq_true heq
        exact ih ((Utf8.wellFormed_cons isHigh_slash isLow_slash).mp h)
      · exact h

theorem wellFormed_stripDotSlash {path : JsString} (h : Utf8.WellFormed path) :
    Utf8.WellFormed (stripDotSlash path) := by
  match path, h with
  | [], _ => trivial
  | [u], h => exact h
  | u :: v :: rest, h =>
      rw [stripDotSlash]
      split
      · rename_i heq
        obtain ⟨rfl, rfl⟩ := heq
        have hslash := (Utf8.wellFormed_cons (x := dot) (by decide) (by decide)).mp h
        exact wellFormed_dropSlashes ((Utf8.wellFormed_cons isHigh_slash isLow_slash).mp hslash)
      · exact h

theorem wellFormed_stripTrailingSlashes {path : JsString} (h : Utf8.WellFormed path) :
    Utf8.WellFormed (stripTrailingSlashes path) := by
  induction path using List.reverseRecOn with
  | nil => exact h
  | append_singleton path u ih =>
      rw [stripTrailingSlashes, List.rdropWhile_concat]
      split
      · rename_i heq
        obtain rfl := of_decide_eq_true heq
        exact ih ((Utf8.wellFormed_append_cons isHigh_slash isLow_slash).mp h).1
      · exact h

/-- **The normalization keeps a path well-formed.** -/
theorem normalizeArchivePath_wellFormed {rawPath path : JsString}
    (h : normalizeArchivePath rawPath = .ok path) (hwell : Utf8.WellFormed rawPath) :
    Utf8.WellFormed path := by
  have hreplaced : Utf8.WellFormed (replaceBackslashes rawPath) := by
    refine (Utf8.wellFormed_map fun u => ?_).mpr hwell
    split
    · rename_i heq
      subst heq
      decide
    · exact ⟨rfl, rfl⟩
  have hstripped := wellFormed_stripTrailingSlashes (wellFormed_stripDotSlash hreplaced)
  simp only [normalizeArchivePath] at h
  generalize stripTrailingSlashes (stripDotSlash (replaceBackslashes rawPath)) = normalized
    at h hstripped
  split at h
  · cases h
  obtain rfl := Except.ok.inj h
  rw [← @List.intercalate_splitOn _ normalized _ _ slash,
    Utf8.wellFormed_intercalate isHigh_slash isLow_slash] at hstripped
  refine (Utf8.wellFormed_intercalate isHigh_slash isLow_slash).mpr fun segment hsegment => ?_
  exact hstripped segment (List.mem_filter.mp hsegment).1

/-! ### Entries and limits -/

/-- A `Date`: an instant, unless it is invalid. -/
inductive JsDate
  | valid (t : Instant)
  | invalid
  deriving DecidableEq, Repr

/-- `SplitArtifactEntry`. -/
structure SplitArtifactEntry where
  data : List UInt8
  logicalPath : JsString
  mode : Option Int
  mtime : Option JsDate
  deriving DecidableEq, Repr

/-- `SplitArtifactLimits`. -/
structure SplitArtifactLimits where
  maxEntryByteLength : JsNumber
  maxEntryCount : JsNumber
  maxTotalUnpackedByteLength : JsNumber

/-- `Partial<SplitArtifactLimits>`. -/
structure PartialSplitArtifactLimits where
  maxEntryByteLength : Option JsNumber
  maxEntryCount : Option JsNumber
  maxTotalUnpackedByteLength : Option JsNumber

/-- `defaultLimits`. -/
def defaultLimits : SplitArtifactLimits where
  maxEntryByteLength := .finite (1024 * 1024 * 1024)
  maxEntryCount := .finite 50000
  maxTotalUnpackedByteLength := .finite (16 * 1024 * 1024 * 1024)

/-- `resolveLimits`. -/
def resolveLimits : Option PartialSplitArtifactLimits → SplitArtifactLimits
  | none => defaultLimits
  | some limits =>
      { maxEntryByteLength := limits.maxEntryByteLength.getD defaultLimits.maxEntryByteLength
        maxEntryCount := limits.maxEntryCount.getD defaultLimits.maxEntryCount
        maxTotalUnpackedByteLength :=
          limits.maxTotalUnpackedByteLength.getD defaultLimits.maxTotalUnpackedByteLength }

/-- `count > limit`. -/
def exceeds (count : Nat) : JsNumber → Bool
  | .finite q => q < count
  | .nan => false
  | .infinity negative => negative

/-! ### Validating entries -/

/-- The entries that `validateEntries` returns, from the paths seen and the bytes counted so
far. -/
def validateEach (limits : SplitArtifactLimits) (skipPathValidation : Bool) :
    (seen : List JsString) → (total : Nat) → List SplitArtifactEntry →
      Except SplitArtifactError (List SplitArtifactEntry)
  | _, _, [] => .ok []
  | seen, total, entry :: rest => do
      let logicalPath ←
        if skipPathValidation then .ok entry.logicalPath else normalizeArchivePath entry.logicalPath
      if logicalPath ∈ seen then
        .error (.archiveSafety
          (codeUnits "Archive contains duplicate path " ++ inQuotes logicalPath ++ codeUnits "."))
      else if exceeds entry.data.length limits.maxEntryByteLength then
        .error (.archiveSafety (codeUnits "Archive entry " ++ inQuotes logicalPath ++
          codeUnits " exceeds per-entry byte limit."))
      else if exceeds (total + entry.data.length) limits.maxTotalUnpackedByteLength then
        .error (.archiveSafety (codeUnits "Archive exceeds total unpacked byte limit."))
      else
        (({ entry with logicalPath := logicalPath } : SplitArtifactEntry) :: ·) <$>
          validateEach limits skipPathValidation (logicalPath :: seen)
            (total + entry.data.length) rest

/-- `validateEntries`. -/
def validateEntries (rt : Runtime) (entries : List SplitArtifactEntry)
    (limits : SplitArtifactLimits) (skipPathValidation : Bool) :
    Except SplitArtifactError (List SplitArtifactEntry) :=
  if exceeds entries.length limits.maxEntryCount then
    .error (.archiveSafety (codeUnits "Archive has " ++ codeUnits (toString entries.length) ++
      codeUnits " entries, above limit " ++ codeUnits (limits.maxEntryCount.toText rt) ++
      codeUnits "."))
  else validateEach limits skipPathValidation [] 0 entries

/-- How many bytes a list of entries holds. -/
def totalByteLength (entries : List SplitArtifactEntry) : Nat :=
  (entries.map fun entry => entry.data.length).sum

@[simp] theorem totalByteLength_nil : totalByteLength [] = 0 := rfl

@[simp] theorem totalByteLength_cons (entry : SplitArtifactEntry) (rest : List SplitArtifactEntry) :
    totalByteLength (entry :: rest) = entry.data.length + totalByteLength rest := rfl

/-- A list of entries that passes every check: safe and distinct paths, within the limits. -/
structure ValidEntries (limits : SplitArtifactLimits) (entries : List SplitArtifactEntry) :
    Prop where
  safe : ∀ entry ∈ entries, SafeArchivePath entry.logicalPath
  distinct : (entries.map SplitArtifactEntry.logicalPath).Nodup
  count : exceeds entries.length limits.maxEntryCount = false
  byteLength : ∀ entry ∈ entries, exceeds entry.data.length limits.maxEntryByteLength = false
  total : exceeds (totalByteLength entries) limits.maxTotalUnpackedByteLength = false

/-- A smaller count is below a limit too. -/
theorem exceeds_mono {m n : Nat} (hle : m ≤ n) {limit : JsNumber} (h : exceeds n limit = false) :
    exceeds m limit = false := by
  cases limit with
  | finite q =>
      rw [exceeds, decide_eq_false_iff_not, not_lt] at h ⊢
      exact le_trans (Nat.cast_le.mpr hle) h
  | nan => rfl
  | infinity negative => exact h

/-- The entry with its path normalized. -/
def NormalizedTo (entry normalized : SplitArtifactEntry) : Prop :=
  normalizeArchivePath entry.logicalPath = .ok normalized.logicalPath ∧
    normalized = { entry with logicalPath := normalized.logicalPath }

section ValidateEntries

variable {limits : SplitArtifactLimits} {seen : List JsString} {total : Nat}

/-- What passing one entry takes. -/
theorem validateEach_cons_eq_ok_iff {entry : SplitArtifactEntry}
    {rest out : List SplitArtifactEntry} :
    validateEach limits false seen total (entry :: rest) = .ok out ↔
      ∃ path out', normalizeArchivePath entry.logicalPath = .ok path ∧ path ∉ seen ∧
        exceeds entry.data.length limits.maxEntryByteLength = false ∧
        exceeds (total + entry.data.length) limits.maxTotalUnpackedByteLength = false ∧
        validateEach limits false (path :: seen) (total + entry.data.length) rest = .ok out' ∧
        out = { entry with logicalPath := path } :: out' := by
  rw [validateEach, if_neg Bool.false_ne_true]
  cases hpath : normalizeArchivePath entry.logicalPath with
  | error e =>
      refine ⟨fun h => (by cases h), ?_⟩
      rintro ⟨path, -, h, -⟩
      cases h
  | ok path =>
      simp only [bind, Except.bind]
      constructor
      · intro h
        split at h
        · cases h
        rename_i hseen
        split at h
        · cases h
        rename_i hlength
        split at h
        · cases h
        rename_i htotal
        cases hrest : validateEach limits false (path :: seen) (total + entry.data.length) rest with
        | error e => rw [hrest] at h; cases h
        | ok out' =>
            rw [hrest] at h
            exact ⟨path, out', rfl, hseen, Bool.not_eq_true _ ▸ hlength,
              Bool.not_eq_true _ ▸ htotal, hrest, (Except.ok.inj h).symm⟩
      · rintro ⟨path', out', hpath', hseen, hlength, htotal, hrest, rfl⟩
        obtain rfl := Except.ok.inj hpath'
        rw [if_neg hseen, hlength, htotal, hrest, if_neg Bool.false_ne_true,
          if_neg Bool.false_ne_true]
        rfl

/-- What passing the rest of the entries gives. -/
theorem validateEach_eq_ok {entries out : List SplitArtifactEntry}
    (h : validateEach limits false seen total entries = .ok out)
    (htotal : exceeds total limits.maxTotalUnpackedByteLength = false) :
    List.Forall₂ NormalizedTo entries out ∧
      (∀ entry ∈ out, SafeArchivePath entry.logicalPath ∧ entry.logicalPath ∉ seen ∧
        exceeds entry.data.length limits.maxEntryByteLength = false) ∧
      (out.map SplitArtifactEntry.logicalPath).Nodup ∧
      exceeds (total + totalByteLength out) limits.maxTotalUnpackedByteLength = false := by
  induction entries generalizing seen total out with
  | nil =>
      obtain rfl := Except.ok.inj h
      exact ⟨.nil, fun entry hentry => absurd hentry List.not_mem_nil, List.nodup_nil, htotal⟩
  | cons entry rest ih =>
      obtain ⟨path, out', hpath, hseen, hlength, htotal', hrest, rfl⟩ :=
        validateEach_cons_eq_ok_iff.mp h
      obtain ⟨hnormalized, hentries, hnodup, hsum⟩ := ih hrest htotal'
      refine ⟨.cons ⟨hpath, rfl⟩ hnormalized, ?_, ?_, ?_⟩
      · intro entry' hentry'
        cases List.mem_cons.mp hentry' with
        | inl heq =>
            subst heq
            exact ⟨normalizeArchivePath_safe hpath, hseen, hlength⟩
        | inr hmem =>
            obtain ⟨hsafe, hpaths, hlength'⟩ := hentries entry' hmem
            exact ⟨hsafe, fun h => hpaths (List.mem_cons_of_mem path h), hlength'⟩
      · rw [List.map_cons, List.nodup_cons]
        refine ⟨fun hmem => ?_, hnodup⟩
        obtain ⟨entry', hentry', heq⟩ := List.mem_map.mp hmem
        exact (hentries entry' hentry').2.1 (heq ▸ List.mem_cons_self)
      · rw [totalByteLength_cons, ← Nat.add_assoc]
        exact hsum

/-- A valid list passes unchanged. -/
theorem validateEach_of_valid {entries : List SplitArtifactEntry}
    (hentries : ∀ entry ∈ entries, SafeArchivePath entry.logicalPath ∧ entry.logicalPath ∉ seen ∧
      exceeds entry.data.length limits.maxEntryByteLength = false)
    (hnodup : (entries.map SplitArtifactEntry.logicalPath).Nodup)
    (htotal : exceeds (total + totalByteLength entries) limits.maxTotalUnpackedByteLength = false) :
    validateEach limits false seen total entries = .ok entries := by
  induction entries generalizing seen total with
  | nil => rfl
  | cons entry rest ih =>
      obtain ⟨hsafe, hseen, hlength⟩ := hentries entry List.mem_cons_self
      rw [List.map_cons, List.nodup_cons] at hnodup
      rw [totalByteLength_cons, ← Nat.add_assoc] at htotal
      refine validateEach_cons_eq_ok_iff.mpr ⟨entry.logicalPath, rest,
        hsafe.normalizeArchivePath_eq, hseen, hlength, exceeds_mono (Nat.le_add_right _ _) htotal,
        ih (fun entry' hentry' => ?_) hnodup.2 htotal, rfl⟩
      obtain ⟨hsafe', hseen', hlength'⟩ := hentries entry' (List.mem_cons_of_mem entry hentry')
      refine ⟨hsafe', fun hmem => ?_, hlength'⟩
      cases List.mem_cons.mp hmem with
      | inl heq => exact hnodup.1 (heq ▸ List.mem_map_of_mem hentry')
      | inr hmem => exact hseen' hmem

/-- **Entries that pass the checks are valid**, and are the given entries with their paths
normalized. -/
theorem validateEntries_valid {rt : Runtime} {entries out : List SplitArtifactEntry}
    (h : validateEntries rt entries limits false = .ok out)
    (hlimit : exceeds 0 limits.maxTotalUnpackedByteLength = false) :
    ValidEntries limits out ∧ List.Forall₂ NormalizedTo entries out := by
  rw [validateEntries] at h
  split at h
  · cases h
  rename_i hcount
  obtain ⟨hnormalized, hentries, hnodup, htotal⟩ := validateEach_eq_ok h hlimit
  rw [Nat.zero_add] at htotal
  refine ⟨⟨fun entry hentry => (hentries entry hentry).1, hnodup, ?_,
    fun entry hentry => (hentries entry hentry).2.2, htotal⟩, hnormalized⟩
  rw [← hnormalized.length_eq]
  exact Bool.not_eq_true _ ▸ hcount

/-- Entries that pass show that the limit of their total is not negative. -/
theorem exceeds_zero_of_validate {rt : Runtime} {entries out : List SplitArtifactEntry}
    (hne : entries ≠ []) (h : validateEntries rt entries limits false = .ok out) :
    exceeds 0 limits.maxTotalUnpackedByteLength = false := by
  obtain ⟨entry, rest, rfl⟩ := List.exists_cons_of_ne_nil hne
  rw [validateEntries] at h
  split at h
  · cases h
  obtain ⟨-, -, -, -, -, htotal, -⟩ := validateEach_cons_eq_ok_iff.mp h
  exact exceeds_mono (Nat.zero_le _) htotal

/-- **Valid entries pass the checks unchanged.** -/
theorem ValidEntries.validateEntries {entries : List SplitArtifactEntry}
    (h : ValidEntries limits entries) (rt : Runtime) :
    Cdngine.validateEntries rt entries limits false = .ok entries := by
  rw [Cdngine.validateEntries, h.count, if_neg Bool.false_ne_true]
  refine validateEach_of_valid (fun entry hentry => ?_) h.distinct
    (by rw [Nat.zero_add]; exact h.total)
  exact ⟨h.safe entry hentry, List.not_mem_nil, h.byteLength entry hentry⟩

/-- Paths and data decide what is valid. -/
theorem ValidEntries.map {entries : List SplitArtifactEntry} (h : ValidEntries limits entries)
    {f : SplitArtifactEntry → SplitArtifactEntry}
    (hf : ∀ entry, (f entry).logicalPath = entry.logicalPath ∧ (f entry).data = entry.data) :
    ValidEntries limits (entries.map f) := by
  have hpaths : (entries.map f).map SplitArtifactEntry.logicalPath =
      entries.map SplitArtifactEntry.logicalPath := by
    rw [List.map_map]
    exact List.map_congr_left fun entry _ => (hf entry).1
  have htotal : totalByteLength (entries.map f) = totalByteLength entries := by
    rw [totalByteLength, List.map_map, totalByteLength]
    exact congrArg List.sum (List.map_congr_left fun entry _ => congrArg List.length (hf entry).2)
  refine ⟨fun entry hentry => ?_, hpaths ▸ h.distinct, by rw [List.length_map]; exact h.count,
    fun entry hentry => ?_, htotal ▸ h.total⟩
  · obtain ⟨given, hgiven, rfl⟩ := List.mem_map.mp hentry
    exact (hf given).1 ▸ h.safe given hgiven
  · obtain ⟨given, hgiven, rfl⟩ := List.mem_map.mp hentry
    exact (hf given).2 ▸ h.byteLength given hgiven

end ValidateEntries

end Cdngine
