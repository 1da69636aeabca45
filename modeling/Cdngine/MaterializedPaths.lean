import Cdngine.PosixPaths
import Cdngine.ServiceAccounts
import Cdngine.SourceCopies

/-!
# Paths of Materialized Sources

Where a canonical source is restored to: a path under a configured root, made of segments of the
caller and of a file name that is taken from the names the source has. The name is sanitized, and
the path is rejected unless it lies inside the root.

## Main results

* `mem_sanitizeMaterializedFilename`: the characters of a sanitized name.
* `resolveMaterializedSourceFilename_plain`: a resolved name is one plain segment.
* `buildMaterializedSourcePath_confined`: the law of materialized paths.
-/

open PosixPaths

namespace Cdngine

/-! ### File names -/

/-- A candidate for the file name, if it is given and safe once sanitized. -/
def materializedCandidate (candidate : Option String) : Option String := do
  let candidate ← present candidate
  let sanitized := sanitizeMaterializedFilename candidate
  if isUnsafeMaterializedFilename sanitized then none else some sanitized

def resolveMaterializedSourceFilename
    (sourceFilename canonicalLogicalPath fallbackBaseName : Option String) : String :=
  let fallbackBaseName := (present (fallbackBaseName.map trim)).getD "source.bin"
  ([sourceFilename, canonicalLogicalPath, some fallbackBaseName].findSome?
    materializedCandidate).getD "source.bin"

/-- A **plain** file name: one segment that names a file, without control characters or dots at
its end. -/
structure PlainFilename (filename : String) : Prop where
  isName : IsName filename.toList
  no_backslash : '\\' ∉ filename.toList
  no_control : ∀ c ∈ filename.toList, 0x20 ≤ c.toNat
  no_trailing_dot : filename.toList.getLast? ≠ some '.'

/-- A sanitized name does not end in a dot. -/
theorem getLast?_sanitizeMaterializedFilename (candidate : String) :
    (sanitizeMaterializedFilename candidate).toList.getLast? ≠ some '.' := by
  intro hlast
  rw [sanitizeMaterializedFilename, String.toList_ofList, List.getLast?_reverse] at hlast
  have hdot := Strip.head?_dropWhile _ _ '.' hlast
  exact absurd hdot (by decide)

/-- A name that is safe once sanitized is plain. -/
theorem plainFilename_sanitized {candidate : String}
    (h : isUnsafeMaterializedFilename (sanitizeMaterializedFilename candidate) = false) :
    PlainFilename (sanitizeMaterializedFilename candidate) := by
  simp only [isUnsafeMaterializedFilename, Bool.or_eq_false_iff, beq_eq_false_iff_ne] at h
  obtain ⟨⟨hempty, hdot⟩, hup⟩ := h
  refine ⟨⟨?_, ?_, ?_, ?_⟩, ?_, ?_, getLast?_sanitizeMaterializedFilename candidate⟩
  · exact fun hnil => hempty (by rw [← String.length_toList, hnil, List.length_nil])
  · exact fun hmem => (mem_sanitizeMaterializedFilename hmem).1 rfl
  · exact fun heq => hdot (String.toList_inj.mp heq)
  · exact fun heq => hup (String.toList_inj.mp heq)
  · exact fun hmem => (mem_sanitizeMaterializedFilename hmem).2.1 rfl
  · exact fun c hc => (mem_sanitizeMaterializedFilename hc).2.2

theorem plainFilename_sourceBin : PlainFilename "source.bin" where
  isName := ⟨by decide, by decide, by decide, by decide⟩
  no_backslash := by decide
  no_control := List.all_eq_true.mp (by decide : ("source.bin".toList.all fun c =>
    decide (0x20 ≤ c.toNat)) = true) |> fun h c hc => of_decide_eq_true (h c hc)
  no_trailing_dot := by decide

/-- **A resolved file name is plain**, whatever the names of the source are. -/
theorem resolveMaterializedSourceFilename_plain
    (sourceFilename canonicalLogicalPath fallbackBaseName : Option String) :
    PlainFilename
      (resolveMaterializedSourceFilename sourceFilename canonicalLogicalPath fallbackBaseName) := by
  rw [resolveMaterializedSourceFilename]
  cases hfound : [sourceFilename, canonicalLogicalPath,
      some ((present (fallbackBaseName.map trim)).getD "source.bin")].findSome?
      materializedCandidate with
  | none => exact plainFilename_sourceBin
  | some filename =>
      obtain ⟨candidate, -, hcandidate⟩ := List.exists_of_findSome?_eq_some hfound
      obtain ⟨candidate, -, hsanitized⟩ := Option.bind_eq_some_iff.mp hcandidate
      dsimp only at hsanitized
      split at hsanitized
      · cases hsanitized
      · rename_i hsafe
        obtain rfl := Option.some.inj hsanitized
        exact plainFilename_sanitized (Bool.eq_false_iff.mpr hsafe)

/-- **A safe source file name is kept**, up to the white space around it. -/
theorem resolveMaterializedSourceFilename_of_isSafe {filename : String}
    (h : isSafeSourceFilename filename = true)
    (canonicalLogicalPath fallbackBaseName : Option String) :
    resolveMaterializedSourceFilename (some filename) canonicalLogicalPath fallbackBaseName =
      trim filename := by
  simp only [isSafeSourceFilename] at h
  split at h
  · cases h
  · rename_i hlength
    obtain ⟨hsafe, hkept⟩ := Bool.and_eq_true_iff.mp h
    have hsanitized : sanitizeMaterializedFilename filename = trim filename := by
      rw [← beq_iff_eq.mp hkept, sanitizeMaterializedFilename, sanitizeMaterializedFilename,
        trim_trim]
    have hpresent : present (some filename) = some filename := by
      have hne : filename.isEmpty = false := by
        refine Bool.eq_false_iff.mpr fun hempty => hlength ?_
        rw [String.isEmpty_iff.mp hempty]
        rfl
      rw [present, Option.filter_some, hne]
      rfl
    have hcandidate : materializedCandidate (some filename) = some (trim filename) := by
      rw [beq_iff_eq.mp hkept] at hsafe
      rw [materializedCandidate, hpresent]
      simp only [Option.bind_eq_bind, Option.bind_some, hsanitized]
      rw [if_neg (Bool.eq_false_iff.mp (Bool.not_eq_true' _ ▸ hsafe))]
    rw [resolveMaterializedSourceFilename, List.findSome?_cons, hcandidate]
    rfl

/-! ### Paths -/

structure MaterializedSourcePathInput where
  rootPath : String
  pathSegments : List String
  sourceFilename : Option String
  canonicalLogicalPath : Option String
  fallbackBaseName : Option String

/-- The name that a source is restored under. -/
def MaterializedSourcePathInput.filename (input : MaterializedSourcePathInput) : String :=
  resolveMaterializedSourceFilename input.sourceFilename input.canonicalLogicalPath
    input.fallbackBaseName

/-- `buildMaterializedSourcePath`, for a process in the directory `cwd`. -/
def buildMaterializedSourcePath (cwd : Path) (input : MaterializedSourcePathInput) :
    Except String String :=
  let resolvedRootPath := (resolvePath cwd [input.rootPath.toList]).text
  let destinationPath :=
    (resolvePath cwd (resolvedRootPath :: (input.pathSegments.map String.toList ++
      [input.filename.toList]))).text
  let relativeDestinationPath := relativePath cwd resolvedRootPath destinationPath
  if relativeDestinationPath.length = 0 ∨ relativeDestinationPath = up ∨
      (up ++ ['\\']) <+: relativeDestinationPath ∨ (up ++ ['/']) <+: relativeDestinationPath ∨
      relativeDestinationPath.head? = some '/' then
    .error "Materialized source destination must stay within the configured root."
  else .ok (String.ofList destinationPath)

/-- A path that is **confined** to a directory: it is absolute, and names a file of that name
strictly inside. -/
def ConfinedTo (directory : Path) (filename path : String) : Prop :=
  ∃ destination : Path, path.toList = destination.text ∧ directory.Inside destination ∧
    destination.names.getLast? = some filename.toList

/-- **The law of materialized paths**: a path that is built is confined to the root, its file name
is plain, and a safe source file name is kept up to the white space around it. -/
theorem buildMaterializedSourcePath_confined (cwd : Path) (input : MaterializedSourcePathInput) :
    (∀ path, buildMaterializedSourcePath cwd input = .ok path →
        ConfinedTo (resolvePath cwd [input.rootPath.toList]) input.filename path) ∧
      PlainFilename input.filename ∧
      ∀ sourceFilename, input.sourceFilename = some sourceFilename →
        isSafeSourceFilename sourceFilename = true → input.filename = trim sourceFilename := by
  have hplain : PlainFilename input.filename := resolveMaterializedSourceFilename_plain _ _ _
  refine ⟨?_, hplain, ?_⟩
  · intro path hpath
    simp only [buildMaterializedSourcePath, resolvePath_text] at hpath
    split at hpath
    · cases hpath
    · rename_i hinside
      simp only [not_or, List.length_eq_zero_iff] at hinside
      obtain ⟨hne, hup, -, hslash, -⟩ := hinside
      obtain rfl := Except.ok.inj hpath
      refine ⟨_, String.toList_ofList, inside_of_relative cwd _ _ hne hup hslash, ?_⟩
      rw [resolvePath_append]
      change (Path.walk _ input.filename.toList).names.getLast? = _
      rw [walk_of_isName _ hplain.isName, List.getLast?_concat]
  · intro sourceFilename hsource hsafe
    rw [MaterializedSourcePathInput.filename, hsource]
    exact resolveMaterializedSourceFilename_of_isSafe hsafe _ _

/-- A destination below a root, with segments that go up and down again and a name that is kept. -/
def sampleMaterializedInput : MaterializedSourcePathInput where
  rootPath := "out/sources/"
  pathSegments := ["ver_1", "../ver_2", ""]
  sourceFilename := some " plan.v2.pdf "
  canonicalLogicalPath := some "source/ver_2/plan"
  fallbackBaseName := none

theorem sample_materialized_confined :
    ConfinedTo (resolvePath Path.root ["out/sources/".toList]) (trim " plan.v2.pdf ")
      "/out/sources/ver_2/plan.v2.pdf" := by
  have hbuilt : buildMaterializedSourcePath Path.root sampleMaterializedInput =
      .ok "/out/sources/ver_2/plan.v2.pdf" := by decide +kernel
  have hsafe : isSafeSourceFilename " plan.v2.pdf " = true := by decide +kernel
  obtain ⟨hconfined, -, hkept⟩ :=
    buildMaterializedSourcePath_confined Path.root sampleMaterializedInput
  rw [← hkept " plan.v2.pdf " rfl hsafe]
  exact hconfined _ hbuilt

end Cdngine
