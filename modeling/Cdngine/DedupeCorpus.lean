import Cdngine.XetSnapshots
import Mathlib.Algebra.Order.Ring.Rat

/-!
# Deduplication of a Package Corpus

The script that measures how well a directory of packages deduplicates. It snapshots every file
of the directory into a fresh chunk repository, whole or as the entries that an adapter splits it
into, adds up what the snapshots report, and restores a few of them to compare digests.

Ratios are left out.

## Main results

* `sampleRestoreTargets_sublist`: the samples are records at different
  indexes, as many as were asked for while there are enough.
-/

open ContentStore Runs

namespace Cdngine

/-! ### The corpus -/

/-- The platform of the script: what the snapshot command takes from it, and `toLowerCase`. -/
structure CorpusRuntime extends XetRuntime where
  toLowerCase : String → String

/-- An entry of the corpus directory, with its bytes if it is a file. -/
structure CorpusEntry where
  name : String
  file : Option (List UInt8)
  deriving DecidableEq, Repr

/-- A file of the corpus: `name` is the `basename` of its path. -/
structure CorpusFile where
  path : String
  name : String
  content : List UInt8
  deriving DecidableEq, Repr

/-- `listCorpusFiles`, of the entries that `readdirSync` finds. -/
def listCorpusFiles (rt : CorpusRuntime) (corpusPath : String) (entries : List CorpusEntry) :
    List CorpusFile :=
  sortBy (fun left right => (rt.localeCompare left.name right.name).isLE)
    (entries.filterMap fun entry =>
      entry.file.map fun content => ⟨corpusPath ++ "/" ++ entry.name, entry.name, content⟩)

/-! ### Snapshots of files and of buffers -/

/-- `package-corpus-0001` and so on. -/
def packageCorpusId (index : Nat) : String :=
  "package-corpus-" ++ padStart (toString (index + 1)) 4 '0'

/-- The snapshot that `runBenchmarkForFile` takes. -/
def fileInput (rt : CorpusRuntime) (file : CorpusFile) (index : Nat)
    (metadata : List (String × String)) : XetSnapshotInput where
  request :=
    { assetVersionId := (metadata.lookup "assetVersionId").getD (packageCorpusId index)
      localPath := file.path
      sourceFilename := (metadata.lookup "sourceFilename").getD file.name
      sourceDigests := some [⟨"sha256", rt.sha256Hex file.content⟩]
      metadata :=
        some (("logicalPath", (metadata.lookup "logicalPath").getD file.name) :: metadata) }
  source := file.content

/-- `runBenchmarkForFile`. -/
def runBenchmarkForFile (rt : CorpusRuntime) (file : CorpusFile) (repository : XetRepository)
    (index : Nat) (metadata : List (String × String)) :
    XetSnapshotEvidenceCommandPayload × XetRepository :=
  snapshotCommand rt.toXetRuntime (fileInput rt file index metadata) repository

/-- What `runBenchmarkForBuffer` is asked for. -/
structure BufferRequest where
  assetVersionId : String
  sourceFilename : String
  sourceDigests : Option (List ObjectChecksum)
  metadata : List (String × String)
  deriving DecidableEq, Repr

/-- The snapshot that `runBenchmarkForBuffer` takes, of a file that holds the buffer for the time
being. -/
def bufferInput (rt : CorpusRuntime) (buffer : List UInt8) (request : BufferRequest)
    (workspacePath : String) : XetSnapshotInput where
  request :=
    { assetVersionId := request.assetVersionId
      localPath := workspacePath ++ "/" ++ String.ofList
        ((rt.sha256Hex (utf8Bytes request.assetVersionId)).toList.take 24) ++ ".bin"
      sourceFilename := request.sourceFilename
      sourceDigests := some (request.sourceDigests.getD [⟨"sha256", rt.sha256Hex buffer⟩])
      metadata := some request.metadata }
  source := buffer

/-- `runBenchmarkForBuffer`. -/
def runBenchmarkForBuffer (rt : CorpusRuntime) (buffer : List UInt8) (repository : XetRepository)
    (request : BufferRequest) (workspacePath : String) :
    XetSnapshotEvidenceCommandPayload × XetRepository :=
  snapshotCommand rt.toXetRuntime (bufferInput rt buffer request workspacePath) repository

/-! ### Records -/

/-- `Number(value)` of a byte count, which the snapshot prints as a text. -/
def countOfText : Option XetCommandBigInt → Int
  | some (.string text) => (bigIntOfText text).getD 0
  | some (.number n) => n.integer?.getD 0
  | some (.bigint n) => n
  | none => 0

/-- `Number(value)` of a count. -/
def countOfNumber (value : Option JsNumber) : Int := (value.bind JsNumber.integer?).getD 0

/-- The archive that an entry is from. -/
structure SourceArchive where
  name : String
  sha256 : String
  deriving DecidableEq, Repr

/-- The entry of an archive that was snapshotted. -/
structure SplitEntryReference where
  index : Nat
  logicalPath : String
  deriving DecidableEq, Repr

/-- What is recorded of a snapshot. -/
structure CorpusRecord where
  name : String
  path : String
  sha256 : Option String
  logicalByteLength : Int
  storedByteLength : Int
  savingsByteLength : Int
  chunkCount : Int
  reusedChunkCount : Int
  sourceArchive : Option SourceArchive
  splitEntry : Option SplitEntryReference
  evidence : XetSnapshotEvidenceCommandPayload
  deriving DecidableEq, Repr

/-- `evidenceToRecord`. -/
def evidenceToRecord (evidence : XetSnapshotEvidenceCommandPayload) (logicalByteLength : Int)
    (name path : String) (sha256 : Option String) (sourceArchive : Option SourceArchive)
    (splitEntry : Option SplitEntryReference) : CorpusRecord where
  name
  path
  sha256
  logicalByteLength
  storedByteLength := countOfText evidence.storedByteLength
  savingsByteLength := logicalByteLength - countOfText evidence.storedByteLength
  chunkCount := countOfNumber evidence.chunkCount
  reusedChunkCount := countOfNumber evidence.reusedChunkCount
  sourceArchive
  splitEntry
  evidence

/-- `evidence.digests.find((digest) => digest.algorithm === 'sha256')?.value`. -/
def foundSha256 (evidence : XetSnapshotEvidenceCommandPayload) : Option String :=
  ((evidence.digests.getD []).find? fun digest => digest.algorithm = "sha256").map (·.value)

/-- The loop of `runArchiveCorpus`, from an index on. -/
def runArchiveFrom (rt : CorpusRuntime) :
    Nat → List CorpusFile → XetRepository → List CorpusRecord × XetRepository
  | _, [], repository => ([], repository)
  | index, file :: files, repository =>
      let taken := runBenchmarkForFile rt file repository index []
      let record := evidenceToRecord taken.1 (countOfText taken.1.logicalByteLength) file.name
        file.path (foundSha256 taken.1) none none
      let rest := runArchiveFrom rt (index + 1) files taken.2
      (record :: rest.1, rest.2)

/-- `runArchiveCorpus`. -/
def runArchiveCorpus (rt : CorpusRuntime) (files : List CorpusFile) (repository : XetRepository) :
    List CorpusRecord × XetRepository :=
  runArchiveFrom rt 0 files repository

/-! ### Split archives -/

/-- What an adapter makes of an archive. -/
structure SplitArchive (ι : Type) where
  entries : List ι
  format : String

/-- What the script reads of the manifest of a split archive. -/
structure SplitManifest where
  reconstructionFidelity : String
  totalEntryByteLength : Int
  deriving DecidableEq, Repr

/-- The adapters that the script is given, or loads: their entries, what it reads of one, and the
five operations. The answer of `detectSplitArtifactFormat` is read as a truth value. -/
structure SplitArtifactAdapters (ε ι : Type) where
  logicalPath : ι → String
  data : ι → List UInt8
  detectSplitArtifactFormat : String → List UInt8 → Bool
  splitArtifactArchive : List UInt8 → String → Except ε (SplitArchive ι)
  createSplitArtifactArchive : SplitArchive ι → Except ε (List UInt8)
  compareSplitEntryDigestTrees : List ι → List ι → Except ε Bool
  createSplitArtifactManifest :
    String → List UInt8 → String → SplitArchive ι → Except ε SplitManifest

/-- How a run of the script fails. -/
inductive CorpusError (ε : Type)
  | corpusMissing (corpusPath : String)
  | invalidMode
  | adapter (error : ε)
  | notEquivalent (archiveName : String)
  | restore (error : XetRestoreError)
  deriving DecidableEq, Repr

/-- The message of an error that the script itself throws. -/
def CorpusError.message {ε : Type} : CorpusError ε → Option String
  | .corpusMissing corpusPath => some ("Corpus path does not exist: " ++ corpusPath)
  | .invalidMode => some "mode must be one of: archive, split, both."
  | .notEquivalent archiveName => some
      ("Split adapter failed content-equivalence verification for " ++ archiveName ++ ".")
  | .adapter _ | .restore _ => none

/-- `filenameForFormat`. -/
def filenameForFormat (rt : CorpusRuntime) (name format : String) : String :=
  let endsWith (suffix : String) : Bool :=
    suffix.toList.isSuffixOf (rt.toLowerCase name).toList
  if format = "unitypackage" then
    if endsWith ".unitypackage" then name else name ++ ".unitypackage"
  else if format = "gzip-tar" then
    if endsWith ".tgz" || endsWith ".tar.gz" then name else name ++ ".tgz"
  else if endsWith ("." ++ format) then name
  else name ++ "." ++ format

section Split

variable {ε ι : Type} (rt : CorpusRuntime) (adapters : SplitArtifactAdapters ε ι)

/-- `assertSplitContentEquivalent`. -/
def assertSplitContentEquivalent (archiveName : String) (split : SplitArchive ι) :
    Except (CorpusError ε) Unit := do
  let repacked ← (adapters.createSplitArtifactArchive split).mapError .adapter
  let unpackedAgain ← (adapters.splitArtifactArchive repacked
    (filenameForFormat rt archiveName split.format)).mapError .adapter
  let equivalent ← (adapters.compareSplitEntryDigestTrees split.entries
    unpackedAgain.entries).mapError .adapter
  if equivalent then .ok () else .error (.notEquivalent archiveName)

/-- What is summarized of a file of a split corpus. -/
structure SplitFileSummary where
  name : String
  path : String
  representation : String
  format : Option String
  originalArchiveByteLength : Int
  originalArchiveSha256 : String
  entryCount : Int
  totalEntryByteLength : Int
  storedByteLength : Int
  chunkCount : Int
  reusedChunkCount : Int
  fileId : Option String := none
  reconstructionFidelity : Option String := none
  contentEquivalentVerified : Option Bool := none
  deriving DecidableEq, Repr

/-- The request for an entry of an archive. -/
def entryRequest (file : CorpusFile) (fileIndex entryIndex : Nat) (format : String) (entry : ι) :
    BufferRequest where
  assetVersionId := packageCorpusId fileIndex ++ "-entry-" ++
    padStart (toString (entryIndex + 1)) 5 '0'
  sourceFilename := adapters.logicalPath entry
  sourceDigests := some [⟨"sha256", rt.sha256Hex (adapters.data entry)⟩]
  metadata := [("logicalPath", file.name ++ "!/" ++ adapters.logicalPath entry),
    ("sourceArchiveFilename", file.name),
    ("sourceArchiveSha256", rt.sha256Hex file.content), ("splitArtifactFormat", format),
    ("splitEntryPath", adapters.logicalPath entry)]

/-- The loop over the entries of an archive, from an index on. -/
def benchmarkEntriesFrom (workspacePath : String) (file : CorpusFile) (fileIndex : Nat)
    (format : String) :
    Nat → List ι → XetRepository → List CorpusRecord × XetRepository
  | _, [], repository => ([], repository)
  | entryIndex, entry :: entries, repository =>
      let taken := runBenchmarkForBuffer rt (adapters.data entry) repository
        (entryRequest rt adapters file fileIndex entryIndex format entry) workspacePath
      let record := evidenceToRecord taken.1 (adapters.data entry).length
        (file.name ++ "!/" ++ adapters.logicalPath entry) file.path
        (some (rt.sha256Hex (adapters.data entry)))
        (some ⟨file.name, rt.sha256Hex file.content⟩)
        (some ⟨entryIndex, adapters.logicalPath entry⟩)
      let rest :=
        benchmarkEntriesFrom workspacePath file fileIndex format (entryIndex + 1) entries taken.2
      (record :: rest.1, rest.2)

/-- A file that no adapter takes, snapshotted whole. -/
def runWholeFallback (file : CorpusFile) (fileIndex : Nat) (repository : XetRepository) :
    CorpusRecord × SplitFileSummary × XetRepository :=
  let taken := runBenchmarkForFile rt file repository fileIndex
    [("assetVersionId", packageCorpusId fileIndex ++ "-whole-fallback"),
      ("representation", "whole-fallback")]
  let record := evidenceToRecord taken.1 (countOfText taken.1.logicalByteLength) file.name
    file.path (some (rt.sha256Hex file.content)) none none
  (record,
    { name := file.name
      path := file.path
      representation := "whole-fallback"
      format := none
      originalArchiveByteLength := file.content.length
      originalArchiveSha256 := rt.sha256Hex file.content
      entryCount := 0
      totalEntryByteLength := file.content.length
      storedByteLength := record.storedByteLength
      chunkCount := record.chunkCount
      reusedChunkCount := record.reusedChunkCount
      fileId := some record.evidence.fileId },
    taken.2)

/-- The body of the loop of `runSplitCorpus`. -/
def runSplitFile (workspacePath : String) (file : CorpusFile) (fileIndex : Nat)
    (repository : XetRepository) :
    Except (CorpusError ε) (List CorpusRecord × SplitFileSummary × XetRepository) :=
  if !adapters.detectSplitArtifactFormat file.name file.content then
    let taken := runWholeFallback rt file fileIndex repository
    .ok ([taken.1], taken.2)
  else do
    let split ← (adapters.splitArtifactArchive file.content file.name).mapError .adapter
    assertSplitContentEquivalent rt adapters file.name split
    let manifest ← (adapters.createSplitArtifactManifest (packageCorpusId fileIndex) file.content
      file.name split).mapError .adapter
    let taken := benchmarkEntriesFrom rt adapters workspacePath file fileIndex split.format 0
      split.entries repository
    .ok (taken.1,
      { name := file.name
        path := file.path
        representation := "split"
        format := some split.format
        originalArchiveByteLength := file.content.length
        originalArchiveSha256 := rt.sha256Hex file.content
        entryCount := split.entries.length
        totalEntryByteLength := manifest.totalEntryByteLength
        storedByteLength := (taken.1.map (·.storedByteLength)).sum
        chunkCount := (taken.1.map (·.chunkCount)).sum
        reusedChunkCount := (taken.1.map (·.reusedChunkCount)).sum
        reconstructionFidelity := some manifest.reconstructionFidelity
        contentEquivalentVerified := some true },
      taken.2)

/-- What `runSplitCorpus` returns. -/
structure SplitCorpusResult where
  filesSummary : List SplitFileSummary
  records : List CorpusRecord
  deriving DecidableEq, Repr

/-- The loop of `runSplitCorpus`, from an index on. -/
def runSplitFrom (workspacePath : String) :
    Nat → List CorpusFile → XetRepository →
      Except (CorpusError ε) (SplitCorpusResult × XetRepository)
  | _, [], repository => .ok (⟨[], []⟩, repository)
  | fileIndex, file :: files, repository => do
      let (fileRecords, summary, repository) ←
        runSplitFile rt adapters workspacePath file fileIndex repository
      let (rest, repository) ← runSplitFrom workspacePath (fileIndex + 1) files repository
      .ok (⟨summary :: rest.filesSummary, fileRecords ++ rest.records⟩, repository)

/-- `runSplitCorpus`. -/
def runSplitCorpus (workspacePath : String) (files : List CorpusFile)
    (repository : XetRepository) : Except (CorpusError ε) (SplitCorpusResult × XetRepository) :=
  runSplitFrom rt adapters workspacePath 0 files repository

end Split

/-! ### Restore samples -/

/-- The indexes of `sampleRestoreTargets` before its loop, each once. -/
def firstIndexes (length sampleCount : Nat) : List Nat :=
  let indexes := [0].insert (length - 1)
  if 2 < sampleCount then indexes.insert ((length - 1) / 2) else indexes

/-- The loop of `sampleRestoreTargets`. It has ended before the index is the length: all smaller
ones have been added by then. -/
def fillIndexes (target length : Nat) (indexes : List Nat) : List Nat :=
  (List.range length).foldl
    (fun indexes index => if indexes.length < target then indexes.insert index else indexes)
    indexes

/-- `sampleRestoreTargets`. -/
def sampleRestoreTargets (results : List CorpusRecord) (sampleCount : Nat) : List CorpusRecord :=
  if sampleCount = 0 ∨ results = [] then []
  else
    let indexes := fillIndexes (min sampleCount results.length) results.length
      (firstIndexes results.length sampleCount)
    ((sortBy (fun left right => decide (left ≤ right)) indexes).take sampleCount).filterMap
      fun index => results[index]?

/-! ### How many samples are taken -/

/-- What the loop of `sampleRestoreTargets` keeps: its indexes are different and in bounds, and
they are enough or have all that it has counted up to. -/
structure Filled (target length counted : Nat) (indexes : List Nat) : Prop where
  nodup : indexes.Nodup
  bound : ∀ index ∈ indexes, index < length
  full : target ≤ indexes.length ∨ ∀ index < counted, index ∈ indexes

theorem Filled.insert {target length counted : Nat} {indexes : List Nat}
    (h : Filled target length counted indexes) {index : Nat} (hindex : index < length) :
    Filled target length counted (indexes.insert index) where
  nodup := h.nodup.insert
  bound := by
    intro i hi
    rcases List.mem_insert_iff.mp hi with rfl | hi
    · exact hindex
    · exact h.bound i hi
  full := by
    rcases h.full with hlength | hmem
    · exact .inl (hlength.trans List.length_le_length_insert)
    · exact .inr fun i hi => List.mem_insert_of_mem (hmem i hi)

theorem filled_firstIndexes {length : Nat} (target sampleCount : Nat) (hpos : 0 < length) :
    Filled target length 0 (firstIndexes length sampleCount) := by
  have hzero : Filled target length 0 [0] :=
    ⟨List.nodup_singleton 0, fun i hi => by
      rw [List.mem_singleton] at hi
      omega, .inr fun i hi => by omega⟩
  have hlast := hzero.insert (show length - 1 < length by omega)
  rw [firstIndexes]
  split
  · exact hlast.insert (show (length - 1) / 2 < length by omega)
  · exact hlast

/-- The loop, from the indexes it begins with. -/
theorem filled_fillIndexes {target length counted : Nat} {indexes : List Nat}
    (h : Filled target length 0 indexes) (hcounted : counted ≤ length) :
    Filled target length counted (fillIndexes target counted indexes) := by
  induction counted with
  | zero => exact h
  | succ counted ih =>
      have hbefore := ih (by omega)
      have hstep : fillIndexes target (counted + 1) indexes =
          if (fillIndexes target counted indexes).length < target then
            (fillIndexes target counted indexes).insert counted
          else fillIndexes target counted indexes := by
        rw [fillIndexes, List.range_succ, List.foldl_append]
        rfl
      rw [hstep]
      split
      · rename_i hfew
        have hinsert := hbefore.insert (show counted < length by omega)
        refine ⟨hinsert.nodup, hinsert.bound, ?_⟩
        rcases hbefore.full with hfull | hmem
        · omega
        · refine .inr fun i hi => ?_
          rcases Nat.lt_succ_iff_lt_or_eq.mp hi with hlt | rfl
          · exact List.mem_insert_of_mem (hmem i hlt)
          · exact List.mem_insert_self
      · rename_i henough
        exact ⟨hbefore.nodup, hbefore.bound, .inl (by omega)⟩

/-- **The loop finds enough indexes**: all of them, if so many are asked for. -/
theorem Filled.target_le {target length : Nat} {indexes : List Nat}
    (h : Filled target length length indexes) (htarget : target ≤ length) :
    target ≤ indexes.length := by
  rcases h.full with hfull | hmem
  · exact hfull
  · have hsubset : List.range length ⊆ indexes := fun i hi => hmem i (List.mem_range.mp hi)
    have hlength := (List.subperm_of_subset List.nodup_range hsubset).length_le
    rw [List.length_range] at hlength
    omega

/-- Elements at increasing indexes are a sublist. -/
theorem filterMap_getElem_sublist {α : Type} {l : List α} {indexes : List Nat}
    (h : indexes.Pairwise (· < ·)) (hbound : ∀ i ∈ indexes, i < l.length) :
    (indexes.filterMap fun i => l[i]?).Sublist l ∧
      (indexes.filterMap fun i => l[i]?).length = indexes.length := by
  have hmap : indexes.filterMap (fun i => l[i]?) =
      (indexes.pmap Fin.mk hbound).map fun i => l[i] := by
    clear h
    induction indexes with
    | nil => rfl
    | cons i indexes ih =>
        obtain ⟨hi, hrest⟩ := List.forall_mem_cons.mp hbound
        rw [List.filterMap_cons_some (List.getElem?_eq_getElem hi), ih hrest]
        rfl
  rw [hmap]
  constructor
  · refine List.map_getElem_sublist ?_
    exact h.pmap hbound fun i _ j _ hij => hij
  · rw [List.length_map, List.length_pmap]

/-- **The samples** are records at different indexes, in order, as many as were asked for while
there are enough. -/
theorem sampleRestoreTargets_sublist (results : List CorpusRecord) (sampleCount : Nat) :
    (sampleRestoreTargets results sampleCount).Sublist results ∧
      (sampleRestoreTargets results sampleCount).length = min sampleCount results.length := by
  rw [sampleRestoreTargets]
  split
  · rename_i hnone
    refine ⟨List.nil_sublist results, ?_⟩
    rcases hnone with rfl | rfl
    · rw [List.length_nil, Nat.zero_min]
    · rw [List.length_nil, Nat.min_zero]
  · rename_i hsome
    have hpos : 0 < results.length := List.length_pos_iff.mpr fun h => hsome (.inr h)
    have hfilled := filled_fillIndexes (filled_firstIndexes (min sampleCount results.length)
      sampleCount hpos) (le_refl results.length)
    have htarget := hfilled.target_le (min_le_right _ _)
    generalize fillIndexes (min sampleCount results.length) results.length
      (firstIndexes results.length sampleCount) = indexes at hfilled htarget
    have hperm := sortBy_perm (fun left right => decide (left ≤ right)) indexes
    have hsorted : (sortBy (fun left right => decide (left ≤ right)) indexes).Pairwise (· < ·) := by
      refine @sortBy_pairwise Nat Nat _ id _ indexes ?_ fun a b hne => ?_
      · rw [List.map_id]
        exact hfilled.nodup
      · rw [decide_eq_true_eq]
        exact ⟨fun hle => lt_of_le_of_ne hle hne, le_of_lt⟩
    have hmost : indexes.length ≤ results.length := by
      have hsubset : indexes ⊆ List.range results.length := fun i hi =>
        List.mem_range.mpr (hfilled.bound i hi)
      have hlength := (List.subperm_of_subset hfilled.nodup hsubset).length_le
      rwa [List.length_range] at hlength
    obtain ⟨hsublist, hlength⟩ := @filterMap_getElem_sublist _ results _
      (hsorted.sublist (List.take_sublist sampleCount _)) fun i hi =>
        hfilled.bound i (hperm.mem_iff.mp (List.mem_of_mem_take hi))
    refine ⟨hsublist, ?_⟩
    rw [hlength, List.length_take, hperm.length_eq]
    omega

/-! ### Verifying the samples -/

/-- What a sample was found to be. -/
structure RestoreSample where
  file : String
  restoredSha256 : String
  sourceSha256 : Option String
  verified : Bool
  deriving DecidableEq, Repr

/-- The samples of `verifyRestoreSamples`, from an index on. -/
def verifySamplesFrom {ε : Type} (rt : CorpusRuntime) (repository : XetRepository)
    (restoreRoot : String) : Nat → List CorpusRecord → Except (CorpusError ε) (List RestoreSample)
  | _, [] => .ok []
  | index, entry :: entries => do
      let digest := rt.sha256Hex (utf8Bytes entry.name)
      let destinationPath := restoreRoot ++ "/" ++ toString index ++ "-" ++
        String.ofList (digest.toList.take 12) ++ ".bin"
      let restored ← (restoreCommand rt.toXetRuntime repository
        ⟨destinationPath, some entry.evidence, some entry.evidence.fileId⟩).mapError .restore
      let rest ← verifySamplesFrom rt repository restoreRoot (index + 1) entries
      .ok ({ file := entry.name
             restoredSha256 := rt.sha256Hex restored.content
             sourceSha256 := entry.sha256
             verified := decide (some (rt.sha256Hex restored.content) = entry.sha256) } :: rest)

/-- `verifyRestoreSamples`. -/
def verifyRestoreSamples {ε : Type} (rt : CorpusRuntime) (results : List CorpusRecord)
    (repository : XetRepository) (restoreRoot : String) (sampleCount : Nat) :
    Except (CorpusError ε) (List RestoreSample) :=
  verifySamplesFrom rt repository restoreRoot 0 (sampleRestoreTargets results sampleCount)

/-! ### Summaries -/

/-- What both summaries say of the records. -/
structure CorpusTotals where
  benchmarkedObjectCount : Int
  totalStoredByteLength : Int
  totalChunks : Int
  uploadedChunks : Int
  reusedChunks : Int
  deriving DecidableEq, Repr

/-- The sums over the records. -/
def corpusTotals (results : List CorpusRecord) : CorpusTotals :=
  let totalChunks := (results.map (·.chunkCount)).sum
  let reusedChunks := (results.map (·.reusedChunkCount)).sum
  { benchmarkedObjectCount := results.length
    totalStoredByteLength := (results.map (·.storedByteLength)).sum
    totalChunks
    uploadedChunks := totalChunks - reusedChunks
    reusedChunks }

/-- A record in a summary: its evidence is left out, but for the file id. -/
structure CorpusRecordSummary where
  name : String
  path : String
  sha256 : Option String
  logicalByteLength : Int
  storedByteLength : Int
  savingsByteLength : Int
  chunkCount : Int
  reusedChunkCount : Int
  sourceArchive : Option SourceArchive
  splitEntry : Option SplitEntryReference
  fileId : String
  deriving DecidableEq, Repr

/-- `({ evidence, ...result }) => ({ ...result, fileId: evidence.fileId })`. -/
def CorpusRecord.summary (record : CorpusRecord) : CorpusRecordSummary :=
  { record with fileId := record.evidence.fileId }

/-- What `summarize` returns. -/
structure ArchiveSummary extends CorpusTotals where
  corpusPath : String
  mode : String
  repositoryPath : String
  engine : String
  fileCount : Int
  totalLogicalByteLength : Int
  totalSavingsByteLength : Int
  restoreSamples : List RestoreSample
  files : List CorpusRecordSummary
  deriving DecidableEq, Repr

/-- What `summarizeSplit` returns. -/
structure SplitSummary extends CorpusTotals where
  corpusPath : String
  mode : String
  repositoryPath : String
  engine : String
  fileCount : Int
  splitFileCount : Int
  wholeFallbackFileCount : Int
  totalLogicalByteLength : Int
  totalOriginalArchiveByteLength : Int
  totalSplitEntryByteLength : Int
  totalSavingsByteLength : Int
  restoreSamples : List RestoreSample
  files : List SplitFileSummary
  deriving DecidableEq, Repr

/-- The options of a run. -/
structure CorpusOptions where
  corpusPath : String
  repositoryPath : String
  mode : String := "archive"
  reset : Bool := true
  restoreSampleCount : Nat := 3
  deriving DecidableEq, Repr

/-- `summarize`. -/
def summarize (results : List CorpusRecord) (restoreSamples : List RestoreSample)
    (fileCount : Nat) (options : CorpusOptions) : ArchiveSummary :=
  let totalLogicalByteLength := (results.map (·.logicalByteLength)).sum
  { toCorpusTotals := corpusTotals results
    corpusPath := options.corpusPath
    mode := options.mode
    repositoryPath := options.repositoryPath
    engine := "cdngine-xet-benchmark-boundary"
    fileCount
    totalLogicalByteLength
    totalSavingsByteLength :=
      totalLogicalByteLength - (corpusTotals results).totalStoredByteLength
    restoreSamples
    files := results.map CorpusRecord.summary }

/-- `summarizeSplit`. -/
def summarizeSplit (splitResult : SplitCorpusResult) (restoreSamples : List RestoreSample)
    (options : CorpusOptions) : SplitSummary :=
  let totalOriginalArchiveByteLength :=
    (splitResult.filesSummary.map (·.originalArchiveByteLength)).sum
  let filesOf (representation : String) : Int :=
    (splitResult.filesSummary.filter fun file => file.representation = representation).length
  { toCorpusTotals := corpusTotals splitResult.records
    corpusPath := options.corpusPath
    mode := "split"
    repositoryPath := options.repositoryPath
    engine := "cdngine-xet-benchmark-boundary"
    fileCount := splitResult.filesSummary.length
    splitFileCount := filesOf "split"
    wholeFallbackFileCount := filesOf "whole-fallback"
    totalLogicalByteLength := totalOriginalArchiveByteLength
    totalOriginalArchiveByteLength
    totalSplitEntryByteLength := (splitResult.filesSummary.map (·.totalEntryByteLength)).sum
    totalSavingsByteLength := totalOriginalArchiveByteLength -
      (corpusTotals splitResult.records).totalStoredByteLength
    restoreSamples
    files := splitResult.filesSummary }

/-- What `compareSummaries` returns, but for the ratios. -/
structure SummaryComparison where
  archiveStoredByteLength : Int
  splitStoredByteLength : Int
  splitDeltaByteLength : Int
  deriving DecidableEq, Repr

/-- `compareSummaries`. -/
def compareSummaries (archiveSummary : ArchiveSummary) (splitSummary : SplitSummary) :
    SummaryComparison where
  archiveStoredByteLength := archiveSummary.totalStoredByteLength
  splitStoredByteLength := splitSummary.totalStoredByteLength
  splitDeltaByteLength :=
    splitSummary.totalStoredByteLength - archiveSummary.totalStoredByteLength

/-! ### The script -/

/-- What a run reports. -/
inductive CorpusReport
  | archive (summary : ArchiveSummary)
  | split (summary : SplitSummary)
  | both (archive : ArchiveSummary) (split : SplitSummary) (comparison : SummaryComparison)
  deriving DecidableEq, Repr

/-- The chunk repositories of a run: the one at its repository path, and those in the two
directories below it that the mode `both` uses. -/
structure CorpusRepositories where
  own : XetRepository
  archive : XetRepository
  split : XetRepository

/-- What is there after `rmSync`. -/
def CorpusRepositories.removed : CorpusRepositories := ⟨.empty, .empty, .empty⟩

/-- The temporary directories of a run: `workspacePath` and `restoreRoot`. -/
structure CorpusDirectories where
  workspacePath : String
  restoreRoot : String

section Script

variable {ε ι : Type} (rt : CorpusRuntime) (adapters : SplitArtifactAdapters ε ι)

/-- The mode `archive`, in a repository. -/
def runArchiveMode (directories : CorpusDirectories) (options : CorpusOptions)
    (files : List CorpusFile) (repository : XetRepository) :
    Except (CorpusError ε) (ArchiveSummary × XetRepository) := do
  let taken := runArchiveCorpus rt files repository
  let samples ← verifyRestoreSamples rt taken.1 taken.2 directories.restoreRoot
    options.restoreSampleCount
  .ok (summarize taken.1 samples files.length options, taken.2)

/-- The mode `split`, in a repository. -/
def runSplitMode (directories : CorpusDirectories) (options : CorpusOptions)
    (files : List CorpusFile) (repository : XetRepository) :
    Except (CorpusError ε) (SplitSummary × XetRepository) := do
  let (splitResult, repository) ←
    runSplitCorpus rt adapters directories.workspacePath files repository
  let samples ← verifyRestoreSamples rt splitResult.records repository directories.restoreRoot
    options.restoreSampleCount
  .ok (summarizeSplit splitResult samples options, repository)

/-- `runPackageCorpusDedupe`, on resolved paths; `corpus` is what the corpus directory holds. -/
def runPackageCorpusDedupe (directories : CorpusDirectories) (options : CorpusOptions)
    (corpus : Option (List CorpusEntry)) (repositories : CorpusRepositories) :
    Except (CorpusError ε) (CorpusReport × CorpusRepositories) :=
  match corpus with
  | none => .error (.corpusMissing options.corpusPath)
  | some entries =>
      if options.mode ∉ ["archive", "split", "both"] then .error .invalidMode
      else
        let repositories :=
          if options.reset then CorpusRepositories.removed else repositories
        let files := listCorpusFiles rt options.corpusPath entries
        if options.mode = "both" then do
          let (archiveSummary, archive) ← runArchiveMode rt directories
            { options with
              mode := "archive"
              repositoryPath := options.repositoryPath ++ "/archive" } files repositories.archive
          let (splitSummary, split) ← runSplitMode rt adapters directories
            { options with repositoryPath := options.repositoryPath ++ "/split" } files
            repositories.split
          .ok (.both archiveSummary splitSummary (compareSummaries archiveSummary splitSummary),
            { repositories with archive, split })
        else if options.mode = "split" then do
          let (summary, own) ← runSplitMode rt adapters directories options files repositories.own
          .ok (.split summary, { repositories with own })
        else do
          let (summary, own) ← runArchiveMode rt directories options files repositories.own
          .ok (.archive summary, { repositories with own })

end Script

end Cdngine
