import Cdngine.EvidencePayloads
import Cdngine.ReplayedSources
import Cdngine.XetSnapshots

/-!
# The Xet Source Repository

`XetSourceRepository` with its command bridges: a snapshot runs the snapshot command on a file and
turns what it prints into a source, and a restore runs the restore command on a request that is
built from the source and, when the snapshot store has it, from the evidence of the snapshot.

## Main results

* `exists_xetSnapshotFromPath_iff`: a snapshot succeeds exactly when the command runs on a file that
  is not empty.
* `xetSnapshotFromPath_eq_ok`: what the source of a snapshot says about the bytes.
-/

open ContentStore

namespace Cdngine

/-- The platform of the repository: what the commands take from it, and the division of numbers. -/
structure XetSourceRuntime extends XetRuntime where
  divide : JsNumber → JsNumber → JsNumber

variable (rt : XetSourceRuntime)

/-! ### Sources -/

/-- `SnapshotFromPathInput`, with the members that a caller may leave out. -/
structure SourceSnapshotInput where
  assetVersionId : String
  localPath : String
  sourceFilename : String
  logicalByteLength : Option Int := none
  sourceDigests : Option (List ObjectChecksum) := none
  metadata : Option (List (String × String)) := none
  deriving DecidableEq, Repr

/-- The share of the chunks that are reused, when both counts are known and there are chunks. -/
def reuseRatio (evidence : XetSnapshotEvidence) : Option JsNumber :=
  match evidence.chunkCount, evidence.reusedChunkCount with
  | some chunkCount, some reusedChunkCount =>
      if chunkCount = .finite 0 then none else some (rt.divide reusedChunkCount chunkCount)
  | _, _ => none

def buildDedupeMetrics (evidence : XetSnapshotEvidence) : Option SourceDedupeMetrics :=
  if evidence.storedByteLength.isNone && evidence.chunkCount.isNone &&
      evidence.reusedChunkCount.isNone then none
  else some {
    chunkCount := evidence.chunkCount
    reusedChunkCount := evidence.reusedChunkCount
    storedByteLength := evidence.storedByteLength
    dedupeRatio := reuseRatio rt evidence
    savingsRatio := reuseRatio rt evidence }

/-- The source of an evidence whose terms have been checked. -/
def xetSource (input : SourceSnapshotInput) (evidence : XetSnapshotEvidence)
    (normalizedTerms : List XetReconstructionTerm) : CanonicalSource where
  repositoryEngine := .xet
  canonicalSourceId := evidence.fileId
  snapshotId := evidence.fileId
  logicalPath := evidence.logicalPath.getD input.sourceFilename
  digests := cloneDigests (evidence.digests <|> input.sourceDigests)
  logicalByteLength := evidence.logicalByteLength <|> input.logicalByteLength
  storedByteLength := evidence.storedByteLength
  dedupeMetrics := buildDedupeMetrics rt evidence
  reconstructionHandles := some
    (⟨.manifest, evidence.fileId⟩ :: (evidence.shardIds.getD []).map fun shardId =>
      ⟨.chunkIndex, shardId⟩)
  substrateHints := some
    ([("manifestKind", "xet-file-reconstruction"),
      ("termCount", toString normalizedTerms.length),
      ("uploadedXorbCount", toString (evidence.uploadedXorbHashes.getD []).length),
      ("deduplicatedXorbCount", toString (evidence.deduplicatedXorbHashes.getD []).length)] ++
      (present evidence.fetchEndpoint).toList.map fun fetchEndpoint =>
        ("fetchEndpoint", fetchEndpoint))

def createXetSnapshotResult (input : SourceSnapshotInput) (evidence : XetSnapshotEvidence) :
    Except XetEvidenceError CanonicalSource :=
  if evidence.fileId.isEmpty then .error (.error "Xet evidence must include a fileId.")
  else do
    let normalizedTerms ← validateTerms evidence.terms
    return xetSource rt input evidence normalizedTerms

/-! ### Snapshots -/

/-- What a run of the snapshot command meets: the failure of the bridge when the command does not
run to its end, the files it reads, and the failure on a path without a file. -/
structure XetCommandRun where
  failure : Option RegistryError
  files : String → Option (List UInt8)
  noSuchFile : String → RegistryError
  repository : XetRepository

/-- The request that the snapshot command is sent. -/
def SourceSnapshotInput.request (input : SourceSnapshotInput) :
    CommandBackedXetSnapshotRequest where
  assetVersionId := input.assetVersionId
  localPath := input.localPath
  sourceFilename := input.sourceFilename
  logicalByteLength := input.logicalByteLength.map toString
  sourceDigests := input.sourceDigests.map fun digests => cloneDigests (some digests)
  metadata := input.metadata

/-- The error of an evidence that cannot be read. -/
def invalidEvidence : RegistryError :=
  .thrown "XetBridgeError" "Xet snapshot bridge returned invalid reconstruction evidence."

/-- `CommandBackedXetSnapshotEvidenceProvider.captureSnapshot`. -/
def captureSnapshot (rt : XetRuntime) (run : XetCommandRun) (input : SourceSnapshotInput) :
    Except RegistryError XetSnapshotEvidence :=
  match run.failure with
  | some error => .error error
  | none =>
      match run.files input.localPath with
      | none => .error (run.noSuchFile input.localPath)
      | some source =>
          (parseXetSnapshotEvidenceCommandPayload
            (snapshotCommand rt ⟨input.request, source⟩ run.repository).1).mapError
            fun _ => invalidEvidence

/-- What a caller sees of an error of the evidence. -/
def XetEvidenceError.thrown : XetEvidenceError → RegistryError
  | .error message => .plain message
  | .syntaxError message => .thrown "SyntaxError" message

/-- `XetSourceRepository.snapshotFromPath`, without the record in the snapshot store. -/
def xetSnapshotFromPath (run : XetCommandRun) (input : SourceSnapshotInput) :
    Except RegistryError SnapshotResult := do
  let evidence ← captureSnapshot rt.toXetRuntime run input
  let snapshot ← (createXetSnapshotResult rt input evidence).mapError XetEvidenceError.thrown
  return snapshot.toSnapshotResult

/-! ### What a snapshot says -/

variable {rt}

theorem captureSnapshot_eq_ok_iff {rt : XetRuntime} {run : XetCommandRun}
    {input : SourceSnapshotInput} {evidence : XetSnapshotEvidence} :
    captureSnapshot rt run input = .ok evidence ↔
      run.failure = none ∧ ∃ source, run.files input.localPath = some source ∧
        parseXetSnapshotEvidenceCommandPayload
          (snapshotCommand rt ⟨input.request, source⟩ run.repository).1 = .ok evidence := by
  unfold captureSnapshot
  cases run.failure with
  | some error => simp
  | none =>
      cases run.files input.localPath with
      | none => simp
      | some source => simp [mapError_eq_ok]

/-- The file id of a file with its digests. -/
def fileIdOf (rt : XetRuntime) (digests : List ObjectChecksum) (source : List UInt8) : String :=
  rt.sha256Hex (utf8Bytes (stringify rt.toRuntime (.object
    [("digests", .array (digests.map digestJson)),
      ("logicalByteLength", .string (toString source.length)),
      ("terms", termsJson (termsOf rt 0 (chunkBuffer source)))])))

/-- The digests that the snapshot command takes for those of a file. -/
def snapshotDigests (rt : XetRuntime) (input : SourceSnapshotInput) (source : List UInt8) :
    List ObjectChecksum :=
  normalizeDigests rt input.request source

/-- A source **describes** the bytes that it was taken from: its length and its terms are those of
the bytes, and its digests are those that it was given, with that of the bytes when none of them is
a SHA-256. -/
structure SnapshotDescribes (rt : XetRuntime) (input : SourceSnapshotInput) (source : List UInt8)
    (snapshot : SnapshotResult) : Prop where
  repositoryEngine : snapshot.repositoryEngine = "xet"
  canonicalSourceId : snapshot.canonicalSourceId =
    fileIdOf rt (snapshotDigests rt input source) source
  snapshotId : snapshot.snapshotId = snapshot.canonicalSourceId
  logicalByteLength : snapshot.logicalByteLength = some (source.length : Int)
  digests : snapshot.digests =
    (cloneDigests (some (snapshotDigests rt input source))).map ObjectChecksum.toJs
  termCount : ∃ hints, snapshot.substrateHints = some hints ∧
    hints.lookup "termCount" = some (.string (toString (chunkBuffer source).length))

/-- The source of an evidence that has been read from a payload. -/
theorem createXetSnapshotResult_of_parse {payload : XetSnapshotEvidenceCommandPayload}
    {evidence : XetSnapshotEvidence}
    (h : parseXetSnapshotEvidenceCommandPayload payload = .ok evidence)
    (input : SourceSnapshotInput) :
    createXetSnapshotResult rt input evidence =
      .ok (xetSource rt input evidence payload.terms) := by
  obtain ⟨hfileId, hne, hwell, -, -, -, -, rfl⟩ := parse_eq_ok_iff.mp h
  have hterms := validateTerms_eq_ok_iff.mpr ⟨hne, hwell, rfl⟩
  rw [createXetSnapshotResult, if_neg (mt String.isEmpty_iff.mp hfileId)]
  exact bind_eq_ok.mpr ⟨_, hterms, rfl⟩

/-- The source that is made of what the snapshot command prints describes the bytes. -/
theorem describes_of_parse {repository : XetRepository} {input : SourceSnapshotInput}
    {source : List UInt8} {evidence : XetSnapshotEvidence}
    (h : parseXetSnapshotEvidenceCommandPayload
      (snapshotCommand rt.toXetRuntime ⟨input.request, source⟩ repository).1 = .ok evidence) :
    SnapshotDescribes rt.toXetRuntime input source
      (xetSource rt input evidence
        (snapshotCommand rt.toXetRuntime ⟨input.request, source⟩ repository).1.terms
          ).toSnapshotResult := by
  have hterms :=
    (snapshot_tracks rt.toXetRuntime source repository.chunks).progress.terms
  obtain ⟨-, -, -, logical, stored, hlogical, -, rfl⟩ := parse_eq_ok_iff.mp h
  have hlength : logical = some (source.length : Int) :=
    Except.ok.inj (hlogical.symm.trans (parseOptionalBigInt_toString source.length _))
  refine ⟨rfl, ?_, rfl, ?_, ?_, ?_⟩
  · change snapshotFileId rt.toXetRuntime input.request source
      (snapshotLoop rt.toXetRuntime source repository.chunks).1 = _
    rw [snapshotFileId, hterms]
    rfl
  · change (logical <|> input.logicalByteLength) = _
    rw [hlength]
    rfl
  · change (cloneNewDigests [] (cloneNewDigests [] _)).map ObjectChecksum.toJs = _
    rw [cloneNewDigests_cloneNewDigests]
    rfl
  · refine ⟨_, rfl, ?_⟩
    change some (JsValue.string (toString
      (snapshotLoop rt.toXetRuntime source repository.chunks).1.terms.length)) = _
    rw [hterms, length_termsOf]

/-- **What a snapshot that succeeds says.** -/
theorem xetSnapshotFromPath_eq_ok {run : XetCommandRun} {input : SourceSnapshotInput}
    {snapshot : SnapshotResult} (h : xetSnapshotFromPath rt run input = .ok snapshot) :
    run.failure = none ∧ ∃ source, run.files input.localPath = some source ∧ source ≠ [] ∧
      SnapshotDescribes rt.toXetRuntime input source snapshot := by
  obtain ⟨evidence, hcapture, hresult⟩ := bind_eq_ok.mp h
  obtain ⟨hfailure, source, hsource, hparse⟩ := captureSnapshot_eq_ok_iff.mp hcapture
  rw [createXetSnapshotResult_of_parse hparse] at hresult
  cases hresult
  refine ⟨hfailure, source, hsource, ?_, describes_of_parse hparse⟩
  rintro rfl
  exact parse_empty_report _ _ _ _ hparse

/-- **A snapshot succeeds exactly when the command runs on a file that is not empty.** -/
theorem exists_xetSnapshotFromPath_iff (hdigest : ∀ bytes, rt.sha256Hex bytes ≠ "")
    {run : XetCommandRun} {input : SourceSnapshotInput} :
    (∃ snapshot, xetSnapshotFromPath rt run input = .ok snapshot) ↔
      run.failure = none ∧ ∃ source, run.files input.localPath = some source ∧ source ≠ [] := by
  constructor
  · rintro ⟨snapshot, h⟩
    obtain ⟨hfailure, source, hsource, hne, -⟩ := xetSnapshotFromPath_eq_ok h
    exact ⟨hfailure, source, hsource, hne⟩
  · rintro ⟨hfailure, source, hsource, hne⟩
    obtain ⟨evidence, hparse⟩ :=
      exists_parse_snapshotCommand hdigest hne input.request run.repository
    have hcapture := captureSnapshot_eq_ok_iff.mpr ⟨hfailure, source, hsource, hparse⟩
    rw [xetSnapshotFromPath, hcapture]
    change ∃ snapshot, ((createXetSnapshotResult rt input evidence).mapError
      XetEvidenceError.thrown >>= fun canonical => pure canonical.toSnapshotResult) = .ok snapshot
    rw [createXetSnapshotResult_of_parse hparse]
    exact ⟨_, rfl⟩

end Cdngine
