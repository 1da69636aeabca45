import Cdngine.SourceMigration

/-!
# Recanonicalized Rows

The apply mode of the migration with the Xet repository behind its command: the bytes that a row
is restored to are whatever the legacy engine writes, and they are snapshotted anew. The restored
bytes are not compared with what the row records of them; its digests travel with the request.

## Main results

* `recanonicalizeRow_xet_iff`: a row is snapshotted exactly when its restore leaves a file that is
  not empty and the command runs.
* `recanonicalized_rows`: over a whole run, which rows are recanonicalized, and what their
  candidates say about the bytes.
-/

open PosixPaths

namespace Cdngine

/-- The platform of the script with a Xet repository. -/
structure XetMigrationRuntime extends MigrationRuntime, XetSourceRuntime

/-! ### The repository of the script -/

def isSupportedRuntimeEngine (engine : String) : Bool :=
  ["kopia", "xet", "object-store"].contains engine

/-- `RuntimeSelectedSourceRepository.restoreToPath`: a source is restored by the engine that it
names. -/
def runtimeSelectedRestore (defaultEngine : String)
    (restoreToPath : String → RestoreSnapshotInput → Except RegistryError String)
    (input : RestoreSnapshotInput) : Except RegistryError String :=
  let engine := (input.snapshot.map SnapshotResult.repositoryEngine).getD defaultEngine
  if isSupportedRuntimeEngine engine then restoreToPath engine input
  else .error (.thrown "SourceRepositoryFactoryError"
    ("Canonical source restore does not support repository engine " ++ quoted engine ++
      " in the current runtime."))

/-- What the apply loop meets on one row: whether its directory can be made and removed, what the
engines do with a restore, and the run of the snapshot command, with the files that the restore
has left and the Xet repository as earlier rows have left it. -/
structure XetMigrationRow where
  makeDirectory : Except RegistryError Unit
  restoreToPath : String → RestoreSnapshotInput → Except RegistryError String
  command : XetCommandRun
  removeDirectory : Except RegistryError Unit

/-- The steps of a row with the Xet repository. -/
def XetMigrationRow.steps (rt : XetMigrationRuntime) (row : XetMigrationRow) : RowSteps where
  makeDirectory := row.makeDirectory
  restoreToPath := runtimeSelectedRestore "xet" row.restoreToPath
  snapshotFromPath := xetSnapshotFromPath rt.toXetSourceRuntime row.command
  removeDirectory := row.removeDirectory

/-! ### One row -/

/-- The restore that the apply loop asks for on a record. -/
def restoreRequest (workDirectory : Path) (record : MigrationRecord) :
    Except RegistryError RestoreSnapshotInput :=
  (toSnapshotInput record).map fun snapshot => {
    canonicalSourceId := snapshot.canonicalSourceId
    destinationPath := restorePath workDirectory record
    snapshot := some snapshot }

/-- A row **is restored to** bytes: its restore succeeds, and they are in the file that the legacy
engine says it has written. -/
def XetMigrationRow.RestoresTo (row : XetMigrationRow) (workDirectory : Path)
    (record : MigrationRecord) (source : List UInt8) : Prop :=
  row.makeDirectory = .ok () ∧ ∃ request restoredPath,
    restoreRequest workDirectory record = .ok request ∧
    row.restoreToPath "kopia" request = .ok restoredPath ∧
    row.command.files restoredPath = some source

/-- The digests of a candidate: those that are recorded, each once, with that of the bytes when
none of them is a SHA-256. -/
def candidateDigests (rt : Runtime) (record : MigrationRecord) (source : List UInt8) :
    List ObjectChecksum :=
  let recorded := cloneDigests (some record.canonicalDigestSet)
  if recorded.any fun digest => digest.algorithm = "sha256" then recorded
  else recorded ++ [⟨"sha256", rt.sha256Hex source⟩]

/-- A candidate **describes** the bytes that were snapshotted: its identity is that of its digests,
the length and the chunks of the bytes, and its length is theirs. -/
structure CandidateDescribes (rt : XetMigrationRuntime) (record : MigrationRecord)
    (source : List UInt8) (candidate : CandidateCanonicalSource) : Prop where
  repositoryEngine : candidate.repositoryEngine = "xet"
  canonicalSourceId : candidate.canonicalSourceId =
    fileIdOf rt.toXetRuntime (candidateDigests rt.toRuntime record source) source
  canonicalSnapshotId : candidate.canonicalSnapshotId = candidate.canonicalSourceId
  canonicalLogicalByteLength : candidate.canonicalLogicalByteLength =
    some (toString (source.length : Int))
  canonicalDigestSet : candidate.canonicalDigestSet =
    (cloneDigests (some (candidateDigests rt.toRuntime record source))).map ObjectChecksum.toJs

/-- The digests of the request of a candidate. -/
theorem snapshotDigests_candidateInput {rt : XetMigrationRuntime} {record : MigrationRecord}
    {restoredPath : String} {input : SourceSnapshotInput}
    (h : candidateInput record restoredPath = .ok input) (source : List UInt8) :
    snapshotDigests rt.toXetRuntime input source =
      candidateDigests rt.toRuntime record source := by
  obtain ⟨length, -, hinput⟩ := bind_eq_ok.mp h
  cases hinput
  unfold snapshotDigests normalizeDigests candidateDigests SourceSnapshotInput.request
  cases record.canonicalDigestSet with
  | nil => rfl
  | cons digest digests => rfl

/-- An eligible record names the legacy engine and has its evidence. -/
theorem classifiedAs_eligible {record : MigrationRecord}
    (h : classifiedAs .eligible record = true) :
    record.repositoryEngine = some "kopia" ∧ hasCanonicalEvidence record = true := by
  have heligible : (classifyRecord record).recanonicalizationStatus = .eligible :=
    of_decide_eq_true h
  unfold classifyRecord at heligible
  split_ifs at heligible with hengine hevidence
  exact ⟨hengine, hevidence⟩

/-- The evidence of a record as a snapshot, which names the engine of the record. -/
theorem toSnapshotInput_eq_ok {record : MigrationRecord} {snapshot : SnapshotResult}
    (h : toSnapshotInput record = .ok snapshot) :
    record.repositoryEngine = some snapshot.repositoryEngine ∧
      ∃ length, bigIntOfOptional record.canonicalLogicalByteLength = .ok length := by
  unfold toSnapshotInput at h
  split at h
  · cases h
  · rename_i engine hengine
    split at h
    · obtain ⟨length, hlength, hrest⟩ := bind_eq_ok.mp h
      obtain ⟨stored, -, hsnapshot⟩ := bind_eq_ok.mp hrest
      cases hsnapshot
      exact ⟨hengine, length, hlength⟩
    · cases h

/-- The restore of an eligible record goes to the legacy engine. -/
theorem restore_eligible {record : MigrationRecord} (h : classifiedAs .eligible record = true)
    {workDirectory : Path} {request : RestoreSnapshotInput}
    (hrequest : restoreRequest workDirectory record = .ok request)
    (restoreToPath : String → RestoreSnapshotInput → Except RegistryError String) :
    runtimeSelectedRestore "xet" restoreToPath request = restoreToPath "kopia" request := by
  unfold restoreRequest at hrequest
  cases hsnapshot : toSnapshotInput record with
  | error e =>
      rw [hsnapshot] at hrequest
      cases hrequest
  | ok snapshot =>
      rw [hsnapshot] at hrequest
      cases hrequest
      have hengine := (toSnapshotInput_eq_ok hsnapshot).1
      rw [(classifiedAs_eligible h).1] at hengine
      rw [runtimeSelectedRestore, Option.map_some, Option.getD_some, ← Option.some.inj hengine]
      rfl

/-- The request of a candidate can be made once the restore has been asked for. -/
theorem exists_candidateInput {record : MigrationRecord} {workDirectory : Path}
    {request : RestoreSnapshotInput} (h : restoreRequest workDirectory record = .ok request)
    (restoredPath : String) :
    ∃ input, candidateInput record restoredPath = .ok input ∧ input.localPath = restoredPath := by
  unfold restoreRequest at h
  cases hsnapshot : toSnapshotInput record with
  | error e =>
      rw [hsnapshot] at h
      cases h
  | ok snapshot =>
      obtain ⟨length, hlength⟩ := (toSnapshotInput_eq_ok hsnapshot).2
      rw [candidateInput, hlength]
      exact ⟨_, rfl, rfl⟩

/-- The steps of a row, one after the other. -/
theorem recanonicalizeRow_eq_ok_iff {workDirectory : Path} {steps : RowSteps}
    {record : MigrationRecord} {snapshot : SnapshotResult} :
    (recanonicalizeRow workDirectory steps record).2 = .ok snapshot ↔
      steps.makeDirectory = .ok () ∧ ∃ request restoredPath input,
        restoreRequest workDirectory record = .ok request ∧
        steps.restoreToPath request = .ok restoredPath ∧
        candidateInput record restoredPath = .ok input ∧
        steps.snapshotFromPath input = .ok snapshot := by
  unfold recanonicalizeRow restoreRequest
  cases steps.makeDirectory with
  | error e => simp
  | ok u =>
      cases toSnapshotInput record with
      | error e => simp [Except.map]
      | ok source => simp [Except.map, bind_eq_ok]

/-- **A row is snapshotted** exactly when it is restored to bytes, of which there are some, and the
command runs; the bytes may be any. -/
theorem recanonicalizeRow_xet_iff {rt : XetMigrationRuntime}
    (hdigest : ∀ bytes, rt.sha256Hex bytes ≠ "") {record : MigrationRecord}
    (h : classifiedAs .eligible record = true) (workDirectory : Path) (row : XetMigrationRow) :
    (∃ snapshot, (recanonicalizeRow workDirectory (row.steps rt) record).2 = .ok snapshot) ↔
      row.command.failure = none ∧
        ∃ source, row.RestoresTo workDirectory record source ∧ source ≠ [] := by
  constructor
  · rintro ⟨snapshot, hrow⟩
    obtain ⟨hdirectory, request, restoredPath, input, hrequest, hrestore, hinput, hsnapshot⟩ :=
      recanonicalizeRow_eq_ok_iff.mp hrow
    obtain ⟨hfailure, source, hsource, hne, -⟩ := xetSnapshotFromPath_eq_ok hsnapshot
    obtain ⟨input', hinput', hpath⟩ := exists_candidateInput hrequest restoredPath
    cases hinput.symm.trans hinput'
    rw [hpath] at hsource
    exact ⟨hfailure, source, ⟨hdirectory, request, restoredPath, hrequest,
      (restore_eligible h hrequest _).symm.trans hrestore, hsource⟩, hne⟩
  · rintro ⟨hfailure, source, ⟨hdirectory, request, restoredPath, hrequest, hrestore, hsource⟩,
      hne⟩
    obtain ⟨input, hinput, hpath⟩ := exists_candidateInput hrequest restoredPath
    rw [← hpath] at hsource
    obtain ⟨snapshot, hsnapshot⟩ :=
      (@exists_xetSnapshotFromPath_iff rt.toXetSourceRuntime hdigest row.command input).mpr
        ⟨hfailure, source, hsource, hne⟩
    exact ⟨snapshot, recanonicalizeRow_eq_ok_iff.mpr
      ⟨hdirectory, request, restoredPath, input, hrequest,
        (restore_eligible h hrequest _).trans hrestore, hinput, hsnapshot⟩⟩

/-- **The candidate of a row describes the bytes that the row was restored to.** -/
theorem candidateDescribes_of_recanonicalizeRow {rt : XetMigrationRuntime}
    {record : MigrationRecord} (h : classifiedAs .eligible record = true) {workDirectory : Path}
    {row : XetMigrationRow} {snapshot : SnapshotResult} {source : List UInt8}
    (hrow : (recanonicalizeRow workDirectory (row.steps rt) record).2 = .ok snapshot)
    (hrestores : row.RestoresTo workDirectory record source) :
    CandidateDescribes rt record source (toSerializableCandidate snapshot) := by
  obtain ⟨-, request, restoredPath, input, hrequest, hrestore, hinput, hsnapshot⟩ :=
    recanonicalizeRow_eq_ok_iff.mp hrow
  obtain ⟨-, request', restoredPath', hrequest', hrestore', hsource⟩ := hrestores
  cases hrequest.symm.trans hrequest'
  cases ((restore_eligible h hrequest _).symm.trans hrestore).symm.trans hrestore'
  obtain ⟨input', hinput', hpath⟩ := exists_candidateInput hrequest restoredPath
  cases hinput.symm.trans hinput'
  obtain ⟨-, source', hsource', -, hdescribes⟩ := xetSnapshotFromPath_eq_ok hsnapshot
  rw [hpath] at hsource'
  cases hsource.symm.trans hsource'
  have hdigests := @snapshotDigests_candidateInput rt _ _ _ hinput source
  refine ⟨hdescribes.repositoryEngine, ?_, hdescribes.snapshotId, ?_, ?_⟩
  · rw [← hdigests]
    exact hdescribes.canonicalSourceId
  · rw [toSerializableCandidate, hdescribes.logicalByteLength]
    rfl
  · rw [← hdigests]
    exact hdescribes.digests

/-! ### The rows of a run -/

/-- What becomes of an eligible row: it is recanonicalized or fails, and in the first case it has a
candidate that describes the bytes. -/
structure RowOutcome (rt : XetMigrationRuntime) (workDirectory : Path) (row : XetMigrationRow)
    (record : MigrationRecord) (op : MigrationOperation) : Prop where
  sameRecord : op.record = record
  recanonicalized_iff : op.hasStatus .recanonicalized = true ↔
    row.command.failure = none ∧
      ∃ source, row.RestoresTo workDirectory record source ∧ source ≠ []
  failed : op.hasStatus .recanonicalized = false → op.hasStatus .failed = true
  candidate : op.hasStatus .recanonicalized = true →
    ∀ source, row.RestoresTo workDirectory record source → ∃ candidate,
      op.candidateCanonicalSource = some candidate ∧ CandidateDescribes rt record source candidate

theorem appliedOperation_outcome {rt : XetMigrationRuntime}
    (hdigest : ∀ bytes, rt.sha256Hex bytes ≠ "") {op : MigrationOperation} (hplanned : op.Planned)
    (heligible : op.hasStatus .eligible = true) (workDirectory : Path) (row : XetMigrationRow) :
    RowOutcome rt workDirectory row op.record
      (appliedOperation rt.toMigrationRuntime workDirectory (row.steps rt) op) := by
  have hstatus : op.recanonicalizationStatus = .eligible := of_decide_eq_true heligible
  have hrecord : classifiedAs .eligible op.record = true :=
    decide_eq_true (hplanned.status.symm.trans hstatus)
  have hiff := recanonicalizeRow_xet_iff hdigest hrecord workDirectory row
  rw [appliedOperation, if_pos hstatus]
  cases hrow : (recanonicalizeRow workDirectory (row.steps rt) op.record).2 with
  | error e =>
      refine ⟨rfl, ?_, fun _ => rfl, ?_⟩
      · rw [← hiff, hrow]
        constructor
        · intro h
          cases h
        · rintro ⟨snapshot, h⟩
          cases h
      · intro h
        cases h
  | ok snapshot =>
      refine ⟨rfl, ?_, ?_, ?_⟩
      · rw [← hiff, hrow]
        exact ⟨fun _ => ⟨snapshot, rfl⟩, fun _ => rfl⟩
      · intro h
        cases h
      · exact fun _ source hsource => ⟨_, rfl,
          candidateDescribes_of_recanonicalizeRow hrecord hrow hsource⟩

/-- **Which rows are recanonicalized.** A run leaves the rows that are not eligible as they are. An
eligible row is recanonicalized exactly when its restore leaves a file with some bytes and the
command runs, and fails otherwise: the bytes are not compared with what the row records. The
candidate describes the bytes that were snapshotted, under the digests that are recorded. -/
theorem recanonicalized_rows {rt : XetMigrationRuntime}
    (hdigest : ∀ bytes, rt.sha256Hex bytes ≠ "") {workDirectory : Path}
    {rows : Nat → XetMigrationRow} {records : List JsValue}
    {result : RecanonicalizationReport × List (Nat × RestoreSnapshotInput)}
    (hrun : runRecanonicalizeCommand rt.toMigrationRuntime workDirectory
      (fun i => (rows i).steps rt) "xet" records = .ok result) :
    ∃ plan, buildRecanonicalizationPlan rt.toMigrationRuntime true "xet" records = .ok plan ∧
      result.1.operations.length = plan.operations.length ∧
      ∀ i op, plan.operations[i]? = some op →
        (op.hasStatus .eligible = false → result.1.operations[i]? = some op) ∧
        (op.hasStatus .eligible = true → ∃ op', result.1.operations[i]? = some op' ∧
          RowOutcome rt workDirectory (rows i) op.record op') := by
  obtain ⟨plan, progress, hplan, -, hprogress, rfl⟩ := runRecanonicalizeCommand_eq_ok_iff.mp hrun
  have hlaw := applyOperations_plan hplan hprogress
  refine ⟨plan, hplan, hlaw.length_operations, fun i op hop => ⟨fun hnot => ?_, fun h => ?_⟩⟩
  · rw [hlaw.operations, List.getElem?_mapIdx, hop, Option.map_some, appliedOperation,
      if_neg (of_decide_eq_false hnot)]
  · refine ⟨_, ?_, appliedOperation_outcome hdigest
      (planned_of_mem_plan hplan op (List.mem_of_getElem? hop)) h workDirectory (rows i)⟩
    rw [hlaw.operations, List.getElem?_mapIdx, hop]
    rfl

/-! ### A row whose bytes differ -/

/-- A platform for the sample row. -/
def sampleXetMigrationRuntime : XetMigrationRuntime :=
  { sampleMigrationRuntime, sampleXetRuntime with
    divide := fun n m => match n, m with
      | .finite q, .finite r => if r = 0 then .nan else .finite (q / r)
      | _, _ => .nan }

/-- A row that records another digest and another length than those of the bytes below. -/
def driftedRecords : List JsValue :=
  [.object (sampleRecordEntries "v1" ++ [("repositoryEngine", .string "kopia"),
    ("canonicalSourceId", .string "s1"), ("canonicalSnapshotId", .string "n1"),
    ("canonicalLogicalPath", .string "p1"),
    ("canonicalDigestSet", .array
      [.object [("algorithm", .string "sha256"), ("value", .string "legacy-sha256")]]),
    ("canonicalLogicalByteLength", .string "4096")])]

/-- A row whose restore writes three bytes. -/
def driftedRow : XetMigrationRow where
  makeDirectory := .ok ()
  restoreToPath _ input := .ok input.destinationPath
  command := {
    failure := none
    files := fun _ => some [1, 2, 3]
    noSuchFile := fun path => .thrown "XetBridgeError" path
    repository := .empty }
  removeDirectory := .ok ()

/-- The record of the row, normalized. -/
def driftedRecord : MigrationRecord where
  assetId := "asset"
  versionId := "v1"
  versionNumber := .ofNat 0
  serviceNamespaceId := "media"
  tenantScopeId := none
  lifecycleState := "published"
  sourceFilename := "source.png"
  repositoryEngine := some "kopia"
  canonicalSourceId := some "s1"
  canonicalSnapshotId := some "n1"
  canonicalLogicalPath := some "p1"
  canonicalDigestSet := [⟨"sha256", "legacy-sha256"⟩]
  canonicalLogicalByteLength := some "4096"
  canonicalStoredByteLength := none
  sourceReconstructionHandles := []
  sourceSubstrateHints := none
  isCurrentCanonicalVersion := false

theorem driftedRecords_normalized :
    driftedRecords.mapM (normalizeMigrationRecord sampleXetMigrationRuntime.toMigrationRuntime) =
      .ok [driftedRecord] := by
  decide +kernel

/-- Every run over the row ends, and leaves what the loop makes of its operation. -/
theorem drifted_run :
    ∃ result, runRecanonicalizeCommand sampleXetMigrationRuntime.toMigrationRuntime .root
        (fun _ => driftedRow.steps sampleXetMigrationRuntime) "xet" driftedRecords = .ok result ∧
      result.1.operations = [appliedOperation sampleXetMigrationRuntime.toMigrationRuntime .root
        (driftedRow.steps sampleXetMigrationRuntime)
        (RiskyRow.operation ⟨driftedRecord, classifyRecord driftedRecord⟩)] := by
  obtain ⟨plan, hplan, hoperations⟩ : ∃ plan,
      buildRecanonicalizationPlan sampleXetMigrationRuntime.toMigrationRuntime true "xet"
        driftedRecords = .ok plan ∧
      plan.operations = [RiskyRow.operation ⟨driftedRecord, classifyRecord driftedRecord⟩] := by
    rw [buildRecanonicalizationPlan, driftedRecords_normalized]
    exact ⟨_, rfl, rfl⟩
  obtain ⟨progress, hprogress⟩ := @applyOperations_total
    sampleXetMigrationRuntime.toMigrationRuntime .root
    (fun _ => driftedRow.steps sampleXetMigrationRuntime) (fun _ => rfl) plan.operations
    ⟨[], plan.summary, []⟩
  have hlaw := applyOperations_plan hplan hprogress
  refine ⟨_, runRecanonicalizeCommand_eq_ok_iff.mpr ⟨plan, progress, hplan, rfl, hprogress, rfl⟩,
    ?_⟩
  rw [hlaw.operations, hoperations]
  rfl

/-- The run over the row reports it as recanonicalized, with a candidate for the three bytes. -/
theorem drifted_rows_outcome :
    ∃ result op', runRecanonicalizeCommand sampleXetMigrationRuntime.toMigrationRuntime .root
        (fun _ => driftedRow.steps sampleXetMigrationRuntime) "xet" driftedRecords = .ok result ∧
      result.1.operations[0]? = some op' ∧
      RowOutcome sampleXetMigrationRuntime .root driftedRow driftedRecord op' := by
  obtain ⟨result, hrun, -⟩ := drifted_run
  obtain ⟨plan, hplan, -, hrows⟩ :=
    @recanonicalized_rows sampleXetMigrationRuntime sampleXetRuntime_digest .root
      (fun _ => driftedRow) driftedRecords result hrun
  rw [buildRecanonicalizationPlan, driftedRecords_normalized] at hplan
  cases hplan
  obtain ⟨op', hop', houtcome⟩ := (hrows 0 _ rfl).2 rfl
  exact ⟨result, op', hrun, hop', houtcome⟩

/-- Bytes that differ from what the row records in digest and in length are snapshotted as the
candidate of the row, and the candidate lists the recorded digest. -/
theorem drifted_row_recanonicalized :
    ∃ result op candidate,
      runRecanonicalizeCommand sampleXetMigrationRuntime.toMigrationRuntime .root
        (fun _ => driftedRow.steps sampleXetMigrationRuntime) "xet" driftedRecords = .ok result ∧
      result.1.operations = [op] ∧ op.hasStatus .recanonicalized = true ∧
      driftedRow.RestoresTo .root op.record [1, 2, 3] ∧
      op.record.canonicalDigestSet = [⟨"sha256", "legacy-sha256"⟩] ∧
      sampleXetMigrationRuntime.sha256Hex [1, 2, 3] ≠ "legacy-sha256" ∧
      op.record.canonicalLogicalByteLength = some "4096" ∧
      op.candidateCanonicalSource = some candidate ∧
      candidate.canonicalDigestSet = [ObjectChecksum.toJs ⟨"sha256", "legacy-sha256"⟩] := by
  obtain ⟨result, hrun, hoperations⟩ := drifted_run
  have hplanned : (RiskyRow.operation ⟨driftedRecord, classifyRecord driftedRecord⟩).Planned :=
    ⟨rfl, .inl rfl, rfl⟩
  have hrestores : driftedRow.RestoresTo .root driftedRecord [1, 2, 3] :=
    ⟨rfl, _, _, rfl, rfl, rfl⟩
  have houtcome := @appliedOperation_outcome sampleXetMigrationRuntime sampleXetRuntime_digest _
    hplanned rfl .root driftedRow
  have hstatus := houtcome.recanonicalized_iff.mpr ⟨rfl, _, hrestores, by decide⟩
  obtain ⟨candidate, hcandidate, hdescribes⟩ := houtcome.candidate hstatus _ hrestores
  refine ⟨result, _, candidate, hrun, hoperations, hstatus, ?_, ?_, ?_, ?_, hcandidate, ?_⟩
  · rw [houtcome.sameRecord]
    exact hrestores
  · rw [houtcome.sameRecord]
    rfl
  · intro h
    have hlength := Sha256.length_hex [1, 2, 3]
    rw [show Sha256.hex [1, 2, 3] = "legacy-sha256" from h] at hlength
    cases hlength
  · rw [houtcome.sameRecord]
    rfl
  · rw [hdescribes.canonicalDigestSet]
    rfl

end Cdngine
