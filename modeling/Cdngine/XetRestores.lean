import Cdngine.MemoryUploadStore
import Cdngine.S3Stores
import Cdngine.XetSourceRepository

/-!
# Restores of Xet Sources

A source that was taken by the snapshot command, restored by the repository that took it or by
another one over the same chunks. The request of a restore names the source, and has the evidence
of its snapshot only when the snapshot store has the record. The restore command reads the terms
from that evidence, or else from the manifest of a file id, which no request has.

## Main results

* `materialize_of_record`: with the record a source is restored to its bytes.
* `materialize_without_record`: without it the restore command looks for a manifest that no
  snapshot writes.
* `evidence_alone_never_restores`: no source is restored from its persisted evidence alone.
-/

open ContentStore Runs

namespace Cdngine

/-! ### Requests -/

structure XetSnapshotDescriptor where
  canonicalSourceId : String
  snapshotId : String
  logicalPath : String
  reconstructionHandles : Option (List JsValue)
  substrateHints : Option (List (String × JsValue))

def snapshotToDescriptor (snapshot : SnapshotResult) : XetSnapshotDescriptor where
  canonicalSourceId := snapshot.canonicalSourceId
  snapshotId := snapshot.snapshotId
  logicalPath := snapshot.logicalPath
  reconstructionHandles := snapshot.reconstructionHandles
  substrateHints := snapshot.substrateHints

structure CommandBackedXetRestoreRequest where
  canonicalSourceId : String
  destinationPath : String
  snapshot : XetSnapshotDescriptor
  evidence : Option XetSnapshotEvidenceCommandPayload

/-- What the restore command reads of a request: it has no `fileId`. -/
def CommandBackedXetRestoreRequest.read (request : CommandBackedXetRestoreRequest) :
    XetRestoreCommandRequest where
  destinationPath := request.destinationPath
  evidence := request.evidence
  fileId := none

/-- What the snapshot store has of a snapshot. -/
structure XetSnapshotRecord where
  assetVersionId : String
  createdAt : Instant
  evidence : XetSnapshotEvidence
  snapshot : SnapshotResult

/-- `InMemoryXetSnapshotStore`, by canonical source id. -/
abbrev XetSnapshotStore := String → Option XetSnapshotRecord

/-- How a restore fails: before the command is run, or in it. -/
inductive XetRestoreFailure
  | unconfigured
  | notFound (canonicalSourceId : String)
  | otherSource (received asked : String)
  | command (error : XetRestoreError)
  deriving DecidableEq, Repr

/-- The message of a failure; that of a failed command is in what the command prints. -/
def XetRestoreFailure.message : XetRestoreFailure → Option String
  | .unconfigured => some "Xet restore requires a configured materializer."
  | .notFound canonicalSourceId =>
      some ("No Xet snapshot record exists for canonical source " ++
        quoted canonicalSourceId ++ ".")
  | .otherSource received asked =>
      some ("Xet restore received snapshot evidence for " ++ quoted received ++
        " but was asked to restore " ++ quoted asked ++ ".")
  | .command _ => none

abbrev XetFileMaterializer := CommandBackedXetRestoreRequest →
    Except XetRestoreError XetRestoredFile

/-- `CommandBackedXetFileMaterializer` over a local repository. -/
def commandBackedMaterializer (rt : XetRuntime) (repository : XetRepository) :
    XetFileMaterializer := fun request => restoreCommand rt repository request.read

/-- `XetSourceRepository.restoreToPath`. -/
def restoreToPath (materializer : Option XetFileMaterializer) (store : XetSnapshotStore)
    (input : RestoreSnapshotInput) : Except XetRestoreFailure XetRestoredFile :=
  match materializer with
  | none => .error .unconfigured
  | some materializeFile =>
      let record := store input.canonicalSourceId
      match input.snapshot <|> record.map (·.snapshot) with
      | none => .error (.notFound input.canonicalSourceId)
      | some snapshot =>
          if snapshot.canonicalSourceId ≠ input.canonicalSourceId then
            .error (.otherSource snapshot.canonicalSourceId input.canonicalSourceId)
          else
            (materializeFile
              { canonicalSourceId := input.canonicalSourceId
                destinationPath := input.destinationPath
                snapshot := snapshotToDescriptor snapshot
                evidence := record.map fun record =>
                  xetSnapshotEvidenceToCommandPayload record.evidence }).mapError .command

/-- `materializeCanonicalSourceToPath`, from persisted evidence. -/
def materializeCanonicalSourceToPath (materializer : Option XetFileMaterializer)
    (store : XetSnapshotStore) (canonicalSource : PersistedCanonicalSourceEvidence)
    (destinationPath : String) : Except XetRestoreFailure XetRestoredFile :=
  let snapshot := canonicalSourceEvidenceToSnapshotResult canonicalSource
  restoreToPath materializer store
    { canonicalSourceId := snapshot.canonicalSourceId
      destinationPath
      snapshot := some snapshot }

/-! ### With the record and without it -/

section Restores

variable {rt : XetRuntime} {repository : XetRepository} {store : XetSnapshotStore}
  {evidence : PersistedCanonicalSourceEvidence} {destinationPath : String}

/-- The restore command that a restore from persisted evidence runs. -/
theorem materialize_eq :
    materializeCanonicalSourceToPath (some (commandBackedMaterializer rt repository)) store
        evidence destinationPath =
      (restoreCommand rt repository
        ⟨destinationPath, (store evidence.canonicalSourceId).map fun record =>
          xetSnapshotEvidenceToCommandPayload record.evidence, none⟩).mapError .command :=
  if_neg (not_not.mpr rfl)

/-- **With the record** a source is restored to its bytes. -/
theorem materialize_of_record {source : List UInt8} {record : XetSnapshotRecord}
    (hrecord : store evidence.canonicalSourceId = some record)
    (hterms : record.evidence.terms = termsOf rt 0 (chunkBuffer source))
    (hread : ∀ chunk ∈ chunkBuffer source,
      repository.chunks.read (chunkAddress rt chunk) = some chunk) :
    materializeCanonicalSourceToPath (some (commandBackedMaterializer rt repository)) store
      evidence destinationPath = .ok ⟨destinationPath, source⟩ := by
  have hpayload : (xetSnapshotEvidenceToCommandPayload record.evidence).terms =
      termsOf rt 0 (chunkBuffer source) := hterms
  rw [materialize_eq, hrecord]
  exact mapError_eq_ok.mpr (restoreCommand_eq_ok hpayload hread destinationPath none)

/-- **Without the record** the restore command looks for the manifest of an undefined file id. -/
theorem materialize_without_record (hrecord : store evidence.canonicalSourceId = none)
    (hmanifest : repository.manifests.read (manifestFile "undefined") = none) :
    materializeCanonicalSourceToPath (some (commandBackedMaterializer rt repository)) store
      evidence destinationPath = .error (.command (.noSuchFile "undefined.json")) := by
  have hfile : readFileSync repository.manifests (manifestFile "undefined") =
      .error (.noSuchFile "undefined.json") := by
    rw [readFileSync, hmanifest]
    rfl
  have hterms : restoreTerms rt repository ⟨destinationPath, none, none⟩ =
      .error (.noSuchFile "undefined.json") := bind_eq_error.mpr (.inl hfile)
  have hcommand : restoreCommand rt repository ⟨destinationPath, none, none⟩ =
      .error (.noSuchFile "undefined.json") := bind_eq_error.mpr (.inl hterms)
  rw [materialize_eq, hrecord, Option.map_none, hcommand]
  rfl

end Restores

/-! ### Sources of a sequence of snapshots -/

theorem manifestFile_injective : Function.Injective manifestFile :=
  fun _ _ => (String.append_left_inj ".json").mp

/-- No run writes the manifest of an undefined file id. -/
theorem manifests_snapshots {rt : XetRuntime} (hdigest : ∀ bytes, rt.sha256Hex bytes ≠ "undefined")
    {repository : XetRepository} (inputs : List XetSnapshotInput)
    (h : repository.manifests.read (manifestFile "undefined") = none) :
    (inputs.foldl (XetRepository.snapshot rt) repository).manifests.read
      (manifestFile "undefined") = none := by
  induction inputs generalizing repository with
  | nil => exact h
  | cons input inputs ih =>
      refine ih ?_
      have hne : manifestFile (snapshotFileId rt input.request input.source
          (snapshotLoop rt input.source repository.chunks).1) ≠ manifestFile "undefined" :=
        fun heq => hdigest _ (manifestFile_injective heq)
      exact (Directory.read_write_of_ne _ _ hne).trans h

/-- What the repository that took a snapshot keeps of it: the evidence that the command reported,
and the source that was made of it. -/
structure RecordsSnapshot (rt : XetSourceRuntime) (input : SourceSnapshotInput)
    (τ : Transition XetRepository XetSnapshotInput) (record : XetSnapshotRecord) : Prop where
  request : τ.action.request = input.request
  evidence : parseXetSnapshotEvidenceCommandPayload (snapshotReport rt.toXetRuntime τ) =
    .ok record.evidence
  snapshot : ∃ source, createXetSnapshotResult rt input record.evidence = .ok source ∧
    record.snapshot = source.toSnapshotResult

/-- A source **restores alike** with and without the record of its snapshot: from its persisted
evidence, its bytes are written by a repository whose snapshot store does not have the record, and
by one whose snapshot store has it. -/
structure RestoresAlike (rt : XetRuntime) (repository : XetRepository)
    (evidence : PersistedCanonicalSourceEvidence) (record : XetSnapshotRecord)
    (source : List UInt8) (destinationPath : String) : Prop where
  alone : ∀ store : XetSnapshotStore, store evidence.canonicalSourceId = none →
    materializeCanonicalSourceToPath (some (commandBackedMaterializer rt repository)) store
      evidence destinationPath = .ok ⟨destinationPath, source⟩
  recorded : ∀ store : XetSnapshotStore, store evidence.canonicalSourceId = some record →
    materializeCanonicalSourceToPath (some (commandBackedMaterializer rt repository)) store
      evidence destinationPath = .ok ⟨destinationPath, source⟩

section Snapshots

variable {rt : XetSourceRuntime} {inputs : List XetSnapshotInput} {input : SourceSnapshotInput}
  {τ : Transition XetRepository XetSnapshotInput} {record : XetSnapshotRecord}
  {evidence : PersistedCanonicalSourceEvidence} {destinationPath : String}

/-- With the record, the source of every run is restored after all further runs. -/
theorem recorded_restores (hcollision : Set.InjOn rt.sha256Hex (chunksOf inputs))
    (hτ : τ ∈ trace (XetRepository.snapshot rt.toXetRuntime) .empty inputs)
    (hrecord : RecordsSnapshot rt input τ record) (store : XetSnapshotStore)
    (hstore : store evidence.canonicalSourceId = some record) :
    materializeCanonicalSourceToPath (some (commandBackedMaterializer rt.toXetRuntime
        (inputs.foldl (XetRepository.snapshot rt.toXetRuntime) .empty))) store
      evidence destinationPath = .ok ⟨destinationPath, τ.action.source⟩ := by
  have hread := read_chunks_of_mem_trace (chunkAddress_injOn hcollision) subset_rfl
    (addressed_empty _ _) τ hτ
  have hterms : (snapshotReport rt.toXetRuntime τ).terms =
      termsOf rt.toXetRuntime 0 (chunkBuffer τ.action.source) :=
    (snapshot_tracks rt.toXetRuntime τ.action.source τ.before.chunks).progress.terms
  obtain ⟨-, -, -, -, heq⟩ := parse_eq_ok hrecord.evidence
  exact materialize_of_record hstore (heq.trans hterms) hread

end Snapshots

/-- **No source is restored from its persisted evidence alone**: after every sequence of snapshots,
whatever was persisted of a source and recorded of its snapshot, a repository over the same chunks
whose snapshot store does not have the record does not write the bytes of the source. -/
theorem evidence_alone_never_restores {rt : XetRuntime}
    (hdigest : ∀ bytes, rt.sha256Hex bytes ≠ "undefined") (inputs : List XetSnapshotInput)
    (evidence : PersistedCanonicalSourceEvidence) (record : XetSnapshotRecord)
    (source : List UInt8) (destinationPath : String) :
    ¬ RestoresAlike rt (inputs.foldl (XetRepository.snapshot rt) .empty) evidence record source
      destinationPath := by
  intro h
  have hrestored := h.alone (fun _ => none) rfl
  have hmanifest := @manifests_snapshots rt hdigest .empty inputs rfl
  rw [materialize_without_record rfl hmanifest] at hrestored
  cases hrestored

/-! ### A snapshot of a small file -/

/-- A platform for concrete inputs, on which no ratio is computed. -/
def sampleRestoreRuntime : XetSourceRuntime where
  toXetRuntime := sampleXetRuntime
  divide _ _ := .nan

theorem sampleXetRuntime_digest_undefined (bytes : List UInt8) :
    sampleXetRuntime.sha256Hex bytes ≠ "undefined" := by
  intro h
  have hlength := Sha256.length_hex bytes
  rw [show Sha256.hex bytes = "undefined" from h] at hlength
  cases hlength

/-- A snapshot of three bytes. -/
def sampleRestoreInput : SourceSnapshotInput where
  assetVersionId := "version-1"
  localPath := "/tmp/a.bin"
  sourceFilename := "a.bin"

/-- The run of the command on the three bytes. -/
def sampleRestoreRun : XetSnapshotInput := ⟨sampleRestoreInput.request, [1, 2, 3]⟩

/-- The run in the empty repository. -/
def sampleRestoreTransition : Transition XetRepository XetSnapshotInput :=
  ⟨.empty, sampleRestoreRun, XetRepository.empty.snapshot sampleXetRuntime sampleRestoreRun⟩

theorem exists_sampleRecord :
    ∃ record, RecordsSnapshot sampleRestoreRuntime sampleRestoreInput sampleRestoreTransition
      record := by
  have hne : ([1, 2, 3] : List UInt8) ≠ [] := List.cons_ne_nil _ _
  obtain ⟨evidence, hparse⟩ := exists_parse_snapshotCommand sampleXetRuntime_digest hne
    sampleRestoreInput.request .empty
  have hcreate := @createXetSnapshotResult_of_parse sampleRestoreRuntime _ _ hparse
    sampleRestoreInput
  exact ⟨⟨"version-1", 0, evidence, _⟩, rfl, hparse, _, hcreate, rfl⟩

theorem sampleRestoreRun_injOn :
    Set.InjOn sampleXetRuntime.sha256Hex (chunksOf [sampleRestoreRun]) := by
  have hchunks : chunkBuffer [1, 2, 3] = [[1, 2, 3]] := by decide
  have hchunk : ∀ chunk ∈ chunksOf [sampleRestoreRun], chunk = [1, 2, 3] := by
    rintro chunk ⟨input, hinput, hchunk⟩
    obtain rfl := List.mem_singleton.mp hinput
    change chunk ∈ chunkBuffer [1, 2, 3] at hchunk
    rw [hchunks] at hchunk
    exact List.mem_singleton.mp hchunk
  intro a ha b hb _
  rw [hchunk a ha, hchunk b hb]

/-- The source of the snapshot is not restored alike. -/
theorem sample_source_not_restored_alike :
    ∃ record, RecordsSnapshot sampleRestoreRuntime sampleRestoreInput sampleRestoreTransition
        record ∧
      ¬ RestoresAlike sampleXetRuntime
        ([sampleRestoreRun].foldl (XetRepository.snapshot sampleXetRuntime) .empty)
        (snapshotResultToCanonicalSourceEvidence record.snapshot) record
        [1, 2, 3] "/tmp/b.bin" := by
  obtain ⟨record, hrecord⟩ := exists_sampleRecord
  exact ⟨record, hrecord, evidence_alone_never_restores sampleXetRuntime_digest_undefined
    [sampleRestoreRun] _ record [1, 2, 3] "/tmp/b.bin"⟩

/-- **Restored with the record, and not without it.** The repository that took the snapshot writes
the three bytes; another one over the same chunks finds no manifest. -/
theorem sample_source_restored_otherwise :
    ∃ record, RecordsSnapshot sampleRestoreRuntime sampleRestoreInput sampleRestoreTransition
        record ∧
      materializeCanonicalSourceToPath (some (commandBackedMaterializer sampleXetRuntime
          ([sampleRestoreRun].foldl (XetRepository.snapshot sampleXetRuntime) .empty)))
          (fun _ => some record) (snapshotResultToCanonicalSourceEvidence record.snapshot)
          "/tmp/b.bin" = .ok ⟨"/tmp/b.bin", [1, 2, 3]⟩ ∧
      materializeCanonicalSourceToPath (some (commandBackedMaterializer sampleXetRuntime
          ([sampleRestoreRun].foldl (XetRepository.snapshot sampleXetRuntime) .empty)))
          (fun _ => none) (snapshotResultToCanonicalSourceEvidence record.snapshot) "/tmp/b.bin" =
        .error (.command (.noSuchFile "undefined.json")) := by
  obtain ⟨record, hrecord⟩ := exists_sampleRecord
  have hτ : sampleRestoreTransition ∈
      trace (XetRepository.snapshot sampleRestoreRuntime.toXetRuntime) .empty [sampleRestoreRun] :=
    List.mem_singleton_self _
  refine ⟨record, hrecord, ?_, ?_⟩
  · exact @recorded_restores sampleRestoreRuntime [sampleRestoreRun] sampleRestoreInput
      sampleRestoreTransition record (snapshotResultToCanonicalSourceEvidence record.snapshot)
      "/tmp/b.bin" sampleRestoreRun_injOn hτ hrecord (fun _ => some record) rfl
  · exact materialize_without_record rfl
      (manifests_snapshots sampleXetRuntime_digest_undefined [sampleRestoreRun] rfl)

end Cdngine
