import Cdngine.Completion
import Cdngine.Runs
import Mathlib.Logic.Function.Basic

/-!
# The In-Memory Upload-Session Store

`InMemoryUploadSessionIssuanceStore`, the store behind the upload-session routes when no
database is configured. It answers the same calls as the Prisma store over maps of mutable
records. Nothing of a call is rolled back when it throws: a session found expired stays
`expired`.

A completion is one piece of code up to the `await` of its canonicalization and one after
it; other calls run in between. `beginCompletion` is the first piece, `resolveCompletion`
the second, and `MemorySystem` takes them and the issuances in any order.

## Main results

* `beginCompletion_cases`: the inversion of the first piece.
* `MemoryStep.inv`: the invariant of the system; no two completions in flight have
  accepted the same version, and none has accepted a completed one.
* `MemoryStep.keeps`: no step changes what an issuance wrote, nor the result of a completed
  session.
-/

open Runs

namespace Cdngine

/-! ### Maps -/

/-- A `Map` with string keys, of which the code uses `get` and `set`. -/
abbrev JsMap (α : Type) := String → Option α

/-- The map after `set`. -/
def JsMap.set {α : Type} (m : JsMap α) (key : String) (value : α) : JsMap α :=
  Function.update m key (some value)

theorem JsMap.set_apply {α : Type} (m : JsMap α) (key : String) (value : α) (key' : String) :
    m.set key value key' = if key' = key then some value else m key' :=
  Function.update_apply m key (some value) key'

@[simp] theorem JsMap.set_self {α : Type} (m : JsMap α) (key : String) (value : α) :
    m.set key value key = some value := by
  rw [set_apply, if_pos rfl]

theorem JsMap.set_of_ne {α : Type} (m : JsMap α) {key key' : String} (value : α) (h : key' ≠ key) :
    m.set key value key' = m key' := by
  rw [set_apply, if_neg h]

/-! ### Errors -/

/-- The errors of the store. -/
inductive UploadSessionError
  | idempotencyConflict (idempotencyKey : String)
  | assetNotFound (assetId : String)
  | notFound (uploadSessionId : String)
  | missingVersion (uploadSessionId : String)
  | expired (uploadSessionId : String)
  | invalidStateTransition (uploadSessionId state : String)
  | validationFailed (uploadSessionId problemType detail : String)
  | canonicalizationFailed (uploadSessionId : String) (cause : RegistryError)

/-- The message of an error. -/
def UploadSessionError.message (rt : Runtime) : UploadSessionError → String
  | idempotencyConflict key =>
      "Idempotency key " ++ quoted key ++ " was reused for a different upload-session request."
  | assetNotFound id => "Asset " ++ quoted id ++ " does not exist."
  | notFound id => "Upload session " ++ quoted id ++ " does not exist."
  | missingVersion id => "Upload session " ++ quoted id ++ " references a missing version."
  | expired id => "Upload session " ++ quoted id ++ " expired before valid completion."
  | invalidStateTransition id state =>
      "Upload session " ++ quoted id ++ " cannot complete from state " ++ quoted state ++ "."
  | validationFailed _ _ detail => detail
  | canonicalizationFailed id .thrownValue =>
      "Canonicalization failed for upload session " ++ quoted id ++ "."
  | canonicalizationFailed _ cause => cause.message rt

/-! ### Records -/

structure AssetSummary where
  assetId : String
  assetOwner : String
  serviceNamespaceId : String
  tenantId : Option String
  deriving DecidableEq, Repr

/-- The canonical evidence of a version, as the store persists it. -/
structure PersistedCanonicalSourceEvidence where
  repositoryEngine : String
  canonicalSourceId : String
  canonicalSnapshotId : String
  canonicalLogicalPath : String
  canonicalDigestSet : List JsValue
  canonicalLogicalByteLength : Option Int
  canonicalStoredByteLength : Option Int
  dedupeMetrics : Option (List (String × JsValue))
  sourceReconstructionHandles : Option (List JsValue)
  sourceSubstrateHints : Option (List (String × JsValue))

def snapshotResultToCanonicalSourceEvidence (snapshot : SnapshotResult) :
    PersistedCanonicalSourceEvidence where
  repositoryEngine := snapshot.repositoryEngine
  canonicalSourceId := snapshot.canonicalSourceId
  canonicalSnapshotId := snapshot.snapshotId
  canonicalLogicalPath := snapshot.logicalPath
  canonicalDigestSet := snapshot.digests
  canonicalLogicalByteLength := snapshot.logicalByteLength
  canonicalStoredByteLength := snapshot.storedByteLength
  dedupeMetrics := snapshot.dedupeMetrics
  sourceReconstructionHandles := snapshot.reconstructionHandles
  sourceSubstrateHints := snapshot.substrateHints

def canonicalSourceEvidenceToSnapshotResult (evidence : PersistedCanonicalSourceEvidence) :
    SnapshotResult where
  repositoryEngine := evidence.repositoryEngine
  canonicalSourceId := evidence.canonicalSourceId
  snapshotId := evidence.canonicalSnapshotId
  logicalPath := evidence.canonicalLogicalPath
  digests := evidence.canonicalDigestSet
  logicalByteLength := evidence.canonicalLogicalByteLength
  storedByteLength := evidence.canonicalStoredByteLength
  dedupeMetrics := evidence.dedupeMetrics
  reconstructionHandles := evidence.sourceReconstructionHandles
  substrateHints := evidence.sourceSubstrateHints

/-- The evidence of a snapshot gives the snapshot back. -/
@[simp] theorem canonicalSourceEvidence_roundtrip (snapshot : SnapshotResult) :
    canonicalSourceEvidenceToSnapshotResult (snapshotResultToCanonicalSourceEvidence snapshot) =
      snapshot := rfl

structure VersionRecord where
  assetId : String
  assetOwner : String
  checksum : ObjectChecksum
  contentType : String
  filename : String
  objectKey : String
  serviceNamespaceId : String
  tenantId : Option String
  versionId : String
  versionNumber : Nat
  byteLength : Int
  canonicalSourceEvidence : Option PersistedCanonicalSourceEvidence := none
  lifecycleState : AssetVersionState
  workflowDispatch : Option RegistryWorkflowDispatchSummary := none

structure UploadSessionRecord where
  assetId : String
  checksum : ObjectChecksum
  contentType : String
  expiresAt : Instant
  filename : String
  objectKey : String
  serviceNamespaceId : String
  tenantId : Option String
  uploadSessionId : String
  versionId : String
  uploadSessionState : UploadSessionState
  completionRequestHash : Option String := none
  completionResult : Option RegistryCompletedUploadSession := none

/-- What an idempotency record holds: the result of an issuance or of a completion. -/
inductive StoredResult
  | issued (result : RegistryIssuedUploadSession)
  | completed (result : RegistryCompletedUploadSession)

/-- A stored result as the answer to a repeated request. -/
def StoredResult.duplicate : StoredResult → StoredResult
  | issued result => issued { result with isDuplicate := true }
  | completed result => completed { result with isDuplicate := true }

structure MemoryIdempotencyRecord where
  normalizedRequestHash : String
  result : StoredResult

structure InMemoryUploadSessionIssuanceStore where
  assets : JsMap AssetSummary := fun _ => none
  versionsById : JsMap VersionRecord := fun _ => none
  versionsByAssetId : JsMap (List String) := fun _ => none
  uploadSessions : JsMap UploadSessionRecord := fun _ => none
  idempotencyRecords : JsMap MemoryIdempotencyRecord := fun _ => none

inductive MemoryOperation
  | create
  | complete

def MemoryOperation.text : MemoryOperation → String
  | create => "upload-session:create"
  | complete => "upload-session:complete"

def buildOperationIdempotencyKey (callerScopeKey : String) (operation : MemoryOperation)
    (idempotencyKey : String) : String :=
  callerScopeKey ++ ":" ++ operation.text ++ ":" ++ idempotencyKey

def RegistryIssueUploadSessionInput.memoryKey (input : RegistryIssueUploadSessionInput) : String :=
  buildOperationIdempotencyKey input.callerScopeKey .create input.idempotencyKey

def RegistryCompleteUploadSessionInput.memoryKey (input : RegistryCompleteUploadSessionInput) :
    String :=
  buildOperationIdempotencyKey input.callerScopeKey .complete input.idempotencyKey

/-! ### Issuance -/

/-- The ids that an issuance generates. -/
structure MemoryIssueIds where
  assetId : String
  versionId : String
  uploadSessionId : String

namespace InMemoryUploadSessionIssuanceStore

variable (store : InMemoryUploadSessionIssuanceStore)

def setVersion (version : VersionRecord) : InMemoryUploadSessionIssuanceStore :=
  { store with versionsById := store.versionsById.set version.versionId version }

def setSession (session : UploadSessionRecord) : InMemoryUploadSessionIssuanceStore :=
  { store with uploadSessions := store.uploadSessions.set session.uploadSessionId session }

/-- The store with the result of a completion under its idempotency key. -/
def setRecord (input : RegistryCompleteUploadSessionInput)
    (result : RegistryCompletedUploadSession) :
    InMemoryUploadSessionIssuanceStore :=
  { store with
    idempotencyRecords :=
      store.idempotencyRecords.set input.memoryKey
        ⟨input.normalizedRequestHash, .completed result⟩ }

def resolveOrCreateAsset (input : RegistryIssueUploadSessionInput) (ids : MemoryIssueIds) :
    Except UploadSessionError AssetSummary × InMemoryUploadSessionIssuanceStore :=
  match present input.assetId with
  | some assetId =>
      match store.assets assetId with
      | some asset => (.ok asset, store)
      | none => (.error (.assetNotFound assetId), store)
  | none =>
      let asset : AssetSummary :=
        { assetId := ids.assetId
          assetOwner := input.assetOwner
          serviceNamespaceId := input.serviceNamespaceId
          tenantId := present input.tenantId }
      (.ok asset, { store with assets := store.assets.set ids.assetId asset })

/-- The version record of an issuance. -/
def issuedVersionRecord (input : RegistryIssueUploadSessionInput) (ids : MemoryIssueIds)
    (asset : AssetSummary) (versionNumber : Nat) : VersionRecord where
  assetId := asset.assetId
  assetOwner := asset.assetOwner
  checksum := input.checksum
  filename := input.filename
  objectKey := input.objectKey
  serviceNamespaceId := asset.serviceNamespaceId
  tenantId := present asset.tenantId
  versionId := ids.versionId
  versionNumber
  contentType := input.contentType
  lifecycleState := .sessionCreated
  byteLength := input.byteLength

/-- The session record of an issuance. -/
def issuedSessionRecord (input : RegistryIssueUploadSessionInput) (ids : MemoryIssueIds)
    (asset : AssetSummary) : UploadSessionRecord where
  assetId := asset.assetId
  checksum := input.checksum
  contentType := input.contentType
  expiresAt := input.expiresAt
  filename := input.filename
  objectKey := input.objectKey
  serviceNamespaceId := asset.serviceNamespaceId
  tenantId := present asset.tenantId
  uploadSessionId := ids.uploadSessionId
  uploadSessionState := .sessionCreated
  versionId := ids.versionId

/-- The result of an issuance. -/
def issuedResult (input : RegistryIssueUploadSessionInput) (ids : MemoryIssueIds)
    (asset : AssetSummary) (versionNumber : Nat) : RegistryIssuedUploadSession where
  assetId := asset.assetId
  assetOwner := asset.assetOwner
  checksum := input.checksum
  contentType := input.contentType
  expiresAt := input.expiresAt
  filename := input.filename
  objectKey := input.objectKey
  serviceNamespaceId := asset.serviceNamespaceId
  tenantId := present asset.tenantId
  uploadSessionId := ids.uploadSessionId
  versionId := ids.versionId
  versionNumber
  byteLength := input.byteLength
  isDuplicate := false

/-- The number of the next version of an asset. -/
def nextVersionNumber (assetId : String) : Nat :=
  ((store.versionsByAssetId assetId).getD []).length + 1

/-- The store after an issuance on an asset. -/
def storeIssued (input : RegistryIssueUploadSessionInput) (ids : MemoryIssueIds)
    (asset : AssetSummary) : InMemoryUploadSessionIssuanceStore :=
  let existingVersionIds := (store.versionsByAssetId asset.assetId).getD []
  let versionNumber := store.nextVersionNumber asset.assetId
  { store with
    versionsById :=
      store.versionsById.set ids.versionId (issuedVersionRecord input ids asset versionNumber)
    versionsByAssetId :=
      store.versionsByAssetId.set asset.assetId (existingVersionIds ++ [ids.versionId])
    uploadSessions :=
      store.uploadSessions.set ids.uploadSessionId (issuedSessionRecord input ids asset)
    idempotencyRecords :=
      store.idempotencyRecords.set input.memoryKey
        ⟨input.normalizedRequestHash, .issued (issuedResult input ids asset versionNumber)⟩ }

/-- `issueUploadSession`. -/
def issueUploadSession (input : RegistryIssueUploadSessionInput) (ids : MemoryIssueIds) :
    Except UploadSessionError StoredResult × InMemoryUploadSessionIssuanceStore :=
  match store.idempotencyRecords input.memoryKey with
  | some record =>
      if record.normalizedRequestHash ≠ input.normalizedRequestHash then
        (.error (.idempotencyConflict input.idempotencyKey), store)
      else (.ok record.result.duplicate, store)
  | none =>
      match store.resolveOrCreateAsset input ids with
      | (.error e, store) => (.error e, store)
      | (.ok asset, store) =>
          (.ok (.issued (issuedResult input ids asset (store.nextVersionNumber asset.assetId))),
            store.storeIssued input ids asset)

/-! ### Completion -/

/-- `buildCompletionResultFromPersistedEvidence`. -/
def persistedCompletion (uploadSessionId : String) (version : VersionRecord) :
    Option RegistryCompletedUploadSession := do
  guard (version.lifecycleState = .canonical ∨ version.lifecycleState = .processing)
  let evidence ← version.canonicalSourceEvidence
  let dispatch ← version.workflowDispatch
  some
    { assetId := version.assetId
      canonicalSource := canonicalSourceEvidenceToSnapshotResult evidence
      uploadSessionId
      versionId := version.versionId
      versionState := version.lifecycleState
      workflowDispatch := dispatch }

/-- The problem that staged evidence has with the session and version it completes, and
its text. -/
def stagedEvidenceProblem (input : RegistryCompleteUploadSessionInput)
    (session : UploadSessionRecord) (version : VersionRecord) : Option (String × String) :=
  let staged := input.stagedObject
  if staged.objectKey ≠ session.objectKey then
    some (validationFailedProblem,
      "Upload session " ++ quoted input.uploadSessionId ++ " expected staged object " ++
        quoted session.objectKey ++ " but received " ++ quoted staged.objectKey ++ ".")
  else if staged.byteLength ≠ version.byteLength then
    some (validationFailedProblem,
      "Upload session " ++ quoted input.uploadSessionId ++ " expected " ++
        toString version.byteLength ++ " byte(s) but staged validation observed " ++
        toString staged.byteLength ++ " byte(s).")
  else if staged.checksum ≠ version.checksum ∨
    staged.descriptor.checksum ≠ some version.checksum then
    some (checksumMismatchProblem,
      "Upload session " ++ quoted input.uploadSessionId ++
        " did not match the expected checksum evidence.")
  else none

/-- The request that an accepted completion hands to `canonicalize`. -/
def canonicalizationRequest (input : RegistryCompleteUploadSessionInput) (version : VersionRecord) :
    RegistryCanonicalizationRequest where
  assetId := version.assetId
  assetOwner := version.assetOwner
  filename := version.filename
  serviceNamespaceId := version.serviceNamespaceId
  tenantId := present version.tenantId
  uploadSessionId := input.uploadSessionId
  versionId := version.versionId
  versionNumber := version.versionNumber
  stagedObject := input.stagedObject

end InMemoryUploadSessionIssuanceStore

/-- How the first piece of a completion ends: the call returns or throws, or it awaits its
canonicalization. -/
inductive MemoryCompletionBegun
  | done (result : Except UploadSessionError StoredResult)
  | awaiting (request : RegistryCanonicalizationRequest)

namespace InMemoryUploadSessionIssuanceStore

variable (store : InMemoryUploadSessionIssuanceStore)

/-- The validation of the staged evidence, and what follows it. -/
def validateStaged (input : RegistryCompleteUploadSessionInput) (session : UploadSessionRecord)
    (version : VersionRecord) : MemoryCompletionBegun × InMemoryUploadSessionIssuanceStore :=
  match stagedEvidenceProblem input session version with
  | some (problemType, detail) =>
      (.done (.error (.validationFailed input.uploadSessionId problemType detail)),
        (store.setSession { session with uploadSessionState := .failedValidation }).setVersion
          { version with lifecycleState := .failedValidation })
  | none =>
      match persistedCompletion input.uploadSessionId version with
      | some replay =>
          let session :=
            { session with
              completionRequestHash :=
                session.completionRequestHash <|> some input.normalizedRequestHash
              completionResult := some replay }
          (.done (.ok (.completed { replay with isDuplicate := true })),
            (store.setSession session).setRecord input replay)
      | none =>
          (.awaiting (canonicalizationRequest input version),
            (store.setSession { session with uploadSessionState := .uploaded }).setVersion
              { version with lifecycleState := .canonicalizing })

/-- A completion of a session that exists, under an idempotency key without a record. -/
def completeSession (input : RegistryCompleteUploadSessionInput) (now : Instant)
    (session : UploadSessionRecord) (version : VersionRecord) :
    MemoryCompletionBegun × InMemoryUploadSessionIssuanceStore :=
  if now > session.expiresAt then
    (.done (.error (.expired input.uploadSessionId)),
      store.setSession { session with uploadSessionState := .expired })
  else
    match session.completionResult with
    | some result =>
        if session.completionRequestHash ≠ some input.normalizedRequestHash then
          (.done
            (.error (.invalidStateTransition input.uploadSessionId version.lifecycleState.text)),
            store)
        else
          (.done (.ok (.completed { result with isDuplicate := true })),
            store.setRecord input result)
    | none =>
        if session.uploadSessionState = .terminated ∨
          session.uploadSessionState = .failedValidation then
          (.done (.error (.invalidStateTransition input.uploadSessionId
            session.uploadSessionState.text)), store)
        else if ¬ acceptsCompletion version.lifecycleState ∧
            (persistedCompletion input.uploadSessionId version).isNone then
          (.done
            (.error (.invalidStateTransition input.uploadSessionId version.lifecycleState.text)),
            store)
        else store.validateStaged input session version

/-- **The first piece of `completeUploadSession`**, up to its `await`. -/
def beginCompletion (input : RegistryCompleteUploadSessionInput) (now : Instant) :
    MemoryCompletionBegun × InMemoryUploadSessionIssuanceStore :=
  match store.uploadSessions input.uploadSessionId with
  | none => (.done (.error (.notFound input.uploadSessionId)), store)
  | some session =>
      match store.versionsById session.versionId with
      | none => (.done (.error (.missingVersion input.uploadSessionId)), store)
      | some version =>
          match store.idempotencyRecords input.memoryKey with
          | some record =>
              if record.normalizedRequestHash ≠ input.normalizedRequestHash then
                (.done (.error (.idempotencyConflict input.idempotencyKey)), store)
              else (.done (.ok record.result.duplicate), store)
          | none => store.completeSession input now session version

/-- **The second piece of `completeUploadSession`**: the session and the version are the
records that the first piece found. -/
def resolveCompletion (input : RegistryCompleteUploadSessionInput) (session : UploadSessionRecord)
    (version : VersionRecord) (snapshot : Except RegistryError SnapshotResult)
    (newDispatchId : String) :
    Except UploadSessionError StoredResult × InMemoryUploadSessionIssuanceStore :=
  match snapshot with
  | .error e =>
      (.error (.canonicalizationFailed input.uploadSessionId e),
        store.setVersion { version with lifecycleState := .failedRetryable })
  | .ok canonicalSource =>
      let workflowDispatch : RegistryWorkflowDispatchSummary :=
        { dispatchId := newDispatchId
          state := .pending
          workflowKey :=
            buildWorkflowKey version.serviceNamespaceId version.assetId version.versionId
              input.template }
      let evidence := snapshotResultToCanonicalSourceEvidence canonicalSource
      let result : RegistryCompletedUploadSession :=
        { assetId := version.assetId
          canonicalSource := canonicalSourceEvidenceToSnapshotResult evidence
          uploadSessionId := input.uploadSessionId
          versionId := version.versionId
          versionState := .canonical
          workflowDispatch }
      (.ok (.completed result),
        ((store.setVersion
            { version with
              canonicalSourceEvidence := some evidence
              lifecycleState := .canonical
              workflowDispatch := some workflowDispatch }).setSession
            { session with
              completionRequestHash := some input.normalizedRequestHash
              completionResult := some result }).setRecord input result)

end InMemoryUploadSessionIssuanceStore

/-! ### The system -/

/-- How far a completion has come. -/
inductive MemoryProgress
  | awaiting (request : RegistryCanonicalizationRequest)
  | finished (result : Except UploadSessionError StoredResult)

structure MemoryCompletion where
  input : RegistryCompleteUploadSessionInput
  progress : MemoryProgress

/-- The store with the completions that have begun. -/
structure MemorySystem where
  store : InMemoryUploadSessionIssuanceStore := {}
  completions : List MemoryCompletion := []

/-- The pieces of code that run without interruption; a number names a completion. -/
inductive MemoryAction
  | issue (input : RegistryIssueUploadSessionInput) (ids : MemoryIssueIds)
  | complete (input : RegistryCompleteUploadSessionInput) (now : Instant)
  | resolve (i : Nat) (snapshot : Except RegistryError SnapshotResult) (newDispatchId : String)

def MemoryCompletionBegun.progress : MemoryCompletionBegun → MemoryProgress
  | .done result => .finished result
  | .awaiting request => .awaiting request

/-- Generated ids are new. -/
def InMemoryUploadSessionIssuanceStore.isFresh (store : InMemoryUploadSessionIssuanceStore)
    (ids : MemoryIssueIds) : Bool :=
  (store.assets ids.assetId).isNone && (store.versionsById ids.versionId).isNone &&
    (store.uploadSessions ids.uploadSessionId).isNone

/-- **The step function** of the system; `none` where a step is not enabled. -/
def MemorySystem.next (sys : MemorySystem) : MemoryAction → Option MemorySystem
  | .issue input ids =>
      if sys.store.isFresh ids then
        some { sys with store := (sys.store.issueUploadSession input ids).2 }
      else none
  | .complete input now =>
      let begun := sys.store.beginCompletion input now
      some
        { store := begun.2
          completions := sys.completions ++ [⟨input, begun.1.progress⟩] }
  | .resolve i snapshot newDispatchId => do
      let c ← sys.completions[i]?
      match c.progress with
      | .finished _ => none
      | .awaiting request =>
          let session ← sys.store.uploadSessions c.input.uploadSessionId
          let version ← sys.store.versionsById request.versionId
          let resolved := sys.store.resolveCompletion c.input session version snapshot newDispatchId
          some
            { store := resolved.2
              completions :=
                sys.completions.modify i fun c => { c with progress := .finished resolved.1 } }

/-- The step relation of the system. -/
def MemoryStep (sys : MemorySystem) (a : MemoryAction) (sys' : MemorySystem) : Prop :=
  sys.next a = some sys'

/-! ### Inversion of the first piece -/

namespace InMemoryUploadSessionIssuanceStore

/-- A completion that is **answered** at once, without a write. -/
inductive Answered (store : InMemoryUploadSessionIssuanceStore)
    (input : RegistryCompleteUploadSessionInput) (now : Instant) :
    Except UploadSessionError StoredResult → Prop
  | notFound (hsession : store.uploadSessions input.uploadSessionId = none) :
      Answered store input now (.error (.notFound input.uploadSessionId))
  | missingVersion {session : UploadSessionRecord}
      (hsession : store.uploadSessions input.uploadSessionId = some session)
      (hversion : store.versionsById session.versionId = none) :
      Answered store input now (.error (.missingVersion input.uploadSessionId))
  | conflict {record : MemoryIdempotencyRecord}
      (hrecord : store.idempotencyRecords input.memoryKey = some record)
      (hhash : record.normalizedRequestHash ≠ input.normalizedRequestHash) :
      Answered store input now (.error (.idempotencyConflict input.idempotencyKey))
  | recorded {session : UploadSessionRecord} {record : MemoryIdempotencyRecord}
      (hsession : store.uploadSessions input.uploadSessionId = some session)
      (hrecord : store.idempotencyRecords input.memoryKey = some record)
      (hhash : record.normalizedRequestHash = input.normalizedRequestHash) :
      Answered store input now (.ok record.result.duplicate)
  | changed {session : UploadSessionRecord} {state : String}
      (hsession : store.uploadSessions input.uploadSessionId = some session)
      (hhash : session.completionRequestHash ≠ some input.normalizedRequestHash) :
      Answered store input now (.error (.invalidStateTransition input.uploadSessionId state))
  | closed {session : UploadSessionRecord} {state : String}
      (hsession : store.uploadSessions input.uploadSessionId = some session)
      (hresult : session.completionResult = none) :
      Answered store input now (.error (.invalidStateTransition input.uploadSessionId state))

/-- A session whose staged evidence a completion **examines**: it is unexpired, not
completed before and open, and its version accepts a completion or has one to recover. -/
structure Examined (store : InMemoryUploadSessionIssuanceStore)
    (input : RegistryCompleteUploadSessionInput) (now : Instant) (session : UploadSessionRecord)
    (version : VersionRecord) : Prop where
  storedSession : store.uploadSessions input.uploadSessionId = some session
  storedVersion : store.versionsById session.versionId = some version
  unrecorded : store.idempotencyRecords input.memoryKey = none
  unexpired : ¬ now > session.expiresAt
  unfinished : session.completionResult = none
  isOpen : ¬ (session.uploadSessionState = .terminated ∨
    session.uploadSessionState = .failedValidation)
  accepts : ¬ (¬ acceptsCompletion version.lifecycleState ∧
    (persistedCompletion input.uploadSessionId version).isNone)

/-- **What the first piece of a completion did.** -/
inductive CompletionBegun (store : InMemoryUploadSessionIssuanceStore)
    (input : RegistryCompleteUploadSessionInput) (now : Instant) :
    MemoryCompletionBegun → InMemoryUploadSessionIssuanceStore → Prop
  | answered {result : Except UploadSessionError StoredResult}
      (hanswered : Answered store input now result) :
      CompletionBegun store input now (.done result) store
  | expired {session : UploadSessionRecord}
      (hsession : store.uploadSessions input.uploadSessionId = some session)
      (hexpiry : now > session.expiresAt) :
      CompletionBegun store input now (.done (.error (.expired input.uploadSessionId)))
        (store.setSession { session with uploadSessionState := .expired })
  | replayed {session : UploadSessionRecord} {result : RegistryCompletedUploadSession}
      (hsession : store.uploadSessions input.uploadSessionId = some session)
      (hrecord : store.idempotencyRecords input.memoryKey = none)
      (hresult : session.completionResult = some result)
      (hhash : session.completionRequestHash = some input.normalizedRequestHash) :
      CompletionBegun store input now (.done (.ok (.completed { result with isDuplicate := true })))
        (store.setRecord input result)
  | rejected {session : UploadSessionRecord} {version : VersionRecord} {problemType detail : String}
      (hexamined : Examined store input now session version)
      (hproblem : stagedEvidenceProblem input session version = some (problemType, detail)) :
      CompletionBegun store input now
        (.done (.error (.validationFailed input.uploadSessionId problemType detail)))
        ((store.setSession { session with uploadSessionState := .failedValidation }).setVersion
          { version with lifecycleState := .failedValidation })
  | recovered {session : UploadSessionRecord} {version : VersionRecord}
      {replay : RegistryCompletedUploadSession}
      (hexamined : Examined store input now session version)
      (hreplay : persistedCompletion input.uploadSessionId version = some replay) :
      CompletionBegun store input now (.done (.ok (.completed { replay with isDuplicate := true })))
        ((store.setSession
          { session with
            completionRequestHash :=
              session.completionRequestHash <|> some input.normalizedRequestHash
            completionResult := some replay }).setRecord input replay)
  | awaiting {session : UploadSessionRecord} {version : VersionRecord}
      (hexamined : Examined store input now session version)
      (hproblem : stagedEvidenceProblem input session version = none) :
      CompletionBegun store input now (.awaiting (canonicalizationRequest input version))
        ((store.setSession { session with uploadSessionState := .uploaded }).setVersion
          { version with lifecycleState := .canonicalizing })

variable {store : InMemoryUploadSessionIssuanceStore} {input : RegistryCompleteUploadSessionInput}
  {now : Instant}

/-- A version that is canonicalizing has no completion to recover. -/
theorem persistedCompletion_canonicalizing {uploadSessionId : String} {version : VersionRecord}
    (h : version.lifecycleState = .canonicalizing) :
    persistedCompletion uploadSessionId version = none := by
  simp [persistedCompletion, h, guard]

/-- The version of a session that is examined is not canonicalizing. -/
theorem Examined.not_canonicalizing {session : UploadSessionRecord} {version : VersionRecord}
    (h : store.Examined input now session version) : version.lifecycleState ≠ .canonicalizing := by
  intro hstate
  refine h.accepts ⟨by simp [hstate, acceptsCompletion], ?_⟩
  rw [persistedCompletion_canonicalizing hstate]
  rfl

/-- The validation of evidence that is examined. -/
theorem validateStaged_cases {session : UploadSessionRecord} {version : VersionRecord}
    {begun : MemoryCompletionBegun} {store' : InMemoryUploadSessionIssuanceStore}
    (hexamined : store.Examined input now session version)
    (h : store.validateStaged input session version = (begun, store')) :
    CompletionBegun store input now begun store' := by
  unfold validateStaged at h
  cases hproblem : stagedEvidenceProblem input session version with
  | some problem =>
      rw [hproblem] at h
      obtain ⟨rfl, rfl⟩ := Prod.mk.inj h
      exact .rejected hexamined hproblem
  | none =>
      simp only [hproblem] at h
      cases hreplay : persistedCompletion input.uploadSessionId version with
      | some replay =>
          rw [hreplay] at h
          obtain ⟨rfl, rfl⟩ := Prod.mk.inj h
          exact .recovered hexamined hreplay
      | none =>
          rw [hreplay] at h
          obtain ⟨rfl, rfl⟩ := Prod.mk.inj h
          exact .awaiting hexamined hproblem

theorem completeSession_cases {session : UploadSessionRecord} {version : VersionRecord}
    {begun : MemoryCompletionBegun} {store' : InMemoryUploadSessionIssuanceStore}
    (hsession : store.uploadSessions input.uploadSessionId = some session)
    (hversion : store.versionsById session.versionId = some version)
    (hrecord : store.idempotencyRecords input.memoryKey = none)
    (h : store.completeSession input now session version = (begun, store')) :
    CompletionBegun store input now begun store' := by
  unfold completeSession at h
  by_cases hexpiry : now > session.expiresAt
  · rw [if_pos hexpiry] at h
    obtain ⟨rfl, rfl⟩ := Prod.mk.inj h
    exact .expired hsession hexpiry
  rw [if_neg hexpiry] at h
  cases hresult : session.completionResult with
  | some result =>
      simp only [hresult] at h
      split at h
      · rename_i hhash
        obtain ⟨rfl, rfl⟩ := Prod.mk.inj h
        exact .answered (.changed hsession hhash)
      · rename_i hhash
        obtain ⟨rfl, rfl⟩ := Prod.mk.inj h
        exact .replayed hsession hrecord hresult (not_not.mp hhash)
  | none =>
      simp only [hresult] at h
      split at h
      · obtain ⟨rfl, rfl⟩ := Prod.mk.inj h
        exact .answered (.closed hsession hresult)
      · rename_i hopen
        split at h
        · obtain ⟨rfl, rfl⟩ := Prod.mk.inj h
          exact .answered (.closed hsession hresult)
        · rename_i haccepts
          exact validateStaged_cases
            ⟨hsession, hversion, hrecord, hexpiry, hresult, hopen, haccepts⟩ h

/-- **Inversion of the first piece of a completion.** -/
theorem beginCompletion_cases {begun : MemoryCompletionBegun}
    {store' : InMemoryUploadSessionIssuanceStore}
    (h : store.beginCompletion input now = (begun, store')) :
    CompletionBegun store input now begun store' := by
  unfold beginCompletion at h
  cases hsession : store.uploadSessions input.uploadSessionId with
  | none =>
      rw [hsession] at h
      obtain ⟨rfl, rfl⟩ := Prod.mk.inj h
      exact .answered (.notFound hsession)
  | some session =>
      simp only [hsession] at h
      cases hversion : store.versionsById session.versionId with
      | none =>
          rw [hversion] at h
          obtain ⟨rfl, rfl⟩ := Prod.mk.inj h
          exact .answered (.missingVersion hsession hversion)
      | some version =>
          simp only [hversion] at h
          cases hrecord : store.idempotencyRecords input.memoryKey with
          | some record =>
              simp only [hrecord] at h
              split at h
              · rename_i hhash
                obtain ⟨rfl, rfl⟩ := Prod.mk.inj h
                exact .answered (.conflict hrecord hhash)
              · rename_i hhash
                obtain ⟨rfl, rfl⟩ := Prod.mk.inj h
                exact .answered (.recorded hsession hrecord (not_not.mp hhash))
          | none =>
              simp only [hrecord] at h
              exact completeSession_cases hsession hversion hrecord h

/-- **What an issuance did.** -/
inductive IssueOutcome (store : InMemoryUploadSessionIssuanceStore)
    (input : RegistryIssueUploadSessionInput) (ids : MemoryIssueIds) :
    Except UploadSessionError StoredResult → InMemoryUploadSessionIssuanceStore → Prop
  | conflict {record : MemoryIdempotencyRecord}
      (hrecord : store.idempotencyRecords input.memoryKey = some record)
      (hhash : record.normalizedRequestHash ≠ input.normalizedRequestHash) :
      IssueOutcome store input ids (.error (.idempotencyConflict input.idempotencyKey)) store
  | recorded {record : MemoryIdempotencyRecord}
      (hrecord : store.idempotencyRecords input.memoryKey = some record)
      (hhash : record.normalizedRequestHash = input.normalizedRequestHash) :
      IssueOutcome store input ids (.ok record.result.duplicate) store
  | notFound {assetId : String} (hrecord : store.idempotencyRecords input.memoryKey = none)
      (hnamed : present input.assetId = some assetId) (hasset : store.assets assetId = none) :
      IssueOutcome store input ids (.error (.assetNotFound assetId)) store
  | issued {asset : AssetSummary} {store' : InMemoryUploadSessionIssuanceStore}
      (hrecord : store.idempotencyRecords input.memoryKey = none)
      (hasset : store.resolveOrCreateAsset input ids = (.ok asset, store')) :
      IssueOutcome store input ids
        (.ok (.issued (issuedResult input ids asset (store'.nextVersionNumber asset.assetId))))
        (store'.storeIssued input ids asset)

/-- **Inversion of an issuance.** -/
theorem issueUploadSession_cases (store : InMemoryUploadSessionIssuanceStore)
    (input : RegistryIssueUploadSessionInput) (ids : MemoryIssueIds) :
    IssueOutcome store input ids (store.issueUploadSession input ids).1
      (store.issueUploadSession input ids).2 := by
  unfold issueUploadSession
  cases hrecord : store.idempotencyRecords input.memoryKey with
  | some record =>
      by_cases hhash : record.normalizedRequestHash = input.normalizedRequestHash
      · simp only [hhash, ne_eq, not_true_eq_false, ↓reduceIte]
        exact .recorded hrecord hhash
      · simp only [hhash, ne_eq, not_false_eq_true, ↓reduceIte]
        exact .conflict hrecord hhash
  | none =>
      generalize hasset : store.resolveOrCreateAsset input ids = resolved
      obtain ⟨asset | asset, store'⟩ := resolved
      · simp only [resolveOrCreateAsset] at hasset
        cases hnamed : present input.assetId with
        | none =>
            rw [hnamed] at hasset
            cases hasset
        | some assetId =>
            simp only [hnamed] at hasset
            cases hstored : store.assets assetId with
            | none =>
                rw [hstored] at hasset
                cases hasset
                exact .notFound hrecord hnamed hstored
            | some asset =>
                rw [hstored] at hasset
                cases hasset
      · exact .issued hrecord hasset

/-- Resolving an asset changes the assets at most. -/
theorem resolveOrCreateAsset_snd {store store' : InMemoryUploadSessionIssuanceStore}
    {input : RegistryIssueUploadSessionInput} {ids : MemoryIssueIds}
    {asset : Except UploadSessionError AssetSummary}
    (h : store.resolveOrCreateAsset input ids = (asset, store')) :
    ∃ assets, store' = { store with assets } := by
  unfold resolveOrCreateAsset at h
  split at h
  · split at h
    · obtain ⟨-, rfl⟩ := Prod.mk.inj h
      exact ⟨_, rfl⟩
    · obtain ⟨-, rfl⟩ := Prod.mk.inj h
      exact ⟨_, rfl⟩
  · obtain ⟨-, rfl⟩ := Prod.mk.inj h
    exact ⟨_, rfl⟩

/-- What an issuance does: nothing, or it adds an asset at most, a version and its
session. -/
theorem issueUploadSession_snd (store : InMemoryUploadSessionIssuanceStore)
    (input : RegistryIssueUploadSessionInput) (ids : MemoryIssueIds) :
    (store.issueUploadSession input ids).2 = store ∨
      ∃ asset number,
        (store.issueUploadSession input ids).2.uploadSessions =
          store.uploadSessions.set ids.uploadSessionId (issuedSessionRecord input ids asset) ∧
        (store.issueUploadSession input ids).2.versionsById =
          store.versionsById.set ids.versionId (issuedVersionRecord input ids asset number) := by
  have hcases := store.issueUploadSession_cases input ids
  generalize (store.issueUploadSession input ids).1 = result at hcases
  generalize (store.issueUploadSession input ids).2 = store' at hcases
  cases hcases with
  | conflict => exact Or.inl rfl
  | recorded => exact Or.inl rfl
  | notFound => exact Or.inl rfl
  | issued _ hasset =>
      obtain ⟨assets, rfl⟩ := resolveOrCreateAsset_snd hasset
      exact Or.inr ⟨_, _, rfl, rfl⟩

/-! ### The invariant of the store -/

/-- **The invariant of the store**: records stand under their ids, a session has a
version, and no two sessions have the same. -/
structure Inv (store : InMemoryUploadSessionIssuanceStore) : Prop where
  sessionKey : ∀ {id s}, store.uploadSessions id = some s → s.uploadSessionId = id
  versionKey : ∀ {id v}, store.versionsById id = some v → v.versionId = id
  sessionVersion : ∀ {id s}, store.uploadSessions id = some s →
    (store.versionsById s.versionId).isSome
  injective : ∀ {id id' s s'}, store.uploadSessions id = some s →
    store.uploadSessions id' = some s' →
    s.versionId = s'.versionId → id = id'

theorem Inv.versionSelf (hinv : store.Inv) {id : String} {v : VersionRecord}
    (hv : store.versionsById id = some v) : store.versionsById v.versionId = some v := by
  rw [hinv.versionKey hv, hv]

theorem Inv.setRecord (hinv : store.Inv) (result : RegistryCompletedUploadSession) :
    (store.setRecord input result).Inv :=
  ⟨hinv.sessionKey, hinv.versionKey, hinv.sessionVersion, hinv.injective⟩

/-- A session record may be replaced by one for the same version. -/
theorem Inv.setSession (hinv : store.Inv) {id : String} {s old : UploadSessionRecord}
    (hstored : store.uploadSessions id = some old) (hkey : s.uploadSessionId = old.uploadSessionId)
    (hversion : s.versionId = old.versionId) : (store.setSession s).Inv := by
  have hold : store.uploadSessions s.uploadSessionId = some old := by
    rw [hkey, hinv.sessionKey hstored, hstored]
  have hentry : ∀ {id r}, (store.setSession s).uploadSessions id = some r →
      ∃ r', store.uploadSessions id = some r' ∧ r.versionId = r'.versionId ∧
        (r.uploadSessionId = r'.uploadSessionId) := by
    intro id r hr
    simp only [InMemoryUploadSessionIssuanceStore.setSession, JsMap.set_apply] at hr
    by_cases hid : id = s.uploadSessionId
    · rw [if_pos hid] at hr
      obtain rfl := Option.some.inj hr
      exact ⟨old, hid ▸ hold, hversion, (hinv.sessionKey hold).symm⟩
    · rw [if_neg hid] at hr
      exact ⟨r, hr, rfl, rfl⟩
  refine ⟨fun hr => ?_, hinv.versionKey, fun hr => ?_, fun hr hr' hsame => ?_⟩
  · obtain ⟨r', hr', -, hkey⟩ := hentry hr
    exact hkey.trans (hinv.sessionKey hr')
  · obtain ⟨r', hr', hv, -⟩ := hentry hr
    rw [hv]
    exact hinv.sessionVersion hr'
  · obtain ⟨r₁, hr₁, hv₁, -⟩ := hentry hr
    obtain ⟨r₂, hr₂, hv₂, -⟩ := hentry hr'
    exact hinv.injective hr₁ hr₂ (by rw [← hv₁, ← hv₂, hsame])

/-- A version record may be replaced. -/
theorem Inv.setVersion (hinv : store.Inv) (v : VersionRecord) : (store.setVersion v).Inv := by
  refine ⟨hinv.sessionKey, fun hr => ?_, fun hr => ?_, hinv.injective⟩
  · rename_i id r
    simp only [InMemoryUploadSessionIssuanceStore.setVersion, JsMap.set_apply] at hr
    by_cases hid : id = v.versionId
    · rw [if_pos hid] at hr
      obtain rfl := Option.some.inj hr
      exact hid.symm
    · rw [if_neg hid] at hr
      exact hinv.versionKey hr
  · rename_i id r
    simp only [InMemoryUploadSessionIssuanceStore.setVersion, JsMap.set_apply]
    split
    · rfl
    · exact hinv.sessionVersion hr

/-- An issuance under new ids keeps the invariant. -/
theorem Inv.issue (hinv : store.Inv) {input : RegistryIssueUploadSessionInput}
    {ids : MemoryIssueIds} (hfresh : store.isFresh ids = true) :
    (store.issueUploadSession input ids).2.Inv := by
  simp only [isFresh, Bool.and_eq_true, Option.isNone_iff_eq_none] at hfresh
  obtain ⟨⟨-, hversion⟩, hsession⟩ := hfresh
  rcases store.issueUploadSession_snd input ids with hsame | ⟨asset, number, hsessions, hversions⟩
  · rw [hsame]
    exact hinv
  have hentry : ∀ {id s}, (store.issueUploadSession input ids).2.uploadSessions id = some s →
      (id = ids.uploadSessionId ∧ s = issuedSessionRecord input ids asset) ∨
        store.uploadSessions id = some s := by
    intro id s hs
    rw [hsessions, JsMap.set_apply] at hs
    by_cases hid : id = ids.uploadSessionId
    · rw [if_pos hid] at hs
      exact Or.inl ⟨hid, (Option.some.inj hs).symm⟩
    · rw [if_neg hid] at hs
      exact Or.inr hs
  -- no stored session is for the new version
  have hnew : ∀ {id s}, store.uploadSessions id = some s → s.versionId ≠ ids.versionId := by
    intro id s hs hv
    have hsome := hinv.sessionVersion hs
    rw [hv, hversion] at hsome
    cases hsome
  refine ⟨fun hs => ?_, fun hv => ?_, fun hs => ?_, fun hs hs' hsame => ?_⟩
  · rcases hentry hs with ⟨hid, rfl⟩ | hs
    · exact hid.symm
    · exact hinv.sessionKey hs
  · rename_i id v
    rw [hversions, JsMap.set_apply] at hv
    by_cases hid : id = ids.versionId
    · rw [if_pos hid] at hv
      obtain rfl := Option.some.inj hv
      exact hid.symm
    · rw [if_neg hid] at hv
      exact hinv.versionKey hv
  · rw [hversions, JsMap.set_apply]
    split
    · rfl
    · rename_i hne
      rcases hentry hs with ⟨-, rfl⟩ | hs
      · exact absurd rfl hne
      · exact hinv.sessionVersion hs
  · rcases hentry hs with ⟨hid, rfl⟩ | hs
    · rcases hentry hs' with ⟨hid', -⟩ | hs'
      · exact hid.trans hid'.symm
      · exact absurd hsame.symm (hnew hs')
    · rcases hentry hs' with ⟨-, rfl⟩ | hs'
      · exact absurd hsame (hnew hs)
      · exact hinv.injective hs hs' hsame

/-! ### Completions in flight -/

/-- A completion **awaits** its canonicalization: its session is not completed, and its
version is canonicalizing. -/
def Awaits (store : InMemoryUploadSessionIssuanceStore) (uploadSessionId versionId : String) :
    Prop :=
  ∃ s v, store.uploadSessions uploadSessionId = some s ∧ s.versionId = versionId ∧
    s.completionResult = none ∧ store.versionsById versionId = some v ∧
    v.lifecycleState = .canonicalizing

variable {uploadSessionId versionId : String}

theorem Awaits.setRecord (h : store.Awaits uploadSessionId versionId)
    (result : RegistryCompletedUploadSession) :
    (store.setRecord input result).Awaits uploadSessionId versionId := h

theorem Awaits.setVersion (h : store.Awaits uploadSessionId versionId) {v : VersionRecord}
    (hne : v.versionId ≠ versionId) : (store.setVersion v).Awaits uploadSessionId versionId := by
  obtain ⟨s, v', hs, hsv, hresult, hv', hstate⟩ := h
  exact ⟨s, v', hs, hsv, hresult, (JsMap.set_of_ne _ _ hne.symm).trans hv', hstate⟩

/-- A session record may be replaced by one that is completed no more than it was. -/
theorem Awaits.setSession (h : store.Awaits uploadSessionId versionId) (hinv : store.Inv)
    {id : String} {s old : UploadSessionRecord} (hstored : store.uploadSessions id = some old)
    (hkey : s.uploadSessionId = old.uploadSessionId) (hversion : s.versionId = old.versionId)
    (hresult : s.completionResult = old.completionResult) :
    (store.setSession s).Awaits uploadSessionId versionId := by
  have hold : store.uploadSessions s.uploadSessionId = some old := by
    rw [hkey, hinv.sessionKey hstored, hstored]
  obtain ⟨r, v, hr, hrv, hnone, hv, hstate⟩ := h
  by_cases hid : uploadSessionId = s.uploadSessionId
  · subst hid
    obtain rfl := Option.some.inj (hold.symm.trans hr)
    exact ⟨s, v, JsMap.set_self _ _ _, hversion.trans hrv, hresult.trans hnone, hv, hstate⟩
  · exact ⟨r, v, (JsMap.set_of_ne _ _ hid).trans hr, hrv, hnone, hv, hstate⟩

/-- The record of a session for another version may be replaced by any. -/
theorem Awaits.setSession_of_ne (h : store.Awaits uploadSessionId versionId) (hinv : store.Inv)
    {id : String} {s old : UploadSessionRecord} (hstored : store.uploadSessions id = some old)
    (hkey : s.uploadSessionId = old.uploadSessionId) (hne : old.versionId ≠ versionId) :
    (store.setSession s).Awaits uploadSessionId versionId := by
  have hold : store.uploadSessions s.uploadSessionId = some old := by
    rw [hkey, hinv.sessionKey hstored, hstored]
  obtain ⟨r, v, hr, hrv, hnone, hv, hstate⟩ := h
  refine ⟨r, v, (JsMap.set_of_ne _ _ fun hid => ?_).trans hr, hrv, hnone, hv, hstate⟩
  subst hid
  obtain rfl := Option.some.inj (hold.symm.trans hr)
  exact hne hrv

theorem Awaits.issue (h : store.Awaits uploadSessionId versionId)
    {input : RegistryIssueUploadSessionInput} {ids : MemoryIssueIds}
    (hfresh : store.isFresh ids = true) :
    (store.issueUploadSession input ids).2.Awaits uploadSessionId versionId := by
  simp only [isFresh, Bool.and_eq_true, Option.isNone_iff_eq_none] at hfresh
  obtain ⟨⟨-, hversion⟩, hsession⟩ := hfresh
  obtain ⟨s, v, hs, hsv, hresult, hv, hstate⟩ := h
  rcases store.issueUploadSession_snd input ids with hsame | ⟨asset, number, hsessions, hversions⟩
  · rw [hsame]
    exact ⟨s, v, hs, hsv, hresult, hv, hstate⟩
  · refine ⟨s, v, ?_, hsv, hresult, ?_, hstate⟩
    · rw [hsessions, JsMap.set_of_ne, hs]
      rintro rfl
      rw [hsession] at hs
      cases hs
    · rw [hversions, JsMap.set_of_ne, hv]
      rintro rfl
      rw [hversion] at hv
      cases hv

/-- A version that is not canonicalizing is awaited by no completion. -/
theorem Awaits.ne_of_state (h : store.Awaits uploadSessionId versionId) {v : VersionRecord}
    {id : String} (hv : store.versionsById id = some v)
    (hstate : v.lifecycleState ≠ .canonicalizing) :
    id ≠ versionId := by
  rintro rfl
  obtain ⟨-, v', -, -, -, hv', hstate'⟩ := h
  obtain rfl := Option.some.inj (hv.symm.trans hv')
  exact hstate hstate'

/-- The first piece of a completion leaves the others awaiting. -/
theorem Awaits.begin (h : store.Awaits uploadSessionId versionId) (hinv : store.Inv)
    {begun : MemoryCompletionBegun} {store' : InMemoryUploadSessionIssuanceStore}
    (hbegun : CompletionBegun store input now begun store') :
    store'.Awaits uploadSessionId versionId := by
  cases hbegun with
  | answered => exact h
  | expired hsession _ =>
      exact h.setSession hinv hsession rfl rfl rfl
  | replayed => exact h
  | rejected hexamined _ =>
      have hne :=
        h.ne_of_state (hinv.versionSelf hexamined.storedVersion) hexamined.not_canonicalizing
      refine Awaits.setVersion ?_ hne
      exact h.setSession hinv hexamined.storedSession rfl rfl rfl
  | recovered hexamined _ =>
      have hne := h.ne_of_state hexamined.storedVersion hexamined.not_canonicalizing
      refine Awaits.setRecord ?_ _
      exact h.setSession_of_ne hinv hexamined.storedSession rfl hne
  | awaiting hexamined _ =>
      have hne :=
        h.ne_of_state (hinv.versionSelf hexamined.storedVersion) hexamined.not_canonicalizing
      refine Awaits.setVersion ?_ hne
      exact h.setSession hinv hexamined.storedSession rfl rfl rfl

/-- A completion that the first piece leaves awaiting has accepted a version that no
other awaits. -/
theorem CompletionBegun.awaits {store' : InMemoryUploadSessionIssuanceStore}
    {request : RegistryCanonicalizationRequest} (hinv : store.Inv)
    (h : CompletionBegun store input now (.awaiting request) store') :
    store'.Awaits input.uploadSessionId request.versionId ∧
      ∀ id, ¬ store.Awaits id request.versionId := by
  cases h with
  | awaiting hexamined hproblem =>
      rename_i session version
      have hkey := hinv.versionKey hexamined.storedVersion
      refine ⟨⟨{ session with uploadSessionState := .uploaded },
        { version with lifecycleState := .canonicalizing }, ?_, hkey.symm, hexamined.unfinished, ?_,
        rfl⟩, fun id hawaits => ?_⟩
      · rw [← hinv.sessionKey hexamined.storedSession]
        exact JsMap.set_self _ _ _
      · exact JsMap.set_self _ _ _
      · exact hawaits.ne_of_state (hinv.versionSelf hexamined.storedVersion)
          hexamined.not_canonicalizing rfl

/-- The first piece of a completion keeps the invariant of the store. -/
theorem Inv.begin (hinv : store.Inv) {begun : MemoryCompletionBegun}
    {store' : InMemoryUploadSessionIssuanceStore}
    (hbegun : CompletionBegun store input now begun store') : store'.Inv := by
  cases hbegun with
  | answered => exact hinv
  | expired hsession _ => exact hinv.setSession hsession rfl rfl
  | replayed => exact hinv.setRecord _
  | rejected hexamined _ =>
      refine Inv.setVersion ?_ _
      exact hinv.setSession hexamined.storedSession rfl rfl
  | recovered hexamined _ =>
      refine Inv.setRecord ?_ _
      exact hinv.setSession hexamined.storedSession rfl rfl
  | awaiting hexamined _ =>
      refine Inv.setVersion ?_ _
      exact hinv.setSession hexamined.storedSession rfl rfl

end InMemoryUploadSessionIssuanceStore

/-! ### The invariant of the system -/

/-- A completion that awaits its canonicalization, by its number. -/
def MemorySystem.InFlight (sys : MemorySystem) (i : Nat) (c : MemoryCompletion)
    (request : RegistryCanonicalizationRequest) : Prop :=
  sys.completions[i]? = some c ∧ c.progress = .awaiting request

/-- **The invariant of the system**: every completion in flight awaits, and no two have
accepted the same version. -/
structure MemorySystem.Inv (sys : MemorySystem) : Prop where
  store : sys.store.Inv
  awaits : ∀ {i c request}, sys.InFlight i c request →
    sys.store.Awaits c.input.uploadSessionId request.versionId
  distinct : ∀ {i j c c' request request'}, sys.InFlight i c request → sys.InFlight j c' request' →
    request.versionId = request'.versionId → i = j

theorem MemorySystem.Inv.empty : MemorySystem.Inv {} where
  store :=
    ⟨(fun h => by cases h), (fun h => by cases h), (fun h => by cases h), (fun h => by cases h)⟩
  awaits h := by cases h.1
  distinct h := by cases h.1

/-- The completions in flight after one more has begun. -/
theorem MemorySystem.inFlight_append {sys sys' : MemorySystem} {d : MemoryCompletion}
    (hsys : sys'.completions = sys.completions ++ [d]) {i : Nat} {c : MemoryCompletion}
    {request : RegistryCanonicalizationRequest} (h : sys'.InFlight i c request) :
    sys.InFlight i c request ∨ i = sys.completions.length ∧ c = d := by
  obtain ⟨hc, hprogress⟩ := h
  rw [hsys, List.getElem?_append] at hc
  split at hc
  · exact Or.inl ⟨hc, hprogress⟩
  · rename_i hle
    right
    have hlt := List.getElem?_eq_some_iff.mp hc
    obtain ⟨hbound, heq⟩ := hlt
    simp only [List.length_singleton, Nat.lt_one_iff] at hbound
    simp only [hbound, List.getElem_cons_zero] at heq
    exact ⟨by omega, heq.symm⟩

/-- The completions in flight after one of them has finished. -/
theorem MemorySystem.inFlight_finish {sys sys' : MemorySystem} {i j : Nat}
    {result : Except UploadSessionError StoredResult} {c : MemoryCompletion}
    {request : RegistryCanonicalizationRequest}
    (hsys : sys'.completions =
      sys.completions.modify i fun c => { c with progress := .finished result })
    (h : sys'.InFlight j c request) : sys.InFlight j c request ∧ i ≠ j := by
  obtain ⟨hc, hprogress⟩ := h
  rw [hsys, List.getElem?_modify] at hc
  obtain ⟨c', hc', heq⟩ := Option.map_eq_some_iff.mp hc
  by_cases hij : i = j
  · rw [if_pos hij] at heq
    subst heq
    cases hprogress
  · rw [if_neg hij] at heq
    subst heq
    exact ⟨⟨hc', hprogress⟩, hij⟩

/-- **Inversion of the second piece**: the completion in flight finishes, over the records
that it finds. -/
theorem MemorySystem.next_resolve {sys sys' : MemorySystem} {i : Nat}
    {snapshot : Except RegistryError SnapshotResult} {newDispatchId : String}
    (h : MemoryStep sys (.resolve i snapshot newDispatchId) sys') :
    ∃ c request session version, sys.InFlight i c request ∧
      sys.store.uploadSessions c.input.uploadSessionId = some session ∧
      sys.store.versionsById request.versionId = some version ∧
      sys'.store =
        (sys.store.resolveCompletion c.input session version snapshot newDispatchId).2 ∧
      sys'.completions =
        sys.completions.modify i fun d =>
          { d with
            progress := .finished
              (sys.store.resolveCompletion c.input session version snapshot newDispatchId).1 } := by
  obtain ⟨c, hc, h⟩ := Option.bind_eq_some_iff.mp h
  cases hprogress : c.progress with
  | finished result =>
      rw [hprogress] at h
      cases h
  | awaiting request =>
      rw [hprogress] at h
      obtain ⟨session, hsession, h⟩ := Option.bind_eq_some_iff.mp h
      obtain ⟨version, hversion, h⟩ := Option.bind_eq_some_iff.mp h
      obtain rfl := Option.some.inj h
      exact ⟨c, request, session, version, ⟨hc, hprogress⟩, hsession, hversion, rfl, rfl⟩

section Resolve

open InMemoryUploadSessionIssuanceStore

variable {store : InMemoryUploadSessionIssuanceStore} {input : RegistryCompleteUploadSessionInput}
  {session : UploadSessionRecord} {version : VersionRecord} {id : String}

/-- The second piece of a completion keeps the invariant of the store. -/
theorem InMemoryUploadSessionIssuanceStore.Inv.resolve (hinv : store.Inv)
    (hsession : store.uploadSessions id = some session)
    (snapshot : Except RegistryError SnapshotResult) (newDispatchId : String) :
    (store.resolveCompletion input session version snapshot newDispatchId).2.Inv := by
  cases snapshot with
  | error e => exact hinv.setVersion _
  | ok source =>
      refine Inv.setRecord ?_ _
      exact Inv.setSession (hinv.setVersion _) hsession rfl rfl

/-- The second piece of a completion leaves the completions of other versions awaiting. -/
theorem InMemoryUploadSessionIssuanceStore.Awaits.resolve {uploadSessionId versionId : String}
    (h : store.Awaits uploadSessionId versionId) (hinv : store.Inv)
    (hsession : store.uploadSessions id = some session)
    (hversion : version.versionId = session.versionId) (hne : session.versionId ≠ versionId)
    (snapshot : Except RegistryError SnapshotResult) (newDispatchId : String) :
    (store.resolveCompletion input session version snapshot newDispatchId).2.Awaits uploadSessionId
      versionId := by
  have hne' : version.versionId ≠ versionId := hversion ▸ hne
  cases snapshot with
  | error e => exact h.setVersion hne'
  | ok source =>
      refine Awaits.setRecord ?_ _
      refine Awaits.setSession_of_ne ?_ (hinv.setVersion _) hsession rfl hne
      exact h.setVersion hne'

end Resolve

/-- **Every step keeps the invariant of the system.** -/
theorem MemoryStep.inv {sys sys' : MemorySystem} {a : MemoryAction} (h : MemoryStep sys a sys')
    (hinv : sys.Inv) : sys'.Inv := by
  cases a with
  | issue input ids =>
      simp only [MemoryStep, MemorySystem.next] at h
      split at h
      · rename_i hfresh
        obtain rfl := Option.some.inj h
        exact ⟨hinv.store.issue hfresh, fun hc => (hinv.awaits hc).issue hfresh,
          fun hc hc' => hinv.distinct hc hc'⟩
      · cases h
  | complete input now =>
      obtain rfl := Option.some.inj h
      generalize hpair : sys.store.beginCompletion input now = pair
      obtain ⟨begun, store'⟩ := pair
      have hbegun := InMemoryUploadSessionIssuanceStore.beginCompletion_cases hpair
      have hnew : ∀ {c : MemoryCompletion} {request}, c = ⟨input, begun.progress⟩ →
          c.progress = .awaiting request →
          store'.Awaits c.input.uploadSessionId request.versionId ∧
            ∀ id, ¬ sys.store.Awaits id request.versionId := by
        rintro c request rfl hprogress
        cases begun with
        | done result => cases hprogress
        | awaiting request' =>
            obtain rfl := MemoryProgress.awaiting.inj hprogress
            exact hbegun.awaits hinv.store
      refine ⟨hinv.store.begin hbegun, fun hc => ?_, fun hc hc' hsame => ?_⟩
      · rcases MemorySystem.inFlight_append rfl hc with hc | ⟨-, hd⟩
        · exact (hinv.awaits hc).begin hinv.store hbegun
        · exact (hnew hd hc.2).1
      · rcases MemorySystem.inFlight_append rfl hc with hold | ⟨hi, hd⟩
        · rcases MemorySystem.inFlight_append rfl hc' with hold' | ⟨-, hd'⟩
          · exact hinv.distinct hold hold' hsame
          · exact ((hnew hd' hc'.2).2 _ (hsame ▸ hinv.awaits hold)).elim
        · rcases MemorySystem.inFlight_append rfl hc' with hold' | ⟨hj, -⟩
          · exact ((hnew hd hc.2).2 _ (hsame ▸ hinv.awaits hold')).elim
          · exact hi.trans hj.symm
  | resolve i snapshot newDispatchId =>
      obtain ⟨c, request, session, version, hc, hsession, hversion, hstore, hcompletions⟩ :=
        MemorySystem.next_resolve h
      obtain ⟨s, v, hs, hsv, -, -, -⟩ := hinv.awaits hc
      obtain rfl := Option.some.inj (hsession.symm.trans hs)
      have hkey : version.versionId = session.versionId :=
        (hinv.store.versionKey hversion).trans hsv.symm
      refine ⟨hstore ▸ hinv.store.resolve hsession snapshot newDispatchId, fun hc' => ?_,
        fun hc' hc'' hsame => ?_⟩
      · obtain ⟨hold, hne⟩ := MemorySystem.inFlight_finish hcompletions hc'
        rw [hstore]
        refine (hinv.awaits hold).resolve hinv.store hsession hkey (fun heq => hne ?_) snapshot
          newDispatchId
        exact hinv.distinct hc hold (hsv.symm.trans heq)
      · obtain ⟨hold', -⟩ := MemorySystem.inFlight_finish hcompletions hc'
        obtain ⟨hold'', -⟩ := MemorySystem.inFlight_finish hcompletions hc''
        exact hinv.distinct hold' hold'' hsame

/-- So does every run from the empty store. -/
theorem MemorySystem.Inv.of_run {sys : MemorySystem}
    {tr : List (Transition MemorySystem MemoryAction)} (h : Run MemoryStep {} tr sys) : sys.Inv :=
  h.invariant (fun hinv hstep => hstep.inv hinv) .empty

/-! ### What the records keep -/

/-- What a session record keeps: its version, its expiry and its staged key, and its
result once it is completed. -/
structure UploadSessionRecord.Keeps (s s' : UploadSessionRecord) : Prop where
  versionId : s'.versionId = s.versionId
  expiresAt : s'.expiresAt = s.expiresAt
  objectKey : s'.objectKey = s.objectKey
  completed : ∀ {result}, s.completionResult = some result →
    s'.completionResult = some result ∧ s'.completionRequestHash = s.completionRequestHash

/-- What a version record keeps: everything that the issuance wrote but the state. -/
structure VersionRecord.Keeps (v v' : VersionRecord) : Prop where
  assetId : v'.assetId = v.assetId
  assetOwner : v'.assetOwner = v.assetOwner
  serviceNamespaceId : v'.serviceNamespaceId = v.serviceNamespaceId
  tenantId : v'.tenantId = v.tenantId
  byteLength : v'.byteLength = v.byteLength
  checksum : v'.checksum = v.checksum

theorem UploadSessionRecord.Keeps.refl (s : UploadSessionRecord) : s.Keeps s :=
  ⟨rfl, rfl, rfl, fun h => ⟨h, rfl⟩⟩

theorem UploadSessionRecord.Keeps.trans {s s' s'' : UploadSessionRecord} (h : s.Keeps s')
    (h' : s'.Keeps s'') : s.Keeps s'' where
  versionId := h'.versionId.trans h.versionId
  expiresAt := h'.expiresAt.trans h.expiresAt
  objectKey := h'.objectKey.trans h.objectKey
  completed hresult := by
    obtain ⟨hresult', hhash'⟩ := h.completed hresult
    obtain ⟨hresult'', hhash''⟩ := h'.completed hresult'
    exact ⟨hresult'', hhash''.trans hhash'⟩

/-- A session that is not completed keeps what it has under any change of its state and
result. -/
theorem UploadSessionRecord.Keeps.of_open {s s' : UploadSessionRecord}
    (hresult : s.completionResult = none) (hversion : s'.versionId = s.versionId)
    (hexpires : s'.expiresAt = s.expiresAt) (hkey : s'.objectKey = s.objectKey) : s.Keeps s' :=
  ⟨hversion, hexpires, hkey, fun h => by rw [hresult] at h; cases h⟩

theorem VersionRecord.Keeps.refl (v : VersionRecord) : v.Keeps v := ⟨rfl, rfl, rfl, rfl, rfl, rfl⟩

theorem VersionRecord.Keeps.trans {v v' v'' : VersionRecord} (h : v.Keeps v') (h' : v'.Keeps v'') :
    v.Keeps v'' where
  assetId := h'.assetId.trans h.assetId
  assetOwner := h'.assetOwner.trans h.assetOwner
  serviceNamespaceId := h'.serviceNamespaceId.trans h.serviceNamespaceId
  tenantId := h'.tenantId.trans h.tenantId
  byteLength := h'.byteLength.trans h.byteLength
  checksum := h'.checksum.trans h.checksum

namespace InMemoryUploadSessionIssuanceStore

/-- Every record of a store is kept in another one. -/
structure Keeps (store store' : InMemoryUploadSessionIssuanceStore) : Prop where
  session : ∀ {id s}, store.uploadSessions id = some s →
    ∃ s', store'.uploadSessions id = some s' ∧ s.Keeps s'
  version : ∀ {id v}, store.versionsById id = some v →
    ∃ v', store'.versionsById id = some v' ∧ v.Keeps v'

variable {store store' store'' : InMemoryUploadSessionIssuanceStore}
  {input : RegistryCompleteUploadSessionInput} {now : Instant}

theorem Keeps.refl (store : InMemoryUploadSessionIssuanceStore) : store.Keeps store where
  session hs := ⟨_, hs, .refl _⟩
  version hv := ⟨_, hv, .refl _⟩

theorem Keeps.trans (h : store.Keeps store') (h' : store'.Keeps store'') : store.Keeps store'' where
  session hs := by
    obtain ⟨s', hs', hkeeps⟩ := h.session hs
    obtain ⟨s'', hs'', hkeeps'⟩ := h'.session hs'
    exact ⟨s'', hs'', hkeeps.trans hkeeps'⟩
  version hv := by
    obtain ⟨v', hv', hkeeps⟩ := h.version hv
    obtain ⟨v'', hv'', hkeeps'⟩ := h'.version hv'
    exact ⟨v'', hv'', hkeeps.trans hkeeps'⟩

theorem Keeps.setRecord (h : store.Keeps store') (result : RegistryCompletedUploadSession) :
    store.Keeps (store'.setRecord input result) := ⟨h.session, h.version⟩

theorem Keeps.setSession (h : store.Keeps store') {s : UploadSessionRecord}
    (hkeeps : ∀ {old}, store'.uploadSessions s.uploadSessionId = some old → old.Keeps s) :
    store.Keeps (store'.setSession s) where
  session hr := by
    rename_i id r
    obtain ⟨r', hr', hrkeeps⟩ := h.session hr
    by_cases hid : id = s.uploadSessionId
    · subst hid
      exact ⟨s, JsMap.set_self _ _ _, hrkeeps.trans (hkeeps hr')⟩
    · exact ⟨r', (JsMap.set_of_ne _ _ hid).trans hr', hrkeeps⟩
  version := h.version

theorem Keeps.setVersion (h : store.Keeps store') {v : VersionRecord}
    (hkeeps : ∀ {old}, store'.versionsById v.versionId = some old → old.Keeps v) :
    store.Keeps (store'.setVersion v) where
  session := h.session
  version hr := by
    rename_i id r
    obtain ⟨r', hr', hrkeeps⟩ := h.version hr
    by_cases hid : id = v.versionId
    · subst hid
      exact ⟨v, JsMap.set_self _ _ _, hrkeeps.trans (hkeeps hr')⟩
    · exact ⟨r', (JsMap.set_of_ne _ _ hid).trans hr', hrkeeps⟩

theorem Keeps.issue {input : RegistryIssueUploadSessionInput} {ids : MemoryIssueIds}
    (hfresh : store.isFresh ids = true) : store.Keeps (store.issueUploadSession input ids).2 := by
  simp only [isFresh, Bool.and_eq_true, Option.isNone_iff_eq_none] at hfresh
  obtain ⟨⟨-, hversion⟩, hsession⟩ := hfresh
  rcases store.issueUploadSession_snd input ids with hsame | ⟨asset, number, hsessions, hversions⟩
  · rw [hsame]
    exact .refl store
  · refine ⟨fun {id s} hs => ⟨s, ?_, .refl s⟩, fun {id v} hv => ⟨v, ?_, .refl v⟩⟩
    · rw [hsessions, JsMap.set_of_ne, hs]
      rintro rfl
      rw [hsession] at hs
      cases hs
    · rw [hversions, JsMap.set_of_ne, hv]
      rintro rfl
      rw [hversion] at hv
      cases hv

theorem Inv.eq_session (hinv : store.Inv) {id : String} {s old : UploadSessionRecord}
    (hs : store.uploadSessions id = some s)
    (hold : store.uploadSessions s.uploadSessionId = some old) :
    old = s := by
  rw [hinv.sessionKey hs, hs] at hold
  exact (Option.some.inj hold).symm

theorem Inv.eq_version (hinv : store.Inv) {id : String} {v old : VersionRecord}
    (hv : store.versionsById id = some v) (hold : store.versionsById v.versionId = some old) :
    old = v := by
  rw [hinv.versionKey hv, hv] at hold
  exact (Option.some.inj hold).symm

/-- The first piece of a completion keeps the records. -/
theorem Keeps.begin (hinv : store.Inv) {begun : MemoryCompletionBegun}
    (h : CompletionBegun store input now begun store') : store.Keeps store' := by
  cases h with
  | answered => exact .refl store
  | expired hsession _ =>
      refine (Keeps.refl store).setSession fun hold => ?_
      obtain rfl := hinv.eq_session hsession hold
      exact ⟨rfl, rfl, rfl, fun h => ⟨h, rfl⟩⟩
  | replayed => exact (Keeps.refl store).setRecord _
  | rejected hexamined _ =>
      refine ((Keeps.refl store).setSession fun hold => ?_).setVersion fun hold => ?_
      · obtain rfl := hinv.eq_session hexamined.storedSession hold
        exact .of_open hexamined.unfinished rfl rfl rfl
      · obtain rfl := hinv.eq_version hexamined.storedVersion hold
        exact ⟨rfl, rfl, rfl, rfl, rfl, rfl⟩
  | recovered hexamined _ =>
      refine ((Keeps.refl store).setSession fun hold => ?_).setRecord _
      obtain rfl := hinv.eq_session hexamined.storedSession hold
      exact .of_open hexamined.unfinished rfl rfl rfl
  | awaiting hexamined _ =>
      refine ((Keeps.refl store).setSession fun hold => ?_).setVersion fun hold => ?_
      · obtain rfl := hinv.eq_session hexamined.storedSession hold
        exact .of_open hexamined.unfinished rfl rfl rfl
      · obtain rfl := hinv.eq_version hexamined.storedVersion hold
        exact ⟨rfl, rfl, rfl, rfl, rfl, rfl⟩

/-- The second piece of a completion keeps the records: its session is not completed. -/
theorem Keeps.resolve (hinv : store.Inv) {session : UploadSessionRecord} {version : VersionRecord}
    {id id' : String} (hsession : store.uploadSessions id = some session)
    (hresult : session.completionResult = none) (hversion : store.versionsById id' = some version)
    (snapshot : Except RegistryError SnapshotResult) (newDispatchId : String) :
    store.Keeps (store.resolveCompletion input session version snapshot newDispatchId).2 := by
  cases snapshot with
  | error e =>
      refine (Keeps.refl store).setVersion fun hold => ?_
      obtain rfl := hinv.eq_version hversion hold
      exact ⟨rfl, rfl, rfl, rfl, rfl, rfl⟩
  | ok source =>
      refine (((Keeps.refl store).setVersion fun hold => ?_).setSession fun hold => ?_).setRecord _
      · obtain rfl := hinv.eq_version hversion hold
        exact ⟨rfl, rfl, rfl, rfl, rfl, rfl⟩
      · obtain rfl := hinv.eq_session hsession hold
        exact .of_open hresult rfl rfl rfl

end InMemoryUploadSessionIssuanceStore

/-- **No step changes what an issuance wrote, nor a completed result.** -/
theorem MemoryStep.keeps {sys sys' : MemorySystem} {a : MemoryAction} (h : MemoryStep sys a sys')
    (hinv : sys.Inv) : sys.store.Keeps sys'.store := by
  cases a with
  | issue input ids =>
      simp only [MemoryStep, MemorySystem.next] at h
      split at h
      · rename_i hfresh
        obtain rfl := Option.some.inj h
        exact .issue hfresh
      · cases h
  | complete input now =>
      obtain rfl := Option.some.inj h
      exact .begin hinv.store (InMemoryUploadSessionIssuanceStore.beginCompletion_cases
        (rfl : sys.store.beginCompletion input now = (_, _)))
  | resolve i snapshot newDispatchId =>
      obtain ⟨c, request, session, version, hc, hsession, hversion, hstore, -⟩ :=
        MemorySystem.next_resolve h
      obtain ⟨s, v, hs, -, hresult, -, -⟩ := hinv.awaits hc
      obtain rfl := Option.some.inj (hsession.symm.trans hs)
      rw [hstore]
      exact .resolve hinv.store hsession hresult hversion snapshot newDispatchId

/-- Nor does a run. -/
theorem MemorySystem.keeps_of_run {sys sys' : MemorySystem}
    {tr : List (Transition MemorySystem MemoryAction)} (h : Run MemoryStep sys tr sys')
    (hinv : sys.Inv) : sys.store.Keeps sys'.store := by
  refine (h.invariant (I := fun s => s.Inv ∧ sys.store.Keeps s.store) ?_ ⟨hinv, .refl _⟩).2
  rintro s a s' ⟨hinv, hkept⟩ hstep
  exact ⟨hstep.inv hinv, hkept.trans (hstep.keeps hinv)⟩

/-! ### Sample inputs -/

/-- The ids that the sample issuance `key` generates. -/
def sampleMemoryIds (key : String) : MemoryIssueIds where
  assetId := "asset-" ++ key
  versionId := "version-" ++ key
  uploadSessionId := "session-" ++ key

/-- The asset of the sample session `a`. -/
def sampleMemoryAsset : AssetSummary where
  assetId := "asset-a"
  assetOwner := "customer:acme"
  serviceNamespaceId := "media"
  tenantId := none

/-- The store after the issuance of the sample session `key`. -/
def InMemoryUploadSessionIssuanceStore.issueSample (store : InMemoryUploadSessionIssuanceStore)
    (key : String) : InMemoryUploadSessionIssuanceStore :=
  (store.issueUploadSession (sampleIssue key) (sampleMemoryIds key)).2

end Cdngine
