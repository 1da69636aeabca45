import Cdngine.Store

/-!
# Upload Sessions

Issuance and completion of upload sessions on the registry. A completion spans two
transactions with the canonicalization of the staged bytes between them:

* **phase one** reads the session with its version and decides whether the completion is
  replayed, fails validation, or is accepted; an accepted one leaves the version
  `canonicalizing`;
* `canonicalize` snapshots the staged object into the source repository, outside any
  transaction;
* **phase two** records the canonical evidence and the workflow dispatch.

Any error after phase one reaches the `catch` of the completion, which marks the version
`failed_retryable` in a statement of its own.

The write statements of a completion are data (`CompletionStatement`), so that a phase is
its read, a decision, and a list of statements with an outcome (`CompletionScript`): the
same definitions run as one transaction here and statement by statement in
`CompletionInterleaving`.
-/

open Relational

namespace Cdngine

/-! ### Inputs and results -/

structure ObjectChecksum where
  algorithm : String
  value : String
  deriving DecidableEq, Repr

structure RegistryIssueUploadSessionInput where
  assetId : Option String := none
  assetOwner : String
  callerScopeKey : String
  checksum : ObjectChecksum
  contentType : String
  expiresAt : Instant
  filename : String
  idempotencyKey : String
  normalizedRequestHash : String
  objectKey : String
  serviceNamespaceId : String
  tenantId : Option String := none
  byteLength : Int

structure RegistryIssuedUploadSession where
  assetId : String
  assetOwner : String
  checksum : ObjectChecksum
  contentType : String
  expiresAt : Instant
  filename : String
  isDuplicate : Bool
  objectKey : String
  serviceNamespaceId : String
  tenantId : Option String
  uploadSessionId : String
  versionId : String
  versionNumber : Nat
  byteLength : Int
  deriving DecidableEq, Repr

/-- A staged object as the staging store observes it. -/
structure StagedObjectDescriptor where
  bucket : String
  key : String
  byteLength : Int
  checksum : Option ObjectChecksum
  deriving DecidableEq, Repr

structure RegistryVerifiedUploadStagedObject where
  byteLength : Int
  checksum : ObjectChecksum
  descriptor : StagedObjectDescriptor
  objectKey : String
  deriving DecidableEq, Repr

structure RegistryCompleteUploadSessionInput where
  callerScopeKey : String
  idempotencyKey : String
  normalizedRequestHash : String
  stagedObject : RegistryVerifiedUploadStagedObject
  uploadSessionId : String
  workflowTemplate : Option String := none
  deriving DecidableEq, Repr

structure RegistryCanonicalizationRequest where
  assetId : String
  assetOwner : String
  filename : String
  serviceNamespaceId : String
  tenantId : Option String
  uploadSessionId : String
  versionId : String
  versionNumber : Nat
  stagedObject : RegistryVerifiedUploadStagedObject
  deriving DecidableEq, Repr

/-- The result of a snapshot. A replay reads the JSON columns back without checking
them, so the structured members hold any value. -/
structure SnapshotResult where
  repositoryEngine : String
  canonicalSourceId : String
  snapshotId : String
  logicalPath : String
  digests : List JsValue := []
  logicalByteLength : Option Int := none
  storedByteLength : Option Int := none
  dedupeMetrics : Option (List (String × JsValue)) := none
  reconstructionHandles : Option (List JsValue) := none
  substrateHints : Option (List (String × JsValue)) := none

structure RegistryWorkflowDispatchSummary where
  dispatchId : String
  state : WorkflowDispatchState
  workflowKey : String
  deriving DecidableEq, Repr

structure RegistryCompletedUploadSession where
  assetId : String
  canonicalSource : SnapshotResult
  isDuplicate : Bool := false
  uploadSessionId : String
  versionId : String
  versionState : AssetVersionState
  workflowDispatch : RegistryWorkflowDispatchSummary

/-! ### Operation keys -/

def buildCreateOperationKey : String := "upload-session:create"

def buildCreateNormalizedOperationKey (input : RegistryIssueUploadSessionInput) : String :=
  String.intercalate ":"
    ["upload-session:create", input.serviceNamespaceId, input.tenantId.getD "tenant:none",
      input.assetId.getD "asset:new"]

def buildCompletionOperationKey (uploadSessionId : String) : String :=
  "upload-session:complete:" ++ uploadSessionId

def buildCompletionNormalizedOperationKey (uploadSessionId : String) : String :=
  "upload-session:complete:" ++ uploadSessionId

def buildWorkflowKey (serviceNamespaceId assetId versionId workflowTemplate : String) : String :=
  serviceNamespaceId ++ ":" ++ assetId ++ ":" ++ versionId ++ ":" ++ workflowTemplate

/-- The key of the idempotency record of an issuance. -/
def RegistryIssueUploadSessionInput.idempotencyRecordKey (input : RegistryIssueUploadSessionInput) :
    ApiSurface × String × String × String :=
  (.publicApi, input.callerScopeKey, buildCreateOperationKey, input.idempotencyKey)

/-- The key of the idempotency record of a completion. -/
def RegistryCompleteUploadSessionInput.idempotencyRecordKey
    (input : RegistryCompleteUploadSessionInput) : ApiSurface × String × String × String :=
  (.publicApi, input.callerScopeKey, buildCompletionOperationKey input.uploadSessionId,
    input.idempotencyKey)

/-! ### Canonical evidence -/

/-- The columns of a version that hold its canonical source evidence. -/
structure CanonicalEvidence where
  repositoryEngine : Option String
  canonicalSourceId : Option String
  canonicalSnapshotId : Option String
  canonicalLogicalPath : Option String
  canonicalDigestSet : Json
  canonicalLogicalByteLength : Option Int
  canonicalStoredByteLength : Option Int
  dedupeMetrics : Json
  sourceReconstructionHandles : Json
  sourceSubstrateHints : Json

/-- The canonical evidence of a version. -/
def AssetVersion.evidence (v : AssetVersion) : CanonicalEvidence where
  repositoryEngine := v.repositoryEngine
  canonicalSourceId := v.canonicalSourceId
  canonicalSnapshotId := v.canonicalSnapshotId
  canonicalLogicalPath := v.canonicalLogicalPath
  canonicalDigestSet := v.canonicalDigestSet
  canonicalLogicalByteLength := v.canonicalLogicalByteLength
  canonicalStoredByteLength := v.canonicalStoredByteLength
  dedupeMetrics := v.dedupeMetrics
  sourceReconstructionHandles := v.sourceReconstructionHandles
  sourceSubstrateHints := v.sourceSubstrateHints

/-- The evidence columns that phase two writes for a snapshot. -/
def canonicalEvidence (rt : Runtime) (source : SnapshotResult) : CanonicalEvidence where
  repositoryEngine := some source.repositoryEngine
  canonicalSourceId := some source.canonicalSourceId
  canonicalSnapshotId := some source.snapshotId
  canonicalLogicalPath := some source.logicalPath
  canonicalDigestSet := toJsonValue rt (.array source.digests)
  canonicalLogicalByteLength := source.logicalByteLength
  canonicalStoredByteLength := source.storedByteLength
  dedupeMetrics := (source.dedupeMetrics.map fun m => toJsonValue rt (.object m)).getD .null
  sourceReconstructionHandles :=
    (source.reconstructionHandles.map fun h => toJsonValue rt (.array h)).getD .null
  sourceSubstrateHints := (source.substrateHints.map fun h => toJsonValue rt (.object h)).getD .null

/-- A nullable text that is neither null nor empty, the two values the code treats
alike. -/
def present (s : Option String) : Option String := s.filter fun s => !s.isEmpty

@[simp] theorem present_present (s : Option String) : present (present s) = present s := by
  simp only [present, Option.filter_filter, Bool.and_self]

/-- A version **carries evidence** when the four columns that identify its canonical
source are present. -/
def AssetVersion.carriesEvidence (v : AssetVersion) : Bool :=
  (present v.repositoryEngine).isSome && (present v.canonicalSourceId).isSome &&
    (present v.canonicalSnapshotId).isSome && (present v.canonicalLogicalPath).isSome

def asJsonRecord : Json → Option (List (String × Json))
  | .object entries => some entries
  | _ => none

def asChecksumArray : Json → List Json
  | .array items => items
  | _ => []

/-- The truth value of a JSON column: null, `false`, zero and the empty text are
false. -/
def Json.truthy : Json → Bool
  | .null => false
  | .boolean b => b
  | .number q => q != 0
  | .string s => !s.isEmpty
  | .array _ => true
  | .object _ => true

def canonicalSnapshotFromRow (row : AssetVersion) : Except RegistryError SnapshotResult :=
  match present row.repositoryEngine, present row.canonicalSourceId,
    present row.canonicalSnapshotId, present row.canonicalLogicalPath with
  | some repositoryEngine, some canonicalSourceId, some snapshotId, some logicalPath =>
      .ok
        { repositoryEngine, canonicalSourceId, snapshotId, logicalPath
          digests := (asChecksumArray row.canonicalDigestSet).map Json.toJs
          logicalByteLength := row.canonicalLogicalByteLength
          storedByteLength := row.canonicalStoredByteLength
          dedupeMetrics :=
            if row.dedupeMetrics.truthy then
              some (((asJsonRecord row.dedupeMetrics).getD []).map fun e => (e.1, e.2.toJs))
            else none
          reconstructionHandles :=
            match row.sourceReconstructionHandles with
            | .array items => some (items.map Json.toJs)
            | _ => none
          substrateHints :=
            (asJsonRecord row.sourceSubstrateHints).map fun h => h.map fun e => (e.1, e.2.toJs) }
  | _, _, _, _ =>
      .error (.plain ("Version " ++ quoted row.id ++ " is missing canonical source evidence."))

/-! ### The joined session row -/

/-- A session with what a completion reads along with it: its version, the version's
asset with the external ids of its namespace and tenant, and the version's oldest
dispatch. -/
structure CompletionReplayRow where
  uploadSession : UploadSession
  version : AssetVersion
  asset : Asset
  serviceNamespaceId : String
  tenantId : Option String
  workflowDispatch : Option WorkflowDispatch

/-- The lookup of a session with its version, asset and oldest dispatch. The foreign
keys make the joined rows exist. -/
def Db.findUploadSession (db : Db) (uploadSessionId : String) : Option CompletionReplayRow := do
  let uploadSession ← db.uploadSession? uploadSessionId
  let version ← db.version? uploadSession.assetVersionId
  let asset ← db.asset? version.assetId
  let serviceNamespace ← db.serviceNamespace? asset.serviceNamespaceId
  let tenantScope := asset.tenantScopeId.bind db.tenantScope?
  some
    { uploadSession, version, asset
      serviceNamespaceId := serviceNamespace.serviceNamespaceId
      tenantId := tenantScope.map (·.externalTenantId)
      workflowDispatch := (db.dispatchesOf version.id).head? }

def mapCompletionVersionState (state : AssetVersionState) : AssetVersionState :=
  if state = .canonical then .canonical else .processing

/-- The response that the persisted rows determine, if the session has already been
completed: the version has a dispatch and carries evidence. -/
def tryBuildCompletionReplay (row : CompletionReplayRow) :
    Option RegistryCompletedUploadSession := do
  let dispatch ← row.workflowDispatch
  let canonicalSource ← (canonicalSnapshotFromRow row.version).toOption
  some
    { assetId := row.asset.id
      canonicalSource
      uploadSessionId := row.uploadSession.id
      versionId := row.version.id
      versionState := mapCompletionVersionState row.version.lifecycleState
      workflowDispatch :=
        { dispatchId := dispatch.id
          state := dispatch.dispatchState
          workflowKey := dispatch.workflowKey } }

/-! ### Issuance -/

/-- The ids that an issuance generates. A generated id is never empty. -/
structure IssueIds where
  assetId : String
  lookupKey : String
  versionId : String
  uploadSessionId : String
  uploadSessionId_ne : uploadSessionId ≠ ""

structure RegistryUploadSessionSummary where
  assetId : String
  assetOwner : String
  checksum : ObjectChecksum
  contentType : String
  expiresAt : Instant
  filename : String
  objectKey : String
  serviceNamespaceId : String
  tenantId : Option String
  uploadSessionId : String
  uploadSessionState : UploadSessionState
  versionId : String
  versionNumber : Nat
  versionState : AssetVersionState
  byteLength : Int
  deriving DecidableEq, Repr

def mapUploadSessionState : UploadSessionState → UploadSessionState
  | .uploading => .uploaded
  | state => state

def mapVersionState : AssetVersionState → AssetVersionState
  | .uploading | .published | .purged => .processing
  | state => state

def buildUploadSessionSummaryFromRow (row : CompletionReplayRow) :
    RegistryUploadSessionSummary where
  assetId := row.asset.id
  assetOwner := row.asset.assetOwner
  byteLength := row.version.sourceByteLength
  checksum := ⟨row.version.sourceChecksumAlgorithm, row.version.sourceChecksumValue⟩
  contentType := row.version.detectedContentType
  expiresAt := row.uploadSession.expiresAt
  filename := row.version.sourceFilename
  objectKey := row.version.ingestObjectKey.getD row.uploadSession.id
  serviceNamespaceId := row.serviceNamespaceId
  tenantId := row.tenantId
  uploadSessionId := row.uploadSession.id
  uploadSessionState := mapUploadSessionState row.uploadSession.state
  versionId := row.version.id
  versionNumber := row.version.versionNumber
  versionState := mapVersionState row.version.lifecycleState

def getUploadSession (db : Db) (uploadSessionId : String) : Option RegistryUploadSessionSummary :=
  (db.findUploadSession uploadSessionId).map buildUploadSessionSummaryFromRow

/-- The tenant of a request; an unknown tenant counts as none. -/
def resolveTenant (db : Db) (namespaceId : String) (tenantId : Option String) :
    Option TenantScope := do
  let tenantId ← present tenantId
  db.tenantScopes.find? fun r => r.externalKey == (namespaceId, tenantId)

def loadExistingAsset (db : Db) (assetId namespaceId : String) (tenant : Option TenantScope)
    (assetOwner : String) : Except RegistryError Asset :=
  match db.assets.find? fun r =>
      r.id == assetId && r.assetOwner == assetOwner && r.serviceNamespaceId == namespaceId &&
        r.tenantScopeId == tenant.map (·.id) with
  | some asset => .ok asset
  | none => .error (.uploadSessionAssetNotFound assetId)

/-- The asset that an issuance attaches its version to: the existing one it names, or a
new one. -/
def issueAsset (db : Db) (input : RegistryIssueUploadSessionInput) (ids : IssueIds)
    (namespaceId : String) (tenant : Option TenantScope) : Except RegistryError (Asset × Db) :=
  match input.assetId with
  | none => do
      let asset : Asset :=
        { id := ids.assetId
          serviceNamespaceId := namespaceId
          tenantScopeId := tenant.map (·.id)
          assetOwner := input.assetOwner
          lookupKey := ids.lookupKey }
      let db ← db.createAsset asset
      return (asset, db)
  | some assetId => do
      let asset ← loadExistingAsset db assetId namespaceId tenant input.assetOwner
      return (asset, db)

/-- The number of an asset's latest version, zero when it has none. -/
def Db.latestVersionNumber (db : Db) (assetId : String) : Nat :=
  ((db.assetVersions.rows.filter fun r => r.assetId == assetId).map (·.versionNumber)).foldl max 0

/-- The version row of an issuance. -/
def issuedVersion (input : RegistryIssueUploadSessionInput) (ids : IssueIds) (assetId : String)
    (versionNumber : Nat) : AssetVersion where
  id := ids.versionId
  assetId
  versionNumber
  lifecycleState := .sessionCreated
  sourceFilename := input.filename
  detectedContentType := input.contentType
  sourceByteLength := input.byteLength
  sourceChecksumAlgorithm := input.checksum.algorithm
  sourceChecksumValue := input.checksum.value
  ingestObjectKey := some input.objectKey

/-- The session row of an issuance. -/
def issuedSession (input : RegistryIssueUploadSessionInput) (ids : IssueIds) (now : Instant) :
    UploadSession where
  id := ids.uploadSessionId
  assetVersionId := ids.versionId
  state := .sessionCreated
  ingestHandle := some input.objectKey
  stagedObjectKey := some input.objectKey
  expectedByteLength := input.byteLength
  expectedChecksumAlgorithm := input.checksum.algorithm
  expectedChecksumValue := input.checksum.value
  firstActivityAt := some now
  expiresAt := input.expiresAt

/-- The idempotency record of an issuance. -/
def issuedRecord (input : RegistryIssueUploadSessionInput) (ids : IssueIds) (assetId : String)
    (now : Instant) : IdempotencyRecord where
  apiSurface := .publicApi
  callerScopeKey := input.callerScopeKey
  operationKey := buildCreateOperationKey
  idempotencyKey := input.idempotencyKey
  normalizedOperationKey := buildCreateNormalizedOperationKey input
  normalizedRequestHash := some input.normalizedRequestHash
  responseReference :=
    some { assetId, uploadSessionId := ids.uploadSessionId, versionId := ids.versionId }
  isTerminal := true
  completedAt := some now

/-- The transaction of an issuance. -/
def issueTransaction (input : RegistryIssueUploadSessionInput) (ids : IssueIds) (now : Instant) :
    Transaction RegistryIssuedUploadSession := fun db => do
  let some serviceNamespace :=
      db.serviceNamespaces.find? fun r => r.serviceNamespaceId == input.serviceNamespaceId
    | .error (.uploadSessionAssetNotFound (input.assetId.getD input.serviceNamespaceId))
  let tenant := resolveTenant db serviceNamespace.id input.tenantId
  let (asset, db) ← issueAsset db input ids serviceNamespace.id tenant
  let versionNumber := db.latestVersionNumber asset.id + 1
  let db ← db.createAssetVersion (issuedVersion input ids asset.id versionNumber)
  let db ← db.createUploadSession (issuedSession input ids now)
  let db ← db.createIdempotencyRecord (issuedRecord input ids asset.id now)
  let issued : RegistryIssuedUploadSession :=
    { assetId := asset.id
      assetOwner := input.assetOwner
      byteLength := input.byteLength
      checksum := input.checksum
      contentType := input.contentType
      expiresAt := input.expiresAt
      filename := input.filename
      isDuplicate := false
      objectKey := input.objectKey
      serviceNamespaceId := serviceNamespace.serviceNamespaceId
      tenantId := tenant.map (·.externalTenantId)
      uploadSessionId := ids.uploadSessionId
      versionId := ids.versionId
      versionNumber }
  return (issued, db)

/-- The first response of an issuance, from the rows its idempotency record refers to. -/
def loadIssuedUploadSessionReplay (db : Db) (reference : Option ReplayableUploadReference) :
    Except RegistryError RegistryIssuedUploadSession :=
  match reference with
  | none => .error (.plain "Upload-session idempotency record is missing a replay reference.")
  | some parsed =>
      if parsed.uploadSessionId.isEmpty || parsed.versionId.isEmpty || parsed.assetId.isEmpty then
        .error (.plain "Upload-session idempotency record is missing a replay reference.")
      else
        match getUploadSession db parsed.uploadSessionId with
        | some replay =>
            if replay.assetId = parsed.assetId ∧ replay.versionId = parsed.versionId then
              .ok
                { assetId := replay.assetId
                  assetOwner := replay.assetOwner
                  byteLength := replay.byteLength
                  checksum := replay.checksum
                  contentType := replay.contentType
                  expiresAt := replay.expiresAt
                  filename := replay.filename
                  isDuplicate := true
                  objectKey := replay.objectKey
                  serviceNamespaceId := replay.serviceNamespaceId
                  tenantId := present replay.tenantId
                  uploadSessionId := replay.uploadSessionId
                  versionId := replay.versionId
                  versionNumber := replay.versionNumber }
            else unresolved parsed.uploadSessionId
        | none => unresolved parsed.uploadSessionId
where
  unresolved (uploadSessionId : String) : Except RegistryError RegistryIssuedUploadSession :=
    .error (.plain ("Upload-session replay reference for " ++ quoted uploadSessionId ++
      " no longer resolves."))

/-- The answer to an issuance whose idempotency key has a record. -/
def issueReplay (db : Db) (input : RegistryIssueUploadSessionInput) (record : IdempotencyRecord) :
    Except RegistryError RegistryIssuedUploadSession :=
  if record.normalizedRequestHash ≠ some input.normalizedRequestHash then
    .error (.uploadSessionIdempotencyConflict input.idempotencyKey)
  else loadIssuedUploadSessionReplay db record.responseReference

/-- `issueUploadSession`, run without interleaving. -/
def issueUploadSession (input : RegistryIssueUploadSessionInput) (ids : IssueIds) (now : Instant)
    (db : Db) : Except RegistryError RegistryIssuedUploadSession × Db :=
  match db.idempotencyRecord? input.idempotencyRecordKey with
  | some record => (issueReplay db input record, db)
  | none =>
      match transact (issueTransaction input ids now) db with
      | (.error (.store .uniqueConstraint), db) =>
          match db.idempotencyRecord? input.idempotencyRecordKey with
          | some record => (issueReplay db input record, db)
          | none => (.error (.store .uniqueConstraint), db)
      | result => result

/-! ### The statements of a completion -/

/-- A write statement of a completion. -/
inductive CompletionStatement
  | expireUploadSession (uploadSessionId : String)
  | failUploadSession (uploadSessionId problemType : String)
  | failVersionValidation (versionId : String)
  | createValidationResult (row : ValidationResult)
  | markUploaded (uploadSessionId : String) (now : Instant) (objectKey : String)
  | startCanonicalizing (versionId objectKey : String)
  | recordEvidence (versionId : String) (evidence : CanonicalEvidence)
  | setCurrentCanonicalVersion (assetId versionId : String)
  | createWorkflowDispatch (row : WorkflowDispatch)
  | createAuditEvent (row : AuditEvent)
  | persistIdempotencyRecord (row : IdempotencyRecord)
  | failRetryable (versionId : String)

/-- A session that expired before a valid completion. -/
def UploadSession.expire (s : UploadSession) : UploadSession :=
  { s with state := .expired, terminalReason := some "expired-before-completion" }

/-- A session whose staged evidence was rejected. -/
def UploadSession.failValidation (s : UploadSession) (problemType : String) : UploadSession :=
  { s with state := .failedValidation, terminalReason := some problemType }

/-- A session whose staged evidence was accepted. -/
def UploadSession.markUploaded (s : UploadSession) (now : Instant) (objectKey : String) :
    UploadSession :=
  { s with
    completedAt := some now
    lastActivityAt := some now
    stagedObjectKey := some objectKey
    state := .uploaded }

/-- A version in another lifecycle state. -/
def AssetVersion.moveTo (v : AssetVersion) (state : AssetVersionState) : AssetVersion :=
  { v with lifecycleState := state }

/-- A version whose staged evidence was rejected. -/
def AssetVersion.failValidation (v : AssetVersion) : AssetVersion :=
  { v.moveTo .failedValidation with validationState := some .failed }

/-- A version whose staged evidence was accepted. -/
def AssetVersion.startCanonicalizing (v : AssetVersion) (objectKey : String) : AssetVersion :=
  { v.moveTo .canonicalizing with ingestObjectKey := some objectKey }

/-- A version with the evidence of its canonical source recorded. -/
def AssetVersion.withEvidence (v : AssetVersion) (e : CanonicalEvidence) : AssetVersion :=
  { v with
    canonicalDigestSet := e.canonicalDigestSet
    canonicalLogicalByteLength := e.canonicalLogicalByteLength
    canonicalLogicalPath := e.canonicalLogicalPath
    canonicalSnapshotId := e.canonicalSnapshotId
    canonicalSourceId := e.canonicalSourceId
    canonicalStoredByteLength := e.canonicalStoredByteLength
    dedupeMetrics := e.dedupeMetrics
    lifecycleState := .canonical
    repositoryEngine := e.repositoryEngine
    sourceReconstructionHandles := e.sourceReconstructionHandles
    sourceSubstrateHints := e.sourceSubstrateHints
    validationState := some .passed }

/-- The effect of a statement on the database. -/
def CompletionStatement.apply (db : Db) : CompletionStatement → Except RegistryError Db
  | .expireUploadSession id => db.updateUploadSession id fun r => r.expire
  | .failUploadSession id problemType =>
      db.updateUploadSession id fun r => r.failValidation problemType
  | .failVersionValidation id => db.updateAssetVersion id fun r => r.failValidation
  | .createValidationResult row => db.createValidationResult row
  | .markUploaded id now objectKey =>
      db.updateUploadSession id fun r => r.markUploaded now objectKey
  | .startCanonicalizing id objectKey =>
      db.updateAssetVersion id fun r => r.startCanonicalizing objectKey
  | .recordEvidence id evidence => db.updateAssetVersion id fun r => r.withEvidence evidence
  | .setCurrentCanonicalVersion assetId versionId =>
      db.updateAsset assetId fun r => { r with currentCanonicalVersionId := some versionId }
  | .createWorkflowDispatch row => db.createWorkflowDispatch row
  | .createAuditEvent row => db.createAuditEvent row
  | .persistIdempotencyRecord row =>
      db.upsertIdempotencyRecord row fun r =>
        { r with
          completedAt := row.completedAt
          isTerminal := true
          normalizedOperationKey := row.normalizedOperationKey
          normalizedRequestHash := row.normalizedRequestHash
          responseReference := row.responseReference }
  | .failRetryable id => db.updateAssetVersion id fun r => r.moveTo .failedRetryable

/-- Execute statements in order, up to the first that fails. -/
def executeAll : List CompletionStatement → Db → Except RegistryError Db
  | [], db => .ok db
  | statement :: statements, db => statement.apply db >>= executeAll statements

/-- The rest of a transaction once its read has decided: statements to execute and the
outcome that follows them. -/
structure CompletionScript (α : Type) where
  statements : List CompletionStatement
  outcome : Except RegistryError α

/-- Run a script as the rest of a transaction. -/
def CompletionScript.run {α : Type} (script : CompletionScript α) : Transaction α := fun db => do
  let db ← executeAll script.statements db
  let result ← script.outcome
  return (result, db)

/-- The idempotency record of a completion. -/
def completionIdempotencyRecord (input : RegistryCompleteUploadSessionInput) (now : Instant)
    (replay : RegistryCompletedUploadSession) : IdempotencyRecord where
  apiSurface := .publicApi
  callerScopeKey := input.callerScopeKey
  operationKey := buildCompletionOperationKey replay.uploadSessionId
  idempotencyKey := input.idempotencyKey
  normalizedOperationKey := buildCompletionNormalizedOperationKey replay.uploadSessionId
  normalizedRequestHash := some input.normalizedRequestHash
  responseReference :=
    some
      { assetId := replay.assetId
        uploadSessionId := replay.uploadSessionId
        versionId := replay.versionId
        workflowDispatchId := some replay.workflowDispatch.dispatchId }
  isTerminal := true
  completedAt := some now

/-! ### Phase one -/

/-- How phase one ends when it does not throw. -/
inductive PhaseOneResult
  | replay (completed : RegistryCompletedUploadSession)
  | validationFailure (error : RegistryError)
  | request (request : RegistryCanonicalizationRequest)

def validationFailedProblem : String := "https://docs.cdngine.dev/problems/validation-failed"

def checksumMismatchProblem : String := "https://docs.cdngine.dev/problems/checksum-mismatch"

/-- `recordValidationFailure`, as the rest of phase one. -/
def recordValidationFailure (uploadSessionId versionId problemType detail : String) :
    CompletionScript PhaseOneResult where
  statements :=
    [.failUploadSession uploadSessionId problemType, .failVersionValidation versionId,
      .createValidationResult
        { assetVersionId := versionId
          validationState := .failed
          problemType := some problemType
          diagnosticsDetail := detail }]
  outcome :=
    .ok (.validationFailure (.uploadSessionValidationFailed uploadSessionId problemType detail))

/-- The problem that staged evidence has with the session and version it completes, and
its text. -/
def stagedEvidenceProblem (input : RegistryCompleteUploadSessionInput) (row : CompletionReplayRow) :
    Option (String × String) :=
  let staged := input.stagedObject
  let version := row.version
  let expectedKey := row.uploadSession.stagedObjectKey <|> version.ingestObjectKey
  let declared : ObjectChecksum := ⟨version.sourceChecksumAlgorithm, version.sourceChecksumValue⟩
  if some staged.objectKey ≠ expectedKey then
    some (validationFailedProblem,
      "Upload session " ++ quoted input.uploadSessionId ++ " expected staged object " ++
        quoted (expectedKey.getD "unknown") ++ " but received " ++ quoted staged.objectKey ++ ".")
  else if staged.byteLength ≠ version.sourceByteLength then
    some (validationFailedProblem,
      "Upload session " ++ quoted input.uploadSessionId ++ " expected " ++
        toString version.sourceByteLength ++ " byte(s) but staged validation observed " ++
        toString staged.byteLength ++ " byte(s).")
  else if staged.checksum ≠ declared ∨ staged.descriptor.checksum ≠ some declared then
    some (checksumMismatchProblem,
      "Upload session " ++ quoted input.uploadSessionId ++
        " did not match the expected checksum evidence.")
  else none

/-- The version states from which phase one accepts a completion. -/
def acceptsCompletion : AssetVersionState → Bool
  | .sessionCreated | .uploaded | .failedRetryable => true
  | _ => false

/-- The request that an accepted completion hands to `canonicalize`. -/
def canonicalizationRequest (input : RegistryCompleteUploadSessionInput)
    (row : CompletionReplayRow) : RegistryCanonicalizationRequest where
  assetId := row.asset.id
  assetOwner := row.asset.assetOwner
  filename := row.version.sourceFilename
  serviceNamespaceId := row.serviceNamespaceId
  tenantId := row.tenantId
  uploadSessionId := row.uploadSession.id
  versionId := row.version.id
  versionNumber := row.version.versionNumber
  stagedObject := input.stagedObject

/-- What phase one does with a completion it accepts. -/
def acceptCompletion (input : RegistryCompleteUploadSessionInput) (now : Instant)
    (row : CompletionReplayRow) : CompletionScript PhaseOneResult where
  statements :=
    [.markUploaded row.uploadSession.id now input.stagedObject.objectKey,
      .startCanonicalizing row.version.id input.stagedObject.objectKey]
  outcome := .ok (.request (canonicalizationRequest input row))

/-- What either phase does with a session that has been completed before. -/
def replayCompletion {α : Type} (input : RegistryCompleteUploadSessionInput) (now : Instant)
    (replay : RegistryCompletedUploadSession) (result : RegistryCompletedUploadSession → α) :
    CompletionScript α where
  statements := [.persistIdempotencyRecord (completionIdempotencyRecord input now replay)]
  outcome := .ok (result { replay with isDuplicate := true })

/-- What phase one does once it has read the session. -/
def phaseOneScript (input : RegistryCompleteUploadSessionInput) (now : Instant)
    (row : CompletionReplayRow) : CompletionScript PhaseOneResult :=
  let uploadSession := row.uploadSession
  let version := row.version
  if now > uploadSession.expiresAt then
    ⟨[.expireUploadSession uploadSession.id], .error (.uploadSessionExpired input.uploadSessionId)⟩
  else
    match tryBuildCompletionReplay row with
    | some replay => replayCompletion input now replay .replay
    | none =>
        if uploadSession.state = .terminated ∨ uploadSession.state = .failedValidation then
          ⟨[], .error (.uploadSessionInvalidStateTransition input.uploadSessionId
            uploadSession.state.text)⟩
        else if ¬ acceptsCompletion version.lifecycleState then
          ⟨[], .error (.uploadSessionInvalidStateTransition input.uploadSessionId
            version.lifecycleState.text)⟩
        else
          match stagedEvidenceProblem input row with
          | some (problemType, detail) =>
              recordValidationFailure uploadSession.id version.id problemType detail
          | none => acceptCompletion input now row

/-- The first transaction of a completion. -/
def phaseOne (input : RegistryCompleteUploadSessionInput) (now : Instant) :
    Transaction PhaseOneResult := fun db =>
  match db.findUploadSession input.uploadSessionId with
  | none => .error (.uploadSessionNotFound input.uploadSessionId)
  | some row => (phaseOneScript input now row).run db

/-! ### Phase two -/

/-- The template of the workflow that a completion dispatches. -/
def RegistryCompleteUploadSessionInput.template (input : RegistryCompleteUploadSessionInput) :
    String :=
  input.workflowTemplate.getD "asset-derivation-v1"

/-- The key of the workflow that a completion of a session dispatches. -/
def dispatchWorkflowKey (input : RegistryCompleteUploadSessionInput) (row : CompletionReplayRow) :
    String :=
  buildWorkflowKey row.serviceNamespaceId row.asset.id row.version.id input.template

/-- The statements of phase two before it looks for an existing dispatch. -/
def phaseTwoEvidence (rt : Runtime) (source : SnapshotResult) (row : CompletionReplayRow) :
    List CompletionStatement :=
  [.recordEvidence row.version.id (canonicalEvidence rt source),
    .setCurrentCanonicalVersion row.asset.id row.version.id]

/-- What phase two does once it has looked for an existing dispatch. -/
def phaseTwoDispatch (input : RegistryCompleteUploadSessionInput) (source : SnapshotResult)
    (newDispatchId : String) (now : Instant) (row : CompletionReplayRow)
    (existing : Option WorkflowDispatch) : CompletionScript RegistryCompletedUploadSession :=
  let created : WorkflowDispatch :=
    { id := newDispatchId
      assetVersionId := row.version.id
      workflowTemplateId := input.template
      dispatchReason := "upload-complete"
      dispatchState := .pending
      workflowKey := dispatchWorkflowKey input row
      updatedAt := now }
  let dispatch := existing.getD created
  let completed : RegistryCompletedUploadSession :=
    { assetId := row.asset.id
      canonicalSource := source
      isDuplicate := false
      uploadSessionId := row.uploadSession.id
      versionId := row.version.id
      versionState := .canonical
      workflowDispatch :=
        { dispatchId := dispatch.id
          state := dispatch.dispatchState
          workflowKey := dispatch.workflowKey } }
  { statements :=
      (if existing.isSome then [] else [.createWorkflowDispatch created]) ++
        [.createAuditEvent
            { assetId := some row.asset.id
              assetVersionId := some row.version.id
              workflowDispatchId := some dispatch.id
              actorType := .system
              eventType := "asset-version-canonicalized"
              correlationId := some input.idempotencyKey
              payload := .object
                [("canonicalSourceId", .string source.canonicalSourceId),
                  ("repositoryEngine", .string source.repositoryEngine),
                  ("workflowDispatchId", .string dispatch.id)] },
          .persistIdempotencyRecord (completionIdempotencyRecord input now completed)]
    outcome := .ok completed }

/-- The dispatch of a workflow key. -/
def Db.findWorkflowDispatch (db : Db) (workflowKey : String) : Option WorkflowDispatch :=
  db.workflowDispatches.find? fun r => r.workflowKey == workflowKey

/-- The second transaction of a completion. -/
def phaseTwo (rt : Runtime) (input : RegistryCompleteUploadSessionInput) (source : SnapshotResult)
    (newDispatchId : String) (now : Instant) : Transaction RegistryCompletedUploadSession :=
    fun db =>
  match db.findUploadSession input.uploadSessionId with
  | none => .error (.uploadSessionNotFound input.uploadSessionId)
  | some row =>
      match tryBuildCompletionReplay row with
      | some replay => (replayCompletion input now replay id).run db
      | none =>
          if row.version.lifecycleState ≠ .canonicalizing then
            .error (.uploadSessionInvalidStateTransition input.uploadSessionId
              row.version.lifecycleState.text)
          else do
            let db ← executeAll (phaseTwoEvidence rt source row) db
            let existing := db.findWorkflowDispatch (dispatchWorkflowKey input row)
            (phaseTwoDispatch input source newDispatchId now row existing).run db

/-! ### The whole completion -/

/-- The `catch` of a completion: mark the version failed and rethrow. -/
def recoverFailedCompletion (input : RegistryCompleteUploadSessionInput) (versionId : String)
    (cause : RegistryError) (db : Db) : Except RegistryError RegistryCompletedUploadSession × Db :=
  match (CompletionStatement.failRetryable versionId).apply db with
  | .ok db => (.error (.uploadSessionCanonicalizationFailed input.uploadSessionId cause), db)
  | .error e => (.error e, db)

/-- The completed response that an idempotency record refers to. -/
def loadCompletionReplay (db : Db) (reference : Option ReplayableUploadReference) :
    Except RegistryError RegistryCompletedUploadSession :=
  match reference with
  | none => .error (.plain "Completion idempotency record is missing a replay reference.")
  | some parsed =>
      if parsed.uploadSessionId.isEmpty then
        .error (.plain "Completion idempotency record is missing a replay reference.")
      else
        match db.findUploadSession parsed.uploadSessionId with
        | none =>
            .error (.plain ("Completion replay reference for " ++ quoted parsed.uploadSessionId ++
              " no longer resolves."))
        | some row =>
            match tryBuildCompletionReplay row with
            | some replay => .ok { replay with isDuplicate := true }
            | none =>
                .error (.plain ("Upload session " ++ quoted parsed.uploadSessionId ++
                  " does not have terminal canonical evidence to replay."))

/-- The answer to a completion whose idempotency key has a record. -/
def completionReplay (db : Db) (input : RegistryCompleteUploadSessionInput)
    (record : IdempotencyRecord) : Except RegistryError RegistryCompletedUploadSession :=
  if record.normalizedRequestHash ≠ some input.normalizedRequestHash then
    .error (.uploadSessionIdempotencyConflict input.idempotencyKey)
  else loadCompletionReplay db record.responseReference

/-- What the code around a completion supplies: the canonicalization, the id of a new
dispatch, and the time of each phase. -/
structure CompletionEnvironment where
  canonicalize : RegistryCanonicalizationRequest → Except RegistryError SnapshotResult
  newDispatchId : String
  phaseOneAt : Instant
  phaseTwoAt : Instant

/-- The part of a completion inside its `try`. -/
def canonicalizeAndRecord (rt : Runtime) (env : CompletionEnvironment)
    (input : RegistryCompleteUploadSessionInput) (request : RegistryCanonicalizationRequest)
    (db : Db) : Except RegistryError RegistryCompletedUploadSession × Db :=
  match env.canonicalize request with
  | .error e => recoverFailedCompletion input request.versionId e db
  | .ok source =>
      match phaseTwo rt input source env.newDispatchId env.phaseTwoAt db with
      | .ok (completed, db) => (.ok completed, db)
      | .error e => recoverFailedCompletion input request.versionId e db

/-- `completeUploadSession`, run without interleaving. -/
def completeUploadSession (rt : Runtime) (env : CompletionEnvironment)
    (input : RegistryCompleteUploadSessionInput) (db : Db) :
    Except RegistryError RegistryCompletedUploadSession × Db :=
  match db.idempotencyRecord? input.idempotencyRecordKey with
  | some record => (completionReplay db input record, db)
  | none =>
      match phaseOne input env.phaseOneAt db with
      | .error e => (.error e, db)
      | .ok (.replay completed, db) => (.ok completed, db)
      | .ok (.validationFailure e, db) => (.error e, db)
      | .ok (.request request, db) => canonicalizeAndRecord rt env input request db

end Cdngine
