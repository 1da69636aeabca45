import Cdngine.Platform
import Cdngine.Relational

/-!
# The Registry Schema

The tables of the registry with the unique constraints of its schema, restricted to the
columns that the modelled stores read or write. Generated row ids are supplied by the
caller; ids of rows that nothing addresses by id (derivatives, manifests, workflow runs,
validation results, audit events, idempotency records) are left out. A JSON column holds
a `Json`, and `Json.null` stands for both kinds of null, which read back alike.

Rows stand in insertion order, which is the order of the `createdAt` and `grantedAt`
columns.

A nullable column takes part in a unique constraint only when it is not null
(`Relational.sameNonNullKey`).
-/

open Relational

namespace Cdngine

/-! ### Enumerations -/

/-- The states of an upload session, from its issuance to the evidence of its bytes or a refusal.
-/
inductive UploadSessionState
  | sessionCreated
  | uploading
  | uploaded
  | expired
  | terminated
  | failedValidation
  deriving DecidableEq, Repr

/-- The lifecycle states of a version, from its session to its publication. -/
inductive AssetVersionState
  | sessionCreated
  | uploading
  | uploaded
  | canonicalizing
  | canonical
  | processing
  | published
  | failedValidation
  | failedRetryable
  | quarantined
  | purged
  deriving DecidableEq, Repr

/-- The states of a request to start a workflow, as the dispatcher moves it. -/
inductive WorkflowDispatchState
  | pending
  | starting
  | started
  | duplicate
  | failedRetryable
  | failedTerminal
  deriving DecidableEq, Repr

/-- The states of a workflow that was started, as they are projected from its runtime. -/
inductive WorkflowRunState
  | queued
  | running
  | waiting
  | cancelled
  | failed
  | completed
  deriving DecidableEq, Repr

/-- The states of a derivative or a manifest. -/
inductive PublicationState
  | pending
  | writing
  | published
  | failedRetryable
  | failedTerminal
  deriving DecidableEq, Repr

/-- The outcomes of the validation of a version. -/
inductive ValidationState
  | passed
  | failed
  | quarantined
  deriving DecidableEq, Repr

/-- What an authorization is for: delivered derivatives, or the source itself. -/
inductive AuthorizationFamily
  | delivery
  | source
  deriving DecidableEq, Repr

/-- How an authorized caller is let in. -/
inductive AuthorizationMode
  | publicAccess
  | signedUrl
  | signedCookie
  | proxyUrl
  | internalHandle
  deriving DecidableEq, Repr

/-- Where the authorized bytes are served from. -/
inductive ResolvedOrigin
  | cdnDerived
  | originDerived
  | manifestBundle
  | sourceExport
  | sourceProxy
  | lazyReadCache
  deriving DecidableEq, Repr

/-- The surface whose callers an idempotency key belongs to. -/
inductive ApiSurface
  | publicApi
  | platformAdmin
  | operator
  deriving DecidableEq, Repr

/-- Who an audit event is attributed to. -/
inductive AuditActorType
  | system
  | caller
  | operator
  | automation
  deriving DecidableEq, Repr

/-- The literal of an upload-session state. -/
def UploadSessionState.text : UploadSessionState → String
  | sessionCreated => "session_created"
  | uploading => "uploading"
  | uploaded => "uploaded"
  | expired => "expired"
  | terminated => "terminated"
  | failedValidation => "failed_validation"

/-- The literal of a version state. -/
def AssetVersionState.text : AssetVersionState → String
  | sessionCreated => "session_created"
  | uploading => "uploading"
  | uploaded => "uploaded"
  | canonicalizing => "canonicalizing"
  | canonical => "canonical"
  | processing => "processing"
  | published => "published"
  | failedValidation => "failed_validation"
  | failedRetryable => "failed_retryable"
  | quarantined => "quarantined"
  | purged => "purged"

/-- The literal of a dispatch state. -/
def WorkflowDispatchState.text : WorkflowDispatchState → String
  | pending => "pending"
  | starting => "starting"
  | started => "started"
  | duplicate => "duplicate"
  | failedRetryable => "failed_retryable"
  | failedTerminal => "failed_terminal"

/-- The literal of a run state. -/
def WorkflowRunState.text : WorkflowRunState → String
  | queued => "queued"
  | running => "running"
  | waiting => "waiting"
  | cancelled => "cancelled"
  | failed => "failed"
  | completed => "completed"

/-! ### Rows -/

/-- A namespace, by the id that callers use for it and its own. -/
structure ServiceNamespace where
  id : String
  serviceNamespaceId : String
  deriving DecidableEq, Repr

/-- A tenant of a namespace, by the id that callers use for it. -/
structure TenantScope where
  id : String
  serviceNamespaceId : String
  externalTenantId : String
  deriving DecidableEq, Repr

/-- A scope that derivatives are delivered in: a hostname and a prefix under a namespace, of one
tenant or of none. -/
structure DeliveryScope where
  id : String
  serviceNamespaceId : String
  tenantScopeId : Option String
  scopeKey : String
  hostname : String
  pathPrefix : Option String
  deriving DecidableEq, Repr

/-- An asset: its namespace and tenant, its owner, and the version that is current. -/
structure Asset where
  id : String
  serviceNamespaceId : String
  tenantScopeId : Option String
  assetOwner : String
  lookupKey : String
  currentCanonicalVersionId : Option String := none
  deriving DecidableEq, Repr

/-- A version of an asset: its number, its state, what its source was declared to be, and the
evidence of the canonical source once there is some. -/
structure AssetVersion where
  id : String
  assetId : String
  versionNumber : Nat
  lifecycleState : AssetVersionState := .sessionCreated
  sourceFilename : String
  detectedContentType : String
  sourceByteLength : Int
  sourceChecksumAlgorithm : String
  sourceChecksumValue : String
  ingestObjectKey : Option String
  repositoryEngine : Option String := none
  canonicalSourceId : Option String := none
  canonicalSnapshotId : Option String := none
  canonicalLogicalPath : Option String := none
  canonicalDigestSet : Json := .null
  canonicalLogicalByteLength : Option Int := none
  canonicalStoredByteLength : Option Int := none
  dedupeMetrics : Json := .null
  sourceReconstructionHandles : Json := .null
  sourceSubstrateHints : Json := .null
  validationState : Option ValidationState := none

/-- The session that the bytes of a version are uploaded in, with what they are expected to be. -/
structure UploadSession where
  id : String
  assetVersionId : String
  state : UploadSessionState := .sessionCreated
  ingestHandle : Option String
  stagedObjectKey : Option String
  expectedByteLength : Int
  expectedChecksumAlgorithm : String
  expectedChecksumValue : String
  firstActivityAt : Option Instant
  lastActivityAt : Option Instant := none
  expiresAt : Instant
  completedAt : Option Instant := none
  terminalReason : Option String := none
  deriving DecidableEq, Repr

/-- The reference that an idempotency record of the upload-session operations keeps to
the rows of its first response. -/
structure ReplayableUploadReference where
  assetId : String
  uploadSessionId : String
  versionId : String
  workflowDispatchId : Option String := none
  deriving DecidableEq, Repr

/-- The response that an idempotency record of the authorization operations keeps. A
delivery authorization names its delivery scope, a source authorization its tenant. -/
structure AuthorizationPayload where
  assetId : String
  authorizationMode : String
  deliveryScopeId : Option String := none
  expiresAt : Instant
  oneTime : Bool := false
  remainingUses : Option Nat := none
  resolvedOrigin : String
  tenantId : Option String := none
  url : String
  versionId : String
  deriving DecidableEq, Repr

/-- The record of a request under an idempotency key: the hash of what was asked for and what was
answered. -/
structure IdempotencyRecord where
  apiSurface : ApiSurface
  callerScopeKey : String
  operationKey : String
  idempotencyKey : String
  normalizedOperationKey : String
  normalizedRequestHash : Option String
  responseReference : Option ReplayableUploadReference := none
  responsePayload : Option AuthorizationPayload := none
  isTerminal : Bool
  completedAt : Option Instant
  deriving DecidableEq, Repr

/-- The result of one validation of a version. -/
structure ValidationResult where
  assetVersionId : String
  validationState : ValidationState
  problemType : Option String
  diagnosticsDetail : String
  deriving DecidableEq, Repr

/-- The request to start a workflow for a version, under a workflow key. -/
structure WorkflowDispatch where
  id : String
  assetVersionId : String
  workflowTemplateId : String
  dispatchReason : String
  dispatchState : WorkflowDispatchState
  workflowKey : String
  firstAttemptAt : Option Instant := none
  lastAttemptAt : Option Instant := none
  lastFailureClass : Option String := none
  retrySummary : Json := .null
  versionToken : Int := 1
  updatedAt : Instant

/-- The run of a workflow that a dispatch has started. -/
structure WorkflowRun where
  assetVersionId : String
  workflowDispatchId : Option String := none
  workflowId : String
  workflowTemplateId : String
  state : WorkflowRunState
  currentPhase : Option String
  waitReason : Option String := none
  retrySummary : Json := .null
  cancellationCause : Option String := none
  lastOperatorAction : Option String := none
  startedAt : Option Instant
  completedAt : Option Instant := none
  updatedAt : Instant

/-- A derivative of a version: the recipe and the variant it was made by, and the object it is
stored as. -/
structure Derivative where
  assetVersionId : String
  deliveryScopeId : String
  recipeId : String
  schemaVersion : String
  variantKey : String
  deterministicKey : String
  storageBucket : Option String
  storageKey : Option String
  contentType : String
  byteLength : Int
  checksumValue : Option String
  publicationState : PublicationState
  metadata : Json := .null
  publishedAt : Option Instant

/-- A manifest of a version in a delivery scope, with the payload that the public API serves. -/
structure AssetManifest where
  assetVersionId : String
  deliveryScopeId : String
  manifestType : String
  schemaVersion : String
  publicationState : PublicationState
  objectKey : String
  checksumValue : Option String
  manifestPayload : Json
  publishedAt : Option Instant

/-- The permission to read the source of a version, once or until it expires. -/
structure SourceAccessGrant where
  id : String
  assetVersionId : String
  authorizationMode : AuthorizationMode
  resolvedOrigin : ResolvedOrigin
  actorScopeKey : String
  exportObjectKey : Option String := none
  proxyPath : Option String
  expiresAt : Instant
  deriving DecidableEq, Repr

/-- The request metadata of an authorization audit row: a delivery authorization records
whether it is one-time and its variant, a source authorization its disposition, and the
exchange of a one-time link when it was consumed. -/
structure AuthorizationMetadata where
  idempotencyKey : String
  oneTime : Option Bool := none
  preferredDisposition : Option String := none
  url : String
  variant : Option String := none
  consumedAt : Option Instant := none
  deriving DecidableEq, Repr

/-- The audit row that a delivery authorization leaves, which also redeems one-time links. -/
structure DeliveryAuthorizationAudit where
  id : String
  assetVersionId : String
  deliveryScopeId : Option String := none
  sourceAccessGrantId : Option String := none
  authorizationFamily : AuthorizationFamily
  authorizationMode : AuthorizationMode
  resolvedOrigin : ResolvedOrigin
  actorScopeKey : String
  grantId : Option String
  requestMetadata : AuthorizationMetadata
  expiresAt : Option Instant
  deriving DecidableEq, Repr

/-- An event of the audit log. -/
structure AuditEvent where
  assetId : Option String := none
  assetVersionId : Option String
  workflowDispatchId : Option String := none
  actorType : AuditActorType
  eventType : String
  correlationId : Option String
  payload : Json

/-! ### Unique constraints -/

/-- A namespace has one row, by either of its ids. -/
instance : Constrained ServiceNamespace where
  clash a b := sameKey ServiceNamespace.id a b || sameKey ServiceNamespace.serviceNamespaceId a b
  clash_comm a b := by simp only [sameKey_comm]

/-- The columns that identify a tenant inside its namespace. -/
def TenantScope.externalKey (r : TenantScope) : String × String :=
  (r.serviceNamespaceId, r.externalTenantId)

/-- A tenant has one row in its namespace. -/
instance : Constrained TenantScope where
  clash a b := sameKey TenantScope.id a b || sameKey TenantScope.externalKey a b
  clash_comm a b := by rw [sameKey_comm TenantScope.id, sameKey_comm TenantScope.externalKey]

/-- The columns that identify a delivery scope, null as long as it has no tenant. -/
def DeliveryScope.tenantKey (r : DeliveryScope) : Option (String × String × String) :=
  r.tenantScopeId.map fun tenant => (r.serviceNamespaceId, tenant, r.scopeKey)

/-- A delivery scope of a tenant has one row for its hostname and prefix. -/
instance : Constrained DeliveryScope where
  clash a b := sameKey DeliveryScope.id a b || sameNonNullKey DeliveryScope.tenantKey a b
  clash_comm a b := by
    rw [sameKey_comm DeliveryScope.id, sameNonNullKey_comm DeliveryScope.tenantKey]

/-- The columns that identify an asset, null as long as it has no tenant. -/
def Asset.tenantKey (r : Asset) : Option (String × String × String) :=
  r.tenantScopeId.map fun tenant => (r.serviceNamespaceId, tenant, r.lookupKey)

/-- An asset of a tenant has one row for its lookup key. -/
instance : Constrained Asset where
  clash a b := sameKey Asset.id a b || sameNonNullKey Asset.tenantKey a b
  clash_comm a b := by rw [sameKey_comm Asset.id, sameNonNullKey_comm Asset.tenantKey]

/-- The columns that number a version inside its asset. -/
def AssetVersion.numberKey (r : AssetVersion) : String × Nat := (r.assetId, r.versionNumber)

/-- Versions differ in their ids and their canonical sources, and in their numbers inside an
asset. -/
instance : Constrained AssetVersion where
  clash a b :=
    sameKey AssetVersion.id a b || sameNonNullKey AssetVersion.canonicalSourceId a b ||
      sameKey AssetVersion.numberKey a b
  clash_comm a b := by
    rw [sameKey_comm AssetVersion.id, sameNonNullKey_comm AssetVersion.canonicalSourceId,
      sameKey_comm AssetVersion.numberKey]

/-- A version has one session. -/
instance : Constrained UploadSession where
  clash a b := sameKey UploadSession.id a b || sameKey UploadSession.assetVersionId a b
  clash_comm a b := by
    rw [sameKey_comm UploadSession.id, sameKey_comm UploadSession.assetVersionId]

/-- The columns of the idempotency constraint. -/
def IdempotencyRecord.key (r : IdempotencyRecord) : ApiSurface × String × String × String :=
  (r.apiSurface, r.callerScopeKey, r.operationKey, r.idempotencyKey)

/-- A key of a caller has one record for each operation of a surface. -/
instance : Constrained IdempotencyRecord where
  clash := sameKey IdempotencyRecord.key
  clash_comm := sameKey_comm _

/-- Validation results are not constrained. -/
instance : Constrained ValidationResult where
  clash _ _ := false
  clash_comm _ _ := rfl

/-- A workflow key has one dispatch. -/
instance : Constrained WorkflowDispatch where
  clash a b := sameKey WorkflowDispatch.id a b || sameKey WorkflowDispatch.workflowKey a b
  clash_comm a b := by
    rw [sameKey_comm WorkflowDispatch.id, sameKey_comm WorkflowDispatch.workflowKey]

/-- A workflow has one run. -/
instance : Constrained WorkflowRun where
  clash := sameKey WorkflowRun.workflowId
  clash_comm := sameKey_comm _

/-- The columns that identify a derivative inside the registry. -/
def Derivative.slot (r : Derivative) : String × String × String × String × String :=
  (r.assetVersionId, r.deliveryScopeId, r.recipeId, r.schemaVersion, r.variantKey)

/-- A derivative has one row for its deterministic key, and one for its slot. -/
instance : Constrained Derivative where
  clash a b := sameKey Derivative.deterministicKey a b || sameKey Derivative.slot a b
  clash_comm a b := by
    rw [sameKey_comm Derivative.deterministicKey, sameKey_comm Derivative.slot]

/-- The columns that identify a manifest inside the registry. -/
def AssetManifest.slot (r : AssetManifest) : String × String × String :=
  (r.assetVersionId, r.manifestType, r.deliveryScopeId)

/-- A manifest has one row for its slot. -/
instance : Constrained AssetManifest where
  clash := sameKey AssetManifest.slot
  clash_comm := sameKey_comm _

/-- A grant has one row. -/
instance : Constrained SourceAccessGrant where
  clash := sameKey SourceAccessGrant.id
  clash_comm := sameKey_comm _

/-- An authorization has one audit row. -/
instance : Constrained DeliveryAuthorizationAudit where
  clash := sameKey DeliveryAuthorizationAudit.id
  clash_comm := sameKey_comm _

/-- Audit events are not constrained. -/
instance : Constrained AuditEvent where
  clash _ _ := false
  clash_comm _ _ := rfl

/-! ### The database -/

/-- The registry database. -/
structure Db where
  serviceNamespaces : Table ServiceNamespace := .empty
  tenantScopes : Table TenantScope := .empty
  deliveryScopes : Table DeliveryScope := .empty
  assets : Table Asset := .empty
  assetVersions : Table AssetVersion := .empty
  uploadSessions : Table UploadSession := .empty
  idempotencyRecords : Table IdempotencyRecord := .empty
  validationResults : Table ValidationResult := .empty
  workflowDispatches : Table WorkflowDispatch := .empty
  workflowRuns : Table WorkflowRun := .empty
  derivatives : Table Derivative := .empty
  assetManifests : Table AssetManifest := .empty
  sourceAccessGrants : Table SourceAccessGrant := .empty
  deliveryAuthorizationAudits : Table DeliveryAuthorizationAudit := .empty
  auditEvents : Table AuditEvent := .empty

end Cdngine
