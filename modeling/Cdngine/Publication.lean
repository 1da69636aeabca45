import Cdngine.UploadSession

/-!
# Publication Stores

The three publication stores, for generic assets, images and presentations, and the
execution store that projects worker state. The publication stores run the same two
transactions and differ in what they require of the canonical evidence, in their error
classes and texts, and in whether they store the metadata of a derivative: one
definition each (`PublicationStore.begin`, `PublicationStore.publish`), with the three
stores as its values.

* **begin** moves a canonical, processing or published version to `processing`;
* **publish** writes the derivatives and the manifest of one delivery scope and moves the
  version to `published`.

## Main results

* `PublicationStore.begin_cases`, `PublicationStore.publish_cases`: what each transaction
  did when it committed.
* `PublicationStore.upsertDerivatives_ok_iff`: the derivative rows of a publication can be
  written exactly when its deterministic keys are free (`KeysFree`).
* `PublicationStore.begin_succeeds_iff`, `PublicationStore.publish_succeeds_iff`: when
  each transaction commits.
* `PublicationStore.publish_publishedTo`: what a publication leaves.
-/

open Relational

namespace Cdngine

/-! ### Records -/

/-- The columns of the slot constraint of derivatives: version, delivery scope, recipe,
schema version and variant. -/
abbrev DerivativeSlot := String × String × String × String × String

/-- A derivative, as a publication workflow hands it to its store. -/
structure PublishedDerivativeRecord where
  byteLength : Int
  checksumValue : String
  contentType : String
  deliveryScopeId : String
  deterministicKey : String
  metadata : Option (List (String × JsValue)) := none
  pageNumber : Option Rat := none
  publishedAt : Instant
  recipeId : String
  schemaVersion : String
  storageBucket : String
  storageKey : String
  variantKey : String

/-- A manifest, as a publication workflow hands it to its store. -/
structure PublishedManifestRecord where
  checksumValue : String
  deliveryScopeId : String
  manifestPayload : JsValue
  manifestType : String
  objectKey : String
  publishedAt : Instant
  schemaVersion : String

/-- A version, as a publication store returns it: its evidence depends on the store. -/
structure CanonicalVersionRecord (ε : Type) where
  assetId : String
  evidence : ε
  detectedContentType : String
  lifecycleState : AssetVersionState
  serviceNamespaceId : String
  sourceByteLength : Int
  sourceChecksumValue : String
  sourceFilename : String
  versionId : String
  versionNumber : Nat

/-- The canonical evidence that the generic store requires. -/
structure GenericCanonicalSourceEvidenceRecord where
  repositoryEngine : String
  canonicalSourceId : String
  canonicalSnapshotId : String
  canonicalLogicalPath : String
  canonicalDigestSet : List Json
  canonicalLogicalByteLength : Option Int
  canonicalStoredByteLength : Option Int
  dedupeMetrics : Option (List (String × Json))
  sourceReconstructionHandles : Option (List Json)
  sourceSubstrateHints : Option (List (String × Json))

/-- The canonical identity that the image and the presentation store require. -/
structure CanonicalSourceIdentity where
  canonicalLogicalPath : String
  canonicalSourceId : String

/-! ### The stores -/

/-- The publication stores. -/
inductive PublicationKind
  | genericAsset
  | image
  | presentation
  deriving DecidableEq, Repr

/-- What distinguishes a publication store. -/
structure PublicationStore (ε : Type) where
  notFound : String → RegistryError
  stateError : String → String → String → RegistryError
  subject : String
  mapEvidence : AssetVersion → Except RegistryError ε
  writesMetadata : Bool

def mapCanonicalSourceEvidence (record : AssetVersion) :
    Except RegistryError GenericCanonicalSourceEvidenceRecord :=
  match present record.repositoryEngine, present record.canonicalSourceId,
    present record.canonicalSnapshotId, present record.canonicalLogicalPath with
  | some repositoryEngine, some canonicalSourceId, some canonicalSnapshotId,
    some canonicalLogicalPath =>
      .ok
        { repositoryEngine, canonicalSourceId, canonicalSnapshotId, canonicalLogicalPath
          canonicalDigestSet := asChecksumArray record.canonicalDigestSet
          canonicalLogicalByteLength := record.canonicalLogicalByteLength
          canonicalStoredByteLength := record.canonicalStoredByteLength
          dedupeMetrics :=
            if record.dedupeMetrics.truthy then some ((asJsonRecord record.dedupeMetrics).getD [])
            else none
          sourceReconstructionHandles :=
            if record.sourceReconstructionHandles.truthy then
              some (asChecksumArray record.sourceReconstructionHandles)
            else none
          sourceSubstrateHints :=
            if record.sourceSubstrateHints.truthy then
              some ((asJsonRecord record.sourceSubstrateHints).getD [])
            else none }
  | _, _, _, _ =>
      .error (.plain ("Generic asset version " ++ quoted record.id ++
        " is missing canonical source evidence."))

/-- The identity that the image and the presentation store require of a version. -/
def mapCanonicalSourceIdentity (subject : String) (record : AssetVersion) :
    Except RegistryError CanonicalSourceIdentity :=
  match present record.canonicalLogicalPath, present record.canonicalSourceId with
  | some canonicalLogicalPath, some canonicalSourceId =>
      .ok { canonicalLogicalPath, canonicalSourceId }
  | _, _ =>
      .error (.plain (subject ++ " version " ++ quoted record.id ++
        " is missing canonical source identity."))

def genericAssetPublicationStore : PublicationStore GenericCanonicalSourceEvidenceRecord where
  notFound := .genericAssetVersionNotFound
  stateError := .genericAssetVersionState
  subject := "generic asset version"
  mapEvidence := mapCanonicalSourceEvidence
  writesMetadata := true

def imagePublicationStore : PublicationStore CanonicalSourceIdentity where
  notFound := .imageVersionNotFound
  stateError := .imageVersionState
  subject := "image version"
  mapEvidence := mapCanonicalSourceIdentity "Image"
  writesMetadata := true

def presentationPublicationStore : PublicationStore CanonicalSourceIdentity where
  notFound := .presentationVersionNotFound
  stateError := .presentationVersionState
  subject := "presentation version"
  mapEvidence := mapCanonicalSourceIdentity "Presentation"
  writesMetadata := false

/-- A version with its asset and the external id of its namespace. -/
structure PublicationRow where
  version : AssetVersion
  asset : Asset
  serviceNamespaceId : String

/-- The lookup of a version with its asset and namespace. The foreign keys make the
joined rows exist. -/
def Db.findPublicationVersion (db : Db) (versionId : String) : Option PublicationRow := do
  let version ← db.version? versionId
  let asset ← db.asset? version.assetId
  let serviceNamespace ← db.serviceNamespace? asset.serviceNamespaceId
  some { version, asset, serviceNamespaceId := serviceNamespace.serviceNamespaceId }

/-- The delivery scopes of a version's asset: those of its namespace that have no tenant
or its tenant. -/
def DeliveryScope.availableTo (scope : DeliveryScope) (asset : Asset) : Bool :=
  scope.serviceNamespaceId == asset.serviceNamespaceId &&
    match present asset.tenantScopeId with
    | some tenant => scope.tenantScopeId == none || scope.tenantScopeId == some tenant
    | none => scope.tenantScopeId == none

namespace PublicationStore

variable {ε : Type} (store : PublicationStore ε)

/-- `mapVersion`: the record of a version in a given state. -/
def mapVersion (row : PublicationRow) (state : AssetVersionState) :
    Except RegistryError (CanonicalVersionRecord ε) := do
  let evidence ← store.mapEvidence row.version
  return {
    assetId := row.version.assetId
    evidence
    detectedContentType := row.version.detectedContentType
    lifecycleState :=
      if state = .published then .published else if state = .processing then .processing
      else .canonical
    serviceNamespaceId := row.serviceNamespaceId
    sourceByteLength := row.version.sourceByteLength
    sourceChecksumValue := row.version.sourceChecksumValue
    sourceFilename := row.version.sourceFilename
    versionId := row.version.id
    versionNumber := row.version.versionNumber }

/-- The version states from which a publication begins. -/
def acceptsBegin : AssetVersionState → Bool
  | .canonical | .processing | .published => true
  | _ => false

/-- The version states in which derivatives are published. -/
def acceptsPublish : AssetVersionState → Bool
  | .processing | .published => true
  | _ => false

/-- The write of a begin: a version that is not yet processing becomes so. -/
def startProcessing (version : AssetVersion) (db : Db) : Except RegistryError Db :=
  if version.lifecycleState = .processing then .ok db
  else db.updateAssetVersion version.id fun r => r.moveTo .processing

/-- The transaction that begins a publication. -/
def begin (versionId : String) : Transaction (CanonicalVersionRecord ε) := fun db =>
  match db.findPublicationVersion versionId with
  | none => .error (store.notFound versionId)
  | some row =>
      if acceptsBegin row.version.lifecycleState then do
        let db ← startProcessing row.version db
        let record ← store.mapVersion row .processing
        return (record, db)
      else .error (store.stateError versionId row.version.lifecycleState.text "begin processing")

/-- The metadata column of a derivative. -/
def metadataColumn (rt : Runtime) (derivative : PublishedDerivativeRecord) : Json :=
  if store.writesMetadata then
    (derivative.metadata.map fun m => toJsonValue rt (.object m)).getD .null
  else .null

/-- The row that a publication creates for a derivative. -/
def derivativeRow (rt : Runtime) (versionId : String) (derivative : PublishedDerivativeRecord) :
    Derivative where
  assetVersionId := versionId
  deliveryScopeId := derivative.deliveryScopeId
  recipeId := derivative.recipeId
  schemaVersion := derivative.schemaVersion
  variantKey := derivative.variantKey
  deterministicKey := derivative.deterministicKey
  storageBucket := some derivative.storageBucket
  storageKey := some derivative.storageKey
  contentType := derivative.contentType
  byteLength := derivative.byteLength
  checksumValue := some derivative.checksumValue
  publicationState := .published
  metadata := store.metadataColumn rt derivative
  publishedAt := some derivative.publishedAt

/-- Write the row of one derivative. A store that does not handle metadata leaves the
column of an existing row as it is. -/
def upsertDerivative (rt : Runtime) (versionId : String) (db : Db)
    (derivative : PublishedDerivativeRecord) : Except RegistryError Db :=
  let row := store.derivativeRow rt versionId derivative
  db.upsertDerivative row fun r =>
    { r with
      byteLength := row.byteLength
      checksumValue := row.checksumValue
      contentType := row.contentType
      deterministicKey := row.deterministicKey
      metadata := if store.writesMetadata then row.metadata else r.metadata
      publicationState := .published
      publishedAt := row.publishedAt
      storageBucket := row.storageBucket
      storageKey := row.storageKey }

/-- Write the rows of the derivatives of a publication, in order. -/
def upsertDerivatives (rt : Runtime) (versionId : String) :
    List PublishedDerivativeRecord → Db → Except RegistryError Db
  | [], db => .ok db
  | derivative :: derivatives, db =>
      store.upsertDerivative rt versionId db derivative >>=
        upsertDerivatives rt versionId derivatives

/-- The row of the manifest of a publication. -/
def manifestRow (rt : Runtime) (versionId deliveryScopeId : String)
    (manifest : PublishedManifestRecord) : AssetManifest where
  assetVersionId := versionId
  deliveryScopeId
  manifestType := manifest.manifestType
  schemaVersion := manifest.schemaVersion
  publicationState := .published
  objectKey := manifest.objectKey
  checksumValue := some manifest.checksumValue
  manifestPayload := toJsonValue rt manifest.manifestPayload
  publishedAt := some manifest.publishedAt

/-- Write the row of the manifest of a publication. -/
def upsertManifest (rt : Runtime) (versionId deliveryScopeId : String)
    (manifest : PublishedManifestRecord) (db : Db) : Except RegistryError Db :=
  let row := manifestRow rt versionId deliveryScopeId manifest
  db.upsertAssetManifest row fun r =>
    { r with
      checksumValue := row.checksumValue
      manifestPayload := row.manifestPayload
      objectKey := row.objectKey
      publicationState := .published
      publishedAt := row.publishedAt
      schemaVersion := row.schemaVersion }

/-- The transaction that publishes the derivatives and the manifest of a delivery
scope. -/
def publish (rt : Runtime) (versionId deliveryScopeId : String)
    (derivatives : List PublishedDerivativeRecord) (manifest : PublishedManifestRecord) :
    Transaction (CanonicalVersionRecord ε) := fun db =>
  match db.findPublicationVersion versionId with
  | none => .error (store.notFound versionId)
  | some row =>
      if acceptsPublish row.version.lifecycleState then
        if db.deliveryScopes.rows.any fun s =>
          s.id == deliveryScopeId && s.availableTo row.asset then do
          let db ← store.upsertDerivatives rt versionId derivatives db
          let db ← upsertManifest rt versionId deliveryScopeId manifest db
          let db ← db.updateAssetVersion versionId fun r => r.moveTo .published
          let record ← store.mapVersion row .published
          return (record, db)
        else
          .error (.plain ("Delivery scope " ++ quoted deliveryScopeId ++ " is not available for " ++
            store.subject ++ " " ++ quoted versionId ++ "."))
      else .error (store.stateError versionId row.version.lifecycleState.text "publish derivatives")

end PublicationStore

def beginGenericAssetPublication := genericAssetPublicationStore.begin

def beginImagePublication := imagePublicationStore.begin

def beginPresentationPublication := presentationPublicationStore.begin

def publishGenericAssetVersion := genericAssetPublicationStore.publish

def publishImageVersion := imagePublicationStore.publish

def publishPresentationVersion := presentationPublicationStore.publish

/-! ### Publication targets -/

structure PublicationTargetRecord where
  deliveryScopeId : String
  scopeKey : String
  deriving DecidableEq, Repr

/-- The order of the publication targets: by scope key, then by id. -/
def DeliveryScope.before (rt : Runtime) (a b : DeliveryScope) : Bool :=
  match rt.databaseCompare a.scopeKey b.scopeKey with
  | .lt => true
  | .gt => false
  | .eq => (rt.databaseCompare a.id b.id).isLE

/-- The delivery scopes that a version is published to. -/
def listPublicationTargets (rt : Runtime) (db : Db) (versionId : String) :
    List PublicationTargetRecord :=
  match (db.version? versionId).bind fun version => db.asset? version.assetId with
  | none => []
  | some asset =>
      (sortBy (DeliveryScope.before rt)
        (db.deliveryScopes.rows.filter fun s => s.availableTo asset)).map
          fun s => ⟨s.id, s.scopeKey⟩

/-! ### The execution store -/

structure MarkWorkflowExecutionRunningInput where
  assetVersionId : String
  currentPhase : Option String := none
  dispatchId : Option String := none
  observedAt : Instant
  workflowId : String
  workflowTemplateId : String
  deriving DecidableEq, Repr

structure MarkWorkflowExecutionCompletedInput where
  assetVersionId : String
  completedAt : Instant
  currentPhase : Option String := none
  workflowId : String
  workflowTemplateId : String
  deriving DecidableEq, Repr

structure MarkWorkflowExecutionFailedInput where
  assetVersionId : String
  currentPhase : Option String := none
  failedAt : Instant
  failureClass : String
  retrySummary : Option (List (String × JsValue)) := none
  workflowId : String
  workflowTemplateId : String

/-- The audit event of an execution transition. -/
def executionEvent (assetVersionId workflowId eventType : String) (payload : Json) :
    AuditEvent where
  assetVersionId := some assetVersionId
  actorType := .system
  eventType
  correlationId := some workflowId
  payload

/-- The run that `markRunning` creates. -/
def MarkWorkflowExecutionRunningInput.createdRun (input : MarkWorkflowExecutionRunningInput) :
    WorkflowRun where
  assetVersionId := input.assetVersionId
  workflowDispatchId := input.dispatchId
  workflowId := input.workflowId
  workflowTemplateId := input.workflowTemplateId
  state := .running
  currentPhase := input.currentPhase
  startedAt := some input.observedAt
  updatedAt := input.observedAt

/-- An existing run after `markRunning`. -/
def MarkWorkflowExecutionRunningInput.updatedRun (input : MarkWorkflowExecutionRunningInput)
    (run : WorkflowRun) : WorkflowRun :=
  { run with
    assetVersionId := input.assetVersionId
    currentPhase := input.currentPhase
    startedAt := some input.observedAt
    state := .running
    updatedAt := input.observedAt
    workflowDispatchId := input.dispatchId
    workflowTemplateId := input.workflowTemplateId }

def markRunning (input : MarkWorkflowExecutionRunningInput) : Transaction Unit := fun db => do
  let db ← db.upsertWorkflowRun input.createdRun input.updatedRun
  let db ← db.createAuditEvent (executionEvent input.assetVersionId input.workflowId
    "workflow-run-running"
    (.object
      [("currentPhase", .string (input.currentPhase.getD "running")),
        ("workflowId", .string input.workflowId),
        ("workflowTemplateId", .string input.workflowTemplateId)]))
  return ((), db)

/-- The run that `markCompleted` creates. -/
def MarkWorkflowExecutionCompletedInput.createdRun (input : MarkWorkflowExecutionCompletedInput) :
    WorkflowRun where
  assetVersionId := input.assetVersionId
  workflowId := input.workflowId
  workflowTemplateId := input.workflowTemplateId
  state := .completed
  currentPhase := input.currentPhase
  startedAt := some input.completedAt
  completedAt := some input.completedAt
  updatedAt := input.completedAt

/-- An existing run after `markCompleted`. -/
def MarkWorkflowExecutionCompletedInput.updatedRun (input : MarkWorkflowExecutionCompletedInput)
    (run : WorkflowRun) : WorkflowRun :=
  { run with
    assetVersionId := input.assetVersionId
    completedAt := some input.completedAt
    currentPhase := input.currentPhase
    state := .completed
    updatedAt := input.completedAt
    workflowTemplateId := input.workflowTemplateId }

def markCompleted (input : MarkWorkflowExecutionCompletedInput) : Transaction Unit := fun db => do
  let db ← db.upsertWorkflowRun input.createdRun input.updatedRun
  let db ← db.createAuditEvent (executionEvent input.assetVersionId input.workflowId
    "workflow-run-completed"
    (.object
      [("currentPhase", .string (input.currentPhase.getD "completed")),
        ("workflowId", .string input.workflowId),
        ("workflowTemplateId", .string input.workflowTemplateId)]))
  return ((), db)

/-- The retry-summary column of a failed run. -/
def retrySummaryColumn (rt : Runtime) (input : MarkWorkflowExecutionFailedInput) : Json :=
  (input.retrySummary.map fun s => toJsonValue rt (.object s)).getD .null

/-- The run that `markFailedRetryable` creates. -/
def MarkWorkflowExecutionFailedInput.createdRun (rt : Runtime)
    (input : MarkWorkflowExecutionFailedInput) : WorkflowRun where
  assetVersionId := input.assetVersionId
  workflowId := input.workflowId
  workflowTemplateId := input.workflowTemplateId
  state := .failed
  currentPhase := input.currentPhase
  retrySummary := retrySummaryColumn rt input
  startedAt := some input.failedAt
  completedAt := some input.failedAt
  updatedAt := input.failedAt

/-- An existing run after `markFailedRetryable`. -/
def MarkWorkflowExecutionFailedInput.updatedRun (rt : Runtime)
    (input : MarkWorkflowExecutionFailedInput) (run : WorkflowRun) : WorkflowRun :=
  { run with
    assetVersionId := input.assetVersionId
    completedAt := some input.failedAt
    currentPhase := input.currentPhase
    retrySummary := retrySummaryColumn rt input
    state := .failed
    updatedAt := input.failedAt
    workflowTemplateId := input.workflowTemplateId }

def markFailedRetryable (rt : Runtime) (input : MarkWorkflowExecutionFailedInput) :
    Transaction Unit := fun db => do
  let db ← db.updateAssetVersion input.assetVersionId fun r => r.moveTo .failedRetryable
  let db ← db.upsertWorkflowRun (input.createdRun rt) (input.updatedRun rt)
  let db ← db.createAuditEvent (executionEvent input.assetVersionId input.workflowId
    "workflow-run-failed"
    (toJsonValue rt (.object
      [("currentPhase", .string (input.currentPhase.getD "failed")),
        ("failureClass", .string input.failureClass),
        ("retrySummary", .object (input.retrySummary.getD [])),
        ("workflowId", .string input.workflowId),
        ("workflowTemplateId", .string input.workflowTemplateId)])))
  return ((), db)

/-! ### What the transactions do to the versions -/

/-- Only the lifecycle state of one version, and rows of neither versions nor dispatches,
differ between two databases. -/
structure Db.VersionMoved (db db' : Db) (id : String) (state : AssetVersionState) : Prop where
  version? : ∀ x, db'.version? x = (db.version? x).map fun v => if x = id then v.moveTo state else v
  dispatches : db'.workflowDispatches = db.workflowDispatches

theorem AssetVersion.moveTo_self {v : AssetVersion} {state : AssetVersionState}
    (h : v.lifecycleState = state) : v.moveTo state = v := by
  subst h
  rfl

theorem Db.updateAssetVersion_moved {db db' : Db} {id : String} {state : AssetVersionState}
    (h : db.updateAssetVersion id (fun r => r.moveTo state) = .ok db') :
    db.VersionMoved db' id state where
  version? := Db.version?_updateAssetVersion h fun _ => rfl
  dispatches := by
    obtain ⟨t, -, rfl⟩ := write_eq_ok.mp h
    rfl

/-- The version row of a joined publication row is the one its id finds. -/
theorem Db.findPublicationVersion_version? {db : Db} {id : String} {row : PublicationRow}
    (h : db.findPublicationVersion id = some row) : db.version? id = some row.version := by
  simp only [findPublicationVersion, Option.bind_eq_bind, Option.bind_eq_some_iff,
    Option.some.injEq] at h
  obtain ⟨v, hv, a, -, ns, -, rfl⟩ := h
  exact hv

namespace PublicationStore

variable {ε : Type} {store : PublicationStore ε}

theorem acceptsBegin_iff {s : AssetVersionState} :
    acceptsBegin s = true ↔ s = .canonical ∨ s = .processing ∨ s = .published := by
  cases s <;> simp [acceptsBegin]

theorem acceptsPublish_iff {s : AssetVersionState} :
    acceptsPublish s = true ↔ s = .processing ∨ s = .published := by
  cases s <;> simp [acceptsPublish]

/-- **Inversion of a begin.** -/
theorem begin_cases {versionId : String} {db db' : Db} {record : CanonicalVersionRecord ε}
    (h : store.begin versionId db = .ok (record, db')) :
    ∃ row, db.findPublicationVersion versionId = some row ∧
      acceptsBegin row.version.lifecycleState = true ∧
      startProcessing row.version db = .ok db' ∧
      store.mapVersion row .processing = .ok record := by
  unfold begin at h
  split at h
  · cases h
  · rename_i row hrow
    split at h
    · rename_i haccepts
      obtain ⟨db₁, hdb, h⟩ := bind_eq_ok.mp h
      obtain ⟨record', hrecord, h⟩ := bind_eq_ok.mp h
      obtain ⟨rfl, rfl⟩ := Prod.mk.inj (Except.ok.inj h)
      exact ⟨row, hrow, haccepts, hdb, hrecord⟩
    · cases h

theorem startProcessing_moved {v : AssetVersion} {db db' : Db} (hv : db.version? v.id = some v)
    (h : startProcessing v db = .ok db') : db.VersionMoved db' v.id .processing := by
  unfold startProcessing at h
  split at h
  · rename_i hprocessing
    obtain rfl := Except.ok.inj h
    refine ⟨fun x => ?_, rfl⟩
    by_cases hx : x = v.id
    · subst hx
      simp only [hv, Option.map_some, if_true, AssetVersion.moveTo_self hprocessing]
    · simp only [if_neg hx, Option.map_id']
  · exact Db.updateAssetVersion_moved h

/-- A begin moves its version to `processing`. -/
theorem begin_moved {versionId : String} {db db' : Db} {record : CanonicalVersionRecord ε}
    (h : store.begin versionId db = .ok (record, db')) :
    (∃ v, db.version? versionId = some v ∧ acceptsBegin v.lifecycleState = true) ∧
      db.VersionMoved db' versionId .processing := by
  obtain ⟨row, hrow, haccepts, hdb, -⟩ := begin_cases h
  have hv := Db.findPublicationVersion_version? hrow
  obtain rfl := (Db.version?_eq_some_iff.mp hv).2
  exact ⟨⟨row.version, hv, haccepts⟩, startProcessing_moved hv hdb⟩

theorem upsertDerivatives_frame {rt : Runtime} {versionId : String}
    {derivatives : List PublishedDerivativeRecord} {db db' : Db}
    (h : store.upsertDerivatives rt versionId derivatives db = .ok db') :
    ∃ t, db' = { db with derivatives := t } := by
  induction derivatives generalizing db with
  | nil => exact ⟨db.derivatives, (Except.ok.inj h).symm⟩
  | cons d ds ih =>
      obtain ⟨db₁, h₁, h₂⟩ := bind_eq_ok.mp h
      obtain ⟨t₁, -, rfl⟩ := write_eq_ok.mp h₁
      obtain ⟨t, rfl⟩ := ih h₂
      exact ⟨t, rfl⟩

/-- **Inversion of a publication.** -/
theorem publish_cases {rt : Runtime} {versionId deliveryScopeId : String}
    {derivatives : List PublishedDerivativeRecord} {manifest : PublishedManifestRecord}
    {db db' : Db} {record : CanonicalVersionRecord ε}
    (h : store.publish rt versionId deliveryScopeId derivatives manifest db = .ok (record, db')) :
    ∃ row, db.findPublicationVersion versionId = some row ∧
      acceptsPublish row.version.lifecycleState = true ∧
      (∃ s ∈ db.deliveryScopes.rows, s.id = deliveryScopeId ∧ s.availableTo row.asset = true) ∧
      store.mapVersion row .published = .ok record ∧
      ∃ db₁ db₂, store.upsertDerivatives rt versionId derivatives db = .ok db₁ ∧
        upsertManifest rt versionId deliveryScopeId manifest db₁ = .ok db₂ ∧
        db₂.updateAssetVersion versionId (fun r => r.moveTo .published) = .ok db' := by
  unfold publish at h
  split at h
  · cases h
  · rename_i row hrow
    split at h
    · rename_i haccepts
      split at h
      · rename_i hscope
        obtain ⟨db₁, h₁, h⟩ := bind_eq_ok.mp h
        obtain ⟨db₂, h₂, h⟩ := bind_eq_ok.mp h
        obtain ⟨db₃, h₃, h⟩ := bind_eq_ok.mp h
        obtain ⟨record', hrecord, h⟩ := bind_eq_ok.mp h
        obtain ⟨rfl, rfl⟩ := Prod.mk.inj (Except.ok.inj h)
        obtain ⟨s, hs, hsel⟩ := List.any_eq_true.mp hscope
        simp only [Bool.and_eq_true, beq_iff_eq] at hsel
        exact ⟨row, hrow, haccepts, ⟨s, hs, hsel.1, hsel.2⟩, hrecord, db₁, db₂, h₁, h₂, h₃⟩
      · cases h
    · cases h

/-- A publication moves its version to `published`. -/
theorem publish_moved {rt : Runtime} {versionId deliveryScopeId : String}
    {derivatives : List PublishedDerivativeRecord} {manifest : PublishedManifestRecord}
    {db db' : Db} {record : CanonicalVersionRecord ε}
    (h : store.publish rt versionId deliveryScopeId derivatives manifest db = .ok (record, db')) :
    (∃ v, db.version? versionId = some v ∧ acceptsPublish v.lifecycleState = true) ∧
      db.VersionMoved db' versionId .published := by
  obtain ⟨row, hrow, haccepts, -, -, db₁, db₂, h₁, h₂, h₃⟩ := publish_cases h
  refine ⟨⟨row.version, Db.findPublicationVersion_version? hrow, haccepts⟩, ?_⟩
  obtain ⟨t₁, rfl⟩ := upsertDerivatives_frame h₁
  obtain ⟨t₂, -, rfl⟩ := write_eq_ok.mp h₂
  have hmoved := Db.updateAssetVersion_moved h₃
  exact ⟨hmoved.version?, hmoved.dispatches⟩

end PublicationStore

/-- The record of a run and its audit event leave the versions and the dispatches. -/
theorem recordRun_frame {row : WorkflowRun} {data : WorkflowRun → WorkflowRun} {event : AuditEvent}
    {db db' : Db} {u : Unit}
    (h : (do
      let db ← db.upsertWorkflowRun row data
      let db ← db.createAuditEvent event
      return ((), db)) = Except.ok (u, db')) :
    db'.assetVersions = db.assetVersions ∧ db'.workflowDispatches = db.workflowDispatches := by
  obtain ⟨db₁, h₁, h⟩ := bind_eq_ok.mp h
  obtain ⟨db₂, h₂, h⟩ := bind_eq_ok.mp h
  obtain ⟨-, rfl⟩ := Prod.mk.inj (Except.ok.inj h)
  obtain ⟨t₁, -, rfl⟩ := write_eq_ok.mp h₁
  obtain ⟨t₂, -, rfl⟩ := write_eq_ok.mp h₂
  exact ⟨rfl, rfl⟩

/-- `markFailedRetryable` moves its version to `failed_retryable` from any state. -/
theorem markFailedRetryable_moved {rt : Runtime} {input : MarkWorkflowExecutionFailedInput}
    {db db' : Db} {u : Unit} (h : markFailedRetryable rt input db = .ok (u, db')) :
    (db.version? input.assetVersionId).isSome ∧
      db.VersionMoved db' input.assetVersionId .failedRetryable := by
  obtain ⟨db₁, h₁, h⟩ := bind_eq_ok.mp h
  obtain ⟨db₂, h₂, h⟩ := bind_eq_ok.mp h
  obtain ⟨db₃, h₃, h⟩ := bind_eq_ok.mp h
  obtain ⟨-, rfl⟩ := Prod.mk.inj (Except.ok.inj h)
  have hmoved := Db.updateAssetVersion_moved h₁
  have hsome : (db.version? input.assetVersionId).isSome := by
    obtain ⟨t, ht, -⟩ := write_eq_ok.mp h₁
    obtain ⟨⟨v, hv, hid⟩, -⟩ := Table.update_eq_ok_iff.mp ht
    have hfound : db.version? input.assetVersionId = some v :=
      Db.version?_eq_some_iff.mpr ⟨hv, by simpa using hid⟩
    rw [hfound]
    rfl
  obtain ⟨t₂, -, rfl⟩ := write_eq_ok.mp h₂
  obtain ⟨t₃, -, rfl⟩ := write_eq_ok.mp h₃
  exact ⟨hsome, hmoved.version?, hmoved.dispatches⟩

/-! ### Success of the execution store

The rows that its foreign keys refer to are taken to exist. -/

theorem markRunning_ok (input : MarkWorkflowExecutionRunningInput) (db : Db) :
    ∃ db', markRunning input db = .ok ((), db') := by
  obtain ⟨db₁, h₁⟩ := db.upsertWorkflowRun_ok input.createdRun (f := input.updatedRun) fun _ => rfl
  obtain ⟨db₂, h₂⟩ := db₁.createAuditEvent_ok _
  exact ⟨db₂, bind_eq_ok.mpr ⟨db₁, h₁, bind_eq_ok.mpr ⟨db₂, h₂, rfl⟩⟩⟩

theorem markCompleted_ok (input : MarkWorkflowExecutionCompletedInput) (db : Db) :
    ∃ db', markCompleted input db = .ok ((), db') := by
  obtain ⟨db₁, h₁⟩ := db.upsertWorkflowRun_ok input.createdRun (f := input.updatedRun) fun _ => rfl
  obtain ⟨db₂, h₂⟩ := db₁.createAuditEvent_ok _
  exact ⟨db₂, bind_eq_ok.mpr ⟨db₁, h₁, bind_eq_ok.mpr ⟨db₂, h₂, rfl⟩⟩⟩

/-- `markFailedRetryable` succeeds on every version, whatever its state. -/
theorem markFailedRetryable_ok (rt : Runtime) (input : MarkWorkflowExecutionFailedInput) {db : Db}
    {v : AssetVersion} (hv : db.version? input.assetVersionId = some v) :
    ∃ db', markFailedRetryable rt input db = .ok ((), db') := by
  obtain ⟨db₁, h₁⟩ := Db.updateAssetVersion_ok hv (f := fun r => r.moveTo .failedRetryable)
    fun _ _ => rfl
  obtain ⟨db₂, h₂⟩ := db₁.upsertWorkflowRun_ok (input.createdRun rt) (f := input.updatedRun rt)
    fun _ => rfl
  obtain ⟨db₃, h₃⟩ := db₂.createAuditEvent_ok _
  exact ⟨db₃, bind_eq_ok.mpr ⟨db₁, h₁, bind_eq_ok.mpr ⟨db₂, h₂, bind_eq_ok.mpr ⟨db₃, h₃, rfl⟩⟩⟩⟩

/-! ### The derivative rows of a publication -/

/-- The slot of a derivative of a version. -/
def PublishedDerivativeRecord.slot (derivative : PublishedDerivativeRecord) (versionId : String) :
    DerivativeSlot :=
  (versionId, derivative.deliveryScopeId, derivative.recipeId, derivative.schemaVersion,
    derivative.variantKey)

/-- The deterministic key of a derivative of a version, with its slot. -/
def PublishedDerivativeRecord.place (versionId : String) (derivative : PublishedDerivativeRecord) :
    String × DerivativeSlot :=
  (derivative.deterministicKey, derivative.slot versionId)

/-- Deterministic keys are free for their slots: a row that holds one of them has its
slot, or the slot of one written before it. -/
def KeysFree (db : Db) (places : List (String × DerivativeSlot)) : Prop :=
  ∀ before key slot after, places = before ++ (key, slot) :: after →
    ∀ x ∈ db.derivatives.rows, x.deterministicKey = key →
      x.slot = slot ∨ ∃ place ∈ before, x.slot = place.2

/-- No deterministic key is free for another slot than the one of its row. -/
theorem KeysFree.slot_eq {db : Db} {key : String} {slot : DerivativeSlot}
    {places : List (String × DerivativeSlot)} (h : KeysFree db ((key, slot) :: places))
    {x : Derivative} (hx : x ∈ db.derivatives.rows) (hkey : x.deterministicKey = key) :
    x.slot = slot :=
  (h [] key slot places rfl x hx hkey).resolve_right (by simp)

/-- Keys without a row are free. -/
theorem KeysFree.of_rows_nil {db : Db} (h : db.derivatives.rows = [])
    (places : List (String × DerivativeSlot)) : KeysFree db places := by
  intro before key slot after _ x hx
  rw [h] at hx
  cases hx

namespace PublicationStore

variable {ε : Type} {store : PublicationStore ε} {rt : Runtime} {versionId : String}

/-- The row of a derivative can be written exactly when no row of another slot holds its
deterministic key. -/
theorem upsertDerivative_ok_iff (store : PublicationStore ε) (rt : Runtime) {db : Db}
    {derivative : PublishedDerivativeRecord} :
    (∃ db', store.upsertDerivative rt versionId db derivative = .ok db') ↔
      ∀ x ∈ db.derivatives.rows, x.deterministicKey = derivative.deterministicKey →
        x.slot = derivative.slot versionId := by
  have hwrite : ∀ {f : Derivative → Derivative},
      (∃ db', db.upsertDerivative (store.derivativeRow rt versionId derivative) f = .ok db') ↔
        ∃ t, db.derivatives.upsert (fun r => r.slot == derivative.slot versionId) f
          (store.derivativeRow rt versionId derivative) = .ok t := by
    intro f
    constructor
    · rintro ⟨db', h⟩
      obtain ⟨t, ht, -⟩ := write_eq_ok.mp h
      exact ⟨t, ht⟩
    · rintro ⟨t, ht⟩
      exact ⟨_, write_eq_ok.mpr ⟨t, ht, rfl⟩⟩
  rw [upsertDerivative, hwrite]
  unfold Table.upsert
  split
  · rename_i hany
    obtain ⟨r, hr, hslot⟩ := List.any_eq_true.mp hany
    have hkey : Table.IsKey fun r : Derivative => r.slot == derivative.slot versionId := by
      intro a b ha hb
      simp [clash, eq_of_beq ha, eq_of_beq hb]
    rw [Table.exists_update_iff hkey]
    constructor
    · rintro ⟨r', hr', hslot', hfree⟩ x hx hsame
      by_contra hne
      have hx' := hfree x hx (by simpa using hne)
      simp [clash, sameKey, derivativeRow, hsame] at hx'
    · intro hfree
      refine ⟨r, hr, hslot, fun x hx hne => ?_⟩
      have hslot' : r.slot = derivative.slot versionId := eq_of_beq hslot
      have hne' : x.slot ≠ derivative.slot versionId := by simpa using hne
      simp only [clash, sameKey, Bool.or_eq_false_iff, decide_eq_false_iff_not]
      exact ⟨fun hsame => hne' (hfree x hx hsame.symm), fun hsame => hne' (hsame.symm.trans hslot')⟩
  · rename_i hany
    rw [Table.exists_insert_iff]
    have hne : ∀ x ∈ db.derivatives.rows, x.slot ≠ derivative.slot versionId := by
      intro x hx hsame
      exact hany (List.any_eq_true.mpr ⟨x, hx, by simpa using hsame⟩)
    constructor
    · intro hfree x hx hsame
      have hx' := hfree x hx
      simp [clash, sameKey, derivativeRow, hsame] at hx'
    · intro hfree x hx
      simp only [clash, sameKey, Bool.or_eq_false_iff, decide_eq_false_iff_not]
      exact ⟨fun hsame => hne x hx (hfree x hx hsame), hne x hx⟩

/-- The rows after the row of a derivative was written: the rows of the other slots, and
one of its slot that holds its deterministic key. -/
theorem upsertDerivative_rows {db db' : Db} {derivative : PublishedDerivativeRecord}
    (h : store.upsertDerivative rt versionId db derivative = .ok db') :
    (∀ x, x.slot ≠ derivative.slot versionId →
      (x ∈ db'.derivatives.rows ↔ x ∈ db.derivatives.rows)) ∧
    (∀ x ∈ db'.derivatives.rows, x.slot = derivative.slot versionId →
      x.deterministicKey = derivative.deterministicKey) ∧
    ∃ x ∈ db'.derivatives.rows, x.slot = derivative.slot versionId := by
  obtain ⟨t, ht, rfl⟩ := write_eq_ok.mp h
  rcases Table.upsert_eq_ok_iff.mp ht with ⟨⟨r, hr, hslot⟩, hrows⟩ | ⟨hnone, -, hrows⟩
  · have hslot' : r.slot = derivative.slot versionId := eq_of_beq hslot
    refine ⟨fun x hne => ?_, fun x hx hsame => ?_, ?_⟩
    · simp only [hrows, Table.mem_updatedRows]
      constructor
      · rintro (⟨y, -, hy, rfl⟩ | ⟨hx, -⟩)
        · exact absurd (eq_of_beq hy) hne
        · exact hx
      · exact fun hx => Or.inr ⟨hx, beq_eq_false_iff_ne.mpr hne⟩
    · simp only [hrows, Table.mem_updatedRows] at hx
      rcases hx with ⟨y, -, -, rfl⟩ | ⟨-, hne⟩
      · rfl
      · exact absurd hsame (beq_eq_false_iff_ne.mp hne)
    · simp only [hrows, Table.mem_updatedRows]
      exact ⟨_, Or.inl ⟨r, hr, hslot, rfl⟩, hslot'⟩
  · refine ⟨fun x hne => ?_, fun x hx hsame => ?_, ?_⟩
    · simp only [hrows, List.mem_append, List.mem_singleton]
      constructor
      · rintro (hx | rfl)
        · exact hx
        · exact absurd rfl hne
      · exact Or.inl
    · simp only [hrows, List.mem_append, List.mem_singleton] at hx
      rcases hx with hx | rfl
      · exact absurd hsame (beq_eq_false_iff_ne.mp (hnone x hx))
      · rfl
    · exact ⟨_, by rw [hrows]; exact List.mem_append_right _ (List.mem_singleton_self _), rfl⟩

/-- **The derivative rows of a publication can be written** exactly when its keys are
free, as long as derivatives with one key have one slot. -/
theorem upsertDerivatives_ok_iff {derivatives : List PublishedDerivativeRecord} {db : Db}
    (hkeys : ∀ d ∈ derivatives, ∀ d' ∈ derivatives, d.deterministicKey = d'.deterministicKey →
      d.slot versionId = d'.slot versionId) :
    (∃ db', store.upsertDerivatives rt versionId derivatives db = .ok db') ↔
      KeysFree db (derivatives.map (·.place versionId)) := by
  induction derivatives generalizing db with
  | nil =>
      refine ⟨fun _ before key slot after heq => ?_, fun _ => ⟨db, rfl⟩⟩
      simp at heq
  | cons d ds ih =>
      have ih' := fun db₁ : Db => @ih db₁ fun x hx y hy =>
        hkeys x (List.mem_cons_of_mem _ hx) y (List.mem_cons_of_mem _ hy)
      have hsplit : (∃ db', store.upsertDerivatives rt versionId (d :: ds) db = .ok db') ↔
          ∃ db₁, store.upsertDerivative rt versionId db d = .ok db₁ ∧
            KeysFree db₁ (ds.map (·.place versionId)) := by
        simp only [upsertDerivatives, bind_eq_ok]
        constructor
        · rintro ⟨db', db₁, h₁, h₂⟩
          exact ⟨db₁, h₁, (ih' db₁).mp ⟨db', h₂⟩⟩
        · rintro ⟨db₁, h₁, hfree⟩
          obtain ⟨db', h₂⟩ := (ih' db₁).mpr hfree
          exact ⟨db', db₁, h₁, h₂⟩
      rw [hsplit, List.map_cons]
      constructor
      · rintro ⟨db₁, h₁, hfree⟩ before key slot after heq x hx hsame
        cases before with
        | nil =>
            obtain ⟨hplace, -⟩ := List.cons.inj heq
            obtain ⟨rfl, rfl⟩ := Prod.mk.inj hplace
            exact Or.inl ((upsertDerivative_ok_iff store rt).mp ⟨db₁, h₁⟩ x hx hsame)
        | cons p before =>
            obtain ⟨rfl, hrest⟩ := List.cons.inj heq
            by_cases hslot : x.slot = d.slot versionId
            · exact Or.inr ⟨d.place versionId, List.mem_cons_self, hslot⟩
            · have hx₁ := ((upsertDerivative_rows h₁).1 x hslot).mpr hx
              exact (hfree before key slot after hrest x hx₁ hsame).imp_right
                fun ⟨q, hq, heq⟩ => ⟨q, List.mem_cons_of_mem _ hq, heq⟩
      · intro hfree
        obtain ⟨db₁, h₁⟩ := (upsertDerivative_ok_iff store rt).mpr
          fun x hx hsame => hfree.slot_eq hx hsame
        refine ⟨db₁, h₁, fun before key slot after heq x hx hsame => ?_⟩
        by_cases hslot : x.slot = d.slot versionId
        · -- the row that was just written holds the key of a later derivative: one slot
          have hkey := (upsertDerivative_rows h₁).2.1 x hx hslot
          have hplace : (key, slot) ∈ ds.map (·.place versionId) := by
            rw [heq]
            simp
          obtain ⟨d', hd', heq'⟩ := List.mem_map.mp hplace
          obtain ⟨rfl, rfl⟩ := Prod.mk.inj heq'
          exact Or.inl (hslot.trans (hkeys d List.mem_cons_self d' (List.mem_cons_of_mem _ hd')
            (hkey.symm.trans hsame)))
        · have hx₀ := ((upsertDerivative_rows h₁).1 x hslot).mp hx
          rcases hfree (d.place versionId :: before) key slot after
            (by rw [heq]; rfl) x hx₀ hsame with
            hown | ⟨p, hp, hpslot⟩
          · exact Or.inl hown
          · rcases List.mem_cons.mp hp with rfl | hp
            · exact absurd hpslot hslot
            · exact Or.inr ⟨p, hp, hpslot⟩

/-- The rows that no derivative of a publication has the slot of stay as they are. -/
theorem upsertDerivatives_rows {derivatives : List PublishedDerivativeRecord} {db db' : Db}
    (h : store.upsertDerivatives rt versionId derivatives db = .ok db') {x : Derivative}
    (hx : ∀ d ∈ derivatives, x.slot ≠ d.slot versionId) :
    x ∈ db'.derivatives.rows ↔ x ∈ db.derivatives.rows := by
  induction derivatives generalizing db with
  | nil =>
      obtain rfl := Except.ok.inj h
      exact Iff.rfl
  | cons d ds ih =>
      obtain ⟨db₁, h₁, h₂⟩ := bind_eq_ok.mp h
      have hds := ih h₂ fun y hy => hx y (List.mem_cons_of_mem _ hy)
      exact hds.trans ((upsertDerivative_rows h₁).1 x (hx d List.mem_cons_self))

/-- Every derivative of a publication has a row of its slot that holds its deterministic
key, as long as derivatives with one slot have one key. -/
theorem upsertDerivatives_written {derivatives : List PublishedDerivativeRecord} {db db' : Db}
    (h : store.upsertDerivatives rt versionId derivatives db = .ok db')
    (hslots : ∀ d ∈ derivatives, ∀ d' ∈ derivatives, d.slot versionId = d'.slot versionId →
      d.deterministicKey = d'.deterministicKey) :
    ∀ d ∈ derivatives, ∃ x ∈ db'.derivatives.rows, x.slot = d.slot versionId ∧
      x.deterministicKey = d.deterministicKey := by
  -- a row that a derivative has written stays, under its slot and key, to the end
  have hkeeps : ∀ (ds : List PublishedDerivativeRecord) (db : Db),
      store.upsertDerivatives rt versionId ds db = .ok db' → ds ⊆ derivatives →
      ∀ d ∈ derivatives, (∃ x ∈ db.derivatives.rows, x.slot = d.slot versionId ∧
        x.deterministicKey = d.deterministicKey) → ∃ x ∈ db'.derivatives.rows,
          x.slot = d.slot versionId ∧ x.deterministicKey = d.deterministicKey := by
    intro ds
    induction ds with
    | nil =>
        rintro db h - d - hx
        obtain rfl := Except.ok.inj h
        exact hx
    | cons e es ih =>
        rintro db h hsub d hd ⟨x, hx, hslot, hkey⟩
        obtain ⟨db₁, h₁, h₂⟩ := bind_eq_ok.mp h
        obtain ⟨hother, hown, y, hy, hyslot⟩ := upsertDerivative_rows h₁
        refine ih db₁ h₂ (List.subset_of_cons_subset hsub) d hd ?_
        by_cases hsame : d.slot versionId = e.slot versionId
        · have he := hslots d hd e (hsub List.mem_cons_self) hsame
          exact ⟨y, hy, hyslot.trans hsame.symm, (hown y hy hyslot).trans he.symm⟩
        · exact ⟨x, (hother x (hslot ▸ hsame)).mpr hx, hslot, hkey⟩
  have hall : ∀ (ds : List PublishedDerivativeRecord) (db : Db),
      store.upsertDerivatives rt versionId ds db = .ok db' → ds ⊆ derivatives →
      ∀ d ∈ ds, ∃ x ∈ db'.derivatives.rows, x.slot = d.slot versionId ∧
        x.deterministicKey = d.deterministicKey := by
    intro ds
    induction ds with
    | nil =>
        rintro db - - d hd
        cases hd
    | cons e es ih =>
        intro db h hsub d hd
        obtain ⟨db₁, h₁, h₂⟩ := bind_eq_ok.mp h
        obtain ⟨-, hown, y, hy, hyslot⟩ := upsertDerivative_rows h₁
        rcases List.mem_cons.mp hd with rfl | hd
        · exact hkeeps es db₁ h₂ (List.subset_of_cons_subset hsub) d (hsub List.mem_cons_self)
            ⟨y, hy, hyslot, hown y hy hyslot⟩
        · exact ih db₁ h₂ (List.subset_of_cons_subset hsub) d hd
  exact hall derivatives db h (List.Subset.refl _)

end PublicationStore

/-! ### What a publication leaves -/

/-- A version is published to a delivery scope: it is in `published`, the derivatives and
the manifest have their rows, and every other row is as it was. -/
structure Db.PublishedTo (db db' : Db) (versionId deliveryScopeId manifestType : String)
    (places : List (String × DerivativeSlot)) : Prop where
  version? : ∀ x, db'.version? x =
    (db.version? x).map fun v => if x = versionId then v.moveTo .published else v
  derivatives_written : ∀ place ∈ places, ∃ x ∈ db'.derivatives.rows,
    x.slot = place.2 ∧ x.deterministicKey = place.1
  derivatives_kept : ∀ x, (∀ place ∈ places, x.slot ≠ place.2) →
    (x ∈ db'.derivatives.rows ↔ x ∈ db.derivatives.rows)
  manifest_written :
    ∃ x ∈ db'.assetManifests.rows, x.slot = (versionId, manifestType, deliveryScopeId)
  manifests_kept : ∀ x, x.slot ≠ (versionId, manifestType, deliveryScopeId) →
    (x ∈ db'.assetManifests.rows ↔ x ∈ db.assetManifests.rows)
  unchanged : ∃ versions derivatives manifests, db' =
    { db with assetVersions := versions, derivatives := derivatives, assetManifests := manifests }

namespace PublicationStore

variable {ε : Type} {store : PublicationStore ε} {rt : Runtime} {versionId deliveryScopeId : String}
  {derivatives : List PublishedDerivativeRecord} {manifest : PublishedManifestRecord} {db : Db}

theorem upsertManifest_ok (rt : Runtime) (versionId deliveryScopeId : String)
    (manifest : PublishedManifestRecord) (db : Db) :
    ∃ db', upsertManifest rt versionId deliveryScopeId manifest db = .ok db' :=
  db.upsertAssetManifest_ok _ fun _ => rfl

/-- The manifest rows after a manifest was written. -/
theorem upsertManifest_rows {db' : Db}
    (h : upsertManifest rt versionId deliveryScopeId manifest db = .ok db') :
    (∃ x ∈ db'.assetManifests.rows, x.slot = (versionId, manifest.manifestType, deliveryScopeId)) ∧
    ∀ x, x.slot ≠ (versionId, manifest.manifestType, deliveryScopeId) →
      (x ∈ db'.assetManifests.rows ↔ x ∈ db.assetManifests.rows) := by
  obtain ⟨t, ht, rfl⟩ := write_eq_ok.mp h
  rcases Table.upsert_eq_ok_iff.mp ht with ⟨⟨r, hr, hslot⟩, hrows⟩ | ⟨-, -, hrows⟩
  · have hslot' : r.slot = (versionId, manifest.manifestType, deliveryScopeId) := eq_of_beq hslot
    simp only [hrows, Table.mem_updatedRows]
    refine ⟨⟨_, Or.inl ⟨r, hr, hslot, rfl⟩, hslot'⟩, fun x hne => ?_⟩
    constructor
    · rintro (⟨y, -, hy, rfl⟩ | ⟨hx, -⟩)
      · exact absurd (eq_of_beq hy) hne
      · exact hx
    · exact fun hx => Or.inr ⟨hx, beq_eq_false_iff_ne.mpr hne⟩
  · simp only [hrows, List.mem_append, List.mem_singleton]
    refine ⟨⟨_, Or.inr rfl, rfl⟩, fun x hne => ?_⟩
    constructor
    · rintro (hx | rfl)
      · exact hx
      · exact absurd rfl hne
    · exact Or.inl

/-- **When a publication succeeds**: on a version that is processing or published, whose
evidence its store can map, to a scope of its asset, and when its derivative rows can be
written. -/
theorem publish_succeeds_iff :
    (∃ record db', store.publish rt versionId deliveryScopeId derivatives manifest db =
      .ok (record, db')) ↔
      ∃ row, db.findPublicationVersion versionId = some row ∧
        acceptsPublish row.version.lifecycleState = true ∧
        (∃ s ∈ db.deliveryScopes.rows, s.id = deliveryScopeId ∧ s.availableTo row.asset = true) ∧
        (∃ record, store.mapVersion row .published = .ok record) ∧
        ∃ db₁, store.upsertDerivatives rt versionId derivatives db = .ok db₁ := by
  constructor
  · rintro ⟨record, db', h⟩
    obtain ⟨row, hrow, haccepts, hscope, hrecord, db₁, -, h₁, -⟩ := publish_cases h
    exact ⟨row, hrow, haccepts, hscope, ⟨record, hrecord⟩, db₁, h₁⟩
  · rintro ⟨row, hrow, haccepts, ⟨s, hs, rfl, havailable⟩, ⟨record, hrecord⟩, db₁, h₁⟩
    obtain ⟨db₂, h₂⟩ := upsertManifest_ok rt versionId s.id manifest db₁
    have hversion : db₂.version? versionId = some row.version := by
      obtain ⟨t₁, rfl⟩ := upsertDerivatives_frame h₁
      obtain ⟨t₂, -, rfl⟩ := write_eq_ok.mp h₂
      exact Db.findPublicationVersion_version? hrow
    obtain ⟨db₃, h₃⟩ := Db.updateAssetVersion_ok hversion
      (f := fun r => r.moveTo .published) fun _ _ => rfl
    have hany :
      (db.deliveryScopes.rows.any fun r => r.id == s.id && r.availableTo row.asset) = true :=
      List.any_eq_true.mpr ⟨s, hs, by rw [beq_self_eq_true, havailable]; rfl⟩
    refine ⟨record, db₃, ?_⟩
    unfold publish
    rw [hrow]
    simp only [if_pos haccepts, if_pos hany]
    exact bind_eq_ok.mpr ⟨db₁, h₁, bind_eq_ok.mpr ⟨db₂, h₂, bind_eq_ok.mpr ⟨db₃, h₃,
      bind_eq_ok.mpr ⟨record, hrecord, rfl⟩⟩⟩⟩

/-- What a publication leaves. -/
theorem publish_publishedTo {db' : Db} {record : CanonicalVersionRecord ε}
    (h : store.publish rt versionId deliveryScopeId derivatives manifest db = .ok (record, db'))
    (hslots : ∀ d ∈ derivatives, ∀ d' ∈ derivatives, d.slot versionId = d'.slot versionId →
      d.deterministicKey = d'.deterministicKey) :
    db.PublishedTo db' versionId deliveryScopeId manifest.manifestType
      (derivatives.map (·.place versionId)) := by
  obtain ⟨-, -, -, -, -, db₁, db₂, h₁, h₂, h₃⟩ := publish_cases h
  have hwritten := upsertDerivatives_written h₁ hslots
  have hkept := fun x => upsertDerivatives_rows (x := x) h₁
  obtain ⟨hmanifest, hmanifests⟩ := upsertManifest_rows h₂
  have hversion := (Db.updateAssetVersion_moved h₃).version?
  obtain ⟨t₁, rfl⟩ := upsertDerivatives_frame h₁
  obtain ⟨t₂, -, rfl⟩ := write_eq_ok.mp h₂
  obtain ⟨t₃, -, rfl⟩ := write_eq_ok.mp h₃
  exact
    { version? := hversion
      derivatives_written := fun place hplace => by
        obtain ⟨d, hd, rfl⟩ := List.mem_map.mp hplace
        exact hwritten d hd
      derivatives_kept := fun x hx => hkept x fun d hd => hx _ (List.mem_map.mpr ⟨d, hd, rfl⟩)
      manifest_written := hmanifest
      manifests_kept := hmanifests
      unchanged := ⟨t₃, t₁, t₂, rfl⟩ }

/-- A begin succeeds exactly on a canonical, processing or published version whose
evidence its store can map. -/
theorem begin_succeeds_iff :
    (∃ record db', store.begin versionId db = .ok (record, db')) ↔
      ∃ row, db.findPublicationVersion versionId = some row ∧
        acceptsBegin row.version.lifecycleState = true ∧
        ∃ record, store.mapVersion row .processing = .ok record := by
  constructor
  · rintro ⟨record, db', h⟩
    obtain ⟨row, hrow, haccepts, -, hrecord⟩ := begin_cases h
    exact ⟨row, hrow, haccepts, record, hrecord⟩
  · rintro ⟨row, hrow, haccepts, record, hrecord⟩
    have hv := Db.findPublicationVersion_version? hrow
    obtain rfl := (Db.version?_eq_some_iff.mp hv).2
    have hstart : ∃ db', startProcessing row.version db = .ok db' := by
      unfold startProcessing
      split
      · exact ⟨db, rfl⟩
      · exact Db.updateAssetVersion_ok hv fun _ _ => rfl
    obtain ⟨db', h⟩ := hstart
    refine ⟨record, db', ?_⟩
    unfold begin
    rw [hrow]
    simp only [if_pos haccepts]
    exact bind_eq_ok.mpr ⟨db', h, bind_eq_ok.mpr ⟨record, hrecord, rfl⟩⟩

end PublicationStore

end Cdngine
