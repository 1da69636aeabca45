import Cdngine.Schema

/-!
# The Transactional Store

The registry as its stores see it: errors, the write statements of each table, and
transactions. A transaction is a function of the database that either returns a value
with the database it leaves, or throws; a thrown error rolls every statement back, which
is why the error carries no database.

## Main results

* `write_eq_ok`: a write statement that succeeds replaces exactly one table, by the
  result of the table operation.
* `Db.version?_updateAssetVersion`: the version rows after an update of one of them.
-/

open Relational

namespace Cdngine

/-! ### Errors -/

/-- What the stores and the worker throw: their own error classes, a violation reported
by the database, an `Error` of another kind, or a value that is no `Error`. -/
inductive RegistryError
  | store (violation : Violation)
  | thrown (name message : String)
  | thrownValue
  | uploadSessionIdempotencyConflict (idempotencyKey : String)
  | uploadSessionAssetNotFound (assetId : String)
  | uploadSessionNotFound (uploadSessionId : String)
  | uploadSessionExpired (uploadSessionId : String)
  | uploadSessionInvalidStateTransition (uploadSessionId state : String)
  | uploadSessionValidationFailed (uploadSessionId problemType message : String)
  | uploadSessionCanonicalizationFailed (uploadSessionId : String) (cause : RegistryError)
  | genericAssetVersionNotFound (versionId : String)
  | genericAssetVersionState (versionId lifecycleState action : String)
  | imageVersionNotFound (versionId : String)
  | imageVersionState (versionId lifecycleState action : String)
  | presentationVersionNotFound (versionId : String)
  | presentationVersionState (versionId lifecycleState action : String)
  | workerWorkflowTemplateNotSupported (workflowTemplateId : String)
  | workerPublicationTargetsNotConfigured (assetVersionId : String)
  | publicAssetVersionNotFound (assetId versionId : String)
  | publicVersionNotReady (assetId versionId lifecycleState : String)
  | publicDownloadLinkNotFound (token : String)
  | publicReadIdempotencyConflict (idempotencyKey : String)
  | workflowDispatchNotFound (dispatchId : String)
  | workflowDispatchVersionConflict (dispatchId : String) (expectedVersionToken : Int)
  | workflowDispatchStateTransition (dispatchId fromState toState : String)
  deriving DecidableEq, Repr

/-- A plain `Error`. -/
def RegistryError.plain (message : String) : RegistryError := .thrown "Error" message

/-- A quoted value inside an error text. -/
def quoted (s : String) : String := doubleQuote ++ s ++ doubleQuote

/-- The `name` of a thrown `Error`. -/
def RegistryError.name : RegistryError → Option String
  | .store _ => some "PrismaClientKnownRequestError"
  | .thrown name _ => some name
  | .thrownValue => none
  | .uploadSessionIdempotencyConflict _ => some "RegistryUploadSessionIdempotencyConflictError"
  | .uploadSessionAssetNotFound _ => some "RegistryUploadSessionAssetNotFoundError"
  | .uploadSessionNotFound _ => some "RegistryUploadSessionNotFoundError"
  | .uploadSessionExpired _ => some "RegistryUploadSessionExpiredError"
  | .uploadSessionInvalidStateTransition _ _ =>
      some "RegistryUploadSessionInvalidStateTransitionError"
  | .uploadSessionValidationFailed _ _ _ => some "RegistryUploadSessionValidationFailedError"
  | .uploadSessionCanonicalizationFailed _ _ =>
      some "RegistryUploadSessionCanonicalizationFailedError"
  | .genericAssetVersionNotFound _ => some "GenericAssetVersionNotFoundError"
  | .genericAssetVersionState _ _ _ => some "GenericAssetVersionStateError"
  | .imageVersionNotFound _ => some "ImageVersionNotFoundError"
  | .imageVersionState _ _ _ => some "ImageVersionStateError"
  | .presentationVersionNotFound _ => some "PresentationVersionNotFoundError"
  | .presentationVersionState _ _ _ => some "PresentationVersionStateError"
  | .workerWorkflowTemplateNotSupported _ => some "WorkerWorkflowTemplateNotSupportedError"
  | .workerPublicationTargetsNotConfigured _ => some "WorkerPublicationTargetsNotConfiguredError"
  | .publicAssetVersionNotFound _ _ => some "RegistryPublicAssetVersionNotFoundError"
  | .publicVersionNotReady _ _ _ => some "RegistryPublicVersionNotReadyError"
  | .publicDownloadLinkNotFound _ => some "RegistryPublicDownloadLinkNotFoundError"
  | .publicReadIdempotencyConflict _ => some "RegistryPublicReadIdempotencyConflictError"
  | .workflowDispatchNotFound _ => some "WorkflowDispatchNotFoundError"
  | .workflowDispatchVersionConflict _ _ => some "WorkflowDispatchVersionConflictError"
  | .workflowDispatchStateTransition _ _ _ => some "WorkflowDispatchStateTransitionError"

/-- The text of a version-state error. -/
def versionStateMessage (subject versionId lifecycleState action : String) : String :=
  subject ++ " version " ++ quoted versionId ++ " cannot " ++ action ++ " from lifecycle state " ++
    quoted lifecycleState ++ "."

/-- The `message` of a thrown `Error`. -/
def RegistryError.message (rt : Runtime) : RegistryError → String
  | .store violation => rt.violationMessage violation
  | .thrown _ message => message
  | .thrownValue => ""
  | .uploadSessionIdempotencyConflict key =>
      "Idempotency key " ++ quoted key ++ " was reused for a different upload-session request."
  | .uploadSessionAssetNotFound assetId => "Asset " ++ quoted assetId ++ " does not exist."
  | .uploadSessionNotFound id => "Upload session " ++ quoted id ++ " does not exist."
  | .uploadSessionExpired id =>
      "Upload session " ++ quoted id ++ " expired before valid completion."
  | .uploadSessionInvalidStateTransition id state =>
      "Upload session " ++ quoted id ++ " cannot complete from state " ++ quoted state ++ "."
  | .uploadSessionValidationFailed _ _ message => message
  | .uploadSessionCanonicalizationFailed id .thrownValue =>
      "Canonicalization failed for upload session " ++ quoted id ++ "."
  | .uploadSessionCanonicalizationFailed _ cause => cause.message rt
  | .genericAssetVersionNotFound id => "Generic asset version " ++ quoted id ++ " does not exist."
  | .genericAssetVersionState id state action => versionStateMessage "Generic asset" id state action
  | .imageVersionNotFound id => "Image version " ++ quoted id ++ " does not exist."
  | .imageVersionState id state action => versionStateMessage "Image" id state action
  | .presentationVersionNotFound id => "Presentation version " ++ quoted id ++ " does not exist."
  | .presentationVersionState id state action => versionStateMessage "Presentation" id state action
  | .workerWorkflowTemplateNotSupported id =>
      "Worker runtime does not support workflow template " ++ quoted id ++ "."
  | .workerPublicationTargetsNotConfigured id =>
      "Asset version " ++ quoted id ++ " does not have any eligible delivery scopes."
  | .publicAssetVersionNotFound assetId versionId =>
      "Version " ++ quoted versionId ++ " for asset " ++ quoted assetId ++ " does not exist."
  | .publicVersionNotReady assetId versionId state =>
      "Version " ++ quoted versionId ++ " for asset " ++ quoted assetId ++
        " is not ready for this operation from state " ++ quoted state ++ "."
  | .publicDownloadLinkNotFound token =>
      "Download link " ++ quoted token ++ " is invalid, expired, or has already been used."
  | .publicReadIdempotencyConflict key =>
      "Idempotency key " ++ quoted key ++
        " was reused for a different public-read authorization request."
  | .workflowDispatchNotFound id => "Workflow dispatch " ++ quoted id ++ " does not exist."
  | .workflowDispatchVersionConflict id token =>
      "Workflow dispatch " ++ quoted id ++ " no longer has expected version token " ++
        toString token ++
        "."
  | .workflowDispatchStateTransition id fromState toState =>
      "Workflow dispatch " ++ quoted id ++ " cannot transition from " ++ quoted fromState ++
        " to " ++
        quoted toState ++ "."

/-! ### Transactions -/

/-- A transaction: its value with the database it leaves, or the error that rolls it
back. -/
abbrev Transaction (α : Type) := Db → Except RegistryError (α × Db)

/-- Run a transaction in autocommit: an error leaves the database as it was. -/
def transact {α : Type} (tx : Transaction α) (db : Db) : Except RegistryError α × Db :=
  match tx db with
  | .ok (a, db') => (.ok a, db')
  | .error e => (.error e, db)

/-- The database after a statement, or as it was when the statement failed. -/
def keepOnError (db : Db) (result : Except RegistryError Db) : Db :=
  match result with
  | .ok db' => db'
  | .error _ => db

/-- A transaction commits exactly when its body succeeds. -/
theorem transact_eq_ok {α : Type} {tx : Transaction α} {db db' : Db} {a : α} :
    transact tx db = (.ok a, db') ↔ tx db = .ok (a, db') := by
  unfold transact
  cases tx db with
  | error e => simp
  | ok r => simp [Prod.ext_iff]

/-- Where an autocommitted transaction leaves the database. -/
theorem transact_snd {α : Type} (tx : Transaction α) (db : Db) :
    (∃ a, tx db = .ok (a, (transact tx db).2)) ∨ (transact tx db).2 = db := by
  unfold transact
  cases tx db with
  | error e => exact Or.inr rfl
  | ok r => exact Or.inl ⟨r.1, rfl⟩

/-! ### Write statements -/

/-- A write statement on one table. -/
def write {ρ : Type} [Constrained ρ] (result : Except Violation (Table ρ))
    (set : Table ρ → Db) : Except RegistryError Db :=
  match result with
  | .ok table => .ok (set table)
  | .error violation => .error (.store violation)

/-- **Frame of a write**: it succeeds exactly when the table operation does, and then
replaces that table. -/
theorem write_eq_ok {ρ : Type} [Constrained ρ] {result : Except Violation (Table ρ)}
    {set : Table ρ → Db} {db' : Db} :
    write result set = .ok db' ↔ ∃ table, result = .ok table ∧ db' = set table := by
  cases result with
  | error v => simp [write]
  | ok t =>
      simp only [write, Except.ok.injEq, exists_eq_left']
      exact eq_comm

/-- A write of one table succeeds when its constraints hold. -/
theorem exists_write_iff {ρ : Type} [Constrained ρ] {result : Except Violation (Table ρ)}
    {set : Table ρ → Db} : (∃ db', write result set = .ok db') ↔ ∃ table, result = .ok table := by
  constructor
  · rintro ⟨db', h⟩
    obtain ⟨table, htable, -⟩ := write_eq_ok.mp h
    exact ⟨table, htable⟩
  · rintro ⟨table, htable⟩
    exact ⟨_, write_eq_ok.mpr ⟨table, htable, rfl⟩⟩

/-- A write of one table fails with the violation of its constraints. -/
theorem write_eq_error {ρ : Type} [Constrained ρ] {result : Except Violation (Table ρ)}
    {set : Table ρ → Db} {e : RegistryError} :
    write result set = .error e ↔ ∃ v, result = .error v ∧ e = .store v := by
  cases result with
  | error v =>
      simp only [write, Except.error.injEq, exists_eq_left']
      exact eq_comm
  | ok t => simp [write]

namespace Db

variable (db : Db)

/-- Create an asset. -/
def createAsset (row : Asset) : Except RegistryError Db :=
  write (db.assets.insert row) fun table => { db with assets := table }

/-- Change the asset of an id. -/
def updateAsset (id : String) (data : Asset → Asset) : Except RegistryError Db :=
  write (db.assets.update (fun r => r.id == id) data) fun table => { db with assets := table }

/-- Create a version. -/
def createAssetVersion (row : AssetVersion) : Except RegistryError Db :=
  write (db.assetVersions.insert row) fun table => { db with assetVersions := table }

/-- Change the version of an id. -/
def updateAssetVersion (id : String) (data : AssetVersion → AssetVersion) :
    Except RegistryError Db :=
  write (db.assetVersions.update (fun r => r.id == id) data)
    fun table => { db with assetVersions := table }

/-- Create an upload session. -/
def createUploadSession (row : UploadSession) : Except RegistryError Db :=
  write (db.uploadSessions.insert row) fun table => { db with uploadSessions := table }

/-- Change the upload session of an id. -/
def updateUploadSession (id : String) (data : UploadSession → UploadSession) :
    Except RegistryError Db :=
  write (db.uploadSessions.update (fun r => r.id == id) data)
    fun table => { db with uploadSessions := table }

/-- Create an idempotency record; a second one under the same key violates its constraint. -/
def createIdempotencyRecord (row : IdempotencyRecord) : Except RegistryError Db :=
  write (db.idempotencyRecords.insert row) fun table => { db with idempotencyRecords := table }

/-- Create an idempotency record, or change the one of its key. -/
def upsertIdempotencyRecord (row : IdempotencyRecord)
    (data : IdempotencyRecord → IdempotencyRecord) : Except RegistryError Db :=
  write (db.idempotencyRecords.upsert (fun r => r.key == row.key) data row)
    fun table => { db with idempotencyRecords := table }

/-- Create a validation result. -/
def createValidationResult (row : ValidationResult) : Except RegistryError Db :=
  write (db.validationResults.insert row) fun table => { db with validationResults := table }

/-- Create a dispatch; a second one under the same workflow key violates its constraint. -/
def createWorkflowDispatch (row : WorkflowDispatch) : Except RegistryError Db :=
  write (db.workflowDispatches.insert row) fun table => { db with workflowDispatches := table }

/-- Change the dispatch of an id. -/
def updateWorkflowDispatch (id : String) (data : WorkflowDispatch → WorkflowDispatch) :
    Except RegistryError Db :=
  write (db.workflowDispatches.update (fun r => r.id == id) data)
    fun table => { db with workflowDispatches := table }

/-- Create a workflow run. -/
def createWorkflowRun (row : WorkflowRun) : Except RegistryError Db :=
  write (db.workflowRuns.insert row) fun table => { db with workflowRuns := table }

/-- Change the run of a workflow. -/
def updateWorkflowRun (workflowId : String) (data : WorkflowRun → WorkflowRun) :
    Except RegistryError Db :=
  write (db.workflowRuns.update (fun r => r.workflowId == workflowId) data)
    fun table => { db with workflowRuns := table }

/-- Create a workflow run, or change the one of its workflow. -/
def upsertWorkflowRun (row : WorkflowRun) (data : WorkflowRun → WorkflowRun) :
    Except RegistryError Db :=
  write (db.workflowRuns.upsert (fun r => r.workflowId == row.workflowId) data row)
    fun table => { db with workflowRuns := table }

/-- Create a derivative, or change the one of its slot. -/
def upsertDerivative (row : Derivative) (data : Derivative → Derivative) :
    Except RegistryError Db :=
  write (db.derivatives.upsert (fun r => r.slot == row.slot) data row)
    fun table => { db with derivatives := table }

/-- Create a manifest, or change the one of its slot. -/
def upsertAssetManifest (row : AssetManifest) (data : AssetManifest → AssetManifest) :
    Except RegistryError Db :=
  write (db.assetManifests.upsert (fun r => r.slot == row.slot) data row)
    fun table => { db with assetManifests := table }

/-- Create a source access grant. -/
def createSourceAccessGrant (row : SourceAccessGrant) : Except RegistryError Db :=
  write (db.sourceAccessGrants.insert row) fun table => { db with sourceAccessGrants := table }

/-- Change the source access grant of an id. -/
def updateSourceAccessGrant (id : String) (data : SourceAccessGrant → SourceAccessGrant) :
    Except RegistryError Db :=
  write (db.sourceAccessGrants.update (fun r => r.id == id) data)
    fun table => { db with sourceAccessGrants := table }

/-- Create the audit row of a delivery authorization. -/
def createDeliveryAuthorizationAudit (row : DeliveryAuthorizationAudit) :
    Except RegistryError Db :=
  write (db.deliveryAuthorizationAudits.insert row)
    fun table => { db with deliveryAuthorizationAudits := table }

/-- Change the audit row of an id. -/
def updateDeliveryAuthorizationAudit (id : String)
    (data : DeliveryAuthorizationAudit → DeliveryAuthorizationAudit) : Except RegistryError Db :=
  write (db.deliveryAuthorizationAudits.update (fun r => r.id == id) data)
    fun table => { db with deliveryAuthorizationAudits := table }

/-- Append an audit event. -/
def createAuditEvent (row : AuditEvent) : Except RegistryError Db :=
  write (db.auditEvents.insert row) fun table => { db with auditEvents := table }

/-! ### Lookups by id -/

/-- The version of an id. -/
def version? (id : String) : Option AssetVersion := db.assetVersions.find? fun r => r.id == id

/-- The asset of an id. -/
def asset? (id : String) : Option Asset := db.assets.find? fun r => r.id == id

/-- The upload session of an id. -/
def uploadSession? (id : String) : Option UploadSession :=
  db.uploadSessions.find? fun r => r.id == id

/-- The namespace of an id. -/
def serviceNamespace? (id : String) : Option ServiceNamespace :=
  db.serviceNamespaces.find? fun r => r.id == id

/-- The tenant of an id. -/
def tenantScope? (id : String) : Option TenantScope := db.tenantScopes.find? fun r => r.id == id

/-- The idempotency record of a surface, a caller, an operation and a key. -/
def idempotencyRecord? (key : ApiSurface × String × String × String) : Option IdempotencyRecord :=
  db.idempotencyRecords.find? fun r => r.key == key

/-- The dispatch of an id. -/
def workflowDispatch? (id : String) : Option WorkflowDispatch :=
  db.workflowDispatches.find? fun r => r.id == id

/-- The run of a workflow. -/
def workflowRun? (workflowId : String) : Option WorkflowRun :=
  db.workflowRuns.find? fun r => r.workflowId == workflowId

/-- The lifecycle state of a version. -/
def lifecycle? (id : String) : Option AssetVersionState :=
  (db.version? id).map (·.lifecycleState)

/-- The dispatch rows of a version, oldest first. -/
def dispatchesOf (id : String) : List WorkflowDispatch :=
  db.workflowDispatches.rows.filter fun r => r.assetVersionId == id

end Db

/-! ### The rows after a statement -/

namespace Db

/-- A version is found by its id. -/
theorem version?_eq_some_iff {db : Db} {id : String} {row : AssetVersion} :
    db.version? id = some row ↔ row ∈ db.assetVersions.rows ∧ row.id = id :=
  Table.find?_key_eq_some_iff fun a b h => by simp [clash, h]

/-- An asset is found by its id. -/
theorem asset?_eq_some_iff {db : Db} {id : String} {row : Asset} :
    db.asset? id = some row ↔ row ∈ db.assets.rows ∧ row.id = id :=
  Table.find?_key_eq_some_iff fun a b h => by simp [clash, h]

/-- An upload session is found by its id. -/
theorem uploadSession?_eq_some_iff {db : Db} {id : String} {row : UploadSession} :
    db.uploadSession? id = some row ↔ row ∈ db.uploadSessions.rows ∧ row.id = id :=
  Table.find?_key_eq_some_iff fun a b h => by simp [clash, h]

/-- An idempotency record is found by its key. -/
theorem idempotencyRecord?_eq_some_iff {db : Db} {key : ApiSurface × String × String × String}
    {row : IdempotencyRecord} :
    db.idempotencyRecord? key = some row ↔ row ∈ db.idempotencyRecords.rows ∧ row.key = key :=
  Table.find?_key_eq_some_iff fun a b h => by simp [clash, h]

/-- The version rows after an update of one of them that keeps its id. -/
theorem version?_updateAssetVersion {db db' : Db} {id : String}
    {data : AssetVersion → AssetVersion} (h : db.updateAssetVersion id data = .ok db')
    (hid : ∀ r, (data r).id = r.id) (other : String) :
    db'.version? other = (db.version? other).map fun r => if other = id then data r else r := by
  obtain ⟨t, ht, rfl⟩ := write_eq_ok.mp h
  exact Table.find?_update_key ht hid other

/-- The session rows after an update of one of them that keeps its id. -/
theorem uploadSession?_updateUploadSession {db db' : Db} {id : String}
    {data : UploadSession → UploadSession} (h : db.updateUploadSession id data = .ok db')
    (hid : ∀ r, (data r).id = r.id) (other : String) :
    db'.uploadSession? other =
      (db.uploadSession? other).map fun r => if other = id then data r else r := by
  obtain ⟨t, ht, rfl⟩ := write_eq_ok.mp h
  exact Table.find?_update_key ht hid other

/-- An update of an existing version that keeps its constrained columns succeeds. -/
theorem updateAssetVersion_ok {db : Db} {id : String} {v : AssetVersion}
    {f : AssetVersion → AssetVersion} (hv : db.version? id = some v)
    (hkeeps : ∀ a b, clash (f a) b = clash a b) :
    ∃ db', db.updateAssetVersion id f = .ok db' := by
  obtain ⟨hmem, rfl⟩ := version?_eq_some_iff.mp hv
  obtain ⟨t, ht⟩ := Table.update_eq_ok_of_keeps (p := fun r => r.id == v.id) hkeeps
    ⟨v, hmem, beq_self_eq_true v.id⟩
  exact ⟨_, write_eq_ok.mpr ⟨t, ht, rfl⟩⟩

/-- An update of an existing session that keeps its constrained columns succeeds. -/
theorem updateUploadSession_ok {db : Db} {id : String} {s : UploadSession}
    {f : UploadSession → UploadSession} (hs : db.uploadSession? id = some s)
    (hkeeps : ∀ a b, clash (f a) b = clash a b) :
    ∃ db', db.updateUploadSession id f = .ok db' := by
  obtain ⟨hmem, rfl⟩ := uploadSession?_eq_some_iff.mp hs
  obtain ⟨t, ht⟩ := Table.update_eq_ok_of_keeps (p := fun r => r.id == s.id) hkeeps
    ⟨s, hmem, beq_self_eq_true s.id⟩
  exact ⟨_, write_eq_ok.mpr ⟨t, ht, rfl⟩⟩

/-- An update of an existing asset that keeps its constrained columns succeeds. -/
theorem updateAsset_ok {db : Db} {id : String} {a : Asset} {f : Asset → Asset}
    (ha : db.asset? id = some a) (hkeeps : ∀ a b, clash (f a) b = clash a b) :
    ∃ db', db.updateAsset id f = .ok db' := by
  obtain ⟨hmem, rfl⟩ := asset?_eq_some_iff.mp ha
  obtain ⟨t, ht⟩ := Table.update_eq_ok_of_keeps (p := fun r => r.id == a.id) hkeeps
    ⟨a, hmem, beq_self_eq_true a.id⟩
  exact ⟨_, write_eq_ok.mpr ⟨t, ht, rfl⟩⟩

/-- Inserting a row without constraints succeeds. -/
theorem createAuditEvent_ok (db : Db) (row : AuditEvent) :
    ∃ db', db.createAuditEvent row = .ok db' := by
  obtain ⟨t, ht⟩ := Table.exists_insert_iff (t := db.auditEvents) (r := row) |>.mpr fun _ _ => rfl
  exact ⟨_, write_eq_ok.mpr ⟨t, ht, rfl⟩⟩

/-- A record can be created exactly when its key is free. -/
theorem createIdempotencyRecord_ok_iff {db : Db} {row : IdempotencyRecord} :
    (∃ db', db.createIdempotencyRecord row = .ok db') ↔ db.idempotencyRecord? row.key = none := by
  rw [idempotencyRecord?, Table.find?_eq_none_iff]
  refine (exists_write_iff.trans (Table.exists_insert_key_iff fun _ _ => rfl)).trans ?_
  simp only [beq_eq_false_iff_ne]

/-- An idempotency record can always be persisted: the addressed record keeps its key. -/
theorem upsertIdempotencyRecord_ok (db : Db) (row : IdempotencyRecord)
    {f : IdempotencyRecord → IdempotencyRecord} (hkey : ∀ r, (f r).key = r.key) :
    ∃ db', db.upsertIdempotencyRecord row f = .ok db' := by
  obtain ⟨t, ht⟩ := Table.exists_upsert_key (t := db.idempotencyRecords) (fun _ _ => rfl) hkey
    (rfl : row.key = row.key)
  exact ⟨_, write_eq_ok.mpr ⟨t, ht, rfl⟩⟩

/-- A workflow run can always be recorded. -/
theorem upsertWorkflowRun_ok (db : Db) (row : WorkflowRun) {f : WorkflowRun → WorkflowRun}
    (hkey : ∀ r, (f r).workflowId = r.workflowId) :
    ∃ db', db.upsertWorkflowRun row f = .ok db' := by
  obtain ⟨t, ht⟩ := Table.exists_upsert_key (t := db.workflowRuns) (fun _ _ => rfl) hkey
    (rfl : row.workflowId = row.workflowId)
  exact ⟨_, write_eq_ok.mpr ⟨t, ht, rfl⟩⟩

/-- A manifest can always be recorded: the addressed row keeps its slot. -/
theorem upsertAssetManifest_ok (db : Db) (row : AssetManifest) {f : AssetManifest → AssetManifest}
    (hkey : ∀ r, (f r).slot = r.slot) : ∃ db', db.upsertAssetManifest row f = .ok db' := by
  obtain ⟨t, ht⟩ := Table.exists_upsert_key (t := db.assetManifests) (fun _ _ => rfl) hkey
    (rfl : row.slot = row.slot)
  exact ⟨_, write_eq_ok.mpr ⟨t, ht, rfl⟩⟩

/-- The sessions after one is created. -/
theorem uploadSession?_createUploadSession {db db' : Db} {row : UploadSession}
    (h : db.createUploadSession row = .ok db') (id : String) :
    db'.uploadSession? id = (db.uploadSession? id).or (if row.id = id then some row else none) := by
  obtain ⟨t, ht, rfl⟩ := write_eq_ok.mp h
  simp only [uploadSession?]
  rw [Table.find?_insert ht]
  simp only [beq_iff_eq]

/-- The idempotency records after one is created. -/
theorem idempotencyRecord?_createIdempotencyRecord {db db' : Db} {row : IdempotencyRecord}
    (h : db.createIdempotencyRecord row = .ok db') (key : ApiSurface × String × String × String) :
    db'.idempotencyRecord? key =
      (db.idempotencyRecord? key).or (if row.key = key then some row else none) := by
  obtain ⟨t, ht, rfl⟩ := write_eq_ok.mp h
  simp only [idempotencyRecord?]
  rw [Table.find?_insert ht]
  simp only [beq_iff_eq]

/-- The versions after one is created. -/
theorem version?_createAssetVersion {db db' : Db} {row : AssetVersion}
    (h : db.createAssetVersion row = .ok db') (id : String) :
    db'.version? id = (db.version? id).or (if row.id = id then some row else none) := by
  obtain ⟨t, ht, rfl⟩ := write_eq_ok.mp h
  simp only [version?]
  rw [Table.find?_insert ht]
  simp only [beq_iff_eq]

end Db

end Cdngine
