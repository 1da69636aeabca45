import Cdngine.ReadCommitted
import Cdngine.VersionNumbers

/-!
# Issuances at Once

Any number of `issueUploadSession` calls on the Prisma store at once, statement by
statement under READ COMMITTED. A call looks its idempotency record up; when there is
none, one transaction finds the namespace, the tenant and the asset, reads the latest
version number of the asset, and inserts the version, its session and the record. A unique
violation sends the call back to its record.

Two calls may read the same latest number, or both miss the record of their key. The
constraints on the number and on the record let one of them in.

## Main results

* `issueCode`: what a call does at each of its locations.
* `issue_invariant`: what holds of a call at each of its locations, in every state.
* `IssueInv.commit`: every commit is the transaction of the call, run at once on the
  committed registry.
* `issuances_interleave`: the law of the calls, in every state of every run.
-/

open Relational Runs ReadCommitted

namespace Cdngine

variable {ι : Type}

/-! ### The statements of an issuance -/

/-- An insertion of an issuance. -/
inductive IssueStatement
  | createAsset (row : Asset)
  | createAssetVersion (row : AssetVersion)
  | createUploadSession (row : UploadSession)
  | createIdempotencyRecord (row : IdempotencyRecord)

def IssueStatement.apply (db : Db) : IssueStatement → Except RegistryError Db
  | createAsset row => db.createAsset row
  | createAssetVersion row => db.createAssetVersion row
  | createUploadSession row => db.createUploadSession row
  | createIdempotencyRecord row => db.createIdempotencyRecord row

/-- The rows that a call locks. -/
inductive IssueRow
  | asset (id : String)
  | version (number : String × Nat)
  | session (id : String)
  | record (key : ApiSurface × String × String × String)
  deriving DecidableEq, Repr

def IssueStatement.row : IssueStatement → IssueRow
  | createAsset row => .asset row.id
  | createAssetVersion row => .version row.numberKey
  | createUploadSession row => .session row.id
  | createIdempotencyRecord row => .record row.key

def IssueStatement.write (s : IssueStatement) : Write Db IssueRow where
  row := s.row
  effect db := keepOnError db (s.apply db)

/-! ### The code of a call -/

/-- A call of `issueUploadSession`, with the ids that it generates. -/
structure IssueCall where
  input : RegistryIssueUploadSessionInput
  ids : IssueIds
  now : Instant

/-- What the transaction of a call has found. -/
structure IssueScope where
  serviceNamespace : ServiceNamespace
  tenant : Option TenantScope
  asset : Asset

namespace IssueCall

variable (call : IssueCall)

/-- The asset of a call that names none. -/
def newAsset (namespaceId : String) (tenant : Option TenantScope) : Asset where
  id := call.ids.assetId
  serviceNamespaceId := namespaceId
  tenantScopeId := tenant.map (·.id)
  assetOwner := call.input.assetOwner
  lookupKey := call.ids.lookupKey

/-- The insertion of the asset of a call. -/
def assetStatements (scope : IssueScope) : List IssueStatement :=
  match call.input.assetId with
  | none => [.createAsset scope.asset]
  | some _ => []

/-- The insertions of a call once its version number is read. -/
def statements (scope : IssueScope) (number : Nat) : List IssueStatement :=
  [.createAssetVersion (issuedVersion call.input call.ids scope.asset.id number),
    .createUploadSession (issuedSession call.input call.ids call.now),
    .createIdempotencyRecord (issuedRecord call.input call.ids scope.asset.id call.now)]

/-- What the transaction of a call returns. -/
def result (scope : IssueScope) (number : Nat) : RegistryIssuedUploadSession where
  assetId := scope.asset.id
  assetOwner := call.input.assetOwner
  byteLength := call.input.byteLength
  checksum := call.input.checksum
  contentType := call.input.contentType
  expiresAt := call.input.expiresAt
  filename := call.input.filename
  isDuplicate := false
  objectKey := call.input.objectKey
  serviceNamespaceId := scope.serviceNamespace.serviceNamespaceId
  tenantId := scope.tenant.map (·.externalTenantId)
  uploadSessionId := call.ids.uploadSessionId
  versionId := call.ids.versionId
  versionNumber := number

end IssueCall

/-- Where a call is. `findNamespace` begins its transaction, `persist` has insertions to
make, `reload` follows a unique violation, and the last three are how a call ends. -/
inductive IssueLocation
  | loadRecord
  | replay (reference : Option ReplayableUploadReference)
  | findNamespace
  | findTenant (serviceNamespace : ServiceNamespace)
  | findAsset (serviceNamespace : ServiceNamespace) (tenant : Option TenantScope)
  | findLatest (scope : IssueScope)
  | persist (scope : IssueScope) (number : Nat) (todo : List IssueStatement)
  | reload (error : RegistryError)
  | issued (result : RegistryIssuedUploadSession)
  | replayed (result : RegistryIssuedUploadSession)
  | failed (error : RegistryError)

/-- What a call has returned. -/
def IssueLocation.result : IssueLocation → Option RegistryIssuedUploadSession
  | issued result => some result
  | replayed result => some result
  | _ => none

/-- What a call has thrown. -/
def IssueLocation.error : IssueLocation → Option RegistryError
  | failed error => some error
  | _ => none

/-- Where an error inside the transaction leads. -/
def afterError (e : RegistryError) : IssueLocation :=
  if e = .store .uniqueConstraint then .reload e else .failed e

/-- A record that a call finds under its key. -/
def IssueCall.found (call : IssueCall) (record : IdempotencyRecord) : IssueLocation :=
  if record.normalizedRequestHash ≠ some call.input.normalizedRequestHash then
    .failed (.uploadSessionIdempotencyConflict call.input.idempotencyKey)
  else .replay record.responseReference

/-- An issuance, statement by statement. -/
def issueCode (call : IssueCall) (location : IssueLocation) (db : Db) :
    Action Db IssueRow IssueLocation :=
  match location with
  | .loadRecord =>
      match db.idempotencyRecord? call.input.idempotencyRecordKey with
      | some record => .query (call.found record)
      | none => .query .findNamespace
  | .replay reference =>
      match loadIssuedUploadSessionReplay db reference with
      | .ok result => .query (.replayed result)
      | .error e => .query (.failed e)
  | .findNamespace =>
      match db.serviceNamespaces.find? fun r =>
        r.serviceNamespaceId == call.input.serviceNamespaceId with
      | some serviceNamespace => .query (.findTenant serviceNamespace)
      | none =>
          .rollback (afterError
            (.uploadSessionAssetNotFound (call.input.assetId.getD call.input.serviceNamespaceId)))
  | .findTenant serviceNamespace =>
      .query
        (.findAsset serviceNamespace (resolveTenant db serviceNamespace.id call.input.tenantId))
  | .findAsset serviceNamespace tenant =>
      match call.input.assetId with
      | none =>
          let asset := call.newAsset serviceNamespace.id tenant
          match (IssueStatement.createAsset asset).apply db with
          | .ok _ =>
              .write (IssueStatement.createAsset asset).write
                (.findLatest ⟨serviceNamespace, tenant, asset⟩)
          | .error e => .rollback (afterError e)
      | some assetId =>
          match loadExistingAsset db assetId serviceNamespace.id tenant call.input.assetOwner with
          | .ok asset => .query (.findLatest ⟨serviceNamespace, tenant, asset⟩)
          | .error e => .rollback (afterError e)
  | .findLatest scope =>
      let number := db.latestVersionNumber scope.asset.id + 1
      .query (.persist scope number (call.statements scope number))
  | .persist scope number [] => .commit (.issued (call.result scope number))
  | .persist scope number (s :: todo) =>
      match s.apply db with
      | .ok _ => .write s.write (.persist scope number todo)
      | .error e => .rollback (afterError e)
  | .reload error =>
      match db.idempotencyRecord? call.input.idempotencyRecordKey with
      | some record => .query (call.found record)
      | none => .query (.failed error)
  | _ => .halt

/-- Sessions over a registry, each of which makes one call. -/
abbrev IssueSystem (ι : Type) := System ι Db IssueRow IssueLocation

/-- The calls, before their first statement. -/
def issueSystem (db : Db) : IssueSystem ι where
  db
  session _ := ⟨.loadRecord, []⟩

/-- What the rest of the registry leaves alone while the calls run. -/
structure Db.SameIssuances (db db' : Db) : Prop where
  serviceNamespaces : db'.serviceNamespaces = db.serviceNamespaces
  tenantScopes : db'.tenantScopes = db.tenantScopes
  assets : db'.assets = db.assets
  assetVersions : db'.assetVersions = db.assetVersions
  uploadSessions : db'.uploadSessions = db.uploadSessions
  idempotencyRecords : db'.idempotencyRecords = db.idempotencyRecords

/-- The step relation of the calls. -/
def IssueStep (calls : ι → IssueCall) [DecidableEq ι] : IssueSystem ι → Event ι Db →
    IssueSystem ι → Prop :=
  Step (fun i => issueCode (calls i)) Db.SameIssuances

/-! ### What holds of a call -/

/-- The ids of a call occur in no row. -/
structure IssueIds.Unused (ids : IssueIds) (db : Db) : Prop where
  fresh : db.FreshIds ids
  asset : ∀ a ∈ db.assets.rows, a.id ≠ ids.assetId
  lookupKey : ∀ a ∈ db.assets.rows, a.lookupKey ≠ ids.lookupKey
  record : ∀ r ∈ db.idempotencyRecords.rows, ∀ reference, r.responseReference = some reference →
    reference.versionId ≠ ids.versionId

/-- **Random ids**: those of the calls occur in no row when the calls begin, and are
different from each other. -/
structure FreshIssues (db : Db) (calls : ι → IssueCall) : Prop where
  unused : ∀ i, (calls i).ids.Unused db
  assetId : ∀ {i j}, (calls i).ids.assetId = (calls j).ids.assetId → i = j
  lookupKey : ∀ {i j}, (calls i).ids.lookupKey = (calls j).ids.lookupKey → i = j
  versionId : ∀ {i j}, (calls i).ids.versionId = (calls j).ids.versionId → i = j
  uploadSessionId : ∀ {i j}, (calls i).ids.uploadSessionId = (calls j).ids.uploadSessionId → i = j

/-- The namespace of a request. -/
def Db.FindsNamespace (db : Db) (call : IssueCall) (serviceNamespace : ServiceNamespace) : Prop :=
  db.serviceNamespaces.find? (fun r => r.serviceNamespaceId == call.input.serviceNamespaceId) =
    some serviceNamespace

/-- What the lookups of a transaction find, now as when they were made. -/
structure Db.Finds (db : Db) (call : IssueCall) (scope : IssueScope) : Prop where
  serviceNamespace : db.FindsNamespace call scope.serviceNamespace
  tenant : scope.tenant = resolveTenant db scope.serviceNamespace.id call.input.tenantId
  asset : match call.input.assetId with
    | none => scope.asset = call.newAsset scope.serviceNamespace.id scope.tenant
    | some assetId =>
        loadExistingAsset db assetId scope.serviceNamespace.id scope.tenant call.input.assetOwner =
          .ok scope.asset

/-- A record of the request of a call, with its response. -/
def Db.Records (db : Db) (call : IssueCall) (reference : Option ReplayableUploadReference) : Prop :=
  ∃ r ∈ db.idempotencyRecords.rows, r.key = call.input.idempotencyRecordKey ∧
    r.normalizedRequestHash = some call.input.normalizedRequestHash ∧
    r.responseReference = reference

/-- The response that a result is recorded under. -/
def RegistryIssuedUploadSession.reference (r : RegistryIssuedUploadSession) :
    ReplayableUploadReference where
  assetId := r.assetId
  uploadSessionId := r.uploadSessionId
  versionId := r.versionId

/-- **What holds of a call at each of its locations.** A transaction that has inserted its
version has its number to itself, and one that has inserted its record the key. -/
def IssueInv (call : IssueCall) (s : Session Db IssueRow IssueLocation) (db : Db) : Prop :=
  match s.location with
  | .loadRecord | .findNamespace | .reload _ | .failed _ => s.pending = [] ∧ call.ids.Unused db
  | .replay reference => s.pending = [] ∧ call.ids.Unused db ∧ db.Records call reference
  | .findTenant serviceNamespace =>
      s.pending = [] ∧ call.ids.Unused db ∧ db.FindsNamespace call serviceNamespace
  | .findAsset serviceNamespace tenant =>
      s.pending = [] ∧ call.ids.Unused db ∧ db.FindsNamespace call serviceNamespace ∧
        tenant = resolveTenant db serviceNamespace.id call.input.tenantId
  | .findLatest scope =>
      s.pending = (call.assetStatements scope).map (·.write) ∧ call.ids.Unused db ∧
        db.Finds call scope
  | .persist scope number todo =>
      call.ids.Unused db ∧ db.Finds call scope ∧ 1 ≤ number ∧
        number ≤ db.latestVersionNumber scope.asset.id + 1 ∧
        ∃ done, call.statements scope number = done ++ todo ∧
          s.pending = (call.assetStatements scope ++ done).map (·.write) ∧
          (done ≠ [] → ∀ v ∈ db.assetVersions.rows, v.numberKey ≠ (scope.asset.id, number)) ∧
          (todo = [] → db.idempotencyRecord? call.input.idempotencyRecordKey = none)
  | .issued result => s.pending = [] ∧ db.Records call (some result.reference)
  | .replayed result =>
      s.pending = [] ∧ call.ids.Unused db ∧
        ∃ reference, db.Records call (some reference) ∧ reference.assetId = result.assetId ∧
          reference.uploadSessionId = result.uploadSessionId ∧
          reference.versionId = result.versionId

/-- What holds of the versions and sessions of the registry. -/
structure Db.WellIssued (db : Db) : Prop where
  numbered : db.Numbered
  oneSession : db.OneSession

/-! ### What other calls leave -/

/-- What the steps of others leave a call. -/
structure Db.LeavesIssue (call : IssueCall) (s : Session Db IssueRow IssueLocation) (db db' : Db) :
    Prop where
  unused : call.ids.Unused db → call.ids.Unused db'
  serviceNamespaces : db'.serviceNamespaces = db.serviceNamespaces
  tenantScopes : db'.tenantScopes = db.tenantScopes
  asset : ∀ a ∈ db.assets.rows, a ∈ db'.assets.rows
  latest : ∀ assetId, db.latestVersionNumber assetId ≤ db'.latestVersionNumber assetId
  record : ∀ r ∈ db.idempotencyRecords.rows, r ∈ db'.idempotencyRecords.rows
  lockedVersion : ∀ key, s.Holds (.version key) → (∀ v ∈ db.assetVersions.rows, v.numberKey ≠ key) →
    ∀ v ∈ db'.assetVersions.rows, v.numberKey ≠ key
  lockedRecord : ∀ key, s.Holds (.record key) → db.idempotencyRecord? key = none →
    db'.idempotencyRecord? key = none

section Frame

variable {call : IssueCall} {s : Session Db IssueRow IssueLocation} {db db' : Db}

theorem Db.LeavesIssue.records (h : db.LeavesIssue call s db')
    {reference : Option ReplayableUploadReference} (hrecords : db.Records call reference) :
    db'.Records call reference := by
  obtain ⟨r, hr, hrest⟩ := hrecords
  exact ⟨r, h.record r hr, hrest⟩

theorem Db.LeavesIssue.findsNamespace (h : db.LeavesIssue call s db')
    {serviceNamespace : ServiceNamespace} (hns : db.FindsNamespace call serviceNamespace) :
    db'.FindsNamespace call serviceNamespace := by
  rw [FindsNamespace, h.serviceNamespaces]
  exact hns

theorem Db.LeavesIssue.resolveTenant (h : db.LeavesIssue call s db') (namespaceId : String)
    (tenantId : Option String) :
    Cdngine.resolveTenant db' namespaceId tenantId =
      Cdngine.resolveTenant db namespaceId tenantId := by
  rw [Cdngine.resolveTenant, Cdngine.resolveTenant, h.tenantScopes]

/-- An asset that a call has found is still found. -/
theorem Db.LeavesIssue.finds (h : db.LeavesIssue call s db') {scope : IssueScope}
    (hfinds : db.Finds call scope) : db'.Finds call scope := by
  refine ⟨h.findsNamespace hfinds.serviceNamespace, ?_, ?_⟩
  · rw [h.resolveTenant]
    exact hfinds.tenant
  · have hasset := hfinds.asset
    cases hid : call.input.assetId with
    | none =>
        rw [hid] at hasset
        exact hasset
    | some assetId =>
        rw [hid] at hasset
        obtain ⟨hrow, hrest⟩ := loadExistingAsset_eq_ok_iff.mp hasset
        obtain ⟨hmem, hkey⟩ := Db.asset?_eq_some_iff.mp hrow
        exact loadExistingAsset_eq_ok_iff.mpr
          ⟨Db.asset?_eq_some_iff.mpr ⟨h.asset _ hmem, hkey⟩, hrest⟩

/-- **Frame**: a call that is left alone keeps its invariant. -/
theorem IssueInv.frame (hinv : IssueInv call s db) (h : db.LeavesIssue call s db') :
    IssueInv call s db' := by
  obtain ⟨location, pending⟩ := s
  cases location with
  | replay reference => exact ⟨hinv.1, h.unused hinv.2.1, h.records hinv.2.2⟩
  | findTenant serviceNamespace => exact ⟨hinv.1, h.unused hinv.2.1, h.findsNamespace hinv.2.2⟩
  | findAsset serviceNamespace tenant =>
      obtain ⟨hpending, hunused, hns, htenant⟩ := hinv
      refine ⟨hpending, h.unused hunused, h.findsNamespace hns, ?_⟩
      rw [h.resolveTenant]
      exact htenant
  | findLatest scope => exact ⟨hinv.1, h.unused hinv.2.1, h.finds hinv.2.2⟩
  | persist scope number todo =>
      obtain ⟨hunused, hfinds, hpos, hle, done, hstatements, hpending, hversion, hrecord⟩ := hinv
      dsimp only at hpending
      have hwrite : ∀ st ∈ done, st.write ∈ pending := by
        intro st hst
        rw [hpending]
        exact List.mem_map_of_mem (List.mem_append_right _ hst)
      refine ⟨h.unused hunused, h.finds hfinds, hpos, le_trans hle (Nat.succ_le_succ (h.latest _)),
        done, hstatements, hpending, fun hdone => ?_, fun htodo => ?_⟩
      · cases done with
        | nil => exact absurd rfl hdone
        | cons st done =>
            obtain ⟨rfl, -⟩ := List.cons.inj hstatements
            exact h.lockedVersion _ ⟨_, hwrite _ List.mem_cons_self, rfl⟩ (hversion hdone)
      · subst htodo
        rw [List.append_nil] at hstatements
        have hmem : IssueStatement.createIdempotencyRecord
            (issuedRecord call.input call.ids scope.asset.id call.now) ∈ done := by
          rw [← hstatements]
          simp [IssueCall.statements]
        exact h.lockedRecord _ ⟨_, hwrite _ hmem, rfl⟩ (hrecord rfl)
  | issued result => exact ⟨hinv.1, h.records hinv.2⟩
  | replayed result =>
      obtain ⟨hpending, hunused, reference, hrecords, hsame⟩ := hinv
      exact ⟨hpending, h.unused hunused, reference, h.records hrecords, hsame⟩
  | _ => exact ⟨hinv.1, h.unused hinv.2⟩

/-- The rest of the registry leaves every call alone. -/
theorem Db.SameIssuances.leaves (h : db.SameIssuances db') : db.LeavesIssue call s db' where
  unused hunused := by
    obtain ⟨⟨hversion, hsession, hsessionVersion⟩, hasset, hlookupKey, hrecord⟩ := hunused
    refine ⟨⟨?_, ?_, ?_⟩, ?_, ?_, ?_⟩
    · rwa [h.assetVersions]
    · rwa [h.uploadSessions]
    · rwa [h.uploadSessions]
    · rwa [h.assets]
    · rwa [h.assets]
    · rwa [h.idempotencyRecords]
  serviceNamespaces := h.serviceNamespaces
  tenantScopes := h.tenantScopes
  asset a ha := by rwa [h.assets]
  latest assetId := by rw [Db.latestVersionNumber, Db.latestVersionNumber, h.assetVersions]
  record r hr := by rwa [h.idempotencyRecords]
  lockedVersion key _ hfree := by rwa [h.assetVersions]
  lockedRecord key _ hnone := by rwa [Db.idempotencyRecord?, h.idempotencyRecords]

/-- An issuance of another call leaves a call alone that holds neither its number nor its
key. -/
theorem Db.Gains.leaves {calls : ι → IssueCall} {db₀ : Db} {i j : ι} {assetId : String}
    (hfresh : FreshIssues db₀ calls) (hij : i ≠ j)
    (h : db.Gains (calls j).input (calls j).ids (calls j).now assetId db')
    (hversion : ¬ s.Holds (.version (assetId, db.latestVersionNumber assetId + 1)))
    (hrecord : ¬ s.Holds (.record (calls j).input.idempotencyRecordKey)) :
    db.LeavesIssue (calls i) s db' where
  unused hunused := by
    obtain ⟨⟨hver, hses, hsesver⟩, hasset, hlookupKey, hrec⟩ := hunused
    refine ⟨⟨?_, ?_, ?_⟩, ?_, ?_, ?_⟩
    · rw [h.assetVersions, List.forall_mem_append, List.forall_mem_singleton]
      exact ⟨hver, fun heq => hij (hfresh.versionId heq).symm⟩
    · rw [h.uploadSessions, List.forall_mem_append, List.forall_mem_singleton]
      exact ⟨hses, fun heq => hij (hfresh.uploadSessionId heq).symm⟩
    · rw [h.uploadSessions, List.forall_mem_append, List.forall_mem_singleton]
      exact ⟨hsesver, fun heq => hij (hfresh.versionId heq).symm⟩
    · rcases h.assets with hsame | ⟨a, hrows, hid, -⟩
      · rwa [hsame]
      · rw [hrows, List.forall_mem_append, List.forall_mem_singleton, hid]
        exact ⟨hasset, fun heq => hij (hfresh.assetId heq).symm⟩
    · rcases h.assets with hsame | ⟨a, hrows, -, hkey, -⟩
      · rwa [hsame]
      · rw [hrows, List.forall_mem_append, List.forall_mem_singleton, hkey]
        exact ⟨hlookupKey, fun heq => hij (hfresh.lookupKey heq).symm⟩
    · rw [h.idempotencyRecords, List.forall_mem_append, List.forall_mem_singleton]
      refine ⟨hrec, fun reference hreference heq => ?_⟩
      obtain rfl := Option.some.inj hreference
      exact hij (hfresh.versionId heq).symm
  serviceNamespaces := h.serviceNamespaces
  tenantScopes := h.tenantScopes
  asset a ha := by
    rcases h.assets with hsame | ⟨b, hrows, -⟩
    · rwa [hsame]
    · rw [hrows]
      exact List.mem_append_left _ ha
  latest := Db.latestVersionNumber_le_append h.assetVersions
  record r hr := by
    rw [h.idempotencyRecords]
    exact List.mem_append_left _ hr
  lockedVersion key hholds hfree v hv heq := by
    rw [h.assetVersions] at hv
    rcases List.mem_append.mp hv with hold | hnew
    · exact hfree v hold heq
    · obtain rfl := List.mem_singleton.mp hnew
      subst heq
      exact hversion hholds
  lockedRecord key hholds hnone := by
    rw [Db.idempotencyRecord?, Table.find?, h.idempotencyRecords, List.find?_append]
    have hold : List.find? (fun r => r.key == key) db.idempotencyRecords.rows = none := hnone
    rw [hold, Option.none_or]
    refine List.find?_eq_none.mpr fun r hr => ?_
    obtain rfl := List.mem_singleton.mp hr
    intro heq
    obtain rfl := eq_of_beq heq
    exact hrecord hholds

end Frame

/-! ### The insertions of a transaction -/

/-- Insertions that are not of records leave the records. -/
theorem applyAll_idempotencyRecords {ss : List IssueStatement} (db : Db)
    (hss : ∀ s ∈ ss, ∀ row, s ≠ .createIdempotencyRecord row) :
    (applyAll (ss.map (·.write)) db).idempotencyRecords = db.idempotencyRecords := by
  induction ss generalizing db with
  | nil => rfl
  | cons s ss ih =>
      have hs := hss s List.mem_cons_self
      rw [List.map_cons, applyAll_cons, ih _ fun x hx => hss x (List.mem_cons_of_mem _ hx)]
      simp only [IssueStatement.write, keepOnError]
      cases happly : s.apply db with
      | error e => rfl
      | ok db' =>
          cases s with
          | createIdempotencyRecord row => exact absurd rfl (hs row)
          | createAsset row => obtain ⟨t, -, rfl⟩ := write_eq_ok.mp happly; rfl
          | createAssetVersion row => obtain ⟨t, -, rfl⟩ := write_eq_ok.mp happly; rfl
          | createUploadSession row => obtain ⟨t, -, rfl⟩ := write_eq_ok.mp happly; rfl

/-- Where a statement of a transaction stands in it. -/
theorem IssueCall.statements_split {call : IssueCall} {scope : IssueScope} {number : Nat}
    {done todo : List IssueStatement} {s : IssueStatement}
    (h : call.statements scope number = done ++ s :: todo) :
    (done = [] ∧ s = .createAssetVersion (issuedVersion call.input call.ids scope.asset.id number) ∧
      todo ≠ []) ∨
    (done ≠ [] ∧ todo ≠ [] ∧ (∀ x ∈ s :: done, ∀ row, x ≠ .createIdempotencyRecord row)) ∨
    (done ≠ [] ∧ todo = [] ∧ (∀ x ∈ done, ∀ row, x ≠ .createIdempotencyRecord row) ∧
      s = .createIdempotencyRecord (issuedRecord call.input call.ids scope.asset.id call.now)) := by
  unfold statements at h
  match done, h with
  | [], h =>
      obtain ⟨rfl, rfl⟩ := List.cons.inj h
      exact .inl ⟨rfl, rfl, by simp⟩
  | [a], h =>
      obtain ⟨rfl, htail⟩ := List.cons.inj h
      obtain ⟨rfl, rfl⟩ := List.cons.inj htail
      exact .inr (.inl ⟨by simp, by simp, by simp⟩)
  | [a, b], h =>
      obtain ⟨rfl, htail⟩ := List.cons.inj h
      obtain ⟨rfl, hlast⟩ := List.cons.inj htail
      obtain ⟨rfl, rfl⟩ := List.cons.inj hlast
      exact .inr (.inr ⟨by simp, rfl, by simp, rfl⟩)
  | _ :: _ :: _ :: done, h =>
      have hlength := congrArg List.length h
      simp at hlength

/-- The insertion of an asset changes the assets at most. -/
theorem IssueCall.applyAll_assetStatements (call : IssueCall) (scope : IssueScope) (db : Db) :
    ∃ assets, applyAll ((call.assetStatements scope).map (·.write)) db = { db with assets } := by
  unfold assetStatements
  split
  · simp only [List.map_cons, List.map_nil, applyAll_cons, applyAll_nil, IssueStatement.write,
      keepOnError]
    cases happly : (IssueStatement.createAsset scope.asset).apply db with
    | error e => exact ⟨db.assets, rfl⟩
    | ok db' =>
        obtain ⟨t, -, rfl⟩ := write_eq_ok.mp happly
        exact ⟨t, rfl⟩
  · exact ⟨db.assets, rfl⟩

/-! ### The steps of a call -/

section Steps

variable {call : IssueCall} {s : Session Db IssueRow IssueLocation} {db : Db} {next : IssueLocation}

/-- A replay answers with the session that its reference names. -/
theorem loadIssuedUploadSessionReplay_reference {reference : Option ReplayableUploadReference}
    {result : RegistryIssuedUploadSession}
    (h : loadIssuedUploadSessionReplay db reference = .ok result) :
    ∃ parsed, reference = some parsed ∧ parsed.assetId = result.assetId ∧
      parsed.uploadSessionId = result.uploadSessionId ∧ parsed.versionId = result.versionId := by
  unfold loadIssuedUploadSessionReplay at h
  split at h
  · cases h
  · rename_i parsed
    split at h
    · cases h
    · split at h
      · rename_i session hsession
        split at h
        · rename_i hsame
          obtain rfl := Except.ok.inj h
          obtain ⟨row, hrow, rfl⟩ := Option.map_eq_some_iff.mp hsession
          exact ⟨parsed, rfl, hsame.1.symm, (Db.findUploadSession_id hrow).symm, hsame.2.symm⟩
        · cases h
      · cases h

/-- A record of the key of a call leads to a conflict, or to its replay. -/
theorem IssueCall.found_inv (hunused : call.ids.Unused db) {record : IdempotencyRecord}
    (hrecord : db.idempotencyRecord? call.input.idempotencyRecordKey = some record) :
    IssueInv call ⟨call.found record, []⟩ db := by
  obtain ⟨hmem, hkey⟩ := Db.idempotencyRecord?_eq_some_iff.mp hrecord
  unfold found
  split
  · exact ⟨rfl, hunused⟩
  · rename_i hhash
    exact ⟨rfl, hunused, record, hmem, hkey, not_not.mp hhash, rfl⟩

/-- What a transaction that has only found its asset sees of the versions. -/
theorem IssueCall.view_assetVersions {scope : IssueScope}
    (hpending : s.pending = (call.assetStatements scope).map (·.write)) :
    (s.view db).assetVersions = db.assetVersions := by
  obtain ⟨assets, hassets⟩ := call.applyAll_assetStatements scope db
  rw [Session.view, hpending, hassets]

theorem IssueInv.query (hinv : IssueInv call s db)
    (h : issueCode call s.location (s.view db) = .query next) :
    IssueInv call ⟨next, s.pending⟩ db := by
  obtain ⟨location, pending⟩ := s
  cases location with
  | loadRecord =>
      obtain ⟨rfl, hunused⟩ := hinv
      simp only [issueCode, Session.view, applyAll_nil] at h
      split at h
      · rename_i record hrecord
        obtain rfl := Action.query.inj h
        exact IssueCall.found_inv hunused hrecord
      · obtain rfl := Action.query.inj h
        exact ⟨rfl, hunused⟩
  | replay reference =>
      obtain ⟨rfl, hunused, hrecords⟩ := hinv
      simp only [issueCode, Session.view, applyAll_nil] at h
      split at h
      · rename_i result hresult
        obtain rfl := Action.query.inj h
        obtain ⟨parsed, rfl, hsame⟩ := loadIssuedUploadSessionReplay_reference hresult
        exact ⟨rfl, hunused, parsed, hrecords, hsame⟩
      · obtain rfl := Action.query.inj h
        exact ⟨rfl, hunused⟩
  | findNamespace =>
      obtain ⟨rfl, hunused⟩ := hinv
      simp only [issueCode, Session.view, applyAll_nil] at h
      split at h
      · rename_i serviceNamespace hns
        obtain rfl := Action.query.inj h
        exact ⟨rfl, hunused, hns⟩
      · cases h
  | findTenant serviceNamespace =>
      obtain ⟨rfl, hunused, hns⟩ := hinv
      obtain rfl := Action.query.inj h
      exact ⟨rfl, hunused, hns, rfl⟩
  | findAsset serviceNamespace tenant =>
      obtain ⟨rfl, hunused, hns, htenant⟩ := hinv
      simp only [issueCode, Session.view, applyAll_nil] at h
      split at h
      · split at h <;> cases h
      · rename_i assetId hid
        split at h
        · rename_i asset hasset
          obtain rfl := Action.query.inj h
          have hnone : call.assetStatements ⟨serviceNamespace, tenant, asset⟩ = [] := by
            rw [IssueCall.assetStatements, hid]
          refine ⟨by rw [hnone]; rfl, hunused, hns, htenant, ?_⟩
          rw [hid]
          exact hasset
        · cases h
  | findLatest scope =>
      obtain ⟨hpending, hunused, hfinds⟩ := hinv
      obtain rfl := Action.query.inj h
      have hlatest : ∀ assetId, Db.latestVersionNumber
          (Session.view ⟨IssueLocation.findLatest scope, pending⟩ db) assetId =
            db.latestVersionNumber assetId := by
        intro assetId
        rw [Db.latestVersionNumber, IssueCall.view_assetVersions hpending, Db.latestVersionNumber]
      refine ⟨hunused, hfinds, Nat.succ_pos _, ?_, [], rfl, ?_, fun hdone => absurd rfl hdone,
        fun htodo => ?_⟩
      · rw [hlatest]
      · rw [List.append_nil]
        exact hpending
      · cases htodo
  | persist scope number todo =>
      cases todo with
      | nil => cases h
      | cons st todo =>
          simp only [issueCode] at h
          split at h <;> cases h
  | reload e =>
      obtain ⟨rfl, hunused⟩ := hinv
      simp only [issueCode, Session.view, applyAll_nil] at h
      split at h
      · rename_i record hrecord
        obtain rfl := Action.query.inj h
        exact IssueCall.found_inv hunused hrecord
      · obtain rfl := Action.query.inj h
        exact ⟨rfl, hunused⟩
  | _ => cases h

/-- A call begins and ends its transaction in a few locations only. -/
theorem issueCode_locations {location : IssueLocation} {action : Action Db IssueRow IssueLocation}
    (h : issueCode call location db = action) (hquery : ∀ next, action ≠ .query next)
    (hhalt : action ≠ .halt) :
    (location = .findNamespace ∧ ∃ next, action = .rollback next) ∨
      (∃ serviceNamespace tenant, location = .findAsset serviceNamespace tenant) ∨
      ∃ scope number todo, location = .persist scope number todo := by
  cases location with
  | findNamespace =>
      simp only [issueCode] at h
      split at h
      · exact absurd h.symm (hquery _)
      · exact .inl ⟨rfl, _, h.symm⟩
  | findAsset serviceNamespace tenant => exact .inr (.inl ⟨serviceNamespace, tenant, rfl⟩)
  | persist scope number todo => exact .inr (.inr ⟨scope, number, todo, rfl⟩)
  | loadRecord =>
      simp only [issueCode] at h
      split at h <;> exact absurd h.symm (hquery _)
  | replay reference =>
      simp only [issueCode] at h
      split at h <;> exact absurd h.symm (hquery _)
  | reload e =>
      simp only [issueCode] at h
      split at h <;> exact absurd h.symm (hquery _)
  | findTenant serviceNamespace => exact absurd h.symm (hquery _)
  | findLatest scope => exact absurd h.symm (hquery _)
  | _ => exact absurd h.symm hhalt

theorem issueCode_ne_autocommit {location : IssueLocation} {w : Write Db IssueRow} :
    issueCode call location db ≠ .autocommit w next := by
  intro h
  rcases issueCode_locations h (by simp) (by simp) with ⟨-, next', heq⟩ |
    ⟨serviceNamespace, tenant, rfl⟩ | ⟨scope, number, todo, rfl⟩
  · cases heq
  · simp only [issueCode] at h
    split at h <;> split at h <;> cases h
  · cases todo with
    | nil => cases h
    | cons st todo =>
        simp only [issueCode] at h
        split at h <;> cases h

/-- An error inside the transaction leaves nothing of it. -/
theorem IssueInv.afterError (hunused : call.ids.Unused db) (e : RegistryError) :
    IssueInv call ⟨afterError e, []⟩ db := by
  unfold Cdngine.afterError
  split
  · exact ⟨rfl, hunused⟩
  · exact ⟨rfl, hunused⟩

theorem IssueInv.rollback (hinv : IssueInv call s db)
    (h : issueCode call s.location (s.view db) = .rollback next) :
    IssueInv call ⟨next, []⟩ db := by
  have hlocations := issueCode_locations h (by simp) (by simp)
  obtain ⟨location, pending⟩ := s
  dsimp only at hlocations
  rcases hlocations with ⟨rfl, -⟩ | ⟨serviceNamespace, tenant, rfl⟩ | ⟨scope, number, todo, rfl⟩
  · simp only [issueCode] at h
    split at h
    · cases h
    · obtain rfl := Action.rollback.inj h
      exact .afterError hinv.2 _
  · simp only [issueCode] at h
    split at h <;> split at h
    · cases h
    · obtain rfl := Action.rollback.inj h
      exact .afterError hinv.2.1 _
    · cases h
    · obtain rfl := Action.rollback.inj h
      exact .afterError hinv.2.1 _
  · cases todo with
    | nil => cases h
    | cons st todo =>
        simp only [issueCode] at h
        split at h
        · cases h
        · obtain rfl := Action.rollback.inj h
          exact .afterError hinv.1 _

/-- **An insertion** of a version finds its number free, and one of a record its key. -/
theorem IssueInv.write {w : Write Db IssueRow} (hinv : IssueInv call s db)
    (h : issueCode call s.location (s.view db) = .write w next) :
    IssueInv call ⟨next, s.pending ++ [w]⟩ db := by
  have hlocations := issueCode_locations h (by simp) (by simp)
  obtain ⟨location, pending⟩ := s
  dsimp only at hlocations
  rcases hlocations with ⟨-, next', heq⟩ | ⟨serviceNamespace, tenant, rfl⟩ |
    ⟨scope, number, todo, rfl⟩
  · cases heq
  · obtain ⟨rfl, hunused, hns, htenant⟩ := hinv
    simp only [issueCode] at h
    split at h
    · rename_i hid
      split at h
      · obtain ⟨rfl, rfl⟩ := Action.write.inj h
        refine ⟨?_, hunused, hns, htenant, ?_⟩
        · simp only [IssueCall.assetStatements, hid]
          rfl
        · rw [hid]
      · cases h
    · split at h <;> cases h
  · obtain ⟨hunused, hfinds, hpos, hle, done, hstatements, hpending, hversion, -⟩ := hinv
    dsimp only at hpending
    cases todo with
    | nil => cases h
    | cons st todo =>
        simp only [issueCode] at h
        split at h
        · rename_i db' happly
          obtain ⟨rfl, rfl⟩ := Action.write.inj h
          have hdone : call.statements scope number = (done ++ [st]) ++ todo := by
            rw [hstatements, List.append_assoc, List.singleton_append]
          have hpending' : pending ++ [st.write] =
              (call.assetStatements scope ++ (done ++ [st])).map (·.write) := by
            rw [hpending, ← List.append_assoc, @List.map_append _ _ _ _ [st], List.map_singleton]
          refine ⟨hunused, hfinds, hpos, hle, done ++ [st], hdone, hpending', fun _ => ?_,
            fun htodo => ?_⟩
          · rcases IssueCall.statements_split hstatements with ⟨rfl, rfl, -⟩ | ⟨hne, -⟩ | ⟨hne, -⟩
            · obtain ⟨t, ht, -⟩ := write_eq_ok.mp happly
              rw [List.append_nil] at hpending
              rw [IssueCall.view_assetVersions hpending] at ht
              intro v hv
              exact (AssetVersion.clash_eq_false_iff.mp ((Table.insert_eq_ok_iff.mp ht).1 v hv)).2.2
            · exact hversion hne
            · exact hversion hne
          · rcases IssueCall.statements_split hstatements with ⟨-, -, hne⟩ | ⟨-, hne, -⟩ |
              ⟨-, -, hnone, rfl⟩
            · exact absurd htodo hne
            · exact absurd htodo hne
            · have hfree := Db.createIdempotencyRecord_ok_iff.mp ⟨db', happly⟩
              have hrecords : (Session.view ⟨IssueLocation.persist scope number
                  (.createIdempotencyRecord
                    (issuedRecord call.input call.ids scope.asset.id call.now) :: todo), pending⟩
                  db).idempotencyRecords = db.idempotencyRecords := by
                obtain ⟨assets, hassets⟩ := call.applyAll_assetStatements scope db
                rw [Session.view, hpending, List.map_append, applyAll_append, hassets,
                  applyAll_idempotencyRecords _ hnone]
              rw [Db.idempotencyRecord?, hrecords] at hfree
              exact hfree
        · cases h

/-- An asset under new ids can be created. -/
theorem insert_newAsset {call : IssueCall} (hunused : call.ids.Unused db) (namespaceId : String)
    (tenant : Option TenantScope) :
    ∃ t, db.assets.insert (call.newAsset namespaceId tenant) = .ok t := by
  refine Table.exists_insert_iff.mpr fun a ha => ?_
  rw [← Bool.not_eq_true]
  simp only [clash, Bool.or_eq_true, sameKey_eq_true, sameNonNullKey_eq_true, not_or, not_and]
  refine ⟨hunused.asset a ha, fun hsome hkey => ?_⟩
  obtain ⟨tenantA, htenantA⟩ := Option.isSome_iff_exists.mp hsome
  rw [htenantA] at hkey
  obtain ⟨_, -, hA⟩ := Option.map_eq_some_iff.mp htenantA
  obtain ⟨_, -, hB⟩ := Option.map_eq_some_iff.mp hkey.symm
  have hlookup : a.lookupKey = call.ids.lookupKey :=
    congrArg (fun k : String × String × String => k.2.2) (hA.trans hB.symm)
  exact hunused.lookupKey a ha hlookup

/-- The asset insertion of a call that finds its scope. -/
theorem Db.Finds.issueAsset {scope : IssueScope} (hfinds : db.Finds call scope)
    (hunused : call.ids.Unused db) :
    Cdngine.issueAsset db call.input call.ids scope.serviceNamespace.id
        (resolveTenant db scope.serviceNamespace.id call.input.tenantId) =
      .ok (scope.asset, applyAll ((call.assetStatements scope).map (·.write)) db) := by
  have hasset := hfinds.asset
  rw [← hfinds.tenant]
  unfold Cdngine.issueAsset IssueCall.assetStatements
  cases hid : call.input.assetId with
  | some assetId =>
      rw [hid] at hasset
      exact bind_eq_ok.mpr ⟨scope.asset, hasset, rfl⟩
  | none =>
      rw [hid] at hasset
      obtain ⟨t, ht⟩ : ∃ t, db.assets.insert scope.asset = .ok t :=
        hasset ▸ insert_newAsset hunused _ _
      have hcreate : db.createAsset scope.asset = .ok { db with assets := t } :=
        write_eq_ok.mpr ⟨t, ht, rfl⟩
      have heffect : applyAll ([IssueStatement.createAsset scope.asset].map (·.write)) db =
          { db with assets := t } := by
        simp only [List.map_cons, List.map_nil, applyAll_cons, applyAll_nil, IssueStatement.write,
          IssueStatement.apply, hcreate, keepOnError]
      rw [heffect]
      refine bind_eq_ok.mpr ⟨{ db with assets := t }, ?_, ?_⟩
      · rw [← hcreate, hasset]
        rfl
      · rw [hasset]
        rfl

/-- **The commit of a call is its transaction, run at once** on the committed registry; the
call holds the number and the key. -/
theorem IssueInv.commit (hwell : db.WellIssued) (hinv : IssueInv call s db)
    (h : issueCode call s.location (s.view db) = .commit next) :
    ∃ result, next = .issued result ∧
      issueTransaction call.input call.ids call.now db = .ok (result, s.view db) ∧
      s.Holds (.version (result.assetId, db.latestVersionNumber result.assetId + 1)) ∧
      s.Holds (.record call.input.idempotencyRecordKey) := by
  have hlocations := issueCode_locations h (by simp) (by simp)
  obtain ⟨location, pending⟩ := s
  dsimp only at hlocations
  rcases hlocations with ⟨-, next', heq⟩ | ⟨serviceNamespace, tenant, rfl⟩ |
    ⟨scope, number, todo, rfl⟩
  · cases heq
  · simp only [issueCode] at h
    split at h <;> split at h <;> cases h
  · obtain ⟨hunused, hfinds, hpos, hle, done, hstatements, hpending, hversion, hrecord⟩ := hinv
    dsimp only at hpending
    cases todo with
    | cons st todo =>
        simp only [issueCode] at h
        split at h <;> cases h
    | nil =>
        obtain rfl := Action.commit.inj h
        rw [List.append_nil] at hstatements
        subst hstatements
        -- the number is the next one: it is free, and all that are smaller are taken
        have hnumber : number = db.latestVersionNumber scope.asset.id + 1 := by
          have hfree := hversion (by simp [IssueCall.statements])
          by_contra hne
          have htaken : ∃ v ∈ db.assetVersions.rows, v.numberKey = (scope.asset.id, number) :=
            hwell.numbered.mem_iff.mpr ⟨hpos, by omega⟩
          obtain ⟨v, hv, hkey⟩ := htaken
          exact hfree v hv hkey
        have hasset := hfinds.issueAsset hunused
        obtain ⟨assets, hassets⟩ := call.applyAll_assetStatements scope db
        obtain ⟨db₂, h₂⟩ :=
          @createAssetVersion_ok { db with assets } call.ids call.input scope.asset.id
          hunused.fresh.version
        obtain ⟨db₃, h₃⟩ : ∃ db₃, db₂.createUploadSession
            (issuedSession call.input call.ids call.now) = .ok db₃ := by
          obtain ⟨t₂, -, rfl⟩ := write_eq_ok.mp h₂
          exact createUploadSession_ok _ hunused.fresh.session hunused.fresh.sessionVersion
        obtain ⟨db₄, h₄⟩ : ∃ db₄, db₃.createIdempotencyRecord
            (issuedRecord call.input call.ids scope.asset.id call.now) = .ok db₄ := by
          obtain ⟨t₂, -, rfl⟩ := write_eq_ok.mp h₂
          obtain ⟨t₃, -, rfl⟩ := write_eq_ok.mp h₃
          exact Db.createIdempotencyRecord_ok_iff.mpr (hrecord rfl)
        have hlatest : ({ db with assets } : Db).latestVersionNumber scope.asset.id + 1 = number :=
          hnumber.symm
        rw [hlatest] at h₂
        have hview : Session.view ⟨IssueLocation.persist scope number [], pending⟩ db = db₄ := by
          rw [Session.view, hpending, List.map_append, applyAll_append, hassets]
          simp only [IssueCall.statements, List.map_cons, List.map_nil, applyAll_cons, applyAll_nil,
            IssueStatement.write, IssueStatement.apply, h₂, h₃, h₄, keepOnError]
        have hheld : ∀ st ∈ call.statements scope number, st.write ∈ pending := by
          intro st hst
          rw [hpending]
          exact List.mem_map_of_mem (List.mem_append_right _ hst)
        refine ⟨call.result scope number, rfl, ?_, ⟨_, hheld _ List.mem_cons_self, ?_⟩,
          ⟨_, hheld _ (List.mem_cons_of_mem _ (List.mem_cons_of_mem _ List.mem_cons_self)), rfl⟩⟩
        · rw [hview]
          have hns := hfinds.serviceNamespace
          unfold Db.FindsNamespace at hns
          simp only [issueTransaction, hns]
          refine bind_eq_ok.mpr ⟨_, hasset, ?_⟩
          rw [hassets]
          refine bind_eq_ok.mpr ⟨db₂, ?_, bind_eq_ok.mpr ⟨db₃, h₃, bind_eq_ok.mpr ⟨db₄, h₄, ?_⟩⟩⟩
          · exact hlatest ▸ h₂
          · simp only [IssueCall.result, hfinds.tenant, hlatest]
            rfl
        · rw [hnumber]
          rfl

end Steps

/-! ### The invariant -/

section Invariant

variable {calls : ι → IssueCall} {db₀ : Db}

/-- The record of an issuance is one of its request, with its response. -/
theorem Db.Gains.records {call : IssueCall} {db db' : Db} {result : RegistryIssuedUploadSession}
    (h : db.Gains call.input call.ids call.now result.assetId db')
    (hversion : result.versionId = call.ids.versionId)
    (hsession : result.uploadSessionId = call.ids.uploadSessionId) :
    db'.Records call (some result.reference) := by
  refine ⟨issuedRecord call.input call.ids result.assetId call.now, ?_, rfl, rfl, ?_⟩
  · rw [h.idempotencyRecords]
    exact List.mem_append_right _ List.mem_cons_self
  · simp only [issuedRecord, RegistryIssuedUploadSession.reference, hversion, hsession]

/-- **The invariant of the calls**, over every interleaving. -/
theorem issue_invariant (hfresh : FreshIssues db₀ calls) :
    LocalInvariant (fun i => issueCode (calls i)) Db.SameIssuances (fun _ _ _ => True)
      Db.WellIssued (fun i s db => IssueInv (calls i) s db) where
  query _ hinv _ h := hinv.query h
  write _ hinv _ h := hinv.write h
  rollback _ hinv _ h := hinv.rollback h
  autocommit _ _ _ h := absurd h issueCode_ne_autocommit
  autocommit_frame _ _ _ h := absurd h issueCode_ne_autocommit
  commit {i s db next} hwell hinv _ h := by
    obtain ⟨result, rfl, htx, -, -⟩ := hinv.commit hwell h
    obtain ⟨hgains, hversion, hsession⟩ := issueTransaction_rows htx
    exact ⟨⟨hwell.numbered.issue hgains, hwell.oneSession.issue hgains⟩, rfl,
      hgains.records hversion hsession⟩
  commit_frame {i j s s' db next} hwell hinv _ h hji hapart hother := by
    obtain ⟨result, -, htx, hnumber, hkey⟩ := hinv.commit hwell h
    obtain ⟨hgains, -, -⟩ := issueTransaction_rows htx
    exact hother.frame (hgains.leaves hfresh hji (hapart _ hnumber) (hapart _ hkey))
  environment {db db'} hwell henv := by
    refine ⟨fun assetId => ?_, ?_⟩
    · obtain ⟨n, hn⟩ := hwell.numbered assetId
      exact ⟨n, by rwa [Db.versionNumbers, henv.assetVersions]⟩
    · rw [Db.OneSession, henv.assetVersions, henv.uploadSessions]
      exact hwell.oneSession
  environment_frame _ henv hinv := hinv.frame henv.leaves

/-- The invariant holds before the first statement. -/
theorem issueSystem_satisfies {db : Db} (hfresh : FreshIssues db calls) (hwell : db.WellIssued) :
    (issueSystem db : IssueSystem ι).Satisfies Db.WellIssued
      (fun i s db => IssueInv (calls i) s db) where
  exclusive := System.exclusive_of_idle fun _ => rfl
  db := hwell
  own i := ⟨rfl, hfresh.unused i⟩

end Invariant

/-! ### The law of the calls -/

/-- Two calls of one caller under one key. -/
def IssueCall.SameKey (call call' : IssueCall) : Prop :=
  call.input.callerScopeKey = call'.input.callerScopeKey ∧
    call.input.idempotencyKey = call'.input.idempotencyKey

/-- **The law of the calls**, in one state. -/
structure IssueLaw (calls : ι → IssueCall) (sys : IssueSystem ι) : Prop where
  /-- The versions of each asset are numbered from one, without gaps or duplicates. -/
  numbered : sys.db.Numbered
  /-- Each version has exactly one upload session. -/
  one_session : sys.db.OneSession
  /-- Calls with one caller, key and hash that succeed return the same ids. -/
  same_ids {i j : ι} {r r' : RegistryIssuedUploadSession} : (calls i).SameKey (calls j) →
    (calls i).input.normalizedRequestHash = (calls j).input.normalizedRequestHash →
    (sys.session i).location.result = some r → (sys.session j).location.result = some r' →
    r.assetId = r'.assetId ∧ r.versionId = r'.versionId ∧ r.uploadSessionId = r'.uploadSessionId
  /-- Of calls with one caller and key and different hashes, no two succeed. -/
  one_hash {i j : ι} {r : RegistryIssuedUploadSession} : (calls i).SameKey (calls j) →
    (calls i).input.normalizedRequestHash ≠ (calls j).input.normalizedRequestHash →
    (sys.session i).location.result = some r → (sys.session j).location.result = none
  /-- A call that fails leaves no row. -/
  leaves_nothing {i : ι} {e : RegistryError} : (sys.session i).location = .failed e →
    (calls i).ids.Unused sys.db

/-- **A reused key is rejected**: a call that looks its record up, first or after a unique
violation, when a call of its caller and key with another hash has succeeded, fails with a
conflict. -/
def Transition.RejectsKey (calls : ι → IssueCall)
    (τ : Transition (IssueSystem ι) (Event ι Db)) : Prop :=
  ∀ {i j r}, (calls i).SameKey (calls j) →
    (calls i).input.normalizedRequestHash ≠ (calls j).input.normalizedRequestHash →
    (τ.before.session i).location.result = some r → τ.action = .session j →
    ((τ.before.session j).location = .loadRecord ∨ ∃ e, (τ.before.session j).location = .reload e) →
    (τ.after.session j).location =
      .failed (.uploadSessionIdempotencyConflict (calls j).input.idempotencyKey)

/-- **A call writes all at once or nothing**: its step leaves the registry as it is, or
commits what its transaction does when it is run alone. -/
def Transition.CommitsAtOnce (calls : ι → IssueCall)
    (τ : Transition (IssueSystem ι) (Event ι Db)) : Prop :=
  ∀ i, τ.action = .session i → τ.after.db = τ.before.db ∨
    ∃ r, (τ.after.session i).location = .issued r ∧
      issueTransaction (calls i).input (calls i).ids (calls i).now τ.before.db = .ok (r, τ.after.db)

section Law

variable {calls : ι → IssueCall} {sys sys' : IssueSystem ι} {i j : ι}

theorem IssueCall.SameKey.recordKey {call call' : IssueCall} (h : call.SameKey call') :
    call.input.idempotencyRecordKey = call'.input.idempotencyRecordKey := by
  simp only [RegistryIssueUploadSessionInput.idempotencyRecordKey, h.1, h.2]

/-- What a call has returned is recorded under its key. -/
theorem IssueInv.result {call : IssueCall} {s : Session Db IssueRow IssueLocation} {db : Db}
    {r : RegistryIssuedUploadSession} (hinv : IssueInv call s db) (h : s.location.result = some r) :
    ∃ reference, db.Records call (some reference) ∧ reference.assetId = r.assetId ∧
      reference.uploadSessionId = r.uploadSessionId ∧ reference.versionId = r.versionId := by
  obtain ⟨location, pending⟩ := s
  cases location with
  | issued result =>
      obtain rfl := Option.some.inj h
      exact ⟨_, hinv.2, rfl, rfl, rfl⟩
  | replayed result =>
      obtain rfl := Option.some.inj h
      exact hinv.2.2
  | _ => cases h

/-- Two records of one key are one. -/
theorem Db.Records.same {call call' : IssueCall} {db : Db}
    {reference reference' : Option ReplayableUploadReference} (h : db.Records call reference)
    (h' : db.Records call' reference') (hkey : call.SameKey call') :
    reference = reference' ∧
      call.input.normalizedRequestHash = call'.input.normalizedRequestHash := by
  obtain ⟨r, hr, hrkey, hhash, rfl⟩ := h
  obtain ⟨r', hr', hrkey', hhash', rfl⟩ := h'
  have hsame : r.key = r'.key := by rw [hrkey, hrkey', hkey.recordKey]
  obtain rfl := Table.eq_of_clash hr hr' (by simp [clash, hsame])
  exact ⟨rfl, Option.some.inj (hhash.symm.trans hhash')⟩

/-- The invariant gives the law. -/
theorem issueLaw_of_satisfies
    (h : sys.Satisfies Db.WellIssued (fun i s db => IssueInv (calls i) s db)) :
    IssueLaw calls sys where
  numbered := h.db.numbered
  one_session := h.db.oneSession
  same_ids {i j r r'} hkey _ hi hj := by
    obtain ⟨reference, hrecords, hasset, hsession, hversion⟩ := (h.own i).result hi
    obtain ⟨reference', hrecords', hasset', hsession', hversion'⟩ := (h.own j).result hj
    obtain ⟨hsame, -⟩ := hrecords.same hrecords' hkey
    obtain rfl := Option.some.inj hsame
    exact ⟨hasset.symm.trans hasset', hversion.symm.trans hversion', hsession.symm.trans hsession'⟩
  one_hash {i j r} hkey hhash hi := by
    cases hj : (sys.session j).location.result with
    | none => rfl
    | some r' =>
        obtain ⟨reference, hrecords, -⟩ := (h.own i).result hi
        obtain ⟨reference', hrecords', -⟩ := (h.own j).result hj
        exact absurd (hrecords.same hrecords' hkey).2 hhash
  leaves_nothing {i e} hi := by
    have hown := h.own i
    rw [IssueInv, hi] at hown
    exact hown.2

/-- A call that finds the record of another hash. -/
theorem IssueCall.found_conflict {call call' : IssueCall} {db : Db} {record : IdempotencyRecord}
    {reference : Option ReplayableUploadReference}
    (hrecord : db.idempotencyRecord? call'.input.idempotencyRecordKey = some record)
    (hrecords : db.Records call reference) (hkey : call.SameKey call')
    (hhash : call.input.normalizedRequestHash ≠ call'.input.normalizedRequestHash) :
    call'.found record =
      .failed (.uploadSessionIdempotencyConflict call'.input.idempotencyKey) := by
  obtain ⟨r, hr, hrkey, hrhash, -⟩ := hrecords
  have hfound := Db.idempotencyRecord?_eq_some_iff.mpr ⟨hr, hrkey.trans hkey.recordKey⟩
  obtain rfl := Option.some.inj (hrecord.symm.trans hfound)
  rw [found, hrhash, if_pos]
  exact fun heq => hhash (Option.some.inj heq)

variable [DecidableEq ι]

theorem issue_rejectsKey {e : Event ι Db}
    (h : sys.Satisfies Db.WellIssued (fun i s db => IssueInv (calls i) s db))
    (hstep : IssueStep calls sys e sys') : Transition.RejectsKey calls ⟨sys, e, sys'⟩ := by
  intro i j r hkey hhash hi haction hj
  obtain rfl : e = .session j := haction
  dsimp only at hi hj ⊢
  obtain ⟨reference, hrecords, -⟩ := (h.own i).result hi
  have hown := h.own j
  have hpending : (sys.session j).pending = [] := by
    rcases hj with hj | ⟨e, hj⟩ <;>
    · rw [IssueInv, hj] at hown
      exact hown.1
  obtain ⟨record, hrecord⟩ : ∃ record,
      sys.db.idempotencyRecord? (calls j).input.idempotencyRecordKey = some record := by
    obtain ⟨r, hr, hrkey, -⟩ := hrecords
    exact ⟨r, Db.idempotencyRecord?_eq_some_iff.mpr ⟨hr, hrkey.trans hkey.recordKey⟩⟩
  have hcode : issueCode (calls j) (sys.session j).location ((sys.session j).view sys.db) =
      .query (.failed (.uploadSessionIdempotencyConflict (calls j).input.idempotencyKey)) := by
    rw [Session.view, hpending, applyAll_nil,
      ← IssueCall.found_conflict hrecord hrecords hkey hhash]
    rcases hj with hj | ⟨e, hj⟩
    · rw [hj]
      simp only [issueCode, hrecord]
    · rw [hj]
      simp only [issueCode, hrecord]
  cases step_cases hstep with
  | query hquery =>
      obtain rfl := Action.query.inj (hcode.symm.trans hquery)
      rw [System.set_session_self]
  | write hother => cases hcode.symm.trans hother
  | autocommit hother => cases hcode.symm.trans hother
  | commit hother => cases hcode.symm.trans hother
  | rollback hother => cases hcode.symm.trans hother

theorem issue_commitsAtOnce {e : Event ι Db}
    (h : sys.Satisfies Db.WellIssued (fun i s db => IssueInv (calls i) s db))
    (hstep : IssueStep calls sys e sys') : Transition.CommitsAtOnce calls ⟨sys, e, sys'⟩ := by
  intro i haction
  obtain rfl : e = .session i := haction
  cases step_cases hstep with
  | query hcode => exact .inl rfl
  | write hcode hfree => exact .inl rfl
  | autocommit hcode hfree => exact absurd hcode issueCode_ne_autocommit
  | rollback hcode => exact .inl rfl
  | commit hcode =>
      obtain ⟨result, rfl, htx, -, -⟩ := (h.own i).commit h.db hcode
      exact .inr ⟨result, by rw [System.set_session_self], htx⟩

end Law

/-- **Issuances at once.** In every state of every run the law of the calls holds; a reused
key is rejected with a conflict by every call that looks it up once another request has succeeded
under it; and a call writes all at once or nothing. A call that was in flight at that success may
also fail for a reason of its own, an unknown asset say, and never look the key up again. -/
theorem issuances_interleave [DecidableEq ι] {calls : ι → IssueCall} {db : Db}
    {sys' : IssueSystem ι} {tr : List (Transition (IssueSystem ι) (Event ι Db))}
    (hfresh : FreshIssues db calls) (hwell : db.WellIssued)
    (hrun : Run (IssueStep calls) (issueSystem db) tr sys') :
    IssueLaw calls sys' ∧
      ∀ τ ∈ tr, IssueLaw calls τ.before ∧ IssueLaw calls τ.after ∧
        Transition.RejectsKey calls τ ∧ Transition.CommitsAtOnce calls τ := by
  obtain ⟨hlast, hall⟩ := (issue_invariant hfresh).holds hrun (issueSystem_satisfies hfresh hwell)
    fun _ _ _ _ => trivial
  refine ⟨issueLaw_of_satisfies hlast, fun τ hτ => ?_⟩
  obtain ⟨hbefore, hafter⟩ := hall τ hτ
  have hstep := hrun.step_of_mem τ hτ
  exact ⟨issueLaw_of_satisfies hbefore, issueLaw_of_satisfies hafter,
    issue_rejectsKey hbefore hstep, issue_commitsAtOnce hbefore hstep⟩

/-- Three issuances of a version of the sample asset under one key, the last of them with
another hash. -/
def oneKeyIssues (i : Fin 3) : IssueCall where
  input :=
    { sampleIssue "key-1" with
      assetId := some "asset-a"
      normalizedRequestHash := if i.val = 2 then "other-hash" else "issue-hash" }
  ids := sampleIds (toString i.val)
  now := 20

theorem sampleRegistry_wellIssued : (sampleRegistry.issueSample "a").WellIssued := by
  have hissue : issueTransaction (sampleIssue "a") (sampleIds "a") 10 sampleRegistry =
      .ok (_, sampleRegistry.issueSample "a") := rfl
  have hempty : sampleRegistry.Numbered := fun assetId => ⟨0, List.Perm.refl _⟩
  have hnone : sampleRegistry.OneSession := fun v hv => by cases hv
  obtain ⟨hgains, -⟩ := issueTransaction_rows hissue
  exact ⟨hempty.issue hgains, hnone.issue hgains⟩

theorem oneKeyIssues_fresh : FreshIssues (sampleRegistry.issueSample "a") oneKeyIssues where
  unused i := by
    have hrows : ∀ i : Fin 3,
        (∀ v ∈ (sampleRegistry.issueSample "a").assetVersions.rows,
          v.id ≠ (oneKeyIssues i).ids.versionId) ∧
        (∀ s ∈ (sampleRegistry.issueSample "a").uploadSessions.rows,
          s.id ≠ (oneKeyIssues i).ids.uploadSessionId ∧
            s.assetVersionId ≠ (oneKeyIssues i).ids.versionId) ∧
        (∀ a ∈ (sampleRegistry.issueSample "a").assets.rows,
          a.id ≠ (oneKeyIssues i).ids.assetId ∧ a.lookupKey ≠ (oneKeyIssues i).ids.lookupKey) ∧
        ∀ r ∈ (sampleRegistry.issueSample "a").idempotencyRecords.rows,
          ∀ reference ∈ r.responseReference,
            reference.versionId ≠ (oneKeyIssues i).ids.versionId := by
      decide +kernel
    obtain ⟨hversion, hsession, hasset, hrecord⟩ := hrows i
    exact ⟨⟨hversion, fun s hs => (hsession s hs).1, fun s hs => (hsession s hs).2⟩,
      fun a ha => (hasset a ha).1, fun a ha => (hasset a ha).2, hrecord⟩
  assetId := by decide +kernel
  lookupKey := by decide +kernel
  versionId := by decide +kernel
  uploadSessionId := by decide +kernel

/-- Both calls of the first hash read the same latest number. One of them commits, the other
loses the number and replays it, and the call of the other hash is rejected. -/
theorem one_key_issues_once :
    ∃ tr sys', Run (IssueStep oneKeyIssues) (issueSystem (sampleRegistry.issueSample "a")) tr sys' ∧
      ((sys'.session 0).location.result.map (·.versionId) = some "version-0" ∧
        (sys'.session 1).location.result.map (·.versionId) = some "version-0" ∧
        (sys'.session 2).location.error = some (.uploadSessionIdempotencyConflict "key-1") ∧
        sys'.db.versionNumbers "asset-a" = [1, 2]) ∧
      IssueLaw oneKeyIssues sys' := by
  obtain ⟨tr, sys', hrun, hresult⟩ := exists_run_of_schedule
    (fun i => issueCode (oneKeyIssues i)) Db.SameIssuances
    (issueSystem (sampleRegistry.issueSample "a"))
    ([0, 1, 0, 1, 0, 1, 0, 1, 0, 1] ++ [0, 0, 0, 0] ++ [1, 1, 1] ++ [2])
    (fun _ sys' => (sys'.session 0).location.result.map (·.versionId) = some "version-0" ∧
        (sys'.session 1).location.result.map (·.versionId) = some "version-0" ∧
        (sys'.session 2).location.error = some (.uploadSessionIdempotencyConflict "key-1") ∧
        sys'.db.versionNumbers "asset-a" = [1, 2])
    (by decide +kernel)
  exact ⟨tr, sys', hrun, hresult,
    (issuances_interleave oneKeyIssues_fresh sampleRegistry_wellIssued hrun).1⟩

end Cdngine
