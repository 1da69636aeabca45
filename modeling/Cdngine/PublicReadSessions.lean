import Cdngine.PublicRead
import Cdngine.ReadCommitted

/-!
# Sessions of the Public Read Store

Any number of `authorizeSource`, `authorizeDelivery` and `consumeDownloadLink` calls at
once, statement by statement under READ COMMITTED. The lookups of a call, and the update
with which an exchange marks its row used, are statements of their own; an authorization
inserts its rows in one transaction, and looks its record up again when an insertion
violates a unique constraint. Between the statements the rest of the registry may change
in any way (`Db.SameAuthorizations`).

The random ids of the calls are different from each other and from everything that is
stored when the calls begin (`FreshIds`).

## Main results

* `authorizeCode`, `consumeCode`: what a call does at each of its locations.
* `SessionInv`, `publicRead_invariant`: what holds of the rows of every call at each of
  its locations, in every state.
-/

open Relational Runs ReadCommitted

namespace Cdngine

/-! ### The code of a call -/

/-- The rows that a call locks. -/
inductive AuthorizationRow
  | grant (id : String)
  | audit (id : String)
  | record (key : ApiSurface × String × String × String)
  deriving DecidableEq, Repr

def AuthorizationStatement.row : AuthorizationStatement → AuthorizationRow
  | .createSourceAccessGrant row => .grant row.id
  | .createDeliveryAuthorizationAudit row => .audit row.id
  | .createIdempotencyRecord row => .record row.key

/-- The insertion that a statement makes. -/
def AuthorizationStatement.write (s : AuthorizationStatement) : Write Db AuthorizationRow where
  row := s.row
  effect db := keepOnError db (s.apply db)

/-- The update that marks a grant used. -/
def markGrantUsed (id : String) (now : Instant) : Write Db AuthorizationRow where
  row := .grant id
  effect db := keepOnError db (db.updateSourceAccessGrant id (·.consume now))

/-- The update that marks an audit row used. -/
def markAuditUsed (id : String) (metadata : AuthorizationMetadata) (now : Instant) :
    Write Db AuthorizationRow where
  row := .audit id
  effect db := keepOnError db (db.updateDeliveryAuthorizationAudit id (·.consume metadata now))

inductive PublicReadCall
  | authorize (ids : AuthorizationIds) (call : AuthorizationCall)
  | consumeDownloadLink (token : String) (now : Instant)
  deriving DecidableEq, Repr

/-- Where a call is. `persist` has statements of its transaction to execute, `reload`
follows a unique violation, and the last four are how a call ends. -/
inductive PublicReadLocation
  | loadReplay
  | resolve
  | explain
  | persist (prepared : PreparedAuthorization) (todo : List AuthorizationStatement)
  | reload (error : RegistryError)
  | findGrant
  | markGrant (grant : SourceAccessGrant)
  | findAudit
  | markAudit (audit : DeliveryAuthorizationAudit) (link : RegistryPublicDownloadLinkRecord)
  | authorized (prepared : PreparedAuthorization)
  | replayed (authorization : AuthorizationPayload)
  | exchanged (link : RegistryPublicDownloadLinkRecord)
  | failed (error : RegistryError)
  deriving DecidableEq, Repr

/-- Where a call begins. -/
def PublicReadCall.start : PublicReadCall → PublicReadLocation
  | .authorize _ _ => .loadReplay
  | .consumeDownloadLink _ _ => .findGrant

/-- An authorization, statement by statement. -/
def authorizeCode (rt : Runtime) (ids : AuthorizationIds) (call : AuthorizationCall)
    (location : PublicReadLocation) (db : Db) : Action Db AuthorizationRow PublicReadLocation :=
  match location with
  | .loadReplay =>
      match loadAuthorizationReplay rt call db with
      | .error e => .query (.failed e)
      | .ok (some replay) => .query (.replayed replay)
      | .ok none => .query .resolve
  | .resolve =>
      match call.target with
      | .source preferredDisposition =>
          match resolveSource rt ids call preferredDisposition db with
          | .error e => .query (.failed e)
          | .ok prepared => .query (.persist prepared prepared.statements)
      | .delivery deliveryScopeId variant =>
          match findDeliverable db call.assetId call.versionId deliveryScopeId variant with
          | none => .query .explain
          | some (derivative, deliveryScope) =>
              let prepared := prepareDelivery rt ids call deliveryScopeId variant
                (buildDeliveryUrl deliveryScope derivative.storageKey)
              .query (.persist prepared prepared.statements)
  | .explain => .query (.failed (undeliverable db call))
  | .persist prepared [] => .commit (.authorized prepared)
  | .persist prepared (s :: todo) =>
      match s.apply db with
      | .ok _ => .write s.write (.persist prepared todo)
      | .error e => .rollback (if e = .store .uniqueConstraint then .reload e else .failed e)
  | .reload error =>
      match replayAfterViolation rt call error db with
      | .error e => .query (.failed e)
      | .ok replay => .query (.replayed replay)
  | _ => .halt

/-- An exchange, statement by statement. -/
def consumeCode (token : String) (now : Instant) (location : PublicReadLocation) (db : Db) :
    Action Db AuthorizationRow PublicReadLocation :=
  match location with
  | .findGrant =>
      match findSourceGrant db token now with
      | some grant => .query (.markGrant grant)
      | none => .query .findAudit
  | .markGrant grant =>
      match db.updateSourceAccessGrant grant.id (·.consume now) with
      | .ok _ => .autocommit (markGrantUsed grant.id now)
          (.exchanged (grant.downloadLinkRecord token))
      | .error e => .query (.failed e)
  | .findAudit =>
      match resolveDeliveryGrant db token now with
      | .ok (audit, link) => .query (.markAudit audit link)
      | .error e => .query (.failed e)
  | .markAudit audit link =>
      match db.updateDeliveryAuthorizationAudit audit.id (·.consume audit.requestMetadata now) with
      | .ok _ => .autocommit (markAuditUsed audit.id audit.requestMetadata now) (.exchanged link)
      | .error e => .query (.failed e)
  | _ => .halt

variable {ι : Type}

/-- The code of the sessions, each of which makes one call. -/
def publicReadCode (rt : Runtime) (calls : ι → PublicReadCall) (i : ι) :
    PublicReadLocation → Db → Action Db AuthorizationRow PublicReadLocation :=
  match calls i with
  | .authorize ids call => authorizeCode rt ids call
  | .consumeDownloadLink token now => consumeCode token now

/-- Sessions over a registry. -/
abbrev PublicReadSystem (ι : Type) := System ι Db AuthorizationRow PublicReadLocation

/-- The calls, before their first statement. -/
def publicReadSystem (db : Db) (calls : ι → PublicReadCall) : PublicReadSystem ι where
  db
  session i := ⟨(calls i).start, []⟩

/-- The payload that a call has returned. -/
def PublicReadLocation.payload : PublicReadLocation → Option AuthorizationPayload
  | .authorized prepared => some prepared.authorization
  | .replayed authorization => some authorization
  | _ => none

/-! ### The rows after a statement -/

/-- What the insertions of an authorization do to the rows: every row stays, and a new row
is one that they insert. -/
structure Db.Inserts (ss : List AuthorizationStatement) (db db' : Db) : Prop where
  keeps_grant : ∀ r ∈ db.sourceAccessGrants.rows, r ∈ db'.sourceAccessGrants.rows
  keeps_audit : ∀ r ∈ db.deliveryAuthorizationAudits.rows, r ∈ db'.deliveryAuthorizationAudits.rows
  keeps_record : ∀ r ∈ db.idempotencyRecords.rows, r ∈ db'.idempotencyRecords.rows
  new_grant : ∀ r ∈ db'.sourceAccessGrants.rows,
    r ∈ db.sourceAccessGrants.rows ∨ .createSourceAccessGrant r ∈ ss
  new_audit : ∀ r ∈ db'.deliveryAuthorizationAudits.rows,
    r ∈ db.deliveryAuthorizationAudits.rows ∨ .createDeliveryAuthorizationAudit r ∈ ss
  new_record : ∀ r ∈ db'.idempotencyRecords.rows,
    r ∈ db.idempotencyRecords.rows ∨ .createIdempotencyRecord r ∈ ss

theorem Db.Inserts.refl (ss : List AuthorizationStatement) (db : Db) : db.Inserts ss db :=
  ⟨fun _ h => h, fun _ h => h, fun _ h => h, fun _ h => .inl h, fun _ h => .inl h,
    fun _ h => .inl h⟩

theorem Db.Inserts.trans {ss : List AuthorizationStatement} {db₁ db₂ db₃ : Db}
    (h₁ : db₁.Inserts ss db₂) (h₂ : db₂.Inserts ss db₃) : db₁.Inserts ss db₃ where
  keeps_grant r hr := h₂.keeps_grant r (h₁.keeps_grant r hr)
  keeps_audit r hr := h₂.keeps_audit r (h₁.keeps_audit r hr)
  keeps_record r hr := h₂.keeps_record r (h₁.keeps_record r hr)
  new_grant r hr := (h₂.new_grant r hr).elim (h₁.new_grant r) Or.inr
  new_audit r hr := (h₂.new_audit r hr).elim (h₁.new_audit r) Or.inr
  new_record r hr := (h₂.new_record r hr).elim (h₁.new_record r) Or.inr

theorem AuthorizationStatement.write_inserts {s : AuthorizationStatement}
    {ss : List AuthorizationStatement} (hs : s ∈ ss) (db : Db) :
    db.Inserts ss (s.write.effect db) := by
  simp only [write, keepOnError]
  cases happly : s.apply db with
  | error e => exact .refl ss db
  | ok db' =>
      cases s with
      | createSourceAccessGrant row =>
          obtain ⟨t, ht, rfl⟩ := write_eq_ok.mp happly
          have hmem := Table.mem_rows_insert ht
          exact
            { Db.Inserts.refl ss db with
              keeps_grant := fun r hr => (hmem r).mpr (Or.inl hr)
              new_grant := fun r hr => ((hmem r).mp hr).imp_right fun (heq : r = row) => heq ▸ hs }
      | createDeliveryAuthorizationAudit row =>
          obtain ⟨t, ht, rfl⟩ := write_eq_ok.mp happly
          have hmem := Table.mem_rows_insert ht
          exact
            { Db.Inserts.refl ss db with
              keeps_audit := fun r hr => (hmem r).mpr (Or.inl hr)
              new_audit := fun r hr => ((hmem r).mp hr).imp_right fun (heq : r = row) => heq ▸ hs }
      | createIdempotencyRecord row =>
          obtain ⟨t, ht, rfl⟩ := write_eq_ok.mp happly
          have hmem := Table.mem_rows_insert ht
          exact
            { Db.Inserts.refl ss db with
              keeps_record := fun r hr => (hmem r).mpr (Or.inl hr)
              new_record := fun r hr => ((hmem r).mp hr).imp_right fun (heq : r = row) => heq ▸ hs }

/-- The insertions of a list of statements. -/
theorem applyAll_inserts {ss ss' : List AuthorizationStatement} (hss : ∀ s ∈ ss', s ∈ ss)
    (db : Db) :
    db.Inserts ss (applyAll (ss'.map (·.write)) db) := by
  induction ss' generalizing db with
  | nil => exact .refl ss db
  | cons s ss' ih =>
      have hfirst := AuthorizationStatement.write_inserts (hss s List.mem_cons_self) db
      exact hfirst.trans (ih (fun x hx => hss x (List.mem_cons_of_mem _ hx)) _)

/-- Insertions that all succeed leave what the transaction leaves. -/
theorem applyAll_eq_of_applyStatements {ss : List AuthorizationStatement} {db db' : Db}
    (h : applyStatements ss db = .ok db') : applyAll (ss.map (·.write)) db = db' := by
  induction ss generalizing db with
  | nil => exact Except.ok.inj h
  | cons s ss ih =>
      obtain ⟨db₁, h₁, h₂⟩ := bind_eq_ok.mp h
      rw [List.map_cons, applyAll_cons]
      have hwrite : s.write.effect db = db₁ := by
        simp only [AuthorizationStatement.write, keepOnError, h₁]
      rw [hwrite]
      exact ih h₂

/-! ### What holds of the rows of a call -/

/-- The ids of a call occur in no row. -/
structure AuthorizationIds.Unused (ids : AuthorizationIds) (db : Db) : Prop where
  grant : ∀ r ∈ db.sourceAccessGrants.rows, r.id ≠ ids.grantId
  audit : ∀ r ∈ db.deliveryAuthorizationAudits.rows, r.id ≠ ids.auditId
  token : ∀ r ∈ db.deliveryAuthorizationAudits.rows, r.grantId ≠ some ids.grantId

/-- **Random ids**: those of the calls occur in no row when the calls begin, and are
different from each other. -/
structure FreshIds (db : Db) (calls : ι → PublicReadCall) : Prop where
  unused : ∀ {i ids call}, calls i = .authorize ids call → ids.Unused db
  grant : ∀ {i j ids ids' call call'}, calls i = .authorize ids call →
    calls j = .authorize ids' call' → ids.grantId = ids'.grantId → i = j
  audit : ∀ {i j ids ids' call call'}, calls i = .authorize ids call →
    calls j = .authorize ids' call' → ids.auditId = ids'.auditId → i = j

/-- What a call prepares: the rows have its ids. -/
inductive PreparedBy (rt : Runtime) (ids : AuthorizationIds) (call : AuthorizationCall) :
    PreparedAuthorization → Prop
  | source {preferredDisposition : Option SourceDisposition} (tenantId : Option String)
      (h : call.target = .source preferredDisposition) :
      PreparedBy rt ids call (prepareSource rt ids call preferredDisposition tenantId)
  | delivery {deliveryScopeId variant : String} (deliveryScope : DeliveryScope)
      (storageKey : Option String) (h : call.target = .delivery deliveryScopeId variant) :
      PreparedBy rt ids call (prepareDelivery rt ids call deliveryScopeId variant
        (buildDeliveryUrl deliveryScope storageKey))

section Prepared

variable {rt : Runtime} {ids : AuthorizationIds} {call : AuthorizationCall}
  {prepared : PreparedAuthorization}

theorem PreparedBy.audit_id (h : PreparedBy rt ids call prepared) :
    prepared.audit.id = ids.auditId := by
  cases h <;> rfl

theorem PreparedBy.grant_id (h : PreparedBy rt ids call prepared) {g : SourceAccessGrant}
    (hg : prepared.grant = some g) : g.id = ids.grantId := by
  cases h with
  | source tenantId h =>
      obtain rfl := Option.some.inj hg
      rfl
  | delivery deliveryScope storageKey h => cases hg

theorem PreparedBy.audit_grantId (h : PreparedBy rt ids call prepared) {token : String}
    (htoken : prepared.audit.grantId = some token) : token = ids.grantId := by
  cases h with
  | source tenantId h => exact (Option.some.inj htoken).symm
  | delivery deliveryScope storageKey h =>
      simp only [prepareDelivery] at htoken
      split at htoken
      · exact (Option.some.inj htoken).symm
      · cases htoken

theorem PreparedBy.audit_expiresAt (h : PreparedBy rt ids call prepared) :
    prepared.audit.expiresAt = some call.request.expiresAt := by
  cases h <;> rfl

theorem PreparedBy.record (h : PreparedBy rt ids call prepared) :
    prepared.record = call.idempotencyRecord rt prepared.authorization := by
  cases h <;> rfl

theorem PreparedBy.record_key (h : PreparedBy rt ids call prepared) :
    prepared.record.key = call.recordKey := by
  rw [h.record]
  rfl

theorem PreparedBy.of_resolveSource {preferredDisposition : Option SourceDisposition} {db : Db}
    (htarget : call.target = .source preferredDisposition)
    (h : resolveSource rt ids call preferredDisposition db = .ok prepared) :
    PreparedBy rt ids call prepared := by
  obtain ⟨version, -, h⟩ := bind_eq_ok.mp h
  split at h
  · cases h
  · obtain rfl := Except.ok.inj h
    exact .source _ htarget

/-- Where a statement of a transaction stands in it. -/
theorem PreparedAuthorization.statements_split {s : AuthorizationStatement}
    {before after : List AuthorizationStatement} (h : prepared.statements = before ++ s :: after) :
    (∃ g, prepared.grant = some g ∧ s = .createSourceAccessGrant g ∧ before = []) ∨
    (s = .createDeliveryAuthorizationAudit prepared.audit ∧
      before = prepared.grant.toList.map .createSourceAccessGrant) ∨
    (s = .createIdempotencyRecord prepared.record ∧ after = [] ∧
      before = prepared.grant.toList.map .createSourceAccessGrant ++
        [.createDeliveryAuthorizationAudit prepared.audit]) := by
  unfold statements at h
  cases hgrant : prepared.grant with
  | none =>
      simp only [hgrant, Option.toList_none, List.map_nil, List.nil_append] at h ⊢
      match before, h with
      | [], h =>
          obtain ⟨hs, -⟩ := List.cons.inj h
          exact .inr (.inl ⟨hs.symm, rfl⟩)
      | [a], h =>
          obtain ⟨ha, h⟩ := List.cons.inj h
          obtain ⟨hs, hafter⟩ := List.cons.inj h
          exact .inr (.inr ⟨hs.symm, hafter.symm, by rw [ha]⟩)
      | _ :: _ :: before, h =>
          have hlength := congrArg List.length h
          simp at hlength
  | some g =>
      simp only [hgrant, Option.toList_some, List.map_cons, List.map_nil, List.cons_append,
        List.nil_append] at h ⊢
      match before, h with
      | [], h =>
          obtain ⟨hs, -⟩ := List.cons.inj h
          exact .inl ⟨g, rfl, hs.symm, rfl⟩
      | [a], h =>
          obtain ⟨ha, h⟩ := List.cons.inj h
          obtain ⟨hs, -⟩ := List.cons.inj h
          exact .inr (.inl ⟨hs.symm, by rw [ha]⟩)
      | [a, b], h =>
          obtain ⟨ha, h⟩ := List.cons.inj h
          obtain ⟨hb, h⟩ := List.cons.inj h
          obtain ⟨hs, hafter⟩ := List.cons.inj h
          exact .inr (.inr ⟨hs.symm, hafter.symm, by rw [ha, hb]⟩)
      | _ :: _ :: _ :: before, h =>
          have hlength := congrArg List.length h
          simp at hlength

end Prepared

/-- Why an authorization is rejected: its key has a record of another request, its version
is not found or not ready, or its key has a record of its own request that cannot be
read. -/
inductive RejectedBy (rt : Runtime) (call : AuthorizationCall) (db : Db) : RegistryError → Prop
  | conflict : RejectedBy rt call db (.publicReadIdempotencyConflict call.request.idempotencyKey)
  | notFound : RejectedBy rt call db (.publicAssetVersionNotFound call.assetId call.versionId)
  | notReady (state : String) :
      RejectedBy rt call db (.publicVersionNotReady call.assetId call.versionId state)
  | unreadable {e : RegistryError} {r : IdempotencyRecord} (hr : r ∈ db.idempotencyRecords.rows)
      (hkey : r.key = call.recordKey)
      (hhash : r.normalizedRequestHash = some (call.normalizedRequestHash rt)) :
      RejectedBy rt call db e

/-- What holds of an authorization at each of its locations. -/
def AuthorizeInv (rt : Runtime) (ids : AuthorizationIds) (call : AuthorizationCall)
    (s : Session Db AuthorizationRow PublicReadLocation) (db : Db) : Prop :=
  match s.location with
  | .loadReplay | .resolve | .explain => s.pending = [] ∧ ids.Unused db
  | .persist prepared todo =>
      PreparedBy rt ids call prepared ∧ ids.Unused db ∧
        ∃ done, prepared.statements = done ++ todo ∧ s.pending = done.map (·.write) ∧
          (.createIdempotencyRecord prepared.record ∈ done →
            db.idempotencyRecord? call.recordKey = none)
  | .reload _ => s.pending = [] ∧ ids.Unused db ∧
      ∃ r ∈ db.idempotencyRecords.rows, r.key = call.recordKey
  | .authorized prepared =>
      s.pending = [] ∧ PreparedBy rt ids call prepared ∧
        prepared.record ∈ db.idempotencyRecords.rows ∧
        ∃ a ∈ db.deliveryAuthorizationAudits.rows, a.id = ids.auditId ∧
          a.grantId = prepared.audit.grantId ∧
          a.requestMetadata.url = prepared.audit.requestMetadata.url
  | .replayed authorization =>
      s.pending = [] ∧ ids.Unused db ∧
        ∃ r ∈ db.idempotencyRecords.rows, r.key = call.recordKey ∧
          r.normalizedRequestHash = some (call.normalizedRequestHash rt) ∧
          call.buildReplay r.responsePayload = .ok authorization
  | .failed e => s.pending = [] ∧ ids.Unused db ∧ RejectedBy rt call db e
  | _ => False

/-- An instant is before every expiry that was promised for a token. -/
def BeforeExpiry (calls : ι → PublicReadCall) (token : String) (t : Instant) : Prop :=
  ∀ {i ids call}, calls i = .authorize ids call → ids.grantId = token → t ≤ call.request.expiresAt

/-- What holds of an exchange at each of its locations. -/
def ConsumeInv (calls : ι → PublicReadCall) (token : String) (now : Instant)
    (s : Session Db AuthorizationRow PublicReadLocation) (db : Db) : Prop :=
  s.pending = [] ∧
    match s.location with
    | .markGrant grant =>
        grant.id = token ∧ now < grant.expiresAt ∧ BeforeExpiry calls token grant.expiresAt ∧
          (∀ {i ids call}, calls i = .authorize ids call → ids.grantId = token →
            ∃ d, call.target = .source d ∧
              grant.proxyPath = some (proxyPath call.assetId call.versionId ids.grantId d)) ∧
          ∃ g ∈ db.sourceAccessGrants.rows, g.id = token
    | .markAudit audit link =>
        audit.grantId = some token ∧ link.token = token ∧ now < link.expiresAt ∧
          BeforeExpiry calls token link.expiresAt ∧ link.url = audit.requestMetadata.url ∧
          ∃ a ∈ db.deliveryAuthorizationAudits.rows, a.id = audit.id ∧ a.grantId = some token ∧
            a.requestMetadata.url = audit.requestMetadata.url
    | .exchanged link =>
        now < link.expiresAt ∧ BeforeExpiry calls token link.expiresAt ∧
          ((∃ g ∈ db.sourceAccessGrants.rows, g.id = token) ∨
            ∃ a ∈ db.deliveryAuthorizationAudits.rows, a.grantId = some token)
    | .findGrant | .findAudit | .failed _ => True
    | _ => False

/-- What holds of a call at each of its locations. -/
def SessionInv (rt : Runtime) (calls : ι → PublicReadCall) (i : ι)
    (s : Session Db AuthorizationRow PublicReadLocation) (db : Db) : Prop :=
  match calls i with
  | .authorize ids call => AuthorizeInv rt ids call s db
  | .consumeDownloadLink token now => ConsumeInv calls token now s db

/-- The rows that carry the token of a call are those that the call has inserted, and do not
outlive its promise. -/
structure MintedRows (calls : ι → PublicReadCall) (db : Db) : Prop where
  grant : ∀ {i ids call}, calls i = .authorize ids call → ∀ g ∈ db.sourceAccessGrants.rows,
    g.id = ids.grantId → g.expiresAt ≤ call.request.expiresAt ∧
      ∃ d, call.target = .source d ∧
        g.proxyPath = some (proxyPath call.assetId call.versionId ids.grantId d)
  audit : ∀ {i ids call}, calls i = .authorize ids call →
    ∀ a ∈ db.deliveryAuthorizationAudits.rows, a.grantId = some ids.grantId →
      a.id = ids.auditId ∧ ∀ t, a.expiresAt = some t → t ≤ call.request.expiresAt

/-- What the steps of other sessions leave a session. -/
structure Db.Spares (calls : ι → PublicReadCall) (i : ι)
    (s : Session Db AuthorizationRow PublicReadLocation) (db db' : Db) : Prop where
  unused : ∀ {ids call}, calls i = .authorize ids call → ids.Unused db → ids.Unused db'
  grant : ∀ r ∈ db.sourceAccessGrants.rows, ∃ r' ∈ db'.sourceAccessGrants.rows, r'.id = r.id
  audit : ∀ r ∈ db.deliveryAuthorizationAudits.rows,
    ∃ r' ∈ db'.deliveryAuthorizationAudits.rows, r'.id = r.id ∧ r'.grantId = r.grantId ∧
      r'.requestMetadata.url = r.requestMetadata.url
  record : ∀ r ∈ db.idempotencyRecords.rows, r ∈ db'.idempotencyRecords.rows
  locked : ∀ key, s.Holds (.record key) → db.idempotencyRecord? key = none →
    db'.idempotencyRecord? key = none

section Frame

variable {rt : Runtime} {calls : ι → PublicReadCall} {i : ι}
  {s : Session Db AuthorizationRow PublicReadLocation} {db₀ db db' : Db}

theorem RejectedBy.mono {call : AuthorizationCall} {e : RegistryError} (h : RejectedBy rt call db e)
    (hrecord : ∀ r ∈ db.idempotencyRecords.rows, r ∈ db'.idempotencyRecords.rows) :
    RejectedBy rt call db' e := by
  cases h with
  | conflict => exact .conflict
  | notFound => exact .notFound
  | notReady state => exact .notReady state
  | unreadable hr hkey hhash => exact .unreadable (hrecord _ hr) hkey hhash

/-- **Frame**: a session that is spared keeps its invariant. -/
theorem SessionInv.frame (h : SessionInv rt calls i s db) (hspares : db.Spares calls i s db') :
    SessionInv rt calls i s db' := by
  unfold SessionInv at h ⊢
  cases hcall : calls i with
  | authorize ids call =>
      rw [hcall] at h
      have hunused := hspares.unused hcall
      obtain ⟨location, pending⟩ := s
      cases location with
      | loadReplay => exact ⟨h.1, hunused h.2⟩
      | resolve => exact ⟨h.1, hunused h.2⟩
      | explain => exact ⟨h.1, hunused h.2⟩
      | persist prepared todo =>
          obtain ⟨hprepared, hids, done, hstatements, hpending, hnone⟩ := h
          refine ⟨hprepared, hunused hids, done, hstatements, hpending, fun hdone => ?_⟩
          have hmem :
            (AuthorizationStatement.createIdempotencyRecord prepared.record).write ∈ pending := by
            rw [show pending = done.map (·.write) from hpending]
            exact List.mem_map_of_mem hdone
          exact hspares.locked _ ⟨_, hmem, congrArg AuthorizationRow.record hprepared.record_key⟩
            (hnone hdone)
      | reload e =>
          obtain ⟨hpending, hids, r, hr, hkey⟩ := h
          exact ⟨hpending, hunused hids, r, hspares.record r hr, hkey⟩
      | authorized prepared =>
          obtain ⟨hpending, hprepared, hrecord, a, ha, hid, hgrant, hurl⟩ := h
          obtain ⟨a', ha', hid', hgrant', hurl'⟩ := hspares.audit a ha
          exact ⟨hpending, hprepared, hspares.record _ hrecord, a', ha', hid'.trans hid,
            hgrant'.trans hgrant, hurl'.trans hurl⟩
      | replayed authorization =>
          obtain ⟨hpending, hids, r, hr, hreplay⟩ := h
          exact ⟨hpending, hunused hids, r, hspares.record r hr, hreplay⟩
      | failed e =>
          obtain ⟨hpending, hids, hrejected⟩ := h
          exact ⟨hpending, hunused hids, hrejected.mono hspares.record⟩
      | _ => exact h
  | consumeDownloadLink token now =>
      rw [hcall] at h
      obtain ⟨location, pending⟩ := s
      obtain ⟨hpending, h⟩ := h
      refine ⟨hpending, ?_⟩
      cases location with
      | markGrant grant =>
          obtain ⟨hid, hnow, hbefore, hminted, g, hg, hgid⟩ := h
          obtain ⟨g', hg', hgid'⟩ := hspares.grant g hg
          exact ⟨hid, hnow, hbefore, hminted, g', hg', hgid'.trans hgid⟩
      | markAudit audit link =>
          obtain ⟨htoken, hlink, hnow, hbefore, hurl, a, ha, hid, hgrant, haurl⟩ := h
          obtain ⟨a', ha', hid', hgrant', hurl'⟩ := hspares.audit a ha
          exact ⟨htoken, hlink, hnow, hbefore, hurl, a', ha', hid'.trans hid, hgrant'.trans hgrant,
            hurl'.trans haurl⟩
      | exchanged link =>
          obtain ⟨hnow, hbefore, hrow⟩ := h
          refine ⟨hnow, hbefore, ?_⟩
          rcases hrow with ⟨g, hg, hgid⟩ | ⟨a, ha, hgrant⟩
          · obtain ⟨g', hg', hgid'⟩ := hspares.grant g hg
            exact .inl ⟨g', hg', hgid'.trans hgid⟩
          · obtain ⟨a', ha', -, hgrant', -⟩ := hspares.audit a ha
            exact .inr ⟨a', ha', hgrant'.trans hgrant⟩
      | _ => trivial

/-- What a transaction inserts for one call is not found by the ids of another. -/
theorem PreparedBy.spares {j : ι} {ids : AuthorizationIds} {call : AuthorizationCall}
    {prepared : PreparedAuthorization} (hfresh : FreshIds db₀ calls)
    (hj : calls j = .authorize ids call) (hprepared : PreparedBy rt ids call prepared) (hij : i ≠ j)
    (hinserts : db.Inserts prepared.statements db')
    (hlocked : ¬ s.Holds (.record call.recordKey)) : db.Spares calls i s db' where
  unused {ids' call'} hi hunused := by
    have hgrantId : ids'.grantId ≠ ids.grantId := fun heq => hij (hfresh.grant hi hj heq)
    have hauditId : ids'.auditId ≠ ids.auditId := fun heq => hij (hfresh.audit hi hj heq)
    have haudit :
      ∀ r, .createDeliveryAuthorizationAudit r ∈ prepared.statements → r = prepared.audit := by
      intro r hr
      simpa [PreparedAuthorization.statements] using hr
    refine ⟨fun r hr heq => ?_, fun r hr heq => ?_, fun r hr heq => ?_⟩
    · rcases hinserts.new_grant r hr with hold | hnew
      · exact hunused.grant r hold heq
      · have hgrant : prepared.grant = some r := by
          simpa [PreparedAuthorization.statements] using hnew
        exact hgrantId (heq.symm.trans (hprepared.grant_id hgrant))
    · rcases hinserts.new_audit r hr with hold | hnew
      · exact hunused.audit r hold heq
      · obtain rfl := haudit r hnew
        exact hauditId (heq.symm.trans hprepared.audit_id)
    · rcases hinserts.new_audit r hr with hold | hnew
      · exact hunused.token r hold heq
      · obtain rfl := haudit r hnew
        exact hgrantId (hprepared.audit_grantId heq)
  grant r hr := ⟨r, hinserts.keeps_grant r hr, rfl⟩
  audit r hr := ⟨r, hinserts.keeps_audit r hr, rfl, rfl, rfl⟩
  record r hr := hinserts.keeps_record r hr
  locked key hholds hnone := by
    cases hfound : db'.idempotencyRecord? key with
    | none => rfl
    | some r =>
        obtain ⟨hr, hkey⟩ := Db.idempotencyRecord?_eq_some_iff.mp hfound
        rcases hinserts.new_record r hr with hold | hnew
        · have hsome := Db.idempotencyRecord?_eq_some_iff.mpr ⟨hold, hkey⟩
          rw [hnone] at hsome
          cases hsome
        · have hrecord : r = prepared.record := by
            simpa [PreparedAuthorization.statements] using hnew
          rw [← hkey, hrecord, hprepared.record_key] at hholds
          exact absurd hholds hlocked

/-- The rows of the public read store, up to expiry and consumption. -/
structure Db.SameLinks (db db' : Db) : Prop where
  grant : ∀ r ∈ db.sourceAccessGrants.rows, ∃ r' ∈ db'.sourceAccessGrants.rows, r'.id = r.id
  grant_back : ∀ r' ∈ db'.sourceAccessGrants.rows, ∃ r ∈ db.sourceAccessGrants.rows, r'.id = r.id
  audit : ∀ r ∈ db.deliveryAuthorizationAudits.rows,
    ∃ r' ∈ db'.deliveryAuthorizationAudits.rows, r'.id = r.id ∧ r'.grantId = r.grantId ∧
      r'.requestMetadata.url = r.requestMetadata.url
  audit_back : ∀ r' ∈ db'.deliveryAuthorizationAudits.rows,
    ∃ r ∈ db.deliveryAuthorizationAudits.rows, r'.id = r.id ∧ r'.grantId = r.grantId
  record : db'.idempotencyRecords = db.idempotencyRecords

theorem Db.SameLinks.spares (h : db.SameLinks db') : db.Spares calls i s db' where
  unused {ids call} _ hunused := by
    refine ⟨fun r' hr' heq => ?_, fun r' hr' heq => ?_, fun r' hr' heq => ?_⟩
    · obtain ⟨r, hr, hid⟩ := h.grant_back r' hr'
      exact hunused.grant r hr (hid.symm.trans heq)
    · obtain ⟨r, hr, hid, -⟩ := h.audit_back r' hr'
      exact hunused.audit r hr (hid.symm.trans heq)
    · obtain ⟨r, hr, -, hgrant⟩ := h.audit_back r' hr'
      exact hunused.token r hr (hgrant.symm.trans heq)
  grant := h.grant
  audit := h.audit
  record r hr := by
    rw [h.record]
    exact hr
  locked key _ hnone := by
    rw [Db.idempotencyRecord?, h.record]
    exact hnone

theorem Db.SameAuthorizations.sameLinks (h : db.SameAuthorizations db') : db.SameLinks db' where
  grant r hr := ⟨r, by rw [h.sourceAccessGrants]; exact hr, rfl⟩
  grant_back r hr := ⟨r, by rw [← h.sourceAccessGrants]; exact hr, rfl⟩
  audit r hr := ⟨r, by rw [h.deliveryAuthorizationAudits]; exact hr, rfl, rfl, rfl⟩
  audit_back r hr := ⟨r, by rw [← h.deliveryAuthorizationAudits]; exact hr, rfl, rfl⟩
  record := h.idempotencyRecords

end Frame

/-! ### The steps of an authorization -/

section Authorize

variable {rt : Runtime} {ids : AuthorizationIds} {call : AuthorizationCall}
  {s : Session Db AuthorizationRow PublicReadLocation} {db : Db} {next : PublicReadLocation}

theorem loadAuthorizationReplay_rejected {e : RegistryError}
    (h : loadAuthorizationReplay rt call db = .error e) : RejectedBy rt call db e := by
  unfold loadAuthorizationReplay at h
  split at h
  · cases h
  · rename_i record hrecord
    obtain ⟨hr, hkey⟩ := Db.idempotencyRecord?_eq_some_iff.mp hrecord
    split at h
    · rename_i hhash
      exact .unreadable hr hkey hhash
    · obtain rfl := Except.error.inj h
      exact .conflict

theorem loadAuthorizationReplay_replayed {authorization : AuthorizationPayload}
    (h : loadAuthorizationReplay rt call db = .ok (some authorization)) :
    ∃ r ∈ db.idempotencyRecords.rows, r.key = call.recordKey ∧
      r.normalizedRequestHash = some (call.normalizedRequestHash rt) ∧
      call.buildReplay r.responsePayload = .ok authorization := by
  obtain ⟨record, hrecord, hhash, hbuild⟩ := loadAuthorizationReplay_eq_some.mp h
  obtain ⟨hr, hkey⟩ := Db.idempotencyRecord?_eq_some_iff.mp hrecord
  exact ⟨record, hr, hkey, hhash, hbuild⟩

theorem getRequiredVersion_rejected {e : RegistryError}
    (h : getRequiredVersion db call.assetId call.versionId = .error e) :
    RejectedBy rt call db e := by
  unfold getRequiredVersion at h
  split at h
  · cases h
  · obtain rfl := Except.error.inj h
    exact .notFound

theorem resolveSource_rejected {preferredDisposition : Option SourceDisposition} {e : RegistryError}
    (h : resolveSource rt ids call preferredDisposition db = .error e) :
    RejectedBy rt call db e := by
  unfold resolveSource at h
  cases hversion : getRequiredVersion db call.assetId call.versionId with
  | error e' =>
      rw [hversion] at h
      obtain rfl := Except.error.inj h
      exact getRequiredVersion_rejected hversion
  | ok version =>
      rw [hversion] at h
      dsimp only [bind, Except.bind] at h
      split at h
      · obtain rfl := Except.error.inj h
        exact .notReady _
      · cases h

theorem undeliverable_rejected : RejectedBy rt call db (undeliverable db call) := by
  unfold undeliverable
  split
  · rename_i e h
    unfold assertVersionPublished at h
    cases hversion : getRequiredVersion db call.assetId call.versionId with
    | error e' =>
        rw [hversion] at h
        obtain rfl := Except.error.inj h
        exact getRequiredVersion_rejected hversion
    | ok version =>
        rw [hversion] at h
        dsimp only [bind, Except.bind] at h
        split at h
        · cases h
        · obtain rfl := Except.error.inj h
          exact .notReady _
  · exact .notFound

theorem AuthorizeInv.query (hinv : AuthorizeInv rt ids call s db)
    (h : authorizeCode rt ids call s.location (s.view db) = .query next) :
    AuthorizeInv rt ids call ⟨next, s.pending⟩ db := by
  obtain ⟨location, pending⟩ := s
  cases location with
  | loadReplay =>
      obtain ⟨rfl, hunused⟩ := hinv
      simp only [authorizeCode, Session.view, applyAll_nil] at h
      split at h
      · rename_i e hload
        obtain rfl := Action.query.inj h
        exact ⟨rfl, hunused, loadAuthorizationReplay_rejected hload⟩
      · rename_i replay hload
        obtain rfl := Action.query.inj h
        exact ⟨rfl, hunused, loadAuthorizationReplay_replayed hload⟩
      · obtain rfl := Action.query.inj h
        exact ⟨rfl, hunused⟩
  | resolve =>
      obtain ⟨rfl, hunused⟩ := hinv
      simp only [authorizeCode, Session.view, applyAll_nil] at h
      split at h
      · rename_i preferredDisposition htarget
        split at h
        · rename_i e hresolve
          obtain rfl := Action.query.inj h
          exact ⟨rfl, hunused, resolveSource_rejected hresolve⟩
        · rename_i prepared hresolve
          obtain rfl := Action.query.inj h
          exact ⟨.of_resolveSource htarget hresolve, hunused, [], rfl, rfl, fun h => by cases h⟩
      · rename_i deliveryScopeId variant htarget
        split at h
        · obtain rfl := Action.query.inj h
          exact ⟨rfl, hunused⟩
        · rename_i derivative deliveryScope hfound
          obtain rfl := Action.query.inj h
          exact ⟨.delivery deliveryScope derivative.storageKey htarget, hunused, [], rfl, rfl,
            fun h => by cases h⟩
  | explain =>
      obtain ⟨rfl, hunused⟩ := hinv
      obtain rfl := Action.query.inj h
      exact ⟨rfl, hunused, undeliverable_rejected⟩
  | persist prepared todo =>
      cases todo with
      | nil => cases h
      | cons s todo =>
          simp only [authorizeCode] at h
          split at h <;> cases h
  | reload error =>
      obtain ⟨rfl, hunused, r, hr, hkey⟩ := hinv
      simp only [authorizeCode, Session.view, applyAll_nil] at h
      have hfound := Db.idempotencyRecord?_eq_some_iff.mpr ⟨hr, hkey⟩
      unfold replayAfterViolation at h
      cases hload : loadAuthorizationReplay rt call db with
      | error e =>
          rw [hload] at h
          obtain rfl := Action.query.inj h
          exact ⟨rfl, hunused, loadAuthorizationReplay_rejected hload⟩
      | ok replay =>
          cases replay with
          | none =>
              rw [loadAuthorizationReplay_eq_none.mp hload] at hfound
              cases hfound
          | some replay =>
              rw [hload] at h
              obtain rfl := Action.query.inj h
              exact ⟨rfl, hunused, loadAuthorizationReplay_replayed hload⟩
  | _ => cases h

/-- An authorization writes, commits and rolls back only inside its transaction. -/
theorem authorizeCode_persist {location : PublicReadLocation}
    {action : Action Db AuthorizationRow PublicReadLocation}
    (h : authorizeCode rt ids call location db = action) (hquery : ∀ next, action ≠ .query next)
    (hhalt : action ≠ .halt) : ∃ prepared todo, location = .persist prepared todo := by
  cases location with
  | persist prepared todo => exact ⟨prepared, todo, rfl⟩
  | loadReplay =>
      simp only [authorizeCode] at h
      split at h <;> exact absurd h.symm (hquery _)
  | resolve =>
      simp only [authorizeCode] at h
      split at h <;> split at h <;> exact absurd h.symm (hquery _)
  | explain => exact absurd h.symm (hquery _)
  | reload e =>
      simp only [authorizeCode] at h
      split at h <;> exact absurd h.symm (hquery _)
  | _ => exact absurd h.symm hhalt

theorem authorizeCode_ne_autocommit {location : PublicReadLocation}
    {w : Write Db AuthorizationRow} :
    authorizeCode rt ids call location db ≠ .autocommit w next := by
  intro h
  obtain ⟨prepared, todo, rfl⟩ := authorizeCode_persist h (by simp) (by simp)
  cases todo with
  | nil => cases h
  | cons st todo =>
      simp only [authorizeCode] at h
      split at h <;> cases h

theorem AuthorizeInv.write {w : Write Db AuthorizationRow} (hinv : AuthorizeInv rt ids call s db)
    (h : authorizeCode rt ids call s.location (s.view db) = .write w next) :
    AuthorizeInv rt ids call ⟨next, s.pending ++ [w]⟩ db := by
  obtain ⟨prepared, todo, hlocation⟩ := authorizeCode_persist h (by simp) (by simp)
  obtain ⟨location, pending⟩ := s
  obtain rfl : location = .persist prepared todo := hlocation
  obtain ⟨hprepared, hunused, done, hstatements, hpending, hnone⟩ := hinv
  cases todo with
  | nil => cases h
  | cons st todo =>
      simp only [authorizeCode] at h
      split at h
      · rename_i db' happly
        obtain ⟨rfl, rfl⟩ := Action.write.inj h
        refine ⟨hprepared, hunused, done ++ [st], ?_, ?_, fun hmem => ?_⟩
        · rw [hstatements, List.append_assoc, List.singleton_append]
        · rw [List.map_append, List.map_singleton]
          exact congrArg (· ++ [st.write]) hpending
        · rcases List.mem_append.mp hmem with hdone | hst
          · exact hnone hdone
          · obtain rfl := List.mem_singleton.mp hst
            have hfree :
              (applyAll (done.map (·.write)) db).idempotencyRecord? call.recordKey = none := by
              rw [← hprepared.record_key, ← show pending = done.map (·.write) from hpending]
              exact Db.createIdempotencyRecord_ok_iff.mp ⟨db', happly⟩
            have hinserts := @applyAll_inserts done done (fun _ hs => hs) db
            cases hfound : db.idempotencyRecord? call.recordKey with
            | none => rfl
            | some r =>
                obtain ⟨hr, hkey⟩ := Db.idempotencyRecord?_eq_some_iff.mp hfound
                have hsome := Db.idempotencyRecord?_eq_some_iff.mpr
                  ⟨hinserts.keeps_record r hr, hkey⟩
                rw [hfree] at hsome
                cases hsome
      · cases h

/-- A statement of a transaction that fails finds the record of the call's key. -/
theorem AuthorizeInv.rollback (hinv : AuthorizeInv rt ids call s db)
    (h : authorizeCode rt ids call s.location (s.view db) = .rollback next) :
    AuthorizeInv rt ids call ⟨next, []⟩ db := by
  obtain ⟨prepared, todo, hlocation⟩ := authorizeCode_persist h (by simp) (by simp)
  obtain ⟨location, pending⟩ := s
  obtain rfl : location = .persist prepared todo := hlocation
  obtain ⟨hprepared, hunused, done, hstatements, hpending, -⟩ := hinv
  cases todo with
  | nil => cases h
  | cons st todo =>
      simp only [authorizeCode] at h
      split at h
      · cases h
      · rename_i e happly
        obtain rfl := Action.rollback.inj h
        have hpending' : pending = done.map (·.write) := hpending
        have hinserts : db.Inserts done (Session.view ⟨(.persist prepared (st :: todo) :
            PublicReadLocation), pending⟩ db) := by
          rw [Session.view, hpending']
          exact applyAll_inserts (fun _ hs => hs) db
        have hviolation : e = .store .uniqueConstraint := by
          cases st <;>
          · obtain ⟨v, hv, rfl⟩ := write_eq_error.mp happly
            rw [Table.insert_eq_error hv]
        rw [if_pos hviolation]
        refine ⟨rfl, hunused, ?_⟩
        rcases prepared.statements_split hstatements with
          ⟨g, hgrant, rfl, rfl⟩ | ⟨rfl, rfl⟩ | ⟨rfl, -, rfl⟩
        · have hfree : ∃ db', (AuthorizationStatement.createSourceAccessGrant g).apply
              (Session.view ⟨(.persist prepared (.createSourceAccessGrant g :: todo) :
                PublicReadLocation), pending⟩ db) = .ok db' := by
            refine createSourceAccessGrant_ok_iff.mpr fun r hr heq => ?_
            rcases hinserts.new_grant r hr with hold | hnew
            · exact hunused.grant r hold (heq.trans (hprepared.grant_id hgrant))
            · cases hnew
          obtain ⟨db', hok⟩ := hfree
          rw [hok] at happly
          cases happly
        · have hfree : ∃ db', (AuthorizationStatement.createDeliveryAuthorizationAudit
              prepared.audit).apply (Session.view ⟨(.persist prepared
                (.createDeliveryAuthorizationAudit prepared.audit :: todo) :
                  PublicReadLocation), pending⟩ db) = .ok db' := by
            refine createDeliveryAuthorizationAudit_ok_iff.mpr fun r hr heq => ?_
            rcases hinserts.new_audit r hr with hold | hnew
            · exact hunused.audit r hold (heq.trans hprepared.audit_id)
            · simp at hnew
          obtain ⟨db', hok⟩ := hfree
          rw [hok] at happly
          cases happly
        · by_contra hnone
          have hfree : ∃ db', (AuthorizationStatement.createIdempotencyRecord
              prepared.record).apply (Session.view ⟨(.persist prepared
                (.createIdempotencyRecord prepared.record :: todo) :
                  PublicReadLocation), pending⟩ db) = .ok db' := by
            refine Db.createIdempotencyRecord_ok_iff.mpr ?_
            rw [Db.idempotencyRecord?, Table.find?_eq_none_iff]
            intro r hr
            refine beq_eq_false_iff_ne.mpr fun hkey => ?_
            rcases hinserts.new_record r hr with hold | hnew
            · exact hnone ⟨r, hold, hkey.trans hprepared.record_key⟩
            · simp at hnew
          obtain ⟨db', hok⟩ := hfree
          rw [hok] at happly
          cases happly

/-- **The commit of an authorization** makes all the insertions of its transaction. -/
theorem AuthorizeInv.commit (hinv : AuthorizeInv rt ids call s db)
    (h : authorizeCode rt ids call s.location (s.view db) = .commit next) :
    ∃ prepared, s.location = .persist prepared [] ∧ next = .authorized prepared ∧
      PreparedBy rt ids call prepared ∧ ids.Unused db ∧
      s.Holds (.record call.recordKey) ∧ db.idempotencyRecord? call.recordKey = none ∧
      applyStatements prepared.statements db = .ok (s.view db) := by
  obtain ⟨prepared, todo, hlocation⟩ := authorizeCode_persist h (by simp) (by simp)
  obtain ⟨location, pending⟩ := s
  obtain rfl : location = .persist prepared todo := hlocation
  obtain ⟨hprepared, hunused, done, hstatements, hpending, hnone⟩ := hinv
  cases todo with
  | nil =>
      obtain rfl := Action.commit.inj h
      rw [List.append_nil] at hstatements
      have hrecord : AuthorizationStatement.createIdempotencyRecord prepared.record ∈ done := by
        rw [← hstatements]
        simp [PreparedAuthorization.statements]
      have hfree : prepared.RowsFree db := by
        refine ⟨fun g hg r hr heq => ?_, fun r hr heq => ?_, ?_⟩
        · exact hunused.grant r hr (heq.trans (hprepared.grant_id hg))
        · exact hunused.audit r hr (heq.trans hprepared.audit_id)
        · rw [hprepared.record_key]
          exact hnone hrecord
      obtain ⟨authorization, db', hpersist⟩ := persist_ok_iff.mpr hfree
      obtain ⟨db₁, h₁, hdb⟩ := bind_eq_ok.mp hpersist
      have hview :
        Session.view ⟨(.persist prepared [] : PublicReadLocation), pending⟩ db = db₁ := by
        rw [Session.view, show pending = done.map (·.write) from hpending, ← hstatements]
        exact applyAll_eq_of_applyStatements h₁
      have hmem : (AuthorizationStatement.createIdempotencyRecord prepared.record).write ∈
          pending := by
        rw [show pending = done.map (·.write) from hpending]
        exact List.mem_map_of_mem hrecord
      exact ⟨prepared, rfl, rfl, hprepared, hunused,
        ⟨_, hmem, congrArg AuthorizationRow.record hprepared.record_key⟩, hnone hrecord,
        h₁.trans (congrArg Except.ok hview.symm)⟩
  | cons st todo =>
      simp only [authorizeCode] at h
      split at h <;> cases h

end Authorize

/-! ### The steps of an exchange -/

section Consume

variable {calls : ι → PublicReadCall} {token : String} {now : Instant}
  {s : Session Db AuthorizationRow PublicReadLocation} {db db' : Db} {next : PublicReadLocation}

theorem updateSourceAccessGrant_rows {id : String} {f : SourceAccessGrant → SourceAccessGrant}
    (h : db.updateSourceAccessGrant id f = .ok db') :
    db'.deliveryAuthorizationAudits = db.deliveryAuthorizationAudits ∧
      db'.idempotencyRecords = db.idempotencyRecords ∧
      (∃ g ∈ db.sourceAccessGrants.rows, g.id = id) ∧
      ∀ x, x ∈ db'.sourceAccessGrants.rows ↔
        (∃ g ∈ db.sourceAccessGrants.rows, g.id = id ∧ f g = x) ∨
          (x ∈ db.sourceAccessGrants.rows ∧ x.id ≠ id) := by
  obtain ⟨t, ht, rfl⟩ := write_eq_ok.mp h
  obtain ⟨⟨g, hg, hid⟩, -⟩ := Table.update_eq_ok_iff.mp ht
  exact ⟨rfl, rfl, ⟨g, hg, eq_of_beq hid⟩, Table.mem_rows_update_key ht⟩

theorem updateDeliveryAuthorizationAudit_rows {id : String}
    {f : DeliveryAuthorizationAudit → DeliveryAuthorizationAudit}
    (h : db.updateDeliveryAuthorizationAudit id f = .ok db') :
    db'.sourceAccessGrants = db.sourceAccessGrants ∧
      db'.idempotencyRecords = db.idempotencyRecords ∧
      (∃ a ∈ db.deliveryAuthorizationAudits.rows, a.id = id) ∧
      ∀ x, x ∈ db'.deliveryAuthorizationAudits.rows ↔
        (∃ a ∈ db.deliveryAuthorizationAudits.rows, a.id = id ∧ f a = x) ∨
          (x ∈ db.deliveryAuthorizationAudits.rows ∧ x.id ≠ id) := by
  obtain ⟨t, ht, rfl⟩ := write_eq_ok.mp h
  obtain ⟨⟨a, ha, hid⟩, -⟩ := Table.update_eq_ok_iff.mp ht
  exact ⟨rfl, rfl, ⟨a, ha, eq_of_beq hid⟩, Table.mem_rows_update_key ht⟩

theorem extractUrlFromMetadata_eq {metadata : AuthorizationMetadata} {url : String}
    (h : extractUrlFromMetadata metadata = some url) : metadata.url = url := by
  unfold extractUrlFromMetadata present at h
  obtain ⟨hsome, -⟩ := Option.filter_eq_some_iff.mp h
  exact Option.some.inj hsome

/-- Marking a grant used keeps the links. -/
theorem sameLinks_of_grant {id : String}
    (h : db.updateSourceAccessGrant id (·.consume now) = .ok db') : db.SameLinks db' := by
  obtain ⟨haudits, hrecords, -, hrows⟩ := updateSourceAccessGrant_rows h
  refine ⟨fun r hr => ?_, fun r' hr' => ?_, fun r hr => ?_, fun r' hr' => ?_, hrecords⟩
  · by_cases hid : r.id = id
    · exact ⟨r.consume now, (hrows _).mpr (.inl ⟨r, hr, hid, rfl⟩), rfl⟩
    · exact ⟨r, (hrows _).mpr (.inr ⟨hr, hid⟩), rfl⟩
  · rcases (hrows r').mp hr' with ⟨r, hr, -, rfl⟩ | ⟨hr, -⟩
    · exact ⟨r, hr, rfl⟩
    · exact ⟨r', hr, rfl⟩
  · exact ⟨r, by rw [haudits]; exact hr, rfl, rfl, rfl⟩
  · exact ⟨r', by rw [← haudits]; exact hr', rfl, rfl⟩

/-- Marking an audit row used keeps the links, when the URL is still that of the row. -/
theorem sameLinks_of_audit {id : String} {metadata : AuthorizationMetadata}
    (h : db.updateDeliveryAuthorizationAudit id (·.consume metadata now) = .ok db')
    (hurl : ∀ a ∈ db.deliveryAuthorizationAudits.rows, a.id = id →
      metadata.url = a.requestMetadata.url) :
    db.SameLinks db' := by
  obtain ⟨hgrants, hrecords, -, hrows⟩ := updateDeliveryAuthorizationAudit_rows h
  refine ⟨fun r hr => ?_, fun r' hr' => ?_, fun r hr => ?_, fun r' hr' => ?_, hrecords⟩
  · exact ⟨r, by rw [hgrants]; exact hr, rfl⟩
  · exact ⟨r', by rw [← hgrants]; exact hr', rfl⟩
  · by_cases hid : r.id = id
    · exact ⟨r.consume metadata now, (hrows _).mpr (.inl ⟨r, hr, hid, rfl⟩), rfl, rfl,
        hurl r hr hid⟩
    · exact ⟨r, (hrows _).mpr (.inr ⟨hr, hid⟩), rfl, rfl, rfl⟩
  · rcases (hrows r').mp hr' with ⟨r, hr, -, rfl⟩ | ⟨hr, -⟩
    · exact ⟨r, hr, rfl, rfl⟩
    · exact ⟨r', hr, rfl, rfl⟩

theorem consumeCode_cases {location : PublicReadLocation}
    {action : Action Db AuthorizationRow PublicReadLocation}
    (h : consumeCode token now location db = action) :
    (∃ next, action = .query next) ∨ action = .halt ∨
      (∃ grant db', location = .markGrant grant ∧
        db.updateSourceAccessGrant grant.id (·.consume now) = .ok db' ∧
        action = .autocommit (markGrantUsed grant.id now)
          (.exchanged (grant.downloadLinkRecord token))) ∨
      ∃ audit link db', location = .markAudit audit link ∧
        db.updateDeliveryAuthorizationAudit audit.id (·.consume audit.requestMetadata now) =
          .ok db' ∧
        action = .autocommit (markAuditUsed audit.id audit.requestMetadata now)
          (.exchanged link) := by
  subst h
  cases location with
  | findGrant =>
      simp only [consumeCode]
      split <;> exact .inl ⟨_, rfl⟩
  | markGrant grant =>
      simp only [consumeCode]
      split
      · rename_i db' hdb
        exact .inr (.inr (.inl ⟨grant, db', rfl, hdb, rfl⟩))
      · exact .inl ⟨_, rfl⟩
  | findAudit =>
      simp only [consumeCode]
      split <;> exact .inl ⟨_, rfl⟩
  | markAudit audit link =>
      simp only [consumeCode]
      split
      · rename_i db' hdb
        exact .inr (.inr (.inr ⟨audit, link, db', rfl, hdb, rfl⟩))
      · exact .inl ⟨_, rfl⟩
  | _ => exact .inr (.inl rfl)

theorem ConsumeInv.query (hminted : MintedRows calls db) (hinv : ConsumeInv calls token now s db)
    (h : consumeCode token now s.location (s.view db) = .query next) :
    ConsumeInv calls token now ⟨next, s.pending⟩ db := by
  obtain ⟨location, pending⟩ := s
  obtain ⟨rfl, hinv⟩ := hinv
  simp only [Session.view, applyAll_nil] at h
  refine ⟨rfl, ?_⟩
  cases location with
  | findGrant =>
      simp only [consumeCode] at h
      split at h
      · rename_i grant hfound
        obtain rfl := Action.query.inj h
        have hmem := Table.mem_of_find? hfound
        have hselected := Table.sel_of_find? hfound
        simp only [Bool.and_eq_true, beq_iff_eq, decide_eq_true_eq] at hselected
        obtain ⟨hid, hnow⟩ := hselected
        refine ⟨hid, hnow, ?_, ?_, grant, hmem, hid⟩
        · intro i ids call hcall htoken
          exact (hminted.grant hcall grant hmem (hid.trans htoken.symm)).1
        · intro i ids call hcall htoken
          exact (hminted.grant hcall grant hmem (hid.trans htoken.symm)).2
      · obtain rfl := Action.query.inj h
        trivial
  | markGrant grant =>
      simp only [consumeCode] at h
      split at h
      · cases h
      · obtain rfl := Action.query.inj h
        trivial
  | findAudit =>
      simp only [consumeCode] at h
      split at h
      · rename_i audit link hresolve
        obtain rfl := Action.query.inj h
        unfold resolveDeliveryGrant at hresolve
        split at hresolve
        · cases hresolve
        · rename_i found hfound
          split at hresolve
          · rename_i expiresAt url hexpires hurl
            obtain ⟨rfl, rfl⟩ := Prod.mk.inj (Except.ok.inj hresolve)
            have hmem : found ∈ db.deliveryAuthorizationAudits.rows :=
              List.mem_reverse.mp (List.mem_of_find?_eq_some hfound)
            have hselected := List.find?_some hfound
            simp only [hexpires, Option.any_some, Bool.and_eq_true, beq_iff_eq,
              decide_eq_true_eq] at hselected
            obtain ⟨hnow, hgrant⟩ := hselected
            obtain rfl := extractUrlFromMetadata_eq hurl
            refine ⟨hgrant, rfl, hnow, ?_, rfl, found, hmem, rfl, hgrant, rfl⟩
            intro i ids call hcall htoken
            exact (hminted.audit hcall found hmem (by rw [hgrant, htoken])).2 _ hexpires
          · cases hresolve
      · obtain rfl := Action.query.inj h
        trivial
  | markAudit audit link =>
      simp only [consumeCode] at h
      split at h
      · cases h
      · obtain rfl := Action.query.inj h
        trivial
  | _ => cases h

/-- **The update of an exchange** keeps the links, and no row outlives its promise. -/
theorem ConsumeInv.autocommit {w : Write Db AuthorizationRow} (hminted : MintedRows calls db)
    (hinv : ConsumeInv calls token now s db)
    (h : consumeCode token now s.location (s.view db) = .autocommit w next) :
    db.SameLinks (w.effect db) ∧ MintedRows calls (w.effect db) ∧
      ConsumeInv calls token now ⟨next, s.pending⟩ (w.effect db) := by
  obtain ⟨location, pending⟩ := s
  obtain ⟨rfl, hinv⟩ := hinv
  simp only [Session.view, applyAll_nil] at h
  rcases consumeCode_cases h with ⟨next', heq⟩ | heq | ⟨grant, db', rfl, hdb, heq⟩ |
    ⟨audit, link, db', rfl, hdb, heq⟩
  · cases heq
  · cases heq
  · obtain ⟨rfl, rfl⟩ := Action.autocommit.inj heq
    obtain ⟨hid, hnow, hbefore, hpath, g, hg, hgid⟩ := hinv
    have heffect : (markGrantUsed grant.id now).effect db = db' := by
      simp only [markGrantUsed, hdb, keepOnError]
    rw [heffect]
    have hsame := sameLinks_of_grant hdb
    obtain ⟨haudits, -, -, hrows⟩ := updateSourceAccessGrant_rows hdb
    refine ⟨hsame, ⟨?_, ?_⟩, rfl, hnow, hbefore, ?_⟩
    · intro i ids call hcall g' hg' hgid'
      rcases (hrows g').mp hg' with ⟨r, hr, hrid, rfl⟩ | ⟨hr, -⟩
      · have htoken : ids.grantId = token := hgid'.symm.trans (hrid.trans hid)
        obtain ⟨-, hpath⟩ := hminted.grant hcall r hr (hrid.trans (hid.trans htoken.symm))
        have hexpiry := hbefore hcall htoken
        exact ⟨le_trans (le_of_lt hnow) hexpiry, hpath⟩
      · exact hminted.grant hcall g' hr hgid'
    · intro i ids call hcall a ha
      rw [haudits] at ha
      exact hminted.audit hcall a ha
    · obtain ⟨g', hg', hgid'⟩ := hsame.grant g hg
      exact .inl ⟨g', hg', hgid'.trans hgid⟩
  · obtain ⟨rfl, rfl⟩ := Action.autocommit.inj heq
    obtain ⟨htoken, hlink, hnow, hbefore, hurl, a, ha, haid, hagrant, haurl⟩ := hinv
    have heffect : (markAuditUsed audit.id audit.requestMetadata now).effect db = db' := by
      simp only [markAuditUsed, hdb, keepOnError]
    rw [heffect]
    have hunique : ∀ r ∈ db.deliveryAuthorizationAudits.rows, r.id = audit.id → r = a := by
      intro r hr hrid
      exact Table.eq_of_clash hr ha (by simp [clash, sameKey, hrid, haid])
    have hsame := sameLinks_of_audit hdb fun r hr hrid => by rw [hunique r hr hrid, haurl]
    obtain ⟨hgrants, -, -, hrows⟩ := updateDeliveryAuthorizationAudit_rows hdb
    refine ⟨hsame, ⟨?_, ?_⟩, rfl, hnow, hbefore, ?_⟩
    · intro i ids call hcall g hg
      rw [hgrants] at hg
      exact hminted.grant hcall g hg
    · intro i ids call hcall a' ha' hgrant'
      rcases (hrows a').mp ha' with ⟨r, hr, hrid, rfl⟩ | ⟨hr, -⟩
      · obtain rfl := hunique r hr hrid
        refine ⟨(hminted.audit hcall r hr hgrant').1, fun t ht => ?_⟩
        obtain rfl := Option.some.inj ht
        have hids : ids.grantId = token := Option.some.inj (hgrant'.symm.trans hagrant)
        exact le_trans (le_of_lt hnow) (hbefore hcall hids)
      · exact hminted.audit hcall a' hr hgrant'
    · obtain ⟨a', ha', -, hgrant', -⟩ := hsame.audit a ha
      exact .inr ⟨a', ha', hgrant'.trans hagrant⟩

end Consume

/-! ### The invariant -/

section Invariant

variable {rt : Runtime} {calls : ι → PublicReadCall}

/-- The rows that a transaction inserts carry the token of its call, and expire when it
promises. -/
theorem MintedRows.inserts {db₀ db db' : Db} {i : ι} {ids : AuthorizationIds}
    {call : AuthorizationCall} {prepared : PreparedAuthorization} (h : MintedRows calls db)
    (hfresh : FreshIds db₀ calls) (hi : calls i = .authorize ids call)
    (hprepared : PreparedBy rt ids call prepared)
    (hinserts : db.Inserts prepared.statements db') : MintedRows calls db' where
  grant {j ids' call'} hj g hg hid := by
    rcases hinserts.new_grant g hg with hold | hnew
    · exact h.grant hj g hold hid
    · have hgrant : prepared.grant = some g := by
        simpa [PreparedAuthorization.statements] using hnew
      obtain rfl := hfresh.grant hi hj ((hprepared.grant_id hgrant).symm.trans hid)
      obtain ⟨rfl, rfl⟩ := PublicReadCall.authorize.inj (hi.symm.trans hj)
      cases hprepared with
      | @source preferredDisposition tenantId htarget =>
          obtain rfl := Option.some.inj hgrant
          exact ⟨le_refl _, preferredDisposition, htarget, rfl⟩
      | delivery deliveryScope storageKey htarget => cases hgrant
  audit {j ids' call'} hj a ha hgrant := by
    rcases hinserts.new_audit a ha with hold | hnew
    · exact h.audit hj a hold hgrant
    · have haudit : a = prepared.audit := by
        simpa [PreparedAuthorization.statements] using hnew
      subst haudit
      obtain rfl := hfresh.grant hi hj (hprepared.audit_grantId hgrant).symm
      obtain ⟨rfl, rfl⟩ := PublicReadCall.authorize.inj (hi.symm.trans hj)
      refine ⟨hprepared.audit_id, fun t ht => ?_⟩
      rw [hprepared.audit_expiresAt] at ht
      exact le_of_eq (Option.some.inj ht).symm

/-- The rows that a transaction has inserted. -/
theorem applyStatements_rows {prepared : PreparedAuthorization} {db db' : Db}
    (h : applyStatements prepared.statements db = .ok db') :
    db.Inserts prepared.statements db' ∧ prepared.record ∈ db'.idempotencyRecords.rows ∧
      prepared.audit ∈ db'.deliveryAuthorizationAudits.rows ∧
      ∀ g, prepared.grant = some g → g ∈ db'.sourceAccessGrants.rows := by
  have hinserts : db.Inserts prepared.statements db' := by
    rw [← applyAll_eq_of_applyStatements h]
    exact applyAll_inserts (fun _ hs => hs) db
  have hlast : ∀ {db₁ : Db}, applyStatements [.createDeliveryAuthorizationAudit prepared.audit,
      .createIdempotencyRecord prepared.record] db₁ = .ok db' →
      db₁.sourceAccessGrants = db'.sourceAccessGrants ∧
        prepared.record ∈ db'.idempotencyRecords.rows ∧
        prepared.audit ∈ db'.deliveryAuthorizationAudits.rows := by
    intro db₁ h
    obtain ⟨db₂, h₂, h⟩ := bind_eq_ok.mp h
    obtain ⟨db₃, h₃, h⟩ := bind_eq_ok.mp h
    obtain rfl := Except.ok.inj h
    obtain ⟨t₂, ht₂, rfl⟩ := write_eq_ok.mp h₂
    obtain ⟨t₃, ht₃, rfl⟩ := write_eq_ok.mp h₃
    exact ⟨rfl, (Table.mem_rows_insert ht₃ _).mpr (.inr rfl),
      (Table.mem_rows_insert ht₂ _).mpr (.inr rfl)⟩
  cases hgrant : prepared.grant with
  | none =>
      rw [PreparedAuthorization.statements, hgrant] at h
      obtain ⟨-, hrecord, haudit⟩ := hlast h
      exact ⟨hinserts, hrecord, haudit, fun g hg => by cases hg⟩
  | some g =>
      rw [PreparedAuthorization.statements, hgrant] at h
      obtain ⟨db₁, h₁, h⟩ := bind_eq_ok.mp h
      obtain ⟨hgrants, hrecord, haudit⟩ := hlast h
      refine ⟨hinserts, hrecord, haudit, fun g' hg' => ?_⟩
      obtain rfl := Option.some.inj hg'
      obtain ⟨t₁, ht₁, rfl⟩ := write_eq_ok.mp h₁
      rw [← hgrants]
      exact (Table.mem_rows_insert ht₁ _).mpr (.inr rfl)

/-- **The commit of a session** is that of an authorization. -/
theorem publicReadCode_commit {i : ι} {s : Session Db AuthorizationRow PublicReadLocation} {db : Db}
    {next : PublicReadLocation} (hinv : SessionInv rt calls i s db)
    (h : publicReadCode rt calls i s.location (s.view db) = .commit next) :
    ∃ ids call prepared, calls i = .authorize ids call ∧ s.location = .persist prepared [] ∧
      next = .authorized prepared ∧ PreparedBy rt ids call prepared ∧ ids.Unused db ∧
      s.Holds (.record call.recordKey) ∧ db.idempotencyRecord? call.recordKey = none ∧
      applyStatements prepared.statements db = .ok (s.view db) := by
  unfold publicReadCode at h
  unfold SessionInv at hinv
  cases hcall : calls i with
  | authorize ids call =>
      rw [hcall] at h hinv
      obtain ⟨prepared, hcommit⟩ := AuthorizeInv.commit hinv h
      exact ⟨ids, call, prepared, rfl, hcommit⟩
  | consumeDownloadLink token now =>
      rw [hcall] at h
      rcases consumeCode_cases h with ⟨next', heq⟩ | heq | ⟨grant, db', -, -, heq⟩ |
        ⟨audit, link, db', -, -, heq⟩ <;> cases heq

/-- **The update of a session** outside a transaction is that of an exchange. -/
theorem publicReadCode_autocommit {i : ι} {s : Session Db AuthorizationRow PublicReadLocation}
    {db : Db} {w : Write Db AuthorizationRow} {next : PublicReadLocation}
    (h : publicReadCode rt calls i s.location (s.view db) = .autocommit w next) :
    ∃ token now, calls i = .consumeDownloadLink token now ∧
      consumeCode token now s.location (s.view db) = .autocommit w next := by
  unfold publicReadCode at h
  cases hcall : calls i with
  | authorize ids call =>
      rw [hcall] at h
      exact absurd h authorizeCode_ne_autocommit
  | consumeDownloadLink token now =>
      rw [hcall] at h
      exact ⟨token, now, rfl, h⟩

/-- **The invariant of the public read store**, over every interleaving. -/
theorem publicRead_invariant {db₀ : Db} (hfresh : FreshIds db₀ calls) :
    LocalInvariant (publicReadCode rt calls) Db.SameAuthorizations (fun _ _ _ => True)
      (MintedRows calls) (SessionInv rt calls) where
  query {i s db next} hminted hinv _ h := by
    unfold SessionInv at hinv ⊢
    unfold publicReadCode at h
    cases hcall : calls i with
    | authorize ids call =>
        rw [hcall] at h hinv
        exact AuthorizeInv.query hinv h
    | consumeDownloadLink token now =>
        rw [hcall] at h hinv
        exact ConsumeInv.query hminted hinv h
  write {i s db w next} hminted hinv _ h := by
    unfold SessionInv at hinv ⊢
    unfold publicReadCode at h
    cases hcall : calls i with
    | authorize ids call =>
        rw [hcall] at h hinv
        exact AuthorizeInv.write hinv h
    | consumeDownloadLink token now =>
        rw [hcall] at h
        rcases consumeCode_cases h with ⟨next', heq⟩ | heq | ⟨grant, db', -, -, heq⟩ |
          ⟨audit, link, db', -, -, heq⟩ <;> cases heq
  rollback {i s db next} hminted hinv _ h := by
    unfold SessionInv at hinv ⊢
    unfold publicReadCode at h
    cases hcall : calls i with
    | authorize ids call =>
        rw [hcall] at h hinv
        exact AuthorizeInv.rollback hinv h
    | consumeDownloadLink token now =>
        rw [hcall] at h
        rcases consumeCode_cases h with ⟨next', heq⟩ | heq | ⟨grant, db', -, -, heq⟩ |
          ⟨audit, link, db', -, -, heq⟩ <;> cases heq
  autocommit {i s db w next} hminted hinv _ h := by
    obtain ⟨token, now, hcall, hcode⟩ := publicReadCode_autocommit h
    unfold SessionInv at hinv ⊢
    rw [hcall] at hinv ⊢
    exact (ConsumeInv.autocommit hminted hinv hcode).2
  autocommit_frame {i j s s' db w next} hminted hinv _ h hji hfree hother := by
    obtain ⟨token, now, hcall, hcode⟩ := publicReadCode_autocommit h
    unfold SessionInv at hinv
    rw [hcall] at hinv
    exact hother.frame (ConsumeInv.autocommit hminted hinv hcode).1.spares
  commit {i s db next} hminted hinv _ h := by
    obtain ⟨ids, call, prepared, hcall, -, rfl, hprepared, -, -, -, happly⟩ :=
      publicReadCode_commit hinv h
    obtain ⟨hinserts, hrecord, haudit, -⟩ := applyStatements_rows happly
    refine ⟨hminted.inserts hfresh hcall hprepared hinserts, ?_⟩
    unfold SessionInv
    rw [hcall]
    exact ⟨rfl, hprepared, hrecord, prepared.audit, haudit, hprepared.audit_id, rfl, rfl⟩
  commit_frame {i j s s' db next} hminted hinv _ h hji hapart hother := by
    obtain ⟨ids, call, prepared, hcall, -, rfl, hprepared, -, hholds, -, happly⟩ :=
      publicReadCode_commit hinv h
    obtain ⟨hinserts, -⟩ := applyStatements_rows happly
    exact hother.frame (hprepared.spares hfresh hcall hji hinserts (hapart _ hholds))
  environment {db db'} hminted henv := by
    refine ⟨?_, ?_⟩
    · intro i ids call hcall g hg
      rw [henv.sourceAccessGrants] at hg
      exact hminted.grant hcall g hg
    · intro i ids call hcall a ha
      rw [henv.deliveryAuthorizationAudits] at ha
      exact hminted.audit hcall a ha
  environment_frame {i s db db'} hminted henv hinv := hinv.frame henv.sameLinks.spares

/-- The invariant holds before the first statement. -/
theorem publicReadSystem_satisfies {db : Db} (hfresh : FreshIds db calls) :
    (publicReadSystem db calls).Satisfies (MintedRows calls) (SessionInv rt calls) where
  exclusive := System.exclusive_of_idle fun _ => rfl
  db :=
    { grant := fun hcall g hg hid => absurd hid ((hfresh.unused hcall).grant g hg)
      audit := fun hcall a ha hid => absurd hid ((hfresh.unused hcall).token a ha) }
  own i := by
    have hstart : (publicReadSystem db calls).session i = ⟨(calls i).start, []⟩ := rfl
    rw [hstart]
    unfold SessionInv
    cases hcall : calls i with
    | authorize ids call => exact ⟨rfl, hfresh.unused hcall⟩
    | consumeDownloadLink token now => exact ⟨rfl, trivial⟩

end Invariant

end Cdngine
