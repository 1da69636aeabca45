import Cdngine.IssuedRows
import Cdngine.PublicRead

/-!
# Tenant Isolation

The scope of a request, and the check that keeps an actor inside the namespaces and
tenants it is allowed to act in. An issuance takes its scope from the request; a
completion and a read take theirs from the rows the issuance left: the session or the
version, its asset, and the asset's tenant scope. The check skips a tenant that is absent,
so that whether an actor is kept out of a tenant's sessions and versions is decided by
what the issuance writes.

A tenant that the registry does not know for the namespace counts as no tenant at all
(`resolveTenant`): the issuance succeeds, and the asset has no tenant scope.

## Main results

* `assertAuthorizedScope_eq_ok_iff`: which actors pass the check.
* `issueUploadSession_binds_tenant_iff`: an issuance for a tenant binds its session and
  its asset to that tenant, in every later state, exactly when the registry knows the
  tenant for the namespace.
* `unknown_tenant_admits_every_tenant`: a session issued for an unknown tenant, which the
  actor of another tenant passes.
-/

open Relational Runs

namespace Cdngine

/-! ### Actors and scopes -/

structure AuthenticatedActor where
  subject : String
  roles : List String
  allowedServiceNamespaces : List String
  allowedTenantIds : List String
  deriving DecidableEq, Repr

structure RequestedScope where
  serviceNamespaceId : Option String := none
  tenantId : Option String := none
  deriving DecidableEq, Repr

structure ProblemDetail where
  type : String
  title : String
  status : Nat
  detail : String
  retryable : Bool
  deriving DecidableEq, Repr

namespace ProblemDetail

/-- The problem of a request without an actor. -/
def unauthorized (detail : String) : ProblemDetail where
  type := "https://docs.cdngine.dev/problems/unauthorized"
  title := "Unauthorized"
  status := 401
  detail
  retryable := false

/-- The problem of an actor outside its scopes. -/
def scopeNotAllowed (detail : String) : ProblemDetail where
  type := "https://docs.cdngine.dev/problems/scope-not-allowed"
  title := "Scope not allowed"
  status := 403
  detail
  retryable := false

def notFound (detail : String) : ProblemDetail where
  type := "https://docs.cdngine.dev/problems/not-found"
  title := "Not found"
  status := 404
  detail
  retryable := false

end ProblemDetail

/-- One half of the scope check: an id that is present must be among the allowed ones,
unless none are listed. -/
def assertAllowed (allowed : List String) (kind : String) (id : Option String) :
    Except ProblemDetail Unit :=
  match present id with
  | none => .ok ()
  | some id =>
      if allowed.length > 0 ∧ id ∉ allowed then
        .error
          (.scopeNotAllowed ("The caller is not allowed to act in " ++ kind ++ " " ++ id ++ "."))
      else .ok ()

/-- `assertAuthorizedScope`, over the actor of the request's context. -/
def assertAuthorizedScope (actor : Option AuthenticatedActor) (requestedScope : RequestedScope) :
    Except ProblemDetail Unit :=
  match actor with
  | none =>
      .error
        (.unauthorized "Authenticated actor context is required before scope checks can run.")
  | some actor => do
      assertAllowed actor.allowedServiceNamespaces "service namespace"
        requestedScope.serviceNamespaceId
      assertAllowed actor.allowedTenantIds "tenant scope" requestedScope.tenantId

/-- A scope that a route takes from stored rows; an empty tenant counts as none. -/
def storedScope (serviceNamespaceId : String) (tenantId : Option String) : RequestedScope where
  serviceNamespaceId := some serviceNamespaceId
  tenantId := present tenantId

/-- How the completion route begins: it looks the session up and checks the actor against
the scope of its rows. -/
def requireScopedUploadSession (db : Db) (actor : Option AuthenticatedActor)
    (uploadSessionId : String) : Except ProblemDetail RegistryUploadSessionSummary :=
  match getUploadSession db uploadSessionId with
  | none => .error (.notFound ("Upload session " ++ quoted uploadSessionId ++ " does not exist."))
  | some session => do
      assertAuthorizedScope actor (storedScope session.serviceNamespaceId session.tenantId)
      return session

/-- How every route that reads a version begins. -/
def requireScopedVersion (db : Db) (actor : Option AuthenticatedActor)
    (assetId versionId : String) : Except ProblemDetail RegistryPublicAssetVersionRecord :=
  match getVersion db assetId versionId with
  | none =>
      .error (.notFound ("Version " ++ quoted versionId ++ " for asset " ++ quoted assetId ++
        " does not exist."))
  | some version => do
      assertAuthorizedScope actor (storedScope version.serviceNamespaceId version.tenantId)
      return version

/-! ### Who passes the check -/

/-- A list of allowed ids **admits** an id that is absent, and every id when it is empty. -/
def admits (allowed : List String) (id : Option String) : Prop :=
  ∀ i, present id = some i → allowed = [] ∨ i ∈ allowed

theorem present_eq_some_iff {s : Option String} {t : String} :
    present s = some t ↔ s = some t ∧ t ≠ "" := by
  cases s <;> simp [present]

theorem assertAllowed_eq_ok_iff {allowed : List String} {kind : String} {id : Option String} :
    assertAllowed allowed kind id = .ok () ↔ admits allowed id := by
  unfold assertAllowed admits
  cases hid : present id with
  | none => simp
  | some i =>
      by_cases hallowed : allowed.length > 0 ∧ i ∉ allowed
      · obtain ⟨hlength, hmem⟩ := hallowed
        have hne : allowed ≠ [] := List.length_pos_iff.mp hlength
        simp [hlength, hmem, hne]
      · have hadmits : allowed = [] ∨ i ∈ allowed := by
          by_contra h
          obtain ⟨hne, hmem⟩ := not_or.mp h
          exact hallowed ⟨List.length_pos_iff.mpr hne, hmem⟩
        simp only [if_neg hallowed, Option.some.injEq, forall_eq', hadmits]

/-- **An actor passes the scope check** exactly when its lists admit the namespace and
the tenant. -/
theorem assertAuthorizedScope_eq_ok_iff {actor : Option AuthenticatedActor}
    {scope : RequestedScope} :
    assertAuthorizedScope actor scope = .ok () ↔
      ∃ a, actor = some a ∧ admits a.allowedServiceNamespaces scope.serviceNamespaceId ∧
        admits a.allowedTenantIds scope.tenantId := by
  cases actor with
  | none => simp [assertAuthorizedScope]
  | some a =>
      constructor
      · intro h
        obtain ⟨⟨⟩, hnamespace, htenant⟩ := bind_eq_ok.mp h
        exact ⟨a, rfl, assertAllowed_eq_ok_iff.mp hnamespace, assertAllowed_eq_ok_iff.mp htenant⟩
      · rintro ⟨b, heq, hnamespace, htenant⟩
        obtain rfl := Option.some.inj heq
        exact bind_eq_ok.mpr
          ⟨(), assertAllowed_eq_ok_iff.mpr hnamespace, assertAllowed_eq_ok_iff.mpr htenant⟩

/-- An actor whose list lacks the stored tenant fails the check. -/
theorem assertAuthorizedScope_foreign_tenant {actor : AuthenticatedActor} {t : String}
    {serviceNamespaceId : String} {tenantId : Option String} (htenant : present tenantId = some t)
    (hlisted : actor.allowedTenantIds ≠ []) (hforeign : t ∉ actor.allowedTenantIds) :
    assertAuthorizedScope (some actor) (storedScope serviceNamespaceId tenantId) ≠ .ok () := by
  intro h
  obtain ⟨a, ha, -, hadmits⟩ := assertAuthorizedScope_eq_ok_iff.mp h
  obtain rfl := Option.some.inj ha
  rcases hadmits t (by rw [storedScope, present_present, htenant]) with hempty | hmem
  · exact hlisted hempty
  · exact hforeign hmem

/-! ### The rows of an issuance -/

/-- The rows behind an issued session: the session leads to its version, the version to
its asset, and the asset to an existing namespace and to the tenant scope. -/
structure Db.ScopedTo (db : Db) (issued : RegistryIssuedUploadSession)
    (tenant : Option TenantScope) : Prop where
  uploadSession : ∃ s, db.uploadSession? issued.uploadSessionId = some s ∧
    s.assetVersionId = issued.versionId
  version : ∃ v, db.version? issued.versionId = some v ∧ v.assetId = issued.assetId
  asset : ∃ a, db.asset? issued.assetId = some a ∧ a.tenantScopeId = tenant.map (·.id) ∧
    (db.serviceNamespace? a.serviceNamespaceId).isSome
  tenant : ∀ scope, tenant = some scope → db.tenantScope? scope.id = some scope

theorem Db.ScopedTo.keeps {db db' : Db} {issued : RegistryIssuedUploadSession}
    {tenant : Option TenantScope} (h : db.ScopedTo issued tenant) (hkeeps : db.KeepsIssued db') :
    db'.ScopedTo issued tenant := by
  obtain ⟨s, hs, hsv⟩ := h.uploadSession
  obtain ⟨v, hv, hva⟩ := h.version
  obtain ⟨a, ha, hat, hns⟩ := h.asset
  obtain ⟨s', hs', hs'v, -⟩ := hkeeps.uploadSession? hs
  obtain ⟨v', hv', hv'a, -⟩ := hkeeps.version? hv
  obtain ⟨a', ha', ha'n, ha't⟩ := hkeeps.asset? ha
  refine ⟨⟨s', hs', hs'v.trans hsv⟩, ⟨v', hv', hv'a.trans hva⟩, ⟨a', ha', ha't.trans hat, ?_⟩,
    fun scope hscope => ?_⟩
  · rw [ha'n, Db.serviceNamespace?, hkeeps.serviceNamespaces]
    exact hns
  · rw [Db.tenantScope?, hkeeps.tenantScopes]
    exact h.tenant scope hscope

section ScopedTo

variable {db : Db} {issued : RegistryIssuedUploadSession} {tenant : Option TenantScope}

/-- The tenant that the stored rows give an asset. -/
theorem Db.ScopedTo.externalTenantId (h : db.ScopedTo issued tenant) {a : Asset}
    (hat : a.tenantScopeId = tenant.map (·.id)) :
    (a.tenantScopeId.bind db.tenantScope?).map (·.externalTenantId) =
      tenant.map (·.externalTenantId) := by
  rw [hat]
  cases tenant with
  | none => rfl
  | some scope => rw [Option.map_some, Option.bind_some, h.tenant scope rfl]

/-- The summary of a scoped session. -/
theorem Db.ScopedTo.getUploadSession (h : db.ScopedTo issued tenant) :
    ∃ session, getUploadSession db issued.uploadSessionId = some session ∧
      session.tenantId = tenant.map (·.externalTenantId) := by
  obtain ⟨s, hs, hsv⟩ := h.uploadSession
  obtain ⟨v, hv, hva⟩ := h.version
  obtain ⟨a, ha, hat, hns⟩ := h.asset
  obtain ⟨ns, hns⟩ := Option.isSome_iff_exists.mp hns
  have hrow : db.findUploadSession issued.uploadSessionId =
      some ⟨s, v, a, ns.serviceNamespaceId,
        (a.tenantScopeId.bind db.tenantScope?).map (·.externalTenantId),
        (db.dispatchesOf v.id).head?⟩ :=
    Db.findUploadSession_eq_some.mpr ⟨hs, hsv ▸ hv, hva ▸ ha, ⟨ns, hns, rfl⟩, rfl, rfl⟩
  refine ⟨_, by rw [Cdngine.getUploadSession, hrow, Option.map_some], ?_⟩
  exact h.externalTenantId hat

/-- The record of a scoped version. -/
theorem Db.ScopedTo.getVersion (h : db.ScopedTo issued tenant) :
    ∃ version, getVersion db issued.assetId issued.versionId = some version ∧
      version.tenantId = tenant.map (·.externalTenantId) := by
  obtain ⟨v, hv, hva⟩ := h.version
  obtain ⟨a, ha, hat, hns⟩ := h.asset
  obtain ⟨ns, hns⟩ := Option.isSome_iff_exists.mp hns
  have hva' : (v.assetId == issued.assetId) = true := beq_iff_eq.mpr hva
  have ha' : db.asset? v.assetId = some a := hva ▸ ha
  simp only [Cdngine.getVersion, hv, Option.filter_some, hva', if_true, Option.bind_eq_bind,
    Option.bind_some, ha', hns]
  exact ⟨_, rfl, h.externalTenantId hat⟩

end ScopedTo

/-- An issuance attaches its version to an asset in the namespace and under the tenant
it resolved. -/
theorem issueAsset_scoped {db db' : Db} {input : RegistryIssueUploadSessionInput} {ids : IssueIds}
    {namespaceId : String} {tenant : Option TenantScope} {asset : Asset}
    (h : issueAsset db input ids namespaceId tenant = .ok (asset, db')) :
    db'.asset? asset.id = some asset ∧ asset.serviceNamespaceId = namespaceId ∧
      asset.tenantScopeId = tenant.map (·.id) ∧ db'.serviceNamespaces = db.serviceNamespaces ∧
      db'.tenantScopes = db.tenantScopes := by
  unfold issueAsset at h
  split at h
  · obtain ⟨db₁, h₁, h⟩ := bind_eq_ok.mp h
    obtain ⟨rfl, rfl⟩ := Prod.mk.inj (Except.ok.inj h)
    obtain ⟨t, ht, rfl⟩ := write_eq_ok.mp h₁
    refine ⟨Db.asset?_eq_some_iff.mpr ⟨?_, rfl⟩, rfl, rfl, rfl, rfl⟩
    exact (Table.mem_rows_insert ht _).mpr (Or.inr rfl)
  · obtain ⟨found, hfound, h⟩ := bind_eq_ok.mp h
    obtain ⟨rfl, rfl⟩ := Prod.mk.inj (Except.ok.inj h)
    unfold loadExistingAsset at hfound
    split at hfound
    · rename_i row hrow
      obtain rfl := Except.ok.inj hfound
      have hsel := Table.sel_of_find? hrow
      simp only [Bool.and_eq_true, beq_iff_eq] at hsel
      obtain ⟨⟨⟨hid, -⟩, hnamespace⟩, htenant⟩ := hsel
      exact ⟨Db.asset?_eq_some_iff.mpr ⟨Table.mem_of_find? hrow, rfl⟩, hnamespace, htenant,
        rfl, rfl⟩
    · cases hfound

/-- **What an issuance leaves**: rows scoped to the tenant it resolved in the namespace of
the request. -/
theorem issueTransaction_scoped {input : RegistryIssueUploadSessionInput} {ids : IssueIds}
    {now : Instant} {db db' : Db} {issued : RegistryIssuedUploadSession}
    (h : issueTransaction input ids now db = .ok (issued, db')) :
    ∃ ns, db.serviceNamespaces.find? (fun r => r.serviceNamespaceId == input.serviceNamespaceId) =
        some ns ∧
      db'.ScopedTo issued (resolveTenant db ns.id input.tenantId) := by
  unfold issueTransaction at h
  split at h
  · rename_i ns hns
    obtain ⟨⟨asset, db₁⟩, hasset, h⟩ := bind_eq_ok.mp h
    obtain ⟨db₂, h₂, h⟩ := bind_eq_ok.mp h
    obtain ⟨db₃, h₃, h⟩ := bind_eq_ok.mp h
    obtain ⟨db₄, h₄, h⟩ := bind_eq_ok.mp h
    obtain ⟨rfl, rfl⟩ := Prod.mk.inj (Except.ok.inj h)
    obtain ⟨hrow, hnamespace, htenant, hnamespaces, htenants⟩ := issueAsset_scoped hasset
    obtain ⟨t₄, -, rfl⟩ := write_eq_ok.mp h₄
    obtain ⟨t₃, ht₃, rfl⟩ := write_eq_ok.mp h₃
    obtain ⟨t₂, ht₂, rfl⟩ := write_eq_ok.mp h₂
    refine ⟨ns, hns, ⟨issuedSession input ids now, ?_, rfl⟩,
      ⟨issuedVersion input ids asset.id (db₁.latestVersionNumber asset.id + 1), ?_, rfl⟩,
      ⟨asset, hrow, htenant, ?_⟩, fun scope hscope => ?_⟩
    · exact Db.uploadSession?_eq_some_iff.mpr ⟨(Table.mem_rows_insert ht₃ _).mpr (Or.inr rfl), rfl⟩
    · exact Db.version?_eq_some_iff.mpr ⟨(Table.mem_rows_insert ht₂ _).mpr (Or.inr rfl), rfl⟩
    · have hfound : db.serviceNamespace? ns.id = some ns :=
        (Table.find?_key_eq_some_iff fun a b h => by simp [clash, h]).mpr
          ⟨Table.mem_of_find? hns, rfl⟩
      simp only [hnamespace, Db.serviceNamespace?, hnamespaces]
      exact Option.isSome_of_eq_some hfound
    · obtain ⟨t, -, hfind⟩ := Option.bind_eq_some_iff.mp hscope
      simp only [Db.tenantScope?, htenants]
      exact (Table.find?_key_eq_some_iff fun a b h => by simp [clash, h]).mpr
        ⟨Table.mem_of_find? hfind, rfl⟩
  · cases h

/-- A replay answers with a stored session. -/
theorem issueReplay_eq_ok {db : Db} {input : RegistryIssueUploadSessionInput}
    {record : IdempotencyRecord} {issued : RegistryIssuedUploadSession}
    (h : issueReplay db input record = .ok issued) :
    ∃ reference session, record.responseReference = some reference ∧
      getUploadSession db reference.uploadSessionId = some session ∧
      issued.uploadSessionId = session.uploadSessionId ∧ issued.versionId = session.versionId ∧
      issued.assetId = session.assetId := by
  unfold issueReplay at h
  split at h
  · cases h
  · unfold loadIssuedUploadSessionReplay at h
    split at h
    · cases h
    · rename_i reference hreference
      split at h
      · cases h
      · split at h
        · rename_i session hsession
          split at h
          · obtain rfl := Except.ok.inj h
            exact ⟨reference, session, hreference, hsession, rfl, rfl, rfl⟩
          · cases h
        · cases h

/-- A stored session is scoped to the tenant that its summary names. -/
theorem getUploadSession_scoped {db : Db} {uploadSessionId : String}
    {session : RegistryUploadSessionSummary} {issued : RegistryIssuedUploadSession}
    (h : getUploadSession db uploadSessionId = some session)
    (hid : issued.uploadSessionId = session.uploadSessionId)
    (hversion : issued.versionId = session.versionId) (hasset : issued.assetId = session.assetId) :
    (∃ tenant, db.ScopedTo issued (some tenant) ∧ session.tenantId = some tenant.externalTenantId) ∨
      session.tenantId = none := by
  obtain ⟨row, hrow, rfl⟩ := Option.map_eq_some_iff.mp h
  obtain ⟨hs, hv, ha, ⟨ns, hns, -⟩, htenant, -⟩ := Db.findUploadSession_eq_some.mp hrow
  have hsid := Db.findUploadSession_id hrow
  have hvid := Db.findUploadSession_version_id hrow
  have haid := (Db.asset?_eq_some_iff.mp ha).2
  cases hscope : row.asset.tenantScopeId.bind db.tenantScope? with
  | none =>
      right
      simp only [buildUploadSessionSummaryFromRow, htenant, hscope, Option.map_none]
  | some tenant =>
      left
      obtain ⟨tenantScopeId, hat, hfind⟩ := Option.bind_eq_some_iff.mp hscope
      have hkey : tenant.id = tenantScopeId := by simpa using Table.sel_of_find? hfind
      refine ⟨tenant,
        ⟨⟨row.uploadSession, ?_, ?_⟩, ⟨row.version, ?_, ?_⟩, ⟨row.asset, ?_, ?_, ?_⟩, ?_⟩, ?_⟩
      · rw [hid, buildUploadSessionSummaryFromRow, hsid]
        exact hs
      · rw [hversion]
        exact hvid.symm
      · rw [hversion]
        exact Db.findUploadSession_version? hrow
      · rw [hasset]
        exact haid.symm
      · rw [hasset]
        exact (Db.asset?_eq_some_iff.mpr ⟨(Db.asset?_eq_some_iff.mp ha).1, rfl⟩)
      · rw [hat, Option.map_some, hkey]
      · exact Option.isSome_of_eq_some hns
      · rintro scope hsome
        obtain rfl := Option.some.inj hsome
        rw [hkey]
        exact hfind
      · simp only [buildUploadSessionSummaryFromRow, htenant, hscope, Option.map_some]

/-- **Inversion of a successful issuance**: it replays a stored session, or its
transaction commits. -/
theorem issueUploadSession_eq_ok {input : RegistryIssueUploadSessionInput} {ids : IssueIds}
    {now : Instant} {db db' : Db} {issued : RegistryIssuedUploadSession}
    (h : issueUploadSession input ids now db = (.ok issued, db')) :
    (∃ record, db.idempotencyRecord? input.idempotencyRecordKey = some record ∧
      issueReplay db input record = .ok issued ∧ db' = db) ∨
    (db.idempotencyRecord? input.idempotencyRecordKey = none ∧
      issueTransaction input ids now db = .ok (issued, db')) := by
  unfold issueUploadSession at h
  cases hrecord : db.idempotencyRecord? input.idempotencyRecordKey with
  | some record =>
      rw [hrecord] at h
      obtain ⟨hreplay, rfl⟩ := Prod.mk.inj h
      exact Or.inl ⟨record, rfl, hreplay, rfl⟩
  | none =>
      refine Or.inr ⟨rfl, ?_⟩
      cases htx : issueTransaction input ids now db with
      | ok r =>
          simp only [hrecord, transact, htx] at h
          obtain ⟨hissued, rfl⟩ := Prod.mk.inj h
          obtain rfl := Except.ok.inj hissued
          rfl
      | error e =>
          -- the transaction rolled back, so the second lookup finds no record either
          simp only [hrecord, transact, htx] at h
          split at h
          · rename_i heq
            obtain ⟨-, rfl⟩ := Prod.mk.inj heq
            rw [hrecord] at h
            cases (Prod.mk.inj h).1
          · cases (Prod.mk.inj h).1

/-! ### The tenant of an issuance -/

/-- An issued session and its asset are **bound to a tenant**: the rows name it, and no
actor that is restricted to other tenants passes the check before a completion of the
session or a read of the version. -/
structure TenantBound (db : Db) (issued : RegistryIssuedUploadSession) (t : String) : Prop where
  asset : ∃ asset scope, db.asset? issued.assetId = some asset ∧
    asset.tenantScopeId = some scope.id ∧ db.tenantScope? scope.id = some scope ∧
    scope.externalTenantId = t
  session : ∃ session, getUploadSession db issued.uploadSessionId = some session ∧
    session.tenantId = some t
  completion : ∀ actor : AuthenticatedActor, actor.allowedTenantIds ≠ [] →
    t ∉ actor.allowedTenantIds →
    ∀ session, requireScopedUploadSession db (some actor) issued.uploadSessionId ≠ .ok session
  read : ∀ actor : AuthenticatedActor, actor.allowedTenantIds ≠ [] →
    t ∉ actor.allowedTenantIds →
    ∀ version, requireScopedVersion db (some actor) issued.assetId issued.versionId ≠ .ok version

theorem requireScopedUploadSession_eq_ok {db : Db} {actor : Option AuthenticatedActor}
    {uploadSessionId : String} {session : RegistryUploadSessionSummary} :
    requireScopedUploadSession db actor uploadSessionId = .ok session ↔
      getUploadSession db uploadSessionId = some session ∧
      assertAuthorizedScope actor (storedScope session.serviceNamespaceId session.tenantId) =
        .ok () := by
  unfold requireScopedUploadSession
  cases hsession : getUploadSession db uploadSessionId with
  | none => simp
  | some s =>
      constructor
      · intro h
        obtain ⟨⟨⟩, hscope, h⟩ := bind_eq_ok.mp h
        obtain rfl := Except.ok.inj h
        exact ⟨rfl, hscope⟩
      · rintro ⟨hsome, hscope⟩
        obtain rfl := Option.some.inj hsome
        exact bind_eq_ok.mpr ⟨(), hscope, rfl⟩

theorem requireScopedVersion_eq_ok {db : Db} {actor : Option AuthenticatedActor}
    {assetId versionId : String} {version : RegistryPublicAssetVersionRecord} :
    requireScopedVersion db actor assetId versionId = .ok version ↔
      getVersion db assetId versionId = some version ∧
      assertAuthorizedScope actor (storedScope version.serviceNamespaceId version.tenantId) =
        .ok () := by
  unfold requireScopedVersion
  cases hversion : getVersion db assetId versionId with
  | none => simp
  | some v =>
      constructor
      · intro h
        obtain ⟨⟨⟩, hscope, h⟩ := bind_eq_ok.mp h
        obtain rfl := Except.ok.inj h
        exact ⟨rfl, hscope⟩
      · rintro ⟨hsome, hscope⟩
        obtain rfl := Option.some.inj hsome
        exact bind_eq_ok.mpr ⟨(), hscope, rfl⟩

/-- Rows scoped to a tenant bind the session and the asset to it. -/
theorem Db.ScopedTo.tenantBound {db : Db} {issued : RegistryIssuedUploadSession}
    {tenant : TenantScope} (h : db.ScopedTo issued (some tenant))
    (hne : tenant.externalTenantId ≠ "") : TenantBound db issued tenant.externalTenantId := by
  obtain ⟨a, ha, hat, -⟩ := h.asset
  obtain ⟨session, hsession, hst⟩ := h.getUploadSession
  obtain ⟨version, hversion, hvt⟩ := h.getVersion
  refine ⟨⟨a, tenant, ha, hat, h.tenant tenant rfl, rfl⟩, ⟨session, hsession, hst⟩, ?_, ?_⟩
  · intro actor hlisted hforeign s hs
    obtain ⟨hs, hscope⟩ := requireScopedUploadSession_eq_ok.mp hs
    obtain rfl := Option.some.inj (hsession.symm.trans hs)
    exact assertAuthorizedScope_foreign_tenant (present_eq_some_iff.mpr ⟨hst, hne⟩) hlisted hforeign
      hscope
  · intro actor hlisted hforeign v hv
    obtain ⟨hv, hscope⟩ := requireScopedVersion_eq_ok.mp hv
    obtain rfl := Option.some.inj (hversion.symm.trans hv)
    exact assertAuthorizedScope_foreign_tenant (present_eq_some_iff.mpr ⟨hvt, hne⟩) hlisted hforeign
      hscope

/-- A session can only be bound to a tenant with a name: the check skips the empty one. -/
theorem TenantBound.ne_empty {db : Db} {issued : RegistryIssuedUploadSession} {t : String}
    (h : TenantBound db issued t) : t ≠ "" := by
  rintro rfl
  obtain ⟨session, hsession, htenant⟩ := h.session
  let actor : AuthenticatedActor := ⟨"", [], [], ["tenant"]⟩
  refine h.completion actor (by simp [actor]) (by simp [actor]) session ?_
  refine requireScopedUploadSession_eq_ok.mpr ⟨hsession, assertAuthorizedScope_eq_ok_iff.mpr ?_⟩
  refine ⟨actor, rfl, fun _ _ => Or.inl rfl, fun i hi => ?_⟩
  rw [storedScope, present_present, htenant] at hi
  obtain ⟨heq, hne⟩ := present_eq_some_iff.mp hi
  exact absurd (Option.some.inj heq).symm hne

/-- The registry **binds an issuance to a tenant**: it knows the tenant for the namespace,
or, where the idempotency key has a record, the session of that record has the tenant. -/
def BindsTenant (db : Db) (input : RegistryIssueUploadSessionInput) (t : String) : Prop :=
  match db.idempotencyRecord? input.idempotencyRecordKey with
  | none =>
      ∃ ns, db.serviceNamespaces.find? (fun r => r.serviceNamespaceId == input.serviceNamespaceId) =
        some ns ∧ (resolveTenant db ns.id (some t)).isSome
  | some record =>
      ∃ reference session, record.responseReference = some reference ∧
        getUploadSession db reference.uploadSessionId = some session ∧
        present session.tenantId = some t

/-- The tenant that an issuance resolves is the one it asks for, and has a name. -/
theorem resolveTenant_eq_some {db : Db} {namespaceId t : String} {tenant : TenantScope}
    (h : resolveTenant db namespaceId (some t) = some tenant) :
    tenant.externalTenantId = t ∧ t ≠ "" := by
  obtain ⟨t', ht', hfind⟩ := Option.bind_eq_some_iff.mp h
  obtain ⟨heq, hne⟩ := present_eq_some_iff.mp ht'
  obtain rfl := Option.some.inj heq
  have hkey := Table.sel_of_find? hfind
  simp only [beq_iff_eq, TenantScope.externalKey, Prod.mk.injEq] at hkey
  exact ⟨hkey.2, hne⟩

/-- **An issuance for a tenant binds its session and its asset to the tenant** in every
later state of the registry, exactly when the registry knows the tenant. -/
theorem issueUploadSession_binds_tenant_iff (rt : Runtime) {input : RegistryIssueUploadSessionInput}
    {ids : IssueIds} {now : Instant} {db db' : Db} {issued : RegistryIssuedUploadSession}
    {t : String} (htenant : input.tenantId = some t)
    (hissue : issueUploadSession input ids now db = (.ok issued, db')) :
    (∀ completions tr sys, Run (RegistryStep rt) ⟨db', completions⟩ tr sys →
      TenantBound sys.db issued t) ↔ BindsTenant db input t := by
  have hlater : ∀ {tenant : TenantScope}, db'.ScopedTo issued (some tenant) →
      tenant.externalTenantId = t → t ≠ "" → ∀ completions tr sys,
      Run (RegistryStep rt) ⟨db', completions⟩ tr sys → TenantBound sys.db issued t := by
    intro tenant hscoped ht hne completions tr sys hrun
    subst ht
    exact (hscoped.keeps (Run.keepsIssued hrun)).tenantBound hne
  unfold BindsTenant
  constructor
  · intro h
    have hbound : TenantBound db' issued t := h [] [] ⟨db', []⟩ (.nil _)
    obtain ⟨session, hsession, hst⟩ := hbound.session
    rcases issueUploadSession_eq_ok hissue with ⟨record, hrecord, hreplay, rfl⟩ | ⟨hrecord, htx⟩
    · obtain ⟨reference, stored, hreference, hstored, hid, -, -⟩ := issueReplay_eq_ok hreplay
      have hsame : stored.uploadSessionId = reference.uploadSessionId := by
        obtain ⟨row, hrow, rfl⟩ := Option.map_eq_some_iff.mp hstored
        exact Db.findUploadSession_id hrow
      rw [hid, hsame] at hsession
      obtain rfl := Option.some.inj (hstored.symm.trans hsession)
      rw [hrecord]
      exact ⟨reference, stored, hreference, hstored,
        present_eq_some_iff.mpr ⟨hst, hbound.ne_empty⟩⟩
    · obtain ⟨ns, hns, hscoped⟩ := issueTransaction_scoped htx
      obtain ⟨stored, hstored, htenantId⟩ := hscoped.getUploadSession
      obtain rfl := Option.some.inj (hstored.symm.trans hsession)
      rw [hrecord]
      refine ⟨ns, hns, ?_⟩
      rw [← htenant, ← Option.isSome_map, ← htenantId, hst]
      rfl
  · intro hknown
    rcases issueUploadSession_eq_ok hissue with ⟨record, hrecord, hreplay, rfl⟩ | ⟨hrecord, htx⟩
    · obtain ⟨reference, stored, hreference, hstored, hid, hversion, hasset⟩ :=
        issueReplay_eq_ok hreplay
      rw [hrecord] at hknown
      obtain ⟨reference', stored', hreference', hstored', hpresent⟩ := hknown
      obtain rfl := Option.some.inj (hreference.symm.trans hreference')
      obtain rfl := Option.some.inj (hstored.symm.trans hstored')
      obtain ⟨hst, hne⟩ := present_eq_some_iff.mp hpresent
      rcases getUploadSession_scoped hstored hid hversion hasset with ⟨tenant, hscoped, ht⟩ | hnone
      · exact hlater hscoped (Option.some.inj (ht.symm.trans hst)) hne
      · rw [hst] at hnone
        cases hnone
    · obtain ⟨ns, hns, hscoped⟩ := issueTransaction_scoped htx
      rw [hrecord] at hknown
      obtain ⟨ns', hns', hsome⟩ := hknown
      obtain rfl := Option.some.inj (hns.symm.trans hns')
      obtain ⟨tenant, hresolve⟩ := Option.isSome_iff_exists.mp hsome
      rw [htenant, hresolve] at hscoped
      obtain ⟨ht, hne⟩ := resolveTenant_eq_some hresolve
      exact hlater hscoped ht hne

/-! ### A registry with one tenant -/

/-- The sample registry with the tenant `acme`. -/
def tenantRegistry : Db :=
  { sampleRegistry with tenantScopes := ⟨[⟨"tenant-1", "namespace-1", "acme"⟩], by decide⟩ }

/-- The sample issuance for a tenant. -/
def tenantIssue (tenantId : String) : RegistryIssueUploadSessionInput :=
  { sampleIssue "a" with tenantId := some tenantId }

/-- The session of the sample issuance. -/
def tenantIssued (tenantId : Option String) : RegistryIssuedUploadSession where
  assetId := "asset-a"
  assetOwner := "customer:acme"
  checksum := sampleChecksum
  contentType := "application/pdf"
  expiresAt := 1000
  filename := "report.pdf"
  isDuplicate := false
  objectKey := "ingest/a"
  serviceNamespaceId := "media"
  tenantId
  uploadSessionId := "session-a"
  versionId := "version-a"
  versionNumber := 1
  byteLength := 5

/-- An actor that may act in the tenant `acme` only. -/
def acmeActor : AuthenticatedActor where
  subject := "acme-user"
  roles := []
  allowedServiceNamespaces := []
  allowedTenantIds := ["acme"]

/-- An issuance for the known tenant binds it. -/
theorem known_tenant_bound :
    BindsTenant tenantRegistry (tenantIssue "acme") "acme" ∧
      ∀ completions tr sys,
        Run (RegistryStep sampleRuntime)
          ⟨(issueUploadSession (tenantIssue "acme") (sampleIds "a") 10 tenantRegistry).2,
            completions⟩
          tr sys → TenantBound sys.db (tenantIssued (some "acme")) "acme" := by
  have hbinds : BindsTenant tenantRegistry (tenantIssue "acme") "acme" :=
    ⟨⟨"namespace-1", "media"⟩, rfl, rfl⟩
  exact ⟨hbinds, (issueUploadSession_binds_tenant_iff sampleRuntime
    (rfl : (tenantIssue "acme").tenantId = some "acme")
    (rfl : issueUploadSession (tenantIssue "acme") (sampleIds "a") 10 tenantRegistry =
      (.ok (tenantIssued (some "acme")), _))).mpr hbinds⟩

/-- **A tenant that the registry does not know.** The issuance for `globex` succeeds; its
asset has no tenant scope, and the actor of `acme`, which may not act in `globex`, passes
the check before a completion of the session and before a read of the version. -/
theorem unknown_tenant_admits_every_tenant :
    (issueUploadSession (tenantIssue "globex") (sampleIds "a") 10 tenantRegistry).1 =
        .ok (tenantIssued none) ∧
      let db := (issueUploadSession (tenantIssue "globex") (sampleIds "a") 10 tenantRegistry).2
      (∃ asset, db.asset? "asset-a" = some asset ∧ asset.tenantScopeId = none) ∧
      (∃ session, requireScopedUploadSession db (some acmeActor) "session-a" = .ok session) ∧
      (∃ version, requireScopedVersion db (some acmeActor) "asset-a" "version-a" = .ok version) :=
  ⟨rfl, ⟨_, rfl, rfl⟩, ⟨_, rfl⟩, ⟨_, rfl⟩⟩

end Cdngine
