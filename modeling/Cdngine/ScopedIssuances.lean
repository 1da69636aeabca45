import Cdngine.UploadRetries

/-!
# The Scopes of Issued Sessions

A deployment issues upload sessions over the Prisma store or over the in-memory store. Here
one sequence of calls is given to both, and both generate the same ids for a call. As long as
every call that creates an asset asks for a scope that the registry knows, and no two pairs of
a caller and a key share a record of the in-memory store, the stores hold the same assets and
the same records: so they answer the next call alike, replays included, if the asset that the
in-memory store would give is in the requested scope.

The in-memory store does not look: it gives whatever asset is stored under the id that a call
names (`resolveOrCreateAsset`), where the Prisma store compares the namespace, the tenant and
the owner (`loadExistingAsset`).

## Main results

* `Aligned.issue_cases`: a call for an own asset is answered alike by stores in step, and
  leaves them in step.
* `issuances_scoped_iff`: over every sequence of calls, the stores agree and keep to the
  requested scopes exactly when no call asks for an asset of another scope.
* `foreign_asset_accepted`: a caller of one tenant is given a session on an asset of another.
-/

open Relational Runs

namespace Cdngine

/-! ### Assets in the requested scope -/

/-- An asset of the registry lies in the scope that an issuance requests. -/
structure Asset.InScope (row : Asset) (db : Db) (input : RegistryIssueUploadSessionInput) :
    Prop where
  serviceNamespaceId : (db.serviceNamespace? row.serviceNamespaceId).map (·.serviceNamespaceId) =
    some input.serviceNamespaceId
  tenantId : (row.tenantScopeId.bind db.tenantScope?).map (·.externalTenantId) =
    present input.tenantId
  assetOwner : row.assetOwner = input.assetOwner

/-- A row of the registry is an asset of the in-memory store. -/
structure Db.Describes (db : Db) (row : Asset) (asset : AssetSummary) : Prop where
  assetId : row.id = asset.assetId
  assetOwner : row.assetOwner = asset.assetOwner
  serviceNamespace : ∃ ns, db.serviceNamespace? row.serviceNamespaceId = some ns ∧
    ns.serviceNamespaceId = asset.serviceNamespaceId
  tenant : (row.tenantScopeId = none ∧ asset.tenantId = none) ∨
    ∃ scope, db.tenantScope? scope.id = some scope ∧ row.tenantScopeId = some scope.id ∧
      scope.serviceNamespaceId = row.serviceNamespaceId ∧
      asset.tenantId = some scope.externalTenantId

/-- The two stores hold the same asset under an id. -/
def SameAsset (store : InMemoryUploadSessionIssuanceStore) (db : Db) (assetId : String) : Prop :=
  match store.assets assetId with
  | some asset => asset.assetId = assetId ∧
      ∃ row, db.asset? assetId = some row ∧ db.Describes row asset
  | none => db.asset? assetId = none

/-- The registry **knows the scope** of a request: its namespace, and its tenant if it names
one. -/
def Db.KnowsScope (db : Db) (input : RegistryIssueUploadSessionInput) : Prop :=
  ∃ ns, db.serviceNamespaces.find? (fun r => r.serviceNamespaceId == input.serviceNamespaceId) =
      some ns ∧
    (resolveTenant db ns.id input.tenantId).map (·.externalTenantId) = present input.tenantId

instance (db : Db) (input : RegistryIssueUploadSessionInput) : Decidable (db.KnowsScope input) :=
  decidable_of_iff
    (∃ ns ∈ db.serviceNamespaces.find? (fun r => r.serviceNamespaceId == input.serviceNamespaceId),
      (resolveTenant db ns.id input.tenantId).map (·.externalTenantId) = present input.tenantId)
    Iff.rfl

instance (asset : AssetSummary) (input : RegistryIssueUploadSessionInput) :
    Decidable (asset.InScope input) :=
  decidable_of_iff
    (asset.serviceNamespaceId = input.serviceNamespaceId ∧ asset.tenantId = present input.tenantId ∧
      asset.assetOwner = input.assetOwner)
    ⟨fun h => ⟨h.1, h.2.1, h.2.2⟩, fun h => ⟨h.serviceNamespaceId, h.tenantId, h.assetOwner⟩⟩

section Scopes

variable {db db' : Db} {row : Asset} {asset : AssetSummary}
    {input : RegistryIssueUploadSessionInput}

/-- A namespace that is found by its external id is found by its own. -/
theorem Db.serviceNamespace?_of_find? {ns : ServiceNamespace}
    (h : db.serviceNamespaces.find? (fun r => r.serviceNamespaceId == input.serviceNamespaceId) =
      some ns) : db.serviceNamespace? ns.id = some ns ∧
        ns.serviceNamespaceId = input.serviceNamespaceId := by
  refine ⟨?_, by simpa using Table.sel_of_find? h⟩
  exact (Table.find?_key_eq_some_iff fun a b h => by simp [clash, h]).mpr
    ⟨Table.mem_of_find? h, rfl⟩

/-- A tenant that is resolved is found by its id, and lies in the namespace. -/
theorem Db.tenantScope?_of_resolveTenant {namespaceId : String} {tenantId : Option String}
    {scope : TenantScope} (h : resolveTenant db namespaceId tenantId = some scope) :
    db.tenantScope? scope.id = some scope ∧ scope.serviceNamespaceId = namespaceId := by
  obtain ⟨t, -, hfind⟩ := Option.bind_eq_some_iff.mp h
  have hkey := Table.sel_of_find? hfind
  simp only [beq_iff_eq, TenantScope.externalKey, Prod.mk.injEq] at hkey
  refine ⟨?_, hkey.1⟩
  exact (Table.find?_key_eq_some_iff fun a b h => by simp [clash, h]).mpr
    ⟨Table.mem_of_find? hfind, rfl⟩

/-- An asset in the requested scope lies in the scope that the registry resolves. -/
theorem AssetSummary.InScope.resolved (h : asset.InScope input) (hrow : db.Describes row asset) :
    row.InResolvedScope db input := by
  obtain ⟨ns, hns, hname⟩ := hrow.serviceNamespace
  have hfound : db.serviceNamespaces.find?
      (fun r => r.serviceNamespaceId == input.serviceNamespaceId) = some ns :=
    (Table.find?_key_eq_some_iff fun a b h => by simp [clash, h]).mpr
      ⟨Table.mem_of_find? hns, hname.trans h.serviceNamespaceId⟩
  have hnsid : ns.id = row.serviceNamespaceId := by simpa using Table.sel_of_find? hns
  refine ⟨ns, hfound, hrow.assetOwner.trans h.assetOwner, hnsid.symm, ?_⟩
  rcases hrow.tenant with ⟨hnone, htenant⟩ | ⟨scope, hscope, hsome, hin, htenant⟩
  · rw [hnone, resolveTenant, ← h.tenantId, htenant]
    rfl
  · have hkey : scope.externalKey = (ns.id, scope.externalTenantId) := by
      rw [TenantScope.externalKey, hin, hnsid]
    have hresolved : resolveTenant db ns.id input.tenantId = some scope := by
      rw [resolveTenant, ← h.tenantId, htenant]
      exact (Table.find?_key_eq_some_iff fun a b h => by simp [clash, h]).mpr
        ⟨Table.mem_of_find? hscope, hkey⟩
    rw [hsome, hresolved]
    rfl

/-- The row of an asset lies in the scope that the asset lies in. -/
theorem Db.Describes.inScope (hrow : db.Describes row asset) (h : asset.InScope input) :
    row.InScope db input := by
  obtain ⟨ns, hns, hname⟩ := hrow.serviceNamespace
  refine ⟨?_, ?_, hrow.assetOwner.trans h.assetOwner⟩
  · rw [hns, Option.map_some, hname, h.serviceNamespaceId]
  · rw [← h.tenantId]
    rcases hrow.tenant with ⟨hnone, htenant⟩ | ⟨scope, hscope, hsome, -, htenant⟩
    · rw [hnone, htenant, Option.bind_none, Option.map_none]
    · rw [hsome, htenant, Option.bind_some, hscope, Option.map_some]

/-- The row of an asset describes it in a registry with the same scopes. -/
theorem Db.Describes.keeps (h : db.Describes row asset)
    (hnamespaces : db'.serviceNamespaces = db.serviceNamespaces)
    (htenants : db'.tenantScopes = db.tenantScopes) : db'.Describes row asset := by
  refine ⟨h.assetId, h.assetOwner, ?_, ?_⟩
  · rw [Db.serviceNamespace?, hnamespaces]
    exact h.serviceNamespace
  · simp only [Db.tenantScope?, htenants]
    exact h.tenant

/-- A store and a registry hold the same asset in a registry with the same row and scopes. -/
theorem SameAsset.keeps {store : InMemoryUploadSessionIssuanceStore} {assetId : String}
    (h : SameAsset store db assetId) (hrow : db'.asset? assetId = db.asset? assetId)
    (hnamespaces : db'.serviceNamespaces = db.serviceNamespaces)
    (htenants : db'.tenantScopes = db.tenantScopes) : SameAsset store db' assetId := by
  simp only [SameAsset, hrow] at h ⊢
  cases hasset : store.assets assetId with
  | none =>
      rw [hasset] at h
      exact h
  | some asset =>
      rw [hasset] at h
      obtain ⟨hid, row, hrow, hdescribes⟩ := h
      exact ⟨hid, row, hrow, hdescribes.keeps hnamespaces htenants⟩

/-- The stores hold the same assets, so both hold one under an id or neither. -/
theorem SameAsset.isSome_iff {store : InMemoryUploadSessionIssuanceStore} {assetId : String}
    (h : SameAsset store db assetId) :
    (store.assets assetId).isSome = true ↔ (db.asset? assetId).isSome = true := by
  cases hasset : store.assets assetId with
  | none =>
      simp only [SameAsset, hasset] at h
      rw [h]
      exact Iff.rfl
  | some asset =>
      simp only [SameAsset, hasset] at h
      obtain ⟨-, row, hrow, -⟩ := h
      rw [hrow]
      exact Iff.rfl

/-- The row of a new asset describes it, in a scope that the registry knows. -/
theorem IssueCall.newAsset_describes {call : IssueCall} {ns : ServiceNamespace}
    (hns : db.FindsNamespace call ns)
    (htenant : (resolveTenant db ns.id call.input.tenantId).map (·.externalTenantId) =
      present call.input.tenantId) :
    db.Describes (call.newAsset ns.id (resolveTenant db ns.id call.input.tenantId))
      ⟨call.ids.assetId, call.input.assetOwner, call.input.serviceNamespaceId,
        present call.input.tenantId⟩ := by
  refine ⟨rfl, rfl, ⟨ns, Db.serviceNamespace?_of_find? hns⟩, ?_⟩
  cases hresolved : resolveTenant db ns.id call.input.tenantId with
  | none =>
      rw [hresolved] at htenant
      exact Or.inl ⟨rfl, htenant.symm⟩
  | some scope =>
      rw [hresolved] at htenant
      obtain ⟨hscope, hin⟩ := Db.tenantScope?_of_resolveTenant hresolved
      exact Or.inr ⟨scope, hscope, rfl, hin, htenant.symm⟩

end Scopes

/-! ### One call on two stores -/

/-- The in-memory store gives the recorded result of an issuance again. -/
theorem InMemoryUploadSessionIssuanceStore.issueUploadSession_recorded
    (store : InMemoryUploadSessionIssuanceStore) {input : RegistryIssueUploadSessionInput}
    (ids : MemoryIssueIds) {hash : String} {issued : RegistryIssuedUploadSession}
    (hsame : hash = input.normalizedRequestHash)
    (hrecord : store.idempotencyRecords input.memoryKey = some ⟨hash, .issued issued⟩) :
    store.issueUploadSession input ids =
      (.ok (.issued { issued with isDuplicate := true }), store) := by
  simp [InMemoryUploadSessionIssuanceStore.issueUploadSession, hrecord, hsame,
    StoredResult.duplicate]

/-- An issuance that is refused leaves the registry as it is. -/
theorem issueUploadSession_refused {input : RegistryIssueUploadSessionInput} {ids : IssueIds}
    {now : Instant} {db : Db}
    (h : ¬ ∃ issued db', issueUploadSession input ids now db = (.ok issued, db')) :
    ∃ e, (issueUploadSession input ids now db).1 = .error e ∧
      (issueUploadSession input ids now db).2 = db := by
  have houtcome := issueUploadSession_outcome input ids now db
  generalize hanswer : issueUploadSession input ids now db = answer at h houtcome
  obtain ⟨result, db'⟩ := answer
  cases result with
  | ok issued => exact absurd ⟨issued, db', rfl⟩ h
  | error e =>
      refine ⟨e, rfl, ?_⟩
      dsimp only at houtcome ⊢
      generalize hresult : (Except.error e : Except RegistryError _) = result at houtcome
      cases houtcome with
      | issued => cases hresult
      | _ => rfl

/-- The joined text of a caller and a key is the same for requests with the same two. -/
theorem RegistryIssueUploadSessionInput.memoryKey_of_eq
    {input input' : RegistryIssueUploadSessionInput}
    (h : input.idempotencyRecordKey = input'.idempotencyRecordKey) :
    input.memoryKey = input'.memoryKey := by
  simp only [idempotencyRecordKey, Prod.mk.injEq, true_and] at h
  rw [memoryKey, memoryKey, h.1, h.2]

/-- The ids of a call, for the in-memory store. -/
def IssueCall.memoryIds (call : IssueCall) : MemoryIssueIds where
  assetId := call.ids.assetId
  versionId := call.ids.versionId
  uploadSessionId := call.ids.uploadSessionId

/-- The two stores that a deployment may issue sessions over. -/
structure IssuingStores where
  memory : InMemoryUploadSessionIssuanceStore
  registry : Db

namespace IssuingStores

variable (s : IssuingStores) (call : IssueCall)

/-- What the in-memory store answers. -/
def memoryAnswer : Except UploadSessionError StoredResult :=
  (s.memory.issueUploadSession call.input call.memoryIds).1

/-- What the Prisma store answers. -/
def registryAnswer : Except RegistryError RegistryIssuedUploadSession :=
  (issueUploadSession call.input call.ids call.now s.registry).1

/-- The stores after a call to each. -/
def issue : IssuingStores where
  memory := (s.memory.issueUploadSession call.input call.memoryIds).2
  registry := (issueUploadSession call.input call.ids call.now s.registry).2

/-- The id of the asset that a call asks for: the one that it names, or the one of the first
answer to its key where its request is the same. -/
def target : Option String :=
  match s.memory.idempotencyRecords call.input.memoryKey with
  | none => present call.input.assetId
  | some record =>
      if record.normalizedRequestHash = call.input.normalizedRequestHash then
        match record.result with
        | .issued issued => some issued.assetId
        | .completed completed => some completed.assetId
      else none

/-- **A call asks for an own asset**: the asset that it asks for, if there is one, lies in the
requested scope, and is the one that it names. -/
def AsksForOwn : Prop :=
  ∀ id ∈ s.target call, ∀ asset ∈ s.memory.assets id,
    asset.InScope call.input ∧ ∀ named ∈ present call.input.assetId, id = named

instance : Decidable (s.AsksForOwn call) :=
  inferInstanceAs (Decidable (∀ id ∈ s.target call, ∀ asset ∈ s.memory.assets id,
    asset.InScope call.input ∧ ∀ named ∈ present call.input.assetId, id = named))

/-- What the route and the generators of ids promise of a call: the route leaves out an empty
asset id, and the ids are new. -/
structure Admits : Prop where
  named : call.input.assetId ≠ some ""
  assetId : call.ids.assetId ≠ ""
  versionId : call.ids.versionId ≠ ""
  unused : call.ids.Unused s.registry

/-- **A call is known to the registry**: where the in-memory store has a record under the
joined text of its caller and key, the registry has one for the two; and where it creates an
asset, the registry knows the scope. -/
structure Known : Prop where
  record : (s.memory.idempotencyRecords call.input.memoryKey).isSome = true →
    (s.registry.idempotencyRecord? call.input.idempotencyRecordKey).isSome = true
  scope : s.memory.idempotencyRecords call.input.memoryKey = none →
    present call.input.assetId = none → s.registry.KnowsScope call.input

instance : Decidable (s.Known call) :=
  decidable_of_iff
    (((s.memory.idempotencyRecords call.input.memoryKey).isSome = true →
        (s.registry.idempotencyRecord? call.input.idempotencyRecordKey).isSome = true) ∧
      ((s.memory.idempotencyRecords call.input.memoryKey).isNone = true →
        present call.input.assetId = none → s.registry.KnowsScope call.input))
    ⟨fun h => ⟨h.1, fun hnone => h.2 (Option.isNone_iff_eq_none.mpr hnone)⟩,
      fun h => ⟨h.record, fun hnone => h.scope (Option.isNone_iff_eq_none.mp hnone)⟩⟩

/-- **A call keeps to its scope**: the stores both accept it or both refuse it; and what either
gives is a session on an asset of the requested scope, which it held before if the call names
it. -/
structure ScopesCall : Prop where
  agrees : (∃ result, s.memoryAnswer call = .ok result) ↔
    ∃ issued, s.registryAnswer call = .ok issued
  memory : ∀ issued, s.memoryAnswer call = .ok (.issued issued) →
    (∀ id, present call.input.assetId = some id →
      issued.assetId = id ∧ (s.memory.assets id).isSome = true) ∧
    ∃ asset, (s.issue call).memory.assets issued.assetId = some asset ∧ asset.InScope call.input
  registry : ∀ issued, s.registryAnswer call = .ok issued →
    (∀ id, present call.input.assetId = some id →
      issued.assetId = id ∧ (s.registry.asset? id).isSome = true) ∧
    ∃ row, (s.issue call).registry.asset? issued.assetId = some row ∧
      row.InScope (s.issue call).registry call.input

/-- **Stores in step**: they hold the same assets, and what the registry records of an issuance
the in-memory store records too. -/
structure Aligned : Prop where
  same : ∀ id, SameAsset s.memory s.registry id
  recorded : ∀ {input : RegistryIssueUploadSessionInput} {r},
    s.registry.idempotencyRecord? input.idempotencyRecordKey = some r →
    ∃ (first : RegistryIssueUploadSessionInput) (issued : RegistryIssuedUploadSession),
      first.idempotencyRecordKey = input.idempotencyRecordKey ∧
      s.memory.idempotencyRecords input.memoryKey =
        some ⟨first.normalizedRequestHash, .issued issued⟩ ∧
      s.registry.HoldsIssue first issued.uploadIds ∧
      (s.memory.assets issued.assetId).isSome = true

/-- Stores that issued nothing yet: the registry may hold namespaces and tenants. -/
structure Fresh : Prop where
  memory : s.memory = {}
  assets : s.registry.assets.rows = []
  records : s.registry.idempotencyRecords.rows = []

variable {s call}

/-- Fresh stores are in step. -/
theorem Fresh.aligned (h : s.Fresh) : s.Aligned where
  same id := by
    have hasset : s.registry.asset? id = none := by
      simp only [Db.asset?, Table.find?, h.assets, List.find?_nil]
    simp only [SameAsset, h.memory]
    exact hasset
  recorded := by
    intro input r hr
    simp [Db.idempotencyRecord?, Table.find?, h.records] at hr

/-! ### What one call does -/

/-- What the stores do with a call, told from the stores before it and after it. -/
inductive Outcome (s : IssuingStores) (call : IssueCall) : Prop
  /-- Both refuse it, and nothing changes. -/
  | refused {e : UploadSessionError} {e' : RegistryError} (hmemory : s.memoryAnswer call = .error e)
      (hregistry : s.registryAnswer call = .error e') (hsame : s.issue call = s)
  /-- Both give a session on an asset of the requested scope. -/
  | accepted {issued issued' : RegistryIssuedUploadSession} {asset : AssetSummary}
      (hmemory : s.memoryAnswer call = .ok (.issued issued))
      (hregistry : s.registryAnswer call = .ok issued') (hid : issued'.assetId = issued.assetId)
      (hnamed : ∀ id, present call.input.assetId = some id →
        issued.assetId = id ∧ (s.memory.assets id).isSome = true)
      (hasset : (s.issue call).memory.assets issued.assetId = some asset)
      (hscope : asset.InScope call.input) (haligned : (s.issue call).Aligned)

/-- **A call under a key that has a record** is replayed by both stores, or is a conflict for
both. -/
theorem Aligned.issue_recorded (hs : s.Aligned) (hown : s.AsksForOwn call) {r : IdempotencyRecord}
    (hr : s.registry.idempotencyRecord? call.input.idempotencyRecordKey = some r) :
    Outcome s call := by
  obtain ⟨first, issued, hkey, hrecord, hholds, hstored⟩ := hs.recorded hr
  obtain ⟨r', ref, hr', hhash, -⟩ := hholds.record
  obtain rfl : r = r' := Option.some.inj (hr.symm.trans (hkey ▸ hr'))
  by_cases hsame : first.normalizedRequestHash = call.input.normalizedRequestHash
  · obtain ⟨asset, hasset⟩ := Option.isSome_iff_exists.mp hstored
    have htarget : s.target call = some issued.assetId := by
      simp only [target, hrecord, hsame, if_true]
    obtain ⟨hscope, hnamed⟩ := hown _ htarget asset hasset
    have hheld : s.registry.HoldsIssue call.input issued.uploadIds :=
      ⟨by rw [← hkey, ← hsame]; exact hholds.record, hholds.named, hholds.rows⟩
    obtain ⟨issued', hids, -, hissue⟩ := hheld.replays call.ids call.now
    have hmemory := s.memory.issueUploadSession_recorded call.memoryIds hsame hrecord
    have hunchanged : s.issue call = s := by
      simp only [issue, hmemory, hissue]
    refine .accepted (congrArg Prod.fst hmemory) (congrArg Prod.fst hissue)
      (congrArg UploadIds.assetId hids) (fun id hid => ?_) (hunchanged.symm ▸ hasset) hscope
      (hunchanged.symm ▸ hs)
    obtain rfl := hnamed id hid
    exact ⟨rfl, hstored⟩
  · have hmemory : s.memory.issueUploadSession call.input call.memoryIds =
        (.error (.idempotencyConflict call.input.idempotencyKey), s.memory) := by
      simp [InMemoryUploadSessionIssuanceStore.issueUploadSession, hrecord, hsame]
    have hissue : issueUploadSession call.input call.ids call.now s.registry =
        (.error (.uploadSessionIdempotencyConflict call.input.idempotencyKey), s.registry) := by
      simp [issueUploadSession, hr, issueReplay, hhash, hsame]
    refine .refused (congrArg Prod.fst hmemory) (congrArg Prod.fst hissue) ?_
    simp only [issue, hmemory, hissue]

/-- **Stores that both issue a session** on the same asset stay in step, if they then hold the
same assets. -/
theorem Aligned.issue_stored (hs : s.Aligned) (hadmits : s.Admits call) {asset : AssetSummary}
    {memory : InMemoryUploadSessionIssuanceStore} {issued : RegistryIssuedUploadSession} {db' : Db}
    (hrecord : s.registry.idempotencyRecord? call.input.idempotencyRecordKey = none)
    (hmemory : s.memory.idempotencyRecords call.input.memoryKey = none)
    (hresolve : s.memory.resolveOrCreateAsset call.input call.memoryIds = (.ok asset, memory))
    (htx : issueTransaction call.input call.ids call.now s.registry = .ok (issued, db'))
    (hid : issued.assetId = asset.assetId) (hstored : memory.assets asset.assetId = some asset)
    (hkept : ∀ id, (s.memory.assets id).isSome = true → (memory.assets id).isSome = true)
    (hnamed : ∀ id, present call.input.assetId = some id →
      asset.assetId = id ∧ (s.memory.assets id).isSome = true)
    (hscope : asset.InScope call.input) (hsame : ∀ id, SameAsset memory db' id) :
    Outcome s call := by
  have hrecords : memory.idempotencyRecords = s.memory.idempotencyRecords := by
    have h := congrArg (fun r => r.2.idempotencyRecords) hresolve
    rw [← h]
    simp only [InMemoryUploadSessionIssuanceStore.resolveOrCreateAsset]
    split
    · split <;> rfl
    · rfl
  obtain ⟨number, hmem⟩ : ∃ number, s.memory.issueUploadSession call.input call.memoryIds =
      (.ok (.issued (InMemoryUploadSessionIssuanceStore.issuedResult call.input call.memoryIds asset
        number)), memory.storeIssued call.input call.memoryIds asset) := by
    simp only [InMemoryUploadSessionIssuanceStore.issueUploadSession, hmemory, hresolve]
    exact ⟨_, rfl⟩
  have hissue : issueUploadSession call.input call.ids call.now s.registry = (.ok issued, db') := by
    simp only [issueUploadSession, hrecord, transact, htx]
  have hafter : s.issue call = ⟨memory.storeIssued call.input call.memoryIds asset, db'⟩ := by
    simp only [issue, hmem, hissue]
  have haligned : (s.issue call).Aligned := by
    rw [hafter]
    refine ⟨hsame, fun {input r} hr => ?_⟩
    obtain ⟨hkeeps, hnew⟩ := Db.KeepsRecords.issueTransaction htx
    rcases hnew hr with hold | hkey
    · obtain ⟨first, issued₀, hfirst, hrecord₀, hholds, hstored₀⟩ := hs.recorded hold
      have hne : input.memoryKey ≠ call.input.memoryKey := by
        intro heq
        rw [heq, hmemory] at hrecord₀
        cases hrecord₀
      refine ⟨first, issued₀, hfirst, ?_, hholds.keeps (.issueTransaction htx) hkeeps,
        hkept _ hstored₀⟩
      show (memory.storeIssued call.input call.memoryIds asset).idempotencyRecords _ = _
      simp only [InMemoryUploadSessionIssuanceStore.storeIssued, JsMap.set_of_ne _ _ hne, hrecords]
      exact hrecord₀
    · obtain ⟨hversion, hsession⟩ := (issueTransaction_rows htx).2
      have hids : issued.uploadIds =
          (InMemoryUploadSessionIssuanceStore.issuedResult call.input call.memoryIds asset
            (memory.nextVersionNumber asset.assetId)).uploadIds := by
        rw [RegistryIssuedUploadSession.uploadIds, hid, hversion, hsession]
        rfl
      have hholds :=
        issueUploadSession_holds ⟨hadmits.assetId, hadmits.versionId⟩ hadmits.named hissue
      rw [hids] at hholds
      refine ⟨call.input, _, hkey, ?_, hholds, Option.isSome_of_eq_some hstored⟩
      rw [← RegistryIssueUploadSessionInput.memoryKey_of_eq hkey]
      exact JsMap.set_self _ _ _
  refine .accepted (congrArg Prod.fst hmem) (congrArg Prod.fst hissue) hid hnamed ?_ hscope haligned
  rw [hafter]
  exact hstored

/-- **A call under a new key that names an asset.** -/
theorem Aligned.issue_named (hs : s.Aligned) (hadmits : s.Admits call) (hown : s.AsksForOwn call)
    (hrecord : s.registry.idempotencyRecord? call.input.idempotencyRecordKey = none)
    (hmemory : s.memory.idempotencyRecords call.input.memoryKey = none) {assetId : String}
    (hnamed : present call.input.assetId = some assetId) : Outcome s call := by
  have hname := (present_eq_some_iff.mp hnamed).1
  have hissue := @InMemoryUploadSessionIssuanceStore.issueUploadSession_existing s.memory call.input
    call.memoryIds assetId hnamed hmemory
  have hsame := hs.same assetId
  simp only [SameAsset] at hsame
  cases hasset : s.memory.assets assetId with
  | none =>
      simp only [hasset] at hissue hsame
      have hrefused : ¬ ∃ issued db', issueUploadSession call.input call.ids call.now s.registry =
          (.ok issued, db') := by
        rw [issueUploadSession_existing_iff hname hadmits.unused.fresh hrecord]
        rintro ⟨row, hrow, -⟩
        rw [hsame] at hrow
        cases hrow
      obtain ⟨e, hregistry, hdb⟩ := issueUploadSession_refused hrefused
      refine .refused (congrArg Prod.fst hissue) hregistry ?_
      simp only [issue, hissue, hdb]
  | some asset =>
      simp only [hasset] at hsame
      obtain ⟨rfl, row, hrow, hdescribes⟩ := hsame
      have htarget : s.target call = some asset.assetId := by
        simp only [target, hmemory, hnamed]
      obtain ⟨hscope, -⟩ := hown _ htarget asset hasset
      obtain ⟨ns, hns, hresolved⟩ := hscope.resolved hdescribes
      have hissueAsset : issueAsset s.registry call.input call.ids ns.id
          (resolveTenant s.registry ns.id call.input.tenantId) = .ok (row, s.registry) := by
        simp only [issueAsset, hname]
        exact bind_eq_ok.mpr ⟨row, loadExistingAsset_eq_ok_iff.mpr ⟨hrow, hresolved⟩, rfl⟩
      obtain ⟨issued, db', htx, hid, hassets⟩ :=
        issueTransaction_succeeds call.now hns hissueAsset hadmits.unused.fresh hrecord
      obtain ⟨hgains, -⟩ := issueTransaction_rows htx
      have hresolve : s.memory.resolveOrCreateAsset call.input call.memoryIds =
          (.ok asset, s.memory) := by
        simp only [InMemoryUploadSessionIssuanceStore.resolveOrCreateAsset, hnamed, hasset]
      refine hs.issue_stored hadmits hrecord hmemory hresolve htx
        (hid.trans hdescribes.assetId) hasset
        (fun _ h => h) (fun id hid => ?_) hscope fun id => ?_
      · obtain rfl := Option.some.inj (hnamed.symm.trans hid)
        exact ⟨rfl, Option.isSome_of_eq_some hasset⟩
      · exact (hs.same id).keeps (by rw [Db.asset?, hassets, Db.asset?]) hgains.serviceNamespaces
          hgains.tenantScopes

/-- **A call under a new key that creates an asset**, in a scope that the registry knows. -/
theorem Aligned.issue_new (hs : s.Aligned) (hadmits : s.Admits call)
    (hscope : s.registry.KnowsScope call.input)
    (hrecord : s.registry.idempotencyRecord? call.input.idempotencyRecordKey = none)
    (hmemory : s.memory.idempotencyRecords call.input.memoryKey = none)
    (hnamed : present call.input.assetId = none) : Outcome s call := by
  have hname : call.input.assetId = none := by
    cases hassetId : call.input.assetId with
    | none => rfl
    | some assetId =>
        have hne : assetId ≠ "" := fun h => hadmits.named (h ▸ hassetId)
        rw [present_eq_some_iff.mpr ⟨hassetId, hne⟩] at hnamed
        cases hnamed
  obtain ⟨ns, hns, htenant⟩ := hscope
  set asset : AssetSummary :=
    ⟨call.ids.assetId, call.input.assetOwner, call.input.serviceNamespaceId,
    present call.input.tenantId⟩ with hasset
  obtain ⟨t, ht⟩ := insert_newAsset hadmits.unused ns.id
    (resolveTenant s.registry ns.id call.input.tenantId)
  have hissueAsset : issueAsset s.registry call.input call.ids ns.id
      (resolveTenant s.registry ns.id call.input.tenantId) =
        .ok (call.newAsset ns.id (resolveTenant s.registry ns.id call.input.tenantId),
          { s.registry with assets := t }) := by
    simp only [issueAsset, hname]
    exact bind_eq_ok.mpr ⟨_, write_eq_ok.mpr ⟨t, ht, rfl⟩, rfl⟩
  obtain ⟨issued, db', htx, hid, hassets⟩ := issueTransaction_succeeds call.now hns hissueAsset
    ⟨hadmits.unused.fresh.version, hadmits.unused.fresh.session,
      hadmits.unused.fresh.sessionVersion⟩ hrecord
  obtain ⟨hgains, -⟩ := issueTransaction_rows htx
  have hresolve : s.memory.resolveOrCreateAsset call.input call.memoryIds =
      (.ok asset, { s.memory with assets := s.memory.assets.set call.ids.assetId asset }) := by
    simp only [InMemoryUploadSessionIssuanceStore.resolveOrCreateAsset, hnamed]
    rfl
  have hrows : ∀ id, db'.asset? id = (s.registry.asset? id).or
      (if call.ids.assetId == id then
        some (call.newAsset ns.id (resolveTenant s.registry ns.id call.input.tenantId))
      else none) := by
    intro id
    rw [Db.asset?, hassets]
    exact Table.find?_insert ht _
  refine hs.issue_stored hadmits hrecord hmemory hresolve htx hid (JsMap.set_self _ _ _)
    (fun id hstored => ?_) (fun id hid => ?_) ⟨rfl, rfl, rfl⟩ fun id => ?_
  · show (s.memory.assets.set call.ids.assetId asset id).isSome = true
    rw [JsMap.set_apply]
    split
    · rfl
    · exact hstored
  · rw [hnamed] at hid
    cases hid
  · by_cases hnew : id = call.ids.assetId
    · subst hnew
      have hnone : s.registry.asset? call.ids.assetId = none :=
        Table.find?_eq_none_iff.mpr fun a ha => by simpa using hadmits.unused.asset a ha
      simp only [SameAsset, JsMap.set_self]
      refine ⟨rfl, _, ?_, (IssueCall.newAsset_describes hns htenant).keeps hgains.serviceNamespaces
        hgains.tenantScopes⟩
      rw [hrows, hnone, Option.none_or, beq_self_eq_true, if_pos rfl]
    · have hold := hs.same id
      have hsame : SameAsset { s.memory with assets := s.memory.assets.set call.ids.assetId asset }
          s.registry id := by
        simp only [SameAsset, JsMap.set_of_ne _ _ hnew]
        exact hold
      refine hsame.keeps ?_ hgains.serviceNamespaces hgains.tenantScopes
      rw [hrows, if_neg (by simpa using fun h => hnew h.symm), Option.or_none]

/-- **A call for an own asset** is answered alike by stores in step, and leaves them in step. -/
theorem Aligned.issue_cases (hs : s.Aligned) (hadmits : s.Admits call) (hknown : s.Known call)
    (hown : s.AsksForOwn call) : Outcome s call := by
  cases hrecord : s.registry.idempotencyRecord? call.input.idempotencyRecordKey with
  | some r => exact hs.issue_recorded hown hrecord
  | none =>
      have hmemory : s.memory.idempotencyRecords call.input.memoryKey = none := by
        cases hmemory : s.memory.idempotencyRecords call.input.memoryKey with
        | none => rfl
        | some r =>
            have hsome := hknown.record (Option.isSome_of_eq_some hmemory)
            rw [hrecord] at hsome
            cases hsome
      cases hnamed : present call.input.assetId with
      | some assetId => exact hs.issue_named hadmits hown hrecord hmemory hnamed
      | none => exact hs.issue_new hadmits (hknown.scope hmemory hnamed) hrecord hmemory hnamed

/-- Either outcome keeps a call to its scope. -/
theorem Outcome.scopesCall (h : Outcome s call) (hs : s.Aligned) : s.ScopesCall call := by
  cases h with
  | refused hmemory hregistry hsame =>
      refine ⟨iff_of_false ?_ ?_, fun issued hissued => ?_, fun issued hissued => ?_⟩
      · rintro ⟨result, hresult⟩
        rw [hmemory] at hresult
        cases hresult
      · rintro ⟨issued, hissued⟩
        rw [hregistry] at hissued
        cases hissued
      · rw [hmemory] at hissued
        cases hissued
      · rw [hregistry] at hissued
        cases hissued
  | @accepted issued issued' asset hmemory hregistry hid hnamed hasset hscope haligned =>
      refine ⟨⟨fun _ => ⟨_, hregistry⟩, fun _ => ⟨_, hmemory⟩⟩, fun result hresult => ?_,
        fun result hresult => ?_⟩
      · obtain rfl := StoredResult.issued.inj (Except.ok.inj (hmemory.symm.trans hresult))
        exact ⟨hnamed, asset, hasset, hscope⟩
      · obtain rfl := Except.ok.inj (hregistry.symm.trans hresult)
        refine ⟨fun id hpresent => ?_, ?_⟩
        · obtain ⟨hissued, hstored⟩ := hnamed id hpresent
          exact ⟨hid.trans hissued, (hs.same id).isSome_iff.mp hstored⟩
        · have hsame := haligned.same issued.assetId
          simp only [SameAsset, hasset] at hsame
          obtain ⟨-, row, hrow, hdescribes⟩ := hsame
          exact ⟨row, hid ▸ hrow, hdescribes.inScope hscope⟩

/-- Either outcome leaves the stores in step. -/
theorem Outcome.aligned (h : Outcome s call) (hs : s.Aligned) : (s.issue call).Aligned := by
  cases h with
  | refused _ _ hsame =>
      rw [hsame]
      exact hs
  | accepted _ _ _ _ _ _ haligned => exact haligned

/-- **A call that keeps to its scope asks for an own asset**: the in-memory store gives the
asset that it asks for, whatever the scope. -/
theorem Aligned.asksForOwn (hs : s.Aligned) (hknown : s.Known call) (h : s.ScopesCall call) :
    s.AsksForOwn call := by
  intro id htarget asset hasset
  rw [Option.mem_def] at htarget hasset
  suffices hgiven : ∃ issued, s.memoryAnswer call = .ok (.issued issued) ∧ issued.assetId = id ∧
      (s.issue call).memory.assets = s.memory.assets by
    obtain ⟨issued, hissued, rfl, hassets⟩ := hgiven
    obtain ⟨hnamed, asset', hasset', hscope⟩ := h.memory issued hissued
    rw [hassets, hasset] at hasset'
    obtain rfl := Option.some.inj hasset'
    exact ⟨hscope, fun named hpresent => (hnamed named hpresent).1⟩
  cases hmemory : s.memory.idempotencyRecords call.input.memoryKey with
  | none =>
      have hnamed : present call.input.assetId = some id := by
        simpa only [target, hmemory] using htarget
      have hissue := @InMemoryUploadSessionIssuanceStore.issueUploadSession_existing s.memory
        call.input call.memoryIds id hnamed hmemory
      simp only [hasset] at hissue
      have hsame := hs.same id
      simp only [SameAsset, hasset] at hsame
      refine ⟨_, congrArg Prod.fst hissue, hsame.1, ?_⟩
      simp only [issue, hissue]
      rfl
  | some record =>
      obtain ⟨r, hr⟩ :=
        Option.isSome_iff_exists.mp (hknown.record (Option.isSome_of_eq_some hmemory))
      obtain ⟨first, issued, -, hrecord, -, -⟩ := hs.recorded hr
      simp only [target, hrecord] at htarget
      split at htarget
      · rename_i hsame
        have hissue := s.memory.issueUploadSession_recorded call.memoryIds hsame hrecord
        refine ⟨_, congrArg Prod.fst hissue, Option.some.inj htarget, ?_⟩
        simp only [issue, hissue]
      · cases htarget

/-- **A call keeps to its scope exactly when it asks for an own asset.** -/
theorem Aligned.scopesCall_iff (hs : s.Aligned) (hadmits : s.Admits call) (hknown : s.Known call) :
    s.ScopesCall call ↔ s.AsksForOwn call :=
  ⟨hs.asksForOwn hknown, fun hown => (hs.issue_cases hadmits hknown hown).scopesCall hs⟩

end IssuingStores

/-! ### Sequences of calls -/

/-- **Issuances keep to their scopes exactly when they ask for own assets**: over every
sequence of calls from fresh stores, the two stores accept the same calls, each for an asset of
the scope that it requests. -/
theorem issuances_scoped_iff {stores : IssuingStores} (hfresh : stores.Fresh)
    (calls : List IssueCall)
    (hadmits : ∀ τ ∈ trace IssuingStores.issue stores calls, τ.before.Admits τ.action)
    (hknown : ∀ τ ∈ trace IssuingStores.issue stores calls, τ.before.Known τ.action) :
    (∀ τ ∈ trace IssuingStores.issue stores calls, τ.before.ScopesCall τ.action) ↔
      ∀ τ ∈ trace IssuingStores.issue stores calls, τ.before.AsksForOwn τ.action := by
  refine (trace_run IssuingStores.issue stores calls).forall_iff_where (I := IssuingStores.Aligned)
    (C := fun τ => τ.before.Admits τ.action ∧ τ.before.Known τ.action) ?_ ?_ hfresh.aligned
    fun τ hτ => ⟨hadmits τ hτ, hknown τ hτ⟩
  · rintro s call s' hs rfl ⟨hids, hknow⟩ hown
    exact (hs.issue_cases hids hknow hown).aligned hs
  · rintro s call s' hs - ⟨hids, hknow⟩
    exact hs.scopesCall_iff hids hknow

/-! ### Sample sequences -/

/-- A call with the ids of the sample `key`. -/
def sampleCall (input : RegistryIssueUploadSessionInput) (key : String) : IssueCall :=
  ⟨input, sampleIds key, 20⟩

/-- Fresh stores, over a registry with the tenant `acme`. -/
def tenantStores : IssuingStores := ⟨{}, tenantRegistry⟩

/-- The tenant `acme` gets an asset, a second version of it, that version again, and none of an
asset that does not exist. -/
def tenantCalls : List IssueCall :=
  [sampleCall (tenantIssue "acme") "a",
    sampleCall { secondIssue with tenantId := some "acme" } "b",
    sampleCall { secondIssue with tenantId := some "acme" } "c",
    sampleCall { tenantIssue "acme" with idempotencyKey := "d", assetId := some "asset-d" } "d"]

/-- What the registry answers along the sample sequence, where every call keeps to its scope. -/
theorem tenant_issuances_scoped :
    ((trace IssuingStores.issue tenantStores tenantCalls).map fun τ =>
        (τ.before.registryAnswer τ.action).toOption.map fun issued =>
          (issued.assetId, issued.tenantId, issued.versionNumber)) =
      [some ("asset-a", some "acme", 1), some ("asset-a", some "acme", 2),
        some ("asset-a", some "acme", 2), none] ∧
    ∀ τ ∈ trace IssuingStores.issue tenantStores tenantCalls, τ.before.ScopesCall τ.action := by
  refine ⟨by decide +kernel, (issuances_scoped_iff ⟨rfl, rfl, rfl⟩ tenantCalls ?_ ?_).mpr ?_⟩
  · have hrows : ∀ τ ∈ trace IssuingStores.issue tenantStores tenantCalls,
        τ.action.input.assetId ≠ some "" ∧ τ.action.ids.assetId ≠ "" ∧ τ.action.ids.versionId ≠ "" ∧
        (∀ v ∈ τ.before.registry.assetVersions.rows, v.id ≠ τ.action.ids.versionId) ∧
        (∀ s ∈ τ.before.registry.uploadSessions.rows,
          s.id ≠ τ.action.ids.uploadSessionId ∧ s.assetVersionId ≠ τ.action.ids.versionId) ∧
        (∀ a ∈ τ.before.registry.assets.rows,
          a.id ≠ τ.action.ids.assetId ∧ a.lookupKey ≠ τ.action.ids.lookupKey) ∧
        ∀ r ∈ τ.before.registry.idempotencyRecords.rows, ∀ reference ∈ r.responseReference,
          reference.versionId ≠ τ.action.ids.versionId := by
      decide +kernel
    intro τ hτ
    obtain ⟨hnamed, hassetId, hversionId, hversion, hsession, hasset, hrecord⟩ := hrows τ hτ
    exact ⟨hnamed, hassetId, hversionId, ⟨hversion, fun s hs => (hsession s hs).1,
      fun s hs => (hsession s hs).2⟩, fun a ha => (hasset a ha).1,
        fun a ha => (hasset a ha).2, hrecord⟩
  · exact fun τ hτ => (by decide +kernel : ∀ τ ∈ trace IssuingStores.issue tenantStores tenantCalls,
      τ.before.Known τ.action) τ hτ
  · decide +kernel

/-- The sample registry with a second namespace, `news`, and its tenant `globex`. -/
def newsRegistry : Db where
  serviceNamespaces := ⟨[⟨"namespace-1", "media"⟩, ⟨"namespace-2", "news"⟩], by decide⟩
  tenantScopes := ⟨[⟨"tenant-1", "namespace-2", "globex"⟩], by decide⟩

/-- A version of the sample asset, requested for another namespace, tenant and owner. -/
def foreignIssue : RegistryIssueUploadSessionInput :=
  { sampleIssue "b" with
    assetId := some "asset-a"
    assetOwner := "customer:globex"
    serviceNamespaceId := "news"
    tenantId := some "globex" }

/-- **A session on an asset of another scope.** The request is for the tenant `globex` of the
namespace `news`, which the registry knows; the in-memory store gives it a session and a version
on the asset of another owner in the namespace `media`, where the Prisma store finds no asset. -/
theorem foreign_asset_accepted :
    let stores := (⟨{}, newsRegistry⟩ : IssuingStores)
    let first := stores.issue (sampleCall (sampleIssue "a") "a")
    let call := sampleCall foreignIssue "b"
    stores.Fresh ∧ first.registry.KnowsScope foreignIssue ∧
    (∃ issued, first.memoryAnswer call = .ok (.issued issued) ∧ issued.assetId = "asset-a" ∧
      issued.serviceNamespaceId = "media" ∧ issued.assetOwner = "customer:acme" ∧
      issued.versionNumber = 2 ∧
      ((first.issue call).memory.uploadSessions issued.uploadSessionId).isSome = true) ∧
    first.registryAnswer call = .error (.uploadSessionAssetNotFound "asset-a") ∧
    ¬ first.ScopesCall call := by
  refine ⟨⟨rfl, rfl, rfl⟩, by decide +kernel, ⟨_, rfl, rfl, rfl, rfl, rfl, rfl⟩, rfl, fun h => ?_⟩
  obtain ⟨issued, hissued⟩ := h.agrees.mp ⟨_, rfl⟩
  cases hissued

end Cdngine
