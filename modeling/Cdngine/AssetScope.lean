import Cdngine.TenantIsolation
import Cdngine.MemoryUploadStore

/-!
# The Scope of an Existing Asset

An issuance may name the asset that its version is for. The route authorizes the scope
that the request asks for, so a store has to look at the asset it finds under the id: is it
in that namespace, under that tenant, and of that owner? The Prisma store puts the three
into its query (`loadExistingAsset`); the in-memory store takes any asset with the id
(`resolveOrCreateAsset`).

## Main results

* `issueTransaction_succeeds`: an issuance under new ids succeeds once its asset is found.
* `issueUploadSession_existing_iff`: the Prisma store accepts a named asset exactly when it
  is in the requested scope.
* `issueUploadSession_existing`: the in-memory store accepts a named asset exactly when it
  exists.
-/

open Relational

namespace Cdngine

/-! ### An issuance that succeeds -/

/-- The ids of an issuance are new to the versions and sessions. -/
structure Db.FreshIds (db : Db) (ids : IssueIds) : Prop where
  version : ∀ v ∈ db.assetVersions.rows, v.id ≠ ids.versionId
  session : ∀ s ∈ db.uploadSessions.rows, s.id ≠ ids.uploadSessionId
  sessionVersion : ∀ s ∈ db.uploadSessions.rows, s.assetVersionId ≠ ids.versionId

/-- A maximum is no less than what it is taken of. -/
theorem le_foldl_max {numbers : List Nat} {start n : Nat} (h : n ∈ numbers ∨ n ≤ start) :
    n ≤ numbers.foldl max start := by
  induction numbers generalizing start with
  | nil =>
      rcases h with hmem | hle
      · cases hmem
      · exact hle
  | cons m numbers ih =>
      refine ih ?_
      rcases h with hmem | hle
      · rcases List.mem_cons.mp hmem with rfl | hmem
        · exact Or.inr (le_max_right _ _)
        · exact Or.inl hmem
      · exact Or.inr (le_trans hle (le_max_left _ _))

/-- No version of an asset has a later number than its latest. -/
theorem Db.le_latestVersionNumber {db : Db} {v : AssetVersion} (hv : v ∈ db.assetVersions.rows) :
    v.versionNumber ≤ db.latestVersionNumber v.assetId := by
  refine le_foldl_max (Or.inl (List.mem_map.mpr ⟨v, List.mem_filter.mpr ⟨hv, ?_⟩, rfl⟩))
  exact beq_self_eq_true v.assetId

/-- A version under a new id and the next number of its asset can be created. -/
theorem createAssetVersion_ok {db : Db} {ids : IssueIds} (input : RegistryIssueUploadSessionInput)
    (assetId : String) (hfresh : ∀ v ∈ db.assetVersions.rows, v.id ≠ ids.versionId) :
    ∃ db', db.createAssetVersion
      (issuedVersion input ids assetId (db.latestVersionNumber assetId + 1)) = .ok db' := by
  obtain ⟨t, ht⟩ : ∃ t, db.assetVersions.insert
      (issuedVersion input ids assetId (db.latestVersionNumber assetId + 1)) = .ok t := by
    refine Table.exists_insert_iff.mpr fun v hv =>
      AssetVersion.clash_eq_false_iff.mpr ⟨hfresh v hv, ?_, ?_⟩
    · intro hsome hnone
      rw [hnone] at hsome
      cases hsome
    · intro hnumber
      obtain ⟨hasset, hnumber⟩ := Prod.mk.inj hnumber
      have hle := Db.le_latestVersionNumber hv
      rw [hasset] at hle
      have hlatest : v.versionNumber = db.latestVersionNumber assetId + 1 := hnumber
      have hle' : v.versionNumber ≤ db.latestVersionNumber assetId := hle
      omega
  exact ⟨_, write_eq_ok.mpr ⟨t, ht, rfl⟩⟩

/-- A session under a new id and for a new version can be created. -/
theorem createUploadSession_ok {db : Db} (row : UploadSession)
    (hid : ∀ s ∈ db.uploadSessions.rows, s.id ≠ row.id)
    (hversion : ∀ s ∈ db.uploadSessions.rows, s.assetVersionId ≠ row.assetVersionId) :
    ∃ db', db.createUploadSession row = .ok db' := by
  obtain ⟨t, ht⟩ : ∃ t, db.uploadSessions.insert row = .ok t := by
    refine Table.exists_insert_iff.mpr fun s hs => ?_
    simp only [clash, sameKey, Bool.or_eq_false_iff, decide_eq_false_iff_not]
    exact ⟨hid s hs, hversion s hs⟩
  exact ⟨_, write_eq_ok.mpr ⟨t, ht, rfl⟩⟩

/-- **An issuance succeeds** under new ids and a new key, once its namespace and asset are
found; it leaves the assets as they are then. -/
theorem issueTransaction_succeeds {db db₁ : Db} {input : RegistryIssueUploadSessionInput}
    {ids : IssueIds} (now : Instant) {ns : ServiceNamespace} {asset : Asset}
    (hns : db.serviceNamespaces.find? (fun r => r.serviceNamespaceId == input.serviceNamespaceId) =
      some ns)
    (hasset : issueAsset db input ids ns.id (resolveTenant db ns.id input.tenantId) =
      .ok (asset, db₁))
    (hfresh : db₁.FreshIds ids) (hkey : db₁.idempotencyRecord? input.idempotencyRecordKey = none) :
    ∃ issued db', issueTransaction input ids now db = .ok (issued, db') ∧
      issued.assetId = asset.id ∧ db'.assets = db₁.assets := by
  obtain ⟨db₂, h₂⟩ := createAssetVersion_ok input asset.id hfresh.version
  obtain ⟨db₃, h₃⟩ : ∃ db₃, db₂.createUploadSession (issuedSession input ids now) = .ok db₃ := by
    obtain ⟨t, -, rfl⟩ := write_eq_ok.mp h₂
    exact createUploadSession_ok _ hfresh.session hfresh.sessionVersion
  obtain ⟨db₄, h₄⟩ : ∃ db₄, db₃.createIdempotencyRecord (issuedRecord input ids asset.id now) =
      .ok db₄ := by
    obtain ⟨t₂, -, rfl⟩ := write_eq_ok.mp h₂
    obtain ⟨t₃, -, rfl⟩ := write_eq_ok.mp h₃
    exact Db.createIdempotencyRecord_ok_iff.mpr hkey
  have hassets : db₄.assets = db₁.assets := by
    obtain ⟨t₂, -, rfl⟩ := write_eq_ok.mp h₂
    obtain ⟨t₃, -, rfl⟩ := write_eq_ok.mp h₃
    obtain ⟨t₄, -, rfl⟩ := write_eq_ok.mp h₄
    rfl
  simp only [issueTransaction, hns]
  exact ⟨_, db₄, bind_eq_ok.mpr ⟨(asset, db₁), hasset, bind_eq_ok.mpr ⟨db₂, h₂, bind_eq_ok.mpr
    ⟨db₃, h₃, bind_eq_ok.mpr ⟨db₄, h₄, rfl⟩⟩⟩⟩, rfl, hassets⟩

/-! ### The Prisma store -/

/-- An asset of the registry lies in the scope that an issuance resolves. -/
def Asset.InResolvedScope (row : Asset) (db : Db) (input : RegistryIssueUploadSessionInput) :
    Prop :=
  ∃ ns, db.serviceNamespaces.find? (fun r => r.serviceNamespaceId == input.serviceNamespaceId) =
      some ns ∧
    row.assetOwner = input.assetOwner ∧ row.serviceNamespaceId = ns.id ∧
    row.tenantScopeId = (resolveTenant db ns.id input.tenantId).map (·.id)

/-- The asset of an id is found exactly when it has the attributes. -/
theorem loadExistingAsset_eq_ok_iff {db : Db} {assetId namespaceId assetOwner : String}
    {tenant : Option TenantScope} {row : Asset} :
    loadExistingAsset db assetId namespaceId tenant assetOwner = .ok row ↔
      db.asset? assetId = some row ∧ row.assetOwner = assetOwner ∧
        row.serviceNamespaceId = namespaceId ∧ row.tenantScopeId = tenant.map (·.id) := by
  unfold loadExistingAsset
  constructor
  · intro h
    split at h
    · rename_i found hfound
      obtain rfl := Except.ok.inj h
      have hsel := Table.sel_of_find? hfound
      simp only [Bool.and_eq_true, beq_iff_eq] at hsel
      obtain ⟨⟨⟨hid, howner⟩, hnamespace⟩, htenant⟩ := hsel
      exact ⟨Db.asset?_eq_some_iff.mpr ⟨Table.mem_of_find? hfound, hid⟩, howner, hnamespace,
        htenant⟩
    · cases h
  · rintro ⟨hrow, howner, hnamespace, htenant⟩
    obtain ⟨hmem, hid⟩ := Db.asset?_eq_some_iff.mp hrow
    split
    · rename_i found hfound
      have hsel := Table.sel_of_find? hfound
      simp only [Bool.and_eq_true, beq_iff_eq] at hsel
      have hfound' := Db.asset?_eq_some_iff.mpr ⟨Table.mem_of_find? hfound, hsel.1.1.1⟩
      rw [Option.some.inj (hrow.symm.trans hfound')]
    · rename_i hnone
      have hnot := Table.find?_eq_none_iff.mp hnone row hmem
      simp [hid, howner, hnamespace, htenant] at hnot

/-- **The Prisma store accepts a named asset** exactly when it is in the requested scope. -/
theorem issueUploadSession_existing_iff {db : Db} {input : RegistryIssueUploadSessionInput}
    {ids : IssueIds} {now : Instant} {assetId : String} (hnamed : input.assetId = some assetId)
    (hfresh : db.FreshIds ids) (hkey : db.idempotencyRecord? input.idempotencyRecordKey = none) :
    (∃ issued db', issueUploadSession input ids now db = (.ok issued, db')) ↔
      ∃ row, db.asset? assetId = some row ∧ row.InResolvedScope db input := by
  constructor
  · rintro ⟨issued, db', hissue⟩
    rcases issueUploadSession_eq_ok hissue with ⟨record, hrecord, -, -⟩ | ⟨-, htx⟩
    · rw [hkey] at hrecord
      cases hrecord
    · unfold issueTransaction at htx
      split at htx
      · rename_i ns hns
        obtain ⟨⟨asset, db₁⟩, hasset, -⟩ := bind_eq_ok.mp htx
        simp only [issueAsset, hnamed] at hasset
        obtain ⟨row, hrow, -⟩ := bind_eq_ok.mp hasset
        obtain ⟨hrow, hscope⟩ := loadExistingAsset_eq_ok_iff.mp hrow
        exact ⟨row, hrow, ns, hns, hscope⟩
      · cases htx
  · rintro ⟨row, hrow, ns, hns, hscope⟩
    have hasset : issueAsset db input ids ns.id (resolveTenant db ns.id input.tenantId) =
        .ok (row, db) := by
      simp only [issueAsset, hnamed]
      exact bind_eq_ok.mpr ⟨row, loadExistingAsset_eq_ok_iff.mpr ⟨hrow, hscope⟩, rfl⟩
    obtain ⟨issued, db', htx, -⟩ := issueTransaction_succeeds now hns hasset hfresh hkey
    refine ⟨issued, db', ?_⟩
    simp only [issueUploadSession, hkey, transact, htx]

/-! ### The in-memory store -/

/-- An asset of the in-memory store lies in the scope that an issuance requests. -/
structure AssetSummary.InScope (asset : AssetSummary) (input : RegistryIssueUploadSessionInput) :
    Prop where
  serviceNamespaceId : asset.serviceNamespaceId = input.serviceNamespaceId
  tenantId : asset.tenantId = present input.tenantId
  assetOwner : asset.assetOwner = input.assetOwner

namespace InMemoryUploadSessionIssuanceStore

variable {store : InMemoryUploadSessionIssuanceStore} {input : RegistryIssueUploadSessionInput}
  {ids : MemoryIssueIds} {assetId : String}

/-- **The in-memory store accepts a named asset** exactly when it exists. -/
theorem issueUploadSession_existing (hnamed : present input.assetId = some assetId)
    (hkey : store.idempotencyRecords input.memoryKey = none) :
    store.issueUploadSession input ids =
      match store.assets assetId with
      | some asset =>
          (.ok (.issued (issuedResult input ids asset (store.nextVersionNumber asset.assetId))),
            store.storeIssued input ids asset)
      | none => (.error (.assetNotFound assetId), store) := by
  simp only [issueUploadSession, hkey, resolveOrCreateAsset, hnamed]
  cases store.assets assetId <;> rfl

end InMemoryUploadSessionIssuanceStore

end Cdngine
