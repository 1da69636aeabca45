import Cdngine.CurrentVersion
import Cdngine.DuplicateCompletion

/-!
# Rows That Agree

The tables of the registry refer to each other: a session to its version, a version to its
asset, a dispatch and a published row to a version whose canonical source is recorded, an
idempotency record to the rows of the response it replays. The schema leaves most of these
references to the transactions, and several of them write more than one table.
`Db.Consistent` says that every reference resolves and that the columns on its two sides
agree; every transaction of the registry keeps it, so it holds in every state of every run.

## Main results

* `Db.Consistent.issue`, `Db.Consistent.rewrite`: issuances keep the rows consistent, and so
  does every transaction that rewrites them.
* `RegistrySystem.Transacts.rewrites`: every other transaction of the registry does so.
* `registry_consistent`: every state that the registry reaches is consistent.
-/

open Relational Runs

namespace Relational.Table

variable {ρ κ : Type*} [Constrained ρ]

/-- An update leaves the columns alone that its function does not touch. -/
theorem map_rows_update {t t' : Table ρ} {p : ρ → Bool} {f : ρ → ρ} (h : t.update p f = .ok t')
    {k : ρ → κ} (hk : ∀ r, k (f r) = k r) : t'.rows.map k = t.rows.map k := by
  rw [(update_eq_ok_iff.mp h).2, updatedRows, List.map_map]
  refine List.map_congr_left fun r _ => ?_
  by_cases hp : p r = true <;> simp [hp, hk]

end Relational.Table

namespace Cdngine

/-! ### Columns that are written once -/

/-- The columns of a version that an issuance writes for good. -/
def AssetVersion.identity (v : AssetVersion) : String × String × Nat :=
  (v.id, v.assetId, v.versionNumber)

/-- The columns of a session that an issuance writes for good. -/
def UploadSession.identity (s : UploadSession) : String × String := (s.id, s.assetVersionId)

/-- No session or version is added, and those there are keep the columns that identify
them. -/
structure Db.SameIdentities (db db' : Db) : Prop where
  versions : db'.assetVersions.rows.map AssetVersion.identity =
    db.assetVersions.rows.map AssetVersion.identity
  sessions : db'.uploadSessions.rows.map UploadSession.identity =
    db.uploadSessions.rows.map UploadSession.identity

namespace Db.SameIdentities

variable {db db' db₁ db₂ db₃ : Db}

theorem of_tables (hversions : db'.assetVersions = db.assetVersions)
    (hsessions : db'.uploadSessions = db.uploadSessions) : db.SameIdentities db' :=
  ⟨by rw [hversions], by rw [hsessions]⟩

theorem refl (db : Db) : db.SameIdentities db := of_tables rfl rfl

theorem trans (h₁ : db₁.SameIdentities db₂) (h₂ : db₂.SameIdentities db₃) :
    db₁.SameIdentities db₃ :=
  ⟨h₂.versions.trans h₁.versions, h₂.sessions.trans h₁.sessions⟩

theorem updateAssetVersion {id : String} {data : AssetVersion → AssetVersion}
    (h : db.updateAssetVersion id data = .ok db') (hdata : ∀ v, (data v).identity = v.identity) :
    db.SameIdentities db' := by
  obtain ⟨t, ht, rfl⟩ := write_eq_ok.mp h
  exact ⟨Table.map_rows_update ht hdata, rfl⟩

theorem updateUploadSession {id : String} {data : UploadSession → UploadSession}
    (h : db.updateUploadSession id data = .ok db') (hdata : ∀ s, (data s).identity = s.identity) :
    db.SameIdentities db' := by
  obtain ⟨t, ht, rfl⟩ := write_eq_ok.mp h
  exact ⟨rfl, Table.map_rows_update ht hdata⟩

/-- Every statement of a completion keeps the columns. -/
theorem apply {s : CompletionStatement} (h : s.apply db = .ok db') : db.SameIdentities db' := by
  cases s with
  | expireUploadSession _ => exact updateUploadSession h fun _ => rfl
  | failUploadSession _ _ => exact updateUploadSession h fun _ => rfl
  | markUploaded _ _ _ => exact updateUploadSession h fun _ => rfl
  | failVersionValidation _ => exact updateAssetVersion h fun _ => rfl
  | startCanonicalizing _ _ => exact updateAssetVersion h fun _ => rfl
  | recordEvidence _ _ => exact updateAssetVersion h fun _ => rfl
  | failRetryable _ => exact updateAssetVersion h fun _ => rfl
  | _ =>
      obtain ⟨t, -, rfl⟩ := write_eq_ok.mp h
      exact of_tables rfl rfl

theorem executeAll {ss : List CompletionStatement} (h : executeAll ss db = .ok db') :
    db.SameIdentities db' := by
  induction ss generalizing db with
  | nil =>
      obtain rfl := Except.ok.inj h
      exact refl db
  | cons s ss ih =>
      obtain ⟨db₁, hs, hss⟩ := executeAll_cons.mp h
      exact (apply hs).trans (ih hss)

/-- A version of the later database was there before, under the same columns. -/
theorem version? (h : db.SameIdentities db') {id : String} {v' : AssetVersion}
    (hv' : db'.version? id = some v') :
    ∃ v, db.version? id = some v ∧ v.identity = v'.identity := by
  obtain ⟨hmem, hid⟩ := Db.version?_eq_some_iff.mp hv'
  have hcolumns : v'.identity ∈ db.assetVersions.rows.map AssetVersion.identity :=
    h.versions ▸ List.mem_map_of_mem hmem
  obtain ⟨v, hv, heq⟩ := List.mem_map.mp hcolumns
  exact ⟨v, Db.version?_eq_some_iff.mpr ⟨hv, (Prod.mk.inj heq).1.trans hid⟩, heq⟩

/-- A session of the later database was there before, for the same version. -/
theorem uploadSession? (h : db.SameIdentities db') {id : String} {s' : UploadSession}
    (hs' : db'.uploadSession? id = some s') :
    ∃ s, db.uploadSession? id = some s ∧ s.assetVersionId = s'.assetVersionId := by
  obtain ⟨hmem, hid⟩ := Db.uploadSession?_eq_some_iff.mp hs'
  have hcolumns : s'.identity ∈ db.uploadSessions.rows.map UploadSession.identity :=
    h.sessions ▸ List.mem_map_of_mem hmem
  obtain ⟨s, hs, heq⟩ := List.mem_map.mp hcolumns
  obtain ⟨hsid, hversion⟩ := Prod.mk.inj heq
  exact ⟨s, Db.uploadSession?_eq_some_iff.mpr ⟨hs, hsid.trans hid⟩, hversion⟩

/-- The versions of each asset keep their numbers. -/
theorem versionNumbers (h : db.SameIdentities db') (assetId : String) :
    db'.versionNumbers assetId = db.versionNumbers assetId := by
  have hcolumns : ∀ db : Db, db.versionNumbers assetId =
      ((db.assetVersions.rows.map AssetVersion.identity).filter fun k => k.2.1 == assetId).map
        (·.2.2) := by
    intro db
    rw [List.filter_map, List.map_map]
    rfl
  rw [hcolumns db', hcolumns db, h.versions]

theorem numbered (h : db.SameIdentities db') (hdb : db.Numbered) : db'.Numbered := by
  intro assetId
  rw [h.versionNumbers]
  exact hdb assetId

theorem oneSession (h : db.SameIdentities db') (hdb : db.OneSession) : db'.OneSession := by
  intro v' hv'
  obtain ⟨v, hv, hidentity⟩ := h.version? (Db.version?_eq_some_iff.mpr ⟨hv', rfl⟩)
  obtain ⟨hmem, hid⟩ := Db.version?_eq_some_iff.mp hv
  obtain ⟨s, ⟨hs, hsversion⟩, -⟩ := hdb v hmem
  have hcolumns : s.identity ∈ db'.uploadSessions.rows.map UploadSession.identity :=
    h.sessions ▸ List.mem_map_of_mem hs
  obtain ⟨s', hs', heq⟩ := List.mem_map.mp hcolumns
  have hversion : s'.assetVersionId = v'.id := by
    rw [(Prod.mk.inj heq).2, hsversion, hid]
  refine ⟨s', ⟨hs', hversion⟩, ?_⟩
  rintro s'' ⟨hs'', hversion''⟩
  exact Table.eq_of_clash hs'' hs' (by simp [clash, hversion'', hversion])

end Db.SameIdentities

/-! ### What the rows refer to -/

/-- A canonical source is recorded for a version. -/
def AssetVersion.Recorded (v : AssetVersion) : Prop := v.canonicalSourceId.isSome

/-- A version with a recorded source. -/
def Db.HasRecorded (db : Db) (versionId : String) : Prop :=
  ∃ v, db.version? versionId = some v ∧ v.Recorded

/-- A workflow key is one of a version: it names the version with its asset and
namespace. -/
def Db.WorkflowKeyOf (db : Db) (versionId workflowKey : String) : Prop :=
  ∃ v a n template, db.version? versionId = some v ∧ db.asset? v.assetId = some a ∧
    db.serviceNamespace? a.serviceNamespaceId = some n ∧
    workflowKey = buildWorkflowKey n.serviceNamespaceId v.assetId versionId template

/-- A delivery scope is one that the asset of a version may be published to. -/
def Db.ScopeOf (db : Db) (versionId deliveryScopeId : String) : Prop :=
  ∃ v a, db.version? versionId = some v ∧ db.asset? v.assetId = some a ∧
    ∃ s ∈ db.deliveryScopes.rows, s.id = deliveryScopeId ∧ s.availableTo a = true

/-- The reference of an idempotency record resolves: it names a session with its version and
asset and, as long as it answers a completion, the recorded source and a dispatch of the
version. -/
def Db.Resolves (db : Db) (operationKey : String) (reference : Option ReplayableUploadReference) :
    Prop :=
  ∃ ref s v, reference = some ref ∧ db.uploadSession? ref.uploadSessionId = some s ∧
    s.assetVersionId = ref.versionId ∧ db.version? ref.versionId = some v ∧
    v.assetId = ref.assetId ∧
    (operationKey = buildCreateOperationKey ∨
      operationKey = buildCompletionOperationKey ref.uploadSessionId ∧ v.Recorded ∧
        ∃ d ∈ db.workflowDispatches.rows, ref.workflowDispatchId = some d.id ∧
          db.WorkflowKeyOf ref.versionId d.workflowKey)

/-- **The rows agree.** -/
structure Db.Consistent (db : Db) : Prop where
  session : ∀ {id s}, db.uploadSession? id = some s → (db.version? s.assetVersionId).isSome
  version : ∀ {id v}, db.version? id = some v → (db.asset? v.assetId).isSome
  asset : ∀ {id a}, db.asset? id = some a → (db.serviceNamespace? a.serviceNamespaceId).isSome
  numbered : db.Numbered
  oneSession : db.OneSession
  current : ∀ {id a versionId}, db.asset? id = some a →
    a.currentCanonicalVersionId = some versionId →
      ∃ v, db.version? versionId = some v ∧ v.assetId = id ∧ v.Recorded
  lifecycle : ∀ {id v}, db.version? id = some v →
    v.lifecycleState = .canonical ∨ v.lifecycleState = .published → v.Recorded
  dispatch : ∀ d ∈ db.workflowDispatches.rows,
    db.HasRecorded d.assetVersionId ∧ db.WorkflowKeyOf d.assetVersionId d.workflowKey
  dispatched : ∀ {id}, db.HasRecorded id →
    ∃ d ∈ db.workflowDispatches.rows, db.WorkflowKeyOf id d.workflowKey
  derivative : ∀ d ∈ db.derivatives.rows, db.HasRecorded d.assetVersionId
  manifest : ∀ m ∈ db.assetManifests.rows,
    db.HasRecorded m.assetVersionId ∧ db.ScopeOf m.assetVersionId m.deliveryScopeId
  record : ∀ {key r}, db.idempotencyRecord? key = some r → db.Resolves key.2.2.1 r.responseReference

/-! ### What later databases keep of it -/

/-- A later database: what was issued and recorded is still there. -/
structure Db.Keeps (db db' : Db) : Prop where
  issued : db.KeepsIssued db'
  recorded : ∀ {id}, db.HasRecorded id → db'.HasRecorded id
  dispatches : db.workflowDispatches.rows <+: db'.workflowDispatches.rows
  deliveryScopes : db'.deliveryScopes = db.deliveryScopes

namespace Db.Keeps

variable {db db' : Db} {versionId : String}

theorem workflowKeyOf (h : db.Keeps db') {workflowKey : String}
    (hkey : db.WorkflowKeyOf versionId workflowKey) : db'.WorkflowKeyOf versionId workflowKey := by
  obtain ⟨v, a, n, template, hv, ha, hn, rfl⟩ := hkey
  obtain ⟨v', hv', hasset, -⟩ := h.issued.version? hv
  obtain ⟨a', ha', hnamespace, -⟩ := h.issued.asset? ha
  refine ⟨v', a', n, template, hv', hasset ▸ ha', ?_, by rw [hasset]⟩
  rw [hnamespace, Db.serviceNamespace?, h.issued.serviceNamespaces]
  exact hn

theorem scopeOf (h : db.Keeps db') {deliveryScopeId : String}
    (hscope : db.ScopeOf versionId deliveryScopeId) : db'.ScopeOf versionId deliveryScopeId := by
  obtain ⟨v, a, hv, ha, s, hs, hid, havailable⟩ := hscope
  obtain ⟨v', hv', hasset, -⟩ := h.issued.version? hv
  obtain ⟨a', ha', hnamespace, htenant⟩ := h.issued.asset? ha
  refine ⟨v', a', hv', hasset ▸ ha', s, h.deliveryScopes ▸ hs, hid, ?_⟩
  unfold DeliveryScope.availableTo at havailable ⊢
  rw [hnamespace, htenant]
  exact havailable

theorem resolves (h : db.Keeps db') {operationKey : String}
    {reference : Option ReplayableUploadReference} (hrefers : db.Resolves operationKey reference) :
    db'.Resolves operationKey reference := by
  obtain ⟨ref, s, v, href, hs, hsversion, hv, hvasset, hcase⟩ := hrefers
  obtain ⟨s', hs', hsversion', -⟩ := h.issued.uploadSession? hs
  obtain ⟨v', hv', hvasset', -⟩ := h.issued.version? hv
  refine ⟨ref, s', v', href, hs', hsversion'.trans hsversion, hv', hvasset'.trans hvasset,
    hcase.imp_right ?_⟩
  rintro ⟨hkey, hrecorded, d, hd, hid, hworkflow⟩
  obtain ⟨w, hw, hwrecorded⟩ := h.recorded ⟨v, hv, hrecorded⟩
  obtain rfl := Option.some.inj (hv'.symm.trans hw)
  exact ⟨hkey, hwrecorded, d, h.dispatches.subset hd, hid, h.workflowKeyOf hworkflow⟩

/-- Every asset keeps its namespace. -/
theorem serviceNamespace? (h : db.Keeps db') (id : String) :
    db'.serviceNamespace? id = db.serviceNamespace? id := by
  rw [Db.serviceNamespace?, h.issued.serviceNamespaces]
  rfl

end Db.Keeps

/-! ### Transactions that issue nothing -/

/-- **What a transaction does that issues nothing**: it keeps what was issued and recorded,
and every row that it adds or changes refers to rows of the database it leaves. -/
structure Db.Rewrites (db db' : Db) : Prop where
  keeps : db.Keeps db'
  identities : db.SameIdentities db'
  asset? : ∀ {id a'}, db'.asset? id = some a' → ∃ a, db.asset? id = some a ∧
    a'.serviceNamespaceId = a.serviceNamespaceId ∧
    (a'.currentCanonicalVersionId = a.currentCanonicalVersionId ∨
      ∃ versionId v, a'.currentCanonicalVersionId = some versionId ∧
        db'.version? versionId = some v ∧ v.assetId = id ∧ v.Recorded)
  lifecycle : ∀ {id v'}, db'.version? id = some v' →
    v'.lifecycleState = .canonical ∨ v'.lifecycleState = .published → v'.Recorded
  dispatch : ∀ d ∈ db'.workflowDispatches.rows, d ∈ db.workflowDispatches.rows ∨
    db'.HasRecorded d.assetVersionId ∧ db'.WorkflowKeyOf d.assetVersionId d.workflowKey
  dispatched : ∀ {id}, db'.HasRecorded id → db.HasRecorded id ∨
    ∃ d ∈ db'.workflowDispatches.rows, db'.WorkflowKeyOf id d.workflowKey
  derivative : ∀ d ∈ db'.derivatives.rows,
    (∃ d₀ ∈ db.derivatives.rows, d₀.assetVersionId = d.assetVersionId) ∨
      db'.HasRecorded d.assetVersionId
  manifest : ∀ m ∈ db'.assetManifests.rows,
    (∃ m₀ ∈ db.assetManifests.rows, m₀.assetVersionId = m.assetVersionId ∧
      m₀.deliveryScopeId = m.deliveryScopeId) ∨
      db'.HasRecorded m.assetVersionId ∧ db'.ScopeOf m.assetVersionId m.deliveryScopeId
  record : ∀ {key r}, db'.idempotencyRecord? key = some r →
    db.idempotencyRecord? key = some r ∨ db'.Resolves key.2.2.1 r.responseReference

/-- It leaves consistent rows consistent. -/
theorem Db.Consistent.rewrite {db db' : Db} (hdb : db.Consistent) (h : db.Rewrites db') :
    db'.Consistent where
  session := by
    intro id s' hs'
    obtain ⟨s, hs, hversion⟩ := h.identities.uploadSession? hs'
    obtain ⟨v, hv⟩ := Option.isSome_iff_exists.mp (hdb.session hs)
    obtain ⟨v', hv', -⟩ := h.keeps.issued.version? hv
    rw [← hversion, hv']
    rfl
  version := by
    intro id v' hv'
    obtain ⟨v, hv, hidentity⟩ := h.identities.version? hv'
    obtain ⟨a, ha⟩ := Option.isSome_iff_exists.mp (hdb.version hv)
    obtain ⟨a', ha', -⟩ := h.keeps.issued.asset? ha
    have hasset : v.assetId = v'.assetId := (Prod.mk.inj (Prod.mk.inj hidentity).2).1
    rw [← hasset, ha']
    rfl
  asset := by
    intro id a' ha'
    obtain ⟨a, ha, hnamespace, -⟩ := h.asset? ha'
    rw [hnamespace, h.keeps.serviceNamespace?]
    exact hdb.asset ha
  numbered := h.identities.numbered hdb.numbered
  oneSession := h.identities.oneSession hdb.oneSession
  current := by
    intro id a' versionId ha' hcurrent
    obtain ⟨a, ha, -, hsame | ⟨versionId', v, hcurrent', hv, hasset, hrecorded⟩⟩ := h.asset? ha'
    · obtain ⟨v, hv, hasset, hrecorded⟩ := hdb.current ha (hsame ▸ hcurrent)
      obtain ⟨v', hv', hasset', -⟩ := h.keeps.issued.version? hv
      obtain ⟨w, hw, hwrecorded⟩ := h.keeps.recorded ⟨v, hv, hrecorded⟩
      obtain rfl := Option.some.inj (hv'.symm.trans hw)
      exact ⟨v', hv', hasset'.trans hasset, hwrecorded⟩
    · obtain rfl := Option.some.inj (hcurrent.symm.trans hcurrent')
      exact ⟨v, hv, hasset, hrecorded⟩
  lifecycle := h.lifecycle
  dispatch := by
    intro d hd
    rcases h.dispatch d hd with hold | hnew
    · exact (hdb.dispatch d hold).imp h.keeps.recorded h.keeps.workflowKeyOf
    · exact hnew
  dispatched := by
    intro id hrecorded
    rcases h.dispatched hrecorded with hold | hnew
    · obtain ⟨d, hd, hkey⟩ := hdb.dispatched hold
      exact ⟨d, h.keeps.dispatches.subset hd, h.keeps.workflowKeyOf hkey⟩
    · exact hnew
  derivative := by
    intro d hd
    rcases h.derivative d hd with ⟨d₀, hd₀, hsame⟩ | hnew
    · exact hsame ▸ h.keeps.recorded (hdb.derivative d₀ hd₀)
    · exact hnew
  manifest := by
    intro m hm
    rcases h.manifest m hm with ⟨m₀, hm₀, hversion, hscope⟩ | hnew
    · rw [← hversion, ← hscope]
      exact (hdb.manifest m₀ hm₀).imp h.keeps.recorded h.keeps.scopeOf
    · exact hnew
  record := by
    intro key r hr
    rcases h.record hr with hold | hnew
    · exact h.keeps.resolves (hdb.record hold)
    · exact hnew

/-! ### Transactions that move a version -/

/-- The tables that a transaction which moves versions leaves as they are. -/
structure Db.SameOthers (db db' : Db) : Prop where
  assets : db'.assets = db.assets
  deliveryScopes : db'.deliveryScopes = db.deliveryScopes
  idempotencyRecords : db'.idempotencyRecords = db.idempotencyRecords

namespace Db.OnlyMoves

variable {db db' : Db}

/-- Moves write no source. -/
theorem recorded (h : db.OnlyMoves db') {id : String} (hrecorded : db.HasRecorded id) :
    db'.HasRecorded id := by
  obtain ⟨v, hv, hsource⟩ := hrecorded
  obtain ⟨state, hv'⟩ := h.version? hv
  exact ⟨_, hv', hsource⟩

theorem recorded_of (h : db.OnlyMoves db') (hsame : db.SameIdentities db') {id : String}
    (hrecorded : db'.HasRecorded id) : db.HasRecorded id := by
  obtain ⟨v', hv', hsource⟩ := hrecorded
  obtain ⟨v, hv, -⟩ := hsame.version? hv'
  obtain ⟨state, hmoved⟩ := h.version? hv
  obtain rfl := Option.some.inj (hmoved.symm.trans hv')
  exact ⟨v, hv, hsource⟩

/-- A transaction that moves versions, into `canonical` and `published` only those whose
source is recorded. -/
theorem rewrites (h : db.OnlyMoves db') (hissued : db.KeepsIssued db')
    (hsame : db.SameIdentities db') (hothers : db.SameOthers db')
    (hlifecycle : ∀ {id v'}, db'.version? id = some v' →
      v'.lifecycleState = .canonical ∨ v'.lifecycleState = .published → v'.Recorded)
    (hderivative : ∀ d ∈ db'.derivatives.rows,
      (∃ d₀ ∈ db.derivatives.rows, d₀.assetVersionId = d.assetVersionId) ∨
        db'.HasRecorded d.assetVersionId)
    (hmanifest : ∀ m ∈ db'.assetManifests.rows,
      (∃ m₀ ∈ db.assetManifests.rows, m₀.assetVersionId = m.assetVersionId ∧
        m₀.deliveryScopeId = m.deliveryScopeId) ∨
        db'.HasRecorded m.assetVersionId ∧ db'.ScopeOf m.assetVersionId m.deliveryScopeId) :
    db.Rewrites db' where
  keeps := ⟨hissued, h.recorded, h.dispatches ▸ List.prefix_rfl, hothers.deliveryScopes⟩
  identities := hsame
  asset? {id a'} ha' := by
    rw [Db.asset?, hothers.assets] at ha'
    exact ⟨a', ha', rfl, Or.inl rfl⟩
  lifecycle := hlifecycle
  dispatch d hd := Or.inl (h.dispatches ▸ hd)
  dispatched hrecorded := Or.inl (h.recorded_of hsame hrecorded)
  derivative := hderivative
  manifest := hmanifest
  record hr := by
    rw [Db.idempotencyRecord?, hothers.idempotencyRecords] at hr
    exact Or.inl hr

end Db.OnlyMoves

/-- The lifecycle of the versions after one of them moved. -/
theorem Db.VersionMoved.lifecycle_recorded {db db' : Db} {versionId : String}
    {state : AssetVersionState} (h : db.VersionMoved db' versionId state) (hdb : db.Consistent)
    (hrecorded : state = .canonical ∨ state = .published → db.HasRecorded versionId) {id : String}
    {v' : AssetVersion} (hv' : db'.version? id = some v')
    (hstate : v'.lifecycleState = .canonical ∨ v'.lifecycleState = .published) : v'.Recorded := by
  rw [h.version?, Option.map_eq_some_iff] at hv'
  obtain ⟨v, hv, rfl⟩ := hv'
  split at hstate
  · rename_i hid
    subst hid
    obtain ⟨w, hw, hsource⟩ := hrecorded hstate
    obtain rfl := Option.some.inj (hv.symm.trans hw)
    rw [if_pos rfl]
    exact hsource
  · rename_i hid
    rw [if_neg hid]
    exact hdb.lifecycle hv hstate

/-- A transaction that moves one version, into `canonical` and `published` only when its
source is recorded, and writes neither derivatives nor manifests. -/
theorem Db.VersionMoved.rewrites {db db' : Db} {versionId : String} {state : AssetVersionState}
    (h : db.VersionMoved db' versionId state) (hdb : db.Consistent) (hissued : db.KeepsIssued db')
    (hsame : db.SameIdentities db') (hothers : db.SameOthers db')
    (hpublished : db'.derivatives = db.derivatives ∧ db'.assetManifests = db.assetManifests)
    (hrecorded : state = .canonical ∨ state = .published → db.HasRecorded versionId) :
    db.Rewrites db' := by
  refine h.onlyMoves.rewrites hissued hsame hothers
    (fun hv' => h.lifecycle_recorded hdb hrecorded hv') (fun d hd => ?_) fun m hm => ?_
  · rw [hpublished.1] at hd
    exact Or.inl ⟨d, hd, rfl⟩
  · rw [hpublished.2] at hm
    exact Or.inl ⟨m, hm, rfl, rfl⟩

/-! ### The publication and execution stores, and the operator -/

namespace PublicationStore

variable {ε : Type} {store : PublicationStore ε} {db db' : Db}

/-- A store that maps the evidence of a version has read its canonical source id. -/
def ReadsSource (store : PublicationStore ε) : Prop :=
  ∀ v evidence, store.mapEvidence v = .ok evidence → v.Recorded

theorem mapVersion_recorded (hstore : store.ReadsSource) {row : PublicationRow}
    {state : AssetVersionState} {record : CanonicalVersionRecord ε}
    (h : store.mapVersion row state = .ok record) : row.version.Recorded := by
  obtain ⟨evidence, hevidence, -⟩ := bind_eq_ok.mp h
  exact hstore _ _ hevidence

theorem begin_rewrites {versionId : String} {record : CanonicalVersionRecord ε}
    (hdb : db.Consistent) (h : store.begin versionId db = .ok (record, db')) : db.Rewrites db' := by
  have htables : db.SameIdentities db' ∧ db.SameOthers db' ∧
      db'.derivatives = db.derivatives ∧ db'.assetManifests = db.assetManifests := by
    obtain ⟨row, -, -, hstart, -⟩ := begin_cases h
    unfold startProcessing at hstart
    split at hstart
    · obtain rfl := Except.ok.inj hstart
      exact ⟨.refl db, ⟨rfl, rfl, rfl⟩, rfl, rfl⟩
    · have hsame := Db.SameIdentities.updateAssetVersion hstart fun _ => rfl
      obtain ⟨t, -, rfl⟩ := write_eq_ok.mp hstart
      exact ⟨hsame, ⟨rfl, rfl, rfl⟩, rfl, rfl⟩
  refine (begin_moved h).2.rewrites hdb (.begin h) htables.1 htables.2.1 htables.2.2 fun hstate =>
    ?_
  rcases hstate with hstate | hstate <;> cases hstate

/-- The rows of the derivatives of a publication are rows of its version. -/
theorem upsertDerivatives_version {rt : Runtime} {versionId : String}
    {derivatives : List PublishedDerivativeRecord}
    (h : store.upsertDerivatives rt versionId derivatives db = .ok db') :
    ∀ d ∈ db'.derivatives.rows,
      (∃ d₀ ∈ db.derivatives.rows, d₀.assetVersionId = d.assetVersionId) ∨
        d.assetVersionId = versionId := by
  induction derivatives generalizing db with
  | nil =>
      obtain rfl := Except.ok.inj h
      exact fun d hd => Or.inl ⟨d, hd, rfl⟩
  | cons e es ih =>
      obtain ⟨db₁, h₁, h₂⟩ := bind_eq_ok.mp h
      intro d hd
      rcases ih h₂ d hd with ⟨d₁, hd₁, hversion⟩ | hversion
      swap
      · exact Or.inr hversion
      by_cases hslot : d₁.slot = e.slot versionId
      · exact Or.inr (hversion.symm.trans (Prod.mk.inj hslot).1)
      · exact Or.inl ⟨d₁, ((upsertDerivative_rows h₁).1 d₁ hslot).mp hd₁, hversion⟩

/-- A publication of a version whose source is recorded, to a scope of its asset. -/
theorem publish_rewrites (hstore : store.ReadsSource) {rt : Runtime}
    {versionId deliveryScopeId : String} {derivatives : List PublishedDerivativeRecord}
    {manifest : PublishedManifestRecord} {record : CanonicalVersionRecord ε} (hdb : db.Consistent)
    (h : store.publish rt versionId deliveryScopeId derivatives manifest db = .ok (record, db')) :
    db.Rewrites db' := by
  have hmoved := (publish_moved h).2
  have hissued := Db.KeepsIssued.publish h
  obtain ⟨row, hrow, -, ⟨scope, hscope, hid, havailable⟩, hrecord, db₁, db₂, h₁, h₂, h₃⟩ :=
    publish_cases h
  have hv := Db.findPublicationVersion_version? hrow
  have hrecorded : db.HasRecorded versionId := ⟨_, hv, mapVersion_recorded hstore hrecord⟩
  have hscopeOf : db.ScopeOf versionId deliveryScopeId := by
    simp only [Db.findPublicationVersion, Option.bind_eq_bind, Option.bind_eq_some_iff,
      Option.some.injEq] at hrow
    obtain ⟨v, hv, a, ha, n, -, rfl⟩ := hrow
    exact ⟨v, a, hv, ha, scope, hscope, hid, havailable⟩
  have hderivatives := upsertDerivatives_version h₁
  have hmanifests := (upsertManifest_rows h₂).2
  have hsame := Db.SameIdentities.updateAssetVersion h₃ fun _ => rfl
  obtain ⟨t₁, rfl⟩ := upsertDerivatives_frame h₁
  obtain ⟨t₂, -, rfl⟩ := write_eq_ok.mp h₂
  have hothers : db.SameOthers db' := by
    obtain ⟨t₃, -, rfl⟩ := write_eq_ok.mp h₃
    exact ⟨rfl, rfl, rfl⟩
  have htables : db'.derivatives = t₁ ∧ db'.assetManifests = t₂ := by
    obtain ⟨t₃, -, rfl⟩ := write_eq_ok.mp h₃
    exact ⟨rfl, rfl⟩
  have hkeeps : db.Keeps db' := ⟨hissued, hmoved.onlyMoves.recorded,
    hmoved.dispatches ▸ List.prefix_rfl, hothers.deliveryScopes⟩
  refine hmoved.onlyMoves.rewrites hissued ⟨hsame.versions, hsame.sessions⟩ hothers
    (fun hv' => hmoved.lifecycle_recorded hdb (fun _ => hrecorded) hv') (fun d hd => ?_)
    fun m hm => ?_
  · rw [htables.1] at hd
    rcases hderivatives d hd with hold | hversion
    · exact Or.inl hold
    · rw [hversion]
      exact Or.inr (hkeeps.recorded hrecorded)
  · rw [htables.2] at hm
    by_cases hslot : m.slot = (versionId, manifest.manifestType, deliveryScopeId)
    · obtain ⟨hversion, hrest⟩ := Prod.mk.inj hslot
      obtain ⟨-, hscope⟩ := Prod.mk.inj hrest
      rw [hversion, hscope]
      exact Or.inr ⟨hkeeps.recorded hrecorded, hkeeps.scopeOf hscopeOf⟩
    · exact Or.inl ⟨m, (hmanifests m hslot).mp hm, rfl, rfl⟩

end PublicationStore

/-- A source id that is present is recorded. -/
theorem AssetVersion.recorded_of_present {v : AssetVersion} {sourceId : String}
    (h : present v.canonicalSourceId = some sourceId) : v.Recorded := by
  obtain ⟨hsome, -⟩ := Option.filter_eq_some_iff.mp h
  rw [AssetVersion.Recorded, hsome]
  rfl

theorem genericAssetPublicationStore_readsSource : genericAssetPublicationStore.ReadsSource := by
  intro v evidence h
  simp only [genericAssetPublicationStore, mapCanonicalSourceEvidence] at h
  split at h
  · rename_i hsource _ _
    exact AssetVersion.recorded_of_present hsource
  · cases h

theorem mapCanonicalSourceIdentity_recorded {subject : String} {v : AssetVersion}
    {identity : CanonicalSourceIdentity} (h : mapCanonicalSourceIdentity subject v = .ok identity) :
    v.Recorded := by
  unfold mapCanonicalSourceIdentity at h
  split at h
  · rename_i hsource
    exact AssetVersion.recorded_of_present hsource
  · cases h

theorem operatorTransaction_rewrites {db db' : Db} {step : OperatorStep} {versionId : String}
    {u : Unit} (hdb : db.Consistent) (h : operatorTransaction step versionId db = .ok (u, db')) :
    db.Rewrites db' := by
  have hmoved := (operatorTransaction_moved h).2
  have hissued := Db.KeepsIssued.operatorTransaction h
  have htables : db.SameIdentities db' ∧ db.SameOthers db' ∧
      db'.derivatives = db.derivatives ∧ db'.assetManifests = db.assetManifests := by
    unfold operatorTransaction at h
    split at h
    · cases h
    · split at h
      · obtain ⟨db₁, h₁, h⟩ := bind_eq_ok.mp h
        obtain ⟨-, rfl⟩ := Prod.mk.inj (Except.ok.inj h)
        have hsame := Db.SameIdentities.updateAssetVersion h₁ fun _ => rfl
        obtain ⟨t, -, rfl⟩ := write_eq_ok.mp h₁
        exact ⟨hsame, ⟨rfl, rfl, rfl⟩, rfl, rfl⟩
      · cases h
  refine hmoved.rewrites hdb hissued htables.1 htables.2.1 htables.2.2 fun hstate => ?_
  cases step <;> rcases hstate with hstate | hstate <;> cases hstate

theorem markFailedRetryable_rewrites {rt : Runtime} {db db' : Db}
    {input : MarkWorkflowExecutionFailedInput} {u : Unit} (hdb : db.Consistent)
    (h : markFailedRetryable rt input db = .ok (u, db')) : db.Rewrites db' := by
  have hmoved := (markFailedRetryable_moved h).2
  have hissued := Db.KeepsIssued.markFailedRetryable h
  obtain ⟨db₁, h₁, h⟩ := bind_eq_ok.mp h
  obtain ⟨db₂, h₂, h⟩ := bind_eq_ok.mp h
  obtain ⟨db₃, h₃, h⟩ := bind_eq_ok.mp h
  obtain ⟨-, rfl⟩ := Prod.mk.inj (Except.ok.inj h)
  have hsame := Db.SameIdentities.updateAssetVersion h₁ fun _ => rfl
  obtain ⟨t₁, -, rfl⟩ := write_eq_ok.mp h₁
  obtain ⟨t₂, -, rfl⟩ := write_eq_ok.mp h₂
  obtain ⟨t₃, -, rfl⟩ := write_eq_ok.mp h₃
  refine hmoved.rewrites hdb hissued ⟨hsame.versions, hsame.sessions⟩ ⟨rfl, rfl, rfl⟩ ⟨rfl, rfl⟩
    fun hstate => ?_
  rcases hstate with hstate | hstate <;> cases hstate

/-- A transaction that writes workflow runs and audit events only. -/
theorem Db.Consistent.rewrites_runs {db : Db} (hdb : db.Consistent) (runs : Table WorkflowRun)
    (events : Table AuditEvent) :
    db.Rewrites { db with workflowRuns := runs, auditEvents := events } where
  keeps := ⟨.of_tables rfl rfl rfl rfl rfl, id, List.prefix_rfl, rfl⟩
  identities := .of_tables rfl rfl
  asset? ha := ⟨_, ha, rfl, Or.inl rfl⟩
  lifecycle hv := hdb.lifecycle hv
  dispatch _ hd := Or.inl hd
  dispatched hrecorded := Or.inl hrecorded
  derivative d hd := Or.inl ⟨d, hd, rfl⟩
  manifest m hm := Or.inl ⟨m, hm, rfl, rfl⟩
  record hr := Or.inl hr

theorem Db.Consistent.rewrites_refl {db : Db} (hdb : db.Consistent) : db.Rewrites db :=
  hdb.rewrites_runs db.workflowRuns db.auditEvents

theorem markRunning_rewrites {db db' : Db} {input : MarkWorkflowExecutionRunningInput} {u : Unit}
    (hdb : db.Consistent) (h : markRunning input db = .ok (u, db')) : db.Rewrites db' := by
  obtain ⟨db₁, h₁, h⟩ := bind_eq_ok.mp h
  obtain ⟨db₂, h₂, h⟩ := bind_eq_ok.mp h
  obtain ⟨-, rfl⟩ := Prod.mk.inj (Except.ok.inj h)
  obtain ⟨t₁, -, rfl⟩ := write_eq_ok.mp h₁
  obtain ⟨t₂, -, rfl⟩ := write_eq_ok.mp h₂
  exact hdb.rewrites_runs t₁ t₂

theorem markCompleted_rewrites {db db' : Db} {input : MarkWorkflowExecutionCompletedInput}
    {u : Unit} (hdb : db.Consistent) (h : markCompleted input db = .ok (u, db')) :
    db.Rewrites db' := by
  obtain ⟨db₁, h₁, h⟩ := bind_eq_ok.mp h
  obtain ⟨db₂, h₂, h⟩ := bind_eq_ok.mp h
  obtain ⟨-, rfl⟩ := Prod.mk.inj (Except.ok.inj h)
  obtain ⟨t₁, -, rfl⟩ := write_eq_ok.mp h₁
  obtain ⟨t₂, -, rfl⟩ := write_eq_ok.mp h₂
  exact hdb.rewrites_runs t₁ t₂

/-- Every operation of one transaction issues a session, or rewrites the rows. -/
theorem RegistryOperation.rewrites (rt : Runtime) (op : RegistryOperation) {db : Db}
    (hdb : db.Consistent) :
    (∃ input ids now issued, op = .issueUploadSession input ids now ∧
      issueTransaction input ids now db = .ok (issued, op.run rt db)) ∨
      db.Rewrites (op.run rt db) := by
  have htransact : ∀ {α : Type} {tx : Transaction α},
      (∀ a db', tx db = .ok (a, db') → db.Rewrites db') → db.Rewrites (transact tx db).2 := by
    intro α tx htx
    rcases transact_snd tx db with ⟨a, ha⟩ | hsame
    · exact htx a _ ha
    · rw [hsame]
      exact hdb.rewrites_refl
  cases op with
  | issueUploadSession input ids now =>
      rcases transact_snd (issueTransaction input ids now) db with ⟨issued, hissued⟩ | hsame
      · exact Or.inl ⟨input, ids, now, issued, rfl, hissued⟩
      · right
        show db.Rewrites (transact (issueTransaction input ids now) db).2
        rw [hsame]
        exact hdb.rewrites_refl
  | beginPublication kind versionId =>
      right
      cases kind with
      | genericAsset => exact htransact fun _ _ h => PublicationStore.begin_rewrites hdb h
      | image => exact htransact fun _ _ h => PublicationStore.begin_rewrites hdb h
      | presentation => exact htransact fun _ _ h => PublicationStore.begin_rewrites hdb h
  | publishVersion kind versionId deliveryScopeId derivatives manifest =>
      right
      cases kind with
      | genericAsset =>
          exact htransact fun _ _ h =>
            PublicationStore.publish_rewrites genericAssetPublicationStore_readsSource hdb h
      | image =>
          exact htransact fun _ _ h => PublicationStore.publish_rewrites
            (fun _ _ => mapCanonicalSourceIdentity_recorded) hdb h
      | presentation =>
          exact htransact fun _ _ h => PublicationStore.publish_rewrites
            (fun _ _ => mapCanonicalSourceIdentity_recorded) hdb h
  | markRunning input => exact Or.inr (htransact fun _ _ h => markRunning_rewrites hdb h)
  | markCompleted input => exact Or.inr (htransact fun _ _ h => markCompleted_rewrites hdb h)
  | markFailedRetryable input =>
      exact Or.inr (htransact fun _ _ h => markFailedRetryable_rewrites hdb h)
  | operator step versionId =>
      exact Or.inr (htransact fun _ _ h => operatorTransaction_rewrites hdb h)

/-! ### Issuances -/

/-- The tables that an issuance leaves as they are. -/
theorem issueTransaction_others {input : RegistryIssueUploadSessionInput} {ids : IssueIds}
    {now : Instant} {db db' : Db} {issued : RegistryIssuedUploadSession}
    (h : issueTransaction input ids now db = .ok (issued, db')) :
    db'.workflowDispatches = db.workflowDispatches ∧ db'.derivatives = db.derivatives ∧
      db'.assetManifests = db.assetManifests ∧ db'.deliveryScopes = db.deliveryScopes := by
  obtain ⟨assetId, number, db₁, db₂, db₃, h₁, h₂, h₃, h₄⟩ := issueTransaction_cases h
  obtain ⟨t₄, -, rfl⟩ := write_eq_ok.mp h₄
  obtain ⟨t₃, -, rfl⟩ := write_eq_ok.mp h₃
  obtain ⟨t₂, -, rfl⟩ := write_eq_ok.mp h₂
  rcases h₁ with rfl | ⟨row, h₁⟩
  · exact ⟨rfl, rfl, rfl, rfl⟩
  · obtain ⟨t₁, -, rfl⟩ := write_eq_ok.mp h₁
    exact ⟨rfl, rfl, rfl, rfl⟩

/-- A new asset has a namespace and no current version. -/
theorem issueTransaction_assets {input : RegistryIssueUploadSessionInput} {ids : IssueIds}
    {now : Instant} {db db' : Db} {issued : RegistryIssuedUploadSession}
    (h : issueTransaction input ids now db = .ok (issued, db')) {id : String} {a : Asset}
    (ha : db'.asset? id = some a) :
    db.asset? id = some a ∨
      (db'.serviceNamespace? a.serviceNamespaceId).isSome ∧ a.currentCanonicalVersionId = none := by
  unfold issueTransaction at h
  split at h
  swap
  · cases h
  rename_i ns hns
  obtain ⟨⟨asset, db₁⟩, hasset, h⟩ := bind_eq_ok.mp h
  obtain ⟨db₂, h₂, h⟩ := bind_eq_ok.mp h
  obtain ⟨db₃, h₃, h⟩ := bind_eq_ok.mp h
  obtain ⟨db₄, h₄, h⟩ := bind_eq_ok.mp h
  obtain ⟨-, rfl⟩ := Prod.mk.inj (Except.ok.inj h)
  obtain ⟨t₄, -, rfl⟩ := write_eq_ok.mp h₄
  obtain ⟨t₃, -, rfl⟩ := write_eq_ok.mp h₃
  obtain ⟨t₂, -, rfl⟩ := write_eq_ok.mp h₂
  unfold issueAsset at hasset
  split at hasset
  · obtain ⟨db₁', h₁, hret⟩ := bind_eq_ok.mp hasset
    obtain ⟨rfl, rfl⟩ := Prod.mk.inj (Except.ok.inj hret)
    obtain ⟨t₁, ht₁, rfl⟩ := write_eq_ok.mp h₁
    obtain ⟨hmem, hid⟩ := Db.asset?_eq_some_iff.mp ha
    rcases (Table.mem_rows_insert ht₁ a).mp hmem with hold | rfl
    · exact Or.inl (Db.asset?_eq_some_iff.mpr ⟨hold, hid⟩)
    · have hfound : db.serviceNamespace? ns.id = some ns :=
        (Table.find?_key_eq_some_iff fun a b h => by simp [clash, h]).mpr
          ⟨Table.mem_of_find? hns, rfl⟩
      exact Or.inr ⟨Option.isSome_of_eq_some hfound, rfl⟩
  · obtain ⟨found, -, hret⟩ := bind_eq_ok.mp hasset
    obtain ⟨rfl, rfl⟩ := Prod.mk.inj (Except.ok.inj hret)
    exact Or.inl ha

/-- **An issuance keeps the rows consistent**: its session refers to its version, the version
to its asset, and its record to the three of them. -/
theorem Db.Consistent.issue {input : RegistryIssueUploadSessionInput} {ids : IssueIds}
    {now : Instant} {db db' : Db} {issued : RegistryIssuedUploadSession} (hdb : db.Consistent)
    (h : issueTransaction input ids now db = .ok (issued, db')) : db'.Consistent := by
  have hissued := Db.KeepsIssued.issueTransaction h
  obtain ⟨hgains, -, -⟩ := issueTransaction_rows h
  obtain ⟨hdispatches, hderivatives, hmanifests, hscopes⟩ := issueTransaction_others h
  have hversion : ∀ {id v'}, db'.version? id = some v' → db.version? id = some v' ∨
      v' = issuedVersion input ids issued.assetId (db.latestVersionNumber issued.assetId + 1) := by
    intro id v' hv'
    obtain ⟨hmem, hid⟩ := Db.version?_eq_some_iff.mp hv'
    rw [hgains.assetVersions] at hmem
    rcases List.mem_append.mp hmem with hold | hnew
    · exact Or.inl (Db.version?_eq_some_iff.mpr ⟨hold, hid⟩)
    · exact Or.inr (List.mem_singleton.mp hnew)
  have hold : ∀ {id v}, db.version? id = some v → db'.version? id = some v := by
    intro id v hv
    obtain ⟨hmem, hid⟩ := Db.version?_eq_some_iff.mp hv
    refine Db.version?_eq_some_iff.mpr ⟨?_, hid⟩
    rw [hgains.assetVersions]
    exact List.mem_append_left _ hmem
  have hnew : db'.version? ids.versionId =
      some (issuedVersion input ids issued.assetId
        (db.latestVersionNumber issued.assetId + 1)) := by
    refine Db.version?_eq_some_iff.mpr ⟨?_, rfl⟩
    rw [hgains.assetVersions]
    exact List.mem_append_right _ List.mem_cons_self
  have hsession : db'.uploadSession? ids.uploadSessionId = some (issuedSession input ids now) := by
    refine Db.uploadSession?_eq_some_iff.mpr ⟨?_, rfl⟩
    rw [hgains.uploadSessions]
    exact List.mem_append_right _ List.mem_cons_self
  have hkeeps : db.Keeps db' := by
    refine ⟨hissued, ?_, hdispatches ▸ List.prefix_rfl, hscopes⟩
    rintro id ⟨v, hv, hrecorded⟩
    exact ⟨v, hold hv, hrecorded⟩
  have hrecorded : ∀ {id}, db'.HasRecorded id → db.HasRecorded id := by
    rintro id ⟨v', hv', hsource⟩
    rcases hversion hv' with hv | rfl
    · exact ⟨v', hv, hsource⟩
    · cases hsource
  constructor
  · intro id s hs
    obtain ⟨hmem, hid⟩ := Db.uploadSession?_eq_some_iff.mp hs
    rw [hgains.uploadSessions] at hmem
    rcases List.mem_append.mp hmem with hmem | hmem
    · obtain ⟨v, hv⟩ := Option.isSome_iff_exists.mp
        (hdb.session (Db.uploadSession?_eq_some_iff.mpr ⟨hmem, hid⟩))
      exact Option.isSome_of_eq_some (hold hv)
    · obtain rfl := List.mem_singleton.mp hmem
      exact Option.isSome_of_eq_some hnew
  · intro id v' hv'
    rcases hversion hv' with hv | rfl
    · obtain ⟨a, ha⟩ := Option.isSome_iff_exists.mp (hdb.version hv)
      obtain ⟨a', ha', -⟩ := hissued.asset? ha
      exact Option.isSome_of_eq_some ha'
    · obtain ⟨a, ha, hid⟩ := hgains.asset
      exact Option.isSome_of_eq_some (Db.asset?_eq_some_iff.mpr ⟨ha, hid⟩)
  · intro id a ha
    rcases issueTransaction_assets h ha with ha | ⟨hnamespace, -⟩
    · rw [hkeeps.serviceNamespace?]
      exact hdb.asset ha
    · exact hnamespace
  · exact hdb.numbered.issue hgains
  · exact hdb.oneSession.issue hgains
  · intro id a versionId ha hcurrent
    rcases issueTransaction_assets h ha with ha | ⟨-, hnone⟩
    · obtain ⟨v, hv, hasset, hsource⟩ := hdb.current ha hcurrent
      exact ⟨v, hold hv, hasset, hsource⟩
    · rw [hnone] at hcurrent
      cases hcurrent
  · intro id v' hv' hstate
    rcases hversion hv' with hv | rfl
    · exact hdb.lifecycle hv hstate
    · rcases hstate with hstate | hstate <;> cases hstate
  · intro d hd
    rw [hdispatches] at hd
    exact (hdb.dispatch d hd).imp hkeeps.recorded hkeeps.workflowKeyOf
  · intro id hsource
    obtain ⟨d, hd, hkey⟩ := hdb.dispatched (hrecorded hsource)
    exact ⟨d, hdispatches ▸ hd, hkeeps.workflowKeyOf hkey⟩
  · intro d hd
    rw [hderivatives] at hd
    exact hkeeps.recorded (hdb.derivative d hd)
  · intro m hm
    rw [hmanifests] at hm
    exact (hdb.manifest m hm).imp hkeeps.recorded hkeeps.scopeOf
  · intro key r hr
    obtain ⟨hmem, hkey⟩ := Db.idempotencyRecord?_eq_some_iff.mp hr
    rw [hgains.idempotencyRecords] at hmem
    rcases List.mem_append.mp hmem with hmem | hmem
    · exact hkeeps.resolves (hdb.record (Db.idempotencyRecord?_eq_some_iff.mpr ⟨hmem, hkey⟩))
    · obtain rfl := List.mem_singleton.mp hmem
      subst hkey
      exact ⟨_, _, _, rfl, hsession, rfl, hnew, rfl, Or.inl rfl⟩

/-! ### The phases of a completion -/

/-- The statements of a completion leave the published rows and the delivery scopes as they
are. -/
theorem executeAll_published {ss : List CompletionStatement} {db db' : Db}
    (h : executeAll ss db = .ok db') :
    db'.derivatives = db.derivatives ∧ db'.assetManifests = db.assetManifests ∧
      db'.deliveryScopes = db.deliveryScopes := by
  induction ss generalizing db with
  | nil =>
      obtain rfl := Except.ok.inj h
      exact ⟨rfl, rfl, rfl⟩
  | cons s ss ih =>
      obtain ⟨db₁, hs, hss⟩ := executeAll_cons.mp h
      obtain ⟨hderivatives, hmanifests, hscopes⟩ := ih hss
      rw [hderivatives, hmanifests, hscopes]
      cases s <;>
        · obtain ⟨t, -, rfl⟩ := write_eq_ok.mp hs
          exact ⟨rfl, rfl, rfl⟩

section Phases

variable {rt : Runtime} {input : RegistryCompleteUploadSessionInput} {now : Instant} {db db' : Db}

/-- Statements that record no source, dispatch no workflow and name no current version. -/
theorem Db.Consistent.rewrites_executeAll {ss : List CompletionStatement} (hdb : db.Consistent)
    (hexec : executeAll ss db = .ok db')
    (hversion : ∀ id, db'.version? id = db.version? id ∨
      ∃ v v', db.version? id = some v ∧ db'.version? id = some v' ∧ v'.evidence = v.evidence ∧
        (v'.lifecycleState = .failedValidation ∨ v'.lifecycleState = .canonicalizing))
    (hdispatch : ss.filterMap CompletionStatement.newDispatch = [])
    (hasset : ∀ id a, ss.foldl (fun a s => s.onAsset id a) a = a)
    (hrecord : ∀ {row}, CompletionStatement.persistIdempotencyRecord row ∈ ss →
      db.Resolves row.operationKey row.responseReference) : db.Rewrites db' := by
  have hsame := Db.SameIdentities.executeAll hexec
  obtain ⟨hderivatives, hmanifests, hscopes⟩ := executeAll_published hexec
  have hdispatches : db'.workflowDispatches.rows = db.workflowDispatches.rows := by
    rw [executeAll_dispatches hexec, hdispatch, List.append_nil]
  have hsource : ∀ {v v' : AssetVersion}, v'.evidence = v.evidence →
      v'.canonicalSourceId = v.canonicalSourceId := fun h =>
    congrArg CanonicalEvidence.canonicalSourceId h
  have hrecorded : ∀ {id}, db'.HasRecorded id ↔ db.HasRecorded id := by
    intro id
    rcases hversion id with heq | ⟨v, v', hv, hv', hevidence, -⟩
    · simp only [Db.HasRecorded, heq]
    · simp only [Db.HasRecorded, hv, hv', Option.some.injEq, exists_eq_left', AssetVersion.Recorded,
        hsource hevidence]
  have hkeeps : db.Keeps db' := ⟨Db.KeepsIssued.executeAll hexec, hrecorded.mpr,
    hdispatches ▸ List.prefix_rfl, hscopes⟩
  refine ⟨hkeeps, hsame, ?_, ?_, ?_, fun h => Or.inl (hrecorded.mp h), ?_, ?_, ?_⟩
  · intro id a' ha'
    rw [executeAll_asset? hexec, Option.map_eq_some_iff] at ha'
    obtain ⟨a, ha, rfl⟩ := ha'
    rw [hasset]
    exact ⟨a, ha, rfl, Or.inl rfl⟩
  · intro id v' hv' hstate
    rcases hversion id with heq | ⟨v, w, hv, hw, hevidence, hmoved⟩
    · exact hdb.lifecycle (heq ▸ hv') hstate
    · obtain rfl := Option.some.inj (hv'.symm.trans hw)
      rcases hmoved with hmoved | hmoved <;> rw [hmoved] at hstate <;>
        rcases hstate with hstate | hstate <;> cases hstate
  · exact fun d hd => Or.inl (hdispatches ▸ hd)
  · exact fun d hd => Or.inl ⟨d, hderivatives ▸ hd, rfl⟩
  · exact fun m hm => Or.inl ⟨m, hmanifests ▸ hm, rfl, rfl⟩
  · intro key r hr
    rcases executeAll_idempotencyRecord? hexec hr with hold | ⟨row, hrow, rfl, href, -⟩
    · exact Or.inl hold
    · exact Or.inr (href ▸ hkeeps.resolves (hrecord hrow))

/-- The record of a replayed completion resolves. -/
theorem Db.Consistent.resolves_replay (hdb : db.Consistent) {row : CompletionReplayRow}
    {replay : RegistryCompletedUploadSession}
    (hrow : db.findUploadSession input.uploadSessionId = some row)
    (hreplay : tryBuildCompletionReplay row = some replay) :
    db.Resolves (completionIdempotencyRecord input now replay).operationKey
      (completionIdempotencyRecord input now replay).responseReference := by
  obtain ⟨hs, -, ha, -, -, hdispatch⟩ := Db.findUploadSession_eq_some.mp hrow
  have hv := Db.findUploadSession_version? hrow
  have hsid := Db.findUploadSession_id hrow
  obtain ⟨d, source, hd, hsource, rfl⟩ := tryBuildCompletionReplay_eq_some.mp hreplay
  have hmem : d ∈ db.dispatchesOf row.version.id := by
    rw [hdispatch] at hd
    exact List.mem_of_mem_head? hd
  obtain ⟨hd, hversion⟩ := List.mem_filter.mp hmem
  obtain ⟨⟨v, hv', hrecorded⟩, hkey⟩ := hdb.dispatch d hd
  rw [eq_of_beq hversion] at hkey hv'
  obtain rfl := Option.some.inj (hv.symm.trans hv')
  rw [← hsid] at hs
  exact ⟨_, row.uploadSession, row.version, rfl, hs,
    (Db.findUploadSession_version_id hrow).symm, hv, (Db.asset?_eq_some_iff.mp ha).2.symm,
    Or.inr ⟨rfl, hrecorded, d, hd, rfl, hkey⟩⟩

theorem Db.Consistent.rewrites_replay {α : Type} (hdb : db.Consistent) {row : CompletionReplayRow}
    {replay : RegistryCompletedUploadSession} {result : RegistryCompletedUploadSession → α}
    (hrow : db.findUploadSession input.uploadSessionId = some row)
    (hreplay : tryBuildCompletionReplay row = some replay)
    (hexec : Cdngine.executeAll (replayCompletion input now replay result).statements db =
      .ok db') :
    db.Rewrites db' := by
  refine hdb.rewrites_executeAll hexec (fun id => Or.inl ?_) rfl (fun _ _ => rfl)
    fun {record} hrecord => ?_
  · rw [executeAll_version? hexec]
    exact Option.map_id'
  · obtain rfl := CompletionStatement.persistIdempotencyRecord.inj (List.mem_singleton.mp hrecord)
    exact hdb.resolves_replay hrow hreplay

/-- **Phase one rewrites the rows.** -/
theorem Db.Consistent.rewrites_phaseOne {result : PhaseOneResult} (hdb : db.Consistent)
    (h : phaseOne input now db = .ok (result, db')) : db.Rewrites db' := by
  have hversion : ∀ id, db'.version? id = db.version? id ∨
      ∃ v v', db.version? id = some v ∧ db'.version? id = some v' ∧ v'.evidence = v.evidence ∧
        (v'.lifecycleState = .failedValidation ∨ v'.lifecycleState = .canonicalizing) := by
    intro id
    rcases (phaseOne_cases h).version? id with hsame | ⟨v, v', hv, hv', -, hmoved⟩
    · exact Or.inl hsame
    · exact Or.inr ⟨v, v', hv, hv', hmoved⟩
  cases phaseOne_cases h with
  | replay hrow _ hreplay hexec => exact hdb.rewrites_replay hrow hreplay hexec
  | validationFailure _ _ _ _ _ _ hexec =>
      exact hdb.rewrites_executeAll hexec hversion rfl (fun _ _ => rfl) fun hrecord => by
        simp [recordValidationFailure] at hrecord
  | request _ _ _ _ _ _ hexec =>
      exact hdb.rewrites_executeAll hexec hversion rfl (fun _ _ => rfl) fun hrecord => by
        simp [acceptCompletion] at hrecord

/-- The workflow key of a joined session is one of its version. -/
theorem Db.workflowKeyOf_row {row : CompletionReplayRow}
    (hrow : db.findUploadSession input.uploadSessionId = some row) :
    db.WorkflowKeyOf row.version.id (dispatchWorkflowKey input row) := by
  obtain ⟨-, -, ha, ⟨n, hn, hname⟩, -, -⟩ := Db.findUploadSession_eq_some.mp hrow
  refine ⟨row.version, row.asset, n, input.template, Db.findUploadSession_version? hrow, ha, hn, ?_⟩
  rw [dispatchWorkflowKey, hname, (Db.asset?_eq_some_iff.mp ha).2]

/-- **The dispatch of a completion**: the one there was under its workflow key, or a new one
for its version. The idempotency record of the completion names it. -/
theorem phaseTwoDispatch_row {source : SnapshotResult} {newDispatchId : String}
    {row : CompletionReplayRow}
    (hexec : Cdngine.executeAll (phaseTwoDispatch input source newDispatchId now row
      (db.findWorkflowDispatch (dispatchWorkflowKey input row))).statements db = .ok db') :
    ∃ d ∈ db'.workflowDispatches.rows, d.workflowKey = dispatchWorkflowKey input row ∧
      (∀ x ∈ db'.workflowDispatches.rows, x ∈ db.workflowDispatches.rows ∨
        x = d ∧ d.assetVersionId = row.version.id) ∧
      ∀ record, CompletionStatement.persistIdempotencyRecord record ∈
        (phaseTwoDispatch input source newDispatchId now row
          (db.findWorkflowDispatch (dispatchWorkflowKey input row))).statements →
        record.operationKey = buildCompletionOperationKey row.uploadSession.id ∧
        record.responseReference = some
          { assetId := row.asset.id
            uploadSessionId := row.uploadSession.id
            versionId := row.version.id
            workflowDispatchId := some d.id } := by
  have hrows := executeAll_dispatches hexec
  cases hexisting : db.findWorkflowDispatch (dispatchWorkflowKey input row) with
  | some existing =>
      rw [hexisting] at hrows
      have hsame : db'.workflowDispatches.rows = db.workflowDispatches.rows :=
        hrows.trans (List.append_nil _)
      refine ⟨existing, hsame ▸ Table.mem_of_find? hexisting,
        by simpa using Table.sel_of_find? hexisting, fun x hx => Or.inl (hsame ▸ hx), ?_⟩
      intro record hrecord
      simp only [phaseTwoDispatch, Option.isSome_some, if_true, List.nil_append, List.mem_cons,
        reduceCtorEq, CompletionStatement.persistIdempotencyRecord.injEq, List.not_mem_nil,
        or_false, false_or] at hrecord
      subst hrecord
      exact ⟨rfl, rfl⟩
  | none =>
      rw [hexisting] at hrows
      refine ⟨_, hrows ▸ List.mem_append_right _ List.mem_cons_self, rfl, fun x hx => ?_, ?_⟩
      · rw [hrows] at hx
        rcases List.mem_append.mp hx with hold | hnew
        · exact Or.inl hold
        · exact Or.inr ⟨List.mem_singleton.mp hnew, rfl⟩
      · intro record hrecord
        simp only [phaseTwoDispatch, Option.isSome_none, Bool.false_eq_true, if_false,
          List.singleton_append, List.mem_cons, reduceCtorEq,
          CompletionStatement.persistIdempotencyRecord.injEq, List.not_mem_nil, or_false,
          false_or] at hrecord
        subst hrecord
        exact ⟨rfl, rfl⟩

/-- The asset rows after the statements of phase two. -/
theorem phaseTwo_onAsset (source : SnapshotResult) (newDispatchId : String)
    (row : CompletionReplayRow) (existing : Option WorkflowDispatch) (id : String) (a : Asset) :
    (phaseTwoEvidence rt source row ++
      (phaseTwoDispatch input source newDispatchId now row existing).statements).foldl
        (fun a s => s.onAsset id a) a =
      if id = row.asset.id then { a with currentCanonicalVersionId := some row.version.id }
      else a := by
  cases existing <;> rfl

/-- **Phase two rewrites the rows**: the evidence, the current version, the dispatch and the
record that it writes refer to each other. -/
theorem Db.Consistent.rewrites_phaseTwo {source : SnapshotResult} {newDispatchId : String}
    {completed : RegistryCompletedUploadSession} (hdb : db.Consistent)
    (h : phaseTwo rt input source newDispatchId now db = .ok (completed, db')) :
    db.Rewrites db' := by
  cases phaseTwo_cases h with
  | replay hrow hreplay hexec => exact hdb.rewrites_replay hrow hreplay hexec
  | @canonical row _ db₁ _ hrow hreplay hstate hevidence hdispatch hcompleted =>
      obtain ⟨hs, -, ha, -, -, -⟩ := Db.findUploadSession_eq_some.mp hrow
      have hexec := executeAll_append.mpr ⟨db₁, hevidence, hdispatch⟩
      have hversion := phaseTwoStatements_version? hrow hevidence hdispatch
      obtain ⟨hderivatives, hmanifests, hscopes⟩ := executeAll_published hexec
      have hsource : db'.version? row.version.id =
          some (row.version.withEvidence (canonicalEvidence rt source)) := by
        rw [hversion, if_pos rfl]
      have hrecorded : (row.version.withEvidence (canonicalEvidence rt source)).Recorded := rfl
      have hother : ∀ {id}, id ≠ row.version.id → db'.version? id = db.version? id := by
        intro id hne
        rw [hversion, if_neg hne]
      have hkeeps : db.Keeps db' := by
        refine ⟨.executeAll hexec, ?_, (phaseTwo_cases h).dispatches, hscopes⟩
        rintro id ⟨v, hv, hsource'⟩
        by_cases hid : id = row.version.id
        · exact ⟨_, hid ▸ hsource, hrecorded⟩
        · exact ⟨v, (hother hid).trans hv, hsource'⟩
      have hkey := hkeeps.workflowKeyOf (Db.workflowKeyOf_row hrow)
      have hdb₁ : db₁.workflowDispatches.rows = db.workflowDispatches.rows :=
        (executeAll_dispatches hevidence).trans (List.append_nil _)
      obtain ⟨d, hd, hdkey, hdispatches, hrecords⟩ := phaseTwoDispatch_row hdispatch
      have hasset : row.version.assetId = row.asset.id := (Db.asset?_eq_some_iff.mp ha).2.symm
      refine ⟨hkeeps, .executeAll hexec, ?_, ?_, ?_, ?_, ?_, ?_, ?_⟩
      · intro id a' ha'
        rw [executeAll_asset? hexec, Option.map_eq_some_iff] at ha'
        obtain ⟨a, ha₀, rfl⟩ := ha'
        rw [phaseTwo_onAsset]
        by_cases hid : id = row.asset.id
        · rw [if_pos hid]
          exact ⟨a, ha₀, rfl, Or.inr ⟨_, _, rfl, hsource, hasset.trans hid.symm, hrecorded⟩⟩
        · rw [if_neg hid]
          exact ⟨a, ha₀, rfl, Or.inl rfl⟩
      · intro id v' hv' hlifecycle
        by_cases hid : id = row.version.id
        · rw [hid, hsource] at hv'
          obtain rfl := Option.some.inj hv'
          exact hrecorded
        · rw [hother hid] at hv'
          exact hdb.lifecycle hv' hlifecycle
      · intro x hx
        rcases hdispatches x hx with hold | ⟨rfl, hxversion⟩
        · exact Or.inl (hdb₁ ▸ hold)
        · rw [hxversion, hdkey]
          exact Or.inr ⟨⟨_, hsource, hrecorded⟩, hkey⟩
      · rintro id ⟨v', hv', hsource'⟩
        by_cases hid : id = row.version.id
        · rw [hid]
          exact Or.inr ⟨d, hd, hdkey ▸ hkey⟩
        · rw [hother hid] at hv'
          exact Or.inl ⟨v', hv', hsource'⟩
      · exact fun d hd => Or.inl ⟨d, hderivatives ▸ hd, rfl⟩
      · exact fun m hm => Or.inl ⟨m, hmanifests ▸ hm, rfl, rfl⟩
      · intro key r hr
        rcases executeAll_idempotencyRecord? hexec hr with hold | ⟨record, hrecord, rfl, href, -⟩
        · exact Or.inl hold
        · have hmem : CompletionStatement.persistIdempotencyRecord record ∈
              (phaseTwoDispatch input source newDispatchId now row
                (db₁.findWorkflowDispatch (dispatchWorkflowKey input row))).statements := by
            rcases List.mem_append.mp hrecord with hrecord | hrecord
            · simp [phaseTwoEvidence] at hrecord
            · exact hrecord
          obtain ⟨hoperation, hreference⟩ := hrecords record hmem
          obtain ⟨s', hs', hsversion, -⟩ := hkeeps.issued.uploadSession? hs
          rw [← Db.findUploadSession_id hrow] at hs'
          rw [href, hreference]
          exact Or.inr ⟨_, s', _, rfl, hs',
            hsversion.trans (Db.findUploadSession_version_id hrow).symm, hsource, hasset,
            Or.inr ⟨hoperation, hrecorded, d, hd, rfl, hdkey ▸ hkey⟩⟩

end Phases

/-- The `catch` of a completion rewrites the rows. -/
theorem Db.Consistent.rewrites_recover {db : Db} (hdb : db.Consistent)
    (input : RegistryCompleteUploadSessionInput) (versionId : String) (cause : RegistryError) :
    db.Rewrites (recoverFailedCompletion input versionId cause db).2 := by
  have hissued := Db.KeepsIssued.recoverFailedCompletion input versionId cause db
  unfold recoverFailedCompletion at hissued ⊢
  split
  · rename_i db' happly
    rw [happly] at hissued
    have hmoved := Db.updateAssetVersion_moved happly
    have hsame := Db.SameIdentities.apply happly
    obtain ⟨t, -, rfl⟩ := write_eq_ok.mp happly
    refine hmoved.rewrites hdb hissued hsame ⟨rfl, rfl, rfl⟩ ⟨rfl, rfl⟩ fun hstate => ?_
    rcases hstate with hstate | hstate <;> cases hstate
  · exact hdb.rewrites_refl

/-! ### Runs -/

/-- The transaction that a step runs on the database: none, an operation, or a piece of a
completion in flight. -/
inductive RegistrySystem.Transacts (rt : Runtime) (sys : RegistrySystem) :
    RegistryAction → Db → Prop
  | none (a : RegistryAction) : Transacts rt sys a sys.db
  | operation (op : RegistryOperation) : Transacts rt sys (.operation op) (op.run rt sys.db)
  | phaseOne {i : Nat} {now : Instant} {c : PendingCompletion} {result : PhaseOneResult} {db' : Db}
      (hc : sys.completions[i]? = some c)
      (h : Cdngine.phaseOne c.input now sys.db = .ok (result, db')) :
      Transacts rt sys (.phaseOne i now) db'
  | phaseTwo {i : Nat} {newDispatchId : String} {now : Instant} {c : PendingCompletion}
      {request : RegistryCanonicalizationRequest} {source : SnapshotResult}
      {completed : RegistryCompletedUploadSession} {db' : Db} (hc : sys.completions[i]? = some c)
      (hprogress : c.progress = .snapshotted request source)
      (h : Cdngine.phaseTwo rt c.input source newDispatchId now sys.db = .ok (completed, db')) :
      Transacts rt sys (.phaseTwo i newDispatchId now) db'
  | recover {i : Nat} {c : PendingCompletion} {request : RegistryCanonicalizationRequest}
      {cause : RegistryError} (hc : sys.completions[i]? = some c)
      (hprogress : c.progress = .failed request cause) :
      Transacts rt sys (.recover i)
        (recoverFailedCompletion c.input request.versionId cause sys.db).2

/-- **Inversion of a step**, as far as the database goes. -/
theorem RegistryStep.transacts {rt : Runtime} {sys sys' : RegistrySystem} {a : RegistryAction}
    (h : RegistryStep rt sys a sys') : sys.Transacts rt a sys'.db := by
  cases a with
  | operation op =>
      obtain rfl := Option.some.inj h
      exact .operation op
  | complete input =>
      obtain rfl := Option.some.inj h
      unfold RegistrySystem.complete
      split <;> exact .none _
  | phaseOne i now =>
      obtain ⟨c, hc, h⟩ := Option.bind_eq_some_iff.mp h
      split at h
      · obtain rfl := Option.some.inj h
        unfold RegistrySystem.phaseOne
        split
        · rename_i hone
          exact .phaseOne hc hone
        · exact .none _
      · cases h
  | canonicalize i result =>
      obtain ⟨c, hc, h⟩ := Option.bind_eq_some_iff.mp h
      split at h
      · obtain rfl := Option.some.inj h
        exact .none _
      · obtain rfl := Option.some.inj h
        exact .none _
      · cases h
  | phaseTwo i newDispatchId now =>
      obtain ⟨c, hc, h⟩ := Option.bind_eq_some_iff.mp h
      split at h
      · rename_i hprogress
        obtain rfl := Option.some.inj h
        unfold RegistrySystem.phaseTwo
        split
        · rename_i htwo
          exact .phaseTwo hc hprogress htwo
        · exact .none _
      · cases h
  | recover i =>
      obtain ⟨c, hc, h⟩ := Option.bind_eq_some_iff.mp h
      split at h
      · rename_i hprogress
        obtain rfl := Option.some.inj h
        exact .recover hc hprogress
      · cases h
  | stop i =>
      obtain ⟨c, hc, h⟩ := Option.bind_eq_some_iff.mp h
      split at h
      · cases h
      · cases h
      · obtain rfl := Option.some.inj h
        exact .none _

/-- **Every step of the registry** issues a session, or rewrites the rows. -/
theorem RegistrySystem.Transacts.rewrites {rt : Runtime} {sys : RegistrySystem} {a : RegistryAction}
    {db' : Db} (h : sys.Transacts rt a db') (hdb : sys.db.Consistent) :
    (∃ input ids now issued, a = .operation (.issueUploadSession input ids now) ∧
      issueTransaction input ids now sys.db = .ok (issued, db')) ∨ sys.db.Rewrites db' := by
  cases h with
  | none => exact Or.inr hdb.rewrites_refl
  | operation op =>
      rcases op.rewrites rt hdb with ⟨input, ids, now, issued, rfl, htx⟩ | hrewrites
      · exact Or.inl ⟨input, ids, now, issued, rfl, htx⟩
      · exact Or.inr hrewrites
  | phaseOne _ h => exact Or.inr (hdb.rewrites_phaseOne h)
  | phaseTwo _ _ h => exact Or.inr (hdb.rewrites_phaseTwo h)
  | recover _ _ => exact Or.inr (hdb.rewrites_recover _ _ _)

/-- **Every step keeps the rows consistent.** -/
theorem RegistryStep.consistent {rt : Runtime} {sys sys' : RegistrySystem} {a : RegistryAction}
    (h : RegistryStep rt sys a sys') (hdb : sys.db.Consistent) : sys'.db.Consistent := by
  rcases (RegistryStep.transacts h).rewrites hdb with ⟨input, ids, now, issued, -, htx⟩ | hrewrites
  · exact hdb.issue htx
  · exact hdb.rewrite hrewrites

/-- A registry that no asset has been uploaded to. -/
structure Db.Unused (db : Db) : Prop where
  assets : db.assets.rows = []
  versions : db.assetVersions.rows = []
  sessions : db.uploadSessions.rows = []
  records : db.idempotencyRecords.rows = []
  dispatches : db.workflowDispatches.rows = []
  derivatives : db.derivatives.rows = []
  manifests : db.assetManifests.rows = []

theorem Db.Unused.consistent {db : Db} (h : db.Unused) : db.Consistent where
  session hs := by simp [Db.uploadSession?, Table.find?, h.sessions] at hs
  version hv := by simp [Db.version?, Table.find?, h.versions] at hv
  asset ha := by simp [Db.asset?, Table.find?, h.assets] at ha
  numbered assetId := ⟨0, by simp [Db.versionNumbers, h.versions]⟩
  oneSession v hv := by simp [h.versions] at hv
  current ha := by simp [Db.asset?, Table.find?, h.assets] at ha
  lifecycle hv := by simp [Db.version?, Table.find?, h.versions] at hv
  dispatch d hd := by simp [h.dispatches] at hd
  dispatched hrecorded := by
    obtain ⟨v, hv, -⟩ := hrecorded
    simp [Db.version?, Table.find?, h.versions] at hv
  derivative d hd := by simp [h.derivatives] at hd
  manifest m hm := by simp [h.manifests] at hm
  record hr := by simp [Db.idempotencyRecord?, Table.find?, h.records] at hr

/-- **The rows of the registry agree** in every state that it reaches, whatever the calls,
their order, and the points at which their processes stop. The steps are whole transactions, one
after the other; a completion may stop between its two. -/
theorem registry_consistent {rt : Runtime} {sys₀ sys : RegistrySystem}
    {tr : List (Transition RegistrySystem RegistryAction)} (hunused : sys₀.db.Unused)
    (h : Run (RegistryStep rt) sys₀ tr sys) : sys.db.Consistent :=
  h.invariant (I := fun sys => sys.db.Consistent)
    (fun hdb hstep => RegistryStep.consistent hstep hdb)
    hunused.consistent

/-- The sample session, completed and published. -/
def publishedActions : List RegistryAction :=
  completeActions ++ [.operation (.beginPublication .genericAsset "version-a"),
    .operation (.publishVersion .genericAsset "version-a" "scope-1" [] samplePublishedManifest)]

/-- The rows agree after the sample session was completed and published. -/
theorem published_sample_consistent :
    ∃ tr sys, Run (RegistryStep sampleRuntime) sampleRegistrySystem tr sys ∧
      sys.db.assetManifests.rows ≠ [] ∧ sys.db.Consistent := by
  obtain ⟨tr, sys, hrun, hmanifest⟩ := exists_run_of_exec (RegistrySystem.next sampleRuntime)
    sampleRegistrySystem publishedActions
    (fun _ sys => sys.db.assetManifests.rows.isEmpty = false) (by decide +kernel)
  exact ⟨tr, sys, hrun, List.isEmpty_eq_false_iff.mp hmanifest,
    registry_consistent ⟨rfl, rfl, rfl, rfl, rfl, rfl, rfl⟩ hrun⟩

end Cdngine
