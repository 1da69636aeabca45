import Cdngine.Lifecycle

/-!
# What an Issuance Leaves for Good

An issuance writes a session, its version and, where it names none, their asset. Which
version a session is for, when it expires, which asset a version belongs to, what the
client declared for its bytes, and the namespace and tenant of an asset are never written
again: every statement of a completion, every transaction of the publication and execution
stores and every operator step keeps them (`Db.KeepsIssued`).

## Main results

* `Db.KeepsIssued.operation`, `Db.KeepsIssued.phaseOne`, `Db.KeepsIssued.phaseTwo`: each
  transaction of the registry keeps what was issued.
* `RegistryStep.keepsIssued`, `Run.keepsIssued`: so do the steps and the runs.
-/

open Relational Runs

namespace Cdngine

/-! ### What is declared -/

/-- The length and the checksum that a client declares for the bytes it is going to
upload. -/
structure SourceDeclaration where
  byteLength : Int
  checksum : ObjectChecksum
  deriving DecidableEq, Repr

/-- The declaration that a version stores. -/
def AssetVersion.declaration (v : AssetVersion) : SourceDeclaration where
  byteLength := v.sourceByteLength
  checksum := ⟨v.sourceChecksumAlgorithm, v.sourceChecksumValue⟩

/-- The declaration of an issuance. -/
def RegistryIssueUploadSessionInput.declaration (input : RegistryIssueUploadSessionInput) :
    SourceDeclaration where
  byteLength := input.byteLength
  checksum := input.checksum

/-! ### The rows that an issuance leaves -/

/-- What an issuance writes stays what it is: a session keeps its version and its expiry,
a version its asset and its declaration, and an asset its namespace and tenant. -/
structure Db.KeepsIssued (db db' : Db) : Prop where
  uploadSession? : ∀ {id s}, db.uploadSession? id = some s →
    ∃ s', db'.uploadSession? id = some s' ∧ s'.assetVersionId = s.assetVersionId ∧
      s'.expiresAt = s.expiresAt
  version? : ∀ {id v}, db.version? id = some v →
    ∃ v', db'.version? id = some v' ∧ v'.assetId = v.assetId ∧ v'.declaration = v.declaration
  asset? : ∀ {id a}, db.asset? id = some a →
    ∃ a', db'.asset? id = some a' ∧ a'.serviceNamespaceId = a.serviceNamespaceId ∧
      a'.tenantScopeId = a.tenantScopeId
  serviceNamespaces : db'.serviceNamespaces = db.serviceNamespaces
  tenantScopes : db'.tenantScopes = db.tenantScopes

namespace Db.KeepsIssued

variable {db db' db₁ db₂ db₃ : Db}

/-- A write to any other table keeps what was issued. -/
theorem of_tables (hsessions : db'.uploadSessions = db.uploadSessions)
    (hversions : db'.assetVersions = db.assetVersions) (hassets : db'.assets = db.assets)
    (hnamespaces : db'.serviceNamespaces = db.serviceNamespaces)
    (htenants : db'.tenantScopes = db.tenantScopes) : db.KeepsIssued db' where
  uploadSession? {_ s} hs := ⟨s, by rw [Db.uploadSession?, hsessions]; exact hs, rfl, rfl⟩
  version? {_ v} hv := ⟨v, by rw [Db.version?, hversions]; exact hv, rfl, rfl⟩
  asset? {_ a} ha := ⟨a, by rw [Db.asset?, hassets]; exact ha, rfl, rfl⟩
  serviceNamespaces := hnamespaces
  tenantScopes := htenants

/-- What was issued is kept where nothing happens. -/
theorem refl (db : Db) : db.KeepsIssued db := of_tables rfl rfl rfl rfl rfl

/-- One step after another keeps what was issued. -/
theorem trans (h₁ : db₁.KeepsIssued db₂) (h₂ : db₂.KeepsIssued db₃) : db₁.KeepsIssued db₃ where
  uploadSession? hs := by
    obtain ⟨s₂, hs₂, hversion₂, hexpiry₂⟩ := h₁.uploadSession? hs
    obtain ⟨s₃, hs₃, hversion₃, hexpiry₃⟩ := h₂.uploadSession? hs₂
    exact ⟨s₃, hs₃, hversion₃.trans hversion₂, hexpiry₃.trans hexpiry₂⟩
  version? hv := by
    obtain ⟨v₂, hv₂, hasset₂, hdeclared₂⟩ := h₁.version? hv
    obtain ⟨v₃, hv₃, hasset₃, hdeclared₃⟩ := h₂.version? hv₂
    exact ⟨v₃, hv₃, hasset₃.trans hasset₂, hdeclared₃.trans hdeclared₂⟩
  asset? ha := by
    obtain ⟨a₂, ha₂, hnamespace₂, htenant₂⟩ := h₁.asset? ha
    obtain ⟨a₃, ha₃, hnamespace₃, htenant₃⟩ := h₂.asset? ha₂
    exact ⟨a₃, ha₃, hnamespace₃.trans hnamespace₂, htenant₃.trans htenant₂⟩
  serviceNamespaces := h₂.serviceNamespaces.trans h₁.serviceNamespaces
  tenantScopes := h₂.tenantScopes.trans h₁.tenantScopes

/-- A new asset keeps what was issued. -/
theorem createAsset {row : Asset} (h : db.createAsset row = .ok db') : db.KeepsIssued db' := by
  obtain ⟨t, ht, rfl⟩ := write_eq_ok.mp h
  have hassets : ∀ {id a}, db.asset? id = some a → t.find? (fun r => r.id == id) = some a := by
    intro id a ha
    rw [Table.find?_insert ht]
    simp only [Db.asset?] at ha
    rw [ha]
    rfl
  exact ⟨fun {_ s} hs => ⟨s, hs, rfl, rfl⟩, fun {_ v} hv => ⟨v, hv, rfl, rfl⟩,
    fun {_ a} ha => ⟨a, hassets ha, rfl, rfl⟩, rfl, rfl⟩

/-- A new current version keeps what was issued: it is another column of the asset. -/
theorem setCurrentCanonicalVersion {assetId versionId : String}
    (h : (CompletionStatement.setCurrentCanonicalVersion assetId versionId).apply db = .ok db') :
    db.KeepsIssued db' := by
  obtain ⟨t, ht, rfl⟩ := write_eq_ok.mp h
  refine ⟨fun {_ s} hs => ⟨s, hs, rfl, rfl⟩, fun {_ v} hv => ⟨v, hv, rfl, rfl⟩,
    fun {id a} ha => ?_, rfl, rfl⟩
  have hfind := Table.find?_update_key ht (fun _ => rfl) id
  simp only [Db.asset?] at ha ⊢
  rw [ha, Option.map_some] at hfind
  refine ⟨_, hfind, ?_⟩
  split <;> exact ⟨rfl, rfl⟩

/-- A new version keeps what was issued. -/
theorem createAssetVersion {row : AssetVersion} (h : db.createAssetVersion row = .ok db') :
    db.KeepsIssued db' := by
  have hversion := Db.version?_createAssetVersion h
  obtain ⟨t, -, rfl⟩ := write_eq_ok.mp h
  exact ⟨fun {_ s} hs => ⟨s, hs, rfl, rfl⟩,
    fun {id v} hv => ⟨v, by rw [hversion id, hv]; rfl, rfl, rfl⟩,
      fun {_ a} ha => ⟨a, ha, rfl, rfl⟩, rfl, rfl⟩

/-- A new session keeps what was issued. -/
theorem createUploadSession {row : UploadSession} (h : db.createUploadSession row = .ok db') :
    db.KeepsIssued db' := by
  have hsession := Db.uploadSession?_createUploadSession h
  obtain ⟨t, -, rfl⟩ := write_eq_ok.mp h
  exact ⟨fun {id s} hs => ⟨s, by rw [hsession id, hs]; rfl, rfl, rfl⟩,
    fun {_ v} hv => ⟨v, hv, rfl, rfl⟩, fun {_ a} ha => ⟨a, ha, rfl, rfl⟩, rfl, rfl⟩

/-- A change of a version keeps what was issued, if it leaves the id, the asset and the
declaration. -/
theorem updateAssetVersion {id : String} {data : AssetVersion → AssetVersion}
    (h : db.updateAssetVersion id data = .ok db') (hid : ∀ r, (data r).id = r.id)
    (hkept : ∀ r, (data r).assetId = r.assetId ∧ (data r).declaration = r.declaration) :
    db.KeepsIssued db' := by
  have hversion := Db.version?_updateAssetVersion h hid
  obtain ⟨t, -, rfl⟩ := write_eq_ok.mp h
  refine ⟨fun {_ s} hs => ⟨s, hs, rfl, rfl⟩, fun {x v} hv => ?_,
    fun {_ a} ha => ⟨a, ha, rfl, rfl⟩, rfl, rfl⟩
  refine ⟨_, (hversion x).trans (by rw [hv, Option.map_some]), ?_⟩
  split
  · exact hkept v
  · exact ⟨rfl, rfl⟩

/-- A change of a session keeps what was issued, if it leaves the id, the version and the expiry.
-/
theorem updateUploadSession {id : String} {data : UploadSession → UploadSession}
    (h : db.updateUploadSession id data = .ok db') (hid : ∀ r, (data r).id = r.id)
    (hkept : ∀ r, (data r).assetVersionId = r.assetVersionId ∧ (data r).expiresAt = r.expiresAt) :
    db.KeepsIssued db' := by
  have hsession := Db.uploadSession?_updateUploadSession h hid
  obtain ⟨t, -, rfl⟩ := write_eq_ok.mp h
  refine ⟨fun {x s} hs => ?_, fun {_ v} hv => ⟨v, hv, rfl, rfl⟩,
    fun {_ a} ha => ⟨a, ha, rfl, rfl⟩, rfl, rfl⟩
  refine ⟨_, (hsession x).trans (by rw [hs, Option.map_some]), ?_⟩
  split
  · exact hkept s
  · exact ⟨rfl, rfl⟩

/-- A transaction keeps what was issued when its commit does. -/
theorem of_transact {α : Type} {tx : Transaction α}
    (h : ∀ a db', tx db = .ok (a, db') → db.KeepsIssued db') :
    db.KeepsIssued (transact tx db).2 := by
  rcases transact_snd tx db with ⟨a, ha⟩ | hsame
  · exact h a _ ha
  · rw [hsame]
    exact refl db

/-! #### The transactions -/

/-- Every statement of a completion keeps what was issued. -/
theorem apply {s : CompletionStatement} (h : s.apply db = .ok db') : db.KeepsIssued db' := by
  cases s with
  | expireUploadSession _ => exact updateUploadSession h (fun _ => rfl) fun _ => ⟨rfl, rfl⟩
  | failUploadSession _ _ => exact updateUploadSession h (fun _ => rfl) fun _ => ⟨rfl, rfl⟩
  | markUploaded _ _ _ => exact updateUploadSession h (fun _ => rfl) fun _ => ⟨rfl, rfl⟩
  | failVersionValidation _ => exact updateAssetVersion h (fun _ => rfl) fun _ => ⟨rfl, rfl⟩
  | startCanonicalizing _ _ => exact updateAssetVersion h (fun _ => rfl) fun _ => ⟨rfl, rfl⟩
  | recordEvidence _ _ => exact updateAssetVersion h (fun _ => rfl) fun _ => ⟨rfl, rfl⟩
  | failRetryable _ => exact updateAssetVersion h (fun _ => rfl) fun _ => ⟨rfl, rfl⟩
  | setCurrentCanonicalVersion _ _ => exact setCurrentCanonicalVersion h
  | _ =>
      obtain ⟨t, -, rfl⟩ := write_eq_ok.mp h
      exact of_tables rfl rfl rfl rfl rfl

/-- The statements of a completion keep what was issued. -/
theorem executeAll {ss : List CompletionStatement} (h : executeAll ss db = .ok db') :
    db.KeepsIssued db' := by
  induction ss generalizing db with
  | nil =>
      obtain rfl := Except.ok.inj h
      exact refl db
  | cons s ss ih =>
      obtain ⟨db₁, hs, hss⟩ := executeAll_cons.mp h
      exact (apply hs).trans (ih hss)

/-- Phase one keeps what was issued. -/
theorem phaseOne {input : RegistryCompleteUploadSessionInput} {now : Instant}
    {result : PhaseOneResult} (h : phaseOne input now db = .ok (result, db')) :
    db.KeepsIssued db' := by
  cases phaseOne_cases h with
  | replay _ _ _ hexec => exact executeAll hexec
  | validationFailure _ _ _ _ _ _ hexec => exact executeAll hexec
  | request _ _ _ _ _ _ hexec => exact executeAll hexec

/-- Phase two keeps what was issued. -/
theorem phaseTwo {rt : Runtime} {input : RegistryCompleteUploadSessionInput}
    {source : SnapshotResult} {newDispatchId : String} {now : Instant}
    {completed : RegistryCompletedUploadSession}
    (h : phaseTwo rt input source newDispatchId now db = .ok (completed, db')) :
    db.KeepsIssued db' := by
  cases phaseTwo_cases h with
  | replay _ _ hexec => exact executeAll hexec
  | canonical _ _ _ hevidence hdispatch _ =>
      exact (executeAll hevidence).trans (executeAll hdispatch)

/-- The recovery of a failed completion keeps what was issued. -/
theorem recoverFailedCompletion (input : RegistryCompleteUploadSessionInput) (versionId : String)
    (cause : RegistryError) (db : Db) :
    db.KeepsIssued (recoverFailedCompletion input versionId cause db).2 := by
  unfold Cdngine.recoverFailedCompletion
  split
  · rename_i happly
    exact apply happly
  · exact refl db

/-- **A later issuance** keeps what was issued. -/
theorem issueTransaction {input : RegistryIssueUploadSessionInput} {ids : IssueIds} {now : Instant}
    {issued : RegistryIssuedUploadSession}
    (h : issueTransaction input ids now db = .ok (issued, db')) : db.KeepsIssued db' := by
  obtain ⟨assetId, number, db₁, db₂, db₃, h₁, h₂, h₃, h₄⟩ := issueTransaction_cases h
  have hasset : db.KeepsIssued db₁ := by
    rcases h₁ with rfl | ⟨row, h₁⟩
    · exact refl _
    · exact createAsset h₁
  have hrecord : db₃.KeepsIssued db' := by
    obtain ⟨t, -, rfl⟩ := write_eq_ok.mp h₄
    exact of_tables rfl rfl rfl rfl rfl
  exact hasset.trans ((createAssetVersion h₂).trans ((createUploadSession h₃).trans hrecord))

section Publication

variable {ε : Type} {store : PublicationStore ε}

/-- The begin of a publication keeps what was issued. -/
theorem begin {versionId : String} {record : CanonicalVersionRecord ε}
    (h : store.begin versionId db = .ok (record, db')) : db.KeepsIssued db' := by
  obtain ⟨row, -, -, hdb, -⟩ := PublicationStore.begin_cases h
  unfold PublicationStore.startProcessing at hdb
  split at hdb
  · obtain rfl := Except.ok.inj hdb
    exact refl db
  · exact updateAssetVersion hdb (fun _ => rfl) fun _ => ⟨rfl, rfl⟩

/-- The publication of a version keeps what was issued. -/
theorem publish {rt : Runtime} {versionId deliveryScopeId : String}
    {derivatives : List PublishedDerivativeRecord} {manifest : PublishedManifestRecord}
    {record : CanonicalVersionRecord ε}
    (h : store.publish rt versionId deliveryScopeId derivatives manifest db = .ok (record, db')) :
    db.KeepsIssued db' := by
  obtain ⟨row, -, -, -, -, db₁, db₂, h₁, h₂, h₃⟩ := PublicationStore.publish_cases h
  have hrows : db.KeepsIssued db₂ := by
    obtain ⟨t₁, rfl⟩ := PublicationStore.upsertDerivatives_frame h₁
    obtain ⟨t₂, -, rfl⟩ := write_eq_ok.mp h₂
    exact of_tables rfl rfl rfl rfl rfl
  exact hrows.trans (updateAssetVersion h₃ (fun _ => rfl) fun _ => ⟨rfl, rfl⟩)

end Publication

/-- An operator keeps what was issued. -/
theorem operatorTransaction {step : OperatorStep} {versionId : String} {u : Unit}
    (h : operatorTransaction step versionId db = .ok (u, db')) : db.KeepsIssued db' := by
  unfold Cdngine.operatorTransaction at h
  split at h
  · cases h
  · split at h
    · obtain ⟨db₁, h₁, h⟩ := bind_eq_ok.mp h
      obtain ⟨-, rfl⟩ := Prod.mk.inj (Except.ok.inj h)
      exact updateAssetVersion h₁ (fun _ => rfl) fun _ => ⟨rfl, rfl⟩
    · cases h

/-- A failed workflow keeps what was issued. -/
theorem markFailedRetryable {rt : Runtime} {input : MarkWorkflowExecutionFailedInput} {u : Unit}
    (h : markFailedRetryable rt input db = .ok (u, db')) : db.KeepsIssued db' := by
  obtain ⟨db₁, h₁, h⟩ := bind_eq_ok.mp h
  obtain ⟨db₂, h₂, h⟩ := bind_eq_ok.mp h
  obtain ⟨db₃, h₃, h⟩ := bind_eq_ok.mp h
  obtain ⟨-, rfl⟩ := Prod.mk.inj (Except.ok.inj h)
  have hversion := updateAssetVersion h₁ (fun _ => rfl) fun _ => ⟨rfl, rfl⟩
  obtain ⟨t₂, -, rfl⟩ := write_eq_ok.mp h₂
  obtain ⟨t₃, -, rfl⟩ := write_eq_ok.mp h₃
  exact hversion.trans (of_tables rfl rfl rfl rfl rfl)

/-- Every operation of one transaction keeps what was issued. -/
theorem operation (rt : Runtime) (op : RegistryOperation) (db : Db) :
    db.KeepsIssued (op.run rt db) := by
  cases op with
  | issueUploadSession input ids now => exact of_transact fun _ _ h => issueTransaction h
  | beginPublication kind versionId =>
      cases kind with
      | genericAsset => exact of_transact fun _ _ h => begin h
      | image => exact of_transact fun _ _ h => begin h
      | presentation => exact of_transact fun _ _ h => begin h
  | publishVersion kind versionId deliveryScopeId derivatives manifest =>
      cases kind with
      | genericAsset => exact of_transact fun _ _ h => publish h
      | image => exact of_transact fun _ _ h => publish h
      | presentation => exact of_transact fun _ _ h => publish h
  | markRunning input =>
      refine of_transact fun _ _ h => ?_
      obtain ⟨db₁, h₁, h⟩ := bind_eq_ok.mp h
      obtain ⟨db₂, h₂, h⟩ := bind_eq_ok.mp h
      obtain ⟨-, rfl⟩ := Prod.mk.inj (Except.ok.inj h)
      obtain ⟨t₁, -, rfl⟩ := write_eq_ok.mp h₁
      obtain ⟨t₂, -, rfl⟩ := write_eq_ok.mp h₂
      exact of_tables rfl rfl rfl rfl rfl
  | markCompleted input =>
      refine of_transact fun _ _ h => ?_
      obtain ⟨db₁, h₁, h⟩ := bind_eq_ok.mp h
      obtain ⟨db₂, h₂, h⟩ := bind_eq_ok.mp h
      obtain ⟨-, rfl⟩ := Prod.mk.inj (Except.ok.inj h)
      obtain ⟨t₁, -, rfl⟩ := write_eq_ok.mp h₁
      obtain ⟨t₂, -, rfl⟩ := write_eq_ok.mp h₂
      exact of_tables rfl rfl rfl rfl rfl
  | markFailedRetryable input => exact of_transact fun _ _ h => markFailedRetryable h
  | operator step versionId => exact of_transact fun _ _ h => operatorTransaction h

end Db.KeepsIssued

/-- **The transactions of a step.** A reflexive relation between databases that every
operation, both phases of a completion and its `catch` establish is established by every
step of the registry. -/
theorem RegistryStep.relates {rt : Runtime} {R : Db → Db → Prop} {sys sys' : RegistrySystem}
    {a : RegistryAction} (h : RegistryStep rt sys a sys') (hrefl : ∀ db, R db db)
    (hoperation : ∀ op db, a = .operation op → R db (op.run rt db))
    (hphaseOne : ∀ {input now result db db'}, phaseOne input now db = .ok (result, db') → R db db')
    (hphaseTwo : ∀ {input source newDispatchId now completed db db'},
      phaseTwo rt input source newDispatchId now db = .ok (completed, db') → R db db')
    (hrecover : ∀ input versionId cause db,
      R db (recoverFailedCompletion input versionId cause db).2) : R sys.db sys'.db := by
  cases a with
  | operation op =>
      obtain rfl := Option.some.inj h
      exact hoperation op sys.db rfl
  | complete input =>
      obtain rfl := Option.some.inj h
      unfold RegistrySystem.complete
      split <;> exact hrefl sys.db
  | phaseOne i now =>
      obtain ⟨c, hc, h⟩ := Option.bind_eq_some_iff.mp h
      split at h
      · obtain rfl := Option.some.inj h
        unfold RegistrySystem.phaseOne
        split
        · rename_i hone
          exact hphaseOne hone
        · exact hrefl sys.db
      · cases h
  | canonicalize i result =>
      obtain ⟨c, hc, h⟩ := Option.bind_eq_some_iff.mp h
      split at h
      · obtain rfl := Option.some.inj h
        exact hrefl sys.db
      · obtain rfl := Option.some.inj h
        exact hrefl sys.db
      · cases h
  | phaseTwo i newDispatchId now =>
      obtain ⟨c, hc, h⟩ := Option.bind_eq_some_iff.mp h
      split at h
      · obtain rfl := Option.some.inj h
        unfold RegistrySystem.phaseTwo
        split
        · rename_i htwo
          exact hphaseTwo htwo
        · exact hrefl sys.db
      · cases h
  | recover i =>
      obtain ⟨c, hc, h⟩ := Option.bind_eq_some_iff.mp h
      split at h
      · obtain rfl := Option.some.inj h
        exact hrecover _ _ _ sys.db
      · cases h
  | stop i =>
      obtain ⟨c, hc, h⟩ := Option.bind_eq_some_iff.mp h
      split at h
      · cases h
      · cases h
      · obtain rfl := Option.some.inj h
        exact hrefl sys.db

/-- **No step of the registry changes what an issuance wrote.** -/
theorem RegistryStep.keepsIssued {rt : Runtime} {sys sys' : RegistrySystem} {a : RegistryAction}
    (h : RegistryStep rt sys a sys') : sys.db.KeepsIssued sys'.db :=
  h.relates Db.KeepsIssued.refl (fun op db _ => .operation rt op db) Db.KeepsIssued.phaseOne
    Db.KeepsIssued.phaseTwo Db.KeepsIssued.recoverFailedCompletion

/-- Nor does a run. -/
theorem Run.keepsIssued {rt : Runtime} {sys sys' : RegistrySystem}
    {tr : List (Transition RegistrySystem RegistryAction)} (h : Run (RegistryStep rt) sys tr sys') :
    sys.db.KeepsIssued sys'.db := by
  refine h.invariant (I := fun s => sys.db.KeepsIssued s.db) ?_ (.refl sys.db)
  intro s a s' hkept hstep
  exact hkept.trans hstep.keepsIssued

end Cdngine
