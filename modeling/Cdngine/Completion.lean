import Cdngine.UploadSession

/-!
# What a Completion Does

The specification of the two phases of a completion: which rows each statement touches,
what a phase did when it succeeded, guards included, and when it succeeds.

## Main results

* `executeAll_version?`, `executeAll_dispatches`, `executeAll_uploadSession?`: the rows
  after a list of statements, as a fold of the effects of the statements.
* `tryBuildCompletionReplay_isSome`: a session is replayable exactly when its version
  has a dispatch and carries evidence.
* `Db.settled_iff_replayable`: the same, said of the version (`Db.Settled`).
* `phaseOne_cases`, `phaseTwo_cases`: the inversion of each phase.
* `PhaseOneCommitted.version?`, `PhaseTwoCommitted.version?`: what a phase did to the
  version rows.
* `phaseTwo_succeeds_iff`: a completion that reaches phase two succeeds exactly when no
  other version holds its canonical source id.
-/

open Relational

namespace Cdngine

/-! ### What an issuance does -/

/-- **Inversion of an issuance**: it adds an asset at most, a version, its session and an
idempotency record. -/
theorem issueTransaction_cases {input : RegistryIssueUploadSessionInput} {ids : IssueIds}
    {now : Instant} {db db' : Db} {issued : RegistryIssuedUploadSession}
    (h : issueTransaction input ids now db = .ok (issued, db')) :
    ∃ (assetId : String) (number : Nat) (db₁ db₂ db₃ : Db),
      (db₁ = db ∨ ∃ row, db.createAsset row = .ok db₁) ∧
      db₁.createAssetVersion (issuedVersion input ids assetId number) = .ok db₂ ∧
      db₂.createUploadSession (issuedSession input ids now) = .ok db₃ ∧
      db₃.createIdempotencyRecord (issuedRecord input ids assetId now) = .ok db' := by
  unfold issueTransaction at h
  split at h
  · obtain ⟨⟨asset, db₁⟩, hasset, h⟩ := bind_eq_ok.mp h
    obtain ⟨db₂, h₂, h⟩ := bind_eq_ok.mp h
    obtain ⟨db₃, h₃, h⟩ := bind_eq_ok.mp h
    obtain ⟨db₄, h₄, h⟩ := bind_eq_ok.mp h
    obtain ⟨-, rfl⟩ := Prod.mk.inj (Except.ok.inj h)
    refine ⟨asset.id, _, db₁, db₂, db₃, ?_, h₂, h₃, h₄⟩
    unfold issueAsset at hasset
    split at hasset
    · obtain ⟨db₁', h₁, hret⟩ := bind_eq_ok.mp hasset
      obtain ⟨-, rfl⟩ := Prod.mk.inj (Except.ok.inj hret)
      exact Or.inr ⟨_, h₁⟩
    · obtain ⟨asset', -, hret⟩ := bind_eq_ok.mp hasset
      obtain ⟨-, rfl⟩ := Prod.mk.inj (Except.ok.inj hret)
      exact Or.inl rfl
  · cases h

/-- What an issuance adds: a version, its session, and an idempotency record. -/
structure Issued (input : RegistryIssueUploadSessionInput) (ids : IssueIds) (now : Instant)
    (assetId : String) (number : Nat) (db db' : Db) : Prop where
  version? : ∀ id, db'.version? id = (db.version? id).or
    (if ids.versionId = id then some (issuedVersion input ids assetId number) else none)
  uploadSession? : ∀ id, db'.uploadSession? id = (db.uploadSession? id).or
    (if ids.uploadSessionId = id then some (issuedSession input ids now) else none)
  idempotencyRecord? : ∀ key, db'.idempotencyRecord? key = (db.idempotencyRecord? key).or
    (if input.idempotencyRecordKey = key then some (issuedRecord input ids assetId now) else none)
  dispatches : db'.workflowDispatches = db.workflowDispatches

theorem issueTransaction_issued {input : RegistryIssueUploadSessionInput} {ids : IssueIds}
    {now : Instant} {db db' : Db} {issued : RegistryIssuedUploadSession}
    (h : issueTransaction input ids now db = .ok (issued, db')) :
    ∃ assetId number, Issued input ids now assetId number db db' := by
  obtain ⟨assetId, number, db₁, db₂, db₃, h₁, h₂, h₃, h₄⟩ := issueTransaction_cases h
  have hasset : db₁.assetVersions = db.assetVersions ∧ db₁.uploadSessions = db.uploadSessions ∧
      db₁.idempotencyRecords = db.idempotencyRecords ∧
      db₁.workflowDispatches = db.workflowDispatches := by
    rcases h₁ with rfl | ⟨row, h₁⟩
    · exact ⟨rfl, rfl, rfl, rfl⟩
    · obtain ⟨t, -, rfl⟩ := write_eq_ok.mp h₁
      exact ⟨rfl, rfl, rfl, rfl⟩
  have hversion := Db.version?_createAssetVersion h₂
  have hsession := Db.uploadSession?_createUploadSession h₃
  have hrecord := Db.idempotencyRecord?_createIdempotencyRecord h₄
  obtain ⟨t₄, -, rfl⟩ := write_eq_ok.mp h₄
  obtain ⟨t₃, -, rfl⟩ := write_eq_ok.mp h₃
  obtain ⟨t₂, -, rfl⟩ := write_eq_ok.mp h₂
  refine ⟨assetId, number, fun id => ?_, fun id => ?_, fun key => ?_, hasset.2.2.2⟩
  · have hid := hversion id
    simp only [Db.version?, hasset.1] at hid ⊢
    exact hid
  · have hid := hsession id
    simp only [Db.uploadSession?, hasset.2.1] at hid ⊢
    exact hid
  · have hkey := hrecord key
    simp only [Db.idempotencyRecord?, hasset.2.2.1] at hkey ⊢
    exact hkey

/-- An issuance leaves every version as it is and adds one in its first state. -/
theorem issueTransaction_version? {input : RegistryIssueUploadSessionInput} {ids : IssueIds}
    {now : Instant} {db db' : Db} {issued : RegistryIssuedUploadSession}
    (h : issueTransaction input ids now db = .ok (issued, db')) :
    (∀ id, db'.version? id = db.version? id ∨
      (db.version? id = none ∧
        ∃ v, db'.version? id = some v ∧ v.lifecycleState = .sessionCreated)) ∧
    db'.workflowDispatches = db.workflowDispatches := by
  obtain ⟨assetId, number, hissued⟩ := issueTransaction_issued h
  refine ⟨fun id => ?_, hissued.dispatches⟩
  rw [hissued.version? id]
  cases db.version? id with
  | some v => exact Or.inl rfl
  | none =>
      split
      · exact Or.inr ⟨rfl, _, rfl, rfl⟩
      · exact Or.inl rfl

/-- Where `issueUploadSession` leaves the database: as it was, or after its transaction. -/
theorem issueUploadSession_db (input : RegistryIssueUploadSessionInput) (ids : IssueIds)
    (now : Instant) (db : Db) :
    (issueUploadSession input ids now db).2 = db ∨
      ∃ issued, issueTransaction input ids now db =
        .ok (issued, (issueUploadSession input ids now db).2) := by
  unfold issueUploadSession
  split
  · exact Or.inl rfl
  · cases htx : issueTransaction input ids now db with
    | ok r =>
        simp only [transact, htx]
        exact Or.inr ⟨r.1, rfl⟩
    | error e =>
        left
        simp only [transact, htx]
        split
        · rename_i heq
          obtain ⟨-, rfl⟩ := Prod.mk.inj heq
          split <;> rfl
        · rfl

/-! ### Effects of the statements -/

/-- What a statement does to the version row with a given id. -/
def CompletionStatement.onVersion (id : String) (v : AssetVersion) :
    CompletionStatement → AssetVersion
  | .failVersionValidation versionId => if id = versionId then v.failValidation else v
  | .startCanonicalizing versionId objectKey =>
      if id = versionId then v.startCanonicalizing objectKey else v
  | .recordEvidence versionId evidence => if id = versionId then v.withEvidence evidence else v
  | .failRetryable versionId => if id = versionId then v.moveTo .failedRetryable else v
  | _ => v

/-- What a statement does to the session row with a given id. -/
def CompletionStatement.onSession (id : String) (s : UploadSession) :
    CompletionStatement → UploadSession
  | .expireUploadSession sessionId => if id = sessionId then s.expire else s
  | .failUploadSession sessionId problemType =>
      if id = sessionId then s.failValidation problemType else s
  | .markUploaded sessionId now objectKey =>
      if id = sessionId then s.markUploaded now objectKey else s
  | _ => s

/-- The dispatch row that a statement creates. -/
def CompletionStatement.newDispatch : CompletionStatement → Option WorkflowDispatch
  | .createWorkflowDispatch row => some row
  | _ => none

@[simp] theorem AssetVersion.moveTo_id (v : AssetVersion) (s : AssetVersionState) :
    (v.moveTo s).id = v.id := rfl

@[simp] theorem AssetVersion.moveTo_lifecycleState (v : AssetVersion) (s : AssetVersionState) :
    (v.moveTo s).lifecycleState = s := rfl

@[simp] theorem AssetVersion.moveTo_evidence (v : AssetVersion) (s : AssetVersionState) :
    (v.moveTo s).evidence = v.evidence := rfl

@[simp] theorem AssetVersion.failValidation_lifecycleState (v : AssetVersion) :
    v.failValidation.lifecycleState = .failedValidation := rfl

@[simp] theorem AssetVersion.failValidation_evidence (v : AssetVersion) :
    v.failValidation.evidence = v.evidence := rfl

@[simp] theorem AssetVersion.startCanonicalizing_lifecycleState (v : AssetVersion) (key : String) :
    (v.startCanonicalizing key).lifecycleState = .canonicalizing := rfl

@[simp] theorem AssetVersion.startCanonicalizing_evidence (v : AssetVersion) (key : String) :
    (v.startCanonicalizing key).evidence = v.evidence := rfl

@[simp] theorem AssetVersion.withEvidence_lifecycleState (v : AssetVersion)
    (e : CanonicalEvidence) : (v.withEvidence e).lifecycleState = .canonical := rfl

@[simp] theorem AssetVersion.withEvidence_evidence (v : AssetVersion) (e : CanonicalEvidence) :
    (v.withEvidence e).evidence = e := rfl

/-- The version rows after a statement. -/
theorem CompletionStatement.version?_apply {s : CompletionStatement} {db db' : Db}
    (h : s.apply db = .ok db') (id : String) :
    db'.version? id = (db.version? id).map fun v => s.onVersion id v := by
  have keep : db'.assetVersions = db.assetVersions →
      db'.version? id = (db.version? id).map fun v => v := by
    intro heq
    rw [Db.version?, heq, Option.map_id']
    rfl
  cases s with
  | failVersionValidation _ => exact Db.version?_updateAssetVersion h (fun _ => rfl) id
  | startCanonicalizing _ _ => exact Db.version?_updateAssetVersion h (fun _ => rfl) id
  | recordEvidence _ _ => exact Db.version?_updateAssetVersion h (fun _ => rfl) id
  | failRetryable _ => exact Db.version?_updateAssetVersion h (fun _ => rfl) id
  | _ =>
      obtain ⟨t, -, rfl⟩ := write_eq_ok.mp h
      exact keep rfl

/-- The session rows after a statement. -/
theorem CompletionStatement.uploadSession?_apply {s : CompletionStatement} {db db' : Db}
    (h : s.apply db = .ok db') (id : String) :
    db'.uploadSession? id = (db.uploadSession? id).map fun r => s.onSession id r := by
  have keep : db'.uploadSessions = db.uploadSessions →
      db'.uploadSession? id = (db.uploadSession? id).map fun r => r := by
    intro heq
    rw [Db.uploadSession?, heq, Option.map_id']
    rfl
  cases s with
  | expireUploadSession _ => exact Db.uploadSession?_updateUploadSession h (fun _ => rfl) id
  | failUploadSession _ _ => exact Db.uploadSession?_updateUploadSession h (fun _ => rfl) id
  | markUploaded _ _ _ => exact Db.uploadSession?_updateUploadSession h (fun _ => rfl) id
  | _ =>
      obtain ⟨t, -, rfl⟩ := write_eq_ok.mp h
      exact keep rfl

/-- The dispatch rows after a statement: a statement creates at most one and changes
none. -/
theorem CompletionStatement.dispatches_apply {s : CompletionStatement} {db db' : Db}
    (h : s.apply db = .ok db') :
    db'.workflowDispatches.rows = db.workflowDispatches.rows ++ s.newDispatch.toList := by
  cases s with
  | createWorkflowDispatch row =>
      obtain ⟨t, ht, rfl⟩ := write_eq_ok.mp h
      exact (Table.insert_eq_ok_iff.mp ht).2
  | _ =>
      obtain ⟨t, -, rfl⟩ := write_eq_ok.mp h
      simp [newDispatch]

/-- The idempotency records after a statement: only a persisted record changes, and it
holds the reference and the request hash that the statement carries. -/
theorem CompletionStatement.idempotencyRecords_apply {s : CompletionStatement} {db db' : Db}
    (h : s.apply db = .ok db') :
    db'.idempotencyRecords = db.idempotencyRecords ∨
      ∃ row, s = .persistIdempotencyRecord row ∧
        ∃ stored, db'.idempotencyRecord? row.key = some stored ∧
          stored.responseReference = row.responseReference ∧
          stored.normalizedRequestHash = row.normalizedRequestHash ∧
          ∀ key, key ≠ row.key → db'.idempotencyRecord? key = db.idempotencyRecord? key := by
  cases s with
  | persistIdempotencyRecord row =>
      obtain ⟨t, ht, rfl⟩ := write_eq_ok.mp h
      have hfind := Table.find?_upsert_key ht (fun _ => rfl) rfl
      refine Or.inr ⟨row, rfl, _, (hfind row.key).trans (if_pos rfl), ?_, ?_, ?_⟩
      · cases hf : db.idempotencyRecords.find? fun r => r.key == row.key <;> rfl
      · cases hf : db.idempotencyRecords.find? fun r => r.key == row.key <;> rfl
      · intro key hne
        exact (hfind key).trans (if_neg hne)
  | _ =>
      obtain ⟨t, -, rfl⟩ := write_eq_ok.mp h
      exact Or.inl rfl

/-! ### Effects of a list of statements -/

theorem executeAll_cons {s : CompletionStatement} {ss : List CompletionStatement} {db db' : Db} :
    executeAll (s :: ss) db = .ok db' ↔
      ∃ db₁, s.apply db = .ok db₁ ∧ executeAll ss db₁ = .ok db' :=
  bind_eq_ok

theorem executeAll_append {ss ss' : List CompletionStatement} {db db' : Db} :
    executeAll (ss ++ ss') db = .ok db' ↔
      ∃ db₁, executeAll ss db = .ok db₁ ∧ executeAll ss' db₁ = .ok db' := by
  induction ss generalizing db with
  | nil => simp [executeAll]
  | cons s ss ih =>
      simp only [List.cons_append, executeAll_cons, ih]
      constructor
      · rintro ⟨db₁, h₁, db₂, h₂, h₃⟩
        exact ⟨db₂, ⟨db₁, h₁, h₂⟩, h₃⟩
      · rintro ⟨db₂, ⟨db₁, h₁, h₂⟩, h₃⟩
        exact ⟨db₁, h₁, db₂, h₂, h₃⟩

/-- The version rows after a list of statements. -/
theorem executeAll_version? {ss : List CompletionStatement} {db db' : Db}
    (h : executeAll ss db = .ok db') (id : String) :
    db'.version? id = (db.version? id).map fun v => ss.foldl (fun v s => s.onVersion id v) v := by
  induction ss generalizing db with
  | nil =>
      obtain rfl := Except.ok.inj h
      exact Option.map_id'.symm
  | cons s ss ih =>
      obtain ⟨db₁, hs, hss⟩ := executeAll_cons.mp h
      rw [ih hss, s.version?_apply hs, Option.map_map]
      rfl

/-- The session rows after a list of statements. -/
theorem executeAll_uploadSession? {ss : List CompletionStatement} {db db' : Db}
    (h : executeAll ss db = .ok db') (id : String) :
    db'.uploadSession? id =
      (db.uploadSession? id).map fun r => ss.foldl (fun r s => s.onSession id r) r := by
  induction ss generalizing db with
  | nil =>
      obtain rfl := Except.ok.inj h
      exact Option.map_id'.symm
  | cons s ss ih =>
      obtain ⟨db₁, hs, hss⟩ := executeAll_cons.mp h
      rw [ih hss, s.uploadSession?_apply hs, Option.map_map]
      rfl

/-- The dispatch rows after a list of statements. -/
theorem executeAll_dispatches {ss : List CompletionStatement} {db db' : Db}
    (h : executeAll ss db = .ok db') :
    db'.workflowDispatches.rows =
      db.workflowDispatches.rows ++ ss.filterMap CompletionStatement.newDispatch := by
  induction ss generalizing db with
  | nil =>
      obtain rfl := Except.ok.inj h
      simp
  | cons s ss ih =>
      obtain ⟨db₁, hs, hss⟩ := executeAll_cons.mp h
      rw [ih hss, s.dispatches_apply hs, List.append_assoc]
      congr 1
      cases hn : s.newDispatch <;> simp [hn]

/-- The idempotency records after a list of statements: one that was not there before
holds the reference and the request hash that a statement persists. -/
theorem executeAll_idempotencyRecord? {ss : List CompletionStatement} {db db' : Db}
    (h : executeAll ss db = .ok db') {key : ApiSurface × String × String × String}
    {r : IdempotencyRecord} (hr : db'.idempotencyRecord? key = some r) :
    db.idempotencyRecord? key = some r ∨
      ∃ row, CompletionStatement.persistIdempotencyRecord row ∈ ss ∧ key = row.key ∧
        r.responseReference = row.responseReference ∧
        r.normalizedRequestHash = row.normalizedRequestHash := by
  induction ss generalizing db with
  | nil =>
      obtain rfl := Except.ok.inj h
      exact Or.inl hr
  | cons s ss ih =>
      obtain ⟨db₁, hs, hss⟩ := executeAll_cons.mp h
      rcases ih hss with hr₁ | ⟨row, hrow, hkey, href⟩
      · rcases s.idempotencyRecords_apply hs with hsame |
          ⟨row, rfl, stored, hstored, href, hhash, hother⟩
        · left
          rw [Db.idempotencyRecord?, hsame] at hr₁
          exact hr₁
        · by_cases hkey : key = row.key
          · subst hkey
            obtain rfl := Option.some.inj (hr₁.symm.trans hstored)
            exact Or.inr ⟨row, List.mem_cons_self, rfl, href, hhash⟩
          · left
            rw [← hother key hkey]
            exact hr₁
      · exact Or.inr ⟨row, List.mem_cons_of_mem _ hrow, hkey, href⟩

/-! ### The joined session row -/

/-- What the lookup of a session with its version, asset and oldest dispatch returns. -/
theorem Db.findUploadSession_eq_some {db : Db} {id : String} {row : CompletionReplayRow} :
    db.findUploadSession id = some row ↔
      db.uploadSession? id = some row.uploadSession ∧
      db.version? row.uploadSession.assetVersionId = some row.version ∧
      db.asset? row.version.assetId = some row.asset ∧
      (∃ ns, db.serviceNamespace? row.asset.serviceNamespaceId = some ns ∧
        row.serviceNamespaceId = ns.serviceNamespaceId) ∧
      row.tenantId = (row.asset.tenantScopeId.bind db.tenantScope?).map (·.externalTenantId) ∧
      row.workflowDispatch = (db.dispatchesOf row.version.id).head? := by
  simp only [findUploadSession, Option.bind_eq_bind, Option.bind_eq_some_iff, Option.some.injEq]
  constructor
  · rintro ⟨s, hs, v, hv, a, ha, ns, hns, rfl⟩
    exact ⟨hs, hv, ha, ⟨ns, hns, rfl⟩, rfl, rfl⟩
  · rintro ⟨hs, hv, ha, ⟨ns, hns, hname⟩, htenant, hdispatch⟩
    refine ⟨_, hs, _, hv, _, ha, ns, hns, ?_⟩
    cases row
    simp_all

theorem Db.findUploadSession_id {db : Db} {id : String} {row : CompletionReplayRow}
    (h : db.findUploadSession id = some row) : row.uploadSession.id = id := by
  obtain ⟨hs, -⟩ := findUploadSession_eq_some.mp h
  simpa using Table.sel_of_find? hs

theorem Db.findUploadSession_version_id {db : Db} {id : String} {row : CompletionReplayRow}
    (h : db.findUploadSession id = some row) :
    row.version.id = row.uploadSession.assetVersionId := by
  obtain ⟨-, hv, -⟩ := findUploadSession_eq_some.mp h
  exact (version?_eq_some_iff.mp hv).2

/-- The version row of a joined session is the one its id finds. -/
theorem Db.findUploadSession_version? {db : Db} {id : String} {row : CompletionReplayRow}
    (h : db.findUploadSession id = some row) : db.version? row.version.id = some row.version := by
  rw [findUploadSession_version_id h]
  exact (findUploadSession_eq_some.mp h).2.1

theorem canonicalSnapshotFromRow_isOk (v : AssetVersion) :
    (canonicalSnapshotFromRow v).toOption.isSome = v.carriesEvidence := by
  unfold canonicalSnapshotFromRow AssetVersion.carriesEvidence
  cases present v.repositoryEngine <;> cases present v.canonicalSourceId <;>
    cases present v.canonicalSnapshotId <;> cases present v.canonicalLogicalPath <;> rfl

/-- **A session is replayable** exactly when its version has a dispatch and carries
evidence. -/
theorem tryBuildCompletionReplay_isSome (row : CompletionReplayRow) :
    (tryBuildCompletionReplay row).isSome =
      (row.workflowDispatch.isSome && row.version.carriesEvidence) := by
  rw [← canonicalSnapshotFromRow_isOk]
  unfold tryBuildCompletionReplay
  cases row.workflowDispatch <;> cases (canonicalSnapshotFromRow row.version).toOption <;> rfl

/-- Whether a version carries evidence depends on its evidence only. -/
theorem AssetVersion.carriesEvidence_congr {v v' : AssetVersion} (h : v'.evidence = v.evidence) :
    v'.carriesEvidence = v.carriesEvidence := by
  have hfold : ∀ v : AssetVersion, v.carriesEvidence =
      ((present v.evidence.repositoryEngine).isSome &&
        (present v.evidence.canonicalSourceId).isSome &&
        (present v.evidence.canonicalSnapshotId).isSome &&
        (present v.evidence.canonicalLogicalPath).isSome) := fun _ => rfl
  rw [hfold, hfold, h]

@[simp] theorem AssetVersion.failValidation_carriesEvidence (v : AssetVersion) :
    v.failValidation.carriesEvidence = v.carriesEvidence := rfl

@[simp] theorem AssetVersion.startCanonicalizing_carriesEvidence (v : AssetVersion) (key : String) :
    (v.startCanonicalizing key).carriesEvidence = v.carriesEvidence := rfl

@[simp] theorem AssetVersion.moveTo_carriesEvidence (v : AssetVersion) (s : AssetVersionState) :
    (v.moveTo s).carriesEvidence = v.carriesEvidence := rfl

theorem tryBuildCompletionReplay_eq_none {row : CompletionReplayRow} :
    tryBuildCompletionReplay row = none ↔
      row.workflowDispatch = none ∨ row.version.carriesEvidence = false := by
  have h := tryBuildCompletionReplay_isSome row
  cases hr : tryBuildCompletionReplay row <;> cases hd : row.workflowDispatch <;>
    cases he : row.version.carriesEvidence <;> simp_all

/-- A replay names the session and the version it was built from. -/
theorem tryBuildCompletionReplay_ids {row : CompletionReplayRow}
    {replay : RegistryCompletedUploadSession} (h : tryBuildCompletionReplay row = some replay) :
    replay.uploadSessionId = row.uploadSession.id ∧ replay.versionId = row.version.id := by
  simp only [tryBuildCompletionReplay, Option.bind_eq_bind, Option.bind_eq_some_iff,
    Option.some.injEq] at h
  obtain ⟨d, -, source, -, rfl⟩ := h
  exact ⟨rfl, rfl⟩

/-! ### Settled versions -/

/-- A version is **settled** when it carries canonical evidence and has a dispatch. -/
def Db.Settled (db : Db) (id : String) : Prop :=
  ∃ v, db.version? id = some v ∧ v.carriesEvidence = true ∧ db.dispatchesOf id ≠ []

instance (db : Db) (id : String) : Decidable (db.Settled id) :=
  decidable_of_iff
      ((db.version? id).any (·.carriesEvidence) = true ∧ (db.dispatchesOf id).isEmpty = false) <| by
    simp only [Db.Settled, Option.any_eq_true_iff_get, List.isEmpty_eq_false_iff]
    constructor
    · rintro ⟨⟨h, he⟩, hne⟩
      exact ⟨_, (Option.some_get h).symm, he, hne⟩
    · rintro ⟨v, hv, he, hne⟩
      simp only [hv]
      exact ⟨⟨rfl, he⟩, hne⟩

/-- The rows of a version that a completion may write: its own and its dispatches. -/
def Db.Unchanged (db db' : Db) (id : String) : Prop :=
  db'.version? id = db.version? id ∧ db'.dispatchesOf id = db.dispatchesOf id

theorem Db.Unchanged.settled_iff {db db' : Db} {id : String} (h : db.Unchanged db' id) :
    db'.Settled id ↔ db.Settled id := by
  unfold Settled
  rw [h.1, h.2]

/-- The version of a session is settled exactly when the session is replayable. -/
theorem Db.settled_iff_replayable {db : Db} {uploadSessionId : String} {row : CompletionReplayRow}
    (h : db.findUploadSession uploadSessionId = some row) :
    db.Settled row.version.id ↔ (tryBuildCompletionReplay row).isSome = true := by
  have hv := findUploadSession_version? h
  obtain ⟨-, -, -, -, -, hd⟩ := findUploadSession_eq_some.mp h
  rw [tryBuildCompletionReplay_isSome, hd, Bool.and_eq_true, List.isSome_head?]
  constructor
  · rintro ⟨v, hv', he, hne⟩
    rw [hv] at hv'
    obtain rfl := Option.some.inj hv'
    exact ⟨by simpa using hne, he⟩
  · rintro ⟨hne, he⟩
    exact ⟨row.version, hv, he, by simpa using hne⟩

/-! ### Inversion of the phases -/

theorem CompletionScript.run_eq_ok {α : Type} {script : CompletionScript α} {db db' : Db} {a : α} :
    script.run db = .ok (a, db') ↔
      executeAll script.statements db = .ok db' ∧ script.outcome = .ok a := by
  simp only [run, bind_eq_ok, pure, Except.pure, Except.ok.injEq, Prod.mk.injEq]
  constructor
  · rintro ⟨db₁, h₁, a₁, h₂, rfl, rfl⟩
    exact ⟨h₁, h₂⟩
  · rintro ⟨h₁, h₂⟩
    exact ⟨db', h₁, a, h₂, rfl, rfl⟩

/-- A session that a completion may still leave its first state: it was neither
terminated nor rejected by validation. -/
def UploadSession.isOpen (s : UploadSession) : Prop :=
  s.state ≠ .terminated ∧ s.state ≠ .failedValidation

theorem acceptsCompletion_iff {s : AssetVersionState} :
    acceptsCompletion s = true ↔ s = .sessionCreated ∨ s = .uploaded ∨ s = .failedRetryable := by
  cases s <;> simp [acceptsCompletion]

/-- **What phase one did** when it committed. -/
inductive PhaseOneCommitted (input : RegistryCompleteUploadSessionInput) (now : Instant) (db : Db) :
    PhaseOneResult → Db → Prop
  | replay {row : CompletionReplayRow} {replay : RegistryCompletedUploadSession} {db' : Db}
      (hrow : db.findUploadSession input.uploadSessionId = some row)
      (hexpiry : ¬ now > row.uploadSession.expiresAt)
      (hreplay : tryBuildCompletionReplay row = some replay)
      (hexec : executeAll (replayCompletion input now replay PhaseOneResult.replay).statements db =
        .ok db') :
      PhaseOneCommitted input now db (.replay { replay with isDuplicate := true }) db'
  | validationFailure {row : CompletionReplayRow} {problemType detail : String} {db' : Db}
      (hrow : db.findUploadSession input.uploadSessionId = some row)
      (hexpiry : ¬ now > row.uploadSession.expiresAt)
      (hreplay : tryBuildCompletionReplay row = none)
      (hopen : row.uploadSession.isOpen)
      (haccepts : acceptsCompletion row.version.lifecycleState = true)
      (hproblem : stagedEvidenceProblem input row = some (problemType, detail))
      (hexec : executeAll (recordValidationFailure row.uploadSession.id row.version.id problemType
        detail).statements db = .ok db') :
      PhaseOneCommitted input now db
        (.validationFailure
          (.uploadSessionValidationFailed row.uploadSession.id problemType detail)) db'
  | request {row : CompletionReplayRow} {db' : Db}
      (hrow : db.findUploadSession input.uploadSessionId = some row)
      (hexpiry : ¬ now > row.uploadSession.expiresAt)
      (hreplay : tryBuildCompletionReplay row = none)
      (hopen : row.uploadSession.isOpen)
      (haccepts : acceptsCompletion row.version.lifecycleState = true)
      (hproblem : stagedEvidenceProblem input row = none)
      (hexec : executeAll (acceptCompletion input now row).statements db = .ok db') :
      PhaseOneCommitted input now db (.request (canonicalizationRequest input row)) db'

section PhaseOne

variable {input : RegistryCompleteUploadSessionInput} {now : Instant} {row : CompletionReplayRow}

theorem phaseOneScript_expired (h : now > row.uploadSession.expiresAt) :
    phaseOneScript input now row =
      ⟨[.expireUploadSession row.uploadSession.id],
        .error (.uploadSessionExpired input.uploadSessionId)⟩ := by
  simp only [phaseOneScript, if_pos h]

theorem phaseOneScript_replay {replay : RegistryCompletedUploadSession}
    (hexpiry : ¬ now > row.uploadSession.expiresAt)
    (hreplay : tryBuildCompletionReplay row = some replay) :
    phaseOneScript input now row = replayCompletion input now replay .replay := by
  simp only [phaseOneScript, if_neg hexpiry, hreplay]

theorem phaseOneScript_closed (hexpiry : ¬ now > row.uploadSession.expiresAt)
    (hreplay : tryBuildCompletionReplay row = none) (hclosed : ¬ row.uploadSession.isOpen) :
    phaseOneScript input now row =
      ⟨[], .error (.uploadSessionInvalidStateTransition input.uploadSessionId
        row.uploadSession.state.text)⟩ := by
  have hstate : row.uploadSession.state = .terminated ∨
    row.uploadSession.state = .failedValidation := by
    by_contra hne
    exact hclosed (not_or.mp hne)
  simp only [phaseOneScript, if_neg hexpiry, hreplay, if_pos hstate]

theorem phaseOneScript_rejected (hexpiry : ¬ now > row.uploadSession.expiresAt)
    (hreplay : tryBuildCompletionReplay row = none) (hopen : row.uploadSession.isOpen)
    (hrejects : acceptsCompletion row.version.lifecycleState = false) :
    phaseOneScript input now row =
      ⟨[], .error (.uploadSessionInvalidStateTransition input.uploadSessionId
        row.version.lifecycleState.text)⟩ := by
  simp only [phaseOneScript, if_neg hexpiry, hreplay, if_neg (not_or.mpr hopen), hrejects]
  rfl

/-- An open session at an accepting state: the staged evidence decides. -/
theorem phaseOneScript_open (hexpiry : ¬ now > row.uploadSession.expiresAt)
    (hreplay : tryBuildCompletionReplay row = none) (hopen : row.uploadSession.isOpen)
    (haccepts : acceptsCompletion row.version.lifecycleState = true) :
    phaseOneScript input now row =
      match stagedEvidenceProblem input row with
      | some (problemType, detail) =>
          recordValidationFailure row.uploadSession.id row.version.id problemType detail
      | none => acceptCompletion input now row := by
  simp only [phaseOneScript, hreplay]
  rw [if_neg hexpiry, if_neg (not_or.mpr hopen)]
  exact if_neg (not_not.mpr haccepts)

/-- **Inversion of phase one.** -/
theorem phaseOne_cases {db db' : Db} {result : PhaseOneResult}
    (h : phaseOne input now db = .ok (result, db')) :
    PhaseOneCommitted input now db result db' := by
  unfold phaseOne at h
  cases hrow : db.findUploadSession input.uploadSessionId with
  | none => simp [hrow] at h
  | some row =>
      simp only [hrow, CompletionScript.run_eq_ok] at h
      by_cases hexpiry : now > row.uploadSession.expiresAt
      · simp [phaseOneScript_expired hexpiry] at h
      cases hreplay : tryBuildCompletionReplay row with
      | some replay =>
          rw [phaseOneScript_replay hexpiry hreplay] at h
          obtain ⟨hexec, hout⟩ := h
          obtain rfl := Except.ok.inj hout
          exact .replay hrow hexpiry hreplay hexec
      | none =>
          by_cases hopen : row.uploadSession.isOpen
          swap
          · simp [phaseOneScript_closed hexpiry hreplay hopen] at h
          cases haccepts : acceptsCompletion row.version.lifecycleState with
          | false => simp [phaseOneScript_rejected hexpiry hreplay hopen haccepts] at h
          | true =>
              rw [phaseOneScript_open hexpiry hreplay hopen haccepts] at h
              cases hproblem : stagedEvidenceProblem input row with
              | some problem =>
                  rw [hproblem] at h
                  obtain ⟨hexec, hout⟩ := h
                  obtain rfl := Except.ok.inj hout
                  exact .validationFailure hrow hexpiry hreplay hopen haccepts hproblem hexec
              | none =>
                  rw [hproblem] at h
                  obtain ⟨hexec, hout⟩ := h
                  obtain rfl := Except.ok.inj hout
                  exact .request hrow hexpiry hreplay hopen haccepts hproblem hexec

end PhaseOne

/-- **What phase two did** when it committed. -/
inductive PhaseTwoCommitted (rt : Runtime) (input : RegistryCompleteUploadSessionInput)
    (source : SnapshotResult) (newDispatchId : String) (now : Instant) (db : Db) :
    RegistryCompletedUploadSession → Db → Prop
  | replay {row : CompletionReplayRow} {replay : RegistryCompletedUploadSession} {db' : Db}
      (hrow : db.findUploadSession input.uploadSessionId = some row)
      (hreplay : tryBuildCompletionReplay row = some replay)
      (hexec : executeAll (replayCompletion input now replay id).statements db = .ok db') :
      PhaseTwoCommitted rt input source newDispatchId now db { replay with isDuplicate := true } db'
  | canonical {row : CompletionReplayRow} {completed : RegistryCompletedUploadSession}
      {db₁ db' : Db}
      (hrow : db.findUploadSession input.uploadSessionId = some row)
      (hreplay : tryBuildCompletionReplay row = none)
      (hstate : row.version.lifecycleState = .canonicalizing)
      (hevidence : executeAll (phaseTwoEvidence rt source row) db = .ok db₁)
      (hdispatch : executeAll (phaseTwoDispatch input source newDispatchId now row
        (db₁.findWorkflowDispatch (dispatchWorkflowKey input row))).statements db₁ = .ok db')
      (hcompleted : (phaseTwoDispatch input source newDispatchId now row
        (db₁.findWorkflowDispatch (dispatchWorkflowKey input row))).outcome = .ok completed) :
      PhaseTwoCommitted rt input source newDispatchId now db completed db'

/-- **Inversion of phase two.** -/
theorem phaseTwo_cases {rt : Runtime} {input : RegistryCompleteUploadSessionInput}
    {source : SnapshotResult} {newDispatchId : String} {now : Instant} {db db' : Db}
    {completed : RegistryCompletedUploadSession}
    (h : phaseTwo rt input source newDispatchId now db = .ok (completed, db')) :
    PhaseTwoCommitted rt input source newDispatchId now db completed db' := by
  unfold phaseTwo at h
  split at h
  · exact absurd h (by simp)
  · rename_i row hrow
    split at h
    · rename_i replay hreplay
      obtain ⟨hexec, hout⟩ := CompletionScript.run_eq_ok.mp h
      obtain rfl := Except.ok.inj hout
      exact .replay hrow hreplay hexec
    · rename_i hreplay
      split at h
      · exact absurd h (by simp)
      · rename_i hstate
        obtain ⟨db₁, hevidence, hrest⟩ := bind_eq_ok.mp h
        obtain ⟨hdispatch, hcompleted⟩ := CompletionScript.run_eq_ok.mp hrest
        exact .canonical hrow hreplay (not_not.mp hstate) hevidence hdispatch hcompleted

/-! ### What the phases do to the versions -/

/-- Phase one moves a version only from an accepting state, and never its evidence. -/
theorem PhaseOneCommitted.version? {input : RegistryCompleteUploadSessionInput} {now : Instant}
    {db db' : Db} {result : PhaseOneResult} (h : PhaseOneCommitted input now db result db')
    (id : String) :
    db'.version? id = db.version? id ∨
      ∃ v v', db.version? id = some v ∧ db'.version? id = some v' ∧
        acceptsCompletion v.lifecycleState = true ∧ v'.evidence = v.evidence ∧
        (v'.lifecycleState = .failedValidation ∨ v'.lifecycleState = .canonicalizing) := by
  cases h with
  | replay hrow hexpiry hreplay hexec =>
      left
      rw [executeAll_version? hexec]
      exact Option.map_id'
  | @validationFailure row problemType detail _ hrow hexpiry hreplay hopen haccepts hproblem
      hexec =>
      rw [executeAll_version? hexec]
      by_cases hid : id = row.version.id
      · subst hid
        rw [Db.findUploadSession_version? hrow]
        refine Or.inr ⟨row.version, row.version.failValidation, rfl, ?_, haccepts, rfl, Or.inl rfl⟩
        simp [recordValidationFailure, CompletionStatement.onVersion]
      · left
        simp [recordValidationFailure, CompletionStatement.onVersion, hid]
  | @request row _ hrow hexpiry hreplay hopen haccepts hproblem hexec =>
      rw [executeAll_version? hexec]
      by_cases hid : id = row.version.id
      · subst hid
        rw [Db.findUploadSession_version? hrow]
        refine Or.inr ⟨row.version, row.version.startCanonicalizing input.stagedObject.objectKey,
          rfl, ?_, haccepts, rfl, Or.inr rfl⟩
        simp [acceptCompletion, CompletionStatement.onVersion]
      · left
        simp [acceptCompletion, CompletionStatement.onVersion, hid]

/-- The versions after the statements of phase two that record evidence. -/
theorem phaseTwoStatements_version? {rt : Runtime} {input : RegistryCompleteUploadSessionInput}
    {source : SnapshotResult} {newDispatchId : String} {now : Instant} {db db₁ db' : Db}
    {row : CompletionReplayRow} {existing : Option WorkflowDispatch}
    (hrow : db.findUploadSession input.uploadSessionId = some row)
    (hevidence : executeAll (phaseTwoEvidence rt source row) db = .ok db₁)
    (hdispatch : executeAll
      (phaseTwoDispatch input source newDispatchId now row existing).statements db₁ = .ok db')
    (id : String) :
    db'.version? id = if id = row.version.id then
        some (row.version.withEvidence (canonicalEvidence rt source))
      else db.version? id := by
  have hkeep : db'.version? id = db₁.version? id := by
    rw [executeAll_version? hdispatch]
    have hfold : ∀ v : AssetVersion,
        (phaseTwoDispatch input source newDispatchId now row existing).statements.foldl
          (fun v s => s.onVersion id v) v = v := by
      intro v
      cases existing <;> rfl
    simp only [hfold, Option.map_id']
  rw [hkeep, executeAll_version? hevidence]
  by_cases hid : id = row.version.id
  · subst hid
    rw [if_pos rfl, Db.findUploadSession_version? hrow]
    simp [phaseTwoEvidence, CompletionStatement.onVersion]
  · rw [if_neg hid]
    simp [phaseTwoEvidence, CompletionStatement.onVersion, hid]

/-- Phase two writes a version only while it is canonicalizing and not settled. -/
theorem PhaseTwoCommitted.version? {rt : Runtime} {input : RegistryCompleteUploadSessionInput}
    {source : SnapshotResult} {newDispatchId : String} {now : Instant} {db db' : Db}
    {completed : RegistryCompletedUploadSession}
    (h : PhaseTwoCommitted rt input source newDispatchId now db completed db') (id : String) :
    db'.version? id = db.version? id ∨
      ∃ v, db.version? id = some v ∧ v.lifecycleState = .canonicalizing ∧ ¬ db.Settled id ∧
        db'.version? id = some (v.withEvidence (canonicalEvidence rt source)) := by
  cases h with
  | replay hrow hreplay hexec =>
      left
      rw [executeAll_version? hexec]
      exact Option.map_id'
  | canonical hrow hreplay hstate hevidence hdispatch hcompleted =>
      rw [phaseTwoStatements_version? hrow hevidence hdispatch]
      split
      · rename_i hid
        subst hid
        refine Or.inr ⟨_, Db.findUploadSession_version? hrow, hstate, ?_, rfl⟩
        rw [Db.settled_iff_replayable hrow, hreplay]
        simp
      · exact Or.inl rfl

/-- The phases only add dispatches. -/
theorem PhaseOneCommitted.dispatches {input : RegistryCompleteUploadSessionInput} {now : Instant}
    {db db' : Db} {result : PhaseOneResult} (h : PhaseOneCommitted input now db result db') :
    db.workflowDispatches.rows <+: db'.workflowDispatches.rows := by
  cases h with
  | replay hrow hexpiry hreplay hexec => exact ⟨_, (executeAll_dispatches hexec).symm⟩
  | validationFailure hrow hexpiry hreplay hopen haccepts hproblem hexec =>
      exact ⟨_, (executeAll_dispatches hexec).symm⟩
  | request hrow hexpiry hreplay hopen haccepts hproblem hexec =>
      exact ⟨_, (executeAll_dispatches hexec).symm⟩

theorem PhaseTwoCommitted.dispatches {rt : Runtime} {input : RegistryCompleteUploadSessionInput}
    {source : SnapshotResult} {newDispatchId : String} {now : Instant} {db db' : Db}
    {completed : RegistryCompletedUploadSession}
    (h : PhaseTwoCommitted rt input source newDispatchId now db completed db') :
    db.workflowDispatches.rows <+: db'.workflowDispatches.rows := by
  cases h with
  | replay hrow hreplay hexec => exact ⟨_, (executeAll_dispatches hexec).symm⟩
  | canonical hrow hreplay hstate hevidence hdispatch hcompleted =>
      have h₁ : db.workflowDispatches.rows <+: _ := ⟨_, (executeAll_dispatches hevidence).symm⟩
      exact h₁.trans ⟨_, (executeAll_dispatches hdispatch).symm⟩

/-! ### Success of the phases -/

theorem executeAll_replay_ok {α : Type} (input : RegistryCompleteUploadSessionInput) (now : Instant)
    (replay : RegistryCompletedUploadSession) (result : RegistryCompletedUploadSession → α)
    (db : Db) :
    ∃ db', executeAll (replayCompletion input now replay result).statements db = .ok db' := by
  obtain ⟨db', h⟩ := Db.upsertIdempotencyRecord_ok db (completionIdempotencyRecord input now replay)
    (f := fun r =>
      { r with
        completedAt := some now
        isTerminal := true
        normalizedOperationKey := buildCompletionNormalizedOperationKey replay.uploadSessionId
        normalizedRequestHash := some input.normalizedRequestHash
        responseReference := (completionIdempotencyRecord input now replay).responseReference })
    fun _ => rfl
  exact ⟨db', executeAll_cons.mpr ⟨db', h, rfl⟩⟩

/-- **Phase one replays** every unexpired session that is replayable. -/
theorem phaseOne_replays {input : RegistryCompleteUploadSessionInput} {now : Instant} {db : Db}
    {row : CompletionReplayRow} {replay : RegistryCompletedUploadSession}
    (hrow : db.findUploadSession input.uploadSessionId = some row)
    (hexpiry : ¬ now > row.uploadSession.expiresAt)
    (hreplay : tryBuildCompletionReplay row = some replay) :
    ∃ db', phaseOne input now db = .ok (.replay { replay with isDuplicate := true }, db') := by
  obtain ⟨db', hexec⟩ := executeAll_replay_ok input now replay PhaseOneResult.replay db
  refine ⟨db', ?_⟩
  simp only [phaseOne, hrow, phaseOneScript_replay hexpiry hreplay]
  exact CompletionScript.run_eq_ok.mpr ⟨hexec, rfl⟩

/-- **Phase one accepts** an unexpired open session at an accepting state whose staged
evidence matches. -/
theorem phaseOne_accepts {input : RegistryCompleteUploadSessionInput} {now : Instant} {db : Db}
    {row : CompletionReplayRow} (hrow : db.findUploadSession input.uploadSessionId = some row)
    (hexpiry : ¬ now > row.uploadSession.expiresAt)
    (hreplay : tryBuildCompletionReplay row = none) (hopen : row.uploadSession.isOpen)
    (haccepts : acceptsCompletion row.version.lifecycleState = true)
    (hproblem : stagedEvidenceProblem input row = none) :
    ∃ db', phaseOne input now db = .ok (.request (canonicalizationRequest input row), db') ∧
      executeAll (acceptCompletion input now row).statements db = .ok db' := by
  obtain ⟨hs, -⟩ := Db.findUploadSession_eq_some.mp hrow
  have hsid := Db.findUploadSession_id hrow
  obtain ⟨db₁, h₁⟩ := Db.updateUploadSession_ok (hsid ▸ hs)
    (f := fun r => r.markUploaded now input.stagedObject.objectKey) fun _ _ => rfl
  have hv : db₁.version? row.version.id = some row.version := by
    have hv₀ := Db.findUploadSession_version? hrow
    obtain ⟨t, -, rfl⟩ := write_eq_ok.mp h₁
    exact hv₀
  obtain ⟨db', h₂⟩ := Db.updateAssetVersion_ok hv
    (f := fun r => r.startCanonicalizing input.stagedObject.objectKey) fun _ _ => rfl
  have hexec : executeAll (acceptCompletion input now row).statements db = .ok db' :=
    executeAll_cons.mpr ⟨db₁, h₁, executeAll_cons.mpr ⟨db', h₂, rfl⟩⟩
  refine ⟨db', ?_, hexec⟩
  simp only [phaseOne, hrow, phaseOneScript_open hexpiry hreplay hopen haccepts, hproblem]
  exact CompletionScript.run_eq_ok.mpr ⟨hexec, rfl⟩

/-- The joined session after phase one accepted it. -/
theorem findUploadSession_accepted {input : RegistryCompleteUploadSessionInput} {now : Instant}
    {db db' : Db} {row : CompletionReplayRow}
    (hrow : db.findUploadSession input.uploadSessionId = some row)
    (hexec : executeAll (acceptCompletion input now row).statements db = .ok db') :
    db'.findUploadSession input.uploadSessionId =
      some
        { row with
          uploadSession := row.uploadSession.markUploaded now input.stagedObject.objectKey
          version := row.version.startCanonicalizing input.stagedObject.objectKey } := by
  obtain ⟨hs, hv, ha, hns, htenant, hdispatch⟩ := Db.findUploadSession_eq_some.mp hrow
  have hsid := Db.findUploadSession_id hrow
  have hvid := Db.findUploadSession_version_id hrow
  have hs' : db'.uploadSession? input.uploadSessionId =
      some (row.uploadSession.markUploaded now input.stagedObject.objectKey) := by
    rw [executeAll_uploadSession? hexec, hs]
    simp [acceptCompletion, CompletionStatement.onSession, hsid]
  have hv' : db'.version? row.uploadSession.assetVersionId =
      some (row.version.startCanonicalizing input.stagedObject.objectKey) := by
    rw [executeAll_version? hexec, hv]
    simp [acceptCompletion, CompletionStatement.onVersion, hvid]
  obtain ⟨db₁, h₁, hexec'⟩ := executeAll_cons.mp hexec
  obtain ⟨db₂, h₂, hnil⟩ := executeAll_cons.mp hexec'
  obtain rfl := Except.ok.inj hnil
  obtain ⟨t₁, -, rfl⟩ := write_eq_ok.mp h₁
  obtain ⟨t₂, -, rfl⟩ := write_eq_ok.mp h₂
  exact Db.findUploadSession_eq_some.mpr ⟨hs', hv', ha, hns, htenant, hdispatch⟩

/-- An accepted session is as little replayable as it was. -/
theorem tryBuildCompletionReplay_accepted {row : CompletionReplayRow} (now : Instant)
    (objectKey : String) (hreplay : tryBuildCompletionReplay row = none) :
    tryBuildCompletionReplay
      { row with
        uploadSession := row.uploadSession.markUploaded now objectKey
        version := row.version.startCanonicalizing objectKey } = none := by
  have hcarries := AssetVersion.carriesEvidence_congr
    (row.version.startCanonicalizing_evidence objectKey)
  exact tryBuildCompletionReplay_eq_none.mpr
    ((tryBuildCompletionReplay_eq_none.mp hreplay).imp_right hcarries.trans)

/-- When two versions may stand in one table. -/
theorem AssetVersion.clash_eq_false_iff {a b : AssetVersion} :
    clash a b = false ↔
      a.id ≠ b.id ∧
      (a.canonicalSourceId.isSome → a.canonicalSourceId ≠ b.canonicalSourceId) ∧
      a.numberKey ≠ b.numberKey := by
  rw [← Bool.not_eq_true]
  simp only [clash, Bool.or_eq_true, sameKey_eq_true, sameNonNullKey_eq_true, not_or, not_and]
  exact and_assoc

@[simp] theorem canonicalEvidence_canonicalSourceId (rt : Runtime) (source : SnapshotResult) :
    (canonicalEvidence rt source).canonicalSourceId = some source.canonicalSourceId := rfl

/-- **The evidence of a version can be recorded** exactly when no other version holds its
canonical source id. -/
theorem recordEvidence_ok_iff {db : Db} {v : AssetVersion} {id : String} {e : CanonicalEvidence}
    (hv : db.version? id = some v) :
    (∃ db', (CompletionStatement.recordEvidence id e).apply db = .ok db') ↔
      ∀ x ∈ db.assetVersions.rows, x.id ≠ id → e.canonicalSourceId.isSome →
        x.canonicalSourceId ≠ e.canonicalSourceId := by
  obtain ⟨hmem, rfl⟩ := Db.version?_eq_some_iff.mp hv
  have hkey : Table.IsKey fun r : AssetVersion => r.id == v.id := by
    intro a b ha hb
    simp [clash, eq_of_beq ha, eq_of_beq hb]
  have hclash : ∀ x ∈ db.assetVersions.rows, x.id ≠ v.id →
      (clash (v.withEvidence e) x = false ↔
        (e.canonicalSourceId.isSome → x.canonicalSourceId ≠ e.canonicalSourceId)) := by
    intro x hx hne
    have hold := Table.clash_eq_false hmem hx fun h => hne (h ▸ rfl)
    obtain ⟨hid, -, hnumber⟩ := AssetVersion.clash_eq_false_iff.mp hold
    rw [AssetVersion.clash_eq_false_iff]
    exact ⟨fun h hsome => (h.2.1 hsome).symm, fun h => ⟨hid, fun hsome => (h hsome).symm, hnumber⟩⟩
  have hupdate : (∃ db', (CompletionStatement.recordEvidence v.id e).apply db = .ok db') ↔
      ∃ t, db.assetVersions.update (fun r => r.id == v.id) (fun r => r.withEvidence e) = .ok t := by
    constructor
    · rintro ⟨db', h⟩
      obtain ⟨t, ht, -⟩ := write_eq_ok.mp h
      exact ⟨t, ht⟩
    · rintro ⟨t, ht⟩
      exact ⟨_, write_eq_ok.mpr ⟨t, ht, rfl⟩⟩
  rw [hupdate, Table.exists_update_iff hkey]
  constructor
  · rintro ⟨r, hr, hrid, hfree⟩ x hx hne
    obtain rfl : r = v := hkey.eq hr hmem hrid (beq_self_eq_true _)
    exact (hclash x hx hne).mp (hfree x hx (by simpa using hne))
  · intro hfree
    refine ⟨v, hmem, beq_self_eq_true _, fun x hx hne => ?_⟩
    have hne' : x.id ≠ v.id := by simpa using hne
    exact (hclash x hx hne').mpr (hfree x hx hne')

/-- A dispatch with a fresh id and a free workflow key can be created. -/
theorem createWorkflowDispatch_ok {db : Db} (row : WorkflowDispatch)
    (hid : ∀ d ∈ db.workflowDispatches.rows, d.id ≠ row.id)
    (hkey : db.findWorkflowDispatch row.workflowKey = none) :
    ∃ db', db.createWorkflowDispatch row = .ok db' := by
  obtain ⟨t, ht⟩ : ∃ t, db.workflowDispatches.insert row = .ok t := by
    refine Table.exists_insert_iff.mpr fun d hd => ?_
    have hkey' := Table.find?_eq_none_iff.mp hkey d hd
    simp only [clash, sameKey, Bool.or_eq_false_iff, decide_eq_false_iff_not]
    exact ⟨hid d hd, by simpa using hkey'⟩
  exact ⟨_, write_eq_ok.mpr ⟨t, ht, rfl⟩⟩

/-- **The statements that follow the lookup of an existing dispatch succeed** exactly when
there is one, or the id of the new dispatch is free. -/
theorem executeAll_phaseTwoDispatch_ok_iff (input : RegistryCompleteUploadSessionInput)
    (source : SnapshotResult) (now : Instant) (row : CompletionReplayRow) {newDispatchId : String}
    {db : Db} :
    (∃ db', executeAll (phaseTwoDispatch input source newDispatchId now row
      (db.findWorkflowDispatch (dispatchWorkflowKey input row))).statements db = .ok db') ↔
      (db.findWorkflowDispatch (dispatchWorkflowKey input row) = none →
        ∀ d ∈ db.workflowDispatches.rows, d.id ≠ newDispatchId) := by
  have hrest : ∀ (event : AuditEvent) (record : IdempotencyRecord) (db : Db),
      ∃ db', executeAll [.createAuditEvent event, .persistIdempotencyRecord record] db =
        .ok db' := by
    intro event record db
    obtain ⟨db₁, h₁⟩ := Db.createAuditEvent_ok db event
    obtain ⟨db₂, h₂⟩ := Db.upsertIdempotencyRecord_ok db₁ record
      (f := fun r =>
        { r with
          completedAt := record.completedAt
          isTerminal := true
          normalizedOperationKey := record.normalizedOperationKey
          normalizedRequestHash := record.normalizedRequestHash
          responseReference := record.responseReference })
      fun _ => rfl
    exact ⟨db₂, executeAll_cons.mpr ⟨db₁, h₁, executeAll_cons.mpr ⟨db₂, h₂, rfl⟩⟩⟩
  cases hexisting : db.findWorkflowDispatch (dispatchWorkflowKey input row) with
  | some existing =>
      refine ⟨fun _ h => ?_, fun _ => hrest _ _ db⟩
      cases h
  | none =>
      constructor
      · rintro ⟨db', h⟩ - d hd
        obtain ⟨db₁, h₁, -⟩ := executeAll_cons.mp h
        obtain ⟨t, ht, -⟩ := write_eq_ok.mp h₁
        have hclash := Table.exists_insert_iff.mp ⟨t, ht⟩ d hd
        simp only [clash, sameKey, Bool.or_eq_false_iff, decide_eq_false_iff_not] at hclash
        exact hclash.1
      · intro hid
        obtain ⟨db₁, h₁⟩ := createWorkflowDispatch_ok
          { id := newDispatchId
            assetVersionId := row.version.id
            workflowTemplateId := input.template
            dispatchReason := "upload-complete"
            dispatchState := .pending
            workflowKey := dispatchWorkflowKey input row
            updatedAt := now } (hid rfl) hexisting
        obtain ⟨db₂, h₂⟩ := hrest _ _ db₁
        exact ⟨db₂, executeAll_cons.mpr ⟨db₁, h₁, h₂⟩⟩

/-- The registry **can record** a canonical source for a session: no other version holds its
id, and there is a dispatch of the workflow or the id of a new one is free. -/
structure Db.CanRecord (db : Db) (input : RegistryCompleteUploadSessionInput)
    (row : CompletionReplayRow) (source : SnapshotResult) (newDispatchId : String) : Prop where
  source : ∀ v ∈ db.assetVersions.rows, v.id ≠ row.version.id →
    v.canonicalSourceId ≠ some source.canonicalSourceId
  dispatch : db.findWorkflowDispatch (dispatchWorkflowKey input row) = none →
    ∀ d ∈ db.workflowDispatches.rows, d.id ≠ newDispatchId

/-- **Phase two succeeds** on a session it has to canonicalize exactly when the registry can
record the canonical source. -/
theorem phaseTwo_ok_iff (rt : Runtime) (now : Instant)
    {input : RegistryCompleteUploadSessionInput} {source : SnapshotResult} {newDispatchId : String}
    {db : Db}
    {row : CompletionReplayRow} (hrow : db.findUploadSession input.uploadSessionId = some row)
    (hreplay : tryBuildCompletionReplay row = none)
    (hstate : row.version.lifecycleState = .canonicalizing) :
    (∃ completed db', phaseTwo rt input source newDispatchId now db = .ok (completed, db')) ↔
      db.CanRecord input row source newDispatchId := by
  have hrecord := recordEvidence_ok_iff (e := canonicalEvidence rt source)
    (Db.findUploadSession_version? hrow)
  simp only [canonicalEvidence_canonicalSourceId, Option.isSome_some, forall_const] at hrecord
  constructor
  · rintro ⟨completed, db', h⟩
    cases phaseTwo_cases h with
    | replay hrow' hreplay' _ =>
        rw [hrow] at hrow'
        obtain rfl := Option.some.inj hrow'
        rw [hreplay] at hreplay'
        exact absurd hreplay' (by simp)
    | canonical hrow' _ _ hevidence hdispatch _ =>
        rw [hrow] at hrow'
        obtain rfl := Option.some.inj hrow'
        obtain ⟨db₁, h₁, hcurrent⟩ := executeAll_cons.mp hevidence
        obtain ⟨db₂, h₂, hnil⟩ := executeAll_cons.mp hcurrent
        obtain rfl := Except.ok.inj hnil
        have hfree := (executeAll_phaseTwoDispatch_ok_iff input source now row).mp ⟨db', hdispatch⟩
        refine ⟨hrecord.mp ⟨db₁, h₁⟩, ?_⟩
        obtain ⟨t₁, -, rfl⟩ := write_eq_ok.mp h₁
        obtain ⟨t₂, -, rfl⟩ := write_eq_ok.mp h₂
        exact hfree
  · intro hcan
    obtain ⟨db₁, h₁⟩ := hrecord.mpr hcan.source
    obtain ⟨-, -, ha, -⟩ := Db.findUploadSession_eq_some.mp hrow
    have haid := (Db.asset?_eq_some_iff.mp ha).2
    have hframe : db₁.asset? row.asset.id = some row.asset ∧
        db₁.workflowDispatches = db.workflowDispatches := by
      obtain ⟨t, -, rfl⟩ := write_eq_ok.mp h₁
      exact ⟨haid ▸ ha, rfl⟩
    obtain ⟨db₂, h₂⟩ := Db.updateAsset_ok hframe.1
      (f := fun r => { r with currentCanonicalVersionId := some row.version.id }) fun _ _ => rfl
    have hdispatches : db₂.workflowDispatches = db.workflowDispatches := by
      obtain ⟨t, -, rfl⟩ := write_eq_ok.mp h₂
      exact hframe.2
    have hfree : db₂.findWorkflowDispatch (dispatchWorkflowKey input row) = none →
        ∀ d ∈ db₂.workflowDispatches.rows, d.id ≠ newDispatchId := by
      unfold Db.findWorkflowDispatch
      rw [hdispatches]
      exact hcan.dispatch
    obtain ⟨db₃, h₃⟩ := (executeAll_phaseTwoDispatch_ok_iff input source now row).mpr hfree
    obtain ⟨completed, hcompleted⟩ : ∃ completed, (phaseTwoDispatch input source newDispatchId now
      row (db₂.findWorkflowDispatch (dispatchWorkflowKey input row))).outcome = .ok completed :=
      ⟨_, rfl⟩
    refine ⟨completed, db₃, ?_⟩
    simp only [phaseTwo, hrow, hreplay, hstate, ne_eq, not_true_eq_false, if_false]
    exact bind_eq_ok.mpr ⟨db₂, executeAll_cons.mpr ⟨db₁, h₁, executeAll_cons.mpr ⟨db₂, h₂, rfl⟩⟩,
      CompletionScript.run_eq_ok.mpr ⟨h₃, hcompleted⟩⟩

/-- **Phase two succeeds**, under a new dispatch id, exactly when no other version holds the
canonical source id. -/
theorem phaseTwo_succeeds_iff (rt : Runtime) (now : Instant)
    {input : RegistryCompleteUploadSessionInput} {source : SnapshotResult} {newDispatchId : String}
    {db : Db}
    {row : CompletionReplayRow} (hrow : db.findUploadSession input.uploadSessionId = some row)
    (hreplay : tryBuildCompletionReplay row = none)
    (hstate : row.version.lifecycleState = .canonicalizing)
    (hid : ∀ d ∈ db.workflowDispatches.rows, d.id ≠ newDispatchId) :
    (∃ completed db', phaseTwo rt input source newDispatchId now db = .ok (completed, db')) ↔
      ∀ v ∈ db.assetVersions.rows, v.id ≠ row.version.id →
        v.canonicalSourceId ≠ some source.canonicalSourceId := by
  rw [phaseTwo_ok_iff rt now hrow hreplay hstate]
  exact ⟨fun h => h.source, fun h => ⟨h, fun _ => hid⟩⟩

/-! ### A registry to run on -/

/-- A registry with one namespace and no asset. -/
def sampleRegistry : Db where
  serviceNamespaces := ⟨[⟨"namespace-1", "media"⟩], by decide⟩

/-- The declared checksum of a sample upload. -/
def sampleChecksum : ObjectChecksum := ⟨"sha256", "5d41402abc4b2a76"⟩

/-- The issuance of a session for a new asset, under an idempotency key. -/
def sampleIssue (key : String) : RegistryIssueUploadSessionInput where
  assetOwner := "customer:acme"
  callerScopeKey := "caller-1"
  checksum := sampleChecksum
  contentType := "application/pdf"
  expiresAt := 1000
  filename := "report.pdf"
  idempotencyKey := key
  normalizedRequestHash := "issue-hash"
  objectKey := "ingest/" ++ key
  serviceNamespaceId := "media"
  byteLength := 5

/-- The issuance of a second version of the sample asset, in its scope. -/
def secondIssue : RegistryIssueUploadSessionInput :=
  { sampleIssue "b" with assetId := some "asset-a" }

/-- The ids of a sample issuance. -/
def sampleIds (key : String) : IssueIds where
  assetId := "asset-" ++ key
  lookupKey := "lookup-" ++ key
  versionId := "version-" ++ key
  uploadSessionId := "session-" ++ key
  uploadSessionId_ne := by
    intro h
    have hlength := congrArg String.length h
    simp only [String.length_append] at hlength
    have hlabel : "session-".length = 8 := by decide
    rw [hlabel] at hlength
    exact absurd hlength (by simp)

/-- A completion of the sample session `key` under the idempotency key `idempotencyKey`,
with staged evidence that matches the declaration. -/
def sampleCompletion (key idempotencyKey : String) : RegistryCompleteUploadSessionInput where
  callerScopeKey := "caller-1"
  idempotencyKey
  normalizedRequestHash := "complete-hash"
  stagedObject :=
    { byteLength := 5
      checksum := sampleChecksum
      descriptor :=
        { bucket := "ingest"
          key := "ingest/" ++ key
          byteLength := 5
          checksum := some sampleChecksum }
      objectKey := "ingest/" ++ key }
  uploadSessionId := "session-" ++ key

/-- The snapshot of a sample upload. -/
def sampleSource (canonicalSourceId : String) : SnapshotResult where
  repositoryEngine := "xet"
  canonicalSourceId
  snapshotId := "snapshot-1"
  logicalPath := "source/report.pdf"

/-- The registry after the issuance of the sample session `key`. -/
def Db.issueSample (db : Db) (key : String) : Db :=
  (issueUploadSession (sampleIssue key) (sampleIds key) 10 db).2

end Cdngine
