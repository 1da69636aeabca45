import Cdngine.StagedEvidence
import Cdngine.CompletionReachability
import Cdngine.CompletionInterleaving

/-!
# Duplicate Completions

A completion that has committed leaves rows that determine its response: the session is
`uploaded`, its version carries evidence and has a dispatch. A later completion of the
session, under another idempotency key, should converge on that response. Both stores look
at the clock first: past its `expiresAt` a completed session is rejected as expired, and
the in-memory store leaves it `expired` as well.

## Main results

* `RegistryStep.uploadedInv`: a session whose version is canonicalizing or settled is
  `uploaded`, in every state that the registry reaches.
* `RegistryStep.keepsCompletion`: no step changes what a completed session replays.
* `completions_converge_iff`: on either store, a later completion converges exactly when it
  is made before the expiry, and on the in-memory store no late call came before it.
* `expired_completion_diverges`: a completed session, completed again past its expiry.
-/

open Relational Runs

namespace Cdngine

/-! ### Sessions of versions that have begun -/

/-- The canonicalization of a version has **begun**: it is in progress, or settled. -/
def Db.Begun (db : Db) (versionId : String) : Prop :=
  db.lifecycle? versionId = some .canonicalizing ∨ db.Settled versionId

/-- **The invariant of the sessions**: a session has a version, and it is uploaded when the
canonicalization of its version has begun. -/
structure Db.UploadedInv (db : Db) : Prop where
  version : ∀ {id s}, db.uploadSession? id = some s → (db.version? s.assetVersionId).isSome
  uploaded : ∀ {id s}, db.uploadSession? id = some s → db.Begun s.assetVersionId →
    s.state = .uploaded

theorem Db.Unchanged.begun_iff {db db' : Db} {id : String} (h : db.Unchanged db' id) :
    db'.Begun id ↔ db.Begun id := by
  unfold Begun
  rw [h.settled_iff, Db.lifecycle?, Db.lifecycle?, h.1]

/-- Only phase one begins a canonicalization. -/
theorem LifecycleEdge.of_canonicalizing {writer : LifecycleWriter} {s : Option AssetVersionState}
    (h : LifecycleEdge writer s .canonicalizing) : writer = .phaseOne := by
  generalize hstate : AssetVersionState.canonicalizing = state at h
  cases h with
  | accept => rfl
  | operate =>
      rename_i step _
      cases step <;> cases hstate
  | _ => cases hstate

/-- A version that is canonicalizing after a move of another writer was so before. -/
theorem LifecycleMove.canonicalizing {writer : LifecycleWriter} {marked : Option String}
    {id : String} {s s' : Option AssetVersionState} (h : LifecycleMove writer marked id s s')
    (hwriter : writer ≠ .phaseOne) (hs' : s' = some .canonicalizing) :
    s = some .canonicalizing := by
  rcases h with rfl | ⟨state, hstate, hedge, -⟩
  · exact hs'
  · obtain rfl := Option.some.inj (hstate.symm.trans hs')
    exact absurd hedge.of_canonicalizing hwriter

/-- The sessions and the idempotency records are the same. -/
structure Db.SameUploads (db db' : Db) : Prop where
  uploadSessions : db'.uploadSessions = db.uploadSessions
  idempotencyRecords : db'.idempotencyRecords = db.idempotencyRecords

/-- A transaction keeps the sessions and records when its commit does. -/
theorem Db.SameUploads.of_transact {α : Type} {tx : Transaction α} {db : Db}
    (h : ∀ a db', tx db = .ok (a, db') → db.SameUploads db') :
    db.SameUploads (transact tx db).2 := by
  rcases transact_snd tx db with ⟨a, ha⟩ | hsame
  · exact h a _ ha
  · rw [hsame]
    exact ⟨rfl, rfl⟩

namespace PublicationStore

variable {ε : Type} {store : PublicationStore ε} {db db' : Db}

theorem begin_sameUploads {versionId : String} {record : CanonicalVersionRecord ε}
    (h : store.begin versionId db = .ok (record, db')) : db.SameUploads db' := by
  obtain ⟨row, -, -, hdb, -⟩ := begin_cases h
  unfold startProcessing at hdb
  split at hdb
  · obtain rfl := Except.ok.inj hdb
    exact ⟨rfl, rfl⟩
  · obtain ⟨t, -, rfl⟩ := write_eq_ok.mp hdb
    exact ⟨rfl, rfl⟩

theorem publish_sameUploads {rt : Runtime} {versionId deliveryScopeId : String}
    {derivatives : List PublishedDerivativeRecord} {manifest : PublishedManifestRecord}
    {record : CanonicalVersionRecord ε}
    (h : store.publish rt versionId deliveryScopeId derivatives manifest db = .ok (record, db')) :
    db.SameUploads db' := by
  obtain ⟨row, -, -, -, -, db₁, db₂, h₁, h₂, h₃⟩ := publish_cases h
  obtain ⟨t₁, rfl⟩ := upsertDerivatives_frame h₁
  obtain ⟨t₂, -, rfl⟩ := write_eq_ok.mp h₂
  obtain ⟨t₃, -, rfl⟩ := write_eq_ok.mp h₃
  exact ⟨rfl, rfl⟩

end PublicationStore

/-- An operation of one transaction issues a session, or it leaves the sessions and the
records as they are. -/
theorem RegistryOperation.sameUploads (rt : Runtime) (op : RegistryOperation) (db : Db) :
    (∃ input ids now, op = .issueUploadSession input ids now) ∨
      db.SameUploads (op.run rt db) := by
  cases op with
  | issueUploadSession input ids now => exact Or.inl ⟨input, ids, now, rfl⟩
  | beginPublication kind versionId =>
      right
      cases kind with
      | genericAsset =>
          exact Db.SameUploads.of_transact fun _ _ h => PublicationStore.begin_sameUploads h
      | image => exact Db.SameUploads.of_transact fun _ _ h => PublicationStore.begin_sameUploads h
      | presentation =>
          exact Db.SameUploads.of_transact fun _ _ h => PublicationStore.begin_sameUploads h
  | publishVersion kind versionId deliveryScopeId derivatives manifest =>
      right
      cases kind with
      | genericAsset =>
          exact Db.SameUploads.of_transact fun _ _ h => PublicationStore.publish_sameUploads h
      | image =>
          exact Db.SameUploads.of_transact fun _ _ h => PublicationStore.publish_sameUploads h
      | presentation =>
          exact Db.SameUploads.of_transact fun _ _ h => PublicationStore.publish_sameUploads h
  | markRunning input =>
      refine Or.inr (Db.SameUploads.of_transact fun _ _ h => ?_)
      obtain ⟨db₁, h₁, h⟩ := bind_eq_ok.mp h
      obtain ⟨db₂, h₂, h⟩ := bind_eq_ok.mp h
      obtain ⟨-, rfl⟩ := Prod.mk.inj (Except.ok.inj h)
      obtain ⟨t₁, -, rfl⟩ := write_eq_ok.mp h₁
      obtain ⟨t₂, -, rfl⟩ := write_eq_ok.mp h₂
      exact ⟨rfl, rfl⟩
  | markCompleted input =>
      refine Or.inr (Db.SameUploads.of_transact fun _ _ h => ?_)
      obtain ⟨db₁, h₁, h⟩ := bind_eq_ok.mp h
      obtain ⟨db₂, h₂, h⟩ := bind_eq_ok.mp h
      obtain ⟨-, rfl⟩ := Prod.mk.inj (Except.ok.inj h)
      obtain ⟨t₁, -, rfl⟩ := write_eq_ok.mp h₁
      obtain ⟨t₂, -, rfl⟩ := write_eq_ok.mp h₂
      exact ⟨rfl, rfl⟩
  | markFailedRetryable input =>
      refine Or.inr (Db.SameUploads.of_transact fun _ _ h => ?_)
      obtain ⟨db₁, h₁, h⟩ := bind_eq_ok.mp h
      obtain ⟨db₂, h₂, h⟩ := bind_eq_ok.mp h
      obtain ⟨db₃, h₃, h⟩ := bind_eq_ok.mp h
      obtain ⟨-, rfl⟩ := Prod.mk.inj (Except.ok.inj h)
      obtain ⟨t₁, -, rfl⟩ := write_eq_ok.mp h₁
      obtain ⟨t₂, -, rfl⟩ := write_eq_ok.mp h₂
      obtain ⟨t₃, -, rfl⟩ := write_eq_ok.mp h₃
      exact ⟨rfl, rfl⟩
  | operator step versionId =>
      refine Or.inr (Db.SameUploads.of_transact fun _ _ h => ?_)
      unfold operatorTransaction at h
      split at h
      · cases h
      · split at h
        · obtain ⟨db₁, h₁, h⟩ := bind_eq_ok.mp h
          obtain ⟨-, rfl⟩ := Prod.mk.inj (Except.ok.inj h)
          obtain ⟨t, -, rfl⟩ := write_eq_ok.mp h₁
          exact ⟨rfl, rfl⟩
        · cases h

/-- The version of an issuance is new. -/
theorem issueTransaction_newVersion {input : RegistryIssueUploadSessionInput} {ids : IssueIds}
    {now : Instant} {db db' : Db} {issued : RegistryIssuedUploadSession}
    (h : issueTransaction input ids now db = .ok (issued, db')) :
    db.version? ids.versionId = none := by
  obtain ⟨assetId, number, db₁, db₂, db₃, h₁, h₂, -, -⟩ := issueTransaction_cases h
  have hsame : db₁.assetVersions = db.assetVersions := by
    rcases h₁ with rfl | ⟨row, h₁⟩
    · rfl
    · obtain ⟨t, -, rfl⟩ := write_eq_ok.mp h₁
      rfl
  obtain ⟨t, ht, -⟩ := write_eq_ok.mp h₂
  rw [hsame] at ht
  refine Table.find?_eq_none_iff.mpr fun v hv => ?_
  have hfree := (Table.insert_eq_ok_iff.mp ht).1 v hv
  have hid := (AssetVersion.clash_eq_false_iff.mp hfree).1
  simpa [issuedVersion] using hid

/-- The sessions after an operation: those there were, and one whose version is new. -/
theorem RegistryOperation.uploadSession?_cases {rt : Runtime} {op : RegistryOperation} {db : Db}
    {id : String} {s : UploadSession} (h : (op.run rt db).uploadSession? id = some s) :
    db.uploadSession? id = some s ∨
      db.uploadSession? id = none ∧ db.version? s.assetVersionId = none ∧
        ∃ v, (op.run rt db).version? s.assetVersionId = some v ∧
          v.lifecycleState = .sessionCreated ∧ v.carriesEvidence = false := by
  rcases op.sameUploads rt db with ⟨input, ids, now, rfl⟩ | hsame
  swap
  · rw [Db.uploadSession?, hsame.uploadSessions] at h
    exact Or.inl h
  simp only [run] at h ⊢
  rcases transact_snd (issueTransaction input ids now) db with ⟨issued, hissued⟩ | hsame
  swap
  · rw [hsame] at h
    exact Or.inl h
  obtain ⟨assetId, number, hrows⟩ := issueTransaction_issued hissued
  rw [hrows.uploadSession?] at h
  cases hs : db.uploadSession? id with
  | some s' =>
      rw [hs, Option.some_or] at h
      exact Or.inl h
  | none =>
      rw [hs, Option.none_or] at h
      split at h
      · obtain rfl := Option.some.inj h
        have hnew := issueTransaction_newVersion hissued
        refine Or.inr ⟨rfl, hnew, issuedVersion input ids assetId number, ?_, rfl, rfl⟩
        rw [hrows.version?]
        have hnone : db.version? (issuedSession input ids now).assetVersionId = none := hnew
        rw [hnone, Option.none_or]
        exact if_pos rfl
      · cases h

/-- A version that only moves, and not into `canonicalizing`, has begun no more than it
had. -/
theorem Db.Begun.of_moves {db db' : Db} {id : String} (h : db'.Begun id)
    (hsome : (db.version? id).isSome) (honly : db.OnlyMoves db')
    (hstate : db'.lifecycle? id = some .canonicalizing → db.lifecycle? id = some .canonicalizing) :
    db.Begun id := by
  rcases h with hlifecycle | ⟨v', hv', hcarries, hdispatches⟩
  · exact Or.inl (hstate hlifecycle)
  · obtain ⟨v, hv⟩ := Option.isSome_iff_exists.mp hsome
    obtain ⟨state, hmoved⟩ := honly.version? hv
    obtain rfl := Option.some.inj (hmoved.symm.trans hv')
    refine Or.inr ⟨v, hv, hcarries, ?_⟩
    rw [Db.dispatchesOf, honly.dispatches] at hdispatches
    exact hdispatches

/-- The `catch` of a completion leaves the sessions as they are. -/
theorem recoverFailedCompletion_uploadSessions (input : RegistryCompleteUploadSessionInput)
    (versionId : String) (cause : RegistryError) (db : Db) :
    (recoverFailedCompletion input versionId cause db).2.uploadSessions = db.uploadSessions := by
  unfold recoverFailedCompletion
  split
  · rename_i happly
    obtain ⟨t, -, rfl⟩ := write_eq_ok.mp happly
    rfl
  · rfl

/-- The statements of phase two write no session. -/
theorem phaseTwo_onSession (rt : Runtime) (input : RegistryCompleteUploadSessionInput)
    (source : SnapshotResult) (newDispatchId : String) (now : Instant) (row : CompletionReplayRow)
    (existing : Option WorkflowDispatch) (id : String) (s : UploadSession) :
    (phaseTwoEvidence rt source row ++
      (phaseTwoDispatch input source newDispatchId now row existing).statements).foldl
        (fun r st => st.onSession id r) s = s := by
  cases existing <;> rfl

/-- Phase two leaves the sessions as they are. -/
theorem phaseTwo_uploadSession? {rt : Runtime} {input : RegistryCompleteUploadSessionInput}
    {source : SnapshotResult} {newDispatchId : String} {now : Instant} {db db' : Db}
    {completed : RegistryCompletedUploadSession}
    (h : phaseTwo rt input source newDispatchId now db = .ok (completed, db')) (id : String) :
    db'.uploadSession? id = db.uploadSession? id := by
  cases phaseTwo_cases h with
  | replay _ _ hexec =>
      rw [executeAll_uploadSession? hexec]
      exact Option.map_id'
  | canonical _ _ _ hevidence hdispatch _ =>
      rw [executeAll_uploadSession? (executeAll_append.mpr ⟨_, hevidence, hdispatch⟩)]
      simp only [phaseTwo_onSession, Option.map_id']

namespace Db.UploadedInv

variable {rt : Runtime} {db db' : Db}

/-- A session that was there before keeps its version. -/
theorem version_of_keepsIssued (hinv : db.UploadedInv) (hkeeps : db.KeepsIssued db') {id : String}
    {s : UploadSession} (hs : db.uploadSession? id = some s) :
    (db'.version? s.assetVersionId).isSome := by
  obtain ⟨v, hv⟩ := Option.isSome_iff_exists.mp (hinv.version hs)
  obtain ⟨v', hv', -⟩ := hkeeps.version? hv
  rw [hv']
  rfl

theorem operation (hinv : db.UploadedInv) (op : RegistryOperation) :
    (op.run rt db).UploadedInv where
  version hs := by
    rcases RegistryOperation.uploadSession?_cases hs with hold | ⟨-, -, v, hv, -⟩
    · exact hinv.version_of_keepsIssued (.operation rt op db) hold
    · rw [hv]
      rfl
  uploaded hs hbegun := by
    rename_i id s
    rcases RegistryOperation.uploadSession?_cases hs with hold | ⟨-, -, v, hv, hstate, hcarries⟩
    · refine hinv.uploaded hold
        (hbegun.of_moves (hinv.version hold) (op.onlyMoves rt db) fun h => ?_)
      refine (op.lifecycleMove rt db s.assetVersionId).canonicalizing (fun hwriter => ?_) h
      cases op <;> cases hwriter
    · rcases hbegun with hlifecycle | ⟨v', hv', hcarries', -⟩
      · rw [Db.lifecycle?, hv, Option.map_some, hstate] at hlifecycle
        cases hlifecycle
      · obtain rfl := Option.some.inj (hv.symm.trans hv')
        rw [hcarries] at hcarries'
        cases hcarries'

theorem recoverFailedCompletion (hinv : db.UploadedInv) (input : RegistryCompleteUploadSessionInput)
    (versionId : String) (cause : RegistryError) :
    (recoverFailedCompletion input versionId cause db).2.UploadedInv := by
  have hkeeps := Db.KeepsIssued.recoverFailedCompletion input versionId cause db
  have honly := recoverFailedCompletion_onlyMoves input versionId cause db
  have hsessions := recoverFailedCompletion_uploadSessions input versionId cause db
  have hmove : ∀ id, (Cdngine.recoverFailedCompletion input versionId cause db).2.lifecycle? id =
      some .canonicalizing → db.lifecycle? id = some .canonicalizing := by
    intro id h
    rcases recoverFailedCompletion_db input versionId cause db with hsame | ⟨hmoved, hsome⟩
    · rw [← hsame]
      exact h
    · obtain ⟨v, hv⟩ := Option.isSome_iff_exists.mp hsome
      exact (hmoved.lifecycleMove hv .recover (fun _ => rfl) id).canonicalizing
        (fun h => by cases h) h
  constructor
  · intro id s hs
    rw [Db.uploadSession?, hsessions] at hs
    exact hinv.version_of_keepsIssued hkeeps hs
  · intro id s hs hbegun
    rw [Db.uploadSession?, hsessions] at hs
    exact hinv.uploaded hs (hbegun.of_moves (hinv.version hs) honly (hmove _))

/-- Statements that concern one version keep the invariant when they leave its session
uploaded, should its canonicalization have begun. -/
theorem executeAll {ss : List CompletionStatement} (hinv : db.UploadedInv) (versionId : String)
    (h : executeAll ss db = .ok db')
    (hunchanged : ∀ id, id ≠ versionId → db.Unchanged db' id)
    (hother : ∀ {id s}, db.uploadSession? id = some s → s.assetVersionId ≠ versionId →
      ss.foldl (fun r st => st.onSession id r) s = s)
    (hown : ∀ {id s}, db.uploadSession? id = some s → s.assetVersionId = versionId →
      db'.Begun versionId → (ss.foldl (fun r st => st.onSession id r) s).state = .uploaded) :
    db'.UploadedInv := by
  have hold : ∀ {id s'}, db'.uploadSession? id = some s' → ∃ s, db.uploadSession? id = some s ∧
      s' = ss.foldl (fun r st => st.onSession id r) s ∧ s'.assetVersionId = s.assetVersionId := by
    intro id s' hs'
    rw [executeAll_uploadSession? h] at hs'
    obtain ⟨s, hs, rfl⟩ := Option.map_eq_some_iff.mp hs'
    obtain ⟨s'', hs'', hversion, -⟩ := (Db.KeepsIssued.executeAll h).uploadSession? hs
    rw [executeAll_uploadSession? h, hs] at hs''
    obtain rfl := Option.some.inj hs''
    exact ⟨s, hs, rfl, hversion⟩
  constructor
  · intro id s' hs'
    obtain ⟨s, hs, -, hversion⟩ := hold hs'
    rw [hversion]
    exact hinv.version_of_keepsIssued (.executeAll h) hs
  · intro id s' hs' hbegun
    obtain ⟨s, hs, rfl, hversion⟩ := hold hs'
    rw [hversion] at hbegun
    by_cases hid : s.assetVersionId = versionId
    · exact hown hs hid (hid ▸ hbegun)
    · rw [hother hs hid]
      exact hinv.uploaded hs ((hunchanged _ hid).begun_iff.mp hbegun)

/-- The replay of a completed session keeps the invariant. -/
theorem replayCompletion {α : Type} {input : RegistryCompleteUploadSessionInput} {now : Instant}
    {replay : RegistryCompletedUploadSession} {result : RegistryCompletedUploadSession → α}
    (hinv : db.UploadedInv)
    (h : Cdngine.executeAll (replayCompletion input now replay result).statements db = .ok db') :
    db'.UploadedInv := by
  have hunchanged : ∀ id, db.Unchanged db' id := fun id =>
    executeAll_unchanged h (fun s hs => by
      obtain rfl := List.mem_singleton.mp hs
      simp [CompletionStatement.lock]) fun s hs d hd => by
      obtain rfl := List.mem_singleton.mp hs
      cases hd
  refine hinv.executeAll replay.versionId h (fun id _ => hunchanged id) (fun _ _ => rfl) ?_
  intro id s hs hid hbegun
  exact hinv.uploaded hs (hid ▸ (hunchanged _).begun_iff.mp hbegun)

/-- A session for the version of a joined session is that session. -/
theorem session_of_row {input : RegistryCompleteUploadSessionInput} {row : CompletionReplayRow}
    (hrow : db.findUploadSession input.uploadSessionId = some row) {id : String} {s : UploadSession}
    (hs : db.uploadSession? id = some s) (hversion : s.assetVersionId = row.version.id) :
    id = row.uploadSession.id ∧ s = row.uploadSession := by
  have hsession := (Db.findUploadSession_eq_some.mp hrow).1
  have hsame : id = input.uploadSessionId :=
    Db.eq_of_assetVersionId hs hsession (hversion.trans (Db.findUploadSession_version_id hrow))
  refine ⟨hsame.trans (Db.findUploadSession_id hrow).symm, ?_⟩
  rw [hsame] at hs
  exact Option.some.inj (hs.symm.trans hsession)

/-- The statement that writes a session leaves the sessions of other versions alone. -/
theorem onSession_of_ne {input : RegistryCompleteUploadSessionInput} {row : CompletionReplayRow}
    (hrow : db.findUploadSession input.uploadSessionId = some row) {id : String} {s : UploadSession}
    (hs : db.uploadSession? id = some s) (hversion : s.assetVersionId ≠ row.version.id) :
    id ≠ row.uploadSession.id := by
  rintro rfl
  have hsession := (Db.findUploadSession_eq_some.mp hrow).1
  rw [← Db.findUploadSession_id hrow] at hsession
  obtain rfl := Option.some.inj (hsession.symm.trans hs)
  exact hversion (Db.findUploadSession_version_id hrow).symm

theorem phaseOne {input : RegistryCompleteUploadSessionInput} {now : Instant}
    {result : PhaseOneResult} (hinv : db.UploadedInv)
    (h : phaseOne input now db = .ok (result, db')) : db'.UploadedInv := by
  cases phaseOne_cases h with
  | replay _ _ _ hexec => exact hinv.replayCompletion hexec
  | @validationFailure row problemType detail _ hrow _ hreplay _ _ _ hexec =>
      refine hinv.executeAll row.version.id hexec (fun id hid => ?_) (fun hs hne => ?_) ?_
      · refine executeAll_unchanged hexec (fun s hs => ?_) fun s hs d hd => ?_
        · simp only [recordValidationFailure, List.mem_cons, List.not_mem_nil, or_false] at hs
          rcases hs with rfl | rfl | rfl <;> simp [CompletionStatement.lock, Ne.symm hid]
        · simp only [recordValidationFailure, List.mem_cons, List.not_mem_nil, or_false] at hs
          rcases hs with rfl | rfl | rfl <;> cases hd
      · simp [recordValidationFailure, CompletionStatement.onSession, onSession_of_ne hrow hs hne]
      · intro id s hs hid hbegun
        -- the version has failed, and is no more settled than it was
        exfalso
        have hv : db'.version? row.version.id = some row.version.failValidation := by
          rw [executeAll_version? hexec, Db.findUploadSession_version? hrow]
          simp [recordValidationFailure, CompletionStatement.onVersion]
        rcases hbegun with hlifecycle | ⟨v, hv', hcarries, hdispatches⟩
        · rw [Db.lifecycle?, hv] at hlifecycle
          cases hlifecycle
        · obtain rfl := Option.some.inj (hv.symm.trans hv')
          have hsettled : db.Settled row.version.id := by
            refine ⟨row.version, Db.findUploadSession_version? hrow, hcarries, ?_⟩
            have hrows : db'.workflowDispatches.rows = db.workflowDispatches.rows :=
              (executeAll_dispatches hexec).trans (List.append_nil _)
            rw [Db.dispatchesOf, hrows] at hdispatches
            exact hdispatches
          rw [Db.settled_iff_replayable hrow, hreplay] at hsettled
          cases hsettled
  | @request row _ hrow _ _ _ _ _ hexec =>
      refine hinv.executeAll row.version.id hexec (fun id hid => ?_) (fun hs hne => ?_) ?_
      · refine executeAll_unchanged hexec (fun s hs => ?_) fun s hs d hd => ?_
        · simp only [acceptCompletion, List.mem_cons, List.not_mem_nil, or_false] at hs
          rcases hs with rfl | rfl <;> simp [CompletionStatement.lock, Ne.symm hid]
        · simp only [acceptCompletion, List.mem_cons, List.not_mem_nil, or_false] at hs
          rcases hs with rfl | rfl <;> cases hd
      · simp [acceptCompletion, CompletionStatement.onSession, onSession_of_ne hrow hs hne]
      · intro id s hs hid _
        obtain ⟨rfl, rfl⟩ := session_of_row hrow hs hid
        simp [acceptCompletion, CompletionStatement.onSession, UploadSession.markUploaded]

theorem phaseTwo {input : RegistryCompleteUploadSessionInput} {source : SnapshotResult}
    {newDispatchId : String} {now : Instant} {completed : RegistryCompletedUploadSession}
    (hinv : db.UploadedInv)
    (h : phaseTwo rt input source newDispatchId now db = .ok (completed, db')) :
    db'.UploadedInv := by
  cases phaseTwo_cases h with
  | replay _ _ hexec => exact hinv.replayCompletion hexec
  | @canonical row _ db₁ _ hrow hreplay hstate hevidence hdispatch _ =>
      have hexec := executeAll_append.mpr ⟨db₁, hevidence, hdispatch⟩
      refine hinv.executeAll row.version.id hexec (fun id hid => ?_)
        (fun _ _ => phaseTwo_onSession _ _ _ _ _ _ _ _ _) ?_
      · refine executeAll_unchanged hexec (fun s hs => ?_) fun s hs d hd => ?_
        · cases hfind : db₁.findWorkflowDispatch (dispatchWorkflowKey input row) <;>
            simp only [hfind, phaseTwoEvidence, phaseTwoDispatch, Option.isSome_none,
              Option.isSome_some, Bool.false_eq_true, if_false, if_true, List.nil_append,
              List.cons_append, List.mem_cons, List.not_mem_nil, or_false] at hs
          · rcases hs with rfl | rfl | rfl | rfl | rfl <;>
              simp [CompletionStatement.lock, Ne.symm hid]
          · rcases hs with rfl | rfl | rfl | rfl <;> simp [CompletionStatement.lock, Ne.symm hid]
        · cases hfind : db₁.findWorkflowDispatch (dispatchWorkflowKey input row) <;>
            simp only [hfind, phaseTwoEvidence, phaseTwoDispatch, Option.isSome_none,
              Option.isSome_some, Bool.false_eq_true, if_false, if_true, List.nil_append,
              List.cons_append, List.mem_cons, List.not_mem_nil, or_false] at hs
          · rcases hs with rfl | rfl | rfl | rfl | rfl <;> cases hd
            exact Ne.symm hid
          · rcases hs with rfl | rfl | rfl | rfl <;> cases hd
      · intro id s hs hid _
        rw [phaseTwo_onSession]
        obtain ⟨rfl, rfl⟩ := session_of_row hrow hs hid
        refine hinv.uploaded hs (Or.inl ?_)
        rw [hid, Db.lifecycle?, Db.findUploadSession_version? hrow, Option.map_some, hstate]

end Db.UploadedInv

/-- **Every step keeps the invariant of the sessions.** -/
theorem RegistryStep.uploadedInv {rt : Runtime} {sys sys' : RegistrySystem} {a : RegistryAction}
    (h : RegistryStep rt sys a sys') (hinv : sys.db.UploadedInv) : sys'.db.UploadedInv :=
  h.relates (R := fun db db' => db.UploadedInv → db'.UploadedInv) (fun _ hinv => hinv)
    (fun op _ _ hinv => hinv.operation op) (fun hone hinv => hinv.phaseOne hone)
    (fun htwo hinv => hinv.phaseTwo htwo)
    (fun input versionId cause _ hinv => hinv.recoverFailedCompletion input versionId cause) hinv

/-- A registry that has served no request satisfies it. -/
theorem RegistrySystem.Fresh.uploadedInv {sys : RegistrySystem} (h : sys.Fresh) :
    sys.db.UploadedInv where
  version hs := by simp [Db.uploadSession?, Table.find?, h.sessions] at hs
  uploaded hs := by simp [Db.uploadSession?, Table.find?, h.sessions] at hs

/-! ### What a completed session replays -/

/-- Two responses are of the **same completion**: the same asset, version, canonical source
and workflow dispatch. -/
structure RegistryCompletedUploadSession.Same (r r' : RegistryCompletedUploadSession) : Prop where
  assetId : r'.assetId = r.assetId
  uploadSessionId : r'.uploadSessionId = r.uploadSessionId
  versionId : r'.versionId = r.versionId
  canonicalSource : r'.canonicalSource = r.canonicalSource
  dispatchId : r'.workflowDispatch.dispatchId = r.workflowDispatch.dispatchId
  workflowKey : r'.workflowDispatch.workflowKey = r.workflowDispatch.workflowKey

theorem RegistryCompletedUploadSession.Same.refl (r : RegistryCompletedUploadSession) : r.Same r :=
  ⟨rfl, rfl, rfl, rfl, rfl, rfl⟩

theorem RegistryCompletedUploadSession.Same.trans {r r' r'' : RegistryCompletedUploadSession}
    (h : r.Same r') (h' : r'.Same r'') : r.Same r'' where
  assetId := h'.assetId.trans h.assetId
  uploadSessionId := h'.uploadSessionId.trans h.uploadSessionId
  versionId := h'.versionId.trans h.versionId
  canonicalSource := h'.canonicalSource.trans h.canonicalSource
  dispatchId := h'.dispatchId.trans h.dispatchId
  workflowKey := h'.workflowKey.trans h.workflowKey

/-- The snapshot of a version depends on its evidence only. -/
theorem canonicalSnapshotFromRow_congr {v v' : AssetVersion} (h : v'.evidence = v.evidence) :
    (canonicalSnapshotFromRow v').toOption = (canonicalSnapshotFromRow v).toOption := by
  simp only [AssetVersion.evidence, CanonicalEvidence.mk.injEq] at h
  obtain ⟨hengine, hsource, hsnapshot, hpath, hdigests, hlogical, hstored, hmetrics, hhandles,
    hhints⟩ := h
  simp only [canonicalSnapshotFromRow, hengine, hsource, hsnapshot, hpath, hdigests, hlogical,
    hstored, hmetrics, hhandles, hhints]
  cases present v.repositoryEngine <;> cases present v.canonicalSourceId <;>
    cases present v.canonicalSnapshotId <;> cases present v.canonicalLogicalPath <;> rfl

/-- The response that a joined session gives with a dispatch and a snapshot. -/
def CompletionReplayRow.replayOf (row : CompletionReplayRow) (dispatch : WorkflowDispatch)
    (canonicalSource : SnapshotResult) : RegistryCompletedUploadSession where
  assetId := row.asset.id
  canonicalSource
  uploadSessionId := row.uploadSession.id
  versionId := row.version.id
  versionState := mapCompletionVersionState row.version.lifecycleState
  workflowDispatch :=
    { dispatchId := dispatch.id
      state := dispatch.dispatchState
      workflowKey := dispatch.workflowKey }

theorem tryBuildCompletionReplay_eq_some {row : CompletionReplayRow}
    {result : RegistryCompletedUploadSession} :
    tryBuildCompletionReplay row = some result ↔
      ∃ dispatch source, row.workflowDispatch = some dispatch ∧
        (canonicalSnapshotFromRow row.version).toOption = some source ∧
        result = row.replayOf dispatch source := by
  simp only [tryBuildCompletionReplay, Option.bind_eq_bind, Option.bind_eq_some_iff,
    Option.some.injEq]
  constructor
  · rintro ⟨d, hd, source, hsource, rfl⟩
    exact ⟨d, source, hd, hsource, rfl⟩
  · rintro ⟨d, source, hd, hsource, rfl⟩
    exact ⟨d, hd, source, hsource, rfl⟩

/-- **A completed session keeps its response**: it stays as it is, and what it replays is
the same completion. -/
def Db.KeepsCompletion (uploadSessionId : String) (db db' : Db) : Prop :=
  ∀ {row result}, db.findUploadSession uploadSessionId = some row →
    tryBuildCompletionReplay row = some result →
    ∃ row' result', db'.findUploadSession uploadSessionId = some row' ∧
      tryBuildCompletionReplay row' = some result' ∧ row'.uploadSession = row.uploadSession ∧
      result.Same result'

namespace Db.KeepsCompletion

variable {uploadSessionId : String} {db db' db₁ db₂ db₃ : Db}

theorem refl (db : Db) : db.KeepsCompletion uploadSessionId db :=
  fun hrow hresult => ⟨_, _, hrow, hresult, rfl, .refl _⟩

theorem trans (h₁ : db₁.KeepsCompletion uploadSessionId db₂)
    (h₂ : db₂.KeepsCompletion uploadSessionId db₃) : db₁.KeepsCompletion uploadSessionId db₃ := by
  intro row result hrow hresult
  obtain ⟨row₂, result₂, hrow₂, hresult₂, hsession₂, hsame₂⟩ := h₁ hrow hresult
  obtain ⟨row₃, result₃, hrow₃, hresult₃, hsession₃, hsame₃⟩ := h₂ hrow₂ hresult₂
  exact ⟨row₃, result₃, hrow₃, hresult₃, hsession₃.trans hsession₂, hsame₂.trans hsame₃⟩

/-- The response is kept when the rows it is built from are. -/
theorem of_rows (hissued : db.KeepsIssued db')
    (hrows : ∀ {row}, db.findUploadSession uploadSessionId = some row → db.Settled row.version.id →
      db'.uploadSession? uploadSessionId = some row.uploadSession ∧
      (∃ v', db'.version? row.version.id = some v' ∧ v'.evidence = row.version.evidence) ∧
      db.dispatchesOf row.version.id <+: db'.dispatchesOf row.version.id) :
    db.KeepsCompletion uploadSessionId db' := by
  intro row result hrow hresult
  have hsettled : db.Settled row.version.id :=
    (settled_iff_replayable hrow).mpr (by rw [hresult]; rfl)
  obtain ⟨hsession, ⟨v', hv', hevidence⟩, hdispatches⟩ := hrows hrow hsettled
  obtain ⟨hs, hv, ha, ⟨ns, hns, hname⟩, htenant, hdispatch⟩ := findUploadSession_eq_some.mp hrow
  obtain ⟨v'', hv'', hasset, -⟩ := hissued.version? (findUploadSession_version? hrow)
  obtain rfl := Option.some.inj (hv'.symm.trans hv'')
  obtain ⟨a', ha', hnamespace, htenantScope⟩ := hissued.asset? ha
  obtain ⟨d, hd⟩ : ∃ d, row.workflowDispatch = some d := by
    cases hd : row.workflowDispatch with
    | some d => exact ⟨d, rfl⟩
    | none =>
        rw [tryBuildCompletionReplay_eq_none.mpr (Or.inl hd)] at hresult
        cases hresult
  have hhead : (db'.dispatchesOf row.version.id).head? = some d := by
    obtain ⟨new, hnew⟩ := hdispatches
    rw [hd] at hdispatch
    rw [← hnew, List.head?_append, ← hdispatch]
    rfl
  have hvid := (version?_eq_some_iff.mp hv').2
  have haid : a'.id = row.asset.id :=
    (asset?_eq_some_iff.mp ha').2.trans (asset?_eq_some_iff.mp ha).2.symm
  let row' : CompletionReplayRow :=
    { row with
      version := v'
      asset := a'
      tenantId := (a'.tenantScopeId.bind db'.tenantScope?).map (·.externalTenantId) }
  have hrow' : db'.findUploadSession uploadSessionId = some row' := by
    refine findUploadSession_eq_some.mpr ⟨hsession, ?_, ?_, ⟨ns, ?_, hname⟩, rfl, ?_⟩
    · rw [← findUploadSession_version_id hrow]
      exact hv'
    · rw [hasset]
      exact ha'
    · rw [hnamespace, Db.serviceNamespace?, hissued.serviceNamespaces]
      exact hns
    · rw [hvid, hhead]
      exact hd
  obtain ⟨d', source, hd', hsource, rfl⟩ := tryBuildCompletionReplay_eq_some.mp hresult
  obtain rfl := Option.some.inj (hd.symm.trans hd')
  have hresult' : tryBuildCompletionReplay row' = some (row'.replayOf d source) :=
    tryBuildCompletionReplay_eq_some.mpr
      ⟨d, source, hd, (canonicalSnapshotFromRow_congr hevidence).trans hsource, rfl⟩
  exact ⟨row', _, hrow', hresult', rfl, haid, rfl, hvid, rfl, rfl, rfl⟩

/-- The dispatches of a version are kept when the dispatches are. -/
theorem dispatchesOf_prefix (h : db.workflowDispatches.rows <+: db'.workflowDispatches.rows)
    (id : String) : db.dispatchesOf id <+: db'.dispatchesOf id := by
  obtain ⟨new, hnew⟩ := h
  rw [Db.dispatchesOf, Db.dispatchesOf, ← hnew, List.filter_append]
  exact List.prefix_append _ _

/-- Transactions that only move versions keep the response. -/
theorem of_onlyMoves (hissued : db.KeepsIssued db') (honly : db.OnlyMoves db')
    (hsession : ∀ {s}, db.uploadSession? uploadSessionId = some s →
      db'.uploadSession? uploadSessionId = some s) : db.KeepsCompletion uploadSessionId db' := by
  refine of_rows hissued fun {row} hrow _ => ⟨?_, ?_, ?_⟩
  · exact hsession (findUploadSession_eq_some.mp hrow).1
  · obtain ⟨state, hmoved⟩ := honly.version? (findUploadSession_version? hrow)
    exact ⟨_, hmoved, rfl⟩
  · exact dispatchesOf_prefix (honly.dispatches ▸ List.prefix_rfl) _

theorem operation (rt : Runtime) (op : RegistryOperation) (db : Db) :
    db.KeepsCompletion uploadSessionId (op.run rt db) := by
  refine of_onlyMoves (.operation rt op db) (op.onlyMoves rt db) fun {s} hs => ?_
  obtain ⟨s', hs', -⟩ := (Db.KeepsIssued.operation rt op db).uploadSession? hs
  rcases RegistryOperation.uploadSession?_cases hs' with hold | ⟨hnone, -⟩
  · rw [hs', ← hold, hs]
  · rw [hs] at hnone
    cases hnone

theorem recoverFailedCompletion (input : RegistryCompleteUploadSessionInput) (versionId : String)
    (cause : RegistryError) (db : Db) :
    db.KeepsCompletion uploadSessionId (recoverFailedCompletion input versionId cause db).2 := by
  refine of_onlyMoves (.recoverFailedCompletion input versionId cause db)
    (recoverFailedCompletion_onlyMoves input versionId cause db) fun {s} hs => ?_
  rw [Db.uploadSession?, recoverFailedCompletion_uploadSessions]
  exact hs

theorem phaseOne {input : RegistryCompleteUploadSessionInput} {now : Instant}
    {result : PhaseOneResult} (h : phaseOne input now db = .ok (result, db')) :
    db.KeepsCompletion uploadSessionId db' := by
  refine of_rows (.phaseOne h) fun {row} hrow hsettled => ⟨?_, ?_, ?_⟩
  · have hs := (findUploadSession_eq_some.mp hrow).1
    -- a session that phase one writes is not settled
    have hother : ∀ {r : CompletionReplayRow},
        db.findUploadSession input.uploadSessionId = some r → tryBuildCompletionReplay r = none →
        uploadSessionId ≠ r.uploadSession.id := by
      intro r hr hnone hsame
      rw [hsame, findUploadSession_id hr] at hrow
      obtain rfl := Option.some.inj (hrow.symm.trans hr)
      rw [settled_iff_replayable hr, hnone] at hsettled
      cases hsettled
    cases phaseOne_cases h with
    | replay _ _ _ hexec =>
        rw [executeAll_uploadSession? hexec, hs]
        rfl
    | validationFailure hr _ hnone _ _ _ hexec =>
        rw [executeAll_uploadSession? hexec, hs]
        simp [recordValidationFailure, CompletionStatement.onSession, hother hr hnone]
    | request hr _ hnone _ _ _ hexec =>
        rw [executeAll_uploadSession? hexec, hs]
        simp [acceptCompletion, CompletionStatement.onSession, hother hr hnone]
  · have hv := findUploadSession_version? hrow
    rcases (phaseOne_cases h).version? row.version.id with hsame |
      ⟨v, v', hv₀, hv', -, hevidence, -⟩
    · exact ⟨row.version, hsame.trans hv, rfl⟩
    · obtain rfl := Option.some.inj (hv.symm.trans hv₀)
      exact ⟨v', hv', hevidence⟩
  · exact dispatchesOf_prefix (phaseOne_cases h).dispatches _

theorem phaseTwo {rt : Runtime} {input : RegistryCompleteUploadSessionInput}
    {source : SnapshotResult} {newDispatchId : String} {now : Instant}
    {completed : RegistryCompletedUploadSession}
    (h : phaseTwo rt input source newDispatchId now db = .ok (completed, db')) :
    db.KeepsCompletion uploadSessionId db' := by
  refine of_rows (.phaseTwo h) fun {row} hrow hsettled => ⟨?_, ?_, ?_⟩
  · rw [phaseTwo_uploadSession? h]
    exact (findUploadSession_eq_some.mp hrow).1
  · have hv := findUploadSession_version? hrow
    rcases (phaseTwo_cases h).version? row.version.id with hsame | ⟨-, -, -, hunsettled, -⟩
    · exact ⟨row.version, hsame.trans hv, rfl⟩
    · exact absurd hsettled hunsettled
  · exact dispatchesOf_prefix (phaseTwo_cases h).dispatches _

end Db.KeepsCompletion

/-- **No step of the registry changes what a completed session replays.** -/
theorem RegistryStep.keepsCompletion {rt : Runtime} {sys sys' : RegistrySystem} {a : RegistryAction}
    (h : RegistryStep rt sys a sys') (uploadSessionId : String) :
    sys.db.KeepsCompletion uploadSessionId sys'.db :=
  h.relates Db.KeepsCompletion.refl (fun op db _ => Db.KeepsCompletion.operation rt op db)
    Db.KeepsCompletion.phaseOne Db.KeepsCompletion.phaseTwo
    Db.KeepsCompletion.recoverFailedCompletion

/-- Nor does a run. -/
theorem Run.keepsCompletion {rt : Runtime} {sys sys' : RegistrySystem}
    {tr : List (Transition RegistrySystem RegistryAction)} (h : Run (RegistryStep rt) sys tr sys')
    (uploadSessionId : String) : sys.db.KeepsCompletion uploadSessionId sys'.db := by
  refine h.invariant (I := fun s => sys.db.KeepsCompletion uploadSessionId s.db) ?_
    (Db.KeepsCompletion.refl sys.db)
  intro s a s' hkept hstep
  exact Db.KeepsCompletion.trans hkept (hstep.keepsCompletion uploadSessionId)

/-! ### A later completion, on the Prisma store -/

/-- **A completion converges** on an earlier response: it is answered with the same
completion, as a duplicate, and leaves the session `uploaded`. -/
def CompletionConverges (rt : Runtime) (env : CompletionEnvironment)
    (input : RegistryCompleteUploadSessionInput) (db : Db)
    (result : RegistryCompletedUploadSession) :
    Prop :=
  ∃ r db', completeUploadSession rt env input db = (.ok r, db') ∧ r.isDuplicate = true ∧
    result.Same r ∧ (db'.uploadSession? input.uploadSessionId).map (·.state) = some .uploaded

section Prisma

variable {rt : Runtime} {env : CompletionEnvironment} {input : RegistryCompleteUploadSessionInput}
  {db : Db} {row : CompletionReplayRow} {replay result : RegistryCompletedUploadSession}

/-- A completion under a new idempotency key converges on what its session replays exactly
when the session has not expired. -/
theorem completionConverges_iff (hinv : db.UploadedInv)
    (hrow : db.findUploadSession input.uploadSessionId = some row)
    (hreplay : tryBuildCompletionReplay row = some replay) (hsame : result.Same replay)
    (hkey : db.idempotencyRecord? input.idempotencyRecordKey = none) :
    CompletionConverges rt env input db result ↔
      ¬ env.phaseOneAt > row.uploadSession.expiresAt := by
  constructor
  · rintro ⟨r, db', hcall, -⟩ hexpiry
    simp only [completeUploadSession, hkey, phaseOne_eq_expired hrow hexpiry] at hcall
    cases (Prod.mk.inj hcall).1
  · intro hexpiry
    obtain ⟨db', hone⟩ := phaseOne_replays hrow hexpiry hreplay
    have hcall : completeUploadSession rt env input db =
        (.ok { replay with isDuplicate := true }, db') := by
      simp only [completeUploadSession, hkey, hone]
    refine ⟨_, db', hcall, rfl, ⟨hsame.1, hsame.2, hsame.3, hsame.4, hsame.5, hsame.6⟩, ?_⟩
    have hs := (Db.findUploadSession_eq_some.mp hrow).1
    have hsettled : db.Settled row.version.id :=
      (Db.settled_iff_replayable hrow).mpr (by rw [hreplay]; rfl)
    rw [Db.findUploadSession_version_id hrow] at hsettled
    have hkept : db'.uploadSession? input.uploadSessionId = some row.uploadSession := by
      generalize hcommitted :
        PhaseOneResult.replay { replay with isDuplicate := true } = committed at hone
      cases phaseOne_cases hone with
      | replay _ _ _ hexec =>
          rw [executeAll_uploadSession? hexec, hs]
          rfl
      | validationFailure => cases hcommitted
      | request => cases hcommitted
    rw [hkept, Option.map_some, hinv.uploaded hs (Or.inr hsettled)]

end Prisma

/-! ### A later completion, on the in-memory store -/

namespace InMemoryUploadSessionIssuanceStore

/-- A completion converges on an earlier response, on the in-memory store. -/
def CompletionConverges (store : InMemoryUploadSessionIssuanceStore)
    (input : RegistryCompleteUploadSessionInput) (now : Instant)
    (result : RegistryCompletedUploadSession) : Prop :=
  ∃ r store', store.beginCompletion input now = (.done (.ok (.completed r)), store') ∧
    r.isDuplicate = true ∧ result.Same r ∧
    (store'.uploadSessions input.uploadSessionId).map (·.uploadSessionState) = some .uploaded

/-- The session is unexpired, and was not found expired before. -/
def Unexpired (store : InMemoryUploadSessionIssuanceStore) (uploadSessionId : String)
    (now : Instant) : Prop :=
  ∃ s, store.uploadSessions uploadSessionId = some s ∧ ¬ now > s.expiresAt ∧
    s.uploadSessionState = .uploaded

variable {store : InMemoryUploadSessionIssuanceStore} {input : RegistryCompleteUploadSessionInput}
  {now : Instant} {session : UploadSessionRecord} {result : RegistryCompletedUploadSession}

/-- A completion with the same staged evidence under a new idempotency key converges on the
result of its session exactly when the session is unexpired. -/
theorem completionConverges_iff (hinv : store.Inv)
    (hsession : store.uploadSessions input.uploadSessionId = some session)
    (hresult : session.completionResult = some result)
    (hhash : session.completionRequestHash = some input.normalizedRequestHash)
    (hkey : store.idempotencyRecords input.memoryKey = none) :
    store.CompletionConverges input now result ↔ store.Unexpired input.uploadSessionId now := by
  obtain ⟨version, hversion⟩ := Option.isSome_iff_exists.mp (hinv.sessionVersion hsession)
  have hbegin : store.beginCompletion input now =
    store.completeSession input now session version := by
    simp only [beginCompletion, hsession, hversion, hkey]
  by_cases hexpiry : now > session.expiresAt
  · constructor
    · rintro ⟨r, store', hcall, -⟩
      simp only [hbegin, completeSession] at hcall
      rw [if_pos hexpiry] at hcall
      cases (Prod.mk.inj hcall).1
    · rintro ⟨s, hs, hunexpired, -⟩
      obtain rfl := Option.some.inj (hsession.symm.trans hs)
      exact absurd hexpiry hunexpired
  · have hcall : store.beginCompletion input now =
        (.done (.ok (.completed { result with isDuplicate := true })),
          store.setRecord input result) := by
      simp only [hbegin, completeSession, hresult]
      rw [if_neg hexpiry, if_neg (not_not.mpr hhash)]
    constructor
    · rintro ⟨r, store', hcall', -, -, hstate⟩
      obtain ⟨-, rfl⟩ := Prod.mk.inj (hcall.symm.trans hcall')
      obtain ⟨s, hs, hstate⟩ := Option.map_eq_some_iff.mp hstate
      obtain rfl := Option.some.inj (hsession.symm.trans hs)
      exact ⟨session, hsession, hexpiry, hstate⟩
    · rintro ⟨s, hs, -, hstate⟩
      obtain rfl := Option.some.inj (hsession.symm.trans hs)
      exact ⟨_, _, hcall, rfl, ⟨rfl, rfl, rfl, rfl, rfl, rfl⟩, Option.map_eq_some_iff.mpr
        ⟨session, hsession, hstate⟩⟩

end InMemoryUploadSessionIssuanceStore

/-! ### Every run -/

/-- **Once a completion has committed, a later completion with the same staged evidence,
under any new idempotency key, converges on its result exactly when it is made before the
session expires**, and, on the in-memory store, when no late call has marked the session
expired before. -/
theorem completions_converge_iff (rt : Runtime) :
    (∀ {sys₀ sys₁ sys : RegistrySystem} {tr₁ tr : List (Transition RegistrySystem RegistryAction)}
      {row : CompletionReplayRow} {result : RegistryCompletedUploadSession}
      {input : RegistryCompleteUploadSessionInput},
      sys₀.Fresh → Run (RegistryStep rt) sys₀ tr₁ sys₁ →
      sys₁.db.findUploadSession input.uploadSessionId = some row →
      tryBuildCompletionReplay row = some result →
      Run (RegistryStep rt) sys₁ tr sys →
      sys.db.idempotencyRecord? input.idempotencyRecordKey = none →
      ∀ env, CompletionConverges rt env input sys.db result ↔
        ¬ env.phaseOneAt > row.uploadSession.expiresAt) ∧
    (∀ {sys₁ sys : MemorySystem} {tr₁ tr : List (Transition MemorySystem MemoryAction)}
      {session : UploadSessionRecord} {result : RegistryCompletedUploadSession}
      {input : RegistryCompleteUploadSessionInput},
      Run MemoryStep {} tr₁ sys₁ →
      sys₁.store.uploadSessions input.uploadSessionId = some session →
      session.completionResult = some result →
      session.completionRequestHash = some input.normalizedRequestHash →
      Run MemoryStep sys₁ tr sys →
      sys.store.idempotencyRecords input.memoryKey = none →
      ∀ now, sys.store.CompletionConverges input now result ↔
        sys.store.Unexpired input.uploadSessionId now) := by
  constructor
  · intro sys₀ sys₁ sys tr₁ tr row result input hfresh hrun₁ hrow hresult hrun hkey env
    have hinv : sys.db.UploadedInv := (hrun₁.append hrun).invariant
      (I := fun s => s.db.UploadedInv) (fun hinv hstep => hstep.uploadedInv hinv) hfresh.uploadedInv
    obtain ⟨row', result', hrow', hresult', hsession, hsame⟩ :=
      Run.keepsCompletion hrun input.uploadSessionId hrow hresult
    rw [← hsession]
    exact completionConverges_iff hinv hrow' hresult' hsame hkey
  · intro sys₁ sys tr₁ tr session result input hrun₁ hsession hresult hhash hrun hkey now
    have hinv₁ := MemorySystem.Inv.of_run hrun₁
    have hinv : sys.Inv := hrun.invariant (fun hinv hstep => hstep.inv hinv) hinv₁
    obtain ⟨session', hsession', hkeeps⟩ := (MemorySystem.keeps_of_run hrun hinv₁).session hsession
    obtain ⟨hresult', hhash'⟩ := hkeeps.completed hresult
    exact InMemoryUploadSessionIssuanceStore.completionConverges_iff hinv.store hsession' hresult'
      (hhash'.trans hhash) hkey

/-! ### A completed session, completed past its expiry -/

/-- The registry after the sample session `a` has been issued and completed. -/
def completedRegistry : Db :=
  runCalls sampleRuntime (sampleCompletedCalls "a" "source-1") sampleRegistry

/-- A completion of the sample session after it has expired. -/
def lateEnvironment : CompletionEnvironment :=
  { sampleEnvironment "source-1" "dispatch-late" with phaseOneAt := 2000, phaseTwoAt := 2010 }

/-- The in-memory system after the sample session `a` has been issued and completed. -/
def completedMemorySteps : List MemoryAction :=
  [.issue (sampleIssue "a") (sampleMemoryIds "a"), .complete (sampleCompletion "a" "key-1") 20,
    .resolve 0 (.ok (sampleSource "source-1")) "dispatch-a"]

/-- The sample session, issued and completed. -/
def completeActions : List RegistryAction :=
  issueActions ++ [.complete (sampleCompletion "a" "key-1"), .phaseOne 0 20,
    .canonicalize 0 (.ok (sampleSource "source-1")), .phaseTwo 0 "dispatch-a" 30]

/-- The completed session is completed again before its expiry, under another key. -/
theorem completed_session_converges :
    (∃ tr sys result, Run (RegistryStep sampleRuntime) sampleRegistrySystem tr sys ∧
      CompletionConverges sampleRuntime (sampleEnvironment "source-1" "dispatch-2")
        (sampleCompletion "a" "key-2") sys.db result) ∧
    (∃ tr sys result, Run MemoryStep {} tr sys ∧
      sys.store.CompletionConverges (sampleCompletion "a" "key-2") 50 result) := by
  constructor
  · obtain ⟨tr, sys, hrun, hrow, hrecord⟩ := exists_run_of_exec
      (RegistrySystem.next sampleRuntime) sampleRegistrySystem completeActions
      (fun tr sys => (sys.db.findUploadSession "session-a").any
          (fun row => (tryBuildCompletionReplay row).isSome &&
            decide (20 ≤ row.uploadSession.expiresAt)) = true ∧
        (sys.db.idempotencyRecord?
          (sampleCompletion "a" "key-2").idempotencyRecordKey).isNone = true)
      (by decide +kernel)
    obtain ⟨row, hfound, hrow⟩ := (Option.any_eq_true _ _).mp hrow
    obtain ⟨hreplay, hexpiry⟩ := Bool.and_eq_true_iff.mp hrow
    obtain ⟨result, hresult⟩ := Option.isSome_iff_exists.mp hreplay
    exact ⟨tr, sys, result, hrun, ((completions_converge_iff sampleRuntime).1
      sampleRegistrySystem_fresh hrun hfound hresult (.nil sys)
      (Option.isNone_iff_eq_none.mp hrecord)
      _).mpr (Int.not_lt.mpr (of_decide_eq_true hexpiry))⟩
  · have hexec : exec MemorySystem.next {} completedMemorySteps = some (_, _) := rfl
    have hrun := exec_run hexec
    exact ⟨_, _, _, hrun, ((completions_converge_iff sampleRuntime).2 hrun rfl rfl rfl (.nil _) rfl
      50).mpr ⟨_, rfl, by decide, rfl⟩⟩

/-- **A completed session is rejected past its expiry**: on both stores the response is
there to replay, and the same evidence under a new key is answered with an expiry; the
in-memory store leaves the session `expired`. -/
theorem expired_completion_diverges :
    (∃ row result, completedRegistry.findUploadSession "session-a" = some row ∧
        tryBuildCompletionReplay row = some result) ∧
      (completeUploadSession sampleRuntime lateEnvironment (sampleCompletion "a" "key-2")
        completedRegistry).1 = .error (.uploadSessionExpired "session-a") ∧
      (∃ tr sys session, exec MemorySystem.next {} completedMemorySteps = some (tr, sys) ∧
        sys.store.uploadSessions "session-a" = some session ∧
        session.completionResult.isSome = true ∧
        session.completionRequestHash = some (sampleCompletion "a" "key-2").normalizedRequestHash ∧
        ∃ store', sys.store.beginCompletion (sampleCompletion "a" "key-2") 2000 =
            (.done (.error (.expired "session-a")), store') ∧
          (store'.uploadSessions "session-a").map (·.uploadSessionState) = some .expired) :=
  ⟨⟨_, _, rfl, rfl⟩, rfl, ⟨_, _, _, rfl, rfl, rfl, rfl, _, rfl, rfl⟩⟩

end Cdngine
