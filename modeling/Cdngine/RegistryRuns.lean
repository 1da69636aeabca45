import Cdngine.Lifecycle

/-!
# Operations Run to Completion

Sequences of calls on the registry, each run to completion before the next begins: the
operations of one transaction and whole completions. A relation between databases that
every transaction of a completion keeps is kept by the completion
(`completeUploadSession_keeps`), and a settled version keeps its evidence under each of
them.

## Main results

* `issueUploadSession_snd`: an issuance with its lookups leaves the database that its
  transaction alone leaves.
* `settled_evidence_kept`: a settled version carries the same evidence for ever.
* `AcceptedCompletion.shared_source`: a completion whose canonical source another
  version holds fails on the unique constraint and leaves its version `failed_retryable`.
* `same_source_never_completes_twice`: two sessions never both end completed with one
  canonical source.
-/

open Relational

namespace Cdngine

/-! ### Calls -/

/-- An issuance that commits finds no record of its key. -/
theorem issueTransaction_newRecord {input : RegistryIssueUploadSessionInput} {ids : IssueIds}
    {now : Instant} {db db' : Db} {issued : RegistryIssuedUploadSession}
    (h : issueTransaction input ids now db = .ok (issued, db')) :
    db.idempotencyRecord? input.idempotencyRecordKey = none := by
  obtain ⟨assetId, number, db₁, db₂, db₃, h₁, h₂, h₃, h₄⟩ := issueTransaction_cases h
  have hsame : db₃.idempotencyRecords = db.idempotencyRecords := by
    obtain ⟨t₃, -, rfl⟩ := write_eq_ok.mp h₃
    obtain ⟨t₂, -, rfl⟩ := write_eq_ok.mp h₂
    rcases h₁ with rfl | ⟨row, h₁⟩
    · rfl
    · obtain ⟨t₁, -, rfl⟩ := write_eq_ok.mp h₁
      rfl
  obtain ⟨t, ht, -⟩ := write_eq_ok.mp h₄
  rw [Option.eq_none_iff_forall_ne_some]
  intro record hrecord
  obtain ⟨hmem, hkey⟩ := Db.idempotencyRecord?_eq_some_iff.mp hrecord
  have hfree := (Table.insert_eq_ok_iff.mp ht).1 record (hsame ▸ hmem)
  have hclash : record.key = (issuedRecord input ids assetId now).key := hkey
  simp [clash, sameKey, hclash] at hfree

/-- The lookups around the transaction of an issuance do not matter to the database it
leaves: when they find a record, the transaction would have failed on it. -/
theorem issueUploadSession_snd (input : RegistryIssueUploadSessionInput) (ids : IssueIds)
    (now : Instant) (db : Db) :
    (issueUploadSession input ids now db).2 = (transact (issueTransaction input ids now) db).2 := by
  unfold issueUploadSession
  cases hrecord : db.idempotencyRecord? input.idempotencyRecordKey with
  | some record =>
      cases htx : issueTransaction input ids now db with
      | error e => simp only [transact, htx]
      | ok r =>
          obtain ⟨issued, db'⟩ := r
          rw [issueTransaction_newRecord htx] at hrecord
          cases hrecord
  | none =>
      cases htx : issueTransaction input ids now db with
      | ok r => simp only [transact, htx]
      | error e =>
          simp only [transact, htx]
          split
          · rename_i heq
            obtain ⟨-, rfl⟩ := Prod.mk.inj heq
            split <;> rfl
          · rfl

/-- A call that runs to completion. -/
inductive RegistryCall
  | operation (op : RegistryOperation)
  | complete (env : CompletionEnvironment) (input : RegistryCompleteUploadSessionInput)

/-- The database after a call. -/
def RegistryCall.run (rt : Runtime) (db : Db) : RegistryCall → Db
  | .operation op => op.run rt db
  | .complete env input => (completeUploadSession rt env input db).2

/-- The database after a sequence of calls. -/
def runCalls (rt : Runtime) (calls : List RegistryCall) (db : Db) : Db :=
  calls.foldl (fun db call => call.run rt db) db

/-- **The rule of a completion**: a reflexive and transitive relation between databases
that its transactions and its `catch` keep, the completion keeps. -/
theorem completeUploadSession_keeps {rt : Runtime} {env : CompletionEnvironment}
    {input : RegistryCompleteUploadSessionInput} {R : Db → Db → Prop} (hrefl : ∀ db, R db db)
    (htrans : ∀ {db₁ db₂ db₃}, R db₁ db₂ → R db₂ db₃ → R db₁ db₃)
    (hone : ∀ {db db' result}, phaseOne input env.phaseOneAt db = .ok (result, db') → R db db')
    (htwo : ∀ {source db db' completed},
      phaseTwo rt input source env.newDispatchId env.phaseTwoAt db = .ok (completed, db') →
      R db db')
    (hrecover : ∀ versionId cause db, R db (recoverFailedCompletion input versionId cause db).2)
    (db : Db) : R db (completeUploadSession rt env input db).2 := by
  have hrecord : ∀ request db, R db (canonicalizeAndRecord rt env input request db).2 := by
    intro request db
    unfold canonicalizeAndRecord
    split
    · exact hrecover _ _ db
    · split
      · rename_i htx
        exact htwo htx
      · exact hrecover _ _ db
  unfold completeUploadSession
  split
  · exact hrefl db
  · split
    · exact hrefl db
    · rename_i htx
      exact hone htx
    · rename_i htx
      exact hone htx
    · rename_i htx
      exact htrans (hone htx) (hrecord _ _)

/-! ### What the operations leave alone -/

theorem Db.VersionMoved.moveTo {db db' : Db} {id : String} {state : AssetVersionState}
    (h : db.VersionMoved db' id state) {x : String} {v : AssetVersion}
    (hv : db.version? x = some v) :
    ∃ s, db'.version? x = some (v.moveTo s) := by
  rw [h.version?, hv]
  by_cases hx : x = id
  · exact ⟨state, by simp [hx]⟩
  · exact ⟨v.lifecycleState, by simp [hx, AssetVersion.moveTo_self rfl]⟩

/-- Of the versions that exist, a transaction changes the lifecycle state at most, and it
leaves the dispatches as they are. -/
structure Db.OnlyMoves (db db' : Db) : Prop where
  version? : ∀ {x v}, db.version? x = some v → ∃ s, db'.version? x = some (v.moveTo s)
  dispatches : db'.workflowDispatches = db.workflowDispatches

theorem Db.OnlyMoves.refl (db : Db) : db.OnlyMoves db where
  version? {_ v} hv := ⟨v.lifecycleState, by rw [hv, AssetVersion.moveTo_self rfl]⟩
  dispatches := rfl

theorem Db.VersionMoved.onlyMoves {db db' : Db} {id : String} {state : AssetVersionState}
    (h : db.VersionMoved db' id state) : db.OnlyMoves db' :=
  ⟨h.moveTo, h.dispatches⟩

theorem Db.OnlyMoves.of_transact {α : Type} {tx : Transaction α} {db : Db}
    (h : ∀ a db', tx db = .ok (a, db') → db.OnlyMoves db') : db.OnlyMoves (transact tx db).2 := by
  rcases transact_snd tx db with ⟨a, ha⟩ | hsame
  · exact h a _ ha
  · rw [hsame]
    exact .refl db

/-- Every operation of one transaction changes the lifecycle state at most. -/
theorem RegistryOperation.onlyMoves (rt : Runtime) (op : RegistryOperation) (db : Db) :
    db.OnlyMoves (op.run rt db) := by
  have hexecution : ∀ {db'}, db'.assetVersions = db.assetVersions →
      db'.workflowDispatches = db.workflowDispatches → db.OnlyMoves db' := by
    intro db' hversions hdispatches
    refine ⟨fun {x v} hv => ⟨v.lifecycleState, ?_⟩, hdispatches⟩
    rw [Db.version?, hversions, AssetVersion.moveTo_self rfl]
    exact hv
  cases op with
  | issueUploadSession input ids now =>
      refine .of_transact fun issued db' h => ?_
      obtain ⟨hversion, hdispatches⟩ := issueTransaction_version? h
      refine ⟨fun {x v} hv => ⟨v.lifecycleState, ?_⟩, hdispatches⟩
      rcases hversion x with hsame | ⟨hnone, -⟩
      · rw [hsame, hv, AssetVersion.moveTo_self rfl]
      · rw [hv] at hnone
        cases hnone
  | beginPublication kind versionId =>
      cases kind with
      | genericAsset => exact .of_transact fun _ _ h => (PublicationStore.begin_moved h).2.onlyMoves
      | image => exact .of_transact fun _ _ h => (PublicationStore.begin_moved h).2.onlyMoves
      | presentation => exact .of_transact fun _ _ h => (PublicationStore.begin_moved h).2.onlyMoves
  | publishVersion kind versionId deliveryScopeId derivatives manifest =>
      cases kind with
      | genericAsset =>
          exact .of_transact fun _ _ h => (PublicationStore.publish_moved h).2.onlyMoves
      | image => exact .of_transact fun _ _ h => (PublicationStore.publish_moved h).2.onlyMoves
      | presentation =>
          exact .of_transact fun _ _ h => (PublicationStore.publish_moved h).2.onlyMoves
  | markRunning input =>
      exact .of_transact fun _ _ h => hexecution (recordRun_frame h).1 (recordRun_frame h).2
  | markCompleted input =>
      exact .of_transact fun _ _ h => hexecution (recordRun_frame h).1 (recordRun_frame h).2
  | markFailedRetryable input =>
      exact .of_transact fun _ _ h => (markFailedRetryable_moved h).2.onlyMoves
  | operator step versionId =>
      exact .of_transact fun _ _ h => (operatorTransaction_moved h).2.onlyMoves

/-- The `catch` of a completion changes the lifecycle state at most. -/
theorem recoverFailedCompletion_onlyMoves (input : RegistryCompleteUploadSessionInput)
    (versionId : String) (cause : RegistryError) (db : Db) :
    db.OnlyMoves (recoverFailedCompletion input versionId cause db).2 := by
  rcases recoverFailedCompletion_db input versionId cause db with hsame | ⟨hmoved, -⟩
  · rw [hsame]
    exact .refl db
  · exact hmoved.onlyMoves

/-! ### Settled versions keep their evidence -/

/-- A version that is settled in one database is settled, with the same evidence, in the
other. -/
def Db.KeepsSettled (id : String) (db db' : Db) : Prop :=
  db.Settled id → db'.Settled id ∧
    (db'.version? id).map (·.evidence) = (db.version? id).map (·.evidence)

namespace Db.KeepsSettled

variable {id : String} {db db₁ db₂ db₃ : Db}

theorem refl (db : Db) : db.KeepsSettled id db := fun h => ⟨h, rfl⟩

theorem trans (h₁ : db₁.KeepsSettled id db₂) (h₂ : db₂.KeepsSettled id db₃) :
    db₁.KeepsSettled id db₃ := fun h =>
  have h' := h₁ h
  have h'' := h₂ h'.1
  ⟨h''.1, h''.2.trans h'.2⟩

/-- A database that keeps the evidence of a version, and its dispatches, keeps it
settled. -/
theorem of_evidence (hversion : ∀ v, db₁.version? id = some v →
      ∃ v', db₂.version? id = some v' ∧ v'.evidence = v.evidence)
    (hdispatches : db₁.workflowDispatches.rows <+: db₂.workflowDispatches.rows) :
    db₁.KeepsSettled id db₂ := by
  rintro ⟨v, hv, hcarries, hne⟩
  obtain ⟨v', hv', hevidence⟩ := hversion v hv
  refine ⟨⟨v', hv', ?_, ?_⟩, by rw [hv, hv', Option.map_some, Option.map_some, hevidence]⟩
  · rw [AssetVersion.carriesEvidence_congr hevidence, hcarries]
  · obtain ⟨new, hnew⟩ := hdispatches
    rw [Db.dispatchesOf, ← hnew, List.filter_append]
    exact List.append_ne_nil_of_left_ne_nil hne _

theorem of_onlyMoves (h : db₁.OnlyMoves db₂) : db₁.KeepsSettled id db₂ := by
  refine of_evidence (fun v hv => ?_) (h.dispatches ▸ List.prefix_rfl)
  obtain ⟨s, hs⟩ := h.version? hv
  exact ⟨v.moveTo s, hs, rfl⟩

end Db.KeepsSettled

theorem phaseOne_keepsSettled {input : RegistryCompleteUploadSessionInput} {now : Instant}
    {db db' : Db} {result : PhaseOneResult} (h : phaseOne input now db = .ok (result, db'))
    (id : String) : db.KeepsSettled id db' := by
  refine .of_evidence (fun v hv => ?_) (phaseOne_cases h).dispatches
  rcases (phaseOne_cases h).version? id with hsame | ⟨w, w', hw, hw', -, hevidence, -⟩
  · exact ⟨v, hsame.trans hv, rfl⟩
  · obtain rfl := Option.some.inj (hw.symm.trans hv)
    exact ⟨w', hw', hevidence⟩

/-- Phase two records evidence only for a version that is not settled. -/
theorem phaseTwo_keepsSettled {rt : Runtime} {input : RegistryCompleteUploadSessionInput}
    {source : SnapshotResult} {newDispatchId : String} {now : Instant} {db db' : Db}
    {completed : RegistryCompletedUploadSession}
    (h : phaseTwo rt input source newDispatchId now db = .ok (completed, db')) (id : String) :
    db.KeepsSettled id db' := by
  rcases (phaseTwo_cases h).version? id with hsame | ⟨v, hv, -, hunsettled, -⟩
  · exact .of_evidence (fun v hv => ⟨v, hsame.trans hv, rfl⟩) (phaseTwo_cases h).dispatches
  · exact fun hsettled => absurd hsettled hunsettled

/-- Every call keeps a settled version settled, with its evidence. -/
theorem RegistryCall.keepsSettled (rt : Runtime) (call : RegistryCall) (db : Db) (id : String) :
    db.KeepsSettled id (call.run rt db) := by
  cases call with
  | operation op => exact .of_onlyMoves (op.onlyMoves rt db)
  | complete env input =>
      exact completeUploadSession_keeps Db.KeepsSettled.refl Db.KeepsSettled.trans
        (fun h => phaseOne_keepsSettled h id) (fun h => phaseTwo_keepsSettled h id)
        (fun versionId cause db =>
          .of_onlyMoves (recoverFailedCompletion_onlyMoves input versionId cause db)) db

/-- **Canonical evidence is kept**: after any sequence of calls a settled version is
settled, with exactly the evidence it had. As for the code, an empty text in one of the four columns
that identify the source is no evidence. -/
theorem settled_evidence_kept (rt : Runtime) (calls : List RegistryCall) (db : Db) {id : String}
    (h : db.Settled id) :
    (runCalls rt calls db).Settled id ∧
      ((runCalls rt calls db).version? id).map (·.evidence) =
      (db.version? id).map (·.evidence) := by
  have hkeeps : ∀ db : Db, db.KeepsSettled id (runCalls rt calls db) := by
    induction calls with
    | nil => exact Db.KeepsSettled.refl
    | cons call calls ih => exact fun db => (call.keepsSettled rt db id).trans (ih (call.run rt db))
  exact hkeeps db h

/-- The environment of a sample completion: every canonicalization returns one source. -/
def sampleEnvironment (canonicalSourceId newDispatchId : String) : CompletionEnvironment where
  canonicalize := fun _ => .ok (sampleSource canonicalSourceId)
  newDispatchId
  phaseOneAt := 20
  phaseTwoAt := 30

/-- The sample session `key`, issued and completed with a canonical source. -/
def sampleCompletedCalls (key canonicalSourceId : String) : List RegistryCall :=
  [.operation (.issueUploadSession (sampleIssue key) (sampleIds key) 10),
    .complete (sampleEnvironment canonicalSourceId ("dispatch-" ++ key))
      (sampleCompletion key "key-1")]

/-- A settled version keeps its evidence through the failure of its execution and a
second completion with other bytes. -/
theorem settled_evidence_kept_after_failure :
    ((runCalls sampleRuntime
        [.operation (.beginPublication .genericAsset "version-a"),
          .operation (.markFailedRetryable sampleFailure),
          .complete (sampleEnvironment "source-2" "dispatch-2") (sampleCompletion "a" "key-2")]
        (runCalls sampleRuntime (sampleCompletedCalls "a" "source-1") sampleRegistry)).version?
      "version-a").map (·.evidence) =
      ((runCalls sampleRuntime (sampleCompletedCalls "a" "source-1") sampleRegistry).version?
        "version-a").map (·.evidence) :=
  (settled_evidence_kept sampleRuntime _ _ (by decide +kernel)).2

/-! ### Two sessions with one canonical source -/

/-- Two versions never hold one canonical source id. -/
theorem Db.eq_of_canonicalSourceId {db : Db} {id id' : String} {v v' : AssetVersion}
    (hv : db.version? id = some v) (hv' : db.version? id' = some v')
    (hsome : v.canonicalSourceId.isSome) (hsame : v.canonicalSourceId = v'.canonicalSourceId) :
    id = id' := by
  obtain ⟨hmem, rfl⟩ := Db.version?_eq_some_iff.mp hv
  obtain ⟨hmem', rfl⟩ := Db.version?_eq_some_iff.mp hv'
  have hclash : clash v v' = true := by
    simp only [clash, Bool.or_eq_true, sameNonNullKey_eq_true]
    exact Or.inl (Or.inr ⟨hsome, hsame⟩)
  rw [Table.eq_of_clash hmem hmem' hclash]

/-- Two sessions never have one version. -/
theorem Db.eq_of_assetVersionId {db : Db} {id id' : String} {s s' : UploadSession}
    (hs : db.uploadSession? id = some s) (hs' : db.uploadSession? id' = some s')
    (hsame : s.assetVersionId = s'.assetVersionId) : id = id' := by
  obtain ⟨hmem, rfl⟩ := Db.uploadSession?_eq_some_iff.mp hs
  obtain ⟨hmem', rfl⟩ := Db.uploadSession?_eq_some_iff.mp hs'
  have hclash : clash s s' = true := by
    simp only [clash, Bool.or_eq_true, sameKey_eq_true]
    exact Or.inr hsame
  rw [Table.eq_of_clash hmem hmem' hclash]

/-- The only way in which the evidence of an existing version cannot be recorded. -/
theorem recordEvidence_eq_error {db : Db} {v : AssetVersion} {id : String} {e : CanonicalEvidence}
    {cause : RegistryError} (hv : db.version? id = some v)
    (h : (CompletionStatement.recordEvidence id e).apply db = .error cause) :
    cause = .store .uniqueConstraint := by
  obtain ⟨violation, hviolation, rfl⟩ := write_eq_error.mp h
  obtain ⟨hmem, rfl⟩ := Db.version?_eq_some_iff.mp hv
  unfold Table.update at hviolation
  split at hviolation
  · split at hviolation
    · cases hviolation
    · rw [Except.error.inj hviolation]
  · rename_i hnone
    exact absurd (List.any_eq_true.mpr ⟨v, hmem, beq_self_eq_true v.id⟩) hnone

/-- Phase two fails on the unique constraint when another version holds the canonical
source id. -/
theorem phaseTwo_shared_source (rt : Runtime) (newDispatchId : String) (now : Instant)
    {input : RegistryCompleteUploadSessionInput} {source : SnapshotResult} {db : Db}
    {row : CompletionReplayRow} (hrow : db.findUploadSession input.uploadSessionId = some row)
    (hreplay : tryBuildCompletionReplay row = none)
    (hstate : row.version.lifecycleState = .canonicalizing)
    (hshared : ∃ v ∈ db.assetVersions.rows, v.id ≠ row.version.id ∧
      v.canonicalSourceId = some source.canonicalSourceId) :
    phaseTwo rt input source newDispatchId now db = .error (.store .uniqueConstraint) := by
  have hv := Db.findUploadSession_version? hrow
  cases hrecord : (CompletionStatement.recordEvidence row.version.id
      (canonicalEvidence rt source)).apply db with
  | ok db' =>
      obtain ⟨x, hx, hne, hsame⟩ := hshared
      exact absurd hsame ((recordEvidence_ok_iff hv).mp ⟨db', hrecord⟩ x hx hne rfl)
  | error cause =>
      obtain rfl := recordEvidence_eq_error hv hrecord
      simp only [phaseTwo, hrow, hreplay, hstate, ne_eq, not_true_eq_false, if_false,
        phaseTwoEvidence, executeAll, hrecord]
      rfl

/-- A completion that phase one accepts: no record answers it, and its session is
unexpired, open, not replayable, at an accepting state and matched by the staged
evidence. -/
structure AcceptedCompletion (db : Db) (input : RegistryCompleteUploadSessionInput) (now : Instant)
    (row : CompletionReplayRow) : Prop where
  unrecorded : db.idempotencyRecord? input.idempotencyRecordKey = none
  found : db.findUploadSession input.uploadSessionId = some row
  unexpired : ¬ now > row.uploadSession.expiresAt
  unreplayable : tryBuildCompletionReplay row = none
  isOpen : row.uploadSession.isOpen
  accepts : acceptsCompletion row.version.lifecycleState = true
  staged : stagedEvidenceProblem input row = none

namespace AcceptedCompletion

variable {rt : Runtime} {env : CompletionEnvironment} {db : Db}
  {input : RegistryCompleteUploadSessionInput} {row : CompletionReplayRow}

/-- The database and the joined session that phase one leaves of an accepted
completion. -/
theorem canonicalizes (rt : Runtime) (h : AcceptedCompletion db input env.phaseOneAt row) :
    ∃ db₁ row₁, completeUploadSession rt env input db =
        canonicalizeAndRecord rt env input (canonicalizationRequest input row) db₁ ∧
      executeAll (acceptCompletion input env.phaseOneAt row).statements db = .ok db₁ ∧
      db₁.findUploadSession input.uploadSessionId = some row₁ ∧
      tryBuildCompletionReplay row₁ = none ∧ row₁.version.lifecycleState = .canonicalizing ∧
      row₁.version.id = row.version.id := by
  obtain ⟨db₁, hone, hexec⟩ :=
    phaseOne_accepts h.found h.unexpired h.unreplayable h.isOpen h.accepts
    h.staged
  refine ⟨db₁, _, ?_, hexec, findUploadSession_accepted h.found hexec,
    tryBuildCompletionReplay_accepted _ _ h.unreplayable, rfl, rfl⟩
  simp only [completeUploadSession, h.unrecorded, hone]

/-- A source id that no other version holds in a database, none holds after phase one. -/
theorem sources {db₁ : Db} {id : String}
    (hexec : executeAll (acceptCompletion input env.phaseOneAt row).statements db = .ok db₁) :
    (∃ v ∈ db₁.assetVersions.rows, v.id ≠ row.version.id ∧ v.canonicalSourceId = some id) ↔
      ∃ v ∈ db.assetVersions.rows, v.id ≠ row.version.id ∧ v.canonicalSourceId = some id := by
  have hother : ∀ x, x ≠ row.version.id → db₁.version? x = db.version? x := by
    intro x hx
    rw [executeAll_version? hexec]
    simp [acceptCompletion, CompletionStatement.onVersion, hx]
  constructor
  · rintro ⟨v, hv, hne, hsource⟩
    have hfound := hother v.id hne ▸ Db.version?_eq_some_iff.mpr ⟨hv, rfl⟩
    exact ⟨v, (Db.version?_eq_some_iff.mp hfound).1, hne, hsource⟩
  · rintro ⟨v, hv, hne, hsource⟩
    have hfound := (hother v.id hne).symm ▸ Db.version?_eq_some_iff.mpr ⟨hv, rfl⟩
    exact ⟨v, (Db.version?_eq_some_iff.mp hfound).1, hne, hsource⟩

/-- **A shared source fails the completion.** When another version holds the canonical
source that the canonicalization returns, the completion fails on the unique constraint
and leaves its version `failed_retryable`, with no evidence recorded. -/
theorem shared_source (h : AcceptedCompletion db input env.phaseOneAt row) {source : SnapshotResult}
    (hcanonicalize : env.canonicalize (canonicalizationRequest input row) = .ok source)
    (hshared : ∃ v ∈ db.assetVersions.rows, v.id ≠ row.version.id ∧
      v.canonicalSourceId = some source.canonicalSourceId) :
    (completeUploadSession rt env input db).1 =
        .error
          (.uploadSessionCanonicalizationFailed input.uploadSessionId (.store .uniqueConstraint)) ∧
      ∃ v, (completeUploadSession rt env input db).2.version? row.version.id = some v ∧
        v.lifecycleState = .failedRetryable ∧ v.evidence = row.version.evidence := by
  obtain ⟨db₁, row₁, hcomplete, hexec, hrow₁, hreplay₁, hstate₁, hid₁⟩ := h.canonicalizes rt
  have hshared₁ := (sources hexec).mpr hshared
  rw [← hid₁] at hshared₁
  have htwo := phaseTwo_shared_source rt env.newDispatchId env.phaseTwoAt
    hrow₁ hreplay₁ hstate₁ hshared₁
  have hv₁ : db₁.version? row.version.id =
      some (row.version.startCanonicalizing input.stagedObject.objectKey) := by
    rw [executeAll_version? hexec, Db.findUploadSession_version? h.found]
    simp [acceptCompletion, CompletionStatement.onVersion]
  obtain ⟨db₂, hrecover⟩ := Db.updateAssetVersion_ok hv₁ (f := fun r => r.moveTo .failedRetryable)
    fun _ _ => rfl
  have happly :
    (CompletionStatement.failRetryable (canonicalizationRequest input row).versionId).apply
      db₁ = .ok db₂ := hrecover
  have hresult : completeUploadSession rt env input db =
      (.error (.uploadSessionCanonicalizationFailed input.uploadSessionId
        (.store .uniqueConstraint)),
        db₂) := by
    rw [hcomplete]
    simp only [canonicalizeAndRecord, hcanonicalize, htwo, recoverFailedCompletion, happly]
  rw [hresult]
  refine ⟨rfl, (row.version.startCanonicalizing input.stagedObject.objectKey).moveTo
    .failedRetryable,
    ?_, rfl, rfl⟩
  rw [Db.version?_updateAssetVersion hrecover (fun _ => rfl), hv₁]
  simp

/-- **A fresh source completes the session.** -/
theorem succeeds (h : AcceptedCompletion db input env.phaseOneAt row) {source : SnapshotResult}
    (hcanonicalize : env.canonicalize (canonicalizationRequest input row) = .ok source)
    (hfresh : ∀ v ∈ db.assetVersions.rows, v.id ≠ row.version.id →
      v.canonicalSourceId ≠ some source.canonicalSourceId)
    (hdispatch : ∀ d ∈ db.workflowDispatches.rows, d.id ≠ env.newDispatchId) :
    ∃ completed, (completeUploadSession rt env input db).1 = .ok completed := by
  obtain ⟨db₁, row₁, hcomplete, hexec, hrow₁, hreplay₁, hstate₁, hid₁⟩ := h.canonicalizes rt
  have hdispatch₁ : ∀ d ∈ db₁.workflowDispatches.rows, d.id ≠ env.newDispatchId := by
    rw [executeAll_dispatches hexec]
    simpa [acceptCompletion, CompletionStatement.newDispatch] using hdispatch
  have hfresh₁ : ∀ v ∈ db₁.assetVersions.rows, v.id ≠ row₁.version.id →
      v.canonicalSourceId ≠ some source.canonicalSourceId := by
    intro v hv hne hsource
    obtain ⟨x, hx, hxne, hxsource⟩ := (sources hexec).mp ⟨v, hv, hid₁ ▸ hne, hsource⟩
    exact hfresh x hx hxne hxsource
  obtain ⟨completed, db₂, htwo⟩ := (phaseTwo_succeeds_iff rt env.phaseTwoAt hrow₁
    hreplay₁ hstate₁ hdispatch₁).mpr hfresh₁
  refine ⟨completed, ?_⟩
  rw [hcomplete]
  simp only [canonicalizeAndRecord, hcanonicalize, htwo]

end AcceptedCompletion

/-- A session is completed with a source: its version is canonical with the evidence of
the source, it has exactly one dispatch, and its completion is replayable. -/
structure Db.CompletedWith (rt : Runtime) (db : Db) (uploadSessionId : String)
    (source : SnapshotResult) (row : CompletionReplayRow) : Prop where
  found : db.findUploadSession uploadSessionId = some row
  canonical : row.version.lifecycleState = .canonical
  evidence : row.version.evidence = canonicalEvidence rt source
  dispatched : (db.dispatchesOf row.version.id).length = 1
  replayable : (tryBuildCompletionReplay row).isSome

/-- Two completions of a sequence of calls succeed and last: both return a completed
session, and at the end both sessions are completed with their sources. -/
structure BothComplete (rt : Runtime) (db : Db) (before between after : List RegistryCall)
    (envA envB : CompletionEnvironment) (inputA inputB : RegistryCompleteUploadSessionInput)
    (sourceA sourceB : SnapshotResult) : Prop where
  first :
    ∃ completed, (completeUploadSession rt envA inputA (runCalls rt before db)).1 = .ok completed
  second : ∃ completed, (completeUploadSession rt envB inputB
    (runCalls rt (before ++ .complete envA inputA :: between) db)).1 = .ok completed
  firstLasts : ∃ row, (runCalls rt
    (before ++ .complete envA inputA :: between ++ .complete envB inputB :: after) db).CompletedWith
      rt inputA.uploadSessionId sourceA row
  secondLasts : ∃ row, (runCalls rt
    (before ++ .complete envA inputA :: between ++ .complete envB inputB :: after) db).CompletedWith
      rt inputB.uploadSessionId sourceB row

/-- **One canonical source never completes two sessions**: whatever is called before,
between and after them, two completions of different sessions with one canonical source id
never both succeed and last. -/
theorem same_source_never_completes_twice (rt : Runtime) (db : Db)
    (before between after : List RegistryCall) (envA envB : CompletionEnvironment)
    (inputA inputB : RegistryCompleteUploadSessionInput) (sourceA sourceB : SnapshotResult)
    (hsessions : inputA.uploadSessionId ≠ inputB.uploadSessionId)
    (hsame : sourceA.canonicalSourceId = sourceB.canonicalSourceId) :
    ¬ BothComplete rt db before between after envA envB inputA inputB sourceA sourceB := by
  rintro ⟨-, -, ⟨rowA, hA⟩, ⟨rowB, hB⟩⟩
  have hidA : rowA.version.canonicalSourceId = some sourceA.canonicalSourceId :=
    congrArg CanonicalEvidence.canonicalSourceId hA.evidence
  have hidB : rowB.version.canonicalSourceId = some sourceB.canonicalSourceId :=
    congrArg CanonicalEvidence.canonicalSourceId hB.evidence
  obtain ⟨hsA, hvA, -⟩ := Db.findUploadSession_eq_some.mp hA.found
  obtain ⟨hsB, hvB, -⟩ := Db.findUploadSession_eq_some.mp hB.found
  have hversions :=
    Db.eq_of_canonicalSourceId hvA hvB (by rw [hidA]; rfl) (by rw [hidA, hidB, hsame])
  exact hsessions (Db.eq_of_assetVersionId hsA hsB hversions)

/-- The sample sessions "a" and "b", issued. -/
def sampleIssuedCalls : List RegistryCall :=
  [.operation (.issueUploadSession (sampleIssue "a") (sampleIds "a") 10),
    .operation (.issueUploadSession (sampleIssue "b") (sampleIds "b") 10)]

/-- The samples "a" and "b" do not both complete with one source. -/
theorem same_source_samples_not_both_complete :
    ¬ BothComplete sampleRuntime sampleRegistry sampleIssuedCalls [] []
      (sampleEnvironment "source-1" "dispatch-a") (sampleEnvironment "source-1" "dispatch-b")
      (sampleCompletion "a" "key-1") (sampleCompletion "b" "key-1") (sampleSource "source-1")
      (sampleSource "source-1") :=
  same_source_never_completes_twice sampleRuntime sampleRegistry sampleIssuedCalls [] [] _ _ _ _ _ _
    (by decide) rfl

/-- The sessions "a" and "b" of two assets are completed with the same bytes: the first
completion succeeds, the second fails on the unique constraint and leaves its version
`failed_retryable`. -/
theorem same_source_second_completion_fails :
    ((completeUploadSession sampleRuntime (sampleEnvironment "source-1" "dispatch-a")
        (sampleCompletion "a" "key-1")
        (runCalls sampleRuntime sampleIssuedCalls sampleRegistry)).1.isOk = true) ∧
      ∃ db', completeUploadSession sampleRuntime (sampleEnvironment "source-1" "dispatch-b")
          (sampleCompletion "b" "key-1")
          (runCalls sampleRuntime (sampleIssuedCalls ++
            [.complete (sampleEnvironment "source-1" "dispatch-a") (sampleCompletion "a" "key-1")])
            sampleRegistry) =
          (.error
            (.uploadSessionCanonicalizationFailed "session-b" (.store .uniqueConstraint)), db') ∧
        db'.lifecycle? "version-b" = some .failedRetryable := by
  have herror : ∀ r : Except RegistryError RegistryCompletedUploadSession × Db,
      (match r.1 with
        | .error e => decide (e = .uploadSessionCanonicalizationFailed "session-b"
            (.store .uniqueConstraint))
        | .ok _ => false) = true →
      r.2.lifecycle? "version-b" = some .failedRetryable →
      ∃ db', r =
          (.error
            (.uploadSessionCanonicalizationFailed "session-b" (.store .uniqueConstraint)), db') ∧
        db'.lifecycle? "version-b" = some .failedRetryable := by
    rintro ⟨r, db'⟩ hr hstate
    cases r with
    | ok _ => cases hr
    | error e => exact ⟨db', by rw [of_decide_eq_true hr], hstate⟩
  exact ⟨by decide +kernel, herror _ (by decide +kernel) (by decide +kernel)⟩

end Cdngine
