import Cdngine.Completion
import Cdngine.Publication
import Cdngine.Runs

/-!
# The Version Lifecycle

The registry as a system of atomic transactions, taken in any order: issuances, the
pieces of any number of completions (each may stop between two of them, with its
process), the transactions of the three publication stores and of the execution store,
and operator steps on the version row. Five classes write the lifecycle state of a
version; `LifecycleEdge` says which transitions each of them makes, and every step of the
system moves every version along one of these edges or leaves its state as it is.

## Main results

* `RegistryStep.lifecycle_edge`: the refinement of the lifecycle by the system.
* `RegistryStep.marks_failed`: the two writers of `failed_retryable` succeed on a version
  in any state.
* `lifecycle_law_iff`: a run keeps the lifecycle law exactly when these two writers
  execute only on a version that is canonicalizing or processing, or that has failed
  already.
* `published_fails_retryable`: without that they break it.
-/

open Relational Runs

namespace Cdngine

/-! ### Operations of one transaction -/

/-- The steps with which an operator holds, releases or removes a version. -/
inductive OperatorStep
  | quarantine
  | release
  | purge
  deriving DecidableEq, Repr

/-- The state in which an operator step leaves a version. -/
def OperatorStep.target : OperatorStep → AssetVersionState
  | .quarantine => .quarantined
  | .release => .processing
  | .purge => .purged

/-- The states in which an operator step is not rejected. -/
def OperatorStep.allowedFrom (state : AssetVersionState) : OperatorStep → Bool
  | .quarantine => state ≠ .quarantined && state ≠ .purged
  | .release => state = .quarantined
  | .purge => state ≠ .purged

def OperatorStep.text : OperatorStep → String
  | .quarantine => "quarantine"
  | .release => "release"
  | .purge => "purge"

/-- An operator step on the version row. -/
def operatorTransaction (step : OperatorStep) (versionId : String) : Transaction Unit := fun db =>
  match db.version? versionId with
  | none =>
      .error (.thrown "OperatorVersionNotFoundError"
        ("Version " ++ quoted versionId ++ " does not exist."))
  | some version =>
      if step.allowedFrom version.lifecycleState then do
        let db ← db.updateAssetVersion versionId fun r => r.moveTo step.target
        return ((), db)
      else
        .error (.thrown "OperatorActionRejectedError"
          ("Operator action " ++ quoted step.text ++ " is not allowed for version " ++
            quoted versionId ++ " in lifecycle state " ++
            quoted version.lifecycleState.text ++ "."))

/-- The operations that are one transaction; the lookups around the transaction of an
issuance only read. -/
inductive RegistryOperation
  | issueUploadSession (input : RegistryIssueUploadSessionInput) (ids : IssueIds) (now : Instant)
  | beginPublication (kind : PublicationKind) (versionId : String)
  | publishVersion (kind : PublicationKind) (versionId deliveryScopeId : String)
      (derivatives : List PublishedDerivativeRecord) (manifest : PublishedManifestRecord)
  | markRunning (input : MarkWorkflowExecutionRunningInput)
  | markCompleted (input : MarkWorkflowExecutionCompletedInput)
  | markFailedRetryable (input : MarkWorkflowExecutionFailedInput)
  | operator (step : OperatorStep) (versionId : String)

/-- The database after an operation; one that throws leaves it as it was. -/
def RegistryOperation.run (rt : Runtime) (db : Db) : RegistryOperation → Db
  | .issueUploadSession input ids now => (transact (issueTransaction input ids now) db).2
  | .beginPublication .genericAsset versionId =>
      (transact (beginGenericAssetPublication versionId) db).2
  | .beginPublication .image versionId => (transact (beginImagePublication versionId) db).2
  | .beginPublication .presentation versionId =>
      (transact (beginPresentationPublication versionId) db).2
  | .publishVersion .genericAsset versionId deliveryScopeId derivatives manifest =>
      (transact (publishGenericAssetVersion rt versionId deliveryScopeId derivatives manifest) db).2
  | .publishVersion .image versionId deliveryScopeId derivatives manifest =>
      (transact (publishImageVersion rt versionId deliveryScopeId derivatives manifest) db).2
  | .publishVersion .presentation versionId deliveryScopeId derivatives manifest =>
      (transact (publishPresentationVersion rt versionId deliveryScopeId derivatives manifest) db).2
  | .markRunning input => (transact (Cdngine.markRunning input) db).2
  | .markCompleted input => (transact (Cdngine.markCompleted input) db).2
  | .markFailedRetryable input => (transact (Cdngine.markFailedRetryable rt input) db).2
  | .operator step versionId => (transact (operatorTransaction step versionId) db).2

/-! ### The system -/

/-- How far a completion has come. -/
inductive CompletionProgress
  | started
  | accepted (request : RegistryCanonicalizationRequest)
  | snapshotted (request : RegistryCanonicalizationRequest) (source : SnapshotResult)
  | failed (request : RegistryCanonicalizationRequest) (cause : RegistryError)
  | finished (result : Except RegistryError RegistryCompletedUploadSession)
  | stopped

/-- A completion in flight. -/
structure PendingCompletion where
  input : RegistryCompleteUploadSessionInput
  progress : CompletionProgress

/-- The database with the completions in flight. -/
structure RegistrySystem where
  db : Db
  completions : List PendingCompletion

/-- The steps of the system; a number names a completion. -/
inductive RegistryAction
  | operation (op : RegistryOperation)
  | complete (input : RegistryCompleteUploadSessionInput)
  | phaseOne (i : Nat) (now : Instant)
  | canonicalize (i : Nat) (result : Except RegistryError SnapshotResult)
  | phaseTwo (i : Nat) (newDispatchId : String) (now : Instant)
  | recover (i : Nat)
  | stop (i : Nat)

/-- Where a completion goes once phase one has committed. -/
def PhaseOneResult.progress : PhaseOneResult → CompletionProgress
  | .replay completed => .finished (.ok completed)
  | .validationFailure e => .finished (.error e)
  | .request r => .accepted r

namespace RegistrySystem

variable (sys : RegistrySystem)

/-- Move a completion on, over the database it leaves. -/
def advance (i : Nat) (progress : CompletionProgress) (db : Db) : RegistrySystem :=
  { db, completions := sys.completions.modify i fun c => { c with progress } }

/-- Begin a completion: a request whose idempotency key has a record is answered from
it. -/
def complete (input : RegistryCompleteUploadSessionInput) : RegistrySystem :=
  match sys.db.idempotencyRecord? input.idempotencyRecordKey with
  | some record =>
      { sys with
        completions :=
          sys.completions ++ [⟨input, .finished (completionReplay sys.db input record)⟩] }
  | none => { sys with completions := sys.completions ++ [⟨input, .started⟩] }

/-- The first transaction of a completion. -/
def phaseOne (i : Nat) (input : RegistryCompleteUploadSessionInput) (now : Instant) :
    RegistrySystem :=
  match Cdngine.phaseOne input now sys.db with
  | .ok (result, db) => sys.advance i result.progress db
  | .error e => sys.advance i (.finished (.error e)) sys.db

/-- The second transaction of a completion. -/
def phaseTwo (rt : Runtime) (i : Nat) (input : RegistryCompleteUploadSessionInput)
    (request : RegistryCanonicalizationRequest) (source : SnapshotResult) (newDispatchId : String)
    (now : Instant) : RegistrySystem :=
  match Cdngine.phaseTwo rt input source newDispatchId now sys.db with
  | .ok (completed, db) => sys.advance i (.finished (.ok completed)) db
  | .error e => sys.advance i (.failed request e) sys.db

/-- The `catch` of a completion. -/
def recover (i : Nat) (input : RegistryCompleteUploadSessionInput) (versionId : String)
    (cause : RegistryError) : RegistrySystem :=
  let outcome := recoverFailedCompletion input versionId cause sys.db
  sys.advance i (.finished outcome.1) outcome.2

/-- **The step function** of the registry; `none` where a step is not enabled. -/
def next (rt : Runtime) (sys : RegistrySystem) : RegistryAction → Option RegistrySystem
  | .operation op => some { sys with db := op.run rt sys.db }
  | .complete input => some (sys.complete input)
  | .phaseOne i now => do
      let c ← sys.completions[i]?
      match c.progress with
      | .started => some (sys.phaseOne i c.input now)
      | _ => none
  | .canonicalize i result => do
      let c ← sys.completions[i]?
      match c.progress, result with
      | .accepted request, .ok source => some (sys.advance i (.snapshotted request source) sys.db)
      | .accepted request, .error e => some (sys.advance i (.failed request e) sys.db)
      | _, _ => none
  | .phaseTwo i newDispatchId now => do
      let c ← sys.completions[i]?
      match c.progress with
      | .snapshotted request source =>
          some (sys.phaseTwo rt i c.input request source newDispatchId now)
      | _ => none
  | .recover i => do
      let c ← sys.completions[i]?
      match c.progress with
      | .failed request cause => some (sys.recover i c.input request.versionId cause)
      | _ => none
  | .stop i => do
      let c ← sys.completions[i]?
      match c.progress with
      | .finished _ | .stopped => none
      | _ => some (sys.advance i .stopped sys.db)

end RegistrySystem

/-- The step relation of the registry. -/
def RegistryStep (rt : Runtime) (sys : RegistrySystem) (a : RegistryAction)
    (sys' : RegistrySystem) :
    Prop :=
  sys.next rt a = some sys'

/-! ### The lifecycle -/

/-- Who writes the lifecycle state of a version. -/
inductive LifecycleWriter
  | issuance
  | phaseOne
  | phaseTwo
  | recovery
  | begin
  | publish
  | execution
  | operator
  deriving DecidableEq, Repr

/-- The writer that an operation is. -/
def RegistryOperation.writer : RegistryOperation → LifecycleWriter
  | .issueUploadSession _ _ _ => .issuance
  | .beginPublication _ _ => .begin
  | .publishVersion _ _ _ _ _ => .publish
  | .markRunning _ | .markCompleted _ | .markFailedRetryable _ => .execution
  | .operator _ _ => .operator

/-- The writer that a step is. -/
def RegistryAction.writer : RegistryAction → LifecycleWriter
  | .operation op => op.writer
  | .complete _ | .phaseOne _ _ | .canonicalize _ _ | .stop _ => .phaseOne
  | .phaseTwo _ _ _ => .phaseTwo
  | .recover _ => .recovery

/-- **The version lifecycle**, as the code makes its transitions: from no version or from
a state, into a state, by a writer. -/
inductive LifecycleEdge : LifecycleWriter → Option AssetVersionState → AssetVersionState → Prop
  | issue : LifecycleEdge .issuance none .sessionCreated
  | reject {s : AssetVersionState} (h : acceptsCompletion s = true) :
      LifecycleEdge .phaseOne (some s) .failedValidation
  | accept {s : AssetVersionState} (h : acceptsCompletion s = true) :
      LifecycleEdge .phaseOne (some s) .canonicalizing
  | canonicalize : LifecycleEdge .phaseTwo (some .canonicalizing) .canonical
  | recover {s : AssetVersionState} : LifecycleEdge .recovery (some s) .failedRetryable
  | begin {s : AssetVersionState} (h : PublicationStore.acceptsBegin s = true) :
      LifecycleEdge .begin (some s) .processing
  | publish {s : AssetVersionState} (h : PublicationStore.acceptsPublish s = true) :
      LifecycleEdge .publish (some s) .published
  | fail {s : AssetVersionState} : LifecycleEdge .execution (some s) .failedRetryable
  | operate {s : AssetVersionState} {step : OperatorStep} (h : step.allowedFrom s = true) :
      LifecycleEdge .operator (some s) step.target

/-- The version that an operation marks failed. -/
def RegistryOperation.marksFailed : RegistryOperation → Option String
  | .markFailedRetryable input => some input.assetVersionId
  | _ => none

/-- The version that a step of a system marks failed: that of `markFailedRetryable`, or
that of the completion whose `catch` executes. -/
def RegistrySystem.marksFailed (sys : RegistrySystem) : RegistryAction → Option String
  | .operation op => op.marksFailed
  | .recover i =>
      (sys.completions[i]?).bind fun c =>
        match c.progress with
        | .failed request _ => some request.versionId
        | _ => none
  | _ => none

/-- What a step may do to the state of a version: leave it, or move it along an edge of
its writer, into `failed_retryable` only the version that the step marks failed. -/
def LifecycleMove (writer : LifecycleWriter) (marked : Option String) (id : String)
    (s s' : Option AssetVersionState) : Prop :=
  s' = s ∨ ∃ state, s' = some state ∧ LifecycleEdge writer s state ∧
    (state = .failedRetryable → marked = some id)

theorem LifecycleMove.of_version? {writer : LifecycleWriter} {marked : Option String} {id : String}
    {db db' : Db} (h : db'.version? id = db.version? id) :
    LifecycleMove writer marked id (db.lifecycle? id) (db'.lifecycle? id) :=
  Or.inl (by rw [Db.lifecycle?, h, Db.lifecycle?])

/-- A transaction that moves one version moves every version along the edges of its
writer. -/
theorem Db.VersionMoved.lifecycleMove {db db' : Db} {versionId : String}
    {state : AssetVersionState} (h : db.VersionMoved db' versionId state) {v : AssetVersion}
    (hv : db.version? versionId = some v) {writer : LifecycleWriter} {marked : Option String}
    (hedge : LifecycleEdge writer (some v.lifecycleState) state)
    (hmarked : state = .failedRetryable → marked = some versionId) (id : String) :
    LifecycleMove writer marked id (db.lifecycle? id) (db'.lifecycle? id) := by
  by_cases hid : id = versionId
  · subst hid
    refine Or.inr ⟨state, ?_, ?_, hmarked⟩
    · simp [lifecycle?, h.version?, hv]
    · simpa [lifecycle?, hv] using hedge
  · refine Or.inl ?_
    simp only [lifecycle?, h.version?, if_neg hid, Option.map_id']

/-! ### The operations move along the edges -/

/-- An operation of one transaction moves the versions as the transaction does when it
commits. -/
theorem LifecycleMove.of_transact {α : Type} {tx : Transaction α} {db : Db} {id : String}
    {writer : LifecycleWriter} {marked : Option String}
    (h : ∀ a db', tx db = .ok (a, db') →
      LifecycleMove writer marked id (db.lifecycle? id) (db'.lifecycle? id)) :
    LifecycleMove writer marked id (db.lifecycle? id) ((transact tx db).2.lifecycle? id) := by
  rcases transact_snd tx db with ⟨a, ha⟩ | hsame
  · exact h a _ ha
  · exact .of_version? (by rw [hsame])

theorem issueTransaction_lifecycleMove (input : RegistryIssueUploadSessionInput) (ids : IssueIds)
    (now : Instant) (db : Db) (id : String) (marked : Option String) :
    LifecycleMove .issuance marked id (db.lifecycle? id)
      ((transact (issueTransaction input ids now) db).2.lifecycle? id) := by
  refine .of_transact fun issued db' h => ?_
  rcases (issueTransaction_version? h).1 id with hsame | ⟨hnone, v, hv, hstate⟩
  · exact .of_version? hsame
  · refine Or.inr ⟨.sessionCreated, ?_, ?_, fun h => by cases h⟩
    · simp [Db.lifecycle?, hv, hstate]
    · simpa [Db.lifecycle?, hnone] using LifecycleEdge.issue

namespace PublicationStore

variable {ε : Type} (store : PublicationStore ε)

theorem begin_lifecycleMove (versionId : String) (db : Db) (id : String) (marked : Option String) :
    LifecycleMove .begin marked id (db.lifecycle? id)
      ((transact (store.begin versionId) db).2.lifecycle? id) := by
  refine .of_transact fun record db' h => ?_
  obtain ⟨⟨v, hv, haccepts⟩, hmoved⟩ := begin_moved h
  exact hmoved.lifecycleMove hv (.begin haccepts) (fun h => by cases h) id

theorem publish_lifecycleMove (rt : Runtime) (versionId deliveryScopeId : String)
    (derivatives : List PublishedDerivativeRecord) (manifest : PublishedManifestRecord) (db : Db)
    (id : String) (marked : Option String) :
    LifecycleMove .publish marked id (db.lifecycle? id)
      ((transact (store.publish rt versionId deliveryScopeId derivatives manifest) db).2.lifecycle?
        id) := by
  refine .of_transact fun record db' h => ?_
  obtain ⟨⟨v, hv, haccepts⟩, hmoved⟩ := publish_moved h
  exact hmoved.lifecycleMove hv (.publish haccepts) (fun h => by cases h) id

end PublicationStore

/-- **Inversion of an operator step.** -/
theorem operatorTransaction_moved {step : OperatorStep} {versionId : String} {db db' : Db}
    {u : Unit} (h : operatorTransaction step versionId db = .ok (u, db')) :
    (∃ v, db.version? versionId = some v ∧ step.allowedFrom v.lifecycleState = true) ∧
      db.VersionMoved db' versionId step.target := by
  unfold operatorTransaction at h
  split at h
  · cases h
  · rename_i v hv
    split at h
    · rename_i hallowed
      obtain ⟨db₁, h₁, h⟩ := bind_eq_ok.mp h
      obtain ⟨-, rfl⟩ := Prod.mk.inj (Except.ok.inj h)
      exact ⟨⟨v, hv, hallowed⟩, Db.updateAssetVersion_moved h₁⟩
    · cases h

/-- Every operation moves every version along the edges of its writer. -/
theorem RegistryOperation.lifecycleMove (rt : Runtime) (op : RegistryOperation) (db : Db)
    (id : String) :
    LifecycleMove op.writer op.marksFailed id (db.lifecycle? id)
      ((op.run rt db).lifecycle? id) := by
  cases op with
  | issueUploadSession input ids now =>
      exact issueTransaction_lifecycleMove input ids now db id none
  | beginPublication kind versionId =>
      cases kind with
      | genericAsset => exact genericAssetPublicationStore.begin_lifecycleMove versionId db id none
      | image => exact imagePublicationStore.begin_lifecycleMove versionId db id none
      | presentation => exact presentationPublicationStore.begin_lifecycleMove versionId db id none
  | publishVersion kind versionId deliveryScopeId derivatives manifest =>
      cases kind with
      | genericAsset =>
          exact genericAssetPublicationStore.publish_lifecycleMove rt versionId deliveryScopeId
            derivatives manifest db id none
      | image =>
          exact imagePublicationStore.publish_lifecycleMove rt versionId deliveryScopeId derivatives
            manifest db id none
      | presentation =>
          exact presentationPublicationStore.publish_lifecycleMove rt versionId deliveryScopeId
            derivatives manifest db id none
  | markRunning input =>
      refine .of_transact fun u db' h => .of_version? ?_
      rw [Db.version?, (recordRun_frame h).1]
      rfl
  | markCompleted input =>
      refine .of_transact fun u db' h => .of_version? ?_
      rw [Db.version?, (recordRun_frame h).1]
      rfl
  | markFailedRetryable input =>
      refine .of_transact fun u db' h => ?_
      obtain ⟨hsome, hmoved⟩ := markFailedRetryable_moved h
      obtain ⟨v, hv⟩ := Option.isSome_iff_exists.mp hsome
      exact hmoved.lifecycleMove hv .fail (fun _ => rfl) id
  | operator step versionId =>
      refine .of_transact fun u db' h => ?_
      obtain ⟨⟨v, hv, hallowed⟩, hmoved⟩ := operatorTransaction_moved h
      exact hmoved.lifecycleMove hv (.operate hallowed) (fun h => by cases step <;> cases h) id

/-! ### The system moves along the edges -/

theorem phaseOne_lifecycleMove {input : RegistryCompleteUploadSessionInput} {now : Instant}
    {db db' : Db} {result : PhaseOneResult} (h : phaseOne input now db = .ok (result, db'))
    (id : String) (marked : Option String) :
    LifecycleMove .phaseOne marked id (db.lifecycle? id) (db'.lifecycle? id) := by
  rcases (phaseOne_cases h).version? id with hsame | ⟨v, v', hv, hv', haccepts, -, hstate⟩
  · exact .of_version? hsame
  · refine Or.inr ⟨v'.lifecycleState, by rw [Db.lifecycle?, hv']; rfl, ?_, ?_⟩
    · rw [Db.lifecycle?, hv]
      rcases hstate with hstate | hstate
      · rw [hstate]
        exact .reject haccepts
      · rw [hstate]
        exact .accept haccepts
    · rcases hstate with hstate | hstate <;> simp [hstate]

theorem phaseTwo_lifecycleMove {rt : Runtime} {input : RegistryCompleteUploadSessionInput}
    {source : SnapshotResult} {newDispatchId : String} {now : Instant} {db db' : Db}
    {completed : RegistryCompletedUploadSession}
    (h : phaseTwo rt input source newDispatchId now db = .ok (completed, db')) (id : String)
    (marked : Option String) :
    LifecycleMove .phaseTwo marked id (db.lifecycle? id) (db'.lifecycle? id) := by
  rcases (phaseTwo_cases h).version? id with hsame | ⟨v, hv, hstate, -, hv'⟩
  · exact .of_version? hsame
  · refine Or.inr ⟨.canonical, by rw [Db.lifecycle?, hv']; rfl, ?_, fun h => by cases h⟩
    rw [Db.lifecycle?, hv, Option.map_some, hstate]
    exact .canonicalize

/-- Where the `catch` of a completion leaves the database. -/
theorem recoverFailedCompletion_db (input : RegistryCompleteUploadSessionInput) (versionId : String)
    (cause : RegistryError) (db : Db) :
    (recoverFailedCompletion input versionId cause db).2 = db ∨
      db.VersionMoved (recoverFailedCompletion input versionId cause db).2 versionId
        .failedRetryable ∧ (db.version? versionId).isSome := by
  unfold recoverFailedCompletion
  cases hdb : (CompletionStatement.failRetryable versionId).apply db with
  | error e => exact Or.inl rfl
  | ok db' =>
      refine Or.inr ⟨Db.updateAssetVersion_moved hdb, ?_⟩
      obtain ⟨t, ht, -⟩ := write_eq_ok.mp hdb
      obtain ⟨⟨v, hv, hid⟩, -⟩ := Table.update_eq_ok_iff.mp ht
      rw [Db.version?_eq_some_iff.mpr ⟨hv, by simpa using hid⟩]
      rfl

section System

variable {rt : Runtime} {sys sys' : RegistrySystem} {a : RegistryAction}

/-- **The system refines the lifecycle**: every step moves every version along an edge of
its writer, or leaves its state as it is. -/
theorem RegistryStep.lifecycle_edge (h : RegistryStep rt sys a sys') (id : String) :
    LifecycleMove a.writer (sys.marksFailed a) id (sys.db.lifecycle? id)
      (sys'.db.lifecycle? id) := by
  cases a with
  | operation op =>
      obtain rfl := Option.some.inj h
      exact op.lifecycleMove rt sys.db id
  | complete input =>
      obtain rfl := Option.some.inj h
      unfold RegistrySystem.complete
      split <;> exact .of_version? rfl
  | phaseOne i now =>
      obtain ⟨c, hc, h⟩ := Option.bind_eq_some_iff.mp h
      split at h
      · obtain rfl := Option.some.inj h
        unfold RegistrySystem.phaseOne
        split
        · rename_i hone
          exact phaseOne_lifecycleMove hone id _
        · exact .of_version? rfl
      · cases h
  | canonicalize i result =>
      obtain ⟨c, hc, h⟩ := Option.bind_eq_some_iff.mp h
      split at h
      · obtain rfl := Option.some.inj h
        exact .of_version? rfl
      · obtain rfl := Option.some.inj h
        exact .of_version? rfl
      · cases h
  | phaseTwo i newDispatchId now =>
      obtain ⟨c, hc, h⟩ := Option.bind_eq_some_iff.mp h
      split at h
      · obtain rfl := Option.some.inj h
        unfold RegistrySystem.phaseTwo
        split
        · rename_i htwo
          exact phaseTwo_lifecycleMove htwo id _
        · exact .of_version? rfl
      · cases h
  | recover i =>
      obtain ⟨c, hc, h⟩ := Option.bind_eq_some_iff.mp h
      split at h
      · rename_i request cause hprogress
        obtain rfl := Option.some.inj h
        have hmarks : sys.marksFailed (.recover i) = some request.versionId := by
          simp only [RegistrySystem.marksFailed, hc, Option.bind_some, hprogress]
        rw [hmarks]
        rcases recoverFailedCompletion_db c.input request.versionId cause sys.db with
          hsame | ⟨hmoved, hsome⟩
        · exact .of_version? (by rw [RegistrySystem.recover, RegistrySystem.advance, hsame])
        · obtain ⟨v, hv⟩ := Option.isSome_iff_exists.mp hsome
          exact hmoved.lifecycleMove hv .recover (fun _ => rfl) id
      · cases h
  | stop i =>
      obtain ⟨c, hc, h⟩ := Option.bind_eq_some_iff.mp h
      split at h
      · cases h
      · cases h
      · obtain rfl := Option.some.inj h
        exact .of_version? rfl

/-- **The writers of `failed_retryable` are unguarded**: a step that marks an existing
version failed does so whatever its state. -/
theorem RegistryStep.marks_failed (h : RegistryStep rt sys a sys') {id : String}
    (hmarks : sys.marksFailed a = some id) {s : AssetVersionState}
    (hs : sys.db.lifecycle? id = some s) : sys'.db.lifecycle? id = some .failedRetryable := by
  obtain ⟨v, hv, -⟩ := Option.map_eq_some_iff.mp hs
  have hmoved : ∀ {db' : Db}, sys.db.VersionMoved db' id .failedRetryable →
      db'.lifecycle? id = some .failedRetryable := by
    intro db' hmoved
    simp [Db.lifecycle?, hmoved.version?, hv]
  cases a with
  | operation op =>
      obtain rfl := Option.some.inj h
      cases op with
      | markFailedRetryable input =>
          obtain rfl := Option.some.inj hmarks
          obtain ⟨db', hdb⟩ := markFailedRetryable_ok rt input hv
          refine hmoved ?_
          simp only [RegistryOperation.run, transact, hdb]
          exact (markFailedRetryable_moved hdb).2
      | _ => cases hmarks
  | recover i =>
      obtain ⟨c, hc, h⟩ := Option.bind_eq_some_iff.mp h
      simp only [RegistrySystem.marksFailed, hc, Option.bind_some] at hmarks
      split at h
      · rename_i request cause hprogress
        rw [hprogress] at hmarks
        obtain rfl := Option.some.inj hmarks
        obtain rfl := Option.some.inj h
        obtain ⟨db', hdb⟩ := Db.updateAssetVersion_ok hv (f := fun r => r.moveTo .failedRetryable)
          fun _ _ => rfl
        refine hmoved ?_
        have happly :
          (CompletionStatement.failRetryable request.versionId).apply sys.db = .ok db' := hdb
        simp only [RegistrySystem.recover, RegistrySystem.advance, recoverFailedCompletion, happly]
        exact Db.updateAssetVersion_moved hdb
      · cases h
  | _ => cases hmarks

/-! ### The law -/

/-- **The lifecycle law** for one step and one version. -/
structure LifecycleLaw (writer : LifecycleWriter) (s s' : Option AssetVersionState) : Prop where
  held : s = some .quarantined ∨ s = some .purged → s' ≠ s → writer = .operator
  published_left : s = some .published → s' ≠ s → writer = .operator ∨ writer = .begin
  published_entered : s' = some .published → s = some .processing ∨ s = some .published
  failedRetryable_entered : s' = some .failedRetryable → s' ≠ s →
    s = some .canonicalizing ∨ s = some .processing

/-- The states in which the law lets a version be marked failed. -/
def mayFail : AssetVersionState → Bool
  | .canonicalizing | .processing | .failedRetryable => true
  | _ => false

theorem mayFail_iff {s : AssetVersionState} :
    mayFail s = true ↔ s = .canonicalizing ∨ s = .processing ∨ s = .failedRetryable := by
  cases s <;> simp [mayFail]

/-- A step marks a version failed only while it is canonicalizing or processing, or has
failed already. -/
def FailsOnlyWork (τ : Transition RegistrySystem RegistryAction) : Bool :=
  (τ.before.marksFailed τ.action).all fun id => (τ.before.db.lifecycle? id).all mayFail

theorem failsOnlyWork_iff {τ : Transition RegistrySystem RegistryAction} :
    FailsOnlyWork τ = true ↔
      ∀ id s, τ.before.marksFailed τ.action = some id → τ.before.db.lifecycle? id = some s →
        mayFail s = true := by
  simp only [FailsOnlyWork, Option.all_eq_true]
  exact ⟨fun h id s hid hs => h id hid s hs, fun h id hid s hs => h id s hid hs⟩

/-- An edge of the lifecycle keeps the law unless it fails a version that may not
fail. -/
theorem LifecycleEdge.law {writer : LifecycleWriter} {s : Option AssetVersionState}
    {state : AssetVersionState} (h : LifecycleEdge writer s state)
    (hfail : state = .failedRetryable → s.all mayFail = true) :
    LifecycleLaw writer s (some state) := by
  cases h with
  | issue => constructor <;> simp
  | reject haccepts =>
      obtain rfl | rfl | rfl := acceptsCompletion_iff.mp haccepts <;> constructor <;> simp
  | accept haccepts =>
      obtain rfl | rfl | rfl := acceptsCompletion_iff.mp haccepts <;> constructor <;> simp
  | canonicalize => constructor <;> simp
  | recover => obtain rfl | rfl | rfl := mayFail_iff.mp (hfail rfl) <;> constructor <;> simp
  | begin haccepts =>
      obtain rfl | rfl | rfl :=
        PublicationStore.acceptsBegin_iff.mp haccepts <;> constructor <;> simp
  | publish haccepts =>
      obtain rfl | rfl := PublicationStore.acceptsPublish_iff.mp haccepts <;> constructor <;> simp
  | fail => obtain rfl | rfl | rfl := mayFail_iff.mp (hfail rfl) <;> constructor <;> simp
  | @operate t step hallowed => cases step <;> constructor <;> simp [OperatorStep.target]

/-- One step keeps the law for every version exactly when it fails only versions that may
fail. -/
theorem RegistryStep.law_iff (h : RegistryStep rt sys a sys') :
    (∀ id, LifecycleLaw a.writer (sys.db.lifecycle? id) (sys'.db.lifecycle? id)) ↔
      FailsOnlyWork ⟨sys, a, sys'⟩ = true := by
  constructor
  · intro hlaw
    refine failsOnlyWork_iff.mpr fun id s hmarks hs => ?_
    have hfailed := h.marks_failed hmarks hs
    have hs' : sys.db.lifecycle? id = some s := hs
    by_cases hsame : s = .failedRetryable
    · rw [hsame]
      rfl
    · have hentered := (hlaw id).failedRetryable_entered hfailed (by
        rw [hfailed, hs']
        simpa using Ne.symm hsame)
      rw [hs'] at hentered
      rcases hentered with heq | heq
      · rw [Option.some.inj heq]
        rfl
      · rw [Option.some.inj heq]
        rfl
  · intro hfails id
    rcases h.lifecycle_edge id with hsame | ⟨state, hstate, hedge, hmarked⟩
    · rw [hsame]
      exact
        { held := fun _ hne => absurd rfl hne
          published_left := fun _ hne => absurd rfl hne
          published_entered := Or.inr
          failedRetryable_entered := fun _ hne => absurd rfl hne }
    · rw [hstate]
      refine hedge.law fun hfailed => (Option.all_eq_true _ _).mpr fun s hs => ?_
      exact failsOnlyWork_iff.mp hfails id s (hmarked hfailed) hs

end System

/-- **The lifecycle law of a run.** A run keeps the law in each of its steps, for every
version, exactly when every step that marks a version failed executes while the version
is canonicalizing or processing, or has failed already. -/
theorem lifecycle_law_iff {rt : Runtime} {sys sys' : RegistrySystem}
    {tr : List (Transition RegistrySystem RegistryAction)} (h : Run (RegistryStep rt) sys tr sys') :
    (∀ τ ∈ tr, ∀ id, LifecycleLaw τ.action.writer (τ.before.db.lifecycle? id)
      (τ.after.db.lifecycle? id)) ↔ ∀ τ ∈ tr, FailsOnlyWork τ = true :=
  ⟨fun hlaw τ hτ => (RegistryStep.law_iff (h.step_of_mem τ hτ)).mp (hlaw τ hτ),
    fun hfails τ hτ => (RegistryStep.law_iff (h.step_of_mem τ hτ)).mpr (hfails τ hτ)⟩

/-! ### Runs of the law -/

/-- The sample registry with one delivery scope, and no completion in flight. -/
def sampleRegistrySystem : RegistrySystem where
  db := { sampleRegistry with
    deliveryScopes :=
      ⟨[⟨"scope-1", "namespace-1", none, "public", "cdn.example", none⟩], by decide⟩ }
  completions := []

/-- A manifest of the sample version. -/
def samplePublishedManifest : PublishedManifestRecord where
  checksumValue := "checksum"
  deliveryScopeId := "scope-1"
  manifestPayload := .null
  manifestType := "generic-asset-default"
  objectKey := "manifests/media/asset-a/version-a/generic-asset-default.json"
  publishedAt := 50
  schemaVersion := "v1"

/-- The report that an execution of the sample version failed. -/
def sampleFailure : MarkWorkflowExecutionFailedInput where
  assetVersionId := "version-a"
  failedAt := 60
  failureClass := "Error"
  workflowId := "media:asset-a:version-a:asset-derivation-v1"
  workflowTemplateId := "asset-derivation-v1"

/-- The sample session completes, and the publication of its version begins. -/
def processingActions : List RegistryAction :=
  [.operation (.issueUploadSession (sampleIssue "a") (sampleIds "a") 10),
    .complete (sampleCompletion "a" "key-1"), .phaseOne 0 20,
    .canonicalize 0 (.ok (sampleSource "source-1")), .phaseTwo 0 "dispatch-1" 30,
    .operation (.beginPublication .genericAsset "version-a")]

/-- The version is published, and then its execution fails: the report takes it out of
`published`. An execution that fails while an operator holds the version takes it out of
`quarantined` in the same way. -/
theorem published_fails_retryable :
    ∃ tr sys', Run (RegistryStep sampleRuntime) sampleRegistrySystem tr sys' ∧
      ¬ ∀ τ ∈ tr, ∀ id, LifecycleLaw τ.action.writer (τ.before.db.lifecycle? id)
        (τ.after.db.lifecycle? id) := by
  obtain ⟨tr, sys', hrun, hfailed⟩ := exists_run_of_exec
    (RegistrySystem.next sampleRuntime) sampleRegistrySystem
    (processingActions ++
      [.operation (.publishVersion .genericAsset "version-a" "scope-1" [] samplePublishedManifest),
        .operation (.markFailedRetryable sampleFailure),
        .operation (.operator .quarantine "version-a"),
        .operation (.markFailedRetryable sampleFailure)])
    (fun tr _ =>
      (∃ τ ∈ tr, τ.before.db.lifecycle? "version-a" = some .published ∧
        τ.after.db.lifecycle? "version-a" = some .failedRetryable ∧ τ.action.writer = .execution) ∧
      ∃ τ ∈ tr, τ.before.db.lifecycle? "version-a" = some .quarantined ∧
        τ.after.db.lifecycle? "version-a" = some .failedRetryable ∧ τ.action.writer = .execution)
    (by decide +kernel)
  obtain ⟨⟨τ, hτ, hbefore, hafter, hwriter⟩, -⟩ := hfailed
  refine ⟨tr, sys', hrun, fun hlaw => ?_⟩
  have hleft := (hlaw τ hτ "version-a").published_left hbefore (by rw [hbefore, hafter]; decide)
  rw [hwriter] at hleft
  exact absurd hleft (by decide)

/-- The execution fails while the version is processing, before it is published. -/
theorem processing_fails_retryable :
    ∃ tr sys', Run (RegistryStep sampleRuntime) sampleRegistrySystem tr sys' ∧
      sys'.db.lifecycle? "version-a" = some .failedRetryable ∧
      ∀ τ ∈ tr, ∀ id, LifecycleLaw τ.action.writer (τ.before.db.lifecycle? id)
        (τ.after.db.lifecycle? id) := by
  obtain ⟨tr, sys', hrun, hfailed, hfails⟩ := exists_run_of_exec
    (RegistrySystem.next sampleRuntime) sampleRegistrySystem
    (processingActions ++ [.operation (.markFailedRetryable sampleFailure)])
    (fun tr sys' => sys'.db.lifecycle? "version-a" = some .failedRetryable ∧
      ∀ τ ∈ tr, FailsOnlyWork τ = true)
    (by decide +kernel)
  exact ⟨tr, sys', hrun, hfailed, (lifecycle_law_iff hrun).mpr hfails⟩

end Cdngine
