import Cdngine.DispatchRecords

/-!
# The Workflow Dispatch Runtime

The loop that claims a batch of dispatches, starts a workflow for each of them and records
what became of the start. What the workflow client answers and which record calls throw are
given as data, so that a statement about every batch ranges over all their patterns.

A record call that throws is caught only around the start: a start whose record throws is
classified like a failed start and recorded as one, and a record that throws in the handler
ends the loop, with the rest of the batch left in `starting`.

## Main results

* `transitionDispatch_ok`, `dispatchOne_turn`: what a record call and one turn of the loop
  do to the dispatches.
* `dispatchEach_spec`: what the loop does, up to the first dispatch whose record throws and
  from there on.
* `claimPendingDispatches_commit`: what the claim does when it runs alone.
* `batch_settles_iff`: the batch settles as it should exactly when no start is misrecorded
  and no record that throws precedes one that does not.
* `start_recorded_as_failure`, `batch_stranded`: an example of each failure.
-/

open Relational ReadCommitted

namespace Cdngine

/-! ### The store, one call at a time -/

/-- What a record call does inside the transaction, after the dispatch has moved. -/
def RecordCall.mutation (rt : Runtime) : RecordCall → Db → Except RegistryError Db
  | .started input, db =>
      match db.workflowDispatch? input.dispatchId with
      | some dispatch =>
          (input.runStatement dispatch (db.workflowRun? input.workflowId)).apply db
      | none => .error (.store .recordNotFound)
  | .duplicate input, db =>
      match db.workflowDispatch? input.dispatchId with
      | some dispatch => (input.runStatement dispatch).apply db
      | none => .error (.store .recordNotFound)
  | .failedRetryable input, db | .failedTerminal input, db =>
      db.updateWorkflowDispatch input.dispatchId (input.failure rt).data

def transitionDispatch (rt : Runtime) (call : RecordCall) : Transaction Unit := fun db => do
  call.check (db.workflowDispatch? call.dispatchId)
  let db ← db.updateWorkflowDispatch call.dispatchId call.transition.data
  let db ← call.mutation rt db
  return ((), db)

/-- One turn of the loop of a claim. -/
def claimCandidate (input : ClaimPendingWorkflowDispatchesInput)
    (state : List WorkflowDispatchRecord × Db) (candidate : WorkflowDispatch) :
    List WorkflowDispatchRecord × Db :=
  let (claimed, db) := state
  if db.workflowDispatches.countP candidate.guards = 1 then
    let db := (updateDispatch candidate.id (candidate.claim input)).effect db
    match db.workflowDispatch? candidate.id with
    | some claimedRecord => (claimed ++ [mapDispatchRecord claimedRecord], db)
    | none => (claimed, db)
  else (claimed, db)

def claimPendingDispatches (input : ClaimPendingWorkflowDispatchesInput) (db : Db) :
    List WorkflowDispatchRecord × Db :=
  (claimCandidates input db).foldl (claimCandidate input) ([], db)

/-! ### The runtime -/

/-- All that a start request sends; the worker reads part of it. -/
structure WorkflowStartArgs where
  assetVersionId : String
  dispatchId : String
  dispatchReason : String
  workflowKey : String
  workflowTemplateId : String
  deriving DecidableEq, Repr

structure WorkflowStartRequest where
  args : WorkflowStartArgs
  taskQueue : String
  workflowId : String
  workflowType : String
  deriving DecidableEq, Repr

structure WorkflowStartResult where
  workflowId : String
  deriving DecidableEq, Repr

structure WorkflowTemplateRegistration where
  taskQueue : String
  workflowTemplateId : String
  workflowType : String
  deriving DecidableEq, Repr

/-- What the loop may catch. -/
inductive DispatchError
  | unknownWorkflowTemplate (workflowTemplateId : String)
  | workflowAlreadyStarted (workflowId : String)
  | other (error : RegistryError)
  deriving DecidableEq, Repr

/-- The state that a failure leads to. -/
inductive FailureTarget
  | failedRetryable
  | failedTerminal
  deriving DecidableEq, Repr

def FailureTarget.state : FailureTarget → WorkflowDispatchState
  | failedRetryable => .failedRetryable
  | failedTerminal => .failedTerminal

structure WorkflowStartFailureSummary where
  failureClass : String
  retrySummary : Option (List (String × JsValue)) := none
  targetState : FailureTarget

def defaultFailureClassifier (error : DispatchError) (_ : WorkflowDispatchRecord) :
    WorkflowStartFailureSummary :=
  match error with
  | .unknownWorkflowTemplate _ =>
      { failureClass := "unknown-workflow-template", targetState := .failedTerminal }
  | .workflowAlreadyStarted _ =>
      { failureClass := "WorkflowAlreadyStartedError", targetState := .failedRetryable }
  | .other error =>
      { failureClass := (present error.name).getD "workflow-start-failed"
        targetState := .failedRetryable }

def defaultWorkflowTemplates : List WorkflowTemplateRegistration :=
  [⟨"asset-processing", "asset-derivation-v1", "assetDerivationWorkflow"⟩,
    ⟨"image-processing", "image-derivation-v1", "imageDerivationWorkflow"⟩,
    ⟨"media-processing", "media-derivation-v1", "mediaDerivationWorkflow"⟩,
    ⟨"presentation-processing", "presentation-normalization-v1",
      "presentationNormalizationWorkflow"⟩]

structure WorkflowDispatchRuntime where
  batchSize : Nat := 25
  failureClassifier : DispatchError → WorkflowDispatchRecord → WorkflowStartFailureSummary :=
    defaultFailureClassifier
  templateRegistry : List WorkflowTemplateRegistration := defaultWorkflowTemplates

/-- The clock, the answers of the workflow client, and the record calls that throw: for a
dispatch and the state that is to be recorded. -/
structure DispatchEnvironment where
  now : Nat → Instant
  startWorkflow : WorkflowStartRequest → Except DispatchError WorkflowStartResult
  throws : String → WorkflowDispatchState → Option RegistryError

structure DispatchPendingWorkflowsResult where
  claimedCount : Nat
  duplicateCount : Nat := 0
  retryableFailureCount : Nat := 0
  startedCount : Nat := 0
  terminalFailureCount : Nat := 0
  deriving DecidableEq, Repr

def buildWorkflowInput (dispatch : WorkflowDispatchRecord) : WorkflowStartArgs where
  assetVersionId := dispatch.assetVersionId
  dispatchId := dispatch.dispatchId
  dispatchReason := dispatch.dispatchReason
  workflowKey := dispatch.workflowKey
  workflowTemplateId := dispatch.workflowTemplateId

def startedInput (attemptedAt : Instant) (dispatch : WorkflowDispatchRecord)
    (startResult : WorkflowStartResult) : RecordStartedWorkflowDispatchInput where
  currentPhase := some "accepted"
  dispatchId := dispatch.dispatchId
  expectedVersionToken := dispatch.versionToken
  startedAt := attemptedAt
  workflowId := startResult.workflowId

def duplicateInput (attemptedAt : Instant) (dispatch : WorkflowDispatchRecord)
    (workflowId : String) :
    RecordDuplicateWorkflowDispatchInput where
  currentPhase := some "already-running"
  dispatchId := dispatch.dispatchId
  expectedVersionToken := dispatch.versionToken
  observedAt := attemptedAt
  workflowId
  workflowRunState := some .running

def failureInput (attemptedAt : Instant) (dispatch : WorkflowDispatchRecord)
    (failure : WorkflowStartFailureSummary) : RecordFailedWorkflowDispatchInput where
  dispatchId := dispatch.dispatchId
  expectedVersionToken := dispatch.versionToken
  failedAt := attemptedAt
  failureClass := failure.failureClass
  retrySummary := failure.retrySummary

/-- A record call on the store: it throws, or its transaction executes. -/
def DispatchEnvironment.record (rt : Runtime) (env : DispatchEnvironment) (call : RecordCall)
    (db : Db) :
    Except RegistryError Unit × Db :=
  match env.throws call.dispatchId call.targetState with
  | some e => (.error e, db)
  | none => transact (transitionDispatch rt call) db

namespace WorkflowDispatchRuntime

variable (rt : Runtime) (runtime : WorkflowDispatchRuntime) (env : DispatchEnvironment)

def resolve (workflowTemplateId : String) : Except DispatchError WorkflowTemplateRegistration :=
  match runtime.templateRegistry.find? (·.workflowTemplateId == workflowTemplateId) with
  | some registration => .ok registration
  | none => .error (.unknownWorkflowTemplate workflowTemplateId)

/-- The start of the workflow of a dispatch. -/
def start (dispatch : WorkflowDispatchRecord) : Except DispatchError WorkflowStartResult := do
  let template ← runtime.resolve dispatch.workflowTemplateId
  env.startWorkflow
    { args := buildWorkflowInput dispatch
      taskQueue := template.taskQueue
      workflowId := dispatch.workflowKey
      workflowType := template.workflowType }

/-- The handler of the loop, for an error that has been classified. -/
def settleFailure (attemptedAt : Instant) (dispatch : WorkflowDispatchRecord)
    (failure : WorkflowStartFailureSummary) (result : DispatchPendingWorkflowsResult) (db : Db) :
    Except RegistryError DispatchPendingWorkflowsResult × Db :=
  match failure.targetState with
  | .failedTerminal =>
      match env.record rt (.failedTerminal (failureInput attemptedAt dispatch failure)) db with
      | (.ok (), db) =>
          (.ok { result with terminalFailureCount := result.terminalFailureCount + 1 }, db)
      | (.error e, db) => (.error e, db)
  | .failedRetryable =>
      match env.record rt (.failedRetryable (failureInput attemptedAt dispatch failure)) db with
      | (.ok (), db) =>
          (.ok { result with retryableFailureCount := result.retryableFailureCount + 1 }, db)
      | (.error e, db) => (.error e, db)

/-- The handler of the loop. -/
def handle (attemptedAt : Instant) (dispatch : WorkflowDispatchRecord) (error : DispatchError)
    (result : DispatchPendingWorkflowsResult) (db : Db) :
    Except RegistryError DispatchPendingWorkflowsResult × Db :=
  match error with
  | .workflowAlreadyStarted workflowId =>
      match env.record rt (.duplicate (duplicateInput attemptedAt dispatch workflowId)) db with
      | (.ok (), db) => (.ok { result with duplicateCount := result.duplicateCount + 1 }, db)
      | (.error e, db) => (.error e, db)
  | error =>
      settleFailure rt env attemptedAt dispatch (runtime.failureClassifier error dispatch) result db

/-- One turn of the loop. -/
def dispatchOne (attemptedAt : Instant) (dispatch : WorkflowDispatchRecord)
    (result : DispatchPendingWorkflowsResult) (db : Db) :
    Except RegistryError DispatchPendingWorkflowsResult × Db :=
  match runtime.start env dispatch with
  | .error e => runtime.handle rt env attemptedAt dispatch e result db
  | .ok startResult =>
      match env.record rt (.started (startedInput attemptedAt dispatch startResult)) db with
      | (.ok (), db) => (.ok { result with startedCount := result.startedCount + 1 }, db)
      | (.error e, db) => runtime.handle rt env attemptedAt dispatch (.other e) result db

/-- The loop over the claimed dispatches; `turn` counts the readings of the clock. -/
def dispatchEach : Nat → List WorkflowDispatchRecord → DispatchPendingWorkflowsResult → Db →
    Except RegistryError DispatchPendingWorkflowsResult × Db
  | _, [], result, db => (.ok result, db)
  | turn, dispatch :: rest, result, db =>
      match runtime.dispatchOne rt env (env.now turn) dispatch result db with
      | (.ok result, db) => dispatchEach (turn + 1) rest result db
      | (.error e, db) => (.error e, db)

def dispatchPending (limit : Option Nat) (db : Db) :
    Except RegistryError DispatchPendingWorkflowsResult × Db :=
  let (claimed, db) := claimPendingDispatches
    { claimedAt := env.now 0, limit := limit.getD runtime.batchSize } db
  runtime.dispatchEach rt env 1 claimed { claimedCount := claimed.length } db

end WorkflowDispatchRuntime

/-! ### What a record call does -/

section Records

variable {rt : Runtime} {call : RecordCall} {db db₁ : Db}

/-- A dispatch after its update. -/
theorem workflowDispatch?_updated {id key : String} {columns : DispatchUpdate}
    (h : db.updateWorkflowDispatch id columns.data = .ok db₁) :
    db₁.workflowDispatch? key =
      (db.workflowDispatch? key).map fun row => if key = id then columns.data row else row := by
  have heffect : (updateDispatch id columns).effect db = db₁ := by
    simp only [updateDispatch, h, keepOnError]
  rw [← heffect]
  exact workflowDispatch?_updateDispatch key

theorem workflowDispatch?_applied {r : RunStatement} (h : r.apply db = .ok db₁) (key : String) :
    db₁.workflowDispatch? key = db.workflowDispatch? key := by
  have heffect : r.write.effect db = db₁ := by
    simp only [RunStatement.write, h, keepOnError]
  rw [← heffect]
  exact workflowDispatch?_writeRun key

/-- What a record call does after it has moved its dispatch leaves the states of the
dispatches. -/
theorem RecordCall.mutation_ok {row : WorkflowDispatch}
    (hrow : db.workflowDispatch? call.dispatchId = some row) :
    ∃ db₁, call.mutation rt db = .ok db₁ ∧
      (∃ row₁, db₁.workflowDispatch? call.dispatchId = some row₁ ∧
        row₁.dispatchState = row.dispatchState) ∧
      ∀ id, id ≠ call.dispatchId → db₁.workflowDispatch? id = db.workflowDispatch? id := by
  have hrun : ∀ r : RunStatement, r.Applies (db.workflowRun? r.workflowId) →
      ∃ db₁, r.apply db = .ok db₁ ∧
        (∃ row₁, db₁.workflowDispatch? call.dispatchId = some row₁ ∧
          row₁.dispatchState = row.dispatchState) ∧
        ∀ id, id ≠ call.dispatchId → db₁.workflowDispatch? id = db.workflowDispatch? id := by
    intro r happlies
    obtain ⟨db₁, happly⟩ := RunStatement.apply_ok happlies
    have hsame := workflowDispatch?_applied happly
    exact ⟨db₁, happly, ⟨row, (hsame _).trans hrow, rfl⟩, fun id _ => hsame id⟩
  have hfailure : ∀ input : RecordFailedWorkflowDispatchInput, input.dispatchId = call.dispatchId →
      ∃ db₁, db.updateWorkflowDispatch input.dispatchId (input.failure rt).data = .ok db₁ ∧
        (∃ row₁, db₁.workflowDispatch? call.dispatchId = some row₁ ∧
          row₁.dispatchState = row.dispatchState) ∧
        ∀ id, id ≠ call.dispatchId → db₁.workflowDispatch? id = db.workflowDispatch? id := by
    intro input hid
    rw [hid]
    obtain ⟨db₁, hupdate⟩ := updateWorkflowDispatch_ok (input.failure rt) hrow
    refine ⟨db₁, hupdate, ⟨(input.failure rt).data row, ?_, rfl⟩, fun id hne => ?_⟩
    · rw [workflowDispatch?_updated hupdate, hrow]
      simp only [Option.map_some, if_true]
    · rw [workflowDispatch?_updated hupdate]
      simp only [hne, if_false, Option.map_id']
  cases call with
  | started input =>
      have hdispatch : db.workflowDispatch? input.dispatchId = some row := hrow
      simp only [mutation, hdispatch]
      refine hrun _ ?_
      rw [input.runStatement_workflowId]
      exact input.runStatement_applies _ _
  | duplicate input =>
      have hdispatch : db.workflowDispatch? input.dispatchId = some row := hrow
      simp only [mutation, hdispatch]
      exact hrun _ trivial
  | failedRetryable input => exact hfailure input rfl
  | failedTerminal input => exact hfailure input rfl

/-- **A record call on a dispatch that is as the check wants it** moves it to its state, and
leaves the other dispatches. -/
theorem transitionDispatch_ok {row : WorkflowDispatch}
    (hrow : db.workflowDispatch? call.dispatchId = some row)
    (hexpected : row.Expected call.expectedVersionToken) :
    ∃ db₁, transitionDispatch rt call db = .ok ((), db₁) ∧
      (∃ row₁, db₁.workflowDispatch? call.dispatchId = some row₁ ∧
        row₁.dispatchState = call.targetState) ∧
      ∀ id, id ≠ call.dispatchId → db₁.workflowDispatch? id = db.workflowDispatch? id := by
  obtain ⟨htoken, hstate⟩ := hexpected
  have hcheck : call.check (db.workflowDispatch? call.dispatchId) = .ok () := by
    simp only [hrow, RecordCall.check, htoken, hstate, ne_eq, not_true_eq_false, if_false]
  obtain ⟨db₁, hupdate⟩ := updateWorkflowDispatch_ok call.transition hrow
  have hrow₁ : db₁.workflowDispatch? call.dispatchId = some (call.transition.data row) := by
    rw [workflowDispatch?_updated hupdate, hrow]
    simp only [Option.map_some, if_true]
  obtain ⟨db₂, hmutation, hrow₂, hothers⟩ := @RecordCall.mutation_ok rt call db₁ _ hrow₁
  refine ⟨db₂, ?_, hrow₂, fun id hne => ?_⟩
  · exact bind_eq_ok.mpr ⟨(), hcheck, bind_eq_ok.mpr ⟨db₁, hupdate,
      bind_eq_ok.mpr ⟨db₂, hmutation, rfl⟩⟩⟩
  · rw [hothers id hne, workflowDispatch?_updated hupdate]
    simp only [hne, if_false, Option.map_id']

end Records

/-! ### One turn of the loop -/

/-- The dispatches that a result counts. -/
def DispatchPendingWorkflowsResult.total (result : DispatchPendingWorkflowsResult) : Nat :=
  result.startedCount + result.duplicateCount + result.retryableFailureCount +
    result.terminalFailureCount

namespace WorkflowDispatchRuntime

section Specification

variable (runtime : WorkflowDispatchRuntime) (env : DispatchEnvironment)
  (dispatch : WorkflowDispatchRecord)

/-- The state that the handler records for an error. -/
def handledState : DispatchError → WorkflowDispatchState
  | .workflowAlreadyStarted _ => .duplicate
  | error => (runtime.failureClassifier error dispatch).targetState.state

/-- The state that matches the start of a dispatch. -/
def startState : WorkflowDispatchState :=
  match runtime.start env dispatch with
  | .ok _ => .started
  | .error e => runtime.handledState dispatch e

/-- The record call for the start of a dispatch does not throw. -/
def RecordSucceeds : Prop := env.throws dispatch.dispatchId (runtime.startState env dispatch) = none

/-- The state that the last record call of a dispatch records: that of the start, or when
the record of a start that has succeeded throws, that of its error. -/
def lastState : WorkflowDispatchState :=
  match runtime.start env dispatch, env.throws dispatch.dispatchId .started with
  | .ok _, some e => runtime.handledState dispatch (.other e)
  | _, _ => runtime.startState env dispatch

/-- The last record call of a dispatch throws. -/
def aborts : Bool := (env.throws dispatch.dispatchId (runtime.lastState env dispatch)).isSome

/-- The state in which a turn leaves its dispatch. -/
def leftState : WorkflowDispatchState :=
  if runtime.aborts env dispatch then .starting else runtime.lastState env dispatch

/-- **A start is misrecorded**: it has succeeded, its record throws, and the record of that
as a failure does not. -/
def Misrecords : Prop :=
  (∃ startResult, runtime.start env dispatch = .ok startResult) ∧
    (∃ e, env.throws dispatch.dispatchId .started = some e) ∧ runtime.aborts env dispatch = false

end Specification

end WorkflowDispatchRuntime

/-- What a turn does: it leaves the other dispatches, moves its own to a state, and counts
it unless a record call throws. -/
structure Turn (dispatch : WorkflowDispatchRecord) (state : WorkflowDispatchState) (throws : Bool)
    (result : DispatchPendingWorkflowsResult) (db : Db)
    (outcome : Except RegistryError DispatchPendingWorkflowsResult × Db) : Prop where
  others : ∀ id, id ≠ dispatch.dispatchId →
    outcome.2.workflowDispatch? id = db.workflowDispatch? id
  row : ∃ row, outcome.2.workflowDispatch? dispatch.dispatchId = some row ∧
    row.dispatchState = if throws then .starting else state
  counted {result' : DispatchPendingWorkflowsResult} : outcome.1 = .ok result' →
    throws = false ∧ result'.claimedCount = result.claimedCount ∧ result'.total = result.total + 1
  thrown {e : RegistryError} : outcome.1 = .error e → throws = true

section Turns

variable {rt : Runtime} {runtime : WorkflowDispatchRuntime} {env : DispatchEnvironment}
  {dispatch : WorkflowDispatchRecord} {result : DispatchPendingWorkflowsResult} {db : Db}
  {row : WorkflowDispatch} {call : RecordCall}

/-- A dispatch of the batch is as it was claimed. -/
def WorkflowDispatchRecord.Claimed (dispatch : WorkflowDispatchRecord) (db : Db) : Prop :=
  ∃ row, db.workflowDispatch? dispatch.dispatchId = some row ∧ row.Expected dispatch.versionToken

/-- A record call that throws changes nothing. -/
theorem record_throws {e : RegistryError}
    (hthrows : env.throws call.dispatchId call.targetState = some e) :
    env.record rt call db = (.error e, db) := by
  simp only [DispatchEnvironment.record, hthrows]

/-- A record call that does not throw moves its dispatch. -/
theorem record_succeeds (hthrows : env.throws call.dispatchId call.targetState = none)
    (hrow : db.workflowDispatch? call.dispatchId = some row)
    (hexpected : row.Expected call.expectedVersionToken) :
    ∃ db₁, env.record rt call db = (.ok (), db₁) ∧
      (∃ row₁, db₁.workflowDispatch? call.dispatchId = some row₁ ∧
        row₁.dispatchState = call.targetState) ∧
      ∀ id, id ≠ call.dispatchId → db₁.workflowDispatch? id = db.workflowDispatch? id := by
  obtain ⟨db₁, hcall, hrow₁, hothers⟩ := @transitionDispatch_ok rt call db row hrow hexpected
  refine ⟨db₁, ?_, hrow₁, hothers⟩
  simp only [DispatchEnvironment.record, hthrows, transact, hcall]

/-- **The last record call of a turn.** -/
theorem Turn.record {outcome : Except RegistryError DispatchPendingWorkflowsResult × Db}
    {result₁ : DispatchPendingWorkflowsResult} (call : RecordCall) (hclaimed : dispatch.Claimed db)
    (houtcome : outcome = match env.record rt call db with
      | (.ok (), db) => (.ok result₁, db)
      | (.error e, db) => (.error e, db))
    (hid : call.dispatchId = dispatch.dispatchId)
    (htoken : call.expectedVersionToken = dispatch.versionToken)
    (hcount : result₁.claimedCount = result.claimedCount ∧ result₁.total = result.total + 1) :
    Turn dispatch call.targetState
      (env.throws dispatch.dispatchId call.targetState).isSome result db
      outcome := by
  obtain ⟨row, hrow, hexpected⟩ := hclaimed
  rw [← htoken] at hexpected
  rw [← hid] at hrow ⊢
  subst houtcome
  cases hthrows : env.throws call.dispatchId call.targetState with
  | some e =>
      rw [record_throws hthrows]
      refine ⟨fun id _ => rfl, ⟨row, ?_, hexpected.2⟩, nofun, fun _ => rfl⟩
      rw [← hid]
      exact hrow
  | none =>
      obtain ⟨db₁, hrecord, ⟨row₁, hrow₁, hstate⟩, hothers⟩ :=
        @record_succeeds rt env db row call hthrows hrow hexpected
      rw [hrecord]
      refine ⟨fun id hne => ?_, ⟨row₁, ?_, hstate⟩, ?_, nofun⟩
      · rw [← hid] at hne
        exact hothers id hne
      · rw [← hid]
        exact hrow₁
      · intro result' hresult
        obtain rfl := Except.ok.inj hresult
        exact ⟨rfl, hcount⟩

/-- A classified failure is recorded with its target state. -/
theorem settleFailure_turn {attemptedAt : Instant} {failure : WorkflowStartFailureSummary}
    (hclaimed : dispatch.Claimed db) :
    Turn dispatch failure.targetState.state
      (env.throws dispatch.dispatchId failure.targetState.state).isSome result db
      (WorkflowDispatchRuntime.settleFailure rt env attemptedAt dispatch failure result db) := by
  obtain ⟨failureClass, retrySummary, targetState⟩ := failure
  cases targetState with
  | failedRetryable =>
      refine Turn.record (.failedRetryable _) hclaimed rfl rfl rfl ⟨rfl, ?_⟩
      simp only [DispatchPendingWorkflowsResult.total]
      omega
  | failedTerminal =>
      refine Turn.record (.failedTerminal _) hclaimed rfl rfl rfl ⟨rfl, ?_⟩
      simp only [DispatchPendingWorkflowsResult.total]
      omega

/-- The handler records the state of its error. -/
theorem handle_turn {attemptedAt : Instant} {error : DispatchError}
    (hclaimed : dispatch.Claimed db) :
    Turn dispatch (runtime.handledState dispatch error)
      (env.throws dispatch.dispatchId (runtime.handledState dispatch error)).isSome result db
      (runtime.handle rt env attemptedAt dispatch error result db) := by
  cases error with
  | workflowAlreadyStarted workflowId =>
      refine Turn.record (.duplicate _) hclaimed rfl rfl rfl ⟨rfl, ?_⟩
      simp only [DispatchPendingWorkflowsResult.total]
      omega
  | unknownWorkflowTemplate id => exact settleFailure_turn hclaimed
  | other e => exact settleFailure_turn hclaimed

/-- **One turn of the loop.** -/
theorem dispatchOne_turn {attemptedAt : Instant} (hclaimed : dispatch.Claimed db) :
    Turn dispatch (runtime.lastState env dispatch) (runtime.aborts env dispatch) result db
      (runtime.dispatchOne rt env attemptedAt dispatch result db) := by
  unfold WorkflowDispatchRuntime.aborts WorkflowDispatchRuntime.lastState
    WorkflowDispatchRuntime.dispatchOne WorkflowDispatchRuntime.startState
  cases hstart : runtime.start env dispatch with
  | error e => exact handle_turn hclaimed
  | ok startResult =>
      have hrecord :=
        @record_throws rt env db (.started (startedInput attemptedAt dispatch startResult))
      cases hthrows : env.throws dispatch.dispatchId .started with
      | some e =>
          simp only [hrecord hthrows]
          exact handle_turn hclaimed
      | none =>
          obtain ⟨row, hrow, hexpected⟩ := hclaimed
          obtain ⟨db₁, hok, -⟩ := @record_succeeds rt env db row
            (.started (startedInput attemptedAt dispatch startResult)) hthrows hrow hexpected
          have houtcome :
              (match env.record rt
                (.started (startedInput attemptedAt dispatch startResult)) db with
              | (.ok (), db) =>
                  (Except.ok { result with startedCount := result.startedCount + 1 }, db)
              | (.error e, db) => runtime.handle rt env attemptedAt dispatch (.other e) result db) =
              match env.record rt (.started (startedInput attemptedAt dispatch startResult)) db with
              | (.ok (), db) => (.ok { result with startedCount := result.startedCount + 1 }, db)
              | (.error e, db) => (.error e, db) := by
            simp only [hok]
          refine Turn.record _ ⟨row, hrow, hexpected⟩ houtcome rfl rfl ⟨rfl, ?_⟩
          simp only [DispatchPendingWorkflowsResult.total]
          omega

/-! ### The loop -/

/-- The batch is as it was claimed. -/
structure ClaimedBatch (claimed : List WorkflowDispatchRecord) (db : Db) : Prop where
  nodup : (claimed.map (·.dispatchId)).Nodup
  claimed : ∀ dispatch ∈ claimed, dispatch.Claimed db

theorem ClaimedBatch.tail {rest : List WorkflowDispatchRecord} {db₁ : Db}
    (h : ClaimedBatch (dispatch :: rest) db)
    (hothers : ∀ id, id ≠ dispatch.dispatchId →
      db₁.workflowDispatch? id = db.workflowDispatch? id) :
    ClaimedBatch rest db₁ := by
  obtain ⟨hnotMem, hnodup⟩ := List.nodup_cons.mp h.nodup
  refine ⟨hnodup, fun d hd => ?_⟩
  obtain ⟨row, hrow, hexpected⟩ := h.claimed d (List.mem_cons_of_mem _ hd)
  refine ⟨row, (hothers _ fun heq => hnotMem ?_).trans hrow, hexpected⟩
  have hmem : d.dispatchId ∈ rest.map (·.dispatchId) := List.mem_map_of_mem hd
  rw [heq] at hmem
  exact hmem

/-- The state of a dispatch. -/
def Db.dispatchState? (db : Db) (id : String) : Option WorkflowDispatchState :=
  (db.workflowDispatch? id).map (·.dispatchState)

/-- **The loop**, up to the first dispatch whose last record call throws: those dispatches
are left as their turns leave them, the others in `starting`; it returns exactly when there
is none, and then it has counted every dispatch. -/
theorem dispatchEach_spec {claimed : List WorkflowDispatchRecord} {turn : Nat}
    (hbatch : ClaimedBatch claimed db) :
    (∀ id, id ∉ claimed.map (·.dispatchId) →
      (runtime.dispatchEach rt env turn claimed result db).2.workflowDispatch? id =
        db.workflowDispatch? id) ∧
    (∀ d ∈ claimed.takeWhile fun d => !runtime.aborts env d,
      (runtime.dispatchEach rt env turn claimed result db).2.dispatchState? d.dispatchId =
        some (runtime.leftState env d)) ∧
    (∀ d ∈ claimed.dropWhile fun d => !runtime.aborts env d,
      (runtime.dispatchEach rt env turn claimed result db).2.dispatchState? d.dispatchId =
        some .starting) ∧
    ∀ result', (runtime.dispatchEach rt env turn claimed result db).1 = .ok result' →
      result'.claimedCount = result.claimedCount ∧
        result'.total = result.total + claimed.length := by
  induction claimed generalizing turn result db with
  | nil =>
      refine ⟨fun id _ => rfl, fun d hd => (by cases hd), fun d hd => (by cases hd), fun r hr => ?_⟩
      obtain rfl := Except.ok.inj hr
      exact ⟨rfl, rfl⟩
  | cons dispatch rest ih =>
      have hturn := @dispatchOne_turn rt runtime env dispatch result db (env.now turn)
        (hbatch.claimed dispatch List.mem_cons_self)
      obtain ⟨hnotMem, hnodup⟩ := List.nodup_cons.mp hbatch.nodup
      obtain ⟨row, hrow, hstate⟩ := hturn.row
      have htail := hbatch.tail hturn.others
      cases hone : runtime.dispatchOne rt env (env.now turn) dispatch result db with
      | mk value db₁ =>
          rw [hone] at hturn hrow htail
          cases value with
          | error e =>
              have hloop : runtime.dispatchEach rt env turn (dispatch :: rest) result db =
                  (.error e, db₁) := by
                simp only [WorkflowDispatchRuntime.dispatchEach, hone]
              rw [hloop]
              have haborts := hturn.thrown rfl
              rw [haborts] at hstate
              have hstarting :
                ∀ d ∈ dispatch :: rest, db₁.dispatchState? d.dispatchId = some .starting := by
                intro d hd
                rcases List.mem_cons.mp hd with rfl | hd
                · simp only [Db.dispatchState?, hrow, Option.map_some, hstate, if_true]
                · obtain ⟨row', hrow', hexpected⟩ := htail.claimed d hd
                  simp only [Db.dispatchState?, hrow', Option.map_some, hexpected.2]
              refine ⟨fun id hid => hturn.others id fun heq => hid (heq ▸ List.mem_cons_self), ?_,
                ?_, nofun⟩
              · intro d hd
                simp only [List.takeWhile, haborts, Bool.not_true, List.not_mem_nil] at hd
              · simp only [List.dropWhile, haborts, Bool.not_true]
                exact hstarting
          | ok result₁ =>
              have hloop : runtime.dispatchEach rt env turn (dispatch :: rest) result db =
                  runtime.dispatchEach rt env (turn + 1) rest result₁ db₁ := by
                simp only [WorkflowDispatchRuntime.dispatchEach, hone]
              rw [hloop]
              obtain ⟨haborts, hclaimedCount, htotal⟩ := hturn.counted rfl
              obtain ⟨hothers, htaken, hdropped, hcounted⟩ :=
                @ih result₁ db₁ (turn + 1) htail
              refine ⟨fun id hid => ?_, fun d hd => ?_, fun d hd => ?_, fun result' hresult => ?_⟩
              · rw [hothers id fun hmem => hid (List.mem_cons_of_mem _ hmem)]
                exact hturn.others id fun heq => hid (heq ▸ List.mem_cons_self)
              · simp only [List.takeWhile, haborts, Bool.not_false, List.mem_cons] at hd
                rcases hd with rfl | hd
                · rw [Db.dispatchState?, hothers _ hnotMem, hrow]
                  simp only [Option.map_some, hstate, WorkflowDispatchRuntime.leftState, haborts,
                    Bool.false_eq_true, if_false]
                · exact htaken d hd
              · simp only [List.dropWhile, haborts, Bool.not_false] at hd
                exact hdropped d hd
              · obtain ⟨hsame, hsum⟩ := hcounted result' hresult
                refine ⟨hsame.trans hclaimedCount, ?_⟩
                rw [hsum, htotal, List.length_cons]
                omega

end Turns

/-! ### The claim, alone -/

section Claim

variable {input : ClaimPendingWorkflowDispatchesInput} {db db₁ : Db}
  {claimed : List WorkflowDispatchRecord}

/-- The candidates are rows of the table, with different ids. -/
theorem claimCandidates_nodup : ((claimCandidates input db).map (·.id)).Nodup := by
  have hsublist : (claimCandidates input db).Sublist db.workflowDispatches.rows :=
    (List.take_sublist _ _).trans List.filter_sublist
  refine List.pairwise_map.mpr ((db.workflowDispatches.unique.sublist hsublist).imp ?_)
  intro a b hclash heq
  simp [clash, sameKey, heq] at hclash

/-- One turn of the claim takes its candidate. -/
theorem ClaimCommit.candidate {candidate : WorkflowDispatch} (h : ClaimCommit input claimed db db₁)
    (hrow : db.workflowDispatch? candidate.id = some candidate)
    (hclaimable : candidate.claimable = true) (hnew : candidate.id ∉ claimed.map (·.dispatchId)) :
    ∃ db₂, claimCandidate input (claimed, db₁) candidate =
        (claimed ++ [mapDispatchRecord (candidate.claimedBy input)], db₂) ∧
      ClaimCommit input (claimed ++ [mapDispatchRecord (candidate.claimedBy input)]) db db₂ := by
  have hrow₁ : db₁.workflowDispatch? candidate.id = some candidate := (h.others _ hnew).trans hrow
  have hcount : db₁.workflowDispatches.countP candidate.guards = 1 := by
    refine (Table.countP_eq_one_iff fun a b ha hb => ?_).mpr ⟨candidate, ?_, ?_⟩
    · simp only [WorkflowDispatch.guards, Bool.and_eq_true, beq_iff_eq] at ha hb
      simp [clash, sameKey, ha.1.2, hb.1.2]
    · exact (workflowDispatch?_eq_some_iff.mp hrow₁).1
    · simp only [WorkflowDispatch.guards, hclaimable, beq_self_eq_true, Bool.and_self]
  have hupdated : ∀ id, ((updateDispatch candidate.id (candidate.claim input)).effect
      db₁).workflowDispatch? id =
        if id = candidate.id then some (candidate.claimedBy input) else
          db₁.workflowDispatch? id := by
    intro id
    rw [workflowDispatch?_updateDispatch]
    by_cases hid : id = candidate.id
    · subst hid
      rw [hrow₁]
      simp only [if_true, Option.map_some, WorkflowDispatch.claimedBy]
    · simp only [hid, if_false, Option.map_id']
  refine ⟨(updateDispatch candidate.id (candidate.claim input)).effect db₁, ?_, ?_, ?_, ?_, ?_⟩
  · simp only [claimCandidate, hcount, if_true, hupdated]
  · rw [List.map_append]
    refine List.nodup_append.mpr ⟨h.nodup, List.nodup_singleton _, fun a ha b hb hab => hnew ?_⟩
    rw [hab, List.mem_singleton.mp hb] at ha
    exact ha
  · intro r hr
    rcases List.mem_append.mp hr with hr | hr
    · obtain ⟨row, row', hbefore, hafter, hrest⟩ := h.claimed r hr
      refine ⟨row, row', hbefore, ?_, hrest⟩
      have hne : r.dispatchId ≠ candidate.id := fun heq => hnew (heq ▸ List.mem_map_of_mem hr)
      rw [hupdated, if_neg hne]
      exact hafter
    · obtain rfl := List.mem_singleton.mp hr
      simp only [WorkflowDispatch.claimable, Bool.or_eq_true, beq_iff_eq] at hclaimable
      exact ⟨candidate, candidate.claimedBy input, hrow, (hupdated _).trans (if_pos rfl), rfl,
        hclaimable, rfl, rfl, rfl⟩
  · intro id hid
    rw [List.map_append, List.mem_append, not_or] at hid
    have hne : id ≠ candidate.id := fun heq => hid.2 (List.mem_singleton.mpr heq)
    rw [hupdated, if_neg hne]
    exact h.others id hid.1
  · intro workflowId
    rw [workflowRun?_updateDispatch]
    exact h.runs workflowId

/-- **The claim, alone**, takes all its candidates. -/
theorem claimPendingDispatches_commit (input : ClaimPendingWorkflowDispatchesInput) (db : Db) :
    ClaimCommit input (claimPendingDispatches input db).1 db
      (claimPendingDispatches input db).2 := by
  have hloop :
    ∀ (candidates : List WorkflowDispatch) (claimed : List WorkflowDispatchRecord) (db₁ : Db),
      (candidates.map (·.id)).Nodup →
      (∀ c ∈ candidates, db.workflowDispatch? c.id = some c ∧ c.claimable = true ∧
        c.id ∉ claimed.map (·.dispatchId)) →
      ClaimCommit input claimed db db₁ →
      ClaimCommit input (candidates.foldl (claimCandidate input) (claimed, db₁)).1 db
        (candidates.foldl (claimCandidate input) (claimed, db₁)).2 := by
    intro candidates
    induction candidates with
    | nil => exact fun claimed db₁ _ _ h => h
    | cons candidate rest ih =>
        intro claimed db₁ hnodup hcandidates h
        obtain ⟨hnotMem, hrest⟩ := List.nodup_cons.mp hnodup
        obtain ⟨hrow, hclaimable, hnew⟩ := hcandidates candidate List.mem_cons_self
        obtain ⟨db₂, hturn, hcommit⟩ := h.candidate hrow hclaimable hnew
        rw [List.foldl_cons, hturn]
        refine ih _ _ hrest (fun c hc => ?_) hcommit
        obtain ⟨hrow', hclaimable', hnew'⟩ := hcandidates c (List.mem_cons_of_mem _ hc)
        refine ⟨hrow', hclaimable', fun hmem => ?_⟩
        rw [List.map_append, List.mem_append] at hmem
        rcases hmem with hmem | hmem
        · exact hnew' hmem
        · have heq : c.id = candidate.id := List.mem_singleton.mp hmem
          have hmem' : c.id ∈ rest.map (·.id) := List.mem_map_of_mem hc
          rw [heq] at hmem'
          exact hnotMem hmem'
  refine hloop _ [] db claimCandidates_nodup (fun c hc => ?_) ?_
  · have hmem := List.mem_filter.mp (List.mem_of_mem_take hc)
    exact ⟨workflowDispatch?_eq_some_iff.mpr ⟨hmem.1, rfl⟩, hmem.2, List.not_mem_nil⟩
  · exact ⟨List.nodup_nil, (fun r hr => by cases hr), fun _ _ => rfl, fun _ => rfl⟩

/-- What a claim returns is a batch as it was claimed. -/
theorem ClaimCommit.batch (h : ClaimCommit input claimed db db₁) : ClaimedBatch claimed db₁ where
  nodup := h.nodup
  claimed r hr := by
    obtain ⟨row, row', -, hafter, rfl, -, hstate, -⟩ := h.claimed r hr
    exact ⟨row', hafter, rfl, hstate⟩

end Claim

/-! ### The law of a batch -/

/-- **The law of a batch**: what `dispatchPending` leaves, of the batch that it has claimed
from a database. -/
structure BatchSettles (rt : Runtime) (runtime : WorkflowDispatchRuntime)
    (env : DispatchEnvironment) (claimed : List WorkflowDispatchRecord) (db : Db)
    (outcome : Except RegistryError DispatchPendingWorkflowsResult × Db) : Prop where
  /-- A dispatch whose own record call does not throw is in the state of its start. -/
  settled : ∀ dispatch ∈ claimed, runtime.RecordSucceeds env dispatch →
    outcome.2.dispatchState? dispatch.dispatchId = some (runtime.startState env dispatch)
  /-- A start that has succeeded is not recorded as a failure. -/
  not_failed : ∀ dispatch ∈ claimed, ∀ startResult, runtime.start env dispatch = .ok startResult →
    outcome.2.dispatchState? dispatch.dispatchId ≠ some .failedRetryable ∧
      outcome.2.dispatchState? dispatch.dispatchId ≠ some .failedTerminal
  /-- A dispatch is left as it is when it is the only one of the batch. -/
  independent : ∀ dispatch ∈ claimed, outcome.2.dispatchState? dispatch.dispatchId =
    (runtime.dispatchEach rt env 1 [dispatch] { claimedCount := 1 } db).2.dispatchState?
      dispatch.dispatchId
  /-- The counts of a result add up. -/
  counted : ∀ result, outcome.1 = .ok result →
    result.claimedCount = claimed.length ∧ result.total = claimed.length

/-- What the batch needs: no start is misrecorded, and no dispatch whose last record call
throws precedes one whose last record call does not. -/
def BatchCondition (runtime : WorkflowDispatchRuntime) (env : DispatchEnvironment)
    (claimed : List WorkflowDispatchRecord) : Prop :=
  (∀ dispatch ∈ claimed, ¬ runtime.Misrecords env dispatch) ∧
    claimed.Pairwise fun dispatch dispatch' =>
      runtime.aborts env dispatch = true → runtime.aborts env dispatch' = true

section Law

variable {rt : Runtime} {runtime : WorkflowDispatchRuntime} {env : DispatchEnvironment}
  {dispatch : WorkflowDispatchRecord} {claimed : List WorkflowDispatchRecord} {db : Db}

theorem leftState_of_recordSucceeds (h : runtime.RecordSucceeds env dispatch) :
    runtime.leftState env dispatch = runtime.startState env dispatch := by
  have hlast : runtime.lastState env dispatch = runtime.startState env dispatch := by
    unfold WorkflowDispatchRuntime.lastState
    unfold WorkflowDispatchRuntime.RecordSucceeds WorkflowDispatchRuntime.startState at h
    cases hstart : runtime.start env dispatch with
    | error e => rfl
    | ok startResult =>
        rw [hstart] at h
        have hthrows : env.throws dispatch.dispatchId .started = none := h
        rw [hthrows]
  unfold WorkflowDispatchRuntime.RecordSucceeds at h
  simp only [WorkflowDispatchRuntime.leftState, WorkflowDispatchRuntime.aborts, hlast, h,
    Option.isSome_none, Bool.false_eq_true, if_false]

/-- The states that the handler records for the error of a record call are failures. -/
theorem handledState_other (e : RegistryError) :
    runtime.handledState dispatch (.other e) = .failedRetryable ∨
      runtime.handledState dispatch (.other e) = .failedTerminal := by
  simp only [WorkflowDispatchRuntime.handledState]
  cases (runtime.failureClassifier (.other e) dispatch).targetState with
  | failedRetryable => exact .inl rfl
  | failedTerminal => exact .inr rfl

/-- A start that has succeeded is left as a failure exactly when it is misrecorded. -/
theorem leftState_of_start {startResult : WorkflowStartResult}
    (hstart : runtime.start env dispatch = .ok startResult) :
    (runtime.leftState env dispatch = .failedRetryable ∨
      runtime.leftState env dispatch = .failedTerminal) ↔ runtime.Misrecords env dispatch := by
  unfold WorkflowDispatchRuntime.Misrecords WorkflowDispatchRuntime.leftState
  cases haborts : runtime.aborts env dispatch with
  | true => simp
  | false =>
      unfold WorkflowDispatchRuntime.lastState WorkflowDispatchRuntime.startState
      rw [hstart]
      cases hthrows : env.throws dispatch.dispatchId .started with
      | none => simp
      | some e => simpa using handledState_other e

/-- A dispatch is left in `starting` exactly when its last record call throws. -/
theorem leftState_eq_starting :
    runtime.leftState env dispatch = .starting ↔ runtime.aborts env dispatch = true := by
  have hhandled : ∀ e, runtime.handledState dispatch e ≠ .starting := by
    intro e
    cases e with
    | workflowAlreadyStarted workflowId => exact nofun
    | unknownWorkflowTemplate id =>
        simp only [WorkflowDispatchRuntime.handledState]
        cases (runtime.failureClassifier _ dispatch).targetState <;> exact nofun
    | other e => rcases handledState_other e with h | h <;> rw [h] <;> exact nofun
  have hlast : runtime.lastState env dispatch ≠ .starting := by
    unfold WorkflowDispatchRuntime.lastState WorkflowDispatchRuntime.startState
    split
    · exact hhandled _
    · split
      · exact nofun
      · exact hhandled _
  unfold WorkflowDispatchRuntime.leftState
  cases haborts : runtime.aborts env dispatch with
  | true => simp
  | false => simpa using hlast

/-- Every element from the first one with a property on has it, exactly when none with it
precedes one without. -/
theorem forall_dropWhile_iff_pairwise {α : Type} (p : α → Bool) (l : List α) :
    (∀ a ∈ l.dropWhile fun a => !p a, p a = true) ↔
      l.Pairwise fun a b => p a = true → p b = true := by
  induction l with
  | nil => simp
  | cons a l ih =>
      cases ha : p a with
      | true =>
          have hrest : (∀ b ∈ l, p b = true) → l.Pairwise fun a b => p a = true → p b = true :=
            fun hall => List.pairwise_iff_forall_sublist.mpr fun {b c} hsub _ =>
              hall c (hsub.subset (List.mem_cons_of_mem _ List.mem_cons_self))
          simpa [List.dropWhile, ha] using hrest
      | false => simpa [List.dropWhile, ha] using ih

/-- A batch of one dispatch leaves it as its turn does. -/
theorem dispatchState?_alone (hbatch : ClaimedBatch claimed db) (hdispatch : dispatch ∈ claimed) :
    (runtime.dispatchEach rt env 1 [dispatch] { claimedCount := 1 } db).2.dispatchState?
      dispatch.dispatchId = some (runtime.leftState env dispatch) := by
  have hone : ClaimedBatch [dispatch] db :=
    ⟨List.nodup_singleton _, fun d hd => List.mem_singleton.mp hd ▸ hbatch.claimed _ hdispatch⟩
  obtain ⟨-, htaken, hdropped, -⟩ :=
    @dispatchEach_spec rt runtime env { claimedCount := 1 } db [dispatch] 1 hone
  cases haborts : runtime.aborts env dispatch with
  | false =>
      refine htaken dispatch ?_
      simp only [List.takeWhile, haborts, Bool.not_false, List.mem_singleton]
  | true =>
      rw [leftState_eq_starting.mpr haborts]
      refine hdropped dispatch ?_
      simp only [List.dropWhile, haborts, Bool.not_true, List.mem_singleton]

/-- **A claimed batch settles exactly under the condition.** -/
theorem dispatchEach_settles_iff (hbatch : ClaimedBatch claimed db) :
    BatchSettles rt runtime env claimed db
        (runtime.dispatchEach rt env 1 claimed { claimedCount := claimed.length } db) ↔
      BatchCondition runtime env claimed := by
  obtain ⟨-, htaken, hdropped, hcounted⟩ :=
    @dispatchEach_spec rt runtime env { claimedCount := claimed.length } db claimed 1 hbatch
  constructor
  · intro h
    have hleft : ∀ d ∈ claimed,
        (runtime.dispatchEach rt env 1 claimed
          { claimedCount := claimed.length } db).2.dispatchState?
          d.dispatchId = some (runtime.leftState env d) :=
      fun d hd => (h.independent d hd).trans (dispatchState?_alone hbatch hd)
    refine ⟨fun d hd hmisrecords => ?_, (forall_dropWhile_iff_pairwise _ _).mp fun d hd => ?_⟩
    · obtain ⟨startResult, hstart⟩ := hmisrecords.1
      obtain ⟨hretryable, hterminal⟩ := h.not_failed d hd startResult hstart
      rw [hleft d hd] at hretryable hterminal
      rcases (leftState_of_start hstart).mpr hmisrecords with hstate | hstate
      · exact hretryable (congrArg some hstate)
      · exact hterminal (congrArg some hstate)
    · have hstarting := (hdropped d hd).symm.trans (hleft d (List.dropWhile_sublist _ |>.subset hd))
      exact leftState_eq_starting.mp (Option.some.inj hstarting).symm
  · rintro ⟨hmisrecords, hpairwise⟩
    have hlater := (forall_dropWhile_iff_pairwise _ _).mpr hpairwise
    have hleft : ∀ d ∈ claimed,
        (runtime.dispatchEach rt env 1 claimed
          { claimedCount := claimed.length } db).2.dispatchState?
          d.dispatchId = some (runtime.leftState env d) := by
      intro d hd
      rw [← List.takeWhile_append_dropWhile (p := fun d => !runtime.aborts env d)
        (l := claimed)] at hd
      rcases List.mem_append.mp hd with hd | hd
      · exact htaken d hd
      · rw [hdropped d hd, leftState_eq_starting.mpr (hlater d hd)]
    refine ⟨fun d hd hrecord => ?_, fun d hd startResult hstart => ?_, fun d hd => ?_,
      fun r hr => ?_⟩
    · rw [hleft d hd, leftState_of_recordSucceeds hrecord]
    · rw [hleft d hd]
      have hnot := fun h => hmisrecords d hd ((leftState_of_start hstart).mp h)
      exact ⟨fun heq => hnot (.inl (Option.some.inj heq)),
        fun heq => hnot (.inr (Option.some.inj heq))⟩
    · exact (hleft d hd).trans (dispatchState?_alone hbatch hd).symm
    · obtain ⟨hclaimed, htotal⟩ := hcounted r hr
      exact ⟨hclaimed, htotal.trans (Nat.zero_add _)⟩

variable (rt runtime env) in
/-- **`dispatchPending` settles its batch exactly under the condition**, for every registry,
limit, and pattern of starts and record calls. -/
theorem batch_settles_iff (limit : Option Nat) (db : Db) :
    BatchSettles rt runtime env
        (claimPendingDispatches ⟨env.now 0, limit.getD runtime.batchSize⟩ db).1
        (claimPendingDispatches ⟨env.now 0, limit.getD runtime.batchSize⟩ db).2
        (runtime.dispatchPending rt env limit db) ↔
      BatchCondition runtime env
        (claimPendingDispatches ⟨env.now 0, limit.getD runtime.batchSize⟩ db).1 :=
  dispatchEach_settles_iff (claimPendingDispatches_commit _ db).batch

end Law

/-! ### Batches that do not settle -/

/-- Every workflow starts, and the record of the start throws. -/
def sampleFlakyRecords : DispatchEnvironment where
  now _ := 1000
  startWorkflow request := .ok ⟨request.workflowId⟩
  throws _ state := if state = .started then some (.plain "Connection reset.") else none

/-- **A start that has succeeded is recorded as a failure.** -/
theorem start_recorded_as_failure :
    (({} : WorkflowDispatchRuntime).dispatchPending sampleRuntime sampleFlakyRecords none
        sampleDispatches).2.dispatchState? "dispatch-1" = some .failedRetryable ∧
      ¬ BatchSettles sampleRuntime {} sampleFlakyRecords
        (claimPendingDispatches ⟨1000, 25⟩ sampleDispatches).1
        (claimPendingDispatches ⟨1000, 25⟩ sampleDispatches).2
        (({} : WorkflowDispatchRuntime).dispatchPending sampleRuntime sampleFlakyRecords none
          sampleDispatches) := by
  have hstate :
    (({} : WorkflowDispatchRuntime).dispatchPending sampleRuntime sampleFlakyRecords none
      sampleDispatches).2.dispatchState? "dispatch-1" = some .failedRetryable := by
    decide +kernel
  have hstarted : ∃ d ∈ (claimPendingDispatches ⟨1000, 25⟩ sampleDispatches).1,
      d.dispatchId = "dispatch-1" ∧
      (({} : WorkflowDispatchRuntime).start sampleFlakyRecords d).toOption.isSome = true := by
    decide +kernel
  refine ⟨hstate, fun h => ?_⟩
  obtain ⟨d, hd, hid, hstart⟩ := hstarted
  cases hresult : ({} : WorkflowDispatchRuntime).start sampleFlakyRecords d with
  | error e =>
      rw [hresult] at hstart
      cases hstart
  | ok startResult =>
      have hnot := (h.not_failed d hd startResult hresult).1
      rw [hid] at hnot
      exact hnot hstate

/-- No workflow starts, and the record of the first failure throws. -/
def sampleStrandedRecords : DispatchEnvironment where
  now _ := 1000
  startWorkflow _ := .error (.other (.plain "Temporal service unavailable."))
  throws id _ := if id = "dispatch-1" then some (.plain "Connection reset.") else none

/-- A registry with two pending dispatches. -/
def sampleBatch : Db where
  workflowDispatches :=
    ⟨[sampleDispatch, { sampleDispatch with id := "dispatch-2", workflowKey := "key-2" }],
      by decide⟩

/-- **A record that throws strands the rest of the batch** in `starting`, where no claim
looks for it. -/
theorem batch_stranded :
    (({} : WorkflowDispatchRuntime).dispatchPending sampleRuntime sampleStrandedRecords none
        sampleBatch).2.dispatchState? "dispatch-2" = some .starting ∧
      ¬ BatchSettles sampleRuntime {} sampleStrandedRecords
        (claimPendingDispatches ⟨1000, 25⟩ sampleBatch).1
        (claimPendingDispatches ⟨1000, 25⟩ sampleBatch).2
        (({} : WorkflowDispatchRuntime).dispatchPending sampleRuntime sampleStrandedRecords none
          sampleBatch) := by
  have hstate :
    (({} : WorkflowDispatchRuntime).dispatchPending sampleRuntime sampleStrandedRecords none
      sampleBatch).2.dispatchState? "dispatch-2" = some .starting := by
    decide +kernel
  have hrecord : ∃ d ∈ (claimPendingDispatches ⟨1000, 25⟩ sampleBatch).1,
      d.dispatchId = "dispatch-2" ∧
      sampleStrandedRecords.throws d.dispatchId
        (({} : WorkflowDispatchRuntime).startState sampleStrandedRecords d) = none ∧
      ({} : WorkflowDispatchRuntime).startState sampleStrandedRecords d = .failedRetryable := by
    decide +kernel
  refine ⟨hstate, fun h => ?_⟩
  obtain ⟨d, hd, hid, hsucceeds, hstart⟩ := hrecord
  have hsettled := h.settled d hd hsucceeds
  rw [hid, hstate, hstart] at hsettled
  cases hsettled

end Cdngine
