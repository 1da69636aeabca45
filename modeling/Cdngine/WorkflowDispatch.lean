import Cdngine.Publication
import Cdngine.ReadCommitted

/-!
# The Workflow Dispatch Store

Dispatchers claim pending dispatches and record what became of the workflow starts; the
worker projects the executions into the workflow runs. Both write the same rows: the record
calls of a dispatcher the dispatch and its run, the execution calls of a worker the run.

Each call is one transaction, given here statement by statement. A claim updates each of its
candidates under a guard; a record call checks the dispatch when it reads it and then updates
it by its id; a record of a start reads the run before it writes it, and the other writes of
runs are upserts.

## Main results

* `DispatchRow.find`: the rows that the calls lock, with what is stored there.
* `workflowDispatch?_updateDispatch`, `workflowRun?_writeRun`: the rows after a write.
* `view_workflowDispatch?`, `view_workflowRun?`: the rows as a session sees them.
* `ExecutionCall.statements_eq`: the statements of an execution call are those of the
  transactions of the execution store.
* `recordCode_cases`, `executionCode_cases`: the inversion of the calls.
-/

open Relational ReadCommitted

namespace Cdngine

/-! ### Records -/

structure WorkflowDispatchRecord where
  assetVersionId : String
  dispatchId : String
  dispatchReason : String
  dispatchState : WorkflowDispatchState
  firstAttemptAt : Option Instant
  lastAttemptAt : Option Instant
  lastFailureClass : Option String
  retrySummary : Option (List (String × Json))
  updatedAt : Instant
  versionToken : Int
  workflowKey : String
  workflowTemplateId : String

def mapDispatchRecord (record : WorkflowDispatch) : WorkflowDispatchRecord where
  assetVersionId := record.assetVersionId
  dispatchId := record.id
  dispatchReason := record.dispatchReason
  dispatchState := record.dispatchState
  firstAttemptAt := record.firstAttemptAt
  lastAttemptAt := record.lastAttemptAt
  lastFailureClass := present record.lastFailureClass
  retrySummary := asJsonRecord record.retrySummary
  updatedAt := record.updatedAt
  versionToken := record.versionToken
  workflowKey := record.workflowKey
  workflowTemplateId := record.workflowTemplateId

/-! ### Writes on a dispatch -/

/-- The columns of an update, which never change the id or the key of a dispatch. -/
structure DispatchUpdate where
  data : WorkflowDispatch → WorkflowDispatch
  id_data : ∀ row, (data row).id = row.id
  workflowKey_data : ∀ row, (data row).workflowKey = row.workflowKey

/-! ### Claims -/

structure ClaimPendingWorkflowDispatchesInput where
  claimedAt : Instant
  limit : Nat
  deriving DecidableEq, Repr

/-- The states that a claim looks for. -/
def WorkflowDispatch.claimable (row : WorkflowDispatch) : Bool :=
  row.dispatchState == .pending || row.dispatchState == .failedRetryable

/-- The candidates of a claim, oldest first. -/
def claimCandidates (input : ClaimPendingWorkflowDispatchesInput) (db : Db) :
    List WorkflowDispatch :=
  (db.workflowDispatches.rows.filter (·.claimable)).take input.limit

/-- The guard of the update of a claim. -/
def WorkflowDispatch.guards (candidate row : WorkflowDispatch) : Bool :=
  row.claimable && row.id == candidate.id && row.versionToken == candidate.versionToken

/-- The update of a claim. -/
def WorkflowDispatch.claim (input : ClaimPendingWorkflowDispatchesInput)
    (candidate : WorkflowDispatch) : DispatchUpdate where
  data row :=
    { row with
      dispatchState := .starting
      firstAttemptAt := some (candidate.firstAttemptAt.getD input.claimedAt)
      lastAttemptAt := some input.claimedAt
      updatedAt := input.claimedAt
      versionToken := row.versionToken + 1 }
  id_data _ := rfl
  workflowKey_data _ := rfl

/-! ### Writes on a run -/

/-- The columns of an update, which never move a run to another workflow. -/
structure RunUpdate where
  data : WorkflowRun → WorkflowRun
  workflowId_data : ∀ run, (data run).workflowId = run.workflowId

/-- The write statements on a run. -/
inductive RunStatement
  | create (row : WorkflowRun)
  | update (workflowId : String) (columns : RunUpdate)
  | upsert (row : WorkflowRun) (columns : RunUpdate)

namespace RunStatement

def workflowId : RunStatement → String
  | create row => row.workflowId
  | update workflowId _ => workflowId
  | upsert row _ => row.workflowId

def apply (db : Db) : RunStatement → Except RegistryError Db
  | create row => db.createWorkflowRun row
  | update workflowId columns => db.updateWorkflowRun workflowId columns.data
  | upsert row columns => db.upsertWorkflowRun row columns.data

/-- The run that a statement leaves. -/
def result : RunStatement → Option WorkflowRun → Option WorkflowRun
  | create row, run => run.orElse fun _ => some row
  | update _ columns, run => run.map columns.data
  | upsert row columns, run => some ((run.map columns.data).getD row)

/-- Whether a statement succeeds, by what it finds. -/
def Applies : RunStatement → Option WorkflowRun → Prop
  | create _, run => run = none
  | update _ _, run => run.isSome = true
  | upsert _ _, _ => True

end RunStatement

/-! ### Record calls -/

structure RecordStartedWorkflowDispatchInput where
  currentPhase : Option String := none
  dispatchId : String
  expectedVersionToken : Int
  startedAt : Instant
  workflowId : String
  deriving DecidableEq, Repr

/-- `workflowRunState` is one of the states `queued`, `running` and `waiting`. -/
structure RecordDuplicateWorkflowDispatchInput where
  currentPhase : Option String := none
  dispatchId : String
  expectedVersionToken : Int
  observedAt : Instant
  workflowId : String
  workflowRunState : Option WorkflowRunState := none
  deriving DecidableEq, Repr

structure RecordFailedWorkflowDispatchInput where
  dispatchId : String
  expectedVersionToken : Int
  failedAt : Instant
  failureClass : String
  retrySummary : Option (List (String × JsValue)) := none

/-- The run that `recordStarted` creates. -/
def RecordStartedWorkflowDispatchInput.createdRun (input : RecordStartedWorkflowDispatchInput)
    (dispatch : WorkflowDispatch) : WorkflowRun where
  assetVersionId := dispatch.assetVersionId
  workflowDispatchId := some input.dispatchId
  workflowId := input.workflowId
  workflowTemplateId := dispatch.workflowTemplateId
  state := .queued
  currentPhase := input.currentPhase
  startedAt := some input.startedAt
  updatedAt := input.startedAt

/-- The update of `recordStarted`, from the run that it has read. -/
def RecordStartedWorkflowDispatchInput.updatedRun (input : RecordStartedWorkflowDispatchInput)
    (dispatch : WorkflowDispatch) (existingRun : WorkflowRun) : RunUpdate where
  data run :=
    { run with
      assetVersionId := dispatch.assetVersionId
      currentPhase :=
        if existingRun.state ≠ .queued ∧ (present existingRun.currentPhase).isSome then
          existingRun.currentPhase
        else input.currentPhase
      startedAt := some (existingRun.startedAt.getD input.startedAt)
      state := if existingRun.state ≠ .queued then existingRun.state else .queued
      updatedAt := input.startedAt
      workflowDispatchId := some (existingRun.workflowDispatchId.getD input.dispatchId) }
  workflowId_data _ := rfl

/-- The write of `recordStarted` on the run, from the run that it has read. -/
def RecordStartedWorkflowDispatchInput.runStatement (input : RecordStartedWorkflowDispatchInput)
    (dispatch : WorkflowDispatch) : Option WorkflowRun → RunStatement
  | some existingRun => .update input.workflowId (input.updatedRun dispatch existingRun)
  | none => .create (input.createdRun dispatch)

/-- The state that `recordDuplicate` gives the run. -/
def RecordDuplicateWorkflowDispatchInput.runState (input : RecordDuplicateWorkflowDispatchInput) :
    WorkflowRunState :=
  input.workflowRunState.getD .running

/-- The write of `recordDuplicate` on the run. -/
def RecordDuplicateWorkflowDispatchInput.runStatement (input : RecordDuplicateWorkflowDispatchInput)
    (dispatch : WorkflowDispatch) : RunStatement :=
  .upsert
    { assetVersionId := dispatch.assetVersionId
      workflowDispatchId := some input.dispatchId
      workflowId := input.workflowId
      workflowTemplateId := dispatch.workflowTemplateId
      state := input.runState
      currentPhase := input.currentPhase
      startedAt := some input.observedAt
      updatedAt := input.observedAt }
    { data := fun run =>
        { run with
          assetVersionId := dispatch.assetVersionId
          currentPhase := input.currentPhase
          startedAt := some input.observedAt
          state := input.runState
          updatedAt := input.observedAt
          workflowDispatchId := some input.dispatchId }
      workflowId_data := fun _ => rfl }

/-- The second update of a failure. -/
def RecordFailedWorkflowDispatchInput.failure (rt : Runtime)
    (input : RecordFailedWorkflowDispatchInput) : DispatchUpdate where
  data row :=
    { row with
      lastFailureClass := some input.failureClass
      lastAttemptAt := some input.failedAt
      retrySummary := (input.retrySummary.map fun s => toJsonValue rt (.object s)).getD .null
      updatedAt := input.failedAt }
  id_data _ := rfl
  workflowKey_data _ := rfl

inductive RecordCall
  | started (input : RecordStartedWorkflowDispatchInput)
  | duplicate (input : RecordDuplicateWorkflowDispatchInput)
  | failedRetryable (input : RecordFailedWorkflowDispatchInput)
  | failedTerminal (input : RecordFailedWorkflowDispatchInput)

namespace RecordCall

def dispatchId : RecordCall → String
  | started input => input.dispatchId
  | duplicate input => input.dispatchId
  | failedRetryable input | failedTerminal input => input.dispatchId

def expectedVersionToken : RecordCall → Int
  | started input => input.expectedVersionToken
  | duplicate input => input.expectedVersionToken
  | failedRetryable input | failedTerminal input => input.expectedVersionToken

def targetState : RecordCall → WorkflowDispatchState
  | started _ => .started
  | duplicate _ => .duplicate
  | failedRetryable _ => .failedRetryable
  | failedTerminal _ => .failedTerminal

def observedAt : RecordCall → Instant
  | started input => input.startedAt
  | duplicate input => input.observedAt
  | failedRetryable input | failedTerminal input => input.failedAt

/-- What `transitionDispatch` checks on the dispatch that it has read. -/
def check (call : RecordCall) : Option WorkflowDispatch → Except RegistryError Unit
  | none => .error (.workflowDispatchNotFound call.dispatchId)
  | some dispatch =>
      if dispatch.versionToken ≠ call.expectedVersionToken then
        .error (.workflowDispatchVersionConflict call.dispatchId call.expectedVersionToken)
      else if dispatch.dispatchState ≠ .starting then
        .error (.workflowDispatchStateTransition call.dispatchId dispatch.dispatchState.text
          call.targetState.text)
      else .ok ()

/-- The update of `transitionDispatch`. -/
def transition (call : RecordCall) : DispatchUpdate where
  data row :=
    { row with
      dispatchState := call.targetState
      lastAttemptAt := some call.observedAt
      updatedAt := call.observedAt
      versionToken := row.versionToken + 1 }
  id_data _ := rfl
  workflowKey_data _ := rfl

end RecordCall

/-! ### Execution calls -/

inductive ExecutionCall
  | markRunning (input : MarkWorkflowExecutionRunningInput)
  | markCompleted (input : MarkWorkflowExecutionCompletedInput)
  | markFailedRetryable (input : MarkWorkflowExecutionFailedInput)

namespace ExecutionCall

/-- The version that a failure moves first. -/
def failedVersion? : ExecutionCall → Option String
  | markFailedRetryable input => some input.assetVersionId
  | _ => none

/-- The upsert of the run. -/
def runStatement (rt : Runtime) : ExecutionCall → RunStatement
  | markRunning input => .upsert input.createdRun ⟨input.updatedRun, fun _ => rfl⟩
  | markCompleted input => .upsert input.createdRun ⟨input.updatedRun, fun _ => rfl⟩
  | markFailedRetryable input => .upsert (input.createdRun rt) ⟨input.updatedRun rt, fun _ => rfl⟩

/-- The audit event. -/
def event (rt : Runtime) : ExecutionCall → AuditEvent
  | markRunning input =>
      executionEvent input.assetVersionId input.workflowId "workflow-run-running"
        (.object
          [("currentPhase", .string (input.currentPhase.getD "running")),
            ("workflowId", .string input.workflowId),
            ("workflowTemplateId", .string input.workflowTemplateId)])
  | markCompleted input =>
      executionEvent input.assetVersionId input.workflowId "workflow-run-completed"
        (.object
          [("currentPhase", .string (input.currentPhase.getD "completed")),
            ("workflowId", .string input.workflowId),
            ("workflowTemplateId", .string input.workflowTemplateId)])
  | markFailedRetryable input =>
      executionEvent input.assetVersionId input.workflowId "workflow-run-failed"
        (toJsonValue rt (.object
          [("currentPhase", .string (input.currentPhase.getD "failed")),
            ("failureClass", .string input.failureClass),
            ("retrySummary", .object (input.retrySummary.getD [])),
            ("workflowId", .string input.workflowId),
            ("workflowTemplateId", .string input.workflowTemplateId)]))

/-- The transaction of the execution store. -/
def transaction (rt : Runtime) : ExecutionCall → Transaction Unit
  | markRunning input => Cdngine.markRunning input
  | markCompleted input => Cdngine.markCompleted input
  | markFailedRetryable input => Cdngine.markFailedRetryable rt input

/-- The statements of an execution call, in sequence. -/
def statements (rt : Runtime) (call : ExecutionCall) : Transaction Unit := fun db => do
  let db ← match call.failedVersion? with
    | some id => db.updateAssetVersion id fun r => r.moveTo .failedRetryable
    | none => .ok db
  let db ← (call.runStatement rt).apply db
  let db ← db.createAuditEvent (call.event rt)
  return ((), db)

/-- The statements of an execution call are those of its transaction. -/
theorem statements_eq (rt : Runtime) (call : ExecutionCall) (db : Db) :
    call.statements rt db = call.transaction rt db := by
  cases call <;> rfl

end ExecutionCall

/-! ### The rows -/

/-- The rows that a call locks. -/
inductive DispatchRow
  | dispatch (id : String)
  | run (workflowId : String)
  | version (id : String)
  deriving DecidableEq, Repr

/-- What is stored at a row. -/
inductive StoredRow
  | dispatch (row : Option WorkflowDispatch)
  | run (row : Option WorkflowRun)
  | version

def DispatchRow.find : DispatchRow → Db → StoredRow
  | .dispatch id, db => .dispatch (db.workflowDispatch? id)
  | .run workflowId, db => .run (db.workflowRun? workflowId)
  | .version _, _ => .version

/-- An update of a dispatch by its id. -/
def updateDispatch (id : String) (columns : DispatchUpdate) : Write Db DispatchRow where
  row := .dispatch id
  effect db := keepOnError db (db.updateWorkflowDispatch id columns.data)

/-- A write on a run. -/
def RunStatement.write (s : RunStatement) : Write Db DispatchRow where
  row := .run s.workflowId
  effect db := keepOnError db (s.apply db)

/-- The update that moves a version to `failed_retryable`. -/
def failVersion (id : String) : Write Db DispatchRow where
  row := .version id
  effect db := keepOnError db (db.updateAssetVersion id fun r => r.moveTo .failedRetryable)

/-- The insertion of an audit event, under the lock of its run. -/
def insertEvent (workflowId : String) (event : AuditEvent) : Write Db DispatchRow where
  row := .run workflowId
  effect db := keepOnError db (db.createAuditEvent event)

section Rows

variable {db db' : Db} {id : String} {columns : DispatchUpdate}

theorem workflowDispatch?_eq_some_iff {row : WorkflowDispatch} :
    db.workflowDispatch? id = some row ↔ row ∈ db.workflowDispatches.rows ∧ row.id = id :=
  Table.find?_key_eq_some_iff fun a b h => by simp [clash, sameKey, h]

variable (columns) in
/-- An update of a dispatch that exists succeeds. -/
theorem updateWorkflowDispatch_ok {row : WorkflowDispatch}
    (h : db.workflowDispatch? id = some row) :
    ∃ db', db.updateWorkflowDispatch id columns.data = .ok db' := by
  obtain ⟨hrow, hid⟩ := workflowDispatch?_eq_some_iff.mp h
  obtain ⟨t, ht⟩ := Table.update_eq_ok_of_keeps (p := fun r => r.id == id) (f := columns.data)
    (fun a b => by simp only [clash, sameKey, columns.id_data, columns.workflowKey_data])
    ⟨row, hrow, beq_iff_eq.mpr hid⟩
  exact ⟨_, write_eq_ok.mpr ⟨t, ht, rfl⟩⟩

theorem updateWorkflowDispatch_some {data : WorkflowDispatch → WorkflowDispatch}
    (h : db.updateWorkflowDispatch id data = .ok db') :
    ∃ row, db.workflowDispatch? id = some row := by
  obtain ⟨t, ht, rfl⟩ := write_eq_ok.mp h
  obtain ⟨⟨row, hrow, hid⟩, -⟩ := Table.update_eq_ok_iff.mp ht
  exact ⟨row, workflowDispatch?_eq_some_iff.mpr ⟨hrow, eq_of_beq hid⟩⟩

/-- **The dispatches after an update** of one of them. -/
theorem workflowDispatch?_updateDispatch (key : String) :
    ((updateDispatch id columns).effect db).workflowDispatch? key =
      (db.workflowDispatch? key).map fun row => if key = id then columns.data row else row := by
  simp only [updateDispatch]
  cases hupdate : db.updateWorkflowDispatch id columns.data with
  | ok db' =>
      obtain ⟨t, ht, rfl⟩ := write_eq_ok.mp hupdate
      exact Table.find?_update_key ht columns.id_data key
  | error e =>
      simp only [keepOnError]
      by_cases hkey : key = id
      · subst hkey
        cases hrow : db.workflowDispatch? key with
        | none => rfl
        | some row =>
            obtain ⟨db', hok⟩ := updateWorkflowDispatch_ok columns hrow
            rw [hok] at hupdate
            cases hupdate
      · simp only [hkey, if_false, Option.map_id']

@[simp] theorem workflowRun?_updateDispatch (key : String) :
    ((updateDispatch id columns).effect db).workflowRun? key = db.workflowRun? key := by
  simp only [updateDispatch]
  cases hupdate : db.updateWorkflowDispatch id columns.data with
  | ok db' =>
      obtain ⟨t, ht, rfl⟩ := write_eq_ok.mp hupdate
      rfl
  | error e => rfl

variable {s : RunStatement}

@[simp] theorem workflowDispatch?_writeRun (key : String) :
    (s.write.effect db).workflowDispatch? key = db.workflowDispatch? key := by
  simp only [RunStatement.write]
  cases happly : s.apply db with
  | error e => rfl
  | ok db' =>
      cases s <;>
      · obtain ⟨t, ht, rfl⟩ := write_eq_ok.mp happly
        rfl

theorem clash_of_workflowId (a b : WorkflowRun) (h : a.workflowId = b.workflowId) :
    clash a b = true := by
  simp [clash, sameKey, h]

/-- A statement on a run succeeds by what it finds at its run. -/
theorem RunStatement.apply_ok (h : s.Applies (db.workflowRun? s.workflowId)) :
    ∃ db', s.apply db = .ok db' := by
  cases s with
  | create row =>
      have hnone : db.workflowRun? row.workflowId = none := h
      obtain ⟨t, ht⟩ := (Table.exists_insert_key_iff (t := db.workflowRuns) (r := row)
        fun _ _ => rfl).mpr fun x hx heq => by
          have hsome := (Table.find?_key_eq_some_iff clash_of_workflowId).mpr ⟨hx, heq⟩
          exact absurd (hnone.symm.trans hsome) (by simp)
      exact ⟨_, write_eq_ok.mpr ⟨t, ht, rfl⟩⟩
  | update workflowId columns =>
      obtain ⟨run, hrun⟩ := Option.isSome_iff_exists.mp h
      obtain ⟨hmem, hid⟩ := (Table.find?_key_eq_some_iff clash_of_workflowId).mp hrun
      obtain ⟨t, ht⟩ := Table.update_eq_ok_of_keeps
        (p := fun r => r.workflowId == workflowId) (f := columns.data)
        (fun a b => by simp only [clash, sameKey, columns.workflowId_data])
        ⟨run, hmem, beq_iff_eq.mpr hid⟩
      exact ⟨_, write_eq_ok.mpr ⟨t, ht, rfl⟩⟩
  | upsert row columns => exact db.upsertWorkflowRun_ok row columns.workflowId_data

/-- A statement on a run that does not apply leaves it as it is. -/
theorem RunStatement.result_eq {run : Option WorkflowRun} (h : ¬ s.Applies run) :
    s.result run = run := by
  cases s with
  | create row =>
      cases run with
      | some run => rfl
      | none => exact absurd rfl h
  | update workflowId columns =>
      cases run with
      | some run => exact absurd rfl h
      | none => rfl
  | upsert row columns => exact absurd trivial h

/-- **The runs after a write** on one of them. -/
theorem workflowRun?_writeRun (key : String) :
    (s.write.effect db).workflowRun? key =
      if key = s.workflowId then s.result (db.workflowRun? key) else db.workflowRun? key := by
  simp only [RunStatement.write]
  cases happly : s.apply db with
  | ok db' =>
      cases s with
      | create row =>
          obtain ⟨t, ht, rfl⟩ := write_eq_ok.mp happly
          have hfind := Table.find?_insert ht fun r => r.workflowId == key
          simp only [keepOnError, RunStatement.workflowId, RunStatement.result,
            Db.workflowRun?, hfind, beq_iff_eq, eq_comm (a := row.workflowId)]
          by_cases hrow : key = row.workflowId
          · simp only [hrow, if_true]
            cases db.workflowRuns.find? fun r => r.workflowId == row.workflowId <;> rfl
          · simp only [hrow, if_false, Option.or_none]
      | update workflowId columns =>
          obtain ⟨t, ht, rfl⟩ := write_eq_ok.mp happly
          have hfind := Table.find?_update_key ht columns.workflowId_data key
          simp only [keepOnError, RunStatement.workflowId, RunStatement.result,
            Db.workflowRun?, hfind]
          by_cases hrow : key = workflowId
          · simp only [hrow, if_true]
          · simp only [hrow, if_false, Option.map_id']
      | upsert row columns =>
          obtain ⟨t, ht, rfl⟩ := write_eq_ok.mp happly
          have hfind := Table.find?_upsert_key ht columns.workflowId_data rfl key
          simp only [keepOnError, RunStatement.workflowId, RunStatement.result,
            Db.workflowRun?, hfind]
          by_cases hrow : key = row.workflowId
          · simp only [hrow, if_true]
          · simp only [hrow, if_false]
  | error e =>
      by_cases hrow : key = s.workflowId
      · subst hrow
        simp only [keepOnError, if_true]
        refine (RunStatement.result_eq fun happlies => ?_).symm
        obtain ⟨db', hok⟩ := RunStatement.apply_ok happlies
        rw [hok] at happly
        cases happly
      · simp only [keepOnError, hrow, if_false]

end Rows

/-! ### The code of a call -/

inductive DispatchCall
  | claimPendingDispatches (input : ClaimPendingWorkflowDispatchesInput)
  | record (call : RecordCall)
  | execution (call : ExecutionCall)

/-- Where a call is; the last three are how it ends. -/
inductive DispatchLocation
  | start
  | claimNext (todo : List WorkflowDispatch) (claimed : List WorkflowDispatchRecord)
  | readClaimed (candidate : WorkflowDispatch) (todo : List WorkflowDispatch)
      (claimed : List WorkflowDispatchRecord)
  | transition
  | mutate
  | readRun (dispatch : WorkflowDispatch)
  | projectRun (dispatch : WorkflowDispatch) (existingRun : Option WorkflowRun)
  | writeRun (s : RunStatement)
  | audit
  | finish
  | claimed (records : List WorkflowDispatchRecord)
  | done
  | failed (error : RegistryError)

/-- A write whose statement succeeds on what the call sees, or the error that rolls the
transaction back. -/
def writeOrFail (result : Except RegistryError Db) (w : Write Db DispatchRow)
    (next : DispatchLocation) :
    Action Db DispatchRow DispatchLocation :=
  match result with
  | .ok _ => .write w next
  | .error e => .rollback (.failed e)

/-- `claimPendingDispatches`. -/
def claimCode (input : ClaimPendingWorkflowDispatchesInput) (location : DispatchLocation)
    (db : Db) :
    Action Db DispatchRow DispatchLocation :=
  match location with
  | .start => .query (.claimNext (claimCandidates input db) [])
  | .claimNext [] claimed => .commit (.claimed claimed)
  | .claimNext (candidate :: todo) claimed =>
      if db.workflowDispatches.countP candidate.guards = 1 then
        .write (updateDispatch candidate.id (candidate.claim input))
          (.readClaimed candidate todo claimed)
      else .query (.claimNext todo claimed)
  | .readClaimed candidate todo claimed =>
      match db.workflowDispatch? candidate.id with
      | some claimedRecord =>
          .query (.claimNext todo (claimed ++ [mapDispatchRecord claimedRecord]))
      | none => .query (.claimNext todo claimed)
  | _ => .halt

/-- `recordStarted`, `recordDuplicate`, `recordFailedRetryable` and `recordFailedTerminal`. -/
def recordCode (rt : Runtime) (call : RecordCall) (location : DispatchLocation) (db : Db) :
    Action Db DispatchRow DispatchLocation :=
  match location with
  | .start =>
      match call.check (db.workflowDispatch? call.dispatchId) with
      | .ok () => .query .transition
      | .error e => .rollback (.failed e)
  | .transition =>
      writeOrFail (db.updateWorkflowDispatch call.dispatchId call.transition.data)
        (updateDispatch call.dispatchId call.transition) .mutate
  | .mutate =>
      match call with
      | .started _ =>
          match db.workflowDispatch? call.dispatchId with
          | some dispatch => .query (.readRun dispatch)
          | none => .rollback (.failed (.store .recordNotFound))
      | .duplicate input =>
          match db.workflowDispatch? call.dispatchId with
          | some dispatch => .query (.writeRun (input.runStatement dispatch))
          | none => .rollback (.failed (.store .recordNotFound))
      | .failedRetryable input | .failedTerminal input =>
          writeOrFail (db.updateWorkflowDispatch call.dispatchId (input.failure rt).data)
            (updateDispatch call.dispatchId (input.failure rt)) .finish
  | .readRun dispatch =>
      match call with
      | .started input => .query (.projectRun dispatch (db.workflowRun? input.workflowId))
      | _ => .halt
  | .projectRun dispatch existingRun =>
      match call with
      | .started input =>
          writeOrFail ((input.runStatement dispatch existingRun).apply db)
            (input.runStatement dispatch existingRun).write .finish
      | _ => .halt
  | .writeRun s => writeOrFail (s.apply db) s.write .finish
  | .finish => .commit .done
  | _ => .halt

/-- `markRunning`, `markCompleted` and `markFailedRetryable`. -/
def executionCode (rt : Runtime) (call : ExecutionCall) (location : DispatchLocation) (db : Db) :
    Action Db DispatchRow DispatchLocation :=
  match location with
  | .start =>
      match call.failedVersion? with
      | some id =>
          writeOrFail (db.updateAssetVersion id fun r => r.moveTo .failedRetryable) (failVersion id)
            (.writeRun (call.runStatement rt))
      | none => .query (.writeRun (call.runStatement rt))
  | .writeRun s => writeOrFail (s.apply db) s.write .audit
  | .audit =>
      writeOrFail (db.createAuditEvent (call.event rt))
        (insertEvent (call.runStatement rt).workflowId (call.event rt)) .finish
  | .finish => .commit .done
  | _ => .halt

variable {ι : Type}

/-- The code of the sessions, each of which makes one call. -/
def dispatchCode (rt : Runtime) (calls : ι → DispatchCall) (i : ι) :
    DispatchLocation → Db → Action Db DispatchRow DispatchLocation :=
  match calls i with
  | .claimPendingDispatches input => claimCode input
  | .record call => recordCode rt call
  | .execution call => executionCode rt call

/-- Sessions over a registry. -/
abbrev DispatchSystem (ι : Type) := System ι Db DispatchRow DispatchLocation

/-- The calls, before their first statement. -/
def dispatchSystem (db : Db) : DispatchSystem ι where
  db
  session _ := ⟨.start, []⟩

/-- What the others may do: change other tables and create dispatches. -/
structure Db.SameDispatches (db db' : Db) : Prop where
  dispatch : ∀ {id dispatch}, db.workflowDispatch? id = some dispatch →
    db'.workflowDispatch? id = some dispatch
  run : ∀ workflowId, db'.workflowRun? workflowId = db.workflowRun? workflowId

/-! ### The writes of a call -/

theorem updateDispatch_keepsToRow (id : String) (columns : DispatchUpdate) :
    (updateDispatch id columns).KeepsToRow DispatchRow.find where
  frame {db key} hkey := by
    cases key with
    | dispatch key =>
        have hne : key ≠ id := fun heq => hkey (congrArg DispatchRow.dispatch heq)
        simp only [DispatchRow.find, workflowDispatch?_updateDispatch, hne, if_false,
          Option.map_id']
    | run key => simp only [DispatchRow.find, workflowRun?_updateDispatch]
    | version key => rfl
  congr {db db'} h := by
    have hrow : db.workflowDispatch? id = db'.workflowDispatch? id := StoredRow.dispatch.inj h
    show StoredRow.dispatch _ = StoredRow.dispatch _
    rw [workflowDispatch?_updateDispatch, workflowDispatch?_updateDispatch, hrow]

theorem RunStatement.write_keepsToRow (s : RunStatement) : s.write.KeepsToRow DispatchRow.find where
  frame {db key} hkey := by
    cases key with
    | dispatch key => simp only [DispatchRow.find, workflowDispatch?_writeRun]
    | run key =>
        have hne : key ≠ s.workflowId := fun heq => hkey (congrArg DispatchRow.run heq)
        simp only [DispatchRow.find, workflowRun?_writeRun, hne, if_false]
    | version key => rfl
  congr {db db'} h := by
    have hrun : db.workflowRun? s.workflowId = db'.workflowRun? s.workflowId := StoredRow.run.inj h
    show StoredRow.run _ = StoredRow.run _
    rw [workflowRun?_writeRun, workflowRun?_writeRun, hrun]

/-- A write that leaves the dispatches and the runs as they are. -/
theorem keepsToRow_of_same {w : Write Db DispatchRow}
    (hdispatch : ∀ db id, (w.effect db).workflowDispatch? id = db.workflowDispatch? id)
    (hrun : ∀ db workflowId, (w.effect db).workflowRun? workflowId = db.workflowRun? workflowId) :
    w.KeepsToRow DispatchRow.find := by
  have hfind : ∀ db key, DispatchRow.find key (w.effect db) = DispatchRow.find key db := by
    intro db key
    cases key with
    | dispatch id => exact congrArg StoredRow.dispatch (hdispatch db id)
    | run workflowId => exact congrArg StoredRow.run (hrun db workflowId)
    | version id => rfl
  exact ⟨fun _ => hfind _ _, fun h => (hfind _ _).trans (h.trans (hfind _ _).symm)⟩

theorem failVersion_keepsToRow (id : String) : (failVersion id).KeepsToRow DispatchRow.find := by
  have hsame : ∀ db, ((failVersion id).effect db).workflowDispatches = db.workflowDispatches ∧
      ((failVersion id).effect db).workflowRuns = db.workflowRuns := by
    intro db
    simp only [failVersion]
    cases hupdate : db.updateAssetVersion id fun r => r.moveTo .failedRetryable with
    | error e => exact ⟨rfl, rfl⟩
    | ok db' =>
        obtain ⟨t, ht, rfl⟩ := write_eq_ok.mp hupdate
        exact ⟨rfl, rfl⟩
  refine keepsToRow_of_same (fun db key => ?_) fun db key => ?_
  · simp only [Db.workflowDispatch?, (hsame db).1]
  · simp only [Db.workflowRun?, (hsame db).2]

theorem insertEvent_keepsToRow (workflowId : String) (event : AuditEvent) :
    (insertEvent workflowId event).KeepsToRow DispatchRow.find := by
  have hsame : ∀ db, ((insertEvent workflowId event).effect db).workflowDispatches =
      db.workflowDispatches ∧
      ((insertEvent workflowId event).effect db).workflowRuns = db.workflowRuns := by
    intro db
    simp only [insertEvent]
    cases hinsert : db.createAuditEvent event with
    | error e => exact ⟨rfl, rfl⟩
    | ok db' =>
        obtain ⟨t, ht, rfl⟩ := write_eq_ok.mp hinsert
        exact ⟨rfl, rfl⟩
  refine keepsToRow_of_same (fun db key => ?_) fun db key => ?_
  · simp only [Db.workflowDispatch?, (hsame db).1]
  · simp only [Db.workflowRun?, (hsame db).2]

/-! ### Inversion of the calls -/

/-- **What a record call does next**, at each of its locations. -/
inductive RecordStep (rt : Runtime) (call : RecordCall) (db : Db) :
    DispatchLocation → Action Db DispatchRow DispatchLocation → Prop
  | check (h : call.check (db.workflowDispatch? call.dispatchId) = .ok ()) :
      RecordStep rt call db .start (.query .transition)
  | reject {e : RegistryError} (h : call.check (db.workflowDispatch? call.dispatchId) = .error e) :
      RecordStep rt call db .start (.rollback (.failed e))
  | transition {row : WorkflowDispatch} (h : db.workflowDispatch? call.dispatchId = some row) :
      RecordStep rt call db .transition
        (.write (updateDispatch call.dispatchId call.transition) .mutate)
  | readDispatch {input : RecordStartedWorkflowDispatchInput} {dispatch : WorkflowDispatch}
      (hcall : call = .started input) (h : db.workflowDispatch? call.dispatchId = some dispatch) :
      RecordStep rt call db .mutate (.query (.readRun dispatch))
  | duplicateRun {input : RecordDuplicateWorkflowDispatchInput} {dispatch : WorkflowDispatch}
      (hcall : call = .duplicate input) (h : db.workflowDispatch? call.dispatchId = some dispatch) :
      RecordStep rt call db .mutate (.query (.writeRun (input.runStatement dispatch)))
  | failure {input : RecordFailedWorkflowDispatchInput} {row : WorkflowDispatch}
      (hcall : call = .failedRetryable input ∨ call = .failedTerminal input)
      (h : db.workflowDispatch? call.dispatchId = some row) :
      RecordStep rt call db .mutate
        (.write (updateDispatch call.dispatchId (input.failure rt)) .finish)
  | readRun {input : RecordStartedWorkflowDispatchInput} {dispatch : WorkflowDispatch}
      (hcall : call = .started input) : RecordStep rt call db (.readRun dispatch)
        (.query (.projectRun dispatch (db.workflowRun? input.workflowId)))
  | projectRun {input : RecordStartedWorkflowDispatchInput} {dispatch : WorkflowDispatch}
      {existingRun : Option WorkflowRun} {db' : Db} (hcall : call = .started input)
      (h : (input.runStatement dispatch existingRun).apply db = .ok db') :
      RecordStep rt call db (.projectRun dispatch existingRun)
        (.write (input.runStatement dispatch existingRun).write .finish)
  | writeRun {s : RunStatement} {db' : Db} (h : s.apply db = .ok db') :
      RecordStep rt call db (.writeRun s) (.write s.write .finish)
  | commit : RecordStep rt call db .finish (.commit .done)
  | missing {location : DispatchLocation} {e : RegistryError}
      (hlocation : location = .transition ∨ location = .mutate)
      (h : db.workflowDispatch? call.dispatchId = none) :
      RecordStep rt call db location (.rollback (.failed e))
  | projectRunFails {input : RecordStartedWorkflowDispatchInput} {dispatch : WorkflowDispatch}
      {existingRun : Option WorkflowRun} {e : RegistryError} (hcall : call = .started input)
      (h : (input.runStatement dispatch existingRun).apply db = .error e) :
      RecordStep rt call db (.projectRun dispatch existingRun) (.rollback (.failed e))
  | writeRunFails {s : RunStatement} {e : RegistryError} (h : s.apply db = .error e) :
      RecordStep rt call db (.writeRun s) (.rollback (.failed e))

/-- **What an execution call does next**, at each of its locations. -/
inductive ExecutionStep (rt : Runtime) (call : ExecutionCall) (db : Db) :
    DispatchLocation → Action Db DispatchRow DispatchLocation → Prop
  | failVersion {id : String} (h : call.failedVersion? = some id) :
      ExecutionStep rt call db .start (.write (failVersion id) (.writeRun (call.runStatement rt)))
  | start (h : call.failedVersion? = none) :
      ExecutionStep rt call db .start (.query (.writeRun (call.runStatement rt)))
  | writeRun {s : RunStatement} : ExecutionStep rt call db (.writeRun s) (.write s.write .audit)
  | audit : ExecutionStep rt call db .audit
      (.write (insertEvent (call.runStatement rt).workflowId (call.event rt)) .finish)
  | commit : ExecutionStep rt call db .finish (.commit .done)
  | fails {location : DispatchLocation} {e : RegistryError} :
      ExecutionStep rt call db location (.rollback (.failed e))

section Inversion

variable {rt : Runtime} {location : DispatchLocation} {db : Db}
  {action : Action Db DispatchRow DispatchLocation}

/-- An update of a dispatch fails only when it is not there. -/
theorem workflowDispatch?_eq_none {id : String} {columns : DispatchUpdate} {e : RegistryError}
    (h : db.updateWorkflowDispatch id columns.data = .error e) :
    db.workflowDispatch? id = none := by
  cases hrow : db.workflowDispatch? id with
  | none => rfl
  | some row =>
      obtain ⟨db', hok⟩ := updateWorkflowDispatch_ok columns hrow
      rw [hok] at h
      cases h

/-- **Inversion of a record call.** -/
theorem recordCode_cases {call : RecordCall} (h : recordCode rt call location db = action)
    (hhalt : action ≠ .halt) : RecordStep rt call db location action := by
  subst h
  cases location with
  | start =>
      cases hcheck : call.check (db.workflowDispatch? call.dispatchId) with
      | ok u => simpa only [recordCode, hcheck] using .check hcheck
      | error e => simpa only [recordCode, hcheck] using .reject hcheck
  | transition =>
      cases hupdate : db.updateWorkflowDispatch call.dispatchId call.transition.data with
      | ok db' =>
          obtain ⟨row, hrow⟩ := updateWorkflowDispatch_some hupdate
          simpa only [recordCode, hupdate, writeOrFail] using .transition hrow
      | error e =>
          simpa only [recordCode, hupdate, writeOrFail] using
            .missing (.inl rfl) (workflowDispatch?_eq_none hupdate)
  | mutate =>
      have hfailure : ∀ (call : RecordCall) (input : RecordFailedWorkflowDispatchInput),
          call = .failedRetryable input ∨ call = .failedTerminal input →
          RecordStep rt call db .mutate
            (writeOrFail (db.updateWorkflowDispatch call.dispatchId (input.failure rt).data)
              (updateDispatch call.dispatchId (input.failure rt)) .finish) := by
        intro call input hcall
        cases hupdate : db.updateWorkflowDispatch call.dispatchId (input.failure rt).data with
        | ok db' =>
            obtain ⟨row, hrow⟩ := updateWorkflowDispatch_some hupdate
            exact .failure hcall hrow
        | error e => exact .missing (.inr rfl) (workflowDispatch?_eq_none hupdate)
      cases call with
      | started input =>
          cases hrow : db.workflowDispatch? (RecordCall.started input).dispatchId with
          | some dispatch => simpa only [recordCode, hrow] using .readDispatch rfl hrow
          | none => simpa only [recordCode, hrow] using .missing (.inr rfl) hrow
      | duplicate input =>
          cases hrow : db.workflowDispatch? (RecordCall.duplicate input).dispatchId with
          | some dispatch => simpa only [recordCode, hrow] using .duplicateRun rfl hrow
          | none => simpa only [recordCode, hrow] using .missing (.inr rfl) hrow
      | failedRetryable input => exact hfailure _ input (.inl rfl)
      | failedTerminal input => exact hfailure _ input (.inr rfl)
  | readRun dispatch =>
      cases call with
      | started input => exact .readRun rfl
      | _ => exact absurd rfl hhalt
  | projectRun dispatch existingRun =>
      cases call with
      | started input =>
          cases happly : (input.runStatement dispatch existingRun).apply db with
          | ok db' => simpa only [recordCode, happly, writeOrFail] using .projectRun rfl happly
          | error e =>
              simpa only [recordCode, happly, writeOrFail] using .projectRunFails rfl happly
      | _ => exact absurd rfl hhalt
  | writeRun s =>
      cases happly : s.apply db with
      | ok db' => simpa only [recordCode, happly, writeOrFail] using .writeRun happly
      | error e => simpa only [recordCode, happly, writeOrFail] using .writeRunFails happly
  | finish => exact .commit
  | _ => exact absurd rfl hhalt

/-- **Inversion of an execution call.** -/
theorem executionCode_cases {call : ExecutionCall} (h : executionCode rt call location db = action)
    (hhalt : action ≠ .halt) : ExecutionStep rt call db location action := by
  subst h
  have hwrite : ∀ {location result w next},
      ExecutionStep rt call db location (.write w next) →
      ExecutionStep rt call db location (writeOrFail result w next) := by
    intro location result w next hstep
    cases result with
    | ok db' => exact hstep
    | error e => exact .fails
  cases location with
  | start =>
      cases hfailed : call.failedVersion? with
      | some id => simpa only [executionCode, hfailed] using hwrite (.failVersion hfailed)
      | none => simpa only [executionCode, hfailed] using .start hfailed
  | writeRun s => exact hwrite .writeRun
  | audit => exact hwrite .audit
  | finish => exact .commit
  | _ => exact absurd rfl hhalt

end Inversion

section View

variable {s : Session Db DispatchRow DispatchLocation} {db db' : Db}

/-- The rows that a session does not hold, as it sees them. -/
theorem view_workflowDispatch? {id : String} (hws : ∀ w ∈ s.pending, w.KeepsToRow DispatchRow.find)
    (h : ¬ s.Holds (.dispatch id)) : (s.view db).workflowDispatch? id = db.workflowDispatch? id :=
  StoredRow.dispatch.inj (Session.lookup_view hws h)

theorem view_workflowRun? {workflowId : String}
    (hws : ∀ w ∈ s.pending, w.KeepsToRow DispatchRow.find) (h : ¬ s.Holds (.run workflowId)) :
    (s.view db).workflowRun? workflowId = db.workflowRun? workflowId :=
  StoredRow.run.inj (Session.lookup_view hws h)

/-- What a session sees of a row depends only on what is committed there. -/
theorem view_workflowDispatch?_congr {id : String}
    (hws : ∀ w ∈ s.pending, w.KeepsToRow DispatchRow.find)
    (h : db'.workflowDispatch? id = db.workflowDispatch? id) :
    (s.view db').workflowDispatch? id = (s.view db).workflowDispatch? id := by
  have hfind : DispatchRow.find (.dispatch id) db' = DispatchRow.find (.dispatch id) db :=
    congrArg StoredRow.dispatch h
  exact StoredRow.dispatch.inj (lookup_applyAll_congr hws hfind)

theorem view_workflowRun?_congr {workflowId : String}
    (hws : ∀ w ∈ s.pending, w.KeepsToRow DispatchRow.find)
    (h : db'.workflowRun? workflowId = db.workflowRun? workflowId) :
    (s.view db').workflowRun? workflowId = (s.view db).workflowRun? workflowId := by
  have hfind : DispatchRow.find (.run workflowId) db' = DispatchRow.find (.run workflowId) db :=
    congrArg StoredRow.run h
  exact StoredRow.run.inj (lookup_applyAll_congr hws hfind)

end View

end Cdngine
