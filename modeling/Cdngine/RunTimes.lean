import Cdngine.DispatchRuntime
import Cdngine.Completion

/-!
# The Times of a Workflow Run

A workflow run carries the time it started and the time it completed beside its state. The
dispatcher and the worker write these columns with five calls in two stores, each of which
sets its own selection of them. `RunTimes` keeps the three columns only, and `RunMove` the
three kinds of writes on them; every call of the stores is one of these moves on the run of
its workflow, or leaves it (`next_runTimes?`).

A move that activates a run sets its state and its start, and never clears the completion:
from a run that has finished it makes one that is active and completed at once.

## Main results

* `RunMove.apply_marked_iff`: a move keeps the completion in step with the state exactly when
  it does not reopen a finished run.
* `run_times_wellFormed_iff`: over every sequence of calls, the runs of a workflow are well
  formed in every state exactly when no call reopens a finished run.
* `retry_reopens_failed`: a run that failed and is running again, with the completion of its
  failure.
-/

open Relational Runs

namespace Cdngine

/-! ### The abstract run -/

/-- The states in which a run has come to its end. -/
def WorkflowRunState.finished : WorkflowRunState → Bool
  | .completed | .failed | .cancelled => true
  | .queued | .running | .waiting => false

/-- How far a run has come, and when. -/
structure RunTimes where
  state : WorkflowRunState
  startedAt : Option Instant
  completedAt : Option Instant
  deriving DecidableEq, Repr

namespace RunTimes

/-- The completion is set exactly on a finished run. -/
def Marked (run : RunTimes) : Prop := run.completedAt.isSome = run.state.finished

/-- The start is never after the completion. -/
def Ordered (run : RunTimes) : Prop := ∀ s ∈ run.startedAt, ∀ c ∈ run.completedAt, s ≤ c

/-- The times of a run are past at `time`. -/
structure Past (run : RunTimes) (time : Instant) : Prop where
  started : ∀ s ∈ run.startedAt, s ≤ time
  completed : ∀ c ∈ run.completedAt, c ≤ time

end RunTimes

/-- What a call does to the times of its run: record that it was started, make it active, or
bring it to its end. -/
inductive RunMove
  | enqueue (time : Instant)
  | activate (state : WorkflowRunState) (time : Instant)
  | finish (state : WorkflowRunState) (time : Instant)

namespace RunMove

def time : RunMove → Instant
  | enqueue time | activate _ time | finish _ time => time

/-- The run after a move, with or without a run before it. -/
def apply : RunMove → Option RunTimes → RunTimes
  | enqueue time, none => ⟨.queued, some time, none⟩
  | enqueue time, some run => { run with startedAt := some (run.startedAt.getD time) }
  | activate state time, none => ⟨state, some time, none⟩
  | activate state time, some run => { run with state, startedAt := some time }
  | finish state time, none => ⟨state, some time, some time⟩
  | finish state time, some run => { run with state, completedAt := some time }

/-- The states that a move sets are of its kind. -/
def Typed : RunMove → Prop
  | enqueue _ => True
  | activate state _ => state.finished = false
  | finish state _ => state.finished = true

/-- A move **reopens** a finished run. -/
def Reopens : RunMove → Option RunTimes → Prop
  | activate _ _, some run => run.state.finished = true
  | _, _ => False

variable {move : RunMove} {run : Option RunTimes}

/-- **The completion after a move** is in step with the state exactly when the move does not
reopen a finished run. -/
theorem apply_marked_iff (htyped : move.Typed) (hrun : ∀ r ∈ run, r.Marked) :
    (move.apply run).Marked ↔ ¬ move.Reopens run := by
  cases run with
  | none =>
      cases move with
      | enqueue time => simp [apply, RunTimes.Marked, Reopens, WorkflowRunState.finished]
      | activate state time =>
          have hactive : state.finished = false := htyped
          simp [apply, RunTimes.Marked, Reopens, hactive]
      | finish state time =>
          have hfinished : state.finished = true := htyped
          simp [apply, RunTimes.Marked, Reopens, hfinished]
  | some r =>
      have hr : r.completedAt.isSome = r.state.finished := hrun r rfl
      cases move with
      | enqueue time => simp [apply, RunTimes.Marked, Reopens, hr]
      | activate state time =>
          have hactive : state.finished = false := htyped
          simp [apply, RunTimes.Marked, Reopens, hactive, hr]
      | finish state time =>
          have hfinished : state.finished = true := htyped
          simp [apply, RunTimes.Marked, Reopens, hfinished]

/-- A run has a start after every move. -/
theorem apply_started (hrun : ∀ r ∈ run, r.startedAt.isSome = true) :
    (move.apply run).startedAt.isSome = true := by
  cases run with
  | none => cases move <;> rfl
  | some r =>
      cases move with
      | enqueue time => rfl
      | activate state time => rfl
      | finish state time => exact hrun r rfl

/-- The times after a move are past, when those before it and its own are. -/
theorem apply_past {bound : Instant} (hrun : ∀ r ∈ run, r.Past bound) (hmove : move.time ≤ bound) :
    (move.apply run).Past bound := by
  cases run with
  | none =>
      cases move with
      | enqueue t => exact ⟨by simpa [apply, time] using hmove, by simp [apply]⟩
      | activate state t => exact ⟨by simpa [apply, time] using hmove, by simp [apply]⟩
      | finish state t =>
          exact ⟨by simpa [apply, time] using hmove, by simpa [apply, time] using hmove⟩
  | some r =>
      obtain ⟨hstarted, hcompleted⟩ := hrun r rfl
      cases move with
      | enqueue t =>
          refine ⟨?_, hcompleted⟩
          intro s hs
          obtain rfl : r.startedAt.getD t = s := Option.some.inj hs
          cases hstart : r.startedAt with
          | none => exact hmove
          | some s => exact hstarted s hstart
      | activate state t => exact ⟨by simpa [apply, time] using hmove, hcompleted⟩
      | finish state t => exact ⟨hstarted, by simpa [apply, time] using hmove⟩

/-- **The order of the times after a move** that does not reopen the run, at a time when those
before it are past. -/
theorem apply_ordered (hmarked : ∀ r ∈ run, r.Marked)
    (hstarted : ∀ r ∈ run, r.startedAt.isSome = true) (hordered : ∀ r ∈ run, r.Ordered)
    (hpast : ∀ r ∈ run, r.Past move.time) (hkeeps : ¬ move.Reopens run) :
    (move.apply run).Ordered := by
  cases run with
  | none =>
      cases move <;> simp [apply, RunTimes.Ordered]
  | some r =>
      cases move with
      | enqueue t =>
          -- the start that is there stays
          obtain ⟨s, hs⟩ := Option.isSome_iff_exists.mp (hstarted r rfl)
          have hr := hordered r rfl
          simp only [RunTimes.Ordered, apply, hs, Option.getD_some] at hr ⊢
          exact hr
      | activate state t =>
          -- a run that has not finished has no completion
          have hr : r.completedAt.isSome = r.state.finished := hmarked r rfl
          have hnone : r.completedAt = none := by
            rw [← Option.not_isSome_iff_eq_none, hr]
            exact hkeeps
          simp [apply, RunTimes.Ordered, hnone]
      | finish state t =>
          intro s hs c hc
          obtain rfl := Option.some.inj hc
          exact (hpast r rfl).started s hs

end RunMove

/-! ### The calls of the stores -/

/-- A call of the dispatcher or of a worker. -/
inductive WorkflowCall
  | claimPendingDispatches (input : ClaimPendingWorkflowDispatchesInput)
  | record (call : RecordCall)
  | execution (call : ExecutionCall)

/-- The times of a stored run. -/
def WorkflowRun.times (run : WorkflowRun) : RunTimes := ⟨run.state, run.startedAt, run.completedAt⟩

/-- The times of the run of a workflow. -/
def Db.runTimes? (db : Db) (workflowId : String) : Option RunTimes :=
  (db.workflowRun? workflowId).map WorkflowRun.times

namespace WorkflowCall

/-- The registry after a call, each in a transaction of its own. -/
def next (rt : Runtime) (db : Db) : WorkflowCall → Db
  | claimPendingDispatches input => (Cdngine.claimPendingDispatches input db).2
  | record call => (transact (transitionDispatch rt call) db).2
  | execution call => (transact (call.transaction rt) db).2

/-- The workflow whose run a call writes, and how it moves it. -/
def writes : WorkflowCall → Option (String × RunMove)
  | claimPendingDispatches _ => none
  | record (.started input) => some (input.workflowId, .enqueue input.startedAt)
  | record (.duplicate input) => some (input.workflowId, .activate input.runState input.observedAt)
  | record (.failedRetryable _) | record (.failedTerminal _) => none
  | execution (.markRunning input) => some (input.workflowId, .activate .running input.observedAt)
  | execution (.markCompleted input) =>
      some (input.workflowId, .finish .completed input.completedAt)
  | execution (.markFailedRetryable input) =>
      some (input.workflowId, .finish .failed input.failedAt)

/-- How a call moves the run of one workflow. -/
def move (workflowId : String) (call : WorkflowCall) : Option RunMove :=
  call.writes.bind fun written => if written.1 = workflowId then some written.2 else none

/-- What a call checks before it writes. -/
def Succeeds (db : Db) : WorkflowCall → Prop
  | claimPendingDispatches _ => True
  | record call => call.check (db.workflowDispatch? call.dispatchId) = .ok ()
  | execution (.markFailedRetryable input) => (db.version? input.assetVersionId).isSome = true
  | execution _ => True

/-- The states that a call may pass: `recordDuplicate` takes `queued`, `running` or
`waiting`. -/
def Typed : WorkflowCall → Prop
  | record (.duplicate input) => input.runState.finished = false
  | _ => True

/-- A call **reopens** the run of a workflow: it goes through, and makes a run active that has
finished. -/
def Reopens (workflowId : String) (db : Db) (call : WorkflowCall) : Prop :=
  call.Succeeds db ∧ ∃ move ∈ call.move workflowId, move.Reopens (db.runTimes? workflowId)

theorem move_typed {call : WorkflowCall} {workflowId : String} {move : RunMove}
    (htyped : call.Typed) (h : call.move workflowId = some move) : move.Typed := by
  obtain ⟨written, hwritten, hmove⟩ := Option.bind_eq_some_iff.mp h
  obtain ⟨-, hmove⟩ := Option.ite_none_right_eq_some.mp hmove
  obtain rfl := Option.some.inj hmove
  match call, hwritten with
  | record (.started _), hwritten => cases hwritten; trivial
  | record (.duplicate _), hwritten => cases hwritten; exact htyped
  | execution (.markRunning _), hwritten => cases hwritten; rfl
  | execution (.markCompleted _), hwritten => cases hwritten; rfl
  | execution (.markFailedRetryable _), hwritten => cases hwritten; rfl

end WorkflowCall

/-! ### What a call does to a run -/

section Step

variable {rt : Runtime} {db db₁ : Db} {workflowId : String}

theorem workflowRun?_updated {id : String} {columns : DispatchUpdate}
    (h : db.updateWorkflowDispatch id columns.data = .ok db₁) :
    db₁.runTimes? workflowId = db.runTimes? workflowId := by
  have heffect : (updateDispatch id columns).effect db = db₁ := by
    simp only [updateDispatch, h, keepOnError]
  rw [← heffect, Db.runTimes?, workflowRun?_updateDispatch]
  rfl

/-- The times of the runs after a write on one of them. -/
theorem runTimes?_applied {r : RunStatement} (h : r.apply db = .ok db₁) :
    db₁.runTimes? workflowId =
      if workflowId = r.workflowId then
        (r.result (db.workflowRun? workflowId)).map WorkflowRun.times
      else db.runTimes? workflowId := by
  have heffect : r.write.effect db = db₁ := by
    simp only [RunStatement.write, h, keepOnError]
  rw [← heffect, Db.runTimes?, workflowRun?_writeRun]
  by_cases hid : workflowId = r.workflowId
  · rw [if_pos hid, if_pos hid]
  · rw [if_neg hid, if_neg hid]
    rfl

/-- What a statement of a record call on a run does to its times. -/
theorem started_result (input : RecordStartedWorkflowDispatchInput) (dispatch : WorkflowDispatch)
    (run : Option WorkflowRun) :
    ((input.runStatement dispatch run).result run).map WorkflowRun.times =
      some ((RunMove.enqueue input.startedAt).apply (run.map WorkflowRun.times)) := by
  cases run with
  | none => rfl
  | some run =>
      by_cases hqueued : run.state = .queued
      · simp [RecordStartedWorkflowDispatchInput.runStatement, RunStatement.result,
          RecordStartedWorkflowDispatchInput.updatedRun, WorkflowRun.times, RunMove.apply, hqueued]
      · simp [RecordStartedWorkflowDispatchInput.runStatement, RunStatement.result,
          RecordStartedWorkflowDispatchInput.updatedRun, WorkflowRun.times, RunMove.apply, hqueued]

theorem duplicate_result (input : RecordDuplicateWorkflowDispatchInput)
    (dispatch : WorkflowDispatch) (run : Option WorkflowRun) :
    ((input.runStatement dispatch).result run).map WorkflowRun.times =
      some ((RunMove.activate input.runState input.observedAt).apply
        (run.map WorkflowRun.times)) := by
  cases run <;> rfl

/-- What the upsert of an execution call does to the times of its run. -/
theorem execution_result (call : ExecutionCall) (run : Option WorkflowRun) :
    ∃ move, (WorkflowCall.execution call).writes = some ((call.runStatement rt).workflowId, move) ∧
      ((call.runStatement rt).result run).map WorkflowRun.times =
        some (move.apply (run.map WorkflowRun.times)) := by
  cases call <;> cases run <;> exact ⟨_, rfl, rfl⟩

/-- What a record call does to the runs after its dispatch has moved. -/
theorem mutation_runTimes? {call : RecordCall} (h : call.mutation rt db = .ok db₁) :
    db₁.runTimes? workflowId =
      ((WorkflowCall.record call).move workflowId).elim (db.runTimes? workflowId)
        fun move => some (move.apply (db.runTimes? workflowId)) := by
  cases call with
  | started input =>
      simp only [RecordCall.mutation] at h
      split at h
      · rename_i dispatch _
        rw [runTimes?_applied h, input.runStatement_workflowId]
        by_cases hid : workflowId = input.workflowId
        · subst hid
          simp only [WorkflowCall.move, WorkflowCall.writes, Option.bind_some, if_true,
            Option.elim_some]
          exact started_result input dispatch _
        · simp only [WorkflowCall.move, WorkflowCall.writes, Option.bind_some, hid, Ne.symm hid,
            if_false, Option.elim_none]
      · cases h
  | duplicate input =>
      simp only [RecordCall.mutation] at h
      split at h
      · rename_i dispatch _
        have hrow : (input.runStatement dispatch).workflowId = input.workflowId := rfl
        rw [runTimes?_applied h, hrow]
        by_cases hid : workflowId = input.workflowId
        · subst hid
          simp only [WorkflowCall.move, WorkflowCall.writes, Option.bind_some, if_true,
            Option.elim_some]
          exact duplicate_result input dispatch _
        · simp only [WorkflowCall.move, WorkflowCall.writes, Option.bind_some, hid, Ne.symm hid,
            if_false, Option.elim_none]
      · cases h
  | failedRetryable input => exact @workflowRun?_updated _ _ workflowId _ (input.failure rt) h
  | failedTerminal input => exact @workflowRun?_updated _ _ workflowId _ (input.failure rt) h

/-- A claim leaves the runs. -/
theorem claimPendingDispatches_runTimes? (input : ClaimPendingWorkflowDispatchesInput) (db : Db) :
    (claimPendingDispatches input db).2.runTimes? workflowId = db.runTimes? workflowId := by
  have hloop : ∀ (candidates : List WorkflowDispatch) (state : List WorkflowDispatchRecord × Db),
      (candidates.foldl (claimCandidate input) state).2.runTimes? workflowId =
        state.2.runTimes? workflowId := by
    intro candidates
    induction candidates with
    | nil => exact fun _ => rfl
    | cons candidate rest ih =>
        intro state
        rw [List.foldl_cons, ih]
        simp only [claimCandidate]
        split
        · split <;> (simp only [Db.runTimes?, workflowRun?_updateDispatch])
        · rfl
  exact hloop _ _

/-- An execution call that finds its version writes its run and its event. -/
theorem execution_commits {call : ExecutionCall}
    (hsucceeds : (WorkflowCall.execution call).Succeeds db) :
    ∃ db₁ db₂, db₁.workflowRuns = db.workflowRuns ∧
      (call.runStatement rt).apply db₁ = .ok db₂ ∧
      (transact (call.transaction rt) db).2.workflowRuns = db₂.workflowRuns := by
  have hversion : ∃ db₁, (call.failedVersion?.elim (.ok db) fun id =>
      db.updateAssetVersion id fun r => r.moveTo .failedRetryable) = .ok db₁ ∧
        db₁.workflowRuns = db.workflowRuns := by
    cases call with
    | markRunning input => exact ⟨db, rfl, rfl⟩
    | markCompleted input => exact ⟨db, rfl, rfl⟩
    | markFailedRetryable input =>
        obtain ⟨v, hv⟩ := Option.isSome_iff_exists.mp hsucceeds
        obtain ⟨db₁, hupdate⟩ :=
          @Db.updateAssetVersion_ok db input.assetVersionId v (fun r => r.moveTo .failedRetryable)
            hv fun _ _ => rfl
        refine ⟨db₁, hupdate, ?_⟩
        obtain ⟨t, -, rfl⟩ := write_eq_ok.mp hupdate
        rfl
  obtain ⟨db₁, hfirst, hruns⟩ := hversion
  have happlies : (call.runStatement rt).Applies
      (db₁.workflowRun? (call.runStatement rt).workflowId) := by
    cases call <;> exact trivial
  obtain ⟨db₂, happly⟩ := RunStatement.apply_ok happlies
  obtain ⟨db₃, hevent⟩ := Db.createAuditEvent_ok db₂ (call.event rt)
  refine ⟨db₁, db₂, hruns, happly, ?_⟩
  have hstatements : call.statements rt db = .ok ((), db₃) := by
    cases hfailed : call.failedVersion? with
    | none =>
        rw [hfailed] at hfirst
        simp only [ExecutionCall.statements, hfailed]
        exact bind_eq_ok.mpr ⟨db₁, hfirst, bind_eq_ok.mpr ⟨db₂, happly,
          bind_eq_ok.mpr ⟨db₃, hevent, rfl⟩⟩⟩
    | some id =>
        rw [hfailed] at hfirst
        simp only [ExecutionCall.statements, hfailed]
        exact bind_eq_ok.mpr ⟨db₁, hfirst, bind_eq_ok.mpr ⟨db₂, happly,
          bind_eq_ok.mpr ⟨db₃, hevent, rfl⟩⟩⟩
  obtain ⟨t, -, rfl⟩ := write_eq_ok.mp hevent
  simp only [transact, ← call.statements_eq rt db, hstatements]

/-- **What a call that goes through does to the run of a workflow**: it makes its move, or
leaves the run. -/
theorem next_runTimes? {call : WorkflowCall} (hsucceeds : call.Succeeds db) :
    (call.next rt db).runTimes? workflowId =
      (call.move workflowId).elim (db.runTimes? workflowId)
        fun move => some (move.apply (db.runTimes? workflowId)) := by
  cases call with
  | claimPendingDispatches input => exact claimPendingDispatches_runTimes? input db
  | record call =>
      cases hrow : db.workflowDispatch? call.dispatchId with
      | none =>
          have hcheck : call.check (db.workflowDispatch? call.dispatchId) = .ok () := hsucceeds
          rw [hrow] at hcheck
          cases hcheck
      | some row =>
          have hcheck : call.check (db.workflowDispatch? call.dispatchId) = .ok () := hsucceeds
          rw [hrow] at hcheck
          obtain ⟨db₂, hcommit, -⟩ := @transitionDispatch_ok rt call db row hrow
            (RecordCall.check_eq_ok hcheck)
          obtain ⟨-, -, hbody⟩ := bind_eq_ok.mp hcommit
          obtain ⟨db₁, hupdate, hbody⟩ := bind_eq_ok.mp hbody
          obtain ⟨db₃, hmutation, hreturn⟩ := bind_eq_ok.mp hbody
          obtain rfl : db₃ = db₂ := congrArg Prod.snd (Except.ok.inj hreturn)
          simp only [WorkflowCall.next, transact, hcommit, mutation_runTimes? hmutation,
            @workflowRun?_updated _ _ workflowId _ call.transition hupdate]
  | execution call =>
      obtain ⟨db₁, db₂, hruns, happly, hcommit⟩ := @execution_commits rt db call hsucceeds
      obtain ⟨move, hwrites, hresult⟩ := @execution_result rt call
        (db.workflowRun? workflowId)
      have hsame : db₁.workflowRun? workflowId = db.workflowRun? workflowId := by
        simp only [Db.workflowRun?, hruns]
      have hnext : ((WorkflowCall.execution call).next rt db).runTimes? workflowId =
          db₂.runTimes? workflowId := by
        simp only [WorkflowCall.next, Db.runTimes?, Db.workflowRun?, hcommit]
      rw [hnext, runTimes?_applied happly, hsame]
      simp only [WorkflowCall.move, hwrites, Option.bind_some]
      by_cases hid : workflowId = (call.runStatement rt).workflowId
      · simp only [if_pos hid, if_pos hid.symm, Option.elim_some, hresult, Db.runTimes?]
      · simp only [if_neg hid, if_neg (Ne.symm hid), Option.elim_none, Db.runTimes?, hsame]

/-- A call that fails its check is rolled back. -/
theorem next_eq_self {call : WorkflowCall} (hfails : ¬ call.Succeeds db) :
    call.next rt db = db := by
  cases call with
  | claimPendingDispatches input => exact absurd trivial hfails
  | record call =>
      cases hcheck : call.check (db.workflowDispatch? call.dispatchId) with
      | ok u => exact absurd hcheck hfails
      | error e =>
          have herror : transitionDispatch rt call db = .error e :=
            bind_eq_error.mpr (Or.inl hcheck)
          simp only [WorkflowCall.next, transact, herror]
  | execution call =>
      cases call with
      | markRunning input => exact absurd trivial hfails
      | markCompleted input => exact absurd trivial hfails
      | markFailedRetryable input =>
          cases hupdate : db.updateAssetVersion input.assetVersionId
              (fun r => r.moveTo .failedRetryable) with
          | ok db₁ =>
              obtain ⟨t, ht, -⟩ := write_eq_ok.mp hupdate
              obtain ⟨⟨v, hv, hid⟩, -⟩ := Table.update_eq_ok_iff.mp ht
              refine absurd (Option.isSome_iff_exists.mpr ⟨v, ?_⟩) hfails
              exact Db.version?_eq_some_iff.mpr ⟨hv, eq_of_beq hid⟩
          | error e =>
              have herror : markFailedRetryable rt input db = .error e :=
                bind_eq_error.mpr (Or.inl hupdate)
              simp only [WorkflowCall.next, ExecutionCall.transaction, transact, herror]

end Step

/-! ### Runs of the stores -/

/-- A step of the stores: a call, run to completion. -/
def WorkflowStep (rt : Runtime) (db : Db) (call : WorkflowCall) (db' : Db) : Prop :=
  call.Typed ∧ call.next rt db = db'

/-- The completion of the run of a workflow is in step with its state. -/
def Db.RunMarked (db : Db) (workflowId : String) : Prop :=
  ∀ run ∈ db.runTimes? workflowId, run.Marked

/-- The run of a workflow does not start after it completed. -/
def Db.RunOrdered (db : Db) (workflowId : String) : Prop :=
  ∀ run ∈ db.runTimes? workflowId, run.Ordered

/-- The times that successive calls pass for a workflow do not decrease. -/
def TimesAscend (workflowId : String) (tr : List (Transition Db WorkflowCall)) : Prop :=
  tr.Pairwise fun τ τ' => ∀ move ∈ τ.action.move workflowId, ∀ move' ∈ τ'.action.move workflowId,
    move.time ≤ move'.time

/-- **The run of a workflow is well formed in every state**: its completion is set exactly when
it has finished, and for calls in the order of their times it never starts after it
completed. -/
structure RunWellFormed (workflowId : String) (tr : List (Transition Db WorkflowCall)) : Prop where
  marked : ∀ τ ∈ tr, τ.after.RunMarked workflowId
  ordered : TimesAscend workflowId tr → ∀ τ ∈ tr, τ.after.RunOrdered workflowId

section WellFormed

variable {rt : Runtime} {db db' : Db} {call : WorkflowCall} {workflowId : String}
  {tr : List (Transition Db WorkflowCall)}

/-- What a step does to a run: it leaves it, or it goes through and moves it. -/
theorem WorkflowStep.cases (h : WorkflowStep rt db call db') :
    (db'.runTimes? workflowId = db.runTimes? workflowId ∧ ¬ call.Reopens workflowId db) ∨
    ∃ move, call.move workflowId = some move ∧ move.Typed ∧
      db'.runTimes? workflowId = some (move.apply (db.runTimes? workflowId)) ∧
      (call.Reopens workflowId db ↔ move.Reopens (db.runTimes? workflowId)) := by
  obtain ⟨htyped, rfl⟩ := h
  by_cases hsucceeds : call.Succeeds db
  · have hnext := @next_runTimes? rt db workflowId call hsucceeds
    cases hmove : call.move workflowId with
    | none =>
        rw [hmove] at hnext
        refine Or.inl ⟨hnext, ?_⟩
        rintro ⟨-, move, hsome, -⟩
        rw [hmove] at hsome
        cases hsome
    | some move =>
        rw [hmove] at hnext
        refine Or.inr ⟨move, rfl, WorkflowCall.move_typed htyped hmove, hnext, ?_⟩
        constructor
        · rintro ⟨-, move', hsome, hreopens⟩
          obtain rfl := Option.some.inj (hmove.symm.trans hsome)
          exact hreopens
        · exact fun hreopens => ⟨hsucceeds, move, hmove, hreopens⟩
  · refine Or.inl ⟨by rw [next_eq_self hsucceeds], fun hreopens => hsucceeds hreopens.1⟩

/-- **The step law**: a step keeps the completion in step with the state exactly when it does
not reopen a finished run. -/
theorem WorkflowStep.marked_iff (h : WorkflowStep rt db call db') (hdb : db.RunMarked workflowId) :
    db'.RunMarked workflowId ↔ ¬ call.Reopens workflowId db := by
  rcases @WorkflowStep.cases rt db db' call workflowId h with
    ⟨hsame, hkeeps⟩ | ⟨move, -, htyped, hmoved, hreopens⟩
  · refine iff_of_true ?_ hkeeps
    unfold Db.RunMarked
    rw [hsame]
    exact hdb
  · rw [hreopens, ← RunMove.apply_marked_iff htyped hdb]
    unfold Db.RunMarked
    rw [hmoved]
    exact ⟨fun h => h _ rfl, fun h run hrun => Option.some.inj hrun ▸ h⟩

/-- A run that is there has a start. -/
def Db.RunStarted (db : Db) (workflowId : String) : Prop :=
  ∀ run ∈ db.runTimes? workflowId, run.startedAt.isSome = true

/-- The times of the run are past for every later call. -/
def Db.RunPast (db : Db) (workflowId : String) (tr : List (Transition Db WorkflowCall)) : Prop :=
  ∀ τ ∈ tr, ∀ move ∈ τ.action.move workflowId, ∀ run ∈ db.runTimes? workflowId, run.Past move.time

/-- **The order of the times over a run** of the stores in which no step reopens a finished
run. -/
theorem runOrdered_of_ascending (hrun : Run (WorkflowStep rt) db tr db')
    (hmarked : db.RunMarked workflowId) (hstarted : db.RunStarted workflowId)
    (hordered : db.RunOrdered workflowId) (hpast : db.RunPast workflowId tr)
    (hascend : TimesAscend workflowId tr)
    (hkeeps : ∀ τ ∈ tr, ¬ τ.action.Reopens workflowId τ.before) :
    ∀ τ ∈ tr, τ.after.RunOrdered workflowId := by
  -- induction on the run: the times of the run stay past for the calls to come
  induction hrun with
  | nil db => exact fun τ hτ => absurd hτ (List.not_mem_nil)
  | @cons db db₁ db' call rest hstep _ ih =>
      obtain ⟨hfirst, hrest⟩ := List.pairwise_cons.mp hascend
      have hkeep := hkeeps _ List.mem_cons_self
      have hkeeps' : ∀ τ ∈ rest, ¬ τ.action.Reopens workflowId τ.before :=
        fun τ hτ => hkeeps τ (List.mem_cons_of_mem _ hτ)
      have hmarked₁ := (hstep.marked_iff hmarked).mpr hkeep
      have hstep₁ : db₁.RunStarted workflowId ∧ db₁.RunOrdered workflowId ∧
          db₁.RunPast workflowId rest := by
        rcases @WorkflowStep.cases rt db db₁ call workflowId hstep with
          ⟨hsame, -⟩ | ⟨move, hmove, -, hmoved, hreopens⟩
        · unfold Db.RunStarted Db.RunOrdered Db.RunPast
          rw [hsame]
          exact ⟨hstarted, hordered, fun τ hτ => hpast τ (List.mem_cons_of_mem _ hτ)⟩
        · unfold Db.RunStarted Db.RunOrdered Db.RunPast
          rw [hmoved]
          refine ⟨?_, ?_, ?_⟩
          · rintro run ⟨⟩
            exact RunMove.apply_started hstarted
          · rintro run ⟨⟩
            exact RunMove.apply_ordered hmarked hstarted hordered
              (hpast _ List.mem_cons_self move hmove) (mt hreopens.mpr hkeep)
          · rintro τ hτ move' hmove' run ⟨⟩
            exact RunMove.apply_past (hpast τ (List.mem_cons_of_mem _ hτ) move' hmove')
              (hfirst τ hτ move hmove move' hmove')
      obtain ⟨hstarted₁, hordered₁, hpast₁⟩ := hstep₁
      intro τ hτ
      rcases List.mem_cons.mp hτ with rfl | hτ
      · exact hordered₁
      · exact ih hmarked₁ hstarted₁ hordered₁ hpast₁ hrest hkeeps' τ hτ

end WellFormed

/-- **The run of a workflow is well formed in every state exactly when no call reopens it
after it has finished**: for every sequence of calls on a workflow that has no run yet. -/
theorem run_times_wellFormed_iff (rt : Runtime) {db db' : Db}
    {tr : List (Transition Db WorkflowCall)} {workflowId : String}
    (hrun : Run (WorkflowStep rt) db tr db') (hnew : db.workflowRun? workflowId = none) :
    RunWellFormed workflowId tr ↔ ∀ τ ∈ tr, ¬ τ.action.Reopens workflowId τ.before := by
  have hnone : db.runTimes? workflowId = none := by rw [Db.runTimes?, hnew, Option.map_none]
  have hmarked : db.RunMarked workflowId := by
    intro run hsome
    rw [hnone] at hsome
    cases hsome
  constructor
  · intro hwell
    exact hrun.forall_where (I := fun db => db.RunMarked workflowId)
      (C := fun τ => τ.after.RunMarked workflowId) (fun _ _ hafter => hafter)
      (fun hbefore hstep hafter => (hstep.marked_iff hbefore).mp hafter) hmarked hwell.marked
  · intro hkeeps
    refine ⟨?_, fun hascend => ?_⟩
    · intro τ hτ
      exact ((hrun.forall_invariant_where (I := fun db => db.RunMarked workflowId)
        (fun hbefore hstep hkeep => (hstep.marked_iff hbefore).mpr hkeep) hmarked hkeeps).2 τ hτ).2
    · refine runOrdered_of_ascending hrun hmarked ?_ ?_ ?_ hascend hkeeps
      · intro run hsome
        rw [hnone] at hsome
        cases hsome
      · intro run hsome
        rw [hnone] at hsome
        cases hsome
      · intro τ hτ move hmove run hsome
        rw [hnone] at hsome
        cases hsome

/-! ### A run that failed and is retried -/

/-- The run of a list of calls. -/
theorem workflow_run (rt : Runtime) (db : Db) {calls : List WorkflowCall}
    (htyped : ∀ call ∈ calls, call.Typed) :
    Run (WorkflowStep rt) db (trace (fun db call => call.next rt db) db calls)
      (calls.foldl (fun db call => call.next rt db) db) := by
  induction calls generalizing db with
  | nil => exact .nil db
  | cons call rest ih =>
      obtain ⟨hcall, hrest⟩ := List.forall_mem_cons.mp htyped
      exact .cons ⟨hcall, rfl⟩ (ih _ hrest)

/-- A worker that starts the run of the sample version. -/
def sampleRunning (observedAt : Instant) : WorkflowCall :=
  .execution (.markRunning
    { assetVersionId := "version-a"
      observedAt
      workflowId := "workflow-a"
      workflowTemplateId := "asset-derivation-v1" })

/-- A worker that fails on it. -/
def sampleFailedAt (failedAt : Instant) : WorkflowCall :=
  .execution (.markFailedRetryable
    { assetVersionId := "version-a"
      failedAt
      failureClass := "Error"
      workflowId := "workflow-a"
      workflowTemplateId := "asset-derivation-v1" })

/-- A worker that completes it. -/
def sampleCompletedAt (completedAt : Instant) : WorkflowCall :=
  .execution (.markCompleted
    { assetVersionId := "version-a"
      completedAt
      workflowId := "workflow-a"
      workflowTemplateId := "asset-derivation-v1" })

/-- A run that is started and completed is well formed in every state. -/
theorem completed_run_wellFormed :
    RunWellFormed "workflow-a" (trace (fun db call => call.next sampleRuntime db)
      (sampleRegistry.issueSample "a") [sampleRunning 10, sampleCompletedAt 20]) := by
  refine (run_times_wellFormed_iff sampleRuntime
    (workflow_run sampleRuntime (sampleRegistry.issueSample "a") ?_) rfl).mpr ?_
  · intro call hcall
    simp only [List.mem_cons, List.not_mem_nil, or_false] at hcall
    rcases hcall with rfl | rfl <;> exact trivial
  · intro τ hτ hreopens
    simp only [trace, List.mem_cons, List.not_mem_nil, or_false] at hτ
    rcases hτ with rfl | rfl
    · obtain ⟨-, move, hmove, hrun⟩ := hreopens
      obtain rfl := Option.some.inj hmove
      exact hrun
    · obtain ⟨-, move, hmove, hrun⟩ := hreopens
      obtain rfl := Option.some.inj hmove
      exact hrun

/-- **A run that failed and is retried is running and completed**, with the start of the retry
after the completion. -/
theorem retry_reopens_failed :
    ∃ tr db', Run (WorkflowStep sampleRuntime) (sampleRegistry.issueSample "a") tr db' ∧
      (sampleRegistry.issueSample "a").workflowRun? "workflow-a" = none ∧
      db'.runTimes? "workflow-a" = some ⟨.running, some 30, some 20⟩ ∧
      ¬ RunWellFormed "workflow-a" tr := by
  refine ⟨_, _, @workflow_run sampleRuntime (sampleRegistry.issueSample "a")
    [sampleRunning 10, sampleFailedAt 20, sampleRunning 30] ?_, rfl, rfl, ?_⟩
  · intro call hcall
    simp only [List.mem_cons, List.not_mem_nil, or_false] at hcall
    rcases hcall with rfl | rfl | rfl <;> exact trivial
  · intro hwell
    have hlast :=
      hwell.marked _ (List.mem_cons_of_mem _ (List.mem_cons_of_mem _ List.mem_cons_self))
    exact Bool.noConfusion (hlast ⟨.running, some 30, some 20⟩ rfl)

end Cdngine
