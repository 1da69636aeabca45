import Cdngine.DispatchRecords

/-!
# Dispatcher and Worker on One Run

The dispatcher projects a start into the workflow run, the worker the execution. Both write
the same row, and a workflow can run and end before the dispatcher records its start.

`recordStarted` reads the run first and keeps its state unless it is queued, but the run may
move between the read and the write; `recordDuplicate` writes its state over whatever the
run has reached. As long as the run, when such a write finds it, is not ahead of what is
projected, no dispatcher record moves a run backwards.

## Main results

* `RunInv`: what a record call holds of the runs, at each of its locations.
* `records_project_forward`: the law of the records, in every run of the calls whose
  projections do not meet a run that is ahead of them.
* `duplicate_reopens_completed`: without that it fails, even for calls one after the other.
* `stale_start_requeues_running`: it fails for the start, too, when the worker moves the run
  between the read and the write.
-/

open Relational Runs ReadCommitted

namespace Cdngine

variable {ι : Type}

/-- Going from one state to another moves a run backwards. -/
def WorkflowRunState.movesBack : WorkflowRunState → WorkflowRunState → Bool
  | .completed, .queued | .completed, .running | .failed, .queued | .failed, .running
  | .running, .queued => true
  | _, _ => false

@[simp] theorem WorkflowRunState.movesBack_self (state : WorkflowRunState) :
    state.movesBack state = false := by
  cases state <;> rfl

/-- **The run that a projection meets is not ahead of it**: for a start that has read the
run, of the state that it has read; for a duplicate, of the state that it is given. -/
def MeetsRun (calls : ι → DispatchCall) (i : ι) (s : Session Db DispatchRow DispatchLocation)
    (db : Db) : Prop :=
  match calls i, s.location with
  | .record (.started input), .projectRun _ (some existingRun) =>
      ∀ run ∈ db.workflowRun? input.workflowId, run.state.movesBack existingRun.state = false
  | .record (.duplicate input), .writeRun _ =>
      ∀ run ∈ db.workflowRun? input.workflowId, run.state.movesBack input.runState = false
  | _, _ => True

/-- No run moves backwards from one database to another. -/
def Db.RunsForward (db db' : Db) : Prop :=
  ∀ workflowId, ∀ run ∈ db.workflowRun? workflowId,
    ∃ run' ∈ db'.workflowRun? workflowId, run.state.movesBack run'.state = false

/-- **The law of a step**: a record call moves no run backwards. -/
def Transition.ProjectsForward (calls : ι → DispatchCall)
    (τ : Transition (DispatchSystem ι) (Event ι Db)) : Prop :=
  ∀ i call, calls i = .record call → τ.action = .session i → τ.before.db.RunsForward τ.after.db

/-! ### What a record call holds of the runs -/

/-- A call has written no run. -/
def NoRun (s : Session Db DispatchRow DispatchLocation) :
    Prop := ∀ workflowId, ¬ s.Holds (.run workflowId)

/-- The runs that a call has written, as it sees them, are not behind the committed ones. -/
def WrittenForward (s : Session Db DispatchRow DispatchLocation) (db : Db) : Prop :=
  ∀ workflowId, s.Holds (.run workflowId) → ∀ run ∈ db.workflowRun? workflowId,
    ∃ run' ∈ (s.view db).workflowRun? workflowId, run.state.movesBack run'.state = false

/-- What a record call holds of the runs, at each of its locations. -/
def RunInv (call : RecordCall) (s : Session Db DispatchRow DispatchLocation) (db : Db) : Prop :=
  match s.location with
  | .writeRun r => NoRun s ∧
      ∃ input dispatch, call = .duplicate input ∧ r = input.runStatement dispatch
  | .finish => WrittenForward s db
  | _ => NoRun s

section Steps

variable {rt : Runtime} {call : RecordCall} {s : Session Db DispatchRow DispatchLocation}
    {db db' : Db}
  {next : DispatchLocation}

theorem NoRun.idle {location : DispatchLocation} : NoRun ⟨location, []⟩ :=
  fun _ => Session.not_holds_nil

/-- A call that has written no run sees the runs as they are committed. -/
theorem NoRun.view (h : NoRun s) (hkeeps : ∀ w ∈ s.pending, w.KeepsToRow DispatchRow.find)
    (workflowId : String) : (s.view db).workflowRun? workflowId = db.workflowRun? workflowId :=
  view_workflowRun? hkeeps (h workflowId)

/-- A write on a dispatch. -/
theorem NoRun.updateDispatch {location : DispatchLocation} {id : String} {columns : DispatchUpdate}
    (h : NoRun s) : NoRun ⟨location, s.pending ++ [Cdngine.updateDispatch id columns]⟩ := by
  intro workflowId hheld
  rcases Session.holds_append.mp hheld with hheld | hrow
  · exact h workflowId hheld
  · cases hrow

/-- **The write on the run**, by what it makes of the run that it meets. -/
theorem NoRun.writeRun {location : DispatchLocation} {r : RunStatement} (h : NoRun s)
    (hkeeps : ∀ w ∈ s.pending, w.KeepsToRow DispatchRow.find)
    (hresult : ∀ run ∈ db.workflowRun? r.workflowId,
      ∃ run' ∈ r.result (some run), run.state.movesBack run'.state = false) :
    WrittenForward ⟨location, s.pending ++ [r.write]⟩ db := by
  intro workflowId hheld run hrun
  have hkey : workflowId = r.workflowId := by
    rcases Session.holds_append.mp hheld with hheld | hrow
    · exact absurd hheld (h workflowId)
    · exact (DispatchRow.run.inj hrow).symm
  subst hkey
  rw [Session.view_append, workflowRun?_writeRun, if_pos rfl, h.view hkeeps, hrun]
  exact hresult run hrun

/-- What a start makes of the run that it meets. -/
theorem RecordStartedWorkflowDispatchInput.result_state {input : RecordStartedWorkflowDispatchInput}
    {dispatch : WorkflowDispatch} {existingRun : Option WorkflowRun} {run : WorkflowRun}
    (h : ∀ run₀ ∈ existingRun, run.state.movesBack run₀.state = false) :
    ∃ run' ∈ (input.runStatement dispatch existingRun).result (some run),
      run.state.movesBack run'.state = false := by
  cases existingRun with
  | none => exact ⟨run, rfl, WorkflowRunState.movesBack_self _⟩
  | some run₀ =>
      refine ⟨_, rfl, ?_⟩
      have hstate : ((input.updatedRun dispatch run₀).data run).state = run₀.state := by
        simp only [updatedRun]
        split
        · rfl
        · rename_i hqueued
          exact (not_not.mp hqueued).symm
      rw [hstate]
      exact h run₀ rfl

/-- A call that reads. -/
theorem RunInv.query (h : RunInv call s db)
    (hcode : recordCode rt call s.location (s.view db) = .query next) :
    RunInv call ⟨next, s.pending⟩ db := by
  obtain ⟨location, pending⟩ := s
  cases recordCode_cases hcode (by simp) with
  | check hcheck => exact h
  | readDispatch hcall hrow => exact h
  | duplicateRun hcall hrow => exact ⟨h, _, _, hcall, rfl⟩
  | readRun hcall => exact h

/-- A call that writes, when the run that it meets is not ahead. -/
theorem RunInv.write {calls : ι → DispatchCall} {i : ι} {w : Write Db DispatchRow}
    (hcall : calls i = .record call) (hkeeps : ∀ w ∈ s.pending, w.KeepsToRow DispatchRow.find)
    (h : RunInv call s db) (hC : MeetsRun calls i s db)
    (hcode : recordCode rt call s.location (s.view db) = .write w next) :
    RunInv call ⟨next, s.pending ++ [w]⟩ db := by
  obtain ⟨location, pending⟩ := s
  cases recordCode_cases hcode (by simp) with
  | transition hrow => exact NoRun.updateDispatch h
  | failure hfailed hrow =>
      exact fun workflowId hheld => absurd hheld (NoRun.updateDispatch h workflowId)
  | @projectRun input dispatch existingRun _ hstarted happly =>
      refine NoRun.writeRun h hkeeps fun run hrun => ?_
      refine RecordStartedWorkflowDispatchInput.result_state fun run₀ hrun₀ => ?_
      subst hstarted
      obtain rfl := Option.mem_def.mp hrun₀
      unfold MeetsRun at hC
      rw [hcall] at hC
      rw [input.runStatement_workflowId] at hrun
      exact hC run hrun
  | writeRun happly =>
      obtain ⟨hnone, input, dispatch, rfl, rfl⟩ := h
      refine NoRun.writeRun hnone hkeeps fun run hrun => ⟨_, rfl, ?_⟩
      unfold MeetsRun at hC
      rw [hcall] at hC
      exact hC run hrun

/-- What a call has written stays ahead of the runs when the others leave its rows. -/
theorem RunInv.frame (h : RunInv call s db)
    (hkeeps : ∀ w ∈ s.pending, w.KeepsToRow DispatchRow.find)
    (hruns : ∀ {workflowId}, s.Holds (.run workflowId) →
      db'.workflowRun? workflowId = db.workflowRun? workflowId) : RunInv call s db' := by
  obtain ⟨location, pending⟩ := s
  cases location with
  | finish =>
      intro workflowId hheld run hrun
      have hsame := hruns hheld
      rw [view_workflowRun?_congr hkeeps hsame]
      exact h workflowId hheld run (hsame ▸ hrun)
  | _ => exact h

/-- **The commit of a call** moves no run backwards. -/
theorem WrittenForward.commit (h : WrittenForward s db)
    (hkeeps : ∀ w ∈ s.pending, w.KeepsToRow DispatchRow.find) : db.RunsForward (s.view db) := by
  intro workflowId run hrun
  by_cases hheld : s.Holds (.run workflowId)
  · exact h workflowId hheld run hrun
  · refine ⟨run, ?_, WorkflowRunState.movesBack_self _⟩
    rw [view_workflowRun? hkeeps hheld]
    exact hrun

/-- A call that has ended holds nothing. -/
theorem RunInv.ended (h : next = .done ∨ ∃ e, next = .failed e) : RunInv call ⟨next, []⟩ db := by
  rcases h with rfl | ⟨e, rfl⟩ <;> exact NoRun.idle

end Steps

/-! ### The invariant -/

section Invariant

variable {rt : Runtime} {calls : ι → DispatchCall} {i : ι} {db : Db}

/-- The invariant of the dispatches, with what the record calls hold of the runs. -/
structure ProjectionInv (calls : ι → DispatchCall) (i : ι)
    (s : Session Db DispatchRow DispatchLocation) (db : Db) : Prop where
  dispatches : DispatchInv calls i s db
  runs {call : RecordCall} : calls i = .record call → RunInv call s db

theorem ProjectionInv.frame {s : Session Db DispatchRow DispatchLocation} {db' : Db}
    (h : ProjectionInv calls i s db) (hspares : db.SparesHeld s db') :
    ProjectionInv calls i s db' where
  dispatches := h.dispatches.frame hspares
  runs hcall := (h.runs hcall).frame h.dispatches.1.keeps hspares.run

variable (rt calls) in
/-- **What the record calls hold of the runs is kept**, when no projection meets a run that
is ahead of it. -/
theorem projection_invariant [DecidableEq ι] :
    LocalInvariant (dispatchCode rt calls) Db.SameDispatches (MeetsRun calls) (fun _ => True)
      (ProjectionInv calls) where
  query {i s db next} _ h _ hcode := by
    refine ⟨(claims_invariant rt calls).query trivial h.dispatches trivial hcode, fun hcall => ?_⟩
    rw [dispatchCode, hcall] at hcode
    exact (h.runs hcall).query hcode
  write {_ s db w next} _ h hC hcode := by
    refine ⟨(claims_invariant rt calls).write trivial h.dispatches trivial hcode, fun hcall => ?_⟩
    rw [dispatchCode, hcall] at hcode
    exact (h.runs hcall).write hcall h.dispatches.1.keeps hC hcode
  autocommit _ _ _ hcode := absurd hcode dispatchCode_ne_autocommit
  autocommit_frame _ _ _ hcode := absurd hcode dispatchCode_ne_autocommit
  commit {i s db next} _ h _ hcode := by
    refine ⟨trivial, h.dispatches.commit hcode, fun hcall => ?_⟩
    rw [dispatchCode, hcall] at hcode
    exact RunInv.ended (.inl (recordCode_commit hcode).2)
  commit_frame _ h _ _ _ hapart hj := hj.frame (h.dispatches.1.spares hapart)
  rollback {i s db next} _ h _ hcode := by
    refine ⟨(claims_invariant rt calls).rollback trivial h.dispatches trivial hcode,
      fun hcall => ?_⟩
    rw [dispatchCode, hcall] at hcode
    refine RunInv.ended (.inr ?_)
    cases hlocation : s.location <;> rw [hlocation] at hcode <;>
      cases recordCode_cases hcode (by simp) <;> exact ⟨_, rfl⟩
  environment _ _ := trivial
  environment_frame _ henv h := h.frame (henv.spares h.dispatches.1)

/-- The calls before their first statement. -/
theorem dispatchSystem_projectionInv :
    (dispatchSystem db : DispatchSystem ι).Satisfies (fun _ => True) (ProjectionInv calls) where
  exclusive := System.exclusive_of_idle fun _ => rfl
  db := trivial
  own i := ⟨dispatchSystem_claimsInv.satisfies.own i, fun _ => NoRun.idle⟩

variable [DecidableEq ι] {sys sys' : DispatchSystem ι}

/-- **The law of a step**, from the invariant. -/
theorem projects_forward {e : Event ι Db}
    (h : sys.Satisfies (fun _ => True) (ProjectionInv calls))
    (hstep : Step (dispatchCode rt calls) Db.SameDispatches sys e sys') :
    Transition.ProjectsForward calls ⟨sys, e, sys'⟩ := by
  rintro i call hcall rfl
  have hsame : sys.db.RunsForward sys.db := fun workflowId run hrun =>
    ⟨run, hrun, WorkflowRunState.movesBack_self _⟩
  have hown := h.own i
  cases step_cases hstep with
  | commit hcode =>
      rw [dispatchCode, hcall] at hcode
      obtain ⟨hlocation, -⟩ := recordCode_commit hcode
      have hruns := hown.runs hcall
      unfold RunInv at hruns
      rw [hlocation] at hruns
      exact hruns.commit hown.dispatches.1.keeps
  | autocommit hcode hfree => exact absurd hcode dispatchCode_ne_autocommit
  | _ => exact hsame

/-- **No dispatcher record moves a run backwards**, over every interleaving of the calls of
dispatchers and workers in which no projection meets a run that is ahead of it. -/
theorem records_project_forward {tr : List (Transition (DispatchSystem ι) (Event ι Db))}
    (hrun : Run (Step (dispatchCode rt calls) Db.SameDispatches) (dispatchSystem db) tr sys')
    (hC : ∀ τ ∈ tr, Transition.Meets (MeetsRun calls) τ) :
    ∀ τ ∈ tr, Transition.ProjectsForward calls τ := by
  intro τ hτ
  have hall := ((projection_invariant rt calls).holds hrun dispatchSystem_projectionInv hC).2
  exact projects_forward (hall τ hτ).1 (hrun.step_of_mem τ hτ)

end Invariant

/-! ### Projections behind their run -/

/-- The workflow id of the sample dispatch. -/
def sampleWorkflowId : String := sampleDispatch.workflowKey

/-- The worker completes the execution, the dispatcher records a duplicate. -/
def sampleDuplicate : Fin 2 → DispatchCall
  | 0 => .execution (.markCompleted
      { assetVersionId := "version-1", completedAt := 2000, currentPhase := none,
        workflowId := sampleWorkflowId, workflowTemplateId := "asset-derivation-v1" })
  | 1 => .record (.duplicate
      { currentPhase := some "already-running", dispatchId := "dispatch-1",
        expectedVersionToken := 2, observedAt := 3000, workflowId :=
          sampleWorkflowId, workflowRunState := some .running })

/-- A record call of a transition takes the run from one state to another. -/
def takesRun (source target : WorkflowRunState)
    (τ : Transition (DispatchSystem (Fin 2)) (Event (Fin 2) Db)) : Bool :=
  (match τ.action with
    | .session i => decide (i = 1)
    | .environment _ => false) &&
  ((τ.before.db.workflowRun? sampleWorkflowId).any (·.state == source) &&
    (τ.after.db.workflowRun? sampleWorkflowId).any (·.state == target))

theorem takesRun_backwards {calls : Fin 2 → DispatchCall} {call : RecordCall}
    (hcall : calls 1 = .record call) {source target : WorkflowRunState}
    (hback : source.movesBack target = true)
    {τ : Transition (DispatchSystem (Fin 2)) (Event (Fin 2) Db)}
    (h : takesRun source target τ = true) :
    ¬ Transition.ProjectsForward calls τ := by
  intro hlaw
  simp only [takesRun, Bool.and_eq_true, Option.any_eq_true, beq_iff_eq] at h
  obtain ⟨hsession, ⟨run, hrun, hsource⟩, run', hrun', htarget⟩ := h
  split at hsession
  · rename_i i haction
    obtain rfl := of_decide_eq_true hsession
    obtain ⟨run'', hrun'', hforward⟩ := hlaw 1 call hcall haction _ run hrun
    obtain rfl := Option.some.inj (hrun''.symm.trans hrun')
    rw [hsource, htarget, hback] at hforward
    cases hforward
  · cases hsession

/-- **A duplicate reopens a completed run**: the workflow has ended before the dispatcher
records that it was already there. -/
theorem duplicate_reopens_completed :
    ∃ tr sys', Run (Step (dispatchCode sampleRuntime sampleDuplicate) Db.SameDispatches)
        (dispatchSystem sampleStarting) tr sys' ∧
      (∃ τ ∈ tr, takesRun .completed .running τ = true) ∧
      ¬ ∀ τ ∈ tr, Transition.ProjectsForward sampleDuplicate τ := by
  obtain ⟨tr, sys', hrun, τ, hτ, hback⟩ := exists_run_of_schedule
    (dispatchCode sampleRuntime sampleDuplicate) Db.SameDispatches (dispatchSystem sampleStarting)
    [0, 0, 0, 0, 1, 1, 1, 1, 1] (fun tr _ => ∃ τ ∈ tr, takesRun .completed .running τ = true)
    (by decide +kernel)
  exact ⟨tr, sys', hrun, ⟨τ, hτ, hback⟩, fun hlaw =>
    takesRun_backwards rfl rfl hback (hlaw τ hτ)⟩

/-- The registry of a dispatch that is started again: its run is queued. -/
def sampleQueued : Db where
  workflowDispatches := sampleStarting.workflowDispatches
  workflowRuns :=
    ⟨[{ assetVersionId := "version-1", workflowDispatchId := some "dispatch-1",
        workflowId := sampleWorkflowId, workflowTemplateId := "asset-derivation-v1",
        state := .queued, currentPhase := some "accepted", startedAt := some 1000,
        updatedAt := 1000 }], by decide⟩

/-- The worker marks the execution as running, the dispatcher records the start. -/
def sampleStart : Fin 2 → DispatchCall
  | 0 => .execution (.markRunning
      { assetVersionId := "version-1", observedAt := 2000, workflowId := sampleWorkflowId,
        workflowTemplateId := "asset-derivation-v1" })
  | 1 => .record (.started
      { currentPhase := some "accepted", dispatchId := "dispatch-1", expectedVersionToken := 2,
        startedAt := 3000, workflowId := sampleWorkflowId })

/-- **A stale start requeues a running run**: the worker marks it as running between the
read and the write of the start. -/
theorem stale_start_requeues_running :
    ∃ tr sys', Run (Step (dispatchCode sampleRuntime sampleStart) Db.SameDispatches)
        (dispatchSystem sampleQueued) tr sys' ∧
      (∃ τ ∈ tr, takesRun .running .queued τ = true) ∧
      ¬ ∀ τ ∈ tr, Transition.ProjectsForward sampleStart τ := by
  obtain ⟨tr, sys', hrun, τ, hτ, hback⟩ := exists_run_of_schedule
    (dispatchCode sampleRuntime sampleStart) Db.SameDispatches (dispatchSystem sampleQueued)
    [1, 1, 1, 1, 0, 0, 0, 0, 1, 1] (fun tr _ => ∃ τ ∈ tr, takesRun .running .queued τ = true)
    (by decide +kernel)
  exact ⟨tr, sys', hrun, ⟨τ, hτ, hback⟩, fun hlaw =>
    takesRun_backwards rfl rfl hback (hlaw τ hτ)⟩

instance (calls : ι → DispatchCall) (i : ι) (s : Session Db DispatchRow DispatchLocation)
    (db : Db) :
    Decidable (MeetsRun calls i s db) := by
  unfold MeetsRun
  split <;> infer_instance

/-- A start that meets the run in the state that it has read. -/
theorem start_projects_forward :
    ∃ tr sys', Run (Step (dispatchCode sampleRuntime sampleStart) Db.SameDispatches)
        (dispatchSystem sampleQueued) tr sys' ∧
      (sys'.db.workflowRun? sampleWorkflowId).any (·.state == .running) = true ∧
      ∀ τ ∈ tr, Transition.ProjectsForward sampleStart τ := by
  obtain ⟨tr, sys', hrun, hrunning, hC⟩ := exists_run_of_schedule
    (dispatchCode sampleRuntime sampleStart) Db.SameDispatches (dispatchSystem sampleQueued)
    [0, 0, 0, 0, 1, 1, 1, 1, 1, 1]
    (fun tr sys' => (sys'.db.workflowRun? sampleWorkflowId).any (·.state == .running) = true ∧
      ∀ τ ∈ tr, Transition.Meets (MeetsRun sampleStart) τ)
    (by decide +kernel)
  exact ⟨tr, sys', hrun, hrunning, records_project_forward hrun hC⟩

end Cdngine
