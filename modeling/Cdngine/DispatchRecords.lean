import Cdngine.DispatchClaims

/-!
# Record Calls with One Version Token

Any number of record calls for one dispatch that expect the same version token. A record
call compares the token and the state of the dispatch when it reads it, and then updates the
dispatch by its id alone: two calls that have both read the dispatch before either of them
updates it both commit, the second over the first.

As long as every update finds the dispatch as the check wants it, the calls are a
compare-and-swap: at most one commits, and the others are rejected.

## Main results

* `RecordInv`: what holds of a record call at each of its locations.
* `records_commit_once`: the law of the calls, in every run whose updates find the dispatch
  as it was checked.
* `stale_record_overwrites`: without that it fails.
-/

open Relational Runs ReadCommitted

namespace Cdngine

variable {ι : Type}

/-- The code of sessions that each make one record call. -/
abbrev recordsCode (rt : Runtime) (records : ι → RecordCall) (i : ι) :
    DispatchLocation → Db → Action Db DispatchRow DispatchLocation :=
  dispatchCode rt (fun i => .record (records i)) i

/-- The calls are for one dispatch and expect one version token. -/
structure SameToken (records : ι → RecordCall) (id : String) (token : Int) : Prop where
  dispatchId : ∀ i, (records i).dispatchId = id
  token : ∀ i, (records i).expectedVersionToken = token

/-- **The update of a call finds the dispatch as it was checked**: the check still passes. -/
def UpdatesChecked (records : ι → RecordCall) (i : ι)
    (s : Session Db DispatchRow DispatchLocation) (db : Db) : Prop :=
  match s.location with
  | .transition => (records i).check (db.workflowDispatch? (records i).dispatchId) = .ok ()
  | _ => True

/-- A rejection by the check of a dispatch that is there. -/
inductive RecordCall.Rejected (call : RecordCall) : RegistryError → Prop
  | versionConflict :
      call.Rejected (.workflowDispatchVersionConflict call.dispatchId call.expectedVersionToken)
  | stateTransition (state : WorkflowDispatchState) :
      call.Rejected (.workflowDispatchStateTransition call.dispatchId state.text
        call.targetState.text)

theorem RecordCall.check_eq_ok {call : RecordCall} {row : WorkflowDispatch}
    (h : call.check (some row) = .ok ()) :
    row.versionToken = call.expectedVersionToken ∧ row.dispatchState = .starting := by
  simp only [RecordCall.check] at h
  split at h
  · cases h
  · rename_i htoken
    split at h
    · cases h
    · rename_i hstate
      exact ⟨not_not.mp htoken, not_not.mp hstate⟩

theorem RecordCall.check_eq_error {call : RecordCall} {row : WorkflowDispatch} {e : RegistryError}
    (h : call.check (some row) = .error e) : call.Rejected e := by
  simp only [RecordCall.check] at h
  split at h
  · obtain rfl := Except.error.inj h
    exact .versionConflict
  · split at h
    · obtain rfl := Except.error.inj h
      exact .stateTransition _
    · cases h

/-! ### What holds of a record call -/

/-- A dispatch as the check wants it. -/
def WorkflowDispatch.Expected (row : WorkflowDispatch) (token : Int) : Prop :=
  row.versionToken = token ∧ row.dispatchState = .starting

/-- A dispatch after the update of a call. -/
def WorkflowDispatch.Recorded (row : WorkflowDispatch) (call : RecordCall) (token : Int) : Prop :=
  row.versionToken = token + 1 ∧ row.dispatchState = call.targetState

/-- A call that has updated its dispatch: the dispatch is locked, committed as it was
checked, and moved in what the call sees. -/
structure Updated (call : RecordCall) (id : String) (token : Int)
    (s : Session Db DispatchRow DispatchLocation) (db : Db) : Prop where
  keeps : ∀ w ∈ s.pending, w.KeepsToRow DispatchRow.find
  holds : s.Holds (.dispatch id)
  rows : ∃ row row', db.workflowDispatch? id = some row ∧ row.Expected token ∧
    (s.view db).workflowDispatch? id = some row' ∧ row'.Recorded call token

/-- What holds of a record call at each of its locations. -/
def RecordInv (call : RecordCall) (id : String) (token : Int)
    (s : Session Db DispatchRow DispatchLocation) (db : Db) : Prop :=
  match s.location with
  | .start | .transition => s.pending = []
  | .mutate | .readRun _ | .finish => Updated call id token s db
  | .projectRun _ existingRun => Updated call id token s db ∧
      ∀ input, call = .started input → existingRun = (s.view db).workflowRun? input.workflowId
  | .writeRun r => Updated call id token s db ∧ r.Applies ((s.view db).workflowRun? r.workflowId)
  | .done => s.pending = [] ∧ ∃ row, db.workflowDispatch? id = some row ∧ row.Recorded call token
  | .failed e => s.pending = [] ∧ call.Rejected e
  | _ => False

section Steps

variable {rt : Runtime} {call : RecordCall} {id : String} {token : Int}
  {s s' : Session Db DispatchRow DispatchLocation} {db db' : Db} {next : DispatchLocation}

theorem Updated.relocate {location : DispatchLocation} (h : Updated call id token s db) :
    Updated call id token ⟨location, s.pending⟩ db :=
  ⟨h.keeps, h.holds, h.rows⟩

/-- A further write of the call that leaves the token and the state of the dispatch. -/
theorem Updated.write {location : DispatchLocation} {w : Write Db DispatchRow}
    (h : Updated call id token s db) (hw : w.KeepsToRow DispatchRow.find)
    (hrow : ∀ row', (s.view db).workflowDispatch? id = some row' → ∃ row'',
      (w.effect (s.view db)).workflowDispatch? id = some row'' ∧
      row''.versionToken = row'.versionToken ∧ row''.dispatchState = row'.dispatchState) :
    Updated call id token ⟨location, s.pending ++ [w]⟩ db where
  keeps x hx := by
    rcases List.mem_append.mp hx with hx | hx
    · exact h.keeps x hx
    · obtain rfl := List.mem_singleton.mp hx
      exact hw
  holds := Session.holds_append.mpr (.inl h.holds)
  rows := by
    obtain ⟨row, row', hcommitted, hexpected, hview, htoken, hstate⟩ := h.rows
    obtain ⟨row'', hview', htoken', hstate'⟩ := hrow row' hview
    refine ⟨row, row'', hcommitted, hexpected, ?_, htoken'.trans htoken, hstate'.trans hstate⟩
    rw [Session.view_append]
    exact hview'

/-- What a call has updated stays as it is when the others leave its rows. -/
theorem Updated.frame (h : Updated call id token s db)
    (hdispatch : db'.workflowDispatch? id = db.workflowDispatch? id) :
    Updated call id token s db' where
  keeps := h.keeps
  holds := h.holds
  rows := by
    obtain ⟨row, row', hcommitted, hexpected, hview, hrecorded⟩ := h.rows
    exact ⟨row, row', hdispatch.trans hcommitted, hexpected,
      (view_workflowDispatch?_congr h.keeps hdispatch).trans hview, hrecorded⟩

/-- **The update of a call**, on a dispatch that is as it was checked. -/
theorem Updated.transition {location : DispatchLocation} {row : WorkflowDispatch}
    (hid : call.dispatchId = id) (hidle : s.pending = [])
    (hrow : db.workflowDispatch? id = some row) (hexpected : row.Expected token) :
    Updated call id token
      ⟨location, s.pending ++ [updateDispatch call.dispatchId call.transition]⟩ db where
  keeps w hw := by
    rw [hidle] at hw
    obtain rfl := List.mem_singleton.mp hw
    exact updateDispatch_keepsToRow _ _
  holds := Session.holds_append.mpr (.inr (congrArg DispatchRow.dispatch hid))
  rows := by
    refine ⟨row, call.transition.data row, hrow, hexpected, ?_, ?_, rfl⟩
    · rw [Session.view_append, workflowDispatch?_updateDispatch, Session.view_of_idle hidle,
        hrow, hid]
      simp only [Option.map_some, if_true]
    · show row.versionToken + 1 = token + 1
      rw [hexpected.1]

/-- What `recordStarted` writes on the run applies to the run that it has read. -/
theorem RecordStartedWorkflowDispatchInput.runStatement_applies
    (input : RecordStartedWorkflowDispatchInput) (dispatch : WorkflowDispatch)
    (run : Option WorkflowRun) : (input.runStatement dispatch run).Applies run := by
  cases run <;> rfl

theorem RecordStartedWorkflowDispatchInput.runStatement_workflowId
    (input : RecordStartedWorkflowDispatchInput) (dispatch : WorkflowDispatch)
    (run : Option WorkflowRun) :
    (input.runStatement dispatch run).workflowId = input.workflowId := by
  cases run <;> rfl

/-- A call that reads. -/
theorem RecordInv.query (h : RecordInv call id token s db)
    (hcode : recordCode rt call s.location (s.view db) = .query next) :
    RecordInv call id token ⟨next, s.pending⟩ db := by
  obtain ⟨location, pending⟩ := s
  cases recordCode_cases hcode (by simp) with
  | check hcheck => exact h
  | readDispatch hcall hrow => exact h.relocate
  | duplicateRun hcall hrow => exact ⟨h.relocate, trivial⟩
  | readRun hcall =>
      refine ⟨h.relocate, fun input hstarted => ?_⟩
      obtain rfl := RecordCall.started.inj (hcall.symm.trans hstarted)
      rfl

/-- A call that writes. -/
theorem RecordInv.write {w : Write Db DispatchRow} (hid : call.dispatchId = id)
    (htoken : call.expectedVersionToken = token) (h : RecordInv call id token s db)
    (hC : s.location = .transition → call.check (db.workflowDispatch? call.dispatchId) = .ok ())
    (hcode : recordCode rt call s.location (s.view db) = .write w next) :
    RecordInv call id token ⟨next, s.pending ++ [w]⟩ db := by
  obtain ⟨location, pending⟩ := s
  cases recordCode_cases hcode (by simp) with
  | @transition row hrow =>
      have hidle : pending = [] := h
      rw [Session.view_of_idle hidle] at hrow
      have hcheck := hC rfl
      rw [hrow] at hcheck
      obtain ⟨hversion, hstate⟩ := RecordCall.check_eq_ok hcheck
      exact Updated.transition hid hidle (hid ▸ hrow) ⟨hversion.trans htoken, hstate⟩
  | @failure input _ hcall hrow =>
      refine Updated.write h (updateDispatch_keepsToRow _ _) fun row' hrow' =>
        ⟨(input.failure rt).data row', ?_, rfl, rfl⟩
      rw [workflowDispatch?_updateDispatch, hrow', hid]
      simp only [Option.map_some, if_true]
  | projectRun hcall happly =>
      refine h.1.write (RunStatement.write_keepsToRow _) fun row' hrow' => ⟨row', ?_, rfl, rfl⟩
      rw [workflowDispatch?_writeRun]
      exact hrow'
  | writeRun happly =>
      refine h.1.write (RunStatement.write_keepsToRow _) fun row' hrow' => ⟨row', ?_, rfl, rfl⟩
      rw [workflowDispatch?_writeRun]
      exact hrow'

/-- A call rolls back only where the check rejects it. -/
theorem RecordInv.rollback (hid : call.dispatchId = id) {row : WorkflowDispatch}
    (hrow : db.workflowDispatch? id = some row) (h : RecordInv call id token s db)
    (hcode : recordCode rt call s.location (s.view db) = .rollback next) :
    RecordInv call id token ⟨next, []⟩ db := by
  obtain ⟨location, pending⟩ := s
  cases recordCode_cases hcode (by simp) with
  | reject hcheck =>
      have hidle : pending = [] := h
      rw [Session.view_of_idle hidle, hid, hrow] at hcheck
      exact ⟨rfl, RecordCall.check_eq_error hcheck⟩
  | missing hlocation hnone =>
      rcases hlocation with rfl | rfl
      · have hidle : pending = [] := h
        rw [Session.view_of_idle hidle, hid, hrow] at hnone
        cases hnone
      · obtain ⟨-, row', -, -, hview, -⟩ := Updated.rows h
        rw [hid, hview] at hnone
        cases hnone
  | @projectRunFails input dispatch existingRun e hcall happly =>
      have hrun : existingRun = (applyAll pending db).workflowRun? input.workflowId :=
        h.2 input hcall
      have happlies : (input.runStatement dispatch existingRun).Applies
          ((applyAll pending db).workflowRun?
            (input.runStatement dispatch existingRun).workflowId) := by
        rw [input.runStatement_workflowId, ← hrun]
        exact input.runStatement_applies dispatch existingRun
      obtain ⟨db', hok⟩ := RunStatement.apply_ok happlies
      cases hok.symm.trans happly
  | writeRunFails happly =>
      obtain ⟨db', hok⟩ := RunStatement.apply_ok h.2
      rw [hok] at happly
      cases happly

/-- Where a call commits. -/
theorem recordCode_commit {location : DispatchLocation}
    (hcode : recordCode rt call location db = .commit next) :
    location = .finish ∧ next = .done := by
  cases recordCode_cases hcode (by simp) with
  | commit => exact ⟨rfl, rfl⟩

end Steps

/-! ### The invariant -/

section Invariant

variable {rt : Runtime} {records : ι → RecordCall} {id : String} {token : Int}

/-- The dispatch is there. -/
def Db.HasDispatch (id : String) (db : Db) : Prop := ∃ row, db.workflowDispatch? id = some row

variable (rt) in
/-- **What holds of the calls is kept**, when every update finds the dispatch as it was
checked: a call that has updated the dispatch excludes the others until it commits, and then
its token is taken. -/
theorem records_invariant [DecidableEq ι] (hsame : SameToken records id token) :
    LocalInvariant (recordsCode rt records) Db.SameDispatches (UpdatesChecked records)
      (Db.HasDispatch id) (fun i => RecordInv (records i) id token) where
  query _ h _ hcode := h.query hcode
  write {i s db w next} _ h hC hcode := by
    refine h.write (hsame.dispatchId i) (hsame.token i) (fun hlocation => ?_) hcode
    unfold UpdatesChecked at hC
    rw [hlocation] at hC
    exact hC
  autocommit _ _ _ hcode := absurd hcode dispatchCode_ne_autocommit
  autocommit_frame _ _ _ hcode := absurd hcode dispatchCode_ne_autocommit
  commit {i s db next} _ h _ hcode := by
    obtain ⟨hlocation, rfl⟩ := recordCode_commit hcode
    unfold RecordInv at h
    rw [hlocation] at h
    obtain ⟨row, row', -, -, hview, hrecorded⟩ := h.rows
    exact ⟨⟨row', hview⟩, rfl, row', hview, hrecorded⟩
  commit_frame {i j s s' db next} _ h _ hcode hji hapart hj := by
    obtain ⟨hlocation, -⟩ := recordCode_commit hcode
    unfold RecordInv at h
    rw [hlocation] at h
    -- A call that has updated the dispatch would hold it, too.
    have hexcluded : ∀ {call}, ¬ Updated call id token s' db := fun hupdated =>
      hapart _ h.holds hupdated.holds
    obtain ⟨location, pending⟩ := s'
    cases location with
    | start | transition | failed => exact hj
    | mutate | readRun | finish => exact absurd hj hexcluded
    | projectRun | writeRun => exact absurd hj.1 hexcluded
    | done =>
        -- The token of the dispatch would be taken already.
        obtain ⟨row, -, hrow, hexpected, -, -⟩ := h.rows
        obtain ⟨-, row₁, hrow₁, hrecorded⟩ := hj
        obtain rfl := Option.some.inj (hrow.symm.trans hrow₁)
        have htoken := hexpected.1.symm.trans hrecorded.1
        omega
    | _ => exact hj.elim
  rollback {i s db next} hdispatch h _ hcode := by
    obtain ⟨row, hrow⟩ := hdispatch
    exact h.rollback (hsame.dispatchId i) hrow hcode
  environment hdispatch henv := by
    obtain ⟨row, hrow⟩ := hdispatch
    exact ⟨row, henv.dispatch hrow⟩
  environment_frame {i s db db'} hdispatch henv h := by
    obtain ⟨row, hrow⟩ := hdispatch
    have hsame : db'.workflowDispatch? id = db.workflowDispatch? id :=
      (henv.dispatch hrow).trans hrow.symm
    obtain ⟨location, pending⟩ := s
    cases location with
    | start | transition | failed => exact h
    | mutate | readRun | finish => exact Updated.frame h hsame
    | projectRun dispatch existingRun =>
        refine ⟨h.1.frame hsame, fun input hcall => ?_⟩
        rw [view_workflowRun?_congr h.1.keeps (henv.run input.workflowId)]
        exact h.2 input hcall
    | writeRun r =>
        refine ⟨h.1.frame hsame, ?_⟩
        rw [view_workflowRun?_congr h.1.keeps (henv.run r.workflowId)]
        exact h.2
    | done =>
        obtain ⟨hidle, row, hrow, hrecorded⟩ := h
        exact ⟨hidle, row, hsame.trans hrow, hrecorded⟩
    | _ => exact h.elim

end Invariant

/-! ### The law of the calls -/

/-- **The law of record calls with one token**, in one state: at most one commits, and until
then the dispatch and the runs are as they were; the outcome that it commits stays, with the
token higher by one; the others are rejected by the check. -/
structure RecordedOnce (records : ι → RecordCall) (id : String) (token : Int) (db₀ : Db)
    (sys : DispatchSystem ι) : Prop where
  one_commit {i j : ι} :
    (sys.session i).location = .done → (sys.session j).location = .done → i = j
  untouched : (∀ i, (sys.session i).location ≠ .done) →
    sys.db.workflowDispatch? id = db₀.workflowDispatch? id ∧
      ∀ workflowId, sys.db.workflowRun? workflowId = db₀.workflowRun? workflowId
  recorded {i : ι} : (sys.session i).location = .done →
    (∃ row, db₀.workflowDispatch? id = some row ∧ row.Expected token) ∧
    ∃ row, sys.db.workflowDispatch? id = some row ∧ row.Recorded (records i) token
  rejected {i : ι} {e : RegistryError} :
    (sys.session i).location = .failed e → (records i).Rejected e

/-- **The law of a step**: a call changes the dispatch and the runs by its commit only, and
a committed outcome is not overwritten. -/
structure Transition.CommitsOnly (id : String) (τ : Transition (DispatchSystem ι) (Event ι Db)) :
    Prop where
  uncommitted {i : ι} : τ.action = .session i → (τ.after.session i).location ≠ .done →
    τ.after.db = τ.before.db
  settled {i : ι} : (τ.before.session i).location = .done →
    τ.after.db.workflowDispatch? id = τ.before.db.workflowDispatch? id ∧
      ∀ workflowId, τ.after.db.workflowRun? workflowId = τ.before.db.workflowRun? workflowId

/-- The invariant of the calls, with the law. -/
structure RecordsInv (records : ι → RecordCall) (id : String) (token : Int) (db₀ : Db)
    (sys : DispatchSystem ι) : Prop where
  satisfies : sys.Satisfies (Db.HasDispatch id) fun i => RecordInv (records i) id token
  one_commit {i j : ι} :
    (sys.session i).location = .done → (sys.session j).location = .done → i = j
  untouched : (∀ i, (sys.session i).location ≠ .done) →
    sys.db.workflowDispatch? id = db₀.workflowDispatch? id ∧
      ∀ workflowId, sys.db.workflowRun? workflowId = db₀.workflowRun? workflowId
  expected {i : ι} : (sys.session i).location = .done →
    ∃ row, db₀.workflowDispatch? id = some row ∧ row.Expected token

section Law

variable {rt : Runtime} {records : ι → RecordCall} {id : String} {token : Int} {db₀ db : Db}
    {i j : ι}

/-- Only a commit ends a call with its outcome. -/
theorem recordsCode_done {location : DispatchLocation}
    (h : (recordsCode rt records i location db).next? = some .done) :
    recordsCode rt records i location db = .commit .done := by
  cases hcode : recordCode rt (records i) location db with
  | halt =>
      rw [show recordsCode rt records i location db = _ from hcode] at h
      cases h
  | commit next =>
      obtain ⟨-, rfl⟩ := recordCode_commit hcode
      exact hcode
  | _ =>
      rw [show recordsCode rt records i location db = _ from hcode] at h
      obtain rfl := Option.some.inj h
      cases recordCode_cases hcode (by simp)

variable [DecidableEq ι] {sys sys' : DispatchSystem ι}

omit [DecidableEq ι] in
/-- A call that is about to commit excludes that another one has committed. -/
theorem RecordsInv.not_done (h : RecordsInv records id token db₀ sys)
    (hlocation : (sys.session i).location = .finish) : (sys.session j).location ≠ .done := by
  intro hj
  have hi := h.satisfies.own i
  have hdone := h.satisfies.own j
  unfold RecordInv at hi hdone
  rw [hlocation] at hi
  rw [hj] at hdone
  obtain ⟨row, -, hrow, hexpected, -, -⟩ := hi.rows
  obtain ⟨-, row₁, hrow₁, hrecorded⟩ := hdone
  obtain rfl := Option.some.inj (hrow.symm.trans hrow₁)
  have htoken := hexpected.1.symm.trans hrecorded.1
  omega

/-- A step that does not commit a call keeps the invariant. -/
theorem RecordsInv.set {s : Session Db DispatchRow DispatchLocation}
    (h : RecordsInv records id token db₀ sys)
    (hsatisfies : (sys.set i sys.db s).Satisfies (Db.HasDispatch id)
      fun i => RecordInv (records i) id token)
    (hbefore : (sys.session i).location ≠ .done) (hafter : s.location ≠ .done) :
    RecordsInv records id token db₀ (sys.set i sys.db s) := by
  have hdone : ∀ j, ((sys.set i sys.db s).session j).location = .done ↔
      (sys.session j).location = .done := by
    intro j
    by_cases hji : j = i
    · subst hji
      rw [System.set_session_self]
      exact ⟨fun h => absurd h hafter, fun h => absurd h hbefore⟩
    · rw [System.set_session_of_ne hji]
  refine ⟨hsatisfies, fun hi hj => ?_, fun hnone => ?_, fun hi => ?_⟩
  · exact h.one_commit ((hdone _).mp hi) ((hdone _).mp hj)
  · exact h.untouched fun j hj => hnone j ((hdone j).mpr hj)
  · exact h.expected ((hdone _).mp hi)

/-- The commit of a call keeps the invariant: no other call has committed. -/
theorem RecordsInv.commit (h : RecordsInv records id token db₀ sys)
    (hsatisfies : (sys.set i db ⟨.done, []⟩).Satisfies (Db.HasDispatch id)
      fun i => RecordInv (records i) id token)
    (hlocation : (sys.session i).location = .finish) :
    RecordsInv records id token db₀ (sys.set i db ⟨.done, []⟩) := by
  have hdone : ∀ j, ((sys.set i db ⟨.done, []⟩).session j).location = .done → j = i := by
    intro j hj
    by_contra hji
    rw [System.set_session_of_ne hji] at hj
    exact h.not_done hlocation hj
  refine ⟨hsatisfies, fun hj hk => (hdone _ hj).trans (hdone _ hk).symm, fun hnone => ?_,
    fun hj => ?_⟩
  · exact absurd (by rw [System.set_session_self]) (hnone i)
  · have hi := h.satisfies.own i
    unfold RecordInv at hi
    rw [hlocation] at hi
    obtain ⟨row, -, hrow, hexpected, -, -⟩ := hi.rows
    exact ⟨row, (h.untouched fun j => h.not_done hlocation).1.symm.trans hrow, hexpected⟩

/-- **One step keeps the invariant**, and the law of a step. -/
theorem RecordsInv.step {e : Event ι Db} (hsame : SameToken records id token)
    (h : RecordsInv records id token db₀ sys)
    (hstep : Step (recordsCode rt records) Db.SameDispatches sys e sys')
    (hC : Transition.Meets (UpdatesChecked records) ⟨sys, e, sys'⟩) :
    RecordsInv records id token db₀ sys' ∧ Transition.CommitsOnly id ⟨sys, e, sys'⟩ := by
  have hsatisfies := (records_invariant rt hsame).step h.satisfies hstep hC
  cases e with
  | environment db =>
      cases hstep with
      | environment henv =>
          obtain ⟨row, hrow⟩ := h.satisfies.db
          have hdispatch : db.workflowDispatch? id = sys.db.workflowDispatch? id :=
            (henv.dispatch hrow).trans hrow.symm
          refine ⟨⟨hsatisfies, h.one_commit, fun hnone => ?_, h.expected⟩, nofun, fun _ => ?_⟩
          · obtain ⟨hsame, hruns⟩ := h.untouched hnone
            exact ⟨hdispatch.trans hsame, fun workflowId => (henv.run _).trans (hruns _)⟩
          · exact ⟨hdispatch, fun workflowId => henv.run _⟩
  | session i =>
      have hactive : ∀ {action : Action Db DispatchRow DispatchLocation},
          recordsCode rt records i (sys.session i).location ((sys.session i).view sys.db) = action →
          action ≠ .halt → (sys.session i).location ≠ .done := by
        intro action hcode hhalt hlocation
        rw [hlocation] at hcode
        exact hhalt hcode.symm
      have hnext : ∀ {action : Action Db DispatchRow DispatchLocation} {next},
          recordsCode rt records i (sys.session i).location ((sys.session i).view sys.db) = action →
          action.next? = some next → (∀ next', action ≠ .commit next') → next ≠ .done := by
        intro action next hcode haction hcommit hdone
        subst hdone
        exact hcommit _ (hcode.symm.trans (recordsCode_done (hcode ▸ haction)))
      have hunchanged : ∀ {s : Session Db DispatchRow DispatchLocation},
          Transition.CommitsOnly id ⟨sys, .session i, sys.set i sys.db s⟩ :=
        ⟨fun _ _ => rfl, fun _ => ⟨rfl, fun _ => rfl⟩⟩
      cases step_cases hstep with
      | query hcode =>
          exact ⟨h.set hsatisfies (hactive hcode (by simp)) (hnext hcode rfl (by simp)), hunchanged⟩
      | write hcode hfree =>
          exact ⟨h.set hsatisfies (hactive hcode (by simp)) (hnext hcode rfl (by simp)), hunchanged⟩
      | autocommit hcode hfree => exact absurd hcode dispatchCode_ne_autocommit
      | rollback hcode =>
          exact ⟨h.set hsatisfies (hactive hcode (by simp)) (hnext hcode rfl (by simp)), hunchanged⟩
      | commit hcode =>
          obtain ⟨hlocation, rfl⟩ := recordCode_commit hcode
          refine ⟨h.commit hsatisfies hlocation, ?_, fun hdone => ?_⟩
          · rintro _ ⟨⟩ hne
            exact absurd (by rw [System.set_session_self]) hne
          · exact absurd hdone (h.not_done hlocation)

omit [DecidableEq ι] in
/-- The invariant entails the law. -/
theorem RecordsInv.recordedOnce (h : RecordsInv records id token db₀ sys) :
    RecordedOnce records id token db₀ sys where
  one_commit := h.one_commit
  untouched := h.untouched
  recorded {i} hi := by
    refine ⟨h.expected hi, ?_⟩
    have hown := h.satisfies.own i
    unfold RecordInv at hown
    rw [hi] at hown
    exact hown.2
  rejected {i e} hi := by
    have hown := h.satisfies.own i
    unfold RecordInv at hown
    rw [hi] at hown
    exact hown.2

/-- **Record calls with one version token are a compare-and-swap** in every run whose
updates find the dispatch as it was checked. -/
theorem records_commit_once {tr : List (Transition (DispatchSystem ι) (Event ι Db))}
    (hsame : SameToken records id token) (hdispatch : db₀.HasDispatch id)
    (hrun : Run (Step (recordsCode rt records) Db.SameDispatches) (dispatchSystem db₀) tr sys')
    (hC : ∀ τ ∈ tr, Transition.Meets (UpdatesChecked records) τ) :
    RecordedOnce records id token db₀ sys' ∧
      ∀ τ ∈ tr, RecordedOnce records id token db₀ τ.after ∧ Transition.CommitsOnly id τ := by
  have hstart : RecordsInv records id token db₀ (dispatchSystem db₀) := by
    refine ⟨⟨System.exclusive_of_idle fun i => rfl, hdispatch, fun i => rfl⟩, ?_, ?_, ?_⟩
    · intro i j hi
      cases hi
    · exact fun _ => ⟨rfl, fun _ => rfl⟩
    · intro i hi
      cases hi
  obtain ⟨hend, hall⟩ := hrun.forall_invariant_where
    (fun h hstep hC => (RecordsInv.step hsame h hstep hC).1) hstart hC
  refine ⟨hend.recordedOnce, fun τ hτ => ⟨(hall τ hτ).2.recordedOnce, ?_⟩⟩
  exact ((hall τ hτ).1.step hsame (hrun.step_of_mem τ hτ) (hC τ hτ)).2

end Law

/-! ### Two calls with one token -/

/-- A registry with one dispatch that has been claimed. -/
def sampleStarting : Db where
  workflowDispatches :=
    ⟨[{ sampleDispatch with dispatchState := .starting, versionToken := 2 }], by decide⟩

/-- A start and a failure, recorded with the token of one claim. -/
def sampleRecords : Fin 2 → RecordCall
  | 0 =>
      .started ⟨some "queued", "dispatch-1", 2, 1000, "media:asset-1:version-1:asset-derivation-v1"⟩
  | 1 => .failedRetryable
      { dispatchId := "dispatch-1", expectedVersionToken := 2, failedAt := 2000,
        failureClass := "Error" }

theorem sampleRecords_sameToken : SameToken sampleRecords "dispatch-1" 2 :=
  ⟨by decide, by decide⟩

instance {s : Session Db DispatchRow DispatchLocation} : Decidable (s.location = .done) :=
  match s.location with
  | .done => isTrue rfl
  | .start | .claimNext .. | .readClaimed .. | .transition | .mutate | .readRun _
  | .projectRun .. | .writeRun _ | .audit | .finish | .claimed _ | .failed _ => isFalse nofun

/-- **Both calls commit**: both read the dispatch before either of them updates it, and the
failure overwrites the start that has been recorded. -/
theorem stale_record_overwrites :
    ∃ tr sys', Run (Step (recordsCode sampleRuntime sampleRecords) Db.SameDispatches)
        (dispatchSystem sampleStarting) tr sys' ∧
      ((sys'.session 0).location = .done ∧ (sys'.session 1).location = .done) ∧
      (∃ row ∈ sys'.db.workflowDispatch? "dispatch-1", row.versionToken = 4 ∧
        row.dispatchState = .failedRetryable) ∧
      ¬ RecordedOnce sampleRecords "dispatch-1" 2 sampleStarting sys' := by
  obtain ⟨tr, sys', hrun, hdone, hrow⟩ := exists_run_of_schedule
    (recordsCode sampleRuntime sampleRecords) Db.SameDispatches (dispatchSystem sampleStarting)
    [0, 1, 0, 0, 0, 0, 0, 1, 1, 1]
    (fun _ sys' =>
      ((sys'.session 0).location = .done ∧ (sys'.session 1).location = .done) ∧
        ∃ row ∈ sys'.db.workflowDispatch? "dispatch-1", row.versionToken = 4 ∧
          row.dispatchState = .failedRetryable)
    (by decide +kernel)
  refine ⟨tr, sys', hrun, hdone, hrow, fun hlaw => ?_⟩
  cases hlaw.one_commit hdone.1 hdone.2

instance (records : ι → RecordCall) (i : ι) (s : Session Db DispatchRow DispatchLocation)
    (db : Db) : Decidable (UpdatesChecked records i s db) :=
  match s with
  | ⟨.transition, _⟩ => inferInstanceAs (Decidable ((records i).check _ = .ok ()))
  | ⟨.start, _⟩ | ⟨.claimNext .., _⟩ | ⟨.readClaimed .., _⟩ | ⟨.mutate, _⟩ | ⟨.readRun _, _⟩
  | ⟨.projectRun .., _⟩ | ⟨.writeRun _, _⟩ | ⟨.audit, _⟩ | ⟨.finish, _⟩ | ⟨.claimed _, _⟩ |
      ⟨.done, _⟩
  | ⟨.failed _, _⟩ => isTrue trivial

/-- One after the other, the second call is rejected. -/
theorem records_in_turn :
    ∃ tr sys', Run (Step (recordsCode sampleRuntime sampleRecords) Db.SameDispatches)
        (dispatchSystem sampleStarting) tr sys' ∧
      ((sys'.session 0).location = .done ∧ ∃ e, (sys'.session 1).location = .failed e) ∧
      RecordedOnce sampleRecords "dispatch-1" 2 sampleStarting sys' ∧
        ∀ τ ∈ tr, RecordedOnce sampleRecords "dispatch-1" 2 sampleStarting τ.after ∧
          Transition.CommitsOnly "dispatch-1" τ := by
  obtain ⟨tr, sys', hrun, ⟨hdone, hfailed⟩, hC⟩ := exists_run_of_schedule
    (recordsCode sampleRuntime sampleRecords) Db.SameDispatches (dispatchSystem sampleStarting)
    [0, 0, 0, 0, 0, 0, 1]
    (fun tr sys' =>
      ((sys'.session 0).location = .done ∧
        (match (sys'.session 1).location with
          | .failed _ => true
          | _ => false) = true) ∧
      ∀ τ ∈ tr, Transition.Meets (UpdatesChecked sampleRecords) τ)
    (by decide +kernel)
  refine ⟨tr, sys', hrun, ⟨hdone, ?_⟩,
    records_commit_once sampleRecords_sameToken ⟨_, rfl⟩ hrun hC⟩
  split at hfailed
  · rename_i e he
    exact ⟨e, he⟩
  · cases hfailed

end Cdngine
