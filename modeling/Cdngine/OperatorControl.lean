import Cdngine.MemoryUploadStore
import Cdngine.Runs

/-!
# The Operator Control Store

The in-memory store behind the operator routes: reprocess, quarantine, release and purge. A
call runs up to its next await without interruption; between two awaits the other calls run.
Quarantine, release and purge check and write at once. A reprocess checks the version, makes
a directory and restores the source, and then writes without checking again.

What the code outside the store answers (the path, the directory, the restored source) is part
of the event that resumes a call, as are the id and the time that the call takes when it
writes.

## Main results

* `operatorNext_cases`: a step accepts a call, or leaves the store as it is.
* `operator_actions_lawful_iff`: a run is lawful exactly when no reprocess returns from the
  restore to a version that it would not have accepted.
* `reprocess_revives_purged`: a run in which one does.
-/

open Runs

namespace Cdngine

/-! ### Records -/

inductive OperatorLifecycleState
  | canonical
  | processing
  | published
  | quarantined
  | purged
  | failedRetryable
  deriving DecidableEq, Repr

inductive OperatorAction
  | reprocess
  | quarantine
  | release
  | purge
  deriving DecidableEq, Repr

def OperatorAction.text : OperatorAction → String
  | reprocess => "reprocess"
  | quarantine => "quarantine"
  | release => "release"
  | purge => "purge"

structure OperatorActionRequest where
  evidenceReference : Option String := none
  reason : String
  deriving DecidableEq, Repr

/-- An action that is accepted. -/
structure OperatorActionAccepted where
  action : OperatorAction
  operationId : String
  workflowId : Option String
  deriving DecidableEq, Repr

structure OperatorWorkflow where
  state : String
  workflowId : Option String
  deriving DecidableEq, Repr

structure OperatorSourceRestore where
  repositoryEngine : String
  restoredPath : String
  deriving DecidableEq, Repr

structure OperatorVersionRecord where
  assetId : String
  canonicalSourceEvidence : Option PersistedCanonicalSourceEvidence
  lifecycleState : OperatorLifecycleState
  sourceRestore : Option OperatorSourceRestore
  versionId : String
  workflow : OperatorWorkflow

structure OperatorAuditEvent where
  action : OperatorAction
  actorSubject : String
  assetId : String
  evidenceReference : Option String
  operationId : String
  reason : String
  recordedAt : Instant
  versionId : String
  workflowId : Option String
  deriving DecidableEq, Repr

inductive OperatorError
  | versionNotFound (assetId versionId : String)
  | actionRejected (action : OperatorAction) (assetId versionId : String)
      (lifecycleState : OperatorLifecycleState)
  | thrown (cause : RegistryError)
  deriving DecidableEq, Repr

/-! ### The actions -/

namespace OperatorAction

/-- The lifecycle states in which an action is allowed. -/
def allows : OperatorAction → OperatorLifecycleState → Bool
  | reprocess, state => [.canonical, .published, .failedRetryable].contains state
  | quarantine, state => !(state == .quarantined || state == .purged)
  | release, state => state == .quarantined
  | purge, state => !(state == .purged)

/-- The lifecycle state that an action leaves. -/
def target : OperatorAction → OperatorLifecycleState
  | reprocess | release => .processing
  | quarantine => .quarantined
  | purge => .purged

/-- Whether an action begins a workflow of its own. -/
def beginsWorkflow : OperatorAction → Bool
  | reprocess | release => true
  | quarantine | purge => false

/-- The workflow state that an action leaves. -/
def workflowState : OperatorAction → String
  | reprocess | release => "queued"
  | quarantine => "waiting"
  | purge => "cancelled"

end OperatorAction

/-- A call of one of the four actions. -/
structure OperatorCall where
  action : OperatorAction
  assetId : String
  versionId : String
  actorSubject : String
  request : OperatorActionRequest

namespace OperatorCall

variable (call : OperatorCall)

/-- `buildKey`. -/
def key : String := call.assetId ++ ":" ++ call.versionId

/-- The id of the workflow that a call begins. -/
def workflowId (operationId : String) : Option String :=
  if call.action.beginsWorkflow then
    some (call.assetId ++ ":" ++ call.versionId ++ ":" ++ call.action.text ++ ":" ++ operationId)
  else none

/-- The record that an accepted call leaves. -/
def settled (operationId : String) (record : OperatorVersionRecord) : OperatorVersionRecord :=
  { record with
    lifecycleState := call.action.target
    workflow :=
      { state := call.action.workflowState
        workflowId :=
          if call.action.beginsWorkflow then call.workflowId operationId
          else present record.workflow.workflowId } }

/-- The audit event of an accepted call. -/
def event (operationId : String) (recordedAt : Instant) : OperatorAuditEvent where
  action := call.action
  actorSubject := call.actorSubject
  assetId := call.assetId
  evidenceReference := present call.request.evidenceReference
  operationId
  reason := call.request.reason
  recordedAt
  versionId := call.versionId
  workflowId := call.workflowId operationId

end OperatorCall

/-! ### The store -/

structure OperatorControlStore where
  auditEvents : JsMap (List OperatorAuditEvent) := fun _ => none
  versions : JsMap OperatorVersionRecord := fun _ => none

namespace OperatorControlStore

variable (store : OperatorControlStore)

def lifecycleState? (key : String) : Option OperatorLifecycleState :=
  (store.versions key).map (·.lifecycleState)

/-- `getAuditEvents`. -/
def audit (key : String) : List OperatorAuditEvent := (store.auditEvents key).getD []

def getMutableVersion (call : OperatorCall) : Except OperatorError OperatorVersionRecord :=
  match store.versions call.key with
  | none => .error (.versionNotFound call.assetId call.versionId)
  | some record => .ok record

/-- The write of an accepted call on a record: the record, and its audit event. -/
def accept (call : OperatorCall) (operationId : String) (recordedAt : Instant)
    (record : OperatorVersionRecord) : OperatorControlStore where
  auditEvents :=
    store.auditEvents.set call.key (store.audit call.key ++ [call.event operationId recordedAt])
  versions := store.versions.set call.key (call.settled operationId record)

end OperatorControlStore

/-! ### Interleavings -/

/-- Where a call is. -/
inductive OperatorLocation
  | start
  | makingDirectory
  | restoring
  | done (result : Except OperatorError OperatorActionAccepted)

/-- The store, and where each call is. -/
structure OperatorSystem (ι : Type) where
  store : OperatorControlStore
  location : ι → OperatorLocation

/-- A call runs up to its next await. `outcome` is what the code outside the store answers
where the call needs it; the id and the time are those of a write. -/
structure OperatorEvent (ι : Type) where
  call : ι
  outcome : Except RegistryError String
  operationId : String
  recordedAt : Instant

variable {ι : Type} [DecidableEq ι]

namespace OperatorSystem

/-- A call moves on, over a store. -/
def relocate (sys : OperatorSystem ι) (i : ι) (location : OperatorLocation)
    (store : OperatorControlStore) : OperatorSystem ι where
  store
  location := Function.update sys.location i location

/-- The write of a call, and its answer. -/
def accept (sys : OperatorSystem ι) (call : OperatorCall) (e : OperatorEvent ι)
    (record : OperatorVersionRecord) : OperatorSystem ι :=
  sys.relocate e.call
    (.done (.ok ⟨call.action, e.operationId, call.workflowId e.operationId⟩))
    (sys.store.accept call e.operationId e.recordedAt record)

end OperatorSystem

/-- The next piece of a call; `sourceReplays` says that the store replays sources. -/
def operatorNext (sourceReplays : Bool) (calls : ι → OperatorCall) (sys : OperatorSystem ι)
    (e : OperatorEvent ι) : Option (OperatorSystem ι) :=
  let call := calls e.call
  match sys.location e.call with
  | .start =>
      match sys.store.getMutableVersion call with
      | .error error => some (sys.relocate e.call (.done (.error error)) sys.store)
      | .ok record =>
          if call.action.allows record.lifecycleState = false then
            some (sys.relocate e.call
              (.done (.error (.actionRejected call.action call.assetId call.versionId
                record.lifecycleState))) sys.store)
          else if call.action = .reprocess ∧ sourceReplays ∧
            record.canonicalSourceEvidence.isSome then
            -- the path is computed before the first await
            match e.outcome with
            | .ok _ => some (sys.relocate e.call .makingDirectory sys.store)
            | .error cause => some (sys.relocate e.call (.done (.error (.thrown cause))) sys.store)
          else some (sys.accept call e record)
  | .makingDirectory =>
      match e.outcome with
      | .ok _ => some (sys.relocate e.call .restoring sys.store)
      | .error cause => some (sys.relocate e.call (.done (.error (.thrown cause))) sys.store)
  | .restoring =>
      match e.outcome with
      | .ok restoredPath =>
          -- the record is written as it is now, whatever the check saw
          (sys.store.versions call.key).bind fun record =>
            record.canonicalSourceEvidence.map fun evidence =>
              sys.accept call e
                { record with sourceRestore := some ⟨evidence.repositoryEngine, restoredPath⟩ }
      | .error cause => some (sys.relocate e.call (.done (.error (.thrown cause))) sys.store)
  | .done _ => none

/-- The step relation of the system. -/
def OperatorControlStep (sourceReplays : Bool) (calls : ι → OperatorCall) (sys : OperatorSystem ι)
    (e : OperatorEvent ι) (sys' : OperatorSystem ι) : Prop :=
  operatorNext sourceReplays calls sys e = some sys'

/-! ### Lawful runs -/

/-- A call is accepted by a step. -/
def Accepts (τ : Transition (OperatorSystem ι) (OperatorEvent ι)) : Prop :=
  ∃ accepted, τ.after.location τ.action.call = .done (.ok accepted)

/-- **A lawful step**: a purged version stays purged, a quarantined one is left by a release or
a purge only, an accepted action is allowed in the state that it replaces and appends its audit
event, and a step that accepts nothing leaves the store as it is. -/
structure LawfulStep (calls : ι → OperatorCall)
    (τ : Transition (OperatorSystem ι) (OperatorEvent ι)) : Prop where
  purged : ∀ key, τ.before.store.lifecycleState? key = some .purged →
    τ.after.store.lifecycleState? key = some .purged
  quarantined : ∀ key, τ.before.store.lifecycleState? key = some .quarantined →
    τ.after.store.lifecycleState? key = some .quarantined ∨
      Accepts τ ∧ (calls τ.action.call).key = key ∧
        ((calls τ.action.call).action = .release ∨ (calls τ.action.call).action = .purge)
  legal : Accepts τ → ∃ state,
    τ.before.store.lifecycleState? (calls τ.action.call).key = some state ∧
      (calls τ.action.call).action.allows state = true
  audited : Accepts τ → ∃ event,
    τ.after.store.audit (calls τ.action.call).key =
        τ.before.store.audit (calls τ.action.call).key ++ [event] ∧
      event.action = (calls τ.action.call).action ∧
      event.actorSubject = (calls τ.action.call).actorSubject ∧
      event.reason = (calls τ.action.call).request.reason ∧
      τ.after.location τ.action.call =
        .done (.ok ⟨event.action, event.operationId, event.workflowId⟩)
  others : ∀ key, key ≠ (calls τ.action.call).key →
    τ.after.store.versions key = τ.before.store.versions key ∧
      τ.after.store.audit key = τ.before.store.audit key
  unchanged : ¬ Accepts τ → τ.after.store = τ.before.store

/-- **A lawful run**: every step is lawful, no call is accepted twice, and what is purged stays
purged to the end. -/
structure LawfulRun (calls : ι → OperatorCall) (sys : OperatorSystem ι)
    (tr : List (Transition (OperatorSystem ι) (OperatorEvent ι))) (sys' : OperatorSystem ι) :
    Prop where
  steps : ∀ τ ∈ tr, LawfulStep calls τ
  once : tr.Pairwise fun τ τ' => Accepts τ → τ'.action.call ≠ τ.action.call
  purged : ∀ key, sys.store.lifecycleState? key = some .purged →
    sys'.store.lifecycleState? key = some .purged

/-- A call that returns from the restore of the source finds the version in a state that it
would accept. -/
def returnsInTime (calls : ι → OperatorCall)
    (τ : Transition (OperatorSystem ι) (OperatorEvent ι)) : Bool :=
  match τ.before.location τ.action.call, τ.action.outcome with
  | .restoring, .ok _ =>
      (τ.before.store.lifecycleState? (calls τ.action.call).key).all
        (calls τ.action.call).action.allows
  | _, _ => true

/-! ### What a step does -/

section Steps

variable {sourceReplays : Bool} {calls : ι → OperatorCall} {sys sys' : OperatorSystem ι}
  {e : OperatorEvent ι}

/-- The call of an event returns from the restore of the source. -/
def Returns (sys : OperatorSystem ι) (e : OperatorEvent ι) : Prop :=
  sys.location e.call = .restoring ∧ ∃ restoredPath, e.outcome = .ok restoredPath

/-- A step **accepts** a call: it writes the record that is there, which the call allows, or
which it returns to. -/
structure AcceptStep (calls : ι → OperatorCall) (sys : OperatorSystem ι) (e : OperatorEvent ι)
    (sys' : OperatorSystem ι) : Prop where
  writes : ∃ record restored, sys.store.versions (calls e.call).key = some record ∧
    sys' = sys.accept (calls e.call) e { record with sourceRestore := restored } ∧
    ((calls e.call).action.allows record.lifecycleState = true ∨ Returns sys e)

/-- A step **keeps the store**: the call is rejected, fails, or awaits. -/
structure IdleStep (sys : OperatorSystem ι) (e : OperatorEvent ι) (sys' : OperatorSystem ι) :
    Prop where
  moves : ∃ location, (∀ accepted, location ≠ .done (.ok accepted)) ∧
    sys' = sys.relocate e.call location sys.store
  notReturned : ¬ Returns sys e

theorem error_ne_accepted (error : OperatorError) (accepted : OperatorActionAccepted) :
    OperatorLocation.done (.error error) ≠ .done (.ok accepted) := by
  intro h
  cases h

/-- **Inversion of a step.** -/
theorem operatorNext_cases (h : operatorNext sourceReplays calls sys e = some sys') :
    (∀ result, sys.location e.call ≠ .done result) ∧
      (AcceptStep calls sys e sys' ∨ IdleStep sys e sys') := by
  unfold operatorNext at h
  cases hlocation : sys.location e.call with
  | start =>
      have hnot : ¬ Returns sys e := fun hret => by cases hlocation.symm.trans hret.1
      refine ⟨nofun, ?_⟩
      simp only [hlocation, OperatorControlStore.getMutableVersion] at h
      cases hrecord : sys.store.versions (calls e.call).key with
      | none =>
          simp only [hrecord, Option.some.injEq] at h
          exact Or.inr ⟨⟨_, error_ne_accepted _, h.symm⟩, hnot⟩
      | some record =>
          simp only [hrecord] at h
          cases hallows : (calls e.call).action.allows record.lifecycleState with
          | false =>
              simp only [hallows, if_true, Option.some.injEq] at h
              exact Or.inr ⟨⟨_, error_ne_accepted _, h.symm⟩, hnot⟩
          | true =>
              simp only [hallows, Bool.true_eq_false, if_false] at h
              split at h
              · cases houtcome : e.outcome with
                | ok path =>
                    simp only [houtcome, Option.some.injEq] at h
                    exact Or.inr ⟨⟨.makingDirectory, nofun, h.symm⟩, hnot⟩
                | error cause =>
                    simp only [houtcome, Option.some.injEq] at h
                    exact Or.inr ⟨⟨_, error_ne_accepted _, h.symm⟩, hnot⟩
              · obtain rfl := Option.some.inj h
                exact Or.inl ⟨record, record.sourceRestore, hrecord, rfl, Or.inl hallows⟩
  | makingDirectory =>
      have hnot : ¬ Returns sys e := fun hret => by cases hlocation.symm.trans hret.1
      refine ⟨nofun, ?_⟩
      simp only [hlocation] at h
      cases houtcome : e.outcome with
      | ok path =>
          simp only [houtcome, Option.some.injEq] at h
          exact Or.inr ⟨⟨.restoring, nofun, h.symm⟩, hnot⟩
      | error cause =>
          simp only [houtcome, Option.some.injEq] at h
          exact Or.inr ⟨⟨_, error_ne_accepted _, h.symm⟩, hnot⟩
  | restoring =>
      refine ⟨nofun, ?_⟩
      simp only [hlocation] at h
      cases houtcome : e.outcome with
      | ok restoredPath =>
          simp only [houtcome, Option.bind_eq_some_iff, Option.map_eq_some_iff] at h
          obtain ⟨record, hrecord, evidence, -, rfl⟩ := h
          exact Or.inl ⟨record, _, hrecord, rfl, Or.inr ⟨hlocation, restoredPath, houtcome⟩⟩
      | error cause =>
          have hnot : ¬ Returns sys e := fun ⟨_, path, hpath⟩ => by
            rw [houtcome] at hpath
            cases hpath
          simp only [houtcome, Option.some.injEq] at h
          exact Or.inr ⟨⟨_, error_ne_accepted _, h.symm⟩, hnot⟩
  | done result =>
      simp only [hlocation] at h
      cases h

/-- A step that accepts its call makes it accepted. -/
theorem AcceptStep.accepts (h : AcceptStep calls sys e sys') : Accepts ⟨sys, e, sys'⟩ := by
  obtain ⟨record, restored, -, rfl, -⟩ := h.writes
  exact ⟨_, Function.update_self _ _ _⟩

/-- A step that keeps the store accepts nothing. -/
theorem IdleStep.not_accepts (h : IdleStep sys e sys') : ¬ Accepts ⟨sys, e, sys'⟩ := by
  obtain ⟨location, hlocation, rfl⟩ := h.moves
  rintro ⟨accepted, haccepted⟩
  exact hlocation accepted ((Function.update_self _ _ _).symm.trans haccepted)

/-- No action is allowed on a purged version. -/
theorem OperatorAction.allows_purged (action : OperatorAction) : action.allows .purged = false := by
  cases action <;> rfl

/-- Only a release and a purge are allowed on a quarantined version. -/
theorem OperatorAction.allows_quarantined {action : OperatorAction}
    (h : action.allows .quarantined = true) : action = .release ∨ action = .purge := by
  cases action with
  | release => exact Or.inl rfl
  | purge => exact Or.inr rfl
  | _ => cases h

/-- The lifecycle states after a call is accepted. -/
theorem lifecycleState?_accept {call : OperatorCall} {record : OperatorVersionRecord}
    (key : String) :
    (sys.accept call e record).store.lifecycleState? key =
      if key = call.key then some call.action.target else sys.store.lifecycleState? key := by
  simp only [OperatorSystem.accept, OperatorSystem.relocate, OperatorControlStore.lifecycleState?,
    OperatorControlStore.accept, JsMap.set_apply]
  by_cases hkey : key = call.key
  · simp only [hkey, if_true, Option.map_some]
    rfl
  · simp only [hkey, if_false]

/-- The audit trails after a call is accepted. -/
theorem audit_accept {call : OperatorCall} {record : OperatorVersionRecord} (key : String) :
    (sys.accept call e record).store.audit key =
      if key = call.key then sys.store.audit key ++ [call.event e.operationId e.recordedAt]
      else sys.store.audit key := by
  simp only [OperatorSystem.accept, OperatorSystem.relocate, OperatorControlStore.audit,
    OperatorControlStore.accept, JsMap.set_apply]
  by_cases hkey : key = call.key
  · simp only [hkey, if_true, Option.getD_some]
  · simp only [hkey, if_false]

/-- **A step that accepts a call in a state that it allows** is lawful. -/
theorem AcceptStep.lawful (h : AcceptStep calls sys e sys')
    (htime : returnsInTime calls ⟨sys, e, sys'⟩ = true) : LawfulStep calls ⟨sys, e, sys'⟩ := by
  have haccepts := h.accepts
  obtain ⟨record, restored, hrecord, rfl, hallowed⟩ := h.writes
  have hstate : sys.store.lifecycleState? (calls e.call).key = some record.lifecycleState := by
    rw [OperatorControlStore.lifecycleState?, hrecord, Option.map_some]
  have hallows : (calls e.call).action.allows record.lifecycleState = true := by
    rcases hallowed with hallows | ⟨hlocation, path, houtcome⟩
    · exact hallows
    · simpa only [returnsInTime, hlocation, houtcome, hstate, Option.all_some] using htime
  exact
    { purged := fun key hpurged => by
        rw [lifecycleState?_accept]
        by_cases hkey : key = (calls e.call).key
        · subst hkey
          obtain hrecordState : record.lifecycleState = .purged :=
            Option.some.inj (hstate.symm.trans hpurged)
          rw [hrecordState, OperatorAction.allows_purged] at hallows
          cases hallows
        · rw [if_neg hkey]
          exact hpurged
      quarantined := fun key hquarantined => by
        rw [lifecycleState?_accept]
        by_cases hkey : key = (calls e.call).key
        · subst hkey
          obtain hrecordState : record.lifecycleState = .quarantined :=
            Option.some.inj (hstate.symm.trans hquarantined)
          rw [hrecordState] at hallows
          exact Or.inr ⟨haccepts, rfl, OperatorAction.allows_quarantined hallows⟩
        · rw [if_neg hkey]
          exact Or.inl hquarantined
      legal := fun _ => ⟨_, hstate, hallows⟩
      audited := fun _ => ⟨(calls e.call).event e.operationId e.recordedAt,
        (audit_accept _).trans (if_pos rfl), rfl, rfl, rfl, Function.update_self _ _ _⟩
      others := fun key hkey => ⟨JsMap.set_of_ne _ _ hkey, (audit_accept _).trans (if_neg hkey)⟩
      unchanged := fun hnot => absurd haccepts hnot }

/-- A step that keeps the store is lawful. -/
theorem IdleStep.lawful (h : IdleStep sys e sys') : LawfulStep calls ⟨sys, e, sys'⟩ := by
  have hnot := h.not_accepts
  obtain ⟨location, -, rfl⟩ := h.moves
  exact
    { purged := fun _ hpurged => hpurged
      quarantined := fun _ hquarantined => Or.inl hquarantined
      legal := fun haccepts => absurd haccepts hnot
      audited := fun haccepts => absurd haccepts hnot
      others := fun _ _ => ⟨rfl, rfl⟩
      unchanged := fun _ => rfl }

/-- **A step is lawful** exactly when its call, if it returns, returns in time. -/
theorem lawfulStep_iff (h : OperatorControlStep sourceReplays calls sys e sys') :
    LawfulStep calls ⟨sys, e, sys'⟩ ↔ returnsInTime calls ⟨sys, e, sys'⟩ = true := by
  obtain ⟨-, haccept | hidle⟩ := operatorNext_cases h
  · refine ⟨fun hlawful => ?_, haccept.lawful⟩
    obtain ⟨state, hstate, hallows⟩ := hlawful.legal haccept.accepts
    unfold returnsInTime
    split
    · exact (congrArg (Option.all _) hstate).trans hallows
    · rfl
  · refine ⟨fun _ => ?_, fun _ => hidle.lawful⟩
    unfold returnsInTime
    split
    · rename_i path hlocation houtcome
      exact absurd ⟨hlocation, path, houtcome⟩ hidle.notReturned
    · rfl

/-- A call that has ended stays so. -/
theorem done_step {i : ι} {result : Except OperatorError OperatorActionAccepted}
    (h : OperatorControlStep sourceReplays calls sys e sys')
    (hdone : sys.location i = .done result) :
    e.call ≠ i ∧ sys'.location i = .done result := by
  obtain ⟨hrunning, hcases⟩ := operatorNext_cases h
  have hne : e.call ≠ i := fun heq => hrunning result (heq ▸ hdone)
  refine ⟨hne, ?_⟩
  rcases hcases with haccept | hidle
  · obtain ⟨record, restored, -, rfl, -⟩ := haccept.writes
    exact (Function.update_of_ne hne.symm _ _).trans hdone
  · obtain ⟨location, -, rfl⟩ := hidle.moves
    exact (Function.update_of_ne hne.symm _ _).trans hdone

end Steps

/-- **The law of the operator actions.** A run of any calls, in any order of their pieces, is
lawful exactly when every reprocess that returns from the restore of its source finds the
version in a state that allows it. -/
theorem operator_actions_lawful_iff {sourceReplays : Bool} {calls : ι → OperatorCall}
    {sys sys' : OperatorSystem ι} {tr : List (Transition (OperatorSystem ι) (OperatorEvent ι))}
    (hrun : Run (OperatorControlStep sourceReplays calls) sys tr sys') :
    LawfulRun calls sys tr sys' ↔ ∀ τ ∈ tr, returnsInTime calls τ = true := by
  have hsteps : (∀ τ ∈ tr, LawfulStep calls τ) ↔ ∀ τ ∈ tr, returnsInTime calls τ = true :=
    forall₂_congr fun τ hτ => lawfulStep_iff (hrun.step_of_mem τ hτ)
  refine ⟨fun hlawful => hsteps.mp hlawful.steps, fun htime => ?_⟩
  refine ⟨hsteps.mpr htime, ?_, fun key hpurged => ?_⟩
  · refine hrun.pairwise_where (I := fun _ => True) (C := fun _ => True)
      (fun _ _ _ => trivial) ?_ trivial fun _ _ => trivial
    intro s a s' rest s'' _ hstep _ hrest _ τ hτ haccepts
    obtain ⟨accepted, haccepted⟩ := haccepts
    -- the call has ended, and stays so along the rest of the run
    have hdone := (hrest.forall_invariant_where
      (I := fun x => x.location a.call = .done (.ok accepted)) (C := fun _ => True)
      (fun hx hstep _ => (done_step hstep hx).2) haccepted fun _ _ => trivial).2 τ hτ
    exact (done_step (hrest.step_of_mem τ hτ) hdone.1).1
  · exact hrun.invariant_where
      (I := fun s => s.store.lifecycleState? key = some .purged)
      (fun hs _ hlawful => hlawful.purged key hs) hpurged (hsteps.mpr htime)

/-! ### Runs that are lawful and not -/

/-- A published version with its canonical source. -/
def sampleOperatorVersion : OperatorVersionRecord where
  assetId := "asset-a"
  canonicalSourceEvidence := some
    { repositoryEngine := "xet"
      canonicalSourceId := "source-a"
      canonicalSnapshotId := "snapshot-a"
      canonicalLogicalPath := "media/report.pdf"
      canonicalDigestSet := []
      canonicalLogicalByteLength := none
      canonicalStoredByteLength := none
      dedupeMetrics := none
      sourceReconstructionHandles := none
      sourceSubstrateHints := none }
  lifecycleState := .published
  sourceRestore := none
  versionId := "version-a"
  workflow := ⟨"completed", none⟩

/-- The store with the version, before the calls. -/
def sampleOperatorSystem : OperatorSystem (Fin 3) where
  store := { versions := JsMap.set (fun _ => none) "asset-a:version-a" sampleOperatorVersion }
  location _ := .start

/-- A call on the version. -/
def sampleOperatorCall (action : OperatorAction) : OperatorCall where
  action
  assetId := "asset-a"
  versionId := "version-a"
  actorSubject := "operator"
  request := { reason := "incident" }

/-- A reprocess, a quarantine and a purge. -/
def sampleOperatorCalls : Fin 3 → OperatorCall
  | 0 => sampleOperatorCall .reprocess
  | 1 => sampleOperatorCall .quarantine
  | 2 => sampleOperatorCall .purge

/-- A call goes on, and what it awaits succeeds. -/
def sampleOperatorEvent (call : Fin 3) : OperatorEvent (Fin 3) :=
  ⟨call, .ok "replays/asset-a/version-a/report.pdf", "op_1", 1000⟩

/-- A reprocess returns before the version is quarantined and purged. -/
theorem actions_in_turn :
    ∃ tr sys', Run (OperatorControlStep true sampleOperatorCalls) sampleOperatorSystem tr sys' ∧
      (tr.map fun τ => (τ.action.call, τ.after.store.lifecycleState? "asset-a:version-a")) =
        [(0, some .published), (0, some .published), (0, some .processing), (1, some .quarantined),
          (2, some .purged)] ∧
      LawfulRun sampleOperatorCalls sampleOperatorSystem tr sys' := by
  obtain ⟨tr, sys', hrun, hstates, htime⟩ := exists_run_of_exec
    (operatorNext true sampleOperatorCalls) sampleOperatorSystem
    ([0, 0, 0, 1, 2].map sampleOperatorEvent)
    (fun tr _ =>
      (tr.map fun τ => (τ.action.call, τ.after.store.lifecycleState? "asset-a:version-a")) =
        [(0, some .published), (0, some .published), (0, some .processing), (1, some .quarantined),
          (2, some .purged)] ∧
      ∀ τ ∈ tr, returnsInTime sampleOperatorCalls τ = true) (by decide +kernel)
  exact ⟨tr, sys', hrun, hstates, (operator_actions_lawful_iff hrun).mpr htime⟩

/-- **A reprocess revives a purged version.** It is accepted while the version is published;
while the source is restored the version is purged; the reprocess then moves it to
`processing`. -/
theorem reprocess_revives_purged :
    ∃ tr sys', Run (OperatorControlStep true sampleOperatorCalls) sampleOperatorSystem tr sys' ∧
      ¬ LawfulRun sampleOperatorCalls sampleOperatorSystem tr sys' := by
  obtain ⟨tr, sys', hrun, τ, hτ, hbefore, hafter⟩ := exists_run_of_exec
    (operatorNext true sampleOperatorCalls) sampleOperatorSystem
    ([0, 0, 2, 0].map sampleOperatorEvent)
    (fun tr _ => ∃ τ ∈ tr,
      τ.before.store.lifecycleState? "asset-a:version-a" = some .purged ∧
        τ.after.store.lifecycleState? "asset-a:version-a" = some .processing) (by decide +kernel)
  refine ⟨tr, sys', hrun, fun hlawful => ?_⟩
  have hpurged := (hlawful.steps τ hτ).purged _ hbefore
  rw [hafter] at hpurged
  cases hpurged

end Cdngine
