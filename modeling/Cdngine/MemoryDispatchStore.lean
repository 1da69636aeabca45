import Cdngine.DispatchRuntime
import Cdngine.JsonColumns
import Cdngine.MemoryPublication

/-!
# The In-Memory Workflow Dispatch Store

The workflow dispatch store over maps of records, beside the Prisma store of
`WorkflowDispatch`. Both answer the same calls. On a run that is recorded again the in-memory
store rebuilds the whole record and the Prisma store updates part of the row, which leaves
the template; and the in-memory store keeps a retry summary as it is given, where the Prisma
store converts it for a JSON column.

The generated ids and the creation times of the runs are not compared. Those of the
dispatches are given: no call writes them.

## Main results

* `DispatchPair.Inv.step`: a call keeps two stores with the same records so, where a run is
  recorded again under its own template and a retry summary survives the column.
* `dispatch_stores_agree`: two such stores answer every call of a run alike.
* `rerecorded_run_diverges`: two runs in which they do not.
-/

open Relational Runs

namespace Cdngine

/-! ### Records -/

/-- A dispatch as the in-memory store keeps it and as both stores report it. -/
structure TimedDispatchRecord where
  assetVersionId : String
  createdAt : Instant
  dispatchId : String
  dispatchReason : String
  dispatchState : WorkflowDispatchState
  firstAttemptAt : Option Instant
  lastAttemptAt : Option Instant
  lastFailureClass : Option String
  retrySummary : Option (List (String × JsValue))
  updatedAt : Instant
  versionToken : Int
  workflowKey : String
  workflowTemplateId : String

/-- A workflow run, without its generated id and its creation time. -/
structure WorkflowRunRecord where
  assetVersionId : String
  cancellationCause : Option String := none
  completedAt : Option Instant := none
  currentPhase : Option String := none
  lastOperatorAction : Option String := none
  retrySummary : Option (List (String × JsValue)) := none
  startedAt : Option Instant := none
  state : WorkflowRunState
  updatedAt : Instant
  waitReason : Option String := none
  workflowDispatchId : Option String := none
  workflowId : String
  workflowTemplateId : String

/-- A workflow run as the in-memory store keeps it. -/
structure MemoryWorkflowRunRecord extends WorkflowRunRecord where
  createdAt : Instant
  workflowRunId : String

/-! ### Reads of the Prisma store -/

/-- A record of the Prisma store with its creation time. -/
def WorkflowDispatchRecord.timed (createdAt : String → Instant) (record : WorkflowDispatchRecord) :
    TimedDispatchRecord where
  assetVersionId := record.assetVersionId
  createdAt := createdAt record.dispatchId
  dispatchId := record.dispatchId
  dispatchReason := record.dispatchReason
  dispatchState := record.dispatchState
  firstAttemptAt := record.firstAttemptAt
  lastAttemptAt := record.lastAttemptAt
  lastFailureClass := record.lastFailureClass
  retrySummary := record.retrySummary.map Json.entriesToJs
  updatedAt := record.updatedAt
  versionToken := record.versionToken
  workflowKey := record.workflowKey
  workflowTemplateId := record.workflowTemplateId

def mapWorkflowRunRecord (record : WorkflowRun) : WorkflowRunRecord where
  assetVersionId := record.assetVersionId
  cancellationCause := present record.cancellationCause
  completedAt := record.completedAt
  currentPhase := present record.currentPhase
  lastOperatorAction := present record.lastOperatorAction
  retrySummary := asObject record.retrySummary
  startedAt := record.startedAt
  state := record.state
  updatedAt := record.updatedAt
  waitReason := present record.waitReason
  workflowDispatchId := present record.workflowDispatchId
  workflowId := record.workflowId
  workflowTemplateId := record.workflowTemplateId

namespace Db

def getDispatch (dispatchId : String) (db : Db) : Option WorkflowDispatchRecord :=
  (db.workflowDispatch? dispatchId).map mapDispatchRecord

def listWorkflowRuns (assetVersionId : Option String) (db : Db) : List WorkflowRunRecord :=
  (db.workflowRuns.rows.filter fun r =>
    match present assetVersionId with
    | some id => r.assetVersionId == id
    | none => true).map mapWorkflowRunRecord

end Db

/-! ### The in-memory store -/

structure SeedWorkflowDispatchRecord where
  assetVersionId : String
  createdAt : Option Instant := none
  dispatchId : String
  dispatchReason : String
  dispatchState : Option WorkflowDispatchState := none
  firstAttemptAt : Option Instant := none
  lastAttemptAt : Option Instant := none
  lastFailureClass : Option String := none
  retrySummary : Option (List (String × JsValue)) := none
  updatedAt : Option Instant := none
  versionToken : Option Int := none
  workflowKey : String
  workflowTemplateId : String

/-- The creation time of a seed that gives none: the first of January 2026. -/
def seedCreatedAt : Instant := 1767225600000

/-- The record that the constructor makes of a seed. -/
def SeedWorkflowDispatchRecord.record (dispatch : SeedWorkflowDispatchRecord) :
    TimedDispatchRecord :=
  let createdAt := dispatch.createdAt.getD seedCreatedAt
  { assetVersionId := dispatch.assetVersionId
    createdAt
    dispatchId := dispatch.dispatchId
    dispatchReason := dispatch.dispatchReason
    dispatchState := dispatch.dispatchState.getD .pending
    firstAttemptAt := dispatch.firstAttemptAt
    lastAttemptAt := dispatch.lastAttemptAt
    lastFailureClass := present dispatch.lastFailureClass
    retrySummary := dispatch.retrySummary
    updatedAt := dispatch.updatedAt.getD createdAt
    versionToken := dispatch.versionToken.getD 1
    workflowKey := dispatch.workflowKey
    workflowTemplateId := dispatch.workflowTemplateId }

namespace TimedDispatchRecord

/-- `cloneDispatchRecord`. -/
def clone (record : TimedDispatchRecord) : TimedDispatchRecord :=
  { record with lastFailureClass := present record.lastFailureClass }

/-- The states that a claim looks for. -/
def claimable (record : TimedDispatchRecord) : Bool :=
  record.dispatchState == .pending || record.dispatchState == .failedRetryable

/-- A record that is claimed. -/
def claimedBy (input : ClaimPendingWorkflowDispatchesInput) (record : TimedDispatchRecord) :
    TimedDispatchRecord :=
  { record with
    dispatchState := .starting
    updatedAt := input.claimedAt
    lastAttemptAt := some input.claimedAt
    firstAttemptAt := some (record.firstAttemptAt.getD input.claimedAt)
    versionToken := record.versionToken + 1 }

/-- A record after its dispatch has moved. -/
def moved (state : WorkflowDispatchState) (observedAt : Instant) (record : TimedDispatchRecord) :
    TimedDispatchRecord :=
  { record with
    dispatchState := state
    updatedAt := observedAt
    lastAttemptAt := some observedAt
    versionToken := record.versionToken + 1 }

/-- A record after its dispatch has failed. -/
def failed (state : WorkflowDispatchState) (input : RecordFailedWorkflowDispatchInput)
    (record : TimedDispatchRecord) : TimedDispatchRecord :=
  { record.moved state input.failedAt with
    lastFailureClass := some input.failureClass
    retrySummary := input.retrySummary }

/-- The order of a claim: by creation time, then by id. -/
def before (rt : Runtime) (left right : TimedDispatchRecord) : Bool :=
  if left.createdAt - right.createdAt ≠ 0 then decide (left.createdAt - right.createdAt ≤ 0)
  else (rt.localeCompare left.dispatchId right.dispatchId).isLE

end TimedDispatchRecord

/-- `cloneWorkflowRunRecord`. -/
def WorkflowRunRecord.clone (record : WorkflowRunRecord) : WorkflowRunRecord :=
  { record with
    cancellationCause := present record.cancellationCause
    currentPhase := present record.currentPhase
    lastOperatorAction := present record.lastOperatorAction
    waitReason := present record.waitReason
    workflowDispatchId := present record.workflowDispatchId }

/-- A run whose fields are replaced; its workflow and its id stay. -/
def MemoryWorkflowRunRecord.replaced (record : WorkflowRunRecord) (createdAt : Instant)
    (existingRun : MemoryWorkflowRunRecord) : MemoryWorkflowRunRecord :=
  { record.clone with
    workflowId := existingRun.workflowId
    createdAt
    workflowRunId := existingRun.workflowRunId }

structure MemoryDispatchStore where
  dispatches : List TimedDispatchRecord := []
  workflowRunsById : List MemoryWorkflowRunRecord := []
  workflowRunsByWorkflowId : JsMap String := fun _ => none

namespace MemoryDispatchStore

/-- The store that the constructor makes of seeds. -/
def ofSeeds (dispatches : List SeedWorkflowDispatchRecord) : MemoryDispatchStore where
  dispatches := dispatches.foldl (fun values d => setValue (·.dispatchId) d.record values) []

variable (memory : MemoryDispatchStore)

def dispatch? (dispatchId : String) : Option TimedDispatchRecord :=
  memory.dispatches.find? fun d => d.dispatchId == dispatchId

/-- The store after a dispatch has been changed in place. -/
def modifyDispatch (dispatchId : String) (change : TimedDispatchRecord → TimedDispatchRecord) :
    MemoryDispatchStore :=
  { memory with
    dispatches := memory.dispatches.map fun d => if d.dispatchId = dispatchId then change d else d }

/-- One turn of the loop of a claim, which breaks off at the limit. -/
def claimTurn (input : ClaimPendingWorkflowDispatchesInput)
    (state : List TimedDispatchRecord × MemoryDispatchStore) (dispatch : TimedDispatchRecord) :
    List TimedDispatchRecord × MemoryDispatchStore :=
  let (claimed, memory) := state
  if input.limit ≤ claimed.length then (claimed, memory)
  else if dispatch.claimable = false then (claimed, memory)
  else
    (claimed ++ [(dispatch.claimedBy input).clone],
      memory.modifyDispatch dispatch.dispatchId (·.claimedBy input))

def claimPendingDispatches (rt : Runtime) (input : ClaimPendingWorkflowDispatchesInput) :
    List TimedDispatchRecord × MemoryDispatchStore :=
  (sortBy (TimedDispatchRecord.before rt) memory.dispatches).foldl (claimTurn input) ([], memory)

def getDispatch (dispatchId : String) : Option TimedDispatchRecord :=
  (memory.dispatch? dispatchId).map (·.clone)

def listWorkflowRuns (assetVersionId : Option String) : List WorkflowRunRecord :=
  (sortBy (fun left right : MemoryWorkflowRunRecord =>
    decide (left.createdAt - right.createdAt ≤ 0))
    (memory.workflowRunsById.filter fun r =>
      match present assetVersionId with
      | some id => r.assetVersionId == id
      | none => true)).map (·.toWorkflowRunRecord.clone)

def getMutableDispatch (dispatchId : String) (expectedVersionToken : Int) :
    Except RegistryError TimedDispatchRecord :=
  match memory.dispatch? dispatchId with
  | none => .error (.workflowDispatchNotFound dispatchId)
  | some dispatch =>
      if dispatch.versionToken ≠ expectedVersionToken then
        .error (.workflowDispatchVersionConflict dispatchId expectedVersionToken)
      else .ok dispatch

/-- The dispatch that a record call moves, which is starting. -/
def startingDispatch (call : RecordCall) : Except RegistryError TimedDispatchRecord := do
  let dispatch ← memory.getMutableDispatch call.dispatchId call.expectedVersionToken
  if dispatch.dispatchState ≠ .starting then
    .error (.workflowDispatchStateTransition dispatch.dispatchId dispatch.dispatchState.text
      call.targetState.text)
  else .ok dispatch

def workflowRun? (workflowRunId : String) : Option MemoryWorkflowRunRecord :=
  memory.workflowRunsById.find? fun r => r.workflowRunId == workflowRunId

/-- The run of a workflow. -/
def runOf? (workflowId : String) : Option MemoryWorkflowRunRecord :=
  (present (memory.workflowRunsByWorkflowId workflowId)).bind memory.workflowRun?

/-- The fields of a run are replaced, or the run is kept under a generated id. -/
def upsertWorkflowRun (record : WorkflowRunRecord) (createdAt : Instant) (generatedId : String) :
    Except RegistryError Unit × MemoryDispatchStore :=
  match present (memory.workflowRunsByWorkflowId record.workflowId) with
  | some existingRunId =>
      match memory.workflowRun? existingRunId with
      | none =>
          (.error (.plain ("Workflow run " ++ quoted existingRunId ++
            " is missing from the in-memory store.")), memory)
      | some _ =>
          (.ok (),
            { memory with
              workflowRunsById := memory.workflowRunsById.map fun r =>
                if r.workflowRunId = existingRunId then r.replaced record createdAt else r })
  | none =>
      (.ok (),
        { memory with
          workflowRunsById :=
            setValue (·.workflowRunId) { record.clone with createdAt, workflowRunId := generatedId }
              memory.workflowRunsById
          workflowRunsByWorkflowId :=
            memory.workflowRunsByWorkflowId.set record.workflowId generatedId })

end MemoryDispatchStore

/-- The run that `recordStarted` keeps, from the one there is. -/
def RecordStartedWorkflowDispatchInput.record (input : RecordStartedWorkflowDispatchInput)
    (dispatch : TimedDispatchRecord) (existingWorkflowRun : Option WorkflowRunRecord) :
    WorkflowRunRecord where
  assetVersionId := dispatch.assetVersionId
  currentPhase :=
    match existingWorkflowRun with
    | some run =>
        if run.state ≠ .queued ∧ (present run.currentPhase).isSome then run.currentPhase
        else present input.currentPhase
    | none => present input.currentPhase
  startedAt := some ((existingWorkflowRun.bind (·.startedAt)).getD input.startedAt)
  state :=
    match existingWorkflowRun with
    | some run => if run.state ≠ .queued then run.state else .queued
    | none => .queued
  updatedAt := input.startedAt
  workflowDispatchId :=
    some ((existingWorkflowRun.bind (·.workflowDispatchId)).getD dispatch.dispatchId)
  workflowId := input.workflowId
  workflowTemplateId := dispatch.workflowTemplateId

/-- The run that `recordDuplicate` keeps. -/
def RecordDuplicateWorkflowDispatchInput.record (input : RecordDuplicateWorkflowDispatchInput)
    (dispatch : TimedDispatchRecord) : WorkflowRunRecord where
  assetVersionId := dispatch.assetVersionId
  currentPhase := present input.currentPhase
  startedAt := some input.observedAt
  state := input.workflowRunState.getD .running
  updatedAt := input.observedAt
  workflowDispatchId := some dispatch.dispatchId
  workflowId := input.workflowId
  workflowTemplateId := dispatch.workflowTemplateId

namespace MemoryDispatchStore

variable (memory : MemoryDispatchStore)

/-- `recordStarted`, `recordDuplicate`, `recordFailedRetryable` and `recordFailedTerminal`,
with the id that is generated for a run. -/
def record (generatedId : String) (call : RecordCall) :
    Except RegistryError Unit × MemoryDispatchStore :=
  match memory.startingDispatch call with
  | .error e => (.error e, memory)
  | .ok dispatch =>
      match call with
      | .started input =>
          let existingWorkflowRun := memory.runOf? input.workflowId
          (memory.modifyDispatch input.dispatchId
            (·.moved .started input.startedAt)).upsertWorkflowRun
            (input.record dispatch (existingWorkflowRun.map (·.toWorkflowRunRecord)))
            ((existingWorkflowRun.map (·.createdAt)).getD input.startedAt) generatedId
      | .duplicate input =>
          (memory.modifyDispatch input.dispatchId
            (·.moved .duplicate input.observedAt)).upsertWorkflowRun
            (input.record dispatch) input.observedAt generatedId
      | .failedRetryable input =>
          (.ok (), memory.modifyDispatch input.dispatchId (·.failed .failedRetryable input))
      | .failedTerminal input =>
          (.ok (), memory.modifyDispatch input.dispatchId (·.failed .failedTerminal input))

end MemoryDispatchStore

/-! ### Calls on a pair of stores -/

/-- A call on a dispatch store, with the id that the in-memory store generates for a run. -/
inductive DispatchStoreCall
  | claimPendingDispatches (input : ClaimPendingWorkflowDispatchesInput)
  | getDispatch (dispatchId : String)
  | listWorkflowRuns (assetVersionId : Option String)
  | record (call : RecordCall) (generatedId : String)

/-- An in-memory store and a database. -/
structure DispatchPair where
  memory : MemoryDispatchStore
  db : Db

namespace DispatchStoreCall

/-- Both stores after a call. -/
def run (rt : Runtime) (pair : DispatchPair) : DispatchStoreCall → DispatchPair
  | claimPendingDispatches input =>
      ⟨(pair.memory.claimPendingDispatches rt input).2,
        (Cdngine.claimPendingDispatches input pair.db).2⟩
  | record call generatedId =>
      ⟨(pair.memory.record generatedId call).2, (transact (transitionDispatch rt call) pair.db).2⟩
  | getDispatch _ | listWorkflowRuns _ => pair

/-- **The stores answer a call alike**: with the same claimed records in the same order, the
same record, the same runs in some order, the same error. -/
def Agree (rt : Runtime) (createdAt : String → Instant) (pair : DispatchPair) :
    DispatchStoreCall → Prop
  | claimPendingDispatches input =>
      (pair.memory.claimPendingDispatches rt input).1 =
        (Cdngine.claimPendingDispatches input pair.db).1.map (·.timed createdAt)
  | getDispatch dispatchId =>
      pair.memory.getDispatch dispatchId = (pair.db.getDispatch dispatchId).map (·.timed createdAt)
  | listWorkflowRuns assetVersionId =>
      (pair.memory.listWorkflowRuns assetVersionId).Perm (pair.db.listWorkflowRuns assetVersionId)
  | record call generatedId =>
      (pair.memory.record generatedId call).1 = (transact (transitionDispatch rt call) pair.db).1

/-- The id generated for a run is not empty and new. -/
def FreshId (memory : MemoryDispatchStore) : DispatchStoreCall → Prop
  | record _ generatedId =>
      generatedId ≠ "" ∧ ∀ r ∈ memory.workflowRunsById, r.workflowRunId ≠ generatedId
  | _ => True

end DispatchStoreCall

/-- The step relation of the pair. -/
def DispatchStoreStep (rt : Runtime) (pair : DispatchPair) (call : DispatchStoreCall)
    (pair' : DispatchPair) : Prop :=
  call.run rt pair = pair'

/-- The two stores begin with **the same dispatches**, created at different times, and without
runs. -/
structure DispatchPair.Initial (createdAt : String → Instant)
    (seeds : List SeedWorkflowDispatchRecord) (pair : DispatchPair) : Prop where
  memory : pair.memory = .ofSeeds seeds
  dispatches : (seeds.map (·.record)).Perm
    (pair.db.workflowDispatches.rows.map fun r => (mapDispatchRecord r).timed createdAt)
  ordered : pair.db.workflowDispatches.rows.Pairwise fun a b => createdAt a.id < createdAt b.id
  runs : pair.db.workflowRuns.rows = []

/-! ### When the stores agree -/

/-- A run that a dispatch records again **reads the same** rebuilt and updated: it has the
template of the dispatch, and does not name a dispatch by the empty id. -/
structure WorkflowRun.Rerecordable (run : WorkflowRun) (dispatch : WorkflowDispatch) : Prop where
  template : run.workflowTemplateId = dispatch.workflowTemplateId
  named : run.workflowDispatchId = some "" → dispatch.id = ""

/-- What a record call that is accepted must meet: that the run it records again is of its
template, or that the retry summary survives the column. -/
def RecordCall.Regular (rt : Runtime) (db : Db) (dispatch : WorkflowDispatch) : RecordCall → Prop
  | started input => ∀ run, db.workflowRun? input.workflowId = some run → run.Rerecordable dispatch
  | duplicate input => ∀ run, db.workflowRun? input.workflowId = some run →
      run.workflowTemplateId = dispatch.workflowTemplateId
  | failedRetryable input | failedTerminal input =>
      ∀ entries, input.retrySummary = some entries → SurvivesColumn rt entries

/-- **A call on which the stores agree.** -/
def DispatchStoreCall.Regular (rt : Runtime) (db : Db) : DispatchStoreCall → Prop
  | record call _ => ∀ dispatch, db.workflowDispatch? call.dispatchId = some dispatch →
      call.check (some dispatch) = .ok () → call.Regular rt db dispatch
  | _ => True

/-! ### The invariant of the pair -/

/-- A run as the record calls leave it: the columns that none of them writes are null. -/
structure WorkflowRun.Projected (run : WorkflowRun) : Prop where
  cancellationCause : run.cancellationCause = none
  completedAt : run.completedAt = none
  lastOperatorAction : run.lastOperatorAction = none
  retrySummary : run.retrySummary = .null
  waitReason : run.waitReason = none

/-- A dispatch row as the Prisma store reports it. -/
def WorkflowDispatch.report (createdAt : String → Instant) (row : WorkflowDispatch) :
    TimedDispatchRecord :=
  (mapDispatchRecord row).timed createdAt

/-- The two maps of runs belong together: the one names the runs that the other keeps. -/
structure MemoryDispatchStore.Indexed (memory : MemoryDispatchStore) : Prop where
  runIds : (memory.workflowRunsById.map (·.workflowRunId)).Nodup
  named : ∀ r ∈ memory.workflowRunsById, r.workflowRunId ≠ ""
  index : ∀ workflowId workflowRunId,
    memory.workflowRunsByWorkflowId workflowId = some workflowRunId ↔
      ∃ r ∈ memory.workflowRunsById, r.workflowId = workflowId ∧ r.workflowRunId = workflowRunId

/-- Both stores hold the same. -/
structure DispatchPair.Inv (rt : Runtime) (createdAt : String → Instant) (pair : DispatchPair) :
    Prop where
  dispatches : (sortBy (TimedDispatchRecord.before rt) pair.memory.dispatches).map (·.clone) =
    pair.db.workflowDispatches.rows.map (·.report createdAt)
  runs : pair.memory.workflowRunsById.map (·.toWorkflowRunRecord) =
    pair.db.workflowRuns.rows.map mapWorkflowRunRecord
  projected : ∀ run ∈ pair.db.workflowRuns.rows, run.Projected
  indexed : pair.memory.Indexed

/-! ### Lists of records with keys -/

section Keyed

variable {α κ : Type} [DecidableEq κ] {key : α → κ} {k : κ}

/-- Reordering a list changes no lookup. -/
theorem find?_key_perm {l l' : List α} (hperm : l.Perm l') (hnodup : (l.map key).Nodup) :
    l.find? (fun x => key x == k) = l'.find? fun x => key x == k := by
  refine Option.ext fun a => ?_
  rw [find?_key_iff hnodup, find?_key_iff ((hperm.map key).nodup_iff.mp hnodup), hperm.mem_iff]

/-- Setting a value that is there already. -/
theorem setValue_of_mem {x : α} {values : List α} (h : ∃ y ∈ values, key y = key x) :
    setValue key x values = values.map fun y => if key y = key x then x else y := by
  have hany : (values.any fun y => decide (key y = key x)) = true := by
    simpa only [List.any_eq_true, decide_eq_true_eq] using h
  unfold setValue
  rw [if_pos hany]

/-- Setting a new value. -/
theorem setValue_of_notMem {x : α} {values : List α} (h : ∀ y ∈ values, key y ≠ key x) :
    setValue key x values = values ++ [x] := by
  have hany : ¬ (values.any fun y => decide (key y = key x)) = true := by
    simpa only [List.any_eq_true, decide_eq_true_eq, not_exists, not_and] using h
  unfold setValue
  rw [if_neg hany]

/-- Values with different keys that are set one after another stand in their order. -/
theorem foldl_setValue {β : Type} {f : β → α} {items : List β} (values : List α)
    (hnodup : ((values ++ items.map f).map key).Nodup) :
    items.foldl (fun values b => setValue key (f b) values) values = values ++ items.map f := by
  induction items generalizing values with
  | nil => exact (List.append_nil _).symm
  | cons b items ih =>
      have hnew : ∀ y ∈ values, key y ≠ key (f b) := by
        intro y hy
        rw [List.map_append, List.nodup_append] at hnodup
        exact hnodup.2.2 _ (List.mem_map_of_mem hy) _ (by simp)
      rw [List.foldl_cons, setValue_of_notMem hnew, ih]
      · rw [List.map_cons, List.append_assoc, List.singleton_append]
      · rwa [List.append_assoc, List.singleton_append]

end Keyed

/-! ### Claims -/

section Claims

variable {rt : Runtime} {createdAt : String → Instant} {input : ClaimPendingWorkflowDispatchesInput}

/-- Records, some of which are claimed. -/
def claimAll (input : ClaimPendingWorkflowDispatchesInput) (ids : List String)
    (records : List TimedDispatchRecord) : List TimedDispatchRecord :=
  records.map fun d => if d.dispatchId ∈ ids then d.claimedBy input else d

theorem claimAll_nil (records : List TimedDispatchRecord) :
    claimAll input [] records = records := by
  simp [claimAll]

/-- One record is claimed, and then others. -/
theorem claimAll_cons {id : String} {ids : List String} (hid : id ∉ ids)
    (records : List TimedDispatchRecord) :
    claimAll input ids (records.map fun d => if d.dispatchId = id then d.claimedBy input else d) =
      claimAll input (id :: ids) records := by
  simp only [claimAll, List.map_map]
  refine List.map_congr_left fun d _ => ?_
  by_cases hd : d.dispatchId = id
  · simp [TimedDispatchRecord.claimedBy, hd, hid]
  · simp [hd]

/-- The records that a claim takes from a sorted list. -/
def takenRecords (limit : Nat) (records : List TimedDispatchRecord) : List TimedDispatchRecord :=
  (records.filter (·.claimable)).take limit

/-- **The in-memory claim** takes the claimable records up to the limit. -/
theorem foldl_claimTurn {records : List TimedDispatchRecord} (claimed : List TimedDispatchRecord)
    (memory : MemoryDispatchStore) (hnodup : (records.map (·.dispatchId)).Nodup) :
    records.foldl (MemoryDispatchStore.claimTurn input) (claimed, memory) =
      (claimed ++ (takenRecords (input.limit - claimed.length) records).map
          fun d => (d.claimedBy input).clone,
        { memory with
          dispatches := claimAll input
            ((takenRecords (input.limit - claimed.length) records).map (·.dispatchId))
            memory.dispatches }) := by
  induction records generalizing claimed memory with
  | nil => simp [takenRecords, claimAll_nil]
  | cons d rest ih =>
      rw [List.map_cons, List.nodup_cons] at hnodup
      rw [List.foldl_cons]
      by_cases hlimit : input.limit ≤ claimed.length
      · have hturn : MemoryDispatchStore.claimTurn input (claimed, memory) d =
          (claimed, memory) := by
          simp [MemoryDispatchStore.claimTurn, hlimit]
        rw [hturn, ih _ _ hnodup.2]
        simp [takenRecords, Nat.sub_eq_zero_of_le hlimit]
      · cases hclaimable : d.claimable with
        | false =>
            have hturn : MemoryDispatchStore.claimTurn input (claimed, memory) d =
                (claimed, memory) := by
              simp [MemoryDispatchStore.claimTurn, hclaimable]
            rw [hturn, ih _ _ hnodup.2]
            simp [takenRecords, hclaimable]
        | true =>
            have hturn : MemoryDispatchStore.claimTurn input (claimed, memory) d =
                (claimed ++ [(d.claimedBy input).clone],
                  memory.modifyDispatch d.dispatchId (·.claimedBy input)) := by
              simp [MemoryDispatchStore.claimTurn, hlimit, hclaimable]
            obtain ⟨n, hn⟩ : ∃ n, input.limit - claimed.length = n + 1 :=
              ⟨input.limit - claimed.length - 1, by omega⟩
            have hrest : input.limit - (claimed ++ [(d.claimedBy input).clone]).length = n := by
              rw [List.length_append, List.length_singleton]
              omega
            have htaken : takenRecords (n + 1) (d :: rest) = d :: takenRecords n rest := by
              simp [takenRecords, hclaimable]
            have hnot : d.dispatchId ∉ (takenRecords n rest).map (·.dispatchId) := fun hmem =>
              hnodup.1 ((((List.take_sublist _ _).trans List.filter_sublist).map _).subset hmem)
            rw [hturn, ih _ _ hnodup.2, hrest, hn, htaken]
            simp only [MemoryDispatchStore.modifyDispatch, List.map_cons, List.append_assoc,
              List.singleton_append, claimAll_cons hnot]

/-- The rows after an update of a dispatch. -/
theorem updateWorkflowDispatch_rows {db db' : Db} {id : String}
    {data : WorkflowDispatch → WorkflowDispatch} (h : db.updateWorkflowDispatch id data = .ok db') :
    db'.workflowDispatches.rows =
        db.workflowDispatches.rows.map (fun r => if r.id = id then data r else r) ∧
      db'.workflowRuns = db.workflowRuns := by
  obtain ⟨t, ht, rfl⟩ := write_eq_ok.mp h
  refine ⟨?_, rfl⟩
  simp only [(Table.update_eq_ok_iff.mp ht).2, Table.updatedRows, beq_iff_eq]

/-- Rows, some of which are claimed. -/
def claimRows (input : ClaimPendingWorkflowDispatchesInput) (ids : List String)
    (rows : List WorkflowDispatch) : List WorkflowDispatch :=
  rows.map fun r => if r.id ∈ ids then r.claimedBy input else r

/-- **The Prisma claim** takes all its candidates. -/
theorem foldl_claimCandidate {candidates : List WorkflowDispatch}
    {claimed : List WorkflowDispatchRecord} {db : Db} (hnodup : (candidates.map (·.id)).Nodup)
    (hcandidates : ∀ c ∈ candidates, db.workflowDispatch? c.id = some c ∧ c.claimable = true) :
    (candidates.foldl (claimCandidate input) (claimed, db)).1 =
        claimed ++ candidates.map (fun c => mapDispatchRecord (c.claimedBy input)) ∧
      (candidates.foldl (claimCandidate input) (claimed, db)).2.workflowDispatches.rows =
        claimRows input (candidates.map (·.id)) db.workflowDispatches.rows ∧
      (candidates.foldl (claimCandidate input) (claimed, db)).2.workflowRuns = db.workflowRuns := by
  induction candidates generalizing claimed db with
  | nil => simp [claimRows]
  | cons c rest ih =>
      rw [List.map_cons, List.nodup_cons] at hnodup
      obtain ⟨⟨hrow, hclaimable⟩, hrest⟩ := List.forall_mem_cons.mp hcandidates
      have hcount : db.workflowDispatches.countP c.guards = 1 := by
        refine (Table.countP_eq_one_iff fun a b ha hb => ?_).mpr
          ⟨c, (workflowDispatch?_eq_some_iff.mp hrow).1, ?_⟩
        · simp only [WorkflowDispatch.guards, Bool.and_eq_true, beq_iff_eq] at ha hb
          simp [clash, sameKey, ha.1.2, hb.1.2]
        · simp only [WorkflowDispatch.guards, hclaimable, beq_self_eq_true, Bool.and_self]
      obtain ⟨db₁, hupdate⟩ := updateWorkflowDispatch_ok (c.claim input) hrow
      have heffect : (updateDispatch c.id (c.claim input)).effect db = db₁ := by
        simp only [updateDispatch, hupdate, keepOnError]
      have hrow₁ : db₁.workflowDispatch? c.id = some (c.claimedBy input) := by
        rw [workflowDispatch?_updated hupdate, hrow, Option.map_some, if_pos rfl]
        rfl
      have hturn : claimCandidate input (claimed, db) c =
          (claimed ++ [mapDispatchRecord (c.claimedBy input)], db₁) := by
        simp only [claimCandidate, hcount, if_true, heffect, hrow₁]
      obtain ⟨hrows₁, hruns₁⟩ := updateWorkflowDispatch_rows hupdate
      rw [List.foldl_cons, hturn]
      obtain ⟨hclaimed, hrows, hruns⟩ :=
        @ih (claimed ++ [mapDispatchRecord (c.claimedBy input)]) db₁
        hnodup.2 fun c' hc' => by
          have hne : c'.id ≠ c.id := fun heq => hnodup.1 (heq ▸ List.mem_map_of_mem hc')
          rw [workflowDispatch?_updated hupdate, (hrest c' hc').1, Option.map_some, if_neg hne]
          exact ⟨rfl, (hrest c' hc').2⟩
      refine ⟨?_, ?_, hruns.trans hruns₁⟩
      · rw [hclaimed, List.append_assoc, List.map_cons, List.singleton_append]
      · rw [hrows, hrows₁]
        simp only [claimRows, List.map_map]
        refine List.map_congr_left fun r hr => ?_
        by_cases hid : r.id = c.id
        · have hrc : r = c := by
            have hfound := workflowDispatch?_eq_some_iff.mpr ⟨hr, hid⟩
            exact Option.some.inj (hfound.symm.trans hrow)
          subst hrc
          have hclaim : ((r.claim input).data r).id = r.id := rfl
          simp only [Function.comp_apply, if_true, hclaim, hnodup.1, if_false, List.map_cons,
            List.mem_cons_self]
          rfl
        · simp only [Function.comp_apply, List.map_cons, List.mem_cons, hid, false_or, if_false]

/-- A change that keeps the ids and the creation times keeps the order of a claim. -/
theorem sortBy_before_map {change : TimedDispatchRecord → TimedDispatchRecord}
    (hid : ∀ d, (change d).dispatchId = d.dispatchId)
    (hcreated : ∀ d, (change d).createdAt = d.createdAt) (records : List TimedDispatchRecord) :
    sortBy (TimedDispatchRecord.before rt) (records.map change) =
      (sortBy (TimedDispatchRecord.before rt) records).map change := by
  refine (List.map_insertionSort (fun a b => TimedDispatchRecord.before rt a b = true)
    (fun a b => TimedDispatchRecord.before rt a b = true) change records fun a _ b _ => ?_).symm
  simp only [TimedDispatchRecord.before, hid, hcreated]

end Claims

/-! ### The runs of the in-memory store -/

namespace MemoryDispatchStore.Indexed

variable {memory : MemoryDispatchStore} {workflowId workflowRunId : String}

/-- The index names a run by the id that is kept with its workflow. -/
theorem workflowRunId_eq_iff (h : memory.Indexed)
    (hindex : memory.workflowRunsByWorkflowId workflowId = some workflowRunId)
    {r : MemoryWorkflowRunRecord} (hr : r ∈ memory.workflowRunsById) :
    r.workflowRunId = workflowRunId ↔ r.workflowId = workflowId := by
  constructor
  · rintro rfl
    obtain ⟨r', hr', hworkflow, hrun⟩ := (h.index _ _).mp hindex
    obtain rfl : r' = r := List.inj_on_of_nodup_map h.runIds hr' hr hrun
    exact hworkflow
  · intro hworkflow
    exact Option.some.inj (((h.index _ _).mpr ⟨r, hr, hworkflow, rfl⟩).symm.trans hindex)

/-- The runs are of different workflows. -/
theorem workflowIds (h : memory.Indexed) : (memory.workflowRunsById.map (·.workflowId)).Nodup := by
  refine List.Nodup.map_on (fun r hr r' hr' heq => ?_) (List.Nodup.of_map _ h.runIds)
  have hindex := (h.index r.workflowId r.workflowRunId).mpr ⟨r, hr, rfl, rfl⟩
  exact List.inj_on_of_nodup_map h.runIds hr hr'
    ((h.workflowRunId_eq_iff hindex hr').mpr heq.symm).symm

/-- The run of a workflow is the one that is kept with it. -/
theorem runOf?_iff (h : memory.Indexed) {r : MemoryWorkflowRunRecord} :
    memory.runOf? workflowId = some r ↔
      r ∈ memory.workflowRunsById ∧ r.workflowId = workflowId := by
  simp only [runOf?, Option.bind_eq_some_iff, workflowRun?, find?_key_iff h.runIds]
  constructor
  · rintro ⟨id, hid, hr, hrun⟩
    exact ⟨hr, (h.workflowRunId_eq_iff (Option.filter_eq_some_iff.mp hid).1 hr).mp hrun⟩
  · rintro ⟨hr, hworkflow⟩
    have hindex := (h.index workflowId r.workflowRunId).mpr ⟨r, hr, hworkflow, rfl⟩
    refine ⟨r.workflowRunId, Option.filter_eq_some_iff.mpr ⟨hindex, ?_⟩, hr, rfl⟩
    simp [h.named r hr]

/-- **A run is upserted**: the records are set by their workflow. -/
theorem upsertWorkflowRun (h : memory.Indexed) (record : WorkflowRunRecord) (createdAt : Instant)
    {generatedId : String}
    (hfresh : generatedId ≠ "" ∧ ∀ r ∈ memory.workflowRunsById, r.workflowRunId ≠ generatedId) :
    ∃ memory', memory.upsertWorkflowRun record createdAt generatedId = (.ok (), memory') ∧
      memory'.Indexed ∧ memory'.dispatches = memory.dispatches ∧
      memory'.workflowRunsById.map (·.toWorkflowRunRecord) =
        setValue (·.workflowId) record.clone
          (memory.workflowRunsById.map (·.toWorkflowRunRecord)) := by
  obtain ⟨hne, hnew⟩ := hfresh
  cases hindex : memory.workflowRunsByWorkflowId record.workflowId with
  | some existingRunId =>
      obtain ⟨existingRun, hrun, hworkflow, hid⟩ := (h.index _ _).mp hindex
      have hpresent : present (some existingRunId) = some existingRunId := by
        have hnamed := h.named existingRun hrun
        rw [hid] at hnamed
        simp [present, hnamed]
      have hfound : memory.workflowRun? existingRunId = some existingRun :=
        (find?_key_iff h.runIds).mpr ⟨hrun, hid⟩
      have hkey := fun {r : MemoryWorkflowRunRecord} => h.workflowRunId_eq_iff hindex (r := r)
      unfold MemoryDispatchStore.upsertWorkflowRun
      simp only [hindex, hpresent, hfound]
      refine ⟨_, rfl, ?_, rfl, ?_⟩
      · have hids : ∀ r : MemoryWorkflowRunRecord,
            (if r.workflowRunId = existingRunId then r.replaced record createdAt
              else r).workflowRunId = r.workflowRunId := by
          intro r
          split <;> rfl
        have hworkflows : ∀ r : MemoryWorkflowRunRecord,
            (if r.workflowRunId = existingRunId then r.replaced record createdAt
              else r).workflowId = r.workflowId := by
          intro r
          split <;> rfl
        refine ⟨?_, fun r hr => ?_, fun workflowId workflowRunId => ?_⟩
        · rw [List.map_map]
          exact (List.map_congr_left fun r _ => hids r) ▸ h.runIds
        · obtain ⟨r₀, hr₀, rfl⟩ := List.mem_map.mp hr
          rw [hids]
          exact h.named r₀ hr₀
        · rw [h.index]
          constructor
          · rintro ⟨r, hr, rfl, rfl⟩
            exact ⟨_, List.mem_map_of_mem hr, hworkflows r, hids r⟩
          · rintro ⟨r, hr, rfl, rfl⟩
            obtain ⟨r₀, hr₀, rfl⟩ := List.mem_map.mp hr
            exact ⟨r₀, hr₀, (hworkflows r₀).symm, (hids r₀).symm⟩
      · have hmem : ∃ y ∈ memory.workflowRunsById.map (·.toWorkflowRunRecord),
            y.workflowId = record.clone.workflowId :=
          ⟨_, List.mem_map_of_mem hrun, hworkflow⟩
        rw [setValue_of_mem hmem, List.map_map, List.map_map]
        refine List.map_congr_left fun r hr => ?_
        by_cases heq : r.workflowRunId = existingRunId
        · have hr' : r.workflowId = record.clone.workflowId := (hkey hr).mp heq
          simp only [Function.comp_apply, if_pos heq, if_pos hr']
          rw [MemoryWorkflowRunRecord.replaced, hr']
        · have hr' : r.workflowId ≠ record.clone.workflowId := fun hw => heq ((hkey hr).mpr hw)
          simp only [Function.comp_apply, if_neg heq, if_neg hr']
  | none =>
      have hother : ∀ r ∈ memory.workflowRunsById, r.workflowId ≠ record.workflowId := by
        intro r hr hworkflow
        have hsome := (h.index _ _).mpr ⟨r, hr, hworkflow, rfl⟩
        rw [hindex] at hsome
        cases hsome
      unfold MemoryDispatchStore.upsertWorkflowRun
      simp only [hindex, present, Option.filter_none]
      refine ⟨_, rfl, ?_, rfl, ?_⟩
      · rw [setValue_of_notMem hnew]
        refine ⟨?_, fun r hr => ?_, fun workflowId workflowRunId => ?_⟩
        · rw [List.map_append, List.map_singleton]
          refine List.nodup_append.mpr ⟨h.runIds, List.nodup_singleton _, fun a ha b hb heq => ?_⟩
          obtain ⟨r, hr, rfl⟩ := List.mem_map.mp ha
          exact hnew r hr (heq.trans (List.mem_singleton.mp hb))
        · rcases List.mem_append.mp hr with hr | hr
          · exact h.named r hr
          · rw [List.mem_singleton.mp hr]
            exact hne
        · by_cases hw : workflowId = record.workflowId
          · subst hw
            dsimp only
            rw [JsMap.set_self]
            constructor
            · intro hid
              exact ⟨_, List.mem_append_right _ List.mem_cons_self, rfl, Option.some.inj hid⟩
            · rintro ⟨r, hr, hworkflow, rfl⟩
              rcases List.mem_append.mp hr with hr | hr
              · exact absurd hworkflow (hother r hr)
              · rw [List.mem_singleton.mp hr]
          · dsimp only
            rw [JsMap.set_of_ne _ _ hw, h.index]
            constructor
            · rintro ⟨r, hr, hrest⟩
              exact ⟨r, List.mem_append_left _ hr, hrest⟩
            · rintro ⟨r, hr, hworkflow, hid⟩
              rcases List.mem_append.mp hr with hr | hr
              · exact ⟨r, hr, hworkflow, hid⟩
              · rw [List.mem_singleton.mp hr] at hworkflow
                exact absurd hworkflow.symm hw
      · rw [setValue_of_notMem hnew, List.map_append, setValue_of_notMem]
        · rfl
        · intro r hr
          obtain ⟨r₀, hr₀, rfl⟩ := List.mem_map.mp hr
          exact hother r₀ hr₀

end MemoryDispatchStore.Indexed

/-! ### Reads -/

section Reads

variable {rt : Runtime} {createdAt : String → Instant} {pair : DispatchPair}

/-- The ids of the in-memory dispatches are different. -/
theorem DispatchPair.Inv.nodup (hinv : pair.Inv rt createdAt) :
    (pair.memory.dispatches.map (·.dispatchId)).Nodup := by
  have hrows : (pair.db.workflowDispatches.rows.map (·.id)).Nodup := by
    refine List.pairwise_map.mpr (pair.db.workflowDispatches.unique.imp ?_)
    intro a b hclash heq
    simp [clash, sameKey, heq] at hclash
  have hids : (sortBy (TimedDispatchRecord.before rt) pair.memory.dispatches).map (·.dispatchId) =
      pair.db.workflowDispatches.rows.map (·.id) := by
    have hmap := congrArg (List.map (·.dispatchId)) hinv.dispatches
    rwa [List.map_map, List.map_map] at hmap
  rw [← ((sortBy_perm _ _).map _).nodup_iff, hids]
  exact hrows

/-- **A dispatch reads the same** from both stores. -/
theorem DispatchPair.Inv.dispatch? (hinv : pair.Inv rt createdAt) (dispatchId : String) :
    (pair.memory.dispatch? dispatchId).map (·.clone) =
      (pair.db.workflowDispatch? dispatchId).map (·.report createdAt) := by
  have hmemory : pair.memory.dispatch? dispatchId =
      (sortBy (TimedDispatchRecord.before rt) pair.memory.dispatches).find?
        fun d => d.dispatchId == dispatchId :=
    find?_key_perm (sortBy_perm _ _).symm hinv.nodup
  have hclone :
    ((sortBy (TimedDispatchRecord.before rt) pair.memory.dispatches).map (·.clone)).find?
        (fun d => d.dispatchId == dispatchId) =
      (pair.memory.dispatch? dispatchId).map (·.clone) := by
    rw [List.find?_map, hmemory]
    rfl
  have hreport : (pair.db.workflowDispatches.rows.map (·.report createdAt)).find?
        (fun d => d.dispatchId == dispatchId) =
      (pair.db.workflowDispatch? dispatchId).map (·.report createdAt) := by
    rw [List.find?_map]
    rfl
  rw [← hclone, ← hreport, hinv.dispatches]

/-- What the Prisma store reports of a run is clean already. -/
theorem mapWorkflowRunRecord_clone (run : WorkflowRun) :
    (mapWorkflowRunRecord run).clone = mapWorkflowRunRecord run := by
  simp only [WorkflowRunRecord.clone, mapWorkflowRunRecord, present_present]

/-- The runs that are kept are clean. -/
theorem DispatchPair.Inv.clone (hinv : pair.Inv rt createdAt) {r : MemoryWorkflowRunRecord}
    (hr : r ∈ pair.memory.workflowRunsById) :
    r.toWorkflowRunRecord.clone = r.toWorkflowRunRecord := by
  have hmem : r.toWorkflowRunRecord ∈ pair.db.workflowRuns.rows.map mapWorkflowRunRecord :=
    hinv.runs ▸ List.mem_map_of_mem hr
  obtain ⟨run, -, hrun⟩ := List.mem_map.mp hmem
  rw [← hrun, mapWorkflowRunRecord_clone]

/-- **The run of a workflow reads the same** from both stores. -/
theorem DispatchPair.Inv.runOf? (hinv : pair.Inv rt createdAt) (workflowId : String) :
    (pair.memory.runOf? workflowId).map (·.toWorkflowRunRecord) =
      (pair.db.workflowRun? workflowId).map mapWorkflowRunRecord := by
  have hfind : pair.memory.runOf? workflowId =
      pair.memory.workflowRunsById.find? fun r => r.workflowId == workflowId := by
    refine Option.ext fun r => ?_
    rw [hinv.indexed.runOf?_iff, find?_key_iff hinv.indexed.workflowIds]
  have hmemory : (pair.memory.workflowRunsById.map (·.toWorkflowRunRecord)).find?
        (fun r => r.workflowId == workflowId) =
      (pair.memory.runOf? workflowId).map (·.toWorkflowRunRecord) := by
    rw [List.find?_map, hfind]
    rfl
  have hdb : (pair.db.workflowRuns.rows.map mapWorkflowRunRecord).find?
        (fun r => r.workflowId == workflowId) =
      (pair.db.workflowRun? workflowId).map mapWorkflowRunRecord := by
    rw [List.find?_map]
    rfl
  rw [← hmemory, ← hdb, hinv.runs]

end Reads

/-! ### Writes -/

/-- **A statement on a run sets its row**, as the rows are reported. -/
theorem RunStatement.apply_setValue {s : RunStatement} {db db' : Db} {row : WorkflowRun}
    (h : s.apply db = .ok db') (hresult : s.result (db.workflowRun? s.workflowId) = some row) :
    db'.workflowDispatches = db.workflowDispatches ∧
      db'.workflowRuns.rows.map mapWorkflowRunRecord =
        setValue (·.workflowId) (mapWorkflowRunRecord row)
          (db.workflowRuns.rows.map mapWorkflowRunRecord) ∧
      ∀ run ∈ db'.workflowRuns.rows, run ∈ db.workflowRuns.rows ∨ run = row := by
  have hinsert : ∀ {t : Table WorkflowRun}, (∀ x ∈ db.workflowRuns.rows, clash x row = false) →
      t.rows = db.workflowRuns.rows ++ [row] →
      t.rows.map mapWorkflowRunRecord =
          setValue (·.workflowId) (mapWorkflowRunRecord row)
            (db.workflowRuns.rows.map mapWorkflowRunRecord) ∧
        ∀ run ∈ t.rows, run ∈ db.workflowRuns.rows ∨ run = row := by
    intro t hfree hrows
    rw [hrows]
    refine ⟨?_, fun run hrun => by simpa using hrun⟩
    rw [setValue_of_notMem, List.map_append, List.map_singleton]
    intro y hy heq
    obtain ⟨x, hx, rfl⟩ := List.mem_map.mp hy
    have hclash := clash_of_workflowId x row heq
    rw [hfree x hx] at hclash
    cases hclash
  have hupdate :
    ∀ {t : Table WorkflowRun} {workflowId : String} {columns : RunUpdate} {run : WorkflowRun},
      db.workflowRun? workflowId = some run → row = columns.data run →
      t.rows = db.workflowRuns.updatedRows (fun r => r.workflowId == workflowId) columns.data →
      t.rows.map mapWorkflowRunRecord =
          setValue (·.workflowId) (mapWorkflowRunRecord row)
            (db.workflowRuns.rows.map mapWorkflowRunRecord) ∧
        ∀ run ∈ t.rows, run ∈ db.workflowRuns.rows ∨ run = row := by
    intro t workflowId columns run hrun hrow hrows
    have hfound := fun {r : WorkflowRun} =>
      @Table.find?_key_eq_some_iff _ _ _ _ _ (·.workflowId) workflowId db.workflowRuns
        clash_of_workflowId r
    obtain ⟨hmem, hid⟩ := hfound.mp hrun
    have hkey : (mapWorkflowRunRecord row).workflowId = workflowId := by
      rw [hrow]
      exact (columns.workflowId_data run).trans hid
    have heach : ∀ r ∈ db.workflowRuns.rows, r.workflowId = workflowId → columns.data r = row := by
      intro r hr hrid
      rw [hrow, Option.some.inj ((hfound.mpr ⟨hr, hrid⟩).symm.trans hrun)]
    have hexists : ∃ y ∈ db.workflowRuns.rows.map mapWorkflowRunRecord,
        y.workflowId = (mapWorkflowRunRecord row).workflowId :=
      ⟨_, List.mem_map_of_mem hmem, hid.trans hkey.symm⟩
    refine ⟨?_, fun r hr => ?_⟩
    · rw [setValue_of_mem hexists, hrows, Table.updatedRows, List.map_map, List.map_map]
      refine List.map_congr_left fun r hr => ?_
      simp only [Function.comp_apply, hkey, beq_iff_eq]
      by_cases hrid : r.workflowId = workflowId
      · have hreport : (mapWorkflowRunRecord r).workflowId = workflowId := hrid
        rw [if_pos hrid, if_pos hreport, heach r hr hrid]
      · have hreport : (mapWorkflowRunRecord r).workflowId ≠ workflowId := hrid
        rw [if_neg hrid, if_neg hreport]
    · rw [hrows, Table.mem_updatedRows] at hr
      rcases hr with ⟨r₀, hr₀, hsel, rfl⟩ | ⟨hr, -⟩
      · exact Or.inr (heach r₀ hr₀ (eq_of_beq hsel))
      · exact Or.inl hr
  cases s with
  | create created =>
      obtain ⟨t, ht, rfl⟩ := write_eq_ok.mp h
      obtain ⟨hfree, hrows⟩ := Table.insert_eq_ok_iff.mp ht
      have hnone : db.workflowRun? created.workflowId = none := by
        refine Table.find?_eq_none_iff.mpr fun r hr => beq_eq_false_iff_ne.mpr fun heq => ?_
        have hclash := clash_of_workflowId r created heq
        rw [hfree r hr] at hclash
        cases hclash
      simp only [RunStatement.result, RunStatement.workflowId, hnone, Option.orElse_none,
        Option.some.injEq] at hresult
      subst hresult
      exact ⟨rfl, hinsert hfree hrows⟩
  | update workflowId columns =>
      obtain ⟨t, ht, rfl⟩ := write_eq_ok.mp h
      obtain ⟨run, hrun, hrow⟩ := Option.map_eq_some_iff.mp hresult
      exact ⟨rfl, hupdate hrun hrow.symm (Table.update_eq_ok_iff.mp ht).2⟩
  | upsert created columns =>
      obtain ⟨t, ht, rfl⟩ := write_eq_ok.mp h
      have hrow : ((db.workflowRun? created.workflowId).map columns.data).getD created = row :=
        Option.some.inj hresult
      rcases Table.upsert_eq_ok_iff.mp ht with ⟨⟨x, hx, hsel⟩, hrows⟩ | ⟨hnone, hfree, hrows⟩
      · have hrun : db.workflowRun? created.workflowId = some x :=
          (Table.find?_key_eq_some_iff clash_of_workflowId).mpr ⟨hx, eq_of_beq hsel⟩
        rw [hrun] at hrow
        exact ⟨rfl, hupdate hrun hrow.symm hrows⟩
      · have hrun : db.workflowRun? created.workflowId = none := Table.find?_eq_none_iff.mpr hnone
        rw [hrun] at hrow
        obtain rfl : created = row := hrow
        exact ⟨rfl, hinsert hfree hrows⟩

section Writes

variable {rt : Runtime} {createdAt : String → Instant}

/-- **A dispatch is changed** in both stores. -/
theorem modify_report {dispatches : List TimedDispatchRecord} {rows : List WorkflowDispatch}
    {id : String} {change : TimedDispatchRecord → TimedDispatchRecord}
    (data : WorkflowDispatch → WorkflowDispatch)
    (reported : TimedDispatchRecord → TimedDispatchRecord)
    (h : (sortBy (TimedDispatchRecord.before rt) dispatches).map (·.clone) =
      rows.map (·.report createdAt))
    (hid : ∀ d, (change d).dispatchId = d.dispatchId)
    (hcreated : ∀ d, (change d).createdAt = d.createdAt)
    (hchange : ∀ d, (change d).clone = reported d.clone)
    (hdata : ∀ r, (data r).report createdAt = reported (r.report createdAt)) :
    (sortBy (TimedDispatchRecord.before rt)
        (dispatches.map fun d => if d.dispatchId = id then change d else d)).map (·.clone) =
      (rows.map fun r => if r.id = id then data r else r).map (·.report createdAt) := by
  have hclone : ∀ d : TimedDispatchRecord, (if d.dispatchId = id then change d else d).clone =
      if d.clone.dispatchId = id then reported d.clone else d.clone := by
    intro d
    by_cases hd : d.dispatchId = id
    · have hd' : d.clone.dispatchId = id := hd
      rw [if_pos hd, if_pos hd', hchange]
    · have hd' : d.clone.dispatchId ≠ id := hd
      rw [if_neg hd, if_neg hd']
  have hreport : ∀ r : WorkflowDispatch, (if r.id = id then data r else r).report createdAt =
      if (r.report createdAt).dispatchId = id then reported (r.report createdAt)
      else r.report createdAt := by
    intro r
    by_cases hr : r.id = id
    · have hr' : (r.report createdAt).dispatchId = id := hr
      rw [if_pos hr, if_pos hr', hdata]
    · have hr' : (r.report createdAt).dispatchId ≠ id := hr
      rw [if_neg hr, if_neg hr']
  rw [sortBy_before_map, List.map_map, List.map_map]
  · have hmap := congrArg
      (List.map fun d : TimedDispatchRecord => if d.dispatchId = id then reported d else d) h
    rw [List.map_map, List.map_map] at hmap
    refine Eq.trans (List.map_congr_left fun d _ => ?_)
      (hmap.trans (List.map_congr_left fun r _ => ?_))
    · exact hclone d
    · exact (hreport r).symm
  · intro d
    split
    · exact hid d
    · rfl
  · intro d
    split
    · exact hcreated d
    · rfl

/-- What `recordStarted` keeps is what it writes: on a new run. -/
theorem RecordStartedWorkflowDispatchInput.record_created
    {input : RecordStartedWorkflowDispatchInput} {d : TimedDispatchRecord} {row : WorkflowDispatch}
    (hd : d.clone = row.report createdAt) (hid : row.id = input.dispatchId) :
    (input.record d none).clone = mapWorkflowRunRecord (input.createdRun row) := by
  have hversion : d.assetVersionId = row.assetVersionId := congrArg (·.assetVersionId) hd
  have htemplate : d.workflowTemplateId = row.workflowTemplateId :=
    congrArg (·.workflowTemplateId) hd
  have hdispatch : d.dispatchId = input.dispatchId := (congrArg (·.dispatchId) hd).trans hid
  simp only [record, WorkflowRunRecord.clone, mapWorkflowRunRecord, createdRun, present_present,
    hversion, htemplate, hdispatch, Option.bind_none, Option.getD_none]
  rfl

/-- What `recordStarted` keeps is what it writes: on a run that is there. -/
theorem RecordStartedWorkflowDispatchInput.record_updated
    {input : RecordStartedWorkflowDispatchInput} {d : TimedDispatchRecord} {row : WorkflowDispatch}
    {run : WorkflowRun} (hd : d.clone = row.report createdAt) (hid : row.id = input.dispatchId)
    (hworkflow : run.workflowId = input.workflowId) (hrun : run.Projected)
    (hagain : run.Rerecordable row) :
    (input.record d (some (mapWorkflowRunRecord run))).clone =
      mapWorkflowRunRecord ((input.updatedRun row run).data run) := by
  have hversion : d.assetVersionId = row.assetVersionId := congrArg (·.assetVersionId) hd
  have htemplate : d.workflowTemplateId = row.workflowTemplateId :=
    congrArg (·.workflowTemplateId) hd
  have hdispatch : d.dispatchId = row.id := congrArg (·.dispatchId) hd
  have hphase : present (if run.state ≠ .queued ∧ (present (present run.currentPhase)).isSome then
        present run.currentPhase else present input.currentPhase) =
      present (if run.state ≠ .queued ∧ (present run.currentPhase).isSome then run.currentPhase
        else input.currentPhase) := by
    rw [present_present]
    split <;> exact present_present _
  have hnamed : present (some ((present run.workflowDispatchId).getD d.dispatchId)) =
      present (some (run.workflowDispatchId.getD input.dispatchId)) := by
    rw [hdispatch, ← hid]
    cases hname : run.workflowDispatchId with
    | none => rfl
    | some name =>
        by_cases hempty : name = ""
        · subst hempty
          rw [hagain.named hname]
          rfl
        · have hkept : present (some name) = some name := by simp [present, hempty]
          rw [hkept]
  simp only [record, WorkflowRunRecord.clone, mapWorkflowRunRecord, updatedRun, hphase, hnamed,
    hrun.cancellationCause, hrun.completedAt, hrun.lastOperatorAction, hrun.retrySummary,
    hrun.waitReason, hagain.template, hversion, htemplate, hworkflow, Option.bind_some]
  rfl

/-- What `recordDuplicate` keeps is what it writes. -/
theorem RecordDuplicateWorkflowDispatchInput.record_result
    {input : RecordDuplicateWorkflowDispatchInput} {d : TimedDispatchRecord}
    {row : WorkflowDispatch} {run : Option WorkflowRun} (hd : d.clone = row.report createdAt)
    (hid : row.id = input.dispatchId)
    (hworkflow : ∀ r, run = some r → r.workflowId = input.workflowId)
    (hrun : ∀ r, run = some r → r.Projected)
    (hagain : ∀ r, run = some r → r.workflowTemplateId = row.workflowTemplateId) :
    ∃ row', (input.runStatement row).result run = some row' ∧ row'.Projected ∧
      (input.record d).clone = mapWorkflowRunRecord row' := by
  have hversion : d.assetVersionId = row.assetVersionId := congrArg (·.assetVersionId) hd
  have htemplate : d.workflowTemplateId = row.workflowTemplateId :=
    congrArg (·.workflowTemplateId) hd
  have hdispatch : d.dispatchId = input.dispatchId := (congrArg (·.dispatchId) hd).trans hid
  refine ⟨_, rfl, ?_⟩
  cases run with
  | none =>
      refine ⟨⟨rfl, rfl, rfl, rfl, rfl⟩, ?_⟩
      simp only [record, WorkflowRunRecord.clone, mapWorkflowRunRecord, present_present, hversion,
        htemplate, hdispatch, Option.map_none, Option.getD_none]
      rfl
  | some r =>
      have hr := hrun r rfl
      refine ⟨⟨hr.cancellationCause, hr.completedAt, hr.lastOperatorAction, hr.retrySummary,
        hr.waitReason⟩, ?_⟩
      simp only [record, WorkflowRunRecord.clone, mapWorkflowRunRecord, present_present, hversion,
        htemplate, hdispatch, Option.map_some, Option.getD_some, hr.cancellationCause,
        hr.completedAt, hr.lastOperatorAction, hr.retrySummary, hr.waitReason, hworkflow r rfl,
        hagain r rfl]
      rfl

/-- What `recordStarted` keeps is what it writes. -/
theorem RecordStartedWorkflowDispatchInput.record_result
    {input : RecordStartedWorkflowDispatchInput} {d : TimedDispatchRecord} {row : WorkflowDispatch}
    {run : Option WorkflowRun} (hd : d.clone = row.report createdAt)
    (hid : row.id = input.dispatchId)
    (hworkflow : ∀ r, run = some r → r.workflowId = input.workflowId)
    (hrun : ∀ r, run = some r → r.Projected) (hagain : ∀ r, run = some r → r.Rerecordable row) :
    ∃ row', (input.runStatement row run).result run = some row' ∧ row'.Projected ∧
      (input.record d (run.map mapWorkflowRunRecord)).clone = mapWorkflowRunRecord row' := by
  cases run with
  | none => exact ⟨_, rfl, ⟨rfl, rfl, rfl, rfl, rfl⟩, record_created hd hid⟩
  | some r =>
      have hr := hrun r rfl
      exact ⟨_, rfl, ⟨hr.cancellationCause, hr.completedAt, hr.lastOperatorAction, hr.retrySummary,
        hr.waitReason⟩, record_updated hd hid (hworkflow r rfl) hr (hagain r rfl)⟩

variable {pair : DispatchPair} {call : RecordCall}

/-- A record call is checked on the same dispatch. -/
theorem DispatchPair.Inv.startingDispatch (hinv : pair.Inv rt createdAt) (call : RecordCall) :
    (∃ e, pair.memory.startingDispatch call = .error e ∧
      call.check (pair.db.workflowDispatch? call.dispatchId) = .error e) ∨
    ∃ d row, pair.memory.startingDispatch call = .ok d ∧
      pair.db.workflowDispatch? call.dispatchId = some row ∧ call.check (some row) = .ok () ∧
      d.clone = row.report createdAt := by
  have hsame := hinv.dispatch? call.dispatchId
  unfold MemoryDispatchStore.startingDispatch MemoryDispatchStore.getMutableDispatch
  cases hrow : pair.db.workflowDispatch? call.dispatchId with
  | none =>
      rw [hrow] at hsame
      rw [Option.map_eq_none_iff.mp hsame]
      exact Or.inl ⟨_, rfl, rfl⟩
  | some row =>
      rw [hrow] at hsame
      obtain ⟨d, hd, hclone⟩ := Option.map_eq_some_iff.mp hsame
      have htoken : d.versionToken = row.versionToken := congrArg (·.versionToken) hclone
      have hstate : d.dispatchState = row.dispatchState := congrArg (·.dispatchState) hclone
      have hid : d.dispatchId = call.dispatchId :=
        (congrArg (·.dispatchId) hclone).trans (workflowDispatch?_eq_some_iff.mp hrow).2
      rw [hd]
      simp only [RecordCall.check, htoken]
      by_cases hexpected : row.versionToken ≠ call.expectedVersionToken
      · rw [if_pos hexpected, if_pos hexpected]
        exact Or.inl ⟨_, rfl, rfl⟩
      · rw [if_neg hexpected, if_neg hexpected]
        by_cases hstarting : row.dispatchState ≠ .starting
        · refine Or.inl ⟨_, ?_, if_pos hstarting⟩
          change (if d.dispatchState ≠ .starting then _ else _) = _
          rw [hstate, hid, if_pos hstarting]
        · refine Or.inr ⟨d, row, ?_, rfl, (if_neg hexpected).trans (if_neg hstarting), hclone⟩
          change (if d.dispatchState ≠ .starting then _ else _) = _
          rw [hstate, if_neg hstarting]

/-- **A start or a duplicate that is accepted**: the dispatch moves, and the run is kept and
written. -/
theorem DispatchPair.Inv.recordRun {generatedId : String} {record : WorkflowRunRecord}
    {row' : WorkflowRun} {db₁ : Db} (hinv : pair.Inv rt createdAt) (createdAtRun : Instant)
    (s : RunStatement)
    (hfresh : generatedId ≠ "" ∧ ∀ r ∈ pair.memory.workflowRunsById, r.workflowRunId ≠ generatedId)
    (hupdate : pair.db.updateWorkflowDispatch call.dispatchId call.transition.data = .ok db₁)
    (happlies : s.Applies (pair.db.workflowRun? s.workflowId))
    (hresult : s.result (pair.db.workflowRun? s.workflowId) = some row') (hrow' : row'.Projected)
    (hrecord : record.clone = mapWorkflowRunRecord row') :
    ∃ memory' db', s.apply db₁ = .ok db' ∧
      (pair.memory.modifyDispatch call.dispatchId
          (·.moved call.targetState call.observedAt)).upsertWorkflowRun record createdAtRun
          generatedId = (.ok (), memory') ∧
      (DispatchPair.mk memory' db').Inv rt createdAt := by
  obtain ⟨hrows₁, hruns₁⟩ := updateWorkflowDispatch_rows hupdate
  have hfind₁ : db₁.workflowRun? s.workflowId = pair.db.workflowRun? s.workflowId := by
    rw [Db.workflowRun?, hruns₁]
    rfl
  obtain ⟨db', happly⟩ := @RunStatement.apply_ok db₁ s (hfind₁ ▸ happlies)
  obtain ⟨hdispatches, hruns', hmem⟩ := RunStatement.apply_setValue happly (hfind₁ ▸ hresult)
  have hindexed : (pair.memory.modifyDispatch call.dispatchId
      (·.moved call.targetState call.observedAt)).Indexed :=
    ⟨hinv.indexed.runIds, hinv.indexed.named, hinv.indexed.index⟩
  obtain ⟨memory', hupsert, hindexed', hdispatches', hkept⟩ :=
    hindexed.upsertWorkflowRun record createdAtRun hfresh
  refine ⟨memory', db', happly, hupsert, ?_, ?_, fun run hrun => ?_, hindexed'⟩
  · rw [hdispatches', hdispatches, hrows₁]
    exact modify_report call.transition.data (·.moved call.targetState call.observedAt)
      hinv.dispatches (fun _ => rfl) (fun _ => rfl) (fun _ => rfl) fun _ => rfl
  · rw [hkept, hruns', hruns₁, hrecord]
    exact congrArg _ hinv.runs
  · rcases hmem run hrun with hold | rfl
    · rw [hruns₁] at hold
      exact hinv.projected run hold
    · exact hrow'

/-- **A failure that is accepted.** -/
theorem DispatchPair.Inv.recordFailure {input : RecordFailedWorkflowDispatchInput}
    {row : WorkflowDispatch} (hinv : pair.Inv rt createdAt)
    (hcall : call = .failedRetryable input ∨ call = .failedTerminal input)
    (hrow : pair.db.workflowDispatch? call.dispatchId = some row)
    (hsurvives : ∀ entries, input.retrySummary = some entries → SurvivesColumn rt entries) :
    ∃ db₁ db', pair.db.updateWorkflowDispatch call.dispatchId call.transition.data = .ok db₁ ∧
      db₁.updateWorkflowDispatch call.dispatchId (input.failure rt).data = .ok db' ∧
      (DispatchPair.mk (pair.memory.modifyDispatch call.dispatchId
        (·.failed call.targetState input)) db').Inv rt createdAt := by
  obtain ⟨db₁, h₁⟩ := updateWorkflowDispatch_ok call.transition hrow
  obtain ⟨hrows₁, hruns₁⟩ := updateWorkflowDispatch_rows h₁
  have hrow₁ : db₁.workflowDispatch? call.dispatchId = some (call.transition.data row) := by
    rw [workflowDispatch?_updated h₁, hrow, Option.map_some, if_pos rfl]
  obtain ⟨db', h'⟩ := updateWorkflowDispatch_ok (input.failure rt) hrow₁
  obtain ⟨hrows', hruns'⟩ := updateWorkflowDispatch_rows h'
  have hobserved : call.observedAt = input.failedAt := by
    rcases hcall with rfl | rfl <;> rfl
  have hsummary : (asJsonRecord ((input.retrySummary.map fun s =>
      toJsonValue rt (.object s)).getD .null)).map Json.entriesToJs = input.retrySummary := by
    cases hinput : input.retrySummary with
    | none => rfl
    | some entries =>
        simp only [Option.map_some, Option.getD_some, toJsonValue, asJsonRecord]
        exact congrArg some (hsurvives entries hinput)
  refine ⟨db₁, db', h₁, h', ?_, ?_, ?_,
    ⟨hinv.indexed.runIds, hinv.indexed.named, hinv.indexed.index⟩⟩
  · have hboth : db'.workflowDispatches.rows = pair.db.workflowDispatches.rows.map fun r =>
        if r.id = call.dispatchId then (input.failure rt).data (call.transition.data r) else r := by
      rw [hrows', hrows₁, List.map_map]
      refine List.map_congr_left fun r _ => ?_
      by_cases hr : r.id = call.dispatchId
      · have hr' : (call.transition.data r).id = call.dispatchId := hr
        simp only [Function.comp_apply, if_pos hr, if_pos hr']
      · simp only [Function.comp_apply, if_neg hr]
    rw [hboth]
    refine modify_report (fun r => (input.failure rt).data (call.transition.data r))
      (fun d =>
        { d.moved call.targetState input.failedAt with
          lastFailureClass := present (some input.failureClass)
          retrySummary := input.retrySummary })
      hinv.dispatches (fun _ => rfl) (fun _ => rfl) (fun _ => rfl) fun r => ?_
    simp only [WorkflowDispatch.report, WorkflowDispatchRecord.timed, mapDispatchRecord,
      RecordFailedWorkflowDispatchInput.failure, RecordCall.transition, hsummary,
      TimedDispatchRecord.moved]
  · rw [hruns', hruns₁]
    exact hinv.runs
  · rw [hruns', hruns₁]
    exact hinv.projected

end Writes

/-! ### The stores agree -/

section Agreement

variable {rt : Runtime} {createdAt : String → Instant} {pair : DispatchPair}

/-- **A claim** takes the same dispatches, and keeps the stores the same. -/
theorem DispatchPair.Inv.claim (hinv : pair.Inv rt createdAt)
    (input : ClaimPendingWorkflowDispatchesInput) :
    (DispatchStoreCall.claimPendingDispatches input).Agree rt createdAt pair ∧
      ((DispatchStoreCall.claimPendingDispatches input).run rt pair).Inv rt createdAt := by
  obtain ⟨memory, db⟩ := pair
  have hdispatches : (sortBy (TimedDispatchRecord.before rt) memory.dispatches).map (·.clone) =
      db.workflowDispatches.rows.map (·.report createdAt) := hinv.dispatches
  have hnodup :
    ((sortBy (TimedDispatchRecord.before rt) memory.dispatches).map (·.dispatchId)).Nodup :=
    ((sortBy_perm _ _).map _).nodup_iff.mpr hinv.nodup
  have hmemory := @foldl_claimTurn input _ [] memory hnodup
  rw [List.length_nil, Nat.sub_zero, List.nil_append] at hmemory
  obtain ⟨hclaimed, hrows, hruns⟩ := @foldl_claimCandidate input _ [] db
    (@claimCandidates_nodup input db) fun c hc => by
      have hmem := List.mem_filter.mp (List.mem_of_mem_take hc)
      exact ⟨workflowDispatch?_eq_some_iff.mpr ⟨hmem.1, rfl⟩, hmem.2⟩
  have htaken : (takenRecords input.limit
        (sortBy (TimedDispatchRecord.before rt) memory.dispatches)).map (·.clone) =
      (claimCandidates input db).map (·.report createdAt) := by
    have htake := congrArg (fun l => (l.filter TimedDispatchRecord.claimable).take input.limit)
      hdispatches
    simp only [List.filter_map, ← List.map_take] at htake
    exact htake
  have hids : (takenRecords input.limit
        (sortBy (TimedDispatchRecord.before rt) memory.dispatches)).map (·.dispatchId) =
      (claimCandidates input db).map (·.id) := by
    have hmap := congrArg (List.map (·.dispatchId)) htaken
    rwa [List.map_map, List.map_map] at hmap
  constructor
  · simp only [DispatchStoreCall.Agree, MemoryDispatchStore.claimPendingDispatches, hmemory,
      Cdngine.claimPendingDispatches, hclaimed, List.nil_append]
    have hmap := congrArg (List.map (·.claimedBy input)) htaken
    rw [List.map_map, List.map_map] at hmap
    rw [List.map_map]
    exact hmap
  · refine ⟨?_, ?_, ?_, ?_⟩
    · simp only [DispatchStoreCall.run, MemoryDispatchStore.claimPendingDispatches, hmemory,
        Cdngine.claimPendingDispatches, hrows, hids]
      unfold claimAll claimRows
      rw [sortBy_before_map, List.map_map, List.map_map]
      · have hmap := congrArg (List.map fun d : TimedDispatchRecord =>
          if d.dispatchId ∈ (claimCandidates input db).map (·.id) then d.claimedBy input else d)
          hdispatches
        rw [List.map_map, List.map_map] at hmap
        refine Eq.trans (List.map_congr_left fun d _ => ?_)
          (hmap.trans (List.map_congr_left fun r _ => ?_))
        · simp only [Function.comp_apply]
          split
          · rename_i hd
            exact (if_pos hd).symm
          · rename_i hd
            exact (if_neg hd).symm
        · simp only [Function.comp_apply]
          split
          · rename_i hr
            have hr' : r.id ∈ (claimCandidates input db).map (·.id) := hr
            rw [if_pos hr']
            rfl
          · rename_i hr
            have hr' : r.id ∉ (claimCandidates input db).map (·.id) := hr
            rw [if_neg hr']
      · intro d
        split <;> rfl
      · intro d
        split <;> rfl
    · simp only [DispatchStoreCall.run, MemoryDispatchStore.claimPendingDispatches, hmemory,
        Cdngine.claimPendingDispatches, hruns]
      exact hinv.runs
    · simp only [DispatchStoreCall.run, Cdngine.claimPendingDispatches, hruns]
      exact hinv.projected
    · simp only [DispatchStoreCall.run, MemoryDispatchStore.claimPendingDispatches, hmemory]
      exact ⟨hinv.indexed.runIds, hinv.indexed.named, hinv.indexed.index⟩

/-- A transaction whose check, update and mutation succeed. -/
theorem transitionDispatch_eq_ok {call : RecordCall} {db db₁ db' : Db} {row : WorkflowDispatch}
    (hrow : db.workflowDispatch? call.dispatchId = some row)
    (hcheck : call.check (some row) = .ok ())
    (h₁ : db.updateWorkflowDispatch call.dispatchId call.transition.data = .ok db₁)
    (h' : call.mutation rt db₁ = .ok db') :
    transact (transitionDispatch rt call) db = (.ok (), db') := by
  have hok : transitionDispatch rt call db = .ok ((), db') :=
    bind_eq_ok.mpr ⟨(), hrow ▸ hcheck, bind_eq_ok.mpr ⟨db₁, h₁, bind_eq_ok.mpr ⟨db', h', rfl⟩⟩⟩
  simp only [transact, hok]

/-- **A record call** is answered alike and keeps the stores the same. -/
theorem DispatchPair.Inv.record {call : RecordCall} {generatedId : String}
    (hinv : pair.Inv rt createdAt)
    (hfresh : (DispatchStoreCall.record call generatedId).FreshId pair.memory)
    (hregular : (DispatchStoreCall.record call generatedId).Regular rt pair.db) :
    (DispatchStoreCall.record call generatedId).Agree rt createdAt pair ∧
      ((DispatchStoreCall.record call generatedId).run rt pair).Inv rt createdAt := by
  rcases hinv.startingDispatch call with ⟨e, hmemory, hcheck⟩ |
    ⟨d, row, hmemory, hrow, hcheck, hclone⟩
  · have hdb : transact (transitionDispatch rt call) pair.db = (.error e, pair.db) := by
      have herror : transitionDispatch rt call pair.db = .error e := by
        simp only [transitionDispatch, hcheck]
        rfl
      simp only [transact, herror]
    have hkept : pair.memory.record generatedId call = (.error e, pair.memory) := by
      simp only [MemoryDispatchStore.record, hmemory]
    simp only [DispatchStoreCall.Agree, DispatchStoreCall.run, hdb, hkept]
    exact ⟨trivial, hinv⟩
  · have hregular : call.Regular rt pair.db row := hregular row hrow hcheck
    have hid : row.id = call.dispatchId := (workflowDispatch?_eq_some_iff.mp hrow).2
    obtain ⟨db₁, h₁⟩ := updateWorkflowDispatch_ok call.transition hrow
    have hrow₁ : db₁.workflowDispatch? call.dispatchId = some (call.transition.data row) := by
      rw [workflowDispatch?_updated h₁, hrow, Option.map_some, if_pos rfl]
    have hrun₁ : ∀ workflowId, db₁.workflowRun? workflowId = pair.db.workflowRun? workflowId := by
      intro workflowId
      rw [Db.workflowRun?, (updateWorkflowDispatch_rows h₁).2]
      rfl
    have hworkflow : ∀ {workflowId : String} (r : WorkflowRun),
        pair.db.workflowRun? workflowId = some r → r.workflowId = workflowId := fun r hr =>
      ((Table.find?_key_eq_some_iff clash_of_workflowId).mp hr).2
    have hprojected : ∀ {workflowId : String} (r : WorkflowRun),
        pair.db.workflowRun? workflowId = some r → r.Projected := fun r hr =>
      hinv.projected r ((Table.find?_key_eq_some_iff clash_of_workflowId).mp hr).1
    have hagree : ∀ {memory' : MemoryDispatchStore} {db' : Db},
        pair.memory.record generatedId call = (.ok (), memory') → call.mutation rt db₁ = .ok db' →
        (DispatchPair.mk memory' db').Inv rt createdAt →
        (DispatchStoreCall.record call generatedId).Agree rt createdAt pair ∧
          ((DispatchStoreCall.record call generatedId).run rt pair).Inv rt createdAt := by
      intro memory' db' hkept hmutation hinv'
      simp only [DispatchStoreCall.Agree, DispatchStoreCall.run, hkept,
        transitionDispatch_eq_ok hrow hcheck h₁ hmutation]
      exact ⟨trivial, hinv'⟩
    cases call with
    | started input =>
        have hexisting := hinv.runOf? input.workflowId
        obtain ⟨row', hresult, hrow', hrecord⟩ := input.record_result hclone hid
          (fun r hr => hworkflow r hr) (fun r hr => hprojected r hr) hregular
        rw [← hexisting] at hrecord
        have hworkflowId :=
          input.runStatement_workflowId row (pair.db.workflowRun? input.workflowId)
        obtain ⟨memory', db', happly, hupsert, hinv'⟩ := hinv.recordRun
          (((pair.memory.runOf? input.workflowId).map (·.createdAt)).getD input.startedAt)
          (input.runStatement row (pair.db.workflowRun? input.workflowId)) hfresh h₁
          (by rw [hworkflowId]; exact input.runStatement_applies _ _)
          (by rw [hworkflowId]; exact hresult) hrow' hrecord
        refine hagree ?_ ?_ hinv'
        · simp only [MemoryDispatchStore.record, hmemory]
          exact hupsert
        · have hfound : db₁.workflowDispatch? input.dispatchId = _ := hrow₁
          simp only [RecordCall.mutation, hfound, hrun₁]
          exact happly
    | duplicate input =>
        obtain ⟨row', hresult, hrow', hrecord⟩ := input.record_result hclone hid
          (fun r hr => hworkflow r hr) (fun r hr => hprojected r hr) hregular
        obtain ⟨memory', db', happly, hupsert, hinv'⟩ := hinv.recordRun input.observedAt
          (input.runStatement row) hfresh h₁ trivial hresult hrow' hrecord
        refine hagree ?_ ?_ hinv'
        · simp only [MemoryDispatchStore.record, hmemory]
          exact hupsert
        · have hfound : db₁.workflowDispatch? input.dispatchId = _ := hrow₁
          simp only [RecordCall.mutation, hfound]
          exact happly
    | failedRetryable input =>
        obtain ⟨db₂, db', h₂, h', hinv'⟩ := hinv.recordFailure (Or.inl rfl) hrow hregular
        obtain rfl : db₂ = db₁ := Except.ok.inj (h₂.symm.trans h₁)
        refine hagree ?_ h' hinv'
        simp only [MemoryDispatchStore.record, hmemory]
        rfl
    | failedTerminal input =>
        obtain ⟨db₂, db', h₂, h', hinv'⟩ := hinv.recordFailure (Or.inr rfl) hrow hregular
        obtain rfl : db₂ = db₁ := Except.ok.inj (h₂.symm.trans h₁)
        refine hagree ?_ h' hinv'
        simp only [MemoryDispatchStore.record, hmemory]
        rfl

/-- **A regular call** is answered alike and keeps the stores the same. -/
theorem DispatchPair.Inv.step {call : DispatchStoreCall} (hinv : pair.Inv rt createdAt)
    (hfresh : call.FreshId pair.memory) (hregular : call.Regular rt pair.db) :
    call.Agree rt createdAt pair ∧ (call.run rt pair).Inv rt createdAt := by
  cases call with
  | claimPendingDispatches input => exact hinv.claim input
  | record call generatedId => exact hinv.record hfresh hregular
  | getDispatch dispatchId =>
      refine ⟨?_, hinv⟩
      have hread := hinv.dispatch? dispatchId
      simp only [DispatchStoreCall.Agree, MemoryDispatchStore.getDispatch, Db.getDispatch,
        Option.map_map]
      exact hread
  | listWorkflowRuns assetVersionId =>
      refine ⟨?_, hinv⟩
      obtain ⟨memory, db⟩ := pair
      have hruns : memory.workflowRunsById.map (·.toWorkflowRunRecord) =
        db.workflowRuns.rows.map mapWorkflowRunRecord := hinv.runs
      have hselected := congrArg (List.filter fun r : WorkflowRunRecord =>
        match present assetVersionId with
        | some id => r.assetVersionId == id
        | none => true) hruns
      rw [List.filter_map, List.filter_map] at hselected
      refine ((sortBy_perm _ _).map _).trans (List.Perm.of_eq ?_)
      refine Eq.trans (List.map_congr_left fun r hr => ?_) hselected
      exact hinv.clone (List.mem_filter.mp hr).1

/-- Two stores that begin with the same dispatches hold the same. -/
theorem DispatchPair.Initial.inv {seeds : List SeedWorkflowDispatchRecord}
    (h : pair.Initial createdAt seeds) : pair.Inv rt createdAt := by
  obtain ⟨memory, db⟩ := pair
  obtain ⟨rfl, hdispatches, hordered, hruns⟩ := h
  have hrowIds : (db.workflowDispatches.rows.map (·.id)).Nodup := by
    refine List.pairwise_map.mpr (db.workflowDispatches.unique.imp ?_)
    intro a b hclash heq
    simp [clash, sameKey, heq] at hclash
  have hseedIds : ((seeds.map (·.record)).map (·.dispatchId)).Nodup := by
    refine ((hdispatches.map _).nodup_iff).mpr ?_
    rw [List.map_map]
    exact hrowIds
  have hkept : (MemoryDispatchStore.ofSeeds seeds).dispatches = seeds.map (·.record) :=
    foldl_setValue [] hseedIds
  have hclean : ∀ d ∈ seeds.map (·.record), d.clone = d := by
    intro d hd
    obtain ⟨seed, -, rfl⟩ := List.mem_map.mp hd
    simp only [TimedDispatchRecord.clone, SeedWorkflowDispatchRecord.record, present_present]
  have hcreated : (db.workflowDispatches.rows.map (·.report createdAt)).Pairwise
      fun a b => a.createdAt < b.createdAt :=
    List.pairwise_map.mpr hordered
  have hsorted : (sortBy (TimedDispatchRecord.before rt) (seeds.map (·.record))).Pairwise
      fun a b => a.createdAt < b.createdAt := by
    refine sortBy_pairwise ?_ fun a b hne => ?_
    · refine ((hdispatches.map (·.createdAt)).nodup_iff).mpr ?_
      exact List.pairwise_map.mpr (hcreated.imp fun hlt => ne_of_lt hlt)
    · have hne' : a.createdAt ≠ b.createdAt := hne
      have hdiff : a.createdAt - b.createdAt ≠ 0 := fun h => hne' (Int.sub_eq_zero.mp h)
      have hle : a.createdAt - b.createdAt ≤ 0 ↔ a.createdAt ≤ b.createdAt :=
        ⟨Int.le_of_sub_nonpos, Int.sub_nonpos_of_le⟩
      simp only [TimedDispatchRecord.before, if_pos hdiff, decide_eq_true_eq, hle]
      exact ⟨fun h => lt_of_le_of_ne h hne', le_of_lt⟩
  refine ⟨?_, ?_, fun run hrun => ?_, ?_⟩
  · rw [hkept, List.map_congr_left fun d hd => hclean d ((sortBy_perm _ _).mem_iff.mp hd),
      List.map_id']
    exact ((sortBy_perm _ _).trans hdispatches).eq_of_pairwise
      (fun a b _ _ hab hba => absurd hab (lt_asymm hba)) hsorted hcreated
  · rw [hruns]
    rfl
  · rw [hruns] at hrun
    cases hrun
  · refine ⟨List.nodup_nil, (fun r hr => by cases hr), fun workflowId workflowRunId => ?_⟩
    constructor
    · intro hindex
      cases hindex
    · rintro ⟨r, hr, -⟩
      cases hr

end Agreement

/-- **The in-memory and the Prisma dispatch stores agree** on every run of calls, from the same
dispatches, whose calls are regular: each call is answered alike. -/
theorem dispatch_stores_agree {rt : Runtime} {createdAt : String → Instant}
    {seeds : List SeedWorkflowDispatchRecord} {pair pair' : DispatchPair}
    {tr : List (Transition DispatchPair DispatchStoreCall)}
    (hinitial : pair.Initial createdAt seeds) (hrun : Run (DispatchStoreStep rt) pair tr pair')
    (hfresh : ∀ τ ∈ tr, τ.action.FreshId τ.before.memory)
    (hregular : ∀ τ ∈ tr, τ.action.Regular rt τ.before.db) :
    ∀ τ ∈ tr, τ.action.Agree rt createdAt τ.before := by
  have hstep : ∀ {s : DispatchPair} {a : DispatchStoreCall} {s' : DispatchPair},
      s.Inv rt createdAt → DispatchStoreStep rt s a s' → a.FreshId s.memory ∧ a.Regular rt s.db →
      s'.Inv rt createdAt := by
    rintro s a s' hs rfl ⟨hfresh, hregular⟩
    exact (hs.step hfresh hregular).2
  have hinv := (hrun.forall_invariant_where
    (C := fun τ => τ.action.FreshId τ.before.memory ∧ τ.action.Regular rt τ.before.db) hstep
    hinitial.inv fun τ hτ => ⟨hfresh τ hτ, hregular τ hτ⟩).2
  intro τ hτ
  exact ((hinv τ hτ).1.step (hfresh τ hτ) (hregular τ hτ)).1

/-! ### Runs on which the stores agree and do not -/

/-- A seed of the sample dispatch of a template, by its id. -/
def sampleSeed (dispatchId workflowKey workflowTemplateId : String) (createdAt : Instant) :
    SeedWorkflowDispatchRecord where
  assetVersionId := "version-1"
  createdAt := some createdAt
  dispatchId
  dispatchReason := "upload-completed"
  workflowKey
  workflowTemplateId

/-- The row of the seed. -/
def sampleSeedRow (dispatchId workflowKey workflowTemplateId : String) (createdAt : Instant) :
    WorkflowDispatch where
  id := dispatchId
  assetVersionId := "version-1"
  workflowTemplateId
  dispatchReason := "upload-completed"
  dispatchState := .pending
  workflowKey
  updatedAt := createdAt

/-- Two dispatches of one version, of different templates. -/
def sampleSeeds : List SeedWorkflowDispatchRecord :=
  [sampleSeed "dispatch-2" "image-key" "image-processing-v1" 200,
    sampleSeed "dispatch-1" "asset-key" "asset-processing-v1" 100]

/-- When they were created. -/
def sampleCreatedAt (dispatchId : String) :
    Instant := if dispatchId = "dispatch-1" then 100 else 200

/-- Both stores with the dispatches. -/
def sampleDispatchPair : DispatchPair where
  memory := .ofSeeds sampleSeeds
  db :=
    { sampleRegistry with
      workflowDispatches :=
        ⟨[sampleSeedRow "dispatch-1" "asset-key" "asset-processing-v1" 100,
          sampleSeedRow "dispatch-2" "image-key" "image-processing-v1" 200], by decide⟩
      workflowRuns := .empty }

theorem sampleDispatchPair_initial : sampleDispatchPair.Initial sampleCreatedAt sampleSeeds where
  memory := rfl
  dispatches := List.Perm.swap _ _ []
  ordered := by decide
  runs := rfl

/-- The states of the stores along a list of calls. -/
def sampleDispatchTrace (calls : List DispatchStoreCall) :
    List (Transition DispatchPair DispatchStoreCall) :=
  trace (DispatchStoreCall.run sampleRuntime) sampleDispatchPair calls

/-- Both dispatches are claimed. -/
def sampleClaim : DispatchStoreCall := .claimPendingDispatches ⟨1000, 10⟩

/-- The start of a workflow is recorded for a dispatch. -/
def sampleStarted (dispatchId generatedId : String) : DispatchStoreCall :=
  .record (.started
    { dispatchId, expectedVersionToken := 2, startedAt := 2000, workflowId := "workflow-1" })
    generatedId

/-- A failure is recorded, with a summary. -/
def sampleFailed (retrySummary : List (String × JsValue)) : DispatchStoreCall :=
  .record (.failedRetryable
    { dispatchId := "dispatch-1", expectedVersionToken := 2, failedAt := 2000,
      failureClass := "start-failed", retrySummary := some retrySummary }) "wfr_1"

/-- A start, a retry with a summary of texts, and the reads. -/
theorem dispatch_runs_agree :
    sampleDispatchPair.Initial sampleCreatedAt sampleSeeds ∧
    ∀ τ ∈ sampleDispatchTrace [sampleClaim, sampleStarted "dispatch-2" "wfr_2",
        sampleFailed [("attempt", .number (.finite 1))], .getDispatch "dispatch-1",
        .listWorkflowRuns none],
      τ.action.Agree sampleRuntime sampleCreatedAt τ.before := by
  refine ⟨sampleDispatchPair_initial, dispatch_stores_agree sampleDispatchPair_initial
    (trace_run (DispatchStoreCall.run sampleRuntime) sampleDispatchPair _) ?_ ?_⟩
  · intro τ hτ
    simp only [sampleDispatchTrace, trace, List.mem_cons, List.not_mem_nil, or_false] at hτ
    rcases hτ with rfl | rfl | rfl | rfl | rfl
    · trivial
    · exact ⟨by decide, by decide +kernel⟩
    · exact ⟨by decide, by decide +kernel⟩
    · trivial
    · trivial
  · intro τ hτ
    simp only [sampleDispatchTrace, trace, List.mem_cons, List.not_mem_nil, or_false] at hτ
    rcases hτ with rfl | rfl | rfl | rfl | rfl
    · trivial
    · intro dispatch _ _ run hrun
      cases hrun
    · intro dispatch _ _ entries hentries
      obtain rfl := Option.some.inj hentries
      rfl
    · trivial
    · trivial

/-- **The stores diverge.** Dispatches of two templates record one workflow: the in-memory
store gives the run the template of the second, and the Prisma store leaves that of the
first. And a retry summary holds a null: the in-memory store reports it, and the Prisma store
reports the text `null`. -/
theorem rerecorded_run_diverges :
    sampleDispatchPair.Initial sampleCreatedAt sampleSeeds ∧
      (¬ ∀ τ ∈ sampleDispatchTrace [sampleClaim, sampleStarted "dispatch-1" "wfr_1",
          sampleStarted "dispatch-2" "wfr_2", .listWorkflowRuns none],
        τ.action.Agree sampleRuntime sampleCreatedAt τ.before) ∧
      ¬ ∀ τ ∈ sampleDispatchTrace [sampleClaim, sampleFailed [("cause", .null)],
          .getDispatch "dispatch-1"],
        τ.action.Agree sampleRuntime sampleCreatedAt τ.before := by
  refine ⟨sampleDispatchPair_initial, fun hagree => ?_, fun hagree => ?_⟩
  · have hlist := hagree _ (List.mem_cons_of_mem _
      (List.mem_cons_of_mem _ (List.mem_cons_of_mem _ List.mem_cons_self)))
    have htemplates := hlist.map (·.workflowTemplateId)
    exact absurd htemplates (by decide +kernel)
  · have hread := hagree _ (List.mem_cons_of_mem _ (List.mem_cons_of_mem _ List.mem_cons_self))
    have hnull := congrArg (fun d => (d.bind (·.retrySummary)).any fun entries =>
      entries.any fun e => e.2.isNull) hread
    exact absurd hnull (by decide +kernel)

end Cdngine
