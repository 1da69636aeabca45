import Cdngine.Completion
import Cdngine.Runs

/-!
# Interleaved Completions

Any number of calls of `completeUploadSession` for one upload session, interleaved
statement by statement under READ COMMITTED. The state is the committed database with the
calls in flight; each step is one statement or one commit of one call.

* A read sees the committed rows. A transaction reads no row it has written, so its own
  writes never matter to it.
* A write statement takes the lock of the row or unique key it writes and holds it to the
  end of its transaction; while another call holds the lock the step is not enabled. Its
  effect is applied to the committed rows at the commit, which the lock makes equal to
  applying it when it executes.
* A statement that fails aborts its transaction.

## Main results

* `settled_stays`: when every statement that writes the version executes before the
  version is settled, a settled version and its dispatches never change again.
* `writesBeforeSettled_of_read`: a call that reads its version as settled meets the condition.
* `settled_moves_to_canonicalizing`: without that condition they do.
-/

open Relational Runs

namespace Cdngine

/-! ### Locks -/

/-- What a write statement locks. -/
inductive Resource
  | uploadSession (id : String)
  | assetVersion (id : String)
  | asset (id : String)
  | workflowKey (key : String)
  | idempotencyRecord (key : ApiSurface × String × String × String)
  deriving DecidableEq, Repr

/-- The row or unique key that a statement locks; an insertion without a unique key
locks nothing. -/
def CompletionStatement.lock : CompletionStatement → Option Resource
  | .expireUploadSession id | .failUploadSession id _ | .markUploaded id _ _ =>
      some (.uploadSession id)
  | .failVersionValidation id | .startCanonicalizing id _ | .recordEvidence id _
  | .failRetryable id => some (.assetVersion id)
  | .setCurrentCanonicalVersion id _ => some (.asset id)
  | .createWorkflowDispatch row => some (.workflowKey row.workflowKey)
  | .persistIdempotencyRecord row => some (.idempotencyRecord row.key)
  | .createValidationResult _ | .createAuditEvent _ => none

/-! ### Calls -/

/-- Where a call stands. Inside a transaction it has executed some statements, which take
effect at the commit, and has others left. -/
inductive CallState
  | starting
  | replaying (reference : Option ReplayableUploadReference)
  | beforePhaseOne
  | inPhaseOne (executed todo : List CompletionStatement)
      (outcome : Except RegistryError PhaseOneResult)
  | canonicalizing (request : RegistryCanonicalizationRequest)
  | beforePhaseTwo (request : RegistryCanonicalizationRequest) (source : SnapshotResult)
  | recordingEvidence (request : RegistryCanonicalizationRequest) (source : SnapshotResult)
      (row : CompletionReplayRow) (executed todo : List CompletionStatement)
  | inPhaseTwo (request : RegistryCanonicalizationRequest)
      (executed todo : List CompletionStatement)
      (outcome : Except RegistryError RegistryCompletedUploadSession)
  | failing (request : RegistryCanonicalizationRequest) (cause : RegistryError)
  | finished (result : Except RegistryError RegistryCompletedUploadSession)

/-- A call: its input and where it stands. -/
structure Call where
  input : RegistryCompleteUploadSessionInput
  state : CallState

/-- The statements that a call has executed and not committed. -/
def CallState.executed : CallState → List CompletionStatement
  | .inPhaseOne executed _ _ | .recordingEvidence _ _ _ executed _ | .inPhaseTwo _ executed _ _ =>
      executed
  | _ => []

/-- The statements that a call has left in its transaction. -/
def CallState.todo : CallState → List CompletionStatement
  | .inPhaseOne _ todo _ | .recordingEvidence _ _ _ _ todo | .inPhaseTwo _ _ todo _ => todo
  | _ => []

/-- The statement that a call executes next. -/
def CallState.nextStatement (c : CallState) : Option CompletionStatement := c.todo.head?

/-- A call after its next statement executed. -/
def CallState.advance : CallState → CallState
  | .inPhaseOne executed (s :: todo) outcome => .inPhaseOne (executed ++ [s]) todo outcome
  | .recordingEvidence request source row executed (s :: todo) =>
      .recordingEvidence request source row (executed ++ [s]) todo
  | .inPhaseTwo request executed (s :: todo) outcome =>
      .inPhaseTwo request (executed ++ [s]) todo outcome
  | c => c

/-- A call after its transaction aborted: phase one throws, phase two reaches the
`catch`. -/
def CallState.abort (e : RegistryError) : CallState → CallState
  | .recordingEvidence request _ _ _ _ | .inPhaseTwo request _ _ _ => .failing request e
  | _ => .finished (.error e)

/-- Where a call goes once phase one has committed. -/
def PhaseOneResult.next : PhaseOneResult → CallState
  | .replay completed => .finished (.ok completed)
  | .validationFailure e => .finished (.error e)
  | .request r => .canonicalizing r

/-! ### The system -/

/-- The committed database and the calls in flight. -/
structure CompletionSystem where
  db : Db
  calls : List Call

/-- The steps of the system; the first argument names the call. -/
inductive CompletionAction
  | start (input : RegistryCompleteUploadSessionInput)
  | lookup (i : Nat)
  | loadReplay (i : Nat)
  | phaseOneRead (i : Nat) (now : Instant)
  | execute (i : Nat)
  | commit (i : Nat)
  | canonicalized (i : Nat) (result : Except RegistryError SnapshotResult)
  | phaseTwoRead (i : Nat) (now : Instant)
  | findDispatch (i : Nat) (newDispatchId : String) (now : Instant)
  | failRetryable (i : Nat)

namespace CompletionSystem

variable (sys : CompletionSystem)

/-- Replace the state of a call. -/
def setState (i : Nat) (state : CallState) : CompletionSystem :=
  { sys with calls := sys.calls.modify i fun c => { c with state } }

/-- Whether a call other than `i` holds the lock of a resource. -/
def blocked (i : Nat) (resource : Option Resource) : Bool :=
  sys.calls.zipIdx.any fun (c, j) =>
    j != i && resource.isSome && (c.state.executed.map CompletionStatement.lock).contains resource

/-- The idempotency lookup of a call. -/
def lookup (i : Nat) (c : Call) : CompletionSystem :=
  match sys.db.idempotencyRecord? c.input.idempotencyRecordKey with
  | none => sys.setState i .beforePhaseOne
  | some record =>
      if record.normalizedRequestHash ≠ some c.input.normalizedRequestHash then
        sys.setState i
          (.finished (.error (.uploadSessionIdempotencyConflict c.input.idempotencyKey)))
      else sys.setState i (.replaying record.responseReference)

/-- The read of phase one, and what it decides. -/
def phaseOneRead (i : Nat) (c : Call) (now : Instant) : CompletionSystem :=
  match sys.db.findUploadSession c.input.uploadSessionId with
  | none => sys.setState i (.finished (.error (.uploadSessionNotFound c.input.uploadSessionId)))
  | some row =>
      let script := phaseOneScript c.input now row
      sys.setState i (.inPhaseOne [] script.statements script.outcome)

/-- The read of phase two, and what it decides. -/
def phaseTwoRead (rt : Runtime) (i : Nat) (c : Call) (request : RegistryCanonicalizationRequest)
    (source : SnapshotResult) (now : Instant) : CompletionSystem :=
  match sys.db.findUploadSession c.input.uploadSessionId with
  | none => sys.setState i (.failing request (.uploadSessionNotFound c.input.uploadSessionId))
  | some row =>
      match tryBuildCompletionReplay row with
      | some replay =>
          let script := replayCompletion c.input now replay id
          sys.setState i (.inPhaseTwo request [] script.statements script.outcome)
      | none =>
          if row.version.lifecycleState ≠ .canonicalizing then
            sys.setState i (.failing request
              (.uploadSessionInvalidStateTransition c.input.uploadSessionId
                row.version.lifecycleState.text))
          else
            sys.setState i
              (.recordingEvidence request source row [] (phaseTwoEvidence rt source row))

/-- Execute the next statement of a call's transaction. -/
def execute (i : Nat) (c : Call) (s : CompletionStatement) : CompletionSystem :=
  match executeAll (c.state.executed ++ [s]) sys.db with
  | .ok _ => sys.setState i c.state.advance
  | .error e => sys.setState i (c.state.abort e)

/-- Commit a call's transaction: its statements take effect, and `next` is where the call
goes. -/
def commit (i : Nat) (c : Call) (next : CallState) : CompletionSystem :=
  match executeAll c.state.executed sys.db with
  | .ok db => { sys with db }.setState i next
  | .error e => sys.setState i (c.state.abort e)

/-- The statement of the `catch`, in a transaction of its own. -/
def failRetryable (i : Nat) (c : Call) (request : RegistryCanonicalizationRequest)
    (cause : RegistryError) : CompletionSystem :=
  match (CompletionStatement.failRetryable request.versionId).apply sys.db with
  | .ok db =>
      { sys with db }.setState i
        (.finished (.error (.uploadSessionCanonicalizationFailed c.input.uploadSessionId cause)))
  | .error e => sys.setState i (.finished (.error e))

/-- **The step function** of the calls for one upload session; `none` where the step is
not enabled. -/
def next (rt : Runtime) (uploadSessionId : String) (sys : CompletionSystem) :
    CompletionAction → Option CompletionSystem
  | .start input =>
      if input.uploadSessionId = uploadSessionId then
        some { sys with calls := sys.calls ++ [⟨input, .starting⟩] }
      else none
  | .lookup i => do
      let c ← sys.calls[i]?
      match c.state with
      | .starting => some (sys.lookup i c)
      | _ => none
  | .loadReplay i => do
      let c ← sys.calls[i]?
      match c.state with
      | .replaying reference =>
          some (sys.setState i (.finished (loadCompletionReplay sys.db reference)))
      | _ => none
  | .phaseOneRead i now => do
      let c ← sys.calls[i]?
      match c.state with
      | .beforePhaseOne => some (sys.phaseOneRead i c now)
      | _ => none
  | .execute i => do
      let c ← sys.calls[i]?
      let s ← c.state.nextStatement
      if sys.blocked i s.lock then none else some (sys.execute i c s)
  | .commit i => do
      let c ← sys.calls[i]?
      match c.state with
      | .inPhaseOne _ [] (.ok result) => some (sys.commit i c result.next)
      | .inPhaseOne _ [] (.error e) => some (sys.setState i (.finished (.error e)))
      | .inPhaseTwo _ _ [] (.ok completed) => some (sys.commit i c (.finished (.ok completed)))
      | .inPhaseTwo request _ [] (.error e) => some (sys.setState i (.failing request e))
      | _ => none
  | .canonicalized i result => do
      let c ← sys.calls[i]?
      match c.state, result with
      | .canonicalizing request, .ok source =>
          some (sys.setState i (.beforePhaseTwo request source))
      | .canonicalizing request, .error e => some (sys.setState i (.failing request e))
      | _, _ => none
  | .phaseTwoRead i now => do
      let c ← sys.calls[i]?
      match c.state with
      | .beforePhaseTwo request source => some (sys.phaseTwoRead rt i c request source now)
      | _ => none
  | .findDispatch i newDispatchId now => do
      let c ← sys.calls[i]?
      match c.state with
      | .recordingEvidence request source row executed [] =>
          let existing := sys.db.findWorkflowDispatch (dispatchWorkflowKey c.input row)
          let script := phaseTwoDispatch c.input source newDispatchId now row existing
          some (sys.setState i (.inPhaseTwo request executed script.statements script.outcome))
      | _ => none
  | .failRetryable i => do
      let c ← sys.calls[i]?
      match c.state with
      | .failing request cause =>
          if sys.blocked i (some (.assetVersion request.versionId)) then none
          else some (sys.failRetryable i c request cause)
      | _ => none

end CompletionSystem

/-- The step relation of the calls for one upload session. -/
def CompletionStep (rt : Runtime) (uploadSessionId : String) (sys : CompletionSystem)
    (a : CompletionAction) (sys' : CompletionSystem) : Prop :=
  sys.next rt uploadSessionId a = some sys'

/-! ### Statements that leave a version as it is -/

/-- A statement that does not lock a version leaves its row as it is. -/
theorem CompletionStatement.onVersion_of_lock_ne {s : CompletionStatement} {id : String}
    (h : s.lock ≠ some (.assetVersion id)) (v : AssetVersion) : s.onVersion id v = v := by
  have hne : ∀ {versionId : String}, some (Resource.assetVersion versionId) ≠
      some (Resource.assetVersion id) → ¬ id = versionId := by
    rintro versionId hne rfl
    exact hne rfl
  cases s with
  | failVersionValidation _ => exact if_neg (hne h)
  | startCanonicalizing _ _ => exact if_neg (hne h)
  | recordEvidence _ _ => exact if_neg (hne h)
  | failRetryable _ => exact if_neg (hne h)
  | _ => rfl

/-- Statements that neither lock a version nor create a dispatch for it leave its rows as
they are. -/
theorem executeAll_unchanged {ss : List CompletionStatement} {db db' : Db} {id : String}
    (h : executeAll ss db = .ok db') (hlock : ∀ s ∈ ss, s.lock ≠ some (.assetVersion id))
    (hdispatch : ∀ s ∈ ss, ∀ d, s.newDispatch = some d → d.assetVersionId ≠ id) :
    db.Unchanged db' id := by
  constructor
  · have hkeep : ∀ v : AssetVersion, ss.foldl (fun v s => s.onVersion id v) v = v := by
      clear h hdispatch
      induction ss with
      | nil => exact fun v => rfl
      | cons s ss ih =>
          intro v
          rw [List.foldl_cons, s.onVersion_of_lock_ne (hlock s List.mem_cons_self)]
          exact ih (fun s hs => hlock s (List.mem_cons_of_mem _ hs)) v
    rw [executeAll_version? h]
    simp only [hkeep, Option.map_id']
  · rw [Db.dispatchesOf, executeAll_dispatches h, List.filter_append]
    have hnone : (ss.filterMap CompletionStatement.newDispatch).filter
        (fun r => r.assetVersionId == id) = [] := by
      rw [List.filter_eq_nil_iff]
      intro d hd
      obtain ⟨s, hs, hsd⟩ := List.mem_filterMap.mp hd
      simpa using hdispatch s hs d hsd
    rw [hnone, List.append_nil]
    rfl

/-! ### The invariant -/

/-- A call **holds** a version when it has executed a statement that locks it. -/
def CallState.Holds (c : CallState) (id : String) : Prop :=
  ∃ s ∈ c.executed, s.lock = some (.assetVersion id)

/-- What the transaction of a call consists of: phase one creates no dispatch, phase two
first records the evidence, and creates a dispatch only for a version it holds. -/
def CallState.WellFormed (rt : Runtime) : CallState → Prop
  | .inPhaseOne executed todo _ => ∀ s ∈ executed ++ todo, s.newDispatch = none
  | .recordingEvidence _ source row executed todo =>
      executed ++ todo = phaseTwoEvidence rt source row
  | .inPhaseTwo _ executed todo _ =>
      ∀ s ∈ executed ++ todo, ∀ d, s.newDispatch = some d →
        ∃ s' ∈ executed, s'.lock = some (.assetVersion d.assetVersionId)
  | _ => True

/-- **The invariant** of the calls for a version: at most one holds it, none does once
it is settled, and every transaction is well formed. -/
structure CompletionSystem.Inv (rt : Runtime) (id : String) (sys : CompletionSystem) : Prop where
  exclusive : ∀ (i j : Nat) (ci cj : Call), sys.calls[i]? = some ci → sys.calls[j]? = some cj →
    ci.state.Holds id → cj.state.Holds id → i = j
  unsettled : ∀ (i : Nat) (c : Call), sys.calls[i]? = some c → c.state.Holds id →
    ¬ sys.db.Settled id
  wellFormed : ∀ (i : Nat) (c : Call), sys.calls[i]? = some c → c.state.WellFormed rt

namespace CompletionSystem

theorem getElem?_setState {sys : CompletionSystem} {i j : Nat} {st : CallState} {c' : Call}
    (h : (sys.setState i st).calls[j]? = some c') :
    (j = i ∧ c'.state = st) ∨ (j ≠ i ∧ sys.calls[j]? = some c') := by
  simp only [setState, List.getElem?_modify] at h
  by_cases hij : i = j
  · subst hij
    simp only [if_true, Option.map_eq_map, Option.map_eq_some_iff] at h
    obtain ⟨c, -, rfl⟩ := h
    exact Or.inl ⟨rfl, rfl⟩
  · simp only [if_neg hij, Option.map_eq_map, Option.map_id'] at h
    exact Or.inr ⟨Ne.symm hij, h⟩

/-- A call that moves on without a commit keeps the invariant, if a version it holds then
is held by no other call and not settled. -/
theorem Inv.setState {rt : Runtime} {id : String} {sys : CompletionSystem} (hinv : sys.Inv rt id)
    {i : Nat} {st : CallState} (hwf : st.WellFormed rt)
    (hholds : st.Holds id →
      (∀ (j : Nat) (c : Call), j ≠ i → sys.calls[j]? = some c → ¬ c.state.Holds id) ∧
      ¬ sys.db.Settled id) :
    (sys.setState i st).Inv rt id where
  exclusive := by
    intro j k cj ck hj hk hholdj hholdk
    rcases getElem?_setState hj with ⟨rfl, hstj⟩ | ⟨hji, hj'⟩
    · rcases getElem?_setState hk with ⟨rfl, -⟩ | ⟨hki, hk'⟩
      · rfl
      · exact absurd hholdk ((hholds (hstj ▸ hholdj)).1 k ck hki hk')
    · rcases getElem?_setState hk with ⟨rfl, hstk⟩ | ⟨-, hk'⟩
      · exact absurd hholdj ((hholds (hstk ▸ hholdk)).1 j cj hji hj')
      · exact hinv.exclusive j k cj ck hj' hk' hholdj hholdk
  unsettled := by
    intro j c hj hhold
    rcases getElem?_setState hj with ⟨rfl, hst⟩ | ⟨-, hj⟩
    · exact (hholds (hst ▸ hhold)).2
    · exact hinv.unsettled j c hj hhold
  wellFormed := by
    intro j c hj
    rcases getElem?_setState hj with ⟨rfl, hst⟩ | ⟨-, hj⟩
    · exact hst ▸ hwf
    · exact hinv.wellFormed j c hj

/-- A call that ends its transaction keeps the invariant: the version of every other
holder is left as it was. -/
theorem Inv.release {rt : Runtime} {id : String} {sys : CompletionSystem} (hinv : sys.Inv rt id)
    {i : Nat} {st : CallState} {db' : Db} (hexecuted : st.executed = []) (hwf : st.WellFormed rt)
    (hframe : (∃ (j : Nat) (c : Call), j ≠ i ∧ sys.calls[j]? = some c ∧ c.state.Holds id) →
      sys.db.Unchanged db' id) :
    ({ sys with db := db' }.setState i st).Inv rt id := by
  have hst : ¬ st.Holds id := by
    rintro ⟨s, hs, -⟩
    rw [hexecuted] at hs
    cases hs
  constructor
  · intro j k cj ck hj hk hholdj hholdk
    rcases getElem?_setState hj with ⟨rfl, hstj⟩ | ⟨-, hj⟩
    · exact absurd (hstj ▸ hholdj) hst
    · rcases getElem?_setState hk with ⟨rfl, hstk⟩ | ⟨-, hk⟩
      · exact absurd (hstk ▸ hholdk) hst
      · exact hinv.exclusive j k cj ck hj hk hholdj hholdk
  · intro j c hj hhold
    rcases getElem?_setState hj with ⟨rfl, hstj⟩ | ⟨hji, hj⟩
    · exact absurd (hstj ▸ hhold) hst
    · exact fun hsettled => hinv.unsettled j c hj hhold
        ((hframe ⟨j, c, hji, hj, hhold⟩).settled_iff.mp hsettled)
  · intro j c hj
    rcases getElem?_setState hj with ⟨rfl, hstj⟩ | ⟨-, hj⟩
    · exact hstj ▸ hwf
    · exact hinv.wellFormed j c hj

end CompletionSystem

/-! ### Inversion of a step -/

/-- **What a step does.** -/
inductive StepEffect (rt : Runtime) (sys : CompletionSystem) :
    CompletionAction → CompletionSystem → Prop
  | start (input : RegistryCompleteUploadSessionInput) :
      StepEffect rt sys (.start input) { sys with calls := sys.calls ++ [⟨input, .starting⟩] }
  | quiet {a : CompletionAction} {i : Nat} {st : CallState} (hexecuted : st.executed = [])
      (hwf : st.WellFormed rt) : StepEffect rt sys a (sys.setState i st)
  | findDispatch {i : Nat} {c : Call} {request : RegistryCanonicalizationRequest}
      {source : SnapshotResult} {row : CompletionReplayRow} {executed : List CompletionStatement}
      (newDispatchId : String) (now : Instant) (existing : Option WorkflowDispatch)
      (hc : sys.calls[i]? = some c)
      (hstate : c.state = .recordingEvidence request source row executed []) :
      StepEffect rt sys (.findDispatch i newDispatchId now)
        (sys.setState i (.inPhaseTwo request executed
          (phaseTwoDispatch c.input source newDispatchId now row existing).statements
          (phaseTwoDispatch c.input source newDispatchId now row existing).outcome))
  | execute {i : Nat} {c : Call} {s : CompletionStatement} (hc : sys.calls[i]? = some c)
      (hs : c.state.nextStatement = some s) (hfree : sys.blocked i s.lock = false) :
      StepEffect rt sys (.execute i) (sys.execute i c s)
  | commit {i : Nat} {c : Call} {next : CallState} (hc : sys.calls[i]? = some c)
      (htodo : c.state.todo = []) (hexecuted : next.executed = []) (hwf : next.WellFormed rt) :
      StepEffect rt sys (.commit i) (sys.commit i c next)
  | failRetryable {i : Nat} {c : Call} {request : RegistryCanonicalizationRequest}
      {cause : RegistryError} (hc : sys.calls[i]? = some c)
      (hstate : c.state = .failing request cause)
      (hfree : sys.blocked i (some (.assetVersion request.versionId)) = false) :
      StepEffect rt sys (.failRetryable i) (sys.failRetryable i c request cause)

theorem phaseOneScript_newDispatch (input : RegistryCompleteUploadSessionInput) (now : Instant)
    (row : CompletionReplayRow) :
    ∀ s ∈ (phaseOneScript input now row).statements, s.newDispatch = none := by
  by_cases hexpiry : now > row.uploadSession.expiresAt
  · simp [phaseOneScript_expired hexpiry, CompletionStatement.newDispatch]
  cases hreplay : tryBuildCompletionReplay row with
  | some replay =>
      simp [phaseOneScript_replay hexpiry hreplay, replayCompletion,
        CompletionStatement.newDispatch]
  | none =>
      by_cases hopen : row.uploadSession.isOpen
      swap
      · simp [phaseOneScript_closed hexpiry hreplay hopen]
      cases haccepts : acceptsCompletion row.version.lifecycleState with
      | false => simp [phaseOneScript_rejected hexpiry hreplay hopen haccepts]
      | true =>
          rw [phaseOneScript_open hexpiry hreplay hopen haccepts]
          cases stagedEvidenceProblem input row <;>
            simp [recordValidationFailure, acceptCompletion, CompletionStatement.newDispatch]

theorem PhaseOneResult.next_executed (r : PhaseOneResult) : r.next.executed = [] := by
  cases r <;> rfl

theorem PhaseOneResult.next_wellFormed (rt : Runtime) (r : PhaseOneResult) :
    r.next.WellFormed rt := by
  cases r <;> trivial

/-- **Inversion of a step.** -/
theorem step_effect {rt : Runtime} {uploadSessionId : String} {sys sys' : CompletionSystem}
    {a : CompletionAction} (h : CompletionStep rt uploadSessionId sys a sys') :
    StepEffect rt sys a sys' := by
  unfold CompletionStep at h
  cases a with
  | start input =>
      simp only [CompletionSystem.next] at h
      split at h
      · obtain rfl := Option.some.inj h
        exact .start input
      · cases h
  | lookup i =>
      simp only [CompletionSystem.next, Option.bind_eq_bind, Option.bind_eq_some_iff] at h
      obtain ⟨c, -, h⟩ := h
      split at h
      · obtain rfl := Option.some.inj h
        unfold CompletionSystem.lookup
        split
        · exact .quiet rfl trivial
        · split <;> exact .quiet rfl trivial
      · cases h
  | loadReplay i =>
      simp only [CompletionSystem.next, Option.bind_eq_bind, Option.bind_eq_some_iff] at h
      obtain ⟨c, -, h⟩ := h
      split at h
      · obtain rfl := Option.some.inj h
        exact .quiet rfl trivial
      · cases h
  | phaseOneRead i now =>
      simp only [CompletionSystem.next, Option.bind_eq_bind, Option.bind_eq_some_iff] at h
      obtain ⟨c, -, h⟩ := h
      split at h
      · obtain rfl := Option.some.inj h
        unfold CompletionSystem.phaseOneRead
        split
        · exact .quiet rfl trivial
        · exact .quiet rfl (phaseOneScript_newDispatch _ _ _)
      · cases h
  | execute i =>
      simp only [CompletionSystem.next, Option.bind_eq_bind, Option.bind_eq_some_iff] at h
      obtain ⟨c, hc, s, hs, h⟩ := h
      split at h
      · cases h
      · rename_i hfree
        obtain rfl := Option.some.inj h
        exact .execute hc hs (by simpa using hfree)
  | commit i =>
      simp only [CompletionSystem.next, Option.bind_eq_bind, Option.bind_eq_some_iff] at h
      obtain ⟨c, hc, h⟩ := h
      split at h
      · rename_i hstate
        obtain rfl := Option.some.inj h
        exact .commit hc (by rw [hstate]; rfl) (PhaseOneResult.next_executed _)
          (PhaseOneResult.next_wellFormed rt _)
      · obtain rfl := Option.some.inj h
        exact .quiet rfl trivial
      · rename_i hstate
        obtain rfl := Option.some.inj h
        exact .commit hc (by rw [hstate]; rfl) rfl trivial
      · obtain rfl := Option.some.inj h
        exact .quiet rfl trivial
      · cases h
  | canonicalized i result =>
      simp only [CompletionSystem.next, Option.bind_eq_bind, Option.bind_eq_some_iff] at h
      obtain ⟨c, -, h⟩ := h
      split at h
      · obtain rfl := Option.some.inj h
        exact .quiet rfl trivial
      · obtain rfl := Option.some.inj h
        exact .quiet rfl trivial
      · cases h
  | phaseTwoRead i now =>
      simp only [CompletionSystem.next, Option.bind_eq_bind, Option.bind_eq_some_iff] at h
      obtain ⟨c, -, h⟩ := h
      split at h
      · obtain rfl := Option.some.inj h
        unfold CompletionSystem.phaseTwoRead
        split
        · exact .quiet rfl trivial
        · split
          · refine .quiet rfl fun s hs d hd => ?_
            obtain rfl : s = _ := List.mem_singleton.mp hs
            cases hd
          · split
            · exact .quiet rfl trivial
            · exact .quiet rfl rfl
      · cases h
  | findDispatch i newDispatchId now =>
      simp only [CompletionSystem.next, Option.bind_eq_bind, Option.bind_eq_some_iff] at h
      obtain ⟨c, hc, h⟩ := h
      split at h
      · rename_i hstate
        obtain rfl := Option.some.inj h
        exact .findDispatch newDispatchId now _ hc hstate
      · cases h
  | failRetryable i =>
      simp only [CompletionSystem.next, Option.bind_eq_bind, Option.bind_eq_some_iff] at h
      obtain ⟨c, hc, h⟩ := h
      split at h
      · rename_i hstate
        split at h
        · cases h
        · rename_i hfree
          obtain rfl := Option.some.inj h
          exact .failRetryable hc hstate (by simpa using hfree)
      · cases h

/-! ### What a step preserves -/

theorem CallState.not_holds_of_executed {c : CallState} (h : c.executed = []) (id : String) :
    ¬ c.Holds id := by
  rintro ⟨s, hs, -⟩
  rw [h] at hs
  cases hs

theorem CallState.abort_executed (e : RegistryError) (c : CallState) :
    (c.abort e).executed = [] := by
  cases c <;> rfl

theorem CallState.abort_wellFormed (rt : Runtime) (e : RegistryError) (c : CallState) :
    (c.abort e).WellFormed rt := by
  cases c <;> trivial

theorem CallState.advance_executed {c : CallState} {s : CompletionStatement}
    (h : c.nextStatement = some s) : c.advance.executed = c.executed ++ [s] := by
  cases c with
  | inPhaseOne executed todo outcome =>
      cases todo with
      | nil => cases h
      | cons t todo => obtain rfl := Option.some.inj h; rfl
  | recordingEvidence request source row executed todo =>
      cases todo with
      | nil => cases h
      | cons t todo => obtain rfl := Option.some.inj h; rfl
  | inPhaseTwo request executed todo outcome =>
      cases todo with
      | nil => cases h
      | cons t todo => obtain rfl := Option.some.inj h; rfl
  | _ => cases h

theorem CallState.advance_wellFormed {rt : Runtime} {c : CallState} (h : c.WellFormed rt) :
    c.advance.WellFormed rt := by
  cases c with
  | inPhaseOne executed todo outcome =>
      cases todo with
      | nil => exact h
      | cons t todo => simpa [advance, WellFormed] using h
  | recordingEvidence request source row executed todo =>
      cases todo with
      | nil => exact h
      | cons t todo => simpa [advance, WellFormed] using h
  | inPhaseTwo request executed todo outcome =>
      cases todo with
      | nil => exact h
      | cons t todo =>
          intro s hs d hd
          obtain ⟨s', hs', hlock⟩ := h s (by simpa using hs) d hd
          exact ⟨s', List.mem_append_left _ hs', hlock⟩
  | _ => exact h

/-- An enabled statement locks nothing that another call holds. -/
theorem CompletionSystem.not_holds_of_not_blocked {sys : CompletionSystem} {i j : Nat} {c : Call}
    {id : String} (hfree : sys.blocked i (some (.assetVersion id)) = false) (hji : j ≠ i)
    (hc : sys.calls[j]? = some c) : ¬ c.state.Holds id := by
  rintro ⟨s, hs, hlock⟩
  have hmem : (c, j) ∈ sys.calls.zipIdx := by
    rw [List.mem_zipIdx_iff_getElem?]
    exact hc
  have hnot := List.any_eq_false.mp hfree (c, j) hmem
  refine hnot ?_
  simp only [Option.isSome_some, Bool.and_true, Bool.and_eq_true, bne_iff_ne, ne_eq]
  exact ⟨hji, List.contains_iff_mem.mpr (List.mem_map.mpr ⟨s, hs, hlock⟩)⟩

/-- The commit of a call that does not hold a version leaves its rows as they are. -/
theorem CallState.commit_unchanged {rt : Runtime} {c : CallState} {db db' : Db} {id : String}
    (h : executeAll c.executed db = .ok db') (hwf : c.WellFormed rt) (hhold : ¬ c.Holds id) :
    db.Unchanged db' id := by
  refine executeAll_unchanged h (fun s hs hlock => hhold ⟨s, hs, hlock⟩) ?_
  intro s hs d hd hid
  subst hid
  cases c with
  | inPhaseOne executed todo outcome =>
      have hnone := hwf s (List.mem_append_left _ hs)
      rw [hd] at hnone
      cases hnone
  | recordingEvidence request source row executed todo =>
      have hmem : s ∈ phaseTwoEvidence rt source row := hwf ▸ List.mem_append_left _ hs
      simp only [phaseTwoEvidence, List.mem_cons, List.not_mem_nil, or_false] at hmem
      rcases hmem with rfl | rfl <;> cases hd
  | inPhaseTwo request executed todo outcome =>
      exact hhold (hwf s (List.mem_append_left _ hs) d hd)
  | _ => cases hs

/-- The version that a statement locks. -/
def CompletionStatement.lockedVersion (s : CompletionStatement) : Option String :=
  match s.lock with
  | some (.assetVersion id) => some id
  | _ => none

/-- The version that the next step of a call writes: the one its next statement locks, or
the one its `catch` marks. -/
def CallState.versionWrite : CallState → Option String
  | .failing request _ => some request.versionId
  | c => c.nextStatement.bind CompletionStatement.lockedVersion

/-- A step **writes a version before it is settled**: no statement that writes the version
executes once it carries evidence and has a dispatch. -/
def WritesBeforeSettled (id : String) (τ : Transition CompletionSystem CompletionAction) : Prop :=
  match τ.action with
  | .execute i | .failRetryable i =>
      τ.before.calls[i]?.bind (fun c => c.state.versionWrite) = some id → ¬ τ.before.db.Settled id
  | _ => True

theorem CallState.versionWrite_of_nextStatement {c : CallState} {s : CompletionStatement}
    {id : String} (h : c.nextStatement = some s) (hlock : s.lock = some (.assetVersion id)) :
    c.versionWrite = some id := by
  have hs : c.nextStatement.bind CompletionStatement.lockedVersion = some id := by
    rw [h, Option.bind_some, CompletionStatement.lockedVersion, hlock]
  cases c with
  | failing request cause => cases h
  | _ => exact hs

/-! ### Calls that are done with the version -/

/-- A call is **done with its version**: it locks no version in what is left of it, and it returns
after its transaction. -/
def CallState.Spent : CallState → Prop
  | .inPhaseOne _ todo outcome =>
      (∀ s ∈ todo, s.lockedVersion = none) ∧ ∀ request, outcome ≠ .ok (.request request)
  | .inPhaseTwo _ executed todo outcome =>
      (∀ s ∈ executed ++ todo, ∃ row, s = .persistIdempotencyRecord row) ∧
        ∃ completed, outcome = .ok completed
  | .finished _ => True
  | _ => False

/-- Its next step writes no version. -/
theorem CallState.Spent.versionWrite {c : CallState} (h : c.Spent) : c.versionWrite = none := by
  cases c with
  | inPhaseOne executed todo outcome =>
      cases todo with
      | nil => rfl
      | cons s todo => exact h.1 s List.mem_cons_self
  | inPhaseTwo request executed todo outcome =>
      cases todo with
      | nil => rfl
      | cons s todo =>
          obtain ⟨row, rfl⟩ := h.1 s (List.mem_append_right _ List.mem_cons_self)
          rfl
  | finished result => rfl
  | _ => exact h.elim

/-- It stays so when a statement executes. -/
theorem CallState.Spent.advance {c : CallState} (h : c.Spent) : c.advance.Spent := by
  cases c with
  | inPhaseOne executed todo outcome =>
      cases todo with
      | nil => exact h
      | cons s todo => exact ⟨fun t ht => h.1 t (List.mem_cons_of_mem _ ht), h.2⟩
  | inPhaseTwo request executed todo outcome =>
      cases todo with
      | nil => exact h
      | cons s todo => exact ⟨fun t ht => h.1 t (by simpa using ht), h.2⟩
  | finished result => trivial
  | _ => exact h.elim

/-- What phase one answers ends the call, unless it is a request. -/
theorem PhaseOneResult.next_spent {r : PhaseOneResult} (h : ∀ request, r ≠ .request request) :
    r.next.Spent := by
  cases r with
  | request r => exact absurd rfl (h r)
  | _ => trivial

/-- Records can always be persisted. -/
theorem executeAll_persist {ss : List CompletionStatement} (db : Db)
    (h : ∀ s ∈ ss, ∃ row, s = .persistIdempotencyRecord row) :
    ∃ db', executeAll ss db = .ok db' := by
  induction ss generalizing db with
  | nil => exact ⟨db, rfl⟩
  | cons s ss ih =>
      obtain ⟨row, rfl⟩ := h s List.mem_cons_self
      obtain ⟨db₁, h₁⟩ :
        ∃ db₁, (CompletionStatement.persistIdempotencyRecord row).apply db = .ok db₁ :=
        Db.upsertIdempotencyRecord_ok db row fun _ => rfl
      obtain ⟨db', h'⟩ := ih db₁ fun s hs => h s (List.mem_cons_of_mem _ hs)
      exact ⟨db', executeAll_cons.mpr ⟨db₁, h₁, h'⟩⟩

/-- It stays so when its transaction aborts: phase one then throws, and the statements of phase two
do not fail. -/
theorem CallState.Spent.abort {c : CallState} (h : c.Spent) {ss : List CompletionStatement}
    {db : Db} {e : RegistryError} (hss : ∀ s ∈ ss, s ∈ c.executed ++ c.todo)
    (hfails : executeAll ss db = .error e) : (c.abort e).Spent := by
  cases c with
  | inPhaseOne executed todo outcome => trivial
  | inPhaseTwo request executed todo outcome =>
      obtain ⟨db', hok⟩ := executeAll_persist db fun s hs => h.1 s (hss s hs)
      rw [hok] at hfails
      cases hfails
  | finished result => trivial
  | _ => exact h.elim

/-- **A call that is done with its version stays so**, whichever call moves. -/
theorem CompletionSystem.step_spent {rt : Runtime} {uploadSessionId : String}
    {sys sys' : CompletionSystem} {a : CompletionAction} {i : Nat} {c : Call}
    (hc : sys.calls[i]? = some c) (hspent : c.state.Spent)
    (h : CompletionStep rt uploadSessionId sys a sys') :
    ∃ c', sys'.calls[i]? = some c' ∧ c'.state.Spent := by
  -- the call that moves is another one, or it is in a transaction that stays spent
  have moved : ∀ {j : Nat} {d : Call} {st : CallState} {db' : Db}, sys.calls[j]? = some d →
      (d.state.Spent → st.Spent) → ∃ c',
        ((⟨db', sys.calls⟩ : CompletionSystem).setState j st).calls[i]? = some c' ∧
        c'.state.Spent := by
    intro j d st db' hd hst
    by_cases hj : j = i
    · subst hj
      obtain rfl := Option.some.inj (hc.symm.trans hd)
      exact ⟨⟨c.input, st⟩, by simp [CompletionSystem.setState, hc], hst hspent⟩
    · exact ⟨c, by simp [CompletionSystem.setState, hj, hc], hspent⟩
  have idle : ∀ {j : Nat} {d : Call} {st : CallState} {db' : Db}, sys.calls[j]? = some d →
      ¬ d.state.Spent → ∃ c',
        ((⟨db', sys.calls⟩ : CompletionSystem).setState j st).calls[i]? = some c' ∧
        c'.state.Spent :=
    fun hd hnot => moved hd fun hspent => absurd hspent hnot
  unfold CompletionStep at h
  cases a with
  | start input =>
      simp only [CompletionSystem.next] at h
      split at h
      · obtain rfl := Option.some.inj h
        exact ⟨c, by rw [List.getElem?_append_left (List.getElem?_eq_some_iff.mp hc).1, hc], hspent⟩
      · cases h
  | lookup j =>
      simp only [CompletionSystem.next, Option.bind_eq_bind, Option.bind_eq_some_iff] at h
      obtain ⟨d, hd, h⟩ := h
      split at h
      · rename_i hstate
        obtain rfl := Option.some.inj h
        have hnot : ¬ d.state.Spent := by rw [hstate]; exact not_false
        unfold CompletionSystem.lookup
        split
        · exact idle hd hnot
        · split <;> exact idle hd hnot
      · cases h
  | loadReplay j =>
      simp only [CompletionSystem.next, Option.bind_eq_bind, Option.bind_eq_some_iff] at h
      obtain ⟨d, hd, h⟩ := h
      split at h
      · obtain rfl := Option.some.inj h
        exact moved hd fun _ => trivial
      · cases h
  | phaseOneRead j now =>
      simp only [CompletionSystem.next, Option.bind_eq_bind, Option.bind_eq_some_iff] at h
      obtain ⟨d, hd, h⟩ := h
      split at h
      · rename_i hstate
        obtain rfl := Option.some.inj h
        have hnot : ¬ d.state.Spent := by rw [hstate]; exact not_false
        unfold CompletionSystem.phaseOneRead
        split <;> exact idle hd hnot
      · cases h
  | execute j =>
      simp only [CompletionSystem.next, Option.bind_eq_bind, Option.bind_eq_some_iff] at h
      obtain ⟨d, hd, s, hs, h⟩ := h
      split at h
      · cases h
      · obtain rfl := Option.some.inj h
        unfold CompletionSystem.execute
        split
        · exact moved hd CallState.Spent.advance
        · rename_i hfails
          refine moved hd fun hspent => hspent.abort (fun t ht => ?_) hfails
          rcases List.mem_append.mp ht with ht | ht
          · exact List.mem_append_left _ ht
          · exact List.mem_append_right _ (List.mem_of_mem_head? (List.mem_singleton.mp ht ▸ hs))
  | commit j =>
      simp only [CompletionSystem.next, Option.bind_eq_bind, Option.bind_eq_some_iff] at h
      obtain ⟨d, hd, h⟩ := h
      split at h
      · rename_i hstate
        obtain rfl := Option.some.inj h
        unfold CompletionSystem.commit
        split
        · refine moved hd fun hspent => ?_
          rw [hstate] at hspent
          exact PhaseOneResult.next_spent fun request hrequest =>
            hspent.2 request (congrArg Except.ok hrequest)
        · rename_i hfails
          exact moved hd fun hspent => hspent.abort (fun t ht => List.mem_append_left _ ht) hfails
      · obtain rfl := Option.some.inj h
        exact moved hd fun _ => trivial
      · rename_i hstate
        obtain rfl := Option.some.inj h
        unfold CompletionSystem.commit
        split
        · exact moved hd fun _ => trivial
        · rename_i hfails
          exact moved hd fun hspent => hspent.abort (fun t ht => List.mem_append_left _ ht) hfails
      · rename_i hstate
        obtain rfl := Option.some.inj h
        refine idle hd fun hspent => ?_
        rw [hstate] at hspent
        obtain ⟨-, completed, hok⟩ := hspent
        cases hok
      · cases h
  | canonicalized j result =>
      simp only [CompletionSystem.next, Option.bind_eq_bind, Option.bind_eq_some_iff] at h
      obtain ⟨d, hd, h⟩ := h
      split at h
      · rename_i hstate
        obtain rfl := Option.some.inj h
        exact idle hd (by rw [hstate]; exact not_false)
      · rename_i hstate
        obtain rfl := Option.some.inj h
        exact idle hd (by rw [hstate]; exact not_false)
      · cases h
  | phaseTwoRead j now =>
      simp only [CompletionSystem.next, Option.bind_eq_bind, Option.bind_eq_some_iff] at h
      obtain ⟨d, hd, h⟩ := h
      split at h
      · rename_i hstate
        obtain rfl := Option.some.inj h
        have hnot : ¬ d.state.Spent := by rw [hstate]; exact not_false
        unfold CompletionSystem.phaseTwoRead
        split
        · exact idle hd hnot
        · split
          · exact idle hd hnot
          · split <;> exact idle hd hnot
      · cases h
  | findDispatch j newDispatchId now =>
      simp only [CompletionSystem.next, Option.bind_eq_bind, Option.bind_eq_some_iff] at h
      obtain ⟨d, hd, h⟩ := h
      split at h
      · rename_i hstate
        obtain rfl := Option.some.inj h
        exact idle hd (by rw [hstate]; exact not_false)
      · cases h
  | failRetryable j =>
      simp only [CompletionSystem.next, Option.bind_eq_bind, Option.bind_eq_some_iff] at h
      obtain ⟨d, hd, h⟩ := h
      split at h
      · split at h
        · cases h
        · obtain rfl := Option.some.inj h
          unfold CompletionSystem.failRetryable
          split <;> exact moved hd fun _ => trivial
      · cases h

/-- **A read that finds the version settled is the last that matters**: the call is done with its
version then. -/
theorem CompletionSystem.spent_of_read {rt : Runtime} {uploadSessionId : String}
    {sys sys' : CompletionSystem} {i : Nat} {now : Instant} {a : CompletionAction} {c : Call}
    (ha : a = .phaseOneRead i now ∨ a = .phaseTwoRead i now) (hc : sys.calls[i]? = some c)
    (hsettled : ∃ row, sys.db.findUploadSession c.input.uploadSessionId = some row ∧
      sys.db.Settled row.version.id) (h : CompletionStep rt uploadSessionId sys a sys') :
    ∃ c', sys'.calls[i]? = some c' ∧ c'.state.Spent := by
  obtain ⟨row, hrow, hsettled⟩ := hsettled
  obtain ⟨replay, hreplay⟩ :=
    Option.isSome_iff_exists.mp ((Db.settled_iff_replayable hrow).mp hsettled)
  have reached : ∀ {st : CallState}, st.Spent →
      ∃ c', (sys.setState i st).calls[i]? = some c' ∧ c'.state.Spent := fun {st} hst =>
    ⟨⟨c.input, st⟩, by simp [CompletionSystem.setState, hc], hst⟩
  unfold CompletionStep at h
  rcases ha with rfl | rfl
  · simp only [CompletionSystem.next, hc, Option.bind_eq_bind, Option.bind_some] at h
    split at h
    · obtain rfl := Option.some.inj h
      simp only [CompletionSystem.phaseOneRead, hrow]
      refine reached ?_
      by_cases hexpiry : now > row.uploadSession.expiresAt
      · rw [phaseOneScript_expired hexpiry]
        exact ⟨fun s hs => by obtain rfl := List.mem_singleton.mp hs; rfl, fun _ => nofun⟩
      · rw [phaseOneScript_replay hexpiry hreplay]
        exact ⟨fun s hs => by obtain rfl := List.mem_singleton.mp hs; rfl, fun _ => nofun⟩
    · cases h
  · simp only [CompletionSystem.next, hc, Option.bind_eq_bind, Option.bind_some] at h
    split at h
    · obtain rfl := Option.some.inj h
      simp only [CompletionSystem.phaseTwoRead, hrow, hreplay]
      exact reached ⟨fun s hs => ⟨_, List.mem_singleton.mp hs⟩, _, rfl⟩
    · cases h

/-- **A call that reads its version as settled writes it no more**: every later statement of the
call, and its `catch`, meets the condition. -/
theorem writesBeforeSettled_of_read {rt : Runtime} {uploadSessionId : String}
    {sys sys' sys'' : CompletionSystem} {i : Nat} {now : Instant} {a : CompletionAction} {c : Call}
    {tr : List (Transition CompletionSystem CompletionAction)}
    (ha : a = .phaseOneRead i now ∨ a = .phaseTwoRead i now) (hc : sys.calls[i]? = some c)
    (hsettled : ∃ row, sys.db.findUploadSession c.input.uploadSessionId = some row ∧
      sys.db.Settled row.version.id) (hread : CompletionStep rt uploadSessionId sys a sys')
    (hrun : Run (CompletionStep rt uploadSessionId) sys' tr sys'') (id : String) :
    ∀ τ ∈ tr, τ.action = .execute i ∨ τ.action = .failRetryable i → WritesBeforeSettled id τ := by
  have hspent := CompletionSystem.spent_of_read ha hc hsettled hread
  have hstays := (hrun.forall_invariant_where
    (I := fun s => ∃ c', s.calls[i]? = some c' ∧ c'.state.Spent) (C := fun _ => True)
    (fun ⟨_, hc, hspent⟩ hstep _ => CompletionSystem.step_spent hc hspent hstep) hspent
    fun _ _ => trivial).2
  intro τ hτ haction
  obtain ⟨c', hc', hspent'⟩ := (hstays τ hτ).1
  unfold WritesBeforeSettled
  rcases haction with haction | haction <;>
    simp only [haction, hc', Option.bind_some, hspent'.versionWrite, reduceCtorEq, false_imp_iff]

/-- **One step keeps the invariant**, provided it writes the version only before it is
settled. -/
theorem CompletionSystem.Inv.step {rt : Runtime} {uploadSessionId id : String}
    {sys sys' : CompletionSystem} {a : CompletionAction} (hinv : sys.Inv rt id)
    (h : CompletionStep rt uploadSessionId sys a sys')
    (hwrites : WritesBeforeSettled id ⟨sys, a, sys'⟩) : sys'.Inv rt id := by
  have quiet : ∀ {i : Nat} {st : CallState}, st.executed = [] → st.WellFormed rt →
      (sys.setState i st).Inv rt id := fun hexecuted hwf =>
    hinv.setState hwf fun hhold => absurd hhold (CallState.not_holds_of_executed hexecuted id)
  cases step_effect h with
  | start input =>
      have hcalls : ∀ {j : Nat} {c : Call},
          (sys.calls ++ [⟨input, .starting⟩])[j]? = some c →
          sys.calls[j]? = some c ∨ c.state = .starting := by
        intro j c hj
        by_cases hlt : j < sys.calls.length
        · exact Or.inl (by rwa [List.getElem?_append_left hlt] at hj)
        · rw [List.getElem?_append_right (Nat.le_of_not_lt hlt)] at hj
          obtain rfl := List.mem_singleton.mp (List.mem_of_getElem? hj)
          exact Or.inr rfl
      have hnew : ∀ {c : Call}, c.state = .starting → ¬ c.state.Holds id := fun hst =>
        CallState.not_holds_of_executed (by rw [hst]; rfl) id
      constructor
      · intro j k cj ck hj hk hholdj hholdk
        rcases hcalls hj with hj | hj
        · rcases hcalls hk with hk | hk
          · exact hinv.exclusive j k cj ck hj hk hholdj hholdk
          · exact absurd hholdk (hnew hk)
        · exact absurd hholdj (hnew hj)
      · intro j c hj hhold
        rcases hcalls hj with hj | hj
        · exact hinv.unsettled j c hj hhold
        · exact absurd hhold (hnew hj)
      · intro j c hj
        rcases hcalls hj with hj | hj
        · exact hinv.wellFormed j c hj
        · rw [hj]; trivial
  | quiet hexecuted hwf => exact quiet hexecuted hwf
  | @findDispatch i c request source row executed newDispatchId now existing hc hstate =>
      have hevidence : executed = phaseTwoEvidence rt source row := by
        have hwf := hinv.wellFormed i c hc
        rw [hstate] at hwf
        exact (List.append_nil executed).symm.trans hwf
      refine hinv.setState ?_ fun hhold => ?_
      · intro s hs d hd
        refine ⟨.recordEvidence row.version.id (canonicalEvidence rt source), ?_, ?_⟩
        · rw [hevidence]
          exact List.mem_cons_self
        · rcases List.mem_append.mp hs with hs | hs
          · rw [hevidence] at hs
            simp only [phaseTwoEvidence, List.mem_cons, List.not_mem_nil, or_false] at hs
            rcases hs with rfl | rfl <;> cases hd
          · cases existing with
            | some d' =>
                simp only [phaseTwoDispatch, Option.isSome_some, if_true, List.nil_append,
                  List.mem_cons, List.not_mem_nil, or_false] at hs
                rcases hs with rfl | rfl <;> cases hd
            | none =>
                simp only [phaseTwoDispatch, Option.isSome_none, Bool.false_eq_true, if_false,
                  List.cons_append, List.nil_append, List.mem_cons, List.not_mem_nil,
                  or_false] at hs
                rcases hs with rfl | rfl | rfl
                · obtain rfl := Option.some.inj hd
                  rfl
                · cases hd
                · cases hd
      · have hhold' : c.state.Holds id := by rw [hstate]; exact hhold
        exact ⟨fun j cj hji hj hholdj => hji (hinv.exclusive j i cj c hj hc hholdj hhold'),
          hinv.unsettled i c hc hhold'⟩
  | @execute i c s hc hs hfree =>
      unfold CompletionSystem.execute
      split
      · refine hinv.setState (CallState.advance_wellFormed (hinv.wellFormed i c hc)) fun hhold => ?_
        obtain ⟨s', hs', hlock⟩ := hhold
        rw [CallState.advance_executed hs] at hs'
        rcases List.mem_append.mp hs' with hs' | hs'
        · have hhold' : c.state.Holds id := ⟨s', hs', hlock⟩
          exact ⟨fun j cj hji hj hholdj => hji (hinv.exclusive j i cj c hj hc hholdj hhold'),
            hinv.unsettled i c hc hhold'⟩
        · obtain rfl := List.mem_singleton.mp hs'
          rw [hlock] at hfree
          exact ⟨fun j cj hji hj => not_holds_of_not_blocked hfree hji hj,
            hwrites (by rw [hc]; exact CallState.versionWrite_of_nextStatement hs hlock)⟩
      · exact quiet (CallState.abort_executed _ _) (CallState.abort_wellFormed rt _ _)
  | @commit i c next hc htodo hexecuted hwf =>
      unfold CompletionSystem.commit
      split
      · rename_i db' hdb
        refine hinv.release hexecuted hwf fun hother => ?_
        obtain ⟨j, cj, hji, hj, hholdj⟩ := hother
        exact CallState.commit_unchanged hdb (hinv.wellFormed i c hc)
          fun hhold => hji (hinv.exclusive j i cj c hj hc hholdj hhold)
      · exact quiet (CallState.abort_executed _ _) (CallState.abort_wellFormed rt _ _)
  | @failRetryable i c request cause hc hstate hfree =>
      unfold CompletionSystem.failRetryable
      split
      · rename_i db' hdb
        refine hinv.release rfl trivial fun hother => ?_
        obtain ⟨j, cj, hji, hj, hholdj⟩ := hother
        refine @executeAll_unchanged [.failRetryable request.versionId] _ _ _
          (executeAll_cons.mpr ⟨db', hdb, rfl⟩) ?_ ?_
        · intro s hs hlock
          obtain rfl := List.mem_singleton.mp hs
          rw [show request.versionId = id by simpa [CompletionStatement.lock] using hlock] at hfree
          exact not_holds_of_not_blocked hfree hji hj hholdj
        · intro s hs d hd
          obtain rfl := List.mem_singleton.mp hs
          cases hd
      · exact quiet rfl trivial

/-- **One step leaves a settled version as it is**, provided it writes the version only
before it is settled. -/
theorem CompletionSystem.Inv.unchanged_step {rt : Runtime} {uploadSessionId id : String}
    {sys sys' : CompletionSystem} {a : CompletionAction} (hinv : sys.Inv rt id)
    (h : CompletionStep rt uploadSessionId sys a sys')
    (hwrites : WritesBeforeSettled id ⟨sys, a, sys'⟩) (hsettled : sys.db.Settled id) :
    sys.db.Unchanged sys'.db id := by
  cases step_effect h with
  | start input => exact ⟨rfl, rfl⟩
  | quiet hexecuted hwf => exact ⟨rfl, rfl⟩
  | findDispatch newDispatchId now existing hc hstate => exact ⟨rfl, rfl⟩
  | execute hc hs hfree =>
      unfold CompletionSystem.execute
      split <;> exact ⟨rfl, rfl⟩
  | @commit i c next hc htodo hexecuted hwf =>
      unfold CompletionSystem.commit
      split
      · rename_i db' hdb
        exact CallState.commit_unchanged hdb (hinv.wellFormed i c hc)
          fun hhold => hinv.unsettled i c hc hhold hsettled
      · exact ⟨rfl, rfl⟩
  | @failRetryable i c request cause hc hstate hfree =>
      unfold CompletionSystem.failRetryable
      split
      · rename_i db' hdb
        refine @executeAll_unchanged [.failRetryable request.versionId] _ _ _
          (executeAll_cons.mpr ⟨db', hdb, rfl⟩) ?_ ?_
        · intro s hs hlock
          obtain rfl := List.mem_singleton.mp hs
          have hid : request.versionId = id := by simpa [CompletionStatement.lock] using hlock
          refine hwrites ?_ hsettled
          rw [hc, Option.bind_some, hstate]
          exact congrArg some hid
        · intro s hs d hd
          obtain rfl := List.mem_singleton.mp hs
          cases hd
      · exact ⟨rfl, rfl⟩

/-! ### Runs -/

/-- **Settled versions stay.** In every run of completions of one session that starts
without calls in flight and writes the version only before it is settled: once the
version is settled, it and its dispatches never change again. -/
theorem settled_stays {rt : Runtime} {uploadSessionId id : String}
    {sys₀ sys₁ sys₂ : CompletionSystem}
    {tr₁ tr₂ : List (Transition CompletionSystem CompletionAction)} (hstart : sys₀.calls = [])
    (hrun₁ : Run (CompletionStep rt uploadSessionId) sys₀ tr₁ sys₁) (hsettled : sys₁.db.Settled id)
    (hrun₂ : Run (CompletionStep rt uploadSessionId) sys₁ tr₂ sys₂)
    (hwrites : ∀ τ ∈ tr₁ ++ tr₂, WritesBeforeSettled id τ) :
    sys₂.db.Settled id ∧ sys₁.db.Unchanged sys₂.db id := by
  have hinv₀ : sys₀.Inv rt id := by
    constructor <;> simp [hstart]
  have hinv₁ : sys₁.Inv rt id := hrun₁.invariant_where
    (fun hinv hstep hw => CompletionSystem.Inv.step hinv hstep hw) hinv₀
    fun τ hτ => hwrites τ (List.mem_append_left _ hτ)
  have hboth : sys₂.Inv rt id ∧ sys₁.db.Unchanged sys₂.db id := hrun₂.invariant_where
    (I := fun sys => sys.Inv rt id ∧ sys₁.db.Unchanged sys.db id)
    (fun ⟨hinv, hunchanged⟩ hstep hw => by
      have hnow := hinv.unchanged_step hstep hw (hunchanged.settled_iff.mpr hsettled)
      exact ⟨hinv.step hstep hw, hnow.1.trans hunchanged.1, hnow.2.trans hunchanged.2⟩)
    ⟨hinv₁, rfl, rfl⟩ fun τ hτ => hwrites τ (List.mem_append_right _ hτ)
  exact ⟨hboth.2.settled_iff.mpr hsettled, hboth.2⟩

instance (id : String) : DecidablePred (WritesBeforeSettled id) := fun τ => by
  unfold WritesBeforeSettled
  split <;> infer_instance

/-- The sample session, issued, with no completion in flight. -/
def sampleCompletionSystem : CompletionSystem := ⟨sampleRegistry.issueSample "a", []⟩

/-- Two calls read the session in its first state, and the first of them completes. -/
def settlingActions : List CompletionAction :=
  [.start (sampleCompletion "a" "key-1"), .start (sampleCompletion "a" "key-2"), .lookup 0,
    .lookup 1, .phaseOneRead 0 20, .phaseOneRead 1 20, .execute 0, .execute 0, .commit 0,
    .canonicalized 0 (.ok (sampleSource "source-1")), .phaseTwoRead 0 30, .execute 0, .execute 0,
    .findDispatch 0 "dispatch-1" 30, .execute 0, .execute 0, .execute 0, .commit 0]

/-- A settled version is written again by a call that read the session before: the blind
update of phase one takes it from `canonical` to `canonicalizing`. -/
theorem settled_moves_to_canonicalizing :
    ∃ sys₁ sys₂ tr₁ tr₂,
      Run (CompletionStep sampleRuntime "session-a") sampleCompletionSystem tr₁ sys₁ ∧
      sys₁.db.Settled "version-a" ∧ sys₁.db.lifecycle? "version-a" = some .canonical ∧
      Run (CompletionStep sampleRuntime "session-a") sys₁ tr₂ sys₂ ∧
      sys₂.db.lifecycle? "version-a" = some .canonicalizing := by
  obtain ⟨tr₁, sys₁, hrun₁, hsettled, hcanonical, hlate⟩ := exists_run_of_exec
    (CompletionSystem.next sampleRuntime "session-a") sampleCompletionSystem settlingActions
    (fun _ sys => sys.db.Settled "version-a" ∧
      sys.db.lifecycle? "version-a" = some .canonical ∧
      (exec (CompletionSystem.next sampleRuntime "session-a") sys
        [.execute 1, .execute 1, .commit 1]).any
          (fun r => decide (r.2.db.lifecycle? "version-a" = some .canonicalizing)) = true)
    (by decide +kernel)
  obtain ⟨tr₂, sys₂, hrun₂, hmoved⟩ := exists_run_of_exec _ _ _
    (fun _ (sys : CompletionSystem) =>
      sys.db.lifecycle? "version-a" = some AssetVersionState.canonicalizing) hlate
  exact ⟨sys₁, sys₂, tr₁, tr₂, hrun₁, hsettled, hcanonical, hrun₂, hmoved⟩

/-- The same two calls, without the read of the second. -/
def settlingFirst : List CompletionAction :=
  settlingActions.filter fun
    | .phaseOneRead 1 _ => false
    | _ => true

/-- The second call reads the session after the first has completed, and replays its result. -/
def replayingSecond : List CompletionAction := [.phaseOneRead 1 40, .execute 1, .commit 1]

/-- The second of the two calls reads the session after the first has completed, and ends with
the version and its dispatch as the first left them. -/
theorem settled_stays_replayed :
    ∃ tr₁ sys₁ tr₂ sys₂,
      Run (CompletionStep sampleRuntime "session-a") sampleCompletionSystem tr₁ sys₁ ∧
      tr₁.map Transition.action = settlingFirst ∧ sys₁.db.Settled "version-a" ∧
      Run (CompletionStep sampleRuntime "session-a") sys₁ tr₂ sys₂ ∧
      tr₂.map Transition.action = replayingSecond ∧
      (∀ τ ∈ tr₁ ++ tr₂, WritesBeforeSettled "version-a" τ) ∧
      sys₂.db.Settled "version-a" ∧ sys₁.db.Unchanged sys₂.db "version-a" := by
  obtain ⟨tr₁, sys₁, hrun₁, hactions₁, hwrites₁, hsettled, hlate⟩ := exists_run_along
    (CompletionSystem.next sampleRuntime "session-a") sampleCompletionSystem settlingFirst
    (fun tr sys => (∀ τ ∈ tr, WritesBeforeSettled "version-a" τ) ∧
      sys.db.Settled "version-a" ∧
      (exec (CompletionSystem.next sampleRuntime "session-a") sys replayingSecond).any
        (fun r => decide (∀ τ ∈ r.1, WritesBeforeSettled "version-a" τ)) = true)
    (by decide +kernel)
  obtain ⟨tr₂, sys₂, hrun₂, hactions₂, hwrites₂⟩ := exists_run_along _ _ _
    (fun tr _ => ∀ τ ∈ tr, WritesBeforeSettled "version-a" τ) hlate
  have hwrites : ∀ τ ∈ tr₁ ++ tr₂, WritesBeforeSettled "version-a" τ := fun τ hτ =>
    (List.mem_append.mp hτ).elim (hwrites₁ τ) (hwrites₂ τ)
  exact ⟨tr₁, sys₁, tr₂, sys₂, hrun₁, hactions₁, hsettled, hrun₂, hactions₂, hwrites,
    settled_stays rfl hrun₁ hsettled hrun₂ hwrites⟩

end Cdngine
