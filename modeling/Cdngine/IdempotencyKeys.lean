import Cdngine.MemoryUploadStore

/-!
# Idempotency Keys of the In-Memory Store

The in-memory upload-session store keeps the result of a call under one string: the caller
scope, the operation and the idempotency key, joined by colons. A call that finds a record
with its request hash is answered from it. The string does not name the session that a
completion is for, and it may be split in more than one way; the request hash of a
completion covers the staged object only.

Which call wrote a record is recorded by the ghost component `writers` of a traced system.

## Main results

* `TracedStep.inv`: every record was written by a call with its key and hash, and holds
  a result for that call.
* `answers_own_where`: in every run whose calls with one key and hash are of one caller,
  operation and session, every call is answered with a result of its own.
* `session_of_another_call_answered`: a completion answered with the result of another
  session.
-/

open Runs

namespace Cdngine

/-! ### Calls -/

/-- A call on the store. -/
inductive MemoryCall
  | issue (input : RegistryIssueUploadSessionInput)
  | complete (input : RegistryCompleteUploadSessionInput)

/-- The key of the record of a call. -/
def MemoryCall.memoryKey : MemoryCall → String
  | issue input => input.memoryKey
  | complete input => input.memoryKey

def MemoryCall.normalizedRequestHash : MemoryCall → String
  | issue input => input.normalizedRequestHash
  | complete input => input.normalizedRequestHash

/-- What a call is: its caller, and the session it completes unless it issues one. -/
def MemoryCall.scope : MemoryCall → String × Option String
  | issue input => (input.callerScopeKey, none)
  | complete input => (input.callerScopeKey, some input.uploadSessionId)

/-- The call that begins with a step. -/
def MemoryAction.call? : MemoryAction → Option MemoryCall
  | issue input _ => some (.issue input)
  | complete input _ => some (.complete input)
  | resolve _ _ _ => none

/-- The call that a step answers with success, and the answer. -/
def MemorySystem.answer (sys : MemorySystem) : MemoryAction → Option (MemoryCall × StoredResult)
  | .issue input ids =>
      (sys.store.issueUploadSession input ids).1.toOption.map fun r => (.issue input, r)
  | .complete input now =>
      match (sys.store.beginCompletion input now).1 with
      | .done result => result.toOption.map fun r => (.complete input, r)
      | .awaiting _ => none
  | .resolve i snapshot newDispatchId => do
      let c ← sys.completions[i]?
      match c.progress with
      | .finished _ => none
      | .awaiting request =>
          let session ← sys.store.uploadSessions c.input.uploadSessionId
          let version ← sys.store.versionsById request.versionId
          (sys.store.resolveCompletion c.input session version snapshot
            newDispatchId).1.toOption.map
            fun r => (.complete c.input, r)

/-- The call whose record a step writes: one that is answered, and not from a record. -/
def MemorySystem.writes (sys : MemorySystem) (a : MemoryAction) : Option MemoryCall :=
  (sys.answer a).bind fun (c, _) =>
    if a.call?.isSome && (sys.store.idempotencyRecords c.memoryKey).isSome then none else some c

/-! ### Who wrote a record -/

/-- The system with the call that last wrote each record. -/
structure TracedMemorySystem where
  sys : MemorySystem := {}
  writers : JsMap MemoryCall := fun _ => none

/-- The writers of the records after a step. -/
def TracedMemorySystem.writersAfter (t : TracedMemorySystem) (a : MemoryAction) :
    JsMap MemoryCall :=
  match t.sys.writes a with
  | some c => t.writers.set c.memoryKey c
  | none => t.writers

/-- A step of the system, with what it writes. -/
def TracedMemorySystem.next (t : TracedMemorySystem) (a : MemoryAction) :
    Option TracedMemorySystem :=
  (t.sys.next a).map fun sys => ⟨sys, t.writersAfter a⟩

/-- The step relation of the traced system. -/
def TracedStep (t : TracedMemorySystem) (a : MemoryAction) (t' : TracedMemorySystem) : Prop :=
  t.next a = some t'

theorem TracedStep.split {t t' : TracedMemorySystem} {a : MemoryAction} (h : TracedStep t a t') :
    MemoryStep t.sys a t'.sys ∧ t'.writers = t.writersAfter a := by
  obtain ⟨sys', hsys, rfl⟩ := Option.map_eq_some_iff.mp h
  exact ⟨hsys, rfl⟩

/-- Every run of the system is one of the traced system. -/
theorem TracedMemorySystem.exists_run {sys sys' : MemorySystem}
    {tr : List (Transition MemorySystem MemoryAction)} (h : Run MemoryStep sys tr sys')
    (writers : JsMap MemoryCall) :
    ∃ (tr' : List (Transition TracedMemorySystem MemoryAction)) (writers' : JsMap MemoryCall),
      Run TracedStep ⟨sys, writers⟩ tr' ⟨sys', writers'⟩ ∧
        tr = tr'.map fun τ => ⟨τ.before.sys, τ.action, τ.after.sys⟩ := by
  induction h generalizing writers with
  | nil sys => exact ⟨[], writers, .nil _, rfl⟩
  | @cons sys sys₁ sys₂ a tr hstep _ ih =>
      obtain ⟨tr', writers', hrun, htr⟩ := ih (TracedMemorySystem.writersAfter ⟨sys, writers⟩ a)
      have htraced :
        TracedStep ⟨sys, writers⟩ a ⟨sys₁, TracedMemorySystem.writersAfter ⟨sys, writers⟩ a⟩ :=
        Option.map_eq_some_iff.mpr ⟨sys₁, hstep, rfl⟩
      exact ⟨_, writers', .cons htraced hrun, by rw [htr, List.map_cons]⟩

/-- A result is **for** a call: that of an issuance, or the completion of the session of
the call with the version of the session. -/
def StoredResult.For (store : InMemoryUploadSessionIssuanceStore) : MemoryCall → StoredResult → Prop
  | .issue _, .issued _ => True
  | .complete input, .completed r =>
      r.uploadSessionId = input.uploadSessionId ∧
        ∃ s, store.uploadSessions input.uploadSessionId = some s ∧ r.versionId = s.versionId
  | _, _ => False

/-- **A step answers a call with a result of its own**: the result is for the call, and
when it comes from a record, a call of the same caller, operation and session wrote it. -/
def AnswersOwn (τ : Transition TracedMemorySystem MemoryAction) : Prop :=
  ∀ c r, τ.before.sys.answer τ.action = some (c, r) →
    r.For τ.after.sys.store c ∧
      ∀ record, τ.action.call? = some c →
        τ.before.sys.store.idempotencyRecords c.memoryKey = some record →
        ∃ writer, τ.before.writers c.memoryKey = some writer ∧ writer.scope = c.scope

/-- The calls that begin in a run. -/
def callsOf (tr : List (Transition TracedMemorySystem MemoryAction)) : Set MemoryCall :=
  {c | c ∈ tr.filterMap fun τ => τ.action.call?}

/-- Two callers may share a key: the colons of a scope or a key are not told from those
that join them. -/
example : buildOperationIdempotencyKey "a" .complete "b:upload-session:complete:k" =
    buildOperationIdempotencyKey "a:upload-session:complete:b" .complete "k" := by decide +kernel

/-- The key and the hash of the calls of a set **identify** their caller, operation and
session. -/
def Identified (calls : Set MemoryCall) : Prop :=
  ∀ c ∈ calls, ∀ c' ∈ calls, c.memoryKey = c'.memoryKey →
    c.normalizedRequestHash = c'.normalizedRequestHash → c.scope = c'.scope

/-! ### The invariant -/

/-- Every record was written by a call of a set with its key and hash, and holds a result
for it. -/
def Recorded (calls : Set MemoryCall) (store : InMemoryUploadSessionIssuanceStore)
    (writers : JsMap MemoryCall) : Prop :=
  ∀ ⦃key record⦄, store.idempotencyRecords key = some record →
    ∃ c ∈ calls, writers key = some c ∧ c.memoryKey = key ∧
      record.normalizedRequestHash = c.normalizedRequestHash ∧ record.result.For store c

/-- The result that a session stores is its own. -/
def InMemoryUploadSessionIssuanceStore.StoresOwn (store : InMemoryUploadSessionIssuanceStore) :
    Prop :=
  ∀ ⦃id s r⦄, store.uploadSessions id = some s → s.completionResult = some r →
    r.uploadSessionId = id ∧ r.versionId = s.versionId

/-- **The invariant of the traced system**, for runs that make calls of a set. -/
structure TracedMemorySystem.Inv (calls : Set MemoryCall) (t : TracedMemorySystem) : Prop where
  sys : t.sys.Inv
  begun : ∀ {i : Nat} {c : MemoryCompletion}, t.sys.completions[i]? = some c →
    .complete c.input ∈ calls
  records : Recorded calls t.sys.store t.writers
  results : t.sys.store.StoresOwn

theorem TracedMemorySystem.Inv.empty (calls : Set MemoryCall) :
    TracedMemorySystem.Inv calls {} where
  sys := .empty
  begun h := by cases h
  records := by
    intro key record h
    cases h
  results := by
    intro id s r h
    cases h

/-- A result is for the same call in a store that keeps the records. -/
theorem StoredResult.For.keeps {store store' : InMemoryUploadSessionIssuanceStore} {c : MemoryCall}
    {r : StoredResult} (h : r.For store c) (hkeeps : store.Keeps store') : r.For store' c := by
  cases c with
  | issue input =>
      cases r with
      | issued => trivial
      | completed => cases h
  | complete input =>
      cases r with
      | issued => cases h
      | completed r =>
          obtain ⟨hid, s, hs, hversion⟩ := h
          obtain ⟨s', hs', hs'keeps⟩ := hkeeps.session hs
          exact ⟨hid, s', hs', hversion.trans hs'keeps.versionId.symm⟩

/-- Marking a result as a duplicate does not change what it is for. -/
theorem StoredResult.For.duplicate {store : InMemoryUploadSessionIssuanceStore} {c : MemoryCall}
    {r : StoredResult} (h : r.For store c) : r.duplicate.For store c := by
  cases c <;> cases r <;> exact h

/-- A result for a call is for every call of the same caller, operation and session. -/
theorem StoredResult.For.of_scope {store : InMemoryUploadSessionIssuanceStore} {c c' : MemoryCall}
    {r : StoredResult} (h : r.For store c) (hscope : c.scope = c'.scope) : r.For store c' := by
  cases c with
  | issue input =>
      cases c' with
      | issue input' => cases r <;> exact h
      | complete input' => cases congrArg Prod.snd hscope
  | complete input =>
      cases c' with
      | issue input' => cases congrArg Prod.snd hscope
      | complete input' =>
          have hid : input.uploadSessionId = input'.uploadSessionId :=
            Option.some.inj (congrArg Prod.snd hscope)
          cases r with
          | issued => cases h
          | completed r =>
              simp only [StoredResult.For] at h ⊢
              rw [← hid]
              exact h

namespace Recorded

variable {calls : Set MemoryCall} {store store' : InMemoryUploadSessionIssuanceStore}
  {writers : JsMap MemoryCall}

/-- A step that writes no record. -/
theorem same (h : Recorded calls store writers) (hkeeps : store.Keeps store')
    (hrecords : store'.idempotencyRecords = store.idempotencyRecords) :
    Recorded calls store' writers := by
  intro key record hrecord
  rw [hrecords] at hrecord
  obtain ⟨c, hc, hwriter, hkey, hhash, hresult⟩ := h hrecord
  exact ⟨c, hc, hwriter, hkey, hhash, hresult.keeps hkeeps⟩

/-- A step that writes the record of a call. -/
theorem set (h : Recorded calls store writers) (hkeeps : store.Keeps store') {c : MemoryCall}
    {result : StoredResult} (hc : c ∈ calls) (hresult : result.For store' c)
    (hrecords : store'.idempotencyRecords =
      store.idempotencyRecords.set c.memoryKey ⟨c.normalizedRequestHash, result⟩) :
    Recorded calls store' (writers.set c.memoryKey c) := by
  intro key record hrecord
  rw [hrecords, JsMap.set_apply] at hrecord
  by_cases hkey : key = c.memoryKey
  · rw [if_pos hkey] at hrecord
    obtain rfl := Option.some.inj hrecord
    exact ⟨c, hc, by rw [hkey, JsMap.set_self], hkey.symm, rfl, hresult⟩
  · rw [if_neg hkey] at hrecord
    obtain ⟨c', hc', hwriter, hkey', hhash, hresult'⟩ := h hrecord
    exact ⟨c', hc', by rw [JsMap.set_of_ne _ _ hkey, hwriter], hkey', hhash,
      hresult'.keeps hkeeps⟩

/-- A call that finds a record with its hash finds one that a call of the same caller,
operation and session wrote, with a result for it. -/
theorem writer_of_record (h : Recorded calls store writers) (hidentified : Identified calls)
    {c : MemoryCall} (hc : c ∈ calls) {record : MemoryIdempotencyRecord}
    (hrecord : store.idempotencyRecords c.memoryKey = some record)
    (hhash : record.normalizedRequestHash = c.normalizedRequestHash) :
    (∃ writer, writers c.memoryKey = some writer ∧ writer.scope = c.scope) ∧
      record.result.For store c := by
  obtain ⟨writer, hwriter, hwrote, hkey, hhash', hresult⟩ := h hrecord
  have hscope := hidentified writer hwriter c hc hkey (hhash'.symm.trans hhash)
  exact ⟨⟨writer, hwrote, hscope⟩, hresult.of_scope hscope⟩

end Recorded

/-! ### What a step does to the records -/

section Step

open InMemoryUploadSessionIssuanceStore

variable {calls : Set MemoryCall} {store store' : InMemoryUploadSessionIssuanceStore}

/-- An issuance leaves the completed sessions alone. -/
theorem InMemoryUploadSessionIssuanceStore.StoresOwn.issue (h : store.StoresOwn)
    {input : RegistryIssueUploadSessionInput} {ids : MemoryIssueIds} :
    (store.issueUploadSession input ids).2.StoresOwn := by
  intro id s r hs hr
  rcases store.issueUploadSession_snd input ids with hsame | ⟨asset, number, hsessions, -⟩
  · rw [hsame] at hs
    exact h hs hr
  · rw [hsessions, JsMap.set_apply] at hs
    split at hs
    · obtain rfl := Option.some.inj hs
      cases hr
    · exact h hs hr

/-- A session record may be replaced by one with a result of its own. -/
theorem InMemoryUploadSessionIssuanceStore.StoresOwn.setSession (h : store.StoresOwn)
    {s : UploadSessionRecord} (hown : ∀ {r}, s.completionResult = some r →
      r.uploadSessionId = s.uploadSessionId ∧ r.versionId = s.versionId) :
    (store.setSession s).StoresOwn := by
  intro id s' r hs' hr
  simp only [InMemoryUploadSessionIssuanceStore.setSession, JsMap.set_apply] at hs'
  split at hs'
  · rename_i hid
    obtain rfl := Option.some.inj hs'
    exact hid ▸ hown hr
  · exact h hs' hr

/-- What `persistedCompletion` builds is for the session and the version it was given. -/
theorem persistedCompletion_own {uploadSessionId : String} {version : VersionRecord}
    {replay : RegistryCompletedUploadSession}
    (h : persistedCompletion uploadSessionId version = some replay) :
    replay.uploadSessionId = uploadSessionId ∧ replay.versionId = version.versionId := by
  simp only [persistedCompletion, Option.bind_eq_bind, Option.bind_eq_some_iff,
    Option.some.injEq] at h
  obtain ⟨-, -, evidence, -, dispatch, -, rfl⟩ := h
  exact ⟨rfl, rfl⟩

/-- The first piece of a completion stores results of their own session. -/
theorem InMemoryUploadSessionIssuanceStore.StoresOwn.begin (h : store.StoresOwn) (hinv : store.Inv)
    {input : RegistryCompleteUploadSessionInput} {now : Instant} {begun : MemoryCompletionBegun}
    (hbegun : CompletionBegun store input now begun store') : store'.StoresOwn := by
  cases hbegun with
  | answered => exact h
  | expired hsession _ =>
      refine h.setSession fun hr => ?_
      obtain ⟨hid, hversion⟩ := h hsession hr
      exact ⟨hid.trans (hinv.sessionKey hsession).symm, hversion⟩
  | replayed => exact h
  | rejected hexamined _ =>
      refine h.setSession fun hr => ?_
      cases hexamined.unfinished.symm.trans hr
  | recovered hexamined hreplay =>
      refine h.setSession fun hr => ?_
      obtain rfl := Option.some.inj hr
      obtain ⟨hid, hversion⟩ := persistedCompletion_own hreplay
      exact ⟨hid.trans (hinv.sessionKey hexamined.storedSession).symm,
        hversion.trans (hinv.versionKey hexamined.storedVersion)⟩
  | awaiting hexamined _ =>
      refine h.setSession fun hr => ?_
      cases hexamined.unfinished.symm.trans hr

/-- The second piece of a completion stores the result of its own session. -/
theorem InMemoryUploadSessionIssuanceStore.StoresOwn.resolve (h : store.StoresOwn)
    (hinv : store.Inv) {input : RegistryCompleteUploadSessionInput} {session : UploadSessionRecord}
    {version : VersionRecord} (hsession : store.uploadSessions input.uploadSessionId = some session)
    (hversion : version.versionId = session.versionId)
    (snapshot : Except RegistryError SnapshotResult) (newDispatchId : String) :
    (store.resolveCompletion input session version snapshot newDispatchId).2.StoresOwn := by
  cases snapshot with
  | error e => exact h
  | ok source =>
      have hversions : ∀ v, (store.setVersion v).StoresOwn := fun _ => h
      refine (hversions _).setSession fun hr => ?_
      obtain rfl := Option.some.inj hr
      exact ⟨(hinv.sessionKey hsession).symm, hversion⟩

/-- **An issuance** writes the record of its own call, and is answered with a result of
its own. -/
theorem TracedStep.issue {t t' : TracedMemorySystem} {input : RegistryIssueUploadSessionInput}
    {ids : MemoryIssueIds} (h : TracedStep t (.issue input ids) t') (hinv : t.Inv calls)
    (hidentified : Identified calls) (hcall : .issue input ∈ calls) :
    Recorded calls t'.sys.store t'.writers ∧ AnswersOwn ⟨t, .issue input ids, t'⟩ := by
  obtain ⟨hstep, hwriters⟩ := h.split
  have hkeeps := hstep.keeps hinv.sys
  have hrecords := hinv.records
  clear hinv
  obtain ⟨⟨store, completions⟩, writers⟩ := t
  obtain ⟨⟨store', completions'⟩, writers'⟩ := t'
  simp only [MemoryStep, MemorySystem.next, Option.ite_none_right_eq_some, Option.some.injEq,
    MemorySystem.mk.injEq] at hstep
  obtain ⟨-, hstore, -⟩ := hstep
  have hcases := store.issueUploadSession_cases input ids
  simp only [TracedMemorySystem.writersAfter, MemorySystem.writes, MemorySystem.answer,
    MemoryAction.call?] at hwriters
  simp only [AnswersOwn, MemorySystem.answer]
  rw [hstore] at hcases
  generalize (store.issueUploadSession input ids).1 = result at *
  dsimp only at hkeeps hrecords
  cases hcases with
  | conflict hrecord hhash =>
      refine ⟨hwriters ▸ hrecords, fun c r hanswer => ?_⟩
      cases hanswer
  | recorded hrecord hhash =>
      have hown := hrecords.writer_of_record hidentified hcall hrecord hhash
      simp only [Except.toOption, Option.map_some, Option.bind_some, MemoryCall.memoryKey, hrecord,
        Option.isSome_some, Bool.and_self, if_true] at hwriters
      refine ⟨hwriters ▸ hrecords, fun c r hanswer => ?_⟩
      obtain ⟨rfl, rfl⟩ := Prod.mk.inj (Option.some.inj hanswer)
      exact ⟨hown.2.duplicate, fun record' _ _ => hown.1⟩
  | notFound hrecord hnamed hasset =>
      refine ⟨hwriters ▸ hrecords, fun c r hanswer => ?_⟩
      cases hanswer
  | issued hrecord hasset =>
      obtain ⟨assets, rfl⟩ := resolveOrCreateAsset_snd hasset
      simp only [Except.toOption, Option.map_some, Option.bind_some, MemoryCall.memoryKey, hrecord,
        Option.isSome_none, Bool.and_false, Bool.false_eq_true, if_false] at hwriters
      refine ⟨?_, fun c r hanswer => ?_⟩
      · rw [hwriters]
        refine hrecords.set (c := .issue input) hkeeps hcall ?_ rfl
        trivial
      · obtain ⟨rfl, rfl⟩ := Prod.mk.inj (Option.some.inj hanswer)
        refine ⟨trivial, fun record' _ hrecord' => ?_⟩
        cases hrecord.symm.trans hrecord'

/-- **The first piece of a completion** writes the record of its own call, and is answered
with a result of its own. -/
theorem TracedStep.complete {t t' : TracedMemorySystem} {input : RegistryCompleteUploadSessionInput}
    {now : Instant} (h : TracedStep t (.complete input now) t') (hinv : t.Inv calls)
    (hidentified : Identified calls) (hcall : .complete input ∈ calls) :
    Recorded calls t'.sys.store t'.writers ∧ AnswersOwn ⟨t, .complete input now, t'⟩ := by
  obtain ⟨hstep, hwriters⟩ := h.split
  have hkeeps := hstep.keeps hinv.sys
  have hrecords := hinv.records
  have hresults := hinv.results
  have hstore := hinv.sys.store
  clear hinv
  obtain ⟨⟨store, completions⟩, writers⟩ := t
  obtain ⟨⟨store', completions'⟩, writers'⟩ := t'
  simp only [MemoryStep, MemorySystem.next, Option.some.injEq, MemorySystem.mk.injEq] at hstep
  obtain ⟨hnext, -⟩ := hstep
  simp only [TracedMemorySystem.writersAfter, MemorySystem.writes, MemorySystem.answer,
    MemoryAction.call?] at hwriters
  simp only [AnswersOwn, MemorySystem.answer]
  generalize hpair : store.beginCompletion input now = pair at *
  obtain ⟨begun, store''⟩ := pair
  obtain rfl : store'' = store' := hnext
  dsimp only at hkeeps hrecords hwriters
  cases beginCompletion_cases hpair with
  | answered hanswered =>
      cases hanswered with
      | recorded hsession hrecord hhash =>
          have hown := hrecords.writer_of_record hidentified hcall hrecord hhash
          simp only [Except.toOption, Option.map_some, Option.bind_some, MemoryCall.memoryKey,
            hrecord, Option.isSome_some, Bool.and_self, if_true] at hwriters
          refine ⟨hwriters ▸ hrecords, fun c r hanswer => ?_⟩
          obtain ⟨rfl, rfl⟩ := Prod.mk.inj (Option.some.inj hanswer)
          exact ⟨hown.2.duplicate, fun record' _ _ => hown.1⟩
      | _ =>
          refine ⟨hwriters ▸ hrecords, fun c r hanswer => ?_⟩
          cases hanswer
  | expired hsession hexpiry =>
      refine ⟨hwriters ▸ hrecords.same hkeeps rfl, fun c r hanswer => ?_⟩
      cases hanswer
  | rejected hexamined hproblem =>
      refine ⟨hwriters ▸ hrecords.same hkeeps rfl, fun c r hanswer => ?_⟩
      cases hanswer
  | awaiting hexamined hproblem =>
      refine ⟨hwriters ▸ hrecords.same hkeeps rfl, fun c r hanswer => ?_⟩
      cases hanswer
  | @replayed session result hsession hrecord hresult hhash =>
      simp only [Except.toOption, Option.map_some, Option.bind_some, MemoryCall.memoryKey, hrecord,
        Option.isSome_none, Bool.and_false, Bool.false_eq_true, if_false] at hwriters
      obtain ⟨hid, hversion⟩ := hresults hsession hresult
      have hfor : (StoredResult.completed result).For store (.complete input) :=
        ⟨hid, session, hsession, hversion⟩
      refine ⟨?_, fun c r hanswer => ?_⟩
      · rw [hwriters]
        exact hrecords.set (c := .complete input) hkeeps hcall (hfor.keeps hkeeps) rfl
      · obtain ⟨rfl, rfl⟩ := Prod.mk.inj (Option.some.inj hanswer)
        refine ⟨(hfor.keeps hkeeps).duplicate, fun record' _ hrecord' => ?_⟩
        cases hrecord.symm.trans hrecord'
  | @recovered session version replay hexamined hreplay =>
      have hrecord := hexamined.unrecorded
      simp only [Except.toOption, Option.map_some, Option.bind_some, MemoryCall.memoryKey, hrecord,
        Option.isSome_none, Bool.and_false, Bool.false_eq_true, if_false] at hwriters
      obtain ⟨hid, hversion⟩ := persistedCompletion_own hreplay
      have hfor : (StoredResult.completed replay).For store (.complete input) :=
        ⟨hid, session, hexamined.storedSession,
          hversion.trans (hstore.versionKey hexamined.storedVersion)⟩
      refine ⟨?_, fun c r hanswer => ?_⟩
      · rw [hwriters]
        exact hrecords.set (c := .complete input) hkeeps hcall (hfor.keeps hkeeps) rfl
      · obtain ⟨rfl, rfl⟩ := Prod.mk.inj (Option.some.inj hanswer)
        refine ⟨(hfor.keeps hkeeps).duplicate, fun record' _ hrecord' => ?_⟩
        cases hrecord.symm.trans hrecord'

/-- **The second piece of a completion** writes the record of its own call, and is
answered with the result it has built. -/
theorem TracedStep.resolve {t t' : TracedMemorySystem} {i : Nat}
    {snapshot : Except RegistryError SnapshotResult} {newDispatchId : String}
    (h : TracedStep t (.resolve i snapshot newDispatchId) t') (hinv : t.Inv calls) :
    Recorded calls t'.sys.store t'.writers ∧
      AnswersOwn ⟨t, .resolve i snapshot newDispatchId, t'⟩ := by
  obtain ⟨hstep, hwriters⟩ := h.split
  have hkeeps := hstep.keeps hinv.sys
  obtain ⟨c, request, session, version, ⟨hc, hprogress⟩, hsession, hversion, hstore, -⟩ :=
    MemorySystem.next_resolve hstep
  obtain ⟨s, v, hs, hsv, -, -, -⟩ := hinv.sys.awaits ⟨hc, hprogress⟩
  obtain rfl := Option.some.inj (hsession.symm.trans hs)
  have hanswer : t.sys.answer (.resolve i snapshot newDispatchId) =
      (t.sys.store.resolveCompletion c.input session version snapshot
        newDispatchId).1.toOption.map fun r => (.complete c.input, r) := by
    simp only [MemorySystem.answer, hc, hprogress, hsession, hversion, Option.bind_eq_bind,
      Option.bind_some]
  simp only [TracedMemorySystem.writersAfter, MemorySystem.writes, MemoryAction.call?,
    hanswer] at hwriters
  simp only [AnswersOwn, hanswer, hstore]
  rw [hstore] at hkeeps
  cases snapshot with
  | error e =>
      refine ⟨hwriters ▸ hinv.records.same hkeeps rfl, fun d r hanswer => ?_⟩
      cases hanswer
  | ok source =>
      simp only [resolveCompletion, Except.toOption, Option.map_some, Option.bind_some,
        Option.isSome_none, Bool.false_and, Bool.false_eq_true, if_false] at hwriters
      simp only [resolveCompletion, Except.toOption, Option.map_some, Option.some.injEq,
        Prod.mk.injEq]
      simp only [resolveCompletion] at hkeeps
      have hkey : version.versionId = session.versionId :=
        (hinv.sys.store.versionKey hversion).trans hsv.symm
      refine ⟨?_, ?_⟩
      · rw [hwriters]
        refine hinv.records.set (c := .complete c.input) hkeeps (hinv.begun hc) ?_ rfl
        exact StoredResult.For.keeps (c := .complete c.input)
          ⟨rfl, session, hsession, hkey⟩ hkeeps
      · rintro d r ⟨rfl, rfl⟩
        refine ⟨?_, fun record hcall => by cases hcall⟩
        exact StoredResult.For.keeps (c := .complete c.input)
          ⟨rfl, session, hsession, hkey⟩ hkeeps

/-- A step begins no completion but the one of its call. -/
theorem MemoryStep.begun {sys sys' : MemorySystem} {a : MemoryAction} (h : MemoryStep sys a sys')
    {i : Nat} {c : MemoryCompletion} (hc : sys'.completions[i]? = some c) :
    (∃ (j : Nat) (c' : MemoryCompletion), sys.completions[j]? = some c' ∧ c'.input = c.input) ∨
      a.call? = some (.complete c.input) := by
  cases a with
  | issue input ids =>
      simp only [MemoryStep, MemorySystem.next, Option.ite_none_right_eq_some,
        Option.some.injEq] at h
      obtain ⟨-, rfl⟩ := h
      exact Or.inl ⟨i, c, hc, rfl⟩
  | complete input now =>
      obtain rfl := Option.some.inj h
      rcases List.mem_append.mp (List.mem_of_getElem? hc) with hold | hnew
      · obtain ⟨j, hj⟩ := List.getElem?_of_mem hold
        exact Or.inl ⟨j, c, hj, rfl⟩
      · obtain rfl := List.mem_singleton.mp hnew
        exact Or.inr rfl
  | resolve j snapshot newDispatchId =>
      obtain ⟨_, _, _, _, -, -, -, -, hcompletions⟩ := MemorySystem.next_resolve h
      rw [hcompletions, List.getElem?_modify] at hc
      obtain ⟨c', hc', heq⟩ := Option.map_eq_some_iff.mp hc
      have hinput : c'.input = c.input := by
        rw [← heq]
        split <;> rfl
      exact Or.inl ⟨i, c', hc', hinput⟩

/-- **Every step of calls that are identified keeps the invariant, and answers a call with
a result of its own.** -/
theorem TracedStep.inv {t t' : TracedMemorySystem} {a : MemoryAction} (h : TracedStep t a t')
    (hinv : t.Inv calls) (hidentified : Identified calls)
    (hcall : ∀ c, a.call? = some c → c ∈ calls) :
    t'.Inv calls ∧ AnswersOwn ⟨t, a, t'⟩ := by
  have hbegun : ∀ {i : Nat} {c : MemoryCompletion}, t'.sys.completions[i]? = some c →
      .complete c.input ∈ calls := by
    intro i c hc
    rcases h.split.1.begun hc with ⟨j, c', hc', heq⟩ | hnew
    · exact heq ▸ hinv.begun hc'
    · exact hcall _ hnew
  cases a with
  | issue input ids =>
      obtain ⟨hrecords, hown⟩ := h.issue hinv hidentified (hcall _ rfl)
      have hresults : t'.sys.store.StoresOwn := by
        have hnext := h.split.1
        simp only [MemoryStep, MemorySystem.next, Option.ite_none_right_eq_some,
          Option.some.injEq] at hnext
        rw [← hnext.2]
        exact hinv.results.issue
      exact ⟨⟨h.split.1.inv hinv.sys, hbegun, hrecords, hresults⟩, hown⟩
  | complete input now =>
      obtain ⟨hrecords, hown⟩ := h.complete hinv hidentified (hcall _ rfl)
      have hresults : t'.sys.store.StoresOwn := by
        rw [← Option.some.inj h.split.1]
        exact hinv.results.begin hinv.sys.store
          (beginCompletion_cases (rfl : t.sys.store.beginCompletion input now = (_, _)))
      exact ⟨⟨h.split.1.inv hinv.sys, hbegun, hrecords, hresults⟩, hown⟩
  | resolve i snapshot newDispatchId =>
      obtain ⟨hrecords, hown⟩ := h.resolve hinv
      have hresults : t'.sys.store.StoresOwn := by
        obtain ⟨c, request, session, version, hc, hsession, hversion, hstore, -⟩ :=
          MemorySystem.next_resolve h.split.1
        obtain ⟨s, v, hs, hsv, -, -, -⟩ := hinv.sys.awaits hc
        obtain rfl := Option.some.inj (hsession.symm.trans hs)
        rw [hstore]
        exact hinv.results.resolve hinv.sys.store hsession
          ((hinv.sys.store.versionKey hversion).trans hsv.symm) snapshot newDispatchId
      exact ⟨⟨h.split.1.inv hinv.sys, hbegun, hrecords, hresults⟩, hown⟩

end Step

/-! ### The law -/

/-- **The idempotency law where the keys tell the calls apart**: in every run whose calls
with one key and hash are of one caller, operation and session, every call that succeeds is
answered with a result of its own. -/
theorem answers_own_where {tr : List (Transition TracedMemorySystem MemoryAction)}
    {t : TracedMemorySystem} (hrun : Run TracedStep {} tr t)
    (hidentified : Identified (callsOf tr)) : ∀ τ ∈ tr, AnswersOwn τ := by
  refine hrun.forall_where (I := fun t => t.Inv (callsOf tr))
    (C := fun τ => ∀ c, τ.action.call? = some c → c ∈ callsOf tr) ?_ ?_ (.empty _) ?_
  · intro t a t' hinv hstep hcall
    exact (hstep.inv hinv hidentified hcall).1
  · intro t a t' hinv hstep hcall
    exact (hstep.inv hinv hidentified hcall).2
  · exact fun τ hτ c hc => List.mem_filterMap.mpr ⟨τ, hτ, hc⟩

/-- Two callers complete a session each under one idempotency key, and the second repeats
its completion. -/
def separateCallers : List MemoryAction :=
  [.issue (sampleIssue "a") (sampleMemoryIds "a"),
    .complete (sampleCompletion "a" "key-1") 20,
    .resolve 0 (.ok (sampleSource "source-1")) "dispatch-a",
    .issue (sampleIssue "b") (sampleMemoryIds "b"),
    .complete { sampleCompletion "b" "key-1" with callerScopeKey := "caller-2" } 30,
    .resolve 1 (.ok (sampleSource "source-2")) "dispatch-b",
    .complete { sampleCompletion "b" "key-1" with callerScopeKey := "caller-2" } 40]

/-- In that run every call is answered with a result of its own. -/
theorem separate_callers_answered_own :
    ∃ tr t, exec TracedMemorySystem.next {} separateCallers = some (tr, t) ∧
      ∀ τ ∈ tr, AnswersOwn τ := by
  have hexec : exec TracedMemorySystem.next {} separateCallers = some (_, _) := rfl
  refine ⟨_, _, hexec, answers_own_where (exec_run hexec) ?_⟩
  have hcalls : ∀ c ∈ separateCallers.filterMap MemoryAction.call?,
      ∀ c' ∈ separateCallers.filterMap MemoryAction.call?, c.memoryKey = c'.memoryKey →
        c.normalizedRequestHash = c'.normalizedRequestHash → c.scope = c'.scope := by
    decide +kernel
  exact hcalls

/-- The issuance of a second session with the staged key of the first. -/
def sharedKeyIssue : RegistryIssueUploadSessionInput :=
  { sampleIssue "b" with objectKey := "ingest/a", normalizedRequestHash := "issue-hash-b" }

/-- The completion of the second session with the staged object of the first, under the
key of the completion of the first. -/
def sharedKeyCompletion : RegistryCompleteUploadSessionInput :=
  { sampleCompletion "a" "key-1" with uploadSessionId := "session-b" }

/-- **A completion is answered with the result of another session.** One caller completes
two sessions with one staged object under one key; the second is told of the first
session and version, and its own session is left as issued. -/
theorem session_of_another_call_answered :
    ∃ tr t, exec TracedMemorySystem.next {}
        [.issue (sampleIssue "a") (sampleMemoryIds "a"),
          .issue sharedKeyIssue (sampleMemoryIds "b"), .complete (sampleCompletion "a" "key-1") 20,
          .resolve 0 (.ok (sampleSource "source-1")) "dispatch-a",
          .complete sharedKeyCompletion 30] = some (tr, t) ∧
      (∃ τ ∈ tr, ¬ AnswersOwn τ) ∧
      (t.sys.store.uploadSessions "session-b").map (·.uploadSessionState) =
      some .sessionCreated := by
  refine ⟨_, _, rfl, ⟨_, List.mem_of_getElem? (i := 4) rfl, fun hown => ?_⟩, rfl⟩
  obtain ⟨⟨hid, -⟩, -⟩ := hown _ _ rfl
  exact absurd hid (by decide)

end Cdngine
