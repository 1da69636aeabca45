import Cdngine.OutputWorkflows

/-!
# Replayed Output Workflows

Two calls under one idempotency key, anywhere in a sequence of calls. The later one replays the
record of the run, or is rejected, and what decides is the equality of their fingerprints.

## Main results

* `output_workflow_replays_iff`: the later call replays the run exactly for the same request, and
  is rejected for any other, if and only if the two requests do not differ in what the fingerprint
  leaves out and do not agree up to an order of keys that it keeps.
* `tied_keys_rejected`: one request with two tied keys in either order, rejected.
-/

namespace Cdngine

/-! ### The law of one idempotency key -/

/-- **The law of one idempotency key.** A later call replays the record exactly when its request is
the same as that of the earlier one, and is rejected with a conflict exactly when it is not; and the
two requests have one fingerprint exactly when they are the same. -/
structure ReplaysAsRequested (rt : Runtime) (first second : OutputWorkflowTriggerContext)
    (record : OutputWorkflowRunRecord)
    (outcome : Except OutputWorkflowError OutputWorkflowRunRecord) : Prop where
  replays : outcome = .ok record ↔ SameOutputRequest first second
  rejects : outcome = .error (.idempotencyConflict second.idempotencyKey) ↔
    ¬ SameOutputRequest first second
  fingerprints : fingerprintOutputWorkflowRequest rt first =
    fingerprintOutputWorkflowRequest rt second ↔ SameOutputRequest first second

/-- Two requests whose fingerprints tell whether they are the same. If they are, the keys that the
collation ties are enumerated in the same order; and they do not differ in nothing but an empty
delivery scope of one where the other has none. -/
structure ToldApart (localeCompare : String → String → Ordering)
    (first second : OutputWorkflowTriggerContext) : Prop where
  tiedKeys : SameOutputRequest first second →
    first.parameters.KeysAlike localeCompare second.parameters
  emptyScope : SameApartFromScope first second →
    first.parameters.KeysAlike localeCompare second.parameters →
    present first.deliveryScopeId = present second.deliveryScopeId →
    first.deliveryScopeId = second.deliveryScopeId

section Replays

variable {rt : Runtime} {before between : List OutputWorkflowCall}
    {first second : OutputWorkflowCall}
  {record : OutputWorkflowRunRecord} {store : InMemoryOutputWorkflowStore}

/-- A later call under the key of a call that returned a record replays it or is rejected. -/
theorem outcome_of_later
    (hfirst : triggerOutputWorkflow rt first (runOutputWorkflowCalls rt before .empty) =
      (.ok record, store))
    (hkey : second.context.idempotencyKey = first.context.idempotencyKey)
    (hsecond : second.context.IsJson) :
    (triggerOutputWorkflow rt second (runOutputWorkflowCalls rt between store)).1 =
      if fingerprintOutputWorkflowRequest rt first.context =
        fingerprintOutputWorkflowRequest rt second.context then .ok record
      else .error (.idempotencyConflict second.context.idempotencyKey) := by
  obtain ⟨run, hrun, hfingerprint, hrecord⟩ := stored_of_trigger_eq_ok hfirst
  obtain ⟨fingerprint, hfingerprint'⟩ := @exists_fingerprint rt _ hsecond
  rw [← hkey] at hrun
  rw [triggerOutputWorkflow_of_stored (stored_of_calls hrun) hfingerprint', hfingerprint,
    hfingerprint', hrecord]
  simp only [Except.ok.injEq]

/-- **Calls under one key, in every sequence of calls.** After a call that returned the record of a
run, a later call under its key replays it exactly for the same request, and is rejected for any
other, if and only if the fingerprints tell the two requests apart. -/
theorem output_workflow_replays_iff (htexts : NumberTexts rt) [Std.TransCmp rt.localeCompare]
    (hfirst : triggerOutputWorkflow rt first (runOutputWorkflowCalls rt before .empty) =
      (.ok record, store))
    (hkey : second.context.idempotencyKey = first.context.idempotencyKey)
    (hjson : first.context.IsJson) (hjson' : second.context.IsJson) :
    ReplaysAsRequested rt first.context second.context record
        (triggerOutputWorkflow rt second (runOutputWorkflowCalls rt between store)).1 ↔
      ToldApart rt.localeCompare first.context second.context := by
  have hiff := fingerprint_eq_iff htexts hjson hjson'
  rw [outcome_of_later hfirst hkey hjson']
  constructor
  · intro hlaw
    refine ⟨fun hsame => (hiff.mp (hlaw.fingerprints.mpr hsame)).2.2, fun hsame halike hscope => ?_⟩
    exact (hlaw.fingerprints.mp (hiff.mpr ⟨hsame, hscope, halike⟩)).deliveryScopeId
  · intro htold
    have hsame : fingerprintOutputWorkflowRequest rt first.context =
        fingerprintOutputWorkflowRequest rt second.context ↔
          SameOutputRequest first.context second.context := by
      rw [hiff]
      constructor
      · rintro ⟨hsame, hscope, halike⟩
        exact ⟨hsame, htold.emptyScope hsame halike hscope⟩
      · intro hsame
        exact ⟨hsame.toSameApartFromScope, by rw [hsame.deliveryScopeId], htold.tiedKeys hsame⟩
    by_cases heq : fingerprintOutputWorkflowRequest rt first.context =
        fingerprintOutputWorkflowRequest rt second.context
    · rw [if_pos heq]
      exact ⟨⟨fun _ => hsame.mp heq, fun _ => rfl⟩,
        ⟨(fun h => by cases h), fun h => absurd (hsame.mp heq) h⟩, hsame⟩
    · rw [if_neg heq]
      exact ⟨⟨(fun h => by cases h), fun h => absurd (hsame.mpr h) heq⟩,
        ⟨fun _ h => heq (hsame.mpr h), fun _ => rfl⟩, hsame⟩

end Replays

/-! ### Requests that are told apart and requests that are not -/

/-- A collation for concrete inputs: texts compare by code point, and soft hyphens do not count. -/
def sampleCollation (a b : String) : Ordering :=
  List.compareLex compare ((a.toList.filter fun c => c ≠ Char.ofNat 0xad).map Char.toNat)
    ((b.toList.filter fun c => c ≠ Char.ofNat 0xad).map Char.toNat)

instance : Std.TransCmp sampleCollation where
  eq_swap {_ _} := @Std.OrientedCmp.eq_swap _ (List.compareLex compare) _ _ _
  isLE_trans {_ _ _} := @Std.TransCmp.isLE_trans _ (List.compareLex compare) _ _ _ _

/-- A platform for concrete inputs, of which no number is fractional. -/
def sampleOutputRuntime : Runtime :=
  { sampleRuntime with
    localeCompare := sampleCollation
    numberToString := fun q => toString q.num ++ "e" ++ toString q.den }

instance : Std.TransCmp sampleOutputRuntime.localeCompare :=
  inferInstanceAs (Std.TransCmp sampleCollation)

theorem sampleOutputRuntime_toList (q : Rat) :
    (sampleOutputRuntime.numberToString q).toList =
      (toString q.num).toList ++ 'e' :: Nat.toDigits 10 q.den := by
  change (toString q.num ++ "e" ++ toString q.den).toList = _
  have hmark : "e".toList = ['e'] := rfl
  rw [String.toList_append, String.toList_append, hmark, Nat.toString_eq_ofList_toDigits,
    String.toList_ofList, List.append_assoc, List.singleton_append]

theorem sampleOutputRuntime_texts : NumberTexts sampleOutputRuntime where
  chars q _ c hc := by
    rw [sampleOutputRuntime_toList] at hc
    cases List.mem_append.mp hc with
    | inl hnum =>
        cases isDigit_or_sign_of_mem_toString hnum with
        | inl hdigit => simp [isNumberChar, hdigit]
        | inr hsign => rw [hsign]; decide
    | inr hrest =>
        cases List.mem_cons.mp hrest with
        | inl hmark => rw [hmark]; decide
        | inr hden => simp [isNumberChar, isDigit_of_mem_toDigits_ten hden]
  marked q _ := by
    rw [sampleOutputRuntime_toList]
    exact ⟨'e', List.mem_append_right _ List.mem_cons_self, .inr rfl⟩
  injective p q _ _ h := by
    have hlist := congrArg String.toList h
    rw [sampleOutputRuntime_toList, sampleOutputRuntime_toList] at hlist
    have hnotMem : ∀ n : Int, 'e' ∉ (toString n).toList := fun n hmem =>
      (isDigit_or_sign_of_mem_toString hmem).elim (by decide) (by decide)
    obtain ⟨hnum, hden⟩ := append_cons_inj_of_notMem (hnotMem p.num) (hnotMem q.num) hlist
    exact Rat.ext (toString_int_injective (String.toList_inj.mp hnum)) (toDigits_ten_injective hden)

/-- A call of a registered workflow with some parameters, which completes at once. -/
def sampleOutputCall (parameters : List (String × JsValue)) : OutputWorkflowCall where
  context :=
    { assetId := "asset-1"
      authorizationKind := .delivery
      deliveryScopeId := some "scope-1"
      idempotencyKey := "key-1"
      now := 0
      outputWorkflowId := "watermark"
      outputParameters := some parameters
      resolvedUrl := "https://cdn/a"
      versionId := "version-1" }
  handlers workflowId :=
    if workflowId = "watermark" then
      some fun context runId => .ok
        { expiresAt := some (context.now + 900000)
          outputWorkflowId := context.outputWorkflowId
          runId
          state := .complete
          url := some "https://cdn/b" }
    else none
  runId := "run-1"

/-- The record of the sample run. -/
def sampleOutputRecord : OutputWorkflowRunRecord where
  expiresAt := some 900000
  outputWorkflowId := "watermark"
  runId := "run-1"
  state := .complete
  url := some "https://cdn/b"

theorem sampleOutputCall_runs {parameters : List (String × JsValue)}
    (h : (sampleOutputCall parameters).context.IsJson) :
    ∃ store, triggerOutputWorkflow sampleOutputRuntime (sampleOutputCall parameters)
      (runOutputWorkflowCalls sampleOutputRuntime [] .empty) = (.ok sampleOutputRecord, store) := by
  obtain ⟨fingerprint, hfingerprint⟩ := @exists_fingerprint sampleOutputRuntime _ h
  rw [triggerOutputWorkflow, hfingerprint]
  exact ⟨_, rfl⟩

/-- The parameters of a watermark, with a nested object. -/
def sampleParameters : List (String × JsValue) :=
  [("width", .number (.finite 640)), ("note", .undefined),
    ("crop", .object [("x", .number (.finite 1)), ("y", .number (.finite 2))])]

/-- The same parameters, with the keys in another order. -/
def samplePermutedParameters : List (String × JsValue) :=
  [("crop", .object [("y", .number (.finite 2)), ("x", .number (.finite 1))]),
    ("width", .number (.finite 640))]

/-- Parameters with two keys that the collation ties. -/
def sampleTiedParameters : List (String × JsValue) :=
  [("ab", .number (.finite 1)), ("a\u00adb", .number (.finite 2))]

theorem sampleParameters_isJson : (sampleOutputCall sampleParameters).context.IsJson :=
  ⟨_, rfl, by simp [Json.Keyed, Json.KeyedEntries]⟩

theorem samplePermutedParameters_isJson :
    (sampleOutputCall samplePermutedParameters).context.IsJson :=
  ⟨_, rfl, by simp [Json.Keyed, Json.KeyedEntries]⟩

theorem sampleTiedParameters_isJson : (sampleOutputCall sampleTiedParameters).context.IsJson :=
  ⟨_, rfl, by simp [Json.Keyed, Json.KeyedEntries]⟩

theorem sampleTiedParameters_reverse_isJson :
    (sampleOutputCall sampleTiedParameters.reverse).context.IsJson :=
  ⟨_, rfl, by simp [Json.Keyed, Json.KeyedEntries]⟩

theorem sampleTiedParameters_same :
    SameOutputRequest (sampleOutputCall sampleTiedParameters).context
    (sampleOutputCall sampleTiedParameters.reverse).context where
  assetId := rfl
  authorizationKind := rfl
  parameters := ⟨_, _, rfl, rfl, by simp [Json.SameEntries]⟩
  outputWorkflowId := rfl
  versionId := rfl
  deliveryScopeId := rfl

/-- No two keys of the sample parameters are tied, at either depth. -/
theorem sampleParameters_alike :
    (JsValue.object sampleParameters).KeysAlike sampleCollation
      (.object samplePermutedParameters) := by
  intro j j' hj hj'
  obtain rfl : Json.object [("width", .number 640),
    ("crop", .object [("x", .number 1), ("y", .number 2)])] = j := Option.some.inj hj
  obtain rfl : Json.object [("crop", .object [("y", .number 2), ("x", .number 1)]),
    ("width", .number 640)] = j' := Option.some.inj hj'
  have hcrop : (Json.object [("x", .number 1), ("y", .number 2)]).KeysAlike sampleCollation
      (.object [("y", .number 2), ("x", .number 1)]) := by
    rw [Json.KeysAlike]
    refine ⟨tiedKeysAlike_of_perm (.swap _ _ _) (by decide +kernel), ?_⟩
    simp [Json.EntriesAlike]
  rw [Json.KeysAlike]
  refine ⟨tiedKeysAlike_of_perm (.swap _ _ _) (by decide +kernel), ?_⟩
  simp [Json.EntriesAlike, hcrop]

/-- A request whose keys come in another order at both depths, with an undefined entry left out,
replays the run. -/
theorem permuted_parameters_replayed :
    ∃ store, triggerOutputWorkflow sampleOutputRuntime (sampleOutputCall sampleParameters)
        (runOutputWorkflowCalls sampleOutputRuntime [] .empty) = (.ok sampleOutputRecord, store) ∧
      ReplaysAsRequested sampleOutputRuntime (sampleOutputCall sampleParameters).context
        (sampleOutputCall samplePermutedParameters).context sampleOutputRecord
        (triggerOutputWorkflow sampleOutputRuntime (sampleOutputCall samplePermutedParameters)
          (runOutputWorkflowCalls sampleOutputRuntime [] store)).1 := by
  obtain ⟨store, hrun⟩ := sampleOutputCall_runs sampleParameters_isJson
  have hkey : (sampleOutputCall samplePermutedParameters).context.idempotencyKey =
      (sampleOutputCall sampleParameters).context.idempotencyKey := rfl
  exact ⟨store, hrun, (output_workflow_replays_iff sampleOutputRuntime_texts hrun hkey
    sampleParameters_isJson samplePermutedParameters_isJson).mpr
      ⟨fun _ => sampleParameters_alike, fun _ _ _ => rfl⟩⟩

/-- **One request, rejected.** The parameters have two keys that differ in a soft hyphen, which the
collation ties; in the second call they come in the other order. -/
theorem tied_keys_rejected :
    ∃ store, triggerOutputWorkflow sampleOutputRuntime (sampleOutputCall sampleTiedParameters)
        (runOutputWorkflowCalls sampleOutputRuntime [] .empty) = (.ok sampleOutputRecord, store) ∧
      SameOutputRequest (sampleOutputCall sampleTiedParameters).context
        (sampleOutputCall sampleTiedParameters.reverse).context ∧
      (triggerOutputWorkflow sampleOutputRuntime (sampleOutputCall sampleTiedParameters.reverse)
        (runOutputWorkflowCalls sampleOutputRuntime [] store)).1 =
          .error (.idempotencyConflict "key-1") ∧
      ¬ ReplaysAsRequested sampleOutputRuntime (sampleOutputCall sampleTiedParameters).context
        (sampleOutputCall sampleTiedParameters.reverse).context sampleOutputRecord
        (triggerOutputWorkflow sampleOutputRuntime (sampleOutputCall sampleTiedParameters.reverse)
          (runOutputWorkflowCalls sampleOutputRuntime [] store)).1 := by
  obtain ⟨store, hrun⟩ := sampleOutputCall_runs sampleTiedParameters_isJson
  have hdiffer : fingerprintOutputWorkflowRequest sampleOutputRuntime
      (sampleOutputCall sampleTiedParameters).context ≠
        fingerprintOutputWorkflowRequest sampleOutputRuntime
          (sampleOutputCall sampleTiedParameters.reverse).context := by
    intro heq
    obtain ⟨-, -, halike⟩ := (fingerprint_eq_iff sampleOutputRuntime_texts
      sampleTiedParameters_isJson sampleTiedParameters_reverse_isJson).mp heq
    have hobjects := halike _ _ rfl rfl
    rw [Json.KeysAlike] at hobjects
    exact absurd (hobjects.1 "ab") (by decide +kernel)
  have hkey : (sampleOutputCall sampleTiedParameters.reverse).context.idempotencyKey =
      (sampleOutputCall sampleTiedParameters).context.idempotencyKey := rfl
  have hconflict : (triggerOutputWorkflow sampleOutputRuntime
      (sampleOutputCall sampleTiedParameters.reverse)
        (runOutputWorkflowCalls sampleOutputRuntime [] store)).1 =
          .error (.idempotencyConflict "key-1") := by
    rw [outcome_of_later hrun hkey sampleTiedParameters_reverse_isJson, if_neg hdiffer]
    rfl
  exact ⟨store, hrun, sampleTiedParameters_same, hconflict,
    fun hlaw => hlaw.rejects.mp hconflict sampleTiedParameters_same⟩

end Cdngine
