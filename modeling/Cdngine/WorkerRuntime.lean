import Cdngine.PublicationWorkflow
import Cdngine.RegistryRuns

/-!
# The Publication Worker

`executeWorkflow` of the worker: it reports the run as running, publishes the version to
each of its delivery scopes in turn, and reports the run as completed; whatever throws on
the way is reported with `markFailedRetryable` and thrown again.

A `WorkerEnvironment` says what the connections, the processors, the object store and the
clock do during one execution.

## Main results

* `executeWorkflow_operations`: an execution is a sequence of operations of the registry.
* `publishTargets_ok_iff`: the worker publishes to one delivery scope or to none. The
  deterministic key of a derivative does not name its scope, so the first derivative of a
  second scope finds its key taken by the first.
* `executeWorkflow_publishes_iff`: an execution whose dependencies succeed publishes its
  version exactly when the version has one target, can begin and be prepared, and its keys
  are free (`Publishable`).
* `executeWorkflow_publishes_after_iff`: after failed attempts it never does. A recorded
  failure leaves the version `failed_retryable`, from where no publication begins.
-/

open Relational

namespace Cdngine

/-! ### The worker -/

structure WorkflowDispatchExecutionInput where
  assetVersionId : String
  dispatchId : String
  workflowTemplateId : String

structure WorkerWorkflowExecutionRequest where
  workflow : WorkflowDispatchExecutionInput
  workflowId : String

structure WorkerPublicationRuntimeResult where
  deliveryScopeIds : List String
  workflowId : String
  workflowTemplateId : String
  deriving DecidableEq, Repr

/-- What surrounds one execution: the processors and stores that are configured, what
each delivery scope meets, how the reports and the lookup of the targets end, and the
clock. -/
structure WorkerEnvironment where
  configured : PublicationKind → Bool
  target : String → TargetEnvironment
  marking : Interruption := .none
  listing : Option RegistryError := none
  completing : Interruption := .none
  failing : Interruption := .none
  runningAt : Instant
  completedAt : Instant
  failedAt : Instant

/-- The kind of publication that a workflow template executes. -/
def PublicationKind.ofTemplate? (workflowTemplateId : String) : Option PublicationKind :=
  [.genericAsset, .image, .presentation].find? fun kind : PublicationKind =>
    kind.workflowTemplateId == workflowTemplateId

/-- The kind of publication that a worker executes for a workflow template. -/
def WorkerEnvironment.supported (env : WorkerEnvironment) (workflowTemplateId : String) :
    Option PublicationKind :=
  (PublicationKind.ofTemplate? workflowTemplateId).filter env.configured

/-- The failure class and the retry summary of a thrown value. -/
def summarizeFailure (rt : Runtime) (error : RegistryError) :
    String × Option (List (String × JsValue)) :=
  match error.name with
  | some name =>
      (if name = "" then "worker-publication-failed" else name,
        some [("message", .string (error.message rt))])
  | none => ("worker-publication-failed", none)

namespace WorkerWorkflowExecutionRequest

variable (request : WorkerWorkflowExecutionRequest)

/-- The report that the run of a request is running. -/
def running (env : WorkerEnvironment) : MarkWorkflowExecutionRunningInput where
  assetVersionId := request.workflow.assetVersionId
  currentPhase := some "publishing"
  dispatchId := some request.workflow.dispatchId
  observedAt := env.runningAt
  workflowId := request.workflowId
  workflowTemplateId := request.workflow.workflowTemplateId

/-- The report that the run of a request has completed. -/
def completion (env : WorkerEnvironment) : MarkWorkflowExecutionCompletedInput where
  assetVersionId := request.workflow.assetVersionId
  completedAt := env.completedAt
  currentPhase := some "published"
  workflowId := request.workflowId
  workflowTemplateId := request.workflow.workflowTemplateId

/-- The report that the run of a request has failed. -/
def failure (rt : Runtime) (env : WorkerEnvironment) (error : RegistryError) :
    MarkWorkflowExecutionFailedInput where
  assetVersionId := request.workflow.assetVersionId
  currentPhase := some "failed"
  failedAt := env.failedAt
  failureClass := (summarizeFailure rt error).1
  retrySummary := (summarizeFailure rt error).2
  workflowId := request.workflowId
  workflowTemplateId := request.workflow.workflowTemplateId

/-- The result of a request, for the targets it was published to. -/
def result (targets : List PublicationTargetRecord) : WorkerPublicationRuntimeResult where
  deliveryScopeIds := targets.map (·.deliveryScopeId)
  workflowId := request.workflowId
  workflowTemplateId := request.workflow.workflowTemplateId

end WorkerWorkflowExecutionRequest

/-- Publish a version to one target after the other; the first that throws ends the
loop. -/
def publishTargets (rt : Runtime) (env : WorkerEnvironment) (kind : PublicationKind)
    (versionId : String) : List PublicationTargetRecord → Db → Except RegistryError Unit × Db
  | [], db => (.ok (), db)
  | target :: targets, db =>
      match kind.run rt (env.target target.deliveryScopeId)
        { deliveryScopeId := target.deliveryScopeId, versionId } db with
      | (.error e, db) => (.error e, db)
      | (.ok (), db) => publishTargets rt env kind versionId targets db

/-- The `try` block of an execution. -/
def performWorkflow (rt : Runtime) (env : WorkerEnvironment)
    (request : WorkerWorkflowExecutionRequest) (db : Db) :
    Except RegistryError WorkerPublicationRuntimeResult × Db :=
  let versionId := request.workflow.assetVersionId
  match env.listing with
  | some e => (.error e, db)
  | none =>
      let targets := listPublicationTargets rt db versionId
      if targets = [] then (.error (.workerPublicationTargetsNotConfigured versionId), db)
      else
        match env.supported request.workflow.workflowTemplateId with
        | none =>
            (.error (.workerWorkflowTemplateNotSupported request.workflow.workflowTemplateId), db)
        | some kind =>
            match publishTargets rt env kind versionId targets db with
            | (.error e, db) => (.error e, db)
            | (.ok (), db) =>
                match env.completing.transact (markCompleted (request.completion env)) db with
                | (.error e, db) => (.error e, db)
                | (.ok (), db) => (.ok (request.result targets), db)

/-- `WorkerPublicationRuntime.executeWorkflow`. -/
def executeWorkflow (rt : Runtime) (env : WorkerEnvironment)
    (request : WorkerWorkflowExecutionRequest) (db : Db) :
    Except RegistryError WorkerPublicationRuntimeResult × Db :=
  match env.marking.transact (markRunning (request.running env)) db with
  | (.error e, db) => (.error e, db)
  | (.ok (), db) =>
      match performWorkflow rt env request db with
      | (.ok result, db) => (.ok result, db)
      | (.error error, db) =>
          match env.failing.transact (markFailedRetryable rt (request.failure rt env error)) db with
          | (.error e, db) => (.error e, db)
          | (.ok (), db) => (.error error, db)

/-! ### Inversion -/

section Inversion

variable {rt : Runtime} {env : WorkerEnvironment} {request : WorkerWorkflowExecutionRequest}
  {db db' : Db} {result : WorkerPublicationRuntimeResult}

theorem executeWorkflow_eq_ok_iff :
    executeWorkflow rt env request db = (.ok result, db') ↔
      ∃ db₁, env.marking.transact (markRunning (request.running env)) db = (.ok (), db₁) ∧
        performWorkflow rt env request db₁ = (.ok result, db') := by
  unfold executeWorkflow
  rcases hmarking : env.marking.transact (markRunning (request.running env)) db with ⟨e | u, db₁⟩
  · simp
  · rcases hperform : performWorkflow rt env request db₁ with ⟨error | r, db₂⟩
    · rcases hfailing : env.failing.transact
        (markFailedRetryable rt (request.failure rt env error)) db₂ with ⟨e | u', db₃⟩
      · simp [hperform, hfailing]
      · simp [hperform, hfailing]
    · simp [hperform]

theorem performWorkflow_eq_ok_iff :
    performWorkflow rt env request db = (.ok result, db') ↔
      ∃ kind db₁, env.listing = none ∧
        listPublicationTargets rt db request.workflow.assetVersionId ≠ [] ∧
        env.supported request.workflow.workflowTemplateId = some kind ∧
        publishTargets rt env kind request.workflow.assetVersionId
          (listPublicationTargets rt db request.workflow.assetVersionId) db = (.ok (), db₁) ∧
        env.completing.transact (markCompleted (request.completion env)) db₁ = (.ok (), db') ∧
        result = request.result (listPublicationTargets rt db request.workflow.assetVersionId) := by
  unfold performWorkflow
  cases env.listing with
  | some e => simp
  | none =>
      by_cases htargets : listPublicationTargets rt db request.workflow.assetVersionId = []
      · simp [htargets]
      · cases hkind : env.supported request.workflow.workflowTemplateId with
        | none => simp [htargets]
        | some kind =>
            rcases hpublish : publishTargets rt env kind request.workflow.assetVersionId
              (listPublicationTargets rt db request.workflow.assetVersionId) db with ⟨e | u, db₁⟩
            · simp [htargets, hpublish]
            · rcases hcompleting : env.completing.transact (markCompleted (request.completion env))
                db₁ with ⟨e | u', db₂⟩
              · simp [htargets, hpublish, hcompleting]
              · simp only [if_neg htargets, hpublish, hcompleting, Prod.mk.injEq, Except.ok.injEq]
                constructor
                · rintro ⟨rfl, rfl⟩
                  exact ⟨kind, db₁, trivial, htargets, rfl, hpublish, hcompleting, rfl⟩
                · rintro ⟨kind', db₁', -, -, hkind', hpublish', hcompleting', rfl⟩
                  obtain rfl := Option.some.inj hkind'
                  obtain rfl := (Prod.mk.inj (hpublish.symm.trans hpublish')).2
                  exact ⟨rfl, (Prod.mk.inj (hcompleting.symm.trans hcompleting')).2⟩

end Inversion

/-! ### An execution as registry operations -/

section Operations

variable {R : Db → Db → Prop} {rt : Runtime}

theorem Interruption.transact_keeps {α : Type} (hrefl : ∀ db, R db db) {tx : Transaction α}
    {db : Db} (h : R db (Cdngine.transact tx db).2) (interruption : Interruption) :
    R db (interruption.transact tx db).2 := by
  cases interruption with
  | none => exact h
  | before e => exact hrefl db
  | after e => exact h

theorem runPublicationWorkflow_keeps {ε : Type} {store : PublicationStore ε}
    {prepare : TargetEnvironment → String → CanonicalVersionRecord ε →
      Except RegistryError PreparedPublication}
    {env : TargetEnvironment} {input : RunPublicationWorkflowInput} (hrefl : ∀ db, R db db)
    (htrans : ∀ {db₁ db₂ db₃}, R db₁ db₂ → R db₂ db₃ → R db₁ db₃)
    (hbegin : ∀ db, R db (transact (store.begin input.versionId) db).2)
    (hpublish : ∀ derivatives manifest db, R db (transact (store.publish rt input.versionId
      input.deliveryScopeId derivatives manifest) db).2) (db : Db) :
    R db (runPublicationWorkflow store prepare rt env input db).2 := by
  have hbegun := Interruption.transact_keeps hrefl (hbegin db) env.beginning
  unfold runPublicationWorkflow
  rcases hb : env.beginning.transact (store.begin input.versionId) db with ⟨e | version, db₁⟩
  · rw [hb] at hbegun
    exact hbegun
  · rw [hb] at hbegun
    cases hprepare : prepare env input.deliveryScopeId version with
    | error e => simpa only [hprepare] using hbegun
    | ok prepared =>
        have hpublished := Interruption.transact_keeps hrefl
          (hpublish prepared.derivatives prepared.manifest db₁) env.publishing
        simp only [hprepare]
        split
        · rename_i hp
          rw [hp] at hpublished
          exact htrans hbegun hpublished
        · rename_i hp
          rw [hp] at hpublished
          exact htrans hbegun hpublished

/-- **The rule of an execution**: a reflexive and transitive relation between databases
that every operation of the registry keeps, an execution keeps. -/
theorem executeWorkflow_keeps (hrefl : ∀ db, R db db)
    (htrans : ∀ {db₁ db₂ db₃}, R db₁ db₂ → R db₂ db₃ → R db₁ db₃)
    (hoperation : ∀ (op : RegistryOperation) db, R db (op.run rt db)) (env : WorkerEnvironment)
    (request : WorkerWorkflowExecutionRequest) (db : Db) :
    R db (executeWorkflow rt env request db).2 := by
  have hrun : ∀ (kind : PublicationKind) env input db, R db (kind.run rt env input db).2 := by
    intro kind env input db
    cases kind with
    | genericAsset =>
        exact runPublicationWorkflow_keeps hrefl htrans
          (hoperation (.beginPublication .genericAsset input.versionId))
          (fun derivatives manifest =>
            hoperation
              (.publishVersion .genericAsset input.versionId input.deliveryScopeId derivatives
              manifest)) db
    | image =>
        exact runPublicationWorkflow_keeps hrefl htrans
          (hoperation (.beginPublication .image input.versionId)) (fun derivatives manifest =>
            hoperation (.publishVersion .image input.versionId input.deliveryScopeId derivatives
              manifest)) db
    | presentation =>
        exact runPublicationWorkflow_keeps hrefl htrans
          (hoperation (.beginPublication .presentation input.versionId))
          (fun derivatives manifest =>
            hoperation
              (.publishVersion .presentation input.versionId input.deliveryScopeId derivatives
              manifest)) db
  have htargets : ∀ (kind : PublicationKind) versionId targets db,
      R db (publishTargets rt env kind versionId targets db).2 := by
    intro kind versionId targets
    induction targets with
    | nil => exact hrefl
    | cons target targets ih =>
        intro db
        have hfirst := hrun kind (env.target target.deliveryScopeId)
          { deliveryScopeId := target.deliveryScopeId, versionId } db
        unfold publishTargets
        split
        · rename_i h
          rw [h] at hfirst
          exact hfirst
        · rename_i h
          rw [h] at hfirst
          exact htrans hfirst (ih _)
  have hperform : ∀ db, R db (performWorkflow rt env request db).2 := by
    intro db
    unfold performWorkflow
    split
    · exact hrefl db
    · dsimp only
      split
      · exact hrefl db
      · split
        · exact hrefl db
        · rename_i kind _
          have hpublished := htargets kind request.workflow.assetVersionId
            (listPublicationTargets rt db request.workflow.assetVersionId) db
          split
          · rename_i h
            rw [h] at hpublished
            exact hpublished
          · rename_i db₁ h
            rw [h] at hpublished
            have hcompleted := Interruption.transact_keeps hrefl
              (hoperation (.markCompleted (request.completion env)) db₁) env.completing
            split
            · rename_i h
              rw [h] at hcompleted
              exact htrans hpublished hcompleted
            · rename_i h
              rw [h] at hcompleted
              exact htrans hpublished hcompleted
  have hmarked := Interruption.transact_keeps hrefl
    (hoperation (.markRunning (request.running env)) db) env.marking
  unfold executeWorkflow
  split
  · rename_i h
    rw [h] at hmarked
    exact hmarked
  · rename_i db₁ h
    rw [h] at hmarked
    have hperformed := hperform db₁
    split
    · rename_i h
      rw [h] at hperformed
      exact htrans hmarked hperformed
    · rename_i error db₂ h
      rw [h] at hperformed
      have hfailed := Interruption.transact_keeps hrefl
        (hoperation (.markFailedRetryable (request.failure rt env error)) db₂) env.failing
      split
      · rename_i h
        rw [h] at hfailed
        exact htrans hmarked (htrans hperformed hfailed)
      · rename_i h
        rw [h] at hfailed
        exact htrans hmarked (htrans hperformed hfailed)

/-- **An execution is a sequence of registry operations**, whatever happens during it. -/
theorem executeWorkflow_operations (env : WorkerEnvironment)
    (request : WorkerWorkflowExecutionRequest) (db : Db) :
    ∃ ops : List RegistryOperation,
      (executeWorkflow rt env request db).2 = runCalls rt (ops.map .operation) db := by
  refine executeWorkflow_keeps (R := fun db db' => ∃ ops : List RegistryOperation,
    db' = runCalls rt (ops.map .operation) db) (fun db => ⟨[], rfl⟩) ?_ (fun op db => ⟨[op], rfl⟩)
    env request db
  rintro db₁ db₂ db₃ ⟨ops, rfl⟩ ⟨ops', rfl⟩
  exact ⟨ops ++ ops', by rw [runCalls, runCalls, runCalls, List.map_append, List.foldl_append]⟩

end Operations

/-! ### The reports -/

/-- What the report of a running run leaves. -/
theorem markRunning_unchanged {input : MarkWorkflowExecutionRunningInput} {db db' : Db} {u : Unit}
    (h : markRunning input db = .ok (u, db')) :
    ∃ runs events, db' = { db with workflowRuns := runs, auditEvents := events } := by
  obtain ⟨db₁, h₁, h⟩ := bind_eq_ok.mp h
  obtain ⟨db₂, h₂, h⟩ := bind_eq_ok.mp h
  obtain ⟨-, rfl⟩ := Prod.mk.inj (Except.ok.inj h)
  obtain ⟨t₁, -, rfl⟩ := write_eq_ok.mp h₁
  obtain ⟨t₂, -, rfl⟩ := write_eq_ok.mp h₂
  exact ⟨t₁, t₂, rfl⟩

/-- What the report of a completed run leaves: the run is completed. -/
theorem markCompleted_completed {input : MarkWorkflowExecutionCompletedInput} {db db' : Db}
    {u : Unit} (h : markCompleted input db = .ok (u, db')) :
    (∃ runs events, db' = { db with workflowRuns := runs, auditEvents := events }) ∧
      ∃ run, db'.workflowRuns.find? (fun r => r.workflowId == input.workflowId) = some run ∧
        run.state = .completed := by
  obtain ⟨db₁, h₁, h⟩ := bind_eq_ok.mp h
  obtain ⟨db₂, h₂, h⟩ := bind_eq_ok.mp h
  obtain ⟨-, rfl⟩ := Prod.mk.inj (Except.ok.inj h)
  obtain ⟨t₁, ht₁, rfl⟩ := write_eq_ok.mp h₁
  obtain ⟨t₂, -, rfl⟩ := write_eq_ok.mp h₂
  refine ⟨⟨t₁, t₂, rfl⟩, ?_⟩
  have hfind := Table.find?_upsert_key ht₁ (fun _ => rfl) rfl input.workflowId
  rw [show input.createdRun.workflowId = input.workflowId from rfl, if_pos rfl] at hfind
  refine ⟨_, hfind, ?_⟩
  cases db.workflowRuns.find? fun r => r.workflowId == input.workflowId with
  | none => rfl
  | some run => rfl

/-! ### The targets of a version -/

/-- The targets of a version are delivery scopes of its asset. -/
theorem mem_listPublicationTargets {rt : Runtime} {db : Db} {versionId : String}
    {row : PublicationRow} (hrow : db.findPublicationVersion versionId = some row)
    {target : PublicationTargetRecord} (h : target ∈ listPublicationTargets rt db versionId) :
    ∃ s ∈ db.deliveryScopes.rows, s.id = target.deliveryScopeId ∧
      s.availableTo row.asset = true := by
  simp only [Db.findPublicationVersion, Option.bind_eq_bind, Option.bind_eq_some_iff,
    Option.some.injEq] at hrow
  obtain ⟨v, hv, a, ha, ns, hns, rfl⟩ := hrow
  simp only [listPublicationTargets, hv, Option.bind_some, ha, List.mem_map] at h
  obtain ⟨s, hs, rfl⟩ := h
  have hs' := (sortBy_perm _ _).mem_iff.mp hs
  exact ⟨s, (List.mem_filter.mp hs').1, rfl, (List.mem_filter.mp hs').2⟩

/-- The targets of a version are different delivery scopes. -/
theorem nodup_listPublicationTargets (rt : Runtime) (db : Db) (versionId : String) :
    ((listPublicationTargets rt db versionId).map (·.deliveryScopeId)).Nodup := by
  unfold listPublicationTargets
  split
  · exact List.nodup_nil
  · rename_i asset _
    have hids : (db.deliveryScopes.rows.map (·.id)).Nodup := by
      rw [List.Nodup, List.pairwise_map]
      refine db.deliveryScopes.unique.imp fun {a b} hclash hid => ?_
      simp [clash, sameKey, hid] at hclash
    rw [List.map_map]
    have hsorted := ((sortBy_perm (DeliveryScope.before rt)
      (db.deliveryScopes.rows.filter fun s => s.availableTo asset)).map (·.id)).nodup_iff
    exact hsorted.mpr (hids.sublist (List.filter_sublist.map _))

/-! ### The loop -/

/-- The row of a version after it was published to a scope. -/
theorem Db.PublishedTo.findPublicationVersion {db db' : Db} {versionId scope manifestType : String}
    {places : List (String × DerivativeSlot)}
    (h : db.PublishedTo db' versionId scope manifestType places) {row : PublicationRow}
    (hrow : db.findPublicationVersion versionId = some row) :
    db'.findPublicationVersion versionId =
      some { row with version := row.version.moveTo .published } := by
  have hversion := h.version? versionId
  obtain ⟨versions, derivatives, manifests, rfl⟩ := h.unchanged
  simp only [Db.findPublicationVersion, Option.bind_eq_bind, Option.bind_eq_some_iff,
    Option.some.injEq] at hrow ⊢
  obtain ⟨v, hv, a, ha, ns, hns, rfl⟩ := hrow
  exact ⟨v.moveTo .published, by rw [hversion, hv]; simp, a, ha, ns, hns, rfl⟩

section Loop

variable {rt : Runtime} {env : WorkerEnvironment} {kind : PublicationKind} {versionId : String}
  {db db₁ : Db} {target target' : PublicationTargetRecord}

/-- **A second scope is blocked by the first**: the first derivative of a kind has one
deterministic key in every scope of a version. -/
theorem run_second_fails (h : (env.target target.deliveryScopeId).Succeeds kind)
    (h' : (env.target target'.deliveryScopeId).Succeeds kind)
    (hne : target.deliveryScopeId ≠ target'.deliveryScopeId)
    (hrun : kind.run rt (env.target target.deliveryScopeId)
      { deliveryScopeId := target.deliveryScopeId, versionId } db = (.ok (), db₁)) :
    ¬ ∃ db₂, kind.run rt (env.target target'.deliveryScopeId)
      { deliveryScopeId := target'.deliveryScopeId, versionId } db₁ = (.ok (), db₂) := by
  intro hrun'
  obtain ⟨row, hrow, hpublished⟩ := PublicationKind.run_publishedTo h hrun
  obtain ⟨row', hrow', -, -, -, -, hfree⟩ := (PublicationKind.run_succeeds_iff _ _ _ h').mp hrun'
  obtain rfl := Option.some.inj ((hpublished.findPublicationVersion hrow).symm.trans hrow')
  obtain ⟨later, hlater⟩ := kind.variants_eq_cons rt
    (env.target target.deliveryScopeId) row
  obtain ⟨later', hlater'⟩ := kind.variants_eq_cons rt
    (env.target target'.deliveryScopeId) { row with version := row.version.moveTo .published }
  obtain ⟨x, hx, hslot, hkey⟩ := hpublished.derivatives_written
    (PublicationKind.place row target.deliveryScopeId kind.headVariant) (by
      rw [PublicationKind.places, hlater]
      exact List.mem_cons_self)
  rw [PublicationKind.places, hlater', List.map_cons] at hfree
  have hslot' := hfree.slot_eq hx hkey
  have hscope := congrArg (fun slot : DerivativeSlot => slot.2.1) (hslot.symm.trans hslot')
  exact hne hscope

/-- **The loop publishes to a single target only.** -/
theorem publishTargets_ok_iff {targets : List PublicationTargetRecord}
    (h : ∀ scope, (env.target scope).Succeeds kind)
    (hnodup : (targets.map (·.deliveryScopeId)).Nodup) (hne : targets ≠ []) {db' : Db} :
    publishTargets rt env kind versionId targets db = (.ok (), db') ↔
      ∃ target, targets = [target] ∧ kind.run rt (env.target target.deliveryScopeId)
        { deliveryScopeId := target.deliveryScopeId, versionId } db = (.ok (), db') := by
  cases targets with
  | nil => exact absurd rfl hne
  | cons target targets =>
      rcases hrun : kind.run rt (env.target target.deliveryScopeId)
        { deliveryScopeId := target.deliveryScopeId, versionId } db with ⟨e | u, db₁⟩
      · simp [publishTargets, hrun]
      · cases targets with
        | nil => simp [publishTargets, hrun]
        | cons target' targets =>
            have hfails : ¬ ∃ db₂, kind.run rt (env.target target'.deliveryScopeId)
                { deliveryScopeId := target'.deliveryScopeId, versionId } db₁ = (.ok (), db₂) := by
              refine run_second_fails (h _) (h _) (fun heq => ?_) hrun
              exact (List.nodup_cons.mp hnodup).1 (List.mem_cons.mpr (Or.inl heq))
            rcases hrun' : kind.run rt (env.target target'.deliveryScopeId)
              { deliveryScopeId := target'.deliveryScopeId, versionId } db₁ with ⟨e | u', db₂⟩
            · simp [publishTargets, hrun, hrun']
            · exact absurd ⟨db₂, hrun'⟩ hfails

end Loop

/-! ### Executions whose dependencies succeed -/

/-- Nothing that an execution of a workflow template depends on fails. -/
structure WorkerEnvironment.Succeeds (env : WorkerEnvironment) (workflowTemplateId : String) :
    Prop where
  marking : env.marking = .none
  listing : env.listing = none
  completing : env.completing = .none
  targets : ∀ kind, PublicationKind.ofTemplate? workflowTemplateId = some kind →
    ∀ scope, (env.target scope).Succeeds kind

/-- **An execution publishes its version**: it returns its targets, the version is
published and its run completed, every derivative and manifest of every target has
exactly one row, and the derivatives of the other scopes are as they were. -/
structure WorkflowPublishes (rt : Runtime) (env : WorkerEnvironment)
    (request : WorkerWorkflowExecutionRequest) (db : Db) : Prop where
  result : (executeWorkflow rt env request db).1 =
    .ok (request.result (listPublicationTargets rt db request.workflow.assetVersionId))
  published : (executeWorkflow rt env request db).2.lifecycle? request.workflow.assetVersionId =
    some .published
  completed : ∃ run, (executeWorkflow rt env request db).2.workflowRuns.find?
    (fun r => r.workflowId == request.workflowId) = some run ∧ run.state = .completed
  derivatives : ∀ kind row, env.supported request.workflow.workflowTemplateId = some kind →
    db.findPublicationVersion request.workflow.assetVersionId = some row →
    ∀ target ∈ listPublicationTargets rt db request.workflow.assetVersionId,
    ∀ place ∈ kind.places rt (env.target target.deliveryScopeId) target.deliveryScopeId row,
      (executeWorkflow rt env request db).2.derivatives.countP (fun r => r.slot == place.2) = 1
  manifests : ∀ kind, env.supported request.workflow.workflowTemplateId = some kind →
    ∀ target ∈ listPublicationTargets rt db request.workflow.assetVersionId,
      (executeWorkflow rt env request db).2.assetManifests.countP (fun r => r.slot ==
        (request.workflow.assetVersionId, kind.manifestType, target.deliveryScopeId)) = 1
  others : ∀ x : Derivative,
    (∀ target ∈ listPublicationTargets rt db request.workflow.assetVersionId,
      x.deliveryScopeId ≠ target.deliveryScopeId) →
    (x ∈ (executeWorkflow rt env request db).2.derivatives.rows ↔ x ∈ db.derivatives.rows)

/-- What an execution needs to publish its version: a worker for the template, one target,
a version from whose state a publication begins, with the evidence and the checksum that
its kind requires, and free deterministic keys. -/
structure Publishable (rt : Runtime) (env : WorkerEnvironment)
    (request : WorkerWorkflowExecutionRequest) (db : Db) (kind : PublicationKind)
    (target : PublicationTargetRecord) (row : PublicationRow) : Prop where
  supported : env.supported request.workflow.workflowTemplateId = some kind
  soleTarget : listPublicationTargets rt db request.workflow.assetVersionId = [target]
  found : db.findPublicationVersion request.workflow.assetVersionId = some row
  accepted : PublicationStore.acceptsBegin row.version.lifecycleState = true
  evidence : kind.hasEvidence row.version = true
  checksum : kind.hasStableChecksum (env.target target.deliveryScopeId) row = true
  keysFree : KeysFree db
    (kind.places rt (env.target target.deliveryScopeId) target.deliveryScopeId row)

section Execution

variable {rt : Runtime} {env : WorkerEnvironment} {request : WorkerWorkflowExecutionRequest}
  {db db' : Db} {result : WorkerPublicationRuntimeResult}

/-- A kind of publication that a worker supports is the one of its template. -/
theorem WorkerEnvironment.Succeeds.target (h : env.Succeeds request.workflow.workflowTemplateId)
    {kind : PublicationKind} (hkind : env.supported request.workflow.workflowTemplateId = some kind)
    (scope : String) : (env.target scope).Succeeds kind :=
  h.targets kind (Option.filter_eq_some_iff.mp hkind).1 scope

/-- **Inversion of an execution** whose dependencies succeed: the single workflow run
between the two reports. -/
theorem executeWorkflow_cases (h : env.Succeeds request.workflow.workflowTemplateId)
    (hexecute : executeWorkflow rt env request db = (.ok result, db')) :
    ∃ kind target running published,
      env.supported request.workflow.workflowTemplateId = some kind ∧
      listPublicationTargets rt db request.workflow.assetVersionId = [target] ∧
      markRunning (request.running env) db = .ok ((), running) ∧
      kind.run rt (env.target target.deliveryScopeId)
        { deliveryScopeId := target.deliveryScopeId, versionId := request.workflow.assetVersionId }
        running = (.ok (), published) ∧
      markCompleted (request.completion env) published = .ok ((), db') ∧
      result = request.result [target] := by
  obtain ⟨running, hmarking, hperform⟩ := executeWorkflow_eq_ok_iff.mp hexecute
  obtain ⟨kind, published, -, hne, hkind, hpublish, hcompleting, hresult⟩ :=
    performWorkflow_eq_ok_iff.mp hperform
  have hrunning : markRunning (request.running env) db = .ok ((), running) := by
    rw [h.marking] at hmarking
    exact transact_eq_ok.mp hmarking
  have hcompleted : markCompleted (request.completion env) published = .ok ((), db') := by
    rw [h.completing] at hcompleting
    exact transact_eq_ok.mp hcompleting
  obtain ⟨runs, events, rfl⟩ := markRunning_unchanged hrunning
  obtain ⟨target, htargets, hrun⟩ := (publishTargets_ok_iff (h.target hkind)
    (nodup_listPublicationTargets rt _ _) hne).mp hpublish
  exact ⟨kind, target, _, published, hkind, htargets, hrunning, hrun, hcompleted,
    htargets ▸ hresult⟩

/-- What an execution leaves when it returns. -/
theorem executeWorkflow_publishes (h : env.Succeeds request.workflow.workflowTemplateId)
    (hexecute : executeWorkflow rt env request db = (.ok result, db')) :
    WorkflowPublishes rt env request db := by
  obtain ⟨kind, target, running, published, hkind, htargets, hrunning, hrun, hcompleted, rfl⟩ :=
    executeWorkflow_cases h hexecute
  obtain ⟨row, hrow, hpublished⟩ := PublicationKind.run_publishedTo (h.target hkind _) hrun
  obtain ⟨runs, events, rfl⟩ := markRunning_unchanged hrunning
  obtain ⟨⟨runs', events', rfl⟩, hrun'⟩ := markCompleted_completed hcompleted
  have hrow₀ : db.findPublicationVersion request.workflow.assetVersionId = some row := hrow
  have hderivative : ∀ slot : DerivativeSlot,
      Table.IsKey fun r : Derivative => r.slot == slot := by
    intro slot a b ha hb
    simp [clash, eq_of_beq ha, eq_of_beq hb]
  have hmanifest : ∀ slot, Table.IsKey fun r : AssetManifest => r.slot == slot := by
    intro slot a b ha hb
    simp [clash, eq_of_beq ha, eq_of_beq hb]
  constructor <;> rw [hexecute]
  · rw [htargets]
  · have hlifecycle : published.lifecycle? request.workflow.assetVersionId = some .published := by
      rw [Db.lifecycle?, hpublished.version?, Db.findPublicationVersion_version? hrow]
      simp [AssetVersion.moveTo]
    exact hlifecycle
  · exact hrun'
  · intro kind' row' hkind' hrow' target' htarget' place hplace
    obtain rfl := Option.some.inj (hkind.symm.trans hkind')
    obtain rfl := Option.some.inj (hrow₀.symm.trans hrow')
    rw [htargets, List.mem_singleton] at htarget'
    subst htarget'
    obtain ⟨x, hx, hslot, -⟩ := hpublished.derivatives_written place hplace
    exact (Table.countP_eq_one_iff (hderivative place.2)).mpr ⟨x, hx, beq_iff_eq.mpr hslot⟩
  · intro kind' hkind' target' htarget'
    obtain rfl := Option.some.inj (hkind.symm.trans hkind')
    rw [htargets, List.mem_singleton] at htarget'
    subst htarget'
    obtain ⟨x, hx, hslot⟩ := hpublished.manifest_written
    exact (Table.countP_eq_one_iff (hmanifest _)).mpr ⟨x, hx, beq_iff_eq.mpr hslot⟩
  · intro x hx
    refine hpublished.derivatives_kept x fun place hplace hslot => ?_
    obtain ⟨variant, -, rfl⟩ := List.mem_map.mp hplace
    exact hx target (by rw [htargets]; exact List.mem_singleton_self _)
      (congrArg (fun slot : DerivativeSlot => slot.2.1) hslot)

/-- An execution that publishes its version had what it needs. -/
theorem WorkflowPublishes.publishable (hpublishes : WorkflowPublishes rt env request db)
    (h : env.Succeeds request.workflow.workflowTemplateId) :
    ∃ kind target row, Publishable rt env request db kind target row := by
  have hexecute : executeWorkflow rt env request db =
      (.ok (request.result (listPublicationTargets rt db request.workflow.assetVersionId)),
        (executeWorkflow rt env request db).2) := Prod.ext hpublishes.result rfl
  obtain ⟨kind, target, running, published, hkind, htargets, hrunning, hrun, -, -⟩ :=
    executeWorkflow_cases h hexecute
  obtain ⟨row, hrow, haccepts, hevidence, hchecksum, -, hfree⟩ :=
    (PublicationKind.run_succeeds_iff _ _ _ (h.target hkind _)).mp ⟨published, hrun⟩
  obtain ⟨runs, events, rfl⟩ := markRunning_unchanged hrunning
  exact ⟨kind, target, row, hkind, htargets, hrow, haccepts, hevidence, hchecksum, hfree⟩

/-- An execution that has what it needs publishes its version. -/
theorem Publishable.publishes {kind : PublicationKind} {target : PublicationTargetRecord}
    {row : PublicationRow} (hpublishable : Publishable rt env request db kind target row)
    (h : env.Succeeds request.workflow.workflowTemplateId) :
    WorkflowPublishes rt env request db := by
  have htarget := h.target hpublishable.supported
  have hne : [target] ≠ [] := List.cons_ne_nil _ _
  obtain ⟨running, hrunning⟩ := markRunning_ok (request.running env) db
  have hmarking := hrunning
  obtain ⟨runs, events, rfl⟩ := markRunning_unchanged hrunning
  have htargets : listPublicationTargets rt { db with workflowRuns := runs, auditEvents := events }
      request.workflow.assetVersionId = [target] := hpublishable.soleTarget
  have hmem : target ∈ listPublicationTargets rt db request.workflow.assetVersionId := by
    rw [hpublishable.soleTarget]
    exact List.mem_singleton_self _
  have hscope := mem_listPublicationTargets hpublishable.found hmem
  obtain ⟨published, hrun⟩ := (PublicationKind.run_succeeds_iff rt
      ⟨target.deliveryScopeId, request.workflow.assetVersionId⟩
      { db with workflowRuns := runs, auditEvents := events } (htarget _)).mpr
    ⟨row, hpublishable.found, hpublishable.accepted, hpublishable.evidence, hpublishable.checksum,
      hscope, hpublishable.keysFree⟩
  obtain ⟨completed, hcompleted⟩ := markCompleted_ok (request.completion env) published
  have hpublish := (publishTargets_ok_iff htarget (nodup_listPublicationTargets rt
    { db with workflowRuns := runs, auditEvents := events } request.workflow.assetVersionId)
    (by rw [htargets]; exact hne)).mpr ⟨target, htargets, hrun⟩
  have hperform :
    performWorkflow rt env request { db with workflowRuns := runs, auditEvents := events } =
      (.ok (request.result [target]), completed) :=
    performWorkflow_eq_ok_iff.mpr ⟨kind, published, h.listing, by rw [htargets]; exact hne,
      hpublishable.supported, hpublish, by rw [h.completing]; exact transact_eq_ok.mpr hcompleted,
      by rw [htargets]⟩
  have hexecute : executeWorkflow rt env request db = (.ok (request.result [target]), completed) :=
    executeWorkflow_eq_ok_iff.mpr
      ⟨_, by rw [h.marking]; exact transact_eq_ok.mpr hmarking, hperform⟩
  exact executeWorkflow_publishes h hexecute

/-- **When an execution publishes its version**, with dependencies that succeed. -/
theorem executeWorkflow_publishes_iff (h : env.Succeeds request.workflow.workflowTemplateId) :
    WorkflowPublishes rt env request db ↔
      ∃ kind target row, Publishable rt env request db kind target row :=
  ⟨fun hpublishes => hpublishes.publishable h,
    fun ⟨_, _, _, hpublishable⟩ => hpublishable.publishes h⟩

end Execution

/-! ### Attempts that fail -/

/-- **A failed attempt**: an execution whose run was reported as running and then throws,
and that leaves what the report of its failure leaves. -/
def FailedAttempt (rt : Runtime) (request : WorkerWorkflowExecutionRequest)
    (env : WorkerEnvironment) (db db' : Db) : Prop :=
  ∃ running error failed,
    env.marking.transact (markRunning (request.running env)) db = (.ok (), running) ∧
    performWorkflow rt env request running = (.error error, failed) ∧
    markFailedRetryable rt (request.failure rt env error) failed = .ok ((), db') ∧
    (executeWorkflow rt env request db).2 = db'

/-- Attempts of one workflow that fail, one after the other. -/
inductive FailedAttempts (rt : Runtime) (request : WorkerWorkflowExecutionRequest) :
    Db → List WorkerEnvironment → Db → Prop
  | nil (db : Db) : FailedAttempts rt request db [] db
  | cons {db db₁ db' : Db} {env : WorkerEnvironment} {attempts : List WorkerEnvironment} :
      FailedAttempt rt request env db db₁ → FailedAttempts rt request db₁ attempts db' →
      FailedAttempts rt request db (env :: attempts) db'

section Attempts

variable {rt : Runtime} {request : WorkerWorkflowExecutionRequest} {db db' : Db}

/-- A failed attempt leaves its version `failed_retryable`. -/
theorem FailedAttempt.lifecycle? {env : WorkerEnvironment}
    (h : FailedAttempt rt request env db db') :
    db'.lifecycle? request.workflow.assetVersionId = some .failedRetryable := by
  obtain ⟨running, error, failed, -, -, hfailed, -⟩ := h
  obtain ⟨hsome, hmoved⟩ := markFailedRetryable_moved hfailed
  obtain ⟨v, hv⟩ := Option.isSome_iff_exists.mp hsome
  have hv' : failed.version? request.workflow.assetVersionId = some v := hv
  rw [Db.lifecycle?, hmoved.version?, hv']
  exact congrArg some (congrArg AssetVersion.lifecycleState (if_pos rfl))

/-- Failed attempts leave their version `failed_retryable`. -/
theorem FailedAttempts.lifecycle? {attempts : List WorkerEnvironment}
    (h : FailedAttempts rt request db attempts db') (hne : attempts ≠ []) :
    db'.lifecycle? request.workflow.assetVersionId = some .failedRetryable := by
  induction h with
  | nil db => exact absurd rfl hne
  | @cons db db₁ db' env attempts hattempt hattempts ih =>
      cases hattempts with
      | nil => exact hattempt.lifecycle?
      | cons hnext hrest => exact ih (List.cons_ne_nil _ _)

/-- No publication of a version that has failed begins. -/
theorem Publishable.not_failedRetryable {env : WorkerEnvironment} {kind : PublicationKind}
    {target : PublicationTargetRecord} {row : PublicationRow}
    (h : Publishable rt env request db kind target row) :
    db.lifecycle? request.workflow.assetVersionId ≠ some .failedRetryable := by
  intro hlifecycle
  rw [Db.lifecycle?, Db.findPublicationVersion_version? h.found] at hlifecycle
  have hstate : row.version.lifecycleState = .failedRetryable := Option.some.inj hlifecycle
  have haccepted := h.accepted
  rw [hstate] at haccepted
  cases haccepted

/-- **When a workflow publishes its version after failed attempts**, with dependencies
that succeed in the last execution: only when no attempt has failed, and it has what an
execution needs. -/
theorem executeWorkflow_publishes_after_iff {env : WorkerEnvironment}
    {attempts : List WorkerEnvironment} (h : env.Succeeds request.workflow.workflowTemplateId)
    (hattempts : FailedAttempts rt request db attempts db') :
    WorkflowPublishes rt env request db' ↔
      attempts = [] ∧ ∃ kind target row, Publishable rt env request db kind target row := by
  constructor
  · intro hpublishes
    obtain ⟨kind, target, row, hpublishable⟩ := hpublishes.publishable h
    by_cases hnil : attempts = []
    · subst hnil
      cases hattempts
      exact ⟨rfl, kind, target, row, hpublishable⟩
    · exact absurd (hattempts.lifecycle? hnil) hpublishable.not_failedRetryable
  · rintro ⟨rfl, kind, target, row, hpublishable⟩
    cases hattempts
    exact hpublishable.publishes h

/-- An execution fails and is recorded, evaluated. -/
def recordsFailure (rt : Runtime) (request : WorkerWorkflowExecutionRequest)
    (env : WorkerEnvironment) (db : Db) : Bool :=
  match env.marking.transact (markRunning (request.running env)) db with
  | (.error _, _) => false
  | (.ok (), running) =>
      match performWorkflow rt env request running with
      | (.ok _, _) => false
      | (.error error, failed) =>
          (markFailedRetryable rt (request.failure rt env error) failed).isOk

theorem FailedAttempt.of_recordsFailure {env : WorkerEnvironment} (hfailing : env.failing = .none)
    (h : recordsFailure rt request env db = true) :
    FailedAttempt rt request env db (executeWorkflow rt env request db).2 := by
  unfold recordsFailure at h
  rcases hmarking : env.marking.transact (markRunning (request.running env)) db with
    ⟨e | u, running⟩
  · simp [hmarking] at h
  · rcases hperform : performWorkflow rt env request running with ⟨error | r, failed⟩
    · simp only [hmarking, hperform] at h
      cases hreport : markFailedRetryable rt (request.failure rt env error) failed with
      | error e =>
          rw [hreport] at h
          cases h
      | ok r =>
          obtain ⟨u', reported⟩ := r
          have hreported : env.failing.transact
              (markFailedRetryable rt (request.failure rt env error)) failed =
              (.ok u', reported) := by
            rw [hfailing]
            exact transact_eq_ok.mpr hreport
          have hexecute : executeWorkflow rt env request db = (.error error, reported) := by
            simp only [executeWorkflow, hmarking, hperform, hreported]
          rw [hexecute]
          exact ⟨running, error, failed, hmarking, hperform, hreport, by rw [hexecute]⟩
    · simp [hmarking, hperform] at h

end Attempts

/-! ### Sample executions -/

/-- A processor, an object store and a clock that never fail. -/
def sampleTarget : TargetEnvironment where
  processAssetDerivative _ :=
    .ok { body := .inline (.text "original"), byteLength := 8, contentType := "application/pdf" }
  processDerivative _ :=
    .ok { body := .text "pixels", byteLength := 6, contentType := "image/webp" }
  processPresentation _ :=
    .ok
      { normalizedDocument :=
          { body := .text "pages", byteLength := 5, contentType := "application/pdf" }
        slides := [{ body := .text "slide", byteLength := 5, contentType := "image/webp",
                     pageNumber := 1 }] }
  publishObject _ input := .ok ⟨"derived", input.objectKey⟩
  publishedAt n := 100 + n
  manifestGeneratedAt := 110
  manifestPublishedAt := 120

/-- A worker for every template, with dependencies that never fail. -/
def sampleWorker : WorkerEnvironment where
  configured _ := true
  target _ := sampleTarget
  runningAt := 90
  completedAt := 130
  failedAt := 130

/-- The execution that the dispatch of the sample version starts. -/
def sampleExecution : WorkerWorkflowExecutionRequest where
  workflow :=
    { assetVersionId := "version-a"
      dispatchId := "dispatch-a"
      workflowTemplateId := "asset-derivation-v1" }
  workflowId := "media:asset-a:version-a:asset-derivation-v1"

/-- The sample registry with a number of delivery scopes, after the completion of the
sample session. -/
def sampleCanonicalRegistry (scopes : Table DeliveryScope) : Db :=
  runCalls sampleRuntime (sampleCompletedCalls "a" "source-1")
    { sampleRegistry with deliveryScopes := scopes }

theorem sampleScope_unique :
    [(⟨"scope-1", "namespace-1", none, "public", "cdn.example", none⟩ : DeliveryScope)].Pairwise
      fun a b => clash a b = false := by
  decide

/-- One delivery scope. -/
def sampleScope : Table DeliveryScope :=
  ⟨[⟨"scope-1", "namespace-1", none, "public", "cdn.example", none⟩], sampleScope_unique⟩

theorem sampleScopes_unique :
    [(⟨"scope-1", "namespace-1", none, "public", "cdn.example", none⟩ : DeliveryScope),
      ⟨"scope-2", "namespace-1", none, "partner", "partner.example", none⟩].Pairwise
      fun a b => clash a b = false := by
  decide

/-- Two delivery scopes. -/
def sampleScopes : Table DeliveryScope :=
  ⟨[⟨"scope-1", "namespace-1", none, "public", "cdn.example", none⟩,
    ⟨"scope-2", "namespace-1", none, "partner", "partner.example", none⟩], sampleScopes_unique⟩

theorem sampleTarget_succeeds (kind : PublicationKind) : sampleTarget.Succeeds kind where
  beginning := rfl
  publishing := rfl
  processes := by cases kind <;> exact fun _ => ⟨_, rfl⟩
  publishes _ _ := ⟨_, rfl⟩

theorem sampleWorker_succeeds (workflowTemplateId : String) :
    sampleWorker.Succeeds workflowTemplateId where
  marking := rfl
  listing := rfl
  completing := rfl
  targets kind _ _ := sampleTarget_succeeds kind

/-- The sample version is published to its single scope. -/
theorem sample_publishes_to_one_scope :
    WorkflowPublishes sampleRuntime sampleWorker sampleExecution
      (sampleCanonicalRegistry sampleScope) := by
  obtain ⟨row, hrow⟩ := Option.isSome_iff_exists.mp
    (by decide +kernel :
      ((sampleCanonicalRegistry sampleScope).findPublicationVersion "version-a").isSome = true)
  have hready := (Option.all_eq_true _ _).mp
    (show ((sampleCanonicalRegistry sampleScope).findPublicationVersion "version-a").all (fun row =>
        PublicationStore.acceptsBegin row.version.lifecycleState &&
          (PublicationKind.genericAsset.hasEvidence row.version &&
            PublicationKind.genericAsset.hasStableChecksum sampleTarget row)) = true by
      decide +kernel) row hrow
  simp only [Bool.and_eq_true] at hready
  have hrows : (sampleCanonicalRegistry sampleScope).derivatives.rows = [] :=
    List.isEmpty_iff.mp (by decide +kernel)
  exact (executeWorkflow_publishes_iff (sampleWorker_succeeds _)).mpr
    ⟨.genericAsset, ⟨"scope-1", "public"⟩, row,
      { supported := by decide
        soleTarget := by decide +kernel
        found := hrow
        accepted := hready.1
        evidence := hready.2.1
        checksum := hready.2.2
        keysFree := .of_rows_nil hrows _ }⟩

/-- The canonical sample version has two scopes, and everything that its execution depends
on succeeds: the second scope violates the unique constraint on deterministic keys, and
nothing is published to it. -/
theorem two_scopes_block_each_other :
    (executeWorkflow sampleRuntime sampleWorker sampleExecution
      (sampleCanonicalRegistry sampleScopes)).1 = .error (.store .uniqueConstraint) ∧
    ¬ ∀ db, db.lifecycle? "version-a" = some .canonical →
      listPublicationTargets sampleRuntime db "version-a" ≠ [] →
      sampleWorker.Succeeds sampleExecution.workflow.workflowTemplateId →
      WorkflowPublishes sampleRuntime sampleWorker sampleExecution db := by
  have hfails : (executeWorkflow sampleRuntime sampleWorker sampleExecution
      (sampleCanonicalRegistry sampleScopes)).1 = .error (.store .uniqueConstraint) := by
    decide +kernel
  refine ⟨hfails, fun hall => ?_⟩
  have hpublishes := hall (sampleCanonicalRegistry sampleScopes) (by decide +kernel)
    (by decide +kernel) (sampleWorker_succeeds _)
  have hresult := hfails.symm.trans hpublishes.result
  cases hresult

/-- A worker whose object store refuses every write. -/
def failingWorker : WorkerEnvironment :=
  { sampleWorker with
    target := fun _ =>
      { sampleTarget with
        publishObject := fun _ _ => .error (.plain "The bucket is unavailable.") } }

/-- The sample registry after the attempt of the failing worker. -/
def sampleFailedRegistry : Db :=
  (executeWorkflow sampleRuntime failingWorker sampleExecution
    (sampleCanonicalRegistry sampleScope)).2

theorem failingWorker_failedAttempts :
    FailedAttempts sampleRuntime sampleExecution (sampleCanonicalRegistry sampleScope)
      [failingWorker] sampleFailedRegistry :=
  .cons (.of_recordsFailure rfl (by decide +kernel)) (.nil _)

/-- The attempt of the failing worker ends the workflow for ever. -/
theorem sample_does_not_publish_after_failure :
    ¬ WorkflowPublishes sampleRuntime sampleWorker sampleExecution sampleFailedRegistry := by
  intro hpublishes
  obtain ⟨hnil, -⟩ := (executeWorkflow_publishes_after_iff (sampleWorker_succeeds _)
    failingWorker_failedAttempts).mp hpublishes
  cases hnil

/-- One write of the object store fails, the failure is recorded, and the next attempt,
in which nothing fails, is rejected in `failed_retryable`. -/
theorem retry_is_rejected :
    (executeWorkflow sampleRuntime sampleWorker sampleExecution sampleFailedRegistry).1 =
      .error (.genericAssetVersionState "version-a" "failed_retryable" "begin processing") ∧
    ¬ ∀ attempts db', FailedAttempts sampleRuntime sampleExecution
        (sampleCanonicalRegistry sampleScope) attempts db' →
      sampleWorker.Succeeds sampleExecution.workflow.workflowTemplateId →
      WorkflowPublishes sampleRuntime sampleWorker sampleExecution db' := by
  have hfails :
    (executeWorkflow sampleRuntime sampleWorker sampleExecution sampleFailedRegistry).1 =
      .error (.genericAssetVersionState "version-a" "failed_retryable" "begin processing") := by
    decide +kernel
  refine ⟨hfails, fun hall => ?_⟩
  have hpublishes := hall _ _ failingWorker_failedAttempts (sampleWorker_succeeds _)
  have hresult := hfails.symm.trans hpublishes.result
  cases hresult

end Cdngine
