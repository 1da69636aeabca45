import Cdngine.UploadOutcomes
import Cdngine.UploadSessionRoutes

/-!
# Rejections Behind the Upload-Session Routes

The durable runtime wires the upload-session routes to the Prisma store. That store rejects a
request by its own error classes, one for each class of the in-memory store, and the routes
know only the latter: a rejection that the catalogue of problems documents as a conflict, an
unknown resource, an expired session or a failed validation is thrown on and answered as an
internal error.

## Main results

* `refusesIssuance_iff`, `refusesCompletion_iff`: when the Prisma store rejects a request by
  one of its own classes, as a condition on the registry and the request.
* `rejected_issuance_response`, `rejected_completion_response`: every such rejection is answered
  as an internal error.
* `upload_rejections_reported_iff`: the rejections of a request are reported as documented
  exactly when the store does not refuse it.
* `unknown_asset_is_internal_error`: a request that names an unknown asset.
-/

open Relational

namespace Cdngine

/-! ### The documented problems -/

/-- The problem that the catalogue documents for a rejection of the Prisma store. -/
def documentedProblem (rt : Runtime) (rejection : RegistryError) : Option ProblemDetail :=
  let detail := rejection.message rt
  match rejection with
  | .uploadSessionIdempotencyConflict _ => some (.idempotencyKeyConflict detail)
  | .uploadSessionAssetNotFound _ => some (.notFound detail)
  | .uploadSessionNotFound _ => some (.notFound detail)
  | .uploadSessionExpired _ => some (.uploadSessionExpired detail)
  | .uploadSessionInvalidStateTransition _ _ => some (.invalidStateTransition detail)
  | .uploadSessionValidationFailed _ problemType _ => some (.validationFailed problemType detail)
  | .uploadSessionCanonicalizationFailed _ _ => some (.upstreamDependencyFailed detail)
  | _ => none

/-- A documented rejection is one of a class of the in-memory store. -/
theorem documentedProblem_isSome (rt : Runtime) (rejection : RegistryError) :
    (documentedProblem rt rejection).isSome = rejection.inMemory.isSome := by
  cases rejection <;> rfl

/-- No rejection is documented as an internal error. -/
theorem documentedProblem_status {rt : Runtime} {rejection : RegistryError}
    {problem : ProblemDetail} (h : documentedProblem rt rejection = some problem) :
    problem.status ≠ 500 := by
  cases rejection <;>
    first
      | (obtain rfl := Option.some.inj h; exact Nat.ne_of_beq_eq_false rfl)
      | cases h

/-! ### The durable runtime -/

/-- What the durable runtime supplies to the routes and to the Prisma store: the repository,
the staging store, the ids and times of the calls. -/
structure DurableRuntime where
  sourceRepository : SourceRepository
  stagingBlobStore : StagingBlobStore
  now : Instant
  issueIds : IssueIds
  issuedAt : Instant
  newDispatchId : String
  phaseOneAt : Instant
  phaseTwoAt : Instant

namespace DurableRuntime

/-- The environment of a completion. -/
def environment (runtime : DurableRuntime) (canonicalize : Canonicalize) :
    CompletionEnvironment where
  canonicalize
  newDispatchId := runtime.newDispatchId
  phaseOneAt := runtime.phaseOneAt
  phaseTwoAt := runtime.phaseTwoAt

/-- The Prisma store behind the routes: its errors are of no class that they know. -/
def uploadSessionStore (runtime : DurableRuntime) (rt : Runtime) : UploadSessionStore Db where
  issueUploadSession input db :=
    let (result, db) := issueUploadSession input runtime.issueIds runtime.issuedAt db
    (result.mapError ThrownError.other, db)
  getUploadSession id db := getUploadSession db id
  completeUploadSession input canonicalize db :=
    let (result, db) := completeUploadSession rt (runtime.environment canonicalize) input db
    (result.mapError ThrownError.other, db)

/-- The dependencies that `createPublicRuntimeApp` registers the routes with. -/
def dependencies (runtime : DurableRuntime) (rt : Runtime) : UploadSessionRouteDependencies Db where
  now := runtime.now
  sourceRepository := some runtime.sourceRepository
  stagingBlobStore := runtime.stagingBlobStore
  store := runtime.uploadSessionStore rt

end DurableRuntime

/-! ### When the Prisma store refuses -/

/-- The Prisma store **refuses an issuance**: its key was used for another request, or the
asset is missing. -/
def Db.RefusesIssuance (db : Db) (input : RegistryIssueUploadSessionInput) : Prop :=
  match db.idempotencyRecord? input.idempotencyRecordKey with
  | some record => record.normalizedRequestHash ≠ some input.normalizedRequestHash
  | none => ∃ assetId, db.AssetMissing input assetId

/-- The Prisma store **refuses a completion**: its key was used for another request; or there
is no such session, or it has expired; or it has no result to replay, and it is closed, its
version does not accept a completion, the staged evidence has a problem, or its canonical
source cannot be recorded. -/
def Db.RefusesCompletion (db : Db) (env : CompletionEnvironment)
    (input : RegistryCompleteUploadSessionInput) : Prop :=
  match db.idempotencyRecord? input.idempotencyRecordKey with
  | some record => record.normalizedRequestHash ≠ some input.normalizedRequestHash
  | none =>
      match db.findUploadSession input.uploadSessionId with
      | none => True
      | some row =>
          env.phaseOneAt > row.uploadSession.expiresAt ∨
            (tryBuildCompletionReplay row = none ∧
              (¬ row.uploadSession.isOpen ∨ acceptsCompletion row.version.lifecycleState = false ∨
                stagedEvidenceProblem input row ≠ none ∨ ¬ db.Canonicalizable env input row))

/-- A rejection is **classified** when the store throws it by a class of its own. -/
def RegistryError.Classified (rejection : RegistryError) : Prop := rejection.inMemory ≠ none

/-- A replay behind the comparison of the hashes throws a classified rejection exactly where the
hashes differ, when it throws none itself. -/
theorem guarded_classified_iff {α : Type} {p : Prop} [Decidable p] {rejection : RegistryError}
    {replay : Except RegistryError α} (hrejection : rejection.Classified)
    (hreplay : ∀ e : RegistryError, replay = .error e → ¬ e.Classified) :
    (∃ e : RegistryError, (if p then .error rejection else replay) = .error e ∧ e.Classified) ↔
      p := by
  by_cases hp : p
  · rw [if_pos hp]
    exact ⟨fun _ => hp, fun _ => ⟨rejection, rfl, hrejection⟩⟩
  · rw [if_neg hp]
    refine ⟨?_, fun h => absurd h hp⟩
    rintro ⟨e, herror, hclassified⟩
    exact absurd hclassified (hreplay e herror)

/-- The replay of an issuance throws plain errors only. -/
theorem loadIssuedUploadSessionReplay_unclassified {db : Db}
    {reference : Option ReplayableUploadReference} (e : RegistryError)
    (h : loadIssuedUploadSessionReplay db reference = .error e) : ¬ e.Classified := by
  intro hclassified
  unfold loadIssuedUploadSessionReplay loadIssuedUploadSessionReplay.unresolved at h
  repeat' split at h
  all_goals cases h
  all_goals exact absurd rfl hclassified

/-- The replay of a completion throws plain errors only. -/
theorem loadCompletionReplay_unclassified {db : Db} {reference : Option ReplayableUploadReference}
    (e : RegistryError) (h : loadCompletionReplay db reference = .error e) : ¬ e.Classified := by
  intro hclassified
  unfold loadCompletionReplay at h
  repeat' split at h
  all_goals cases h
  all_goals exact absurd rfl hclassified

/-- **The Prisma store throws a classified rejection of an issuance** exactly when it refuses
the issuance. -/
theorem refusesIssuance_iff (input : RegistryIssueUploadSessionInput) (ids : IssueIds)
    (now : Instant) (db : Db) :
    (∃ e : RegistryError, (issueUploadSession input ids now db).1 = .error e ∧ e.Classified) ↔
      db.RefusesIssuance input := by
  have houtcome := issueUploadSession_outcome input ids now db
  generalize (issueUploadSession input ids now db).1 = result at houtcome ⊢
  generalize (issueUploadSession input ids now db).2 = db' at houtcome
  unfold Db.RefusesIssuance
  cases houtcome with
  | recorded hrecord =>
      rw [hrecord]
      exact guarded_classified_iff
        (Option.some_ne_none _) loadIssuedUploadSessionReplay_unclassified
  | missing hrecord hmissing =>
      rw [hrecord]
      exact ⟨fun _ => ⟨_, hmissing⟩, fun _ => ⟨_, rfl, Option.some_ne_none _⟩⟩
  | violated hrecord hfound =>
      rw [hrecord]
      constructor
      · rintro ⟨e, herror, hclassified⟩
        obtain rfl := Except.error.inj herror
        exact absurd rfl hclassified
      · rintro ⟨assetId, hmissing⟩
        exact absurd hmissing (hfound assetId)
  | issued hrecord hfound htx =>
      rw [hrecord]
      constructor
      · rintro ⟨e, herror, -⟩
        cases herror
      · rintro ⟨assetId, hmissing⟩
        exact absurd hmissing (hfound assetId)

/-- **The Prisma store throws a classified rejection of a completion** exactly when it refuses
the completion. -/
theorem refusesCompletion_iff (rt : Runtime) (env : CompletionEnvironment)
    (input : RegistryCompleteUploadSessionInput) (db : Db) :
    (∃ e : RegistryError, (completeUploadSession rt env input db).1 = .error e ∧ e.Classified) ↔
      db.RefusesCompletion env input := by
  have houtcome := completeUploadSession_outcome rt env input db
  generalize (completeUploadSession rt env input db).1 = result at houtcome ⊢
  generalize (completeUploadSession rt env input db).2 = db' at houtcome
  have thrown : ∀ {e : RegistryError} {P : Prop}, e.Classified → P →
      ((∃ e' : RegistryError, (Except.error e : Except RegistryError
        RegistryCompletedUploadSession) = .error e' ∧ e'.Classified) ↔ P) :=
    fun hclassified hp => ⟨fun _ => hp, fun _ => ⟨_, rfl, hclassified⟩⟩
  have returned : ∀ {r : RegistryCompletedUploadSession} {P : Prop}, ¬ P →
      ((∃ e' : RegistryError, (Except.ok r : Except RegistryError
        RegistryCompletedUploadSession) = .error e' ∧ e'.Classified) ↔ P) := by
    intro r P hp
    refine ⟨?_, fun h => absurd h hp⟩
    rintro ⟨e, herror, -⟩
    cases herror
  unfold Db.RefusesCompletion
  cases houtcome with
  | recorded hrecord =>
      rw [hrecord]
      exact guarded_classified_iff (Option.some_ne_none _) loadCompletionReplay_unclassified
  | notFound hrecord hrow =>
      simp only [hrecord, hrow]
      exact thrown (Option.some_ne_none _) trivial
  | expired hrecord hrow hexpiry =>
      simp only [hrecord, hrow]
      exact thrown (Option.some_ne_none _) (Or.inl hexpiry)
  | replayed hrecord hrow hexpiry hreplay _ =>
      simp only [hrecord, hrow]
      refine returned ?_
      rintro (hlate | ⟨hnone, -⟩)
      · exact hexpiry hlate
      · rw [hreplay] at hnone
        cases hnone
  | closed hrecord hrow hexpiry hreplay hclosed =>
      simp only [hrecord, hrow]
      exact thrown (Option.some_ne_none _) (Or.inr ⟨hreplay, Or.inl hclosed⟩)
  | notAccepting hrecord hrow hexpiry hreplay _ hrejects =>
      simp only [hrecord, hrow]
      exact thrown (Option.some_ne_none _) (Or.inr ⟨hreplay, Or.inr (Or.inl hrejects)⟩)
  | rejected hrecord hrow hexamined hproblem _ =>
      simp only [hrecord, hrow]
      refine thrown (Option.some_ne_none _) (Or.inr ⟨hexamined.2.1, Or.inr (Or.inr (Or.inl ?_))⟩)
      rw [hproblem]
      exact Option.some_ne_none _
  | failed hrecord hrow hexamined _ _ hfailed _ =>
      simp only [hrecord, hrow]
      exact thrown (Option.some_ne_none _)
        (Or.inr ⟨hexamined.2.1, Or.inr (Or.inr (Or.inr hfailed))⟩)
  | completed hrecord hrow hexamined hproblem _ hsource hcan _ =>
      simp only [hrecord, hrow]
      obtain ⟨hexpiry, -, hopen, haccepts⟩ := hexamined
      refine returned ?_
      rintro (hlate | ⟨-, hclosed | hrejects | hbad | hfailed⟩)
      · exact hexpiry hlate
      · exact hclosed hopen
      · rw [haccepts] at hrejects
        cases hrejects
      · exact hbad hproblem
      · exact hfailed ⟨_, hsource, hcan⟩

/-! ### How a rejection is answered -/

/-- A rejection is **reported**: it is answered by the problem that is documented for it, and as
the in-memory store's rejection of the same class is. -/
structure Reported {α : Type} (rt : Runtime) (rejection : RegistryError)
    (answer : RouteResponse α) (inMemoryAnswer : UploadSessionError → RouteResponse α) : Prop where
  documented : ∀ problem, documentedProblem rt rejection = some problem → answer = .problem problem
  asInMemory : ∀ error, rejection.inMemory = some error → answer = inMemoryAnswer error

/-- An unclassified error is reported, whatever the answer. -/
theorem Reported.of_unclassified {α : Type} {rt : Runtime} {rejection : RegistryError}
    {answer : RouteResponse α} {inMemoryAnswer : UploadSessionError → RouteResponse α}
    (h : ¬ rejection.Classified) : Reported rt rejection answer inMemoryAnswer := by
  have hnone : rejection.inMemory = none := not_not.mp h
  have hdocumented : documentedProblem rt rejection = none := by
    rw [← Option.isNone_iff_eq_none, ← Option.not_isSome, documentedProblem_isSome, hnone]
    rfl
  refine ⟨fun problem hsome => ?_, fun error hsome => ?_⟩
  · rw [hdocumented] at hsome
    cases hsome
  · rw [hnone] at hsome
    cases hsome

/-- A classified rejection that is answered as an internal error is not reported. -/
theorem Reported.not_of_internalError {α : Type} {rt : Runtime} {rejection : RegistryError}
    {detail : String} {inMemoryAnswer : UploadSessionError → RouteResponse α}
    (h : rejection.Classified) :
    ¬ Reported rt rejection (.problem (.internalError detail)) inMemoryAnswer := by
  intro hreported
  obtain ⟨error, herror⟩ := Option.ne_none_iff_exists'.mp h
  have hsome : (documentedProblem rt rejection).isSome = true := by
    rw [documentedProblem_isSome, herror]
    rfl
  obtain ⟨problem, hproblem⟩ := Option.isSome_iff_exists.mp hsome
  have hanswer := RouteResponse.problem.inj (hreported.documented problem hproblem)
  exact documentedProblem_status hproblem (congrArg ProblemDetail.status hanswer).symm

section Routes

variable (rt : Runtime) (runtime : DurableRuntime) (context : RequestContext)

/-- Every rejection of the Prisma store of a request to issue is reported. -/
def IssuanceReported (request : UploadSessionRequest) (db : Db) : Prop :=
  ∀ input e, prepareIssuance rt (runtime.dependencies rt) context request = .ok input →
    (issueUploadSession input runtime.issueIds runtime.issuedAt db).1 = .error e →
    Reported rt e (createUploadSessionResponse rt (runtime.dependencies rt) context request db)
      fun error => respond rt 201 (finishIssuance rt (runtime.dependencies rt)
        (.error (.uploadSession error)))

/-- Every rejection of the Prisma store of a request to complete is reported. -/
def CompletionReported (uploadSessionId : String) (request : UploadCompletionRequest)
    (seen db : Db) : Prop :=
  ∀ prepared e, prepareCompletion rt (runtime.dependencies rt) context uploadSessionId request
      (getUploadSession seen uploadSessionId) = .ok prepared →
    (completeUploadSession rt (runtime.environment prepared.canonicalize) prepared.input db).1 =
      .error e →
    Reported rt e
      (completeUploadSessionResponse rt (runtime.dependencies rt) context uploadSessionId request
        seen db)
      fun error => respond rt 202 (finishCompletion rt (.error (.uploadSession error)))

variable {rt runtime context}

/-- **A rejected issuance is answered as an internal error.** -/
theorem rejected_issuance_response {request : UploadSessionRequest} {db : Db}
    {input : RegistryIssueUploadSessionInput} {e : RegistryError}
    (hprepared : prepareIssuance rt (runtime.dependencies rt) context request = .ok input)
    (hrejected : (issueUploadSession input runtime.issueIds runtime.issuedAt db).1 = .error e) :
    ∃ detail, createUploadSessionResponse rt (runtime.dependencies rt) context request db =
      .problem (.internalError detail) := by
  refine ⟨(mapUnknownErrorToProblem rt (.other e)).detail, ?_⟩
  rw [createUploadSessionResponse_eq hprepared, ← mapUnknownErrorToProblem_status]
  simp only [DurableRuntime.dependencies, DurableRuntime.uploadSessionStore, hrejected]
  rfl

/-- **A rejected completion is answered as an internal error.** -/
theorem rejected_completion_response {uploadSessionId : String} {request : UploadCompletionRequest}
    {seen db : Db} {prepared : PreparedCompletion} {e : RegistryError}
    (hprepared : prepareCompletion rt (runtime.dependencies rt) context uploadSessionId request
      (getUploadSession seen uploadSessionId) = .ok prepared)
    (hrejected : (completeUploadSession rt (runtime.environment prepared.canonicalize)
      prepared.input db).1 = .error e) :
    ∃ detail, completeUploadSessionResponse rt (runtime.dependencies rt) context uploadSessionId
      request seen db = .problem (.internalError detail) := by
  refine ⟨(mapUnknownErrorToProblem rt (.other e)).detail, ?_⟩
  have hresponse := @completeUploadSessionResponse_eq _ rt (runtime.dependencies rt) context
    uploadSessionId request seen prepared hprepared db
  rw [hresponse, ← mapUnknownErrorToProblem_status]
  simp only [DurableRuntime.dependencies, DurableRuntime.uploadSessionStore, hrejected]
  rfl

/-- **The rejections of a request are reported exactly when the Prisma store does not refuse
it**: for every state of the registry and every request to issue or to complete, where other
requests may run between the two calls of a completion. -/
theorem upload_rejections_reported_iff (rt : Runtime) (runtime : DurableRuntime)
    (context : RequestContext) :
    (∀ request db, IssuanceReported rt runtime context request db ↔
      ∀ input, prepareIssuance rt (runtime.dependencies rt) context request = .ok input →
        ¬ db.RefusesIssuance input) ∧
    (∀ uploadSessionId request seen db,
      CompletionReported rt runtime context uploadSessionId request seen db ↔
      ∀ prepared, prepareCompletion rt (runtime.dependencies rt) context uploadSessionId request
          (getUploadSession seen uploadSessionId) = .ok prepared →
        ¬ db.RefusesCompletion (runtime.environment prepared.canonicalize) prepared.input) := by
  constructor
  · intro request db
    constructor
    · intro hreported input hprepared hrefuses
      obtain ⟨e, hrejected, hclassified⟩ :=
        (refusesIssuance_iff input runtime.issueIds runtime.issuedAt db).mpr hrefuses
      have h := hreported input e hprepared hrejected
      obtain ⟨detail, hanswer⟩ := rejected_issuance_response hprepared hrejected
      rw [hanswer] at h
      exact Reported.not_of_internalError hclassified h
    · intro haccepts input e hprepared hrejected
      exact Reported.of_unclassified fun hclassified => haccepts input hprepared
        ((refusesIssuance_iff input runtime.issueIds runtime.issuedAt db).mp
          ⟨e, hrejected, hclassified⟩)
  · intro uploadSessionId request seen db
    constructor
    · intro hreported prepared hprepared hrefuses
      obtain ⟨e, hrejected, hclassified⟩ := (refusesCompletion_iff rt
        (runtime.environment prepared.canonicalize) prepared.input db).mpr hrefuses
      have h := hreported prepared e hprepared hrejected
      obtain ⟨detail, hanswer⟩ := rejected_completion_response hprepared hrejected
      rw [hanswer] at h
      exact Reported.not_of_internalError hclassified h
    · intro haccepts prepared e hprepared hrejected
      exact Reported.of_unclassified fun hclassified => haccepts prepared hprepared
        ((refusesCompletion_iff rt (runtime.environment prepared.canonicalize) prepared.input
          db).mp ⟨e, hrejected, hclassified⟩)

end Routes

/-! ### A request for an unknown asset -/

/-- A staging store with a declared object under every key. -/
def sampleStagingBlobStore : StagingBlobStore where
  createUploadTarget input :=
    .ok
      { method := "PATCH"
        protocol := "tus"
        url := "https://tus.example.test/" ++ input.objectKey
        expiresAt := input.expiresAt }
  headObject key := .ok (some ⟨"cdngine-ingest", key, 5, some sampleChecksum⟩)

/-- A durable runtime whose source repository names a snapshot by its version. -/
def sampleDurableRuntime : DurableRuntime where
  sourceRepository input :=
    .ok
      { repositoryEngine := "xet"
        canonicalSourceId := "source-" ++ input.assetVersionId
        snapshotId := "snapshot-" ++ input.assetVersionId
        logicalPath := "source/" ++ input.sourceFilename }
  stagingBlobStore := sampleStagingBlobStore
  now := 1000
  issueIds := sampleIds "a"
  issuedAt := 1000
  newDispatchId := "dispatch-a"
  phaseOneAt := 2000
  phaseTwoAt := 3000

/-- The context of a request of an actor that may act in every scope. -/
def sampleRequestContext : RequestContext where
  actor := some ⟨"user-1", [], [], []⟩
  surface := some .publicApi
  idempotencyKey := some "key-1"

/-- A request to issue a session for an asset that does not exist. -/
def unknownAssetRequest : UploadSessionRequest where
  serviceNamespaceId := "media"
  assetId := some "asset-unknown"
  assetOwner := "customer:acme"
  source := ⟨"hero.png", "image/png"⟩
  upload := ⟨"staging/media/hero.png", 5, sampleChecksum⟩

/-- **A request that names an unknown asset is answered as an internal error**, not by the
documented problem. -/
theorem unknown_asset_is_internal_error :
    ¬ IssuanceReported sampleRuntime sampleDurableRuntime sampleRequestContext unknownAssetRequest
      sampleRegistry := by
  intro h
  have hreported := h _ (.uploadSessionAssetNotFound "asset-unknown") rfl rfl
  have hanswer := RouteResponse.problem.inj (hreported.documented _ rfl)
  exact absurd (congrArg ProblemDetail.status hanswer) (by decide +kernel)

end Cdngine
