import Cdngine.MemoryUploadStore
import Cdngine.TenantIsolation

/-!
# The Upload-Session Routes

`registerUploadSessionRoutes`: the route that issues an upload session and the route that
completes one, over any store that answers the two calls. A route begins with checks of its
own (the idempotency key, the scope of the actor, the staged object), calls the store, and
maps what the store throws to a problem. It tells errors apart by their class, and the classes
it knows are those of the in-memory store; every other value is thrown on, and the application
reports it as an internal error.

A request whose body does not validate never reaches these routes.

## Main results

* `createUploadSessionResponse_eq`, `completeUploadSessionResponse_eq`: a request that passes the
  checks of its route is answered by what the store returned or threw.
* `mapUnknownErrorToProblem_status`: a value that is no problem of a route is an internal error.
-/

namespace Cdngine

/-! ### Problems -/

namespace ProblemDetail

def invalidRequest (detail : String) : ProblemDetail where
  type := "https://docs.cdngine.dev/problems/invalid-request"
  title := "Invalid request"
  status := 400
  detail
  retryable := false

def idempotencyKeyConflict (detail : String) : ProblemDetail where
  type := "https://docs.cdngine.dev/problems/idempotency-key-conflict"
  title := "Idempotency key conflict"
  status := 409
  detail
  retryable := false

def uploadNotFinished (detail : String) : ProblemDetail where
  type := "https://docs.cdngine.dev/problems/upload-not-finished"
  title := "Upload not finished"
  status := 409
  detail
  retryable := true

def uploadSessionExpired (detail : String) : ProblemDetail where
  type := "https://docs.cdngine.dev/problems/upload-session-expired"
  title := "Upload session expired"
  status := 410
  detail
  retryable := false

def invalidStateTransition (detail : String) : ProblemDetail where
  type := "https://docs.cdngine.dev/problems/invalid-state-transition"
  title := "Invalid state transition"
  status := 409
  detail
  retryable := false

/-- The problem of staged evidence that was rejected. -/
def validationFailed (type detail : String) : ProblemDetail where
  type
  title := if type = checksumMismatchProblem then "Checksum mismatch" else "Validation failed"
  status := 422
  detail
  retryable := false

def upstreamDependencyFailed (detail : String) : ProblemDetail where
  type := "https://docs.cdngine.dev/problems/upstream-dependency-failed"
  title := "Upstream dependency failed"
  status := 503
  detail
  retryable := true

def internalError (detail : String) : ProblemDetail where
  type := "https://docs.cdngine.dev/problems/internal-error"
  title := "Internal error"
  status := 500
  detail
  retryable := false

end ProblemDetail

/-- A thrown value, as the routes tell them apart: a problem, an error of the in-memory store,
or any other value. The errors of the Prisma store are of the last kind. -/
inductive ThrownError
  | problem (problem : ProblemDetail)
  | uploadSession (error : UploadSessionError)
  | other (error : RegistryError)

/-- `mapUnknownErrorToProblem`, which answers for whatever a route throws. -/
def mapUnknownErrorToProblem (rt : Runtime) : ThrownError → ProblemDetail
  | .problem problem => problem
  | .uploadSession error => .internalError (error.message rt)
  | .other .thrownValue => .internalError "The API encountered an unexpected error."
  | .other error => .internalError (error.message rt)

/-- The `catch` of the route that issues. -/
def mapIssuanceError (rt : Runtime) : ThrownError → ThrownError
  | .uploadSession (.idempotencyConflict key) =>
      .problem (.idempotencyKeyConflict ((UploadSessionError.idempotencyConflict key).message rt))
  | .uploadSession (.assetNotFound id) =>
      .problem (.notFound ((UploadSessionError.assetNotFound id).message rt))
  | error => error

/-- The `catch` of the route that completes. -/
def mapCompletionError (rt : Runtime) : ThrownError → ThrownError
  | .uploadSession (.idempotencyConflict key) =>
      .problem (.idempotencyKeyConflict ((UploadSessionError.idempotencyConflict key).message rt))
  | .uploadSession (.notFound id) =>
      .problem (.notFound ((UploadSessionError.notFound id).message rt))
  | .uploadSession (.expired id) =>
      .problem (.uploadSessionExpired ((UploadSessionError.expired id).message rt))
  | .uploadSession (.invalidStateTransition id state) =>
      .problem
        (.invalidStateTransition ((UploadSessionError.invalidStateTransition id state).message rt))
  | .uploadSession (.validationFailed _ problemType detail) =>
      .problem (.validationFailed problemType detail)
  | .uploadSession (.canonicalizationFailed id cause) =>
      .problem
        (.upstreamDependencyFailed
          ((UploadSessionError.canonicalizationFailed id cause).message rt))
  | error => error

/-- A value that is no problem of a route is reported as an internal error. -/
theorem mapUnknownErrorToProblem_status (rt : Runtime) (error : RegistryError) :
    mapUnknownErrorToProblem rt (.other error) =
      .internalError (mapUnknownErrorToProblem rt (.other error)).detail := by
  cases error <;> rfl

/-! ### Requests -/

/-- The context of a request that the routes read. -/
structure RequestContext where
  actor : Option AuthenticatedActor
  surface : Option ApiSurface
  idempotencyKey : Option String

def ApiSurface.text : ApiSurface → String
  | publicApi => "public"
  | platformAdmin => "platform-admin"
  | operator => "operator"

structure RequestSource where
  filename : String
  contentType : String
  deriving DecidableEq, Repr

structure RequestUpload where
  objectKey : String
  byteLength : Nat
  checksum : ObjectChecksum
  deriving DecidableEq, Repr

/-- The validated body of a request to issue a session. -/
structure UploadSessionRequest where
  serviceNamespaceId : String
  tenantId : Option String := none
  assetId : Option String := none
  assetOwner : String
  source : RequestSource
  upload : RequestUpload
  deriving DecidableEq, Repr

/-- The validated body of a request to complete a session. -/
structure UploadCompletionRequest where
  stagedObject : RequestUpload
  deriving DecidableEq, Repr

def ObjectChecksum.toJson (checksum : ObjectChecksum) : Json :=
  .object [("algorithm", .string checksum.algorithm), ("value", .string checksum.value)]

def RequestUpload.toJson (upload : RequestUpload) : Json :=
  .object
    [("objectKey", .string upload.objectKey), ("byteLength", .number upload.byteLength),
      ("checksum", upload.checksum.toJson)]

/-- A text that may be null. -/
def nullable (s : Option String) : Json := (s.map Json.string).getD .null

def normalizeRequestHash (rt : Runtime) (request : UploadSessionRequest) : String :=
  rt.sha256Hex
    (utf8Bytes (stringify rt
      (.object
        [("serviceNamespaceId", .string request.serviceNamespaceId),
          ("tenantId", nullable request.tenantId), ("assetId", nullable request.assetId),
          ("assetOwner", .string request.assetOwner),
          ("source",
            .object
              [("filename", .string request.source.filename),
                ("contentType", .string request.source.contentType)]),
          ("upload", request.upload.toJson)])))

def normalizeCompletionRequestHash (rt : Runtime) (request : UploadCompletionRequest) : String :=
  rt.sha256Hex
    (utf8Bytes (stringify rt (.object [("stagedObject", request.stagedObject.toJson)])))

def getIdempotencyKey (context : RequestContext) : Except ThrownError String :=
  match present (context.idempotencyKey.map trim) with
  | some key => .ok key
  | none =>
      .error (.problem
        (.invalidRequest "The Idempotency-Key header is required for upload-session issuance."))

def buildCallerScopeKey (context : RequestContext) : Except ThrownError String :=
  match context.actor, context.surface with
  | some actor, some surface => .ok (surface.text ++ ":" ++ actor.subject)
  | _, _ =>
      .error (.problem (.unauthorized
        "Authenticated actor context is required before issuing upload sessions."))

/-- `requireRequestedScope`. -/
def requireRequestedScope (context : RequestContext) (scope : RequestedScope) :
    Except ThrownError Unit :=
  match assertAuthorizedScope context.actor scope with
  | .ok () => .ok ()
  | .error problem => .error (.problem problem)

/-! ### Dependencies -/

structure CreateUploadTargetInput where
  objectKey : String
  contentType : String
  byteLength : Int
  expiresAt : Instant
  deriving DecidableEq, Repr

structure CreateUploadTargetResult where
  method : String
  protocol : String
  url : String
  expiresAt : Instant
  deriving DecidableEq, Repr

structure StagingBlobStore where
  createUploadTarget : CreateUploadTargetInput → Except RegistryError CreateUploadTargetResult
  headObject : String → Except RegistryError (Option StagedObjectDescriptor)

structure SnapshotFromPathInput where
  assetVersionId : String
  logicalByteLength : Int
  localPath : String
  sourceFilename : String
  sourceDigests : List ObjectChecksum
  metadata : List (String × String)
  deriving DecidableEq, Repr

/-- A source repository, of which the routes use `snapshotFromPath`. -/
abbrev SourceRepository := SnapshotFromPathInput → Except RegistryError SnapshotResult

/-- What a canonicalization of the completion route gives. -/
abbrev Canonicalize := RegistryCanonicalizationRequest → Except RegistryError SnapshotResult

/-- A store of upload sessions over a state. -/
structure UploadSessionStore (σ : Type) where
  issueUploadSession : RegistryIssueUploadSessionInput → σ →
    Except ThrownError RegistryIssuedUploadSession × σ
  getUploadSession : String → σ → Option RegistryUploadSessionSummary
  completeUploadSession : RegistryCompleteUploadSessionInput → Canonicalize → σ →
    Except ThrownError RegistryCompletedUploadSession × σ

structure UploadSessionRouteDependencies (σ : Type) where
  now : Instant
  sourceRepository : Option SourceRepository := none
  stagingBlobStore : StagingBlobStore
  store : UploadSessionStore σ
  uploadTargetTtlMs : Option Int := none
  workflowTemplate : Option String := none
  workflowTemplateResolver : Option (RegistryUploadSessionSummary → Option String) := none

/-! ### The workflow template of a source -/

structure ResolvedWorkflowTemplate where
  capabilityId : String
  manifestType : String
  workflowTemplateId : String
  deriving DecidableEq, Repr

/-- The default templates with the content types of their capabilities. -/
def defaultWorkflowBindings : List (ResolvedWorkflowTemplate × List String) :=
  [(⟨"image.default", "image-default", "image-derivation-v1"⟩,
      ["image/png", "image/jpeg", "image/webp"]),
    (⟨"presentation.default", "presentation-default", "presentation-normalization-v1"⟩,
      ["application/pdf", "application/vnd.ms-powerpoint",
        "application/vnd.openxmlformats-officedocument.presentationml.presentation"]),
    (⟨"asset.generic", "generic-asset-default", "asset-derivation-v1"⟩, [])]

/-- `resolveDefaultWorkflowTemplateForSource`. The registered types are in ASCII and have no
letter that a character outside ASCII is lowered to, so that lowering ASCII decides it. -/
def resolveDefaultWorkflowTemplateForSource (contentType : String) :
    Option ResolvedWorkflowTemplate :=
  let normalizedContentType := (trim contentType).toLower
  let binding := defaultWorkflowBindings.find? fun candidate =>
    candidate.2.any fun mimeType => mimeType.toLower == normalizedContentType
  let fallbackBinding := defaultWorkflowBindings.find? fun candidate =>
    candidate.1.capabilityId == "asset.generic"
  (binding <|> fallbackBinding).map (·.1)

/-! ### The route that issues -/

structure CreateUploadSessionResponse where
  uploadSessionId : String
  assetId : String
  versionId : String
  isDuplicate : Bool
  uploadTarget : CreateUploadTargetResult
  status : String
  completeLink : String
  versionLink : String
  deriving DecidableEq, Repr

section Create

variable {σ : Type} (rt : Runtime) (dependencies : UploadSessionRouteDependencies σ)
  (context : RequestContext) (request : UploadSessionRequest)

/-- The scope that a request asks for. -/
def UploadSessionRequest.scope : RequestedScope where
  serviceNamespaceId := some request.serviceNamespaceId
  tenantId := present request.tenantId

/-- When the session of a request expires. -/
def sessionExpiry : Instant := dependencies.now + dependencies.uploadTargetTtlMs.getD (15 * 60000)

/-- The input of the store for a request. -/
def issueInput (callerScopeKey idempotencyKey : String) : RegistryIssueUploadSessionInput where
  assetId := present request.assetId
  assetOwner := request.assetOwner
  callerScopeKey
  checksum := request.upload.checksum
  contentType := request.source.contentType
  expiresAt := sessionExpiry dependencies
  filename := request.source.filename
  idempotencyKey
  normalizedRequestHash := normalizeRequestHash rt request
  objectKey := request.upload.objectKey
  serviceNamespaceId := request.serviceNamespaceId
  tenantId := present request.tenantId
  byteLength := request.upload.byteLength

/-- What the route does before it calls the store. -/
def prepareIssuance : Except ThrownError RegistryIssueUploadSessionInput := do
  let idempotencyKey ← getIdempotencyKey context
  requireRequestedScope context request.scope
  let callerScopeKey ← buildCallerScopeKey context
  return issueInput rt dependencies request callerScopeKey idempotencyKey

/-- The response to an issued session. -/
def issuedResponse (issued : RegistryIssuedUploadSession)
    (uploadTarget : CreateUploadTargetResult) :
    CreateUploadSessionResponse where
  uploadSessionId := issued.uploadSessionId
  assetId := issued.assetId
  versionId := issued.versionId
  isDuplicate := issued.isDuplicate
  uploadTarget
  status := "awaiting-upload"
  completeLink := "/v1/upload-sessions/" ++ issued.uploadSessionId ++ "/complete"
  versionLink := "/v1/assets/" ++ issued.assetId ++ "/versions/" ++ issued.versionId

/-- What the route does with what the store returned or threw. -/
def finishIssuance (outcome : Except ThrownError RegistryIssuedUploadSession) :
    Except ThrownError CreateUploadSessionResponse :=
  match outcome with
  | .error error => .error (mapIssuanceError rt error)
  | .ok issued =>
      match dependencies.stagingBlobStore.createUploadTarget
        { objectKey := issued.objectKey
          contentType := issued.contentType
          byteLength := issued.byteLength
          expiresAt := issued.expiresAt } with
      | .error error => .error (mapIssuanceError rt (.other error))
      | .ok uploadTarget => .ok (issuedResponse issued uploadTarget)

/-- **The route that issues an upload session.** -/
def createUploadSessionRoute (s : σ) : Except ThrownError CreateUploadSessionResponse × σ :=
  match prepareIssuance rt dependencies context request with
  | .error error => (.error error, s)
  | .ok input =>
      let (outcome, s) := dependencies.store.issueUploadSession input s
      (finishIssuance rt dependencies outcome, s)

end Create

/-! ### The route that completes -/

structure CompleteUploadSessionResponse where
  uploadSessionId : String
  assetId : String
  versionId : String
  versionState : AssetVersionState
  workflowDispatch : RegistryWorkflowDispatchSummary
  versionLink : String
  deriving DecidableEq, Repr

def buildStagingSnapshotSourcePath (stagedObject : StagedObjectDescriptor) : String :=
  "staging://" ++ stagedObject.bucket ++ "/" ++ stagedObject.key

/-- The snapshot that a canonicalization asks the source repository for. -/
def snapshotInput (request : RegistryCanonicalizationRequest) : SnapshotFromPathInput where
  assetVersionId := request.versionId
  logicalByteLength := request.stagedObject.byteLength
  localPath := buildStagingSnapshotSourcePath request.stagedObject.descriptor
  sourceFilename := request.filename
  sourceDigests := [request.stagedObject.checksum]
  metadata :=
    [("assetId", request.assetId), ("assetOwner", request.assetOwner),
      ("serviceNamespaceId", request.serviceNamespaceId),
      ("uploadSessionId", request.uploadSessionId),
      ("versionNumber", toString request.versionNumber)] ++
      ((present request.tenantId).map fun tenantId => ("tenantId", tenantId)).toList

section Complete

variable {σ : Type} (rt : Runtime) (dependencies : UploadSessionRouteDependencies σ)
  (context : RequestContext) (uploadSessionId : String) (request : UploadCompletionRequest)

/-- The workflow template of a completion. -/
def resolvedWorkflowTemplate (uploadSession : RegistryUploadSessionSummary) : String :=
  (dependencies.workflowTemplate <|>
    (dependencies.workflowTemplateResolver.bind fun resolver => resolver uploadSession) <|>
    (resolveDefaultWorkflowTemplateForSource uploadSession.contentType).map
      (·.workflowTemplateId)).getD "asset-derivation-v1"

/-- The staged object that a completion claims, with what the staging store observes. -/
def verifiedStagedObject (descriptor : StagedObjectDescriptor) :
    RegistryVerifiedUploadStagedObject where
  byteLength := request.stagedObject.byteLength
  checksum := request.stagedObject.checksum
  descriptor
  objectKey := request.stagedObject.objectKey

/-- The call of the store that a completion prepares. -/
structure PreparedCompletion where
  input : RegistryCompleteUploadSessionInput
  canonicalize : Canonicalize

/-- What the route does before it calls the store, with what its lookup of the session found. -/
def prepareCompletion (found : Option RegistryUploadSessionSummary) :
    Except ThrownError PreparedCompletion := do
  let idempotencyKey ← getIdempotencyKey context
  let some uploadSession := found
    | .error (.problem
        (.notFound ("Upload session " ++ quoted uploadSessionId ++ " does not exist.")))
  requireRequestedScope context
    (storedScope uploadSession.serviceNamespaceId uploadSession.tenantId)
  let some stagedDescriptor ←
      (dependencies.stagingBlobStore.headObject uploadSession.objectKey).mapError ThrownError.other
    | .error (.problem (.uploadNotFinished
        ("Upload session " ++ quoted uploadSessionId ++
          " does not have durable staged bytes yet.")))
  let some sourceRepository := dependencies.sourceRepository
    | .error (.problem (.upstreamDependencyFailed
        "Canonical source repository dependency is not configured for upload completion."))
  let callerScopeKey ← buildCallerScopeKey context
  return {
    input :=
      { callerScopeKey
        idempotencyKey
        normalizedRequestHash := normalizeCompletionRequestHash rt request
        stagedObject := verifiedStagedObject request stagedDescriptor
        uploadSessionId
        workflowTemplate := some (resolvedWorkflowTemplate dependencies uploadSession) }
    canonicalize := fun request => sourceRepository (snapshotInput request) }

/-- The response to a completed session. -/
def completedResponse (completed : RegistryCompletedUploadSession) :
    CompleteUploadSessionResponse where
  uploadSessionId := completed.uploadSessionId
  assetId := completed.assetId
  versionId := completed.versionId
  versionState := completed.versionState
  workflowDispatch := completed.workflowDispatch
  versionLink := "/v1/assets/" ++ completed.assetId ++ "/versions/" ++ completed.versionId

/-- What the route does with what the store returned or threw. -/
def finishCompletion (outcome : Except ThrownError RegistryCompletedUploadSession) :
    Except ThrownError CompleteUploadSessionResponse :=
  match outcome with
  | .error error => .error (mapCompletionError rt error)
  | .ok completed => .ok (completedResponse completed)

/-- **The route that completes an upload session.** Its lookup finds the state `seen`, the
call of the store the state `s`: other requests may run between the two. -/
def completeUploadSessionRoute (seen s : σ) :
    Except ThrownError CompleteUploadSessionResponse × σ :=
  match prepareCompletion rt dependencies context uploadSessionId request
    (dependencies.store.getUploadSession uploadSessionId seen) with
  | .error error => (.error error, s)
  | .ok prepared =>
      let (outcome, s) :=
        dependencies.store.completeUploadSession prepared.input prepared.canonicalize s
      (finishCompletion rt outcome, s)

end Complete

/-! ### Responses -/

/-- The answer of the application to a request. -/
inductive RouteResponse (α : Type)
  | json (body : α) (status : Nat)
  | problem (problem : ProblemDetail)

/-- The answer to what a route returned or threw. -/
def respond {α : Type} (rt : Runtime) (status : Nat) : Except ThrownError α → RouteResponse α
  | .ok body => .json body status
  | .error error => .problem (mapUnknownErrorToProblem rt error)

/-- The answer of the application to a request to issue a session. -/
def createUploadSessionResponse {σ : Type} (rt : Runtime)
    (dependencies : UploadSessionRouteDependencies σ) (context : RequestContext)
    (request : UploadSessionRequest) (s : σ) : RouteResponse CreateUploadSessionResponse :=
  respond rt 201 (createUploadSessionRoute rt dependencies context request s).1

/-- The answer of the application to a request to complete a session. -/
def completeUploadSessionResponse {σ : Type} (rt : Runtime)
    (dependencies : UploadSessionRouteDependencies σ) (context : RequestContext)
    (uploadSessionId : String) (request : UploadCompletionRequest) (seen s : σ) :
    RouteResponse CompleteUploadSessionResponse :=
  respond rt 202
    (completeUploadSessionRoute rt dependencies context uploadSessionId request seen s).1

section Responses

variable {σ : Type} {rt : Runtime} {dependencies : UploadSessionRouteDependencies σ}
  {context : RequestContext}

/-- A request to issue that reaches the store is answered by what the store returned or
threw. -/
theorem createUploadSessionResponse_eq {request : UploadSessionRequest}
    {input : RegistryIssueUploadSessionInput}
    (hprepared : prepareIssuance rt dependencies context request = .ok input) (s : σ) :
    createUploadSessionResponse rt dependencies context request s =
      respond rt 201
        (finishIssuance rt dependencies (dependencies.store.issueUploadSession input s).1) := by
  simp only [createUploadSessionResponse, createUploadSessionRoute, hprepared]

/-- A request to complete that reaches the store is answered by what the store returned or
threw. -/
theorem completeUploadSessionResponse_eq {uploadSessionId : String}
    {request : UploadCompletionRequest} {seen : σ} {prepared : PreparedCompletion}
    (hprepared : prepareCompletion rt dependencies context uploadSessionId request
      (dependencies.store.getUploadSession uploadSessionId seen) = .ok prepared) (s : σ) :
    completeUploadSessionResponse rt dependencies context uploadSessionId request seen s =
      respond rt 202
        (finishCompletion rt
          (dependencies.store.completeUploadSession prepared.input prepared.canonicalize s).1) := by
  simp only [completeUploadSessionResponse, completeUploadSessionRoute, hprepared]

/-- **What the completion route calls the store with**: the session of the request, and the object
that the staging store observed under its key. -/
theorem prepareCompletion_eq_ok {uploadSessionId : String} {request : UploadCompletionRequest}
    {found : Option RegistryUploadSessionSummary} {prepared : PreparedCompletion}
    (h : prepareCompletion rt dependencies context uploadSessionId request found = .ok prepared) :
    prepared.input.uploadSessionId = uploadSessionId ∧
      prepared.input.normalizedRequestHash = normalizeCompletionRequestHash rt request ∧
      ∃ uploadSession descriptor, found = some uploadSession ∧
        dependencies.stagingBlobStore.headObject uploadSession.objectKey = .ok (some descriptor) ∧
        prepared.input.stagedObject = verifiedStagedObject request descriptor := by
  obtain ⟨idempotencyKey, -, h⟩ := bind_eq_ok.mp h
  split at h
  · obtain ⟨⟨⟩, -, h⟩ := bind_eq_ok.mp h
    obtain ⟨observed, hhead, h⟩ := bind_eq_ok.mp h
    split at h
    · split at h
      · obtain ⟨callerScopeKey, -, h⟩ := bind_eq_ok.mp h
        obtain rfl := Except.ok.inj h
        exact ⟨rfl, rfl, _, _, rfl, mapError_eq_ok.mp hhead, rfl⟩
      · cases h
    · cases h
  · cases h

end Responses

end Cdngine
