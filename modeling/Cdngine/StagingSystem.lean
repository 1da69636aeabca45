import Cdngine.RouteRejections
import Cdngine.SourceCopies
import Cdngine.StagedRows
import Cdngine.UploadTargets

/-!
# Runs of the Staging Store

The registry with the objects of the staging bucket. The staging store keeps one object for a key:
the upload target of every session with the key writes it, the completion of each looks at it, and
a snapshot copies it when the registry canonicalizes. An upload target is a URL and a copy source a
header, so that a key may be written, looked at and copied as three objects.

An upload writes through the target of a session. A completion is a request to the route, which
looks at the object of its session, and then the calls of the registry; anything may run between
them. The steps of the registry are whole transactions.

## Main results

* `headObject_blobStore`, `copySource_of_snapshot`: what a completion looks at and what its
  snapshot copies.
* `CompletionReplayRow.completableWithin_iff`: when a session can be completed within a span.
-/

open Relational Runs

namespace Cdngine

open PercentEncoding UrlPaths

/-! ### The objects of an object key -/

/-- The staging of a runtime: its store with the parser of its upload URLs, the source repository
that copies from it, and whether the service reads plus signs as spaces. -/
structure StagingDeployment where
  stagingBlobStore : S3CompatibleStagingBlobStore
  sourceRepository : S3CompatibleSourceRepository
  parseUrl : String → Option Url
  plus : Bool

namespace StagingDeployment

variable (deployment : StagingDeployment)

/-- The qualified key of an object key. -/
def qualifiedKey (objectKey : String) : Option String :=
  (qualifiedObjectKey deployment.stagingBlobStore.target objectKey).toOption

/-- The bytes of the key that the upload target of an object key writes. -/
def uploadedKey (objectKey : String) : Option (List UInt8) := do
  let key ← deployment.qualifiedKey objectKey
  let base ← deployment.parseUrl deployment.stagingBlobStore.normalizedBase
  let url ← (buildTusUploadUrl deployment.parseUrl deployment.stagingBlobStore.uploadBaseUrl
    key).toOption
  if Url.decodedBase base <+: Url.decodedSegments url then some (objectBytes base url) else none

/-- The bytes of the key that completions look at. -/
def headedKey (objectKey : String) : Option (List UInt8) :=
  (deployment.qualifiedKey objectKey).map fun key => utf8 key.toList

/-- The bytes of the key in the staging bucket that the service reads from a copy source. -/
def copySourceKey (copySource : String) : Option (List UInt8) := do
  let source ← copySourceObject deployment.plus copySource
  if source.1 = utf8 deployment.stagingBlobStore.target.bucket.toList then some source.2 else none

/-- The bytes of the key that a snapshot of a staged object copies. -/
def snapshotKey (stagedObject : StagedObjectDescriptor) : Option (List UInt8) := do
  let staged ← (deployment.sourceRepository.stagedObject
    (buildStagingSnapshotSourcePath stagedObject)).toOption
  deployment.copySourceKey (encodeCopySource staged.1 staged.2)

/-- The bytes of the key that the snapshots of an object key copy. -/
def copiedKey (objectKey : String) : Option (List UInt8) := do
  let key ← deployment.qualifiedKey objectKey
  deployment.snapshotKey (deployment.stagingBlobStore.toStagedObjectDescriptor key {})

/-- **The staged objects of an object key**: what its upload target writes, what completions look
at, and what snapshots copy. -/
def stagedKeys (objectKey : String) : List (List UInt8) :=
  (deployment.uploadedKey objectKey).toList ++ (deployment.headedKey objectKey).toList ++
    (deployment.copiedKey objectKey).toList

/-- Two object keys **share** a staged object. -/
def Share (objectKey objectKey' : String) : Prop :=
  ∃ key ∈ deployment.stagedKeys objectKey, key ∈ deployment.stagedKeys objectKey'

instance (objectKey objectKey' : String) : Decidable (deployment.Share objectKey objectKey') :=
  inferInstanceAs (Decidable (∃ key ∈ _, _))

variable {deployment}

theorem Share.symm {objectKey objectKey' : String} (h : deployment.Share objectKey objectKey') :
    deployment.Share objectKey' objectKey := by
  obtain ⟨key, hkey, hkey'⟩ := h
  exact ⟨key, hkey', hkey⟩

/-- A snapshot of what a completion has looked at copies the key of its session. -/
theorem snapshotKey_of_qualifiedKey {objectKey : String} {stagedObject : StagedObjectDescriptor}
    (hbucket : stagedObject.bucket = deployment.stagingBlobStore.target.bucket)
    (hkey : deployment.qualifiedKey objectKey = some stagedObject.key) :
    deployment.snapshotKey stagedObject = deployment.copiedKey objectKey := by
  rw [copiedKey, hkey]
  simp only [Option.bind_eq_bind, Option.bind_some, snapshotKey, buildStagingSnapshotSourcePath,
    S3CompatibleStagingBlobStore.toStagedObjectDescriptor, hbucket]

end StagingDeployment

/-! ### The system -/

/-- An object of the staging store, with the session whose upload target it was written
through. -/
structure StagedUpload where
  uploadSessionId : String
  bytes : List UInt8
  metadata : List (String × String)
  deriving DecidableEq, Repr

/-- What the service answers to a look at an object. -/
def StagedUpload.response (upload : StagedUpload) : S3Response where
  contentLength := some upload.bytes.length
  metadata := upload.metadata

/-- The registry, the objects of the staging bucket, and the calls of the registry that completion
routes have prepared and not made yet. -/
structure StagingSystem where
  registry : RegistrySystem
  objects : List UInt8 → Option StagedUpload
  looked : List (Option RegistryCompleteUploadSessionInput)

/-- The steps of the system. An issuance is a request to its route. A completion is a look of its
route, which finds the session and its object, then the call that it makes, and the steps of the
registry behind it; a canonicalization reads the staging bucket, and `later` answers the requests
behind its look. The other steps of the registry run between them. -/
inductive StagingAction
  | issue (runtime : DurableRuntime) (context : RequestContext) (request : UploadSessionRequest)
  | upload (uploadSessionId : String) (bytes : List UInt8) (metadata : List (String × String))
  | look (runtime : DurableRuntime) (context : RequestContext) (uploadSessionId : String)
      (request : UploadCompletionRequest)
  | call (n : Nat)
  | canonicalize (i : Nat) (later : Nat → S3Request → Except RegistryError S3Response)
  | registry (a : RegistryAction)

/-- The steps of the registry that requests make. -/
def RegistryAction.isRequested : RegistryAction → Bool
  | .operation (.issueUploadSession _ _ _) | .complete _ | .canonicalize _ _ => true
  | _ => false

/-- The request that a completion has been accepted for and not been snapshotted yet. -/
def CompletionProgress.accepted? : CompletionProgress → Option RegistryCanonicalizationRequest
  | .accepted request => some request
  | _ => none

namespace StagingSystem

variable (rt : Runtime) (deployment : StagingDeployment) (sys : StagingSystem)

/-- The answer of the service to a look at a key. -/
def headAnswer (bucket key : String) : Except RegistryError S3Response :=
  match (if bucket = deployment.stagingBlobStore.target.bucket then sys.objects (utf8 key.toList)
    else none) with
  | some upload => .ok upload.response
  | none => .error (.thrown "NotFound" "UnknownError")

/-- The surroundings of a call that begins with a look at a staged object; whatever answers its
later requests. -/
def environment (later : Nat → S3Request → Except RegistryError S3Response) : S3Environment where
  answer i request :=
    match i, request with
    | 0, .headObject bucket key => sys.headAnswer deployment bucket key
    | i, request => later i request
  dirname path := path
  mkdir _ := .ok ()
  writeFile _ _ := .ok ()

/-- What the routes see of the staging store. -/
def blobStore : StagingBlobStore where
  createUploadTarget := deployment.stagingBlobStore.createUploadTarget deployment.parseUrl
  headObject objectKey :=
    (deployment.stagingBlobStore.headObject
      (sys.environment deployment fun _ _ => .error .thrownValue) objectKey).result

/-- The dependencies of the routes. -/
def dependencies (runtime : DurableRuntime) : UploadSessionRouteDependencies Db :=
  ({ runtime with stagingBlobStore := sys.blobStore deployment } : DurableRuntime).dependencies rt

/-- The snapshot that a canonicalization takes. -/
def snapshot (request : RegistryCanonicalizationRequest)
    (later : Nat → S3Request → Except RegistryError S3Response) : S3Call SnapshotResult :=
  deployment.sourceRepository.snapshotFromPath (sys.environment deployment later)
    (snapshotInput request)

/-- The request that the `i`th completion has been accepted for. -/
def accepted? (i : Nat) : Option RegistryCanonicalizationRequest :=
  (sys.registry.completions[i]?).bind (·.progress.accepted?)

/-- A step of the registry. -/
def onRegistry (a : RegistryAction) : Option StagingSystem :=
  (sys.registry.next rt a).map fun registry => { sys with registry }

/-- **The step function** of the system; `none` where a step is not enabled. -/
def next : StagingAction → Option StagingSystem
  | .issue runtime context request =>
      match prepareIssuance rt (sys.dependencies rt deployment runtime) context request with
      | .error _ => some sys
      | .ok input =>
          sys.onRegistry rt
            (.operation (.issueUploadSession input runtime.issueIds runtime.issuedAt))
  | .upload uploadSessionId bytes metadata => do
      let session ← getUploadSession sys.registry.db uploadSessionId
      let key ← deployment.uploadedKey session.objectKey
      return { sys with
        objects := Function.update sys.objects key (some ⟨uploadSessionId, bytes, metadata⟩) }
  | .look runtime context uploadSessionId request =>
      match prepareCompletion rt (sys.dependencies rt deployment runtime) context uploadSessionId
        request (getUploadSession sys.registry.db uploadSessionId) with
      | .error _ => some sys
      | .ok prepared => some { sys with looked := sys.looked ++ [some prepared.input] }
  | .call n => do
      let input ← (sys.looked[n]?).join
      return { sys with
        registry := sys.registry.complete input
        looked := sys.looked.set n none }
  | .canonicalize i later => do
      let request ← sys.accepted? i
      sys.onRegistry rt (.canonicalize i (sys.snapshot deployment request later).result)
  | .registry a => if a.isRequested then none else sys.onRegistry rt a

end StagingSystem

/-- The step relation of the system. -/
def StagingStep (rt : Runtime) (deployment : StagingDeployment) (sys : StagingSystem)
    (a : StagingAction) (sys' : StagingSystem) : Prop :=
  sys.next rt deployment a = some sys'

/-- A system that has served no request yet. -/
structure StagingSystem.Fresh (sys : StagingSystem) : Prop where
  registry : sys.registry.Fresh
  objects : ∀ key, sys.objects key = none
  looked : sys.looked = []

/-! ### Sharing -/

namespace StagingSystem

variable (deployment : StagingDeployment) (sys : StagingSystem)

/-- Two sessions of different assets, namespaces or tenants **share a staged object at a time**
when both can still be completed. -/
def SharedAt (id id' : String) (t : Instant) : Prop :=
  ∃ row ∈ sys.registry.db.findUploadSession id, ∃ row' ∈ sys.registry.db.findUploadSession id',
    row.Foreign row' ∧ row.CompletableAt t ∧ row'.CompletableAt t ∧
      deployment.Share row.objectKey row'.objectKey

/-- **Sessions are apart**: no two of different assets, namespaces or tenants share a staged object
while both can still be completed. -/
def Apart : Prop := ∀ id id' t, ¬ sys.SharedAt deployment id id' t

/-- The object that the service reads from a copy source. -/
def copiedObject (copySource : String) : Option StagedUpload :=
  (deployment.copySourceKey copySource).bind sys.objects

end StagingSystem

/-- The copy source of a request, when it copies. -/
def S3Effect.copySource? : S3Effect → Option String
  | .send (.copyObject _ copySource _) => some copySource
  | _ => none

/-- Every copy that is requested **is of an object of a session**: one written through its upload
target. -/
def StagingSystem.CopiesObjectsOf (deployment : StagingDeployment) (sys : StagingSystem)
    (uploadSessionId : String) (effects : List S3Effect) : Prop :=
  ∀ effect ∈ effects, ∀ copySource ∈ effect.copySource?,
    ∃ upload ∈ sys.copiedObject deployment copySource, upload.uploadSessionId = uploadSessionId

/-- **A canonicalization copies its own object**: when it takes a snapshot for a version, the copy
that it requests is of an object written through the upload target of the session of that
version. -/
def StagingSystem.CanonicalizesOwn (deployment : StagingDeployment) (sys : StagingSystem) (i : Nat)
    (later : Nat → S3Request → Except RegistryError S3Response) : Prop :=
  ∀ request ∈ sys.accepted? i,
    (∃ row ∈ sys.registry.db.findUploadSession request.uploadSessionId,
      row.version.id = request.versionId) ∧
    ((sys.snapshot deployment request later).result.isOk = true →
      sys.CopiesObjectsOf deployment request.uploadSessionId
        (sys.snapshot deployment request later).events)

/-- A step **copies its own object** when it is a canonicalization. -/
def CopiesOwn (deployment : StagingDeployment) (τ : Transition StagingSystem StagingAction) :
    Prop :=
  match τ.action with
  | .canonicalize i later => τ.before.CanonicalizesOwn deployment i later
  | _ => True

/-- **Sessions keep to their own objects** in a run: they are apart in every state, and every step
copies its own object. -/
structure KeepToOwnObjects (deployment : StagingDeployment)
    (tr : List (Transition StagingSystem StagingAction)) (sys : StagingSystem) : Prop where
  before : ∀ τ ∈ tr, τ.before.Apart deployment
  after : sys.Apart deployment
  copies : ∀ τ ∈ tr, CopiesOwn deployment τ

/-! ### What keeps sessions apart -/

/-- A session **can be completed within a span**: at some time of it. -/
def CompletionReplayRow.CompletableWithin (row : CompletionReplayRow) (earliest latest : Instant) :
    Prop :=
  row.uploadSession.isOpen ∧ tryBuildCompletionReplay row = none ∧
    ∃ issuedAt ∈ row.uploadSession.firstActivityAt,
      max earliest issuedAt ≤ min latest row.uploadSession.expiresAt

theorem CompletionReplayRow.completableWithin_iff {row : CompletionReplayRow}
    {earliest latest : Instant} :
    row.CompletableWithin earliest latest ↔
      ∃ t, earliest ≤ t ∧ t ≤ latest ∧ row.CompletableAt t := by
  constructor
  · rintro ⟨hopen, hunsettled, issuedAt, hissued, hspan⟩
    obtain ⟨hlatest, hexpires⟩ := Int.le_min.mp hspan
    exact ⟨max earliest issuedAt, Int.le_max_left _ _, hlatest, hopen, hunsettled,
      ⟨issuedAt, hissued, Int.le_max_right _ _⟩, hexpires⟩
  · rintro ⟨t, hearliest, hlatest, hopen, hunsettled, ⟨issuedAt, hissued, hle⟩, hexpires⟩
    exact ⟨hopen, hunsettled, issuedAt, hissued,
      Int.le_trans (Int.max_le.mpr ⟨hearliest, hle⟩) (Int.le_min.mpr ⟨hlatest, hexpires⟩)⟩

/-- A completion has **not read** its object yet: it has begun or been accepted. -/
def CompletionProgress.isUnread : CompletionProgress → Bool
  | .started | .accepted _ => true
  | _ => false

namespace StagingSystem

variable (deployment : StagingDeployment) (sys : StagingSystem)

/-- The completions that have looked at their object and not read it yet. -/
def underWay : List RegistryCompleteUploadSessionInput :=
  sys.looked.filterMap id ++
    (sys.registry.completions.filter (·.progress.isUnread)).map (·.input)

/-- An issuance **takes a key of its own**: no session of another asset that can still be completed
while the new one can shares an object with the new key. A replayed issuance takes none. -/
def TakesOwnKey (input : RegistryIssueUploadSessionInput) (now : Instant) : Prop :=
  sys.registry.db.idempotencyRecord? input.idempotencyRecordKey = none →
    ∀ s ∈ sys.registry.db.uploadSessions.rows,
      ∀ row ∈ sys.registry.db.findUploadSession s.id, input.assetId ≠ some row.asset.id →
        row.CompletableWithin now input.expiresAt →
          ¬ deployment.Share row.objectKey input.objectKey

/-- An upload **writes its own object**: not one that the completion of another session has looked
at and not read yet. -/
def WritesOwnObject (uploadSessionId : String) : Prop :=
  ∀ row ∈ sys.registry.db.findUploadSession uploadSessionId,
    ∀ key ∈ deployment.uploadedKey row.objectKey,
      ∀ input ∈ sys.underWay, input.uploadSessionId ≠ uploadSessionId →
        ∀ row' ∈ sys.registry.db.findUploadSession input.uploadSessionId,
          deployment.copiedKey row'.objectKey ≠ some key

/-- A completion **looks at its own object**: where it finds one, the object that a snapshot copies
was written through the upload target of the session. -/
def LooksAtOwnObject (uploadSessionId : String) : Prop :=
  ∀ row ∈ sys.registry.db.findUploadSession uploadSessionId,
    ∀ headed ∈ deployment.headedKey row.objectKey, (sys.objects headed).isSome →
      ∃ key ∈ deployment.copiedKey row.objectKey, ∃ upload ∈ sys.objects key,
        upload.uploadSessionId = uploadSessionId

end StagingSystem

/-- **A step keeps sessions apart**: an issuance takes a key of its own, an upload writes its own
object, and a completion looks at its own object. -/
def KeepsApart (rt : Runtime) (deployment : StagingDeployment)
    (τ : Transition StagingSystem StagingAction) : Prop :=
  match τ.action with
  | .issue runtime context request =>
      ∀ input ∈ (prepareIssuance rt (τ.before.dependencies rt deployment runtime) context
        request).toOption, τ.before.TakesOwnKey deployment input runtime.issuedAt
  | .upload uploadSessionId _ _ => τ.before.WritesOwnObject deployment uploadSessionId
  | .look _ _ uploadSessionId _ => τ.before.LooksAtOwnObject deployment uploadSessionId
  | _ => True

/-! ### What completions look at, and what snapshots copy -/

section Requests

variable {deployment : StagingDeployment} {sys : StagingSystem}

/-- **What a look finds**: the object under the qualified key. -/
theorem StagingSystem.headObject_blobStore {objectKey : String}
    {descriptor : StagedObjectDescriptor}
    (h : (sys.blobStore deployment).headObject objectKey = .ok (some descriptor)) :
    descriptor.bucket = deployment.stagingBlobStore.target.bucket ∧
      deployment.qualifiedKey objectKey = some descriptor.key ∧
      (sys.objects (utf8 descriptor.key.toList)).isSome := by
  obtain ⟨key, hkey, h⟩ := Observed.exists_of_result_bind h
  rw [Observed.result_ofExcept] at hkey
  simp only [S3CompatibleStagingBlobStore.headResolvedObject, Observed.result_emit_bind,
    Observed.result_ofExcept, StagingSystem.environment, StagingSystem.headAnswer, if_true] at h
  have hqualified : deployment.qualifiedKey objectKey = some key := by
    rw [StagingDeployment.qualifiedKey, hkey]
    rfl
  cases hupload : sys.objects (utf8 key.toList) with
  | some upload =>
      rw [hupload] at h
      obtain rfl := Option.some.inj (Except.ok.inj h)
      exact ⟨rfl, hqualified, Option.isSome_of_eq_some hupload⟩
  | none =>
      rw [hupload] at h
      have hmissing : isMissingObjectError (.thrown "NotFound" "UnknownError") = true := rfl
      simp only [hmissing, if_true] at h
      cases h

/-- The copy that a snapshot requests. -/
theorem copySource_of_snapshot {repository : S3CompatibleSourceRepository} {env : S3Environment}
    {input : SnapshotFromPathInput} {snapshot : SnapshotResult}
    (h : (repository.snapshotFromPath env input).result = .ok snapshot) {effect : S3Effect}
    (heffect : effect ∈ (repository.snapshotFromPath env input).events) {copySource : String}
    (hcopy : effect.copySource? = some copySource) :
    ∃ staged, repository.stagedObject input.localPath = .ok staged ∧
      copySource = encodeCopySource staged.1 staged.2 := by
  obtain ⟨staged, hstaged, -⟩ := Observed.exists_of_result_bind h
  rw [Observed.result_ofExcept] at hstaged
  obtain ⟨sourceKey, -, -, hkey, -⟩ := S3CompatibleSourceRepository.snapshotFromPath_result h
  have hmem := (S3CompatibleSourceRepository.events_snapshotFromPath hstaged hkey env).subset
    heffect
  simp only [S3CompatibleSourceRepository.snapshotRequests, List.mem_cons, List.not_mem_nil,
    or_false] at hmem
  rcases hmem with rfl | rfl | rfl
  · cases hcopy
  · exact ⟨staged, hstaged, (Option.some.inj hcopy).symm⟩
  · cases hcopy

end Requests

/-! ### Decisions -/

instance (row row' : CompletionReplayRow) : Decidable (row.Foreign row') :=
  inferInstanceAs (Decidable (_ ∨ _ ∨ _))

instance (s : UploadSession) : Decidable s.isOpen := inferInstanceAs (Decidable (_ ∧ _))

instance (row : CompletionReplayRow) (earliest latest : Instant) :
    Decidable (row.CompletableWithin earliest latest) :=
  inferInstanceAs (Decidable (_ ∧ _ ∧ ∃ issuedAt ∈ row.uploadSession.firstActivityAt, _))

instance (row : CompletionReplayRow) (t : Instant) : Decidable (row.CompletableAt t) :=
  decidable_of_iff (row.CompletableWithin t t) <| by
    rw [CompletionReplayRow.completableWithin_iff]
    constructor
    · rintro ⟨s, hle, hge, hcompletable⟩
      exact Int.le_antisymm hge hle ▸ hcompletable
    · intro hcompletable
      exact ⟨t, Int.le_refl t, Int.le_refl t, hcompletable⟩

section Decidable

variable (rt : Runtime) (deployment : StagingDeployment) (sys : StagingSystem)

instance (id id' : String) (t : Instant) : Decidable (sys.SharedAt deployment id id' t) :=
  inferInstanceAs (Decidable (∃ row ∈ sys.registry.db.findUploadSession id,
    ∃ row' ∈ sys.registry.db.findUploadSession id', _))

instance (uploadSessionId : String) (effects : List S3Effect) :
    Decidable (sys.CopiesObjectsOf deployment uploadSessionId effects) :=
  inferInstanceAs (Decidable (∀ effect ∈ effects, ∀ copySource ∈ S3Effect.copySource? effect,
    ∃ upload ∈ sys.copiedObject deployment copySource, _))

instance (i : Nat) (later : Nat → S3Request → Except RegistryError S3Response) :
    Decidable (sys.CanonicalizesOwn deployment i later) :=
  inferInstanceAs (Decidable (∀ request ∈ sys.accepted? i,
    (∃ row ∈ sys.registry.db.findUploadSession request.uploadSessionId, _) ∧
      (_ → sys.CopiesObjectsOf deployment _ _)))

instance : DecidablePred (CopiesOwn deployment)
  | ⟨sys, .canonicalize i later, _⟩ =>
      inferInstanceAs (Decidable (sys.CanonicalizesOwn deployment i later))
  | ⟨_, .issue _ _ _, _⟩ | ⟨_, .upload _ _ _, _⟩ | ⟨_, .look _ _ _ _, _⟩ | ⟨_, .call _, _⟩
  | ⟨_, .registry _, _⟩ => .isTrue trivial

instance (input : RegistryIssueUploadSessionInput) (now : Instant) :
    Decidable (sys.TakesOwnKey deployment input now) :=
  inferInstanceAs (Decidable (_ → ∀ s ∈ sys.registry.db.uploadSessions.rows,
    ∀ row ∈ sys.registry.db.findUploadSession s.id, _ → _ → ¬ _))

instance (uploadSessionId : String) :
    Decidable (sys.WritesOwnObject deployment uploadSessionId) :=
  inferInstanceAs (Decidable (∀ row ∈ sys.registry.db.findUploadSession uploadSessionId,
    ∀ key ∈ deployment.uploadedKey row.objectKey, ∀ input ∈ sys.underWay, _ →
      ∀ row' ∈ sys.registry.db.findUploadSession input.uploadSessionId, _))

instance (uploadSessionId : String) :
    Decidable (sys.LooksAtOwnObject deployment uploadSessionId) :=
  inferInstanceAs (Decidable (∀ row ∈ sys.registry.db.findUploadSession uploadSessionId,
    ∀ headed ∈ deployment.headedKey row.objectKey, _ →
      ∃ key ∈ deployment.copiedKey row.objectKey, ∃ upload ∈ sys.objects key, _))

instance : DecidablePred (KeepsApart rt deployment)
  | ⟨sys, .issue runtime context request, _⟩ =>
      inferInstanceAs (Decidable (∀ input ∈ (prepareIssuance rt
        (sys.dependencies rt deployment runtime) context request).toOption,
          sys.TakesOwnKey deployment input runtime.issuedAt))
  | ⟨sys, .upload uploadSessionId _ _, _⟩ =>
      inferInstanceAs (Decidable (sys.WritesOwnObject deployment uploadSessionId))
  | ⟨sys, .look _ _ uploadSessionId _, _⟩ =>
      inferInstanceAs (Decidable (sys.LooksAtOwnObject deployment uploadSessionId))
  | ⟨_, .call _, _⟩ | ⟨_, .canonicalize _ _, _⟩ | ⟨_, .registry _, _⟩ => .isTrue trivial

end Decidable

end Cdngine
