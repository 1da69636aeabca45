import Cdngine.JsonText
import Cdngine.UploadSessionRoutes

/-!
# Uploads of the SDK

`uploadFile` of the public client: the request that creates an upload session, the key of the
staged object and the request that completes the session, from the input of one call and the
UUIDs that the call generates. The object key is one of the parts of a request that may be
generated, and both requests carry it.

The routes validate a body before they hash it; the two schemas are here too.

## Main results

* `uploadFile_eq_of_objectKey`: with a given idempotency key and object key, a call sends what
  every other call with the same input sends.
* `requestText_objectKey`: requests that differ in the object key have different texts.
-/

namespace Cdngine

/-! ### The input of a call -/

/-- The bytes of a file: a blob has a type and may have a name. -/
inductive UploadPayload
  | blob (bytes : List UInt8) (name : Option String) (type : String)
  | buffer (bytes : List UInt8)

namespace UploadPayload

def bytes : UploadPayload → List UInt8
  | blob bytes _ _ | buffer bytes => bytes

/-- `getNamedBlobFilename`. -/
def getNamedBlobFilename : UploadPayload → Option String
  | blob _ name _ => present name
  | buffer _ => none

/-- The content type of a file that is given none. -/
def defaultContentType : UploadPayload → String
  | blob _ _ type => (present (some type)).getD "application/octet-stream"
  | buffer _ => "application/octet-stream"

end UploadPayload

structure UploadFileInput where
  assetId : Option String := none
  assetOwner : String
  contentType : Option String := none
  file : UploadPayload
  filename : Option String := none
  idempotencyKey : Option String := none
  objectKey : Option String := none
  serviceNamespaceId : String
  tenantId : Option String := none

/-- The UUIDs that a call generates where it needs them. -/
structure GeneratedUuids where
  objectUuid : String
  uploadUuid : String

/-! ### The object key -/

/-- `text.replace(/[…]+/g, '-')`: every run of characters of a kind becomes one dash. The flag
says that the text before ends in a run. -/
def replaceRuns (p : Char → Bool) : Bool → List Char → List Char
  | _, [] => []
  | inRun, c :: cs =>
      if p c then
        if inRun then replaceRuns p true cs else '-' :: replaceRuns p true cs
      else c :: replaceRuns p false cs

/-- The characters that an object key keeps of a file name. -/
def isKeyCharacter (c : Char) : Bool :=
  c.isAlphanum || c == '.' || c == '_' || c == '-'

def sanitizeFilename (filename : String) : String :=
  let dashed := replaceRuns (fun c => c == '\\' || c == '/') false (trim filename).toList
  let joined := replaceRuns isStrWhiteSpace false dashed
  String.ofList (replaceRuns (fun c => !isKeyCharacter c) false joined)

def getDefaultObjectKey (filename serviceNamespaceId : String) (tenantId : Option String)
    (uuid : String) : String :=
  let scopePath := match present tenantId with
    | some tenantId => serviceNamespaceId ++ "/" ++ tenantId
    | none => serviceNamespaceId ++ "/global"
  "staging/" ++ scopePath ++ "/" ++ (uuid ++ ("-" ++ sanitizeFilename filename))

/-! ### The requests of a call -/

structure UploadIdempotencyKeys where
  completeIdempotencyKey : String
  createIdempotencyKey : String
  deriving DecidableEq, Repr

def getUploadIdempotencyKeys (baseIdempotencyKey : Option String) (uuid : String) :
    UploadIdempotencyKeys :=
  let base := baseIdempotencyKey.getD ("sdk-upload-" ++ uuid)
  { completeIdempotencyKey := base ++ ":complete", createIdempotencyKey := base ++ ":create" }

/-- What a call sends: the bodies of its two requests under their keys. -/
structure UploadFileCall where
  keys : UploadIdempotencyKeys
  create : UploadSessionRequest
  complete : UploadCompletionRequest
  deriving DecidableEq, Repr

/-- `uploadFile`, as far as its requests go; it throws on bytes without a file name. -/
def uploadFile (rt : Runtime) (uuids : GeneratedUuids) (input : UploadFileInput) :
    Except String UploadFileCall :=
  match input.filename <|> input.file.getNamedBlobFilename with
  | none =>
      .error "filename is required when uploadFile() receives bytes that do not carry a file name."
  | some "" =>
      .error "filename is required when uploadFile() receives bytes that do not carry a file name."
  | some filename =>
      let checksum : ObjectChecksum := ⟨"sha256", rt.sha256Hex input.file.bytes⟩
      let objectKey := input.objectKey.getD
        (getDefaultObjectKey filename input.serviceNamespaceId input.tenantId uuids.objectUuid)
      let upload : RequestUpload := ⟨objectKey, input.file.bytes.length, checksum⟩
      .ok
        { keys := getUploadIdempotencyKeys input.idempotencyKey uuids.uploadUuid
          create :=
            { serviceNamespaceId := input.serviceNamespaceId
              tenantId := present input.tenantId
              assetId := present input.assetId
              assetOwner := input.assetOwner
              source :=
                ⟨filename, input.contentType.getD input.file.defaultContentType⟩
              upload }
          complete := ⟨upload⟩ }

/-! ### What the routes validate -/

/-- The last segment of a path, with either separator. -/
def takeLastPathSegment (candidate : String) : String :=
  let segments := (candidate.toList.splitOnP fun c => c == '/' || c == '\\').filter (· ≠ [])
  String.ofList (segments.getLast?.getD [])

/-- The characters that a materialized file name does not keep. -/
def isInvalidMaterializedFilenameCharacter (c : Char) : Bool :=
  c.toNat < 0x20 || ['<', '>', ':', '"', '|', '?', '*'].contains c

def sanitizeMaterializedFilename (candidate : String) : String :=
  let replaced := (takeLastPathSegment (trim candidate)).toList.map fun c =>
    if isInvalidMaterializedFilenameCharacter c then '-' else c
  String.ofList (replaced.reverse.dropWhile fun c => c == '.' || c == ' ').reverse

def isUnsafeMaterializedFilename (filename : String) : Bool :=
  filename.length == 0 || filename == "." || filename == ".."

def isSafeSourceFilename (filename : String) : Bool :=
  let trimmed := trim filename
  if trimmed.length = 0 then false
  else
    let sanitized := sanitizeMaterializedFilename trimmed
    !isUnsafeMaterializedFilename sanitized && sanitized == trimmed

/-- `z.int().nonnegative()` and the texts of a staged object. -/
def RequestUpload.isValid (upload : RequestUpload) : Bool :=
  upload.objectKey != "" && decide (upload.byteLength ≤ 2 ^ 53 - 1) &&
    upload.checksum.algorithm == "sha256" && upload.checksum.value != ""

/-- `uploadSessionRequestSchema`: the body as the route reads it, `none` for an invalid one. -/
def uploadSessionRequestSchema (body : UploadSessionRequest) : Option UploadSessionRequest :=
  let filename := trim body.source.filename
  if body.serviceNamespaceId != "" && body.tenantId != some "" && body.assetId != some "" &&
      body.assetOwner != "" && filename != "" && isSafeSourceFilename filename &&
      body.source.contentType != "" && body.upload.isValid then
    some { body with source := ⟨filename, body.source.contentType⟩ }
  else none

/-- `uploadCompletionRequestSchema`. -/
def uploadCompletionRequestSchema (body : UploadCompletionRequest) :
    Option UploadCompletionRequest :=
  if body.stagedObject.isValid then some body else none

/-- The hash of the request that creates the session of a call. -/
def UploadFileCall.createHash (rt : Runtime) (call : UploadFileCall) : Option String :=
  (uploadSessionRequestSchema call.create).map (normalizeRequestHash rt)

/-- The hash of the request that completes the session of a call. -/
def UploadFileCall.completeHash (rt : Runtime) (call : UploadFileCall) : Option String :=
  (uploadCompletionRequestSchema call.complete).map (normalizeCompletionRequestHash rt)

/-! ### The texts that are hashed -/

/-- The text of which `normalizeRequestHash` is the digest. -/
def requestText (rt : Runtime) (request : UploadSessionRequest) : String :=
  stringify rt
    (.object
      [("serviceNamespaceId", .string request.serviceNamespaceId),
        ("tenantId", nullable request.tenantId), ("assetId", nullable request.assetId),
        ("assetOwner", .string request.assetOwner),
        ("source",
          .object
            [("filename", .string request.source.filename),
              ("contentType", .string request.source.contentType)]),
        ("upload", request.upload.toJson)])

theorem normalizeRequestHash_eq (rt : Runtime) (request : UploadSessionRequest) :
    normalizeRequestHash rt request = rt.sha256Hex (utf8Bytes (requestText rt request)) := rfl

/-- **The text of a request shows its object key.** -/
theorem requestText_objectKey {rt : Runtime} {request : UploadSessionRequest} {objectKey : String}
    (h : requestText rt { request with upload := { request.upload with objectKey } } =
      requestText rt request) : objectKey = request.upload.objectKey := by
  -- the two texts are the same around the object key
  simp only [requestText, RequestUpload.toJson, stringify, stringifyEntries,
    String.intercalate_cons_cons, String.intercalate_singleton, String.append_assoc,
    ← String.toList_inj, String.toList_append, List.append_cancel_left_eq] at h
  exact (quote_append_inj h).1

/-! ### Two calls with the same input -/

section SameInput

variable {rt : Runtime} {uuids uuids' : GeneratedUuids} {input : UploadFileInput}
  {first second : UploadFileCall}

/-- **A given object key**: with a given idempotency key too, a call sends what every other
call with the same input sends; and so does one that generates the same UUID for the object. -/
theorem uploadFile_eq_of_objectKey (hkey : input.idempotencyKey.isSome = true)
    (hobject : input.objectKey.isSome = true ∨ uuids.objectUuid = uuids'.objectUuid) :
    uploadFile rt uuids input = uploadFile rt uuids' input := by
  obtain ⟨base, hbase⟩ := Option.isSome_iff_exists.mp hkey
  rcases hobject with hobject | hobject
  · obtain ⟨objectKey, hobject⟩ := Option.isSome_iff_exists.mp hobject
    simp only [uploadFile, hbase, hobject, Option.getD_some, getUploadIdempotencyKeys]
  · simp only [uploadFile, hbase, hobject, Option.getD_some, getUploadIdempotencyKeys]

/-- **A generated object key** is another one for another UUID. -/
theorem getDefaultObjectKey_inj {filename serviceNamespaceId : String} {tenantId : Option String}
    {uuid uuid' : String}
    (h : getDefaultObjectKey filename serviceNamespaceId tenantId uuid =
      getDefaultObjectKey filename serviceNamespaceId tenantId uuid') : uuid = uuid' :=
  (String.append_left_inj _).mp ((String.append_right_inj _).mp h)

/-- Two calls with the same input send the same but for the object key, which they generate if
it is not given. -/
theorem uploadFile_same (hkey : input.idempotencyKey.isSome = true)
    (hfirst : uploadFile rt uuids input = .ok first)
    (hsecond : uploadFile rt uuids' input = .ok second) :
    second.keys = first.keys ∧
      second.complete.stagedObject = second.create.upload ∧
      first.complete.stagedObject = first.create.upload ∧
      second.create = { first.create with
        upload := { first.create.upload with objectKey := second.create.upload.objectKey } } ∧
      (input.objectKey = none → second.create.upload.objectKey = first.create.upload.objectKey →
        uuids.objectUuid = uuids'.objectUuid) := by
  obtain ⟨base, hbase⟩ := Option.isSome_iff_exists.mp hkey
  unfold uploadFile at hfirst hsecond
  split at hfirst
  · cases hfirst
  · cases hfirst
  · rename_i filename hne hfilename
    rw [hfilename] at hsecond
    obtain rfl := Except.ok.inj hfirst
    split at hsecond
    · cases hsecond
    · cases hsecond
    · rename_i hother
      obtain rfl := Option.some.inj hother
      obtain rfl := Except.ok.inj hsecond
      refine ⟨by rw [hbase]; rfl, rfl, rfl, rfl, fun hobject h => ?_⟩
      dsimp only at h
      rw [hobject] at h
      exact (getDefaultObjectKey_inj h).symm

end SameInput

end Cdngine
