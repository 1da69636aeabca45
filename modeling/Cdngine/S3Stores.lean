import Cdngine.Observed
import Cdngine.StorageLayout
import Cdngine.UploadSessionRoutes
import Cdngine.UrlPaths
import Mathlib.Data.List.TakeWhile

/-!
# The S3-Compatible Stores

The staging store and the source repository over an S3 client. Both build their object keys on a
normalized target. A snapshot copies a staged object to the source target, and its URI names the
copy; the keys of a request, a copy source, a URI and a staging reference are texts that another
party reads back.

Requests and file operations are observed, and the client answers every request of a call as it
likes. `new URL` is the platform's, up to the path.

## Main results

* `normalizeReference_eq_ok_iff`: the buckets and keys that a reference gives back.
* `events_snapshotFromPath`, `snapshotFromPath_ok`: what a snapshot sends, and what it returns.
* `sentRequests_restoreToPath`: a restore reads the object of its snapshot.
-/

namespace Cdngine

open PercentEncoding UrlPaths

/-! ### Requests -/

/-- The commands that the stores send. -/
inductive S3Request
  | headObject (bucket key : String)
  | copyObject (bucket copySource key : String)
  | listObjectsV2 (bucket keyPrefix : String) (continuationToken : Option String)
  | getObject (bucket key : String)
  | deleteObject (bucket key : String)
  deriving DecidableEq, Repr

/-- An object of a listing. -/
structure S3ListedObject where
  key : Option String
  lastModified : Option Instant
  deriving DecidableEq, Repr

/-- The fields of the outputs that the stores read. -/
structure S3Response where
  contentLength : Option Int := none
  metadata : List (String × String) := []
  contents : Option (List S3ListedObject) := none
  isTruncated : Bool := false
  nextContinuationToken : Option String := none
  body : Option (List UInt8) := none
  deriving DecidableEq, Repr

/-- What a store does to its surroundings. -/
inductive S3Effect
  | send (request : S3Request)
  | mkdir (path : String)
  | writeFile (path : String) (bytes : List UInt8)
  deriving DecidableEq, Repr

/-- The surroundings of a call: the answer to the `i`th request, and the files. -/
structure S3Environment where
  answer : Nat → S3Request → Except RegistryError S3Response
  dirname : String → String
  mkdir : String → Except RegistryError Unit
  writeFile : String → List UInt8 → Except RegistryError Unit

abbrev S3Call (α : Type) := Observed S3Effect RegistryError α

def S3Environment.send (env : S3Environment) (i : Nat) (request : S3Request) :
    S3Call S3Response := do
  Observed.emit (.send request)
  Observed.ofExcept (env.answer i request)

@[simp] theorem S3Environment.events_send (env : S3Environment) (i : Nat) (request : S3Request) :
    (env.send i request).events = [.send request] := by
  rw [S3Environment.send, Observed.events_emit_bind]
  rfl

@[simp] theorem S3Environment.result_send (env : S3Environment) (i : Nat) (request : S3Request) :
    (env.send i request).result = env.answer i request := rfl

/-- A lower-case letter for the texts that errors are searched for; the Kelvin sign is a letter
of theirs too. -/
def lowerLetter (c : Char) : Char := if c.toNat = 0x212A then 'k' else c.toLower

def isMissingObjectError : RegistryError → Bool
  | .thrown name message =>
      let lowered := message.toList.map lowerLetter
      name == "NotFound" || name == "NoSuchKey" || decide ("not found".toList <:+: lowered) ||
        decide ("no such key".toList <:+: lowered)
  | _ => false

/-! ### Keys and references -/

/-- The keys of the storage layout, with errors as the stores throw them. -/
def qualifiedObjectKey (target : NormalizedStorageRoleTarget) (objectKey : String) :
    Except RegistryError String :=
  (buildQualifiedObjectKey target objectKey).mapError RegistryError.plain

def encodeCopySource (bucket key : String) : String := bucket ++ "/" ++ key

def buildS3Uri (bucket key : String) : String := "s3://" ++ bucket ++ "/" ++ key

/-- The characters that a dot of a pattern does not match. -/
def isLineTerminator (c : Char) : Bool :=
  c == '\n' || c == '\r' || c.toNat == 0x2028 || c.toNat == 0x2029

/-- The groups of the pattern `^scheme:\/\/([^/]+)\/(.+)$`. -/
def matchBucketKey (scheme uri : String) : Option (String × String) :=
  if (scheme ++ "://").toList <+: uri.toList then
    let rest := uri.toList.drop (scheme ++ "://").toList.length
    let bucket := rest.takeWhile (· ≠ '/')
    let key := rest.drop (bucket.length + 1)
    if bucket = [] ∨ key = [] ∨ key.any isLineTerminator then none
    else some (String.ofList bucket, String.ofList key)
  else none

/-- A matched reference with its key normalized. -/
def normalizeReference (message : String) :
    Option (String × String) → Except RegistryError (String × String)
  | none => .error (.plain message)
  | some (bucket, key) => do
      let key ← (normalizeRelativeObjectKey key).mapError RegistryError.plain
      return (bucket, key)

def parseS3Uri (uri : String) : Except RegistryError (String × String) :=
  normalizeReference
    ("S3 source repository evidence must use s3://bucket/key URIs. Received " ++ quoted uri ++ ".")
    (matchBucketKey "s3" uri)

def parseStagingReference (reference : String) : Except RegistryError (String × String) :=
  normalizeReference
    "Object-store source repository snapshots require staging:// bucket references."
    (matchBucketKey "staging" reference)

/-! ### The staging store -/

/-- The characters that `encodeURIComponent` keeps. -/
def isUriUnreserved (c : Char) : Bool :=
  c.isAlphanum || ['-', '_', '.', '!', '~', '*', '\'', '(', ')'].contains c

def encodeURIComponent (cs : List Char) : List Char := encode isUriUnreserved cs

/-- A text without one slash at its end. -/
def withoutTrailingSlash (cs : List Char) : List Char :=
  if cs.getLast? = some '/' then cs.dropLast else cs

/-- The upload URL of a key; `parseUrl` is the constructor of the platform's `URL`. -/
def buildTusUploadUrl (parseUrl : String → Option Url) (baseUrl key : String) :
    Except RegistryError Url :=
  let normalizedBase := if baseUrl.toList.getLast? = some '/' then baseUrl else baseUrl ++ "/"
  match parseUrl normalizedBase with
  | none => .error (.thrown "TypeError" "Invalid URL")
  | some url =>
      let encodedPath := ['/'].intercalate ((key.toList.splitOn '/').map encodeURIComponent)
      .ok (url.setPathname (withoutTrailingSlash url.pathname ++ '/' :: encodedPath))

structure S3CompatibleStagingBlobStore where
  target : NormalizedStorageRoleTarget
  uploadBaseUrl : String
  deriving DecidableEq, Repr

namespace S3CompatibleStagingBlobStore

variable (store : S3CompatibleStagingBlobStore)

def createUploadTarget (parseUrl : String → Option Url) (input : CreateUploadTargetInput) :
    Except RegistryError CreateUploadTargetResult := do
  let qualifiedKey ← qualifiedObjectKey store.target input.objectKey
  let url ← buildTusUploadUrl parseUrl store.uploadBaseUrl qualifiedKey
  return { method := "PATCH", protocol := "tus", url := url.href, expiresAt := input.expiresAt }

def toStagedObjectDescriptor (key : String) (output : S3Response) : StagedObjectDescriptor where
  bucket := store.target.bucket
  key := key
  byteLength := output.contentLength.getD 0
  checksum := (present (output.metadata.lookup "cdngine-checksum-sha256")).map fun value =>
    ⟨"sha256", value⟩

def headResolvedObject (env : S3Environment) (qualifiedKey : String) :
    S3Call (Option StagedObjectDescriptor) := do
  let request := S3Request.headObject store.target.bucket qualifiedKey
  Observed.emit (.send request)
  Observed.ofExcept (match env.answer 0 request with
    | .ok output => .ok (some (store.toStagedObjectDescriptor qualifiedKey output))
    | .error error => if isMissingObjectError error then .ok none else .error error)

def headObject (env : S3Environment) (objectKey : String) :
    S3Call (Option StagedObjectDescriptor) := do
  let qualifiedKey ← Observed.ofExcept (qualifiedObjectKey store.target objectKey)
  store.headResolvedObject env qualifiedKey

def deleteObject (env : S3Environment) (objectKey : String) : S3Call Unit := do
  let qualifiedKey ← Observed.ofExcept (qualifiedObjectKey store.target objectKey)
  let _ ← env.send 0 (.deleteObject store.target.bucket qualifiedKey)
  return ()

end S3CompatibleStagingBlobStore

/-! ### The source repository -/

structure S3CompatibleSourceRepository where
  ingestTarget : NormalizedStorageRoleTarget
  sourceTarget : NormalizedStorageRoleTarget
  deriving DecidableEq, Repr

structure SnapshotSummary where
  canonicalSourceId : String
  snapshotId : String
  createdAt : Instant
  deriving DecidableEq, Repr

structure RestoreSnapshotInput where
  canonicalSourceId : String
  destinationPath : String
  snapshot : Option SnapshotResult := none

/-- The URI of a reconstruction handle, when it is an opaque one. -/
def opaqueHandleUri (handle : JsValue) : Except RegistryError (Option String) :=
  match handle with
  | .object entries =>
      match entries.lookup "kind", entries.lookup "value" with
      | some (.string "opaque"), some (.string value) =>
          .ok (if "s3://".toList <+: value.toList then some value else none)
      | some (.string "opaque"), none =>
          .error (.thrown "TypeError" "Cannot read properties of undefined (reading 'startsWith')")
      | some (.string "opaque"), some .undefined =>
          .error (.thrown "TypeError" "Cannot read properties of undefined (reading 'startsWith')")
      | some (.string "opaque"), some .null =>
          .error (.thrown "TypeError" "Cannot read properties of null (reading 'startsWith')")
      | some (.string "opaque"), some _ =>
          .error (.thrown "TypeError" "candidate.value.startsWith is not a function")
      | _, _ => .ok none
  | .null => .error (.thrown "TypeError" "Cannot read properties of null (reading 'kind')")
  | .undefined =>
      .error (.thrown "TypeError" "Cannot read properties of undefined (reading 'kind')")
  | _ => .ok none

/-- The URI of the first opaque handle. -/
def findOpaqueHandle : List JsValue → Except RegistryError (Option String)
  | [] => .ok none
  | handle :: handles => do
      match ← opaqueHandleUri handle with
      | some value => return some value
      | none => findOpaqueHandle handles

def resolveSnapshotObject (input : RestoreSnapshotInput) :
    Except RegistryError (String × String) := do
  let handles := (input.snapshot.bind SnapshotResult.reconstructionHandles).getD []
  let handle ← findOpaqueHandle handles
  parseS3Uri ((handle <|> input.snapshot.map SnapshotResult.snapshotId).getD
    input.canonicalSourceId)

namespace S3CompatibleSourceRepository

variable (repository : S3CompatibleSourceRepository) (env : S3Environment)

def headRequiredObject (i : Nat) (bucket key : String) : S3Call S3Response := do
  let request := S3Request.headObject bucket key
  Observed.emit (.send request)
  Observed.ofExcept ((env.answer i request).mapError fun error =>
    if isMissingObjectError error then
      .plain ("Object-store source repository could not find required object " ++
        quoted (bucket ++ "/" ++ key) ++ ".")
    else error)

/-- The staged object of a reference, when it lies under the ingest target. -/
def stagedObject (localPath : String) : Except RegistryError (String × String) :=
  match parseStagingReference localPath with
  | .error error => .error error
  | .ok (bucket, key) =>
      let target := repository.ingestTarget
      if bucket ≠ target.bucket then
        .error (.plain ("Object-store source repository expected staged bucket " ++
          quoted target.bucket ++ " but received " ++ quoted bucket ++ "."))
      else if ¬ LiesUnder target.keyPrefix key then
        .error (.plain ("Object-store source repository expected staged key under " ++
          quoted (target.keyPrefix ++ "/") ++ " but received " ++ quoted key ++ "."))
      else .ok (bucket, key)

/-- The key of the copy that a snapshot makes. -/
def sourceKey (input : SnapshotFromPathInput) : Except RegistryError String :=
  qualifiedObjectKey repository.sourceTarget (input.assetVersionId ++ "/" ++ input.sourceFilename)

/-- The snapshot that a copy is recorded as. -/
def snapshotResult (input : SnapshotFromPathInput) (sourceKey : String)
    (stagedHead sourceHead : S3Response) : SnapshotResult :=
  let canonicalUri := buildS3Uri repository.sourceTarget.bucket sourceKey
  let metadataChecksum := sourceHead.metadata.lookup "cdngine-checksum-sha256" <|>
    stagedHead.metadata.lookup "cdngine-checksum-sha256"
  let digests :=
    if input.sourceDigests ≠ [] then input.sourceDigests
    else (present metadataChecksum).toList.map fun value => ⟨"sha256", value⟩
  { canonicalSourceId := canonicalUri
    digests := digests.map fun digest => digest.toJson.toJs
    logicalPath := sourceKey
    repositoryEngine := "object-store"
    snapshotId := canonicalUri
    logicalByteLength :=
      if input.logicalByteLength ≠ 0 then some input.logicalByteLength else none
    storedByteLength :=
      some ((sourceHead.contentLength <|> stagedHead.contentLength).getD 0)
    reconstructionHandles :=
      some [.object [("kind", .string "opaque"), ("value", .string canonicalUri)]]
    substrateHints :=
      some
        [("ingestTarget", .string repository.ingestTarget.targetKey),
          ("repositoryTool", .string "s3-compatible-object-store"),
          ("sourceTarget", .string repository.sourceTarget.targetKey)] }

def snapshotFromPath (input : SnapshotFromPathInput) : S3Call SnapshotResult := do
  let staged ← Observed.ofExcept (repository.stagedObject input.localPath)
  let stagedHead ← headRequiredObject env 0 staged.1 staged.2
  let sourceKey ← Observed.ofExcept (repository.sourceKey input)
  let _ ← env.send 1 (.copyObject repository.sourceTarget.bucket
    (encodeCopySource staged.1 staged.2) sourceKey)
  let sourceHead ← headRequiredObject env 2 repository.sourceTarget.bucket sourceKey
  return repository.snapshotResult input sourceKey stagedHead sourceHead

/-- The summaries of listed objects; an object without a key is passed over. -/
def listedSnapshots (contents : List S3ListedObject) : List SnapshotSummary :=
  contents.filterMap fun object =>
    (present object.key).map fun key =>
      let canonicalUri := buildS3Uri repository.sourceTarget.bucket key
      { canonicalSourceId := canonicalUri
        createdAt := object.lastModified.getD 0
        snapshotId := canonicalUri }

/-- The loop over the pages, from the `i`th one on; it is cut off after `fuel` pages. -/
def listPages (keyPrefix : String) : Nat → Nat → Option String →
    S3Call (Option (List SnapshotSummary))
  | 0, _, _ => pure none
  | fuel + 1, i, continuationToken => do
      let result ← env.send i
        (.listObjectsV2 repository.sourceTarget.bucket keyPrefix (present continuationToken))
      let snapshots := repository.listedSnapshots (result.contents.getD [])
      match (if result.isTruncated then present result.nextContinuationToken else none) with
      | none => return some snapshots
      | some token => do
          let rest ← listPages keyPrefix fuel (i + 1) (some token)
          return rest.map fun later => snapshots ++ later

def listSnapshots (fuel : Nat) (assetVersionId : String) :
    S3Call (Option (List SnapshotSummary)) := do
  let keyPrefix ← Observed.ofExcept
    (qualifiedObjectKey repository.sourceTarget (assetVersionId ++ "/"))
  repository.listPages env keyPrefix fuel 0 none

/-- Restoring does not depend on the targets of the repository. -/
def restoreToPath (input : RestoreSnapshotInput) : S3Call String := do
  let source ← Observed.ofExcept (resolveSnapshotObject input)
  let result ← env.send 0 (.getObject source.1 source.2)
  Observed.emit (.mkdir (env.dirname input.destinationPath))
  Observed.ofExcept (env.mkdir (env.dirname input.destinationPath))
  let bytes := result.body.getD []
  Observed.emit (.writeFile input.destinationPath bytes)
  Observed.ofExcept (env.writeFile input.destinationPath bytes)
  return input.destinationPath

end S3CompatibleSourceRepository

/-! ### References that are read back -/

/-- A reference to an object of a bucket. -/
def bucketReference (scheme bucket key : String) : String :=
  scheme ++ "://" ++ bucket ++ "/" ++ key

theorem takeWhile_slash {bucket : List Char} (h : '/' ∉ bucket) (key : List Char) :
    (bucket ++ '/' :: key).takeWhile (fun c => decide (c ≠ '/')) = bucket := by
  rw [List.takeWhile_append_of_pos]
  · rw [List.takeWhile_cons_of_neg (by simp), List.append_nil]
  · intro c hc
    exact decide_eq_true fun heq => h (heq ▸ hc)

theorem normalizeRelativeObjectKey_eq_ok_iff {objectKey key : String} :
    normalizeRelativeObjectKey objectKey = .ok key ↔
      key = stripSlashes (trim objectKey) ∧ key ≠ "" := by
  have hlength : (stripSlashes (trim objectKey)).length = 0 ↔
      stripSlashes (trim objectKey) = "" := by
    rw [← String.length_toList, List.length_eq_zero_iff, String.toList_eq_nil_iff]
  simp only [normalizeRelativeObjectKey, hlength]
  split
  · rename_i hempty
    rw [hempty]
    exact iff_of_false nofun fun h => h.2 h.1
  · rename_i hne
    rw [Except.ok.injEq]
    exact ⟨fun h => ⟨h.symm, h ▸ hne⟩, fun h => h.1.symm⟩

/-- The bucket of a matched reference is not empty, and holds no slash. -/
theorem matchBucketKey_bucket {scheme uri bucket key : String}
    (h : matchBucketKey scheme uri = some (bucket, key)) : bucket ≠ "" ∧ '/' ∉ bucket.toList := by
  unfold matchBucketKey at h
  split at h
  · simp only at h
    split at h
    · cases h
    · rename_i hmatch
      obtain ⟨rfl, -⟩ := Prod.mk.inj (Option.some.inj h)
      refine ⟨fun hempty => hmatch (.inl ?_), fun hslash => ?_⟩
      · rw [← String.toList_inj, String.toList_ofList] at hempty
        exact hempty
      · rw [String.toList_ofList] at hslash
        have hne := List.mem_takeWhile_imp hslash
        simp at hne
  · cases h

/-- The groups of a reference to a bucket without slashes. -/
theorem matchBucketKey_reference {bucket : String} (hne : bucket ≠ "")
    (hslash : '/' ∉ bucket.toList) (scheme key : String) :
    matchBucketKey scheme (bucketReference scheme bucket key) =
      if key = "" ∨ key.toList.any isLineTerminator then none else some (bucket, key) := by
  have htext : (bucketReference scheme bucket key).toList =
      (scheme ++ "://").toList ++ (bucket.toList ++ '/' :: key.toList) := by
    simp [bucketReference]
  have hkey : (bucket.toList ++ '/' :: key.toList).drop (bucket.toList.length + 1) =
      key.toList := by
    rw [List.append_cons]
    exact List.drop_left' (by simp)
  have hbucket : bucket.toList ≠ [] := mt String.toList_eq_nil_iff.mp hne
  rw [matchBucketKey, htext, if_pos (List.prefix_append _ _), List.drop_left]
  simp only [takeWhile_slash hslash, hkey, hbucket, false_or, String.toList_eq_nil_iff,
    String.ofList_toList]

/-- A bucket and a key **are given back** by a reference. -/
structure GivenBack (bucket key : String) : Prop where
  nonempty : bucket ≠ ""
  slashFree : '/' ∉ bucket.toList
  normalized : normalizeRelativeObjectKey key = .ok key
  lines : ∀ c ∈ key.toList, isLineTerminator c = false

/-- **A reference gives its bucket and its key back exactly when both survive it.** -/
theorem normalizeReference_eq_ok_iff {message scheme bucket key : String} :
    normalizeReference message (matchBucketKey scheme (bucketReference scheme bucket key)) =
      .ok (bucket, key) ↔ GivenBack bucket key := by
  constructor
  · intro h
    cases hmatch : matchBucketKey scheme (bucketReference scheme bucket key) with
    | none =>
        rw [hmatch] at h
        cases h
    | some groups =>
        obtain ⟨matchedBucket, matchedKey⟩ := groups
        rw [hmatch] at h
        obtain ⟨relative, hrelative, hpair⟩ := bind_eq_ok.mp h
        obtain ⟨rfl, rfl⟩ := Prod.mk.inj (Except.ok.inj hpair)
        obtain ⟨hne, hslash⟩ := matchBucketKey_bucket hmatch
        rw [matchBucketKey_reference hne hslash] at hmatch
        split at hmatch
        · cases hmatch
        · rename_i hlines
          obtain ⟨-, rfl⟩ := Prod.mk.inj (Option.some.inj hmatch)
          refine ⟨hne, hslash, ?_, ?_⟩
          · cases hnormal : normalizeRelativeObjectKey relative with
            | error message =>
                rw [hnormal] at hrelative
                cases hrelative
            | ok normal =>
                rw [hnormal] at hrelative
                exact congrArg Except.ok (Except.ok.inj hrelative)
          · simpa using (not_or.mp hlines).2
  · intro h
    have hkey := (normalizeRelativeObjectKey_eq_ok_iff.mp h.normalized).2
    have hlines : ¬ (key = "" ∨ key.toList.any isLineTerminator = true) := by
      rintro (hempty | hany)
      · exact hkey hempty
      · obtain ⟨c, hc, hline⟩ := List.any_eq_true.mp hany
        rw [h.lines c hc] at hline
        cases hline
    rw [matchBucketKey_reference h.nonempty h.slashFree, if_neg hlines, normalizeReference,
      h.normalized]
    rfl

/-! ### What the repository sends -/

namespace S3CompatibleSourceRepository

variable {repository : S3CompatibleSourceRepository}

/-- A staged object is that of its reference. -/
theorem parse_of_stagedObject {localPath : String} {staged : String × String}
    (h : repository.stagedObject localPath = .ok staged) :
    parseStagingReference localPath = .ok staged := by
  unfold stagedObject at h
  split at h
  · cases h
  · rename_i bucket key hparse
    simp only at h
    split at h
    · cases h
    · split at h
      · cases h
      · exact hparse.trans h

@[simp] theorem events_headRequiredObject (env : S3Environment) (i : Nat) (bucket key : String) :
    (headRequiredObject env i bucket key).events = [.send (.headObject bucket key)] := by
  rw [headRequiredObject, Observed.events_emit_bind]
  rfl

theorem result_headRequiredObject {env : S3Environment} {i : Nat} {bucket key : String}
    {output : S3Response} (h : env.answer i (.headObject bucket key) = .ok output) :
    (headRequiredObject env i bucket key).result = .ok output := by
  rw [headRequiredObject, Observed.result_emit_bind, Observed.result_ofExcept, h]
  rfl

/-- The requests of a snapshot of a staged object. -/
def snapshotRequests (repository : S3CompatibleSourceRepository) (staged : String × String)
    (sourceKey : String) : List S3Effect :=
  [.send (.headObject staged.1 staged.2),
    .send (.copyObject repository.sourceTarget.bucket (encodeCopySource staged.1 staged.2)
      sourceKey),
    .send (.headObject repository.sourceTarget.bucket sourceKey)]

section Snapshot

variable {input : SnapshotFromPathInput} {staged : String × String} {sourceKey : String}

theorem snapshotFromPath_error {error : RegistryError}
    (h : repository.stagedObject input.localPath = .error error) (env : S3Environment) :
    (repository.snapshotFromPath env input).events = [] := by
  rw [snapshotFromPath, h]
  exact Observed.events_ofExcept_error

/-- **A snapshot sends its three requests in order**, until one of them fails. -/
theorem events_snapshotFromPath (hstaged : repository.stagedObject input.localPath = .ok staged)
    (hkey : repository.sourceKey input = .ok sourceKey) (env : S3Environment) :
    (repository.snapshotFromPath env input).events <+:
      repository.snapshotRequests staged sourceKey := by
  rw [snapshotFromPath, hstaged, Observed.events_ofExcept_ok, snapshotRequests]
  cases hhead : (headRequiredObject env 0 staged.1 staged.2).result with
  | error error =>
      rw [Observed.events_bind_error hhead, events_headRequiredObject]
      exact List.prefix_append _ _
  | ok stagedHead =>
      rw [Observed.events_bind hhead, events_headRequiredObject, hkey,
        Observed.events_ofExcept_ok]
      rw [List.singleton_append, List.cons_prefix_cons]
      refine ⟨rfl, ?_⟩
      cases hcopy : (env.send 1 (.copyObject repository.sourceTarget.bucket
          (encodeCopySource staged.1 staged.2) sourceKey)).result with
      | error error =>
          rw [Observed.events_bind_error hcopy, S3Environment.events_send]
          exact List.prefix_append _ _
      | ok copied =>
          rw [Observed.events_bind hcopy, S3Environment.events_send]
          rw [List.singleton_append, List.cons_prefix_cons]
          refine ⟨rfl, ?_⟩
          exact (Observed.events_bind_ofExcept.trans
            (events_headRequiredObject env 2 _ sourceKey)) ▸ List.prefix_refl _

/-- **A snapshot whose requests are answered** sends all of them, and returns the copy. -/
theorem snapshotFromPath_ok (hstaged : repository.stagedObject input.localPath = .ok staged)
    (hkey : repository.sourceKey input = .ok sourceKey) {env : S3Environment}
    (hanswers : ∀ i request, ∃ output, env.answer i request = .ok output) :
    (repository.snapshotFromPath env input).events =
        repository.snapshotRequests staged sourceKey ∧
      ∃ stagedHead sourceHead, (repository.snapshotFromPath env input).result =
        .ok (repository.snapshotResult input sourceKey stagedHead sourceHead) := by
  obtain ⟨stagedHead, hstagedHead⟩ := hanswers 0 (.headObject staged.1 staged.2)
  obtain ⟨copied, hcopied⟩ := hanswers 1 (.copyObject repository.sourceTarget.bucket
    (encodeCopySource staged.1 staged.2) sourceKey)
  obtain ⟨sourceHead, hsourceHead⟩ := hanswers 2
    (.headObject repository.sourceTarget.bucket sourceKey)
  have hhead := result_headRequiredObject hstagedHead
  have hlast := result_headRequiredObject hsourceHead
  constructor
  · rw [snapshotFromPath, hstaged, Observed.events_ofExcept_ok, Observed.events_bind hhead,
      events_headRequiredObject, hkey, Observed.events_ofExcept_ok,
      Observed.events_bind ((S3Environment.result_send env 1 _).trans hcopied),
      S3Environment.events_send, snapshotRequests]
    exact congrArg (_ :: _ :: ·) (Observed.events_bind_ofExcept.trans
      (events_headRequiredObject env 2 _ sourceKey))
  · refine ⟨stagedHead, sourceHead, ?_⟩
    rw [snapshotFromPath, hstaged, Observed.result_bind, Observed.result_ofExcept]
    change ((headRequiredObject env 0 staged.1 staged.2) >>= _).result = _
    rw [Observed.result_bind, hhead, hkey]
    change ((env.send 1 _) >>= _).result = _
    rw [Observed.result_bind, S3Environment.result_send, hcopied]
    change ((headRequiredObject env 2 _ sourceKey) >>= _).result = _
    rw [Observed.result_bind, hlast]
    rfl

/-- A snapshot that is returned records the copy. -/
theorem snapshotFromPath_result {env : S3Environment} {snapshot : SnapshotResult}
    (h : (repository.snapshotFromPath env input).result = .ok snapshot) :
    ∃ sourceKey stagedHead sourceHead, repository.sourceKey input = .ok sourceKey ∧
      snapshot = repository.snapshotResult input sourceKey stagedHead sourceHead := by
  obtain ⟨staged, -, h⟩ := Observed.exists_of_result_bind h
  obtain ⟨stagedHead, -, h⟩ := Observed.exists_of_result_bind h
  obtain ⟨sourceKey, hkey, h⟩ := Observed.exists_of_result_bind h
  obtain ⟨copied, -, h⟩ := Observed.exists_of_result_bind h
  obtain ⟨sourceHead, -, h⟩ := Observed.exists_of_result_bind h
  rw [Observed.result_ofExcept] at hkey
  exact ⟨sourceKey, stagedHead, sourceHead, hkey, (Except.ok.inj h).symm⟩

end Snapshot

/-! ### What a restore reads -/

/-- The requests among the effects of a call. -/
def sentRequests (events : List S3Effect) : List S3Request :=
  events.filterMap fun
    | .send request => some request
    | _ => none

/-- A restore of a snapshot reads the object of its URI. -/
theorem resolveSnapshotObject_snapshotResult (input : SnapshotFromPathInput)
    (sourceKey destinationPath : String) (stagedHead sourceHead : S3Response) :
    resolveSnapshotObject
        { canonicalSourceId := buildS3Uri repository.sourceTarget.bucket sourceKey
          destinationPath
          snapshot := some (repository.snapshotResult input sourceKey stagedHead sourceHead) } =
      parseS3Uri (buildS3Uri repository.sourceTarget.bucket sourceKey) := by
  have hstart : "s3://".toList <+:
      (buildS3Uri repository.sourceTarget.bucket sourceKey).toList := by
    rw [buildS3Uri, String.append_assoc, String.append_assoc, String.toList_append]
    exact List.prefix_append _ _
  have hhandle : opaqueHandleUri
      (.object [("kind", .string "opaque"),
        ("value", .string (buildS3Uri repository.sourceTarget.bucket sourceKey))]) =
      .ok (some (buildS3Uri repository.sourceTarget.bucket sourceKey)) :=
    congrArg Except.ok (if_pos hstart)
  simp only [resolveSnapshotObject, snapshotResult, Option.bind_some, Option.getD_some,
    findOpaqueHandle, hhandle]
  rfl

theorem restoreToPath_error {input : RestoreSnapshotInput} {error : RegistryError}
    (h : resolveSnapshotObject input = .error error) (env : S3Environment) :
    (restoreToPath env input).events = [] := by
  rw [restoreToPath, h]
  exact Observed.events_ofExcept_error

/-- **A restore reads one object**, that of its snapshot. -/
theorem sentRequests_restoreToPath {input : RestoreSnapshotInput} {source : String × String}
    (h : resolveSnapshotObject input = .ok source) (env : S3Environment) :
    sentRequests (restoreToPath env input).events = [.getObject source.1 source.2] := by
  rw [restoreToPath, h, Observed.events_ofExcept_ok]
  cases hget : env.answer 0 (.getObject source.1 source.2) with
  | error error =>
      rw [Observed.events_bind_error ((S3Environment.result_send env 0 _).trans hget)]
      rfl
  | ok output =>
      rw [Observed.events_bind ((S3Environment.result_send env 0 _).trans hget),
        S3Environment.events_send, Observed.events_emit_bind]
      cases hmkdir : env.mkdir (env.dirname input.destinationPath) with
      | error error => rfl
      | ok _ =>
          rw [Observed.events_ofExcept_ok, Observed.events_emit_bind]
          exact congrArg (fun events => sentRequests (_ :: _ :: _ :: events))
            Observed.events_bind_ofExcept

end S3CompatibleSourceRepository

end Cdngine
