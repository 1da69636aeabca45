import Cdngine.UploadSession

/-!
# Public Reads and Authorizations

The store behind the public read endpoints, as far as it issues and exchanges
authorizations: `authorizeSource` and `authorizeDelivery` write a grant or an audit row
with an idempotency record in one transaction and return a URL; `consumeDownloadLink`
exchanges the token of a one-time URL for the URL behind it.

Both authorizations answer a repeated idempotency key from its record. They are one
definition (`authorize`) over the call, which says for which version it is made, whether
it asks for the source or for a derivative, and under which caller and key.

The write statements of an authorization are data (`AuthorizationStatement`), so that the
same definitions run as one transaction here and statement by statement in
`PublicReadSessions`.

## Main results

* `authorize_cases`: the inversion of an authorization.
* `persist_ok_iff`: when its transaction commits.
-/

open Relational

namespace Cdngine

/-! ### Versions -/

inductive RegistryPublicLifecycleState
  | canonical
  | processing
  | published
  | quarantined
  | purged
  | failedRetryable
  deriving DecidableEq, Repr

/-- The literal of a public lifecycle state. -/
def RegistryPublicLifecycleState.text : RegistryPublicLifecycleState → String
  | canonical => "canonical"
  | processing => "processing"
  | published => "published"
  | quarantined => "quarantined"
  | purged => "purged"
  | failedRetryable => "failed_retryable"

def mapLifecycleState : AssetVersionState → RegistryPublicLifecycleState
  | .canonical => .canonical
  | .published => .published
  | .quarantined => .quarantined
  | .purged => .purged
  | .failedRetryable | .failedValidation => .failedRetryable
  | _ => .processing

structure RegistryCanonicalSourceEvidence where
  canonicalDigestSet : List Json
  canonicalLogicalByteLength : Option Int
  canonicalLogicalPath : String
  canonicalSnapshotId : String
  canonicalSourceId : String
  canonicalStoredByteLength : Option Int
  dedupeMetrics : Option (List (String × Json))
  repositoryEngine : String
  sourceReconstructionHandles : Option (List Json)
  sourceSubstrateHints : Option (List (String × Json))

structure RegistryPublicSource where
  byteLength : Int
  contentType : String
  filename : String

structure RegistryPublicAssetVersionRecord where
  assetId : String
  assetOwner : String
  canonicalSourceEvidence : Option RegistryCanonicalSourceEvidence
  defaultManifestType : Option String
  lifecycleState : RegistryPublicLifecycleState
  serviceNamespaceId : String
  source : RegistryPublicSource
  tenantId : Option String
  versionId : String
  versionNumber : Nat
  workflowState : String

/-- The items of a JSON array. -/
def asJsonArray : Json → Option (List Json)
  | .array items => some items
  | _ => none

/-- The evidence of a version that has all four columns that identify its source. -/
def publicSourceEvidence (version : AssetVersion) : Option RegistryCanonicalSourceEvidence :=
  match present version.canonicalSourceId, present version.canonicalSnapshotId,
    present version.canonicalLogicalPath, present version.repositoryEngine with
  | some canonicalSourceId, some canonicalSnapshotId, some canonicalLogicalPath,
    some repositoryEngine =>
      some
        { canonicalDigestSet := asChecksumArray version.canonicalDigestSet
          canonicalLogicalByteLength := version.canonicalLogicalByteLength
          canonicalLogicalPath, canonicalSnapshotId, canonicalSourceId
          canonicalStoredByteLength := version.canonicalStoredByteLength
          dedupeMetrics :=
            if version.dedupeMetrics.truthy then some ((asJsonRecord version.dedupeMetrics).getD [])
            else none
          repositoryEngine
          sourceReconstructionHandles :=
            if version.sourceReconstructionHandles.truthy then
              some ((asJsonArray version.sourceReconstructionHandles).getD [])
            else none
          sourceSubstrateHints :=
            if version.sourceSubstrateHints.truthy then
              some ((asJsonRecord version.sourceSubstrateHints).getD [])
            else none }
  | _, _, _, _ => none

/-- `getVersion`: a version of an asset with what hangs on it, its first manifest and its
newest run and dispatch. -/
def getVersion (db : Db) (assetId versionId : String) :
    Option RegistryPublicAssetVersionRecord := do
  let version ← (db.version? versionId).filter fun v => v.assetId == assetId
  let asset ← db.asset? version.assetId
  let serviceNamespace ← db.serviceNamespace? asset.serviceNamespaceId
  let manifest := db.assetManifests.rows.find? fun r => r.assetVersionId == versionId
  let run := db.workflowRuns.rows.reverse.find? fun r => r.assetVersionId == versionId
  let dispatch := (db.dispatchesOf versionId).getLast?
  some
    { assetId
      assetOwner := asset.assetOwner
      canonicalSourceEvidence := publicSourceEvidence version
      defaultManifestType := manifest.map (·.manifestType)
      lifecycleState := mapLifecycleState version.lifecycleState
      serviceNamespaceId := serviceNamespace.serviceNamespaceId
      source := ⟨version.sourceByteLength, version.detectedContentType, version.sourceFilename⟩
      tenantId := (asset.tenantScopeId.bind db.tenantScope?).map (·.externalTenantId)
      versionId
      versionNumber := version.versionNumber
      workflowState :=
        ((run.map (·.state.text)).orElse fun _ => dispatch.map (·.dispatchState.text)).getD
          "pending" }

def getRequiredVersion (db : Db) (assetId versionId : String) :
    Except RegistryError RegistryPublicAssetVersionRecord :=
  match getVersion db assetId versionId with
  | some version => .ok version
  | none => .error (.publicAssetVersionNotFound assetId versionId)

def assertVersionPublished (db : Db) (assetId versionId : String) : Except RegistryError Unit := do
  let version ← getRequiredVersion db assetId versionId
  if version.lifecycleState = .published then return ()
  else throw (.publicVersionNotReady assetId versionId version.lifecycleState.text)

/-! ### Authorization calls -/

inductive SourceDisposition
  | attachment
  | inline
  deriving DecidableEq, Repr

def SourceDisposition.text : SourceDisposition → String
  | attachment => "attachment"
  | inline => "inline"

structure RegistryPublicAuthorizationRequest where
  callerScopeKey : String
  idempotencyKey : String
  now : Instant
  oneTime : Bool := false
  deriving DecidableEq, Repr

/-- What an authorization is for: a derivative in a delivery scope, or the original
source. -/
inductive AuthorizationTarget
  | delivery (deliveryScopeId variant : String)
  | source (preferredDisposition : Option SourceDisposition)
  deriving DecidableEq, Repr

/-- The arguments of `authorizeDelivery` and of `authorizeSource`. -/
structure AuthorizationCall where
  assetId : String
  versionId : String
  target : AuthorizationTarget
  request : RegistryPublicAuthorizationRequest
  deriving DecidableEq, Repr

/-- The random ids of an authorization: the token, which is the id of the source grant,
and the id of the audit row. -/
structure AuthorizationIds where
  grantId : String
  auditId : String
  deriving DecidableEq, Repr

def buildDeliveryAuthorizationOperationKey (assetId deliveryScopeId versionId : String) : String :=
  "delivery:authorize:" ++ assetId ++ ":" ++ versionId ++ ":" ++ deliveryScopeId

def buildSourceAuthorizationOperationKey (assetId versionId : String) : String :=
  "source:authorize:" ++ assetId ++ ":" ++ versionId

def hashAuthorizationRequest (rt : Runtime) (value : List (String × JsValue)) : String :=
  rt.sha256Hex (utf8Bytes (stableJson rt (.object value)))

/-- The disposition as the keys and the metadata name it. -/
def dispositionText (preferredDisposition : Option SourceDisposition) : String :=
  (preferredDisposition.map (·.text)).getD "default"

namespace AuthorizationCall

variable (call : AuthorizationCall)

def operationKey : String :=
  match call.target with
  | .delivery deliveryScopeId _ =>
      buildDeliveryAuthorizationOperationKey call.assetId deliveryScopeId call.versionId
  | .source _ => buildSourceAuthorizationOperationKey call.assetId call.versionId

def normalizedOperationKey : String :=
  let uses := if call.request.oneTime then "one-time" else "reusable"
  match call.target with
  | .delivery _ variant => call.operationKey ++ ":" ++ variant ++ ":" ++ uses
  | .source preferredDisposition =>
      call.operationKey ++ ":" ++ dispositionText preferredDisposition ++ ":" ++ uses

/-- The request as it is hashed. -/
def requestFields : List (String × JsValue) :=
  match call.target with
  | .delivery deliveryScopeId variant =>
      [("assetId", .string call.assetId), ("authorizationFamily", .string "delivery"),
        ("deliveryScopeId", .string deliveryScopeId), ("oneTime", .boolean call.request.oneTime),
        ("variant", .string variant), ("versionId", .string call.versionId)]
  | .source preferredDisposition =>
      [("assetId", .string call.assetId), ("authorizationFamily", .string "source"),
        ("oneTime", .boolean call.request.oneTime),
        ("preferredDisposition", .string (dispositionText preferredDisposition)),
        ("versionId", .string call.versionId)]

def normalizedRequestHash (rt : Runtime) : String := hashAuthorizationRequest rt call.requestFields

/-- The key of the idempotency record of an authorization. -/
def recordKey : ApiSurface × String × String × String :=
  (.publicApi, call.request.callerScopeKey, call.operationKey, call.request.idempotencyKey)

end AuthorizationCall

/-! ### Replays -/

def readReplayString (value key : String) : Except RegistryError String :=
  if value.isEmpty then
    .error (.plain ("Authorization idempotency replay is missing " ++ quoted key ++ "."))
  else .ok value

def buildDeliveryAuthorizationReplay :
    Option AuthorizationPayload → Except RegistryError AuthorizationPayload
  | none =>
      .error (.plain "Delivery authorization idempotency record is missing a replay payload.")
  | some record => do
      let assetId ← readReplayString record.assetId "assetId"
      let authorizationMode ← readReplayString record.authorizationMode "authorizationMode"
      let deliveryScopeId ← readReplayString (record.deliveryScopeId.getD "") "deliveryScopeId"
      let resolvedOrigin ← readReplayString record.resolvedOrigin "resolvedOrigin"
      let url ← readReplayString record.url "url"
      let versionId ← readReplayString record.versionId "versionId"
      .ok
        { assetId, authorizationMode, resolvedOrigin, url, versionId
          deliveryScopeId := some deliveryScopeId
          expiresAt := record.expiresAt
          oneTime := record.oneTime
          remainingUses := record.remainingUses }

def buildSourceAuthorizationReplay :
    Option AuthorizationPayload → Except RegistryError AuthorizationPayload
  | none => .error (.plain "Source authorization idempotency record is missing a replay payload.")
  | some record => do
      let assetId ← readReplayString record.assetId "assetId"
      let authorizationMode ← readReplayString record.authorizationMode "authorizationMode"
      let resolvedOrigin ← readReplayString record.resolvedOrigin "resolvedOrigin"
      let url ← readReplayString record.url "url"
      let versionId ← readReplayString record.versionId "versionId"
      .ok
        { assetId, authorizationMode, resolvedOrigin, url, versionId
          expiresAt := record.expiresAt
          oneTime := record.oneTime
          remainingUses := record.remainingUses
          tenantId := record.tenantId }

/-- The authorization that the record of a call's key replays. -/
def AuthorizationCall.buildReplay (call : AuthorizationCall) :
    Option AuthorizationPayload → Except RegistryError AuthorizationPayload :=
  match call.target with
  | .delivery _ _ => buildDeliveryAuthorizationReplay
  | .source _ => buildSourceAuthorizationReplay

/-- `loadDeliveryAuthorizationReplay` and `loadSourceAuthorizationReplay`. -/
def loadAuthorizationReplay (rt : Runtime) (call : AuthorizationCall) (db : Db) :
    Except RegistryError (Option AuthorizationPayload) :=
  match db.idempotencyRecord? call.recordKey with
  | none => .ok none
  | some record =>
      if record.normalizedRequestHash = some (call.normalizedRequestHash rt) then
        (call.buildReplay record.responsePayload).map some
      else .error (.publicReadIdempotencyConflict call.request.idempotencyKey)

/-! ### What an authorization writes -/

/-- The authorization that a call is going to return, with the rows it writes. -/
structure PreparedAuthorization where
  authorization : AuthorizationPayload
  grant : Option SourceAccessGrant
  audit : DeliveryAuthorizationAudit
  record : IdempotencyRecord
  deriving DecidableEq, Repr

/-- The idempotency record of a call. -/
def AuthorizationCall.idempotencyRecord (rt : Runtime) (call : AuthorizationCall)
    (authorization : AuthorizationPayload) : IdempotencyRecord where
  apiSurface := .publicApi
  callerScopeKey := call.request.callerScopeKey
  operationKey := call.operationKey
  idempotencyKey := call.request.idempotencyKey
  normalizedOperationKey := call.normalizedOperationKey
  normalizedRequestHash := some (call.normalizedRequestHash rt)
  responsePayload := some authorization
  isTerminal := true
  completedAt := some call.request.now

/-- The URL of a one-time link. -/
def downloadLink (token : String) : String := "/download-links/" ++ token

/-- When an authorization expires: fifteen minutes after it was requested. -/
def RegistryPublicAuthorizationRequest.expiresAt (request : RegistryPublicAuthorizationRequest) :
    Instant :=
  request.now + 15 * 60000

/-- The path at which the source proxy serves a grant. -/
def proxyPath (assetId versionId grantId : String)
    (preferredDisposition : Option SourceDisposition) : String :=
  "/v1/assets/" ++ assetId ++ "/versions/" ++ versionId ++ "/source/proxy?grantId=" ++ grantId ++
    (preferredDisposition.map fun d => "&disposition=" ++ d.text).getD ""

def prepareSource (rt : Runtime) (ids : AuthorizationIds) (call : AuthorizationCall)
    (preferredDisposition : Option SourceDisposition) (tenantId : Option String) :
    PreparedAuthorization :=
  let path := proxyPath call.assetId call.versionId ids.grantId preferredDisposition
  let authorization : AuthorizationPayload :=
    { assetId := call.assetId
      authorizationMode := "signed-url"
      expiresAt := call.request.expiresAt
      oneTime := call.request.oneTime
      remainingUses := if call.request.oneTime then some 1 else none
      resolvedOrigin := "source-proxy"
      tenantId := present tenantId
      url := if call.request.oneTime then downloadLink ids.grantId else path
      versionId := call.versionId }
  { authorization
    grant := some
      { id := ids.grantId
        assetVersionId := call.versionId
        authorizationMode := .proxyUrl
        resolvedOrigin := .sourceProxy
        actorScopeKey := call.request.callerScopeKey
        proxyPath := some path
        expiresAt := call.request.expiresAt }
    audit :=
      { id := ids.auditId
        assetVersionId := call.versionId
        sourceAccessGrantId := some ids.grantId
        authorizationFamily := .source
        authorizationMode := .proxyUrl
        resolvedOrigin := .sourceProxy
        actorScopeKey := call.request.callerScopeKey
        grantId := some ids.grantId
        requestMetadata :=
          { idempotencyKey := call.request.idempotencyKey
            preferredDisposition := some (dispositionText preferredDisposition)
            url := authorization.url }
        expiresAt := some call.request.expiresAt }
    record := call.idempotencyRecord rt authorization }

/-- Drop the slashes at the start of a text. -/
def dropLeadingSlashes (s : String) : String := String.ofList (s.toList.dropWhile (· == '/'))

/-- Drop the slashes at the end of a text. -/
def dropTrailingSlashes (s : String) : String :=
  String.ofList (s.toList.reverse.dropWhile (· == '/')).reverse

def buildDeliveryUrl (deliveryScope : DeliveryScope) (storageKey : Option String) : String :=
  let normalizedPrefix :=
    match present deliveryScope.pathPrefix with
    | some path => "/" ++ dropTrailingSlashes (dropLeadingSlashes path)
    | none => ""
  "https://" ++ deliveryScope.hostname ++ normalizedPrefix ++ "/" ++
    dropLeadingSlashes (storageKey.getD "")

def prepareDelivery (rt : Runtime) (ids : AuthorizationIds) (call : AuthorizationCall)
    (deliveryScopeId variant directUrl : String) : PreparedAuthorization :=
  let authorization : AuthorizationPayload :=
    { assetId := call.assetId
      authorizationMode := "signed-url"
      deliveryScopeId := some deliveryScopeId
      expiresAt := call.request.expiresAt
      oneTime := call.request.oneTime
      remainingUses := if call.request.oneTime then some 1 else none
      resolvedOrigin := "cdn-derived"
      url := if call.request.oneTime then downloadLink ids.grantId else directUrl
      versionId := call.versionId }
  { authorization
    grant := none
    audit :=
      { id := ids.auditId
        assetVersionId := call.versionId
        deliveryScopeId := some deliveryScopeId
        authorizationFamily := .delivery
        authorizationMode := .signedUrl
        resolvedOrigin := .cdnDerived
        actorScopeKey := call.request.callerScopeKey
        grantId := if call.request.oneTime then some ids.grantId else none
        requestMetadata :=
          { idempotencyKey := call.request.idempotencyKey
            oneTime := some call.request.oneTime
            url := directUrl
            variant := some variant }
        expiresAt := some call.request.expiresAt }
    record := call.idempotencyRecord rt authorization }

/-- `authorizeSource` after its replay lookup: the version must exist and may be neither
quarantined nor purged. -/
def resolveSource (rt : Runtime) (ids : AuthorizationIds) (call : AuthorizationCall)
    (preferredDisposition : Option SourceDisposition) (db : Db) :
    Except RegistryError PreparedAuthorization := do
  let version ← getRequiredVersion db call.assetId call.versionId
  if version.lifecycleState = .quarantined ∨ version.lifecycleState = .purged then
    throw (.publicVersionNotReady call.assetId call.versionId version.lifecycleState.text)
  else return prepareSource rt ids call preferredDisposition version.tenantId

/-- The derivative of a published version that `authorizeDelivery` authorizes, with its
delivery scope. -/
def findDeliverable (db : Db) (assetId versionId deliveryScopeId variant : String) :
    Option (Derivative × DeliveryScope) := do
  let _ ← (db.version? versionId).filter fun v =>
    v.assetId == assetId && v.lifecycleState = .published
  let derivative ← db.derivatives.rows.find? fun d =>
    d.assetVersionId == versionId && d.deliveryScopeId == deliveryScopeId && d.variantKey == variant
  let deliveryScope ← db.deliveryScopes.find? fun s => s.id == deliveryScopeId
  return (derivative, deliveryScope)

/-- The error of an `authorizeDelivery` that found no derivative. -/
def undeliverable (db : Db) (call : AuthorizationCall) : RegistryError :=
  match assertVersionPublished db call.assetId call.versionId with
  | .error e => e
  | .ok () => .publicAssetVersionNotFound call.assetId call.versionId

/-- What a call is going to return and to write, after its replay lookup. -/
def resolveAuthorization (rt : Runtime) (ids : AuthorizationIds) (call : AuthorizationCall)
    (db : Db) : Except RegistryError PreparedAuthorization :=
  match call.target with
  | .source preferredDisposition => resolveSource rt ids call preferredDisposition db
  | .delivery deliveryScopeId variant =>
      match findDeliverable db call.assetId call.versionId deliveryScopeId variant with
      | some (derivative, deliveryScope) =>
          .ok (prepareDelivery rt ids call deliveryScopeId variant
            (buildDeliveryUrl deliveryScope derivative.storageKey))
      | none => .error (undeliverable db call)

/-- The write statements of an authorization. -/
inductive AuthorizationStatement
  | createSourceAccessGrant (row : SourceAccessGrant)
  | createDeliveryAuthorizationAudit (row : DeliveryAuthorizationAudit)
  | createIdempotencyRecord (row : IdempotencyRecord)
  deriving DecidableEq, Repr

def AuthorizationStatement.apply (db : Db) : AuthorizationStatement → Except RegistryError Db
  | .createSourceAccessGrant row => db.createSourceAccessGrant row
  | .createDeliveryAuthorizationAudit row => db.createDeliveryAuthorizationAudit row
  | .createIdempotencyRecord row => db.createIdempotencyRecord row

/-- The statements of the transaction of an authorization, in their order. -/
def PreparedAuthorization.statements (prepared : PreparedAuthorization) :
    List AuthorizationStatement :=
  (prepared.grant.toList.map .createSourceAccessGrant) ++
    [.createDeliveryAuthorizationAudit prepared.audit, .createIdempotencyRecord prepared.record]

/-- Statements in sequence. -/
def applyStatements : List AuthorizationStatement → Db → Except RegistryError Db
  | [], db => .ok db
  | s :: ss, db => do
      let db ← s.apply db
      applyStatements ss db

/-- The transaction of an authorization. -/
def PreparedAuthorization.persist (prepared : PreparedAuthorization) :
    Transaction AuthorizationPayload := fun db => do
  let db ← applyStatements prepared.statements db
  return (prepared.authorization, db)

/-- The answer to a unique violation: the record that a concurrent call has written. -/
def replayAfterViolation (rt : Runtime) (call : AuthorizationCall) (error : RegistryError)
    (db : Db) :
    Except RegistryError AuthorizationPayload := do
  match ← loadAuthorizationReplay rt call db with
  | some replay => return replay
  | none => throw error

/-- `authorizeDelivery` and `authorizeSource`: the result with the database it leaves. -/
def authorize (rt : Runtime) (ids : AuthorizationIds) (call : AuthorizationCall) (db : Db) :
    Except RegistryError AuthorizationPayload × Db :=
  match loadAuthorizationReplay rt call db with
  | .error e => (.error e, db)
  | .ok (some replay) => (.ok replay, db)
  | .ok none =>
      match resolveAuthorization rt ids call db with
      | .error e => (.error e, db)
      | .ok prepared =>
          match transact prepared.persist db with
          | (.ok authorization, db) => (.ok authorization, db)
          | (.error e, db) =>
              if e = .store .uniqueConstraint then (replayAfterViolation rt call e db, db)
              else (.error e, db)

def authorizeDelivery (rt : Runtime) (ids : AuthorizationIds)
    (assetId versionId deliveryScopeId variant : String)
    (request : RegistryPublicAuthorizationRequest) (db : Db) :
    Except RegistryError AuthorizationPayload × Db :=
  authorize rt ids ⟨assetId, versionId, .delivery deliveryScopeId variant, request⟩ db

def authorizeSource (rt : Runtime) (ids : AuthorizationIds) (assetId versionId : String)
    (preferredDisposition : Option SourceDisposition) (request : RegistryPublicAuthorizationRequest)
    (db : Db) : Except RegistryError AuthorizationPayload × Db :=
  authorize rt ids ⟨assetId, versionId, .source preferredDisposition, request⟩ db

/-! ### One-time links -/

structure RegistryPublicDownloadLinkRecord where
  expiresAt : Instant
  token : String
  url : String
  deriving DecidableEq, Repr

/-- The grant that an exchange looks up. -/
def findSourceGrant (db : Db) (token : String) (now : Instant) : Option SourceAccessGrant :=
  db.sourceAccessGrants.find? fun r => r.id == token && decide (now < r.expiresAt)

/-- The audit row that an exchange looks up, the newest one. -/
def findDeliveryGrant (db : Db) (token : String) (now : Instant) :
    Option DeliveryAuthorizationAudit :=
  db.deliveryAuthorizationAudits.rows.reverse.find? fun r =>
    r.expiresAt.any (fun t => decide (now < t)) && r.grantId == some token

/-- The URL in the metadata of an audit row. -/
def extractUrlFromMetadata (metadata : AuthorizationMetadata) : Option String :=
  present (some metadata.url)

/-- What the exchange of a source grant returns. -/
def SourceAccessGrant.downloadLinkRecord (grant : SourceAccessGrant) (token : String) :
    RegistryPublicDownloadLinkRecord where
  expiresAt := grant.expiresAt
  token
  url := (grant.proxyPath.orElse fun _ => grant.exportObjectKey).getD
    ("/v1/assets/" ++ grant.assetVersionId ++ "/source")

/-- The update that marks a grant used. -/
def SourceAccessGrant.consume (now : Instant) (grant : SourceAccessGrant) : SourceAccessGrant :=
  { grant with expiresAt := now }

/-- The update that marks an audit row used: its metadata are those that were looked
up. -/
def DeliveryAuthorizationAudit.consume (metadata : AuthorizationMetadata) (now : Instant)
    (audit : DeliveryAuthorizationAudit) : DeliveryAuthorizationAudit :=
  { audit with
    expiresAt := some now
    requestMetadata := { metadata with consumedAt := some now } }

/-- The audit row of an exchange, with its expiry and the URL behind the token. -/
def resolveDeliveryGrant (db : Db) (token : String) (now : Instant) :
    Except RegistryError (DeliveryAuthorizationAudit × RegistryPublicDownloadLinkRecord) :=
  match findDeliveryGrant db token now with
  | none => .error (.publicDownloadLinkNotFound token)
  | some audit =>
      match audit.expiresAt, extractUrlFromMetadata audit.requestMetadata with
      | some expiresAt, some url => .ok (audit, { expiresAt, token, url })
      | _, _ => .error (.publicDownloadLinkNotFound token)

/-- `consumeDownloadLink`: the result with the database it leaves. -/
def consumeDownloadLink (token : String) (now : Instant) (db : Db) :
    Except RegistryError RegistryPublicDownloadLinkRecord × Db :=
  match findSourceGrant db token now with
  | some grant =>
      match db.updateSourceAccessGrant grant.id (·.consume now) with
      | .ok db => (.ok (grant.downloadLinkRecord token), db)
      | .error e => (.error e, db)
  | none =>
      match resolveDeliveryGrant db token now with
      | .error e => (.error e, db)
      | .ok (audit, link) =>
          match db.updateDeliveryAuthorizationAudit audit.id
            (·.consume audit.requestMetadata now) with
          | .ok db => (.ok link, db)
          | .error e => (.error e, db)

/-! ### Authorization transactions -/

/-- The grants, the audit rows and the idempotency records are those of before. -/
structure Db.SameAuthorizations (db db' : Db) : Prop where
  sourceAccessGrants : db'.sourceAccessGrants = db.sourceAccessGrants
  deliveryAuthorizationAudits : db'.deliveryAuthorizationAudits = db.deliveryAuthorizationAudits
  idempotencyRecords : db'.idempotencyRecords = db.idempotencyRecords

/-- No row holds an id or a key that an authorization is going to insert. -/
structure PreparedAuthorization.RowsFree (prepared : PreparedAuthorization) (db : Db) : Prop where
  grant : ∀ g, prepared.grant = some g → ∀ r ∈ db.sourceAccessGrants.rows, r.id ≠ g.id
  audit : ∀ r ∈ db.deliveryAuthorizationAudits.rows, r.id ≠ prepared.audit.id
  record : db.idempotencyRecord? prepared.record.key = none

theorem createSourceAccessGrant_ok_iff {db : Db} {row : SourceAccessGrant} :
    (∃ db', db.createSourceAccessGrant row = .ok db') ↔
      ∀ r ∈ db.sourceAccessGrants.rows, r.id ≠ row.id :=
  exists_write_iff.trans (Table.exists_insert_key_iff fun _ _ => rfl)

theorem createDeliveryAuthorizationAudit_ok_iff {db : Db} {row : DeliveryAuthorizationAudit} :
    (∃ db', db.createDeliveryAuthorizationAudit row = .ok db') ↔
      ∀ r ∈ db.deliveryAuthorizationAudits.rows, r.id ≠ row.id :=
  exists_write_iff.trans (Table.exists_insert_key_iff fun _ _ => rfl)

/-- **When the transaction of an authorization commits.** -/
theorem persist_ok_iff {prepared : PreparedAuthorization} {db : Db} :
    (∃ authorization db', prepared.persist db = .ok (authorization, db')) ↔
      prepared.RowsFree db := by
  have hrest : ∀ {db : Db},
      (∃ db', applyStatements [.createDeliveryAuthorizationAudit prepared.audit,
        .createIdempotencyRecord prepared.record] db = .ok db') ↔
      (∀ r ∈ db.deliveryAuthorizationAudits.rows, r.id ≠ prepared.audit.id) ∧
        db.idempotencyRecord? prepared.record.key = none := by
    intro db
    simp only [applyStatements, bind_eq_ok, AuthorizationStatement.apply]
    constructor
    · rintro ⟨db', db₁, h₁, db₂, h₂, -⟩
      have hrecord := Db.createIdempotencyRecord_ok_iff.mp ⟨db₂, h₂⟩
      refine ⟨createDeliveryAuthorizationAudit_ok_iff.mp ⟨db₁, h₁⟩, ?_⟩
      obtain ⟨t, -, rfl⟩ := write_eq_ok.mp h₁
      exact hrecord
    · rintro ⟨haudit, hrecord⟩
      obtain ⟨db₁, h₁⟩ := createDeliveryAuthorizationAudit_ok_iff.mpr haudit
      obtain ⟨db₂, h₂⟩ := Db.createIdempotencyRecord_ok_iff.mpr (show
        db₁.idempotencyRecord? prepared.record.key = none by
          obtain ⟨t, -, rfl⟩ := write_eq_ok.mp h₁
          exact hrecord)
      exact ⟨db₂, db₁, h₁, db₂, h₂, rfl⟩
  have hpersist : (∃ authorization db', prepared.persist db = .ok (authorization, db')) ↔
      ∃ db', applyStatements prepared.statements db = .ok db' := by
    constructor
    · rintro ⟨authorization, db', h⟩
      obtain ⟨db₁, h₁, -⟩ := bind_eq_ok.mp h
      exact ⟨db₁, h₁⟩
    · rintro ⟨db₁, h₁⟩
      exact ⟨_, _, bind_eq_ok.mpr ⟨db₁, h₁, rfl⟩⟩
  rw [hpersist]
  cases hgrant : prepared.grant with
  | none =>
      rw [PreparedAuthorization.statements, hgrant]
      refine hrest.trans ⟨fun ⟨haudit, hrecord⟩ => ⟨?_, haudit, hrecord⟩,
        fun h => ⟨h.audit, h.record⟩⟩
      intro g hg
      rw [hgrant] at hg
      cases hg
  | some grant =>
      rw [PreparedAuthorization.statements, hgrant]
      constructor
      · rintro ⟨db', h⟩
        obtain ⟨db₁, h₁, h⟩ := bind_eq_ok.mp h
        obtain ⟨haudit, hrecord⟩ := hrest.mp ⟨db', h⟩
        have hfree := createSourceAccessGrant_ok_iff.mp ⟨db₁, h₁⟩
        obtain ⟨t, -, rfl⟩ := write_eq_ok.mp h₁
        refine ⟨fun g hg => ?_, haudit, hrecord⟩
        obtain rfl := Option.some.inj (hgrant.symm.trans hg)
        exact hfree
      · intro h
        obtain ⟨db₁, h₁⟩ := createSourceAccessGrant_ok_iff.mpr (h.grant grant hgrant)
        obtain ⟨db₂, h₂⟩ := hrest.mpr (show
          (∀ r ∈ db₁.deliveryAuthorizationAudits.rows, r.id ≠ prepared.audit.id) ∧
            db₁.idempotencyRecord? prepared.record.key = none by
              obtain ⟨t, -, rfl⟩ := write_eq_ok.mp h₁
              exact ⟨h.audit, h.record⟩)
        exact ⟨db₂, bind_eq_ok.mpr ⟨db₁, h₁, h₂⟩⟩

section Replay

variable {rt : Runtime} {call : AuthorizationCall} {db : Db}

/-- A readable record of the call's key and request. -/
theorem loadAuthorizationReplay_eq_some {replay : AuthorizationPayload} :
    loadAuthorizationReplay rt call db = .ok (some replay) ↔
      ∃ record, db.idempotencyRecord? call.recordKey = some record ∧
        record.normalizedRequestHash = some (call.normalizedRequestHash rt) ∧
        call.buildReplay record.responsePayload = .ok replay := by
  unfold loadAuthorizationReplay
  cases db.idempotencyRecord? call.recordKey with
  | none => simp
  | some record =>
      by_cases hhash : record.normalizedRequestHash = some (call.normalizedRequestHash rt)
      · simp only [hhash, if_true, Option.some.injEq, exists_eq_left', true_and]
        cases call.buildReplay record.responsePayload with
        | error e => simp [Except.map]
        | ok r => simp [Except.map]
      · simp [hhash]

theorem loadAuthorizationReplay_eq_none :
    loadAuthorizationReplay rt call db = .ok none ↔
      db.idempotencyRecord? call.recordKey = none := by
  unfold loadAuthorizationReplay
  cases db.idempotencyRecord? call.recordKey with
  | none => simp
  | some record =>
      by_cases hhash : record.normalizedRequestHash = some (call.normalizedRequestHash rt)
      · simp only [hhash, if_true, reduceCtorEq, iff_false]
        cases call.buildReplay record.responsePayload with
        | error e => simp [Except.map]
        | ok r => simp [Except.map]
      · simp [hhash]

end Replay

/-- **Inversion of an authorization.** -/
inductive AuthorizeOutcome (rt : Runtime) (ids : AuthorizationIds) (call : AuthorizationCall)
    (db : Db) : Except RegistryError AuthorizationPayload → Db → Prop
  | replayed {replay : AuthorizationPayload}
      (h : loadAuthorizationReplay rt call db = .ok (some replay)) :
      AuthorizeOutcome rt ids call db (.ok replay) db
  | accepted {prepared : PreparedAuthorization} {db' : Db}
      (hreplay : loadAuthorizationReplay rt call db = .ok none)
      (hresolve : resolveAuthorization rt ids call db = .ok prepared)
      (hpersist : prepared.persist db = .ok (prepared.authorization, db')) :
      AuthorizeOutcome rt ids call db (.ok prepared.authorization) db'
  | rejected {e : RegistryError} : AuthorizeOutcome rt ids call db (.error e) db

theorem authorize_cases (rt : Runtime) (ids : AuthorizationIds) (call : AuthorizationCall)
    (db : Db) :
    AuthorizeOutcome rt ids call db (authorize rt ids call db).1 (authorize rt ids call db).2 := by
  unfold authorize
  split
  · exact .rejected
  · rename_i replay hreplay
    exact .replayed hreplay
  · rename_i hreplay
    split
    · exact .rejected
    · rename_i prepared hresolve
      cases hpersist : prepared.persist db with
      | ok r =>
          obtain ⟨db₁, h₁, hr⟩ := bind_eq_ok.mp hpersist
          obtain rfl := Except.ok.inj hr
          simp only [transact, hpersist]
          exact .accepted hreplay hresolve hpersist
      | error e =>
          simp only [transact, hpersist]
          split
          · have hnone : replayAfterViolation rt call e db = .error e := by
              rw [replayAfterViolation, hreplay]
              rfl
            rw [hnone]
            exact .rejected
          · exact .rejected

end Cdngine
