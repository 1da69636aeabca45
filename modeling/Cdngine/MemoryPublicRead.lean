import Cdngine.AuthorizationReplay
import Cdngine.MemoryUploadStore

/-!
# The In-Memory Public Read Store

`InMemoryPublicVersionReadStore`, the store behind the delivery routes when no database is
configured. A one-time authorization is kept under a text that joins its target and its
idempotency key, and a repeated request gets the kept one. The caller is not part of the
text, and a key that comes with another target gives another text.

## Main results

* `authorize_cases`: the inversion of an authorization.
* `authorizations_apart_iff`: in a run, the authorizations of different callers are apart
  and a reused key is rejected exactly when no two callers share a text and no caller reuses
  a key.
* `callers_share_a_link`: a run in which two callers get one link.
-/

open Runs

namespace Cdngine

/-! ### Records -/

/-- The errors of a public read store, as the delivery routes tell them apart. -/
inductive PublicReadError
  | assetVersionNotFound (assetId versionId : String)
  | versionNotReady (assetId versionId : String) (lifecycleState : RegistryPublicLifecycleState)
  | downloadLinkNotFound (token : String)
  | idempotencyConflict (idempotencyKey : String)
  | exportFailed (cause : String)
  deriving DecidableEq, Repr

structure PublicAssetVersionRecord where
  assetId : String
  versionId : String
  lifecycleState : RegistryPublicLifecycleState
  canonicalSourceEvidence : Option PersistedCanonicalSourceEvidence := none
  tenantId : Option String := none

structure PublicDerivativeRecord where
  deliveryScopeId : String
  variant : String
  deriving DecidableEq, Repr

/-- A seeded authorization of a source. -/
structure SeedSourceAuthorization where
  authorizationMode : String
  resolvedOrigin : String
  tenantId : Option String := none
  url : String
  deriving DecidableEq, Repr

structure SeedPublicAssetVersionRecord extends PublicAssetVersionRecord where
  deliveries : List PublicDerivativeRecord := []
  sourceAuthorization : Option SeedSourceAuthorization := none

inductive SourceDeliveryMode
  | proxy
  | lazyRead
  | materializedExport
  deriving DecidableEq, Repr

structure ConsumableDownloadLinkRecord where
  expiresAt : Instant
  token : String
  url : String
  deriving DecidableEq, Repr

/-- A signed read URL, as the exports object store issues it. -/
structure SignedReadUrl where
  expiresAt : Instant
  url : String
  deriving DecidableEq, Repr

structure InMemoryPublicVersionReadStore where
  sourceReads : Option SourceDeliveryMode := none
  versions : JsMap PublicAssetVersionRecord := fun _ => none
  derivatives : JsMap (List PublicDerivativeRecord) := fun _ => none
  sourceAuthorizations : JsMap SeedSourceAuthorization := fun _ => none
  deliveryAuthorizations : JsMap AuthorizationPayload := fun _ => none
  sourceAuthorizationsByRequest : JsMap AuthorizationPayload := fun _ => none
  downloadLinks : JsMap ConsumableDownloadLinkRecord := fun _ => none

def buildVersionKey (assetId versionId : String) : String := assetId ++ ":" ++ versionId

def buildDeliveryAuthorizationKey
    (assetId versionId deliveryScopeId variant idempotencyKey : String) :
    String :=
  "delivery:" ++
    (buildVersionKey assetId versionId ++ ":" ++ deliveryScopeId ++ ":" ++ variant ++ ":" ++
      idempotencyKey)

def buildSourceAuthorizationKey (assetId versionId : String)
    (preferredDisposition : Option SourceDisposition) (idempotencyKey : String) : String :=
  "source:" ++
    (buildVersionKey assetId versionId ++ ":" ++ dispositionText preferredDisposition ++ ":" ++
      idempotencyKey)

/-- The text under which a one-time authorization is kept. -/
def AuthorizationCall.memoryRequestKey (call : AuthorizationCall) : String :=
  match call.target with
  | .delivery deliveryScopeId variant =>
      buildDeliveryAuthorizationKey call.assetId call.versionId deliveryScopeId variant
        call.request.idempotencyKey
  | .source preferredDisposition =>
      buildSourceAuthorizationKey call.assetId call.versionId preferredDisposition
        call.request.idempotencyKey

/-- The URL of a one-time link of the store. -/
def localDownloadLink (token : String) : String :=
  "https://api.cdngine.local/download-links/" ++ token

namespace InMemoryPublicVersionReadStore

/-- The store after one seeded version. -/
def seed (store : InMemoryPublicVersionReadStore) (version : SeedPublicAssetVersionRecord) :
    InMemoryPublicVersionReadStore :=
  let key := buildVersionKey version.assetId version.versionId
  { store with
    versions :=
      store.versions.set key
        { version.toPublicAssetVersionRecord with tenantId := present version.tenantId }
    derivatives := store.derivatives.set key version.deliveries
    sourceAuthorizations :=
      match version.sourceAuthorization with
      | some authorization =>
          store.sourceAuthorizations.set key
            { authorization with tenantId := present authorization.tenantId }
      | none => store.sourceAuthorizations }

/-- The constructor. -/
def create (sourceReads : Option SourceDeliveryMode)
    (versions : List SeedPublicAssetVersionRecord) :
    InMemoryPublicVersionReadStore :=
  versions.foldl seed { sourceReads }

variable (store : InMemoryPublicVersionReadStore)

def getRequiredVersion (assetId versionId : String) :
    Except PublicReadError PublicAssetVersionRecord :=
  match store.versions (buildVersionKey assetId versionId) with
  | some version => .ok version
  | none => .error (.assetVersionNotFound assetId versionId)

/-! ### Authorization -/

/-- `authorizeDelivery` up to the one-time flag: the authorization that may be used again. -/
def reusableDelivery (assetId versionId deliveryScopeId variant : String)
    (request : RegistryPublicAuthorizationRequest) :
    Except PublicReadError AuthorizationPayload := do
  let version ← store.getRequiredVersion assetId versionId
  if version.lifecycleState ≠ .published then
    .error (.versionNotReady assetId versionId version.lifecycleState)
  else
    match ((store.derivatives (buildVersionKey assetId versionId)).getD []).find? fun candidate =>
        candidate.deliveryScopeId == deliveryScopeId && candidate.variant == variant with
    | none => .error (.assetVersionNotFound assetId versionId)
    | some derivative =>
        .ok
          { assetId, versionId
            authorizationMode := "signed-url"
            deliveryScopeId := some deliveryScopeId
            expiresAt := request.expiresAt
            resolvedOrigin := "cdn-derived"
            url := "https://cdn.cdngine.local/" ++ deliveryScopeId ++ "/" ++ derivative.variant }

/-- `authorizeMaterializedSource`. The export restores the source, publishes it and signs a
URL for it. -/
def authorizeMaterializedSource (exported : Except String SignedReadUrl)
    (version : PublicAssetVersionRecord) : Except PublicReadError (Option AuthorizationPayload) :=
  if store.sourceReads = some .materializedExport ∧ version.canonicalSourceEvidence.isSome then
    match exported with
    | .error cause => .error (.exportFailed cause)
    | .ok signed =>
        .ok (some
          { assetId := version.assetId
            versionId := version.versionId
            authorizationMode := "signed-url"
            expiresAt := signed.expiresAt
            resolvedOrigin := "source-export"
            tenantId := present version.tenantId
            url := signed.url })
  else .ok none

/-- The authorization of a source that is not exported. -/
def defaultSource (assetId versionId : String) (request : RegistryPublicAuthorizationRequest) :
    AuthorizationPayload :=
  match store.sourceAuthorizations (buildVersionKey assetId versionId) with
  | some authorization =>
      { assetId, versionId
        authorizationMode := authorization.authorizationMode
        expiresAt := request.expiresAt
        resolvedOrigin := authorization.resolvedOrigin
        tenantId := present authorization.tenantId
        url := authorization.url }
  | none =>
      { assetId, versionId
        authorizationMode := "signed-url"
        expiresAt := request.expiresAt
        resolvedOrigin := "source-proxy"
        url :=
          "https://api.cdngine.local/v1/assets/" ++ assetId ++ "/versions/" ++ versionId ++
            "/source/proxy" }

/-- `authorizeSource` up to the one-time flag. -/
def reusableSource (exported : Except String SignedReadUrl) (assetId versionId : String)
    (request : RegistryPublicAuthorizationRequest) :
    Except PublicReadError AuthorizationPayload := do
  let version ← store.getRequiredVersion assetId versionId
  if version.lifecycleState = .quarantined ∨ version.lifecycleState = .purged then
    .error (.versionNotReady assetId versionId version.lifecycleState)
  else
    let materialized ← store.authorizeMaterializedSource exported version
    return materialized.getD (store.defaultSource assetId versionId request)

/-- An authorization whose URL is a link to be used once. -/
def oneTimeAuthorization (token : String) (authorization : AuthorizationPayload) :
    AuthorizationPayload :=
  { authorization with oneTime := true, remainingUses := some 1, url := localDownloadLink token }

/-- The store with the link of a one-time authorization. -/
def setLink (token : String) (authorization : AuthorizationPayload) :
    InMemoryPublicVersionReadStore :=
  { store with
    downloadLinks :=
      store.downloadLinks.set token ⟨authorization.expiresAt, token, authorization.url⟩ }

def authorizeDelivery (token assetId versionId deliveryScopeId variant : String)
    (request : RegistryPublicAuthorizationRequest) :
    Except PublicReadError AuthorizationPayload × InMemoryPublicVersionReadStore :=
  match store.reusableDelivery assetId versionId deliveryScopeId variant request with
  | .error e => (.error e, store)
  | .ok authorization =>
      if request.oneTime then
        let requestKey := buildDeliveryAuthorizationKey assetId versionId deliveryScopeId variant
          request.idempotencyKey
        match store.deliveryAuthorizations requestKey with
        | some existing => (.ok existing, store)
        | none =>
            let authorization' := oneTimeAuthorization token authorization
            (.ok authorization',
              { store.setLink token authorization with
                deliveryAuthorizations :=
                  store.deliveryAuthorizations.set requestKey authorization' })
      else (.ok authorization, store)

def authorizeSource (token : String) (exported : Except String SignedReadUrl)
    (assetId versionId : String) (preferredDisposition : Option SourceDisposition)
    (request : RegistryPublicAuthorizationRequest) :
    Except PublicReadError AuthorizationPayload × InMemoryPublicVersionReadStore :=
  match store.reusableSource exported assetId versionId request with
  | .error e => (.error e, store)
  | .ok authorization =>
      if request.oneTime then
        let requestKey := buildSourceAuthorizationKey assetId versionId preferredDisposition
          request.idempotencyKey
        match store.sourceAuthorizationsByRequest requestKey with
        | some existing => (.ok existing, store)
        | none =>
            let authorization' := oneTimeAuthorization token authorization
            (.ok authorization',
              { store.setLink token authorization with
                sourceAuthorizationsByRequest :=
                  store.sourceAuthorizationsByRequest.set requestKey authorization' })
      else (.ok authorization, store)

/-- `authorizeDelivery` or `authorizeSource`, as the call asks. -/
def authorize (token : String) (exported : Except String SignedReadUrl) (call : AuthorizationCall) :
    Except PublicReadError AuthorizationPayload × InMemoryPublicVersionReadStore :=
  match call.target with
  | .delivery deliveryScopeId variant =>
      store.authorizeDelivery token call.assetId call.versionId deliveryScopeId variant call.request
  | .source preferredDisposition =>
      store.authorizeSource token exported call.assetId call.versionId preferredDisposition
        call.request

/-! ### Links -/

def consumeDownloadLink (token : String) (now : Instant) :
    Except PublicReadError ConsumableDownloadLinkRecord × InMemoryPublicVersionReadStore :=
  match store.downloadLinks token with
  | none => (.error (.downloadLinkNotFound token), store)
  | some link =>
      if link.expiresAt ≤ now then (.error (.downloadLinkNotFound token), store)
      else
        (.ok link, { store with downloadLinks := Function.update store.downloadLinks token none })

end InMemoryPublicVersionReadStore

/-! ### The inversion of an authorization -/

theorem localDownloadLink_injective {token token' : String}
    (h : localDownloadLink token = localDownloadLink token') : token = token' :=
  (String.append_right_inj _).mp h

/-- The text of a delivery authorization is none of a source authorization. -/
theorem deliveryKey_ne_sourceKey (assetId versionId deliveryScopeId variant idempotencyKey : String)
    (assetId' versionId' : String) (disposition : Option SourceDisposition)
    (idempotencyKey' : String) :
    buildDeliveryAuthorizationKey assetId versionId deliveryScopeId variant idempotencyKey ≠
      buildSourceAuthorizationKey assetId' versionId' disposition idempotencyKey' := by
  have hdelivery : Begins ['d'] "delivery:" := by unfold Begins; decide
  have hsource : Begins ['s'] "source:" := by unfold Begins; decide
  exact (hdelivery.append _).ne (hsource.append _) rfl (by decide)

namespace InMemoryPublicVersionReadStore

/-- The authorization of a call that may be used again. -/
def reusable (store : InMemoryPublicVersionReadStore) (exported : Except String SignedReadUrl)
    (call : AuthorizationCall) : Except PublicReadError AuthorizationPayload :=
  match call.target with
  | .delivery deliveryScopeId variant =>
      store.reusableDelivery call.assetId call.versionId deliveryScopeId variant call.request
  | .source _ => store.reusableSource exported call.assetId call.versionId call.request

/-- The one-time authorization that is kept for a call. -/
def kept (store : InMemoryPublicVersionReadStore) (call : AuthorizationCall) :
    Option AuthorizationPayload :=
  match call.target with
  | .delivery _ _ => store.deliveryAuthorizations call.memoryRequestKey
  | .source _ => store.sourceAuthorizationsByRequest call.memoryRequestKey

/-- The store that keeps a one-time authorization for a call. -/
def keep (store : InMemoryPublicVersionReadStore) (call : AuthorizationCall) (token : String)
    (authorization : AuthorizationPayload) : InMemoryPublicVersionReadStore :=
  match call.target with
  | .delivery _ _ =>
      { store.setLink token authorization with
        deliveryAuthorizations :=
          store.deliveryAuthorizations.set call.memoryRequestKey
            (oneTimeAuthorization token authorization) }
  | .source _ =>
      { store.setLink token authorization with
        sourceAuthorizationsByRequest :=
          store.sourceAuthorizationsByRequest.set call.memoryRequestKey
            (oneTimeAuthorization token authorization) }

variable {store : InMemoryPublicVersionReadStore} {token : String}
  {exported : Except String SignedReadUrl} {call call' : AuthorizationCall}
  {authorization payload : AuthorizationPayload}

/-- The kept authorization is found by the text alone. -/
theorem kept_congr (h : call.memoryRequestKey = call'.memoryRequestKey) :
    store.kept call = store.kept call' := by
  unfold kept
  cases htarget : call.target with
  | delivery deliveryScopeId variant =>
      cases htarget' : call'.target with
      | delivery _ _ => simp only [h]
      | source _ =>
          simp only [AuthorizationCall.memoryRequestKey, htarget, htarget'] at h
          exact absurd h (deliveryKey_ne_sourceKey _ _ _ _ _ _ _ _ _)
  | source _ =>
      cases htarget' : call'.target with
      | delivery _ _ =>
          simp only [AuthorizationCall.memoryRequestKey, htarget, htarget'] at h
          exact absurd h.symm (deliveryKey_ne_sourceKey _ _ _ _ _ _ _ _ _)
      | source _ => simp only [h]

theorem kept_keep_self :
    (store.keep call token authorization).kept call =
      some (oneTimeAuthorization token authorization) := by
  unfold keep kept
  cases call.target <;> exact JsMap.set_self _ _ _

theorem kept_keep_of_ne (h : call'.memoryRequestKey ≠ call.memoryRequestKey) :
    (store.keep call token authorization).kept call' = store.kept call' := by
  unfold keep kept
  cases call.target <;> cases call'.target <;> first | rfl | exact JsMap.set_of_ne _ _ h

/-- **Inversion of an authorization.** -/
theorem authorize_eq (store : InMemoryPublicVersionReadStore) (token : String)
    (exported : Except String SignedReadUrl) (call : AuthorizationCall) :
    store.authorize token exported call =
      match store.reusable exported call with
      | .error e => (.error e, store)
      | .ok authorization =>
          if call.request.oneTime then
            match store.kept call with
            | some existing => (.ok existing, store)
            | none =>
                (.ok (oneTimeAuthorization token authorization),
                  store.keep call token authorization)
          else (.ok authorization, store) := by
  cases htarget : call.target with
  | delivery deliveryScopeId variant =>
      simp only [authorize, authorizeDelivery, reusable, kept, keep,
        AuthorizationCall.memoryRequestKey, htarget]
  | source preferredDisposition =>
      simp only [authorize, authorizeSource, reusable, kept, keep,
        AuthorizationCall.memoryRequestKey, htarget]

/-- An authorization leaves what is kept, and keeps at most its own. -/
theorem kept_authorize (h : store.kept call' = some payload) :
    (store.authorize token exported call).2.kept call' = some payload := by
  rw [authorize_eq]
  cases hreusable : store.reusable exported call with
  | error e => exact h
  | ok authorization =>
      simp only
      by_cases honce : call.request.oneTime = true
      · rw [if_pos honce]
        cases hkept : store.kept call with
        | some existing => exact h
        | none =>
            have hne : call'.memoryRequestKey ≠ call.memoryRequestKey := fun heq => by
              rw [kept_congr heq, hkept] at h
              cases h
            exact (kept_keep_of_ne hne).trans h
      · rw [if_neg honce]
        exact h

/-- What is kept after an authorization was kept before or is its link. -/
theorem kept_authorize_cases
    (h : (store.authorize token exported call).2.kept call' = some payload) :
    store.kept call' = some payload ∨
      call'.memoryRequestKey = call.memoryRequestKey ∧ store.kept call = none ∧
        payload.url = localDownloadLink token := by
  rw [authorize_eq] at h
  cases hreusable : store.reusable exported call with
  | error e =>
      rw [hreusable] at h
      exact Or.inl h
  | ok authorization =>
      rw [hreusable] at h
      simp only at h
      by_cases honce : call.request.oneTime = true
      · rw [if_pos honce] at h
        cases hkept : store.kept call with
        | some existing =>
            rw [hkept] at h
            exact Or.inl h
        | none =>
            rw [hkept] at h
            by_cases heq : call'.memoryRequestKey = call.memoryRequestKey
            · rw [kept_congr heq, kept_keep_self] at h
              obtain rfl := Option.some.inj h
              exact Or.inr ⟨heq, rfl, rfl⟩
            · exact Or.inl ((kept_keep_of_ne heq).symm.trans h)
      · rw [if_neg honce] at h
        exact Or.inl h

/-- A call is answered where its target is available. -/
theorem exists_authorize_iff :
    (∃ payload, (store.authorize token exported call).1 = .ok payload) ↔
      ∃ authorization, store.reusable exported call = .ok authorization := by
  rw [authorize_eq]
  cases hreusable : store.reusable exported call with
  | error e =>
      constructor
      · rintro ⟨_, h⟩
        cases h
      · rintro ⟨_, h⟩
        cases h
  | ok authorization =>
      refine ⟨fun _ => ⟨authorization, rfl⟩, fun _ => ?_⟩
      simp only
      by_cases honce : call.request.oneTime = true
      · rw [if_pos honce]
        cases store.kept call with
        | some existing => exact ⟨existing, rfl⟩
        | none => exact ⟨_, rfl⟩
      · rw [if_neg honce]
        exact ⟨authorization, rfl⟩

/-- The answer to a one-time call is kept. -/
theorem kept_of_authorize (honce : call.request.oneTime = true)
    (h : (store.authorize token exported call).1 = .ok payload) :
    (store.authorize token exported call).2.kept call = some payload := by
  rw [authorize_eq] at h ⊢
  cases hreusable : store.reusable exported call with
  | error e =>
      rw [hreusable] at h
      cases h
  | ok authorization =>
      rw [hreusable] at h
      simp only [if_pos honce] at h ⊢
      cases hkept : store.kept call with
      | some existing =>
          rw [hkept] at h
          obtain rfl := Except.ok.inj h
          exact hkept
      | none =>
          rw [hkept] at h
          obtain rfl := Except.ok.inj h
          exact kept_keep_self

theorem authorizeMaterializedSource_ne_conflict (version : PublicAssetVersionRecord)
    (key : String) :
    store.authorizeMaterializedSource exported version ≠ .error (.idempotencyConflict key) := by
  unfold authorizeMaterializedSource
  split
  · cases exported <;> exact nofun
  · exact nofun

theorem reusable_ne_conflict (key : String) :
    store.reusable exported call ≠ .error (.idempotencyConflict key) := by
  cases htarget : call.target with
  | delivery deliveryScopeId variant =>
      simp only [reusable, htarget, reusableDelivery, getRequiredVersion]
      cases store.versions (buildVersionKey call.assetId call.versionId) with
      | none => exact nofun
      | some version =>
          simp only [bind, Except.bind]
          split
          · exact nofun
          · split <;> exact nofun
  | source preferredDisposition =>
      simp only [reusable, htarget, reusableSource, getRequiredVersion]
      cases store.versions (buildVersionKey call.assetId call.versionId) with
      | none => exact nofun
      | some version =>
          simp only [bind, Except.bind]
          split
          · exact nofun
          · cases hmaterialized : store.authorizeMaterializedSource exported version with
            | error e =>
                intro h
                obtain rfl := Except.error.inj h
                exact authorizeMaterializedSource_ne_conflict version key hmaterialized
            | ok materialized => exact nofun

/-- **The store never rejects a reused key.** -/
theorem authorize_ne_conflict (key : String) :
    (store.authorize token exported call).1 ≠ .error (.idempotencyConflict key) := by
  rw [authorize_eq]
  cases hreusable : store.reusable exported call with
  | error e =>
      intro h
      obtain rfl := Except.error.inj h
      exact reusable_ne_conflict key hreusable
  | ok authorization =>
      simp only
      by_cases honce : call.request.oneTime = true
      · rw [if_pos honce]
        cases store.kept call <;> exact nofun
      · rw [if_neg honce]
        exact nofun

end InMemoryPublicVersionReadStore

/-! ### Runs -/

/-- A call on the store. An authorization comes with the token that the link factory returns
and with the outcome of an export. -/
inductive MemoryReadAction
  | authorize (token : String) (exported : Except String SignedReadUrl) (call : AuthorizationCall)
  | consume (token : String) (now : Instant)

/-- The store after a call. -/
def MemoryReadAction.run (store : InMemoryPublicVersionReadStore) :
    MemoryReadAction → InMemoryPublicVersionReadStore
  | authorize token exported call => (store.authorize token exported call).2
  | consume token now => (store.consumeDownloadLink token now).2

/-- The step relation of the store. -/
def MemoryReadStep (store : InMemoryPublicVersionReadStore) (a : MemoryReadAction)
    (store' : InMemoryPublicVersionReadStore) : Prop :=
  a.run store = store'

/-- The token that the link factory returns during a call. -/
def MemoryReadAction.mints : MemoryReadAction → Option String
  | authorize token _ _ => some token
  | consume _ _ => none

/-- A step of a run. -/
abbrev MemoryReadTransition := Transition InMemoryPublicVersionReadStore MemoryReadAction

/-- A step is an authorization with a result. -/
def Answers (τ : MemoryReadTransition) (call : AuthorizationCall)
    (result : Except PublicReadError AuthorizationPayload) : Prop :=
  ∃ token exported, τ.action = .authorize token exported call ∧
    (τ.before.authorize token exported call).1 = result

/-- A step is an authorization whose target is available: the version is in a state that
allows it, the derivative exists, and the export, if one is made, succeeds. -/
def Admits (τ : MemoryReadTransition) (call : AuthorizationCall) : Prop :=
  ∃ token exported authorization, τ.action = .authorize token exported call ∧
    τ.before.reusable exported call = .ok authorization

/-- A call **reuses the key** of another: the same caller asks for something else under it,
and one of the two for a link to be used once. -/
structure AuthorizationCall.Reuses (call call' : AuthorizationCall) : Prop where
  caller : call.request.callerScopeKey = call'.request.callerScopeKey
  key : call.request.idempotencyKey = call'.request.idempotencyKey
  subject : call.subject ≠ call'.subject
  oneTime : call.request.oneTime = true ∨ call'.request.oneTime = true

/-- **Different callers are apart**: their one-time authorizations share neither payload nor
token. -/
def CallersApart (τ τ' : MemoryReadTransition) : Prop :=
  ∀ ⦃call call' payload payload'⦄, Answers τ call (.ok payload) → Answers τ' call' (.ok payload') →
    call.request.oneTime = true → call'.request.oneTime = true →
    call.request.callerScopeKey ≠ call'.request.callerScopeKey →
    payload ≠ payload' ∧
      ∀ token, payload.url = localDownloadLink token → payload'.url ≠ localDownloadLink token

/-- **A reused key is rejected**, once a call with it has been answered. -/
def ReuseRejected (τ τ' : MemoryReadTransition) : Prop :=
  ∀ ⦃call call' payload result⦄, Answers τ call (.ok payload) → Answers τ' call' result →
    call.Reuses call' → result = .error (.idempotencyConflict call'.request.idempotencyKey)

/-- Admitted one-time calls of different callers are kept under different texts. -/
def TextsApart (τ τ' : MemoryReadTransition) : Prop :=
  ∀ ⦃call call'⦄, Admits τ call → Admits τ' call' → call.request.oneTime = true →
    call'.request.oneTime = true → call.request.callerScopeKey ≠ call'.request.callerScopeKey →
    call.memoryRequestKey ≠ call'.memoryRequestKey

/-- No call reuses the key of an admitted one. -/
def KeyNotReused (τ τ' : MemoryReadTransition) : Prop :=
  ∀ ⦃call call' result⦄, Admits τ call → Answers τ' call' result → ¬ call.Reuses call'

/-- The tokens of the link factory are all different. -/
def FreshTokens (tr : List MemoryReadTransition) : Prop :=
  tr.Pairwise fun τ τ' => ∀ ⦃token⦄, τ.action.mints = some token → τ'.action.mints ≠ some token

namespace InMemoryPublicVersionReadStore

/-- A store on which no authorization has been requested. -/
structure Unused (store : InMemoryPublicVersionReadStore) : Prop where
  deliveryAuthorizations : ∀ key, store.deliveryAuthorizations key = none
  sourceAuthorizationsByRequest : ∀ key, store.sourceAuthorizationsByRequest key = none

/-- What is kept under different texts has different links. -/
def LinksApart (store : InMemoryPublicVersionReadStore) : Prop :=
  ∀ ⦃call call' payload payload'⦄, store.kept call = some payload →
    store.kept call' = some payload' → call.memoryRequestKey ≠ call'.memoryRequestKey →
    payload.url ≠ payload'.url

/-- What is kept is not under the link of a token. -/
def Unminted (store : InMemoryPublicVersionReadStore) (token : String) : Prop :=
  ∀ ⦃call payload⦄, store.kept call = some payload → payload.url ≠ localDownloadLink token

variable {store store' : InMemoryPublicVersionReadStore} {call : AuthorizationCall}
  {payload : AuthorizationPayload} {a : MemoryReadAction} {tr : List MemoryReadTransition}

/-- A newly built store. -/
theorem create_unused (sourceReads : Option SourceDeliveryMode)
    (versions : List SeedPublicAssetVersionRecord) : (create sourceReads versions).Unused := by
  have hfold :
    ∀ (seeds : List SeedPublicAssetVersionRecord) (store : InMemoryPublicVersionReadStore),
      store.Unused → (seeds.foldl seed store).Unused := by
    intro seeds
    induction seeds with
    | nil => exact fun _ h => h
    | cons version seeds ih =>
        exact fun store h => ih (store.seed version) ⟨h.deliveryAuthorizations,
          h.sourceAuthorizationsByRequest⟩
  exact hfold versions _ ⟨fun _ => rfl, fun _ => rfl⟩

theorem Unused.kept (h : store.Unused) (call : AuthorizationCall) : store.kept call = none := by
  unfold InMemoryPublicVersionReadStore.kept
  split
  · exact h.deliveryAuthorizations _
  · exact h.sourceAuthorizationsByRequest _

theorem Unused.linksApart (h : store.Unused) : store.LinksApart := by
  intro call call' payload payload' hkept
  rw [h.kept] at hkept
  cases hkept

theorem Unused.unminted (h : store.Unused) (token : String) : store.Unminted token := by
  intro call payload hkept
  rw [h.kept] at hkept
  cases hkept

/-- An exchange of a link leaves what is kept. -/
theorem kept_consume (token : String) (now : Instant) (call : AuthorizationCall) :
    (store.consumeDownloadLink token now).2.kept call = store.kept call := by
  unfold consumeDownloadLink
  split
  · rfl
  · split <;> rfl

/-- A step leaves what is kept. -/
theorem kept_step (h : MemoryReadStep store a store') (hkept : store.kept call = some payload) :
    store'.kept call = some payload := by
  obtain rfl := h
  cases a with
  | authorize token exported call' => exact kept_authorize hkept
  | consume token now => exact (kept_consume token now call).trans hkept

/-- What is kept after a step was kept before or is under the link of its token. -/
theorem kept_step_cases (h : MemoryReadStep store a store')
    (hkept : store'.kept call = some payload) :
    store.kept call = some payload ∨
      ∃ token, a.mints = some token ∧ payload.url = localDownloadLink token := by
  obtain rfl := h
  cases a with
  | authorize token exported call' =>
      rcases kept_authorize_cases hkept with hold | ⟨-, -, hurl⟩
      · exact Or.inl hold
      · exact Or.inr ⟨token, rfl, hurl⟩
  | consume token now => exact Or.inl ((kept_consume token now call).symm.trans hkept)

/-- A step with a fresh token keeps the links apart. -/
theorem LinksApart.step (hapart : store.LinksApart) (h : MemoryReadStep store a store')
    (hfresh : ∀ token, a.mints = some token → store.Unminted token) : store'.LinksApart := by
  obtain rfl := h
  intro call call' payload payload' hkept hkept' hne
  cases a with
  | consume token now =>
      exact hapart ((kept_consume token now call).symm.trans hkept)
        ((kept_consume token now call').symm.trans hkept') hne
  | authorize token exported minting =>
      have hunminted := hfresh token rfl
      rcases kept_authorize_cases hkept with hold | ⟨hkey, -, hurl⟩
      · rcases kept_authorize_cases hkept' with hold' | ⟨-, -, hurl'⟩
        · exact hapart hold hold' hne
        · rw [hurl']
          exact hunminted hold
      · rcases kept_authorize_cases hkept' with hold' | ⟨hkey', -, -⟩
        · rw [hurl]
          exact (hunminted hold').symm
        · exact absurd (hkey.trans hkey'.symm) hne

/-- The tokens of a run are fresh where they are minted. -/
theorem unminted_of_freshTokens (hrun : Run MemoryReadStep store tr store')
    (htokens : FreshTokens tr)
    (hstart : ∀ τ ∈ tr, ∀ token, τ.action.mints = some token → store.Unminted token) :
    ∀ τ ∈ tr, ∀ token, τ.action.mints = some token → τ.before.Unminted token := by
  induction hrun with
  | nil s => exact fun _ hτ => (by cases hτ)
  | @cons s s₁ s' a tr hstep hrest ih =>
      obtain ⟨hhead, htail⟩ := List.pairwise_cons.mp htokens
      have hrest' := ih htail fun τ hτ token hmints call payload hkept => by
        rcases kept_step_cases hstep hkept with hold | ⟨token', hmints', hurl⟩
        · exact hstart τ (List.mem_cons_of_mem _ hτ) token hmints hold
        · intro heq
          obtain rfl := localDownloadLink_injective (hurl.symm.trans heq)
          exact hhead τ hτ hmints' hmints
      intro τ hτ
      rcases List.mem_cons.mp hτ with rfl | hτ
      · exact hstart _ List.mem_cons_self
      · exact hrest' τ hτ

end InMemoryPublicVersionReadStore

/-- **The links of two one-time calls**: one payload under one text, two links under two. -/
def Linked (τ τ' : MemoryReadTransition) : Prop :=
  ∀ ⦃call call' payload payload'⦄, Answers τ call (.ok payload) → Answers τ' call' (.ok payload') →
    call.request.oneTime = true → call'.request.oneTime = true →
    (call.memoryRequestKey = call'.memoryRequestKey → payload = payload') ∧
      (call.memoryRequestKey ≠ call'.memoryRequestKey → payload.url ≠ payload'.url)

section Run

variable {store store' : InMemoryPublicVersionReadStore} {tr : List MemoryReadTransition}
  {τ τ' : MemoryReadTransition}

/-- The one-time calls of a run are linked pairwise. -/
theorem run_linked (hrun : Run MemoryReadStep store tr store') (hapart : store.LinksApart)
    (hfresh : ∀ τ ∈ tr, ∀ token, τ.action.mints = some token → τ.before.Unminted token) :
    tr.Pairwise Linked := by
  have hstep : ∀ {s : InMemoryPublicVersionReadStore} {a : MemoryReadAction}
      {s' : InMemoryPublicVersionReadStore}, s.LinksApart → MemoryReadStep s a s' →
      (∀ token, a.mints = some token → s.Unminted token) → s'.LinksApart :=
    fun hs ha hC => hs.step ha hC
  refine hrun.pairwise_where
    (C := fun τ => ∀ token, τ.action.mints = some token → τ.before.Unminted token) hstep
    (fun {s a s₁ tr s₂} hs ha hC hrest hrestC τ' hτ' => ?_) hapart hfresh
  intro call call' payload payload' hanswer hanswer' honce honce'
  obtain ⟨token, exported, rfl, hresult⟩ := hanswer
  obtain ⟨token', exported', haction', hresult'⟩ := hanswer'
  obtain rfl := ha
  have hkept := InMemoryPublicVersionReadStore.kept_of_authorize honce hresult
  -- what is kept for the first call is still kept after the second
  have hmono : ∀ {s : InMemoryPublicVersionReadStore} {a : MemoryReadAction}
      {s' : InMemoryPublicVersionReadStore}, s.LinksApart ∧ s.kept call = some payload →
      MemoryReadStep s a s' → (∀ token, a.mints = some token → s.Unminted token) →
      s'.LinksApart ∧ s'.kept call = some payload :=
    fun hs ha hC => ⟨hs.1.step ha hC, InMemoryPublicVersionReadStore.kept_step ha hs.2⟩
  obtain ⟨-, hafter⟩ := (hrest.forall_invariant_where
    (C := fun τ => ∀ token, τ.action.mints = some token → τ.before.Unminted token) hmono
    ⟨hs.step rfl hC, hkept⟩ hrestC).2 τ' hτ'
  have hrun' := hrest.step_of_mem τ' hτ'
  have hkept' := InMemoryPublicVersionReadStore.kept_of_authorize honce' hresult'
  rw [haction'] at hrun'
  rw [show (τ'.before.authorize token' exported' call').2 = τ'.after from hrun'] at hkept'
  refine ⟨fun heq => ?_, fun hne => hafter.1 hafter.2 hkept' hne⟩
  rw [InMemoryPublicVersionReadStore.kept_congr heq] at hafter
  exact Option.some.inj (hafter.2.symm.trans hkept')

theorem admits_iff {call : AuthorizationCall} :
    Admits τ call ↔ ∃ payload, Answers τ call (.ok payload) := by
  constructor
  · rintro ⟨token, exported, authorization, haction, hreusable⟩
    obtain ⟨payload, hresult⟩ := InMemoryPublicVersionReadStore.exists_authorize_iff.mpr
      ⟨authorization, hreusable⟩
    exact ⟨payload, token, exported, haction, hresult⟩
  · rintro ⟨payload, token, exported, haction, hresult⟩
    obtain ⟨authorization, hreusable⟩ := InMemoryPublicVersionReadStore.exists_authorize_iff.mp
      ⟨payload, hresult⟩
    exact ⟨token, exported, authorization, haction, hreusable⟩

theorem Linked.callersApart_iff (h : Linked τ τ') : CallersApart τ τ' ↔ TextsApart τ τ' := by
  constructor
  · intro hapart call call' hadmits hadmits' honce honce' hcallers heq
    obtain ⟨payload, hanswer⟩ := admits_iff.mp hadmits
    obtain ⟨payload', hanswer'⟩ := admits_iff.mp hadmits'
    exact (hapart hanswer hanswer' honce honce' hcallers).1
      ((h hanswer hanswer' honce honce').1 heq)
  · intro htexts call call' payload payload' hanswer hanswer' honce honce' hcallers
    have hne := htexts (admits_iff.mpr ⟨_, hanswer⟩) (admits_iff.mpr ⟨_, hanswer'⟩) honce honce'
      hcallers
    have hurl := (h hanswer hanswer' honce honce').2 hne
    exact ⟨fun heq => hurl (congrArg AuthorizationPayload.url heq),
      fun token htoken htoken' => hurl (htoken.trans htoken'.symm)⟩

theorem reuseRejected_iff : ReuseRejected τ τ' ↔ KeyNotReused τ τ' := by
  constructor
  · intro hrejected call call' result hadmits hanswer' hreuses
    obtain ⟨payload, hanswer⟩ := admits_iff.mp hadmits
    have hconflict := hrejected hanswer hanswer' hreuses
    obtain ⟨token, exported, -, hresult⟩ := hanswer'
    exact InMemoryPublicVersionReadStore.authorize_ne_conflict _ (hresult.trans hconflict)
  · intro hkeys call call' payload result hanswer hanswer' hreuses
    exact absurd hreuses (hkeys (admits_iff.mpr ⟨_, hanswer⟩) hanswer')

end Run

/-- **The one-time authorizations of a run**: those of different callers are apart and every
reused key is rejected exactly when no two callers share a text and no caller reuses a
key. -/
theorem authorizations_apart_iff {store store' : InMemoryPublicVersionReadStore}
    {tr : List MemoryReadTransition} (hunused : store.Unused)
    (hrun : Run MemoryReadStep store tr store') (htokens : FreshTokens tr) :
    tr.Pairwise (fun τ τ' => CallersApart τ τ' ∧ ReuseRejected τ τ') ↔
      tr.Pairwise (fun τ τ' => TextsApart τ τ' ∧ KeyNotReused τ τ') := by
  have hfresh := InMemoryPublicVersionReadStore.unminted_of_freshTokens hrun htokens
    fun _ _ token _ => hunused.unminted token
  have hlinked := run_linked hrun hunused.linksApart hfresh
  constructor
  · intro h
    refine (hlinked.and h).imp fun {τ τ'} ⟨hlink, hcallers, hreuse⟩ => ?_
    exact ⟨hlink.callersApart_iff.mp hcallers, reuseRejected_iff.mp hreuse⟩
  · intro h
    refine (hlinked.and h).imp fun {τ τ'} ⟨hlink, htexts, hkeys⟩ => ?_
    exact ⟨hlink.callersApart_iff.mpr htexts, reuseRejected_iff.mpr hkeys⟩

/-! ### Two callers and one key -/

/-- A store with one published version. -/
def sampleReadStore : InMemoryPublicVersionReadStore :=
  .create none
    [{ assetId := "asset-a"
       versionId := "version-a"
       lifecycleState := .published
       deliveries := [⟨"scope-1", "thumbnail"⟩] }]

/-- A caller asks for a one-time link under the key `link`. -/
def sampleLinkCall (callerScopeKey : String) (target : AuthorizationTarget) :
    AuthorizationCall where
  assetId := "asset-a"
  versionId := "version-a"
  target
  request := { callerScopeKey, idempotencyKey := "link", now := 0, oneTime := true }

/-- A one-time authorization that mints a token. -/
def sampleLinkAction (token callerScopeKey : String) (target : AuthorizationTarget) :
    MemoryReadAction :=
  .authorize token (.error "not exported") (sampleLinkCall callerScopeKey target)

/-- The one-time authorizations of a run answer their own call. -/
theorem answers_sampleLinkAction {store store' : InMemoryPublicVersionReadStore}
    {token callerScopeKey : String} {target : AuthorizationTarget} {call : AuthorizationCall}
    {result : Except PublicReadError AuthorizationPayload}
    (h : Answers ⟨store, sampleLinkAction token callerScopeKey target, store'⟩ call result) :
    call = sampleLinkCall callerScopeKey target := by
  obtain ⟨_, _, haction, -⟩ := h
  exact (MemoryReadAction.authorize.inj haction).2.2.symm

/-- Two callers ask for links of their own kind under one key. -/
theorem callers_apart :
    (trace MemoryReadAction.run sampleReadStore
      [sampleLinkAction "token-1" "caller-1" (.source none),
        sampleLinkAction "token-2" "caller-2" (.delivery "scope-1" "thumbnail")]).Pairwise
      (fun τ τ' => CallersApart τ τ' ∧ ReuseRejected τ τ') := by
  refine (authorizations_apart_iff (InMemoryPublicVersionReadStore.create_unused _ _)
    (trace_run MemoryReadAction.run sampleReadStore _) ?_).mpr ?_
  · refine List.pairwise_pair.mpr fun token hmints hmints' => ?_
    have heq := hmints.trans hmints'.symm
    exact absurd (Option.some.inj heq) (by decide)
  · refine List.pairwise_pair.mpr ⟨fun call call' hadmits hadmits' _ _ _ => ?_,
      fun call call' result hadmits hanswer' hreuses => ?_⟩
    · obtain ⟨_, hanswer⟩ := admits_iff.mp hadmits
      obtain ⟨_, hanswer'⟩ := admits_iff.mp hadmits'
      obtain rfl := answers_sampleLinkAction hanswer
      obtain rfl := answers_sampleLinkAction hanswer'
      exact (deliveryKey_ne_sourceKey _ _ _ _ _ _ _ _ _).symm
    · obtain ⟨_, hanswer⟩ := admits_iff.mp hadmits
      obtain rfl := answers_sampleLinkAction hanswer
      obtain rfl := answers_sampleLinkAction hanswer'
      exact absurd hreuses.caller (by decide)

/-- **Two callers get one link.** Both ask for a link to the source under the key `link`; the
second gets the payload of the first. Then the first caller asks for a link to a derivative
under the same key and gets one. -/
theorem callers_share_a_link :
    ∃ store store' tr, store.Unused ∧ Run MemoryReadStep store tr store' ∧ FreshTokens tr ∧
      ¬ tr.Pairwise CallersApart ∧ ¬ tr.Pairwise ReuseRejected := by
  refine ⟨sampleReadStore, _, _, InMemoryPublicVersionReadStore.create_unused _ _,
    trace_run MemoryReadAction.run sampleReadStore
      [sampleLinkAction "token-1" "caller-1" (.source none),
        sampleLinkAction "token-2" "caller-2" (.source none),
        sampleLinkAction "token-3" "caller-1" (.delivery "scope-1" "thumbnail")], ?_,
    fun hapart => ?_, fun hrejected => ?_⟩
  · simp [FreshTokens, trace, MemoryReadAction.mints, sampleLinkAction]
  · obtain ⟨hhead, -⟩ := List.pairwise_cons.mp hapart
    have hpair := hhead _ List.mem_cons_self
    exact (hpair ⟨_, _, rfl, rfl⟩ ⟨_, _, rfl, rfl⟩ rfl rfl (by decide)).1 rfl
  · obtain ⟨hhead, -⟩ := List.pairwise_cons.mp hrejected
    have hpair := hhead _ (List.mem_cons_of_mem _ List.mem_cons_self)
    have hreuses : (sampleLinkCall "caller-1" (.source none)).Reuses
        (sampleLinkCall "caller-1" (.delivery "scope-1" "thumbnail")) :=
      ⟨rfl, rfl, by decide, Or.inl rfl⟩
    have hresult := hpair ⟨_, _, rfl, rfl⟩ ⟨_, _, rfl, rfl⟩ hreuses
    cases hresult

end Cdngine
