import Cdngine.Lifecycle
import Cdngine.PublicRead

/-!
# Authorizations over the Version Lifecycle

The registry with its public read store: the steps of `Lifecycle`, and the calls of
`authorizeSource`, `authorizeDelivery` and `consumeDownloadLink` between them. An
authorization is *permitted* for a version that is neither quarantined nor purged, and for
its source only when the version carries evidence and has not failed validation.

Two branches return a URL without that check: a replay returns before the version is read,
and `authorizeSource` sees only the public lifecycle state, in which a version without
evidence is `processing` and one that failed validation is `failed_retryable`.

## Main results

* `authorization_law_iff`: the calls of a run return a URL only when that is permitted
  exactly when each of its replays, and each of its new source authorizations, happens to
  be made for a version for which it is permitted.
* `authorizes_quarantined_and_unverified`: without that they do not.
-/

open Relational Runs

namespace Cdngine

/-! ### The law -/

/-- The version that a call names. -/
def AuthorizationCall.version? (call : AuthorizationCall) (db : Db) : Option AssetVersion :=
  (db.version? call.versionId).filter fun v => v.assetId == call.assetId

/-- **What an authorization needs**: a version that is neither quarantined nor purged, and
for its source one that carries evidence and has not failed validation. -/
def AuthorizationCall.permitted (call : AuthorizationCall) (db : Db) : Bool :=
  (call.version? db).any fun v =>
    v.lifecycleState ≠ .quarantined && v.lifecycleState ≠ .purged &&
      match call.target with
      | .delivery _ _ => true
      | .source _ => v.carriesEvidence && v.lifecycleState ≠ .failedValidation

/-- **The authorization law** for one call: it returns a URL only when it is permitted, and
writes nothing when it is rejected. -/
structure AuthorizationLaw (call : AuthorizationCall) (db : Db)
    (result : Except RegistryError AuthorizationPayload) (db' : Db) : Prop where
  permitted : ∀ authorization, result = .ok authorization → call.permitted db = true
  rejected : ∀ e, result = .error e → db.SameAuthorizations db'

/-! ### When a call returns a URL -/

section Call

variable {rt : Runtime} {ids : AuthorizationIds} {call : AuthorizationCall} {db : Db}

/-- The version that a call names, as the public read store serves it, unless it is
quarantined or purged. -/
def AuthorizationCall.serves (call : AuthorizationCall) (db : Db) : Bool :=
  (getVersion db call.assetId call.versionId).any fun version =>
    version.lifecycleState ≠ .quarantined && version.lifecycleState ≠ .purged

/-- The ids of a call are new. -/
def AuthorizationIds.areNew (ids : AuthorizationIds) (db : Db) : Bool :=
  db.sourceAccessGrants.rows.all (fun r => r.id ≠ ids.grantId) &&
    db.deliveryAuthorizationAudits.rows.all fun r => r.id ≠ ids.auditId

theorem resolveSource_ok_iff {preferredDisposition : Option SourceDisposition} :
    (∃ prepared, resolveSource rt ids call preferredDisposition db = .ok prepared) ↔
      call.serves db = true := by
  unfold resolveSource getRequiredVersion AuthorizationCall.serves
  cases getVersion db call.assetId call.versionId with
  | none => simp [bind, Except.bind]
  | some version =>
      by_cases hheld : version.lifecycleState = .quarantined ∨ version.lifecycleState = .purged
      · rcases hheld with h | h <;>
          simp [bind, Except.bind, h, throw, throwThe, MonadExceptOf.throw]
      · have hheld' := not_or.mp hheld
        simp [bind, Except.bind, hheld'.1, hheld'.2, pure, Except.pure]

/-- What a source authorization writes: its grant, its audit row and its record have the
ids and the key of the call. -/
theorem resolveSource_rowsFree_iff {preferredDisposition : Option SourceDisposition}
    {prepared : PreparedAuthorization}
    (h : resolveSource rt ids call preferredDisposition db = .ok prepared) :
    prepared.RowsFree db ↔ ids.areNew db = true ∧ db.idempotencyRecord? call.recordKey = none := by
  have hprepared :
    ∃ tenantId, prepared = prepareSource rt ids call preferredDisposition tenantId := by
    obtain ⟨version, -, h⟩ := bind_eq_ok.mp h
    split at h
    · cases h
    · exact ⟨_, (Except.ok.inj h).symm⟩
  obtain ⟨tenantId, rfl⟩ := hprepared
  simp only [AuthorizationIds.areNew, Bool.and_eq_true, List.all_eq_true, decide_eq_true_eq]
  constructor
  · intro hfree
    exact ⟨⟨hfree.grant _ rfl, hfree.audit⟩, hfree.record⟩
  · rintro ⟨⟨hgrant, haudit⟩, hrecord⟩
    refine ⟨fun g hg => ?_, haudit, hrecord⟩
    obtain rfl := Option.some.inj hg
    exact hgrant

theorem findDeliverable_published {assetId versionId deliveryScopeId variant : String}
    {found : Derivative × DeliveryScope}
    (h : findDeliverable db assetId versionId deliveryScopeId variant = some found) :
    ∃ v, (db.version? versionId).filter (fun v => v.assetId == assetId) = some v ∧
      v.lifecycleState = .published := by
  obtain ⟨v, hv, -⟩ := Option.bind_eq_some_iff.mp h
  obtain ⟨hv, hp⟩ := Option.filter_eq_some_iff.mp hv
  obtain ⟨hasset, hstate⟩ := (Bool.and_eq_true _ _).mp hp
  exact ⟨v, Option.filter_eq_some_iff.mpr ⟨hv, hasset⟩, of_decide_eq_true hstate⟩

/-- A delivery authorization is prepared only for a published version. -/
theorem resolveAuthorization_permitted {deliveryScopeId variant : String}
    {prepared : PreparedAuthorization} (htarget : call.target = .delivery deliveryScopeId variant)
    (h : resolveAuthorization rt ids call db = .ok prepared) : call.permitted db = true := by
  unfold resolveAuthorization at h
  rw [htarget] at h
  dsimp only at h
  split at h
  · rename_i derivative deliveryScope hfound
    obtain ⟨v, hv, hstate⟩ := findDeliverable_published hfound
    simp [AuthorizationCall.permitted, AuthorizationCall.version?, hv, hstate, htarget]
  · cases h

/-- **The calls that are decided by a check**, or would be permitted anyway: a readable
record of the call's key and request, and a new source authorization of a version that is
served, are found only where the call is permitted. -/
def AuthorizationCall.checked (rt : Runtime) (ids : AuthorizationIds) (call : AuthorizationCall)
    (db : Db) : Bool :=
  match db.idempotencyRecord? call.recordKey with
  | some record =>
      call.permitted db || record.normalizedRequestHash ≠ some (call.normalizedRequestHash rt) ||
        !(call.buildReplay record.responsePayload).isOk
  | none =>
      match call.target with
      | .delivery _ _ => true
      | .source _ => call.permitted db || !call.serves db || !ids.areNew db

/-- **When a call obeys the law.** -/
theorem authorize_law_iff :
    AuthorizationLaw call db (authorize rt ids call db).1 (authorize rt ids call db).2 ↔
      call.checked rt ids db = true := by
  constructor
  · intro hlaw
    by_cases hpermitted : call.permitted db = true
    · unfold AuthorizationCall.checked
      simp only [hpermitted, Bool.true_or]
      split <;> [rfl; (split <;> rfl)]
    · have hrejected : ∀ authorization, (authorize rt ids call db).1 ≠ .ok authorization :=
        fun authorization h => hpermitted (hlaw.permitted authorization h)
      unfold AuthorizationCall.checked
      split
      · rename_i record hrecord
        by_contra hchecked
        simp only [Bool.or_eq_true, not_or, decide_eq_true_eq, ne_eq, not_not,
          Bool.not_eq_true', Bool.not_eq_false] at hchecked
        obtain ⟨⟨-, hhash⟩, hreadable⟩ := hchecked
        cases hreplay : call.buildReplay record.responsePayload with
        | error e =>
            rw [hreplay] at hreadable
            cases hreadable
        | ok replay =>
            have hload := loadAuthorizationReplay_eq_some.mpr ⟨record, hrecord, hhash, hreplay⟩
            refine hrejected replay ?_
            simp only [authorize, hload]
      · rename_i hnone
        have hload := (@loadAuthorizationReplay_eq_none rt call db).mpr hnone
        split
        · rfl
        · rename_i preferredDisposition htarget
          by_contra hchecked
          simp only [Bool.or_eq_true, not_or, Bool.not_eq_true', Bool.not_eq_false] at hchecked
          obtain ⟨⟨-, hserves⟩, hnew⟩ := hchecked
          obtain ⟨prepared, hresolve⟩ := (@resolveSource_ok_iff rt ids call db
            preferredDisposition).mpr hserves
          obtain ⟨authorization, db', hpersist⟩ := persist_ok_iff.mpr
            ((resolveSource_rowsFree_iff hresolve).mpr ⟨hnew, hnone⟩)
          refine hrejected authorization ?_
          have hresolve' : resolveAuthorization rt ids call db = .ok prepared := by
            rw [resolveAuthorization, htarget]
            exact hresolve
          simp only [authorize, hload, hresolve', transact, hpersist]
  · intro hchecked
    have hcases := authorize_cases rt ids call db
    generalize (authorize rt ids call db).1 = result at hcases ⊢
    generalize (authorize rt ids call db).2 = db' at hcases ⊢
    cases hcases with
    | @replayed replay hreplay =>
        refine ⟨fun authorization h => ?_, (fun e h => by cases h)⟩
        obtain ⟨record, hrecord, hhash, hbuild⟩ := loadAuthorizationReplay_eq_some.mp hreplay
        simpa [AuthorizationCall.checked, hrecord, hhash, hbuild, Except.isOk, Except.toBool]
          using hchecked
    | @accepted prepared db' hreplay hresolve hpersist =>
        refine ⟨fun authorization h => ?_, (fun e h => by cases h)⟩
        have hnone := loadAuthorizationReplay_eq_none.mp hreplay
        cases htarget : call.target with
        | delivery deliveryScopeId variant => exact resolveAuthorization_permitted htarget hresolve
        | source preferredDisposition =>
            have hsource : resolveSource rt ids call preferredDisposition db = .ok prepared := by
              rw [resolveAuthorization, htarget] at hresolve
              exact hresolve
            have hserves := resolveSource_ok_iff.mp ⟨prepared, hsource⟩
            obtain ⟨hnew, -⟩ := (resolveSource_rowsFree_iff hsource).mp
              (persist_ok_iff.mp ⟨_, _, hpersist⟩)
            simpa [AuthorizationCall.checked, hnone, htarget, hserves, hnew] using hchecked
    | rejected => exact ⟨(fun authorization h => by cases h), fun e _ => ⟨rfl, rfl, rfl⟩⟩

end Call

/-! ### The law of a run -/

/-- The steps of the registry with its public read store. -/
inductive PublicReadAction
  | registry (a : RegistryAction)
  | authorize (ids : AuthorizationIds) (call : AuthorizationCall)
  | consumeDownloadLink (token : String) (now : Instant)

/-- **The step function** of the registry with its public read store. -/
def RegistrySystem.nextRead (rt : Runtime) (sys : RegistrySystem) :
    PublicReadAction → Option RegistrySystem
  | .registry a => sys.next rt a
  | .authorize ids call => some { sys with db := (Cdngine.authorize rt ids call sys.db).2 }
  | .consumeDownloadLink token now =>
      some { sys with db := (Cdngine.consumeDownloadLink token now sys.db).2 }

/-- The step relation of the registry with its public read store. -/
def PublicReadStep (rt : Runtime) (sys : RegistrySystem) (a : PublicReadAction)
    (sys' : RegistrySystem) : Prop :=
  sys.nextRead rt a = some sys'

/-- An authorization of a run obeys the law. -/
def ObeysAuthorizationLaw (rt : Runtime) (τ : Transition RegistrySystem PublicReadAction) : Prop :=
  ∀ ids call, τ.action = .authorize ids call →
    AuthorizationLaw call τ.before.db (authorize rt ids call τ.before.db).1 τ.after.db

/-- An authorization of a run is decided by a check, or would be permitted anyway. -/
def IsChecked (rt : Runtime) (τ : Transition RegistrySystem PublicReadAction) : Bool :=
  match τ.action with
  | .authorize ids call => call.checked rt ids τ.before.db
  | _ => true

/-- One step obeys the law exactly when it is checked. -/
theorem PublicReadStep.law_iff {rt : Runtime} {sys sys' : RegistrySystem} {a : PublicReadAction}
    (h : PublicReadStep rt sys a sys') :
    ObeysAuthorizationLaw rt ⟨sys, a, sys'⟩ ↔ IsChecked rt ⟨sys, a, sys'⟩ = true := by
  cases a with
  | registry a => exact ⟨fun _ => rfl, fun _ ids call haction => by cases haction⟩
  | consumeDownloadLink token now =>
      exact ⟨fun _ => rfl, fun _ ids call haction => by cases haction⟩
  | authorize ids call =>
      obtain rfl := Option.some.inj h
      constructor
      · intro hlaw
        exact authorize_law_iff.mp (hlaw ids call rfl)
      · intro hchecked ids' call' haction
        obtain ⟨rfl, rfl⟩ := PublicReadAction.authorize.inj haction
        exact authorize_law_iff.mpr hchecked

/-- **The authorization law of a run.** Over every history of the registry, the calls
return a URL only when that is permitted, and write nothing otherwise, exactly when every
call that finds a readable record of its key and request, and every new source
authorization of a version that is served, is permitted when it is made. -/
theorem authorization_law_iff {rt : Runtime} {sys sys' : RegistrySystem}
    {tr : List (Transition RegistrySystem PublicReadAction)}
    (h : Run (PublicReadStep rt) sys tr sys') :
    (∀ τ ∈ tr, ObeysAuthorizationLaw rt τ) ↔ ∀ τ ∈ tr, IsChecked rt τ = true :=
  forall₂_congr fun τ hτ => (h.step_of_mem τ hτ).law_iff

/-! ### Runs of the law -/

/-- The authorization of the source of the sample version, at an instant. -/
def sampleSourceCall (now : Instant) (oneTime : Bool) : AuthorizationCall where
  assetId := "asset-a"
  versionId := "version-a"
  target := .source none
  request := ⟨"caller-1", "key-1", now, oneTime⟩

/-- A published version is authorized, quarantined, and authorized again under the same
key: the second call returns the URL of the first. -/
def quarantinedReplayActions : List PublicReadAction :=
  processingActions.map .registry ++
    [.registry (.operation
        (.publishVersion .genericAsset "version-a" "scope-1" [] samplePublishedManifest)),
      .authorize ⟨"grant-1", "audit-1"⟩ (sampleSourceCall 100 false),
      .registry (.operation (.operator .quarantine "version-a")),
      .authorize ⟨"grant-2", "audit-2"⟩ (sampleSourceCall 200 false)]

/-- The source of a version that has just been issued is authorized. -/
def unverifiedSourceActions : List PublicReadAction :=
  [.registry (.operation (.issueUploadSession (sampleIssue "a") (sampleIds "a") 10)),
    .authorize ⟨"grant-1", "audit-1"⟩ (sampleSourceCall 20 false)]

/-- A transition is an authorization that returns a URL without being permitted. -/
def AuthorizesForbidden (τ : Transition RegistrySystem PublicReadAction) : Bool :=
  match τ.action with
  | .authorize ids call =>
      (authorize sampleRuntime ids call τ.before.db).1.isOk && !call.permitted τ.before.db
  | _ => false

theorem AuthorizesForbidden.not_obeys {τ : Transition RegistrySystem PublicReadAction}
    (h : AuthorizesForbidden τ = true) : ¬ ObeysAuthorizationLaw sampleRuntime τ := by
  intro hobeys
  unfold AuthorizesForbidden at h
  split at h
  · rename_i ids call haction
    obtain ⟨hok, hforbidden⟩ := (Bool.and_eq_true _ _).mp h
    have hlaw := hobeys ids call haction
    cases hresult : (authorize sampleRuntime ids call τ.before.db).1 with
    | error e =>
        rw [hresult] at hok
        cases hok
    | ok authorization =>
        rw [hlaw.permitted authorization hresult] at hforbidden
        cases hforbidden
  · cases h

/-- A replay returns the URL of a version that has been quarantined since, and a version
without any source evidence has its source authorized. -/
theorem authorizes_quarantined_and_unverified :
    (∃ tr sys', Run (PublicReadStep sampleRuntime) sampleRegistrySystem tr sys' ∧
      sys'.db.lifecycle? "version-a" = some .quarantined ∧
      ¬ ∀ τ ∈ tr, ObeysAuthorizationLaw sampleRuntime τ) ∧
    ∃ tr sys', Run (PublicReadStep sampleRuntime) sampleRegistrySystem tr sys' ∧
      sys'.db.lifecycle? "version-a" = some .sessionCreated ∧
      ¬ ∀ τ ∈ tr, ObeysAuthorizationLaw sampleRuntime τ := by
  constructor
  · obtain ⟨tr, sys', hrun, hstate, τ, hτ, hforbidden⟩ := exists_run_of_exec
      (RegistrySystem.nextRead sampleRuntime) sampleRegistrySystem quarantinedReplayActions
      (fun tr sys' => sys'.db.lifecycle? "version-a" = some .quarantined ∧
        ∃ τ ∈ tr, AuthorizesForbidden τ = true)
      (by decide +kernel)
    exact ⟨tr, sys', hrun, hstate, fun hlaw => AuthorizesForbidden.not_obeys hforbidden (hlaw τ hτ)⟩
  · obtain ⟨tr, sys', hrun, hstate, τ, hτ, hforbidden⟩ := exists_run_of_exec
      (RegistrySystem.nextRead sampleRuntime) sampleRegistrySystem unverifiedSourceActions
      (fun tr sys' => sys'.db.lifecycle? "version-a" = some .sessionCreated ∧
        ∃ τ ∈ tr, AuthorizesForbidden τ = true)
      (by decide +kernel)
    exact ⟨tr, sys', hrun, hstate, fun hlaw => AuthorizesForbidden.not_obeys hforbidden (hlaw τ hτ)⟩

/-- A published version is authorized once and again under the same key, and the link is
exchanged: a run that keeps the law. -/
theorem authorizes_published :
    ∃ tr sys', Run (PublicReadStep sampleRuntime) sampleRegistrySystem tr sys' ∧
      sys'.db.sourceAccessGrants.rows.length = 1 ∧
      ∀ τ ∈ tr, ObeysAuthorizationLaw sampleRuntime τ := by
  obtain ⟨tr, sys', hrun, hgrants, hchecked⟩ := exists_run_of_exec
    (RegistrySystem.nextRead sampleRuntime) sampleRegistrySystem
    (processingActions.map .registry ++
      [.registry (.operation
          (.publishVersion .genericAsset "version-a" "scope-1" [] samplePublishedManifest)),
        .authorize ⟨"grant-1", "audit-1"⟩ (sampleSourceCall 100 true),
        .authorize ⟨"grant-2", "audit-2"⟩ (sampleSourceCall 200 true),
        .consumeDownloadLink "grant-1" 300])
    (fun tr sys' => sys'.db.sourceAccessGrants.rows.length = 1 ∧
      ∀ τ ∈ tr, IsChecked sampleRuntime τ = true)
    (by decide +kernel)
  exact ⟨tr, sys', hrun, hgrants, (authorization_law_iff hrun).mpr hchecked⟩

end Cdngine
