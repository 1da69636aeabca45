import Cdngine.Completion
import Cdngine.JsonText
import Cdngine.PublicReadSessions

/-!
# Authorizations under One Idempotency Key

What the calls of one caller under one idempotency key return, over every interleaving of
any number of authorizations and exchanges. The record of an authorization is found by its
caller, its key and its *operation key*, which names the asset, the version and for a
delivery the scope; everything else about the request is compared by its hash.

Calls that share an operation key replay the first of them, or conflict with it. Calls
that do not never see each other's record: a key that is used again for another asset,
version, scope or for the other kind of authorization is not rejected.

## Main results

* `ReplayInv`: a record belongs to the one call that committed it.
* `authorization_replays`: the law of the calls under one key, in every state of every run,
  when they share an operation key and their hashes do not collide.
* `two_assets_share_a_key`: without that it fails.
-/

open Relational Runs ReadCommitted

namespace Cdngine

variable {ι : Type}

/-! ### URLs -/

/-- The URL behind an authorization. -/
def PreparedAuthorization.upstreamUrl (prepared : PreparedAuthorization) : String :=
  match prepared.grant with
  | some grant => (grant.downloadLinkRecord grant.id).url
  | none => prepared.audit.requestMetadata.url

theorem downloadLink_injective {token token' : String}
    (h : downloadLink token = downloadLink token') :
    token = token' := by
  exact (String.append_right_inj _).mp h

theorem downloadLink_begins (token : String) : Begins ['/', 'd'] (downloadLink token) := by
  have h₀ : Begins ['/', 'd'] "/download-links/" := by unfold Begins; decide
  exact h₀.append token

/-- A link is never what an authorization gives access to. -/
theorem proxyPath_ne_downloadLink (assetId versionId grantId token : String)
    (preferredDisposition : Option SourceDisposition) :
    proxyPath assetId versionId grantId preferredDisposition ≠ downloadLink token := by
  have h₀ : Begins ['/', 'v'] "/v1/assets/" := by unfold Begins; decide
  have h₁ := h₀.append assetId
  have h₂ := h₁.append "/versions/"
  have h₃ := h₂.append versionId
  have h₄ := h₃.append "/source/proxy?grantId="
  have h₅ := h₄.append grantId
  exact (h₅.append _).ne (downloadLink_begins token) rfl (by decide)

theorem buildDeliveryUrl_ne_downloadLink (deliveryScope : DeliveryScope)
    (storageKey : Option String) (token : String) :
    buildDeliveryUrl deliveryScope storageKey ≠ downloadLink token := by
  have h₀ : Begins ['h', 't'] "https://" := by unfold Begins; decide
  have h₁ := h₀.append deliveryScope.hostname
  unfold buildDeliveryUrl
  exact (((h₁.append _).append "/").append _).ne (downloadLink_begins token) rfl (by decide)

section Prepared

variable {rt : Runtime} {ids : AuthorizationIds} {call : AuthorizationCall}
  {prepared : PreparedAuthorization}

theorem PreparedBy.upstreamUrl_ne (h : PreparedBy rt ids call prepared) (token : String) :
    prepared.upstreamUrl ≠ downloadLink token := by
  cases h with
  | source tenantId h => exact proxyPath_ne_downloadLink _ _ _ _ _
  | delivery deliveryScope storageKey h => exact buildDeliveryUrl_ne_downloadLink _ _ _

/-- The URL of an authorization: the link of its token, or what is behind it. -/
theorem PreparedBy.url (h : PreparedBy rt ids call prepared) :
    prepared.authorization.url =
      if call.request.oneTime then downloadLink ids.grantId else prepared.upstreamUrl := by
  cases h <;> rfl

theorem PreparedBy.oneTime (h : PreparedBy rt ids call prepared) :
    prepared.authorization.oneTime = call.request.oneTime := by
  cases h <;> rfl

theorem readReplayString_eq {value key read : String} (h : readReplayString value key = .ok read) :
    read = value := by
  unfold readReplayString at h
  split at h
  · cases h
  · exact (Except.ok.inj h).symm

/-- What the record of a call replays to a call for the same kind of target. -/
theorem PreparedBy.buildReplay {replay : AuthorizationPayload} (h : PreparedBy rt ids call prepared)
    (hreplay : call.buildReplay (some prepared.authorization) = .ok replay) :
    replay = prepared.authorization := by
  cases h with
  | source tenantId htarget =>
      rw [AuthorizationCall.buildReplay, htarget] at hreplay
      simp only [buildSourceAuthorizationReplay, bind_eq_ok] at hreplay
      obtain ⟨_, h₁, _, h₂, _, h₃, _, h₄, _, h₅, hreplay⟩ := hreplay
      rw [← Except.ok.inj hreplay, readReplayString_eq h₁, readReplayString_eq h₂,
        readReplayString_eq h₃, readReplayString_eq h₄, readReplayString_eq h₅]
      rfl
  | delivery deliveryScope storageKey htarget =>
      rw [AuthorizationCall.buildReplay, htarget] at hreplay
      simp only [buildDeliveryAuthorizationReplay, bind_eq_ok] at hreplay
      obtain ⟨_, h₁, _, h₂, _, h₃, _, h₄, _, h₅, _, h₆, hreplay⟩ := hreplay
      rw [← Except.ok.inj hreplay, readReplayString_eq h₁, readReplayString_eq h₂,
        readReplayString_eq h₃, readReplayString_eq h₄, readReplayString_eq h₅,
        readReplayString_eq h₆]
      rfl

end Prepared

/-! ### What a record key and a request hash determine -/

/-- What an authorization asks for. -/
structure AuthorizationSubject where
  assetId : String
  versionId : String
  target : AuthorizationTarget
  oneTime : Bool
  deriving DecidableEq, Repr

namespace AuthorizationCall

def subject (call : AuthorizationCall) : AuthorizationSubject where
  assetId := call.assetId
  versionId := call.versionId
  target := call.target
  oneTime := call.request.oneTime

/-- The text whose digest is the request hash. -/
def requestText (rt : Runtime) (call : AuthorizationCall) : String :=
  stableJson rt (.object call.requestFields)

variable {rt : Runtime} {call call' : AuthorizationCall}

theorem requestFields_flat : ∀ e ∈ call.requestFields, e.2.Flat := by
  intro e he
  unfold requestFields at he
  split at he
  · simp only [List.mem_cons, List.not_mem_nil, or_false] at he
    rcases he with rfl | rfl | rfl | rfl | rfl | rfl <;> constructor
  · simp only [List.mem_cons, List.not_mem_nil, or_false] at he
    rcases he with rfl | rfl | rfl | rfl | rfl <;> constructor

theorem dispositionText_injective {d d' : Option SourceDisposition}
    (h : dispositionText d = dispositionText d') : d = d' := by
  revert h
  cases d with
  | none =>
      cases d' with
      | none => exact fun _ => rfl
      | some d' => cases d' <;> decide
  | some d =>
      cases d' with
      | none => cases d <;> decide
      | some d' => cases d <;> cases d' <;> decide

theorem deliveryOperationKey_begins (assetId deliveryScopeId versionId : String) :
    Begins ['d'] (buildDeliveryAuthorizationOperationKey assetId deliveryScopeId versionId) := by
  have h₀ : Begins ['d'] "delivery:authorize:" := by unfold Begins; decide
  have h₁ := h₀.append assetId
  have h₂ := h₁.append ":"
  have h₃ := h₂.append versionId
  have h₄ := h₃.append ":"
  exact h₄.append deliveryScopeId

theorem sourceOperationKey_begins (assetId versionId : String) :
    Begins ['s'] (buildSourceAuthorizationOperationKey assetId versionId) := by
  have h₀ : Begins ['s'] "source:authorize:" := by unfold Begins; decide
  have h₁ := h₀.append assetId
  have h₂ := h₁.append ":"
  exact h₂.append versionId

/-- An operation key says for which kind of target it is. -/
theorem operationKey_ne {deliveryScopeId variant : String} {d : Option SourceDisposition}
    (h : call.target = .delivery deliveryScopeId variant) (h' : call'.target = .source d) :
    call.operationKey ≠ call'.operationKey := by
  simp only [operationKey, h, h']
  exact (deliveryOperationKey_begins _ _ _).ne (sourceOperationKey_begins _ _) rfl (by decide)

/-- Calls with one operation key read a record in the same way. -/
theorem buildReplay_eq (h : call.operationKey = call'.operationKey) :
    call.buildReplay = call'.buildReplay := by
  unfold buildReplay
  cases htarget : call.target with
  | delivery deliveryScopeId variant =>
      cases htarget' : call'.target with
      | delivery deliveryScopeId' variant' => rfl
      | source d' => exact absurd h (operationKey_ne htarget htarget')
  | source d =>
      cases htarget' : call'.target with
      | delivery deliveryScopeId' variant' => exact absurd h.symm (operationKey_ne htarget' htarget)
      | source d' => rfl

/-- A replay has the URL of the record. -/
theorem buildReplay_url {payload : Option AuthorizationPayload} {replay : AuthorizationPayload}
    (h : call.buildReplay payload = .ok replay) :
    ∃ record, payload = some record ∧ replay.url = record.url := by
  rw [buildReplay] at h
  cases payload with
  | none => cases htarget : call.target <;> rw [htarget] at h <;> cases h
  | some record =>
      refine ⟨record, rfl, ?_⟩
      cases htarget : call.target with
      | delivery deliveryScopeId variant =>
          rw [htarget] at h
          simp only [buildDeliveryAuthorizationReplay, bind_eq_ok] at h
          obtain ⟨_, -, _, -, _, -, _, -, _, hurl, _, -, h⟩ := h
          rw [← Except.ok.inj h, readReplayString_eq hurl]
      | source d =>
          rw [htarget] at h
          simp only [buildSourceAuthorizationReplay, bind_eq_ok] at h
          obtain ⟨_, -, _, -, _, -, _, hurl, _, -, h⟩ := h
          rw [← Except.ok.inj h, readReplayString_eq hurl]

/-- **The hashed text holds everything that a request asks for.** -/
theorem subject_eq_of_requestText (hkey : call.operationKey = call'.operationKey)
    (htext : call.requestText rt = call'.requestText rt) : call.subject = call'.subject := by
  have hkeys : call.requestFields.map (·.1) = call'.requestFields.map (·.1) := by
    unfold requestFields
    cases htarget : call.target with
    | delivery deliveryScopeId variant =>
        cases htarget' : call'.target with
        | delivery deliveryScopeId' variant' => rfl
        | source d' => exact absurd hkey (operationKey_ne htarget htarget')
    | source d =>
        cases htarget' : call'.target with
        | delivery deliveryScopeId' variant' =>
            exact absurd hkey.symm (operationKey_ne htarget' htarget)
        | source d' => rfl
  have hfields := stableJson_object_inj hkeys requestFields_flat requestFields_flat htext
  unfold requestFields at hfields
  unfold subject
  cases htarget : call.target with
  | delivery deliveryScopeId variant =>
      cases htarget' : call'.target with
      | delivery deliveryScopeId' variant' =>
          simp only [htarget, htarget', List.cons.injEq, Prod.mk.injEq, JsValue.string.injEq,
            JsValue.boolean.injEq, true_and, and_true] at hfields
          obtain ⟨hasset, hscope, hone, hvariant, hversion⟩ := hfields
          rw [hasset, hscope, hone, hvariant, hversion]
      | source d' => exact absurd hkey (operationKey_ne htarget htarget')
  | source d =>
      cases htarget' : call'.target with
      | delivery deliveryScopeId' variant' =>
          exact absurd hkey.symm (operationKey_ne htarget' htarget)
      | source d' =>
          simp only [htarget, htarget', List.cons.injEq, Prod.mk.injEq, JsValue.string.injEq,
            JsValue.boolean.injEq, true_and, and_true] at hfields
          obtain ⟨hasset, hone, hdisposition, hversion⟩ := hfields
          rw [hasset, hone, dispositionText_injective hdisposition, hversion]

end AuthorizationCall

/-! ### Who committed a record -/

section Steps

variable {rt : Runtime} {calls : ι → PublicReadCall} {i : ι} {location : PublicReadLocation}
    {db : Db}
  {prepared : PreparedAuthorization}

/-- **Where a step leads**: a commit authorizes, an update outside a transaction exchanges,
and no other step does either. -/
theorem publicReadCode_next {next : PublicReadLocation}
    (h : (publicReadCode rt calls i location db).next? = some next) :
    (publicReadCode rt calls i location db = .commit next ∧
      ∃ prepared, next = .authorized prepared) ∨
    ((∃ w, publicReadCode rt calls i location db = .autocommit w next) ∧
      ∃ link, next = .exchanged link) ∨
    ((∀ prepared, next ≠ .authorized prepared) ∧ ∀ link, next ≠ .exchanged link) := by
  revert h
  rw [publicReadCode]
  cases calls i with
  | authorize ids call =>
      cases location with
      | loadReplay => simp only [authorizeCode]; split <;> rintro ⟨⟩ <;> simp
      | resolve => simp only [authorizeCode]; split <;> split <;> rintro ⟨⟩ <;> simp
      | explain => rintro ⟨⟩; simp
      | persist prepared todo =>
          cases todo with
          | nil => rintro ⟨⟩; simp [authorizeCode]
          | cons s todo =>
              simp only [authorizeCode]
              split
              · rintro ⟨⟩; simp
              · rintro ⟨⟩; split <;> simp
      | reload e => simp only [authorizeCode]; split <;> rintro ⟨⟩ <;> simp
      | _ => rintro ⟨⟩
  | consumeDownloadLink token now =>
      cases location with
      | findGrant => simp only [consumeCode]; split <;> rintro ⟨⟩ <;> simp
      | findAudit => simp only [consumeCode]; split <;> rintro ⟨⟩ <;> simp
      | markGrant grant => simp only [consumeCode]; split <;> rintro ⟨⟩ <;> simp
      | markAudit audit link => simp only [consumeCode]; split <;> rintro ⟨⟩ <;> simp
      | _ => rintro ⟨⟩

/-- An authorized call makes no further step. -/
theorem publicReadCode_authorized :
    publicReadCode rt calls i (.authorized prepared) db = .halt := by
  rw [publicReadCode]
  cases calls i <;> rfl

/-- An exchanged call makes no further step. -/
theorem publicReadCode_exchanged {link : RegistryPublicDownloadLinkRecord} :
    publicReadCode rt calls i (.exchanged link) db = .halt := by
  rw [publicReadCode]
  cases calls i <;> rfl

end Steps

/-- **The invariant of the records.** A record is one of before the calls, or belongs to
exactly one authorized call. -/
structure ReplayInv (rt : Runtime) (calls : ι → PublicReadCall) (db₀ : Db)
    (sys : PublicReadSystem ι) :
    Prop where
  satisfies : sys.Satisfies (MintedRows calls) (SessionInv rt calls)
  unique {i j : ι} {ids ids' : AuthorizationIds} {call call' : AuthorizationCall}
    {prepared prepared' : PreparedAuthorization} : calls i = .authorize ids call →
    calls j = .authorize ids' call' → (sys.session i).location = .authorized prepared →
    (sys.session j).location = .authorized prepared' → call.recordKey = call'.recordKey → i = j
  origin : ∀ r ∈ sys.db.idempotencyRecords.rows, r ∈ db₀.idempotencyRecords.rows ∨
    ∃ i prepared, (sys.session i).location = .authorized prepared ∧ prepared.record = r

section Invariant

variable [DecidableEq ι] {rt : Runtime} {calls : ι → PublicReadCall} {db₀ : Db}
  {sys sys' : PublicReadSystem ι} {i j : ι}

omit [DecidableEq ι] in
/-- An authorized call, with what it has prepared and recorded. -/
theorem ReplayInv.authorized {prepared : PreparedAuthorization} (h : ReplayInv rt calls db₀ sys)
    (hlocation : (sys.session i).location = .authorized prepared) :
    ∃ ids call, calls i = .authorize ids call ∧ PreparedBy rt ids call prepared ∧
      prepared.record ∈ sys.db.idempotencyRecords.rows := by
  have hown := h.satisfies.own i
  unfold SessionInv at hown
  cases hcall : calls i with
  | authorize ids call =>
      rw [hcall] at hown
      dsimp only at hown
      rw [AuthorizeInv, hlocation] at hown
      exact ⟨ids, call, rfl, hown.2.1, hown.2.2.1⟩
  | consumeDownloadLink token now =>
      rw [hcall] at hown
      dsimp only at hown
      rw [ConsumeInv, hlocation] at hown
      exact hown.2.elim

/-- A step of a call that is not a commit moves no record, and no call to or from being
authorized. -/
theorem ReplayInv.set {db : Db} {s : Session Db AuthorizationRow PublicReadLocation}
    (h : ReplayInv rt calls db₀ sys)
    (hsatisfies : (sys.set i db s).Satisfies (MintedRows calls) (SessionInv rt calls))
    (hbefore : ∀ prepared, (sys.session i).location ≠ .authorized prepared)
    (hafter : ∀ prepared, s.location ≠ .authorized prepared)
    (hrecords : db.idempotencyRecords = sys.db.idempotencyRecords) :
    ReplayInv rt calls db₀ (sys.set i db s) := by
  have hold : ∀ {k prepared}, ((sys.set i db s).session k).location = .authorized prepared →
      (sys.session k).location = .authorized prepared := by
    intro k prepared hk
    by_cases hki : k = i
    · subst hki
      rw [System.set_session_self] at hk
      exact absurd hk (hafter prepared)
    · rwa [System.set_session_of_ne hki] at hk
  refine ⟨hsatisfies, fun hi hj hli hlj => h.unique hi hj (hold hli) (hold hlj), fun r hr => ?_⟩
  rw [System.set_db, hrecords] at hr
  refine (h.origin r hr).imp_right fun ⟨k, prepared, hk, hrecord⟩ => ⟨k, prepared, ?_, hrecord⟩
  have hki : k ≠ i := by
    rintro rfl
    exact hbefore prepared hk
  rwa [System.set_session_of_ne hki]

/-- The commit of a call finds no record of its key. -/
theorem ReplayInv.set_commit {ids : AuthorizationIds} {call : AuthorizationCall}
    {prepared : PreparedAuthorization} {db : Db} (h : ReplayInv rt calls db₀ sys)
    (hsatisfies : (sys.set i db ⟨.authorized prepared, []⟩).Satisfies (MintedRows calls)
      (SessionInv rt calls))
    (hcall : calls i = .authorize ids call)
    (hbefore : ∀ prepared, (sys.session i).location ≠ .authorized prepared)
    (hnone : sys.db.idempotencyRecord? call.recordKey = none)
    (hinserts : sys.db.Inserts prepared.statements db) :
    ReplayInv rt calls db₀ (sys.set i db ⟨.authorized prepared, []⟩) := by
  have hother : ∀ {k ids' call' prepared'}, k ≠ i → calls k = .authorize ids' call' →
      (sys.session k).location = .authorized prepared' → call.recordKey ≠ call'.recordKey := by
    intro k ids' call' prepared' hki hk hlocation hkey
    obtain ⟨ids'', call'', hk', hprepared, hrecord⟩ := h.authorized hlocation
    obtain ⟨rfl, rfl⟩ := PublicReadCall.authorize.inj (hk.symm.trans hk')
    have hsome := Db.idempotencyRecord?_eq_some_iff.mpr
      ⟨hrecord, hprepared.record_key.trans hkey.symm⟩
    rw [hnone] at hsome
    cases hsome
  refine ⟨hsatisfies, ?_, fun r hr => ?_⟩
  · intro j k ids₁ ids₂ call₁ call₂ prepared₁ prepared₂ hj hk hlj hlk hkey
    by_cases hji : j = i
    · by_cases hki : k = i
      · exact hji.trans hki.symm
      · subst hji
        rw [System.set_session_of_ne hki] at hlk
        obtain ⟨rfl, rfl⟩ := PublicReadCall.authorize.inj (hcall.symm.trans hj)
        exact absurd hkey (hother hki hk hlk)
    · rw [System.set_session_of_ne hji] at hlj
      by_cases hki : k = i
      · subst hki
        obtain ⟨rfl, rfl⟩ := PublicReadCall.authorize.inj (hcall.symm.trans hk)
        exact absurd hkey.symm (hother hji hj hlj)
      · rw [System.set_session_of_ne hki] at hlk
        exact h.unique hj hk hlj hlk hkey
  · rcases hinserts.new_record r hr with hold | hnew
    · refine (h.origin r hold).imp_right fun ⟨k, prepared', hk, hrecord⟩ =>
        ⟨k, prepared', ?_, hrecord⟩
      have hki : k ≠ i := by
        rintro rfl
        exact hbefore prepared' hk
      rwa [System.set_session_of_ne hki]
    · refine .inr ⟨i, prepared, by rw [System.set_session_self], ?_⟩
      have hrecord : r = prepared.record := by
        simpa [PreparedAuthorization.statements] using hnew
      exact hrecord.symm

/-- **One step keeps the invariant of the records.** -/
theorem ReplayInv.step {e : Event ι Db} (hfresh : FreshIds db₀ calls)
    (h : ReplayInv rt calls db₀ sys)
    (hstep : Step (publicReadCode rt calls) Db.SameAuthorizations sys e sys') :
    ReplayInv rt calls db₀ sys' := by
  have hsatisfies := (publicRead_invariant hfresh).step h.satisfies hstep fun _ _ => trivial
  cases e with
  | environment db =>
      cases hstep with
      | environment henv =>
          refine ⟨hsatisfies, h.unique, fun r hr => h.origin r ?_⟩
          rwa [henv.idempotencyRecords] at hr
  | session i =>
      have hactive : ∀ {action : Action Db AuthorizationRow PublicReadLocation},
          publicReadCode rt calls i (sys.session i).location ((sys.session i).view sys.db) =
            action →
          action ≠ .halt → ∀ prepared, (sys.session i).location ≠ .authorized prepared := by
        intro action hcode hhalt prepared hlocation
        rw [hlocation, publicReadCode_authorized] at hcode
        exact hhalt hcode.symm
      have hnext : ∀ {action : Action Db AuthorizationRow PublicReadLocation} {next},
          publicReadCode rt calls i (sys.session i).location ((sys.session i).view sys.db) =
            action →
          action.next? = some next → (∀ next', action ≠ .commit next') →
          ∀ prepared, next ≠ .authorized prepared := by
        intro action next hcode haction hcommit prepared hnext
        subst hnext
        rcases publicReadCode_next (hcode ▸ haction) with ⟨hcode', -⟩ | ⟨-, link, heq⟩ | ⟨hne, -⟩
        · exact hcommit _ (hcode.symm.trans hcode')
        · cases heq
        · exact hne prepared rfl
      cases step_cases hstep with
      | query hcode =>
          exact h.set hsatisfies (hactive hcode (by simp)) (hnext hcode rfl (by simp)) rfl
      | write hcode hfree =>
          exact h.set hsatisfies (hactive hcode (by simp)) (hnext hcode rfl (by simp)) rfl
      | rollback hcode =>
          exact h.set hsatisfies (hactive hcode (by simp)) (hnext hcode rfl (by simp)) rfl
      | autocommit hcode hfree =>
          refine h.set hsatisfies (hactive hcode (by simp)) (hnext hcode rfl (by simp)) ?_
          obtain ⟨token, now, hcall, hconsume⟩ := publicReadCode_autocommit hcode
          have hown := h.satisfies.own i
          unfold SessionInv at hown
          rw [hcall] at hown
          exact (ConsumeInv.autocommit h.satisfies.db hown hconsume).1.record
      | commit hcode =>
          obtain ⟨ids, call, prepared, hcall, -, rfl, -, -, -, hnone, happly⟩ :=
            publicReadCode_commit (h.satisfies.own i) hcode
          exact h.set_commit hsatisfies hcall (hactive hcode (by simp)) hnone
            (applyStatements_rows happly).1

/-- The invariant of the records, in every state of every run. -/
theorem ReplayInv.run {tr : List (Transition (PublicReadSystem ι) (Event ι Db))}
    (hfresh : FreshIds db₀ calls)
    (hrun : Run (Step (publicReadCode rt calls) Db.SameAuthorizations)
      (publicReadSystem db₀ calls) tr sys') :
    ReplayInv rt calls db₀ sys' ∧
      ∀ τ ∈ tr, ReplayInv rt calls db₀ τ.before ∧ ReplayInv rt calls db₀ τ.after := by
  have hstart : ReplayInv rt calls db₀ (publicReadSystem db₀ calls) := by
    refine ⟨publicReadSystem_satisfies hfresh, ?_, fun r hr => .inl hr⟩
    intro i j ids ids' call call' prepared prepared' hi _ hli
    have hlocation : (calls i).start = .authorized prepared := hli
    rw [hi] at hlocation
    cases hlocation
  exact hrun.forall_invariant_where (C := fun _ => True) (fun h hstep _ => h.step hfresh hstep)
    hstart fun _ _ => trivial

end Invariant

/-! ### The law of a key -/

/-- A session authorizes under a caller and a key. -/
structure Keyed (calls : ι → PublicReadCall) (callerScopeKey idempotencyKey : String) (i : ι)
    (ids : AuthorizationIds) (call : AuthorizationCall) : Prop where
  call_eq : calls i = .authorize ids call
  callerScopeKey_eq : call.request.callerScopeKey = callerScopeKey
  idempotencyKey_eq : call.request.idempotencyKey = idempotencyKey

/-- A grant or an audit row of a call is there. -/
def AuthorizationIds.Written (ids : AuthorizationIds) (db : Db) : Prop :=
  (∃ g ∈ db.sourceAccessGrants.rows, g.id = ids.grantId) ∨
    ∃ a ∈ db.deliveryAuthorizationAudits.rows, a.id = ids.auditId

/-- A rejection of a call: its key belongs to another request, or its version was not found
or not ready. -/
inductive AuthorizationCall.Refused (call : AuthorizationCall) : RegistryError → Prop
  | conflict : call.Refused (.publicReadIdempotencyConflict call.request.idempotencyKey)
  | notFound : call.Refused (.publicAssetVersionNotFound call.assetId call.versionId)
  | notReady (state : String) :
      call.Refused (.publicVersionNotReady call.assetId call.versionId state)

/-- **The law of a caller and a key**, in one state. -/
structure KeyLaw (calls : ι → PublicReadCall) (callerScopeKey idempotencyKey : String)
    (sys : PublicReadSystem ι) : Prop where
  /-- All successful calls return the same payload. -/
  same_payload {i j : ι} {ids ids' : AuthorizationIds} {call call' : AuthorizationCall}
    {payload payload' : AuthorizationPayload} :
    Keyed calls callerScopeKey idempotencyKey i ids call →
    Keyed calls callerScopeKey idempotencyKey j ids' call' →
    (sys.session i).location.payload = some payload →
    (sys.session j).location.payload = some payload' → payload = payload'
  /-- At most one call has written its grant and its audit row. -/
  one_writer {i j : ι} {ids ids' : AuthorizationIds} {call call' : AuthorizationCall} :
    Keyed calls callerScopeKey idempotencyKey i ids call →
    Keyed calls callerScopeKey idempotencyKey j ids' call' →
    ids.Written sys.db → ids'.Written sys.db → i = j
  /-- A call that asks for something else than an accepted one is rejected. -/
  rejected {i j : ι} {ids ids' : AuthorizationIds} {call call' : AuthorizationCall}
    {prepared : PreparedAuthorization} :
    Keyed calls callerScopeKey idempotencyKey i ids call →
    Keyed calls callerScopeKey idempotencyKey j ids' call' →
    (sys.session i).location = .authorized prepared → call'.subject ≠ call.subject →
    (sys.session j).location.payload = none ∧
      ∀ e, (sys.session j).location = .failed e → call'.Refused e
  /-- What a call returns was authorized for a call of the same caller and key. -/
  own_payload {i : ι} {ids : AuthorizationIds} {call : AuthorizationCall}
    {payload : AuthorizationPayload} :
    Keyed calls callerScopeKey idempotencyKey i ids call →
    (sys.session i).location.payload = some payload →
    ∃ j ids' call' prepared, Keyed calls callerScopeKey idempotencyKey j ids' call' ∧
      (sys.session j).location = .authorized prepared ∧ payload = prepared.authorization
  /-- A call of another caller does not return the link of a call. -/
  own_token {i j : ι} {ids ids' : AuthorizationIds} {call call' : AuthorizationCall}
    {payload payload' : AuthorizationPayload} {token : String} :
    Keyed calls callerScopeKey idempotencyKey i ids call → calls j = .authorize ids' call' →
    call'.request.callerScopeKey ≠ callerScopeKey →
    (sys.session i).location.payload = some payload →
    (sys.session j).location.payload = some payload' →
    payload.url = downloadLink token → payload'.url ≠ downloadLink token

/-- A call that asks for something else than an accepted one, and looks its record up
after that, is rejected with a conflict. -/
def Transition.RejectsReuse (calls : ι → PublicReadCall) (callerScopeKey idempotencyKey : String)
    (τ : Transition (PublicReadSystem ι) (Event ι Db)) : Prop :=
  ∀ {i j ids ids' call call' prepared}, Keyed calls callerScopeKey idempotencyKey i ids call →
    Keyed calls callerScopeKey idempotencyKey j ids' call' →
    (τ.before.session i).location = .authorized prepared → call'.subject ≠ call.subject →
    τ.action = .session j → (τ.before.session j).location = .loadReplay →
    (τ.after.session j).location = .failed (.publicReadIdempotencyConflict idempotencyKey)

/-- The calls of a caller and a key share an operation key. -/
def OneOperation (calls : ι → PublicReadCall) (callerScopeKey idempotencyKey : String) : Prop :=
  ∀ {i j ids ids' call call'}, Keyed calls callerScopeKey idempotencyKey i ids call →
    Keyed calls callerScopeKey idempotencyKey j ids' call' → call.operationKey = call'.operationKey

/-- The digests of the calls' requests do not collide. -/
def NoCollision (rt : Runtime) (calls : ι → PublicReadCall) : Prop :=
  ∀ {i j ids ids' call call'}, calls i = .authorize ids call → calls j = .authorize ids' call' →
    call.normalizedRequestHash rt = call'.normalizedRequestHash rt →
    call.requestText rt = call'.requestText rt

/-- No record of before the calls returns the link of one of them. -/
def FreshLinks (db : Db) (calls : ι → PublicReadCall) : Prop :=
  ∀ {i ids call}, calls i = .authorize ids call → ∀ r ∈ db.idempotencyRecords.rows,
    ∀ payload, r.responsePayload = some payload → payload.url ≠ downloadLink ids.grantId

/-- No call of a caller and a key has a record before the calls. -/
def FirstUse (db : Db) (calls : ι → PublicReadCall) (callerScopeKey idempotencyKey : String) :
    Prop :=
  ∀ {i ids call}, Keyed calls callerScopeKey idempotencyKey i ids call →
    ∀ r ∈ db.idempotencyRecords.rows, r.key ≠ call.recordKey

section Law

variable {rt : Runtime} {calls : ι → PublicReadCall} {db₀ : Db}
    {callerScopeKey idempotencyKey : String}
  {sys sys' : PublicReadSystem ι} {i j : ι} {ids ids' : AuthorizationIds}
  {call call' : AuthorizationCall} {prepared : PreparedAuthorization}
  {payload : AuthorizationPayload}

/-- What an authorization call has returned is its own, or that of a record of its key. -/
theorem SessionInv.payload_cases {s : Session Db AuthorizationRow PublicReadLocation} {db : Db}
    (h : SessionInv rt calls i s db) (hcall : calls i = .authorize ids call)
    (hpayload : s.location.payload = some payload) :
    (∃ prepared, s.location = .authorized prepared ∧ payload = prepared.authorization) ∨
      ∃ r ∈ db.idempotencyRecords.rows, r.key = call.recordKey ∧
        r.normalizedRequestHash = some (call.normalizedRequestHash rt) ∧
        call.buildReplay r.responsePayload = .ok payload := by
  unfold SessionInv at h
  rw [hcall] at h
  obtain ⟨location, pending⟩ := s
  cases location with
  | authorized prepared => exact .inl ⟨prepared, rfl, (Option.some.inj hpayload).symm⟩
  | replayed authorization =>
      obtain rfl := Option.some.inj hpayload
      exact .inr h.2.2
  | _ => cases hpayload

/-- A call whose rows are there is authorized. -/
theorem SessionInv.authorized_of_written {s : Session Db AuthorizationRow PublicReadLocation}
    {db : Db} (h : SessionInv rt calls i s db) (hcall : calls i = .authorize ids call)
    (hwritten : ids.Written db) : ∃ prepared, s.location = .authorized prepared := by
  have hused : ¬ ids.Unused db := by
    intro hunused
    rcases hwritten with ⟨g, hg, hid⟩ | ⟨a, ha, hid⟩
    · exact hunused.grant g hg hid
    · exact hunused.audit a ha hid
  unfold SessionInv at h
  rw [hcall] at h
  obtain ⟨location, pending⟩ := s
  cases location with
  | authorized prepared => exact ⟨prepared, rfl⟩
  | loadReplay => exact absurd h.2 hused
  | resolve => exact absurd h.2 hused
  | explain => exact absurd h.2 hused
  | persist prepared todo => exact absurd h.2.1 hused
  | reload e => exact absurd h.2.1 hused
  | replayed authorization => exact absurd h.2.1 hused
  | failed e => exact absurd h.2.1 hused
  | _ => exact h.elim

/-- **The record that a call finds** belongs to an authorized call of the same caller and
key. -/
theorem ReplayInv.authorized_of_record {r : IdempotencyRecord} (h : ReplayInv rt calls db₀ sys)
    (hfirst : FirstUse db₀ calls callerScopeKey idempotencyKey)
    (hcall : Keyed calls callerScopeKey idempotencyKey i ids call)
    (hr : r ∈ sys.db.idempotencyRecords.rows) (hkey : r.key = call.recordKey) :
    ∃ j ids' call' prepared, Keyed calls callerScopeKey idempotencyKey j ids' call' ∧
      (sys.session j).location = .authorized prepared ∧ PreparedBy rt ids' call' prepared ∧
      prepared.record = r ∧ call'.recordKey = call.recordKey := by
  rcases h.origin r hr with hold | ⟨j, prepared, hlocation, rfl⟩
  · exact absurd hkey (hfirst hcall r hold)
  · obtain ⟨ids', call', hj, hprepared, -⟩ := h.authorized hlocation
    have hrecordKey : call'.recordKey = call.recordKey := hprepared.record_key.symm.trans hkey
    obtain ⟨-, hcaller, -, hidempotency⟩ := by
      simpa only [AuthorizationCall.recordKey, Prod.mk.injEq] using hrecordKey
    exact ⟨j, ids', call', prepared,
      ⟨hj, hcaller.trans hcall.callerScopeKey_eq, hidempotency.trans hcall.idempotencyKey_eq⟩,
      hlocation, hprepared, rfl, hrecordKey⟩

/-- **Where a payload comes from**: an authorized call of the same caller and key, with the
same operation key and request hash. -/
theorem ReplayInv.payload_origin (h : ReplayInv rt calls db₀ sys)
    (hfirst : FirstUse db₀ calls callerScopeKey idempotencyKey)
    (hcall : Keyed calls callerScopeKey idempotencyKey i ids call)
    (hpayload : (sys.session i).location.payload = some payload) :
    ∃ j ids' call' prepared, Keyed calls callerScopeKey idempotencyKey j ids' call' ∧
      (sys.session j).location = .authorized prepared ∧ PreparedBy rt ids' call' prepared ∧
      payload = prepared.authorization ∧ call'.recordKey = call.recordKey ∧
      call'.normalizedRequestHash rt = call.normalizedRequestHash rt := by
  rcases (h.satisfies.own i).payload_cases hcall.call_eq hpayload with
    ⟨prepared, hlocation, rfl⟩ | ⟨r, hr, hkey, hhash, hbuild⟩
  · obtain ⟨ids', call', hi, hprepared, -⟩ := h.authorized hlocation
    obtain ⟨rfl, rfl⟩ := PublicReadCall.authorize.inj (hcall.call_eq.symm.trans hi)
    exact ⟨i, ids, call, prepared, hcall, hlocation, hprepared, rfl, rfl, rfl⟩
  · obtain ⟨j, ids', call', prepared, hj, hlocation, hprepared, rfl, hrecordKey⟩ :=
      h.authorized_of_record hfirst hcall hr hkey
    have hoperation : call.operationKey = call'.operationKey := by
      have hkeys := hrecordKey
      simp only [AuthorizationCall.recordKey, Prod.mk.injEq] at hkeys
      exact hkeys.2.2.1.symm
    rw [hprepared.record] at hhash hbuild
    rw [AuthorizationCall.buildReplay_eq hoperation] at hbuild
    exact ⟨j, ids', call', prepared, hj, hlocation, hprepared, hprepared.buildReplay hbuild,
      hrecordKey, Option.some.inj hhash⟩

/-- Calls of one key that share an operation key share a record. -/
theorem Keyed.recordKey_eq (hi : Keyed calls callerScopeKey idempotencyKey i ids call)
    (hj : Keyed calls callerScopeKey idempotencyKey j ids' call')
    (hone : OneOperation calls callerScopeKey idempotencyKey) :
    call.recordKey = call'.recordKey := by
  rw [AuthorizationCall.recordKey, AuthorizationCall.recordKey, hone hi hj,
    hi.callerScopeKey_eq, hj.callerScopeKey_eq, hi.idempotencyKey_eq, hj.idempotencyKey_eq]

/-- Calls of one key with one request hash ask for the same. -/
theorem Keyed.subject_eq (hi : Keyed calls callerScopeKey idempotencyKey i ids call)
    (hj : Keyed calls callerScopeKey idempotencyKey j ids' call')
    (hone : OneOperation calls callerScopeKey idempotencyKey) (hcollision : NoCollision rt calls)
    (hhash : call.normalizedRequestHash rt = call'.normalizedRequestHash rt) :
    call.subject = call'.subject :=
  AuthorizationCall.subject_eq_of_requestText (hone hi hj)
    (hcollision hi.call_eq hj.call_eq hhash)

/-- The law holds in every state that the invariant describes. -/
theorem ReplayInv.keyLaw (h : ReplayInv rt calls db₀ sys) (hfresh : FreshIds db₀ calls)
    (hlinks : FreshLinks db₀ calls) (hfirst : FirstUse db₀ calls callerScopeKey idempotencyKey)
    (hone : OneOperation calls callerScopeKey idempotencyKey) (hcollision : NoCollision rt calls) :
    KeyLaw calls callerScopeKey idempotencyKey sys where
  same_payload {i j ids ids' call call' payload payload'} hi hj hpi hpj := by
    obtain ⟨i₁, ids₁, call₁, prepared₁, hi₁, hl₁, -, rfl, -⟩ := h.payload_origin hfirst hi hpi
    obtain ⟨j₁, ids₂, call₂, prepared₂, hj₁, hl₂, -, rfl, -⟩ := h.payload_origin hfirst hj hpj
    obtain rfl := h.unique hi₁.call_eq hj₁.call_eq hl₁ hl₂ (hi₁.recordKey_eq hj₁ hone)
    obtain rfl := PublicReadLocation.authorized.inj (hl₁.symm.trans hl₂)
    rfl
  one_writer {i j ids ids' call call'} hi hj hwi hwj := by
    obtain ⟨prepared, hli⟩ := (h.satisfies.own i).authorized_of_written hi.call_eq hwi
    obtain ⟨prepared', hlj⟩ := (h.satisfies.own j).authorized_of_written hj.call_eq hwj
    exact h.unique hi.call_eq hj.call_eq hli hlj (hi.recordKey_eq hj hone)
  rejected {i j ids ids' call call' prepared} hi hj hli hsubject := by
    -- The record that the other call may find is that of the accepted one.
    have hsame : ∀ {k ids'' call'' prepared''},
        Keyed calls callerScopeKey idempotencyKey k ids'' call'' →
        (sys.session k).location = .authorized prepared'' →
        call''.normalizedRequestHash rt = call'.normalizedRequestHash rt → False := by
      intro k ids'' call'' prepared'' hk hlk hhash
      obtain rfl := h.unique hi.call_eq hk.call_eq hli hlk (hi.recordKey_eq hk hone)
      obtain ⟨rfl, rfl⟩ := PublicReadCall.authorize.inj (hi.call_eq.symm.trans hk.call_eq)
      exact hsubject (hi.subject_eq hj hone hcollision hhash).symm
    constructor
    · cases hpayload : (sys.session j).location.payload with
      | none => rfl
      | some payload =>
          obtain ⟨k, ids'', call'', prepared'', hk, hlk, -, -, -, hhash⟩ :=
            h.payload_origin hfirst hj hpayload
          exact (hsame hk hlk hhash).elim
    · intro e hlocation
      have hown := h.satisfies.own j
      unfold SessionInv at hown
      rw [hj.call_eq] at hown
      dsimp only at hown
      rw [AuthorizeInv, hlocation] at hown
      cases hown.2.2 with
      | conflict => exact .conflict
      | notFound => exact .notFound
      | notReady state => exact .notReady state
      | unreadable hr hkey hhash =>
          obtain ⟨k, ids'', call'', prepared'', hk, hlk, hprepared, rfl, -⟩ :=
            h.authorized_of_record hfirst hj hr hkey
          rw [hprepared.record] at hhash
          exact (hsame hk hlk (Option.some.inj hhash)).elim
  own_payload {i ids call payload} hi hpi := by
    obtain ⟨j, ids', call', prepared, hj, hl, -, hpayload, -⟩ := h.payload_origin hfirst hi hpi
    exact ⟨j, ids', call', prepared, hj, hl, hpayload⟩
  own_token {i j ids ids' call call' payload payload' token} hi hj hcaller hpi hpj hurl := by
    obtain ⟨k, ids₁, call₁, prepared₁, hk, hl, hprepared, rfl, -⟩ := h.payload_origin hfirst hi hpi
    -- The link is that of the token of the call that was authorized.
    have htoken : token = ids₁.grantId := by
      rw [hprepared.url] at hurl
      split at hurl
      · exact (downloadLink_injective hurl).symm
      · exact absurd hurl (hprepared.upstreamUrl_ne token)
    subst htoken
    have hother : ∀ {k' ids'' call'' prepared''}, calls k' = .authorize ids'' call'' →
        call''.request.callerScopeKey ≠ callerScopeKey → PreparedBy rt ids'' call'' prepared'' →
        prepared''.authorization.url ≠ downloadLink ids₁.grantId := by
      intro k' ids'' call'' prepared'' hk' hcaller'' hprepared'' heq
      rw [hprepared''.url] at heq
      split at heq
      · obtain rfl := hfresh.grant hk' hk.call_eq (downloadLink_injective heq)
        obtain ⟨rfl, rfl⟩ := PublicReadCall.authorize.inj (hk'.symm.trans hk.call_eq)
        exact hcaller'' hk.callerScopeKey_eq
      · exact hprepared''.upstreamUrl_ne _ heq
    rcases (h.satisfies.own j).payload_cases hj hpj with
      ⟨prepared', hl', rfl⟩ | ⟨r, hr, hkey, hhash, hbuild⟩
    · obtain ⟨ids'', call'', hj', hprepared', -⟩ := h.authorized hl'
      obtain ⟨rfl, rfl⟩ := PublicReadCall.authorize.inj (hj.symm.trans hj')
      exact hother hj hcaller hprepared'
    · rcases h.origin r hr with hold | ⟨k', prepared', hl', rfl⟩
      · obtain ⟨record, hrecord, hrecordUrl⟩ := AuthorizationCall.buildReplay_url hbuild
        rw [hrecordUrl]
        exact hlinks hk.call_eq r hold record hrecord
      · obtain ⟨ids'', call'', hk', hprepared', -⟩ := h.authorized hl'
        have hrecordKey : call''.recordKey = call'.recordKey :=
          hprepared'.record_key.symm.trans hkey
        simp only [AuthorizationCall.recordKey, Prod.mk.injEq] at hrecordKey
        obtain ⟨-, hcaller', -⟩ := hrecordKey
        obtain ⟨record, hrecord, hrecordUrl⟩ := AuthorizationCall.buildReplay_url hbuild
        rw [hprepared'.record] at hrecord
        obtain rfl := Option.some.inj hrecord
        rw [hrecordUrl]
        exact hother hk' (fun heq => hcaller (hcaller'.symm.trans heq)) hprepared'

/-- A lookup after the acceptance of another request finds its record. -/
theorem ReplayInv.rejectsReuse [DecidableEq ι] {e : Event ι Db} (h : ReplayInv rt calls db₀ sys)
    (hstep : Step (publicReadCode rt calls) Db.SameAuthorizations sys e sys')
    (hone : OneOperation calls callerScopeKey idempotencyKey) (hcollision : NoCollision rt calls) :
    Transition.RejectsReuse calls callerScopeKey idempotencyKey ⟨sys, e, sys'⟩ := by
  intro i j ids ids' call call' prepared hi hj hli hsubject haction hlj
  obtain rfl : e = .session j := haction
  have hown := h.satisfies.own j
  unfold SessionInv at hown
  rw [hj.call_eq] at hown
  dsimp only at hown hli hlj
  rw [AuthorizeInv, hlj] at hown
  have hpending : (sys.session j).pending = [] := hown.1
  obtain ⟨ids'', call'', hi', hprepared, hrecord⟩ := h.authorized hli
  obtain ⟨rfl, rfl⟩ := PublicReadCall.authorize.inj (hi.call_eq.symm.trans hi')
  have hfound : sys.db.idempotencyRecord? call'.recordKey = some prepared.record :=
    Db.idempotencyRecord?_eq_some_iff.mpr
      ⟨hrecord, hprepared.record_key.trans (hi.recordKey_eq hj hone)⟩
  have hhash : prepared.record.normalizedRequestHash ≠ some (call'.normalizedRequestHash rt) := by
    rw [hprepared.record]
    intro heq
    exact hsubject (hi.subject_eq hj hone hcollision (Option.some.inj heq)).symm
  have hload : loadAuthorizationReplay rt call' sys.db =
      .error (.publicReadIdempotencyConflict call'.request.idempotencyKey) := by
    rw [loadAuthorizationReplay, hfound]
    exact if_neg hhash
  have hcode : publicReadCode rt calls j (sys.session j).location ((sys.session j).view sys.db) =
      .query (.failed (.publicReadIdempotencyConflict idempotencyKey)) := by
    rw [publicReadCode, hj.call_eq, hlj, Session.view, hpending, applyAll_nil]
    simp only [authorizeCode, hload, hj.idempotencyKey_eq]
  cases step_cases hstep with
  | query hquery =>
      obtain rfl := Action.query.inj (hcode.symm.trans hquery)
      simp only [System.set_session_self]
  | write hother => exact absurd (hcode.symm.trans hother) (by simp)
  | autocommit hother => exact absurd (hcode.symm.trans hother) (by simp)
  | commit hother => exact absurd (hcode.symm.trans hother) (by simp)
  | rollback hother => exact absurd (hcode.symm.trans hother) (by simp)

end Law

/-- **Authorizations under one caller and key.** When the calls share an operation key, and
their digests do not collide, the law of the key holds in every state of every run, and
every reuse of the key for something else is rejected with a conflict. -/
theorem authorization_replays [DecidableEq ι] {rt : Runtime} {calls : ι → PublicReadCall} {db : Db}
    {callerScopeKey idempotencyKey : String} {sys' : PublicReadSystem ι}
    {tr : List (Transition (PublicReadSystem ι) (Event ι Db))}
    (hfresh : FreshIds db calls) (hlinks : FreshLinks db calls)
    (hfirst : FirstUse db calls callerScopeKey idempotencyKey) (hcollision : NoCollision rt calls)
    (hone : OneOperation calls callerScopeKey idempotencyKey)
    (hrun : Run (Step (publicReadCode rt calls) Db.SameAuthorizations)
      (publicReadSystem db calls) tr sys') :
    KeyLaw calls callerScopeKey idempotencyKey sys' ∧
      ∀ τ ∈ tr, KeyLaw calls callerScopeKey idempotencyKey τ.before ∧
        KeyLaw calls callerScopeKey idempotencyKey τ.after ∧
        Transition.RejectsReuse calls callerScopeKey idempotencyKey τ := by
  obtain ⟨hlast, hall⟩ := ReplayInv.run hfresh hrun
  refine ⟨hlast.keyLaw hfresh hlinks hfirst hone hcollision, fun τ hτ => ?_⟩
  obtain ⟨hbefore, hafter⟩ := hall τ hτ
  exact ⟨hbefore.keyLaw hfresh hlinks hfirst hone hcollision,
    hafter.keyLaw hfresh hlinks hfirst hone hcollision,
    hbefore.rejectsReuse (hrun.step_of_mem τ hτ) hone hcollision⟩

/-! ### Runs under one key -/

/-- Two uploaded assets. -/
def sampleAssets : Db := (sampleRegistry.issueSample "a").issueSample "b"

/-- The ids of a call. -/
def sampleAuthorizationIds (i : Fin 3) : AuthorizationIds :=
  ⟨"grant-" ++ toString i.val, "audit-" ++ toString i.val⟩

/-- The one-time authorization of the source of an asset, under one caller and key. -/
def sampleSourceAuthorization (key : String) (disposition : Option SourceDisposition) :
    AuthorizationCall where
  assetId := "asset-" ++ key
  versionId := "version-" ++ key
  target := .source disposition
  request := ⟨"caller-1", "key-1", 100, true⟩

/-- The key is used for two assets. -/
def twoAssetCalls (i : Fin 3) : PublicReadCall :=
  .authorize (sampleAuthorizationIds i)
    (sampleSourceAuthorization (if i = 0 then "a" else "b") none)

/-- The key is used for one asset, twice for the same and once for another disposition. -/
def oneAssetCalls (i : Fin 3) : PublicReadCall :=
  .authorize (sampleAuthorizationIds i)
    (sampleSourceAuthorization "a" (if i = 2 then some .inline else none))

theorem sampleAssets_freshIds {calls : Fin 3 → PublicReadCall}
    (hcalls : ∀ i ids call, calls i = .authorize ids call → sampleAuthorizationIds i = ids) :
    FreshIds sampleAssets calls where
  unused := by
    intro i ids call _
    have hgrants : sampleAssets.sourceAccessGrants.rows = [] := by decide +kernel
    have haudits : sampleAssets.deliveryAuthorizationAudits.rows = [] := by decide +kernel
    exact ⟨by simp [hgrants], by simp [haudits], by simp [haudits]⟩
  grant := by
    intro i j ids ids' call₁ call₂ hi hj heq
    have hne : ∀ i j, (sampleAuthorizationIds i).grantId = (sampleAuthorizationIds j).grantId →
        i = j := by
      decide +kernel
    obtain rfl := hcalls i _ _ hi
    obtain rfl := hcalls j _ _ hj
    exact hne i j heq
  audit := by
    intro i j ids ids' call₁ call₂ hi hj heq
    have hne : ∀ i j, (sampleAuthorizationIds i).auditId = (sampleAuthorizationIds j).auditId →
        i = j := by
      decide +kernel
    obtain rfl := hcalls i _ _ hi
    obtain rfl := hcalls j _ _ hj
    exact hne i j heq

/-- The calls of a run, as a function of the sample ids. -/
theorem noCollision_of_calls {calls : Fin 3 → PublicReadCall} {call : Fin 3 → AuthorizationCall}
    (hcalls : ∀ i, calls i = .authorize (sampleAuthorizationIds i) (call i))
    (h : ∀ i j, (call i).requestText sampleRuntime = (call j).requestText sampleRuntime ∨
      (call i).normalizedRequestHash sampleRuntime ≠ (call j).normalizedRequestHash sampleRuntime) :
    NoCollision sampleRuntime calls := by
  intro i j ids ids' call₁ call₂ hi hj hhash
  obtain ⟨-, rfl⟩ := PublicReadCall.authorize.inj ((hcalls i).symm.trans hi)
  obtain ⟨-, rfl⟩ := PublicReadCall.authorize.inj ((hcalls j).symm.trans hj)
  exact (h i j).resolve_right fun hne => hne hhash

theorem sampleAssets_records :
    ∀ r ∈ sampleAssets.idempotencyRecords.rows, r.responsePayload = none ∧
      r.idempotencyKey ≠ "key-1" := by
  decide +kernel

theorem sampleAssets_freshLinks (calls : Fin 3 → PublicReadCall) :
    FreshLinks sampleAssets calls := by
  intro i ids call _ r hr payload hpayload
  rw [(sampleAssets_records r hr).1] at hpayload
  cases hpayload

theorem sampleAssets_firstUse (calls : Fin 3 → PublicReadCall) :
    FirstUse sampleAssets calls "caller-1" "key-1" := by
  intro i ids call hkeyed r hr hkey
  obtain ⟨-, -, -, hidempotency⟩ := by
    simpa only [IdempotencyRecord.key, AuthorizationCall.recordKey, Prod.mk.injEq] using hkey
  exact (sampleAssets_records r hr).2 (hidempotency.trans hkeyed.idempotencyKey_eq)

/-- One key authorizes the sources of two assets: both calls succeed, with different
payloads. -/
theorem two_assets_share_a_key :
    FreshIds sampleAssets twoAssetCalls ∧ FreshLinks sampleAssets twoAssetCalls ∧
      FirstUse sampleAssets twoAssetCalls "caller-1" "key-1" ∧
      NoCollision sampleRuntime twoAssetCalls ∧
      ∃ tr sys', Run (Step (publicReadCode sampleRuntime twoAssetCalls) Db.SameAuthorizations)
          (publicReadSystem sampleAssets twoAssetCalls) tr sys' ∧
        ¬ KeyLaw twoAssetCalls "caller-1" "key-1" sys' := by
  have hids : FreshIds sampleAssets twoAssetCalls :=
    sampleAssets_freshIds fun i ids call h => (PublicReadCall.authorize.inj h).1
  refine ⟨hids, sampleAssets_freshLinks _, sampleAssets_firstUse _, ?_, ?_⟩
  · exact @noCollision_of_calls twoAssetCalls
      (fun i => sampleSourceAuthorization (if i = 0 then "a" else "b") none) (fun i => rfl)
      (by decide +kernel)
  · obtain ⟨tr, sys', hrun, p, hp, q, hq, hne⟩ := exists_run_of_schedule
      (publicReadCode sampleRuntime twoAssetCalls) Db.SameAuthorizations
      (publicReadSystem sampleAssets twoAssetCalls)
      ([0, 0, 0, 0, 0, 0] ++ [1, 1, 1, 1, 1, 1])
      (fun _ sys' => ∃ p ∈ (sys'.session 0).location.payload,
        ∃ q ∈ (sys'.session 1).location.payload, p ≠ q)
      (by decide +kernel)
    refine ⟨tr, sys', hrun, fun hlaw => hne ?_⟩
    exact hlaw.same_payload ⟨rfl, rfl, rfl⟩ ⟨rfl, rfl, rfl⟩ hp hq

/-- Three calls for one asset at once: two ask for the same and return the same payload, the
third asks for another disposition. -/
theorem one_asset_replays :
    ∃ tr sys', Run (Step (publicReadCode sampleRuntime oneAssetCalls) Db.SameAuthorizations)
        (publicReadSystem sampleAssets oneAssetCalls) tr sys' ∧
      (∃ p, (sys'.session 0).location.payload = some p ∧
        (sys'.session 1).location.payload = some p) ∧
      (sys'.session 2).location = .failed (.publicReadIdempotencyConflict "key-1") ∧
      KeyLaw oneAssetCalls "caller-1" "key-1" sys' := by
  obtain ⟨tr, sys', hrun, ⟨p, hp, q, hq⟩, hconflict⟩ := exists_run_of_schedule
    (publicReadCode sampleRuntime oneAssetCalls) Db.SameAuthorizations
    (publicReadSystem sampleAssets oneAssetCalls)
    ([0, 1, 0, 1, 0, 1, 0, 1, 0, 0, 1, 1] ++ [2])
    (fun _ sys' =>
      (∃ p ∈ (sys'.session 0).location.payload, ∃ q ∈ (sys'.session 1).location.payload, True) ∧
        (sys'.session 2).location = .failed (.publicReadIdempotencyConflict "key-1"))
    (by decide +kernel)
  have hcollision : NoCollision sampleRuntime oneAssetCalls :=
    @noCollision_of_calls oneAssetCalls
      (fun i => sampleSourceAuthorization "a" (if i = 2 then some .inline else none)) (fun i => rfl)
      (by decide +kernel)
  have hone : OneOperation oneAssetCalls "caller-1" "key-1" := by
    intro i j ids ids' call call' hi hj
    obtain ⟨-, rfl⟩ := PublicReadCall.authorize.inj hi.call_eq
    obtain ⟨-, rfl⟩ := PublicReadCall.authorize.inj hj.call_eq
    rfl
  have hids : FreshIds sampleAssets oneAssetCalls :=
    sampleAssets_freshIds fun i ids call h => (PublicReadCall.authorize.inj h).1
  have hlaw := (authorization_replays hids (sampleAssets_freshLinks oneAssetCalls)
    (sampleAssets_firstUse oneAssetCalls) hcollision hone hrun).1
  obtain rfl := hlaw.same_payload ⟨rfl, rfl, rfl⟩ ⟨rfl, rfl, rfl⟩ hp hq.1
  exact ⟨tr, sys', hrun, ⟨p, hp, hq.1⟩, hconflict, hlaw⟩

end Cdngine
