import Cdngine.AuthorizationReplay

/-!
# One-Time Links

What becomes of the tokens of one-time authorizations, over every interleaving of any
number of authorizations and exchanges.

A token of a source authorization is the id of its grant, and the audit row of the
authorization carries it too, with the link itself as URL. An exchange looks the grant up
first and the audit row when it finds none, and marks what it found used by its id, whatever
has become of the row since. So a link is exchanged once only if every exchange marks a row
that is still unused, and the row is the one that leads to what was authorized.

## Main results

* `LinksInv`: an exchanged token is spent.
* `links_exchanged_once`: the law of the one-time links, in every state of every run whose
  exchanges mark unused rows of the kind of the authorization.
* `link_exchanged_twice`: without that it fails, even when the exchanges follow each other.
-/

open Relational Runs ReadCommitted

namespace Cdngine

variable {ι : Type}

/-! ### The law -/

/-- **The law of the one-time links**, in one state. -/
structure LinksSafe (calls : ι → PublicReadCall) (sys : PublicReadSystem ι) : Prop where
  /-- A token is exchanged at most once. -/
  once {i j j' : ι} {ids : AuthorizationIds} {call : AuthorizationCall} {now now' : Instant}
    {link link' : RegistryPublicDownloadLinkRecord} : calls i = .authorize ids call →
    call.request.oneTime = true → calls j = .consumeDownloadLink ids.grantId now →
    calls j' = .consumeDownloadLink ids.grantId now' →
    (sys.session j).location = .exchanged link →
    (sys.session j').location = .exchanged link' → j = j'
  /-- A token is exchanged before it expires. -/
  before_expiry {i j : ι} {ids : AuthorizationIds} {call : AuthorizationCall} {now : Instant}
    {link : RegistryPublicDownloadLinkRecord} : calls i = .authorize ids call →
    call.request.oneTime = true → calls j = .consumeDownloadLink ids.grantId now →
    (sys.session j).location = .exchanged link → now < call.request.expiresAt
  /-- An exchange returns the URL behind the authorization, which is not a link. -/
  upstream {i j : ι} {ids : AuthorizationIds} {call : AuthorizationCall} {now : Instant}
    {link : RegistryPublicDownloadLinkRecord} : calls i = .authorize ids call →
    call.request.oneTime = true → calls j = .consumeDownloadLink ids.grantId now →
    (sys.session j).location = .exchanged link →
    link.url ≠ downloadLink ids.grantId ∧
      ∃ prepared, (sys.session i).location = .authorized prepared ∧ link.url = prepared.upstreamUrl

/-- An exchange that is about to mark its row used finds it as the authorization left it, and
it is the grant of a source authorization or the audit row of a delivery authorization. -/
def exchangeFresh (minting exchange : PublicReadCall) (location : PublicReadLocation) (db : Db) :
    Bool :=
  match minting, exchange with
  | .authorize ids call, .consumeDownloadLink token _ =>
      !call.request.oneTime || ids.grantId != token ||
        match location, call.target with
        | .markGrant grant, _ =>
            db.sourceAccessGrants.rows.all fun g =>
              g.id != grant.id || g.expiresAt == call.request.expiresAt
        | .markAudit audit _, .delivery _ _ =>
            db.deliveryAuthorizationAudits.rows.all fun a =>
              a.id != audit.id || a.expiresAt == some call.request.expiresAt
        | .markAudit _ _, .source _ => false
        | _, _ => true
  | _, _ => true

/-- A session marks no used row, and no row that leads back to the link. -/
def ExchangesFresh (calls : ι → PublicReadCall) (j : ι)
    (s : Session Db AuthorizationRow PublicReadLocation) (db : Db) : Prop :=
  ∀ i, exchangeFresh (calls i) (calls j) s.location db = true

section Fresh

variable {calls : ι → PublicReadCall} {i j : ι} {s : Session Db AuthorizationRow PublicReadLocation}
  {db : Db} {ids : AuthorizationIds} {call : AuthorizationCall} {now : Instant}

theorem ExchangesFresh.grant {grant g : SourceAccessGrant} (h : ExchangesFresh calls j s db)
    (hi : calls i = .authorize ids call) (hone : call.request.oneTime = true)
    (hj : calls j = .consumeDownloadLink ids.grantId now)
    (hlocation : s.location = .markGrant grant) (hg : g ∈ db.sourceAccessGrants.rows)
    (hid : g.id = grant.id) :
    g.expiresAt = call.request.expiresAt := by
  have hi' := h i
  rw [hi, hj, hlocation] at hi'
  simp only [exchangeFresh, hone, Bool.not_true, bne_self_eq_false, Bool.false_or, List.all_eq_true,
    Bool.or_eq_true, bne_iff_ne, ne_eq, beq_iff_eq] at hi'
  exact (hi' g hg).resolve_left fun hne => hne hid

theorem ExchangesFresh.audit {audit : DeliveryAuthorizationAudit}
    {link : RegistryPublicDownloadLinkRecord} (h : ExchangesFresh calls j s db)
    (hi : calls i = .authorize ids call) (hone : call.request.oneTime = true)
    (hj : calls j = .consumeDownloadLink ids.grantId now)
    (hlocation : s.location = .markAudit audit link) :
    (∃ deliveryScopeId variant, call.target = .delivery deliveryScopeId variant) ∧
      ∀ a ∈ db.deliveryAuthorizationAudits.rows, a.id = audit.id →
        a.expiresAt = some call.request.expiresAt := by
  have hi' := h i
  rw [hi, hj, hlocation] at hi'
  simp only [exchangeFresh, hone, Bool.not_true, bne_self_eq_false, Bool.false_or] at hi'
  cases htarget : call.target with
  | source d =>
      rw [htarget] at hi'
      cases hi'
  | delivery deliveryScopeId variant =>
      rw [htarget] at hi'
      simp only [List.all_eq_true, Bool.or_eq_true, bne_iff_ne, ne_eq, beq_iff_eq] at hi'
      exact ⟨⟨_, _, rfl⟩, fun a ha hid => (hi' a ha).resolve_left fun hne => hne hid⟩

end Fresh

/-! ### Spent tokens -/

/-- The row that leads to what a call authorized expires earlier than it promised. -/
def Spent (ids : AuthorizationIds) (call : AuthorizationCall) (db : Db) : Prop :=
  match call.target with
  | .source _ => ∃ g ∈ db.sourceAccessGrants.rows, g.id = ids.grantId ∧
      g.expiresAt < call.request.expiresAt
  | .delivery _ _ => ∃ a ∈ db.deliveryAuthorizationAudits.rows, a.id = ids.auditId ∧
      a.grantId = some ids.grantId ∧ ∃ t, a.expiresAt = some t ∧ t < call.request.expiresAt

/-- **The invariant of the one-time links**: an exchanged token is spent, and only one exchange
has spent it. -/
structure LinksInv (rt : Runtime) (calls : ι → PublicReadCall) (sys : PublicReadSystem ι) :
    Prop where
  satisfies : sys.Satisfies (MintedRows calls) (SessionInv rt calls)
  spent {i j : ι} {ids : AuthorizationIds} {call : AuthorizationCall} {now : Instant}
    {link : RegistryPublicDownloadLinkRecord} : calls i = .authorize ids call →
    call.request.oneTime = true → calls j = .consumeDownloadLink ids.grantId now →
    (sys.session j).location = .exchanged link →
    Spent ids call sys.db ∧
      ∃ prepared, (sys.session i).location = .authorized prepared ∧ link.url = prepared.upstreamUrl
  once {i j j' : ι} {ids : AuthorizationIds} {call : AuthorizationCall} {now now' : Instant}
    {link link' : RegistryPublicDownloadLinkRecord} : calls i = .authorize ids call →
    call.request.oneTime = true → calls j = .consumeDownloadLink ids.grantId now →
    calls j' = .consumeDownloadLink ids.grantId now' →
    (sys.session j).location = .exchanged link →
    (sys.session j').location = .exchanged link' → j = j'

section Invariant

variable {rt : Runtime} {calls : ι → PublicReadCall} {sys : PublicReadSystem ι}

/-- The invariant entails the law. -/
theorem LinksInv.safe (h : LinksInv rt calls sys) : LinksSafe calls sys where
  once := h.once
  before_expiry {i j ids call now link} hi _ hj hlocation := by
    have hown := h.satisfies.own j
    unfold SessionInv at hown
    rw [hj] at hown
    dsimp only at hown
    rw [ConsumeInv, hlocation] at hown
    obtain ⟨-, hnow, hbefore, -⟩ := hown
    exact lt_of_lt_of_le hnow (hbefore hi rfl)
  upstream {i j ids call now link} hi hone hj hlocation := by
    obtain ⟨-, prepared, hli, hurl⟩ := h.spent hi hone hj hlocation
    have hown := h.satisfies.own i
    unfold SessionInv at hown
    rw [hi] at hown
    dsimp only at hown
    rw [AuthorizeInv, hli] at hown
    exact ⟨hurl ▸ hown.2.1.upstreamUrl_ne _, prepared, hli, hurl⟩

/-- A spent token stays spent when the rows stay, or expire earlier than promised. -/
theorem Spent.mono {ids : AuthorizationIds} {call : AuthorizationCall} {db db' : Db}
    (h : Spent ids call db)
    (hgrant : ∀ g ∈ db.sourceAccessGrants.rows, g.id = ids.grantId →
      g.expiresAt < call.request.expiresAt →
      ∃ g' ∈ db'.sourceAccessGrants.rows, g'.id = ids.grantId ∧
        g'.expiresAt < call.request.expiresAt)
    (haudit : ∀ a ∈ db.deliveryAuthorizationAudits.rows, a.id = ids.auditId →
      a.grantId = some ids.grantId → (∃ t, a.expiresAt = some t ∧ t < call.request.expiresAt) →
      ∃ a' ∈ db'.deliveryAuthorizationAudits.rows, a'.id = ids.auditId ∧
        a'.grantId = some ids.grantId ∧ ∃ t, a'.expiresAt = some t ∧ t < call.request.expiresAt) :
    Spent ids call db' := by
  unfold Spent at h ⊢
  split at h
  · obtain ⟨g, hg, hid, hexpired⟩ := h
    exact hgrant g hg hid hexpired
  · obtain ⟨a, ha, hid, htoken, hexpired⟩ := h
    exact haudit a ha hid htoken hexpired

end Invariant

/-! ### The steps -/

section Steps

variable {rt : Runtime} {calls : ι → PublicReadCall} {i j : ι} {db db' : Db}
  {ids : AuthorizationIds} {call : AuthorizationCall} {token : String} {now : Instant}
  {s : Session Db AuthorizationRow PublicReadLocation} {w : Write Db AuthorizationRow}
  {next : PublicReadLocation}

theorem Spent.inserts {ss : List AuthorizationStatement} (h : Spent ids call db)
    (hinserts : db.Inserts ss db') : Spent ids call db' :=
  h.mono (fun g hg hid hexpired => ⟨g, hinserts.keeps_grant g hg, hid, hexpired⟩)
    (fun a ha hid htoken hexpired => ⟨a, hinserts.keeps_audit a ha, hid, htoken, hexpired⟩)

theorem Spent.environment (h : Spent ids call db) (henv : db.SameAuthorizations db') :
    Spent ids call db' := by
  refine h.mono (fun g hg hid hexpired => ⟨g, ?_, hid, hexpired⟩)
    (fun a ha hid htoken hexpired => ⟨a, ?_, hid, htoken, hexpired⟩)
  · rwa [henv.sourceAccessGrants]
  · rwa [henv.deliveryAuthorizationAudits]

/-- The update of an exchange unspends no token. -/
theorem Spent.consume (h : Spent ids call db) (hi : calls i = .authorize ids call)
    (hinv : ConsumeInv calls token now s db)
    (hcode : consumeCode token now s.location (s.view db) = .autocommit w next) :
    Spent ids call (w.effect db) := by
  obtain ⟨location, pending⟩ := s
  obtain ⟨rfl, hinv⟩ := hinv
  simp only [Session.view, applyAll_nil] at hcode
  rcases consumeCode_cases hcode with ⟨next', heq⟩ | heq | ⟨grant, db', rfl, hdb, heq⟩ |
    ⟨audit, link, db', rfl, hdb, heq⟩
  · cases heq
  · cases heq
  · obtain ⟨rfl, rfl⟩ := Action.autocommit.inj heq
    obtain ⟨hid, hnow, hbefore, -⟩ := hinv
    have heffect : (markGrantUsed grant.id now).effect db = db' := by
      simp only [markGrantUsed, hdb, keepOnError]
    rw [heffect]
    obtain ⟨haudits, -, -, hrows⟩ := updateSourceAccessGrant_rows hdb
    refine h.mono (fun g hg hgid hexpired => ?_) fun a ha haid htoken hexpired => ?_
    · by_cases hmarked : g.id = grant.id
      · have htoken : ids.grantId = token := hgid.symm.trans (hmarked.trans hid)
        refine ⟨g.consume now, (hrows _).mpr (.inl ⟨g, hg, hmarked, rfl⟩), hgid, ?_⟩
        exact lt_of_lt_of_le hnow (hbefore hi htoken)
      · exact ⟨g, (hrows _).mpr (.inr ⟨hg, hmarked⟩), hgid, hexpired⟩
    · exact ⟨a, by rwa [haudits], haid, htoken, hexpired⟩
  · obtain ⟨rfl, rfl⟩ := Action.autocommit.inj heq
    obtain ⟨-, -, hnow, hbefore, -, a₀, ha₀, ha₀id, ha₀token, -⟩ := hinv
    have heffect : (markAuditUsed audit.id audit.requestMetadata now).effect db = db' := by
      simp only [markAuditUsed, hdb, keepOnError]
    rw [heffect]
    obtain ⟨hgrants, -, -, hrows⟩ := updateDeliveryAuthorizationAudit_rows hdb
    refine h.mono (fun g hg hgid hexpired => ?_) fun a ha haid htoken hexpired => ?_
    · exact ⟨g, by rwa [hgrants], hgid, hexpired⟩
    · by_cases hmarked : a.id = audit.id
      · obtain rfl : a = a₀ := Table.eq_of_clash ha ha₀ (by simp [clash, sameKey, hmarked, ha₀id])
        have htoken' : ids.grantId = token := Option.some.inj (htoken.symm.trans ha₀token)
        refine ⟨a.consume audit.requestMetadata now,
          (hrows _).mpr (.inl ⟨a, ha, hmarked, rfl⟩), haid, htoken, now, rfl, ?_⟩
        exact lt_of_lt_of_le hnow (hbefore hi htoken')
      · exact ⟨a, (hrows _).mpr (.inr ⟨ha, hmarked⟩), haid, htoken, hexpired⟩

/-- **The update of an exchange that marks an unused row** spends the token, and leads to what
was authorized. -/
theorem ConsumeInv.spends {sᵢ : Session Db AuthorizationRow PublicReadLocation}
    (hinv : ConsumeInv calls ids.grantId now s db) (hown : SessionInv rt calls i sᵢ db)
    (hminted : MintedRows calls db) (hi : calls i = .authorize ids call)
    (hone : call.request.oneTime = true) (hj : calls j = .consumeDownloadLink ids.grantId now)
    (hfresh : ExchangesFresh calls j s db)
    (hcode : consumeCode ids.grantId now s.location (s.view db) = .autocommit w next) :
    ∃ link, next = .exchanged link ∧ ¬ Spent ids call db ∧ Spent ids call (w.effect db) ∧
      ∃ prepared, sᵢ.location = .authorized prepared ∧ link.url = prepared.upstreamUrl := by
  obtain ⟨location, pending⟩ := s
  obtain ⟨rfl, hinv⟩ := hinv
  simp only [Session.view, applyAll_nil] at hcode
  rcases consumeCode_cases hcode with ⟨next', heq⟩ | heq | ⟨grant, db', rfl, hdb, heq⟩ |
    ⟨audit, link, db', rfl, hdb, heq⟩
  · cases heq
  · cases heq
  · obtain ⟨rfl, rfl⟩ := Action.autocommit.inj heq
    obtain ⟨hid, hnow, hbefore, hpath, g, hg, hgid⟩ := hinv
    obtain ⟨d, htarget, hgrantPath⟩ := hpath hi rfl
    have heffect : (markGrantUsed grant.id now).effect db = db' := by
      simp only [markGrantUsed, hdb, keepOnError]
    obtain ⟨-, -, -, hrows⟩ := updateSourceAccessGrant_rows hdb
    obtain ⟨prepared, hlocation⟩ := hown.authorized_of_written hi (.inl ⟨g, hg, hgid⟩)
    refine ⟨_, rfl, ?_, ?_, prepared, hlocation, ?_⟩
    · intro hspent
      rw [Spent, htarget] at hspent
      obtain ⟨g', hg', hgid', hexpired⟩ := hspent
      rw [hfresh.grant hi hone hj rfl hg' (hgid'.trans hid.symm)] at hexpired
      exact lt_irrefl _ hexpired
    · rw [heffect, Spent, htarget]
      refine ⟨g.consume now, (hrows _).mpr (.inl ⟨g, hg, hgid.trans hid.symm, rfl⟩), hgid, ?_⟩
      exact lt_of_lt_of_le hnow (hbefore hi rfl)
    · unfold SessionInv at hown
      rw [hi] at hown
      dsimp only at hown
      rw [AuthorizeInv, hlocation] at hown
      cases hown.2.1 with
      | @source d' tenantId htarget' =>
          obtain rfl := AuthorizationTarget.source.inj (htarget.symm.trans htarget')
          simp only [SourceAccessGrant.downloadLinkRecord, hgrantPath]
          rfl
      | delivery deliveryScope storageKey htarget' => cases htarget.symm.trans htarget'
  · obtain ⟨rfl, rfl⟩ := Action.autocommit.inj heq
    obtain ⟨-, -, hnow, hbefore, hurl, a, ha, haid, hatoken, haurl⟩ := hinv
    obtain ⟨⟨deliveryScopeId, variant, htarget⟩, hunused⟩ := hfresh.audit hi hone hj rfl
    have heffect : (markAuditUsed audit.id audit.requestMetadata now).effect db = db' := by
      simp only [markAuditUsed, hdb, keepOnError]
    obtain ⟨-, -, -, hrows⟩ := updateDeliveryAuthorizationAudit_rows hdb
    have hauditId := (hminted.audit hi a ha hatoken).1
    obtain ⟨prepared, hlocation⟩ := hown.authorized_of_written hi (.inr ⟨a, ha, hauditId⟩)
    have hsame : ∀ a' ∈ db.deliveryAuthorizationAudits.rows, a'.id = ids.auditId → a' = a := by
      intro a' ha' hid'
      exact Table.eq_of_clash ha' ha (by simp [clash, sameKey, hid', hauditId])
    refine ⟨_, rfl, ?_, ?_, prepared, hlocation, ?_⟩
    · intro hspent
      rw [Spent, htarget] at hspent
      obtain ⟨a', ha', hid', -, t, ht, hexpired⟩ := hspent
      obtain rfl := hsame a' ha' hid'
      obtain rfl := Option.some.inj (ht.symm.trans (hunused a' ha' haid))
      exact lt_irrefl _ hexpired
    · rw [heffect, Spent, htarget]
      refine ⟨a.consume audit.requestMetadata now, (hrows _).mpr (.inl ⟨a, ha, haid, rfl⟩),
        hauditId, hatoken, now, rfl, ?_⟩
      exact lt_of_lt_of_le hnow (hbefore hi rfl)
    · unfold SessionInv at hown
      rw [hi] at hown
      dsimp only at hown
      rw [AuthorizeInv, hlocation] at hown
      obtain ⟨-, hprepared, -, a', ha', hid', -, haurl'⟩ := hown
      obtain rfl := hsame a' ha' hid'
      rw [hurl, ← haurl, haurl']
      cases hprepared with
      | source tenantId htarget' => cases htarget.symm.trans htarget'
      | delivery deliveryScope storageKey htarget' => rfl

end Steps

/-! ### The law over runs -/

section Run

variable [DecidableEq ι] {rt : Runtime} {calls : ι → PublicReadCall} {db₀ : Db}
  {sys sys' : PublicReadSystem ι} {k : ι}

/-- A step that exchanges no token, and unspends none. -/
theorem LinksInv.set {db : Db} {s : Session Db AuthorizationRow PublicReadLocation}
    (h : LinksInv rt calls sys)
    (hsatisfies : (sys.set k db s).Satisfies (MintedRows calls) (SessionInv rt calls))
    (hbefore : ∀ prepared, (sys.session k).location ≠ .authorized prepared)
    (hafter : ∀ link, s.location ≠ .exchanged link)
    (hspent : ∀ {i ids call}, calls i = .authorize ids call → Spent ids call sys.db →
      Spent ids call db) :
    LinksInv rt calls (sys.set k db s) := by
  have hold : ∀ {j link}, ((sys.set k db s).session j).location = .exchanged link →
      (sys.session j).location = .exchanged link := by
    intro j link hj
    by_cases hjk : j = k
    · subst hjk
      rw [System.set_session_self] at hj
      exact absurd hj (hafter link)
    · rwa [System.set_session_of_ne hjk] at hj
  refine ⟨hsatisfies, fun hi hone hj hlocation => ?_, fun hi hone hj hj' hl hl' => ?_⟩
  · rename_i i j ids call now link
    obtain ⟨hspent₀, prepared, hli, hurl⟩ := h.spent hi hone hj (hold hlocation)
    refine ⟨hspent hi hspent₀, prepared, ?_, hurl⟩
    have hik : i ≠ k := by
      rintro rfl
      exact hbefore prepared hli
    rwa [System.set_session_of_ne hik]
  · exact h.once hi hone hj hj' (hold hl) (hold hl')

/-- An exchange that marks an unused row. -/
theorem LinksInv.set_exchange {token : String} {now : Instant} {w : Write Db AuthorizationRow}
    {next : PublicReadLocation} (h : LinksInv rt calls sys)
    (hsatisfies : (sys.set k (w.effect sys.db) ⟨next, (sys.session k).pending⟩).Satisfies
      (MintedRows calls) (SessionInv rt calls))
    (hk : calls k = .consumeDownloadLink token now)
    (hbefore : ∀ link, (sys.session k).location ≠ .exchanged link)
    (hcode : consumeCode token now (sys.session k).location ((sys.session k).view sys.db) =
      .autocommit w next)
    (hfresh : ExchangesFresh calls k (sys.session k) sys.db) :
    LinksInv rt calls (sys.set k (w.effect sys.db) ⟨next, (sys.session k).pending⟩) := by
  have hinv := h.satisfies.own k
  unfold SessionInv at hinv
  rw [hk] at hinv
  -- The tokens of the call that exchanges are not spent before.
  have hspends : ∀ {i ids call}, calls i = .authorize ids call → call.request.oneTime = true →
      ids.grantId = token →
      ∃ link, next = .exchanged link ∧ ¬ Spent ids call sys.db ∧ Spent ids call (w.effect sys.db) ∧
        ∃ prepared, (sys.session i).location = .authorized prepared ∧
          link.url = prepared.upstreamUrl := by
    intro i ids call hi hone htoken
    subst htoken
    exact hinv.spends (h.satisfies.own i) h.satisfies.db hi hone hk hfresh hcode
  have hauthorize : ∀ {i ids call}, calls i = .authorize ids call → i ≠ k := by
    rintro i ids call hi rfl
    cases hi.symm.trans hk
  refine ⟨hsatisfies, fun hi hone hj hlocation => ?_, fun hi hone hj hj' hl hl' => ?_⟩
  · rename_i i j ids call now' link
    rw [System.set_session_of_ne (hauthorize hi)]
    by_cases hjk : j = k
    · subst hjk
      obtain ⟨htoken, -⟩ := PublicReadCall.consumeDownloadLink.inj (hj.symm.trans hk)
      obtain ⟨link', rfl, -, hspent, hupstream⟩ := hspends hi hone htoken
      rw [System.set_session_self] at hlocation
      obtain rfl := PublicReadLocation.exchanged.inj hlocation
      exact ⟨hspent, hupstream⟩
    · rw [System.set_session_of_ne hjk] at hlocation
      obtain ⟨hspent, hupstream⟩ := h.spent hi hone hj hlocation
      exact ⟨hspent.consume hi hinv hcode, hupstream⟩
  · rename_i i j j' ids call now₁ now₂ link link'
    -- An earlier exchange of the token has spent it.
    have hearlier : ∀ {m now' link'}, m ≠ k → calls m = .consumeDownloadLink ids.grantId now' →
        (sys.session m).location = .exchanged link' → ids.grantId ≠ token := by
      intro m now' link' hmk hm hlm htoken
      obtain ⟨-, -, hunspent, -⟩ := hspends hi hone htoken
      exact hunspent (h.spent hi hone hm hlm).1
    by_cases hjk : j = k
    · by_cases hjk' : j' = k
      · exact hjk.trans hjk'.symm
      · subst hjk
        rw [System.set_session_of_ne hjk'] at hl'
        obtain ⟨htoken, -⟩ := PublicReadCall.consumeDownloadLink.inj (hj.symm.trans hk)
        exact absurd htoken (hearlier hjk' hj' hl')
    · rw [System.set_session_of_ne hjk] at hl
      by_cases hjk' : j' = k
      · subst hjk'
        obtain ⟨htoken, -⟩ := PublicReadCall.consumeDownloadLink.inj (hj'.symm.trans hk)
        exact absurd htoken (hearlier hjk hj hl)
      · rw [System.set_session_of_ne hjk'] at hl'
        exact h.once hi hone hj hj' hl hl'

/-- **One step keeps the invariant of the links**, when an exchange marks an unused row. -/
theorem LinksInv.step {e : Event ι Db} (hids : FreshIds db₀ calls) (h : LinksInv rt calls sys)
    (hstep : Step (publicReadCode rt calls) Db.SameAuthorizations sys e sys')
    (hfresh : Transition.Meets (ExchangesFresh calls) ⟨sys, e, sys'⟩) : LinksInv rt calls sys' := by
  have hsatisfies := (publicRead_invariant hids).step h.satisfies hstep fun _ _ => trivial
  cases e with
  | environment db =>
      cases hstep with
      | environment henv =>
          refine ⟨hsatisfies, fun hi hone hj hlocation => ?_, h.once⟩
          obtain ⟨hspent, hupstream⟩ := h.spent hi hone hj hlocation
          exact ⟨hspent.environment henv, hupstream⟩
  | session k =>
      have hactive : ∀ {action : Action Db AuthorizationRow PublicReadLocation},
          publicReadCode rt calls k (sys.session k).location ((sys.session k).view sys.db) =
            action →
          action ≠ .halt → (∀ prepared, (sys.session k).location ≠ .authorized prepared) ∧
            ∀ link, (sys.session k).location ≠ .exchanged link := by
        intro action hcode hhalt
        refine ⟨fun prepared hlocation => ?_, fun link hlocation => ?_⟩
        · rw [hlocation, publicReadCode_authorized] at hcode
          exact hhalt hcode.symm
        · rw [hlocation, publicReadCode_exchanged] at hcode
          exact hhalt hcode.symm
      have hnext : ∀ {action : Action Db AuthorizationRow PublicReadLocation} {next},
          publicReadCode rt calls k (sys.session k).location ((sys.session k).view sys.db) =
            action →
          action.next? = some next → (∀ w next', action ≠ .autocommit w next') →
          ∀ link, next ≠ .exchanged link := by
        intro action next hcode haction hupdate link hnext
        subst hnext
        rcases publicReadCode_next (hcode ▸ haction) with ⟨-, prepared, heq⟩ | ⟨⟨w, hw⟩, -⟩ |
          ⟨-, hne⟩
        · cases heq
        · exact hupdate _ _ (hcode.symm.trans hw)
        · exact hne link rfl
      cases step_cases hstep with
      | query hcode =>
          exact h.set hsatisfies (hactive hcode (by simp)).1 (hnext hcode rfl (by simp))
            fun _ hspent => hspent
      | write hcode hfree =>
          exact h.set hsatisfies (hactive hcode (by simp)).1 (hnext hcode rfl (by simp))
            fun _ hspent => hspent
      | rollback hcode =>
          exact h.set hsatisfies (hactive hcode (by simp)).1 (hnext hcode rfl (by simp))
            fun _ hspent => hspent
      | commit hcode =>
          obtain ⟨ids, call, prepared, -, -, -, -, -, -, -, happly⟩ :=
            publicReadCode_commit (h.satisfies.own k) hcode
          exact h.set hsatisfies (hactive hcode (by simp)).1 (hnext hcode rfl (by simp))
            fun _ hspent => hspent.inserts (applyStatements_rows happly).1
      | autocommit hcode hfree =>
          obtain ⟨token, now, hk, hconsume⟩ := publicReadCode_autocommit hcode
          exact h.set_exchange hsatisfies hk (hactive hcode (by simp)).2 hconsume (hfresh k rfl)

end Run

/-- **One-time links are exchanged once**, before they expire, for the URL behind the
authorization, in every state of every run whose exchanges mark unused rows of the kind of
the authorization. -/
theorem links_exchanged_once [DecidableEq ι] {rt : Runtime} {calls : ι → PublicReadCall} {db : Db}
    {sys' : PublicReadSystem ι} {tr : List (Transition (PublicReadSystem ι) (Event ι Db))}
    (hids : FreshIds db calls)
    (hrun : Run (Step (publicReadCode rt calls) Db.SameAuthorizations)
      (publicReadSystem db calls) tr sys')
    (hfresh : ∀ τ ∈ tr, Transition.Meets (ExchangesFresh calls) τ) :
    LinksSafe calls sys' ∧ ∀ τ ∈ tr, LinksSafe calls τ.before ∧ LinksSafe calls τ.after := by
  have hnone : ∀ {j : ι} {link : RegistryPublicDownloadLinkRecord},
      ((publicReadSystem db calls).session j).location ≠ .exchanged link := by
    intro j link hlocation
    have hstart : (calls j).start = .exchanged link := hlocation
    cases hcall : calls j with
    | authorize ids call =>
        rw [hcall] at hstart
        cases hstart
    | consumeDownloadLink token now =>
        rw [hcall] at hstart
        cases hstart
  have hbegin : LinksInv rt calls (publicReadSystem db calls) :=
    ⟨publicReadSystem_satisfies hids, fun _ _ _ hl => absurd hl hnone,
      fun _ _ _ _ hl => absurd hl hnone⟩
  obtain ⟨hlast, hall⟩ := hrun.forall_invariant_where
    (fun h hstep hfresh => h.step hids hstep hfresh) hbegin hfresh
  exact ⟨hlast.safe, fun τ hτ => ⟨(hall τ hτ).1.safe, (hall τ hτ).2.safe⟩⟩

/-! ### Runs of the links -/

instance [Fintype ι] (calls : ι → PublicReadCall) (j : ι)
    (s : Session Db AuthorizationRow PublicReadLocation) (db : Db) :
    Decidable (ExchangesFresh calls j s db) :=
  inferInstanceAs (Decidable (∀ i, exchangeFresh (calls i) (calls j) s.location db = true))

/-- A one-time source authorization, and two exchanges of its token. -/
def linkCalls (i : Fin 3) : PublicReadCall :=
  if i.val = 0 then .authorize (sampleAuthorizationIds i) (sampleSourceAuthorization "a" none)
  else .consumeDownloadLink "grant-0" (100 * (i.val + 1))

theorem linkCalls_freshIds : FreshIds sampleAssets linkCalls := by
  refine sampleAssets_freshIds fun i ids call h => ?_
  by_cases hi : i.val = 0
  · rw [linkCalls, if_pos hi] at h
    exact (PublicReadCall.authorize.inj h).1
  · rw [linkCalls, if_neg hi] at h
    cases h

/-- What the token of the sample authorization leads to. -/
def sampleLink (url : String) : RegistryPublicDownloadLinkRecord := ⟨900100, "grant-0", url⟩

/-- The URL behind the sample authorization. -/
def sampleProxyPath : String := "/v1/assets/asset-a/versions/version-a/source/proxy?grantId=grant-0"

/-- Two exchanges of one token succeed: one after the other, when the second finds the audit
row and returns the link itself, and at once, when both have found the grant before either
marks it. -/
theorem link_exchanged_twice :
    FreshIds sampleAssets linkCalls ∧
    (∃ tr sys', Run (Step (publicReadCode sampleRuntime linkCalls) Db.SameAuthorizations)
        (publicReadSystem sampleAssets linkCalls) tr sys' ∧
      (sys'.session 1).location = .exchanged (sampleLink sampleProxyPath) ∧
      (sys'.session 2).location = .exchanged (sampleLink (downloadLink "grant-0")) ∧
      ¬ LinksSafe linkCalls sys') ∧
    ∃ tr sys', Run (Step (publicReadCode sampleRuntime linkCalls) Db.SameAuthorizations)
        (publicReadSystem sampleAssets linkCalls) tr sys' ∧
      (sys'.session 1).location = .exchanged (sampleLink sampleProxyPath) ∧
      (sys'.session 2).location = .exchanged (sampleLink sampleProxyPath) ∧
      ¬ LinksSafe linkCalls sys' := by
  have htwice : ∀ {sys' : PublicReadSystem (Fin 3)} {link link'},
      (sys'.session 1).location = .exchanged link → (sys'.session 2).location = .exchanged link' →
      ¬ LinksSafe linkCalls sys' := by
    intro sys' link link' hl hl' hsafe
    exact absurd (hsafe.once (i := 0) rfl rfl rfl rfl hl hl') (by decide)
  refine ⟨linkCalls_freshIds, ?_, ?_⟩
  · obtain ⟨tr, sys', hrun, hl, hl'⟩ := exists_run_of_schedule
      (publicReadCode sampleRuntime linkCalls) Db.SameAuthorizations
      (publicReadSystem sampleAssets linkCalls) ([0, 0, 0, 0, 0, 0] ++ [1, 1] ++ [2, 2, 2])
      (fun _ sys' => (sys'.session 1).location = .exchanged (sampleLink sampleProxyPath) ∧
        (sys'.session 2).location = .exchanged (sampleLink (downloadLink "grant-0")))
      (by decide +kernel)
    exact ⟨tr, sys', hrun, hl, hl', htwice hl hl'⟩
  · obtain ⟨tr, sys', hrun, hl, hl'⟩ := exists_run_of_schedule
      (publicReadCode sampleRuntime linkCalls) Db.SameAuthorizations
      (publicReadSystem sampleAssets linkCalls) ([0, 0, 0, 0, 0, 0] ++ [1, 2] ++ [1, 2])
      (fun _ sys' => (sys'.session 1).location = .exchanged (sampleLink sampleProxyPath) ∧
        (sys'.session 2).location = .exchanged (sampleLink sampleProxyPath))
      (by decide +kernel)
    exact ⟨tr, sys', hrun, hl, hl', htwice hl hl'⟩

/-- One exchange of a token. -/
theorem link_exchanged :
    ∃ tr sys', Run (Step (publicReadCode sampleRuntime linkCalls) Db.SameAuthorizations)
        (publicReadSystem sampleAssets linkCalls) tr sys' ∧
      (sys'.session 1).location = .exchanged (sampleLink sampleProxyPath) ∧
      LinksSafe linkCalls sys' := by
  obtain ⟨tr, sys', hrun, hl, hfresh⟩ := exists_run_of_schedule
    (publicReadCode sampleRuntime linkCalls) Db.SameAuthorizations
    (publicReadSystem sampleAssets linkCalls) ([0, 0, 0, 0, 0, 0] ++ [1, 1])
    (fun tr sys' => (sys'.session 1).location = .exchanged (sampleLink sampleProxyPath) ∧
      ∀ τ ∈ tr, Transition.Meets (ExchangesFresh linkCalls) τ)
    (by decide +kernel)
  exact ⟨tr, sys', hrun, hl, (links_exchanged_once linkCalls_freshIds hrun hfresh).1⟩

end Cdngine
