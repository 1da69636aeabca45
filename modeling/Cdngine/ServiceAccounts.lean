import Cdngine.Strip
import Cdngine.TenantIsolation
import Mathlib.Data.Fintype.EquivFin

/-!
# Service Accounts

The static service accounts of the auth package: how a registration is normalized, how an
authenticator is built from a list of them, loaded from the environment or given directly, and
which actor it returns for an `Authorization` header. A registration is a value of the shape
that `JSON.parse` returns, so that a field may be missing or of another type.

An empty allow-list of an actor admits every scope, and the normalization of a list drops its
blank entries: a list of blanks only becomes an empty one.

## Main results

* `normalizeStaticServiceAccount_registration`: a normalized account, registered again, is
  itself.
* `authenticateHeaders_eq`: the authenticator returns the actor that is registered with the
  digest of the bearer token, and no other.
* `load_environment_eq`: an authenticator loaded from the environment is the one built from the
  registrations there.
* `serviceAccounts_authorized_iff`: a configured allow-list restricts the actor exactly when it
  is not made of blanks only.
-/

open Relational

namespace Cdngine

/-! ### Values -/

/-- What the configuration of service accounts throws: a `StaticServiceAccountConfigError`, or
an error of the platform on a value of another type or length than the code expects. -/
inductive AuthSetupError
  | config (message : String)
  | typeError
  | rangeError
  deriving DecidableEq, Repr

/-- `toLowerCase`, where only the letters of ASCII matter. -/
def toLowerCase (s : String) : String := String.ofList (s.toList.map Char.toLower)

/-- The value of a property, `none` for one that is missing. -/
def Json.property? (key : String) : Json → Option Json
  | .object entries => (entries.find? fun entry => entry.1 == key).map (·.2)
  | _ => none

/-- `value?.trim()`. -/
def trimOptional : Option Json → Except AuthSetupError (Option String)
  | none | some .null => .ok none
  | some (.string s) => .ok (some (trim s))
  | some _ => .error .typeError

/-- The strings of a list, each of them trimmed. -/
def trimAll : List Json → Except AuthSetupError (List String)
  | [] => .ok []
  | .string s :: items => do
      let rest ← trimAll items
      return trim s :: rest
  | _ :: _ => .error .typeError

/-- The entries of a list that are not empty, each of them once. -/
def nonEmptyOnce (values : List String) : List String :=
  Strip.unique (values.filter fun value => 0 < value.length)

def normalizeStringArray : Option Json → Except AuthSetupError (List String)
  | none | some .null => .ok []
  | some (.array values) => do
      let trimmed ← trimAll values
      return nonEmptyOnce trimmed
  | some _ => .error .typeError

def normalizeActorDescriptor (descriptor : Json) (defaultSubject : String) :
    Except AuthSetupError AuthenticatedActor := do
  let subject ← trimOptional (descriptor.property? "subject")
  let roles ← normalizeStringArray (descriptor.property? "roles")
  let allowedServiceNamespaces ←
    normalizeStringArray (descriptor.property? "allowedServiceNamespaces")
  let allowedTenantIds ← normalizeStringArray (descriptor.property? "allowedTenantIds")
  return {
    subject := (present subject).getD defaultSubject
    roles, allowedServiceNamespaces, allowedTenantIds }

/-! ### Digests -/

/-- A hexadecimal digit in lower case. -/
def isHexDigit (c : Char) : Bool :=
  decide (0x61 ≤ c.toNat ∧ c.toNat ≤ 0x66) || decide (0x30 ≤ c.toNat ∧ c.toNat ≤ 0x39)

/-- The pattern of a digest: 64 hexadecimal digits in lower case. -/
def isSha256Hex (s : String) : Bool := s.toList.length = 64 && s.toList.all isHexDigit

def hexDigitValue (c : Char) : Nat := if 0x61 ≤ c.toNat then c.toNat - 0x57 else c.toNat - 0x30

/-- The bytes of a list of hexadecimal digits, up to the first pair that is none. -/
def hexBytes : List Char → List Nat
  | a :: b :: rest =>
      if isHexDigit a && isHexDigit b then (16 * hexDigitValue a + hexDigitValue b) :: hexBytes rest
      else []
  | _ => []

/-- `Buffer.from(text, 'hex')`, of a text in lower case. -/
def bufferFromHex (text : String) : List Nat := hexBytes text.toList

def timingSafeEqual (left right : List Nat) : Except AuthSetupError Bool :=
  if left.length ≠ right.length then .error .rangeError else .ok (left == right)

/-! ### Registrations -/

structure NormalizedStaticServiceAccount where
  actor : AuthenticatedActor
  tokenDigest : List Nat
  tokenSha256 : String
  deriving DecidableEq, Repr

/-- How the messages name an entry of the list. -/
def accountEntry (index : Nat) : String :=
  "CDNGINE_SERVICE_ACCOUNT_TOKENS_JSON[" ++ toString index ++ "]"

def assertStaticServiceAccountSubject (account : Json) (index : Nat) :
    Except AuthSetupError String := do
  match present (← trimOptional (account.property? "subject")) with
  | some subject => return subject
  | none => throw (.config (accountEntry index ++ ".subject must be a non-empty string."))

def assertStaticServiceAccountTokenHash (account : Json) (index : Nat) :
    Except AuthSetupError String := do
  let tokenSha256 := (← trimOptional (account.property? "tokenSha256")).map toLowerCase
  match tokenSha256.filter isSha256Hex with
  | some tokenSha256 => return tokenSha256
  | none =>
      throw (.config
        (accountEntry index ++ ".tokenSha256 must be a 64-character SHA-256 hex digest."))

def Json.isObject : Json → Bool
  | .object _ => true
  | _ => false

def normalizeStaticServiceAccount (account : Json) (index : Nat) :
    Except AuthSetupError NormalizedStaticServiceAccount := do
  if !account.isObject then
    throw (.config (accountEntry index ++ " must be a service-account object."))
  let subject ← assertStaticServiceAccountSubject account index
  let tokenSha256 ← assertStaticServiceAccountTokenHash account index
  let actor ← normalizeActorDescriptor account subject
  return { actor, tokenDigest := bufferFromHex tokenSha256, tokenSha256 }

/-- The normalization of the accounts of a list from an index on. -/
def normalizeFrom : Nat → List Json → Except AuthSetupError (List NormalizedStaticServiceAccount)
  | _, [] => .ok []
  | index, account :: accounts => do
      let normalized ← normalizeStaticServiceAccount account index
      let rest ← normalizeFrom (index + 1) accounts
      return normalized :: rest

def assertUniqueStaticServiceAccountTokenHashes
    (normalizedAccounts : List NormalizedStaticServiceAccount) : Except AuthSetupError Unit :=
  if (Strip.unique (normalizedAccounts.map (·.tokenSha256))).length ≠ normalizedAccounts.length then
    .error (.config "CDNGINE_SERVICE_ACCOUNT_TOKENS_JSON contains duplicate tokenSha256 entries.")
  else .ok ()

/-- The authenticator is the list of its normalized accounts. -/
def createStaticServiceAccountAuthenticator (serviceAccounts : List Json) :
    Except AuthSetupError (List NormalizedStaticServiceAccount) := do
  if serviceAccounts.length = 0 then
    throw (.config "At least one static service account is required for service-account auth.")
  let normalizedAccounts ← normalizeFrom 0 serviceAccounts
  assertUniqueStaticServiceAccountTokenHashes normalizedAccounts
  return normalizedAccounts

/-! ### Headers -/

/-- The token of an `Authorization` header, `none` for a header that is missing. -/
def extractBearerToken (authorization : Option String) (scheme : String := "Bearer") :
    Option String :=
  match present authorization with
  | none => none
  | some authorization =>
      let trimmed := (trim authorization).toList
      let separatorIndex := trimmed.idxOf ' '
      -- an index of the length stands for a character that is missing
      if separatorIndex = 0 ∨ separatorIndex = trimmed.length then none
      else
        let headerScheme := String.ofList (trimmed.take separatorIndex)
        let token := trim (String.ofList (trimmed.drop (separatorIndex + 1)))
        if toLowerCase headerScheme ≠ toLowerCase scheme ∨ token.length = 0 then none
        else some token

def hashBearerTokenForServiceAccount (rt : Runtime) (token : String) :
    Except AuthSetupError String :=
  let normalizedToken := trim token
  if normalizedToken.length = 0 then
    .error (.config "Bearer token material must be a non-empty string.")
  else .ok (rt.sha256Hex (utf8Bytes normalizedToken))

/-- The loop over the accounts of an authenticator. -/
def findServiceAccount (incomingDigest : List Nat) :
    List NormalizedStaticServiceAccount → Except AuthSetupError (Option AuthenticatedActor)
  | [] => .ok none
  | account :: accounts => do
      if ← timingSafeEqual incomingDigest account.tokenDigest then return some account.actor
      else findServiceAccount incomingDigest accounts

def authenticateHeaders (rt : Runtime) (normalizedAccounts : List NormalizedStaticServiceAccount)
    (authorization : Option String) : Except AuthSetupError (Option AuthenticatedActor) :=
  match extractBearerToken authorization with
  | none => .ok none
  | some token => do
      let digest ← hashBearerTokenForServiceAccount rt token
      findServiceAccount (bufferFromHex digest) normalizedAccounts

/-! ### The environment -/

/-- The variables of a process. -/
abbrev ProcessEnvironment := String → Option String

def readOptionalRuntimeValue (environment : ProcessEnvironment) (key : String) : Option String :=
  present ((environment key).map trim)

/-- The separators of a list in one variable. -/
def isListSeparator (c : Char) : Bool := c == '|' || c == ','

/-- The pieces of a variable that holds a list. -/
def listPieces (rawValue : String) : List String :=
  (rawValue.toList.splitOnP isListSeparator).map String.ofList

def readStaticServiceAccountListValue (environment : ProcessEnvironment) (key : String) :
    List String :=
  match readOptionalRuntimeValue environment key with
  | none => []
  | some rawValue => nonEmptyOnce ((listPieces rawValue).map trim)

def serviceAccountVariables : List String :=
  ["CDNGINE_SERVICE_ACCOUNT_SUBJECT", "CDNGINE_SERVICE_ACCOUNT_TOKEN_SHA256",
    "CDNGINE_SERVICE_ACCOUNT_ROLES", "CDNGINE_SERVICE_ACCOUNT_ALLOWED_SERVICE_NAMESPACES",
    "CDNGINE_SERVICE_ACCOUNT_ALLOWED_TENANT_IDS"]

def hasSingleStaticServiceAccountEnvironment (environment : ProcessEnvironment) : Bool :=
  serviceAccountVariables.any fun key => (readOptionalRuntimeValue environment key).isSome

/-- A list of strings as a value. -/
def Json.strings (values : List String) : Json := .array (values.map .string)

/-- A normalized account, as the registration that the loaders return. -/
def NormalizedStaticServiceAccount.registration (account : NormalizedStaticServiceAccount) : Json :=
  .object
    [("allowedServiceNamespaces", .strings account.actor.allowedServiceNamespaces),
      ("allowedTenantIds", .strings account.actor.allowedTenantIds),
      ("roles", .strings account.actor.roles),
      ("subject", .string account.actor.subject),
      ("tokenSha256", .string account.tokenSha256)]

def loadSingleStaticServiceAccountFromEnvironment (environment : ProcessEnvironment) :
    Except AuthSetupError (Option Json) := do
  if !hasSingleStaticServiceAccountEnvironment environment then return none
  match readOptionalRuntimeValue environment "CDNGINE_SERVICE_ACCOUNT_SUBJECT",
      readOptionalRuntimeValue environment "CDNGINE_SERVICE_ACCOUNT_TOKEN_SHA256" with
  | some subject, some tokenSha256 =>
      let account := Json.object
        [("allowedServiceNamespaces", .strings (readStaticServiceAccountListValue environment
            "CDNGINE_SERVICE_ACCOUNT_ALLOWED_SERVICE_NAMESPACES")),
          ("allowedTenantIds", .strings (readStaticServiceAccountListValue environment
            "CDNGINE_SERVICE_ACCOUNT_ALLOWED_TENANT_IDS")),
          ("roles", .strings (readStaticServiceAccountListValue environment
            "CDNGINE_SERVICE_ACCOUNT_ROLES")),
          ("subject", .string subject),
          ("tokenSha256", .string tokenSha256)]
      let normalizedAccount ← normalizeStaticServiceAccount account 0
      return some normalizedAccount.registration
  | _, _ =>
      throw (.config ("CDNGINE_SERVICE_ACCOUNT_SUBJECT and CDNGINE_SERVICE_ACCOUNT_TOKEN_SHA256 " ++
        "are required when using single service-account env keys."))

/-- `JSON.parse`: a value, or the message of the error. -/
abbrev JsonParser := String → Except String Json

/-- The accounts of the JSON variable. -/
def loadJsonServiceAccounts (parse : JsonParser) (rawValue : String) :
    Except AuthSetupError (List Json) :=
  match parse rawValue with
  | .error message =>
      .error (.config ("CDNGINE_SERVICE_ACCOUNT_TOKENS_JSON must be a JSON array of " ++
        "service-account objects: " ++ message))
  | .ok (.array accounts) => do
      let serviceAccounts ← normalizeFrom 0 accounts
      assertUniqueStaticServiceAccountTokenHashes serviceAccounts
      return serviceAccounts.map (·.registration)
  | .ok _ =>
      .error (.config
        "CDNGINE_SERVICE_ACCOUNT_TOKENS_JSON must be a JSON array of service-account objects.")

def loadStaticServiceAccountRuntimeConfigFromEnvironment (parse : JsonParser)
    (environment : ProcessEnvironment) : Except AuthSetupError (List Json) := do
  let singleAccount ← loadSingleStaticServiceAccountFromEnvironment environment
  match readOptionalRuntimeValue environment "CDNGINE_SERVICE_ACCOUNT_TOKENS_JSON",
      singleAccount with
  | some _, some _ =>
      throw (.config ("Use either CDNGINE_SERVICE_ACCOUNT_TOKENS_JSON or the single " ++
        "CDNGINE_SERVICE_ACCOUNT_* variables, not both."))
  | none, singleAccount => return singleAccount.toList
  | some rawValue, none => loadJsonServiceAccounts parse rawValue

def createStaticServiceAccountAuthenticatorFromEnvironment (parse : JsonParser)
    (environment : ProcessEnvironment) :
    Except AuthSetupError (List NormalizedStaticServiceAccount) := do
  let serviceAccounts ← loadStaticServiceAccountRuntimeConfigFromEnvironment parse environment
  if serviceAccounts.length = 0 then
    throw (.config "CDNGINE_SERVICE_ACCOUNT_TOKENS_JSON is required for service-account auth.")
  createStaticServiceAccountAuthenticator serviceAccounts

/-! ### Normal forms -/

theorem trim_eq_ofList_strip (s : String) :
    trim s = String.ofList (Strip.strip isStrWhiteSpace s.toList) := rfl

/-- A list of strings **is normal**: no entry is empty, has white space at its ends, or is there
twice. -/
structure NormalList (values : List String) : Prop where
  trimmed : ∀ value ∈ values, trim value = value
  nonEmpty : ∀ value ∈ values, 0 < value.length
  nodup : values.Nodup

theorem trimAll_strings (values : List String) :
    trimAll (values.map .string) = .ok (values.map trim) := by
  induction values with
  | nil => rfl
  | cons value values ih =>
      simp only [List.map_cons, trimAll, ih]
      rfl

theorem trimAll_eq_ok {items : List Json} {trimmed : List String}
    (h : trimAll items = .ok trimmed) :
    ∃ values : List String, items = values.map .string ∧ trimmed = values.map trim := by
  induction items generalizing trimmed with
  | nil =>
      obtain rfl := Except.ok.inj h
      exact ⟨[], rfl, rfl⟩
  | cons item items ih =>
      match item, h with
      | .string s, h =>
          obtain ⟨rest, hrest, hreturn⟩ := bind_eq_ok.mp h
          obtain rfl := Except.ok.inj hreturn
          obtain ⟨values, rfl, rfl⟩ := ih hrest
          exact ⟨s :: values, rfl, rfl⟩

theorem nonEmptyOnce_normal {values : List String} (h : ∀ value ∈ values, trim value = value) :
    NormalList (nonEmptyOnce values) where
  trimmed value hvalue := by
    rw [nonEmptyOnce, Strip.mem_unique] at hvalue
    exact h value (List.mem_of_mem_filter hvalue)
  nonEmpty value hvalue := by
    rw [nonEmptyOnce, Strip.mem_unique] at hvalue
    exact of_decide_eq_true (List.mem_filter.mp hvalue).2
  nodup := Strip.nodup_unique _

theorem nonEmptyOnce_eq_self {values : List String} (h : NormalList values) :
    nonEmptyOnce values = values := by
  have hall : values.filter (fun value => 0 < value.length) = values :=
    List.filter_eq_self.mpr fun value hvalue => decide_eq_true (h.nonEmpty value hvalue)
  rw [nonEmptyOnce, hall, Strip.unique_eq_self h.nodup]

/-- Nothing is left of a list exactly when all its entries are empty. -/
theorem nonEmptyOnce_eq_nil_iff {values : List String} :
    nonEmptyOnce values = [] ↔ ∀ value ∈ values, value = "" := by
  rw [nonEmptyOnce, Strip.unique_eq_nil_iff, List.filter_eq_nil_iff]
  simp [String.length_eq_zero_iff]

/-- What a list of strings is normalized to. -/
theorem normalizeStringArray_strings (values : List String) :
    normalizeStringArray (some (.strings values)) = .ok (nonEmptyOnce (values.map trim)) := by
  simp only [normalizeStringArray, Json.strings, trimAll_strings]
  rfl

/-- **A normalized list**: it is normal, and comes from a list of strings or from nothing. -/
theorem normalizeStringArray_eq_ok {values : Option Json} {normalized : List String}
    (h : normalizeStringArray values = .ok normalized) :
    NormalList normalized ∧
      ((values = none ∨ values = some .null) ∧ normalized = [] ∨
        ∃ strings, values = some (.strings strings) ∧
          normalized = nonEmptyOnce (strings.map trim)) := by
  match values, h with
  | none, h =>
      obtain rfl := Except.ok.inj h
      exact ⟨⟨by simp, by simp, List.nodup_nil⟩, Or.inl ⟨Or.inl rfl, rfl⟩⟩
  | some .null, h =>
      obtain rfl := Except.ok.inj h
      exact ⟨⟨by simp, by simp, List.nodup_nil⟩, Or.inl ⟨Or.inr rfl, rfl⟩⟩
  | some (.array items), h =>
      obtain ⟨trimmed, htrimmed, hreturn⟩ := bind_eq_ok.mp h
      obtain rfl := Except.ok.inj hreturn
      obtain ⟨strings, rfl, rfl⟩ := trimAll_eq_ok htrimmed
      refine ⟨nonEmptyOnce_normal ?_, Or.inr ⟨strings, rfl, rfl⟩⟩
      intro value hvalue
      obtain ⟨s, -, rfl⟩ := List.mem_map.mp hvalue
      exact trim_trim s

/-- A normal list is normalized to itself. -/
theorem normalizeStringArray_normal {values : List String} (h : NormalList values) :
    normalizeStringArray (some (.strings values)) = .ok values := by
  have htrim : values.map trim = values := by
    conv_rhs => rw [← List.map_id values]
    exact List.map_congr_left h.trimmed
  rw [normalizeStringArray_strings, htrim, nonEmptyOnce_eq_self h]

/-! ### Normalized accounts -/

/-- A hexadecimal digit in lower case is no white space, and left by `toLowerCase`. -/
theorem isHexDigit_facts {c : Char} (h : isHexDigit c = true) :
    isStrWhiteSpace c = false ∧ c.toLower = c := by
  simp only [isHexDigit, Bool.or_eq_true, decide_eq_true_eq] at h
  constructor
  · simp only [isStrWhiteSpace, Bool.or_eq_false_iff, decide_eq_false_iff_not,
      List.contains_eq_mem, List.mem_cons, List.not_mem_nil, or_false]
    omega
  · refine dif_neg fun hupper => ?_
    have hlow : 65 ≤ c.toNat := hupper.1
    have hhigh : c.toNat ≤ 90 := hupper.2
    omega

/-- A digest is left by `trim` and by `toLowerCase`. -/
theorem isSha256Hex_facts {s : String} (h : isSha256Hex s = true) :
    trim s = s ∧ toLowerCase s = s ∧ s ≠ "" := by
  simp only [isSha256Hex, Bool.and_eq_true, decide_eq_true_eq, List.all_eq_true] at h
  obtain ⟨hlength, hdigits⟩ := h
  refine ⟨?_, ?_, ?_⟩
  · have hstripped : Strip.Stripped isStrWhiteSpace s.toList :=
      ⟨fun c hc => (isHexDigit_facts (hdigits c (List.mem_of_mem_head? hc))).1,
        fun c hc => (isHexDigit_facts (hdigits c (List.mem_of_mem_getLast? hc))).1⟩
    rw [trim_eq_ofList_strip, Strip.strip_eq_self hstripped, String.ofList_toList]
  · have hmap : s.toList.map Char.toLower = s.toList := by
      conv_rhs => rw [← List.map_id s.toList]
      exact List.map_congr_left fun c hc => (isHexDigit_facts (hdigits c hc)).2
    rw [toLowerCase, hmap, String.ofList_toList]
  · rintro rfl
    simp at hlength

/-- What a registration is **normalized to**, clause by clause. -/
structure Json.NormalizesTo (account : Json) (normalized : NormalizedStaticServiceAccount) :
    Prop where
  isObject : account.isObject = true
  subject : trimOptional (account.property? "subject") = .ok (some normalized.actor.subject)
  nonEmpty : normalized.actor.subject ≠ ""
  tokenSha256 : ∃ token, trimOptional (account.property? "tokenSha256") = .ok (some token) ∧
    toLowerCase token = normalized.tokenSha256
  isHex : isSha256Hex normalized.tokenSha256 = true
  tokenDigest : normalized.tokenDigest = bufferFromHex normalized.tokenSha256
  roles : normalizeStringArray (account.property? "roles") = .ok normalized.actor.roles
  namespaces : normalizeStringArray (account.property? "allowedServiceNamespaces") =
    .ok normalized.actor.allowedServiceNamespaces
  tenants : normalizeStringArray (account.property? "allowedTenantIds") =
    .ok normalized.actor.allowedTenantIds

theorem assertSubject_eq_ok_iff {account : Json} {index : Nat} {subject : String} :
    assertStaticServiceAccountSubject account index = .ok subject ↔
      trimOptional (account.property? "subject") = .ok (some subject) ∧ subject ≠ "" := by
  unfold assertStaticServiceAccountSubject
  cases htrim : trimOptional (account.property? "subject") with
  | error e => simp [bind, Except.bind]
  | ok value =>
      cases hpresent : present value with
      | none =>
          simp only [bind, Except.bind, hpresent]
          constructor
          · intro h
            cases h
          · rintro ⟨hvalue, hne⟩
            obtain rfl := Except.ok.inj hvalue
            simp [present, hne] at hpresent
      | some s =>
          obtain ⟨rfl, hne⟩ := present_eq_some_iff.mp hpresent
          simp only [bind, Except.bind, hpresent]
          constructor
          · intro h
            obtain rfl := Except.ok.inj h
            exact ⟨rfl, hne⟩
          · rintro ⟨hvalue, -⟩
            exact congrArg Except.ok (Option.some.inj (Except.ok.inj hvalue))

theorem assertTokenHash_eq_ok_iff {account : Json} {index : Nat} {tokenSha256 : String} :
    assertStaticServiceAccountTokenHash account index = .ok tokenSha256 ↔
      (∃ token, trimOptional (account.property? "tokenSha256") = .ok (some token) ∧
        toLowerCase token = tokenSha256) ∧ isSha256Hex tokenSha256 = true := by
  unfold assertStaticServiceAccountTokenHash
  cases htrim : trimOptional (account.property? "tokenSha256") with
  | error e => simp [bind, Except.bind]
  | ok value =>
      cases value with
      | none =>
          simp only [bind, Except.bind, Option.map_none, Option.filter_none]
          constructor
          · intro h
            cases h
          · rintro ⟨⟨token, hvalue, -⟩, -⟩
            cases hvalue
      | some token =>
          simp only [bind, Except.bind, Option.map_some]
          cases hhex : isSha256Hex (toLowerCase token) with
          | true =>
              rw [Option.filter_some_pos hhex]
              constructor
              · intro h
                obtain rfl := Except.ok.inj h
                exact ⟨⟨token, rfl, rfl⟩, hhex⟩
              · rintro ⟨⟨token', hvalue, rfl⟩, -⟩
                rw [Option.some.inj (Except.ok.inj hvalue)]
                rfl
          | false =>
              rw [Option.filter_some_neg (by simp [hhex])]
              constructor
              · intro h
                cases h
              · rintro ⟨⟨token', hvalue, rfl⟩, hhex'⟩
                rw [← Option.some.inj (Except.ok.inj hvalue), hhex] at hhex'
                cases hhex'

/-- **The normalization of a registration**, whatever its index. -/
theorem normalizeStaticServiceAccount_eq_ok_iff {account : Json} {index : Nat}
    {normalized : NormalizedStaticServiceAccount} :
    normalizeStaticServiceAccount account index = .ok normalized ↔
      account.NormalizesTo normalized := by
  unfold normalizeStaticServiceAccount
  cases hobject : account.isObject with
  | false =>
      refine iff_of_false ?_ fun h => ?_
      · intro h
        cases h
      · rw [h.isObject] at hobject
        cases hobject
  | true =>
      simp only [Bool.not_true, Bool.false_eq_true, if_false]
      constructor
      · intro h
        obtain ⟨subject, hsubject, h⟩ := bind_eq_ok.mp h
        obtain ⟨tokenSha256, htoken, h⟩ := bind_eq_ok.mp h
        obtain ⟨actor, hactor, h⟩ := bind_eq_ok.mp h
        obtain rfl := Except.ok.inj h
        obtain ⟨hsubject, hne⟩ := assertSubject_eq_ok_iff.mp hsubject
        obtain ⟨htoken, hhex⟩ := assertTokenHash_eq_ok_iff.mp htoken
        obtain ⟨value, hvalue, hactor⟩ := bind_eq_ok.mp hactor
        obtain ⟨roles, hroles, hactor⟩ := bind_eq_ok.mp hactor
        obtain ⟨namespaces, hnamespaces, hactor⟩ := bind_eq_ok.mp hactor
        obtain ⟨tenants, htenants, hactor⟩ := bind_eq_ok.mp hactor
        obtain rfl := Except.ok.inj hactor
        obtain rfl := Except.ok.inj (hsubject.symm.trans hvalue)
        have hpresent : (present (some subject)).getD subject = subject := by
          rw [present_eq_some_iff.mpr ⟨rfl, hne⟩, Option.getD_some]
        exact ⟨hobject, by rw [hpresent]; exact hsubject, by rw [hpresent]; exact hne, htoken, hhex,
          rfl, hroles, hnamespaces, htenants⟩
      · intro h
        obtain ⟨⟨subject, roles, namespaces, tenants⟩, digest, tokenSha256⟩ := normalized
        obtain ⟨-, hsubject, hne, htoken, hhex, hdigest, hroles, hnamespaces, htenants⟩ := h
        obtain rfl : digest = bufferFromHex tokenSha256 := hdigest
        refine bind_eq_ok.mpr ⟨subject, assertSubject_eq_ok_iff.mpr ⟨hsubject, hne⟩, ?_⟩
        refine bind_eq_ok.mpr ⟨tokenSha256, assertTokenHash_eq_ok_iff.mpr ⟨htoken, hhex⟩, ?_⟩
        refine bind_eq_ok.mpr ⟨⟨subject, roles, namespaces, tenants⟩, ?_, rfl⟩
        refine bind_eq_ok.mpr ⟨some subject, hsubject, bind_eq_ok.mpr ⟨roles, hroles,
          bind_eq_ok.mpr ⟨namespaces, hnamespaces, bind_eq_ok.mpr ⟨tenants, htenants, ?_⟩⟩⟩⟩
        rw [present_eq_some_iff.mpr ⟨rfl, hne⟩]
        rfl

/-- **A normalized account, registered again, is itself.** -/
theorem Json.NormalizesTo.registration {account : Json}
    {normalized : NormalizedStaticServiceAccount} (h : account.NormalizesTo normalized) :
    normalized.registration.NormalizesTo normalized := by
  have hsubject : trim normalized.actor.subject = normalized.actor.subject := by
    match hvalue : account.property? "subject", h.subject with
    | some (.string s), hs => rw [← Option.some.inj (Except.ok.inj hs), trim_trim]
  obtain ⟨htrim, hlower, -⟩ := isSha256Hex_facts h.isHex
  refine ⟨rfl, ?_, h.nonEmpty, ⟨trim normalized.tokenSha256, rfl, ?_⟩, h.isHex, h.tokenDigest,
    normalizeStringArray_normal (normalizeStringArray_eq_ok h.roles).1,
    normalizeStringArray_normal (normalizeStringArray_eq_ok h.namespaces).1,
    normalizeStringArray_normal (normalizeStringArray_eq_ok h.tenants).1⟩
  · show Except.ok (some (trim normalized.actor.subject)) = _
    rw [hsubject]
  · rw [htrim, hlower]

/-! ### Lists of accounts -/

/-- The normalization of a list, entry by entry. -/
theorem normalizeFrom_eq_ok_iff {index : Nat} {accounts : List Json}
    {normalized : List NormalizedStaticServiceAccount} :
    normalizeFrom index accounts = .ok normalized ↔
      List.Forall₂ Json.NormalizesTo accounts normalized := by
  induction accounts generalizing index normalized with
  | nil =>
      rw [List.forall₂_nil_left_iff]
      exact ⟨fun h => (Except.ok.inj h).symm, fun h => congrArg Except.ok h.symm⟩
  | cons account accounts ih =>
      constructor
      · intro h
        obtain ⟨first, hfirst, h⟩ := bind_eq_ok.mp h
        obtain ⟨rest, hrest, h⟩ := bind_eq_ok.mp h
        obtain rfl := Except.ok.inj h
        exact .cons (normalizeStaticServiceAccount_eq_ok_iff.mp hfirst) (ih.mp hrest)
      · intro h
        cases h with
        | cons hfirst hrest =>
            exact bind_eq_ok.mpr ⟨_, normalizeStaticServiceAccount_eq_ok_iff.mpr hfirst,
              bind_eq_ok.mpr ⟨_, ih.mpr hrest, rfl⟩⟩

theorem assertUnique_eq_ok_iff {accounts : List NormalizedStaticServiceAccount} :
    assertUniqueStaticServiceAccountTokenHashes accounts = .ok () ↔
      (accounts.map (·.tokenSha256)).Nodup := by
  unfold assertUniqueStaticServiceAccountTokenHashes
  constructor
  · intro h
    split at h
    · cases h
    · rename_i hlength
      exact Strip.nodup_of_length_unique (by rw [not_not.mp hlength, List.length_map])
  · intro h
    rw [Strip.unique_eq_self h, List.length_map]
    simp

/-- **The authenticator of a list of registrations.** -/
theorem createAuthenticator_eq_ok_iff {accounts : List Json}
    {normalized : List NormalizedStaticServiceAccount} :
    createStaticServiceAccountAuthenticator accounts = .ok normalized ↔
      accounts ≠ [] ∧ List.Forall₂ Json.NormalizesTo accounts normalized ∧
        (normalized.map (·.tokenSha256)).Nodup := by
  unfold createStaticServiceAccountAuthenticator
  cases accounts with
  | nil =>
      refine iff_of_false (fun h => ?_) fun h => h.1 rfl
      cases h
  | cons account accounts =>
      simp only [List.length_cons, Nat.succ_ne_zero, if_false, ne_eq, reduceCtorEq,
        not_false_eq_true, true_and]
      constructor
      · intro h
        obtain ⟨result, hresult, h⟩ := bind_eq_ok.mp h
        obtain ⟨⟨⟩, hunique, h⟩ := bind_eq_ok.mp h
        obtain rfl := Except.ok.inj h
        exact ⟨normalizeFrom_eq_ok_iff.mp hresult, assertUnique_eq_ok_iff.mp hunique⟩
      · rintro ⟨hnormalizes, hunique⟩
        exact bind_eq_ok.mpr ⟨normalized, normalizeFrom_eq_ok_iff.mpr hnormalizes,
          bind_eq_ok.mpr ⟨(), assertUnique_eq_ok_iff.mpr hunique, rfl⟩⟩

/-! ### Digests of tokens -/

/-- The platform renders digests as 64 hexadecimal digits in lower case. -/
def Runtime.HexDigests (rt : Runtime) : Prop := ∀ bytes, isSha256Hex (rt.sha256Hex bytes) = true

theorem hexDigitValue_lt {c : Char} (h : isHexDigit c = true) : hexDigitValue c < 16 := by
  simp only [isHexDigit, Bool.or_eq_true, decide_eq_true_eq] at h
  unfold hexDigitValue
  split <;> omega

theorem hexDigitValue_inj {a b : Char} (ha : isHexDigit a = true) (hb : isHexDigit b = true)
    (h : hexDigitValue a = hexDigitValue b) : a = b := by
  simp only [isHexDigit, Bool.or_eq_true, decide_eq_true_eq] at ha hb
  refine Char.toNat_inj.mp ?_
  unfold hexDigitValue at h
  split at h <;> split at h <;> omega

/-- The bytes of two lists of digits of one even length are the same only if the lists are. -/
theorem hexBytes_inj {n : Nat} {l m : List Char} (hl : l.length = 2 * n) (hm : m.length = 2 * n)
    (hlhex : ∀ c ∈ l, isHexDigit c = true) (hmhex : ∀ c ∈ m, isHexDigit c = true) :
    (hexBytes l).length = n ∧ (hexBytes l = hexBytes m → l = m) := by
  induction n generalizing l m with
  | zero =>
      obtain rfl := List.length_eq_zero_iff.mp hl
      obtain rfl := List.length_eq_zero_iff.mp hm
      exact ⟨rfl, fun _ => rfl⟩
  | succ n ih =>
      match l, m, hl, hm with
      | a :: b :: l, c :: d :: m, hl, hm =>
          obtain ⟨ha, hlhex⟩ := List.forall_mem_cons.mp hlhex
          obtain ⟨hb, hlhex⟩ := List.forall_mem_cons.mp hlhex
          obtain ⟨hc, hmhex⟩ := List.forall_mem_cons.mp hmhex
          obtain ⟨hd, hmhex⟩ := List.forall_mem_cons.mp hmhex
          simp only [List.length_cons] at hl hm
          obtain ⟨hlength, hinj⟩ := @ih l m (by omega) (by omega) hlhex hmhex
          simp only [hexBytes, ha, hb, hc, hd, Bool.and_self, if_true, List.length_cons, hlength,
            List.cons.injEq, true_and]
          rintro ⟨hbyte, hrest⟩
          have hvalues : hexDigitValue a = hexDigitValue c ∧ hexDigitValue b = hexDigitValue d := by
            have := hexDigitValue_lt hb
            have := hexDigitValue_lt hd
            omega
          exact ⟨hexDigitValue_inj ha hc hvalues.1, hexDigitValue_inj hb hd hvalues.2, hinj hrest⟩

/-- **Comparing two digests** compares their texts. -/
theorem timingSafeEqual_bufferFromHex {s t : String} (hs : isSha256Hex s = true)
    (ht : isSha256Hex t = true) :
    timingSafeEqual (bufferFromHex s) (bufferFromHex t) = .ok (s == t) := by
  simp only [isSha256Hex, Bool.and_eq_true, decide_eq_true_eq, List.all_eq_true] at hs ht
  obtain ⟨hlength, hinj⟩ := @hexBytes_inj 32 s.toList t.toList hs.1 ht.1 hs.2 ht.2
  have hlength' := (@hexBytes_inj 32 t.toList s.toList ht.1 hs.1 ht.2 hs.2).1
  have heq : (bufferFromHex s == bufferFromHex t) = (s == t) := by
    rw [Bool.eq_iff_iff, beq_iff_eq, beq_iff_eq]
    exact ⟨fun h => String.toList_inj.mp (hinj h), fun h => congrArg bufferFromHex h⟩
  rw [timingSafeEqual, if_neg, heq]
  simp only [bufferFromHex, hlength, hlength', ne_eq, not_true_eq_false, not_false_eq_true]

/-! ### The authenticator -/

section Authenticator

variable {rt : Runtime} {accounts : List NormalizedStaticServiceAccount}

/-- The digests of the accounts are those of their texts. -/
def WithDigests (accounts : List NormalizedStaticServiceAccount) : Prop :=
  ∀ account ∈ accounts, isSha256Hex account.tokenSha256 = true ∧
    account.tokenDigest = bufferFromHex account.tokenSha256

/-- The loop finds the first account of a digest. -/
theorem findServiceAccount_eq {digest : String} (hdigest : isSha256Hex digest = true)
    (haccounts : WithDigests accounts) :
    findServiceAccount (bufferFromHex digest) accounts =
      .ok ((accounts.find? fun account => account.tokenSha256 == digest).map (·.actor)) := by
  induction accounts with
  | nil => rfl
  | cons account accounts ih =>
      obtain ⟨⟨hhex, hbytes⟩, hrest⟩ := List.forall_mem_cons.mp haccounts
      have hequal := timingSafeEqual_bufferFromHex hdigest hhex
      rw [← hbytes] at hequal
      simp only [findServiceAccount, hequal, List.find?_cons]
      cases heq : digest == account.tokenSha256 with
      | true =>
          rw [beq_iff_eq] at heq
          simp [bind, Except.bind, heq, pure, Except.pure]
      | false =>
          have hne : (account.tokenSha256 == digest) = false := by
            rw [beq_eq_false_iff_ne] at heq ⊢
            exact heq.symm
          simp only [bind, Except.bind, hne, Bool.false_eq_true, if_false]
          exact ih hrest

/-- A token of a header is trimmed, and not empty. -/
theorem extractBearerToken_facts {authorization : Option String} {scheme token : String}
    (h : extractBearerToken authorization scheme = some token) :
    trim token = token ∧ token.length ≠ 0 := by
  unfold extractBearerToken at h
  split at h
  · cases h
  · dsimp only at h
    split at h
    · cases h
    · split at h
      · cases h
      · rename_i hbearer
        obtain rfl := Option.some.inj h
        exact ⟨trim_trim _, (not_or.mp hbearer).2⟩

/-- The digest of the token of a header. -/
def headerDigest (rt : Runtime) (authorization : Option String) : Option String :=
  (extractBearerToken authorization).map fun token => rt.sha256Hex (utf8Bytes (trim token))

/-- **The actor of a header** is that of the account with the digest of its token. -/
theorem authenticateHeaders_eq (hrt : rt.HexDigests) (haccounts : WithDigests accounts)
    (authorization : Option String) :
    authenticateHeaders rt accounts authorization =
      .ok ((headerDigest rt authorization).bind fun digest =>
        (accounts.find? fun account => account.tokenSha256 == digest).map (·.actor)) := by
  unfold authenticateHeaders headerDigest
  cases htoken : extractBearerToken authorization with
  | none => rfl
  | some token =>
      obtain ⟨htrim, hlength⟩ := extractBearerToken_facts htoken
      have hhash : hashBearerTokenForServiceAccount rt token =
          .ok (rt.sha256Hex (utf8Bytes (trim token))) := by
        rw [← htrim] at hlength
        rw [hashBearerTokenForServiceAccount, if_neg hlength]
      simp only [hhash, Option.map_some, Option.bind_some]
      exact findServiceAccount_eq (hrt _) haccounts

end Authenticator

/-! ### Registrations of a source -/

/-- Where an authenticator takes its accounts from. -/
inductive AccountSource
  | direct (serviceAccounts : List Json)
  | environment (env : ProcessEnvironment)

/-- A list of one variable, as registered there; an empty one is the list of nothing. -/
def registeredList (environment : ProcessEnvironment) (key : String) : Json :=
  .strings (((present (environment key)).map listPieces).getD [])

/-- The value of one variable, as registered there. -/
def registeredText (environment : ProcessEnvironment) (key : String) : Json :=
  ((environment key).map Json.string).getD .null

/-- The registration that the variables of a single account spell out. -/
def singleRegistration (environment : ProcessEnvironment) : Json :=
  .object
    [("allowedServiceNamespaces",
        registeredList environment "CDNGINE_SERVICE_ACCOUNT_ALLOWED_SERVICE_NAMESPACES"),
      ("allowedTenantIds",
        registeredList environment "CDNGINE_SERVICE_ACCOUNT_ALLOWED_TENANT_IDS"),
      ("roles", registeredList environment "CDNGINE_SERVICE_ACCOUNT_ROLES"),
      ("subject", registeredText environment "CDNGINE_SERVICE_ACCOUNT_SUBJECT"),
      ("tokenSha256", registeredText environment "CDNGINE_SERVICE_ACCOUNT_TOKEN_SHA256")]

namespace AccountSource

/-- The registrations of a source: those given, those of the JSON variable, or the one of the
other variables. -/
def registrations (parse : JsonParser) : AccountSource → Option (List Json)
  | direct serviceAccounts => some serviceAccounts
  | environment env =>
      match readOptionalRuntimeValue env "CDNGINE_SERVICE_ACCOUNT_TOKENS_JSON",
          hasSingleStaticServiceAccountEnvironment env with
      | some rawValue, false =>
          match parse rawValue with
          | .ok (.array accounts) => some accounts
          | _ => none
      | none, true => some [singleRegistration env]
      | _, _ => none

/-- The authenticator of a source. -/
def authenticator (parse : JsonParser) :
    AccountSource → Except AuthSetupError (List NormalizedStaticServiceAccount)
  | direct serviceAccounts => createStaticServiceAccountAuthenticator serviceAccounts
  | environment env =>
      createStaticServiceAccountAuthenticatorFromEnvironment parse env

end AccountSource

/-! ### Loading -/

section Loading

variable {env : ProcessEnvironment} {parse : JsonParser} {accounts : List Json}
  {normalized : List NormalizedStaticServiceAccount}

/-- White space is no separator of lists. -/
theorem isListSeparator_of_space {c : Char} (h : isStrWhiteSpace c = true) :
    isListSeparator c = false := by
  cases hsep : isListSeparator c with
  | false => rfl
  | true =>
      simp only [isListSeparator, Bool.or_eq_true, beq_iff_eq] at hsep
      rcases hsep with rfl | rfl <;> exact absurd h (by decide)

/-- The trimmed pieces of a variable do not depend on the white space around it. -/
theorem listPieces_trim (rawValue : String) :
    (listPieces (trim rawValue)).map trim = (listPieces rawValue).map trim := by
  have hpieces : ∀ pieces : List (List Char), (pieces.map String.ofList).map trim =
      (pieces.map (Strip.strip isStrWhiteSpace)).map String.ofList := by
    intro pieces
    simp only [List.map_map]
    refine List.map_congr_left fun piece _ => ?_
    simp only [Function.comp_apply, trim_eq_ofList_strip, String.toList_ofList]
  simp only [listPieces, hpieces, trim_eq_ofList_strip, String.toList_ofList,
    Strip.map_strip_splitOnP fun c hc => isListSeparator_of_space hc]

/-- **The list of a variable** is what its registration is normalized to. -/
theorem normalize_registeredList (env : ProcessEnvironment) (key : String) :
    normalizeStringArray (some (registeredList env key)) =
      .ok (readStaticServiceAccountListValue env key) := by
  rw [registeredList, normalizeStringArray_strings, readStaticServiceAccountListValue,
    readOptionalRuntimeValue]
  cases hraw : env key with
  | none => rfl
  | some rawValue =>
      by_cases hempty : rawValue = ""
      · subst hempty
        rfl
      have hpresent : present (some rawValue) = some rawValue :=
        present_eq_some_iff.mpr ⟨rfl, hempty⟩
      rw [hpresent, Option.map_some, Option.map_some, Option.getD_some, ← listPieces_trim]
      by_cases hblank : trim rawValue = ""
      · rw [hblank]
        rfl
      · rw [present_eq_some_iff.mpr ⟨rfl, hblank⟩]

/-- The list of a variable is normal. -/
theorem readStaticServiceAccountListValue_normal (env : ProcessEnvironment) (key : String) :
    NormalList (readStaticServiceAccountListValue env key) :=
  (normalizeStringArray_eq_ok (normalize_registeredList env key)).1

/-- What a registered variable is trimmed to. -/
theorem trimOptional_registeredText (env : ProcessEnvironment) (key : String) :
    trimOptional (some (registeredText env key)) = .ok ((env key).map trim) := by
  unfold registeredText
  cases env key <;> rfl

theorem readOptional_eq_some {key value : String}
    (h : readOptionalRuntimeValue env key = some value) :
    (env key).map trim = some value ∧ trim value = value := by
  obtain ⟨hvalue, -⟩ := present_eq_some_iff.mp h
  refine ⟨hvalue, ?_⟩
  obtain ⟨raw, -, rfl⟩ := Option.map_eq_some_iff.mp hvalue
  exact trim_trim raw

/-- Registrations whose fields are read alike are normalized alike. -/
theorem Json.normalizesTo_congr {account other : Json} {result : NormalizedStaticServiceAccount}
    (hobject : account.isObject = other.isObject)
    (htexts : ∀ key ∈ ["subject", "tokenSha256"],
      trimOptional (account.property? key) = trimOptional (other.property? key))
    (hlists : ∀ key ∈ ["roles", "allowedServiceNamespaces", "allowedTenantIds"],
      normalizeStringArray (account.property? key) = normalizeStringArray (other.property? key)) :
    account.NormalizesTo result ↔ other.NormalizesTo result := by
  simp only [List.forall_mem_cons, List.not_mem_nil, false_implies, implies_true, and_true]
    at htexts hlists
  obtain ⟨hsubject, htoken⟩ := htexts
  obtain ⟨hroles, hnamespaces, htenants⟩ := hlists
  constructor
  · rintro ⟨h1, h2, h3, h4, h5, h6, h7, h8, h9⟩
    exact ⟨hobject ▸ h1, hsubject ▸ h2, h3, htoken ▸ h4, h5, h6, hroles ▸ h7, hnamespaces ▸ h8,
      htenants ▸ h9⟩
  · rintro ⟨h1, h2, h3, h4, h5, h6, h7, h8, h9⟩
    exact ⟨hobject ▸ h1, hsubject ▸ h2, h3, htoken ▸ h4, h5, h6, hroles ▸ h7, hnamespaces ▸ h8,
      htenants ▸ h9⟩

/-- The texts of the registration of the variables are those of the variables, trimmed. -/
theorem singleRegistration_texts (env : ProcessEnvironment) :
    trimOptional ((singleRegistration env).property? "subject") =
        .ok ((env "CDNGINE_SERVICE_ACCOUNT_SUBJECT").map trim) ∧
      trimOptional ((singleRegistration env).property? "tokenSha256") =
        .ok ((env "CDNGINE_SERVICE_ACCOUNT_TOKEN_SHA256").map trim) := by
  simp only [← trimOptional_registeredText]
  simp [singleRegistration, Json.property?]

/-- The variables of a registration that is normalized name a subject and a digest. -/
theorem singleRegistration_named {result : NormalizedStaticServiceAccount}
    (h : (singleRegistration env).NormalizesTo result) :
    (readOptionalRuntimeValue env "CDNGINE_SERVICE_ACCOUNT_SUBJECT").isSome = true ∧
      (readOptionalRuntimeValue env "CDNGINE_SERVICE_ACCOUNT_TOKEN_SHA256").isSome = true := by
  obtain ⟨hsubject, htoken⟩ := singleRegistration_texts env
  constructor
  · have hvalue := Except.ok.inj (hsubject.symm.trans h.subject)
    rw [readOptionalRuntimeValue, present_eq_some_iff.mpr ⟨hvalue, h.nonEmpty⟩, Option.isSome_some]
  · obtain ⟨token, hread, hlower⟩ := h.tokenSha256
    have hvalue := Except.ok.inj (htoken.symm.trans hread)
    have hne : token ≠ "" := by
      rintro rfl
      exact (isSha256Hex_facts h.isHex).2.2 hlower.symm
    rw [readOptionalRuntimeValue, present_eq_some_iff.mpr ⟨hvalue, hne⟩, Option.isSome_some]

/-- **The account of the variables** is normalized like the registration that they spell
out. -/
theorem loadSingle_eq_ok_iff (hsingle : hasSingleStaticServiceAccountEnvironment env = true)
    {registration : Json} :
    loadSingleStaticServiceAccountFromEnvironment env = .ok (some registration) ↔
      ∃ account, (singleRegistration env).NormalizesTo account ∧
        registration = account.registration := by
  unfold loadSingleStaticServiceAccountFromEnvironment
  simp only [hsingle, Bool.not_true, Bool.false_eq_true, if_false]
  cases hsubject : readOptionalRuntimeValue env "CDNGINE_SERVICE_ACCOUNT_SUBJECT" with
  | none =>
      refine iff_of_false (fun h => by cases h) ?_
      rintro ⟨account, h, -⟩
      have hnamed := (singleRegistration_named h).1
      rw [hsubject] at hnamed
      cases hnamed
  | some subject =>
      cases htoken : readOptionalRuntimeValue env "CDNGINE_SERVICE_ACCOUNT_TOKEN_SHA256" with
      | none =>
          refine iff_of_false (fun h => by cases h) ?_
          rintro ⟨account, h, -⟩
          have hnamed := (singleRegistration_named h).2
          rw [htoken] at hnamed
          cases hnamed
      | some tokenSha256 =>
          obtain ⟨hsubject, hsubjectTrim⟩ := readOptional_eq_some hsubject
          obtain ⟨htoken, htokenTrim⟩ := readOptional_eq_some htoken
          obtain ⟨hsubjectText, htokenText⟩ := singleRegistration_texts env
          have hcongr := fun result => @Json.normalizesTo_congr (.object
            [("allowedServiceNamespaces", .strings (readStaticServiceAccountListValue env
                "CDNGINE_SERVICE_ACCOUNT_ALLOWED_SERVICE_NAMESPACES")),
              ("allowedTenantIds", .strings (readStaticServiceAccountListValue env
                "CDNGINE_SERVICE_ACCOUNT_ALLOWED_TENANT_IDS")),
              ("roles", .strings (readStaticServiceAccountListValue env
                "CDNGINE_SERVICE_ACCOUNT_ROLES")),
              ("subject", .string subject),
              ("tokenSha256", .string tokenSha256)]) (singleRegistration env) result rfl
            (by
              simp only [List.forall_mem_cons, List.not_mem_nil, false_implies, implies_true,
                and_true, hsubjectText, htokenText, hsubject, htoken]
              simp [Json.property?, trimOptional, hsubjectTrim, htokenTrim])
            (by
              simp [Json.property?, singleRegistration, normalize_registeredList,
                normalizeStringArray_normal (readStaticServiceAccountListValue_normal env _)])
          constructor
          · intro h
            obtain ⟨account, haccount, h⟩ := bind_eq_ok.mp h
            obtain rfl := Option.some.inj (Except.ok.inj h)
            exact ⟨account, (hcongr account).mp
              (normalizeStaticServiceAccount_eq_ok_iff.mp haccount),
              rfl⟩
          · rintro ⟨account, haccount, rfl⟩
            exact bind_eq_ok.mpr ⟨account,
              normalizeStaticServiceAccount_eq_ok_iff.mpr ((hcongr account).mpr haccount), rfl⟩

/-- A list that the other variables of a single account do not fill loads no account. -/
theorem loadSingle_none (hsingle : hasSingleStaticServiceAccountEnvironment env = false) :
    loadSingleStaticServiceAccountFromEnvironment env = .ok none := by
  simp only [loadSingleStaticServiceAccountFromEnvironment, hsingle, Bool.not_false, if_true]
  rfl

/-- Where the other variables are filled, an account is loaded or there is an error. -/
theorem loadSingle_ne_none (hsingle : hasSingleStaticServiceAccountEnvironment env = true) :
    loadSingleStaticServiceAccountFromEnvironment env ≠ .ok none := by
  intro h
  unfold loadSingleStaticServiceAccountFromEnvironment at h
  simp only [hsingle, Bool.not_true, Bool.false_eq_true, if_false] at h
  split at h
  · obtain ⟨account, -, h⟩ := bind_eq_ok.mp h
    cases h
  · cases h

/-- The accounts of the JSON variable are its registrations, normalized. -/
theorem loadJson_eq_ok_iff {rawValue : String} (hparse : parse rawValue = .ok (.array accounts))
    {loaded : List Json} :
    loadJsonServiceAccounts parse rawValue = .ok loaded ↔
      ∃ result, List.Forall₂ Json.NormalizesTo accounts result ∧
        (result.map (·.tokenSha256)).Nodup ∧ loaded = result.map (·.registration) := by
  simp only [loadJsonServiceAccounts, hparse]
  constructor
  · intro h
    obtain ⟨result, hresult, h⟩ := bind_eq_ok.mp h
    obtain ⟨⟨⟩, hunique, h⟩ := bind_eq_ok.mp h
    obtain rfl := Except.ok.inj h
    exact ⟨result, normalizeFrom_eq_ok_iff.mp hresult, assertUnique_eq_ok_iff.mp hunique, rfl⟩
  · rintro ⟨result, hresult, hunique, rfl⟩
    exact bind_eq_ok.mpr ⟨result, normalizeFrom_eq_ok_iff.mpr hresult,
      bind_eq_ok.mpr ⟨(), assertUnique_eq_ok_iff.mpr hunique, rfl⟩⟩

/-- **What is loaded from the environment**: the registrations there, normalized. -/
theorem load_eq_ok_iff (hregs : (AccountSource.environment env).registrations parse = some accounts)
    {loaded : List Json} :
    loadStaticServiceAccountRuntimeConfigFromEnvironment parse env = .ok loaded ↔
      ∃ result, List.Forall₂ Json.NormalizesTo accounts result ∧
        (result.map (·.tokenSha256)).Nodup ∧ loaded = result.map (·.registration) := by
  unfold loadStaticServiceAccountRuntimeConfigFromEnvironment
  simp only [AccountSource.registrations] at hregs
  split at hregs
  case h_1 rawValue hraw hsingle =>
    split at hregs
    case h_1 items hparse =>
      obtain rfl := Option.some.inj hregs
      rw [loadSingle_none hsingle, hraw]
      exact loadJson_eq_ok_iff hparse
    case h_2 => cases hregs
  case h_2 hraw hsingle =>
    obtain rfl := Option.some.inj hregs
    rw [hraw]
    constructor
    · intro h
      obtain ⟨single, hload, h⟩ := bind_eq_ok.mp h
      obtain rfl := Except.ok.inj h
      cases single with
      | none => exact absurd hload (loadSingle_ne_none hsingle)
      | some registration =>
          obtain ⟨account, haccount, rfl⟩ := (loadSingle_eq_ok_iff hsingle).mp hload
          exact ⟨[account], .cons haccount .nil, by simp, rfl⟩
    · rintro ⟨result, hresult, -, rfl⟩
      obtain ⟨account, rest, haccount, hrest, rfl⟩ := List.forall₂_cons_left_iff.mp hresult
      obtain rfl := List.forall₂_nil_left_iff.mp hrest
      exact bind_eq_ok.mpr ⟨_, (loadSingle_eq_ok_iff hsingle).mpr ⟨account, haccount, rfl⟩, rfl⟩
  case h_3 => cases hregs

/-- Normalized accounts, registered again, are themselves. -/
theorem normalizesTo_registrations (h : List.Forall₂ Json.NormalizesTo accounts normalized) :
    List.Forall₂ Json.NormalizesTo (normalized.map (·.registration)) normalized := by
  induction h with
  | nil => exact .nil
  | cons haccount _ ih => exact .cons haccount.registration ih

/-- Registrations are normalized in one way only. -/
theorem normalizesTo_unique {other : List NormalizedStaticServiceAccount}
    (h : List.Forall₂ Json.NormalizesTo accounts normalized)
    (hother : List.Forall₂ Json.NormalizesTo accounts other) : normalized = other := by
  have hnormalized := (@normalizeFrom_eq_ok_iff 0 _ _).mpr h
  have hsame := hnormalized.symm.trans ((@normalizeFrom_eq_ok_iff 0 _ _).mpr hother)
  exact Except.ok.inj hsame

/-- **An authenticator loaded from the environment** is the one built from the registrations
there. -/
theorem load_environment_eq {source : AccountSource}
    (hregs : source.registrations parse = some accounts) :
    source.authenticator parse = .ok normalized ↔
      createStaticServiceAccountAuthenticator accounts = .ok normalized := by
  cases source with
  | direct serviceAccounts =>
      obtain rfl := Option.some.inj hregs
      exact Iff.rfl
  | environment env =>
      show createStaticServiceAccountAuthenticatorFromEnvironment parse env = _ ↔ _
      unfold createStaticServiceAccountAuthenticatorFromEnvironment
      rw [createAuthenticator_eq_ok_iff]
      constructor
      · intro h
        obtain ⟨loaded, hload, h⟩ := bind_eq_ok.mp h
        obtain ⟨result, hresult, -, rfl⟩ := (load_eq_ok_iff hregs).mp hload
        split at h
        · cases h
        · obtain ⟨hne, hagain, hunique⟩ := createAuthenticator_eq_ok_iff.mp h
          obtain rfl := normalizesTo_unique (normalizesTo_registrations hresult) hagain
          refine ⟨?_, hresult, hunique⟩
          rintro rfl
          obtain rfl := List.forall₂_nil_left_iff.mp hresult
          exact hne rfl
      · rintro ⟨hne, hresult, hunique⟩
        refine bind_eq_ok.mpr ⟨_, (load_eq_ok_iff hregs).mpr ⟨_, hresult, hunique, rfl⟩, ?_⟩
        have hloaded : normalized.map (·.registration) ≠ [] := by
          intro hnil
          obtain rfl := List.map_eq_nil_iff.mp hnil
          exact hne (List.forall₂_nil_right_iff.mp hresult)
        rw [if_neg (fun h => hloaded (List.length_eq_zero_iff.mp h))]
        exact createAuthenticator_eq_ok_iff.mpr
          ⟨hloaded, normalizesTo_registrations hresult, hunique⟩

/-- A source without registrations has no authenticator. -/
theorem authenticator_ne_ok {source : AccountSource} (hregs : source.registrations parse = none) :
    source.authenticator parse ≠ .ok normalized := by
  cases source with
  | direct serviceAccounts => cases hregs
  | environment env =>
      intro h
      obtain ⟨loaded, hload, hcreate⟩ := bind_eq_ok.mp h
      obtain ⟨single, hsingle, hload⟩ := bind_eq_ok.mp hload
      simp only [AccountSource.registrations] at hregs
      cases hraw : readOptionalRuntimeValue env "CDNGINE_SERVICE_ACCOUNT_TOKENS_JSON" with
      | none =>
          simp only [hraw] at hregs hload
          cases hother : hasSingleStaticServiceAccountEnvironment env with
          | true =>
              rw [hother] at hregs
              cases hregs
          | false =>
              rw [loadSingle_none hother] at hsingle
              obtain rfl := Except.ok.inj hsingle
              obtain rfl := Except.ok.inj hload
              cases hcreate
      | some rawValue =>
          simp only [hraw] at hregs hload
          cases hother : hasSingleStaticServiceAccountEnvironment env with
          | true =>
              cases single with
              | none => exact loadSingle_ne_none hother hsingle
              | some registration => cases hload
          | false =>
              rw [loadSingle_none hother] at hsingle
              obtain rfl := Except.ok.inj hsingle
              simp only [hother] at hregs
              simp only [loadJsonServiceAccounts] at hload
              split at hregs
              · cases hregs
              · rename_i hparse
                split at hload
                · cases hload
                · exact hparse _ ‹_›
                · cases hload

end Loading

/-! ### Authorization -/

/-- The digest of the token of a header is the one of the registration. -/
def Json.HoldsToken (rt : Runtime) (authorization : Option String) (account : Json) : Prop :=
  ∃ digest text, headerDigest rt authorization = some digest ∧
    trimOptional (account.property? "tokenSha256") = .ok (some text) ∧ toLowerCase text = digest

/-- An allow-list **is configured**: it is there, and neither nothing nor an empty list or
text. -/
def Json.Configures (account : Json) (key : String) : Prop :=
  ∃ value, account.property? key = some value ∧ value ≠ .null ∧ value ≠ .array [] ∧
    value ≠ .string ""

/-- An allow-list is made of blank texts, and has one. -/
def Json.OnlyBlank (account : Json) (key : String) : Prop :=
  ∃ values, account.property? key = some (.strings values) ∧ values ≠ [] ∧
    ∀ value ∈ values, trim value = ""

/-- The scope check lets an actor into no scope of some namespace. -/
def AuthenticatedActor.KeptFromNamespace (actor : AuthenticatedActor) : Prop :=
  ∃ serviceNamespaceId, ∀ tenantId,
    assertAuthorizedScope (some actor) ⟨some serviceNamespaceId, tenantId⟩ ≠ .ok ()

/-- The scope check lets an actor into no scope of some tenant. -/
def AuthenticatedActor.KeptFromTenant (actor : AuthenticatedActor) : Prop :=
  ∃ tenantId, ∀ serviceNamespaceId,
    assertAuthorizedScope (some actor) ⟨serviceNamespaceId, some tenantId⟩ ≠ .ok ()

/-- What an authenticator owes its registrations at a header. -/
structure MeetsRegistrations (rt : Runtime) (accounts : List Json)
    (authenticator : List NormalizedStaticServiceAccount) (authorization : Option String) :
    Prop where
  /-- It returns an actor exactly when a registration holds the token, and then the one
  registered there. -/
  actor : ∃ result, authenticateHeaders rt authenticator authorization = .ok result ∧
    ∀ actor, result = some actor ↔ ∃ account ∈ accounts, account.HoldsToken rt authorization ∧
      ∃ normalized, account.NormalizesTo normalized ∧ normalized.actor = actor
  /-- An actor whose registration configures an allow-list is not let in everywhere. -/
  restricted : ∀ account ∈ accounts, account.HoldsToken rt authorization →
    ∀ actor, authenticateHeaders rt authenticator authorization = .ok (some actor) →
      (account.Configures "allowedServiceNamespaces" → actor.KeptFromNamespace) ∧
        (account.Configures "allowedTenantIds" → actor.KeptFromTenant)

section Authorization

variable {rt : Runtime} {accounts : List Json} {normalized : List NormalizedStaticServiceAccount}
  {authorization : Option String}

/-- There is an id that a list without the empty text does not admit. -/
theorem exists_not_admits {allowed : List String} (hne : allowed ≠ []) :
    ∃ id, ¬ admits allowed (some id) := by
  have : Infinite String := Infinite.of_injective String.ofList fun _ _ => String.ofList_inj.mp
  obtain ⟨id, hid⟩ := Infinite.exists_notMem_finset ("" :: allowed).toFinset
  rw [List.mem_toFinset, List.mem_cons, not_or] at hid
  refine ⟨id, fun h => ?_⟩
  rcases h id (present_eq_some_iff.mpr ⟨rfl, hid.1⟩) with hempty | hmem
  · exact hne hempty
  · exact hid.2 hmem

/-- **An actor is kept from a namespace** exactly when its list is not empty. -/
theorem keptFromNamespace_iff {actor : AuthenticatedActor} :
    actor.KeptFromNamespace ↔ actor.allowedServiceNamespaces ≠ [] := by
  constructor
  · rintro ⟨serviceNamespaceId, h⟩ hempty
    refine h none (assertAuthorizedScope_eq_ok_iff.mpr ⟨actor, rfl, ?_, ?_⟩)
    · exact fun _ _ => Or.inl hempty
    · exact fun _ hid => by cases hid
  · intro hne
    obtain ⟨id, hid⟩ := exists_not_admits hne
    refine ⟨id, fun tenantId h => ?_⟩
    obtain ⟨a, ha, hadmits, -⟩ := assertAuthorizedScope_eq_ok_iff.mp h
    obtain rfl := Option.some.inj ha
    exact hid hadmits

/-- **An actor is kept from a tenant** exactly when its list is not empty. -/
theorem keptFromTenant_iff {actor : AuthenticatedActor} :
    actor.KeptFromTenant ↔ actor.allowedTenantIds ≠ [] := by
  constructor
  · rintro ⟨tenantId, h⟩ hempty
    refine h none (assertAuthorizedScope_eq_ok_iff.mpr ⟨actor, rfl, ?_, ?_⟩)
    · exact fun _ hid => by cases hid
    · exact fun _ _ => Or.inl hempty
  · intro hne
    obtain ⟨id, hid⟩ := exists_not_admits hne
    refine ⟨id, fun serviceNamespaceId h => ?_⟩
    obtain ⟨a, ha, -, hadmits⟩ := assertAuthorizedScope_eq_ok_iff.mp h
    obtain rfl := Option.some.inj ha
    exact hid hadmits

/-- A configured list is normalized to nothing exactly when it has blank texts only. -/
theorem normalize_configured {account : Json} {key : String} {allowed : List String}
    (h : normalizeStringArray (account.property? key) = .ok allowed)
    (hconfigured : account.Configures key) : allowed = [] ↔ account.OnlyBlank key := by
  obtain ⟨value, hvalue, hnull, harray, -⟩ := hconfigured
  rw [hvalue] at h
  obtain ⟨-, ⟨hnothing | hnothing, -⟩ | ⟨values, hvalues, rfl⟩⟩ := normalizeStringArray_eq_ok h
  · cases hnothing
  · exact absurd (Option.some.inj hnothing) hnull
  · obtain rfl := Option.some.inj hvalues
    have hne : values ≠ [] := by
      rintro rfl
      exact harray rfl
    rw [nonEmptyOnce_eq_nil_iff, List.forall_mem_map]
    constructor
    · exact fun hblank => ⟨values, hvalue, hne, hblank⟩
    · rintro ⟨values', hvalue', -, hblank⟩
      have hsame : Json.strings values = Json.strings values' :=
        Option.some.inj (hvalue.symm.trans hvalue')
      have hmap : values.map Json.string = values'.map Json.string := by
        simpa [Json.strings] using hsame
      obtain rfl := List.map_injective_iff.mpr (fun _ _ h => Json.string.inj h) hmap
      exact hblank

/-- A list of blank texts is configured. -/
theorem Json.OnlyBlank.configures {account : Json} {key : String} (h : account.OnlyBlank key) :
    account.Configures key := by
  obtain ⟨values, hvalue, hne, -⟩ := h
  refine ⟨_, hvalue, ?_, ?_, ?_⟩
  · simp [Json.strings]
  · simp [Json.strings, hne]
  · simp [Json.strings]

/-- The accounts of an authenticator have digests that compare like their texts. -/
theorem withDigests_of_normalizes (h : List.Forall₂ Json.NormalizesTo accounts normalized) :
    WithDigests normalized := by
  induction h with
  | nil => exact fun account haccount => by cases haccount
  | cons haccount _ ih =>
      exact List.forall_mem_cons.mpr ⟨⟨haccount.isHex, haccount.tokenDigest⟩, ih⟩

/-- Every registration has its normalized account. -/
theorem exists_normalized (h : List.Forall₂ Json.NormalizesTo accounts normalized) {account : Json}
    (haccount : account ∈ accounts) : ∃ result ∈ normalized, account.NormalizesTo result := by
  induction h with
  | nil => cases haccount
  | cons hnormal _ ih =>
      rcases List.mem_cons.mp haccount with rfl | hrest
      · exact ⟨_, List.mem_cons_self, hnormal⟩
      · obtain ⟨result, hresult, hnormal⟩ := ih hrest
        exact ⟨result, List.mem_cons_of_mem _ hresult, hnormal⟩

/-- Every normalized account has its registration. -/
theorem exists_registration (h : List.Forall₂ Json.NormalizesTo accounts normalized)
    {result : NormalizedStaticServiceAccount} (hresult : result ∈ normalized) :
    ∃ account ∈ accounts, account.NormalizesTo result := by
  induction h with
  | nil => cases hresult
  | cons hnormal _ ih =>
      rcases List.mem_cons.mp hresult with rfl | hrest
      · exact ⟨_, List.mem_cons_self, hnormal⟩
      · obtain ⟨account, haccount, hnormal⟩ := ih hrest
        exact ⟨account, List.mem_cons_of_mem _ haccount, hnormal⟩

/-- A registration holds a token exactly when it is normalized to the digest of the token. -/
theorem Json.NormalizesTo.holdsToken_iff {account : Json} {result : NormalizedStaticServiceAccount}
    (h : account.NormalizesTo result) :
    account.HoldsToken rt authorization ↔
      headerDigest rt authorization = some result.tokenSha256 := by
  obtain ⟨text, htext, hlower⟩ := h.tokenSha256
  constructor
  · rintro ⟨digest, text', hdigest, htext', rfl⟩
    obtain rfl := Option.some.inj (Except.ok.inj (htext.symm.trans htext'))
    rw [hdigest, hlower]
  · exact fun hdigest => ⟨_, text, hdigest, htext, hlower⟩

/-- **The actor of a header**: the one that a registration of its token is normalized to. -/
theorem authenticate_eq_some_iff (hrt : rt.HexDigests)
    (hcreate : createStaticServiceAccountAuthenticator accounts = .ok normalized)
    {actor : AuthenticatedActor} :
    authenticateHeaders rt normalized authorization = .ok (some actor) ↔
      ∃ account ∈ accounts, account.HoldsToken rt authorization ∧
        ∃ result, account.NormalizesTo result ∧ result.actor = actor := by
  obtain ⟨-, hnormalizes, hnodup⟩ := createAuthenticator_eq_ok_iff.mp hcreate
  rw [authenticateHeaders_eq hrt (withDigests_of_normalizes hnormalizes)]
  simp only [Except.ok.injEq, Option.bind_eq_some_iff, Option.map_eq_some_iff, find?_key_iff hnodup]
  constructor
  · rintro ⟨digest, hdigest, result, ⟨hresult, rfl⟩, rfl⟩
    obtain ⟨account, haccount, hnormal⟩ := exists_registration hnormalizes hresult
    exact ⟨account, haccount, hnormal.holdsToken_iff.mpr hdigest, result, hnormal, rfl⟩
  · rintro ⟨account, haccount, hholds, result, hnormal, rfl⟩
    obtain ⟨result', hresult', hnormal'⟩ := exists_normalized hnormalizes haccount
    obtain rfl : result = result' := List.head_eq_of_cons_eq
      (normalizesTo_unique (.cons hnormal .nil) (.cons hnormal' .nil))
    exact ⟨_, hnormal.holdsToken_iff.mp hholds, result, ⟨hresult', rfl⟩, rfl⟩

/-- **Static service accounts.** A source has an authenticator exactly when its registrations
make one, the same one; and the authenticator meets the registrations at a header exactly when
no registration of the token of the header configures an allow-list of blank texts only. -/
theorem serviceAccounts_authorized_iff (hrt : rt.HexDigests) (parse : JsonParser)
    (source : AccountSource) (authorization : Option String) :
    (∀ authenticator, source.authenticator parse = .ok authenticator ↔
      ∃ accounts, source.registrations parse = some accounts ∧
        createStaticServiceAccountAuthenticator accounts = .ok authenticator) ∧
    ∀ accounts authenticator, source.registrations parse = some accounts →
      source.authenticator parse = .ok authenticator →
      (MeetsRegistrations rt accounts authenticator authorization ↔
        ∀ account ∈ accounts, account.HoldsToken rt authorization →
          ¬ account.OnlyBlank "allowedServiceNamespaces" ∧
            ¬ account.OnlyBlank "allowedTenantIds") := by
  refine ⟨fun authenticator => ?_, fun accounts authenticator hregs hload => ?_⟩
  · cases hregs : source.registrations parse with
    | none =>
        refine iff_of_false (authenticator_ne_ok hregs) ?_
        rintro ⟨accounts, haccounts, -⟩
        cases haccounts
    | some accounts =>
        rw [load_environment_eq hregs]
        constructor
        · exact fun hcreate => ⟨accounts, rfl, hcreate⟩
        · rintro ⟨accounts', haccounts, hcreate⟩
          obtain rfl := Option.some.inj haccounts
          exact hcreate
  · have hcreate := (load_environment_eq hregs).mp hload
    have hactor := fun actor => @authenticate_eq_some_iff rt accounts authenticator authorization
      hrt hcreate actor
    obtain ⟨-, hnormalizes, -⟩ := createAuthenticator_eq_ok_iff.mp hcreate
    constructor
    · intro hmeets account haccount hholds
      obtain ⟨result, -, hnormal⟩ := exists_normalized hnormalizes haccount
      obtain ⟨hnamespace, htenant⟩ := hmeets.restricted account haccount hholds result.actor
        ((hactor _).mpr ⟨account, haccount, hholds, result, hnormal, rfl⟩)
      constructor
      · intro hblank
        exact keptFromNamespace_iff.mp (hnamespace hblank.configures)
          ((normalize_configured hnormal.namespaces hblank.configures).mpr hblank)
      · intro hblank
        exact keptFromTenant_iff.mp (htenant hblank.configures)
          ((normalize_configured hnormal.tenants hblank.configures).mpr hblank)
    · intro hlisted
      refine ⟨⟨_, authenticateHeaders_eq hrt (withDigests_of_normalizes hnormalizes) _, ?_⟩, ?_⟩
      · intro actor
        rw [← hactor, authenticateHeaders_eq hrt (withDigests_of_normalizes hnormalizes),
          Except.ok.injEq]
      · intro account haccount hholds actor hauthenticated
        obtain ⟨other, hother, hotherHolds, result, hnormal, rfl⟩ :=
          (hactor actor).mp hauthenticated
        obtain ⟨result', -, hnormal'⟩ := exists_normalized hnormalizes haccount
        have hsame : result'.actor = result.actor := Option.some.inj (Except.ok.inj
          (((hactor _).mpr ⟨account, haccount, hholds, result', hnormal', rfl⟩).symm.trans
            hauthenticated))
        rw [← hsame]
        obtain ⟨hnamespaces, htenants⟩ := hlisted account haccount hholds
        constructor
        · intro hconfigured
          exact keptFromNamespace_iff.mpr fun hempty =>
            hnamespaces ((normalize_configured hnormal'.namespaces hconfigured).mp hempty)
        · intro hconfigured
          exact keptFromTenant_iff.mpr fun hempty =>
            htenants ((normalize_configured hnormal'.tenants hconfigured).mp hempty)

end Authorization

/-! ### Samples -/

theorem sampleRuntime_hexDigests : sampleRuntime.HexDigests := by
  intro bytes
  have hdigits : ∀ n < 16, isHexDigit (Sha256.hexDigit n) = true := by decide
  have hlength : (Sha256.hex bytes).toList.length = 64 := Sha256.length_hex bytes
  simp only [isSha256Hex, sampleRuntime, hlength, decide_true, Bool.true_and, List.all_eq_true]
  intro c hc
  obtain ⟨n, hn, rfl⟩ := Sha256.mem_hex hc
  exact hdigits n hn

/-- The digest of the text `token`. -/
def sampleTokenSha256 : String := "3c469e9d6c5875d37a43f353d4f88e61fcf812c66eee3457465a40b0da4153e0"

/-- The variables of a service account with two namespaces. -/
def sampleServiceEnvironment : ProcessEnvironment
  | "CDNGINE_SERVICE_ACCOUNT_SUBJECT" => some " render-farm "
  | "CDNGINE_SERVICE_ACCOUNT_TOKEN_SHA256" => some sampleTokenSha256
  | "CDNGINE_SERVICE_ACCOUNT_ALLOWED_SERVICE_NAMESPACES" =>
      some "media-platform, |creative-services"
  | _ => none

/-- What the variables of the account load. -/
def sampleServiceAccount : NormalizedStaticServiceAccount where
  actor := ⟨"render-farm", [], ["media-platform", "creative-services"], []⟩
  tokenDigest := bufferFromHex sampleTokenSha256
  tokenSha256 := sampleTokenSha256

/-- An authenticator of the variables meets their registration at a header. -/
theorem sampleServiceEnvironment_authorized :
    (AccountSource.environment sampleServiceEnvironment).authenticator
        (fun _ => .error "Unexpected end of JSON input") = .ok [sampleServiceAccount] ∧
      MeetsRegistrations sampleRuntime [singleRegistration sampleServiceEnvironment]
        [sampleServiceAccount] (some "Bearer  token ") := by
  have hregs : (AccountSource.environment sampleServiceEnvironment).registrations
      (fun _ => .error "Unexpected end of JSON input") =
        some [singleRegistration sampleServiceEnvironment] := by
    have hjson : readOptionalRuntimeValue sampleServiceEnvironment
        "CDNGINE_SERVICE_ACCOUNT_TOKENS_JSON" = none := by decide +kernel
    have hsingle : hasSingleStaticServiceAccountEnvironment sampleServiceEnvironment = true := by
      decide +kernel
    simp only [AccountSource.registrations, hjson, hsingle]
  have hload := (load_environment_eq hregs).mpr (show createStaticServiceAccountAuthenticator
    [singleRegistration sampleServiceEnvironment] = .ok [sampleServiceAccount] by decide +kernel)
  refine ⟨hload, ((serviceAccounts_authorized_iff sampleRuntime_hexDigests _ _ _).2 _ _
    hregs hload).mpr ?_⟩
  intro account haccount _
  obtain rfl := List.mem_singleton.mp haccount
  constructor
  · intro hblank
    have hlist : normalizeStringArray ((singleRegistration sampleServiceEnvironment).property?
        "allowedServiceNamespaces") = .ok ["media-platform", "creative-services"] := by
      decide +kernel
    cases (normalize_configured hlist hblank.configures).mpr hblank
  · rintro ⟨values, hvalue, hne, -⟩
    have hlist : (singleRegistration sampleServiceEnvironment).property? "allowedTenantIds" =
        some (.strings []) := by
      simp [singleRegistration, Json.property?, registeredList, sampleServiceEnvironment, present]
    rw [hlist, Option.some.injEq, Json.strings, Json.strings, Json.array.injEq] at hvalue
    exact hne (List.map_eq_nil_iff.mp hvalue.symm)

/-- A registration whose list of namespaces has one entry, which is blank. -/
def blankRegistration : Json :=
  .object
    [("subject", .string "render-farm"), ("tokenSha256", .string sampleTokenSha256),
      ("allowedServiceNamespaces", .strings [" "])]

/-- **A blank allow-list opens every namespace.** -/
theorem blankRegistration_not_restricted :
    ∃ authenticator,
      (AccountSource.direct [blankRegistration]).authenticator
          (fun _ => .error "Unexpected end of JSON input") = .ok authenticator ∧
        ¬ MeetsRegistrations sampleRuntime [blankRegistration] authenticator
          (some "Bearer token") := by
  refine ⟨[⟨⟨"render-farm", [], [], []⟩, bufferFromHex sampleTokenSha256, sampleTokenSha256⟩],
    by decide +kernel, fun hmeets => ?_⟩
  have hholds : blankRegistration.HoldsToken sampleRuntime (some "Bearer token") :=
    ⟨sampleTokenSha256, sampleTokenSha256, by decide +kernel, by decide +kernel,
      by decide +kernel⟩
  have hconfigured : blankRegistration.Configures "allowedServiceNamespaces" :=
    ⟨.strings [" "], by simp [blankRegistration, Json.property?], by simp [Json.strings],
      by simp [Json.strings], by simp [Json.strings]⟩
  have hkept := (hmeets.restricted blankRegistration (by simp) hholds
    ⟨"render-farm", [], [], []⟩ (by decide +kernel)).1 hconfigured
  exact keptFromNamespace_iff.mp hkept rfl

end Cdngine
