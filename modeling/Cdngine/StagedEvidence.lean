import Cdngine.IssuedRows
import Cdngine.MemoryUploadStore

/-!
# Staged Evidence

What the upload-session stores compare before they canonicalize staged bytes. Three
parties speak about the bytes: the client declares their length and checksum when the
session is issued, it claims them again when it completes the session, and the staging
store observes the object (its descriptor). Both stores compare the claimed key, length
and checksum with what is declared, and the observed checksum, but neither looks at the
observed length.

## Main results

* `phaseOne_evidenceChecked_iff`, `beginCompletion_evidenceChecked_iff`: when a
  completion respects the observed evidence, on either store.
* `staged_evidence_checked_iff`: the same for the sessions of every run.
* `unobserved_length_canonicalized`: a staged object of another length that both stores
  accept.
-/

open Relational Runs

namespace Cdngine

/-! ### The evidence -/

/-- A staged object was **observed** as it was declared. -/
def RegistryVerifiedUploadStagedObject.ObservedAs (staged : RegistryVerifiedUploadStagedObject)
    (declared : SourceDeclaration) : Prop :=
  staged.descriptor.byteLength = declared.byteLength ∧
    staged.descriptor.checksum = some declared.checksum

/-- A staged object was **claimed** under the expected key and as it was declared, and its
checksum was observed so. -/
def RegistryVerifiedUploadStagedObject.ClaimedAs (staged : RegistryVerifiedUploadStagedObject)
    (expectedKey : Option String) (declared : SourceDeclaration) : Prop :=
  some staged.objectKey = expectedKey ∧ staged.byteLength = declared.byteLength ∧
    staged.checksum = declared.checksum ∧ staged.descriptor.checksum = some declared.checksum

/-- Three checks in a row find no problem when none of them does. -/
theorem firstProblem_eq_none_iff {α : Type} {a b c : Prop} [Decidable a] [Decidable b] [Decidable c]
    {x y z : α} :
    (if a then some x else if b then some y else if c then some z else none) = none ↔
      ¬ a ∧ ¬ b ∧ ¬ c := by
  by_cases ha : a
  · rw [if_pos ha]
    simp [ha]
  by_cases hb : b
  · rw [if_neg ha, if_pos hb]
    simp [hb]
  by_cases hc : c
  · rw [if_neg ha, if_neg hb, if_pos hc]
    simp [hc]
  · rw [if_neg ha, if_neg hb, if_neg hc]
    simp [ha, hb, hc]

/-- The claims, as the negations of the three checks. -/
theorem claimedAs_iff {staged : RegistryVerifiedUploadStagedObject} {expectedKey : Option String}
    {declared : SourceDeclaration} :
    staged.ClaimedAs expectedKey declared ↔
      ¬ some staged.objectKey ≠ expectedKey ∧ ¬ staged.byteLength ≠ declared.byteLength ∧
      ¬ (staged.checksum ≠ declared.checksum ∨
        staged.descriptor.checksum ≠ some declared.checksum) := by
  simp only [RegistryVerifiedUploadStagedObject.ClaimedAs, not_or, not_not]

/-- The key under which a session expects its staged object. -/
def CompletionReplayRow.expectedKey (row : CompletionReplayRow) : Option String :=
  row.uploadSession.stagedObjectKey <|> row.version.ingestObjectKey

theorem stagedEvidenceProblem_eq_none_iff {input : RegistryCompleteUploadSessionInput}
    {row : CompletionReplayRow} :
    stagedEvidenceProblem input row = none ↔
      input.stagedObject.ClaimedAs row.expectedKey row.version.declaration := by
  simp only [stagedEvidenceProblem, firstProblem_eq_none_iff]
  exact (@claimedAs_iff input.stagedObject row.expectedKey row.version.declaration).symm

/-! ### The Prisma store -/

/-- A session whose staged evidence a completion examines: it is unexpired, not completed
before, open, and its version is at an accepting state. -/
def CompletionReplayRow.Examined (row : CompletionReplayRow) (now : Instant) : Prop :=
  ¬ now > row.uploadSession.expiresAt ∧ tryBuildCompletionReplay row = none ∧
    row.uploadSession.isOpen ∧ acceptsCompletion row.version.lifecycleState = true

/-- **A completion respects the observed evidence**: what it hands to `canonicalize` was
observed as declared; and an object of another length than the declared one is never
canonicalized, and where its evidence is examined ends the session and its version in
`failed_validation`. -/
structure EvidenceChecked (db : Db) (input : RegistryCompleteUploadSessionInput) (now : Instant)
    (declared : SourceDeclaration) : Prop where
  accepted : ∀ request db', phaseOne input now db = .ok (.request request, db') →
    input.stagedObject.ObservedAs declared
  neverCanonicalized : input.stagedObject.descriptor.byteLength ≠ declared.byteLength →
    ∀ request db', phaseOne input now db ≠ .ok (.request request, db')
  failed : input.stagedObject.descriptor.byteLength ≠ declared.byteLength →
    ∀ row, db.findUploadSession input.uploadSessionId = some row → row.Examined now →
    ∃ e db', phaseOne input now db = .ok (.validationFailure e, db') ∧
      db'.lifecycle? row.version.id = some .failedValidation ∧
      (db'.uploadSession? input.uploadSessionId).map (·.state) = some .failedValidation

/-- Where the claims match what is declared, the observed length does. -/
def ObservedLengthAgrees (db : Db) (input : RegistryCompleteUploadSessionInput) (now : Instant)
    (declared : SourceDeclaration) : Prop :=
  ∀ row, db.findUploadSession input.uploadSessionId = some row → row.Examined now →
    input.stagedObject.ClaimedAs row.expectedKey declared →
    input.stagedObject.descriptor.byteLength = declared.byteLength

section Prisma

variable {input : RegistryCompleteUploadSessionInput} {now : Instant} {db : Db}
  {row : CompletionReplayRow}

theorem Db.createValidationResult_ok (db : Db) (result : ValidationResult) :
    ∃ db', db.createValidationResult result = .ok db' := by
  obtain ⟨t, ht⟩ := Table.exists_insert_iff (t := db.validationResults) (r := result) |>.mpr
    fun _ _ => rfl
  exact ⟨_, write_eq_ok.mpr ⟨t, ht, rfl⟩⟩

/-- Phase one throws on an expired session; what it wrote is rolled back. -/
theorem phaseOne_eq_expired (hrow : db.findUploadSession input.uploadSessionId = some row)
    (hexpiry : now > row.uploadSession.expiresAt) :
    phaseOne input now db = .error (.uploadSessionExpired input.uploadSessionId) := by
  obtain ⟨hs, -⟩ := Db.findUploadSession_eq_some.mp hrow
  have hsid := Db.findUploadSession_id hrow
  obtain ⟨db₁, h₁⟩ := Db.updateUploadSession_ok (hsid ▸ hs) (f := fun r => r.expire)
    fun _ _ => rfl
  have hexec : executeAll [.expireUploadSession row.uploadSession.id] db = .ok db₁ :=
    executeAll_cons.mpr ⟨db₁, h₁, rfl⟩
  simp only [phaseOne, hrow, phaseOneScript_expired hexpiry, CompletionScript.run, hexec]
  rfl

/-- **Phase one rejects** examined evidence that has a problem. -/
theorem phaseOne_fails (hrow : db.findUploadSession input.uploadSessionId = some row)
    (hexamined : row.Examined now) {problemType detail : String}
    (hproblem : stagedEvidenceProblem input row = some (problemType, detail)) :
    ∃ db', phaseOne input now db =
        .ok (.validationFailure
          (.uploadSessionValidationFailed row.uploadSession.id problemType detail), db') ∧
      executeAll (recordValidationFailure row.uploadSession.id row.version.id problemType
        detail).statements db = .ok db' := by
  obtain ⟨hexpiry, hreplay, hopen, haccepts⟩ := hexamined
  obtain ⟨hs, -⟩ := Db.findUploadSession_eq_some.mp hrow
  have hsid := Db.findUploadSession_id hrow
  obtain ⟨db₁, h₁⟩ := Db.updateUploadSession_ok (hsid ▸ hs)
    (f := fun r => r.failValidation problemType) fun _ _ => rfl
  have hv : db₁.version? row.version.id = some row.version := by
    have hv₀ := Db.findUploadSession_version? hrow
    obtain ⟨t, -, rfl⟩ := write_eq_ok.mp h₁
    exact hv₀
  obtain ⟨db₂, h₂⟩ := Db.updateAssetVersion_ok hv (f := fun r => r.failValidation) fun _ _ => rfl
  obtain ⟨db', h₃⟩ := Db.createValidationResult_ok db₂
    { assetVersionId := row.version.id
      validationState := .failed
      problemType := some problemType
      diagnosticsDetail := detail }
  have hexec : executeAll (recordValidationFailure row.uploadSession.id row.version.id problemType
      detail).statements db = .ok db' :=
    executeAll_cons.mpr ⟨db₁, h₁, executeAll_cons.mpr ⟨db₂, h₂, executeAll_cons.mpr ⟨db', h₃, rfl⟩⟩⟩
  refine ⟨db', ?_, hexec⟩
  simp only [phaseOne, hrow, phaseOneScript_open hexpiry hreplay hopen haccepts, hproblem]
  exact CompletionScript.run_eq_ok.mpr ⟨hexec, rfl⟩

/-- What phase one records when it rejects. -/
theorem phaseOne_rejects (hrow : db.findUploadSession input.uploadSessionId = some row)
    (hexamined : row.Examined now) {problemType detail : String}
    (hproblem : stagedEvidenceProblem input row = some (problemType, detail)) :
    ∃ e db', phaseOne input now db = .ok (.validationFailure e, db') ∧
      db'.lifecycle? row.version.id = some .failedValidation ∧
      (db'.uploadSession? input.uploadSessionId).map (·.state) = some .failedValidation := by
  obtain ⟨hs, -⟩ := Db.findUploadSession_eq_some.mp hrow
  have hsid := Db.findUploadSession_id hrow
  obtain ⟨db', hone, hexec⟩ := phaseOne_fails hrow hexamined hproblem
  refine ⟨_, db', hone, ?_, ?_⟩
  · rw [Db.lifecycle?, executeAll_version? hexec, Db.findUploadSession_version? hrow]
    simp [recordValidationFailure, CompletionStatement.onVersion]
  · rw [executeAll_uploadSession? hexec, hs]
    simp [recordValidationFailure, CompletionStatement.onSession, hsid,
      UploadSession.failValidation]

/-- **A completion on the Prisma store respects the observed evidence** exactly when the
observed length agrees wherever the claims do. -/
theorem phaseOne_evidenceChecked_iff {declared : SourceDeclaration}
    (hdeclared : ∀ row, db.findUploadSession input.uploadSessionId = some row →
      row.version.declaration = declared) :
    EvidenceChecked db input now declared ↔ ObservedLengthAgrees db input now declared := by
  constructor
  · intro hchecked row hrow hexamined hclaimed
    obtain ⟨hexpiry, hreplay, hopen, haccepts⟩ := hexamined
    have hproblem := stagedEvidenceProblem_eq_none_iff.mpr (hdeclared row hrow ▸ hclaimed)
    obtain ⟨db', hone, -⟩ := phaseOne_accepts hrow hexpiry hreplay hopen haccepts hproblem
    exact (hchecked.accepted _ _ hone).1
  · intro hagrees
    have hobserved : ∀ request db', phaseOne input now db = .ok (.request request, db') →
        input.stagedObject.ObservedAs declared := by
      intro request db' hone
      cases phaseOne_cases hone with
      | request hrow hexpiry hreplay hopen haccepts hproblem _ =>
          have hclaimed := stagedEvidenceProblem_eq_none_iff.mp hproblem
          rw [hdeclared _ hrow] at hclaimed
          exact ⟨hagrees _ hrow ⟨hexpiry, hreplay, hopen, haccepts⟩ hclaimed, hclaimed.2.2.2⟩
    refine ⟨hobserved, fun hlength request db' hone => hlength (hobserved request db' hone).1,
      fun hlength row hrow hexamined => ?_⟩
    cases hproblem : stagedEvidenceProblem input row with
    | some problem => exact phaseOne_rejects hrow hexamined hproblem
    | none =>
        have hclaimed := stagedEvidenceProblem_eq_none_iff.mp hproblem
        rw [hdeclared row hrow] at hclaimed
        exact absurd (hagrees row hrow hexamined hclaimed) hlength

/-- The session of an issuance keeps its declaration in every run. -/
theorem issued_declaration {rt : Runtime} {issue : RegistryIssueUploadSessionInput} {ids : IssueIds}
    {issuedAt : Instant} {db₀ db₁ : Db} {issued : RegistryIssuedUploadSession}
    (hissue : issueTransaction issue ids issuedAt db₀ = .ok (issued, db₁))
    {completions : List PendingCompletion} {tr : List (Transition RegistrySystem RegistryAction)}
    {sys : RegistrySystem} (hrun : Run (RegistryStep rt) ⟨db₁, completions⟩ tr sys)
    {row : CompletionReplayRow} (hrow : sys.db.findUploadSession ids.uploadSessionId = some row) :
    row.version.declaration = issue.declaration := by
  obtain ⟨assetId, number, db₂, db₃, db₄, h₂, h₃, h₄, h₅⟩ := issueTransaction_cases hissue
  have hsession : db₁.uploadSession? ids.uploadSessionId =
    some (issuedSession issue ids issuedAt) := by
    obtain ⟨t₅, -, rfl⟩ := write_eq_ok.mp h₅
    obtain ⟨t₄, ht₄, rfl⟩ := write_eq_ok.mp h₄
    exact Db.uploadSession?_eq_some_iff.mpr ⟨(Table.mem_rows_insert ht₄ _).mpr (Or.inr rfl), rfl⟩
  have hversion : db₁.version? ids.versionId = some (issuedVersion issue ids assetId number) := by
    obtain ⟨t₅, -, rfl⟩ := write_eq_ok.mp h₅
    obtain ⟨t₄, -, rfl⟩ := write_eq_ok.mp h₄
    obtain ⟨t₃, ht₃, rfl⟩ := write_eq_ok.mp h₃
    exact Db.version?_eq_some_iff.mpr ⟨(Table.mem_rows_insert ht₃ _).mpr (Or.inr rfl), rfl⟩
  have hkeeps : db₁.KeepsIssued sys.db := Run.keepsIssued hrun
  obtain ⟨s, hs, hsv, -⟩ := hkeeps.uploadSession? hsession
  obtain ⟨v, hv, -, hvd⟩ := hkeeps.version? hversion
  obtain ⟨hs', hv', -⟩ := Db.findUploadSession_eq_some.mp hrow
  obtain rfl := Option.some.inj (hs.symm.trans hs')
  rw [hsv] at hv'
  obtain rfl := Option.some.inj (hv.symm.trans hv')
  exact hvd

end Prisma

/-! ### The in-memory store -/

/-- The declaration that a version record stores. -/
def VersionRecord.declaration (v : VersionRecord) : SourceDeclaration where
  byteLength := v.byteLength
  checksum := v.checksum

namespace InMemoryUploadSessionIssuanceStore

/-- **A completion respects the observed evidence**, on the in-memory store. -/
structure EvidenceChecked (store : InMemoryUploadSessionIssuanceStore)
    (input : RegistryCompleteUploadSessionInput) (now : Instant) (declared : SourceDeclaration) :
    Prop where
  accepted : ∀ request store', store.beginCompletion input now = (.awaiting request, store') →
    input.stagedObject.ObservedAs declared
  neverCanonicalized : input.stagedObject.descriptor.byteLength ≠ declared.byteLength →
    ∀ request store', store.beginCompletion input now ≠ (.awaiting request, store')
  failed : input.stagedObject.descriptor.byteLength ≠ declared.byteLength →
    ∀ session version, store.Examined input now session version →
    ∃ problemType detail store', store.beginCompletion input now =
        (.done (.error (.validationFailed input.uploadSessionId problemType detail)), store') ∧
      (store'.versionsById session.versionId).map (·.lifecycleState) = some .failedValidation ∧
      (store'.uploadSessions input.uploadSessionId).map (·.uploadSessionState) =
        some .failedValidation

/-- Where the claims match what is declared, the observed length does. -/
def ObservedLengthAgrees (store : InMemoryUploadSessionIssuanceStore)
    (input : RegistryCompleteUploadSessionInput) (now : Instant) (declared : SourceDeclaration) :
    Prop :=
  ∀ session version, store.Examined input now session version →
    input.stagedObject.ClaimedAs (some session.objectKey) declared →
    input.stagedObject.descriptor.byteLength = declared.byteLength

variable {store : InMemoryUploadSessionIssuanceStore} {input : RegistryCompleteUploadSessionInput}
  {now : Instant} {session : UploadSessionRecord} {version : VersionRecord}

theorem stagedEvidenceProblem_eq_none_iff :
    stagedEvidenceProblem input session version = none ↔
      input.stagedObject.ClaimedAs (some session.objectKey) version.declaration := by
  simp only [stagedEvidenceProblem, firstProblem_eq_none_iff]
  rw [@claimedAs_iff input.stagedObject (some session.objectKey) version.declaration,
    (Option.some_injective _).ne_iff]
  exact Iff.rfl

/-- Examined evidence is validated. -/
theorem Examined.begin (h : store.Examined input now session version) :
    store.beginCompletion input now = store.validateStaged input session version := by
  simp only [beginCompletion, h.storedSession, h.storedVersion, h.unrecorded, completeSession,
    h.unfinished]
  rw [if_neg h.unexpired, if_neg h.isOpen]
  exact if_neg h.accepts

/-- Examined evidence that has a problem is rejected, and the session and its version fail
their validation. -/
theorem Examined.rejects (hinv : store.Inv) (h : store.Examined input now session version)
    {problemType detail : String}
    (hproblem : stagedEvidenceProblem input session version = some (problemType, detail)) :
    ∃ store', store.beginCompletion input now =
        (.done (.error (.validationFailed input.uploadSessionId problemType detail)), store') ∧
      (store'.versionsById session.versionId).map (·.lifecycleState) = some .failedValidation ∧
      (store'.uploadSessions input.uploadSessionId).map (·.uploadSessionState) =
        some .failedValidation := by
  have hbegin := h.begin
  rw [validateStaged, hproblem] at hbegin
  refine ⟨_, hbegin, ?_, ?_⟩
  · rw [← hinv.versionKey h.storedVersion]
    exact congrArg _ (JsMap.set_self _ _ _)
  · rw [← hinv.sessionKey h.storedSession]
    exact congrArg _ (JsMap.set_self _ _ _)

/-- Examined evidence without a problem is not rejected. -/
theorem Examined.not_rejected (h : store.Examined input now session version)
    (hproblem : stagedEvidenceProblem input session version = none) {e : UploadSessionError}
    {store' : InMemoryUploadSessionIssuanceStore} :
    store.beginCompletion input now ≠ (.done (.error e), store') := by
  intro hbegin
  rw [h.begin] at hbegin
  simp only [validateStaged, hproblem] at hbegin
  cases hreplay : persistedCompletion input.uploadSessionId version with
  | some replay =>
      rw [hreplay] at hbegin
      cases (Prod.mk.inj hbegin).1
  | none =>
      rw [hreplay] at hbegin
      cases (Prod.mk.inj hbegin).1

/-- **A completion on the in-memory store respects the observed evidence** exactly when the
observed length agrees wherever the claims do. -/
theorem beginCompletion_evidenceChecked_iff (hinv : store.Inv) {declared : SourceDeclaration}
    (hdeclared : ∀ session version, store.Examined input now session version →
      version.declaration = declared) :
    store.EvidenceChecked input now declared ↔ store.ObservedLengthAgrees input now declared := by
  constructor
  · intro hchecked session version hexamined hclaimed
    rw [← hdeclared _ _ hexamined] at hclaimed
    have hproblem := stagedEvidenceProblem_eq_none_iff.mpr hclaimed
    by_contra hlength
    obtain ⟨_, _, _, hbegin, -, -⟩ := hchecked.failed hlength _ _ hexamined
    exact hexamined.not_rejected hproblem hbegin
  · intro hagrees
    have hobserved : ∀ request store', store.beginCompletion input now =
        (.awaiting request, store') → input.stagedObject.ObservedAs declared := by
      intro request store' hbegin
      cases beginCompletion_cases hbegin with
      | awaiting hexamined hproblem =>
          have hclaimed := stagedEvidenceProblem_eq_none_iff.mp hproblem
          rw [hdeclared _ _ hexamined] at hclaimed
          exact ⟨hagrees _ _ hexamined hclaimed, hclaimed.2.2.2⟩
    refine ⟨hobserved, fun hlength request store' hbegin => hlength (hobserved _ _ hbegin).1,
      fun hlength session version hexamined => ?_⟩
    cases hproblem : stagedEvidenceProblem input session version with
    | some problem => exact ⟨problem.1, problem.2, hexamined.rejects hinv hproblem⟩
    | none =>
        have hclaimed := stagedEvidenceProblem_eq_none_iff.mp hproblem
        rw [hdeclared _ _ hexamined] at hclaimed
        exact absurd (hagrees _ _ hexamined hclaimed) hlength

/-- A call that is no duplicate stores the records of its issuance. -/
theorem issueUploadSession_stored {issue : RegistryIssueUploadSessionInput} {ids : MemoryIssueIds}
    {issued : RegistryIssuedUploadSession} {store' : InMemoryUploadSessionIssuanceStore}
    (hissue : store.issueUploadSession issue ids = (.ok (.issued issued), store'))
    (hnew : issued.isDuplicate = false) :
    ∃ asset number,
      store'.uploadSessions ids.uploadSessionId = some (issuedSessionRecord issue ids asset) ∧
      store'.versionsById ids.versionId = some (issuedVersionRecord issue ids asset number) := by
  have hcases := store.issueUploadSession_cases issue ids
  rw [hissue] at hcases
  generalize hresult : Except.ok (StoredResult.issued issued) = result at hcases
  cases hcases with
  | conflict => cases hresult
  | recorded =>
      rename_i record _ _
      have hduplicate := Except.ok.inj hresult
      cases hstored : record.result with
      | completed => rw [hstored] at hduplicate; cases hduplicate
      | issued =>
          rw [hstored] at hduplicate
          rw [StoredResult.issued.inj hduplicate] at hnew
          cases hnew
  | notFound => cases hresult
  | issued => exact ⟨_, _, JsMap.set_self _ _ _, JsMap.set_self _ _ _⟩

/-- The session of an issuance keeps its declaration in every run. -/
theorem issued_declaration {issue : RegistryIssueUploadSessionInput} {ids : MemoryIssueIds}
    {issued : RegistryIssuedUploadSession} {sys sys' : MemorySystem}
    {store₁ : InMemoryUploadSessionIssuanceStore} (hinv : sys.Inv)
    (hfresh : sys.store.isFresh ids = true)
    (hissue : sys.store.issueUploadSession issue ids = (.ok (.issued issued), store₁))
    (hnew : issued.isDuplicate = false) {tr : List (Transition MemorySystem MemoryAction)}
    (hrun : Run MemoryStep { sys with store := store₁ } tr sys')
    (hid : input.uploadSessionId = ids.uploadSessionId)
    (hexamined : sys'.store.Examined input now session version) :
    sys'.Inv ∧ version.declaration = issue.declaration := by
  have hstep : MemoryStep sys (.issue issue ids) { sys with store := store₁ } := by
    simp only [MemoryStep, MemorySystem.next, hfresh, if_true, hissue]
  have hinv₁ := hstep.inv hinv
  obtain ⟨asset, number, hs₁, hv₁⟩ := issueUploadSession_stored hissue hnew
  have hkeeps := MemorySystem.keeps_of_run hrun hinv₁
  obtain ⟨s, hs, hskeeps⟩ := hkeeps.session hs₁
  obtain ⟨v, hv, hvkeeps⟩ := hkeeps.version hv₁
  have hsession := hexamined.storedSession
  rw [hid] at hsession
  obtain rfl := Option.some.inj (hs.symm.trans hsession)
  have hversion := hexamined.storedVersion
  rw [hskeeps.versionId] at hversion
  obtain rfl := Option.some.inj (hv.symm.trans hversion)
  refine ⟨hrun.invariant (fun hinv hstep => hstep.inv hinv) hinv₁, ?_⟩
  simp only [VersionRecord.declaration, hvkeeps.byteLength, hvkeeps.checksum]
  rfl

end InMemoryUploadSessionIssuanceStore

/-! ### Every run -/

/-- **On either store, in every run after the issuance of a session, a completion of the
session respects the observed evidence exactly when the observed length agrees wherever
the claims do.** -/
theorem staged_evidence_checked_iff (rt : Runtime) :
    (∀ {issue : RegistryIssueUploadSessionInput} {ids : IssueIds} {issuedAt : Instant}
      {db₀ db₁ : Db} {issued : RegistryIssuedUploadSession},
      issueTransaction issue ids issuedAt db₀ = .ok (issued, db₁) →
      ∀ completions tr sys, Run (RegistryStep rt) ⟨db₁, completions⟩ tr sys →
      ∀ (input : RegistryCompleteUploadSessionInput) (now : Instant),
        input.uploadSessionId = ids.uploadSessionId →
        (EvidenceChecked sys.db input now issue.declaration ↔
          ObservedLengthAgrees sys.db input now issue.declaration)) ∧
    (∀ {issue : RegistryIssueUploadSessionInput} {ids : MemoryIssueIds}
      {issued : RegistryIssuedUploadSession} {store₁ : InMemoryUploadSessionIssuanceStore}
      {tr₀ : List (Transition MemorySystem MemoryAction)} {sys₀ : MemorySystem},
      Run MemoryStep {} tr₀ sys₀ → sys₀.store.isFresh ids = true →
      sys₀.store.issueUploadSession issue ids = (.ok (.issued issued), store₁) →
      issued.isDuplicate = false →
      ∀ tr sys, Run MemoryStep { sys₀ with store := store₁ } tr sys →
      ∀ (input : RegistryCompleteUploadSessionInput) (now : Instant),
        input.uploadSessionId = ids.uploadSessionId →
        (sys.store.EvidenceChecked input now issue.declaration ↔
          sys.store.ObservedLengthAgrees input now issue.declaration)) := by
  constructor
  · intro issue ids issuedAt db₀ db₁ issued hissue completions tr sys hrun input now hid
    refine phaseOne_evidenceChecked_iff fun row hrow => ?_
    rw [hid] at hrow
    exact issued_declaration hissue hrun hrow
  · intro issue ids issued store₁ tr₀ sys₀ hrun₀ hfresh hissue hnew tr sys hrun input now hid
    have hinv₀ := MemorySystem.Inv.of_run hrun₀
    have hstep : MemoryStep sys₀ (.issue issue ids) { sys₀ with store := store₁ } := by
      simp only [MemoryStep, MemorySystem.next, hfresh, if_true, hissue]
    have hinv : sys.Inv := hrun.invariant (fun hinv hstep => hstep.inv hinv) (hstep.inv hinv₀)
    exact InMemoryUploadSessionIssuanceStore.beginCompletion_evidenceChecked_iff hinv.store
      fun session version hexamined =>
        (InMemoryUploadSessionIssuanceStore.issued_declaration hinv₀ hfresh hissue hnew hrun hid
          hexamined).2

/-- The matching completion of the sample session, on either store, respects the observed
evidence. -/
theorem matching_completion_checked :
    EvidenceChecked (sampleRegistry.issueSample "a") (sampleCompletion "a" "key-1") 20
        (sampleIssue "a").declaration ∧
      InMemoryUploadSessionIssuanceStore.EvidenceChecked
        (InMemoryUploadSessionIssuanceStore.issueSample {} "a") (sampleCompletion "a" "key-1") 20
        (sampleIssue "a").declaration := by
  refine ⟨?_, ?_⟩
  · have hissue : issueTransaction (sampleIssue "a") (sampleIds "a") 10 sampleRegistry =
        .ok (_, sampleRegistry.issueSample "a") := rfl
    exact ((staged_evidence_checked_iff sampleRuntime).1 hissue [] [] _ (.nil _)
      (sampleCompletion "a" "key-1") 20 rfl).mpr fun _ _ _ _ => rfl
  · have hrun : Run MemoryStep {} [] {} := .nil _
    have hfresh : (MemorySystem.store {}).isFresh (sampleMemoryIds "a") = true := rfl
    have hissue : (MemorySystem.store {}).issueUploadSession (sampleIssue "a")
        (sampleMemoryIds "a") =
        (.ok (.issued (InMemoryUploadSessionIssuanceStore.issuedResult (sampleIssue "a")
          (sampleMemoryIds "a") sampleMemoryAsset 1)),
          InMemoryUploadSessionIssuanceStore.issueSample {} "a") := rfl
    exact ((staged_evidence_checked_iff sampleRuntime).2 hrun hfresh hissue rfl [] _ (.nil _)
      (sampleCompletion "a" "key-1") 20 rfl).mpr fun _ _ _ _ => rfl

/-! ### A staged object of another length -/

/-- A completion whose claims match the declaration of five bytes, of a staged object that
is observed with seven. -/
def longerCompletion (key idempotencyKey : String) : RegistryCompleteUploadSessionInput :=
  let completion := sampleCompletion key idempotencyKey
  { completion with
    stagedObject :=
      { completion.stagedObject with
        descriptor := { completion.stagedObject.descriptor with byteLength := 7 } } }

/-- **A staged object of an undeclared length.** Five bytes were declared and seven are
observed; both stores hand the object to `canonicalize`. -/
theorem unobserved_length_canonicalized :
    (sampleIssue "a").byteLength = 5 ∧
      (∃ request db', phaseOne (longerCompletion "a" "key-1") 20 (sampleRegistry.issueSample "a") =
          .ok (.request request, db') ∧ request.stagedObject.descriptor.byteLength = 7 ∧
        db'.lifecycle? "version-a" = some .canonicalizing) ∧
      (∃ request store', (InMemoryUploadSessionIssuanceStore.issueSample {} "a").beginCompletion
          (longerCompletion "a" "key-1") 20 = (.awaiting request, store') ∧
        request.stagedObject.descriptor.byteLength = 7 ∧
        (store'.versionsById "version-a").map (·.lifecycleState) = some .canonicalizing) :=
  ⟨rfl, ⟨_, _, rfl, rfl, rfl⟩, ⟨_, _, rfl, rfl, rfl⟩⟩

end Cdngine
