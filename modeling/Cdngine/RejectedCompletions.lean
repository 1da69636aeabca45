import Cdngine.UploadOutcomes
import Cdngine.RegistryRuns

/-!
# What a rejected completion commits

A completion that the registry rejects leaves a trace that `docs/state-machines.md` describes
for each kind of rejection: a session past its window becomes `expired`, staged evidence that
fails its validation makes session and version `failed_validation` with a validation result
beside them, a failed canonicalization makes the version `failed_retryable`, and every other
rejection leaves the registry as it was.

`documentedRejection` states these changes row by row, as the whole difference between the
committed states before and after the call. Phase one of `completeUploadSession` runs inside
one transaction, and there the two kinds of rejection part: a failed validation is returned
and thrown outside, so that its rows are committed, while an expired session is updated and
then thrown inside, which undoes the update.

## Main results

* `rejection_commits_documented_iff`: a rejected completion commits exactly the documented
  change, unless it rejects an expired session that is not stored as expired already.
* `expired_session_stays_open`: the sample session, completed past its window, is rejected as
  expired and stays as it was created.
-/

namespace Cdngine

open Relational

/-! ### Changes of the registry -/

/-- Change the rows with one key. -/
def onRow {ρ κ : Type} [DecidableEq κ] (key : ρ → κ) (id : κ) (change : ρ → ρ) (row : ρ) : ρ :=
  if key row = id then change row else row

/-- The **whole difference** between two states of the registry, as far as rejections reach:
changed sessions, changed versions and new validation results. -/
structure Db.DiffersBy (db db' : Db) (session : UploadSession → UploadSession)
    (version : AssetVersion → AssetVersion) (results : List ValidationResult) : Prop where
  sessions : db'.uploadSessions.rows = db.uploadSessions.rows.map session
  versions : db'.assetVersions.rows = db.assetVersions.rows.map version
  results : db'.validationResults.rows = db.validationResults.rows ++ results
  others : db' =
    { db with
      uploadSessions := db'.uploadSessions
      assetVersions := db'.assetVersions
      validationResults := db'.validationResults }

section Differences

variable {db db₁ db' : Db}

/-- Two changes, one after the other. -/
theorem Db.DiffersBy.trans {session₁ session₂ : UploadSession → UploadSession}
    {version₁ version₂ : AssetVersion → AssetVersion} {results₁ results₂ : List ValidationResult}
    (h₁ : db.DiffersBy db₁ session₁ version₁ results₁)
    (h₂ : db₁.DiffersBy db' session₂ version₂ results₂) :
    db.DiffersBy db' (session₂ ∘ session₁) (version₂ ∘ version₁) (results₁ ++ results₂) where
  sessions := by rw [h₂.sessions, h₁.sessions, List.map_map]
  versions := by rw [h₂.versions, h₁.versions, List.map_map]
  results := by rw [h₂.results, h₁.results, List.append_assoc]
  others := by
    have hothers := h₂.others
    rw [h₁.others] at hothers
    exact hothers

/-- The rows after the update of a row by its key. -/
theorem updatedRows_eq_map_onRow {ρ κ : Type} [Constrained ρ] [DecidableEq κ] (t : Table ρ)
    (key : ρ → κ) (id : κ) (change : ρ → ρ) :
    t.updatedRows (fun r => key r == id) change = t.rows.map (onRow key id change) := by
  refine List.map_congr_left fun row _ => ?_
  simp only [onRow, beq_iff_eq]

/-- The update of a session differs by the change of its row. -/
theorem Db.DiffersBy.updateUploadSession {id : String} {change : UploadSession → UploadSession}
    (h : db.updateUploadSession id change = .ok db') :
    db.DiffersBy db' (onRow UploadSession.id id change) (fun v => v) [] := by
  obtain ⟨table, htable, rfl⟩ := write_eq_ok.mp h
  obtain ⟨-, hrows⟩ := Table.update_eq_ok_iff.mp htable
  exact ⟨hrows.trans (updatedRows_eq_map_onRow _ UploadSession.id id change),
    (List.map_id' _).symm, (List.append_nil _).symm, rfl⟩

/-- The update of a version differs by the change of its row. -/
theorem Db.DiffersBy.updateAssetVersion {id : String} {change : AssetVersion → AssetVersion}
    (h : db.updateAssetVersion id change = .ok db') :
    db.DiffersBy db' (fun s => s) (onRow AssetVersion.id id change) [] := by
  obtain ⟨table, htable, rfl⟩ := write_eq_ok.mp h
  obtain ⟨-, hrows⟩ := Table.update_eq_ok_iff.mp htable
  exact ⟨(List.map_id' _).symm,
    hrows.trans (updatedRows_eq_map_onRow _ AssetVersion.id id change),
    (List.append_nil _).symm, rfl⟩

/-- A new validation result. -/
theorem Db.DiffersBy.createValidationResult {result : ValidationResult}
    (h : db.createValidationResult result = .ok db') :
    db.DiffersBy db' (fun s => s) (fun v => v) [result] := by
  obtain ⟨table, htable, rfl⟩ := write_eq_ok.mp h
  obtain ⟨-, hrows⟩ := Table.insert_eq_ok_iff.mp htable
  exact ⟨(List.map_id' _).symm, (List.map_id' _).symm, hrows, rfl⟩

/-- Changing the rows with one key twice. -/
theorem onRow_comp {ρ κ : Type} [DecidableEq κ] {key : ρ → κ} {id : κ} {first second : ρ → ρ}
    (hkeeps : ∀ row, key (first row) = key row) :
    onRow key id second ∘ onRow key id first = onRow key id (second ∘ first) := by
  funext row
  by_cases hrow : key row = id
  · simp only [Function.comp_apply, onRow, if_pos hrow, hkeeps]
  · simp only [Function.comp_apply, onRow, if_neg hrow]

end Differences

/-! ### The documented change of a rejection -/

/-- **What a rejection commits, as documented.** The call found the session `row` and examined
it at `now`. -/
def documentedRejection (input : RegistryCompleteUploadSessionInput) (now : Instant)
    (db db' : Db) : RegistryError → Prop
  | .uploadSessionExpired _ =>
      ∃ row, db.findUploadSession input.uploadSessionId = some row ∧
        db.DiffersBy db' (onRow UploadSession.id row.uploadSession.id UploadSession.expire)
          (fun v => v) []
  | .uploadSessionValidationFailed _ problemType detail =>
      ∃ row, db.findUploadSession input.uploadSessionId = some row ∧
        db.DiffersBy db'
          (onRow UploadSession.id row.uploadSession.id fun s => s.failValidation problemType)
          (onRow AssetVersion.id row.version.id AssetVersion.failValidation)
          [{ assetVersionId := row.version.id
             validationState := .failed
             problemType := some problemType
             diagnosticsDetail := detail }]
  | .uploadSessionCanonicalizationFailed _ _ =>
      -- the staged evidence was accepted first: `uploading -> uploaded`
      ∃ row, db.findUploadSession input.uploadSessionId = some row ∧
        db.DiffersBy db'
          (onRow UploadSession.id row.uploadSession.id fun s =>
            s.markUploaded now input.stagedObject.objectKey)
          (onRow AssetVersion.id row.version.id fun v =>
            (v.startCanonicalizing input.stagedObject.objectKey).moveTo .failedRetryable) []
  | _ => db' = db

/-- A call **commits what its rejection documents**. -/
def CommitsDocumentedRejection (rt : Runtime) (env : CompletionEnvironment)
    (input : RegistryCompleteUploadSessionInput) (db : Db) : Prop :=
  ∀ e, (completeUploadSession rt env input db).1 = .error e →
    documentedRejection input env.phaseOneAt db (completeUploadSession rt env input db).2 e

/-- A call **finds its session expired**, and not stored as expired already. -/
def Db.FindsExpired (db : Db) (input : RegistryCompleteUploadSessionInput) (now : Instant) : Prop :=
  db.idempotencyRecord? input.idempotencyRecordKey = none ∧
    ∃ row, db.findUploadSession input.uploadSessionId = some row ∧
      now > row.uploadSession.expiresAt ∧ row.uploadSession.expire ≠ row.uploadSession

section Rejection

variable {rt : Runtime} {env : CompletionEnvironment} {input : RegistryCompleteUploadSessionInput}
  {db db' : Db} {row : CompletionReplayRow}

/-- Nothing changes in a registry that already stores the session as expired. -/
theorem differsBy_expire_iff (hrow : db.findUploadSession input.uploadSessionId = some row) :
    db.DiffersBy db (onRow UploadSession.id row.uploadSession.id UploadSession.expire)
        (fun v => v) [] ↔
      row.uploadSession.expire = row.uploadSession := by
  have hstored : db.uploadSession? row.uploadSession.id = some row.uploadSession := by
    obtain ⟨hsession, -⟩ := Db.findUploadSession_eq_some.mp hrow
    exact Db.findUploadSession_id hrow ▸ hsession
  have hmem := (Db.uploadSession?_eq_some_iff.mp hstored).1
  have hunique : ∀ s ∈ db.uploadSessions.rows, s.id = row.uploadSession.id →
      s = row.uploadSession := by
    intro s hs hid
    exact Option.some.inj
      ((Db.uploadSession?_eq_some_iff.mpr ⟨hs, hid⟩).symm.trans hstored)
  constructor
  · intro h
    have hchanged := List.map_eq_iff.mp h.sessions.symm
    obtain ⟨i, hi⟩ := List.getElem?_of_mem hmem
    have hat := hchanged i
    rw [hi] at hat
    have hsame := Option.some.inj hat
    simp only [onRow, if_pos] at hsame
    exact hsame.symm
  · intro hexpired
    have hkept : ∀ s ∈ db.uploadSessions.rows,
        onRow UploadSession.id row.uploadSession.id UploadSession.expire s = s := by
      intro s hs
      by_cases hid : s.id = row.uploadSession.id
      · rw [onRow, if_pos hid, hunique s hs hid, hexpired]
      · rw [onRow, if_neg hid]
    have hrows := (List.map_congr_left hkept).trans (List.map_id' _)
    exact ⟨hrows.symm, (List.map_id' _).symm, (List.append_nil _).symm, rfl⟩

/-- A call that finds its session inside its window does not find it expired. -/
theorem not_findsExpired {now : Instant}
    (hrow : db.findUploadSession input.uploadSessionId = some row)
    (hexpiry : ¬ now > row.uploadSession.expiresAt) : ¬ db.FindsExpired input now := by
  rintro ⟨-, row', hrow', hpast, -⟩
  obtain rfl := Option.some.inj (hrow.symm.trans hrow')
  exact hexpiry hpast

/-- The rows that a failed validation committed. -/
theorem executeAll_recordValidationFailure {problemType detail : String}
    (hexec : executeAll (recordValidationFailure row.uploadSession.id row.version.id problemType
      detail).statements db = .ok db') :
    db.DiffersBy db'
      (onRow UploadSession.id row.uploadSession.id fun s => s.failValidation problemType)
      (onRow AssetVersion.id row.version.id AssetVersion.failValidation)
      [{ assetVersionId := row.version.id
         validationState := .failed
         problemType := some problemType
         diagnosticsDetail := detail }] := by
  obtain ⟨db₁, hsession, hexec⟩ := executeAll_cons.mp hexec
  obtain ⟨db₂, hversion, hexec⟩ := executeAll_cons.mp hexec
  obtain ⟨db₃, hresult, hexec⟩ := executeAll_cons.mp hexec
  obtain rfl := Except.ok.inj hexec
  exact ((Db.DiffersBy.updateUploadSession hsession).trans
    (Db.DiffersBy.updateAssetVersion hversion)).trans
      (Db.DiffersBy.createValidationResult hresult)

/-- The rows that a failed canonicalization committed: those of phase one, and the version
marked afterwards. -/
theorem executeAll_failedCanonicalization {now : Instant} {db₁ : Db}
    (hexec : executeAll (acceptCompletion input now row).statements db = .ok db₁)
    (hrecover : (CompletionStatement.failRetryable row.version.id).apply db₁ = .ok db') :
    db.DiffersBy db'
      (onRow UploadSession.id row.uploadSession.id fun s =>
        s.markUploaded now input.stagedObject.objectKey)
      (onRow AssetVersion.id row.version.id fun v =>
        (v.startCanonicalizing input.stagedObject.objectKey).moveTo .failedRetryable) [] := by
  obtain ⟨db₂, hsession, hexec⟩ := executeAll_cons.mp hexec
  obtain ⟨db₃, hversion, hexec⟩ := executeAll_cons.mp hexec
  obtain rfl := Except.ok.inj hexec
  have h := ((Db.DiffersBy.updateUploadSession hsession).trans
    (Db.DiffersBy.updateAssetVersion hversion)).trans
      (Db.DiffersBy.updateAssetVersion hrecover)
  have hversions := @onRow_comp AssetVersion String _ AssetVersion.id row.version.id
    (fun v => v.startCanonicalizing input.stagedObject.objectKey)
    (fun v => v.moveTo .failedRetryable) fun _ => rfl
  exact hversions ▸ h

/-- The answer to a completion with a recorded key is no rejection that changes rows. -/
theorem completionReplay_documented {record : IdempotencyRecord} {e : RegistryError}
    {now : Instant} (h : completionReplay db input record = .error e) :
    documentedRejection input now db db e := by
  unfold completionReplay loadCompletionReplay at h
  split at h
  · obtain rfl := Except.error.inj h
    rfl
  · repeat' split at h
    all_goals first
      | (obtain rfl := Except.error.inj h; rfl)
      | cases h

end Rejection

/-- **A rejected completion commits exactly the documented change, unless it finds its session
expired**: for every state of the registry and every call. -/
theorem rejection_commits_documented_iff (rt : Runtime) (env : CompletionEnvironment)
    (input : RegistryCompleteUploadSessionInput) (db : Db) :
    CommitsDocumentedRejection rt env input db ↔ ¬ db.FindsExpired input env.phaseOneAt := by
  have h := completeUploadSession_outcome rt env input db
  unfold CommitsDocumentedRejection
  generalize (completeUploadSession rt env input db).1 = result at h ⊢
  generalize (completeUploadSession rt env input db).2 = db' at h ⊢
  cases h with
  | recorded hrecord =>
      refine iff_of_true (fun e he => completionReplay_documented he) ?_
      rintro ⟨hnone, -⟩
      rw [hrecord] at hnone
      cases hnone
  | notFound hrecord hrow =>
      refine iff_of_true ?_ ?_
      · rintro e he
        obtain rfl := Except.error.inj he
        rfl
      · rintro ⟨-, row, hsome, -⟩
        rw [hrow] at hsome
        cases hsome
  | @expired row hrecord hrow hexpiry =>
      constructor
      · rintro hcommits ⟨-, row', hrow', -, hopen⟩
        obtain rfl := Option.some.inj (hrow.symm.trans hrow')
        obtain ⟨row', hrow', hdiffers⟩ := hcommits _ rfl
        obtain rfl := Option.some.inj (hrow.symm.trans hrow')
        exact hopen ((differsBy_expire_iff hrow).mp hdiffers)
      · rintro hstored e he
        obtain rfl := Except.error.inj he
        refine ⟨row, hrow, (differsBy_expire_iff hrow).mpr ?_⟩
        by_contra hopen
        exact hstored ⟨hrecord, row, hrow, hexpiry, hopen⟩
  | replayed _ hrow hexpiry =>
      refine iff_of_true ?_ (not_findsExpired hrow hexpiry)
      rintro e he
      cases he
  | closed _ hrow hexpiry =>
      refine iff_of_true ?_ (not_findsExpired hrow hexpiry)
      rintro e he
      obtain rfl := Except.error.inj he
      rfl
  | notAccepting _ hrow hexpiry =>
      refine iff_of_true ?_ (not_findsExpired hrow hexpiry)
      rintro e he
      obtain rfl := Except.error.inj he
      rfl
  | @rejected row _ _ _ _ hrow hexamined _ hexec =>
      refine iff_of_true ?_ (not_findsExpired hrow hexamined.1)
      rintro e he
      obtain rfl := Except.error.inj he
      exact ⟨row, hrow, executeAll_recordValidationFailure hexec⟩
  | @failed row _ _ _ _ hrow hexamined _ hexec _ hrecover =>
      refine iff_of_true ?_ (not_findsExpired hrow hexamined.1)
      rintro e he
      obtain rfl := Except.error.inj he
      exact ⟨row, hrow, executeAll_failedCanonicalization hexec hrecover⟩
  | completed _ hrow hexamined =>
      refine iff_of_true ?_ (not_findsExpired hrow hexamined.1)
      rintro e he
      cases he

/-! ### A session past its window -/

/-- A completion of the sample session after its window. -/
def pastWindow : CompletionEnvironment :=
  { sampleEnvironment "source-1" "dispatch-1" with phaseOneAt := 2000, phaseTwoAt := 2010 }

/-- **The expiry of a session is not committed**: the session is stored as created after the
call that rejected it as expired. -/
theorem expired_session_stays_open :
    ¬ CommitsDocumentedRejection sampleRuntime pastWindow (sampleCompletion "a" "key-1")
      (sampleRegistry.issueSample "a") := by
  intro hcommits
  obtain ⟨row, hrow, hdiffers⟩ := hcommits (.uploadSessionExpired "session-a") rfl
  have hstates := congrArg (List.map UploadSession.state) hdiffers.sessions
  rw [Db.findUploadSession_id hrow] at hstates
  exact absurd hstates (by decide +kernel)

end Cdngine
