import Cdngine.AssetScope
import Cdngine.StagedEvidence

/-!
# Outcomes of the Upload-Session Calls

A whole issuance and a whole completion on the registry: for each state of the registry, what
the call returns or throws and what it leaves behind. A completion is its two phases and the
`catch` around the second put together.

## Main results

* `issueUploadSession_outcome`: the inversion of an issuance.
* `canRecord_accepted_iff`: accepting a session does not change whether its canonical source
  can be recorded.
* `completeUploadSession_outcome`: the inversion of a completion, total in the registry, the
  request and the outcome of the canonicalization.
-/

open Relational

namespace Cdngine

/-! ### Rejections -/

/-- The rejection of the in-memory store that is of the same class. -/
def RegistryError.inMemory : RegistryError → Option UploadSessionError
  | .uploadSessionIdempotencyConflict key => some (.idempotencyConflict key)
  | .uploadSessionAssetNotFound id => some (.assetNotFound id)
  | .uploadSessionNotFound id => some (.notFound id)
  | .uploadSessionExpired id => some (.expired id)
  | .uploadSessionInvalidStateTransition id state => some (.invalidStateTransition id state)
  | .uploadSessionValidationFailed id problemType detail =>
      some (.validationFailed id problemType detail)
  | .uploadSessionCanonicalizationFailed id cause => some (.canonicalizationFailed id cause)
  | _ => none

/-! ### An issuance -/

/-- The asset of an issuance is **missing** from the registry: the namespace is unknown, or
the issuance names an asset that is not in the scope it resolves. -/
inductive Db.AssetMissing (db : Db) (input : RegistryIssueUploadSessionInput) : String → Prop
  | unknownNamespace
      (hns : db.serviceNamespaces.find?
        (fun r => r.serviceNamespaceId == input.serviceNamespaceId) = none) :
      AssetMissing db input (input.assetId.getD input.serviceNamespaceId)
  | outOfScope {ns : ServiceNamespace} {assetId : String}
      (hns : db.serviceNamespaces.find?
        (fun r => r.serviceNamespaceId == input.serviceNamespaceId) = some ns)
      (hnamed : input.assetId = some assetId)
      (hmissing : ∀ row, db.asset? assetId = some row → ¬ row.InResolvedScope db input) :
      AssetMissing db input assetId

/-- **What an issuance did.** -/
inductive IssuanceOutcome (input : RegistryIssueUploadSessionInput) (ids : IssueIds)
    (now : Instant) (db : Db) : Except RegistryError RegistryIssuedUploadSession → Db → Prop
  | recorded {record : IdempotencyRecord}
      (hrecord : db.idempotencyRecord? input.idempotencyRecordKey = some record) :
      IssuanceOutcome input ids now db (issueReplay db input record) db
  | missing {assetId : String}
      (hrecord : db.idempotencyRecord? input.idempotencyRecordKey = none)
      (hmissing : db.AssetMissing input assetId) :
      IssuanceOutcome input ids now db (.error (.uploadSessionAssetNotFound assetId)) db
  | violated {violation : Violation}
      (hrecord : db.idempotencyRecord? input.idempotencyRecordKey = none)
      (hfound : ∀ assetId, ¬ db.AssetMissing input assetId) :
      IssuanceOutcome input ids now db (.error (.store violation)) db
  | issued {issued : RegistryIssuedUploadSession} {db' : Db}
      (hrecord : db.idempotencyRecord? input.idempotencyRecordKey = none)
      (hfound : ∀ assetId, ¬ db.AssetMissing input assetId)
      (htx : issueTransaction input ids now db = .ok (issued, db')) :
      IssuanceOutcome input ids now db (.ok issued) db'

section Issuance

variable {input : RegistryIssueUploadSessionInput} {ids : IssueIds} {now : Instant} {db : Db}

/-- An existing asset is found, or there is none in the resolved scope. -/
theorem loadExistingAsset_cases {ns : ServiceNamespace} {assetId : String}
    (hns : db.serviceNamespaces.find?
      (fun r => r.serviceNamespaceId == input.serviceNamespaceId) = some ns) :
    (∃ row, loadExistingAsset db assetId ns.id (resolveTenant db ns.id input.tenantId)
        input.assetOwner = .ok row ∧ db.asset? assetId = some row ∧ row.InResolvedScope db input) ∨
    (loadExistingAsset db assetId ns.id (resolveTenant db ns.id input.tenantId)
        input.assetOwner = .error (.uploadSessionAssetNotFound assetId) ∧
      ∀ row, db.asset? assetId = some row → ¬ row.InResolvedScope db input) := by
  cases hload : loadExistingAsset db assetId ns.id (resolveTenant db ns.id input.tenantId)
      input.assetOwner with
  | ok row =>
      obtain ⟨hrow, hscope⟩ := loadExistingAsset_eq_ok_iff.mp hload
      exact Or.inl ⟨row, rfl, hrow, ns, hns, hscope⟩
  | error e =>
      refine Or.inr ⟨?_, ?_⟩
      · unfold loadExistingAsset at hload
        split at hload
        · cases hload
        · rw [← hload]
      · rintro row hrow ⟨ns', hns', hscope⟩
        obtain rfl := Option.some.inj (hns.symm.trans hns')
        rw [loadExistingAsset_eq_ok_iff.mpr ⟨hrow, hscope⟩] at hload
        cases hload

/-- No asset is missing once the asset of an issuance is found or created. -/
theorem issueAsset_cases {ns : ServiceNamespace}
    (hns : db.serviceNamespaces.find?
      (fun r => r.serviceNamespaceId == input.serviceNamespaceId) = some ns) :
    (∃ assetId, db.AssetMissing input assetId ∧
      issueAsset db input ids ns.id (resolveTenant db ns.id input.tenantId) =
        .error (.uploadSessionAssetNotFound assetId)) ∨
    ((∀ assetId, ¬ db.AssetMissing input assetId) ∧
      ((∃ violation, issueAsset db input ids ns.id (resolveTenant db ns.id input.tenantId) =
          .error (.store violation)) ∨
        ∃ asset db₁, issueAsset db input ids ns.id (resolveTenant db ns.id input.tenantId) =
          .ok (asset, db₁))) := by
  cases hnamed : input.assetId with
  | none =>
      refine Or.inr ⟨fun assetId hmissing => ?_, ?_⟩
      · cases hmissing with
        | unknownNamespace hunknown =>
            rw [hns] at hunknown
            cases hunknown
        | outOfScope _ hsome _ =>
            rw [hnamed] at hsome
            cases hsome
      · cases hasset : issueAsset db input ids ns.id (resolveTenant db ns.id input.tenantId) with
        | ok found => exact Or.inr ⟨found.1, found.2, rfl⟩
        | error e =>
            simp only [issueAsset, hnamed] at hasset
            rcases bind_eq_error.mp hasset with hwrite | ⟨_, _, hret⟩
            · obtain ⟨violation, -, rfl⟩ := write_eq_error.mp hwrite
              exact Or.inl ⟨violation, rfl⟩
            · cases hret
  | some assetId =>
      rcases @loadExistingAsset_cases input db ns assetId hns with
        ⟨row, hload, hrow, hscope⟩ | ⟨hload, hnone⟩
      · refine Or.inr ⟨fun assetId' hmissing => ?_, Or.inr ⟨row, db, ?_⟩⟩
        · cases hmissing with
          | unknownNamespace hunknown =>
              rw [hns] at hunknown
              cases hunknown
          | outOfScope _ hsome hout =>
              obtain rfl := Option.some.inj (hnamed.symm.trans hsome)
              exact hout row hrow hscope
        · simp only [issueAsset, hnamed]
          exact bind_eq_ok.mpr ⟨row, hload, rfl⟩
      · refine Or.inl ⟨assetId, .outOfScope hns hnamed hnone, ?_⟩
        simp only [issueAsset, hnamed]
        exact bind_eq_error.mpr (Or.inl hload)

/-- The outcomes of the transaction of an issuance. -/
theorem issueTransaction_outcome (input : RegistryIssueUploadSessionInput) (ids : IssueIds)
    (now : Instant) (db : Db) :
    (∃ assetId, db.AssetMissing input assetId ∧
      issueTransaction input ids now db = .error (.uploadSessionAssetNotFound assetId)) ∨
    ((∀ assetId, ¬ db.AssetMissing input assetId) ∧
      ((∃ violation, issueTransaction input ids now db = .error (.store violation)) ∨
        ∃ issued db', issueTransaction input ids now db = .ok (issued, db'))) := by
  cases hns : db.serviceNamespaces.find?
      (fun r => r.serviceNamespaceId == input.serviceNamespaceId) with
  | none =>
      refine Or.inl ⟨_, .unknownNamespace hns, ?_⟩
      simp only [issueTransaction, hns]
  | some ns =>
      rcases @issueAsset_cases input ids db ns hns with ⟨assetId, hmissing, hasset⟩ |
        ⟨hfound, hasset⟩
      · refine Or.inl ⟨assetId, hmissing, ?_⟩
        simp only [issueTransaction, hns]
        exact bind_eq_error.mpr (Or.inl hasset)
      · refine Or.inr ⟨hfound, ?_⟩
        cases htx : issueTransaction input ids now db with
        | ok committed => exact Or.inr ⟨committed.1, committed.2, rfl⟩
        | error e =>
            refine Or.inl ?_
            simp only [issueTransaction, hns] at htx
            rcases hasset with ⟨violation, hasset⟩ | ⟨asset, db₁, hasset⟩
            · rcases bind_eq_error.mp htx with herror | ⟨_, hok, -⟩
              · rw [hasset] at herror
                exact ⟨violation, congrArg Except.error (Except.error.inj herror).symm⟩
              · rw [hasset] at hok
                cases hok
            · rcases bind_eq_error.mp htx with herror | ⟨_, -, htx⟩
              · rw [hasset] at herror
                cases herror
              · rcases bind_eq_error.mp htx with hwrite | ⟨_, -, htx⟩
                · obtain ⟨violation, -, rfl⟩ := write_eq_error.mp hwrite
                  exact ⟨violation, rfl⟩
                · rcases bind_eq_error.mp htx with hwrite | ⟨_, -, htx⟩
                  · obtain ⟨violation, -, rfl⟩ := write_eq_error.mp hwrite
                    exact ⟨violation, rfl⟩
                  · rcases bind_eq_error.mp htx with hwrite | ⟨_, -, hret⟩
                    · obtain ⟨violation, -, rfl⟩ := write_eq_error.mp hwrite
                      exact ⟨violation, rfl⟩
                    · cases hret

/-- **Inversion of an issuance.** -/
theorem issueUploadSession_outcome (input : RegistryIssueUploadSessionInput) (ids : IssueIds)
    (now : Instant) (db : Db) :
    IssuanceOutcome input ids now db (issueUploadSession input ids now db).1
      (issueUploadSession input ids now db).2 := by
  cases hrecord : db.idempotencyRecord? input.idempotencyRecordKey with
  | some record =>
      simp only [issueUploadSession, hrecord]
      exact .recorded hrecord
  | none =>
      rcases issueTransaction_outcome input ids now db with
        ⟨assetId, hmissing, htx⟩ | ⟨hfound, ⟨violation, htx⟩ | ⟨issued, db', htx⟩⟩
      · simp only [issueUploadSession, hrecord, transact, htx]
        exact .missing hrecord hmissing
      · cases violation <;>
          (simp only [issueUploadSession, hrecord, transact, htx]
           exact .violated hrecord hfound)
      · simp only [issueUploadSession, hrecord, transact, htx]
        exact .issued hrecord hfound htx

end Issuance

section Completion

variable {rt : Runtime} {env : CompletionEnvironment} {input : RegistryCompleteUploadSessionInput}
  {db : Db} {row : CompletionReplayRow}

/-! ### Phase one, where it throws -/

/-- Phase one throws on a session that is closed. -/
theorem phaseOne_eq_closed {now : Instant}
    (hrow : db.findUploadSession input.uploadSessionId = some row)
    (hexpiry : ¬ now > row.uploadSession.expiresAt) (hreplay : tryBuildCompletionReplay row = none)
    (hclosed : ¬ row.uploadSession.isOpen) :
    phaseOne input now db =
      .error (.uploadSessionInvalidStateTransition input.uploadSessionId
        row.uploadSession.state.text) := by
  simp only [phaseOne, hrow, phaseOneScript_closed hexpiry hreplay hclosed]
  rfl

/-- Phase one throws on a version that does not accept a completion. -/
theorem phaseOne_eq_notAccepting {now : Instant}
    (hrow : db.findUploadSession input.uploadSessionId = some row)
    (hexpiry : ¬ now > row.uploadSession.expiresAt) (hreplay : tryBuildCompletionReplay row = none)
    (hopen : row.uploadSession.isOpen)
    (hrejects : acceptsCompletion row.version.lifecycleState = false) :
    phaseOne input now db =
      .error (.uploadSessionInvalidStateTransition input.uploadSessionId
        row.version.lifecycleState.text) := by
  simp only [phaseOne, hrow, phaseOneScript_rejected hexpiry hreplay hopen hrejects]
  rfl

/-! ### After phase one accepted -/

/-- The row of a session after phase one accepted it. -/
def CompletionReplayRow.accepted (row : CompletionReplayRow) (now : Instant) (objectKey : String) :
    CompletionReplayRow :=
  { row with
    uploadSession := row.uploadSession.markUploaded now objectKey
    version := row.version.startCanonicalizing objectKey }

/-- The other versions and the dispatches after phase one accepted a session. -/
theorem executeAll_accepted_frame {now : Instant} {db₁ : Db}
    (hexec : executeAll (acceptCompletion input now row).statements db = .ok db₁) :
    (∀ v, v.id ≠ row.version.id →
      (v ∈ db₁.assetVersions.rows ↔ v ∈ db.assetVersions.rows)) ∧
    db₁.workflowDispatches.rows = db.workflowDispatches.rows := by
  constructor
  · intro v hne
    have hsame : db₁.version? v.id = db.version? v.id := by
      rw [executeAll_version? hexec]
      simp [acceptCompletion, CompletionStatement.onVersion, hne]
    have hmem : ∀ db : Db, v ∈ db.assetVersions.rows ↔ db.version? v.id = some v := fun db =>
      ⟨fun h => Db.version?_eq_some_iff.mpr ⟨h, rfl⟩, fun h => (Db.version?_eq_some_iff.mp h).1⟩
    rw [hmem db₁, hmem db, hsame]
  · rw [executeAll_dispatches hexec]
    simp [acceptCompletion, CompletionStatement.newDispatch]

/-- **Accepting a session does not change whether its canonical source can be recorded.** -/
theorem canRecord_accepted_iff {now : Instant} {db₁ : Db} {source : SnapshotResult}
    {newDispatchId : String}
    (hexec : executeAll (acceptCompletion input now row).statements db = .ok db₁) :
    db₁.CanRecord input (row.accepted now input.stagedObject.objectKey) source newDispatchId ↔
      db.CanRecord input row source newDispatchId := by
  obtain ⟨hversions, hdispatches⟩ := executeAll_accepted_frame hexec
  have hfind : db₁.findWorkflowDispatch (dispatchWorkflowKey input row) =
      db.findWorkflowDispatch (dispatchWorkflowKey input row) := by
    simp only [Db.findWorkflowDispatch, Table.find?, hdispatches]
  constructor
  · rintro ⟨hsource, hdispatch⟩
    refine ⟨fun v hv hne => hsource v ((hversions v hne).mpr hv) hne, fun hnone => ?_⟩
    rw [← hdispatches]
    exact hdispatch (hfind.trans hnone)
  · rintro ⟨hsource, hdispatch⟩
    refine ⟨fun v hv hne => hsource v ((hversions v hne).mp hv) hne, fun hnone => ?_⟩
    rw [hdispatches]
    exact hdispatch (hfind.symm.trans hnone)

/-- The `catch` of a completion finds the version and marks it. -/
theorem recoverFailedCompletion_eq {now : Instant} {db₁ : Db} (cause : RegistryError)
    (hrow : db.findUploadSession input.uploadSessionId = some row)
    (hexec : executeAll (acceptCompletion input now row).statements db = .ok db₁) :
    ∃ db', (CompletionStatement.failRetryable row.version.id).apply db₁ = .ok db' ∧
      recoverFailedCompletion input row.version.id cause db₁ =
        (.error (.uploadSessionCanonicalizationFailed input.uploadSessionId cause), db') := by
  have hv : db₁.version? row.version.id =
      some (row.version.startCanonicalizing input.stagedObject.objectKey) := by
    rw [executeAll_version? hexec, Db.findUploadSession_version? hrow]
    simp [acceptCompletion, CompletionStatement.onVersion]
  obtain ⟨db', h'⟩ := Db.updateAssetVersion_ok hv (f := fun r => r.moveTo .failedRetryable)
    fun _ _ => rfl
  have happly : (CompletionStatement.failRetryable row.version.id).apply db₁ = .ok db' := h'
  exact ⟨db', happly, by simp only [recoverFailedCompletion, happly]⟩

/-! ### A completion -/

/-- A completion **can be canonicalized**: the canonicalization of its request succeeds, with
a canonical source that the registry can record. -/
def Db.Canonicalizable (db : Db) (env : CompletionEnvironment)
    (input : RegistryCompleteUploadSessionInput) (row : CompletionReplayRow) : Prop :=
  ∃ source, env.canonicalize (canonicalizationRequest input row) = .ok source ∧
    db.CanRecord input row source env.newDispatchId

/-- **What a completion did**: the value it returned or threw, and the registry it left. -/
inductive CompletionOutcome (rt : Runtime) (env : CompletionEnvironment)
    (input : RegistryCompleteUploadSessionInput) (db : Db) :
    Except RegistryError RegistryCompletedUploadSession → Db → Prop
  | recorded {record : IdempotencyRecord}
      (hrecord : db.idempotencyRecord? input.idempotencyRecordKey = some record) :
      CompletionOutcome rt env input db (completionReplay db input record) db
  | notFound (hrecord : db.idempotencyRecord? input.idempotencyRecordKey = none)
      (hrow : db.findUploadSession input.uploadSessionId = none) :
      CompletionOutcome rt env input db (.error (.uploadSessionNotFound input.uploadSessionId)) db
  | expired {row : CompletionReplayRow}
      (hrecord : db.idempotencyRecord? input.idempotencyRecordKey = none)
      (hrow : db.findUploadSession input.uploadSessionId = some row)
      (hexpiry : env.phaseOneAt > row.uploadSession.expiresAt) :
      CompletionOutcome rt env input db (.error (.uploadSessionExpired input.uploadSessionId)) db
  | replayed {row : CompletionReplayRow} {replay : RegistryCompletedUploadSession} {db' : Db}
      (hrecord : db.idempotencyRecord? input.idempotencyRecordKey = none)
      (hrow : db.findUploadSession input.uploadSessionId = some row)
      (hexpiry : ¬ env.phaseOneAt > row.uploadSession.expiresAt)
      (hreplay : tryBuildCompletionReplay row = some replay)
      (hexec : executeAll
        (replayCompletion input env.phaseOneAt replay PhaseOneResult.replay).statements db =
        .ok db') :
      CompletionOutcome rt env input db (.ok { replay with isDuplicate := true }) db'
  | closed {row : CompletionReplayRow}
      (hrecord : db.idempotencyRecord? input.idempotencyRecordKey = none)
      (hrow : db.findUploadSession input.uploadSessionId = some row)
      (hexpiry : ¬ env.phaseOneAt > row.uploadSession.expiresAt)
      (hreplay : tryBuildCompletionReplay row = none) (hclosed : ¬ row.uploadSession.isOpen) :
      CompletionOutcome rt env input db
        (.error (.uploadSessionInvalidStateTransition input.uploadSessionId
          row.uploadSession.state.text)) db
  | notAccepting {row : CompletionReplayRow}
      (hrecord : db.idempotencyRecord? input.idempotencyRecordKey = none)
      (hrow : db.findUploadSession input.uploadSessionId = some row)
      (hexpiry : ¬ env.phaseOneAt > row.uploadSession.expiresAt)
      (hreplay : tryBuildCompletionReplay row = none) (hopen : row.uploadSession.isOpen)
      (hrejects : acceptsCompletion row.version.lifecycleState = false) :
      CompletionOutcome rt env input db
        (.error (.uploadSessionInvalidStateTransition input.uploadSessionId
          row.version.lifecycleState.text)) db
  | rejected {row : CompletionReplayRow} {problemType detail : String} {db' : Db}
      (hrecord : db.idempotencyRecord? input.idempotencyRecordKey = none)
      (hrow : db.findUploadSession input.uploadSessionId = some row)
      (hexamined : row.Examined env.phaseOneAt)
      (hproblem : stagedEvidenceProblem input row = some (problemType, detail))
      (hexec : executeAll (recordValidationFailure row.uploadSession.id row.version.id problemType
        detail).statements db = .ok db') :
      CompletionOutcome rt env input db
        (.error (.uploadSessionValidationFailed row.uploadSession.id problemType detail)) db'
  | failed {row : CompletionReplayRow} {cause : RegistryError} {db₁ db' : Db}
      (hrecord : db.idempotencyRecord? input.idempotencyRecordKey = none)
      (hrow : db.findUploadSession input.uploadSessionId = some row)
      (hexamined : row.Examined env.phaseOneAt)
      (hproblem : stagedEvidenceProblem input row = none)
      (hexec : executeAll (acceptCompletion input env.phaseOneAt row).statements db = .ok db₁)
      (hfailed : ¬ db.Canonicalizable env input row)
      (hrecover : (CompletionStatement.failRetryable row.version.id).apply db₁ = .ok db') :
      CompletionOutcome rt env input db
        (.error (.uploadSessionCanonicalizationFailed input.uploadSessionId cause)) db'
  | completed {row : CompletionReplayRow} {source : SnapshotResult}
      {completed : RegistryCompletedUploadSession} {db₁ db' : Db}
      (hrecord : db.idempotencyRecord? input.idempotencyRecordKey = none)
      (hrow : db.findUploadSession input.uploadSessionId = some row)
      (hexamined : row.Examined env.phaseOneAt)
      (hproblem : stagedEvidenceProblem input row = none)
      (hexec : executeAll (acceptCompletion input env.phaseOneAt row).statements db = .ok db₁)
      (hsource : env.canonicalize (canonicalizationRequest input row) = .ok source)
      (hcan : db.CanRecord input row source env.newDispatchId)
      (htwo : phaseTwo rt input source env.newDispatchId env.phaseTwoAt db₁ =
        .ok (completed, db')) :
      CompletionOutcome rt env input db (.ok completed) db'

/-- The part of a completion after phase one accepted. -/
theorem canonicalizeAndRecord_outcome {db₁ : Db}
    (hrecord : db.idempotencyRecord? input.idempotencyRecordKey = none)
    (hrow : db.findUploadSession input.uploadSessionId = some row)
    (hexamined : row.Examined env.phaseOneAt) (hproblem : stagedEvidenceProblem input row = none)
    (hexec : executeAll (acceptCompletion input env.phaseOneAt row).statements db = .ok db₁) :
    CompletionOutcome rt env input db
      (canonicalizeAndRecord rt env input (canonicalizationRequest input row) db₁).1
      (canonicalizeAndRecord rt env input (canonicalizationRequest input row) db₁).2 := by
  have hversion : (canonicalizationRequest input row).versionId = row.version.id := rfl
  cases hsource : env.canonicalize (canonicalizationRequest input row) with
  | error cause =>
      obtain ⟨db', hrecover, hcatch⟩ := recoverFailedCompletion_eq cause hrow hexec
      simp only [canonicalizeAndRecord, hsource, hversion, hcatch]
      refine .failed hrecord hrow hexamined hproblem hexec ?_ hrecover
      rintro ⟨source, hok, -⟩
      rw [hsource] at hok
      cases hok
  | ok source =>
      have hrow₁ := findUploadSession_accepted hrow hexec
      have hok := @phaseTwo_ok_iff rt env.phaseTwoAt input source env.newDispatchId _ _ hrow₁
        (tryBuildCompletionReplay_accepted env.phaseOneAt input.stagedObject.objectKey
          hexamined.2.1)
        rfl
      have hcan := @canRecord_accepted_iff input db row env.phaseOneAt db₁ source env.newDispatchId
        hexec
      cases htwo : phaseTwo rt input source env.newDispatchId env.phaseTwoAt db₁ with
      | ok committed =>
          obtain ⟨completed, db'⟩ := committed
          simp only [canonicalizeAndRecord, hsource, htwo]
          exact .completed hrecord hrow hexamined hproblem hexec hsource
            (hcan.mp (hok.mp ⟨completed, db', htwo⟩)) htwo
      | error cause =>
          obtain ⟨db', hrecover, hcatch⟩ := recoverFailedCompletion_eq cause hrow hexec
          simp only [canonicalizeAndRecord, hsource, htwo, hversion, hcatch]
          refine .failed hrecord hrow hexamined hproblem hexec ?_ hrecover
          rintro ⟨source', hsource', hcan'⟩
          obtain rfl := Except.ok.inj (hsource.symm.trans hsource')
          obtain ⟨completed, db'', htwo'⟩ := hok.mpr (hcan.mpr hcan')
          rw [htwo] at htwo'
          cases htwo'

/-- **Inversion of a completion.** -/
theorem completeUploadSession_outcome (rt : Runtime) (env : CompletionEnvironment)
    (input : RegistryCompleteUploadSessionInput) (db : Db) :
    CompletionOutcome rt env input db (completeUploadSession rt env input db).1
      (completeUploadSession rt env input db).2 := by
  cases hrecord : db.idempotencyRecord? input.idempotencyRecordKey with
  | some record =>
      simp only [completeUploadSession, hrecord]
      exact .recorded hrecord
  | none =>
      cases hrow : db.findUploadSession input.uploadSessionId with
      | none =>
          have hone : phaseOne input env.phaseOneAt db =
              .error (.uploadSessionNotFound input.uploadSessionId) := by
            simp only [phaseOne, hrow]
          simp only [completeUploadSession, hrecord, hone]
          exact .notFound hrecord hrow
      | some row =>
          by_cases hexpiry : env.phaseOneAt > row.uploadSession.expiresAt
          · simp only [completeUploadSession, hrecord, phaseOne_eq_expired hrow hexpiry]
            exact .expired hrecord hrow hexpiry
          cases hreplay : tryBuildCompletionReplay row with
          | some replay =>
              obtain ⟨db', hexec⟩ := executeAll_replay_ok input env.phaseOneAt replay
                PhaseOneResult.replay db
              have hone : phaseOne input env.phaseOneAt db =
                  .ok (.replay { replay with isDuplicate := true }, db') := by
                simp only [phaseOne, hrow, phaseOneScript_replay hexpiry hreplay]
                exact CompletionScript.run_eq_ok.mpr ⟨hexec, rfl⟩
              simp only [completeUploadSession, hrecord, hone]
              exact .replayed hrecord hrow hexpiry hreplay hexec
          | none =>
              by_cases hopen : row.uploadSession.isOpen
              swap
              · simp only [completeUploadSession, hrecord,
                  phaseOne_eq_closed hrow hexpiry hreplay hopen]
                exact .closed hrecord hrow hexpiry hreplay hopen
              cases haccepts : acceptsCompletion row.version.lifecycleState with
              | false =>
                  simp only [completeUploadSession, hrecord,
                    phaseOne_eq_notAccepting hrow hexpiry hreplay hopen haccepts]
                  exact .notAccepting hrecord hrow hexpiry hreplay hopen haccepts
              | true =>
                  have hexamined : row.Examined env.phaseOneAt :=
                    ⟨hexpiry, hreplay, hopen, haccepts⟩
                  cases hproblem : stagedEvidenceProblem input row with
                  | some problem =>
                      obtain ⟨problemType, detail⟩ := problem
                      obtain ⟨db', hone, hexec⟩ := phaseOne_fails hrow hexamined hproblem
                      simp only [completeUploadSession, hrecord, hone]
                      exact .rejected hrecord hrow hexamined hproblem hexec
                  | none =>
                      obtain ⟨db₁, hone, hexec⟩ := phaseOne_accepts hrow hexpiry hreplay hopen
                        haccepts hproblem
                      simp only [completeUploadSession, hrecord, hone]
                      exact canonicalizeAndRecord_outcome hrecord hrow hexamined hproblem hexec

end Completion

end Cdngine
