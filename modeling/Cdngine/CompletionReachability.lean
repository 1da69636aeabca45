import Cdngine.RegistryRuns

/-!
# What a Stopped Process Leaves Behind

The states that the upload-session operations reach, when the process of a completion may
stop between any two of its transactions, and the completions that succeed in them.

Inside a run every version that a completion in flight has accepted is `canonicalizing`,
and no two completions have accepted the same one; nothing moves a version out of
`canonical` or `failed_validation`. So the session that a call names decides the call:
it is answered when the session is replayable or its version is at an accepting state, and
rejected otherwise. A process that stops after phase one leaves a version `canonicalizing`
with no completion in flight, which is neither.

## Main results

* `RegistrySystem.UploadInv.step`: the invariant of the runs of upload-session operations.
* `completion_succeeds_iff`: which completions succeed in a state that a run reaches.
* `stopped_completion_is_stuck`: a run after which every completion of a session is
  rejected.
-/

open Relational Runs

namespace Cdngine

/-! ### The operations of the upload-session store -/

/-- The steps of the system that belong to the upload-session store, and the stop of a
process. -/
def RegistryAction.isUploadSession : RegistryAction → Bool
  | .operation (.issueUploadSession _ _ _) => true
  | .operation _ => false
  | _ => true

/-- The request that a completion in flight has been accepted with. -/
def CompletionProgress.request? : CompletionProgress → Option RegistryCanonicalizationRequest
  | .accepted request | .snapshotted request _ | .failed request _ => some request
  | _ => none

/-! ### Moves of the database -/

/-- The states from which the upload-session operations move a version. -/
def movable (state : AssetVersionState) : Bool :=
  acceptsCompletion state || state = .canonicalizing

/-- The record of a completion refers to its session, whose version is canonical. -/
def Db.RefersToCanonical (db : Db) (operationKey : String)
    (reference : Option ReplayableUploadReference) : Prop :=
  ∃ ref s, operationKey = buildCompletionOperationKey ref.uploadSessionId ∧ reference = some ref ∧
    db.uploadSession? ref.uploadSessionId = some s ∧
    db.lifecycle? s.assetVersionId = some .canonical

/-- **What a transaction of the upload-session store may do** to the database; `moved` is
the only version that exists and that it may change. -/
structure Db.UploadMove (moved : Option String) (db db' : Db) : Prop where
  version? : ∀ {id v}, db.version? id = some v → ∃ v', db'.version? id = some v' ∧
    (v' = v ∨ moved = some id ∧ movable v.lifecycleState = true ∧
      (v'.carriesEvidence = true → v.carriesEvidence = true ∨ v'.lifecycleState = .canonical))
  newVersion : ∀ {id v'}, db.version? id = none → db'.version? id = some v' →
    v'.carriesEvidence = false
  session? : ∀ {id s}, db.uploadSession? id = some s → ∃ s', db'.uploadSession? id = some s' ∧
    s'.assetVersionId = s.assetVersionId ∧
    (s'.state = s.state ∨ s'.state = .uploaded ∨
      s'.state = .failedValidation ∧ db'.lifecycle? s.assetVersionId = some .failedValidation)
  newSession : ∀ {id s'}, db.uploadSession? id = none → db'.uploadSession? id = some s' →
    id ≠ "" ∧ s'.state = .sessionCreated
  record? : ∀ {key r}, db'.idempotencyRecord? key = some r →
    db.idempotencyRecord? key = some r ∨ key.2.2.1 = buildCreateOperationKey ∨
      db'.RefersToCanonical key.2.2.1 r.responseReference

namespace Db.UploadMove

variable {moved : Option String} {db db' : Db}

/-- A move leaves a version alone that it does not name. -/
theorem lifecycle?_of_ne (h : db.UploadMove moved db') {id : String} {state : AssetVersionState}
    (hstate : db.lifecycle? id = some state) (hne : moved ≠ some id) :
    db'.lifecycle? id = some state := by
  obtain ⟨v, hv, rfl⟩ := Option.map_eq_some_iff.mp hstate
  obtain ⟨v', hv', rfl | ⟨hmoved, -⟩⟩ := h.version? hv
  · rw [Db.lifecycle?, hv']
    rfl
  · exact absurd hmoved hne

/-- A move leaves a version alone that is not at a movable state. -/
theorem lifecycle?_of_not_movable (h : db.UploadMove moved db') {id : String}
    {state : AssetVersionState} (hstate : db.lifecycle? id = some state)
    (hmovable : movable state = false) : db'.lifecycle? id = some state := by
  obtain ⟨v, hv, rfl⟩ := Option.map_eq_some_iff.mp hstate
  obtain ⟨v', hv', rfl | ⟨-, hyes, -⟩⟩ := h.version? hv
  · rw [Db.lifecycle?, hv']
    rfl
  · rw [hmovable] at hyes
    cases hyes

theorem refl (db : Db) : db.UploadMove none db where
  version? hv := ⟨_, hv, Or.inl rfl⟩
  newVersion hnone hv := by rw [hnone] at hv; cases hv
  session? hs := ⟨_, hs, rfl, Or.inl rfl⟩
  newSession hnone hs := by rw [hnone] at hs; cases hs
  record? hr := Or.inl hr

/-- A move that changes no version is a move of any. -/
theorem of_none (h : db.UploadMove none db') (moved : Option String) : db.UploadMove moved db' where
  version? hv := by
    obtain ⟨v', hv', rfl | ⟨hmoved, -⟩⟩ := h.version? hv
    · exact ⟨_, hv', Or.inl rfl⟩
    · cases hmoved
  newVersion := h.newVersion
  session? := h.session?
  newSession := h.newSession
  record? := h.record?

end Db.UploadMove

/-- The operation keys of issuances and completions differ. -/
theorem buildCompletionOperationKey_ne_create (id : String) :
    buildCompletionOperationKey id ≠ buildCreateOperationKey := by
  unfold buildCompletionOperationKey buildCreateOperationKey
  intro h
  have hlength := congrArg String.length h
  rw [String.length_append] at hlength
  have hcomplete : "upload-session:complete:".length = 24 := by decide
  have hcreate : "upload-session:create".length = 21 := by decide
  omega

/-- Two sessions have different operation keys. -/
theorem buildCompletionOperationKey_inj {id id' : String}
    (h : buildCompletionOperationKey id = buildCompletionOperationKey id') : id = id' := by
  unfold buildCompletionOperationKey at h
  exact (String.append_right_inj _).mp h

/-! ### The invariant of the database -/

/-- **The invariant of the rows**: a session has a name, is never terminated, and is
rejected only together with its version; a version that carries evidence is canonical, and
so is the version of a session that has a completion record. -/
structure Db.UploadInv (db : Db) : Prop where
  named : ∀ {id s}, db.uploadSession? id = some s → id ≠ ""
  notTerminated : ∀ {id s}, db.uploadSession? id = some s → s.state ≠ .terminated
  rejected : ∀ {id s}, db.uploadSession? id = some s → s.state = .failedValidation →
    db.lifecycle? s.assetVersionId = some .failedValidation
  evidence : ∀ {id v}, db.version? id = some v → v.carriesEvidence = true →
    v.lifecycleState = .canonical
  recorded : ∀ {key r}, db.idempotencyRecord? key = some r → key.2.2.1 = buildCreateOperationKey ∨
    db.RefersToCanonical key.2.2.1 r.responseReference

theorem Db.UploadMove.refersToCanonical {moved : Option String} {db db' : Db}
    (h : db.UploadMove moved db') {operationKey : String}
    {reference : Option ReplayableUploadReference}
    (hrefers : db.RefersToCanonical operationKey reference) :
    db'.RefersToCanonical operationKey reference := by
  obtain ⟨ref, s, hkey, href, hs, hcanonical⟩ := hrefers
  obtain ⟨s', hs', hversion, -⟩ := h.session? hs
  refine ⟨ref, s', hkey, href, hs', ?_⟩
  rw [hversion]
  exact h.lifecycle?_of_not_movable hcanonical rfl

/-- **A move keeps the invariant of the rows.** -/
theorem Db.UploadInv.move {moved : Option String} {db db' : Db} (hinv : db.UploadInv)
    (h : db.UploadMove moved db') : db'.UploadInv where
  named := by
    intro id s' hs'
    cases hs : db.uploadSession? id with
    | none => exact (h.newSession hs hs').1
    | some s => exact hinv.named hs
  notTerminated := by
    intro id s' hs'
    cases hs : db.uploadSession? id with
    | none => simp [(h.newSession hs hs').2]
    | some s =>
        obtain ⟨s'', hs'', -, hstate⟩ := h.session? hs
        obtain rfl := Option.some.inj (hs'.symm.trans hs'')
        rcases hstate with hstate | hstate | ⟨hstate, -⟩
        · exact hstate ▸ hinv.notTerminated hs
        · simp [hstate]
        · simp [hstate]
  rejected := by
    intro id s' hs' hfailed
    cases hs : db.uploadSession? id with
    | none => simp [(h.newSession hs hs').2] at hfailed
    | some s =>
        obtain ⟨s'', hs'', hversion, hstate⟩ := h.session? hs
        obtain rfl := Option.some.inj (hs'.symm.trans hs'')
        rw [hversion]
        rcases hstate with hstate | hstate | ⟨-, hlifecycle⟩
        · exact h.lifecycle?_of_not_movable (hinv.rejected hs (hstate ▸ hfailed)) rfl
        · simp [hstate] at hfailed
        · exact hlifecycle
  evidence := by
    intro id v' hv' hcarries
    cases hv : db.version? id with
    | none =>
        rw [h.newVersion hv hv'] at hcarries
        cases hcarries
    | some v =>
        obtain ⟨v'', hv'', hcase⟩ := h.version? hv
        obtain rfl := Option.some.inj (hv'.symm.trans hv'')
        rcases hcase with rfl | ⟨-, hmovable, hevidence⟩
        · exact hinv.evidence hv hcarries
        · rcases hevidence hcarries with hbefore | hcanonical
          · rw [hinv.evidence hv hbefore] at hmovable
            cases hmovable
          · exact hcanonical
  recorded := by
    intro key r hr
    rcases h.record? hr with hbefore | hcreate | hrefers
    · exact (hinv.recorded hbefore).imp_right h.refersToCanonical
    · exact Or.inl hcreate
    · exact Or.inr hrefers

/-! ### The transactions are moves -/

/-- An issuance is a move that changes no version. -/
theorem issueTransaction_uploadMove {input : RegistryIssueUploadSessionInput} {ids : IssueIds}
    {now : Instant} {db db' : Db} {issued : RegistryIssuedUploadSession}
    (h : issueTransaction input ids now db = .ok (issued, db')) : db.UploadMove none db' := by
  obtain ⟨assetId, number, hissued⟩ := issueTransaction_issued h
  constructor
  · intro id v hv
    exact ⟨v, by rw [hissued.version?, hv, Option.some_or], Or.inl rfl⟩
  · intro id v' hnone hv'
    rw [hissued.version?, hnone, Option.none_or] at hv'
    split at hv'
    · obtain rfl := Option.some.inj hv'
      rfl
    · cases hv'
  · intro id s hs
    exact ⟨s, by rw [hissued.uploadSession?, hs, Option.some_or], rfl, Or.inl rfl⟩
  · intro id s' hnone hs'
    rw [hissued.uploadSession?, hnone, Option.none_or] at hs'
    split at hs'
    · rename_i hid
      obtain rfl := Option.some.inj hs'
      exact ⟨hid ▸ ids.uploadSessionId_ne, rfl⟩
    · cases hs'
  · intro key r hr
    rw [hissued.idempotencyRecord?] at hr
    cases hbefore : db.idempotencyRecord? key with
    | some r' =>
        rw [hbefore, Option.some_or] at hr
        exact Or.inl hr
    | none =>
        rw [hbefore, Option.none_or] at hr
        split at hr
        · rename_i hkey
          exact Or.inr (Or.inl (hkey ▸ rfl))
        · cases hr

/-- The statements of a transaction are a move when their effects are. -/
theorem executeAll_uploadMove {ss : List CompletionStatement} {moved : Option String} {db db' : Db}
    (h : executeAll ss db = .ok db')
    (hversion : ∀ {id v}, db.version? id = some v →
      ss.foldl (fun v s => s.onVersion id v) v = v ∨
        moved = some id ∧ movable v.lifecycleState = true ∧
          ((ss.foldl (fun v s => s.onVersion id v) v).carriesEvidence = true →
            v.carriesEvidence = true ∨
              (ss.foldl (fun v s => s.onVersion id v) v).lifecycleState = .canonical))
    (hsession : ∀ {id s}, db.uploadSession? id = some s →
      (ss.foldl (fun r s => s.onSession id r) s).assetVersionId = s.assetVersionId ∧
        ((ss.foldl (fun r s => s.onSession id r) s).state = s.state ∨
          (ss.foldl (fun r s => s.onSession id r) s).state = .uploaded ∨
          (ss.foldl (fun r s => s.onSession id r) s).state = .failedValidation ∧
            db'.lifecycle? s.assetVersionId = some .failedValidation))
    (hrecord : ∀ {row}, CompletionStatement.persistIdempotencyRecord row ∈ ss →
      db'.RefersToCanonical row.operationKey row.responseReference) : db.UploadMove moved db' := by
  constructor
  · intro id v hv
    exact ⟨_, by rw [executeAll_version? h, hv]; rfl, hversion hv⟩
  · intro id v' hnone hv'
    rw [executeAll_version? h, hnone] at hv'
    cases hv'
  · intro id s hs
    obtain ⟨hid, hstate⟩ := hsession hs
    exact ⟨_, by rw [executeAll_uploadSession? h, hs]; rfl, hid, hstate⟩
  · intro id s' hnone hs'
    rw [executeAll_uploadSession? h, hnone] at hs'
    cases hs'
  · intro key r hr
    rcases executeAll_idempotencyRecord? h hr with hbefore | ⟨row, hrow, rfl, href, -⟩
    · exact Or.inl hbefore
    · exact Or.inr (Or.inr (href ▸ hrecord hrow))

section Completion

variable {rt : Runtime} {input : RegistryCompleteUploadSessionInput} {now : Instant} {db db' : Db}
  {row : CompletionReplayRow}

/-- A replayable session of a reached state has a canonical version. -/
theorem Db.UploadInv.replayable (hinv : db.UploadInv)
    (hrow : db.findUploadSession input.uploadSessionId = some row)
    (hreplay : (tryBuildCompletionReplay row).isSome = true) :
    db.lifecycle? row.uploadSession.assetVersionId = some .canonical := by
  obtain ⟨-, hv, -⟩ := Db.findUploadSession_eq_some.mp hrow
  rw [tryBuildCompletionReplay_isSome, Bool.and_eq_true] at hreplay
  rw [Db.lifecycle?, hv, Option.map_some, hinv.evidence hv hreplay.2]

/-- The replay of a completed session is a move that changes no version. -/
theorem replayCompletion_uploadMove {α : Type} {replay : RegistryCompletedUploadSession}
    {result : RegistryCompletedUploadSession → α} (hinv : db.UploadInv)
    (hrow : db.findUploadSession input.uploadSessionId = some row)
    (hreplay : tryBuildCompletionReplay row = some replay)
    (hexec : executeAll (replayCompletion input now replay result).statements db = .ok db') :
    db.UploadMove none db' := by
  have hversion : ∀ id, db'.version? id = db.version? id := by
    intro id
    rw [executeAll_version? hexec]
    exact Option.map_id'
  have hsession : ∀ id, db'.uploadSession? id = db.uploadSession? id := by
    intro id
    rw [executeAll_uploadSession? hexec]
    exact Option.map_id'
  have hid := (tryBuildCompletionReplay_ids hreplay).1
  refine executeAll_uploadMove hexec (fun hv => Or.inl rfl) (fun hs => ⟨rfl, Or.inl rfl⟩) ?_
  intro record hrecord
  obtain rfl := CompletionStatement.persistIdempotencyRecord.inj (List.mem_singleton.mp hrecord)
  refine ⟨_, row.uploadSession, rfl, rfl, ?_, ?_⟩
  · rw [hsession, hid, Db.findUploadSession_id hrow]
    exact (Db.findUploadSession_eq_some.mp hrow).1
  · rw [Db.lifecycle?, hversion]
    exact hinv.replayable hrow (by rw [hreplay]; rfl)

/-- What an accepted completion leaves: its version canonicalizing, under its session. -/
structure Db.Canonicalizing (db : Db) (uploadSessionId versionId : String) : Prop where
  lifecycle? : db.lifecycle? versionId = some .canonicalizing
  session? : ∃ s, db.uploadSession? uploadSessionId = some s ∧ s.assetVersionId = versionId

/-- **Phase one is a move** of a version at an accepting state. -/
theorem phaseOne_uploadMove {result : PhaseOneResult} (hinv : db.UploadInv)
    (h : phaseOne input now db = .ok (result, db')) :
    ∃ moved, db.UploadMove moved db' ∧
      (∀ id, moved = some id → ∃ s, db.lifecycle? id = some s ∧ acceptsCompletion s = true) ∧
      ∀ request, result = .request request → moved = some request.versionId ∧
        db'.Canonicalizing input.uploadSessionId request.versionId := by
  cases phaseOne_cases h with
  | replay hrow hexpiry hreplay hexec =>
      exact ⟨none, replayCompletion_uploadMove hinv hrow hreplay hexec, (fun _ h => by cases h),
        (fun _ h => by cases h)⟩
  | @validationFailure row problemType detail _ hrow hexpiry hreplay hopen haccepts hproblem
      hexec =>
      obtain ⟨hs, -⟩ := Db.findUploadSession_eq_some.mp hrow
      have hv := Db.findUploadSession_version? hrow
      have hvid := Db.findUploadSession_version_id hrow
      have hfailed : db'.lifecycle? row.version.id = some .failedValidation := by
        rw [Db.lifecycle?, executeAll_version? hexec, hv]
        simp [recordValidationFailure, CompletionStatement.onVersion]
      refine ⟨some row.version.id, executeAll_uploadMove hexec ?_ ?_ ?_, ?_,
        (fun _ h => by cases h)⟩
      · intro id v hv'
        by_cases hid : id = row.version.id
        · subst hid
          obtain rfl := Option.some.inj (hv.symm.trans hv')
          refine Or.inr ⟨rfl, by simp [movable, haccepts], fun hcarries => Or.inl ?_⟩
          simpa [recordValidationFailure, CompletionStatement.onVersion] using hcarries
        · exact Or.inl (by simp [recordValidationFailure, CompletionStatement.onVersion, hid])
      · intro id s hs'
        by_cases hid : id = row.uploadSession.id
        · subst hid
          rw [Db.findUploadSession_id hrow, hs] at hs'
          obtain rfl := Option.some.inj hs'
          refine ⟨by simp [recordValidationFailure, CompletionStatement.onSession,
            UploadSession.failValidation], Or.inr (Or.inr ⟨?_, hvid ▸ hfailed⟩)⟩
          simp [recordValidationFailure, CompletionStatement.onSession,
            UploadSession.failValidation]
        · simp [recordValidationFailure, CompletionStatement.onSession, hid]
      · intro record hrecord
        simp [recordValidationFailure] at hrecord
      · intro id hid
        obtain rfl := Option.some.inj hid
        exact ⟨row.version.lifecycleState, by rw [Db.lifecycle?, hv]; rfl, haccepts⟩
  | @request row _ hrow hexpiry hreplay hopen haccepts hproblem hexec =>
      have hv := Db.findUploadSession_version? hrow
      have hfound := findUploadSession_accepted hrow hexec
      refine ⟨some row.version.id, executeAll_uploadMove hexec ?_ ?_ ?_, ?_, ?_⟩
      · intro id v hv'
        by_cases hid : id = row.version.id
        · subst hid
          obtain rfl := Option.some.inj (hv.symm.trans hv')
          refine Or.inr ⟨rfl, by simp [movable, haccepts], fun hcarries => Or.inl ?_⟩
          simpa [acceptCompletion, CompletionStatement.onVersion] using hcarries
        · exact Or.inl (by simp [acceptCompletion, CompletionStatement.onVersion, hid])
      · intro id s hs'
        by_cases hid : id = row.uploadSession.id
        · subst hid
          simp [acceptCompletion, CompletionStatement.onSession, UploadSession.markUploaded]
        · simp [acceptCompletion, CompletionStatement.onSession, hid]
      · intro record hrecord
        simp [acceptCompletion] at hrecord
      · intro id hid
        obtain rfl := Option.some.inj hid
        exact ⟨row.version.lifecycleState, by rw [Db.lifecycle?, hv]; rfl, haccepts⟩
      · intro request hrequest
        obtain rfl := PhaseOneResult.request.inj hrequest
        obtain ⟨hs', -⟩ := Db.findUploadSession_eq_some.mp hfound
        refine ⟨rfl, ?_, _, hs', (Db.findUploadSession_version_id hrow).symm⟩
        have hv' := Db.findUploadSession_version? hfound
        rw [Db.lifecycle?, show (canonicalizationRequest input row).versionId =
          row.version.id from rfl]
        exact congrArg (Option.map _) hv'

/-- **Phase two is a move** of the version that its completion has accepted. -/
theorem phaseTwo_uploadMove {source : SnapshotResult} {newDispatchId versionId : String}
    {completed : RegistryCompletedUploadSession} (hinv : db.UploadInv)
    (hcanonicalizing : db.Canonicalizing input.uploadSessionId versionId)
    (h : phaseTwo rt input source newDispatchId now db = .ok (completed, db')) :
    db.UploadMove (some versionId) db' := by
  cases phaseTwo_cases h with
  | replay hrow hreplay hexec =>
      exact (replayCompletion_uploadMove hinv hrow hreplay hexec).of_none _
  | @canonical row _ db₁ _ hrow hreplay hstate hevidence hdispatch hcompleted =>
      obtain ⟨hs, -⟩ := Db.findUploadSession_eq_some.mp hrow
      have hv := Db.findUploadSession_version? hrow
      have hid : row.version.id = versionId := by
        obtain ⟨s, hs', hversion⟩ := hcanonicalizing.session?
        obtain rfl := Option.some.inj (hs.symm.trans hs')
        rw [Db.findUploadSession_version_id hrow, hversion]
      subst hid
      have hexec := executeAll_append.mpr ⟨db₁, hevidence, hdispatch⟩
      have hfold : ∀ id (v : AssetVersion), (phaseTwoEvidence rt source row ++
          (phaseTwoDispatch input source newDispatchId now row
            (db₁.findWorkflowDispatch (dispatchWorkflowKey input row))).statements).foldl
              (fun v s => s.onVersion id v) v =
            if id = row.version.id then v.withEvidence (canonicalEvidence rt source) else v := by
        intro id v
        cases db₁.findWorkflowDispatch (dispatchWorkflowKey input row) <;> rfl
      have hsession : ∀ id (s : UploadSession), (phaseTwoEvidence rt source row ++
          (phaseTwoDispatch input source newDispatchId now row
            (db₁.findWorkflowDispatch (dispatchWorkflowKey input row))).statements).foldl
              (fun r s => s.onSession id r) s = s := by
        intro id s
        cases db₁.findWorkflowDispatch (dispatchWorkflowKey input row) <;> rfl
      refine executeAll_uploadMove hexec ?_ ?_ ?_
      · intro id v hv'
        rw [hfold]
        by_cases hid : id = row.version.id
        · subst hid
          obtain rfl := Option.some.inj (hv.symm.trans hv')
          exact Or.inr ⟨rfl, by rw [hstate]; rfl, fun _ => Or.inr (by simp)⟩
        · exact Or.inl (if_neg hid)
      · intro id s hs'
        rw [hsession]
        exact ⟨rfl, Or.inl rfl⟩
      · intro record hrecord
        have hpersisted : ∃ replay : RegistryCompletedUploadSession,
            record = completionIdempotencyRecord input now replay ∧
              replay.uploadSessionId = row.uploadSession.id := by
          cases hexisting : db₁.findWorkflowDispatch (dispatchWorkflowKey input row) <;>
            rw [hexisting] at hrecord <;>
            simp [phaseTwoEvidence, phaseTwoDispatch] at hrecord <;> exact ⟨_, hrecord, rfl⟩
        obtain ⟨replay, rfl, hreplayId⟩ := hpersisted
        refine ⟨_, row.uploadSession, rfl, rfl, ?_, ?_⟩
        · rw [executeAll_uploadSession? hexec, hreplayId, Db.findUploadSession_id hrow, hs,
            Option.map_some, hsession]
        · rw [Db.lifecycle?, executeAll_version? hexec, ← Db.findUploadSession_version_id hrow, hv,
            Option.map_some, hfold, if_pos rfl]
          rfl

/-- **The `catch` is a move** of the version that its completion has accepted. -/
theorem recoverFailedCompletion_uploadMove {versionId : String} {cause : RegistryError}
    (hcanonicalizing : db.lifecycle? versionId = some .canonicalizing) :
    db.UploadMove (some versionId) (recoverFailedCompletion input versionId cause db).2 := by
  unfold recoverFailedCompletion
  cases happly : (CompletionStatement.failRetryable versionId).apply db with
  | error e => exact (Db.UploadMove.refl db).of_none _
  | ok db' =>
      have hexec : executeAll [.failRetryable versionId] db = .ok db' :=
        executeAll_cons.mpr ⟨db', happly, rfl⟩
      refine executeAll_uploadMove hexec ?_ (fun hs => ⟨rfl, Or.inl rfl⟩) ?_
      · intro id v hv
        by_cases hid : id = versionId
        · subst hid
          rw [Db.lifecycle?, hv] at hcanonicalizing
          have hstate : v.lifecycleState = .canonicalizing := Option.some.inj hcanonicalizing
          refine Or.inr ⟨rfl, by rw [hstate]; rfl, fun hcarries => Or.inl ?_⟩
          simpa [CompletionStatement.onVersion] using hcarries
        · exact Or.inl (by simp [CompletionStatement.onVersion, hid])
      · intro record hrecord
        simp at hrecord

end Completion

/-! ### The invariant of the system -/

/-- **The invariant of the runs**: the rows keep theirs, every version that a completion
in flight has accepted is canonicalizing, and no two have accepted the same version. -/
structure RegistrySystem.UploadInv (sys : RegistrySystem) : Prop where
  rows : sys.db.UploadInv
  inFlight : ∀ {i : Nat} {c : PendingCompletion} {request : RegistryCanonicalizationRequest},
    sys.completions[i]? = some c → c.progress.request? = some request →
    sys.db.Canonicalizing c.input.uploadSessionId request.versionId
  exclusive : ∀ {i j : Nat} {ci cj : PendingCompletion} {ri rj : RegistryCanonicalizationRequest},
    sys.completions[i]? = some ci → sys.completions[j]? = some cj →
    ci.progress.request? = some ri → cj.progress.request? = some rj →
    ri.versionId = rj.versionId → i = j

namespace RegistrySystem.UploadInv

variable {sys : RegistrySystem}

/-- A move keeps what a completion in flight has accepted, unless it moves that
version. -/
theorem canonicalizing_of_move {moved : Option String} {db db' : Db}
    (h : db.UploadMove moved db') {uploadSessionId versionId : String}
    (hne : moved ≠ some versionId) (hcanonicalizing : db.Canonicalizing uploadSessionId versionId) :
    db'.Canonicalizing uploadSessionId versionId := by
  obtain ⟨s, hs, hversion⟩ := hcanonicalizing.session?
  obtain ⟨s', hs', hsame, -⟩ := h.session? hs
  exact ⟨h.lifecycle?_of_ne hcanonicalizing.lifecycle? hne, s', hs', hsame.trans hversion⟩

/-- The completions after one of them has moved on. -/
theorem getElem?_advance {i j : Nat} {progress : CompletionProgress} {db : Db}
    {c' : PendingCompletion} (h : (sys.advance i progress db).completions[j]? = some c') :
    (j = i ∧ c'.progress = progress ∧ ∃ c, sys.completions[i]? = some c ∧ c'.input = c.input) ∨
      (j ≠ i ∧ sys.completions[j]? = some c') := by
  simp only [advance, List.getElem?_modify] at h
  by_cases hij : i = j
  · subst hij
    simp only [if_true, Option.map_eq_map, Option.map_eq_some_iff] at h
    obtain ⟨c, hc, rfl⟩ := h
    exact Or.inl ⟨rfl, rfl, c, hc, rfl⟩
  · simp only [if_neg hij, Option.map_eq_map, Option.map_id'] at h
    exact Or.inr ⟨Ne.symm hij, h⟩

/-- **A completion moves on**: the invariant is kept when the move leaves the versions of
the other completions alone, and what the completion has accepted afterwards is
canonicalizing and not accepted by another. -/
theorem advance (hinv : sys.UploadInv) {i : Nat} {c : PendingCompletion}
    (hc : sys.completions[i]? = some c) {progress : CompletionProgress} {moved : Option String}
    {db' : Db} (hmove : sys.db.UploadMove moved db')
    (hothers : ∀ {j : Nat} {cj : PendingCompletion} {rj : RegistryCanonicalizationRequest}, j ≠ i →
      sys.completions[j]? = some cj → cj.progress.request? = some rj → moved ≠ some rj.versionId)
    (hown : ∀ {request : RegistryCanonicalizationRequest}, progress.request? = some request →
      db'.Canonicalizing c.input.uploadSessionId request.versionId ∧
        ∀ {j : Nat} {cj : PendingCompletion} {rj : RegistryCanonicalizationRequest}, j ≠ i →
          sys.completions[j]? = some cj → cj.progress.request? = some rj →
          request.versionId ≠ rj.versionId) :
    (sys.advance i progress db').UploadInv where
  rows := hinv.rows.move hmove
  inFlight := by
    intro j cj rj hj hrj
    rcases getElem?_advance hj with ⟨rfl, hprogress, c', hc', hinput⟩ | ⟨hne, hj⟩
    · obtain rfl := Option.some.inj (hc.symm.trans hc')
      rw [hinput]
      exact (hown (hprogress ▸ hrj)).1
    · exact canonicalizing_of_move hmove (hothers hne hj hrj) (hinv.inFlight hj hrj)
  exclusive := by
    intro j k cj ck rj rk hj hk hrj hrk hsame
    rcases getElem?_advance hj with ⟨rfl, hprogressj, -⟩ | ⟨hnej, hj'⟩
    · rcases getElem?_advance hk with ⟨rfl, -⟩ | ⟨hnek, hk⟩
      · rfl
      · exact absurd hsame ((hown (hprogressj ▸ hrj)).2 hnek hk hrk)
    · rcases getElem?_advance hk with ⟨rfl, hprogressk, -⟩ | ⟨-, hk⟩
      · exact absurd hsame.symm ((hown (hprogressk ▸ hrk)).2 hnej hj' hrj)
      · exact hinv.exclusive hj' hk hrj hrk hsame

/-- A completion that moves on with the request it has, over the same database. -/
theorem advance_same (hinv : sys.UploadInv) {i : Nat} {c : PendingCompletion}
    (hc : sys.completions[i]? = some c) {progress : CompletionProgress}
    (hrequest : progress.request? = none ∨ progress.request? = c.progress.request?) :
    (sys.advance i progress sys.db).UploadInv := by
  refine hinv.advance hc (.refl sys.db) (fun _ _ _ h => by cases h) fun {request} hown => ?_
  rcases hrequest with hnone | hsame
  · rw [hnone] at hown
    cases hown
  · rw [hsame] at hown
    exact ⟨hinv.inFlight hc hown,
      fun hne hj hrj heq => hne (hinv.exclusive hj hc hrj hown heq.symm)⟩

/-- A completion that moves the version it has accepted, and then has accepted none. -/
theorem advance_own (hinv : sys.UploadInv) {i : Nat} {c : PendingCompletion}
    {request : RegistryCanonicalizationRequest} (hc : sys.completions[i]? = some c)
    (hrequest : c.progress.request? = some request) {progress : CompletionProgress} {db' : Db}
    (hmove : sys.db.UploadMove (some request.versionId) db') (hnone : progress.request? = none) :
    (sys.advance i progress db').UploadInv := by
  refine hinv.advance hc hmove (fun hne hj hrj heq => ?_) fun hown => ?_
  · exact hne (hinv.exclusive hj hc hrj hrequest (Option.some.inj heq).symm)
  · rw [hnone] at hown
    cases hown

/-- A completion that begins has accepted nothing. -/
theorem complete (hinv : sys.UploadInv) (input : RegistryCompleteUploadSessionInput) :
    (sys.complete input).UploadInv := by
  have hadd : ∀ c : PendingCompletion, c.progress.request? = none →
      UploadInv { sys with completions := sys.completions ++ [c] } := by
    intro c hnone
    have hold : ∀ {j : Nat} {cj : PendingCompletion} {rj : RegistryCanonicalizationRequest},
        (sys.completions ++ [c])[j]? = some cj → cj.progress.request? = some rj →
        sys.completions[j]? = some cj := by
      intro j cj rj hj hrj
      by_cases hlt : j < sys.completions.length
      · rwa [List.getElem?_append_left hlt] at hj
      · rw [List.getElem?_append_right (Nat.le_of_not_lt hlt)] at hj
        obtain rfl := List.mem_singleton.mp (List.mem_of_getElem? hj)
        rw [hnone] at hrj
        cases hrj
    exact
      { rows := hinv.rows
        inFlight := fun hj hrj => hinv.inFlight (hold hj hrj) hrj
        exclusive := fun hi hj hri hrj heq =>
          hinv.exclusive (hold hi hri) (hold hj hrj) hri hrj heq }
  unfold RegistrySystem.complete
  split
  · exact hadd _ rfl
  · exact hadd _ rfl

/-- **The invariant is inductive** over the upload-session operations. -/
theorem step {rt : Runtime} {sys' : RegistrySystem} {a : RegistryAction} (hinv : sys.UploadInv)
    (h : RegistryStep rt sys a sys') (ha : a.isUploadSession = true) : sys'.UploadInv := by
  cases a with
  | operation op =>
      obtain rfl := Option.some.inj h
      cases op with
      | issueUploadSession input ids now =>
          have hmove :
            sys.db.UploadMove none (transact (issueTransaction input ids now) sys.db).2 := by
            rcases transact_snd (issueTransaction input ids now) sys.db with ⟨issued, htx⟩ | hsame
            · exact issueTransaction_uploadMove htx
            · rw [hsame]
              exact .refl sys.db
          exact
            { rows := hinv.rows.move hmove
              inFlight := fun hj hrj =>
                canonicalizing_of_move hmove (fun h => by cases h) (hinv.inFlight hj hrj)
              exclusive := fun hi hj hri hrj heq => hinv.exclusive hi hj hri hrj heq }
      | _ => cases ha
  | complete input =>
      obtain rfl := Option.some.inj h
      exact hinv.complete input
  | phaseOne i now =>
      obtain ⟨c, hc, h⟩ := Option.bind_eq_some_iff.mp h
      split at h
      · rename_i hstarted
        obtain rfl := Option.some.inj h
        unfold RegistrySystem.phaseOne
        split
        · rename_i result db' hone
          obtain ⟨moved, hmove, hmoved, hrequest⟩ := phaseOne_uploadMove hinv.rows hone
          -- a version that a completion has accepted is not at an accepting state
          have hothers :
            ∀ {j : Nat} {cj : PendingCompletion} {rj : RegistryCanonicalizationRequest},
              j ≠ i → sys.completions[j]? = some cj → cj.progress.request? = some rj →
              moved ≠ some rj.versionId := by
            rintro j cj rj - hj hrj heq
            obtain ⟨s, hs, haccepts⟩ := hmoved _ heq
            rw [(hinv.inFlight hj hrj).lifecycle?] at hs
            obtain rfl := Option.some.inj hs
            cases haccepts
          refine hinv.advance hc hmove hothers fun {request} hown => ?_
          have hresult : result = .request request := by
            cases result with
            | request r => exact congrArg _ (Option.some.inj hown)
            | _ => cases hown
          obtain ⟨hmovedRequest, hcanonicalizing⟩ := hrequest request hresult
          exact ⟨hcanonicalizing, fun hne hj hrj heq => hothers hne hj hrj (heq ▸ hmovedRequest)⟩
        · exact hinv.advance_same hc (Or.inl rfl)
      · cases h
  | canonicalize i result =>
      obtain ⟨c, hc, h⟩ := Option.bind_eq_some_iff.mp h
      split at h
      · rename_i hprogress _
        obtain rfl := Option.some.inj h
        exact hinv.advance_same hc (Or.inr (by rw [hprogress]; rfl))
      · rename_i hprogress _
        obtain rfl := Option.some.inj h
        exact hinv.advance_same hc (Or.inr (by rw [hprogress]; rfl))
      · cases h
  | phaseTwo i newDispatchId now =>
      obtain ⟨c, hc, h⟩ := Option.bind_eq_some_iff.mp h
      split at h
      · rename_i request source hprogress
        have hrequest : c.progress.request? = some request := by rw [hprogress]; rfl
        obtain rfl := Option.some.inj h
        unfold RegistrySystem.phaseTwo
        split
        · rename_i htwo
          exact hinv.advance_own hc hrequest
            (phaseTwo_uploadMove hinv.rows (hinv.inFlight hc hrequest) htwo) rfl
        · exact hinv.advance_same hc (Or.inr hrequest.symm)
      · cases h
  | recover i =>
      obtain ⟨c, hc, h⟩ := Option.bind_eq_some_iff.mp h
      split at h
      · rename_i request cause hprogress
        have hrequest : c.progress.request? = some request := by rw [hprogress]; rfl
        obtain rfl := Option.some.inj h
        exact hinv.advance_own hc hrequest
          (recoverFailedCompletion_uploadMove (hinv.inFlight hc hrequest).lifecycle?) rfl
      · cases h
  | stop i =>
      obtain ⟨c, hc, h⟩ := Option.bind_eq_some_iff.mp h
      split at h
      · cases h
      · cases h
      · obtain rfl := Option.some.inj h
        exact hinv.advance_same hc (Or.inl rfl)

end RegistrySystem.UploadInv

/-- A registry that has served no request yet. -/
structure RegistrySystem.Fresh (sys : RegistrySystem) : Prop where
  versions : sys.db.assetVersions.rows = []
  sessions : sys.db.uploadSessions.rows = []
  records : sys.db.idempotencyRecords.rows = []
  completions : sys.completions = []

theorem RegistrySystem.Fresh.uploadInv {sys : RegistrySystem} (h : sys.Fresh) : sys.UploadInv where
  rows :=
    { named := fun hs => by simp [Db.uploadSession?, Table.find?, h.sessions] at hs
      notTerminated := fun hs => by simp [Db.uploadSession?, Table.find?, h.sessions] at hs
      rejected := fun hs => by simp [Db.uploadSession?, Table.find?, h.sessions] at hs
      evidence := fun hv => by simp [Db.version?, Table.find?, h.versions] at hv
      recorded := fun hr => by simp [Db.idempotencyRecord?, Table.find?, h.records] at hr }
  inFlight := fun hj => by simp [h.completions] at hj
  exclusive := fun hj => by simp [h.completions] at hj

/-! ### Which completions succeed -/

/-- No record of the idempotency key belongs to another request. -/
def Db.NoConflict (db : Db) (input : RegistryCompleteUploadSessionInput) : Prop :=
  ∀ record, db.idempotencyRecord? input.idempotencyRecordKey = some record →
    record.normalizedRequestHash = some input.normalizedRequestHash

/-- A session can be completed: it is replayable, or its version is at a state from which
phase one accepts a completion. -/
def CompletionReplayRow.completable (row : CompletionReplayRow) : Bool :=
  (tryBuildCompletionReplay row).isSome || acceptsCompletion row.version.lifecycleState

/-- The record of a session answers with its completion exactly when the session is
replayable. -/
theorem loadCompletionReplay_ok_iff {db : Db} {ref : ReplayableUploadReference}
    {row : CompletionReplayRow} (hne : ref.uploadSessionId ≠ "")
    (hrow : db.findUploadSession ref.uploadSessionId = some row) :
    (∃ completed, loadCompletionReplay db (some ref) = .ok completed) ↔
      (tryBuildCompletionReplay row).isSome = true := by
  have hempty : ¬ ref.uploadSessionId.isEmpty = true := by simpa [String.isEmpty_iff] using hne
  simp only [loadCompletionReplay, if_neg hempty, hrow]
  cases tryBuildCompletionReplay row <;> simp

section Completable

variable {rt : Runtime} {env : CompletionEnvironment} {db : Db}
  {input : RegistryCompleteUploadSessionInput} {row : CompletionReplayRow}

/-- The record that answers a completion refers to its session. -/
theorem Db.UploadInv.reference (hinv : db.UploadInv) {record : IdempotencyRecord}
    (hrecord : db.idempotencyRecord? input.idempotencyRecordKey = some record) :
    ∃ ref s, record.responseReference = some ref ∧ ref.uploadSessionId = input.uploadSessionId ∧
      db.uploadSession? input.uploadSessionId = some s ∧
      db.lifecycle? s.assetVersionId = some .canonical := by
  rcases hinv.recorded hrecord with hcreate | ⟨ref, s, hkey, href, hs, hcanonical⟩
  · exact absurd hcreate (buildCompletionOperationKey_ne_create _)
  · have hid := buildCompletionOperationKey_inj hkey
    exact ⟨ref, s, href, hid.symm, hid ▸ hs, hcanonical⟩

/-- **Only a completable session is completed**, in a state that satisfies the
invariant. -/
theorem Db.UploadInv.completable_of_ok (hinv : db.UploadInv)
    (hrow : db.findUploadSession input.uploadSessionId = some row)
    (hok : ∃ completed, (completeUploadSession rt env input db).1 = .ok completed) :
    db.NoConflict input ∧ row.completable = true := by
  obtain ⟨completed, hok⟩ := hok
  obtain ⟨hs, -⟩ := Db.findUploadSession_eq_some.mp hrow
  cases hrecord : db.idempotencyRecord? input.idempotencyRecordKey with
  | some record =>
      obtain ⟨ref, s, href, hid, -⟩ := hinv.reference hrecord
      simp only [completeUploadSession, hrecord, completionReplay, href] at hok
      split at hok
      · cases hok
      · rename_i hhash
        have hreplay := (loadCompletionReplay_ok_iff (hid ▸ hinv.named hs) (hid ▸ hrow)).mp ⟨_, hok⟩
        refine ⟨fun r hr => ?_, by rw [CompletionReplayRow.completable, hreplay]; rfl⟩
        obtain rfl := Option.some.inj (hrecord.symm.trans hr)
        exact not_not.mp hhash
  | none =>
      refine ⟨(fun r hr => by rw [hrecord] at hr; cases hr), ?_⟩
      have hsame : ∀ {row' : CompletionReplayRow},
          db.findUploadSession input.uploadSessionId = some row' → row' = row :=
        fun h => Option.some.inj (h.symm.trans hrow)
      cases hone : phaseOne input env.phaseOneAt db with
      | error e =>
          simp only [completeUploadSession, hrecord, hone] at hok
          cases hok
      | ok r =>
          obtain ⟨result, db'⟩ := r
          rw [CompletionReplayRow.completable, Bool.or_eq_true]
          cases phaseOne_cases hone with
          | replay hrow' hexpiry hreplay hexec =>
              obtain rfl := hsame hrow'
              exact Or.inl (by rw [hreplay]; rfl)
          | validationFailure hrow' hexpiry hreplay hopen haccepts hproblem hexec =>
              obtain rfl := hsame hrow'
              exact Or.inr haccepts
          | request hrow' hexpiry hreplay hopen haccepts hproblem hexec =>
              obtain rfl := hsame hrow'
              exact Or.inr haccepts

/-- A completion call whose session is unexpired and neither rejected nor held or removed,
whose staged evidence matches the declaration, and whose canonicalization succeeds with a
fresh source. -/
structure MatchingCompletion (db : Db) (env : CompletionEnvironment)
    (input : RegistryCompleteUploadSessionInput) (row : CompletionReplayRow)
    (source : SnapshotResult) : Prop where
  found : db.findUploadSession input.uploadSessionId = some row
  unexpired : ¬ env.phaseOneAt > row.uploadSession.expiresAt
  notRejected : row.version.lifecycleState ≠ .failedValidation
  notHeld : row.version.lifecycleState ≠ .quarantined
  notPurged : row.version.lifecycleState ≠ .purged
  staged : stagedEvidenceProblem input row = none
  canonicalized : env.canonicalize (canonicalizationRequest input row) = .ok source
  freshSource : ∀ v ∈ db.assetVersions.rows, v.canonicalSourceId ≠ some source.canonicalSourceId
  freshDispatch : ∀ d ∈ db.workflowDispatches.rows, d.id ≠ env.newDispatchId

/-- **A completable session is completed** by every matching call that is not in
conflict. -/
theorem Db.UploadInv.ok_of_completable (hinv : db.UploadInv) {source : SnapshotResult}
    (h : MatchingCompletion db env input row source) (hconflict : db.NoConflict input)
    (hcompletable : row.completable = true) :
    ∃ completed, (completeUploadSession rt env input db).1 = .ok completed := by
  obtain ⟨hs, hv, -⟩ := Db.findUploadSession_eq_some.mp h.found
  cases hrecord : db.idempotencyRecord? input.idempotencyRecordKey with
  | some record =>
      obtain ⟨ref, s, href, hid, hs', hcanonical⟩ := hinv.reference hrecord
      obtain rfl := Option.some.inj (hs.symm.trans hs')
      rw [Db.lifecycle?, hv] at hcanonical
      have hstate : row.version.lifecycleState = .canonical := Option.some.inj hcanonical
      have hreplay : (tryBuildCompletionReplay row).isSome = true := by
        rw [CompletionReplayRow.completable, hstate] at hcompletable
        simpa [acceptsCompletion] using hcompletable
      simp only [completeUploadSession, hrecord, completionReplay, href,
        if_neg (not_not.mpr (hconflict record hrecord))]
      exact (loadCompletionReplay_ok_iff (hid ▸ hinv.named hs) (hid ▸ h.found)).mpr hreplay
  | none =>
      cases hreplay : tryBuildCompletionReplay row with
      | some replay =>
          obtain ⟨db', hone⟩ := phaseOne_replays h.found h.unexpired hreplay
          exact ⟨{ replay with isDuplicate := true }, by
            simp only [completeUploadSession, hrecord, hone]⟩
      | none =>
          have hopen : row.uploadSession.isOpen := by
            refine ⟨hinv.notTerminated hs, fun hfailed => h.notRejected ?_⟩
            have hlifecycle := hinv.rejected hs hfailed
            rw [Db.lifecycle?, hv] at hlifecycle
            exact Option.some.inj hlifecycle
          have haccepted : AcceptedCompletion db input env.phaseOneAt row :=
            { unrecorded := hrecord
              found := h.found
              unexpired := h.unexpired
              unreplayable := hreplay
              isOpen := hopen
              accepts := by
                rw [CompletionReplayRow.completable, hreplay] at hcompletable
                exact hcompletable
              staged := h.staged }
          exact haccepted.succeeds h.canonicalized
            (fun v hv _ => h.freshSource v hv) h.freshDispatch

end Completable

/-- **Which completions succeed.** In every state that a run of upload-session operations
reaches, with processes that stop between any two transactions, a matching completion
returns a success or a replay exactly when its idempotency key belongs to no other request
and its session is replayable or its version at a state from which phase one accepts. -/
theorem completion_succeeds_iff {rt : Runtime} {sys₀ sys : RegistrySystem}
    {tr : List (Transition RegistrySystem RegistryAction)} (hfresh : sys₀.Fresh)
    (hrun : Run (RegistryStep rt) sys₀ tr sys)
    (hactions : ∀ τ ∈ tr, τ.action.isUploadSession = true) {env : CompletionEnvironment}
    {input : RegistryCompleteUploadSessionInput} {row : CompletionReplayRow}
    {source : SnapshotResult} (h : MatchingCompletion sys.db env input row source) :
    (∃ completed, (completeUploadSession rt env input sys.db).1 = .ok completed) ↔
      sys.db.NoConflict input ∧ row.completable = true := by
  have hinv : sys.UploadInv := hrun.invariant_where
    (C := fun τ => τ.action.isUploadSession = true)
    (fun hinv hstep ha => RegistrySystem.UploadInv.step hinv hstep ha) hfresh.uploadInv hactions
  exact ⟨hinv.rows.completable_of_ok h.found,
    fun hcompletable => hinv.rows.ok_of_completable h hcompletable.1 hcompletable.2⟩

/-! ### Runs of the sample session -/

/-- The sample session, issued. -/
def issueActions : List RegistryAction :=
  [.operation (.issueUploadSession (sampleIssue "a") (sampleIds "a") 10)]

/-- The sample session, issued, with a completion whose process stops after phase one. -/
def stoppedActions : List RegistryAction :=
  issueActions ++ [.complete (sampleCompletion "a" "key-1"), .phaseOne 0 20, .stop 0]

theorem sampleRegistrySystem_fresh : sampleRegistrySystem.Fresh := ⟨rfl, rfl, rfl, rfl⟩

/-- What a matching call asks of the joined session, for the sample environment. -/
def CompletionReplayRow.matchesSample (row : CompletionReplayRow) (key idempotencyKey : String) :
    Bool :=
  20 ≤ row.uploadSession.expiresAt && row.version.lifecycleState ≠ .failedValidation &&
    row.version.lifecycleState ≠ .quarantined && row.version.lifecycleState ≠ .purged &&
    (stagedEvidenceProblem (sampleCompletion key idempotencyKey) row).isNone

/-- A sample completion matches a session in the state that a run leaves. -/
theorem matchingCompletion_sample (key idempotencyKey : String) {db : Db}
    {source dispatch : String} {row : CompletionReplayRow}
    (hfound : db.findUploadSession ("session-" ++ key) = some row)
    (hmatches : row.matchesSample key idempotencyKey = true)
    (hsource : ∀ v ∈ db.assetVersions.rows, v.canonicalSourceId ≠ some source)
    (hdispatch : ∀ d ∈ db.workflowDispatches.rows, d.id ≠ dispatch) :
    MatchingCompletion db (sampleEnvironment source dispatch)
      (sampleCompletion key idempotencyKey) row
      (sampleSource source) := by
  simp only [CompletionReplayRow.matchesSample, Bool.and_eq_true, decide_eq_true_eq,
    Option.isNone_iff_eq_none] at hmatches
  obtain ⟨⟨⟨⟨hunexpired, hrejected⟩, hheld⟩, hpurged⟩, hstaged⟩ := hmatches
  exact
    { found := hfound
      unexpired := Int.not_lt.mpr hunexpired
      notRejected := hrejected
      notHeld := hheld
      notPurged := hpurged
      staged := hstaged
      canonicalized := rfl
      freshSource := hsource
      freshDispatch := hdispatch }

/-- The issued session is completed. -/
theorem issued_completion_succeeds :
    ∃ tr sys, Run (RegistryStep sampleRuntime) sampleRegistrySystem tr sys ∧
      ∃ completed, (completeUploadSession sampleRuntime (sampleEnvironment "source-1" "dispatch-1")
        (sampleCompletion "a" "key-1") sys.db).1 = .ok completed := by
  obtain ⟨tr, sys, hrun, hactions, hrow, hrecord, hsource, hdispatch⟩ := exists_run_of_exec
    (RegistrySystem.next sampleRuntime) sampleRegistrySystem issueActions
    (fun tr sys => (∀ τ ∈ tr, τ.action.isUploadSession = true) ∧
      (sys.db.findUploadSession "session-a").any
        (fun row => row.matchesSample "a" "key-1" && row.completable) = true ∧
      (sys.db.idempotencyRecord?
        (sampleCompletion "a" "key-1").idempotencyRecordKey).isNone = true ∧
      (∀ v ∈ sys.db.assetVersions.rows, v.canonicalSourceId ≠ some "source-1") ∧
      ∀ d ∈ sys.db.workflowDispatches.rows, d.id ≠ "dispatch-1")
    (by decide +kernel)
  obtain ⟨row, hfound, hrow⟩ := (Option.any_eq_true _ _).mp hrow
  obtain ⟨hmatches, hcompletable⟩ := Bool.and_eq_true_iff.mp hrow
  have hconflict : sys.db.NoConflict (sampleCompletion "a" "key-1") := fun r hr => by
    rw [Option.isNone_iff_eq_none.mp hrecord] at hr
    cases hr
  exact ⟨tr, sys, hrun, (completion_succeeds_iff sampleRegistrySystem_fresh hrun hactions
    (matchingCompletion_sample "a" "key-1" hfound hmatches hsource hdispatch)).mpr
    ⟨hconflict, hcompletable⟩⟩

/-- A process stops after phase one: afterwards every completion of its session is
rejected, matching ones included. -/
theorem stopped_completion_is_stuck :
    ∃ tr sys row, Run (RegistryStep sampleRuntime) sampleRegistrySystem tr sys ∧
      (∀ τ ∈ tr, τ.action.isUploadSession = true) ∧
      MatchingCompletion sys.db (sampleEnvironment "source-1" "dispatch-1")
        (sampleCompletion "a" "key-2") row (sampleSource "source-1") ∧
      ∀ env input, input.uploadSessionId = "session-a" →
        ¬ ∃ completed, (completeUploadSession sampleRuntime env input sys.db).1 =
        .ok completed := by
  obtain ⟨tr, sys, hrun, hactions, hrow, hsource, hdispatch⟩ := exists_run_of_exec
    (RegistrySystem.next sampleRuntime) sampleRegistrySystem stoppedActions
    (fun tr sys => (∀ τ ∈ tr, τ.action.isUploadSession = true) ∧
      (sys.db.findUploadSession "session-a").any
        (fun row => row.matchesSample "a" "key-2" && !row.completable) = true ∧
      (∀ v ∈ sys.db.assetVersions.rows, v.canonicalSourceId ≠ some "source-1") ∧
      ∀ d ∈ sys.db.workflowDispatches.rows, d.id ≠ "dispatch-1")
    (by decide +kernel)
  obtain ⟨row, hfound, hrow⟩ := (Option.any_eq_true _ _).mp hrow
  obtain ⟨hmatches, hstuck⟩ := Bool.and_eq_true_iff.mp hrow
  have hinv : sys.UploadInv := hrun.invariant_where
    (C := fun τ => τ.action.isUploadSession = true)
    (fun hinv hstep ha => RegistrySystem.UploadInv.step hinv hstep ha)
    sampleRegistrySystem_fresh.uploadInv hactions
  refine ⟨tr, sys, row, hrun, hactions,
    matchingCompletion_sample "a" "key-2" hfound hmatches hsource hdispatch,
    fun env input hinput hok => ?_⟩
  have hcompletable := (hinv.rows.completable_of_ok (hinput ▸ hfound) hok).2
  rw [hcompletable] at hstuck
  cases hstuck

end Cdngine
