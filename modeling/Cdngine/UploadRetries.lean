import Cdngine.DuplicateCompletion
import Cdngine.IssueSessions
import Cdngine.RouteRejections
import Cdngine.SdkUploads

/-!
# Retried Uploads

A call of `uploadFile` that is made again with the same input, after a first call that stopped
somewhere: the registry may have run on in the meantime, and the completion of the first call
may be in flight, finished or abandoned.

The first call leaves a record of its request to create the session, and perhaps one of its
request to complete it. Records of issuances are never changed, and a record of a completion
holds the hash and the session of a completion of its key. So the second call is answered like
the first where it sends the same requests; and it does exactly where the caller gives the
object key.

## Main results

* `RegistryStep.recorded`: the invariant of the records, over every step of the registry.
* `CreateAccepted.served`: the same requests, sent again, are replayed.
* `upload_retry_replays_iff`: a retry is replayed exactly when the object key is given.
-/

open Relational Runs

namespace Cdngine

/-! ### Idempotency records over statements -/

section Statements

variable {db db' db₁ db₂ db₃ : Db} {input : RegistryCompleteUploadSessionInput}

/-- The records of issuances stay what they are, and no record is removed. -/
structure Db.KeepsRecords (db db' : Db) : Prop where
  issued : ∀ {key : ApiSurface × String × String × String} {r},
    key.2.2.1 = buildCreateOperationKey → db.idempotencyRecord? key = some r →
      db'.idempotencyRecord? key = some r
  present : ∀ {key}, (db.idempotencyRecord? key).isSome = true →
    (db'.idempotencyRecord? key).isSome = true

theorem Db.KeepsRecords.refl (db : Db) : db.KeepsRecords db := ⟨fun _ h => h, fun h => h⟩

theorem Db.KeepsRecords.trans (h : db₁.KeepsRecords db₂) (h' : db₂.KeepsRecords db₃) :
    db₁.KeepsRecords db₃ where
  issued hkey hr := h'.issued hkey (h.issued hkey hr)
  present hr := h'.present (h.present hr)

theorem Db.KeepsRecords.of_eq (h : db'.idempotencyRecords = db.idempotencyRecords) :
    db.KeepsRecords db' where
  issued _ hr := by rwa [Db.idempotencyRecord?, h]
  present hr := by rwa [Db.idempotencyRecord?, h]

/-- The statements of a completion persist records of its key and hash, that refer to its
session. -/
def PersistsOwn (input : RegistryCompleteUploadSessionInput) (ss : List CompletionStatement) :
    Prop :=
  ∀ row, .persistIdempotencyRecord row ∈ ss → ∃ now replay,
    row = completionIdempotencyRecord input now replay ∧
      replay.uploadSessionId = input.uploadSessionId

theorem PersistsOwn.key {ss : List CompletionStatement} (h : PersistsOwn input ss)
    {row : IdempotencyRecord} (hrow : .persistIdempotencyRecord row ∈ ss) :
    row.key = input.idempotencyRecordKey ∧
      row.normalizedRequestHash = some input.normalizedRequestHash ∧
      ∃ ref, row.responseReference = some ref ∧ ref.uploadSessionId = input.uploadSessionId := by
  obtain ⟨now, replay, rfl, hid⟩ := h row hrow
  refine ⟨?_, rfl, _, rfl, hid⟩
  show (ApiSurface.publicApi, input.callerScopeKey,
    buildCompletionOperationKey replay.uploadSessionId, input.idempotencyKey) = _
  rw [hid]
  rfl

/-- A statement of a completion keeps the records. -/
theorem PersistsOwn.apply {s : CompletionStatement} (hown : PersistsOwn input [s])
    (h : s.apply db = .ok db') : db.KeepsRecords db' := by
  rcases s.idempotencyRecords_apply h with hsame | ⟨row, rfl, stored, hstored, -, -, hother⟩
  · exact .of_eq hsame
  · obtain ⟨hkey, -⟩ := hown.key List.mem_cons_self
    refine ⟨fun {key r} hcreate hr => ?_, fun {key} hr => ?_⟩
    · rw [hother key, hr]
      rintro rfl
      rw [hkey] at hcreate
      exact buildCompletionOperationKey_ne_create _ hcreate
    · by_cases hsame : key = row.key
      · rw [hsame, hstored, Option.isSome_some]
      · rwa [hother key hsame]

/-- The statements of a completion keep the records, and leave those that they persist. -/
theorem PersistsOwn.executeAll {ss : List CompletionStatement} (hown : PersistsOwn input ss)
    (h : executeAll ss db = .ok db') :
    db.KeepsRecords db' ∧ ∀ row, .persistIdempotencyRecord row ∈ ss →
      (db'.idempotencyRecord? row.key).isSome = true := by
  induction ss generalizing db with
  | nil =>
      obtain rfl := Except.ok.inj h
      exact ⟨.refl db, fun row hrow => by cases hrow⟩
  | cons s ss ih =>
      obtain ⟨db₁, hs, hss⟩ := executeAll_cons.mp h
      obtain ⟨hkeeps, hpersisted⟩ := ih (fun row hrow => hown row (List.mem_cons_of_mem _ hrow)) hss
      have hfirst : db.KeepsRecords db₁ := PersistsOwn.apply (fun row hrow => hown row
        (by rw [List.mem_singleton.mp hrow]; exact List.mem_cons_self)) hs
      refine ⟨hfirst.trans hkeeps, fun row hrow => ?_⟩
      rcases List.mem_cons.mp hrow with rfl | hrow
      · obtain ⟨t, ht, rfl⟩ := write_eq_ok.mp hs
        have hfind := Table.find?_upsert_key ht (fun _ => rfl) rfl
        exact hkeeps.present (by rw [Db.idempotencyRecord?, hfind row.key, if_pos rfl]; rfl)
      · exact hpersisted row hrow

/-- A list without persisted records persists none of another completion. -/
theorem persistsOwn_of_none {ss : List CompletionStatement}
    (h : ∀ row, .persistIdempotencyRecord row ∉ ss) : PersistsOwn input ss :=
  fun row hrow => absurd hrow (h row)

/-- The replay of a session persists its record. -/
theorem persistsOwn_replayCompletion {α : Type} {now : Instant} {row : CompletionReplayRow}
    {replay : RegistryCompletedUploadSession} {result : RegistryCompletedUploadSession → α}
    (hrow : db.findUploadSession input.uploadSessionId = some row)
    (hreplay : tryBuildCompletionReplay row = some replay) :
    PersistsOwn input (replayCompletion input now replay result).statements := by
  intro record hrecord
  obtain rfl := CompletionStatement.persistIdempotencyRecord.inj (List.mem_singleton.mp hrecord)
  exact ⟨now, replay, rfl,
    (tryBuildCompletionReplay_ids hreplay).1.trans (Db.findUploadSession_id hrow)⟩

/-- **The statements of phase one**, and the record that a replay leaves. -/
theorem phaseOne_statements {now : Instant} {result : PhaseOneResult}
    (h : phaseOne input now db = .ok (result, db')) :
    ∃ ss, executeAll ss db = .ok db' ∧ PersistsOwn input ss ∧
      ∀ completed, result = .replay completed → ∃ row, .persistIdempotencyRecord row ∈ ss := by
  cases phaseOne_cases h with
  | replay hrow _ hreplay hexec =>
      exact ⟨_, hexec, persistsOwn_replayCompletion hrow hreplay,
        fun _ _ => ⟨_, List.mem_cons_self⟩⟩
  | validationFailure _ _ _ _ _ _ hexec =>
      refine ⟨_, hexec, persistsOwn_of_none fun row hrow => ?_, fun _ hresult => by cases hresult⟩
      simp [recordValidationFailure] at hrow
  | request _ _ _ _ _ _ hexec =>
      refine ⟨_, hexec, persistsOwn_of_none fun row hrow => ?_, fun _ hresult => by cases hresult⟩
      simp [acceptCompletion] at hrow

/-- **The statements of phase two**: it leaves the record of its completion. -/
theorem phaseTwo_statements {rt : Runtime} {source : SnapshotResult} {newDispatchId : String}
    {now : Instant} {completed : RegistryCompletedUploadSession}
    (h : phaseTwo rt input source newDispatchId now db = .ok (completed, db')) :
    ∃ ss, executeAll ss db = .ok db' ∧ PersistsOwn input ss ∧
      ∃ row, .persistIdempotencyRecord row ∈ ss := by
  cases phaseTwo_cases h with
  | replay hrow hreplay hexec =>
      exact ⟨_, hexec, persistsOwn_replayCompletion hrow hreplay, _, List.mem_cons_self⟩
  | canonical hrow _ _ hevidence hdispatch hcompleted =>
      refine ⟨_, executeAll_append.mpr ⟨_, hevidence, hdispatch⟩, ?_, ?_⟩
      · intro row hmem
        rcases List.mem_append.mp hmem with hmem | hmem
        · simp [phaseTwoEvidence] at hmem
        · simp only [phaseTwoDispatch, List.mem_append, List.mem_cons, List.not_mem_nil, or_false,
            reduceCtorEq, false_or] at hmem
          rcases hmem with hmem | hmem
          · split at hmem <;> simp at hmem
          · exact ⟨_, _, CompletionStatement.persistIdempotencyRecord.inj hmem,
              Db.findUploadSession_id hrow⟩
      · exact ⟨_, List.mem_append_right _ (List.mem_append_right _
          (List.mem_cons_of_mem _ List.mem_cons_self))⟩

end Statements

/-- The transaction of an issuance keeps the records, and adds one of an issuance only. -/
theorem Db.KeepsRecords.issueTransaction {input : RegistryIssueUploadSessionInput} {ids : IssueIds}
    {now : Instant} {db db' : Db} {issued : RegistryIssuedUploadSession}
    (h : issueTransaction input ids now db = .ok (issued, db')) :
    db.KeepsRecords db' ∧ ∀ {key r}, db'.idempotencyRecord? key = some r →
      db.idempotencyRecord? key = some r ∨ input.idempotencyRecordKey = key := by
  obtain ⟨assetId, number, hissued⟩ := issueTransaction_issued h
  have hrecord := hissued.idempotencyRecord?
  refine ⟨⟨fun {key r} _ hr => ?_, fun {key} hr => ?_⟩, fun {key r} hr => ?_⟩
  · rw [hrecord, hr, Option.some_or]
  · obtain ⟨r, hr⟩ := Option.isSome_iff_exists.mp hr
    rw [hrecord, hr, Option.some_or, Option.isSome_some]
  · rw [hrecord, Option.or_eq_some_iff] at hr
    rcases hr with hr | ⟨-, hr⟩
    · exact Or.inl hr
    · split at hr
      · rename_i hkey
        exact Or.inr hkey
      · cases hr

/-- An operation of one transaction keeps the records, and adds those of issuances only. -/
theorem RegistryOperation.records (rt : Runtime) (op : RegistryOperation) (db : Db) :
    db.KeepsRecords (op.run rt db) ∧ ∀ {key r}, (op.run rt db).idempotencyRecord? key = some r →
      db.idempotencyRecord? key = some r ∨ key.2.2.1 = buildCreateOperationKey := by
  rcases op.sameUploads rt db with ⟨input, ids, now, rfl⟩ | hsame
  swap
  · refine ⟨.of_eq hsame.idempotencyRecords, fun {key r} hr => Or.inl ?_⟩
    rwa [Db.idempotencyRecord?, hsame.idempotencyRecords] at hr
  rcases transact_snd (issueTransaction input ids now) db with ⟨issued, htx⟩ | hsame
  swap
  · simp only [run, hsame]
    exact ⟨.refl db, fun hr => Or.inl hr⟩
  · obtain ⟨hkeeps, hnew⟩ := Db.KeepsRecords.issueTransaction htx
    refine ⟨hkeeps, fun hr => ?_⟩
    rcases hnew hr with hold | hkey
    · exact Or.inl hold
    · exact Or.inr (hkey ▸ rfl)

/-! ### The invariant of the records -/

/-- **What the records say** in a registry that began without any: a record is one of an
issuance, or of a completion under its key; and a completion that was answered has left a
record. -/
structure RegistrySystem.Recorded (sys : RegistrySystem) : Prop where
  origin : ∀ {key r}, sys.db.idempotencyRecord? key = some r →
    key.2.2.1 = buildCreateOperationKey ∨
    ∃ c ∈ sys.completions, c.input.idempotencyRecordKey = key ∧
      r.normalizedRequestHash = some c.input.normalizedRequestHash ∧
      ∃ ref, r.responseReference = some ref ∧ ref.uploadSessionId = c.input.uploadSessionId
  answered : ∀ {c completed}, c ∈ sys.completions → c.progress = .finished (.ok completed) →
    (sys.db.idempotencyRecord? c.input.idempotencyRecordKey).isSome = true

namespace RegistrySystem.Recorded

variable {sys : RegistrySystem}

/-- **A completion moves on** over a database that its own statements lead to. -/
theorem advance (hinv : sys.Recorded) {i : Nat} {c : PendingCompletion}
    (hc : sys.completions[i]? = some c) {progress : CompletionProgress} {db' : Db}
    {ss : List CompletionStatement} (hexec : executeAll ss sys.db = .ok db')
    (hown : PersistsOwn c.input ss)
    (hanswered : ∀ completed, progress = .finished (.ok completed) →
      ∃ row, .persistIdempotencyRecord row ∈ ss) :
    (sys.advance i progress db').Recorded where
  origin := by
    intro key r hr
    rcases executeAll_idempotencyRecord? hexec hr with hold | ⟨row, hrow, rfl, href, hhash⟩
    · rcases hinv.origin hold with hcreate | ⟨c', hc', hkey, hrest⟩
      · exact Or.inl hcreate
      · obtain ⟨j, hj⟩ := List.mem_iff_getElem?.mp hc'
        refine Or.inr ⟨if i = j then { c' with progress } else c', ?_, ?_, ?_⟩
        · refine List.mem_iff_getElem?.mpr ⟨j, ?_⟩
          simp only [RegistrySystem.advance, List.getElem?_modify, hj]
          split <;> rfl
        · split <;> exact hkey
        · split <;> exact hrest
    · obtain ⟨hkey, hrowHash, ref, hrowRef, hid⟩ := hown.key hrow
      refine Or.inr ⟨{ c with progress }, ?_, hkey.symm, hhash.trans hrowHash, ref,
        href.trans hrowRef, hid⟩
      refine List.mem_iff_getElem?.mpr ⟨i, ?_⟩
      simp only [RegistrySystem.advance, List.getElem?_modify, hc, if_true]
      rfl
  answered := by
    intro c' completed hc' hfinished
    obtain ⟨hkeeps, hpersisted⟩ := hown.executeAll hexec
    obtain ⟨j, hj⟩ := List.mem_iff_getElem?.mp hc'
    rcases UploadInv.getElem?_advance hj with ⟨rfl, hprogress, c₀, hc₀, hinput⟩ | ⟨-, hj⟩
    · obtain rfl := Option.some.inj (hc.symm.trans hc₀)
      obtain ⟨row, hrow⟩ := hanswered completed (hprogress.symm.trans hfinished)
      rw [hinput, ← (hown.key hrow).1]
      exact hpersisted row hrow
    · exact hkeeps.present (hinv.answered (List.mem_iff_getElem?.mpr ⟨j, hj⟩) hfinished)

/-- A completion moves on over the same database, unanswered. -/
theorem advance_same (hinv : sys.Recorded) {i : Nat} {c : PendingCompletion}
    (hc : sys.completions[i]? = some c) {progress : CompletionProgress}
    (hprogress : ∀ completed, progress ≠ .finished (.ok completed)) :
    (sys.advance i progress sys.db).Recorded :=
  hinv.advance hc (show executeAll [] sys.db = .ok sys.db from rfl) (fun _ h => by cases h)
    fun completed h => absurd h (hprogress completed)

/-- A completion begins. -/
theorem complete (hinv : sys.Recorded) (input : RegistryCompleteUploadSessionInput) :
    (sys.complete input).Recorded := by
  have hbegins : ∀ c : PendingCompletion, c.input = input →
      (∀ completed, c.progress = .finished (.ok completed) →
        (sys.db.idempotencyRecord? input.idempotencyRecordKey).isSome = true) →
      RegistrySystem.Recorded { sys with completions := sys.completions ++ [c] } := by
    intro c hinput hanswered
    refine ⟨fun {key r} hr => ?_, fun {c' completed} hc' hfinished => ?_⟩
    · rcases hinv.origin hr with hcreate | ⟨c', hc', hrest⟩
      · exact Or.inl hcreate
      · exact Or.inr ⟨c', List.mem_append_left _ hc', hrest⟩
    · rcases List.mem_append.mp hc' with hc' | hc'
      · exact hinv.answered hc' hfinished
      · obtain rfl := List.mem_singleton.mp hc'
        rw [hinput]
        exact hanswered completed hfinished
  unfold RegistrySystem.complete
  split
  · rename_i record hrecord
    exact hbegins _ rfl fun _ _ => by rw [hrecord]; rfl
  · exact hbegins _ rfl fun _ hfinished => by cases hfinished

end RegistrySystem.Recorded

/-- **Every step of the registry keeps the invariant of the records.** -/
theorem RegistryStep.recorded {rt : Runtime} {sys sys' : RegistrySystem} {a : RegistryAction}
    (hinv : sys.Recorded) (h : RegistryStep rt sys a sys') : sys'.Recorded := by
  cases a with
  | operation op =>
      obtain rfl := Option.some.inj h
      obtain ⟨hkeeps, hnew⟩ := op.records rt sys.db
      refine ⟨fun {key r} hr => ?_, fun hc hfinished => hkeeps.present (hinv.answered hc hfinished)⟩
      rcases hnew hr with hold | hcreate
      · exact hinv.origin hold
      · exact Or.inl hcreate
  | complete input =>
      obtain rfl := Option.some.inj h
      exact hinv.complete input
  | phaseOne i now =>
      obtain ⟨c, hc, h⟩ := Option.bind_eq_some_iff.mp h
      split at h
      · obtain rfl := Option.some.inj h
        unfold RegistrySystem.phaseOne
        split
        · rename_i result db' hone
          obtain ⟨ss, hexec, hown, hreplay⟩ := phaseOne_statements hone
          refine hinv.advance hc hexec hown fun completed hprogress => ?_
          cases result with
          | replay completed => exact hreplay completed rfl
          | validationFailure e => cases hprogress
          | request r => cases hprogress
        · exact hinv.advance_same hc fun _ hprogress => by cases hprogress
      · cases h
  | canonicalize i result =>
      obtain ⟨c, hc, h⟩ := Option.bind_eq_some_iff.mp h
      split at h
      · obtain rfl := Option.some.inj h
        exact hinv.advance_same hc fun _ hprogress => by cases hprogress
      · obtain rfl := Option.some.inj h
        exact hinv.advance_same hc fun _ hprogress => by cases hprogress
      · cases h
  | phaseTwo i newDispatchId now =>
      obtain ⟨c, hc, h⟩ := Option.bind_eq_some_iff.mp h
      split at h
      · obtain rfl := Option.some.inj h
        unfold RegistrySystem.phaseTwo
        split
        · rename_i htwo
          obtain ⟨ss, hexec, hown, hpersists⟩ := phaseTwo_statements htwo
          exact hinv.advance hc hexec hown fun _ _ => hpersists
        · exact hinv.advance_same hc fun _ hprogress => by cases hprogress
      · cases h
  | recover i =>
      obtain ⟨c, hc, h⟩ := Option.bind_eq_some_iff.mp h
      split at h
      · rename_i request cause hprogress
        obtain rfl := Option.some.inj h
        unfold RegistrySystem.recover
        dsimp only
        unfold recoverFailedCompletion
        split
        · rename_i db' happly
          have hexec : executeAll [.failRetryable request.versionId] sys.db = .ok db' :=
            executeAll_cons.mpr ⟨db', happly, rfl⟩
          exact hinv.advance hc hexec (fun row hrow => by simp at hrow)
            fun _ hprogress => by cases hprogress
        · exact hinv.advance_same hc fun _ hprogress => by cases hprogress
      · cases h
  | stop i =>
      obtain ⟨c, hc, h⟩ := Option.bind_eq_some_iff.mp h
      split at h
      · cases h
      · cases h
      · obtain rfl := Option.some.inj h
        exact hinv.advance_same hc fun _ hprogress => by cases hprogress

theorem RegistrySystem.Fresh.recorded {sys : RegistrySystem} (h : sys.Fresh) : sys.Recorded where
  origin hr := by simp [Db.idempotencyRecord?, Table.find?, h.records] at hr
  answered hc := by simp [h.completions] at hc

/-- No step changes the record of an issuance. -/
theorem RegistryStep.keepsRecords {rt : Runtime} {sys sys' : RegistrySystem} {a : RegistryAction}
    (h : RegistryStep rt sys a sys') : sys.db.KeepsRecords sys'.db := by
  refine h.relates Db.KeepsRecords.refl (fun op db _ => (op.records rt db).1) ?_ ?_ ?_
  · intro input now result db db' hone
    obtain ⟨ss, hexec, hown, -⟩ := phaseOne_statements hone
    exact (hown.executeAll hexec).1
  · intro input source newDispatchId now completed db db' htwo
    obtain ⟨ss, hexec, hown, -⟩ := phaseTwo_statements htwo
    exact (hown.executeAll hexec).1
  · intro input versionId cause db
    unfold recoverFailedCompletion
    split
    · rename_i happly
      have hown : PersistsOwn input [.failRetryable versionId] :=
        persistsOwn_of_none fun row hrow => by simp at hrow
      exact hown.apply happly
    · exact .refl db

theorem Run.keepsRecords {rt : Runtime} {sys sys' : RegistrySystem}
    {tr : List (Transition RegistrySystem RegistryAction)} (h : Run (RegistryStep rt) sys tr sys') :
    sys.db.KeepsRecords sys'.db := by
  refine h.invariant (I := fun s => sys.db.KeepsRecords s.db) ?_ (.refl sys.db)
  intro s a s' hkept hstep
  exact hkept.trans hstep.keepsRecords

/-! ### The rows behind an upload -/

/-- The ids that the responses of an upload name. -/
structure UploadIds where
  assetId : String
  versionId : String
  uploadSessionId : String
  deriving DecidableEq, Repr

def RegistryIssuedUploadSession.uploadIds (issued : RegistryIssuedUploadSession) : UploadIds :=
  ⟨issued.assetId, issued.versionId, issued.uploadSessionId⟩

def RegistryCompletedUploadSession.uploadIds (completed : RegistryCompletedUploadSession) :
    UploadIds :=
  ⟨completed.assetId, completed.versionId, completed.uploadSessionId⟩

def CreateUploadSessionResponse.uploadIds (response : CreateUploadSessionResponse) : UploadIds :=
  ⟨response.assetId, response.versionId, response.uploadSessionId⟩

def CompletionReplayRow.uploadIds (row : CompletionReplayRow) : UploadIds :=
  ⟨row.asset.id, row.version.id, row.uploadSession.id⟩

/-- The session of an upload leads to its version, the version to its asset, and the asset to a
namespace. -/
structure Db.HoldsUpload (db : Db) (ids : UploadIds) : Prop where
  uploadSession : ∃ s, db.uploadSession? ids.uploadSessionId = some s ∧
    s.assetVersionId = ids.versionId
  version : ∃ v, db.version? ids.versionId = some v ∧ v.assetId = ids.assetId
  asset : ∃ a, db.asset? ids.assetId = some a ∧
    (db.serviceNamespace? a.serviceNamespaceId).isSome = true

section HoldsUpload

variable {db db' : Db} {ids : UploadIds} {row : CompletionReplayRow}

theorem Db.HoldsUpload.keeps (h : db.HoldsUpload ids) (hkeeps : db.KeepsIssued db') :
    db'.HoldsUpload ids := by
  obtain ⟨s, hs, hsv⟩ := h.uploadSession
  obtain ⟨v, hv, hva⟩ := h.version
  obtain ⟨a, ha, hns⟩ := h.asset
  obtain ⟨s', hs', hs'v, -⟩ := hkeeps.uploadSession? hs
  obtain ⟨v', hv', hv'a, -⟩ := hkeeps.version? hv
  obtain ⟨a', ha', ha'n, -⟩ := hkeeps.asset? ha
  refine ⟨⟨s', hs', hs'v.trans hsv⟩, ⟨v', hv', hv'a.trans hva⟩, ⟨a', ha', ?_⟩⟩
  rw [ha'n, Db.serviceNamespace?, hkeeps.serviceNamespaces]
  exact hns

theorem Db.ScopedTo.holdsUpload {issued : RegistryIssuedUploadSession} {tenant : Option TenantScope}
    (h : db.ScopedTo issued tenant) : db.HoldsUpload issued.uploadIds := by
  obtain ⟨a, ha, -, hns⟩ := h.asset
  exact ⟨h.uploadSession, h.version, a, ha, hns⟩

/-- A joined session holds its upload. -/
theorem Db.holdsUpload_of_row {uploadSessionId : String}
    (h : db.findUploadSession uploadSessionId = some row) : db.HoldsUpload row.uploadIds := by
  have hv := Db.findUploadSession_version? h
  have hversion := Db.findUploadSession_version_id h
  have hid := Db.findUploadSession_id h
  obtain ⟨hs, -, ha, ⟨ns, hns, -⟩, -⟩ := Db.findUploadSession_eq_some.mp h
  have haid := (Db.asset?_eq_some_iff.mp ha).2
  refine ⟨⟨row.uploadSession, ?_, hversion.symm⟩, ⟨row.version, hv, haid.symm⟩, ⟨row.asset, ?_, ?_⟩⟩
  · show db.uploadSession? row.uploadSession.id = _
    rw [hid]
    exact hs
  · show db.asset? row.asset.id = _
    rw [haid]
    exact ha
  · rw [hns, Option.isSome_some]

/-- The session of an upload is joined with its rows. -/
theorem Db.HoldsUpload.findUploadSession (h : db.HoldsUpload ids) :
    ∃ row, db.findUploadSession ids.uploadSessionId = some row ∧ row.uploadIds = ids := by
  obtain ⟨s, hs, hsv⟩ := h.uploadSession
  obtain ⟨v, hv, hva⟩ := h.version
  obtain ⟨a, ha, hns⟩ := h.asset
  obtain ⟨ns, hns⟩ := Option.isSome_iff_exists.mp hns
  refine ⟨⟨s, v, a, ns.serviceNamespaceId,
    (a.tenantScopeId.bind db.tenantScope?).map (·.externalTenantId), (db.dispatchesOf v.id).head?⟩,
    Db.findUploadSession_eq_some.mpr ⟨hs, hsv ▸ hv, hva ▸ ha, ⟨ns, hns, rfl⟩, rfl, rfl⟩, ?_⟩
  simp only [CompletionReplayRow.uploadIds, (Db.asset?_eq_some_iff.mp ha).2,
    (Db.version?_eq_some_iff.mp hv).2, (Db.uploadSession?_eq_some_iff.mp hs).2]

/-- A session has one row. -/
theorem Db.HoldsUpload.uploadIds_eq (h : db.HoldsUpload ids)
    (hrow : db.findUploadSession ids.uploadSessionId = some row) : row.uploadIds = ids := by
  obtain ⟨row', hrow', hids⟩ := h.findUploadSession
  obtain rfl := Option.some.inj (hrow.symm.trans hrow')
  exact hids

theorem tryBuildCompletionReplay_uploadIds {replay : RegistryCompletedUploadSession}
    (h : tryBuildCompletionReplay row = some replay) : replay.uploadIds = row.uploadIds := by
  obtain ⟨dispatch, source, -, -, rfl⟩ := tryBuildCompletionReplay_eq_some.mp h
  rfl

end HoldsUpload

/-! ### Issued again -/

section Issue

variable {db db' : Db} {input : RegistryIssueUploadSessionInput}
  {issued : RegistryIssuedUploadSession}

/-- The ids of an upload are there. -/
def UploadIds.Named (ids : UploadIds) : Prop :=
  ids.assetId ≠ "" ∧ ids.versionId ≠ "" ∧ ids.uploadSessionId ≠ ""

/-- What an issuance leaves behind: a record of its request that refers to its rows. -/
structure Db.HoldsIssue (db : Db) (input : RegistryIssueUploadSessionInput) (ids : UploadIds) :
    Prop where
  record : ∃ r ref, db.idempotencyRecord? input.idempotencyRecordKey = some r ∧
    r.normalizedRequestHash = some input.normalizedRequestHash ∧ r.responseReference = some ref ∧
    (⟨ref.assetId, ref.versionId, ref.uploadSessionId⟩ : UploadIds) = ids
  named : ids.Named
  rows : db.HoldsUpload ids

theorem Db.HoldsIssue.keeps {ids : UploadIds} (h : db.HoldsIssue input ids)
    (hissued : db.KeepsIssued db') (hrecords : db.KeepsRecords db') : db'.HoldsIssue input ids := by
  obtain ⟨r, ref, hr, hrest⟩ := h.record
  exact ⟨⟨r, ref, hrecords.issued rfl hr, hrest⟩, h.named, h.rows.keeps hissued⟩

/-- The asset of an issuance is a new one, or the one that the request names. -/
theorem issueTransaction_assetId {ids : IssueIds} {now : Instant}
    (h : issueTransaction input ids now db = .ok (issued, db')) :
    issued.assetId = ids.assetId ∨ input.assetId = some issued.assetId := by
  unfold issueTransaction at h
  split at h
  · obtain ⟨⟨asset, db₁⟩, hasset, h⟩ := bind_eq_ok.mp h
    obtain ⟨db₂, -, h⟩ := bind_eq_ok.mp h
    obtain ⟨db₃, -, h⟩ := bind_eq_ok.mp h
    obtain ⟨db₄, -, h⟩ := bind_eq_ok.mp h
    obtain ⟨rfl, rfl⟩ := Prod.mk.inj (Except.ok.inj h)
    unfold issueAsset at hasset
    split at hasset
    · obtain ⟨db₁', -, hret⟩ := bind_eq_ok.mp hasset
      obtain ⟨rfl, rfl⟩ := Prod.mk.inj (Except.ok.inj hret)
      exact Or.inl rfl
    · rename_i assetId hassetId
      obtain ⟨found, hfound, hret⟩ := bind_eq_ok.mp hasset
      obtain ⟨rfl, rfl⟩ := Prod.mk.inj (Except.ok.inj hret)
      unfold loadExistingAsset at hfound
      split at hfound
      · rename_i row hrow
        obtain rfl := Except.ok.inj hfound
        have hsel := Table.sel_of_find? hrow
        simp only [Bool.and_eq_true, beq_iff_eq] at hsel
        exact Or.inr (hassetId.trans (congrArg some hsel.1.1.1.symm))
      · cases hfound
  · cases h

/-- A replay names the ids of a reference, and their rows are there. -/
theorem loadIssuedUploadSessionReplay_holds {reference : Option ReplayableUploadReference}
    (h : loadIssuedUploadSessionReplay db reference = .ok issued) :
    issued.uploadIds.Named ∧ db.HoldsUpload issued.uploadIds ∧ ∃ ref, reference = some ref ∧
      (⟨ref.assetId, ref.versionId, ref.uploadSessionId⟩ : UploadIds) = issued.uploadIds := by
  obtain ⟨ref, rfl, hasset, hsession, hversion⟩ := loadIssuedUploadSessionReplay_reference h
  have hids : (⟨ref.assetId, ref.versionId, ref.uploadSessionId⟩ : UploadIds) =
    issued.uploadIds := by
    rw [hasset, hsession, hversion]
    rfl
  simp only [loadIssuedUploadSessionReplay] at h
  split at h
  · cases h
  · rename_i hnamed
    simp only [Bool.or_eq_true, String.isEmpty_iff, not_or] at hnamed
    obtain ⟨⟨hsessionNe, hversionNe⟩, hassetNe⟩ := hnamed
    split at h
    · rename_i session hfound
      split at h
      · obtain rfl := Except.ok.inj h
        obtain ⟨row, hrow, rfl⟩ := Option.map_eq_some_iff.mp hfound
        refine ⟨?_, Db.holdsUpload_of_row hrow, ref, rfl, hids⟩
        rw [← hids]
        exact ⟨hassetNe, hversionNe, hsessionNe⟩
      · cases h
    · cases h

/-- **An issuance leaves its record and its rows**, a new one or one that is replayed. -/
theorem issueUploadSession_holds {ids : IssueIds} {now : Instant}
    (hids : ids.assetId ≠ "" ∧ ids.versionId ≠ "") (hasset : input.assetId ≠ some "")
    (h : issueUploadSession input ids now db = (.ok issued, db')) :
    db'.HoldsIssue input issued.uploadIds := by
  have houtcome := issueUploadSession_outcome input ids now db
  rw [h] at houtcome
  dsimp only at houtcome
  generalize hresult : (Except.ok issued : Except RegistryError _) = result at houtcome
  cases houtcome with
  | @recorded record hrecord =>
      unfold issueReplay at hresult
      split at hresult
      · cases hresult
      · rename_i hhash
        obtain ⟨hnamed, hrows, ref, href, hrefIds⟩ :=
          loadIssuedUploadSessionReplay_holds hresult.symm
        exact ⟨⟨record, ref, hrecord, not_not.mp hhash, href, hrefIds⟩, hnamed, hrows⟩
  | missing => cases hresult
  | violated => cases hresult
  | issued hrecord hfound htx =>
      obtain rfl := Except.ok.inj hresult
      obtain ⟨hgains, hversion, hsession⟩ := issueTransaction_rows htx
      obtain ⟨ns, -, hscoped⟩ := issueTransaction_scoped htx
      refine ⟨⟨issuedRecord input ids issued.assetId now, _, Db.idempotencyRecord?_eq_some_iff.mpr
        ⟨?_, rfl⟩, rfl, rfl, ?_⟩, ⟨?_, ?_, ?_⟩, hscoped.holdsUpload⟩
      · rw [hgains.idempotencyRecords]
        exact List.mem_append_right _ List.mem_cons_self
      · rw [RegistryIssuedUploadSession.uploadIds, hversion, hsession]
      · show issued.assetId ≠ ""
        rcases issueTransaction_assetId htx with hnew | hnamed
        · rw [hnew]
          exact hids.1
        · intro hempty
          rw [hempty] at hnamed
          exact hasset hnamed
      · show issued.versionId ≠ ""
        rw [hversion]
        exact hids.2
      · show issued.uploadSessionId ≠ ""
        rw [hsession]
        exact ids.uploadSessionId_ne

/-- **The request is replayed** where the record of an issuance is held. -/
theorem Db.HoldsIssue.replays {uploadIds : UploadIds} (h : db.HoldsIssue input uploadIds)
    (ids : IssueIds) (now : Instant) :
    ∃ issued, issued.uploadIds = uploadIds ∧ issued.isDuplicate = true ∧
      issueUploadSession input ids now db = (.ok issued, db) := by
  obtain ⟨r, ref, hr, hhash, href, rfl⟩ := h.record
  obtain ⟨hassetNe, hversionNe, hsessionNe⟩ := h.named
  obtain ⟨row, hrow, hids⟩ := h.rows.findUploadSession
  have hassetId : row.asset.id = ref.assetId := congrArg UploadIds.assetId hids
  have hversionId : row.version.id = ref.versionId := congrArg UploadIds.versionId hids
  have hnamed : ¬ (ref.uploadSessionId.isEmpty || ref.versionId.isEmpty || ref.assetId.isEmpty) =
      true := by
    simp only [Bool.or_eq_true, String.isEmpty_iff, not_or]
    exact ⟨⟨hsessionNe, hversionNe⟩, hassetNe⟩
  have hsession : getUploadSession db ref.uploadSessionId =
      some (buildUploadSessionSummaryFromRow row) := by
    rw [getUploadSession, hrow, Option.map_some]
  simp only [issueUploadSession, hr, issueReplay, hhash, href, loadIssuedUploadSessionReplay,
    if_neg hnamed, hsession, ne_eq, not_true_eq_false, if_false]
  have hsame : (buildUploadSessionSummaryFromRow row).assetId = ref.assetId ∧
      (buildUploadSessionSummaryFromRow row).versionId = ref.versionId := ⟨hassetId, hversionId⟩
  simp only [if_pos hsame]
  refine ⟨_, ?_, ?_, rfl⟩
  · exact hids
  · rfl

end Issue

/-! ### Completed again -/

section Complete

variable {rt : Runtime} {env : CompletionEnvironment} {db db' : Db} {ids : UploadIds}
  {input : RegistryCompleteUploadSessionInput} {completed : RegistryCompletedUploadSession}

/-- A replayed completion is the one of the session that its record refers to. -/
theorem loadCompletionReplay_uploadIds {ref : ReplayableUploadReference}
    (hrows : db.HoldsUpload ids) (href : ref.uploadSessionId = ids.uploadSessionId)
    (h : loadCompletionReplay db (some ref) = .ok completed) : completed.uploadIds = ids := by
  simp only [loadCompletionReplay, href] at h
  split at h
  · cases h
  · split at h
    · cases h
    · rename_i row hrow
      split at h
      · rename_i replay hreplay
        obtain rfl := Except.ok.inj h
        exact (tryBuildCompletionReplay_uploadIds hreplay).trans (hrows.uploadIds_eq hrow)
      · cases h

theorem loadCompletionReplay_ne_conflict {reference : Option ReplayableUploadReference}
    {key : String} :
    loadCompletionReplay db reference ≠ .error (.uploadSessionIdempotencyConflict key) := by
  intro h
  unfold loadCompletionReplay at h
  split at h
  · cases h
  · split at h
    · cases h
    · split at h
      · cases h
      · split at h <;> cases h

/-- **A completion names the rows of its session.** -/
theorem completeUploadSession_uploadIds (hrows : db.HoldsUpload ids)
    (hid : input.uploadSessionId = ids.uploadSessionId)
    (hrecord : ∀ {r}, db.idempotencyRecord? input.idempotencyRecordKey = some r →
      ∃ ref, r.responseReference = some ref ∧ ref.uploadSessionId = input.uploadSessionId)
    (h : (completeUploadSession rt env input db).1 = .ok completed) :
    completed.uploadIds = ids := by
  have houtcome := completeUploadSession_outcome rt env input db
  rw [h] at houtcome
  generalize hresult : (Except.ok completed : Except RegistryError _) = result at houtcome
  generalize (completeUploadSession rt env input db).2 = db₂ at houtcome
  cases houtcome with
  | recorded hr =>
      unfold completionReplay at hresult
      split at hresult
      · cases hresult
      · obtain ⟨ref, href, hsession⟩ := hrecord hr
        rw [href] at hresult
        exact loadCompletionReplay_uploadIds hrows (hsession.trans hid) hresult.symm
  | notFound => cases hresult
  | expired => cases hresult
  | replayed _ hrow _ hreplay _ =>
      obtain rfl := Except.ok.inj hresult
      exact (tryBuildCompletionReplay_uploadIds hreplay).trans (hrows.uploadIds_eq (hid ▸ hrow))
  | closed => cases hresult
  | notAccepting => cases hresult
  | rejected => cases hresult
  | failed => cases hresult
  | completed _ _ _ _ hexec _ _ htwo =>
      obtain rfl := Except.ok.inj hresult
      have hrows₁ := hrows.keeps (Db.KeepsIssued.executeAll hexec)
      cases phaseTwo_cases htwo with
      | replay hrow hreplay _ =>
          exact (tryBuildCompletionReplay_uploadIds hreplay).trans
            (hrows₁.uploadIds_eq (hid ▸ hrow))
      | canonical hrow _ _ _ _ hcompleted =>
          obtain rfl := Except.ok.inj hcompleted
          exact hrows₁.uploadIds_eq (hid ▸ hrow)

/-- A completion whose key has no record of another request is no conflict. -/
theorem completeUploadSession_ne_conflict {key : String}
    (hrecord : ∀ {r}, db.idempotencyRecord? input.idempotencyRecordKey = some r →
      r.normalizedRequestHash = some input.normalizedRequestHash) :
    (completeUploadSession rt env input db).1 ≠ .error (.uploadSessionIdempotencyConflict key) := by
  intro h
  have houtcome := completeUploadSession_outcome rt env input db
  rw [h] at houtcome
  generalize hresult : (Except.error (.uploadSessionIdempotencyConflict key) :
    Except RegistryError RegistryCompletedUploadSession) = result at houtcome
  generalize (completeUploadSession rt env input db).2 = db₂ at houtcome
  cases houtcome with
  | recorded hr =>
      unfold completionReplay at hresult
      rw [if_neg (not_not.mpr (hrecord hr))] at hresult
      exact loadCompletionReplay_ne_conflict hresult.symm
  | _ => cases hresult

end Complete

/-! ### Two calls -/

/-- The context of a request under a key. -/
def RequestContext.withKey (context : RequestContext) (idempotencyKey : String) : RequestContext :=
  { context with idempotencyKey := some idempotencyKey }

/-- The request of a call to create its session **is accepted** at a state: the route answers
it, and leaves the next state. -/
structure CreateAccepted (rt : Runtime) (runtime : DurableRuntime) (context : RequestContext)
    (call : UploadFileCall) (sys sys' : RegistrySystem) (response : CreateUploadSessionResponse) :
    Prop where
  answered : ∃ request, uploadSessionRequestSchema call.create = some request ∧
    createUploadSessionRoute rt (runtime.dependencies rt)
      (context.withKey call.keys.createIdempotencyKey) request sys.db = (.ok response, sys'.db)
  completions : sys'.completions = sys.completions
  /-- The database generates ids that are not empty. -/
  generated : runtime.issueIds.assetId ≠ "" ∧ runtime.issueIds.versionId ≠ ""

/-- How a registry answers the requests of a second call, after the first has created a
session. -/
structure ServedAgain (rt : Runtime) (context : RequestContext) (first second : UploadFileCall)
    (response : CreateUploadSessionResponse) (sys : RegistrySystem) : Prop where
  /-- The request to create a session is answered with the session of the first call. -/
  create :
    ∀ (runtime : DurableRuntime) request, uploadSessionRequestSchema second.create = some request →
    ∃ issued : RegistryIssuedUploadSession, issued.uploadIds = response.uploadIds ∧
      issued.isDuplicate = true ∧
      createUploadSessionRoute rt (runtime.dependencies rt)
          (context.withKey second.keys.createIdempotencyKey) request sys.db =
        (finishIssuance rt (runtime.dependencies rt) (.ok issued), sys.db)
  /-- The request to complete it is no conflict, where the key was used by completions of the
  first call only; what it is answered names the same asset, version and session; and where the
  completion of the first call has been answered, it is answered from the record. -/
  complete : ∀ (runtime : DurableRuntime) request found prepared,
    uploadCompletionRequestSchema second.complete = some request →
    prepareCompletion rt (runtime.dependencies rt)
        (context.withKey second.keys.completeIdempotencyKey) response.uploadSessionId
        request found = .ok prepared →
    (∀ c ∈ sys.completions, c.input.idempotencyRecordKey = prepared.input.idempotencyRecordKey →
      some c.input.normalizedRequestHash = first.completeHash rt) →
    (∀ key, (completeUploadSession rt (runtime.environment prepared.canonicalize) prepared.input
        sys.db).1 ≠ .error (.uploadSessionIdempotencyConflict key)) ∧
      (∀ completed, (completeUploadSession rt (runtime.environment prepared.canonicalize)
        prepared.input sys.db).1 = .ok completed → completed.uploadIds = response.uploadIds) ∧
      (∀ c ∈ sys.completions, ∀ completed,
        c.input.idempotencyRecordKey = prepared.input.idempotencyRecordKey →
        c.progress = .finished (.ok completed) → ∃ ref : ReplayableUploadReference,
          ref.uploadSessionId = response.uploadSessionId ∧
          completeUploadSession rt
            (runtime.environment prepared.canonicalize) prepared.input sys.db =
            (loadCompletionReplay sys.db (some ref), sys.db))

/-- **A retry is replayed**: both calls send requests of one hash about one staged object, and
whatever the registry did since the session was created, it serves the second call like the
first. -/
structure RetryReplays (rt : Runtime) (first second : UploadFileCall) : Prop where
  createHash : second.createHash rt = first.createHash rt
  completeHash : second.completeHash rt = first.completeHash rt
  stagedObject : second.complete.stagedObject = first.complete.stagedObject ∧
    second.create.upload = first.create.upload
  served : ∀ {runtime context sys₀ sys sys' sys'' tr tr' response}, sys₀.Fresh →
    Run (RegistryStep rt) sys₀ tr sys → CreateAccepted rt runtime context first sys sys' response →
    Run (RegistryStep rt) sys' tr' sys'' → ServedAgain rt context first second response sys''

section Retry

variable {rt : Runtime} {runtime : DurableRuntime} {context : RequestContext}
  {call : UploadFileCall} {sys sys' : RegistrySystem} {response : CreateUploadSessionResponse}

/-- A prepared issuance is the one of its context and request, at any time. -/
theorem prepareIssuance_eq_ok {request : UploadSessionRequest}
    {input : RegistryIssueUploadSessionInput}
    (h : prepareIssuance rt (runtime.dependencies rt) context request = .ok input) :
    ∃ callerScopeKey idempotencyKey, ∀ runtime' : DurableRuntime,
      prepareIssuance rt (runtime'.dependencies rt) context request =
        .ok (issueInput rt (runtime'.dependencies rt) request callerScopeKey idempotencyKey) ∧
      input.idempotencyRecordKey = (issueInput rt (runtime'.dependencies rt) request callerScopeKey
        idempotencyKey).idempotencyRecordKey ∧
      input.normalizedRequestHash = normalizeRequestHash rt request ∧
      input.assetId = present request.assetId := by
  obtain ⟨idempotencyKey, hkey, h⟩ := bind_eq_ok.mp h
  obtain ⟨⟨⟩, hscope, h⟩ := bind_eq_ok.mp h
  obtain ⟨callerScopeKey, hcaller, h⟩ := bind_eq_ok.mp h
  obtain rfl := Except.ok.inj h
  refine ⟨callerScopeKey, idempotencyKey, fun runtime' => ⟨?_, rfl, rfl, rfl⟩⟩
  exact bind_eq_ok.mpr ⟨_, hkey, bind_eq_ok.mpr ⟨_, hscope, bind_eq_ok.mpr ⟨_, hcaller, rfl⟩⟩⟩

/-- An accepted request is an issuance, that leaves its record and its rows. -/
theorem CreateAccepted.issues (h : CreateAccepted rt runtime context call sys sys' response) :
    ∃ request input, uploadSessionRequestSchema call.create = some request ∧
      prepareIssuance rt (runtime.dependencies rt) (context.withKey call.keys.createIdempotencyKey)
        request = .ok input ∧
      sys'.db.HoldsIssue input response.uploadIds ∧
      RegistryStep rt sys (.operation (.issueUploadSession input runtime.issueIds runtime.issuedAt))
        sys' := by
  obtain ⟨request, hrequest, hroute⟩ := h.answered
  unfold createUploadSessionRoute at hroute
  split at hroute
  · cases hroute
  · rename_i input hinput
    obtain ⟨_, _, hprepared⟩ := prepareIssuance_eq_ok hinput
    obtain ⟨-, -, -, hassetId⟩ := hprepared runtime
    have hasset : input.assetId ≠ some "" := by
      rw [hassetId]
      exact fun hempty => (present_eq_some_iff.mp hempty).2 rfl
    cases hissue : issueUploadSession input runtime.issueIds runtime.issuedAt sys.db with
    | mk result db' =>
        simp only [DurableRuntime.dependencies, DurableRuntime.uploadSessionStore, hissue,
          Prod.mk.injEq] at hroute
        obtain ⟨hfinish, rfl⟩ := hroute
        refine ⟨request, input, hrequest, hinput, ?_, ?_⟩
        · cases result with
          | error e => cases hfinish
          | ok issued =>
              simp only [Except.mapError, finishIssuance] at hfinish
              split at hfinish
              · cases hfinish
              · obtain rfl := Except.ok.inj hfinish
                exact issueUploadSession_holds h.generated hasset hissue
        · have hdb :
            (transact (issueTransaction input runtime.issueIds runtime.issuedAt) sys.db).2 =
              sys'.db := by
            rw [← issueUploadSession_snd, hissue]
          show some (RegistrySystem.mk _ sys.completions) = some sys'
          rw [RegistryOperation.run, hdb, ← h.completions]

/-- **The same requests, sent again, are served again**, whatever the registry did since. -/
theorem CreateAccepted.served {sys₀ sys'' : RegistrySystem}
    {tr tr' : List (Transition RegistrySystem RegistryAction)} (hfresh : sys₀.Fresh)
    (hrun : Run (RegistryStep rt) sys₀ tr sys)
    (h : CreateAccepted rt runtime context call sys sys' response)
    (hrun' : Run (RegistryStep rt) sys' tr' sys'') :
    ServedAgain rt context call call response sys'' := by
  obtain ⟨request, input, hrequest, hinput, hholds, hstep⟩ := h.issues
  have hholds'' := hholds.keeps (Run.keepsIssued hrun') (Run.keepsRecords hrun')
  have hrecorded : sys''.Recorded := by
    have hbefore : sys.Recorded :=
      hrun.invariant (fun hinv hstep => hstep.recorded hinv) hfresh.recorded
    exact hrun'.invariant (fun hinv hstep => hstep.recorded hinv) (hstep.recorded hbefore)
  refine ⟨fun runtime' request' hrequest' => ?_, ?_⟩
  · obtain rfl := Option.some.inj (hrequest.symm.trans hrequest')
    obtain ⟨callerScopeKey, idempotencyKey, hprepared⟩ := prepareIssuance_eq_ok hinput
    obtain ⟨hprepare, hkey, hhash, -⟩ := hprepared runtime'
    have hsame :
      sys''.db.HoldsIssue (issueInput rt (runtime'.dependencies rt) request callerScopeKey
        idempotencyKey) response.uploadIds := by
      obtain ⟨r, ref, hr, hrhash, href⟩ := hholds''.record
      exact ⟨⟨r, ref, hkey ▸ hr, hrhash.trans (congrArg some hhash), href⟩, hholds''.named,
        hholds''.rows⟩
    obtain ⟨issued, hids, hduplicate, hissue⟩ := hsame.replays runtime'.issueIds runtime'.issuedAt
    refine ⟨issued, hids, hduplicate, ?_⟩
    simp only [createUploadSessionRoute, hprepare]
    simp only [DurableRuntime.dependencies, DurableRuntime.uploadSessionStore] at hissue ⊢
    rw [hissue]
    rfl
  · intro runtime' request' found prepared hrequest' hprepare hown
    obtain ⟨hid, hhash, -⟩ := prepareCompletion_eq_ok hprepare
    have hcallHash : call.completeHash rt = some prepared.input.normalizedRequestHash := by
      rw [UploadFileCall.completeHash, hrequest', Option.map_some, hhash]
    have hrecord : ∀ {r}, sys''.db.idempotencyRecord? prepared.input.idempotencyRecordKey = some r →
        r.normalizedRequestHash = some prepared.input.normalizedRequestHash ∧
          ∃ ref, r.responseReference = some ref ∧
            ref.uploadSessionId = prepared.input.uploadSessionId := by
      intro r hr
      rcases hrecorded.origin hr with hcreate | ⟨c, hc, hkey, hrhash, ref, href, hsession⟩
      · exact absurd hcreate (buildCompletionOperationKey_ne_create _)
      · refine ⟨hrhash.trans ((hown c hc hkey).trans hcallHash), ref, href, hsession.trans ?_⟩
        have hoperation := congrArg (fun key => key.2.2.1) hkey
        exact buildCompletionOperationKey_inj hoperation
    refine ⟨fun key => completeUploadSession_ne_conflict fun hr => (hrecord hr).1,
      fun completed hok => completeUploadSession_uploadIds hholds''.rows hid
        (fun hr => (hrecord hr).2) hok, fun c hc completed hkey hfinished => ?_⟩
    obtain ⟨r, hr⟩ := Option.isSome_iff_exists.mp (hrecorded.answered hc hfinished)
    rw [hkey] at hr
    obtain ⟨hrhash, ref, href, hsession⟩ := hrecord hr
    refine ⟨ref, hsession.trans hid, ?_⟩
    simp only [completeUploadSession, hr, completionReplay, hrhash, href, ne_eq, not_true_eq_false,
      if_false]

/-- Requests of two object keys are a conflict: where the second call generates another key, its
request to create a session is refused, whatever the registry did since. -/
theorem CreateAccepted.conflicts {sys'' : RegistrySystem}
    {tr : List (Transition RegistrySystem RegistryAction)} {request request' : UploadSessionRequest}
    (h : CreateAccepted rt runtime context call sys sys' response)
    (hrun : Run (RegistryStep rt) sys' tr sys'')
    (hrequest : uploadSessionRequestSchema call.create = some request)
    (hother : request' = { request with
      upload := { request.upload with objectKey := request'.upload.objectKey } })
    (hkey : request'.upload.objectKey ≠ request.upload.objectKey)
    (hcollision : rt.sha256Hex (utf8Bytes (requestText rt request')) =
      rt.sha256Hex (utf8Bytes (requestText rt request)) →
        requestText rt request' = requestText rt request) (runtime' : DurableRuntime) :
    ∃ input', prepareIssuance rt (runtime'.dependencies rt)
        (context.withKey call.keys.createIdempotencyKey) request' = .ok input' ∧
      issueUploadSession input' runtime'.issueIds runtime'.issuedAt sys''.db =
        (.error (.uploadSessionIdempotencyConflict input'.idempotencyKey), sys''.db) := by
  obtain ⟨request₀, input, hrequest₀, hinput, hholds, -⟩ := h.issues
  obtain rfl := Option.some.inj (hrequest.symm.trans hrequest₀)
  obtain ⟨r, ref, hr, hrhash, -⟩ :=
    (hholds.keeps (Run.keepsIssued hrun) (Run.keepsRecords hrun)).record
  have hhash : normalizeRequestHash rt request' ≠ normalizeRequestHash rt request := by
    intro heq
    rw [normalizeRequestHash_eq, normalizeRequestHash_eq] at heq
    have htext := hcollision heq
    rw [hother] at htext
    exact hkey (requestText_objectKey htext)
  obtain ⟨idempotencyKey, hidempotency, hinput⟩ := bind_eq_ok.mp hinput
  obtain ⟨⟨⟩, hscope, hinput⟩ := bind_eq_ok.mp hinput
  obtain ⟨callerScopeKey, hcaller, hinput⟩ := bind_eq_ok.mp hinput
  obtain rfl := Except.ok.inj hinput
  have hscope' : requireRequestedScope (context.withKey call.keys.createIdempotencyKey)
      request'.scope = .ok () := by
    rw [hother]
    exact hscope
  refine ⟨issueInput rt (runtime'.dependencies rt) request' callerScopeKey idempotencyKey,
    bind_eq_ok.mpr ⟨_, hidempotency, bind_eq_ok.mpr ⟨_, hscope',
      bind_eq_ok.mpr ⟨_, hcaller, rfl⟩⟩⟩, ?_⟩
  have hr' : sys''.db.idempotencyRecord? (issueInput rt (runtime'.dependencies rt) request'
      callerScopeKey idempotencyKey).idempotencyRecordKey = some r := hr
  have hne : r.normalizedRequestHash ≠ some (issueInput rt (runtime'.dependencies rt) request'
      callerScopeKey idempotencyKey).normalizedRequestHash := by
    rw [hrhash]
    exact fun heq => hhash (Option.some.inj heq).symm
  simp only [issueUploadSession, hr', issueReplay, if_pos hne]

/-- **Retried uploads.** A call of `uploadFile` with a given idempotency key, made again with
the same input, is replayed exactly when the caller gives the object key too, or the two calls
generate the same UUID for it. -/
theorem upload_retry_replays_iff {input : UploadFileInput} {uuids uuids' : GeneratedUuids}
    {first second : UploadFileCall} (hkey : input.idempotencyKey.isSome = true)
    (hfirst : uploadFile rt uuids input = .ok first)
    (hsecond : uploadFile rt uuids' input = .ok second) :
    RetryReplays rt first second ↔
      input.objectKey.isSome = true ∨ uuids.objectUuid = uuids'.objectUuid := by
  obtain ⟨-, -, -, -, hgenerated⟩ := uploadFile_same hkey hfirst hsecond
  constructor
  · intro hreplays
    cases hobject : input.objectKey with
    | some objectKey => exact Or.inl rfl
    | none => exact Or.inr (hgenerated hobject (by rw [hreplays.stagedObject.2]))
  · intro hobject
    have hsame : second = first := Except.ok.inj (hsecond.symm.trans
      ((uploadFile_eq_of_objectKey hkey (hobject.imp_right Eq.symm)).trans hfirst))
    rw [hsame]
    exact ⟨rfl, rfl, ⟨rfl, rfl⟩,
      fun hfresh hrun haccepted hrun' => haccepted.served hfresh hrun hrun'⟩

end Retry

/-! ### A retried upload of a file -/

/-- An upload of five bytes under a key of the caller's own. -/
def sampleUpload (objectKey : Option String) : UploadFileInput where
  assetOwner := "customer:acme"
  file := .blob [104, 101, 108, 108, 111] (some "hero image.png") "image/png"
  idempotencyKey := some "upload-hero-5"
  objectKey
  serviceNamespaceId := "media"

/-- The call of a sample upload, with the UUIDs that it generates. -/
def sampleUploadCall (objectKey : Option String) (uuid : String) : UploadFileCall where
  keys := ⟨"upload-hero-5:complete", "upload-hero-5:create"⟩
  create :=
    { serviceNamespaceId := "media"
      assetOwner := "customer:acme"
      source := ⟨"hero image.png", "image/png"⟩
      upload := ⟨objectKey.getD ("staging/media/global/" ++ uuid ++ "-hero-image.png"), 5,
        ⟨"sha256", Sha256.hex [104, 101, 108, 108, 111]⟩⟩ }
  complete := ⟨⟨objectKey.getD ("staging/media/global/" ++ uuid ++ "-hero-image.png"), 5,
    ⟨"sha256", Sha256.hex [104, 101, 108, 108, 111]⟩⟩⟩

/-- With a given object key, the retry is replayed. -/
theorem given_object_key_replays :
    uploadFile sampleRuntime ⟨"11e5", "77aa"⟩ (sampleUpload (some "staging/hero.png")) =
        .ok (sampleUploadCall (some "staging/hero.png") "11e5") ∧
      uploadFile sampleRuntime ⟨"93c2", "80bd"⟩ (sampleUpload (some "staging/hero.png")) =
        .ok (sampleUploadCall (some "staging/hero.png") "93c2") ∧
      RetryReplays sampleRuntime (sampleUploadCall (some "staging/hero.png") "11e5")
        (sampleUploadCall (some "staging/hero.png") "93c2") := by
  have hfirst : uploadFile sampleRuntime ⟨"11e5", "77aa"⟩ (sampleUpload (some "staging/hero.png")) =
      .ok (sampleUploadCall (some "staging/hero.png") "11e5") := by decide +kernel
  have hsecond :
    uploadFile sampleRuntime ⟨"93c2", "80bd"⟩ (sampleUpload (some "staging/hero.png")) =
      .ok (sampleUploadCall (some "staging/hero.png") "93c2") := by decide +kernel
  exact ⟨hfirst, hsecond, (upload_retry_replays_iff rfl hfirst hsecond).mpr (Or.inl rfl)⟩

/-- The durable runtime at the time of the second call. -/
def laterDurableRuntime : DurableRuntime :=
  { sampleDurableRuntime with issueIds := sampleIds "b", issuedAt := 2000 }

/-- **With a generated object key, the retry is a conflict**: the first call has created its
session, and the second is refused under the key that both share. -/
theorem generated_object_key_conflicts :
    uploadFile sampleRuntime ⟨"11e5", "77aa"⟩ (sampleUpload none) =
        .ok (sampleUploadCall none "11e5") ∧
      uploadFile sampleRuntime ⟨"93c2", "80bd"⟩ (sampleUpload none) =
        .ok (sampleUploadCall none "93c2") ∧
      (∃ sys' response, CreateAccepted sampleRuntime sampleDurableRuntime sampleRequestContext
          (sampleUploadCall none "11e5") sampleRegistrySystem sys' response ∧
        ∃ input, prepareIssuance sampleRuntime (laterDurableRuntime.dependencies sampleRuntime)
            (sampleRequestContext.withKey "upload-hero-5:create")
            (sampleUploadCall none "93c2").create = .ok input ∧
          issueUploadSession input laterDurableRuntime.issueIds laterDurableRuntime.issuedAt
            sys'.db =
            (.error (.uploadSessionIdempotencyConflict input.idempotencyKey), sys'.db)) ∧
      ¬ RetryReplays sampleRuntime (sampleUploadCall none "11e5")
        (sampleUploadCall none "93c2") := by
  refine ⟨by decide +kernel, by decide +kernel, ?_, ?_⟩
  · have hrequest : uploadSessionRequestSchema (sampleUploadCall none "11e5").create =
        some (sampleUploadCall none "11e5").create := by decide +kernel
    obtain ⟨response, hresponse⟩ : ∃ response, (createUploadSessionRoute sampleRuntime
        (sampleDurableRuntime.dependencies sampleRuntime)
        (sampleRequestContext.withKey "upload-hero-5:create") (sampleUploadCall none "11e5").create
        sampleRegistrySystem.db).1 = .ok response := ⟨_, by rfl⟩
    have haccepted : CreateAccepted sampleRuntime sampleDurableRuntime sampleRequestContext
        (sampleUploadCall none "11e5") sampleRegistrySystem
        ⟨(createUploadSessionRoute sampleRuntime (sampleDurableRuntime.dependencies sampleRuntime)
          (sampleRequestContext.withKey "upload-hero-5:create")
          (sampleUploadCall none "11e5").create sampleRegistrySystem.db).2, []⟩ response :=
      ⟨⟨_, hrequest, Prod.ext hresponse rfl⟩, rfl, by decide +kernel, by decide +kernel⟩
    refine ⟨_, response, haccepted,
      haccepted.conflicts (.nil _) hrequest rfl ?_ ?_ laterDurableRuntime⟩
    · decide +kernel
    · intro hcollides
      exact absurd hcollides (by decide +kernel)
  · intro hreplays
    exact absurd hreplays.stagedObject.1 (by decide +kernel)

end Cdngine
