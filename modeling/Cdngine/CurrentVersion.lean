import Cdngine.VersionNumbers
import Cdngine.RegistryRuns

/-!
# The Current Canonical Version

`currentCanonicalVersionId` of an asset is to name the latest version that has been
canonicalized. A version gets its number when it is issued; versions are completed in any
order. Phase two of a completion writes the pointer without a look at the number.

Issuances and completions run one after another, each to its end.

## Main results

* `completeUploadSession_current`: what a completion does to the pointers.
* `StoreStep.currentLaw`: a call keeps the pointers at the highest versions when no version
  is canonicalized after a later one of its asset.
* `current_version_where`: in every run of such calls each pointer is at the highest
  canonicalized version and never goes back.
* `older_version_becomes_current`: a run in which it does.
-/

open Relational Runs

namespace Cdngine

/-! ### The law of the pointers -/

/-- A version of an asset that **has been canonicalized**: its canonical source is
recorded. -/
def Db.CanonicalizedOf (db : Db) (assetId : String) (v : AssetVersion) : Prop :=
  db.version? v.id = some v ∧ v.assetId = assetId ∧ v.canonicalSourceId.isSome = true

/-- **The pointer of each asset names its highest canonicalized version**: it names one
that is, and none is higher. -/
structure Db.CurrentIsHighest (db : Db) : Prop where
  canonicalized : ∀ {id a versionId}, db.asset? id = some a →
    a.currentCanonicalVersionId = some versionId → ∃ v, db.CanonicalizedOf id v ∧ v.id = versionId
  highest : ∀ {id a w}, db.asset? id = some a → db.CanonicalizedOf id w →
    ∃ v, db.CanonicalizedOf id v ∧ a.currentCanonicalVersionId = some v.id ∧
      w.versionNumber ≤ v.versionNumber

/-- **A pointer never goes back**: where it named a version before, it names one that is no
smaller after. -/
def Db.NeverLower (db db' : Db) : Prop :=
  ∀ id a v, db.asset? id = some a → a.currentCanonicalVersionId = some v.id →
    db.version? v.id = some v →
    ∃ a' v', db'.asset? id = some a' ∧ a'.currentCanonicalVersionId = some v'.id ∧
      db'.version? v'.id = some v' ∧ v.versionNumber ≤ v'.versionNumber

/-- The law of the pointers, where the asset of every version exists. -/
structure Db.CurrentLaw (db : Db) : Prop where
  current : db.CurrentIsHighest
  asset : ∀ {id v}, db.version? id = some v → (db.asset? v.assetId).isSome = true

/-! ### The calls -/

/-- A call on the store. -/
inductive StoreCall
  | issue (input : RegistryIssueUploadSessionInput) (ids : IssueIds) (now : Instant)
  | complete (env : CompletionEnvironment) (input : RegistryCompleteUploadSessionInput)

/-- The registry after a call. -/
def StoreCall.run (rt : Runtime) (db : Db) : StoreCall → Db
  | issue input ids now => (issueUploadSession input ids now db).2
  | complete env input => (completeUploadSession rt env input db).2

/-- The step relation of the calls, each of which runs to its end. -/
def StoreStep (rt : Runtime) (db : Db) (call : StoreCall) (db' : Db) : Prop :=
  call.run rt db = db'

/-- A completion **canonicalizes** the version of its session: it is accepted, its staged
object is snapshotted, and no other version has the canonical source. -/
structure Db.Canonicalizes (db : Db) (input : RegistryCompleteUploadSessionInput)
    (env : CompletionEnvironment) (row : CompletionReplayRow) (source : SnapshotResult) : Prop where
  found : db.findUploadSession input.uploadSessionId = some row
  unrecorded : db.idempotencyRecord? input.idempotencyRecordKey = none
  unexpired : ¬ env.phaseOneAt > row.uploadSession.expiresAt
  uncompleted : tryBuildCompletionReplay row = none
  isOpen : row.uploadSession.isOpen
  accepts : acceptsCompletion row.version.lifecycleState = true
  evidence : stagedEvidenceProblem input row = none
  snapshot : env.canonicalize (canonicalizationRequest input row) = .ok source
  unshared : ∀ {id w}, db.version? id = some w → id ≠ row.version.id →
    w.canonicalSourceId ≠ some source.canonicalSourceId

/-- A call **comes in order**: it canonicalizes no version below one of the same asset that
has been canonicalized. -/
def StoreCall.InOrder (db : Db) : StoreCall → Prop
  | issue _ _ _ => True
  | complete env input => ∀ row source, db.Canonicalizes input env row source →
      ∀ w, db.CanonicalizedOf row.asset.id w → w.versionNumber ≤ row.version.versionNumber

/-! ### What a completion does to the pointers -/

/-- The columns of a version that the law reads. -/
def AssetVersion.core (v : AssetVersion) : String × Nat × Option String :=
  (v.assetId, v.versionNumber, v.canonicalSourceId)

/-- What a statement does to the asset row with a given id. -/
def CompletionStatement.onAsset (id : String) (a : Asset) : CompletionStatement → Asset
  | .setCurrentCanonicalVersion assetId versionId =>
      if id = assetId then { a with currentCanonicalVersionId := some versionId } else a
  | _ => a

/-- The asset rows after a statement. -/
theorem CompletionStatement.asset?_apply {s : CompletionStatement} {db db' : Db}
    (h : s.apply db = .ok db') (id : String) :
    db'.asset? id = (db.asset? id).map fun a => s.onAsset id a := by
  cases s with
  | setCurrentCanonicalVersion assetId versionId =>
      obtain ⟨t, ht, rfl⟩ := write_eq_ok.mp h
      exact Table.find?_update_key ht (fun _ => rfl) id
  | _ =>
      obtain ⟨t, -, rfl⟩ := write_eq_ok.mp h
      exact Option.map_id'.symm

/-- The asset rows after a list of statements. -/
theorem executeAll_asset? {ss : List CompletionStatement} {db db' : Db}
    (h : executeAll ss db = .ok db') (id : String) :
    db'.asset? id = (db.asset? id).map fun a => ss.foldl (fun a s => s.onAsset id a) a := by
  induction ss generalizing db with
  | nil =>
      obtain rfl := Except.ok.inj h
      exact Option.map_id'.symm
  | cons s ss ih =>
      obtain ⟨db₁, hs, hss⟩ := executeAll_cons.mp h
      rw [ih hss, s.asset?_apply hs, Option.map_map]
      rfl

/-- The pointers and what the law reads of the versions are the same. -/
structure Db.SameCurrent (db db' : Db) : Prop where
  asset : ∀ id, db'.asset? id = db.asset? id
  version : ∀ id, (db'.version? id).map (·.core) = (db.version? id).map (·.core)

/-- A completion has recorded a canonical source for a version, and set the pointer of its
asset. -/
structure Db.SetsCurrent (db db' : Db) (versionId assetId : String) (source : String) : Prop where
  asset : ∀ id, db'.asset? id = (db.asset? id).map fun a =>
    if id = assetId then { a with currentCanonicalVersionId := some versionId } else a
  version : ∀ id, (db'.version? id).map (·.core) = (db.version? id).map fun v =>
    if id = versionId then (v.assetId, v.versionNumber, some source) else v.core

namespace Db

variable {db db₁ db' : Db}

theorem SameCurrent.refl (db : Db) : db.SameCurrent db := ⟨fun _ => rfl, fun _ => rfl⟩

theorem SameCurrent.trans (h : db.SameCurrent db₁) (h' : db₁.SameCurrent db') :
    db.SameCurrent db' :=
  ⟨fun id => (h'.asset id).trans (h.asset id), fun id => (h'.version id).trans (h.version id)⟩

theorem SameCurrent.symm (h : db.SameCurrent db') : db'.SameCurrent db :=
  ⟨fun id => (h.asset id).symm, fun id => (h.version id).symm⟩

/-- A version in a registry with the same versions. -/
theorem SameCurrent.version? (h : db.SameCurrent db') {id : String} {v : AssetVersion}
    (hv : db.version? id = some v) : ∃ v', db'.version? id = some v' ∧ v'.core = v.core := by
  have hmap := h.version id
  rw [hv, Option.map_some] at hmap
  exact Option.map_eq_some_iff.mp hmap

theorem SameCurrent.canonicalizedOf (h : db.SameCurrent db') {assetId : String} {v : AssetVersion}
    (hv : db.CanonicalizedOf assetId v) :
    ∃ v', db'.CanonicalizedOf assetId v' ∧ v'.id = v.id ∧ v'.versionNumber = v.versionNumber := by
  obtain ⟨hstored, hasset, hsource⟩ := hv
  obtain ⟨v', hv', hcore⟩ := h.version? hstored
  have hid := (Db.version?_eq_some_iff.mp hv').2
  simp only [AssetVersion.core, Prod.mk.injEq] at hcore
  obtain ⟨hasset', hnumber, hsource'⟩ := hcore
  exact ⟨v', ⟨by rw [hid, hv'], hasset'.trans hasset, by rw [hsource', hsource]⟩, hid, hnumber⟩

theorem SameCurrent.setsCurrent (h : db.SameCurrent db₁) {versionId assetId source : String}
    (h' : db₁.SetsCurrent db' versionId assetId source) :
    db.SetsCurrent db' versionId assetId source where
  asset id := by rw [h'.asset, h.asset]
  version id := by
    rw [h'.version]
    cases hv : db.version? id with
    | none =>
        have hnone := h.version id
        rw [hv, Option.map_none, Option.map_eq_none_iff] at hnone
        rw [hnone]
    | some v =>
        obtain ⟨v₁, hv₁, hcore⟩ := h.version? hv
        rw [hv₁, Option.map_some, Option.map_some, hcore]
        simp only [AssetVersion.core, Prod.mk.injEq] at hcore
        rw [hcore.1, hcore.2.1]

/-- Statements that do not canonicalize leave the pointers and the versions. -/
theorem SameCurrent.of_executeAll {ss : List CompletionStatement}
    (h : executeAll ss db = .ok db')
    (hasset : ∀ (id : String) (a : Asset), ss.foldl (fun a s => s.onAsset id a) a = a)
    (hversion : ∀ (id : String) (v : AssetVersion),
      (ss.foldl (fun v s => s.onVersion id v) v).core = v.core) :
    db.SameCurrent db' where
  asset id := by
    rw [executeAll_asset? h]
    simp only [hasset, Option.map_id']
  version id := by
    rw [executeAll_version? h, Option.map_map]
    congr 1
    exact funext fun v => hversion id v

end Db

section Completion

variable {rt : Runtime} {input : RegistryCompleteUploadSessionInput} {now : Instant}
  {row : CompletionReplayRow} {db db' : Db}

/-- Recording an idempotency record leaves the pointers. -/
theorem replayCompletion_sameCurrent {α : Type} {replay : RegistryCompletedUploadSession}
    {result : RegistryCompletedUploadSession → α}
    (h : executeAll (replayCompletion input now replay result).statements db = .ok db') :
    db.SameCurrent db' :=
  .of_executeAll h (fun _ _ => rfl) fun _ _ => rfl

/-- Accepting a completion leaves the pointers. -/
theorem acceptCompletion_sameCurrent
    (h : executeAll (acceptCompletion input now row).statements db = .ok db') :
    db.SameCurrent db' := by
  refine .of_executeAll h (fun _ _ => rfl) fun id v => ?_
  simp only [acceptCompletion, List.foldl_cons, List.foldl_nil, CompletionStatement.onVersion]
  split <;> rfl

/-- Rejecting staged evidence leaves the pointers. -/
theorem recordValidationFailure_sameCurrent {sessionId versionId problemType detail : String}
    (h : executeAll (recordValidationFailure sessionId versionId problemType detail).statements db =
      .ok db') : db.SameCurrent db' := by
  refine .of_executeAll h (fun _ _ => rfl) fun id v => ?_
  simp only [recordValidationFailure, List.foldl_cons, List.foldl_nil,
    CompletionStatement.onVersion]
  split <;> rfl

/-- The `catch` of a completion leaves the pointers. -/
theorem recoverFailedCompletion_sameCurrent (input : RegistryCompleteUploadSessionInput)
    (versionId : String) (cause : RegistryError) (db : Db) :
    db.SameCurrent (recoverFailedCompletion input versionId cause db).2 := by
  cases h : (CompletionStatement.failRetryable versionId).apply db with
  | error e =>
      simp only [recoverFailedCompletion, h]
      exact .refl db
  | ok db' =>
      simp only [recoverFailedCompletion, h]
      have hexec : executeAll [.failRetryable versionId] db = .ok db' :=
        executeAll_cons.mpr ⟨db', h, rfl⟩
      refine .of_executeAll hexec (fun _ _ => rfl) fun id v => ?_
      simp only [List.foldl_cons, List.foldl_nil, CompletionStatement.onVersion]
      split <;> rfl

/-- The end of phase two leaves the pointers. -/
theorem phaseTwoDispatch_sameCurrent {source : SnapshotResult} {newDispatchId : String}
    {existing : Option WorkflowDispatch}
    (h : executeAll (phaseTwoDispatch input source newDispatchId now row existing).statements db =
      .ok db') : db.SameCurrent db' := by
  cases existing with
  | none => exact .of_executeAll h (fun _ _ => rfl) fun _ _ => rfl
  | some dispatch => exact .of_executeAll h (fun _ _ => rfl) fun _ _ => rfl

/-- **Recording the evidence** of a version sets the pointer of its asset. -/
theorem phaseTwoEvidence_setsCurrent {source : SnapshotResult}
    (h : executeAll (phaseTwoEvidence rt source row) db = .ok db') :
    db.SetsCurrent db' row.version.id row.asset.id source.canonicalSourceId where
  asset id := executeAll_asset? h id
  version id := by
    rw [executeAll_version? h, Option.map_map]
    congr 1
    funext v
    simp only [Function.comp_apply, phaseTwoEvidence, List.foldl_cons, List.foldl_nil,
      CompletionStatement.onVersion]
    split <;> rfl

theorem Db.SetsCurrent.sameCurrent {db₁ : Db} {versionId assetId source : String}
    (h : db.SetsCurrent db₁ versionId assetId source) (h' : db₁.SameCurrent db') :
    db.SetsCurrent db' versionId assetId source :=
  ⟨fun id => (h'.asset id).trans (h.asset id), fun id => (h'.version id).trans (h.version id)⟩

/-- What phase two does to the pointers, on a session that phase one accepted. -/
theorem phaseTwo_current {source : SnapshotResult} {newDispatchId : String}
    {completed : RegistryCompletedUploadSession}
    (hrow : db.findUploadSession input.uploadSessionId = some row)
    (hreplay : tryBuildCompletionReplay row = none)
    (h : phaseTwo rt input source newDispatchId now db = .ok (completed, db')) :
    db.SetsCurrent db' row.version.id row.asset.id source.canonicalSourceId ∧
      ∀ {id w}, db.version? id = some w → id ≠ row.version.id →
        w.canonicalSourceId ≠ some source.canonicalSourceId := by
  cases phaseTwo_cases h with
  | replay hrow' hreplay' hexec =>
      obtain rfl := Option.some.inj (hrow.symm.trans hrow')
      rw [hreplay] at hreplay'
      cases hreplay'
  | canonical hrow' _ _ hevidence hdispatch _ =>
      obtain rfl := Option.some.inj (hrow.symm.trans hrow')
      refine ⟨(phaseTwoEvidence_setsCurrent hevidence).sameCurrent
        (phaseTwoDispatch_sameCurrent hdispatch), fun {id w} hw hne => ?_⟩
      obtain ⟨db₂, hrecord, -⟩ := executeAll_cons.mp hevidence
      have hfree := (recordEvidence_ok_iff (Db.findUploadSession_version? hrow)).mp ⟨db₂, hrecord⟩
      obtain ⟨hmem, hid⟩ := Db.version?_eq_some_iff.mp hw
      exact hfree w hmem (hid ▸ hne) rfl

/-- **What a completion does to the pointers**: nothing, or it canonicalizes the version of
its session and points the asset to it. -/
theorem completeUploadSession_current (rt : Runtime) (env : CompletionEnvironment)
    (input : RegistryCompleteUploadSessionInput) (db : Db) :
    db.SameCurrent (completeUploadSession rt env input db).2 ∨
      ∃ row source, db.Canonicalizes input env row source ∧
        db.SetsCurrent (completeUploadSession rt env input db).2 row.version.id row.asset.id
          source.canonicalSourceId := by
  cases hrecord : db.idempotencyRecord? input.idempotencyRecordKey with
  | some record =>
      simp only [completeUploadSession, hrecord]
      exact Or.inl (.refl db)
  | none =>
      cases hphase : phaseOne input env.phaseOneAt db with
      | error e =>
          simp only [completeUploadSession, hrecord, hphase]
          exact Or.inl (.refl db)
      | ok r =>
          obtain ⟨result, db₁⟩ := r
          cases phaseOne_cases hphase with
          | replay hrow hexpiry hreplay hexec =>
              simp only [completeUploadSession, hrecord, hphase]
              exact Or.inl (replayCompletion_sameCurrent hexec)
          | validationFailure hrow hexpiry hreplay hopen haccepts hproblem hexec =>
              simp only [completeUploadSession, hrecord, hphase]
              exact Or.inl (recordValidationFailure_sameCurrent hexec)
          | @request row _ hrow hexpiry hreplay hopen haccepts hproblem hexec =>
              simp only [completeUploadSession, hrecord, hphase, canonicalizeAndRecord]
              have hsame := acceptCompletion_sameCurrent hexec
              cases hcanonicalize : env.canonicalize (canonicalizationRequest input row) with
              | error e => exact Or.inl (hsame.trans (recoverFailedCompletion_sameCurrent _ _ _ _))
              | ok source =>
                  simp only
                  cases htwo : phaseTwo rt input source env.newDispatchId env.phaseTwoAt db₁ with
                  | error e =>
                      exact Or.inl (hsame.trans (recoverFailedCompletion_sameCurrent _ _ _ _))
                  | ok r =>
                      obtain ⟨completed, db₂⟩ := r
                      obtain ⟨hsets, hfree⟩ := phaseTwo_current
                        (findUploadSession_accepted hrow hexec)
                        (tryBuildCompletionReplay_accepted _ _ hreplay) htwo
                      refine Or.inr ⟨row, source, ⟨hrow, hrecord, hexpiry, hreplay, hopen, haccepts,
                        hproblem, hcanonicalize, fun {id w} hw hne hsource => ?_⟩,
                        hsame.setsCurrent hsets⟩
                      obtain ⟨w', hw', hcore⟩ := hsame.version? hw
                      simp only [AssetVersion.core, Prod.mk.injEq] at hcore
                      exact hfree hw' hne (hcore.2.2.trans hsource)

end Completion

/-! ### The law under a call -/

/-- **What has been canonicalized stays so**, under the same number, and assets stay. -/
structure Db.KeepsCanonicalized (db db' : Db) : Prop where
  version : ∀ {assetId v}, db.CanonicalizedOf assetId v →
    ∃ v', db'.CanonicalizedOf assetId v' ∧ v'.id = v.id ∧ v'.versionNumber = v.versionNumber
  asset : ∀ {id}, (db.asset? id).isSome = true → (db'.asset? id).isSome = true

namespace Db

variable {db db₁ db' : Db}

theorem KeepsCanonicalized.refl (db : Db) : db.KeepsCanonicalized db :=
  ⟨fun {_ v} hv => ⟨v, hv, rfl, rfl⟩, id⟩

theorem KeepsCanonicalized.trans (h : db.KeepsCanonicalized db₁) (h' : db₁.KeepsCanonicalized db') :
    db.KeepsCanonicalized db' where
  version := fun {assetId v} hv => by
    obtain ⟨v₁, hv₁, hid₁, hnumber₁⟩ := h.version hv
    obtain ⟨v', hv', hid', hnumber'⟩ := h'.version hv₁
    exact ⟨v', hv', hid'.trans hid₁, hnumber'.trans hnumber₁⟩
  asset := fun {_} hasset => h'.asset (h.asset hasset)

theorem SameCurrent.keepsCanonicalized (h : db.SameCurrent db') : db.KeepsCanonicalized db' :=
  ⟨h.canonicalizedOf, fun {id} hasset => by rw [h.asset id]; exact hasset⟩

/-- Where the pointers are at the highest versions before and after, they have not gone
back. -/
theorem KeepsCanonicalized.neverLower (h : db.KeepsCanonicalized db') (hlaw : db.CurrentLaw)
    (hlaw' : db'.CurrentLaw) : db.NeverLower db' := by
  intro id a v ha hcurrent hv
  obtain ⟨w, hw, hid⟩ := hlaw.current.canonicalized ha hcurrent
  have hsame : w = v := Option.some.inj ((hid ▸ hw.1).symm.trans hv)
  subst hsame
  obtain ⟨w', hw', -, hnumber⟩ := h.version hw
  obtain ⟨a', ha'⟩ := Option.isSome_iff_exists.mp (h.asset (Option.isSome_of_eq_some ha))
  obtain ⟨v', hv', hcurrent', hle⟩ := hlaw'.current.highest ha' hw'
  exact ⟨a', v', ha', hcurrent', hv'.1, hnumber ▸ hle⟩

theorem CurrentLaw.sameCurrent (hlaw : db.CurrentLaw) (h : db.SameCurrent db') :
    db'.CurrentLaw where
  current :=
    { canonicalized := fun {id a versionId} ha hcurrent => by
        rw [h.asset] at ha
        obtain ⟨v, hv, hid⟩ := hlaw.current.canonicalized ha hcurrent
        obtain ⟨v', hv', hid', -⟩ := h.canonicalizedOf hv
        exact ⟨v', hv', hid'.trans hid⟩
      highest := fun {id a w} ha hw => by
        rw [h.asset] at ha
        obtain ⟨w₀, hw₀, -, hnumber⟩ := h.symm.canonicalizedOf hw
        obtain ⟨v, hv, hcurrent, hle⟩ := hlaw.current.highest ha hw₀
        obtain ⟨v', hv', hid', hnumber'⟩ := h.canonicalizedOf hv
        refine ⟨v', hv', by rw [hid', hcurrent], ?_⟩
        rw [← hnumber, hnumber']
        exact hle }
  asset := fun {id v} hv => by
    obtain ⟨v₀, hv₀, hcore⟩ := h.symm.version? hv
    simp only [AssetVersion.core, Prod.mk.injEq] at hcore
    rw [h.asset, ← hcore.1]
    exact hlaw.asset hv₀

section SetsCurrent

variable {input : RegistryCompleteUploadSessionInput} {env : CompletionEnvironment}
  {row : CompletionReplayRow} {source : SnapshotResult}

/-- The asset of a joined session is the one of its version. -/
theorem findUploadSession_asset? {id : String} (h : db.findUploadSession id = some row) :
    db.asset? row.asset.id = some row.asset ∧ row.version.assetId = row.asset.id := by
  obtain ⟨-, -, hasset, -⟩ := findUploadSession_eq_some.mp h
  have hid := (asset?_eq_some_iff.mp hasset).2
  exact ⟨by rw [hid]; exact hasset, hid.symm⟩

/-- The versions after one has been canonicalized. -/
theorem SetsCurrent.version? {versionId assetId s : String}
    (h : db.SetsCurrent db' versionId assetId s) {id : String} {v' : AssetVersion}
    (hv' : db'.version? id = some v') :
    ∃ v, db.version? id = some v ∧ v'.assetId = v.assetId ∧ v'.versionNumber = v.versionNumber ∧
      (id ≠ versionId → v'.canonicalSourceId = v.canonicalSourceId) := by
  have hmap := h.version id
  rw [hv', Option.map_some] at hmap
  obtain ⟨v, hv, hcore⟩ := Option.map_eq_some_iff.mp hmap.symm
  refine ⟨v, hv, ?_⟩
  by_cases hid : id = versionId
  · rw [if_pos hid] at hcore
    simp only [AssetVersion.core, Prod.mk.injEq] at hcore
    exact ⟨hcore.1.symm, hcore.2.1.symm, fun hne => absurd hid hne⟩
  · rw [if_neg hid] at hcore
    simp only [AssetVersion.core, Prod.mk.injEq] at hcore
    exact ⟨hcore.1.symm, hcore.2.1.symm, fun _ => hcore.2.2.symm⟩

/-- A canonicalized version stays one when a version is canonicalized. -/
theorem SetsCurrent.canonicalizedOf {versionId assetId s : String}
    (h : db.SetsCurrent db' versionId assetId s) {id : String} {v : AssetVersion}
    (hv : db.CanonicalizedOf id v) :
    ∃ v', db'.CanonicalizedOf id v' ∧ v'.id = v.id ∧ v'.versionNumber = v.versionNumber := by
  obtain ⟨hstored, hasset, hsource⟩ := hv
  have hmap := h.version v.id
  rw [hstored, Option.map_some] at hmap
  obtain ⟨v', hv', hcore⟩ := Option.map_eq_some_iff.mp hmap
  have hid := (version?_eq_some_iff.mp hv').2
  refine ⟨v', ⟨by rw [hid, hv'], ?_⟩, hid, ?_⟩
  · by_cases heq : v.id = versionId
    · rw [if_pos heq] at hcore
      simp only [AssetVersion.core, Prod.mk.injEq] at hcore
      exact ⟨hcore.1.trans hasset, by rw [hcore.2.2]; rfl⟩
    · rw [if_neg heq] at hcore
      simp only [AssetVersion.core, Prod.mk.injEq] at hcore
      exact ⟨hcore.1.trans hasset, by rw [hcore.2.2]; exact hsource⟩
  · by_cases heq : v.id = versionId
    · rw [if_pos heq] at hcore
      exact (Prod.mk.inj (Prod.mk.inj hcore).2).1
    · rw [if_neg heq] at hcore
      exact (Prod.mk.inj (Prod.mk.inj hcore).2).1

theorem SetsCurrent.keepsCanonicalized {versionId assetId s : String}
    (h : db.SetsCurrent db' versionId assetId s) : db.KeepsCanonicalized db' :=
  ⟨h.canonicalizedOf, fun {id} hasset => by rw [h.asset id, Option.isSome_map]; exact hasset⟩

/-- **A completion in order keeps the law**: the version it canonicalizes is the highest. -/
theorem CurrentLaw.setsCurrent (hlaw : db.CurrentLaw) (hrow : db.Canonicalizes input env row source)
    (horder : ∀ w, db.CanonicalizedOf row.asset.id w → w.versionNumber ≤ row.version.versionNumber)
    (h : db.SetsCurrent db' row.version.id row.asset.id source.canonicalSourceId) :
    db'.CurrentLaw := by
  obtain ⟨hasset, hof⟩ := findUploadSession_asset? hrow.found
  have hversion := findUploadSession_version? hrow.found
  -- the version that the completion canonicalized
  obtain ⟨v, hv, hcore⟩ : ∃ v, db'.version? row.version.id = some v ∧
      v.core = (row.version.assetId, row.version.versionNumber, some source.canonicalSourceId) := by
    have hmap := h.version row.version.id
    rw [hversion, Option.map_some, if_pos rfl] at hmap
    exact Option.map_eq_some_iff.mp hmap
  have hid := (version?_eq_some_iff.mp hv).2
  simp only [AssetVersion.core, Prod.mk.injEq] at hcore
  obtain ⟨hvasset, hvnumber, hvsource⟩ := hcore
  have hnew : db'.CanonicalizedOf row.asset.id v :=
    ⟨by rw [hid, hv], hvasset.trans hof, by rw [hvsource]; rfl⟩
  -- the other canonicalized versions are those of before
  have hold : ∀ {id w}, db'.CanonicalizedOf id w → w.id ≠ row.version.id →
      ∃ w₀, db.CanonicalizedOf id w₀ ∧ w.versionNumber = w₀.versionNumber := by
    intro id w hw hne
    obtain ⟨hstored, hwasset, hwsource⟩ := hw
    obtain ⟨w₀, hw₀, hasset₀, hnumber₀, hsource₀⟩ := h.version? hstored
    have hid₀ := (version?_eq_some_iff.mp hw₀).2
    exact ⟨w₀, ⟨by rw [hid₀, hw₀], hasset₀ ▸ hwasset, hsource₀ hne ▸ hwsource⟩, hnumber₀⟩
  have hsame : ∀ {id w}, db'.CanonicalizedOf id w → w.id = row.version.id →
      w = v ∧ id = row.asset.id := by
    intro id w hw heq
    have hw' : w = v := Option.some.inj ((heq ▸ hw.1).symm.trans hv)
    subst hw'
    exact ⟨rfl, hw.2.1.symm.trans (hvasset.trans hof)⟩
  refine ⟨⟨fun {id a versionId} ha hcurrent => ?_, fun {id a w} ha hw => ?_⟩, fun {id w} hw => ?_⟩
  · rw [h.asset] at ha
    obtain ⟨a₀, ha₀, rfl⟩ := Option.map_eq_some_iff.mp ha
    by_cases hidasset : id = row.asset.id
    · subst hidasset
      rw [if_pos rfl] at hcurrent
      exact ⟨v, hnew, hid.trans (Option.some.inj hcurrent)⟩
    · rw [if_neg hidasset] at hcurrent
      obtain ⟨w, hw, hwid⟩ := hlaw.current.canonicalized ha₀ hcurrent
      obtain ⟨w', hw', hid', -⟩ := h.canonicalizedOf hw
      exact ⟨w', hw', hid'.trans hwid⟩
  · rw [h.asset] at ha
    obtain ⟨a₀, ha₀, rfl⟩ := Option.map_eq_some_iff.mp ha
    by_cases hidasset : id = row.asset.id
    · subst hidasset
      refine ⟨v, hnew, by rw [if_pos rfl, hid], ?_⟩
      rw [hvnumber]
      by_cases heq : w.id = row.version.id
      · obtain ⟨rfl, -⟩ := hsame hw heq
        exact le_of_eq hvnumber
      · obtain ⟨w₀, hw₀, hnumber⟩ := hold hw heq
        rw [hnumber]
        exact horder w₀ hw₀
    · have hne : w.id ≠ row.version.id := fun heq => hidasset (hsame hw heq).2
      obtain ⟨w₀, hw₀, hnumber⟩ := hold hw hne
      obtain ⟨u, hu, hcurrent, hle⟩ := hlaw.current.highest ha₀ hw₀
      obtain ⟨u', hu', hid', hnumber'⟩ := h.canonicalizedOf hu
      refine ⟨u', hu', by rw [if_neg hidasset, hid', hcurrent], ?_⟩
      rw [hnumber, hnumber']
      exact hle
  · obtain ⟨w₀, hw₀, hasset₀, -⟩ := h.version? hw
    rw [h.asset, Option.isSome_map, hasset₀]
    exact hlaw.asset hw₀

end SetsCurrent

section Gains

variable {input : RegistryIssueUploadSessionInput} {ids : IssueIds} {now : Instant}
  {assetId : String}

/-- An asset after an issuance is one of before, or has no canonical version. -/
theorem Gains.asset? (h : db.Gains input ids now assetId db') {id : String} {a : Asset}
    (ha : db'.asset? id = some a) :
    db.asset? id = some a ∨ a.currentCanonicalVersionId = none := by
  obtain ⟨hmem, hid⟩ := asset?_eq_some_iff.mp ha
  rcases h.assets with hrows | ⟨a₀, hrows, -, -, hnone⟩
  · rw [hrows] at hmem
    exact Or.inl (asset?_eq_some_iff.mpr ⟨hmem, hid⟩)
  · rw [hrows] at hmem
    rcases List.mem_append.mp hmem with hold | hnew
    · exact Or.inl (asset?_eq_some_iff.mpr ⟨hold, hid⟩)
    · obtain rfl := List.mem_singleton.mp hnew
      exact Or.inr hnone

theorem Gains.asset?_keeps (h : db.Gains input ids now assetId db') {id : String} {a : Asset}
    (ha : db.asset? id = some a) : db'.asset? id = some a := by
  obtain ⟨hmem, hid⟩ := asset?_eq_some_iff.mp ha
  refine asset?_eq_some_iff.mpr ⟨?_, hid⟩
  rcases h.assets with hrows | ⟨a₀, hrows, -⟩
  · rw [hrows]
    exact hmem
  · rw [hrows]
    exact List.mem_append_left _ hmem

/-- A version after an issuance is one of before or the issued one. -/
theorem Gains.version? (h : db.Gains input ids now assetId db') {id : String} {v : AssetVersion}
    (hv : db'.version? id = some v) :
    db.version? id = some v ∨
      v = issuedVersion input ids assetId (db.latestVersionNumber assetId + 1) := by
  obtain ⟨hmem, hid⟩ := version?_eq_some_iff.mp hv
  rw [h.assetVersions] at hmem
  rcases List.mem_append.mp hmem with hold | hnew
  · exact Or.inl (version?_eq_some_iff.mpr ⟨hold, hid⟩)
  · exact Or.inr (List.mem_singleton.mp hnew)

theorem Gains.version?_keeps (h : db.Gains input ids now assetId db') {id : String}
    {v : AssetVersion} (hv : db.version? id = some v) : db'.version? id = some v := by
  obtain ⟨hmem, hid⟩ := version?_eq_some_iff.mp hv
  exact version?_eq_some_iff.mpr ⟨h.assetVersions ▸ List.mem_append_left _ hmem, hid⟩

theorem Gains.canonicalizedOf_iff (h : db.Gains input ids now assetId db') {id : String}
    {v : AssetVersion} : db'.CanonicalizedOf id v ↔ db.CanonicalizedOf id v := by
  constructor
  · rintro ⟨hstored, hasset, hsource⟩
    rcases h.version? hstored with hold | rfl
    · exact ⟨hold, hasset, hsource⟩
    · cases hsource
  · rintro ⟨hstored, hasset, hsource⟩
    exact ⟨h.version?_keeps hstored, hasset, hsource⟩

theorem Gains.keepsCanonicalized (h : db.Gains input ids now assetId db') :
    db.KeepsCanonicalized db' where
  version := fun {_ v} hv => ⟨v, h.canonicalizedOf_iff.mpr hv, rfl, rfl⟩
  asset := fun {_} hasset => by
    obtain ⟨a, ha⟩ := Option.isSome_iff_exists.mp hasset
    rw [h.asset?_keeps ha]
    rfl

/-- **An issuance keeps the law**: its version is not canonicalized. -/
theorem CurrentLaw.gains (hlaw : db.CurrentLaw) (h : db.Gains input ids now assetId db') :
    db'.CurrentLaw where
  current :=
    { canonicalized := fun {id a versionId} ha hcurrent => by
        rcases h.asset? ha with hold | hnone
        · obtain ⟨v, hv, hid⟩ := hlaw.current.canonicalized hold hcurrent
          exact ⟨v, h.canonicalizedOf_iff.mpr hv, hid⟩
        · rw [hnone] at hcurrent
          cases hcurrent
      highest := fun {id a w} ha hw => by
        have hw₀ := h.canonicalizedOf_iff.mp hw
        obtain ⟨a₀, ha₀⟩ := Option.isSome_iff_exists.mp (hlaw.asset hw₀.1)
        rw [hw₀.2.1] at ha₀
        obtain rfl := Option.some.inj (ha.symm.trans (h.asset?_keeps ha₀))
        obtain ⟨v, hv, hcurrent, hle⟩ := hlaw.current.highest ha₀ hw₀
        exact ⟨v, h.canonicalizedOf_iff.mpr hv, hcurrent, hle⟩ }
  asset := fun {id v} hv => by
    rcases h.version? hv with hold | rfl
    · exact h.keepsCanonicalized.asset (hlaw.asset hold)
    · obtain ⟨a, ha, hid⟩ := h.asset
      exact Option.isSome_of_eq_some (asset?_eq_some_iff.mpr ⟨ha, hid⟩)

end Gains

end Db

section Run

variable {rt : Runtime} {db db' : Db} {call : StoreCall}

/-- A call keeps what has been canonicalized. -/
theorem StoreStep.keepsCanonicalized (h : StoreStep rt db call db') :
    db.KeepsCanonicalized db' := by
  cases call with
  | issue input ids now =>
      obtain rfl := h
      rcases issueUploadSession_db input ids now db with heq | ⟨issued, hissue⟩
      · simp only [StoreCall.run, heq]
        exact .refl db
      · exact (issueTransaction_rows hissue).1.keepsCanonicalized
  | complete env input =>
      obtain rfl := h
      rcases completeUploadSession_current rt env input db with hsame | ⟨row, source, -, hsets⟩
      · exact hsame.keepsCanonicalized
      · exact hsets.keepsCanonicalized

/-- **A call that comes in order keeps the law of the pointers.** -/
theorem StoreStep.currentLaw (hlaw : db.CurrentLaw) (h : StoreStep rt db call db')
    (horder : call.InOrder db) : db'.CurrentLaw := by
  cases call with
  | issue input ids now =>
      obtain rfl := h
      rcases issueUploadSession_db input ids now db with heq | ⟨issued, hissue⟩
      · simp only [StoreCall.run, heq]
        exact hlaw
      · exact hlaw.gains (issueTransaction_rows hissue).1
  | complete env input =>
      obtain rfl := h
      rcases completeUploadSession_current rt env input db with hsame | ⟨row, source, hrow, hsets⟩
      · exact hlaw.sameCurrent hsame
      · exact hlaw.setsCurrent hrow (horder row source hrow) hsets

/-- The law along a run of calls that come in order. -/
theorem StoreStep.run_currentLaw {tr : List (Transition Db StoreCall)} (hlaw : db.CurrentLaw)
    (hrun : Run (StoreStep rt) db tr db') (horder : ∀ τ ∈ tr, τ.action.InOrder τ.before) :
    db'.CurrentLaw := by
  have hstep : ∀ {s : Db} {a : StoreCall} {s' : Db}, s.CurrentLaw → StoreStep rt s a s' →
      a.InOrder s → s'.CurrentLaw := fun hs ha ho => ha.currentLaw hs ho
  exact hrun.invariant_where (C := fun τ => τ.action.InOrder τ.before) hstep hlaw horder

theorem StoreStep.run_keepsCanonicalized {tr : List (Transition Db StoreCall)}
    (hrun : Run (StoreStep rt) db tr db') : db.KeepsCanonicalized db' := by
  induction hrun with
  | nil s => exact .refl s
  | cons hstep _ ih => exact (StoreStep.keepsCanonicalized hstep).trans ih

end Run

/-- **The current version of an asset** is the highest that has been canonicalized and never
goes back, in every run of issuances and completions in which no version is canonicalized
after a later one of its asset. -/
theorem current_version_where {rt : Runtime} {db mid db' : Db}
    {tr tr' : List (Transition Db StoreCall)} (hlaw : db.CurrentLaw)
    (hrun : Run (StoreStep rt) db tr mid) (hlater : Run (StoreStep rt) mid tr' db')
    (horder : ∀ τ ∈ tr ++ tr', τ.action.InOrder τ.before) :
    mid.CurrentIsHighest ∧ db'.CurrentIsHighest ∧ mid.NeverLower db' := by
  obtain ⟨horder₁, horder₂⟩ := List.forall_mem_append.mp horder
  have hmid := StoreStep.run_currentLaw hlaw hrun horder₁
  have hend := StoreStep.run_currentLaw hmid hlater horder₂
  have hkeeps := StoreStep.run_keepsCanonicalized hlater
  exact ⟨hmid.current, hend.current, hkeeps.neverLower hmid hend⟩

/-! ### Two versions of one asset -/

/-- The sample registry has no assets and no versions. -/
theorem sampleRegistry_currentLaw : sampleRegistry.CurrentLaw :=
  ⟨⟨fun {_ _ _} ha => (by cases ha), fun {_ _ _} ha => (by cases ha)⟩,
    fun {_ _} hv => (by cases hv)⟩

/-- Two versions of one asset are issued. -/
def twoIssues : List StoreCall :=
  [.issue (sampleIssue "a") (sampleIds "a") 10, .issue secondIssue (sampleIds "b") 12]

/-- A completion of a sample session. -/
def completeCall (key : String) : StoreCall :=
  .complete (sampleEnvironment ("source-" ++ key) ("dispatch-" ++ key)) (sampleCompletion key key)

/-- The sample registry after calls. -/
def afterCalls (calls : List StoreCall) : Db :=
  calls.foldl (StoreCall.run sampleRuntime) sampleRegistry

/-- A completion of a session whose version has no lower number than any that has a
canonical source comes in order. -/
theorem completeCall_inOrder {db : Db} {key : String}
    (h : (db.findUploadSession (sampleCompletion key key).uploadSessionId).all (fun row =>
      db.assetVersions.rows.all fun w => w.canonicalSourceId.isNone ||
        decide (w.versionNumber ≤ row.version.versionNumber)) = true) :
    (completeCall key).InOrder db := by
  intro row source hrow w hw
  rw [hrow.found, Option.all_some, List.all_eq_true] at h
  have hle := h w (Db.version?_eq_some_iff.mp hw.1).1
  obtain ⟨s, hs⟩ := Option.isSome_iff_exists.mp hw.2.2
  rw [hs] at hle
  simpa using hle

/-- Two versions, completed in the order of their numbers. -/
theorem versions_completed_in_order :
    (afterCalls (twoIssues ++ [completeCall "a"])).CurrentIsHighest ∧
      (afterCalls (twoIssues ++ [completeCall "a", completeCall "b"])).CurrentIsHighest ∧
      (afterCalls (twoIssues ++ [completeCall "a"])).NeverLower
        (afterCalls (twoIssues ++ [completeCall "a", completeCall "b"])) := by
  refine current_version_where sampleRegistry_currentLaw
    (trace_run (StoreCall.run sampleRuntime) sampleRegistry (twoIssues ++ [completeCall "a"]))
    (trace_run (StoreCall.run sampleRuntime) _ [completeCall "b"]) ?_
  intro τ hτ
  simp only [twoIssues, List.cons_append, List.nil_append, trace, List.mem_cons,
    List.not_mem_nil, or_false] at hτ
  rcases hτ with rfl | rfl | rfl | rfl
  · trivial
  · trivial
  · exact completeCall_inOrder (by decide +kernel)
  · exact completeCall_inOrder (by decide +kernel)

/-- The version of an asset that the pointer names. -/
def Db.currentVersion? (db : Db) (assetId : String) : Option AssetVersion := do
  let asset ← db.asset? assetId
  asset.currentCanonicalVersionId.bind db.version?

theorem Db.currentVersion?_eq_some {db : Db} {assetId : String} {v : AssetVersion}
    (h : db.currentVersion? assetId = some v) :
    ∃ a, db.asset? assetId = some a ∧ a.currentCanonicalVersionId = some v.id ∧
      db.version? v.id = some v := by
  obtain ⟨a, ha, hbind⟩ := Option.bind_eq_some_iff.mp h
  obtain ⟨id, hid, hv⟩ := Option.bind_eq_some_iff.mp hbind
  obtain rfl := (Db.version?_eq_some_iff.mp hv).2
  exact ⟨a, ha, hid, hv⟩

/-- **An older version becomes current.** The second version of the asset is completed
first: the pointer names it, and names the first version once that is completed too. -/
theorem older_version_becomes_current :
    ∃ db mid db' tr tr', db.CurrentLaw ∧ Run (StoreStep sampleRuntime) db tr mid ∧
      Run (StoreStep sampleRuntime) mid tr' db' ∧ ¬ db'.CurrentIsHighest ∧
      ¬ mid.NeverLower db' := by
  have hmid : ((afterCalls (twoIssues ++ [completeCall "b"])).currentVersion? "asset-a").any
      (fun v => v.versionNumber == 2) = true := by decide +kernel
  have hend : ((afterCalls (twoIssues ++ [completeCall "b", completeCall "a"])).currentVersion?
      "asset-a").any (fun v => v.versionNumber == 1) = true := by decide +kernel
  have hhigher : ((afterCalls (twoIssues ++ [completeCall "b", completeCall "a"])).version?
      "version-b").any (fun v => v.assetId == "asset-a" && v.versionNumber == 2 &&
        v.canonicalSourceId.isSome) = true := by decide +kernel
  obtain ⟨v, hv, hnumber⟩ := (Option.any_eq_true _ _).mp hmid
  obtain ⟨a, ha, hcurrent, hstored⟩ := Db.currentVersion?_eq_some hv
  obtain ⟨v', hv', hnumber'⟩ := (Option.any_eq_true _ _).mp hend
  obtain ⟨a', ha', hcurrent', hstored'⟩ := Db.currentVersion?_eq_some hv'
  obtain ⟨w, hw, hwfacts⟩ := (Option.any_eq_true _ _).mp hhigher
  simp only [Bool.and_eq_true, beq_iff_eq] at hwfacts hnumber hnumber'
  obtain ⟨⟨hwasset, hwnumber⟩, hwsource⟩ := hwfacts
  refine ⟨sampleRegistry, _, _, _, _, sampleRegistry_currentLaw,
    trace_run (StoreCall.run sampleRuntime) sampleRegistry (twoIssues ++ [completeCall "b"]),
    trace_run (StoreCall.run sampleRuntime) _ [completeCall "a"], fun hhighest => ?_,
    fun hnever => ?_⟩
  · have hwof := (Db.version?_eq_some_iff.mp hw).2
    obtain ⟨u, hu, hnamed, hle⟩ := hhighest.highest ha' ⟨hwof ▸ hw, hwasset, hwsource⟩
    have hid : v'.id = u.id := Option.some.inj (hcurrent'.symm.trans hnamed)
    have hsame : v' = u := Option.some.inj (hstored'.symm.trans (hid ▸ hu.1))
    subst hsame
    omega
  · obtain ⟨b, u, hb, hnamed, hu, hle⟩ := hnever "asset-a" a v ha hcurrent hstored
    obtain rfl := Option.some.inj (ha'.symm.trans hb)
    have hid : v'.id = u.id := Option.some.inj (hcurrent'.symm.trans hnamed)
    have hsame : v' = u := Option.some.inj (hstored'.symm.trans (hid ▸ hu))
    subst hsame
    omega

end Cdngine
