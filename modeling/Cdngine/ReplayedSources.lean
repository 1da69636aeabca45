import Cdngine.JsonColumns
import Cdngine.DuplicateCompletion

/-!
# Replayed Sources

The canonical source of a completion, as its first answer has it and as a replay has it. The
first answer is the value that the canonicalization returned; a replay is rebuilt from the
evidence columns of the version, of which the structured ones are JSON.

## Main results

* `SnapshotResult.stored_eq_iff`: a source is rebuilt from its columns as it was exactly when
  its structured members are kept by a JSON column.
* `CanonicalSource.keptByColumns_iff`: of the sources that an adapter returns, those without
  dedupe metrics that are a `bigint` or a number that is not finite.
* `RegistryStep.answers`: an answer of the registry is a replay, or the session has none.
* `replayed_source_iff`: after the first answer to a completion, every later answer has the
  source of the first exactly when the source is kept.
-/

open Relational Runs

namespace Cdngine

/-! ### Sources in evidence columns -/

/-- A value that a JSON column **keeps**. -/
def JsValue.Kept (v : JsValue) : Prop := v.IsJson ∧ v.NullFree

/-- The structured members of a source are kept by a JSON column. -/
structure SnapshotResult.Kept (source : SnapshotResult) : Prop where
  digests : (JsValue.array source.digests).Kept
  dedupeMetrics : ∀ m, source.dedupeMetrics = some m → (JsValue.object m).Kept
  reconstructionHandles : ∀ h, source.reconstructionHandles = some h → (JsValue.array h).Kept
  substrateHints : ∀ h, source.substrateHints = some h → (JsValue.object h).Kept

/-- A source with its structured members written to a JSON column and read back. -/
def SnapshotResult.stored (rt : Runtime) (source : SnapshotResult) : SnapshotResult :=
  { source with
    digests := Json.itemsToJs (toJsonItems rt source.digests)
    dedupeMetrics := source.dedupeMetrics.map fun m => Json.entriesToJs (toJsonEntries rt m)
    reconstructionHandles :=
      source.reconstructionHandles.map fun h => Json.itemsToJs (toJsonItems rt h)
    substrateHints := source.substrateHints.map fun h => Json.entriesToJs (toJsonEntries rt h) }

theorem array_kept_iff (rt : Runtime) (items : List JsValue) :
    Json.itemsToJs (toJsonItems rt items) = items ↔ (JsValue.array items).Kept := by
  rw [JsValue.Kept, ← toJs_toJsonValue_iff rt, toJsonValue, Json.toJs, JsValue.array.injEq]

theorem object_kept_iff (rt : Runtime) (entries : List (String × JsValue)) :
    Json.entriesToJs (toJsonEntries rt entries) = entries ↔ (JsValue.object entries).Kept := by
  rw [JsValue.Kept, ← toJs_toJsonValue_iff rt, toJsonValue, Json.toJs, JsValue.object.injEq]

theorem map_eq_option_iff {α : Type} {f : α → α} {o : Option α} :
    o.map f = o ↔ ∀ a, o = some a → f a = a := by
  cases o <;> simp

/-- A source is rebuilt as it was exactly when its structured members are kept. -/
theorem SnapshotResult.stored_eq_iff (rt : Runtime) (source : SnapshotResult) :
    source.stored rt = source ↔ source.Kept := by
  have hmembers : source.stored rt = source ↔
      Json.itemsToJs (toJsonItems rt source.digests) = source.digests ∧
        (source.dedupeMetrics.map fun m => Json.entriesToJs (toJsonEntries rt m)) =
          source.dedupeMetrics ∧
        (source.reconstructionHandles.map fun h => Json.itemsToJs (toJsonItems rt h)) =
          source.reconstructionHandles ∧
        (source.substrateHints.map fun h => Json.entriesToJs (toJsonEntries rt h)) =
          source.substrateHints := by
    cases source
    simp [stored]
  rw [hmembers, array_kept_iff, map_eq_option_iff, map_eq_option_iff, map_eq_option_iff]
  simp only [array_kept_iff, object_kept_iff]
  exact ⟨fun ⟨hd, hm, hr, hs⟩ => ⟨hd, hm, hr, hs⟩, fun ⟨hd, hm, hr, hs⟩ => ⟨hd, hm, hr, hs⟩⟩

/-- The source that is rebuilt from the evidence that was recorded for one. -/
theorem canonicalSnapshotFromRow_canonicalEvidence {rt : Runtime} {v : AssetVersion}
    {source rebuilt : SnapshotResult} (hevidence : v.evidence = canonicalEvidence rt source)
    (h : (canonicalSnapshotFromRow v).toOption = some rebuilt) : rebuilt = source.stored rt := by
  have hpresent : ∀ {s t : String}, present (some s) = some t → t = s := fun ht =>
    (Option.some.inj (Option.filter_eq_some_iff.mp ht).1).symm
  simp only [AssetVersion.evidence, canonicalEvidence, CanonicalEvidence.mk.injEq] at hevidence
  obtain ⟨hengine, hsource, hsnapshot, hpath, hdigests, hlogical, hstored, hmetrics, hhandles,
    hhints⟩ :=
    hevidence
  unfold canonicalSnapshotFromRow at h
  split at h
  · rename_i engine sourceId snapshotId path hengine' hsource' hsnapshot' hpath'
    obtain rfl := Option.some.inj h
    obtain rfl := hpresent (hengine ▸ hengine')
    obtain rfl := hpresent (hsource ▸ hsource')
    obtain rfl := hpresent (hsnapshot ▸ hsnapshot')
    obtain rfl := hpresent (hpath ▸ hpath')
    rw [hdigests, hlogical, hstored, hmetrics, hhandles, hhints]
    unfold SnapshotResult.stored
    congr 1
    · exact (itemsToJs_eq_map _).symm
    · cases source.dedupeMetrics with
      | none => rfl
      | some m => exact congrArg some (entriesToJs_eq_map _).symm
    · cases source.reconstructionHandles with
      | none => rfl
      | some h => exact congrArg some (itemsToJs_eq_map _).symm
    · cases source.substrateHints with
      | none => rfl
      | some h => exact congrArg some (entriesToJs_eq_map _).symm
  · cases h

/-! ### Sources of the adapters -/

inductive SourceRepositoryEngine
  | kopia
  | xet
  | objectStore
  | restic
  | borg
  | casync
  | custom
  deriving DecidableEq, Repr

def SourceRepositoryEngine.text : SourceRepositoryEngine → String
  | .kopia => "kopia"
  | .xet => "xet"
  | .objectStore => "object-store"
  | .restic => "restic"
  | .borg => "borg"
  | .casync => "casync"
  | .custom => "custom"

inductive SourceReconstructionHandleKind
  | snapshot
  | manifest
  | chunkIndex
  | merkleRoot
  | opaqueHandle
  deriving DecidableEq, Repr

def SourceReconstructionHandleKind.text : SourceReconstructionHandleKind → String
  | .snapshot => "snapshot"
  | .manifest => "manifest"
  | .chunkIndex => "chunk-index"
  | .merkleRoot => "merkle-root"
  | .opaqueHandle => "opaque"

structure SourceReconstructionHandle where
  kind : SourceReconstructionHandleKind
  value : String
  deriving DecidableEq, Repr

structure SourceDedupeMetrics where
  chunkCount : Option JsNumber := none
  dedupeRatio : Option JsNumber := none
  reusedChunkCount : Option JsNumber := none
  savingsRatio : Option JsNumber := none
  storedByteLength : Option Int := none
  deriving DecidableEq, Repr

/-- A `SnapshotResult` with the types that its adapter gives it. -/
structure CanonicalSource where
  repositoryEngine : SourceRepositoryEngine
  canonicalSourceId : String
  snapshotId : String
  logicalPath : String
  digests : List ObjectChecksum := []
  logicalByteLength : Option Int := none
  storedByteLength : Option Int := none
  dedupeMetrics : Option SourceDedupeMetrics := none
  reconstructionHandles : Option (List SourceReconstructionHandle) := none
  substrateHints : Option (List (String × String)) := none
  deriving DecidableEq, Repr

def ObjectChecksum.toJs (checksum : ObjectChecksum) : JsValue :=
  .object [("algorithm", .string checksum.algorithm), ("value", .string checksum.value)]

def SourceReconstructionHandle.toJs (handle : SourceReconstructionHandle) : JsValue :=
  .object [("kind", .string handle.kind.text), ("value", .string handle.value)]

/-- A property that is left out where it is absent. -/
def optionalEntry (key : String) (value : Option JsValue) : List (String × JsValue) :=
  (value.map fun v => (key, v)).toList

def SourceDedupeMetrics.entries (m : SourceDedupeMetrics) : List (String × JsValue) :=
  optionalEntry "chunkCount" (m.chunkCount.map .number) ++
    optionalEntry "dedupeRatio" (m.dedupeRatio.map .number) ++
    optionalEntry "reusedChunkCount" (m.reusedChunkCount.map .number) ++
    optionalEntry "savingsRatio" (m.savingsRatio.map .number) ++
    optionalEntry "storedByteLength" (m.storedByteLength.map .bigint)

/-- A source as the store takes it. -/
def CanonicalSource.toSnapshotResult (source : CanonicalSource) : SnapshotResult where
  repositoryEngine := source.repositoryEngine.text
  canonicalSourceId := source.canonicalSourceId
  snapshotId := source.snapshotId
  logicalPath := source.logicalPath
  digests := source.digests.map ObjectChecksum.toJs
  logicalByteLength := source.logicalByteLength
  storedByteLength := source.storedByteLength
  dedupeMetrics := source.dedupeMetrics.map SourceDedupeMetrics.entries
  reconstructionHandles := source.reconstructionHandles.map (·.map SourceReconstructionHandle.toJs)
  substrateHints := source.substrateHints.map (·.map fun h => (h.1, .string h.2))

/-- A number that is absent or finite. -/
def JsNumber.finiteOrAbsent : Option JsNumber → Bool
  | none | some (.finite _) => true
  | some _ => false

/-- Dedupe metrics **that JSON has**: without the stored length, which is a `bigint`, and with
finite numbers only. -/
structure SourceDedupeMetrics.Plain (m : SourceDedupeMetrics) : Prop where
  storedByteLength : m.storedByteLength = none
  chunkCount : JsNumber.finiteOrAbsent m.chunkCount = true
  dedupeRatio : JsNumber.finiteOrAbsent m.dedupeRatio = true
  reusedChunkCount : JsNumber.finiteOrAbsent m.reusedChunkCount = true
  savingsRatio : JsNumber.finiteOrAbsent m.savingsRatio = true

/-- The source has no dedupe metrics, or plain ones. -/
def CanonicalSource.KeptByColumns (source : CanonicalSource) : Prop :=
  ∀ m, source.dedupeMetrics = some m → m.Plain

theorem array_kept_of_forall {items : List JsValue} (h : ∀ v ∈ items, v.Kept) :
    (JsValue.array items).Kept := by
  unfold JsValue.Kept JsValue.IsJson JsValue.NullFree at h ⊢
  simp only [JsValue.contains, JsValue.itemsContain_eq_any, List.any_eq_false, Bool.not_eq_true]
  exact ⟨fun v hv => (h v hv).1, fun v hv => (h v hv).2⟩

theorem entries_kept_iff {entries : List (String × JsValue)} :
    (JsValue.object entries).Kept ↔ ∀ e ∈ entries, e.2.Kept := by
  unfold JsValue.Kept JsValue.IsJson JsValue.NullFree
  simp only [JsValue.contains, JsValue.entriesContain_eq_any, List.any_eq_false, Bool.not_eq_true]
  exact forall₂_and.symm

theorem string_kept (s : String) : (JsValue.string s).Kept := ⟨rfl, rfl⟩

theorem optionalEntry_kept_iff {key : String} {value : Option JsValue} :
    (∀ e ∈ optionalEntry key value, e.2.Kept) ↔ ∀ v, value = some v → v.Kept := by
  cases value <;> simp [optionalEntry]

theorem number_kept_iff {n : Option JsNumber} :
    (∀ v, n.map JsValue.number = some v → v.Kept) ↔ JsNumber.finiteOrAbsent n = true := by
  cases n with
  | none => simp [JsNumber.finiteOrAbsent]
  | some n =>
      cases n <;> simp [JsNumber.finiteOrAbsent, JsValue.Kept, JsValue.IsJson, JsValue.NullFree,
        JsValue.contains, JsValue.isForeign, JsValue.isNull]

theorem bigint_kept_iff {n : Option Int} :
    (∀ v, n.map JsValue.bigint = some v → v.Kept) ↔ n = none := by
  cases n <;> simp [JsValue.Kept, JsValue.IsJson, JsValue.contains, JsValue.isForeign]

theorem SourceDedupeMetrics.kept_iff (m : SourceDedupeMetrics) :
    (JsValue.object m.entries).Kept ↔ m.Plain := by
  rw [entries_kept_iff]
  simp only [SourceDedupeMetrics.entries, List.forall_mem_append, optionalEntry_kept_iff,
    number_kept_iff, bigint_kept_iff]
  exact ⟨fun ⟨⟨⟨⟨hchunks, hdedupe⟩, hreused⟩, hsavings⟩, hstored⟩ =>
      ⟨hstored, hchunks, hdedupe, hreused, hsavings⟩,
    fun h => ⟨⟨⟨⟨h.chunkCount, h.dedupeRatio⟩, h.reusedChunkCount⟩, h.savingsRatio⟩,
      h.storedByteLength⟩⟩

/-- **The sources that evidence columns keep**, of those that an adapter returns. -/
theorem CanonicalSource.keptByColumns_iff (source : CanonicalSource) :
    source.toSnapshotResult.Kept ↔ source.KeptByColumns := by
  constructor
  · intro h m hm
    refine m.kept_iff.mp (h.dedupeMetrics _ ?_)
    simp only [toSnapshotResult, hm, Option.map_some]
  · intro h
    refine ⟨array_kept_of_forall ?_, ?_, ?_, ?_⟩
    · rintro v hv
      obtain ⟨d, -, rfl⟩ := List.mem_map.mp hv
      exact ⟨rfl, rfl⟩
    · intro entries hentries
      obtain ⟨m, hm, rfl⟩ := Option.map_eq_some_iff.mp hentries
      exact m.kept_iff.mpr (h m hm)
    · intro handles hhandles
      obtain ⟨hs, -, rfl⟩ := Option.map_eq_some_iff.mp hhandles
      refine array_kept_of_forall fun v hv => ?_
      obtain ⟨handle, -, rfl⟩ := List.mem_map.mp hv
      exact ⟨rfl, rfl⟩
    · intro entries hentries
      obtain ⟨hs, -, rfl⟩ := Option.map_eq_some_iff.mp hentries
      refine entries_kept_iff.mpr fun e he => ?_
      obtain ⟨hint, -, rfl⟩ := List.mem_map.mp he
      exact string_kept _

/-! ### Answers of the registry -/

/-- The completed session that a completion was answered with. -/
def RegistrySystem.answer? (sys : RegistrySystem) (i : Nat) :
    Option RegistryCompletedUploadSession :=
  (sys.completions[i]?).bind fun c =>
    match c.progress with
    | .finished (.ok completed) => some completed
    | _ => none

/-- An answer that a database **gives**: the replay of its session, or an answer of a session
that has none. -/
def Db.Gives (db : Db) (answer : RegistryCompletedUploadSession) : Prop :=
  ∃ row, db.findUploadSession answer.uploadSessionId = some row ∧
    ∀ replay, tryBuildCompletionReplay row = some replay →
      answer = { replay with isDuplicate := true }

theorem gives_replay {db : Db} {id : String} {row : CompletionReplayRow}
    {replay : RegistryCompletedUploadSession} (hrow : db.findUploadSession id = some row)
    (hreplay : tryBuildCompletionReplay row = some replay) :
    db.Gives { replay with isDuplicate := true } := by
  obtain ⟨dispatch, source, -, -, rfl⟩ := tryBuildCompletionReplay_eq_some.mp hreplay
  refine ⟨row, ?_, fun replay' hreplay' => ?_⟩
  · change db.findUploadSession row.uploadSession.id = some row
    rw [Db.findUploadSession_id hrow]
    exact hrow
  · obtain rfl := Option.some.inj (hreplay.symm.trans hreplay')
    rfl

theorem loadCompletionReplay_gives {db : Db} {reference : Option ReplayableUploadReference}
    {answer : RegistryCompletedUploadSession} (h : loadCompletionReplay db reference = .ok answer) :
    db.Gives answer := by
  unfold loadCompletionReplay at h
  split at h
  · cases h
  · split at h
    · cases h
    · split at h
      · cases h
      · rename_i row hrow
        split at h
        · rename_i replay hreplay
          obtain rfl := Except.ok.inj h
          exact gives_replay hrow hreplay
        · cases h

theorem phaseOne_gives {input : RegistryCompleteUploadSessionInput} {now : Instant} {db db' : Db}
    {answer : RegistryCompletedUploadSession}
    (h : phaseOne input now db = .ok (.replay answer, db')) : db.Gives answer := by
  generalize hresult : PhaseOneResult.replay answer = result at h
  cases phaseOne_cases h with
  | replay hrow hexpiry hreplay hexec =>
      obtain rfl := PhaseOneResult.replay.inj hresult
      exact gives_replay hrow hreplay
  | validationFailure => cases hresult
  | request => cases hresult

/-- **What phase two answers**: a replay, or the source it was given, with the evidence of the
source recorded on the version of the session. -/
theorem phaseTwo_answer {rt : Runtime} {input : RegistryCompleteUploadSessionInput}
    {source : SnapshotResult} {newDispatchId : String} {now : Instant} {db db' : Db}
    {answer : RegistryCompletedUploadSession}
    (h : phaseTwo rt input source newDispatchId now db = .ok (answer, db')) :
    db.Gives answer ∧ (answer.isDuplicate = false →
      answer.canonicalSource = source ∧ ∃ row,
        db.findUploadSession input.uploadSessionId = some row ∧
        answer.uploadSessionId = input.uploadSessionId ∧
        db'.version? row.version.id =
        some (row.version.withEvidence (canonicalEvidence rt source))) := by
  cases phaseTwo_cases h with
  | replay hrow hreplay hexec => exact ⟨gives_replay hrow hreplay, fun hfirst => by cases hfirst⟩
  | @canonical row _ _ _ hrow hreplay hstate hevidence hdispatch hcompleted =>
      obtain rfl := Except.ok.inj hcompleted
      have hid := Db.findUploadSession_id hrow
      refine ⟨⟨row, ?_, fun replay hsome => ?_⟩, fun _ => ⟨rfl, row, hrow, hid, ?_⟩⟩
      · rw [← hid] at hrow
        exact hrow
      · cases hreplay.symm.trans hsome
      · rw [phaseTwoStatements_version? hrow hevidence hdispatch, if_pos rfl]

theorem getElem?_append_singleton {α : Type} {l : List α} {a b : α} {j : Nat}
    (h : (l ++ [a])[j]? = some b) : l[j]? = some b ∨ b = a := by
  rw [List.getElem?_append] at h
  split at h
  · exact Or.inl h
  · exact Or.inr (List.mem_singleton.mp (List.mem_of_getElem? h))

/-- A completion that moves on keeps the other answers. -/
theorem answer?_advance {sys : RegistrySystem} {i j : Nat} {progress : CompletionProgress} {db : Db}
    {answer : RegistryCompletedUploadSession}
    (h : (sys.advance i progress db).answer? j = some answer) :
    sys.answer? j = some answer ∨ progress = .finished (.ok answer) := by
  obtain ⟨c, hc, hanswer⟩ := Option.bind_eq_some_iff.mp h
  rcases RegistrySystem.UploadInv.getElem?_advance hc with ⟨-, hprogress, -⟩ | ⟨-, hj⟩
  · right
    rw [hprogress] at hanswer
    split at hanswer
    · rw [Option.some.inj hanswer]
    · cases hanswer
  · left
    rw [RegistrySystem.answer?, hj]
    exact hanswer

/-- **An answer of the registry** is one that was there before, or one that the database
gives. -/
theorem RegistryStep.answers {rt : Runtime} {sys sys' : RegistrySystem} {a : RegistryAction}
    (h : RegistryStep rt sys a sys') {j : Nat} {answer : RegistryCompletedUploadSession}
    (hanswer : sys'.answer? j = some answer) :
    sys.answer? j = some answer ∨ sys.db.Gives answer := by
  cases a with
  | operation op =>
      obtain rfl := Option.some.inj h
      exact Or.inl hanswer
  | complete input =>
      obtain rfl := Option.some.inj h
      obtain ⟨c, hc, hprogress⟩ := Option.bind_eq_some_iff.mp hanswer
      unfold RegistrySystem.complete at hc
      split at hc
      · rename_i record hrecord
        rcases getElem?_append_singleton hc with hj | rfl
        · exact Or.inl (Option.bind_eq_some_iff.mpr ⟨c, hj, hprogress⟩)
        · right
          split at hprogress
          · rename_i completed hcompleted
            obtain rfl := Option.some.inj hprogress
            have hok : completionReplay sys.db input record = .ok completed :=
              CompletionProgress.finished.inj hcompleted
            unfold completionReplay at hok
            split at hok
            · cases hok
            · exact loadCompletionReplay_gives hok
          · cases hprogress
      · rcases getElem?_append_singleton hc with hj | rfl
        · exact Or.inl (Option.bind_eq_some_iff.mpr ⟨c, hj, hprogress⟩)
        · cases hprogress
  | phaseOne i now =>
      obtain ⟨c, hc, h⟩ := Option.bind_eq_some_iff.mp h
      split at h
      · obtain rfl := Option.some.inj h
        unfold RegistrySystem.phaseOne at hanswer
        split at hanswer
        · rename_i result db' hone
          refine (answer?_advance hanswer).imp_right fun hprogress => ?_
          cases result with
          | replay completed =>
              obtain rfl := Except.ok.inj (CompletionProgress.finished.inj hprogress)
              exact phaseOne_gives hone
          | validationFailure e => cases hprogress
          | request r => cases hprogress
        · refine (answer?_advance hanswer).imp_right fun hprogress => ?_
          cases hprogress
      · cases h
  | canonicalize i result =>
      obtain ⟨c, hc, h⟩ := Option.bind_eq_some_iff.mp h
      split at h
      · obtain rfl := Option.some.inj h
        exact (answer?_advance hanswer).imp_right fun hprogress => by cases hprogress
      · obtain rfl := Option.some.inj h
        exact (answer?_advance hanswer).imp_right fun hprogress => by cases hprogress
      · cases h
  | phaseTwo i newDispatchId now =>
      obtain ⟨c, hc, h⟩ := Option.bind_eq_some_iff.mp h
      split at h
      · obtain rfl := Option.some.inj h
        unfold RegistrySystem.phaseTwo at hanswer
        split at hanswer
        · rename_i completed db' htwo
          refine (answer?_advance hanswer).imp_right fun hprogress => ?_
          obtain rfl := Except.ok.inj (CompletionProgress.finished.inj hprogress)
          exact (phaseTwo_answer htwo).1
        · exact (answer?_advance hanswer).imp_right fun hprogress => by cases hprogress
      · cases h
  | recover i =>
      obtain ⟨c, hc, h⟩ := Option.bind_eq_some_iff.mp h
      split at h
      · obtain rfl := Option.some.inj h
        refine (answer?_advance hanswer).imp_right fun hprogress => ?_
        unfold recoverFailedCompletion at hprogress
        split at hprogress <;> cases hprogress
      · cases h
  | stop i =>
      obtain ⟨c, hc, h⟩ := Option.bind_eq_some_iff.mp h
      split at h
      · cases h
      · cases h
      · obtain rfl := Option.some.inj h
        exact (answer?_advance hanswer).imp_right fun hprogress => by cases hprogress

/-! ### The first answer and the later ones -/

/-- A completion is **answered first** in a step: its second transaction commits, and its
answer is not a duplicate. -/
structure FirstAnswer (rt : Runtime) (sys sys' : RegistrySystem) (i : Nat) (c : PendingCompletion)
    (source : SnapshotResult) (answer : RegistryCompletedUploadSession) : Prop where
  pending : sys.completions[i]? = some c
  snapshotted : ∃ request, c.progress = .snapshotted request source
  step : ∃ newDispatchId now, RegistryStep rt sys (.phaseTwo i newDispatchId now) sys'
  answered : sys'.answer? i = some answer
  first : answer.isDuplicate = false

/-- The first answer has the source that was given to it, and the version of the session has
the evidence of the source. -/
theorem FirstAnswer.recorded {rt : Runtime} {sys sys' : RegistrySystem} {i : Nat}
    {c : PendingCompletion} {source : SnapshotResult} {answer : RegistryCompletedUploadSession}
    (h : FirstAnswer rt sys sys' i c source answer) :
    answer.canonicalSource = source ∧ answer.uploadSessionId = c.input.uploadSessionId ∧
      ∀ row, sys'.db.findUploadSession c.input.uploadSessionId = some row →
        row.version.evidence = canonicalEvidence rt source := by
  obtain ⟨request, hprogress⟩ := h.snapshotted
  obtain ⟨newDispatchId, now, hstep⟩ := h.step
  have hnext : sys.phaseTwo rt i c.input request source newDispatchId now = sys' := by
    obtain ⟨c', hc', hnext⟩ := Option.bind_eq_some_iff.mp hstep
    obtain rfl := Option.some.inj (h.pending.symm.trans hc')
    rw [hprogress] at hnext
    exact Option.some.inj hnext
  have hissued : sys.db.KeepsIssued sys'.db := hstep.keepsIssued
  subst hnext
  have hanswered := h.answered
  unfold RegistrySystem.phaseTwo at hanswered hissued ⊢
  split at hanswered
  · rename_i completed db' htwo
    simp only [htwo] at hissued ⊢
    have hcompleted : completed = answer := by
      rcases answer?_advance hanswered with hbefore | hnow
      · rw [RegistrySystem.answer?, h.pending, Option.bind_some, hprogress] at hbefore
        cases hbefore
      · exact Except.ok.inj (CompletionProgress.finished.inj hnow)
    obtain rfl := hcompleted
    obtain ⟨hsource, row, hrow, hid, hversion⟩ := (phaseTwo_answer htwo).2 h.first
    refine ⟨hsource, hid, fun row' hrow' => ?_⟩
    obtain ⟨s', hs', hassigned, -⟩ :=
      hissued.uploadSession? (Db.findUploadSession_eq_some.mp hrow).1
    obtain rfl := Option.some.inj ((Db.findUploadSession_eq_some.mp hrow').1.symm.trans hs')
    have hsame : row'.version.id = row.version.id := by
      rw [Db.findUploadSession_version_id hrow', Db.findUploadSession_version_id hrow, hassigned]
    have hversion' := Db.findUploadSession_version? hrow'
    rw [hsame] at hversion'
    rw [Option.some.inj (hversion'.symm.trans hversion), AssetVersion.withEvidence_evidence]
  · rcases answer?_advance hanswered with hbefore | hnow
    · rw [RegistrySystem.answer?, h.pending, Option.bind_some, hprogress] at hbefore
      cases hbefore
    · cases hnow

/-- From one state to a later one, **every replay has a source**: the replay that the session
has in the later state, and the answers about the session that were given on the way. -/
structure ReplaysSource (uploadSessionId : String) (source : SnapshotResult)
    (sys sys' : RegistrySystem) : Prop where
  replay : ∀ row replay, sys'.db.findUploadSession uploadSessionId = some row →
    tryBuildCompletionReplay row = some replay → replay.canonicalSource = source
  answers : ∀ j answer, sys.answer? j = none → sys'.answer? j = some answer →
    answer.uploadSessionId = uploadSessionId →
    answer.isDuplicate = true ∧ answer.canonicalSource = source

/-- Every replay has the source of the replay that the session has. -/
theorem replaysSource_of_run {rt : Runtime} {sys sys' : RegistrySystem}
    {tr : List (Transition RegistrySystem RegistryAction)} {id : String} {row : CompletionReplayRow}
    {replay : RegistryCompletedUploadSession} (hrow : sys.db.findUploadSession id = some row)
    (hreplay : tryBuildCompletionReplay row = some replay)
    (hrun : Run (RegistryStep rt) sys tr sys') :
    ReplaysSource id replay.canonicalSource sys sys' := by
  have hkept : ∀ {s : RegistrySystem}, sys.db.KeepsCompletion id s.db →
      ∀ row' replay', s.db.findUploadSession id = some row' →
        tryBuildCompletionReplay row' = some replay' →
        replay'.canonicalSource = replay.canonicalSource := by
    intro s hs row' replay' hrow' hreplay'
    obtain ⟨row₂, replay₂, hrow₂, hreplay₂, -, hsame⟩ := hs hrow hreplay
    obtain rfl := Option.some.inj (hrow'.symm.trans hrow₂)
    obtain rfl := Option.some.inj (hreplay'.symm.trans hreplay₂)
    exact hsame.canonicalSource
  have hinv := hrun.invariant (I := fun s => sys.db.KeepsCompletion id s.db ∧
      ∀ j answer, s.answer? j = some answer → answer.uploadSessionId = id →
        sys.answer? j = some answer ∨
          answer.isDuplicate = true ∧ answer.canonicalSource = replay.canonicalSource) ?_
    ⟨Db.KeepsCompletion.refl _, fun _ _ hanswer _ => Or.inl hanswer⟩
  · refine ⟨hkept hinv.1, fun j answer hnone hsome hid => ?_⟩
    refine (hinv.2 j answer hsome hid).resolve_left fun hold => ?_
    rw [hnone] at hold
    cases hold
  · rintro s a s' ⟨hcompletion, hanswers⟩ hstep
    refine ⟨hcompletion.trans (hstep.keepsCompletion id), fun j answer hanswer hid => ?_⟩
    rcases hstep.answers hanswer with hbefore | ⟨row', hrow', hgives⟩
    · exact hanswers j answer hbefore hid
    · right
      rw [hid] at hrow'
      obtain ⟨row₂, replay₂, hrow₂, hreplay₂, -, -⟩ := hcompletion hrow hreplay
      obtain rfl := Option.some.inj (hrow'.symm.trans hrow₂)
      have hsource := hkept hcompletion row' replay₂ hrow' hreplay₂
      rw [hgives replay₂ hreplay₂]
      exact ⟨rfl, hsource⟩

/-- **A replay has the source of the first answer** exactly when the source is kept by its
columns. After a completion has been answered first, with a source of an adapter, and where
its session can be replayed: in every later state of every run, the replay of the session and
every answer about it has the source of the first answer exactly when the source has no dedupe
metrics, or has them without a stored length and with finite numbers only. -/
theorem replayed_source_iff {rt : Runtime} {sys sys' : RegistrySystem} {i : Nat}
    {c : PendingCompletion} {source : CanonicalSource} {answer : RegistryCompletedUploadSession}
    (hfirst : FirstAnswer rt sys sys' i c source.toSnapshotResult answer)
    (hreplayable : ∃ row replay, sys'.db.findUploadSession c.input.uploadSessionId = some row ∧
      tryBuildCompletionReplay row = some replay) :
    (∀ tr sys'', Run (RegistryStep rt) sys' tr sys'' →
        ReplaysSource c.input.uploadSessionId answer.canonicalSource sys' sys'') ↔
      source.KeptByColumns := by
  obtain ⟨row, replay, hrow, hreplay⟩ := hreplayable
  obtain ⟨hsource, -, hevidence⟩ := hfirst.recorded
  have hstored : replay.canonicalSource = source.toSnapshotResult.stored rt := by
    obtain ⟨dispatch, rebuilt, -, hrebuilt, rfl⟩ := tryBuildCompletionReplay_eq_some.mp hreplay
    exact canonicalSnapshotFromRow_canonicalEvidence (hevidence row hrow) hrebuilt
  rw [← source.keptByColumns_iff, ← SnapshotResult.stored_eq_iff rt, hsource, ← hstored]
  constructor
  · intro hreplays
    exact (hreplays [] sys' (.nil sys')).replay row replay hrow hreplay
  · intro hsame tr sys'' hrun
    rw [← hsame]
    exact replaysSource_of_run hrow hreplay hrun

/-! ### Sources with and without a stored length -/

/-- A source with dedupe metrics. -/
def sampleMeteredSource (dedupeMetrics : SourceDedupeMetrics) : CanonicalSource where
  repositoryEngine := .xet
  canonicalSourceId := "source-1"
  snapshotId := "snapshot-1"
  logicalPath := "source/report.pdf"
  digests := [⟨"sha256", "5d41402abc4b2a76"⟩]
  dedupeMetrics := some dedupeMetrics
  reconstructionHandles := some [⟨.manifest, "source-1"⟩]
  substrateHints := some [("termCount", "1")]

/-- A sample session up to the second transaction of its completion, which has a source with
dedupe metrics. -/
def sampleSnapshottedActions (dedupeMetrics : SourceDedupeMetrics) : List RegistryAction :=
  issueActions ++ [.complete (sampleCompletion "a" "key-1"), .phaseOne 0 20,
    .canonicalize 0 (.ok (sampleMeteredSource dedupeMetrics).toSnapshotResult)]

/-- The registry before the second transaction of the completion. -/
def sampleSnapshotted (dedupeMetrics : SourceDedupeMetrics) : RegistrySystem :=
  ((exec (RegistrySystem.next sampleRuntime) sampleRegistrySystem
    (sampleSnapshottedActions dedupeMetrics)).map Prod.snd).getD sampleRegistrySystem

/-- The registry after it. -/
def sampleAnswered (dedupeMetrics : SourceDedupeMetrics) : RegistrySystem :=
  ((sampleSnapshotted dedupeMetrics).next sampleRuntime (.phaseTwo 0 "dispatch-a" 30)).getD
    sampleRegistrySystem

/-- A completion whose metrics are finite numbers is replayed with the source of its first
answer. -/
theorem counted_source_replayed :
    (∃ tr, Run (RegistryStep sampleRuntime) sampleRegistrySystem tr
        (sampleSnapshotted { chunkCount := some (.finite 4) })) ∧
      ∃ answer, (sampleAnswered { chunkCount := some (.finite 4) }).answer? 0 = some answer ∧
        answer.isDuplicate = false ∧
        ∀ tr sys, Run (RegistryStep sampleRuntime)
            (sampleAnswered { chunkCount := some (.finite 4) }) tr sys →
          ReplaysSource "session-a" answer.canonicalSource
            (sampleAnswered { chunkCount := some (.finite 4) }) sys := by
  have hexec : exec (RegistrySystem.next sampleRuntime) sampleRegistrySystem
    (sampleSnapshottedActions { chunkCount := some (.finite 4) }) =
      some (_, sampleSnapshotted { chunkCount := some (.finite 4) }) := rfl
  have hfirst : FirstAnswer sampleRuntime (sampleSnapshotted { chunkCount := some (.finite 4) })
      (sampleAnswered { chunkCount := some (.finite 4) }) 0 _
      (sampleMeteredSource { chunkCount := some (.finite 4) }).toSnapshotResult _ :=
    { pending := rfl
      snapshotted := ⟨_, rfl⟩
      step := ⟨"dispatch-a", 30, rfl⟩
      answered := rfl
      first := rfl }
  refine ⟨⟨_, exec_run hexec⟩, _, hfirst.answered, hfirst.first, ?_⟩
  refine (replayed_source_iff hfirst ⟨_, _, rfl, rfl⟩).mpr fun m hm => ?_
  obtain rfl := Option.some.inj hm
  exact ⟨rfl, rfl, rfl, rfl, rfl⟩

/-- **A stored length is replayed as a text.** The sample session is issued and completed with
a source whose metrics have the stored length 5: the first answer has the number, and the
replay that the session has then the text of it. -/
theorem stored_length_replayed_as_text :
    (∃ tr, Run (RegistryStep sampleRuntime) sampleRegistrySystem tr
        (sampleSnapshotted { storedByteLength := some 5 })) ∧
      ∃ c answer, FirstAnswer sampleRuntime (sampleSnapshotted { storedByteLength := some 5 })
          (sampleAnswered { storedByteLength := some 5 }) 0 c
          (sampleMeteredSource { storedByteLength := some 5 }).toSnapshotResult answer ∧
        answer.canonicalSource.dedupeMetrics = some [("storedByteLength", .bigint 5)] ∧
        ∃ row replay, (sampleAnswered { storedByteLength := some 5 }).db.findUploadSession
            "session-a" = some row ∧
          tryBuildCompletionReplay row = some replay ∧
          replay.canonicalSource.dedupeMetrics = some [("storedByteLength", .string "5")] ∧
          replay.canonicalSource ≠ answer.canonicalSource := by
  have hexec : exec (RegistrySystem.next sampleRuntime) sampleRegistrySystem
    (sampleSnapshottedActions { storedByteLength := some 5 }) =
      some (_, sampleSnapshotted { storedByteLength := some 5 }) := rfl
  refine ⟨⟨_, exec_run hexec⟩, _, _, ⟨rfl, ⟨_, rfl⟩, ⟨"dispatch-a", 30, rfl⟩, rfl, rfl⟩, rfl,
    _, _, rfl, rfl, rfl, fun hsame => ?_⟩
  have hmetrics := congrArg SnapshotResult.dedupeMetrics hsame
  cases hmetrics

end Cdngine
