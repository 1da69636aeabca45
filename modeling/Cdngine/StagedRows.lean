import Cdngine.DuplicateCompletion
import Cdngine.TenantIsolation

/-!
# The Rows of Staged Sessions

An issuance writes the object key of the client to the session and to its version, and the row of
the session says until when it can be completed. What the steps of the registry leave of these
rows: the asset, the version, the scope and the key of a session stay, and a session that cannot be
completed any more stays so.

## Main results

* `RegistryStep.keepsStaged`: every step keeps the rows of staged sessions.
* `issueTransaction_row`: the row that an issuance adds.
* `RegistryStep.uploadSession?_isSome`: only an issuance adds a session.
-/

open Relational Runs

namespace Cdngine

/-! ### Staged rows -/

/-- The object key of a session, as summaries have it. -/
def CompletionReplayRow.objectKey (row : CompletionReplayRow) : String :=
  (buildUploadSessionSummaryFromRow row).objectKey

/-- A session **can still be completed** at a time: it is open and not completed yet, and the time
lies between its issuance and its expiry. -/
structure CompletionReplayRow.CompletableAt (row : CompletionReplayRow) (t : Instant) : Prop where
  isOpen : row.uploadSession.isOpen
  unsettled : tryBuildCompletionReplay row = none
  issued : ∃ issuedAt, row.uploadSession.firstActivityAt = some issuedAt ∧ issuedAt ≤ t
  unexpired : t ≤ row.uploadSession.expiresAt

/-- Two sessions are **foreign**: they are of different assets, namespaces or tenants. -/
def CompletionReplayRow.Foreign (row row' : CompletionReplayRow) : Prop :=
  row.asset.id ≠ row'.asset.id ∨ row.serviceNamespaceId ≠ row'.serviceNamespaceId ∨
    row.tenantId ≠ row'.tenantId

/-- The session and the version of a row have one key for the staged object. -/
structure CompletionReplayRow.StagedUnder (row : CompletionReplayRow) (key : String) : Prop where
  stagedObjectKey : row.uploadSession.stagedObjectKey = some key
  ingestObjectKey : row.version.ingestObjectKey = some key

theorem CompletionReplayRow.StagedUnder.objectKey {row : CompletionReplayRow} {key : String}
    (h : row.StagedUnder key) : row.objectKey = key := by
  rw [CompletionReplayRow.objectKey, buildUploadSessionSummaryFromRow, h.ingestObjectKey]
  rfl

theorem CompletionReplayRow.StagedUnder.expectedKey {row : CompletionReplayRow} {key : String}
    (h : row.StagedUnder key) : row.expectedKey = some key := by
  rw [CompletionReplayRow.expectedKey, h.stagedObjectKey]
  rfl

/-- Evidence without a problem is of the object of the session. -/
theorem CompletionReplayRow.StagedUnder.claimed {row : CompletionReplayRow} {key : String}
    (h : row.StagedUnder key) {input : RegistryCompleteUploadSessionInput}
    (hproblem : stagedEvidenceProblem input row = none) : input.stagedObject.objectKey = key :=
  Option.some.inj ((stagedEvidenceProblem_eq_none_iff.mp hproblem).1.trans h.expectedKey)

/-- What a step leaves of the row of a staged session: its asset and version, its scope and its
key; and it is completed, closed and expired no less than before. -/
structure CompletionReplayRow.Continues (row row' : CompletionReplayRow) (key : String) : Prop where
  asset : row'.asset.id = row.asset.id
  version : row'.version.id = row.version.id
  serviceNamespaceId : row'.serviceNamespaceId = row.serviceNamespaceId
  tenantId : row'.tenantId = row.tenantId
  staged : row'.StagedUnder key
  completable : ∀ {t}, row'.CompletableAt t → row.CompletableAt t

/-- The rows of staged sessions continue. -/
def Db.KeepsStaged (db db' : Db) : Prop :=
  ∀ ⦃id row key⦄, db.findUploadSession id = some row → row.StagedUnder key →
    ∃ row', db'.findUploadSession id = some row' ∧ row.Continues row' key

namespace Db.KeepsStaged

variable {db db' : Db}

theorem refl (db : Db) : db.KeepsStaged db := fun _ _ _ hrow hstaged =>
  ⟨_, hrow, rfl, rfl, rfl, rfl, hstaged, fun hcompletable => hcompletable⟩

/-- A row continues when the rows that it is joined from keep the key, the session does not open,
and a settled version stays settled. -/
theorem of_rows (hissued : db.KeepsIssued db')
    (hsession : ∀ {id row key}, db.findUploadSession id = some row → row.StagedUnder key →
      ∀ s', db'.uploadSession? id = some s' →
        s'.stagedObjectKey = some key ∧ s'.firstActivityAt = row.uploadSession.firstActivityAt ∧
          (s'.isOpen → row.uploadSession.isOpen))
    (hversion : ∀ {id row key}, db.findUploadSession id = some row → row.StagedUnder key →
      ∀ v', db'.version? row.version.id = some v' → v'.ingestObjectKey = some key)
    (hsettled : ∀ id, db.Settled id → db'.Settled id) : db.KeepsStaged db' := by
  intro id row key hrow hstaged
  obtain ⟨hs, hv, ha, ⟨ns, hns, hname⟩, htenant, -⟩ := findUploadSession_eq_some.mp hrow
  obtain ⟨s', hs', hsv, hexpires⟩ := hissued.uploadSession? hs
  obtain ⟨v', hv', hva, -⟩ := hissued.version? (findUploadSession_version? hrow)
  obtain ⟨a', ha', han, hat⟩ := hissued.asset? ha
  obtain ⟨hkey, hfirst, hopen⟩ := hsession hrow hstaged s' hs'
  have hrow' : db'.findUploadSession id = some ⟨s', v', a', row.serviceNamespaceId,
      (a'.tenantScopeId.bind db'.tenantScope?).map (·.externalTenantId),
      (db'.dispatchesOf v'.id).head?⟩ := by
    refine findUploadSession_eq_some.mpr ⟨hs', ?_, hva ▸ ha', ⟨ns, ?_, hname⟩, rfl, rfl⟩
    · rw [hsv, ← findUploadSession_version_id hrow]
      exact hv'
    · rw [han, Db.serviceNamespace?, hissued.serviceNamespaces]
      exact hns
  refine ⟨_, hrow', ?_, ?_, rfl, ?_, ⟨hkey, hversion hrow hstaged v' hv'⟩, ?_⟩
  · exact (asset?_eq_some_iff.mp ha').2.trans (asset?_eq_some_iff.mp ha).2.symm
  · exact (version?_eq_some_iff.mp hv').2
  · have hscope : db'.tenantScope? = db.tenantScope? := by
      funext scopeId
      rw [Db.tenantScope?, hissued.tenantScopes]
      rfl
    rw [htenant, hat, hscope]
  · rintro t ⟨hopen', hnone, hissuedAt, hunexpired⟩
    refine ⟨hopen hopen', ?_, hfirst ▸ hissuedAt, hexpires ▸ hunexpired⟩
    by_contra hsome
    have hreplay := (settled_iff_replayable hrow).mpr (Option.isSome_iff_ne_none.mpr hsome)
    have hreplay' := (settled_iff_replayable hrow').mp
      ((version?_eq_some_iff.mp hv').2 ▸ hsettled _ hreplay)
    rw [hnone] at hreplay'
    cases hreplay'

/-- Transactions that only move versions, and leave the sessions, keep staged rows. -/
theorem of_onlyMoves (hissued : db.KeepsIssued db') (honly : db.OnlyMoves db')
    (hsessions : ∀ {id s}, db.uploadSession? id = some s → db'.uploadSession? id = some s) :
    db.KeepsStaged db' := by
  refine of_rows hissued (fun {id row key} hrow hstaged s' hs' => ?_)
    (fun {id row key} hrow hstaged v' hv' => ?_)
    fun id hsettled => (Db.KeepsSettled.of_onlyMoves honly hsettled).1
  · obtain rfl := Option.some.inj
      ((hsessions (findUploadSession_eq_some.mp hrow).1).symm.trans hs')
    exact ⟨hstaged.stagedObjectKey, rfl, fun hopen => hopen⟩
  · obtain ⟨state, hmoved⟩ := honly.version? (findUploadSession_version? hrow)
    obtain rfl := Option.some.inj (hmoved.symm.trans hv')
    exact hstaged.ingestObjectKey

/-- Every operation of one transaction keeps staged rows. -/
theorem operation (rt : Runtime) (op : RegistryOperation) (db : Db) :
    db.KeepsStaged (op.run rt db) := by
  refine of_onlyMoves (.operation rt op db) (op.onlyMoves rt db) fun {id s} hs => ?_
  obtain ⟨s', hs', -⟩ := (Db.KeepsIssued.operation rt op db).uploadSession? hs
  rcases RegistryOperation.uploadSession?_cases hs' with hold | ⟨hnone, -⟩
  · rw [hs', ← hold, hs]
  · rw [hs] at hnone
    cases hnone

/-- The `catch` of a completion keeps staged rows. -/
theorem recoverFailedCompletion (input : RegistryCompleteUploadSessionInput) (versionId : String)
    (cause : RegistryError) (db : Db) :
    db.KeepsStaged (recoverFailedCompletion input versionId cause db).2 := by
  refine of_onlyMoves (.recoverFailedCompletion input versionId cause db)
    (recoverFailedCompletion_onlyMoves input versionId cause db) fun {id s} hs => ?_
  rw [Db.uploadSession?, recoverFailedCompletion_uploadSessions]
  exact hs

/-- **Phase one keeps staged rows**: the key that it writes to the session and the version it
accepts is theirs. -/
theorem phaseOne {input : RegistryCompleteUploadSessionInput} {now : Instant}
    {result : PhaseOneResult} (h : phaseOne input now db = .ok (result, db')) :
    db.KeepsStaged db' := by
  refine of_rows (.phaseOne h) (fun {id row key} hrow hstaged s' hs' => ?_)
    (fun {id row key} hrow hstaged v' hv' => ?_) fun id hsettled =>
      (phaseOne_keepsSettled h id hsettled).1
  · have hs := (findUploadSession_eq_some.mp hrow).1
    cases phaseOne_cases h with
    | replay _ _ _ hexec =>
        rw [executeAll_uploadSession? hexec, hs] at hs'
        obtain rfl := Option.some.inj hs'
        exact ⟨hstaged.stagedObjectKey, rfl, fun hopen => hopen⟩
    | validationFailure hr _ _ hopen _ _ hexec =>
        rw [executeAll_uploadSession? hexec, hs] at hs'
        obtain rfl := Option.some.inj hs'
        simp only [recordValidationFailure, List.foldl_cons, List.foldl_nil,
          CompletionStatement.onSession]
        split
        · exact ⟨hstaged.stagedObjectKey, rfl, fun hopen' => absurd rfl hopen'.2⟩
        · exact ⟨hstaged.stagedObjectKey, rfl, fun hopen => hopen⟩
    | @request r _ hr _ _ hopen _ hproblem hexec =>
        rw [executeAll_uploadSession? hexec, hs] at hs'
        obtain rfl := Option.some.inj hs'
        simp only [acceptCompletion, List.foldl_cons, List.foldl_nil,
          CompletionStatement.onSession]
        split
        · rename_i hid
          rw [hid, findUploadSession_id hr] at hrow
          obtain rfl := Option.some.inj (hr.symm.trans hrow)
          exact ⟨congrArg some (hstaged.claimed hproblem), rfl, fun _ => hopen⟩
        · exact ⟨hstaged.stagedObjectKey, rfl, fun hopen => hopen⟩
  · have hv := findUploadSession_version? hrow
    cases phaseOne_cases h with
    | replay _ _ _ hexec =>
        rw [executeAll_version? hexec, hv] at hv'
        obtain rfl := Option.some.inj hv'
        exact hstaged.ingestObjectKey
    | validationFailure _ _ _ _ _ _ hexec =>
        rw [executeAll_version? hexec, hv] at hv'
        obtain rfl := Option.some.inj hv'
        simp only [recordValidationFailure, List.foldl_cons, List.foldl_nil,
          CompletionStatement.onVersion]
        split <;> exact hstaged.ingestObjectKey
    | @request r _ hr _ _ _ _ hproblem hexec =>
        rw [executeAll_version? hexec, hv] at hv'
        obtain rfl := Option.some.inj hv'
        simp only [acceptCompletion, List.foldl_cons, List.foldl_nil,
          CompletionStatement.onVersion]
        split
        · rename_i hid
          -- one session for each version: it is the session of the row
          have hsame := eq_of_assetVersionId (findUploadSession_eq_some.mp hrow).1
            (findUploadSession_eq_some.mp hr).1 ((findUploadSession_version_id hrow).symm.trans
              (hid.trans (findUploadSession_version_id hr)))
          rw [hsame] at hrow
          obtain rfl := Option.some.inj (hr.symm.trans hrow)
          exact congrArg some (hstaged.claimed hproblem)
        · exact hstaged.ingestObjectKey

/-- Phase two keeps staged rows. -/
theorem phaseTwo {rt : Runtime} {input : RegistryCompleteUploadSessionInput}
    {source : SnapshotResult} {newDispatchId : String} {now : Instant}
    {completed : RegistryCompletedUploadSession}
    (h : phaseTwo rt input source newDispatchId now db = .ok (completed, db')) :
    db.KeepsStaged db' := by
  refine of_rows (.phaseTwo h) (fun {id row key} hrow hstaged s' hs' => ?_)
    (fun {id row key} hrow hstaged v' hv' => ?_) fun id hsettled =>
      (phaseTwo_keepsSettled h id hsettled).1
  · rw [phaseTwo_uploadSession? h, (findUploadSession_eq_some.mp hrow).1] at hs'
    obtain rfl := Option.some.inj hs'
    exact ⟨hstaged.stagedObjectKey, rfl, fun hopen => hopen⟩
  · have hv := findUploadSession_version? hrow
    rcases (phaseTwo_cases h).version? row.version.id with hsame | ⟨v, hv₀, -, -, hv₁⟩
    · rw [hsame, hv] at hv'
      obtain rfl := Option.some.inj hv'
      exact hstaged.ingestObjectKey
    · obtain rfl := Option.some.inj (hv.symm.trans hv₀)
      obtain rfl := Option.some.inj (hv₁.symm.trans hv')
      exact hstaged.ingestObjectKey

end Db.KeepsStaged

/-- **The steps of the registry keep staged rows.** -/
theorem RegistryStep.keepsStaged {rt : Runtime} {sys sys' : RegistrySystem} {a : RegistryAction}
    (h : RegistryStep rt sys a sys') : sys.db.KeepsStaged sys'.db :=
  h.relates Db.KeepsStaged.refl (fun op db _ => Db.KeepsStaged.operation rt op db)
    Db.KeepsStaged.phaseOne Db.KeepsStaged.phaseTwo Db.KeepsStaged.recoverFailedCompletion

/-! ### New sessions -/

/-- An issuance attaches its version to the asset that it names, or to a new one. -/
theorem issueAsset_asset {db db' : Db} {input : RegistryIssueUploadSessionInput} {ids : IssueIds}
    {namespaceId : String} {tenant : Option TenantScope} {asset : Asset}
    (h : issueAsset db input ids namespaceId tenant = .ok (asset, db')) :
    input.assetId = some asset.id ∨ input.assetId = none ∧ db.asset? asset.id = none := by
  unfold issueAsset at h
  split at h
  · rename_i hnone
    obtain ⟨db₁, h₁, h⟩ := bind_eq_ok.mp h
    obtain ⟨rfl, rfl⟩ := Prod.mk.inj (Except.ok.inj h)
    obtain ⟨t, ht, -⟩ := write_eq_ok.mp h₁
    refine Or.inr ⟨hnone, Table.find?_eq_none_iff.mpr fun row hrow => ?_⟩
    have hfree := (Table.insert_eq_ok_iff.mp ht).1 row hrow
    refine beq_eq_false_iff_ne.mpr fun hsame => ?_
    simp [clash, sameKey, hsame] at hfree
  · rename_i assetId hnamed
    obtain ⟨found, hfound, h⟩ := bind_eq_ok.mp h
    obtain ⟨rfl, rfl⟩ := Prod.mk.inj (Except.ok.inj h)
    unfold loadExistingAsset at hfound
    split at hfound
    · rename_i row hrow
      obtain rfl := Except.ok.inj hfound
      have hsel := Table.sel_of_find? hrow
      simp only [Bool.and_eq_true, beq_iff_eq] at hsel
      exact Or.inl (hnamed.trans (congrArg some hsel.1.1.1.symm))
    · cases hfound

/-- The row that an issuance adds: it is staged under the key of the request, it is not completed,
and it belongs to the asset that the request names or to a new one. -/
structure IssuedRow (input : RegistryIssueUploadSessionInput) (ids : IssueIds) (now : Instant)
    (db : Db) (row : CompletionReplayRow) : Prop where
  uploadSession : row.uploadSession = issuedSession input ids now
  staged : row.StagedUnder input.objectKey
  unsettled : tryBuildCompletionReplay row = none
  asset : input.assetId = some row.asset.id ∨
    input.assetId = none ∧ db.asset? row.asset.id = none

/-- It can be completed from the issuance to its expiry. -/
theorem IssuedRow.completableAt_iff {input : RegistryIssueUploadSessionInput} {ids : IssueIds}
    {now t : Instant} {db : Db} {row : CompletionReplayRow} (h : IssuedRow input ids now db row) :
    row.CompletableAt t ↔ now ≤ t ∧ t ≤ input.expiresAt := by
  constructor
  · rintro ⟨-, -, ⟨issuedAt, hissuedAt, hle⟩, hunexpired⟩
    rw [h.uploadSession] at hissuedAt hunexpired
    obtain rfl := Option.some.inj hissuedAt
    exact ⟨hle, hunexpired⟩
  · rintro ⟨hle, hunexpired⟩
    refine ⟨?_, h.unsettled, ⟨now, ?_, hle⟩, ?_⟩
    · rw [h.uploadSession]
      exact ⟨nofun, nofun⟩
    · rw [h.uploadSession]
      rfl
    · rw [h.uploadSession]
      exact hunexpired

/-- **What an issuance adds.** -/
theorem issueTransaction_row {input : RegistryIssueUploadSessionInput} {ids : IssueIds}
    {now : Instant} {db db' : Db} {issued : RegistryIssuedUploadSession}
    (h : issueTransaction input ids now db = .ok (issued, db')) :
    ∃ row, db'.findUploadSession ids.uploadSessionId = some row ∧
      IssuedRow input ids now db row := by
  unfold issueTransaction at h
  split at h
  · rename_i ns hns
    obtain ⟨⟨asset, db₁⟩, hasset, h⟩ := bind_eq_ok.mp h
    obtain ⟨db₂, h₂, h⟩ := bind_eq_ok.mp h
    obtain ⟨db₃, h₃, h⟩ := bind_eq_ok.mp h
    obtain ⟨db₄, h₄, h⟩ := bind_eq_ok.mp h
    obtain ⟨rfl, rfl⟩ := Prod.mk.inj (Except.ok.inj h)
    obtain ⟨hasset?, hnamespace, -, hnamespaces, -⟩ := issueAsset_scoped hasset
    have hrows : db₄.uploadSession? ids.uploadSessionId = some (issuedSession input ids now) ∧
        db₄.version? ids.versionId =
          some (issuedVersion input ids asset.id (db₁.latestVersionNumber asset.id + 1)) ∧
        db₄.asset? asset.id = some asset ∧
        db₄.serviceNamespace? asset.serviceNamespaceId = some ns := by
      obtain ⟨t₄, -, rfl⟩ := write_eq_ok.mp h₄
      obtain ⟨t₃, ht₃, rfl⟩ := write_eq_ok.mp h₃
      obtain ⟨t₂, ht₂, rfl⟩ := write_eq_ok.mp h₂
      refine ⟨?_, ?_, hasset?, ?_⟩
      · exact Db.uploadSession?_eq_some_iff.mpr
          ⟨(Table.mem_rows_insert ht₃ _).mpr (Or.inr rfl), rfl⟩
      · exact Db.version?_eq_some_iff.mpr ⟨(Table.mem_rows_insert ht₂ _).mpr (Or.inr rfl), rfl⟩
      · simp only [hnamespace, Db.serviceNamespace?, hnamespaces]
        exact (Table.find?_key_eq_some_iff fun a b h => by simp [clash, h]).mpr
          ⟨Table.mem_of_find? hns, rfl⟩
    obtain ⟨hsession, hversion, hasset?, hnamespace?⟩ := hrows
    have hrow : db₄.findUploadSession ids.uploadSessionId = some ⟨issuedSession input ids now,
        issuedVersion input ids asset.id (db₁.latestVersionNumber asset.id + 1), asset,
        ns.serviceNamespaceId,
        (asset.tenantScopeId.bind db₄.tenantScope?).map (·.externalTenantId),
        (db₄.dispatchesOf ids.versionId).head?⟩ :=
      Db.findUploadSession_eq_some.mpr
        ⟨hsession, hversion, hasset?, ⟨ns, hnamespace?, rfl⟩, rfl, rfl⟩
    refine ⟨_, hrow, rfl, ⟨rfl, rfl⟩, ?_, issueAsset_asset hasset⟩
    rw [← Option.isNone_iff_eq_none, ← Option.not_isSome, tryBuildCompletionReplay_isSome]
    exact congrArg not (Bool.and_false _)
  · cases h

/-- An issuance leaves the rows of staged sessions, and what can be completed. -/
theorem issueTransaction_continues {input : RegistryIssueUploadSessionInput} {ids : IssueIds}
    {now : Instant} {db db' : Db} {issued : RegistryIssuedUploadSession}
    (h : issueTransaction input ids now db = .ok (issued, db')) {id key : String}
    {row : CompletionReplayRow} (hrow : db.findUploadSession id = some row)
    (hstaged : row.StagedUnder key) :
    ∃ row', db'.findUploadSession id = some row' ∧ row.Continues row' key ∧
      ∀ t, row.CompletableAt t → row'.CompletableAt t := by
  have hkeeps := Db.KeepsStaged.operation sampleRuntime (.issueUploadSession input ids now) db
  simp only [RegistryOperation.run, transact_eq_ok.mpr h] at hkeeps
  obtain ⟨row', hrow', hcontinues⟩ := hkeeps hrow hstaged
  obtain ⟨assetId, number, hissued⟩ := issueTransaction_issued h
  have hsession : row'.uploadSession = row.uploadSession := by
    have hs' := (Db.findUploadSession_eq_some.mp hrow').1
    rw [hissued.uploadSession?, (Db.findUploadSession_eq_some.mp hrow).1, Option.some_or] at hs'
    exact (Option.some.inj hs').symm
  refine ⟨row', hrow', hcontinues, fun t hcompletable => ?_⟩
  refine ⟨hsession ▸ hcompletable.isOpen, ?_, hsession ▸ hcompletable.issued,
    hsession ▸ hcompletable.unexpired⟩
  by_contra hsome
  have hsettled := (Db.settled_iff_replayable hrow').mpr (Option.isSome_iff_ne_none.mpr hsome)
  obtain ⟨v', hv', hcarries, hdispatches⟩ := hcontinues.version ▸ hsettled
  rw [hissued.version?, Db.findUploadSession_version? hrow, Option.some_or] at hv'
  rw [Db.dispatchesOf, hissued.dispatches] at hdispatches
  have hreplay := (Db.settled_iff_replayable hrow).mp
    ⟨v', (Db.findUploadSession_version? hrow).trans hv', hcarries, hdispatches⟩
  rw [hcompletable.unsettled] at hreplay
  cases hreplay

/-- **Only an issuance adds a session.** -/
theorem RegistryStep.uploadSession?_isSome {rt : Runtime} {sys sys' : RegistrySystem}
    {a : RegistryAction} (h : RegistryStep rt sys a sys')
    (hissue : ∀ input ids now, a ≠ .operation (.issueUploadSession input ids now)) {id : String}
    (hs : (sys'.db.uploadSession? id).isSome) : (sys.db.uploadSession? id).isSome := by
  refine h.relates (R := fun db db' => (db'.uploadSession? id).isSome →
    (db.uploadSession? id).isSome) (fun db hs => hs) (fun op db hop hs => ?_) ?_ ?_ ?_ hs
  · rcases op.sameUploads rt db with ⟨input, ids, now, rfl⟩ | hsame
    · exact absurd hop (hissue input ids now)
    · rw [Db.uploadSession?, hsame.uploadSessions] at hs
      exact hs
  · intro input now result db db' hone hs
    cases phaseOne_cases hone with
    | replay _ _ _ hexec =>
        rw [executeAll_uploadSession? hexec, Option.isSome_map] at hs
        exact hs
    | validationFailure _ _ _ _ _ _ hexec =>
        rw [executeAll_uploadSession? hexec, Option.isSome_map] at hs
        exact hs
    | request _ _ _ _ _ _ hexec =>
        rw [executeAll_uploadSession? hexec, Option.isSome_map] at hs
        exact hs
  · intro input source newDispatchId now completed db db' htwo hs
    rw [phaseTwo_uploadSession? htwo] at hs
    exact hs
  · intro input versionId cause db hs
    rw [Db.uploadSession?, recoverFailedCompletion_uploadSessions] at hs
    exact hs

end Cdngine
