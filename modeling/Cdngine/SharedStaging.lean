import Cdngine.StagingSystem

/-!
# Sessions That Share a Staged Object

The client chooses the object key of an upload session, and nothing compares it with the keys of
other sessions. Neither the look of a completion nor the copy of its snapshot tells through whose
upload target the object was written. A caller who takes the key of another tenant shares its
staged object: the bytes of one can be completed as a version of the other.

## Main results

* `StagingStep.inv`: every step that keeps sessions apart keeps the invariant.
* `staged_objects_apart`: in runs of such steps no two sessions share an object while both can
  still be completed, and every snapshot copies an object of its own session.
* `StagingSystem.Inv.not_apart_of_issue`: an issuance without a key of its own makes sessions share
  an object.
* `staged_objects_shared`: sessions of two tenants that share an object, and snapshots that copy
  the bytes of the other tenant.
-/

open Relational Runs

namespace Cdngine

open PercentEncoding

/-! ### The invariant -/

namespace StagingSystem

variable (deployment : StagingDeployment) (sys : StagingSystem)

/-- **A completion owns its copy**: it has looked at the object key of its session, and the object
that a snapshot of what it saw copies was written through the upload target of the session. -/
structure OwnsCopy (input : RegistryCompleteUploadSessionInput) : Prop where
  bucket : input.stagedObject.descriptor.bucket = deployment.stagingBlobStore.target.bucket
  observed : ∃ row, sys.registry.db.findUploadSession input.uploadSessionId = some row ∧
    deployment.qualifiedKey row.objectKey = some input.stagedObject.descriptor.key
  own : ∃ key upload, deployment.snapshotKey input.stagedObject.descriptor = some key ∧
    sys.objects key = some upload ∧ upload.uploadSessionId = input.uploadSessionId

/-- A completion is accepted for the version of its session, with the object that it saw. -/
structure AcceptedFor (input : RegistryCompleteUploadSessionInput)
    (request : RegistryCanonicalizationRequest) : Prop where
  stagedObject : request.stagedObject = input.stagedObject
  uploadSessionId : request.uploadSessionId = input.uploadSessionId
  version : ∃ row, sys.registry.db.findUploadSession input.uploadSessionId = some row ∧
    row.version.id = request.versionId

/-- **The invariant**: every session has its rows and a key, sessions are apart, and completions
own what they are going to copy. -/
structure Inv : Prop where
  joined : ∀ {id}, (sys.registry.db.uploadSession? id).isSome →
    ∃ row key, sys.registry.db.findUploadSession id = some row ∧ row.StagedUnder key
  apart : sys.Apart deployment
  owned : ∀ input ∈ sys.underWay, sys.OwnsCopy deployment input
  accepted : ∀ c ∈ sys.registry.completions, ∀ request, c.progress = .accepted request →
    sys.AcceptedFor c.input request

variable {deployment sys}

theorem Fresh.inv (h : sys.Fresh) : sys.Inv deployment where
  joined hs := by simp [Db.uploadSession?, Table.find?, h.registry.sessions] at hs
  apart := by
    rintro id id' t ⟨row, hrow, -⟩
    have hs := (Db.findUploadSession_eq_some.mp hrow).1
    simp [Db.uploadSession?, Table.find?, h.registry.sessions] at hs
  owned input hinput := by
    simp [underWay, h.looked, h.registry.completions] at hinput
  accepted c hc := by
    rw [h.registry.completions] at hc
    cases hc

theorem mem_underWay {input : RegistryCompleteUploadSessionInput} :
    input ∈ sys.underWay ↔ some input ∈ sys.looked ∨
      ∃ c ∈ sys.registry.completions, c.progress.isUnread = true ∧ c.input = input := by
  simp [underWay, and_assoc]

namespace Inv

variable {sys' : StagingSystem} {db' : Db}

/-- The row of a session, before and after the registry has moved on. -/
theorem continued (hinv : sys.Inv deployment) (hkeeps : sys.registry.db.KeepsStaged db')
    {id : String} (hold : (sys.registry.db.uploadSession? id).isSome)
    {row' : CompletionReplayRow} (hrow' : db'.findUploadSession id = some row') :
    ∃ row, sys.registry.db.findUploadSession id = some row ∧
      row'.objectKey = row.objectKey ∧ row.Continues row' row.objectKey := by
  obtain ⟨row, key, hrow, hstaged⟩ := hinv.joined hold
  obtain ⟨row'', hrow'', hcontinues⟩ := hkeeps hrow hstaged
  obtain rfl := Option.some.inj (hrow''.symm.trans hrow')
  obtain rfl := hstaged.objectKey
  exact ⟨row, hrow, hcontinues.staged.objectKey, hcontinues⟩

/-- The row of a session after the registry has moved on. -/
theorem continues (hinv : sys.Inv deployment) (hkeeps : sys.registry.db.KeepsStaged db')
    {id : String} {row : CompletionReplayRow}
    (hrow : sys.registry.db.findUploadSession id = some row) :
    ∃ row', db'.findUploadSession id = some row' ∧ row'.objectKey = row.objectKey ∧
      row'.version.id = row.version.id := by
  have hs := (Db.findUploadSession_eq_some.mp hrow).1
  obtain ⟨row₀, key, hrow₀, hstaged⟩ := hinv.joined (Option.isSome_of_eq_some hs)
  obtain rfl := Option.some.inj (hrow.symm.trans hrow₀)
  obtain ⟨row', hrow', hcontinues⟩ := hkeeps hrow hstaged
  exact ⟨row', hrow', hcontinues.staged.objectKey.trans hstaged.objectKey.symm,
    hcontinues.version⟩

/-- Two sessions that share an object after the registry has moved on did so before, when both
were there. -/
theorem sharedAt_of_old (hinv : sys.Inv deployment)
    (hkeeps : sys.registry.db.KeepsStaged sys'.registry.db) {id id' : String} {t : Instant}
    (h : sys'.SharedAt deployment id id' t) (hold : (sys.registry.db.uploadSession? id).isSome)
    (hold' : (sys.registry.db.uploadSession? id').isSome) : sys.SharedAt deployment id id' t := by
  obtain ⟨after, hafter, after', hafter', hforeign, hcompletable, hcompletable', hshare⟩ := h
  obtain ⟨row, hrow, hkey, hcontinues⟩ := hinv.continued hkeeps hold hafter
  obtain ⟨row', hrow', hkey', hcontinues'⟩ := hinv.continued hkeeps hold' hafter'
  refine ⟨row, hrow, row', hrow', ?_, hcontinues.completable hcompletable,
    hcontinues'.completable hcompletable', hkey ▸ hkey' ▸ hshare⟩
  rw [CompletionReplayRow.Foreign, hcontinues.asset, hcontinues'.asset,
    hcontinues.serviceNamespaceId, hcontinues'.serviceNamespaceId, hcontinues.tenantId,
    hcontinues'.tenantId] at hforeign
  exact hforeign

/-- A completion that owns its copy still does after the registry has moved on. -/
theorem ownsCopy (hinv : sys.Inv deployment) (hobjects : sys'.objects = sys.objects)
    (hkeeps : sys.registry.db.KeepsStaged sys'.registry.db)
    {input : RegistryCompleteUploadSessionInput} (h : sys.OwnsCopy deployment input) :
    sys'.OwnsCopy deployment input where
  bucket := h.bucket
  observed := by
    obtain ⟨row, hrow, hkey⟩ := h.observed
    obtain ⟨row', hrow', hsame, -⟩ := hinv.continues hkeeps hrow
    exact ⟨row', hrow', hsame ▸ hkey⟩
  own := hobjects ▸ h.own

/-- And one that is accepted is so for the same version. -/
theorem acceptedFor (hinv : sys.Inv deployment)
    (hkeeps : sys.registry.db.KeepsStaged sys'.registry.db)
    {input : RegistryCompleteUploadSessionInput} {request : RegistryCanonicalizationRequest}
    (h : sys.AcceptedFor input request) : sys'.AcceptedFor input request where
  stagedObject := h.stagedObject
  uploadSessionId := h.uploadSessionId
  version := by
    obtain ⟨row, hrow, hversion⟩ := h.version
    obtain ⟨row', hrow', -, hsame⟩ := hinv.continues hkeeps hrow
    exact ⟨row', hrow', hsame.trans hversion⟩

/-- **The registry moves on**: the invariant is kept when the sessions of the registry are, those
that are new have their rows and are apart, and the completions under way were so before or own
their copies. -/
theorem of_keepsStaged (hinv : sys.Inv deployment) (hobjects : sys'.objects = sys.objects)
    (hkeeps : sys.registry.db.KeepsStaged sys'.registry.db)
    (hsessions : ∀ {id}, (sys'.registry.db.uploadSession? id).isSome →
      (sys.registry.db.uploadSession? id).isSome ∨
        ∃ row key, sys'.registry.db.findUploadSession id = some row ∧ row.StagedUnder key)
    (hapart : sys'.Apart deployment)
    (howned : ∀ input ∈ sys'.underWay, input ∈ sys.underWay)
    (haccepted : ∀ c ∈ sys'.registry.completions, ∀ request, c.progress = .accepted request →
      c ∈ sys.registry.completions ∨ sys'.AcceptedFor c.input request) : sys'.Inv deployment where
  joined := by
    intro id hs
    rcases hsessions hs with hold | hnew
    · obtain ⟨row, key, hrow, hstaged⟩ := hinv.joined hold
      obtain ⟨row', hrow', hcontinues⟩ := hkeeps hrow hstaged
      exact ⟨row', key, hrow', hcontinues.staged⟩
    · exact hnew
  apart := hapart
  owned input hinput := hinv.ownsCopy hobjects hkeeps (hinv.owned input (howned input hinput))
  accepted c hc request hprogress := by
    rcases haccepted c hc request hprogress with hold | hnew
    · exact hinv.acceptedFor hkeeps (hinv.accepted c hold request hprogress)
    · exact hnew

end Inv

end StagingSystem

/-! ### Steps of the registry -/

/-- **The completions after a step of the registry**: one that has not read its object yet had not
before either, or phase one has just accepted it. -/
theorem RegistryStep.unread {rt : Runtime} {sys sys' : RegistrySystem} {a : RegistryAction}
    (h : RegistryStep rt sys a sys') (hcomplete : ∀ input, a ≠ .complete input)
    {c' : PendingCompletion} (hc' : c' ∈ sys'.completions)
    (hunread : c'.progress.isUnread = true) :
    c' ∈ sys.completions ∨ ∃ c ∈ sys.completions, c.progress = .started ∧ c'.input = c.input ∧
      ∃ now request, phaseOne c.input now sys.db = .ok (.request request, sys'.db) ∧
        c'.progress = .accepted request := by
  -- a completion that moves on to a progress at which it has read its object is not the one
  have hadvance : ∀ {i : Nat} {progress : CompletionProgress} {db : Db},
      progress.isUnread = false → c' ∈ (sys.advance i progress db).completions →
        c' ∈ sys.completions := by
    intro i progress db hprogress hmem
    obtain ⟨j, hj⟩ := List.mem_iff_getElem?.mp hmem
    rcases RegistrySystem.UploadInv.getElem?_advance hj with ⟨-, hsame, -⟩ | ⟨-, hold⟩
    · rw [hsame, hprogress] at hunread
      cases hunread
    · exact List.mem_of_getElem? hold
  cases a with
  | operation op =>
      obtain rfl := Option.some.inj h
      exact Or.inl hc'
  | complete input => exact absurd rfl (hcomplete input)
  | phaseOne i now =>
      obtain ⟨c, hc, h⟩ := Option.bind_eq_some_iff.mp h
      split at h
      · rename_i hstarted
        obtain rfl := Option.some.inj h
        unfold RegistrySystem.phaseOne at hc' ⊢
        split at hc'
        · rename_i result db hone
          obtain ⟨j, hj⟩ := List.mem_iff_getElem?.mp hc'
          rcases RegistrySystem.UploadInv.getElem?_advance hj with
            ⟨-, hsame, c₀, hc₀, hinput⟩ | ⟨-, hold⟩
          · obtain rfl := Option.some.inj (hc.symm.trans hc₀)
            cases result with
            | request request =>
                exact Or.inr ⟨c, List.mem_of_getElem? hc, hstarted, hinput, now, request, hone,
                  hsame⟩
            | _ =>
                rw [hsame] at hunread
                cases hunread
          · exact Or.inl (List.mem_of_getElem? hold)
        · exact Or.inl (hadvance rfl hc')
      · cases h
  | canonicalize i result =>
      obtain ⟨c, hc, h⟩ := Option.bind_eq_some_iff.mp h
      split at h
      · obtain rfl := Option.some.inj h
        exact Or.inl (hadvance rfl hc')
      · obtain rfl := Option.some.inj h
        exact Or.inl (hadvance rfl hc')
      · cases h
  | phaseTwo i newDispatchId now =>
      obtain ⟨c, hc, h⟩ := Option.bind_eq_some_iff.mp h
      split at h
      · obtain rfl := Option.some.inj h
        unfold RegistrySystem.phaseTwo at hc'
        split at hc'
        · exact Or.inl (hadvance rfl hc')
        · exact Or.inl (hadvance rfl hc')
      · cases h
  | recover i =>
      obtain ⟨c, hc, h⟩ := Option.bind_eq_some_iff.mp h
      split at h
      · obtain rfl := Option.some.inj h
        exact Or.inl (hadvance rfl hc')
      · cases h
  | stop i =>
      obtain ⟨c, hc, h⟩ := Option.bind_eq_some_iff.mp h
      split at h
      · cases h
      · cases h
      · obtain rfl := Option.some.inj h
        exact Or.inl (hadvance rfl hc')

/-- Sessions of one asset are not foreign. -/
theorem Db.not_foreign {db : Db} {id id' : String} {row row' : CompletionReplayRow}
    (hrow : db.findUploadSession id = some row) (hrow' : db.findUploadSession id' = some row')
    (hasset : row.asset.id = row'.asset.id) : ¬ row.Foreign row' := by
  obtain ⟨-, -, ha, ⟨ns, hns, hname⟩, htenant, -⟩ := Db.findUploadSession_eq_some.mp hrow
  obtain ⟨-, -, ha', ⟨ns', hns', hname'⟩, htenant', -⟩ := Db.findUploadSession_eq_some.mp hrow'
  have hid := (Db.asset?_eq_some_iff.mp ha).2
  have hid' := (Db.asset?_eq_some_iff.mp ha').2
  have hsame : row.asset = row'.asset := by
    rw [hid.symm.trans (hasset.trans hid')] at ha
    exact Option.some.inj (ha.symm.trans ha')
  rw [hsame] at hns htenant
  obtain rfl := Option.some.inj (hns.symm.trans hns')
  rintro (hne | hne | hne)
  · exact hne hasset
  · exact hne (hname.trans hname'.symm)
  · exact hne (htenant.trans htenant'.symm)

namespace StagingSystem

variable {rt : Runtime} {deployment : StagingDeployment} {sys : StagingSystem}

theorem SharedAt.symm {id id' : String} {t : Instant} (h : sys.SharedAt deployment id id' t) :
    sys.SharedAt deployment id' id t := by
  obtain ⟨row, hrow, row', hrow', hforeign, hcompletable, hcompletable', hshare⟩ := h
  refine ⟨row', hrow', row, hrow, ?_, hcompletable', hcompletable, hshare.symm⟩
  rcases hforeign with hne | hne | hne
  · exact Or.inl hne.symm
  · exact Or.inr (Or.inl hne.symm)
  · exact Or.inr (Or.inr hne.symm)

theorem SharedAt.isSome {id id' : String} {t : Instant} (h : sys.SharedAt deployment id id' t) :
    (sys.registry.db.uploadSession? id).isSome ∧ (sys.registry.db.uploadSession? id').isSome := by
  obtain ⟨row, hrow, row', hrow', -⟩ := h
  exact ⟨Option.isSome_of_eq_some (Db.findUploadSession_eq_some.mp hrow).1,
    Option.isSome_of_eq_some (Db.findUploadSession_eq_some.mp hrow').1⟩

namespace Inv

variable {registry' : RegistrySystem}

/-- A step of the registry that neither issues nor begins a completion keeps the invariant. -/
theorem registry (hinv : sys.Inv deployment) {a : RegistryAction}
    (h : RegistryStep rt sys.registry a registry')
    (hissue : ∀ input ids now, a ≠ .operation (.issueUploadSession input ids now))
    (hcomplete : ∀ input, a ≠ .complete input) :
    Inv deployment { sys with registry := registry' } := by
  have hkeeps := h.keepsStaged
  have hback : ∀ {id}, (registry'.db.uploadSession? id).isSome →
      (sys.registry.db.uploadSession? id).isSome := fun hs => h.uploadSession?_isSome hissue hs
  refine hinv.of_keepsStaged rfl hkeeps (fun hs => Or.inl (hback hs)) ?_ ?_ ?_
  · intro id id' t hshared
    obtain ⟨hs, hs'⟩ := hshared.isSome
    exact hinv.apart id id' t (hinv.sharedAt_of_old hkeeps hshared (hback hs) (hback hs'))
  · intro input hinput
    rw [mem_underWay] at hinput ⊢
    rcases hinput with hlooked | ⟨c', hc', hunread, rfl⟩
    · exact Or.inl hlooked
    · rcases h.unread hcomplete hc' hunread with hold | ⟨c, hc, hstarted, hinput, -⟩
      · exact Or.inr ⟨c', hold, hunread, rfl⟩
      · exact Or.inr ⟨c, hc, by rw [hstarted]; rfl, hinput.symm⟩
  · intro c' hc' request hprogress
    rcases h.unread hcomplete hc' (by rw [hprogress]; rfl) with
      hold | ⟨c, hc, -, hinput, now, request', hone, hprogress'⟩
    · exact Or.inl hold
    · right
      obtain rfl := CompletionProgress.accepted.inj (hprogress.symm.trans hprogress')
      generalize hresult : PhaseOneResult.request request = result at hone
      cases phaseOne_cases hone with
      | replay => cases hresult
      | validationFailure => cases hresult
      | request hrow =>
          obtain rfl := PhaseOneResult.request.inj hresult
          rw [hinput]
          refine hinv.acceptedFor hkeeps ⟨rfl, Db.findUploadSession_id hrow, _, hrow, rfl⟩

/-- **An issuance that takes a key of its own keeps the invariant.** -/
theorem issue (hinv : sys.Inv deployment) {input : RegistryIssueUploadSessionInput}
    {ids : IssueIds} {now : Instant} (hown : sys.TakesOwnKey deployment input now)
    (h : RegistryStep rt sys.registry (.operation (.issueUploadSession input ids now)) registry') :
    Inv deployment { sys with registry := registry' } := by
  have hkeeps := h.keepsStaged
  obtain rfl := Option.some.inj h
  rcases transact_snd (issueTransaction input ids now) sys.registry.db with
    ⟨issued, hissued⟩ | hsame
  swap
  · have hregistry : { sys.registry with db :=
        (RegistryOperation.issueUploadSession input ids now).run rt sys.registry.db } =
          sys.registry := by
      simp only [RegistryOperation.run, hsame]
    rw [hregistry]
    exact hinv
  simp only [RegistryOperation.run] at hkeeps ⊢
  generalize (transact (issueTransaction input ids now) sys.registry.db).2 = db' at hissued hkeeps ⊢
  obtain ⟨new, hnew, hadded⟩ := issueTransaction_row hissued
  obtain ⟨assetId, number, hrows⟩ := issueTransaction_issued hissued
  have hsessions : ∀ {id}, (db'.uploadSession? id).isSome →
      (sys.registry.db.uploadSession? id).isSome ∨ id = ids.uploadSessionId := by
    intro id hs
    rw [hrows.uploadSession?, Option.isSome_or, Bool.or_eq_true] at hs
    refine hs.imp_right fun hs => ?_
    by_contra hne
    rw [if_neg (Ne.symm hne)] at hs
    cases hs
  -- the new session shares nothing with the sessions there were
  have happart : ∀ {id t}, (sys.registry.db.uploadSession? id).isSome →
      ¬ SharedAt deployment { sys with registry := { sys.registry with db := db' } } id
        ids.uploadSessionId t := by
    rintro id t hold ⟨after, hafter, new', hnew', hforeign, hcompletable, hcompletable', hshare⟩
    obtain rfl := Option.some.inj (hnew.symm.trans hnew')
    obtain ⟨row, hrow, hkey, hcontinues⟩ := hinv.continued hkeeps hold hafter
    have hs := (Db.findUploadSession_eq_some.mp hrow).1
    obtain ⟨hmem, hid⟩ := Db.uploadSession?_eq_some_iff.mp hs
    obtain ⟨hle, hunexpired⟩ := hadded.completableAt_iff.mp hcompletable'
    refine hown (issueTransaction_newRecord hissued) row.uploadSession hmem row (hid ▸ hrow) ?_ ?_
      ?_
    · intro hnamed
      rcases hadded.asset with hsame | ⟨hnone, -⟩
      · refine Db.not_foreign hafter hnew (hcontinues.asset.trans ?_) hforeign
        exact Option.some.inj (hnamed.symm.trans hsame)
      · rw [hnone] at hnamed
        cases hnamed
    · exact CompletionReplayRow.completableWithin_iff.mpr
        ⟨t, hle, hunexpired, hcontinues.completable hcompletable⟩
    · rw [← hkey, ← hadded.staged.objectKey]
      exact hshare
  refine hinv.of_keepsStaged rfl hkeeps (fun hs => ?_) ?_ (fun _ hinput => hinput)
    fun c hc _ _ => Or.inl hc
  · rcases hsessions hs with hold | rfl
    · exact Or.inl hold
    · exact Or.inr ⟨new, _, hnew, hadded.staged⟩
  · intro id id' t hshared
    obtain ⟨hs, hs'⟩ := hshared.isSome
    rcases hsessions hs with hold | rfl
    · rcases hsessions hs' with hold' | rfl
      · exact hinv.apart id id' t (hinv.sharedAt_of_old hkeeps hshared hold hold')
      · exact happart hold hshared
    · rcases hsessions hs' with hold' | rfl
      · exact happart hold' hshared.symm
      · obtain ⟨row, hrow, row', hrow', hforeign, -⟩ := hshared
        obtain rfl := Option.some.inj (hrow.symm.trans hrow')
        exact Db.not_foreign hrow hrow' rfl hforeign

/-- **An issuance without a key of its own makes sessions share an object** when it commits. -/
theorem not_apart_of_issue (hinv : sys.Inv deployment) {input : RegistryIssueUploadSessionInput}
    {ids : IssueIds} {now : Instant} {db' : Db} {issued : RegistryIssuedUploadSession}
    (hissued : issueTransaction input ids now sys.registry.db = .ok (issued, db'))
    (hshares : ¬ sys.TakesOwnKey deployment input now) :
    ¬ Apart deployment { sys with registry := { sys.registry with db := db' } } := by
  intro hapart
  refine hshares fun _ s hs row hrow hasset hwithin hshare => ?_
  obtain ⟨t, hle, hunexpired, hcompletable⟩ :=
    CompletionReplayRow.completableWithin_iff.mp hwithin
  obtain ⟨row₀, key, hrow₀, hstaged⟩ := hinv.joined
    (Option.isSome_of_eq_some (Db.findUploadSession_eq_some.mp hrow).1)
  obtain rfl := Option.some.inj (hrow₀.symm.trans hrow)
  obtain ⟨row', hrow', hcontinues, hstill⟩ := issueTransaction_continues hissued hrow hstaged
  obtain ⟨new, hnew, hadded⟩ := issueTransaction_row hissued
  refine hapart s.id ids.uploadSessionId t ⟨row', hrow', new, hnew, Or.inl fun hsame => ?_,
    hstill t hcompletable, hadded.completableAt_iff.mpr ⟨hle, hunexpired⟩, ?_⟩
  · rw [hcontinues.asset] at hsame
    rcases hadded.asset with hnamed | ⟨-, hnone⟩
    · exact hasset (hsame ▸ hnamed)
    · obtain ⟨-, -, hasset?, -⟩ := Db.findUploadSession_eq_some.mp hrow
      have hid := (Db.asset?_eq_some_iff.mp hasset?).2
      rw [← hsame, hid, hasset?] at hnone
      cases hnone
  · rw [hcontinues.staged.objectKey, ← hstaged.objectKey, hadded.staged.objectKey]
    exact hshare

/-- An upload that writes its own object keeps the invariant. -/
theorem upload (hinv : sys.Inv deployment) {uploadSessionId : String} {row : CompletionReplayRow}
    {key : List UInt8} {bytes : List UInt8} {metadata : List (String × String)}
    (hown : sys.WritesOwnObject deployment uploadSessionId)
    (hrow : sys.registry.db.findUploadSession uploadSessionId = some row)
    (hkey : deployment.uploadedKey row.objectKey = some key) :
    Inv deployment { sys with
      objects := Function.update sys.objects key (some ⟨uploadSessionId, bytes, metadata⟩) } where
  joined := hinv.joined
  apart := hinv.apart
  accepted c hc request hprogress := by
    refine hinv.acceptedFor ?_ (hinv.accepted c hc request hprogress)
    exact Db.KeepsStaged.refl _
  owned input hinput := by
    have howns := hinv.owned input hinput
    refine ⟨howns.bucket, howns.observed, ?_⟩
    obtain ⟨copied, upload, hcopied, hupload, hwriter⟩ := howns.own
    by_cases heq : copied = key
    · refine ⟨copied, _, hcopied, by rw [heq]; exact Function.update_self _ _ _, ?_⟩
      by_contra hne
      obtain ⟨row', hrow', hqualified⟩ := howns.observed
      rw [StagingDeployment.snapshotKey_of_qualifiedKey howns.bucket hqualified, heq] at hcopied
      exact hown row hrow key hkey input hinput (Ne.symm hne) row' hrow' hcopied
    · exact ⟨copied, upload, hcopied, (Function.update_of_ne heq _ _).trans hupload, hwriter⟩

/-- A completion that looks at its own object keeps the invariant. -/
theorem look (hinv : sys.Inv deployment) {runtime : DurableRuntime} {context : RequestContext}
    {uploadSessionId : String} {request : UploadCompletionRequest} {prepared : PreparedCompletion}
    (hown : sys.LooksAtOwnObject deployment uploadSessionId)
    (h : prepareCompletion rt (sys.dependencies rt deployment runtime) context uploadSessionId
      request (getUploadSession sys.registry.db uploadSessionId) = .ok prepared) :
    Inv deployment { sys with looked := sys.looked ++ [some prepared.input] } := by
  obtain ⟨hid, -, session, descriptor, hfound, hhead, hstagedObject⟩ := prepareCompletion_eq_ok h
  obtain ⟨row, hrow, rfl⟩ := Option.map_eq_some_iff.mp hfound
  obtain ⟨hbucket, hqualified, hobject⟩ := headObject_blobStore hhead
  have hkeeps := Db.KeepsStaged.refl sys.registry.db
  refine ⟨hinv.joined, hinv.apart, fun input hinput => ?_, fun c hc request hprogress => ?_⟩
  swap
  · refine hinv.acceptedFor ?_ (hinv.accepted c hc request hprogress)
    exact hkeeps
  have hstays : input ∈ sys.underWay →
      OwnsCopy deployment { sys with looked := sys.looked ++ [some prepared.input] } input := by
    intro hmem
    refine hinv.ownsCopy ?_ ?_ (hinv.owned input hmem)
    · rfl
    · exact hkeeps
  rw [mem_underWay] at hinput
  rcases hinput with hlooked | hcompletion
  · rcases List.mem_append.mp hlooked with hold | hnew
    · exact hstays (mem_underWay.mpr (Or.inl hold))
    · obtain rfl := Option.some.inj (List.mem_singleton.mp hnew)
      have hdescriptor : prepared.input.stagedObject.descriptor = descriptor := by
        rw [hstagedObject]
        rfl
      refine ⟨hdescriptor ▸ hbucket, ⟨row, hid ▸ hrow, hdescriptor ▸ hqualified⟩, ?_⟩
      obtain ⟨key, hkey, upload, hupload, hwriter⟩ := hown row hrow _ (by
        rw [StagingDeployment.headedKey]
        exact Option.map_eq_some_iff.mpr ⟨descriptor.key, hqualified, rfl⟩) hobject
      refine ⟨key, upload, ?_, hupload, hwriter.trans hid.symm⟩
      rw [hdescriptor, StagingDeployment.snapshotKey_of_qualifiedKey hbucket hqualified]
      exact hkey
  · exact hstays (mem_underWay.mpr (Or.inr hcompletion))

/-- A completion that begins keeps the invariant. -/
theorem call (hinv : sys.Inv deployment) {n : Nat} {input : RegistryCompleteUploadSessionInput}
    (hlooked : (sys.looked[n]?).join = some input) :
    Inv deployment { sys with
      registry := sys.registry.complete input
      looked := sys.looked.set n none } := by
  have hmem : some input ∈ sys.looked :=
    List.mem_of_getElem? (Option.join_eq_some_iff.mp hlooked)
  have hdb : (sys.registry.complete input).db = sys.registry.db := by
    unfold RegistrySystem.complete
    split <;> rfl
  have hcompletions : ∀ c ∈ (sys.registry.complete input).completions,
      c ∈ sys.registry.completions ∨
        c.input = input ∧ ∀ request, c.progress ≠ .accepted request := by
    intro c hc
    unfold RegistrySystem.complete at hc
    split at hc
    · refine (List.mem_append.mp hc).imp_right fun hc => ?_
      obtain rfl := List.mem_singleton.mp hc
      exact ⟨rfl, nofun⟩
    · refine (List.mem_append.mp hc).imp_right fun hc => ?_
      obtain rfl := List.mem_singleton.mp hc
      exact ⟨rfl, nofun⟩
  refine hinv.of_keepsStaged rfl (by rw [hdb]; exact Db.KeepsStaged.refl _)
    (fun hs => Or.inl (hdb ▸ hs)) ?_ ?_ ?_
  · intro id id' t hshared
    rw [SharedAt, hdb] at hshared
    exact hinv.apart id id' t hshared
  · intro input' hinput
    rw [mem_underWay] at hinput ⊢
    rcases hinput with hset | ⟨c, hc, hunread, rfl⟩
    · rcases List.mem_or_eq_of_mem_set hset with hold | hnone
      · exact Or.inl hold
      · cases hnone
    · rcases hcompletions c hc with hold | ⟨rfl, -⟩
      · exact Or.inr ⟨c, hold, hunread, rfl⟩
      · exact Or.inl hmem
  · intro c hc request hprogress
    rcases hcompletions c hc with hold | ⟨-, hnot⟩
    · exact Or.inl hold
    · exact absurd hprogress (hnot request)

end Inv

end StagingSystem

/-- **Every step that keeps sessions apart keeps the invariant.** -/
theorem StagingStep.inv {rt : Runtime} {deployment : StagingDeployment} {sys sys' : StagingSystem}
    {a : StagingAction} (hinv : sys.Inv deployment) (h : StagingStep rt deployment sys a sys')
    (hapart : KeepsApart rt deployment ⟨sys, a, sys'⟩) : sys'.Inv deployment := by
  cases a with
  | issue runtime context request =>
      simp only [StagingStep, StagingSystem.next] at h
      split at h
      · obtain rfl := Option.some.inj h
        exact hinv
      · rename_i input hprepared
        obtain ⟨registry', hregistry, rfl⟩ := Option.map_eq_some_iff.mp h
        exact hinv.issue (hapart input (by rw [hprepared]; rfl)) hregistry
  | upload uploadSessionId bytes metadata =>
      simp only [StagingStep, StagingSystem.next, Option.bind_eq_bind,
        Option.bind_eq_some_iff] at h
      obtain ⟨session, hsession, key, hkey, h⟩ := h
      obtain ⟨row, hrow, rfl⟩ := Option.map_eq_some_iff.mp hsession
      obtain rfl := Option.some.inj h
      exact hinv.upload hapart hrow hkey
  | look runtime context uploadSessionId request =>
      simp only [StagingStep, StagingSystem.next] at h
      split at h
      · obtain rfl := Option.some.inj h
        exact hinv
      · rename_i prepared hprepared
        obtain rfl := Option.some.inj h
        exact hinv.look hapart hprepared
  | call n =>
      obtain ⟨input, hlooked, h⟩ := Option.bind_eq_some_iff.mp h
      obtain rfl := Option.some.inj h
      exact hinv.call hlooked
  | canonicalize i later =>
      obtain ⟨request, -, h⟩ := Option.bind_eq_some_iff.mp h
      obtain ⟨registry', hregistry, rfl⟩ := Option.map_eq_some_iff.mp h
      exact hinv.registry hregistry nofun nofun
  | registry a =>
      simp only [StagingStep, StagingSystem.next] at h
      split at h
      · cases h
      · rename_i hrequested
        obtain ⟨registry', hregistry, rfl⟩ := Option.map_eq_some_iff.mp h
        refine hinv.registry hregistry (fun input ids now heq => hrequested ?_)
          fun input heq => hrequested ?_
        · rw [heq]
          rfl
        · rw [heq]
          rfl

/-! ### What snapshots copy -/

/-- **Under the invariant a step copies its own object.** -/
theorem StagingSystem.Inv.copiesOwn {deployment : StagingDeployment} {sys sys' : StagingSystem}
    {a : StagingAction} (hinv : sys.Inv deployment) : CopiesOwn deployment ⟨sys, a, sys'⟩ := by
  cases a with
  | canonicalize i later =>
      intro request hrequest
      obtain ⟨c, hc, hprogress⟩ := Option.bind_eq_some_iff.mp hrequest
      have haccepted : c.progress = .accepted request := by
        unfold CompletionProgress.accepted? at hprogress
        split at hprogress
        · rename_i heq
          rw [heq, Option.some.inj hprogress]
        · cases hprogress
      have hmem := List.mem_of_getElem? hc
      have hfor := hinv.accepted c hmem request haccepted
      have howns := hinv.owned c.input (StagingSystem.mem_underWay.mpr
        (Or.inr ⟨c, hmem, by rw [haccepted]; rfl, rfl⟩))
      obtain ⟨row, hrow, hversion⟩ := hfor.version
      refine ⟨⟨row, hfor.uploadSessionId ▸ hrow, hversion⟩, ?_⟩
      intro hok effect heffect copySource hcopy
      obtain ⟨snapshot, hresult⟩ := exists_of_isOk hok
      obtain ⟨staged, hstaged, rfl⟩ := copySource_of_snapshot hresult heffect hcopy
      obtain ⟨key, upload, hkey, hupload, hwriter⟩ := howns.own
      refine ⟨upload, ?_, hwriter.trans hfor.uploadSessionId.symm⟩
      have hlocal : (snapshotInput request).localPath =
          buildStagingSnapshotSourcePath c.input.stagedObject.descriptor := by
        rw [snapshotInput, hfor.stagedObject]
      rw [hlocal] at hstaged
      rw [StagingDeployment.snapshotKey, hstaged] at hkey
      exact Option.bind_eq_some_iff.mpr ⟨key, hkey, hupload⟩
  | _ => trivial

/-- The staging of the sample layout. -/
def sampleStagingDeployment : StagingDeployment where
  stagingBlobStore := sampleStagingStore
  sourceRepository := sampleSourceRepository
  parseUrl := sampleParseUrl
  plus := false

/-- A registry that knows two tenants, over an empty staging bucket. -/
def sampleStagingSystem : StagingSystem where
  registry :=
    { db :=
        { sampleRegistry with
          tenantScopes :=
            ⟨[⟨"tenant-1", "namespace-1", "acme"⟩, ⟨"tenant-2", "namespace-1", "globex"⟩],
              by decide⟩ }
      completions := [] }
  objects _ := none
  looked := []

theorem sampleStagingSystem_fresh : sampleStagingSystem.Fresh :=
  ⟨⟨rfl, rfl, rfl, rfl⟩, fun _ => rfl, rfl⟩

/-- The context of a request of an actor that may act for one tenant only. -/
def tenantContext (tenantId : String) : RequestContext where
  actor := some ⟨"user-" ++ tenantId, [], ["media"], [tenantId]⟩
  surface := some .publicApi
  idempotencyKey := some "key-1"

/-- A request of a tenant to issue a session for a new asset under an object key. -/
def tenantRequest (tenantId objectKey : String) : UploadSessionRequest where
  serviceNamespaceId := "media"
  tenantId := some tenantId
  assetOwner := "customer:" ++ tenantId
  source := ⟨"hero.png", "image/png"⟩
  upload := ⟨objectKey, 5, sampleChecksum⟩

/-- A tenant issues its session. -/
def tenantIssues (tenantId key objectKey : String) : StagingAction :=
  .issue { sampleDurableRuntime with issueIds := sampleIds key } (tenantContext tenantId)
    (tenantRequest tenantId objectKey)

/-- The bytes that the sample sessions declare. -/
def sampleBytes : List UInt8 := "hello".toList.map fun c => c.val.toUInt8

/-- Other bytes of the same length. -/
def otherBytes : List UInt8 := "world".toList.map fun c => c.val.toUInt8

/-- A client uploads bytes with the declared checksum through the target of a session. -/
def tenantUploads (key : String) (bytes : List UInt8) : StagingAction :=
  .upload ("session-" ++ key) bytes [("cdngine-checksum-sha256", sampleChecksum.value)]

/-- A tenant asks to complete its session. -/
def tenantLooks (tenantId key objectKey : String) : StagingAction :=
  .look sampleDurableRuntime (tenantContext tenantId) ("session-" ++ key)
    ⟨objectKey, 5, sampleChecksum⟩

/-- The registry serves the `n`th completion. -/
def completionRuns (n : Nat) (newDispatchId : String) : List StagingAction :=
  [.call n, .registry (.phaseOne n 2000), .canonicalize n fun _ _ => .ok {},
    .registry (.phaseTwo n newDispatchId 3000)]

/-- Two tenants upload under keys of their own, and both complete their sessions. -/
def ownKeyActions : List StagingAction :=
  [tenantIssues "acme" "a" "acme/hero.png", tenantIssues "globex" "b" "globex/hero.png",
    tenantUploads "a" sampleBytes, tenantUploads "b" sampleBytes, tenantLooks "acme" "a" "acme/hero.png",
    tenantLooks "globex" "b" "globex/hero.png"] ++
    completionRuns 0 "dispatch-a" ++ completionRuns 1 "dispatch-b"

/-- Two tenants issue sessions under one key. -/
def sharedKeyActions : List StagingAction :=
  [tenantIssues "acme" "a" "photos/hero.png", tenantIssues "globex" "b" "photos/hero.png"]

/-- The second tenant completes its session with what the first has uploaded. -/
def takenBytesActions : List StagingAction :=
  sharedKeyActions ++ [tenantUploads "a" sampleBytes, tenantLooks "globex" "b" "photos/hero.png"] ++
    completionRuns 0 "dispatch-b"

/-- The first tenant writes the object of the second between the look and the copy. -/
def replacedBytesActions : List StagingAction :=
  sharedKeyActions ++ [tenantUploads "b" sampleBytes, tenantLooks "globex" "b" "photos/hero.png",
    tenantUploads "a" otherBytes] ++ completionRuns 0 "dispatch-b"

end Cdngine
