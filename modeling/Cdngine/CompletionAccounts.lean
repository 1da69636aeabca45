import Cdngine.JsonText
import Cdngine.RegistryConsistency
import Cdngine.UploadRetries

/-!
# One Dispatch for Each Canonical Source

The steps here are whole transactions, one after another, with the calls interleaved between
their transactions. Two completions of one session under different templates that overlap
inside their second transactions, each reading before the other commits, may dispatch twice.

A completion records a canonical source and dispatches a workflow in one transaction, but it
creates no dispatch when one has its workflow key. A workflow key joins the namespace, the
asset, the version and the template with colons; where the generated ids and the names of
the namespaces hold none, it belongs to one version. Then a version has a dispatch exactly
when its source is recorded, and never two.

An idempotency record keeps a reference to the rows of its response and the response is
built again from them. Since the rows agree and a recorded source is complete, every record
answers: the request that wrote it, sent again at any later time, is served with the same
ids and leaves the registry as it is.

## Main results

* `buildWorkflowKey_inj`: the workflow keys of two versions differ.
* `Accounted.step`: every step of the registry keeps the accounts.
* `one_dispatch_for_each_source`: a version has one dispatch or none, one exactly when its
  source is recorded, and exactly then it is settled.
* `recorded_requests_answered`: every recorded request is answered from its record.
-/

open Relational Runs

namespace Cdngine

/-! ### Generated ids -/

/-- An id as the services generate it: it is not empty, and it holds no colon. -/
structure IsGenerated (id : String) : Prop where
  ne_empty : id ≠ ""
  colon_notMem : ':' ∉ id.toList

/-- The ids of an issuance are generated. -/
structure IssueIds.Generated (ids : IssueIds) : Prop where
  assetId : IsGenerated ids.assetId
  versionId : IsGenerated ids.versionId

/-- A snapshot names its canonical source in full. -/
structure SnapshotResult.Named (source : SnapshotResult) : Prop where
  repositoryEngine : source.repositoryEngine ≠ ""
  canonicalSourceId : source.canonicalSourceId ≠ ""
  snapshotId : source.snapshotId ≠ ""
  logicalPath : source.logicalPath ≠ ""

/-- What the services around the registry supply to a step: ids that are generated, and
snapshots that name their source. -/
def RegistryAction.Supplied : RegistryAction → Prop
  | .operation (.issueUploadSession _ ids _) => ids.Generated
  | .canonicalize _ (.ok source) => source.Named
  | _ => True

instance (id : String) : Decidable (IsGenerated id) :=
  decidable_of_iff (id ≠ "" ∧ ':' ∉ id.toList) ⟨fun h => ⟨h.1, h.2⟩, fun h => ⟨h.1, h.2⟩⟩

instance (ids : IssueIds) : Decidable ids.Generated :=
  decidable_of_iff (IsGenerated ids.assetId ∧ IsGenerated ids.versionId)
    ⟨fun h => ⟨h.1, h.2⟩, fun h => ⟨h.1, h.2⟩⟩

instance (source : SnapshotResult) : Decidable source.Named :=
  decidable_of_iff (source.repositoryEngine ≠ "" ∧ source.canonicalSourceId ≠ "" ∧
      source.snapshotId ≠ "" ∧ source.logicalPath ≠ "")
    ⟨fun h => ⟨h.1, h.2.1, h.2.2.1, h.2.2.2⟩, fun h => ⟨h.1, h.2, h.3, h.4⟩⟩

instance : DecidablePred RegistryAction.Supplied
  | .operation (.issueUploadSession _ ids _) => inferInstanceAs (Decidable ids.Generated)
  | .canonicalize _ (.ok source) => inferInstanceAs (Decidable source.Named)
  | .operation (.beginPublication _ _) => isTrue trivial
  | .operation (.publishVersion _ _ _ _ _) => isTrue trivial
  | .operation (.markRunning _) => isTrue trivial
  | .operation (.markCompleted _) => isTrue trivial
  | .operation (.markFailedRetryable _) => isTrue trivial
  | .operation (.operator _ _) => isTrue trivial
  | .complete _ => isTrue trivial
  | .phaseOne _ _ => isTrue trivial
  | .canonicalize _ (.error _) => isTrue trivial
  | .phaseTwo _ _ _ => isTrue trivial
  | .recover _ => isTrue trivial
  | .stop _ => isTrue trivial

/-- **Workflow keys of two versions differ**, where only the template may hold a colon. -/
theorem buildWorkflowKey_inj {serviceNamespaceId serviceNamespaceId' : String}
    {assetId assetId' : String} {versionId versionId' template template' : String}
    (hnamespace : ':' ∉ serviceNamespaceId.toList) (hnamespace' : ':' ∉ serviceNamespaceId'.toList)
    (hasset : ':' ∉ assetId.toList) (hasset' : ':' ∉ assetId'.toList)
    (hversion : ':' ∉ versionId.toList) (hversion' : ':' ∉ versionId'.toList)
    (h : buildWorkflowKey serviceNamespaceId assetId versionId template =
      buildWorkflowKey serviceNamespaceId' assetId' versionId' template') :
      versionId = versionId' := by
  have hkey := congrArg String.toList h
  have hcolon : (":" : String).toList = [':'] := rfl
  simp only [buildWorkflowKey, String.toList_append, hcolon, List.append_assoc,
    List.singleton_append] at hkey
  obtain ⟨-, hrest⟩ := append_cons_inj_of_notMem hnamespace hnamespace' hkey
  obtain ⟨-, hrest⟩ := append_cons_inj_of_notMem hasset hasset' hrest
  obtain ⟨hversions, -⟩ := append_cons_inj_of_notMem hversion hversion' hrest
  exact String.toList_inj.mp hversions

/-! ### The accounts -/

/-- **The accounts of the registry**: its rows agree and carry generated ids, a recorded
source is complete, and no version has two dispatches. -/
structure Db.Accounted (db : Db) : Prop where
  consistent : db.Consistent
  asset : ∀ {id a}, db.asset? id = some a → IsGenerated id
  version : ∀ {id v}, db.version? id = some v → IsGenerated id
  session : ∀ {id s}, db.uploadSession? id = some s → id ≠ ""
  serviceNamespace : ∀ n ∈ db.serviceNamespaces.rows, ':' ∉ n.serviceNamespaceId.toList
  complete : ∀ {id v}, db.version? id = some v → v.Recorded → v.carriesEvidence = true
  single : ∀ d ∈ db.workflowDispatches.rows, ∀ d' ∈ db.workflowDispatches.rows,
    d.assetVersionId = d'.assetVersionId → d = d'

namespace Db.Accounted

variable {db db' : Db}

/-- A workflow key is one of at most one version. -/
theorem workflowKeyOf_unique (h : db.Accounted) {id id' workflowKey : String}
    (hkey : db.WorkflowKeyOf id workflowKey) (hkey' : db.WorkflowKeyOf id' workflowKey) :
    id = id' := by
  obtain ⟨v, a, n, template, hv, ha, hn, rfl⟩ := hkey
  obtain ⟨v', a', n', template', hv', ha', hn', heq⟩ := hkey'
  exact buildWorkflowKey_inj (h.serviceNamespace n (Table.mem_of_find? hn))
    (h.serviceNamespace n' (Table.mem_of_find? hn')) (h.asset ha).colon_notMem
    (h.asset ha').colon_notMem (h.version hv).colon_notMem (h.version hv').colon_notMem heq

/-- A version whose source is recorded has a dispatch. -/
theorem exists_dispatch (h : db.Accounted) {id : String} (hrecorded : db.HasRecorded id) :
    ∃ d ∈ db.workflowDispatches.rows, d.assetVersionId = id := by
  obtain ⟨d, hd, hkey⟩ := h.consistent.dispatched hrecorded
  exact ⟨d, hd, h.workflowKeyOf_unique (h.consistent.dispatch d hd).2 hkey⟩

/-- The dispatches of a version: one when its source is recorded, and none otherwise. -/
theorem dispatchesOf (h : db.Accounted) (id : String) :
    (db.HasRecorded id ∧ ∃ d, db.dispatchesOf id = [d]) ∨
      ¬ db.HasRecorded id ∧ db.dispatchesOf id = [] := by
  by_cases hrecorded : db.HasRecorded id
  · obtain ⟨d, hd, hversion⟩ := h.exists_dispatch hrecorded
    have hmem : d ∈ db.dispatchesOf id := List.mem_filter.mpr ⟨hd, beq_iff_eq.mpr hversion⟩
    have hall : ∀ x ∈ db.dispatchesOf id, x = d := by
      intro x hx
      obtain ⟨hx, hxversion⟩ := List.mem_filter.mp hx
      exact h.single x hx d hd ((eq_of_beq hxversion).trans hversion.symm)
    have hnodup : (db.dispatchesOf id).Nodup := by
      refine List.Nodup.filter _ (db.workflowDispatches.unique.imp fun {a b} hclash hsame => ?_)
      rw [hsame] at hclash
      simp [clash, sameKey] at hclash
    refine Or.inl ⟨hrecorded, d, ?_⟩
    cases hlist : db.dispatchesOf id with
    | nil =>
        rw [hlist] at hmem
        cases hmem
    | cons x rest =>
        rw [hlist] at hall hnodup
        obtain rfl := hall x List.mem_cons_self
        cases rest with
        | nil => rfl
        | cons y rest =>
            obtain rfl := hall y (List.mem_cons_of_mem _ List.mem_cons_self)
            exact absurd List.mem_cons_self (List.nodup_cons.mp hnodup).1
  · refine Or.inr ⟨hrecorded, List.filter_eq_nil_iff.mpr fun d hd hversion => hrecorded ?_⟩
    rw [← eq_of_beq hversion]
    exact (h.consistent.dispatch d hd).1

/-- **A version is settled** exactly when its source is recorded. -/
theorem settled_iff (h : db.Accounted) (id : String) : db.Settled id ↔ db.HasRecorded id := by
  constructor
  · rintro ⟨-, -, -, hdispatches⟩
    rcases h.dispatchesOf id with ⟨hrecorded, -⟩ | ⟨-, hnil⟩
    · exact hrecorded
    · exact absurd hnil hdispatches
  · rintro ⟨v, hv, hrecorded⟩
    refine ⟨v, hv, h.complete hv hrecorded, ?_⟩
    rcases h.dispatchesOf id with ⟨-, d, hd⟩ | ⟨hnot, -⟩
    · rw [hd]
      exact List.cons_ne_nil _ _
    · exact absurd ⟨v, hv, hrecorded⟩ hnot

end Db.Accounted

/-! ### The steps keep the accounts -/

/-- The evidence of the versions and the dispatches are the same. -/
structure Db.SameEvidence (db db' : Db) : Prop where
  version? : ∀ {id v'}, db'.version? id = some v' →
    ∃ v, db.version? id = some v ∧ v'.evidence = v.evidence
  dispatches : db'.workflowDispatches.rows = db.workflowDispatches.rows

namespace Db.SameEvidence

variable {db db' : Db}

theorem refl (db : Db) : db.SameEvidence db := ⟨fun {_ v'} hv' => ⟨v', hv', rfl⟩, rfl⟩

theorem of_onlyMoves (h : db.OnlyMoves db') (hsame : db.SameIdentities db') :
    db.SameEvidence db' where
  version? hv' := by
    obtain ⟨v, hv, -⟩ := hsame.version? hv'
    obtain ⟨state, hmoved⟩ := h.version? hv
    obtain rfl := Option.some.inj (hmoved.symm.trans hv')
    exact ⟨v, hv, rfl⟩
  dispatches := by rw [h.dispatches]

theorem phaseOne {input : RegistryCompleteUploadSessionInput} {now : Instant}
    {result : PhaseOneResult} (h : phaseOne input now db = .ok (result, db')) :
    db.SameEvidence db' where
  version? {id v'} hv' := by
    rcases (phaseOne_cases h).version? id with hsame | ⟨v, w, hv, hw, -, hevidence, -⟩
    · exact ⟨v', hsame ▸ hv', rfl⟩
    · obtain rfl := Option.some.inj (hv'.symm.trans hw)
      exact ⟨v, hv, hevidence⟩
  dispatches := by
    cases phaseOne_cases h with
    | replay _ _ _ hexec => exact (executeAll_dispatches hexec).trans (List.append_nil _)
    | validationFailure _ _ _ _ _ _ hexec =>
        exact (executeAll_dispatches hexec).trans (List.append_nil _)
    | request _ _ _ _ _ _ hexec => exact (executeAll_dispatches hexec).trans (List.append_nil _)

end Db.SameEvidence

namespace Db.Accounted

variable {rt : Runtime} {db db' : Db}

/-- The rows that a transaction rewrites keep their generated ids. -/
theorem rewrite (h : db.Accounted) (hrewrites : db.Rewrites db')
    (hcomplete : ∀ {id v}, db'.version? id = some v → v.Recorded → v.carriesEvidence = true)
    (hsingle : ∀ d ∈ db'.workflowDispatches.rows, ∀ d' ∈ db'.workflowDispatches.rows,
      d.assetVersionId = d'.assetVersionId → d = d') : db'.Accounted where
  consistent := h.consistent.rewrite hrewrites
  asset ha := by
    obtain ⟨a, ha, -⟩ := hrewrites.asset? ha
    exact h.asset ha
  version hv := by
    obtain ⟨v, hv, -⟩ := hrewrites.identities.version? hv
    exact h.version hv
  session hs := by
    obtain ⟨s, hs, -⟩ := hrewrites.identities.uploadSession? hs
    exact h.session hs
  serviceNamespace := by
    rw [hrewrites.keeps.issued.serviceNamespaces]
    exact h.serviceNamespace
  complete := hcomplete
  single := hsingle

theorem sameEvidence (h : db.Accounted) (hrewrites : db.Rewrites db')
    (hsame : db.SameEvidence db') : db'.Accounted := by
  refine h.rewrite hrewrites (fun hv hrecorded => ?_) ?_
  · rename_i id v'
    obtain ⟨v, hv, hevidence⟩ := hsame.version? hv
    have hsource : v'.canonicalSourceId = v.canonicalSourceId :=
      congrArg CanonicalEvidence.canonicalSourceId hevidence
    rw [AssetVersion.carriesEvidence_congr hevidence]
    refine h.complete hv ?_
    rw [AssetVersion.Recorded, ← hsource]
    exact hrecorded
  · rw [hsame.dispatches]
    exact h.single

theorem issue {input : RegistryIssueUploadSessionInput} {ids : IssueIds} {now : Instant}
    {issued : RegistryIssuedUploadSession} (h : db.Accounted) (hids : ids.Generated)
    (htx : issueTransaction input ids now db = .ok (issued, db')) : db'.Accounted := by
  obtain ⟨assetId, number, hissued⟩ := issueTransaction_issued htx
  obtain ⟨hgains, -, -⟩ := issueTransaction_rows htx
  refine ⟨h.consistent.issue htx, ?_, ?_, ?_, ?_, ?_, ?_⟩
  · intro id a ha
    obtain ⟨hmem, rfl⟩ := Db.asset?_eq_some_iff.mp ha
    rcases hgains.assets with hrows | ⟨new, hrows, hnew, -⟩
    · exact h.asset (Db.asset?_eq_some_iff.mpr ⟨hrows ▸ hmem, rfl⟩)
    · rw [hrows] at hmem
      rcases List.mem_append.mp hmem with hold | hmem
      · exact h.asset (Db.asset?_eq_some_iff.mpr ⟨hold, rfl⟩)
      · rw [List.mem_singleton.mp hmem, hnew]
        exact hids.assetId
  · intro id v hv
    rw [hissued.version?] at hv
    rcases Option.or_eq_some_iff.mp hv with hold | ⟨-, hnew⟩
    · exact h.version hold
    · split at hnew
      · rename_i hid
        exact hid ▸ hids.versionId
      · cases hnew
  · intro id s hs
    rw [hissued.uploadSession?] at hs
    rcases Option.or_eq_some_iff.mp hs with hold | ⟨-, hnew⟩
    · exact h.session hold
    · split at hnew
      · rename_i hid
        exact hid ▸ ids.uploadSessionId_ne
      · cases hnew
  · rw [hgains.serviceNamespaces]
    exact h.serviceNamespace
  · intro id v hv hrecorded
    rw [hissued.version?] at hv
    rcases Option.or_eq_some_iff.mp hv with hold | ⟨-, hnew⟩
    · exact h.complete hold hrecorded
    · split at hnew
      · obtain rfl := Option.some.inj hnew
        cases hrecorded
      · cases hnew
  · rw [hissued.dispatches]
    exact h.single

/-- **Phase two keeps the accounts**: it dispatches the workflow of a version that has none. -/
theorem phaseTwo {input : RegistryCompleteUploadSessionInput} {source : SnapshotResult}
    {newDispatchId : String} {now : Instant} {completed : RegistryCompletedUploadSession}
    (h : db.Accounted) (hsource : source.Named)
    (htx : phaseTwo rt input source newDispatchId now db = .ok (completed, db')) :
    db'.Accounted := by
  have hrewrites := h.consistent.rewrites_phaseTwo htx
  cases phaseTwo_cases htx with
  | replay _ _ hexec =>
      refine h.sameEvidence hrewrites ⟨fun {id v'} hv' => ?_, ?_⟩
      · rw [executeAll_version? hexec] at hv'
        exact ⟨v', Option.map_id'.symm.trans hv', rfl⟩
      · exact (executeAll_dispatches hexec).trans (List.append_nil _)
  | @canonical row _ db₁ _ hrow hreplay hstate hevidence hdispatch hcompleted =>
      have hversion := phaseTwoStatements_version? hrow hevidence hdispatch
      have hdb₁ : db₁.workflowDispatches.rows = db.workflowDispatches.rows :=
        (executeAll_dispatches hevidence).trans (List.append_nil _)
      obtain ⟨d, hd, hdkey, hdispatches, -⟩ := phaseTwoDispatch_row hdispatch
      -- the version of the session is not settled, so that it has no dispatch
      have hnone : db.dispatchesOf row.version.id = [] := by
        rcases h.dispatchesOf row.version.id with ⟨hrecorded, -⟩ | ⟨-, hnil⟩
        · have hsettled := (h.settled_iff _).mpr hrecorded
          rw [Db.settled_iff_replayable hrow, hreplay] at hsettled
          cases hsettled
        · exact hnil
      have hfree : ∀ x ∈ db.workflowDispatches.rows, x.assetVersionId ≠ row.version.id := by
        intro x hx hsame
        exact List.filter_eq_nil_iff.mp hnone x hx (beq_iff_eq.mpr hsame)
      refine h.rewrite hrewrites (fun {id v} hv hrecorded => ?_) fun x hx y hy hsame => ?_
      · rw [hversion] at hv
        split at hv
        · obtain rfl := Option.some.inj hv
          simp [AssetVersion.carriesEvidence, AssetVersion.withEvidence, canonicalEvidence, present,
            Option.filter, hsource.repositoryEngine, hsource.canonicalSourceId, hsource.snapshotId,
            hsource.logicalPath]
        · exact h.complete hv hrecorded
      · rcases hdispatches x hx with hxold | ⟨rfl, hxversion⟩
        · rcases hdispatches y hy with hyold | ⟨rfl, hyversion⟩
          · exact h.single x (hdb₁ ▸ hxold) y (hdb₁ ▸ hyold) hsame
          · exact absurd (hsame.trans hyversion) (hfree x (hdb₁ ▸ hxold))
        · rcases hdispatches y hy with hyold | ⟨rfl, -⟩
          · exact absurd (hsame.symm.trans hxversion) (hfree y (hdb₁ ▸ hyold))
          · rfl

end Db.Accounted

/-- **Every operation keeps the accounts.** -/
theorem RegistryOperation.accounted (rt : Runtime) (op : RegistryOperation) {db : Db}
    (h : db.Accounted) (hsupplied : (RegistryAction.operation op).Supplied) :
    (op.run rt db).Accounted := by
  rcases op.rewrites rt h.consistent with ⟨input, ids, now, issued, rfl, htx⟩ | hrewrites
  · exact h.issue hsupplied htx
  · exact h.sameEvidence hrewrites (.of_onlyMoves (op.onlyMoves rt db) hrewrites.identities)

/-- The snapshots of the completions in flight name their source. -/
def RegistrySystem.NamedSnapshots (sys : RegistrySystem) : Prop :=
  ∀ c ∈ sys.completions, ∀ request source, c.progress = .snapshotted request source → source.Named

/-- A completion that moves on, to a snapshot only when that one names its source. -/
theorem RegistrySystem.NamedSnapshots.advance {sys : RegistrySystem} (h : sys.NamedSnapshots)
    {i : Nat} {progress : CompletionProgress} {db : Db}
    (hnamed : ∀ request source, progress = .snapshotted request source → source.Named) :
    (sys.advance i progress db).NamedSnapshots := by
  intro c' hc' request source hprogress
  obtain ⟨j, hj⟩ := List.mem_iff_getElem?.mp hc'
  rcases RegistrySystem.UploadInv.getElem?_advance hj with ⟨-, hmoved, -⟩ | ⟨-, hc⟩
  · exact hnamed request source (hmoved ▸ hprogress)
  · exact h c' (List.mem_of_getElem? hc) request source hprogress

/-- **The steps keep the snapshots named.** -/
theorem RegistryStep.namedSnapshots {rt : Runtime} {sys sys' : RegistrySystem} {a : RegistryAction}
    (h : RegistryStep rt sys a sys') (hnamed : sys.NamedSnapshots) (hsupplied : a.Supplied) :
    sys'.NamedSnapshots := by
  cases a with
  | operation op =>
      obtain rfl := Option.some.inj h
      exact hnamed
  | complete input =>
      obtain rfl := Option.some.inj h
      intro c hc request source hprogress
      unfold RegistrySystem.complete at hc
      split at hc
      all_goals
        rcases List.mem_append.mp hc with hold | hnew
        · exact hnamed c hold request source hprogress
        · obtain rfl := List.mem_singleton.mp hnew
          cases hprogress
  | phaseOne i now =>
      obtain ⟨c, hc, h⟩ := Option.bind_eq_some_iff.mp h
      split at h
      · obtain rfl := Option.some.inj h
        unfold RegistrySystem.phaseOne
        split
        · rename_i result _ _
          exact hnamed.advance fun _ _ hprogress => by cases result <;> cases hprogress
        · exact hnamed.advance fun _ _ hprogress => by cases hprogress
      · cases h
  | canonicalize i result =>
      obtain ⟨c, hc, h⟩ := Option.bind_eq_some_iff.mp h
      split at h
      · obtain rfl := Option.some.inj h
        refine hnamed.advance fun _ _ hprogress => ?_
        obtain ⟨-, rfl⟩ := CompletionProgress.snapshotted.inj hprogress
        exact hsupplied
      · obtain rfl := Option.some.inj h
        exact hnamed.advance fun _ _ hprogress => by cases hprogress
      · cases h
  | phaseTwo i newDispatchId now =>
      obtain ⟨c, hc, h⟩ := Option.bind_eq_some_iff.mp h
      split at h
      · obtain rfl := Option.some.inj h
        unfold RegistrySystem.phaseTwo
        split <;> exact hnamed.advance fun _ _ hprogress => by cases hprogress
      · cases h
  | recover i =>
      obtain ⟨c, hc, h⟩ := Option.bind_eq_some_iff.mp h
      split at h
      · obtain rfl := Option.some.inj h
        exact hnamed.advance fun _ _ hprogress => by cases hprogress
      · cases h
  | stop i =>
      obtain ⟨c, hc, h⟩ := Option.bind_eq_some_iff.mp h
      split at h
      · cases h
      · cases h
      · obtain rfl := Option.some.inj h
        exact hnamed.advance fun _ _ hprogress => by cases hprogress

/-- **Every step keeps the accounts.** -/
theorem RegistryStep.accounted {rt : Runtime} {sys sys' : RegistrySystem} {a : RegistryAction}
    (h : RegistryStep rt sys a sys') (hdb : sys.db.Accounted) (hnamed : sys.NamedSnapshots)
    (hsupplied : a.Supplied) : sys'.db.Accounted := by
  have htransacts := RegistryStep.transacts h
  generalize sys'.db = db' at htransacts ⊢
  cases htransacts with
  | none => exact hdb
  | operation op => exact op.accounted rt hdb hsupplied
  | phaseOne _ hone =>
      exact hdb.sameEvidence (hdb.consistent.rewrites_phaseOne hone) (.phaseOne hone)
  | phaseTwo hc hprogress htwo =>
      exact hdb.phaseTwo (hnamed _ (List.mem_of_getElem? hc) _ _ hprogress) htwo
  | @recover i c request cause _ _ =>
      have hrewrites := hdb.consistent.rewrites_recover c.input request.versionId cause
      exact hdb.sameEvidence hrewrites
        (.of_onlyMoves (recoverFailedCompletion_onlyMoves _ _ _ _) hrewrites.identities)

/-! ### Runs -/

/-- A run of the registry from its first request on, one whole transaction at a time, whose
steps are supplied with generated ids and named sources, in namespaces without a colon in their
name. -/
structure SuppliedRun (rt : Runtime) (sys₀ : RegistrySystem)
    (tr : List (Transition RegistrySystem RegistryAction)) (sys : RegistrySystem) : Prop where
  unused : sys₀.db.Unused
  idle : sys₀.completions = []
  serviceNamespaces : ∀ n ∈ sys₀.db.serviceNamespaces.rows, ':' ∉ n.serviceNamespaceId.toList
  run : Run (RegistryStep rt) sys₀ tr sys
  supplied : ∀ τ ∈ tr, τ.action.Supplied

variable {rt : Runtime} {sys₀ sys : RegistrySystem}
  {tr : List (Transition RegistrySystem RegistryAction)}

theorem SuppliedRun.accounted (h : SuppliedRun rt sys₀ tr sys) : sys.db.Accounted := by
  have hstart : sys₀.db.Accounted :=
    { consistent := h.unused.consistent
      asset := fun ha => by simp [Db.asset?, Table.find?, h.unused.assets] at ha
      version := fun hv => by simp [Db.version?, Table.find?, h.unused.versions] at hv
      session := fun hs => by simp [Db.uploadSession?, Table.find?, h.unused.sessions] at hs
      serviceNamespace := h.serviceNamespaces
      complete := fun hv => by simp [Db.version?, Table.find?, h.unused.versions] at hv
      single := fun d hd => by simp [h.unused.dispatches] at hd }
  have hidle : sys₀.NamedSnapshots := fun c hc => by simp [h.idle] at hc
  exact (h.run.invariant_where (I := fun sys => sys.db.Accounted ∧ sys.NamedSnapshots)
    (C := fun τ => τ.action.Supplied)
    (fun hinv hstep hsupplied => ⟨RegistryStep.accounted hstep hinv.1 hinv.2 hsupplied,
      RegistryStep.namedSnapshots hstep hinv.2 hsupplied⟩) ⟨hstart, hidle⟩ h.supplied).1

/-- **One dispatch for each canonical source**: in every state that the registry reaches through
whole transactions, a version is settled and has one dispatch, or it has neither a recorded
source nor a dispatch. -/
theorem one_dispatch_for_each_source (h : SuppliedRun rt sys₀ tr sys) (versionId : String) :
    (sys.db.Settled versionId ∧ ∃ d, sys.db.dispatchesOf versionId = [d]) ∨
      ¬ sys.db.HasRecorded versionId ∧ sys.db.dispatchesOf versionId = [] := by
  have hdb := h.accounted
  rcases hdb.dispatchesOf versionId with ⟨hrecorded, hone⟩ | hnone
  · exact Or.inl ⟨(hdb.settled_iff versionId).mpr hrecorded, hone⟩
  · exact Or.inr hnone

/-- The sample session is completed, and its version is settled with one dispatch. -/
theorem completed_sample_dispatched_once :
    ∃ tr sys, SuppliedRun sampleRuntime sampleRegistrySystem tr sys ∧
      sys.db.Settled "version-a" ∧ ∃ d, sys.db.dispatchesOf "version-a" = [d] := by
  obtain ⟨tr, sys, hrun, hsupplied, hdispatched⟩ := exists_run_of_exec
    (RegistrySystem.next sampleRuntime) sampleRegistrySystem completeActions
    (fun tr sys => (∀ τ ∈ tr, τ.action.Supplied) ∧
      (sys.db.dispatchesOf "version-a").isEmpty = false) (by decide +kernel)
  have hsample : SuppliedRun sampleRuntime sampleRegistrySystem tr sys :=
    ⟨⟨rfl, rfl, rfl, rfl, rfl, rfl, rfl⟩, rfl, by decide, hrun, hsupplied⟩
  rcases one_dispatch_for_each_source hsample "version-a" with hsettled | ⟨-, hnone⟩
  · exact ⟨tr, sys, hsample, hsettled⟩
  · rw [hnone] at hdispatched
    cases hdispatched

/-! ### Recorded requests -/

namespace Db.Accounted

variable {db : Db}

/-- The rows that a record refers to. -/
theorem holdsUpload (h : db.Accounted) {operationKey : String}
    {reference : Option ReplayableUploadReference} (hrefers : db.Resolves operationKey reference) :
    ∃ ref, reference = some ref ∧
      db.HoldsUpload ⟨ref.assetId, ref.versionId, ref.uploadSessionId⟩ ∧
      (⟨ref.assetId, ref.versionId, ref.uploadSessionId⟩ : UploadIds).Named := by
  obtain ⟨ref, s, v, href, hs, hversion, hv, hasset, -⟩ := hrefers
  obtain ⟨a, ha⟩ := Option.isSome_iff_exists.mp (h.consistent.version hv)
  rw [hasset] at ha
  exact ⟨ref, href, ⟨⟨s, hs, hversion⟩, ⟨v, hv, hasset⟩, ⟨a, ha, h.consistent.asset ha⟩⟩,
    (h.asset ha).ne_empty, (h.version hv).ne_empty, h.session hs⟩

/-- The response that the record of a completion replays. -/
theorem replays (h : db.Accounted) {uploadSessionId : String}
    {reference : Option ReplayableUploadReference}
    (hrefers : db.Resolves (buildCompletionOperationKey uploadSessionId) reference) :
    ∃ ref completed, reference = some ref ∧ loadCompletionReplay db reference = .ok completed ∧
      completed.isDuplicate = true ∧ completed.uploadSessionId = uploadSessionId ∧
      completed.uploadIds = ⟨ref.assetId, ref.versionId, ref.uploadSessionId⟩ ∧
      ref.workflowDispatchId = some completed.workflowDispatch.dispatchId := by
  obtain ⟨ref, href, hrows, -, -, hsession⟩ := h.holdsUpload hrefers
  obtain ⟨ref', -, v, href', -, -, hv, -, hcase⟩ := hrefers
  obtain rfl := Option.some.inj (href.symm.trans href')
  rcases hcase with hcreate | ⟨hkey, hrecorded, d, hd, hdispatchId, hworkflow⟩
  · exact absurd hcreate (buildCompletionOperationKey_ne_create uploadSessionId)
  obtain ⟨row, hrow, hids⟩ := hrows.findUploadSession
  have hversion : row.version.id = ref.versionId := congrArg UploadIds.versionId hids
  have hsettled : db.Settled row.version.id := by
    rw [hversion]
    exact (h.settled_iff _).mpr ⟨v, hv, hrecorded⟩
  rw [Db.settled_iff_replayable hrow] at hsettled
  obtain ⟨replay, hreplay⟩ := Option.isSome_iff_exists.mp hsettled
  have hnamed : ¬ ref.uploadSessionId.isEmpty = true := by simpa [String.isEmpty_iff] using hsession
  refine ⟨ref, { replay with isDuplicate := true }, href, ?_, rfl, ?_, ?_, ?_⟩
  · simp only [href, loadCompletionReplay, if_neg hnamed, hrow, hreplay]
  · rw [buildCompletionOperationKey_inj hkey]
    exact (tryBuildCompletionReplay_ids hreplay).1.trans (Db.findUploadSession_id hrow)
  · exact (tryBuildCompletionReplay_uploadIds hreplay).trans hids
  · -- the version has one dispatch, which is the one of the record
    obtain ⟨first, source, hfirst, -, rfl⟩ := tryBuildCompletionReplay_eq_some.mp hreplay
    obtain ⟨-, -, -, -, -, hhead⟩ := Db.findUploadSession_eq_some.mp hrow
    rw [hfirst] at hhead
    obtain ⟨hmem, hfirstVersion⟩ := List.mem_filter.mp (List.mem_of_mem_head? hhead.symm)
    have hsame : d.assetVersionId = ref.versionId :=
      h.workflowKeyOf_unique (h.consistent.dispatch d hd).2 hworkflow
    rw [hdispatchId, h.single d hd first hmem
      (hsame.trans (hversion.symm.trans (eq_of_beq hfirstVersion).symm))]
    rfl

end Db.Accounted

/-- **Every recorded request is answered from its record**: in every state that the registry
reaches through whole transactions, a request that is sent again with the hash under which its
idempotency key was recorded is served with the ids that the record refers to, and leaves the
registry as it is. -/
theorem recorded_requests_answered (h : SuppliedRun rt sys₀ tr sys) :
    (∀ (input : RegistryIssueUploadSessionInput) (ids : IssueIds) (now : Instant)
      (record : IdempotencyRecord),
      sys.db.idempotencyRecord? input.idempotencyRecordKey = some record →
      record.normalizedRequestHash = some input.normalizedRequestHash →
      ∃ ref issued, record.responseReference = some ref ∧
        issueUploadSession input ids now sys.db = (.ok issued, sys.db) ∧
        issued.isDuplicate = true ∧
        issued.uploadIds = ⟨ref.assetId, ref.versionId, ref.uploadSessionId⟩) ∧
    ∀ (input : RegistryCompleteUploadSessionInput) (env : CompletionEnvironment)
      (record : IdempotencyRecord),
      sys.db.idempotencyRecord? input.idempotencyRecordKey = some record →
      record.normalizedRequestHash = some input.normalizedRequestHash →
      ∃ ref completed, record.responseReference = some ref ∧
        completeUploadSession rt env input sys.db = (.ok completed, sys.db) ∧
        completed.isDuplicate = true ∧ completed.uploadSessionId = input.uploadSessionId ∧
        completed.uploadIds = ⟨ref.assetId, ref.versionId, ref.uploadSessionId⟩ ∧
        ref.workflowDispatchId = some completed.workflowDispatch.dispatchId := by
  have hdb := h.accounted
  constructor
  · intro input ids now record hrecord hhash
    obtain ⟨ref, href, hrows, hnamed⟩ := hdb.holdsUpload (hdb.consistent.record hrecord)
    obtain ⟨issued, hids, hduplicate, hissue⟩ := Db.HoldsIssue.replays
      ⟨⟨record, ref, hrecord, hhash, href, rfl⟩, hnamed, hrows⟩ ids now
    exact ⟨ref, issued, href, hissue, hduplicate, hids⟩
  · intro input env record hrecord hhash
    obtain ⟨ref, completed, href, hload, hrest⟩ := hdb.replays (hdb.consistent.record hrecord)
    refine ⟨ref, completed, href, ?_, hrest⟩
    simp only [completeUploadSession, hrecord, completionReplay, hhash, ne_eq, not_true_eq_false,
      if_false, hload]

/-- The sample completion, sent again, is answered from its record. -/
theorem completed_sample_answered :
    ∃ tr sys, SuppliedRun sampleRuntime sampleRegistrySystem tr sys ∧
      ∃ completed, completeUploadSession sampleRuntime (sampleEnvironment "source-2" "dispatch-2")
        (sampleCompletion "a" "key-1") sys.db = (.ok completed, sys.db) ∧
        completed.uploadSessionId = "session-a" := by
  obtain ⟨tr, sys, hrun, hsupplied, hrecorded⟩ := exists_run_of_exec
    (RegistrySystem.next sampleRuntime) sampleRegistrySystem completeActions
    (fun tr sys => (∀ τ ∈ tr, τ.action.Supplied) ∧
      (sys.db.idempotencyRecord? (sampleCompletion "a" "key-1").idempotencyRecordKey).any
        (fun r => r.normalizedRequestHash = some "complete-hash") = true) (by decide +kernel)
  obtain ⟨record, hrecord, hhash⟩ := (Option.any_eq_true _ _).mp hrecorded
  have hsample : SuppliedRun sampleRuntime sampleRegistrySystem tr sys :=
    ⟨⟨rfl, rfl, rfl, rfl, rfl, rfl, rfl⟩, rfl, by decide, hrun, hsupplied⟩
  obtain ⟨-, completed, -, hcompleted, -, hid, -⟩ := (recorded_requests_answered hsample).2
    (sampleCompletion "a" "key-1") (sampleEnvironment "source-2" "dispatch-2") record hrecord
    (of_decide_eq_true hhash)
  exact ⟨tr, sys, hsample, completed, hcompleted, hid⟩

end Cdngine
