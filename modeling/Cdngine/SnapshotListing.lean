import Cdngine.Runs
import Cdngine.SourceCopies

/-!
# Listing Snapshots

The source repository lists the snapshots of a version by the prefix of their keys. Normalization
takes the slash from the end of the prefix, so the listing also gives the keys of versions whose
identifier begins with that of the version; a version identifier of white space and slashes leaves
no prefix at all.

A bucket is what a run of snapshots makes of it, and the service lists it in pages of any sizes.

## Main results

* `listPages_of_paginates`: with fuel for all pages, the loop gives the summaries of all objects.
* `holdsTaken_run`: the keys of the bucket under the source prefix are those of the snapshots taken.
* `listsExactly_iff`: a listing gives exactly the snapshots of the version exactly when every listed
  key is one of the version.
-/

namespace Cdngine

open Runs

/-! ### Buckets -/

/-- The objects of a bucket: their keys, and when they were written. -/
abbrev S3Bucket := List (String × Instant)

/-- An object is written; one with the same key is replaced. -/
def S3Bucket.put (bucket : S3Bucket) (key : String) (now : Instant) : S3Bucket :=
  (key, now) :: bucket.filter fun object => object.1 ≠ key

/-- The keys of a bucket. -/
def S3Bucket.keys (bucket : S3Bucket) : List String := bucket.map Prod.fst

theorem mem_keys_put {bucket : S3Bucket} {key other : String} {now : Instant} :
    other ∈ S3Bucket.keys (bucket.put key now) ↔ other = key ∨ other ∈ S3Bucket.keys bucket := by
  simp only [S3Bucket.keys, S3Bucket.put, List.map_cons, List.mem_cons, List.mem_map,
    List.mem_filter, decide_eq_true_eq]
  constructor
  · rintro (heq | ⟨object, ⟨hobject, -⟩, rfl⟩)
    · exact .inl heq
    · exact .inr ⟨object, hobject, rfl⟩
  · rintro (heq | ⟨object, hobject, rfl⟩)
    · exact .inl heq
    · by_cases heq : object.1 = key
      · exact .inl heq
      · exact .inr ⟨object, ⟨hobject, heq⟩, rfl⟩

theorem nodup_keys_put {bucket : S3Bucket} (h : (S3Bucket.keys bucket).Nodup) (key : String)
    (now : Instant) : (S3Bucket.keys (bucket.put key now)).Nodup := by
  refine List.nodup_cons.mpr ⟨?_, ?_⟩
  · intro hmem
    obtain ⟨object, hobject, heq⟩ := List.mem_map.mp hmem
    have hne := (List.mem_filter.mp hobject).2
    simp [heq] at hne
  · exact h.sublist ((List.filter_sublist).map Prod.fst)

/-! ### Snapshots over a bucket -/

/-- A snapshot that was taken, with its input. -/
abbrev TakenSnapshot := SnapshotFromPathInput × SnapshotResult

/-- **A snapshot is taken**: a call returns it, and the bucket holds its copy. -/
def TakesSnapshot (repository : S3CompatibleSourceRepository) (bucket : S3Bucket)
    (taken : TakenSnapshot) (bucket' : S3Bucket) : Prop :=
  ∃ env now, (repository.snapshotFromPath env taken.1).result = .ok taken.2 ∧
    bucket' = bucket.put taken.2.logicalPath now

/-- The path of a snapshot under the source prefix. -/
def SnapshotFromPathInput.sourcePath (input : SnapshotFromPathInput) : String :=
  input.assetVersionId ++ "/" ++ input.sourceFilename

section Listing

variable {repository : S3CompatibleSourceRepository}

/-- A taken snapshot is named by its key. -/
theorem TakesSnapshot.named {bucket bucket' : S3Bucket} {taken : TakenSnapshot}
    (h : TakesSnapshot repository bucket taken bucket') :
    taken.2.logicalPath = qualifiedText repository.sourceTarget taken.1.sourcePath ∧
      taken.2.snapshotId = buildS3Uri repository.sourceTarget.bucket
        (qualifiedText repository.sourceTarget taken.1.sourcePath) := by
  obtain ⟨env, now, hresult, -⟩ := h
  obtain ⟨sourceKey, stagedHead, sourceHead, hkey, hsnapshot⟩ :=
    S3CompatibleSourceRepository.snapshotFromPath_result hresult
  obtain ⟨rfl, -⟩ := qualifiedObjectKey_eq_ok_iff.mp hkey
  rw [hsnapshot]
  exact ⟨rfl, rfl⟩

/-- **A bucket holds the snapshots taken**: no key is there twice, and the keys under the source
prefix are those of the snapshots. -/
structure HoldsTaken (repository : S3CompatibleSourceRepository) (taken : List TakenSnapshot)
    (bucket : S3Bucket) : Prop where
  nodup : (S3Bucket.keys bucket).Nodup
  keys : ∀ key, LiesUnder repository.sourceTarget.keyPrefix key →
    (key ∈ S3Bucket.keys bucket ↔ ∃ t ∈ taken, t.2.logicalPath = key)
  named : ∀ t ∈ taken,
    t.2.logicalPath = qualifiedText repository.sourceTarget t.1.sourcePath ∧
      t.2.snapshotId = buildS3Uri repository.sourceTarget.bucket
        (qualifiedText repository.sourceTarget t.1.sourcePath)

/-- The snapshots of a run. -/
def takenSnapshots (tr : List (Transition S3Bucket TakenSnapshot)) : List TakenSnapshot :=
  tr.map Transition.action

/-- One more snapshot. -/
theorem HoldsTaken.step {taken : List TakenSnapshot} {bucket bucket' : S3Bucket} {t : TakenSnapshot}
    (h : HoldsTaken repository taken bucket) (hstep : TakesSnapshot repository bucket t bucket') :
    HoldsTaken repository (taken ++ [t]) bucket' := by
  have hnamed := hstep.named
  obtain ⟨env, now, -, rfl⟩ := hstep
  refine ⟨nodup_keys_put h.nodup _ now, fun key hunder => ?_, fun t' ht' => ?_⟩
  · rw [mem_keys_put, h.keys key hunder]
    constructor
    · rintro (heq | ⟨t', ht', heq⟩)
      · exact ⟨t, List.mem_append_right _ List.mem_cons_self, heq.symm⟩
      · exact ⟨t', List.mem_append_left _ ht', heq⟩
    · rintro ⟨t', ht', heq⟩
      cases List.mem_append.mp ht' with
      | inl ht' => exact .inr ⟨t', ht', heq⟩
      | inr ht' =>
          rw [List.mem_singleton.mp ht'] at heq
          exact .inl heq.symm
  · cases List.mem_append.mp ht' with
    | inl ht' => exact h.named t' ht'
    | inr ht' =>
        rw [List.mem_singleton.mp ht']
        exact hnamed

/-- **A run of snapshots leaves a bucket that holds them.** -/
theorem holdsTaken_run {taken : List TakenSnapshot} {bucket bucket' : S3Bucket}
    {tr : List (Transition S3Bucket TakenSnapshot)}
    (h : Run (TakesSnapshot repository) bucket tr bucket')
    (hstart : HoldsTaken repository taken bucket) :
    HoldsTaken repository (taken ++ takenSnapshots tr) bucket' := by
  induction h generalizing taken with
  | nil s =>
      rw [takenSnapshots, List.map_nil, List.append_nil]
      exact hstart
  | @cons s s' s'' t tr hstep _ ih =>
      have hrest := ih (hstart.step hstep)
      rwa [List.append_assoc] at hrest

/-- A bucket without objects under the source prefix. -/
theorem holdsTaken_nil {bucket : S3Bucket} (hnodup : (S3Bucket.keys bucket).Nodup)
    (hothers : ∀ key ∈ S3Bucket.keys bucket, ¬ LiesUnder repository.sourceTarget.keyPrefix key) :
    HoldsTaken repository [] bucket := by
  refine ⟨hnodup, fun key hunder => ?_, fun t ht => absurd ht List.not_mem_nil⟩
  refine iff_of_false (fun hmem => hothers key hmem hunder) ?_
  rintro ⟨t, ht, -⟩
  cases ht

/-! ### Pages -/

/-- **The client lists objects in pages**, from the `i`th request and a token on; `pages` is their
number. -/
inductive Paginates (env : S3Environment) (name keyPrefix : String) :
    Nat → Option String → List S3ListedObject → Nat → Prop
  | last {i : Nat} {token : Option String} {output : S3Response} :
      env.answer i (.listObjectsV2 name keyPrefix token) = .ok output →
        output.isTruncated = false →
          Paginates env name keyPrefix i token (output.contents.getD []) 1
  | next {i : Nat} {token : Option String} {output : S3Response} {later : String}
      {rest : List S3ListedObject} {pages : Nat} :
      env.answer i (.listObjectsV2 name keyPrefix token) = .ok output →
        output.isTruncated = true → present output.nextContinuationToken = some later →
          Paginates env name keyPrefix (i + 1) (some later) rest pages →
            Paginates env name keyPrefix i token (output.contents.getD [] ++ rest) (pages + 1)

/-- **The client lists a bucket by prefix**: the pages hold every key with the prefix, once. -/
def ListsByPrefix (env : S3Environment) (name : String) (bucket : S3Bucket) : Prop :=
  ∀ keyPrefix : String, ∃ objects pages, Paginates env name keyPrefix 0 none objects pages ∧
    (objects.map S3ListedObject.key).Perm
      (((S3Bucket.keys bucket).filter fun key => keyPrefix.toList <+: key.toList).map some)

theorem listedSnapshots_append (contents rest : List S3ListedObject) :
    repository.listedSnapshots (contents ++ rest) =
      repository.listedSnapshots contents ++ repository.listedSnapshots rest :=
  List.filterMap_append

/-- **With fuel for all pages, the loop gives the summaries of all objects.** -/
theorem listPages_of_paginates {env : S3Environment} {keyPrefix : String} {i : Nat}
    {token : Option String} {objects : List S3ListedObject} {pages : Nat}
    (h : Paginates env repository.sourceTarget.bucket keyPrefix i token objects pages)
    (htoken : present token = token) {fuel : Nat} (hfuel : pages ≤ fuel) :
    (repository.listPages env keyPrefix fuel i token).result =
      .ok (some (repository.listedSnapshots objects)) := by
  induction h generalizing fuel with
  | @last i token output hanswer htruncated =>
      obtain ⟨fuel, rfl⟩ := Nat.exists_eq_add_of_le' hfuel
      rw [S3CompatibleSourceRepository.listPages, htoken,
        Observed.result_bind_ok ((S3Environment.result_send env i _).trans hanswer)]
      simp only [htruncated, Bool.false_eq_true, if_false]
      rfl
  | @next i token output later rest pages hanswer htruncated hlater _ ih =>
      obtain ⟨fuel, rfl⟩ : ∃ n, fuel = n + 1 := Nat.exists_eq_succ_of_ne_zero (by omega)
      have hpresent : present (some later) = some later := by
        rw [← hlater, present_present]
      have hrest : (repository.listPages env keyPrefix fuel (i + 1) (some later)).result =
          .ok (some (repository.listedSnapshots rest)) := ih hpresent (by omega)
      rw [S3CompatibleSourceRepository.listPages, htoken,
        Observed.result_bind_ok ((S3Environment.result_send env i _).trans hanswer)]
      simp only [htruncated, if_true, hlater]
      rw [Observed.result_bind_ok hrest, listedSnapshots_append]
      rfl

/-! ### What a listing gives -/

/-- The prefix that a listing asks for. -/
def listPrefix (repository : S3CompatibleSourceRepository) (assetVersionId : String) : String :=
  qualifiedText repository.sourceTarget (assetVersionId ++ "/")

theorem listPrefix_ne_empty (assetVersionId : String) :
    listPrefix repository assetVersionId ≠ "" := by
  rw [listPrefix, qualifiedText]
  simp

theorem buildS3Uri_inj {bucket key key' : String} :
    buildS3Uri bucket key = buildS3Uri bucket key' ↔ key = key' := by
  rw [buildS3Uri, buildS3Uri, String.append_right_inj]

/-- The identifiers of the summaries are the URIs of the keys. -/
theorem snapshotIds_listedSnapshots {objects : List S3ListedObject} {keys : List String}
    (hperm : (objects.map S3ListedObject.key).Perm (keys.map some)) (hne : ∀ key ∈ keys, key ≠ "") :
    ((repository.listedSnapshots objects).map SnapshotSummary.snapshotId).Perm
      (keys.map (buildS3Uri repository.sourceTarget.bucket)) := by
  have hsummaries : (repository.listedSnapshots objects).map SnapshotSummary.snapshotId =
      ((objects.map S3ListedObject.key).filterMap present).map
        (buildS3Uri repository.sourceTarget.bucket) := by
    rw [S3CompatibleSourceRepository.listedSnapshots, List.map_filterMap, List.filterMap_map,
      List.map_filterMap]
    simp only [Option.map_map, Function.comp_def]
  have hkeys : (keys.map some).filterMap present = keys := by
    rw [List.filterMap_map]
    exact (List.filterMap_congr fun key hkey =>
      present_eq_some_iff.mpr ⟨rfl, hne key hkey⟩).trans List.filterMap_some
  rw [hsummaries]
  exact ((hperm.filterMap present).trans (by rw [hkeys])).map _

/-- The keys of a bucket that a listing gives. -/
def listedKeys (repository : S3CompatibleSourceRepository) (bucket : S3Bucket)
    (assetVersionId : String) : List String :=
  (S3Bucket.keys bucket).filter fun key =>
    (listPrefix repository assetVersionId).toList <+: key.toList

/-- **A listing returns** the keys with its prefix, over any pages, or throws without a prefix. -/
theorem listSnapshots_ok {env : S3Environment} {bucket : S3Bucket} {assetVersionId : String}
    (hne : stripSlashes (trim (assetVersionId ++ "/")) ≠ "")
    (hlists : ListsByPrefix env repository.sourceTarget.bucket bucket) :
    ∃ pages, ∀ fuel, pages ≤ fuel → ∃ snapshots,
      (repository.listSnapshots env fuel assetVersionId).result = .ok (some snapshots) ∧
        (snapshots.map SnapshotSummary.snapshotId).Perm
          ((listedKeys repository bucket assetVersionId).map
            (buildS3Uri repository.sourceTarget.bucket)) := by
  have hprefix : qualifiedObjectKey repository.sourceTarget (assetVersionId ++ "/") =
      .ok (listPrefix repository assetVersionId) := qualifiedObjectKey_eq_ok_iff.mpr ⟨rfl, hne⟩
  obtain ⟨objects, pages, hpages, hperm⟩ := hlists (listPrefix repository assetVersionId)
  refine ⟨pages, fun fuel hfuel => ⟨repository.listedSnapshots objects, ?_, ?_⟩⟩
  · rw [S3CompatibleSourceRepository.listSnapshots,
      Observed.result_bind_ok ((Observed.result_ofExcept _).trans hprefix)]
    exact listPages_of_paginates hpages rfl hfuel
  · refine snapshotIds_listedSnapshots hperm fun key hkey hempty => ?_
    have hstart := of_decide_eq_true (List.mem_filter.mp hkey).2
    rw [hempty, String.toList_empty, List.prefix_nil, String.toList_eq_nil_iff] at hstart
    exact listPrefix_ne_empty assetVersionId hstart

theorem listSnapshots_error {env : S3Environment} {fuel : Nat} {assetVersionId : String}
    (h : stripSlashes (trim (assetVersionId ++ "/")) = "") :
    ∃ error, (repository.listSnapshots env fuel assetVersionId).result = .error error := by
  cases hkey : qualifiedObjectKey repository.sourceTarget (assetVersionId ++ "/") with
  | error error =>
      refine ⟨error, ?_⟩
      rw [S3CompatibleSourceRepository.listSnapshots, Observed.result_bind,
        Observed.result_ofExcept, hkey]
      rfl
  | ok key => exact absurd h (qualifiedObjectKey_eq_ok_iff.mp hkey).2

/-- A listed key lies under the source prefix. -/
theorem liesUnder_of_listPrefix {assetVersionId key : String}
    (h : (listPrefix repository assetVersionId).toList <+: key.toList) :
    LiesUnder repository.sourceTarget.keyPrefix key := by
  refine List.IsPrefix.trans ?_ h
  rw [listPrefix, qualifiedText, String.toList_append, String.toList_append]
  exact List.prefix_append _ _

/-- **The snapshots of a version have the prefix of its listing.** -/
theorem listPrefix_prefix_key (input : SnapshotFromPathInput) :
    (listPrefix repository input.assetVersionId).toList <+:
      (qualifiedText repository.sourceTarget input.sourcePath).toList := by
  have htrim : (trim (input.assetVersionId ++ "/")).toList <+: (trim input.sourcePath).toList := by
    have happend : input.sourcePath.toList =
        (input.assetVersionId ++ "/").toList ++ input.sourceFilename.toList :=
      String.toList_append
    rw [trim_toList, trim_toList, happend]
    exact Strip.strip_prefix_strip_append _ _ _
  have hstrip : (stripSlashes (trim (input.assetVersionId ++ "/"))).toList <+:
      (stripSlashes (trim input.sourcePath)).toList := by
    obtain ⟨rest, hrest⟩ := htrim
    rw [stripSlashes_eq, stripSlashes_eq, ← hrest]
    exact Strip.strip_prefix_strip_append _ _ _
  simp only [listPrefix, qualifiedText, String.toList_append]
  exact (List.prefix_append_right_inj _).mpr hstrip

/-- **The summaries are the snapshots of a version**, each once. -/
structure ListsSnapshots (taken : List TakenSnapshot) (assetVersionId : String)
    (snapshots : List SnapshotSummary) : Prop where
  nodup : (snapshots.map SnapshotSummary.snapshotId).Nodup
  mem : ∀ id, id ∈ snapshots.map SnapshotSummary.snapshotId ↔
    ∃ t ∈ taken, t.1.assetVersionId = assetVersionId ∧ t.2.snapshotId = id

/-- **A listing is exact**: with a client that lists the bucket by prefix, in any pages, the call
returns, and gives the snapshots of the version. -/
def ListsExactly (repository : S3CompatibleSourceRepository) (taken : List TakenSnapshot)
    (bucket : S3Bucket) (assetVersionId : String) : Prop :=
  ∀ env, ListsByPrefix env repository.sourceTarget.bucket bucket →
    ∃ pages, ∀ fuel, pages ≤ fuel → ∃ snapshots,
      (repository.listSnapshots env fuel assetVersionId).result = .ok (some snapshots) ∧
        ListsSnapshots taken assetVersionId snapshots

/-- **The prefix of a version is its own**: something is left of the version identifier and its
slash once they are trimmed and stripped of slashes, and every key that begins with the prefix is
that of a snapshot of the version. -/
structure OwnPrefix (repository : S3CompatibleSourceRepository) (taken : List TakenSnapshot)
    (assetVersionId : String) : Prop where
  nonempty : stripSlashes (trim (assetVersionId ++ "/")) ≠ ""
  keys : ∀ t ∈ taken, (listPrefix repository assetVersionId).toList <+:
      (qualifiedText repository.sourceTarget t.1.sourcePath).toList →
    ∃ own ∈ taken, own.1.assetVersionId = assetVersionId ∧
      qualifiedText repository.sourceTarget own.1.sourcePath =
        qualifiedText repository.sourceTarget t.1.sourcePath

/-- A client that lists a bucket in one page. -/
def listingEnvironment (bucket : S3Bucket) : S3Environment where
  answer
    | _, .listObjectsV2 _ keyPrefix _ =>
        let keys := (S3Bucket.keys bucket).filter fun key => keyPrefix.toList <+: key.toList
        .ok { contents := some (keys.map fun key => ⟨some key, none⟩) }
    | _, _ => .ok {}
  dirname := id
  mkdir := fun _ => .ok ()
  writeFile := fun _ _ => .ok ()

theorem listsByPrefix_listingEnvironment (name : String) (bucket : S3Bucket) :
    ListsByPrefix (listingEnvironment bucket) name bucket := by
  intro keyPrefix
  refine ⟨_, 1, Paginates.last rfl rfl, ?_⟩
  rw [Option.getD_some, List.map_map]
  exact List.Perm.refl _

/-- **A listing is exact exactly when the prefix of the version is its own.** -/
theorem listsExactly_iff_of_holds {taken : List TakenSnapshot} {bucket : S3Bucket}
    (h : HoldsTaken repository taken bucket) (assetVersionId : String) :
    ListsExactly repository taken bucket assetVersionId ↔
      OwnPrefix repository taken assetVersionId := by
  -- the listed keys are those of the snapshots with the prefix
  have hlisted : ∀ key, key ∈ listedKeys repository bucket assetVersionId ↔
      (listPrefix repository assetVersionId).toList <+: key.toList ∧
        ∃ t ∈ taken, qualifiedText repository.sourceTarget t.1.sourcePath = key := by
    intro key
    rw [listedKeys, List.mem_filter, decide_eq_true_eq]
    constructor
    · rintro ⟨hmem, hstart⟩
      obtain ⟨t, ht, hkey⟩ := (h.keys key (liesUnder_of_listPrefix hstart)).mp hmem
      exact ⟨hstart, t, ht, (h.named t ht).1.symm.trans hkey⟩
    · rintro ⟨hstart, t, ht, hkey⟩
      exact ⟨(h.keys key (liesUnder_of_listPrefix hstart)).mpr
        ⟨t, ht, (h.named t ht).1.trans hkey⟩, hstart⟩
  constructor
  · intro hexact
    obtain ⟨pages, hpages⟩ := hexact (listingEnvironment bucket)
      (listsByPrefix_listingEnvironment _ bucket)
    have hne : stripSlashes (trim (assetVersionId ++ "/")) ≠ "" := fun hempty => by
      obtain ⟨error, herror⟩ := @listSnapshots_error repository (listingEnvironment bucket) pages
        assetVersionId hempty
      obtain ⟨snapshots, hresult, -⟩ := hpages pages (Nat.le_refl pages)
      cases herror.symm.trans hresult
    refine ⟨hne, fun t ht hstart => ?_⟩
    obtain ⟨pages', hpages'⟩ := listSnapshots_ok hne
      (listsByPrefix_listingEnvironment repository.sourceTarget.bucket bucket)
    obtain ⟨snapshots, hresult, hlists⟩ := hpages (max pages pages') (Nat.le_max_left _ _)
    obtain ⟨snapshots', hresult', hperm⟩ := hpages' (max pages pages') (Nat.le_max_right _ _)
    obtain rfl : snapshots = snapshots' :=
      Option.some.inj (Except.ok.inj (hresult.symm.trans hresult'))
    have hmem : buildS3Uri repository.sourceTarget.bucket
        (qualifiedText repository.sourceTarget t.1.sourcePath) ∈
          snapshots.map SnapshotSummary.snapshotId :=
      hperm.mem_iff.mpr (List.mem_map_of_mem ((hlisted _).mpr ⟨hstart, t, ht, rfl⟩))
    obtain ⟨own, hown, hversion, hid⟩ := (hlists.mem _).mp hmem
    rw [(h.named own hown).2, buildS3Uri_inj] at hid
    exact ⟨own, hown, hversion, hid⟩
  · intro hown env hclient
    obtain ⟨pages, hpages⟩ := listSnapshots_ok hown.nonempty hclient
    refine ⟨pages, fun fuel hfuel => ?_⟩
    obtain ⟨snapshots, hresult, hperm⟩ := hpages fuel hfuel
    refine ⟨snapshots, hresult, ?_, fun id => ?_⟩
    · have hkeys : (listedKeys repository bucket assetVersionId).Nodup := h.nodup.filter _
      exact hperm.nodup_iff.mpr (hkeys.map fun _ _ => buildS3Uri_inj.mp)
    · rw [hperm.mem_iff, List.mem_map]
      constructor
      · rintro ⟨key, hkey, rfl⟩
        obtain ⟨hstart, t, ht, rfl⟩ := (hlisted key).mp hkey
        obtain ⟨own, hmem, hversion, hsame⟩ := hown.keys t ht hstart
        refine ⟨own, hmem, hversion, ?_⟩
        rw [(h.named own hmem).2, hsame]
      · rintro ⟨t, ht, rfl, rfl⟩
        exact ⟨_, (hlisted _).mpr ⟨listPrefix_prefix_key t.1, t, ht, rfl⟩, ((h.named t ht).2).symm⟩

/-- **A listing after any run of snapshots is exact exactly when the prefix of the version is its
own.** -/
theorem listsExactly_iff {bucket bucket' : S3Bucket} {tr : List (Transition S3Bucket TakenSnapshot)}
    (hnodup : (S3Bucket.keys bucket).Nodup)
    (hothers : ∀ key ∈ S3Bucket.keys bucket, ¬ LiesUnder repository.sourceTarget.keyPrefix key)
    (hrun : Run (TakesSnapshot repository) bucket tr bucket') (assetVersionId : String) :
    ListsExactly repository (takenSnapshots tr) bucket' assetVersionId ↔
      OwnPrefix repository (takenSnapshots tr) assetVersionId := by
  have hholds := holdsTaken_run hrun (holdsTaken_nil hnodup hothers)
  rw [List.nil_append] at hholds
  exact listsExactly_iff_of_holds hholds assetVersionId

/-! ### Plain identifiers -/

/-- A version identifier **is plain**: it holds neither white space nor slashes. -/
structure PlainId (assetVersionId : String) : Prop where
  nonempty : assetVersionId ≠ ""
  chars : ∀ c ∈ assetVersionId.toList, isStrWhiteSpace c = false ∧ c ≠ '/'

theorem forall_plainChar {cs : List Char}
    (h : (cs.all fun c => !isStrWhiteSpace c && c != '/') = true) :
    ∀ c ∈ cs, isStrWhiteSpace c = false ∧ c ≠ '/' := by
  intro c hc
  simpa using List.all_eq_true.mp h c hc

/-- The prefix of a plain identifier is the identifier. -/
theorem stripSlashes_plainId {assetVersionId : String} (h : PlainId assetVersionId) :
    stripSlashes (trim (assetVersionId ++ "/")) = assetVersionId := by
  have hne : assetVersionId.toList ≠ [] := mt String.toList_eq_nil_iff.mp h.nonempty
  have htrim : (trim (assetVersionId ++ "/")).toList = assetVersionId.toList ++ ['/'] := by
    rw [trim_toList, String.toList_append]
    refine Strip.strip_eq_self ⟨fun c hc => ?_, fun c hc => ?_⟩
    · rw [List.head?_append_of_ne_nil _ hne] at hc
      exact (h.chars c (List.mem_of_mem_head? hc)).1
    · rw [List.getLast?_append_of_ne_nil _ (by decide)] at hc
      obtain rfl := Option.some.inj hc
      decide
  rw [← String.toList_inj, stripSlashes_eq, htrim,
    @Strip.strip_concat _ (fun c => c == '/') '/' rfl]
  refine Strip.strip_eq_self ⟨fun c hc => ?_, fun c hc => ?_⟩
  · exact beq_eq_false_iff_ne.mpr (h.chars c (List.mem_of_mem_head? hc)).2
  · exact beq_eq_false_iff_ne.mpr (h.chars c (List.mem_of_getLast? hc)).2

/-- The relative key of a snapshot of a plain identifier begins its path. -/
theorem relative_prefix_sourcePath {input : SnapshotFromPathInput}
    (h : PlainId input.assetVersionId) :
    (stripSlashes (trim input.sourcePath)).toList <+: input.sourcePath.toList := by
  have hne : input.assetVersionId.toList ≠ [] := mt String.toList_eq_nil_iff.mp h.nonempty
  have hhead : ∀ c ∈ input.sourcePath.toList.head?, isStrWhiteSpace c = false ∧ c ≠ '/' := by
    intro c hc
    rw [SnapshotFromPathInput.sourcePath, String.append_assoc, String.toList_append,
      List.head?_append_of_ne_nil _ hne] at hc
    exact h.chars c (List.mem_of_mem_head? hc)
  have htrim := Strip.strip_prefix fun c hc => (hhead c hc).1
  rw [stripSlashes_eq, trim_toList]
  refine List.IsPrefix.trans (Strip.strip_prefix fun c hc => ?_) htrim
  obtain ⟨rest, hrest⟩ := htrim
  refine beq_eq_false_iff_ne.mpr (hhead c ?_).2
  rw [← hrest, List.head?_append, Option.mem_def.mp hc]
  rfl

/-- **Among plain identifiers**, the prefix of a version is its own when no other identifier begins
with it. -/
theorem ownPrefix_of_plain {taken : List TakenSnapshot} {assetVersionId : String}
    (h : PlainId assetVersionId)
    (htaken : ∀ t ∈ taken, PlainId t.1.assetVersionId ∧
      (assetVersionId.toList <+: t.1.assetVersionId.toList →
        t.1.assetVersionId = assetVersionId)) :
    OwnPrefix repository taken assetVersionId := by
  refine ⟨?_, fun t ht hstart => ⟨t, ht, ?_, rfl⟩⟩
  · rw [stripSlashes_plainId h]
    exact h.nonempty
  · obtain ⟨hplain, hown⟩ := htaken t ht
    simp only [listPrefix, qualifiedText, String.toList_append, stripSlashes_plainId h] at hstart
    have hpath := ((List.prefix_append_right_inj _).mp hstart).trans
      (relative_prefix_sourcePath hplain)
    rw [SnapshotFromPathInput.sourcePath, String.append_assoc, String.toList_append,
      String.toList_append] at hpath
    rcases List.prefix_or_prefix_of_prefix hpath (List.prefix_append _ _) with hprefix | hlonger
    · exact hown hprefix
    · obtain ⟨rest, hrest⟩ := hlonger
      rw [← hrest, List.prefix_append_right_inj] at hpath
      cases rest with
      | nil =>
          rw [List.append_nil] at hrest
          exact hown (hrest ▸ List.prefix_refl _)
      | cons c rest =>
          -- the identifier would go on with the slash
          have hc : c = '/' := (List.cons_prefix_cons.mp hpath).1
          have hmem : c ∈ assetVersionId.toList := by
            rw [← hrest]
            exact List.mem_append_right _ List.mem_cons_self
          exact absurd hc (h.chars c hmem).2

/-! ### Runs of the sample repository -/

/-- A snapshot of a staged object can be taken. -/
theorem exists_takesSnapshot {input : SnapshotFromPathInput} {staged : String × String}
    {sourceKey : String} (hstaged : repository.stagedObject input.localPath = .ok staged)
    (hkey : repository.sourceKey input = .ok sourceKey) (bucket : S3Bucket) :
    ∃ taken bucket', taken.1 = input ∧ TakesSnapshot repository bucket taken bucket' := by
  have hanswers : ∀ i request, ∃ output, answeringEnvironment.answer i request = .ok output :=
    fun _ _ => ⟨{}, rfl⟩
  obtain ⟨-, stagedHead, sourceHead, hresult⟩ :=
    S3CompatibleSourceRepository.snapshotFromPath_ok hstaged hkey hanswers
  exact ⟨(input, _), _, rfl, answeringEnvironment, 0, hresult, rfl⟩

/-- A run that takes two snapshots. -/
theorem exists_run_of_two {first second : SnapshotFromPathInput}
    {stagedFirst stagedSecond : String × String} {keyFirst keySecond : String}
    (hfirst : repository.stagedObject first.localPath = .ok stagedFirst)
    (hfirstKey : repository.sourceKey first = .ok keyFirst)
    (hsecond : repository.stagedObject second.localPath = .ok stagedSecond)
    (hsecondKey : repository.sourceKey second = .ok keySecond) :
    ∃ tr bucket', Run (TakesSnapshot repository) [] tr bucket' ∧
      (takenSnapshots tr).map Prod.fst = [first, second] := by
  obtain ⟨taken, bucket, rfl, hstep⟩ := exists_takesSnapshot hfirst hfirstKey []
  obtain ⟨taken', bucket', rfl, hstep'⟩ := exists_takesSnapshot hsecond hsecondKey bucket
  exact ⟨_, bucket', Run.cons hstep (Run.cons hstep' (Run.nil bucket')), rfl⟩

end Listing

/-- A snapshot for a version in the sample layout. -/
def sampleVersionInput (assetVersionId : String) : SnapshotFromPathInput :=
  { sampleSnapshotInput "ingest/hero.png" "hero.png" with assetVersionId }

/-- The snapshots of two versions whose identifiers do not begin with each other are listed
exactly. -/
theorem sample_listing_exact :
    ∃ tr bucket, Run (TakesSnapshot sampleSourceRepository) [] tr bucket ∧
      (takenSnapshots tr).map Prod.fst = [sampleVersionInput "ver-1", sampleVersionInput "ver-2"] ∧
      ListsExactly sampleSourceRepository (takenSnapshots tr) bucket "ver-1" := by
  have hstaged : sampleSourceRepository.stagedObject (sampleVersionInput "ver-1").localPath =
      .ok ("cdngine-data", "ingest/hero.png") := by decide +kernel
  have hkey : sampleSourceRepository.sourceKey (sampleVersionInput "ver-1") =
      .ok "source/ver-1/hero.png" := by decide +kernel
  have hkey' : sampleSourceRepository.sourceKey (sampleVersionInput "ver-2") =
      .ok "source/ver-2/hero.png" := by decide +kernel
  obtain ⟨tr, bucket, hrun, htaken⟩ := @exists_run_of_two sampleSourceRepository
    (sampleVersionInput "ver-1") (sampleVersionInput "ver-2") _ _ _ _ hstaged hkey hstaged hkey'
  have hnodup : (S3Bucket.keys []).Nodup := List.nodup_nil
  have hothers : ∀ key ∈ S3Bucket.keys [],
      ¬ LiesUnder sampleSourceRepository.sourceTarget.keyPrefix key :=
    fun key hkey => absurd hkey List.not_mem_nil
  refine ⟨tr, bucket, hrun, htaken, (listsExactly_iff hnodup hothers hrun "ver-1").mpr ?_⟩
  have hplain : PlainId "ver-1" := ⟨by decide, forall_plainChar (by decide +kernel)⟩
  have hplain' : PlainId "ver-2" := ⟨by decide, forall_plainChar (by decide +kernel)⟩
  refine ownPrefix_of_plain hplain fun t ht => ?_
  have hmem : t.1 ∈ [sampleVersionInput "ver-1", sampleVersionInput "ver-2"] :=
    htaken ▸ List.mem_map_of_mem ht
  rcases List.mem_pair.mp hmem with heq | heq
  · rw [heq]
    exact ⟨hplain, fun _ => rfl⟩
  · rw [heq]
    exact ⟨hplain', fun hstart => absurd hstart (by decide +kernel)⟩

/-- **A listing gives the snapshots of another version whose identifier begins with the one
listed.** -/
theorem longer_identifier_listed :
    ∃ tr bucket, Run (TakesSnapshot sampleSourceRepository) [] tr bucket ∧
      (takenSnapshots tr).map Prod.fst = [sampleVersionInput "ver-1", sampleVersionInput "ver-10"] ∧
      ¬ ListsExactly sampleSourceRepository (takenSnapshots tr) bucket "ver-1" := by
  have hstaged : sampleSourceRepository.stagedObject (sampleVersionInput "ver-1").localPath =
      .ok ("cdngine-data", "ingest/hero.png") := by decide +kernel
  have hkey : sampleSourceRepository.sourceKey (sampleVersionInput "ver-1") =
      .ok "source/ver-1/hero.png" := by decide +kernel
  have hkey' : sampleSourceRepository.sourceKey (sampleVersionInput "ver-10") =
      .ok "source/ver-10/hero.png" := by decide +kernel
  obtain ⟨tr, bucket, hrun, htaken⟩ := @exists_run_of_two sampleSourceRepository
    (sampleVersionInput "ver-1") (sampleVersionInput "ver-10") _ _ _ _ hstaged hkey hstaged hkey'
  refine ⟨tr, bucket, hrun, htaken, fun hexact => ?_⟩
  have hholds := holdsTaken_run hrun (holdsTaken_nil List.nodup_nil
    fun key hkey => absurd hkey List.not_mem_nil)
  rw [List.nil_append] at hholds
  have hown := (listsExactly_iff_of_holds hholds "ver-1").mp hexact
  have hlater : sampleVersionInput "ver-10" ∈ (takenSnapshots tr).map Prod.fst := by
    rw [htaken]
    exact List.mem_cons_of_mem _ List.mem_cons_self
  obtain ⟨t, ht, heq⟩ := List.mem_map.mp hlater
  obtain ⟨own, hmem, hversion, hsame⟩ := hown.keys t ht (by
    rw [heq]
    decide +kernel)
  have hfirst : own.1 ∈ [sampleVersionInput "ver-1", sampleVersionInput "ver-10"] :=
    htaken ▸ List.mem_map_of_mem hmem
  rw [heq] at hsame
  rcases List.mem_pair.mp hfirst with hown' | hown'
  · rw [hown'] at hsame
    revert hsame
    decide +kernel
  · rw [hown'] at hversion
    revert hversion
    decide +kernel

end Cdngine
