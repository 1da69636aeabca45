import Cdngine.HeaderValues
import Cdngine.S3Stores
import Cdngine.SdkUploads
import Cdngine.Strip

/-!
# Copies of Staged Objects

A snapshot takes the key of a staged object through a staging reference and a copy source, and
the key of the copy through a URI. The patterns that read the references back do not match line
ends, and the key behind them is normalized again. The copy source is a header that is not encoded,
although a header holds bytes and the service decodes them. A key that a reference changes is
snapshotted as another object, or not at all.

## Main results

* `copySourceObject_eq_iff`: the copy sources that name their object.
* `givenBack_iff`: the qualified keys that references give back.
* `snapshotReadsBack_iff`: a snapshot copies the staged object and is restored from the copy exactly
  when no reference changes a key.
-/

namespace Cdngine

open PercentEncoding

/-! ### The object of a copy source -/

/-- The bytes of the bucket and the key that the service reads from a copy source; there are none
when the client refuses to send the header. The service decodes the value, and may read plus signs
as spaces. -/
def copySourceObject (plus : Bool) (copySource : String) : Option (List UInt8 × List UInt8) :=
  (HeaderValues.readValue plus copySource.toList).map fun bytes =>
    (bytes.takeWhile (· ≠ 0x2F), (bytes.dropWhile (· ≠ 0x2F)).tail)

theorem slash_notMem_utf8 {cs : List Char} (h : '/' ∉ cs) : 0x2F ∉ utf8 cs :=
  fun hmem => h (mem_of_mem_utf8 hmem (by decide) rfl)

theorem utf8_encodeCopySource (bucket key : String) :
    utf8 (encodeCopySource bucket key).toList = utf8 bucket.toList ++ 0x2F :: utf8 key.toList := by
  have hslash : utf8 ['/'] = [0x2F] := by decide +kernel
  rw [encodeCopySource, String.toList_append, String.toList_append, utf8_append, utf8_append,
    List.append_assoc]
  exact congrArg (utf8 bucket.toList ++ ·) (congrArg (· ++ utf8 key.toList) hslash)

/-- The bytes that name a bucket without slashes and a key. -/
theorem splitSlash_eq_iff {bucket key : List Char} (hslash : '/' ∉ bucket) (hkey : key ≠ [])
    {bytes : List UInt8} :
    (bytes.takeWhile (· ≠ 0x2F), (bytes.dropWhile (· ≠ 0x2F)).tail) = (utf8 bucket, utf8 key) ↔
      bytes = utf8 bucket ++ 0x2F :: utf8 key := by
  simp only [Prod.mk.injEq]
  constructor
  · rintro ⟨hfront, hback⟩
    have hdrop : bytes.dropWhile (· ≠ 0x2F) = 0x2F :: utf8 key := by
      cases hrest : bytes.dropWhile (· ≠ 0x2F) with
      | nil =>
          rw [hrest] at hback
          have hnil : utf8 key = utf8 [] := hback.symm
          exact absurd (utf8_inj.mp hnil) hkey
      | cons b rest =>
          have hb := List.head?_dropWhile_not (fun b : UInt8 => decide (b ≠ 0x2F)) bytes
          rw [hrest] at hb hback
          have hb' : b = 0x2F := by simpa using hb
          rw [hb', ← hback]
          rfl
    rw [← List.takeWhile_append_dropWhile (p := fun b => decide (b ≠ 0x2F)) (l := bytes), hfront,
      hdrop]
  · rintro rfl
    have hall : ∀ b ∈ utf8 bucket, decide (b ≠ 0x2F) = true := fun b hb =>
      decide_eq_true fun heq => slash_notMem_utf8 hslash (heq ▸ hb)
    constructor
    · rw [List.takeWhile_append_of_pos hall, List.takeWhile_cons_of_neg (by simp),
        List.append_nil]
    · rw [List.dropWhile_append_of_pos hall, List.dropWhile_cons_of_neg (by simp)]
      rfl

/-- **A copy source names its object exactly when the header keeps its text.** -/
theorem copySourceObject_eq_iff {plus : Bool} {bucket key : String} (hslash : '/' ∉ bucket.toList)
    (hkey : key ≠ "") :
    copySourceObject plus (encodeCopySource bucket key) =
        some (utf8 bucket.toList, utf8 key.toList) ↔
      HeaderValues.Kept plus (encodeCopySource bucket key).toList := by
  have hkey' : key.toList ≠ [] := mt String.toList_eq_nil_iff.mp hkey
  rw [← HeaderValues.readValue_eq_utf8_iff, utf8_encodeCopySource, copySourceObject,
    Option.map_eq_some_iff]
  constructor
  · rintro ⟨bytes, hread, hsplit⟩
    rw [hread, (splitSlash_eq_iff hslash hkey').mp hsplit]
  · intro hread
    exact ⟨_, hread, (splitSlash_eq_iff hslash hkey').mpr rfl⟩

/-! ### Qualified keys in references -/

/-- The text of a qualified key. -/
def qualifiedText (target : NormalizedStorageRoleTarget) (objectKey : String) : String :=
  target.keyPrefix ++ "/" ++ stripSlashes (trim objectKey)

/-- A target as normalization leaves it. -/
structure NormalizedStorageRoleTarget.Normalized (target : NormalizedStorageRoleTarget) :
    Prop where
  bucket : target.bucket ≠ ""
  trimmed : trim target.bucket = target.bucket
  keyPrefix : target.keyPrefix ≠ ""
  stripped : stripSlashes target.keyPrefix = target.keyPrefix

theorem stripSlashes_eq (s : String) :
    (stripSlashes s).toList = Strip.strip (fun c => c == '/') s.toList := String.toList_ofList

theorem stripSlashes_stripSlashes (s : String) :
    stripSlashes (stripSlashes s) = stripSlashes s := by
  rw [← String.toList_inj, stripSlashes_eq, stripSlashes_eq, Strip.strip_strip]

theorem normalized_of_layout {input : StorageLayoutInput} {layout : NormalizedStorageLayout}
    (h : normalizeStorageLayout input = .ok layout) (role : StorageRole) :
    (layout.target role).Normalized := by
  obtain ⟨hbucket, hprefix⟩ := normalizeRoleTarget_ne_empty (normalizeStorageLayout_targets h role)
  have hof := (normalizeStorageLayout_ok h).1 role
  refine ⟨hbucket, ?_, hprefix, ?_⟩
  · rw [hof.bucket, trim_trim]
  · rw [hof.keyPrefix, stripSlashes_stripSlashes]

theorem qualifiedObjectKey_eq_ok_iff {target : NormalizedStorageRoleTarget}
    {objectKey key : String} :
    qualifiedObjectKey target objectKey = .ok key ↔
      key = qualifiedText target objectKey ∧ stripSlashes (trim objectKey) ≠ "" := by
  unfold qualifiedObjectKey buildQualifiedObjectKey
  by_cases hempty : stripSlashes (trim objectKey) = ""
  · have herror : normalizeRelativeObjectKey objectKey =
        .error "Object keys must be non-empty after normalization." := by
      simp [normalizeRelativeObjectKey, hempty]
    rw [herror]
    refine iff_of_false (fun hok => ?_) fun h => h.2 hempty
    cases hok
  · rw [normalizeRelativeObjectKey_eq_ok_iff.mpr ⟨rfl, hempty⟩]
    constructor
    · intro h
      exact ⟨(Except.ok.inj h).symm, hempty⟩
    · rintro ⟨rfl, -⟩
      rfl

/-- A qualified key begins and ends with no slash. -/
theorem stripSlashes_qualifiedText {target : NormalizedStorageRoleTarget} (h : target.Normalized)
    {objectKey : String} (hne : stripSlashes (trim objectKey) ≠ "") :
    stripSlashes (qualifiedText target objectKey) = qualifiedText target objectKey := by
  rw [← String.toList_inj, stripSlashes_eq]
  apply Strip.strip_eq_self
  have htext : (qualifiedText target objectKey).toList =
      target.keyPrefix.toList ++ '/' :: (stripSlashes (trim objectKey)).toList := by
    simp [qualifiedText]
  have hprefix := Strip.stripped_strip (fun c => c == '/') target.keyPrefix.toList
  have hrelative := Strip.stripped_strip (fun c => c == '/') (trim objectKey).toList
  rw [← stripSlashes_eq, h.stripped] at hprefix
  rw [← stripSlashes_eq] at hrelative
  have hprefixNe : target.keyPrefix.toList ≠ [] := mt String.toList_eq_nil_iff.mp h.keyPrefix
  have hrelativeNe : (stripSlashes (trim objectKey)).toList ≠ [] :=
    mt String.toList_eq_nil_iff.mp hne
  rw [htext]
  constructor
  · intro c hc
    rw [List.head?_append_of_ne_nil _ hprefixNe] at hc
    exact hprefix.1 c hc
  · intro c hc
    rw [List.append_cons, List.getLast?_append_of_ne_nil _ hrelativeNe] at hc
    exact hrelative.2 c hc

/-- Normalizing a key again changes nothing exactly when no white space is trimmed from it. -/
theorem normalizeRelativeObjectKey_self_iff {key : String} (hne : key ≠ "")
    (hstripped : stripSlashes key = key) :
    normalizeRelativeObjectKey key = .ok key ↔ trim key = key := by
  rw [normalizeRelativeObjectKey_eq_ok_iff, and_iff_left hne]
  constructor
  · intro h
    -- stripping cannot give back what trimming took
    have hsub : key.toList.Sublist (trim key).toList := by
      conv_lhs => rw [h]
      rw [stripSlashes_eq]
      exact Strip.strip_sublist _ _
    have hsub' : (trim key).toList.Sublist key.toList := by
      rw [trim_toList]
      exact Strip.strip_sublist _ _
    exact String.toList_inj.mp (hsub'.antisymm hsub)
  · intro h
    rw [h, hstripped]

/-- A bucket and a qualified key **survive** a reference. -/
structure SurvivesReference (bucket key : String) : Prop where
  slashFree : '/' ∉ bucket.toList
  trimmed : trim key = key
  lines : ∀ c ∈ key.toList, isLineTerminator c = false

/-- The ends of a trimmed text are no blanks of a header. -/
theorem isBlank_eq_false {s : String} (h : trim s = s) {c : Char}
    (hprintable : HeaderValues.isPrintable c = true)
    (hend : s.toList.head? = some c ∨ s.toList.getLast? = some c) :
    HeaderValues.isBlank (UInt8.ofNat c.toNat) = false := by
  have hstripped := Strip.stripped_strip isStrWhiteSpace s.toList
  rw [← trim_toList, h] at hstripped
  have hspace : isStrWhiteSpace c = false := by
    rcases hend with hhead | hlast
    · exact hstripped.1 c hhead
    · exact hstripped.2 c hlast
  have hlt := HeaderValues.lt_of_isPrintable hprintable
  rw [Bool.eq_false_iff]
  intro hblank
  simp only [HeaderValues.isBlank, Bool.or_eq_true, beq_iff_eq] at hblank
  rw [← HeaderValues.byteChar_ofNat hlt] at hspace
  rcases hblank with hblank | hblank <;> rw [hblank] at hspace <;> revert hspace <;> decide

/-- The copy source of a trimmed bucket and a trimmed key begins and ends with no blank. -/
theorem stripped_encodeCopySource {bucket key : String} (hbucket : bucket ≠ "")
    (hkey : key ≠ "") (htrimBucket : trim bucket = bucket) (htrimKey : trim key = key)
    (hprintable : ∀ c ∈ (encodeCopySource bucket key).toList, HeaderValues.isPrintable c = true) :
    Strip.Stripped HeaderValues.isBlank
      (HeaderValues.latin1 (encodeCopySource bucket key).toList) := by
  have htext : (encodeCopySource bucket key).toList = bucket.toList ++ '/' :: key.toList := by
    simp [encodeCopySource]
  have hbucketNe : bucket.toList ≠ [] := mt String.toList_eq_nil_iff.mp hbucket
  have hkeyNe : key.toList ≠ [] := mt String.toList_eq_nil_iff.mp hkey
  rw [htext] at hprintable ⊢
  constructor
  · intro b hb
    rw [HeaderValues.latin1, List.head?_map, List.head?_append_of_ne_nil _ hbucketNe,
      Option.mem_map] at hb
    obtain ⟨c, hc, rfl⟩ := hb
    exact isBlank_eq_false htrimBucket
      (hprintable c (List.mem_append_left _ (List.mem_of_mem_head? hc))) (.inl hc)
  · intro b hb
    rw [HeaderValues.latin1, List.getLast?_map, List.append_cons,
      List.getLast?_append_of_ne_nil _ hkeyNe, Option.mem_map] at hb
    obtain ⟨c, hc, rfl⟩ := hb
    have hmem : c ∈ bucket.toList ++ '/' :: key.toList :=
      List.mem_append_right _ (List.mem_cons_of_mem _ (List.mem_of_mem_getLast? hc))
    exact isBlank_eq_false htrimKey (hprintable c hmem) (.inr hc)

theorem forall_notLineTerminator {cs : List Char}
    (h : (cs.all fun c => !isLineTerminator c) = true) : ∀ c ∈ cs, isLineTerminator c = false := by
  intro c hc
  simpa using List.all_eq_true.mp h c hc

/-- **References give back the qualified keys that survive them, and no others.** -/
theorem givenBack_iff {target : NormalizedStorageRoleTarget} (h : target.Normalized)
    {objectKey : String} (hne : stripSlashes (trim objectKey) ≠ "") :
    GivenBack target.bucket (qualifiedText target objectKey) ↔
      SurvivesReference target.bucket (qualifiedText target objectKey) := by
  have hkey : qualifiedText target objectKey ≠ "" := by
    rw [qualifiedText]
    simp
  have hself := normalizeRelativeObjectKey_self_iff hkey (stripSlashes_qualifiedText h hne)
  constructor
  · rintro ⟨-, hslash, hnormal, hlines⟩
    exact ⟨hslash, hself.mp hnormal, hlines⟩
  · rintro ⟨hslash, htrim, hlines⟩
    exact ⟨h.bucket, hslash, hself.mpr htrim, hlines⟩

theorem buildStagingSnapshotSourcePath_eq (stagedObject : StagedObjectDescriptor) :
    buildStagingSnapshotSourcePath stagedObject =
      bucketReference "staging" stagedObject.bucket stagedObject.key := by
  have hscheme : "staging" ++ "://" = "staging://" := by decide +kernel
  rw [bucketReference, hscheme]
  rfl

theorem buildS3Uri_eq (bucket key : String) :
    buildS3Uri bucket key = bucketReference "s3" bucket key := by
  have hscheme : "s3" ++ "://" = "s3://" := by decide +kernel
  rw [bucketReference, hscheme]
  rfl

/-- A repository finds a staged object exactly when it survives its reference. -/
theorem stagedObject_eq_ok_iff {repository : S3CompatibleSourceRepository}
    (h : repository.ingestTarget.Normalized) {objectKey : String}
    (hne : stripSlashes (trim objectKey) ≠ "") {stagedObject : StagedObjectDescriptor}
    (hbucket : stagedObject.bucket = repository.ingestTarget.bucket)
    (hkey : stagedObject.key = qualifiedText repository.ingestTarget objectKey) :
    repository.stagedObject (buildStagingSnapshotSourcePath stagedObject) =
        .ok (repository.ingestTarget.bucket, qualifiedText repository.ingestTarget objectKey) ↔
      SurvivesReference repository.ingestTarget.bucket
        (qualifiedText repository.ingestTarget objectKey) := by
  have hunder : LiesUnder repository.ingestTarget.keyPrefix
      (qualifiedText repository.ingestTarget objectKey) := by
    rw [LiesUnder, qualifiedText, String.toList_append, String.toList_append]
    exact List.prefix_append _ _
  rw [← givenBack_iff h hne, buildStagingSnapshotSourcePath_eq, hbucket, hkey]
  constructor
  · intro hstaged
    exact normalizeReference_eq_ok_iff.mp
      (S3CompatibleSourceRepository.parse_of_stagedObject hstaged)
  · intro hback
    rw [S3CompatibleSourceRepository.stagedObject, parseStagingReference,
      normalizeReference_eq_ok_iff.mpr hback]
    simp only [ne_eq, not_true_eq_false, if_false, hunder]

/-! ### Snapshots of staged objects -/

/-- **A snapshot reads back**: it heads the staged object, copies exactly that object, and every
restore of what it returns reads exactly the copy. -/
structure SnapshotReadsBack (plus : Bool) (repository : S3CompatibleSourceRepository)
    (stagedKey sourceKey copySource : String) (input : SnapshotFromPathInput) : Prop where
  names : copySourceObject plus copySource =
    some (utf8 repository.ingestTarget.bucket.toList, utf8 stagedKey.toList)
  requests : ∀ env : S3Environment, (repository.snapshotFromPath env input).events <+:
    [.send (.headObject repository.ingestTarget.bucket stagedKey),
      .send (.copyObject repository.sourceTarget.bucket copySource sourceKey),
      .send (.headObject repository.sourceTarget.bucket sourceKey)]
  copies : ∀ env : S3Environment, (∀ i request, ∃ output, env.answer i request = .ok output) →
    .send (.copyObject repository.sourceTarget.bucket copySource sourceKey) ∈
        (repository.snapshotFromPath env input).events ∧
      ∃ snapshot, (repository.snapshotFromPath env input).result = .ok snapshot
  restores : ∀ (env : S3Environment) snapshot,
    (repository.snapshotFromPath env input).result = .ok snapshot →
      ∀ (env' : S3Environment) destinationPath,
        S3CompatibleSourceRepository.sentRequests
            (S3CompatibleSourceRepository.restoreToPath env'
              { canonicalSourceId := snapshot.canonicalSourceId
                destinationPath
                snapshot := some snapshot }).events =
          [.getObject repository.sourceTarget.bucket sourceKey]

/-- **No reference changes a key of a snapshot**: the staging reference and the URI of the copy
leave the qualified keys as they are, and the copy source is printable ASCII with nothing to
decode. -/
structure ReferencesKeep (plus : Bool) (repository : S3CompatibleSourceRepository)
    (objectKey : String) (input : SnapshotFromPathInput) : Prop where
  staged : SurvivesReference repository.ingestTarget.bucket
    (qualifiedText repository.ingestTarget objectKey)
  printable : ∀ c ∈ (encodeCopySource repository.ingestTarget.bucket
    (qualifiedText repository.ingestTarget objectKey)).toList, HeaderValues.isPrintable c = true
  copySource : Plain plus (encodeCopySource repository.ingestTarget.bucket
    (qualifiedText repository.ingestTarget objectKey)).toList
  source : SurvivesReference repository.sourceTarget.bucket
    (qualifiedText repository.sourceTarget (input.assetVersionId ++ "/" ++ input.sourceFilename))

/-- The characters of a sanitized name. -/
theorem mem_sanitizeMaterializedFilename {candidate : String} {c : Char}
    (h : c ∈ (sanitizeMaterializedFilename candidate).toList) :
    c ≠ '/' ∧ c ≠ '\\' ∧ 0x20 ≤ c.toNat := by
  rw [sanitizeMaterializedFilename, String.toList_ofList, List.mem_reverse] at h
  have hreplaced := List.mem_reverse.mp ((List.dropWhile_sublist _).subset h)
  obtain ⟨d, hd, heq⟩ := List.mem_map.mp hreplaced
  split at heq
  · subst heq
    exact ⟨by decide, by decide, by decide⟩
  · rename_i hvalid
    subst heq
    rw [takeLastPathSegment, String.toList_ofList] at hd
    have hcontrol : 0x20 ≤ d.toNat := by
      simp only [isInvalidMaterializedFilenameCharacter, Bool.or_eq_true, decide_eq_true_eq,
        not_or] at hvalid
      exact Nat.le_of_not_lt hvalid.1
    cases hlast : ((trim candidate).toList.splitOnP fun c => c == '/' || c == '\\').filter
        (· ≠ []) |>.getLast? with
    | none =>
        rw [hlast] at hd
        cases hd
    | some piece =>
        rw [hlast] at hd
        have hpiece := (List.mem_filter.mp (List.mem_of_getLast? hlast)).1
        have hsep := (Strip.mem_splitOnP hpiece d hd).2
        obtain ⟨hslash, hbackslash⟩ := Bool.or_eq_false_iff.mp hsep
        exact ⟨beq_eq_false_iff_ne.mp hslash, beq_eq_false_iff_ne.mp hbackslash, hcontrol⟩

/-- A sanitized name is part of one segment. -/
theorem slash_notMem_sanitizeMaterializedFilename (candidate : String) :
    '/' ∉ (sanitizeMaterializedFilename candidate).toList :=
  fun hslash => (mem_sanitizeMaterializedFilename hslash).1 rfl

/-- A safe file name is more than white space and slashes. -/
theorem exists_of_isSafeSourceFilename {filename : String}
    (h : isSafeSourceFilename filename = true) :
    ∃ c ∈ filename.toList, isStrWhiteSpace c = false ∧ c ≠ '/' := by
  simp only [isSafeSourceFilename] at h
  split at h
  · cases h
  · rename_i hlength
    have hne : (trim filename).toList ≠ [] := fun hnil => by
      rw [← String.length_toList, hnil] at hlength
      exact hlength rfl
    obtain ⟨c, hc⟩ := Option.ne_none_iff_exists'.mp (mt List.head?_eq_none_iff.mp hne)
    have hmem := List.mem_of_mem_head? hc
    have hstripped := Strip.stripped_strip isStrWhiteSpace filename.toList
    have hsanitized : sanitizeMaterializedFilename (trim filename) = trim filename :=
      beq_iff_eq.mp (Bool.and_eq_true_iff.mp h).2
    have hslash := slash_notMem_sanitizeMaterializedFilename (trim filename)
    rw [hsanitized] at hslash
    refine ⟨c, ?_, ?_, fun heq => hslash (heq ▸ hmem)⟩
    · rw [trim_toList] at hmem
      exact Strip.mem_of_mem_strip hmem
    · rw [trim_toList] at hc
      exact hstripped.1 c hc

/-- The key of a copy is never empty, for a safe file name. -/
theorem sourceKey_eq {repository : S3CompatibleSourceRepository} {input : SnapshotFromPathInput}
    (h : isSafeSourceFilename input.sourceFilename = true) :
    stripSlashes (trim (input.assetVersionId ++ "/" ++ input.sourceFilename)) ≠ "" ∧
      repository.sourceKey input = .ok (qualifiedText repository.sourceTarget
        (input.assetVersionId ++ "/" ++ input.sourceFilename)) := by
  have hne : stripSlashes (trim (input.assetVersionId ++ "/" ++ input.sourceFilename)) ≠ "" := by
    obtain ⟨c, hc, hspace, hslash⟩ := exists_of_isSafeSourceFilename h
    intro hempty
    have hmem : c ∈ (stripSlashes
        (trim (input.assetVersionId ++ "/" ++ input.sourceFilename))).toList := by
      rw [stripSlashes_eq, trim_toList]
      refine Strip.mem_strip_of_neg (Strip.mem_strip_of_neg ?_ hspace)
        (beq_eq_false_iff_ne.mpr hslash)
      rw [String.toList_append]
      exact List.mem_append_right _ hc
    rw [hempty] at hmem
    cases hmem
  exact ⟨hne, qualifiedObjectKey_eq_ok_iff.mpr ⟨rfl, hne⟩⟩

section ReadsBack

variable {plus : Bool} {repository : S3CompatibleSourceRepository} {objectKey : String}
  {input : SnapshotFromPathInput}

/-- A client that answers every request. -/
def answeringEnvironment : S3Environment where
  answer := fun _ _ => .ok {}
  dirname := id
  mkdir := fun _ => .ok ()
  writeFile := fun _ _ => .ok ()

/-- The URI of a copy gives the copy back exactly when its key survives it. -/
theorem parseS3Uri_eq_ok_iff (h : repository.sourceTarget.Normalized) {sourcePath : String}
    (hne : stripSlashes (trim sourcePath) ≠ "") :
    parseS3Uri (buildS3Uri repository.sourceTarget.bucket
        (qualifiedText repository.sourceTarget sourcePath)) =
        .ok (repository.sourceTarget.bucket, qualifiedText repository.sourceTarget sourcePath) ↔
      SurvivesReference repository.sourceTarget.bucket
        (qualifiedText repository.sourceTarget sourcePath) := by
  rw [← givenBack_iff h hne, parseS3Uri, buildS3Uri_eq]
  exact normalizeReference_eq_ok_iff

/-- A snapshot of keys that no reference changes reads back. -/
theorem snapshotReadsBack_of_keep (hingestTarget : repository.ingestTarget.Normalized)
    (hsourceTarget : repository.sourceTarget.Normalized)
    (hkey : qualifiedText repository.ingestTarget objectKey ≠ "")
    (hsafe : isSafeSourceFilename input.sourceFilename = true)
    (hstaged : repository.stagedObject input.localPath =
      .ok (repository.ingestTarget.bucket, qualifiedText repository.ingestTarget objectKey))
    (h : ReferencesKeep plus repository objectKey input) :
    SnapshotReadsBack plus repository (qualifiedText repository.ingestTarget objectKey)
      (qualifiedText repository.sourceTarget
        (input.assetVersionId ++ "/" ++ input.sourceFilename))
      (encodeCopySource repository.ingestTarget.bucket
        (qualifiedText repository.ingestTarget objectKey)) input := by
  obtain ⟨hne, hsourceKey⟩ := @sourceKey_eq repository input hsafe
  constructor
  · refine (copySourceObject_eq_iff h.staged.slashFree hkey).mpr ⟨h.printable, ?_, h.copySource⟩
    exact stripped_encodeCopySource hingestTarget.bucket hkey hingestTarget.trimmed
      h.staged.trimmed h.printable
  · exact S3CompatibleSourceRepository.events_snapshotFromPath hstaged hsourceKey
  · intro env hanswers
    obtain ⟨hevents, stagedHead, sourceHead, hresult⟩ :=
      S3CompatibleSourceRepository.snapshotFromPath_ok hstaged hsourceKey hanswers
    refine ⟨?_, _, hresult⟩
    rw [hevents]
    exact List.mem_cons_of_mem _ List.mem_cons_self
  · intro env snapshot hresult env' destinationPath
    obtain ⟨sourceKey, stagedHead, sourceHead, hkey', rfl⟩ :=
      S3CompatibleSourceRepository.snapshotFromPath_result hresult
    obtain rfl := Except.ok.inj (hsourceKey.symm.trans hkey')
    have hparse := (parseS3Uri_eq_ok_iff hsourceTarget hne).mpr h.source
    exact S3CompatibleSourceRepository.sentRequests_restoreToPath
      ((S3CompatibleSourceRepository.resolveSnapshotObject_snapshotResult _ _ _ _ _).trans hparse)
      env'

/-- The requests of a snapshot that reads back name the staged object. -/
theorem SnapshotReadsBack.stagedObject {stagedKey sourceKey copySource : String}
    (hsafe : isSafeSourceFilename input.sourceFilename = true)
    (h : SnapshotReadsBack plus repository stagedKey sourceKey copySource input) :
    repository.stagedObject input.localPath = .ok (repository.ingestTarget.bucket, stagedKey) ∧
      copySource = encodeCopySource repository.ingestTarget.bucket stagedKey ∧
        sourceKey = qualifiedText repository.sourceTarget
          (input.assetVersionId ++ "/" ++ input.sourceFilename) := by
  obtain ⟨-, hsourceKey⟩ := @sourceKey_eq repository input hsafe
  obtain ⟨hmem, -⟩ := h.copies answeringEnvironment fun _ _ => ⟨{}, rfl⟩
  cases hstaged : repository.stagedObject input.localPath with
  | error error =>
      rw [S3CompatibleSourceRepository.snapshotFromPath_error hstaged] at hmem
      cases hmem
  | ok staged =>
      have hanswers : ∀ i request, ∃ output, answeringEnvironment.answer i request = .ok output :=
        fun _ _ => ⟨{}, rfl⟩
      obtain ⟨hevents, -⟩ :=
        S3CompatibleSourceRepository.snapshotFromPath_ok hstaged hsourceKey hanswers
      have hrequests := h.requests answeringEnvironment
      rw [hevents, S3CompatibleSourceRepository.snapshotRequests] at hrequests
      simp only [List.cons_prefix_cons, S3Effect.send.injEq, S3Request.headObject.injEq,
        S3Request.copyObject.injEq] at hrequests
      obtain ⟨⟨hbucket, hkey⟩, ⟨-, hcopy, hsource⟩, -⟩ := hrequests
      have hpair : staged = (repository.ingestTarget.bucket, stagedKey) :=
        Prod.ext hbucket hkey
      subst hpair
      exact ⟨rfl, hcopy.symm, hsource.symm⟩

/-- A snapshot that reads back is restored from the object of its URI. -/
theorem SnapshotReadsBack.parseS3Uri {stagedKey sourceKey copySource : String}
    (h : SnapshotReadsBack plus repository stagedKey sourceKey copySource input)
    (hsourceKey : repository.sourceKey input = .ok sourceKey) :
    parseS3Uri (buildS3Uri repository.sourceTarget.bucket sourceKey) =
      .ok (repository.sourceTarget.bucket, sourceKey) := by
  obtain ⟨-, snapshot, hresult⟩ := h.copies answeringEnvironment fun _ _ => ⟨{}, rfl⟩
  have hrestore := h.restores answeringEnvironment snapshot hresult answeringEnvironment ""
  obtain ⟨sourceKey', stagedHead, sourceHead, hkey', rfl⟩ :=
    S3CompatibleSourceRepository.snapshotFromPath_result hresult
  obtain rfl := Except.ok.inj (hsourceKey.symm.trans hkey')
  have hresolve := @S3CompatibleSourceRepository.resolveSnapshotObject_snapshotResult repository
    input sourceKey "" stagedHead sourceHead
  cases hparse : Cdngine.parseS3Uri (buildS3Uri repository.sourceTarget.bucket sourceKey) with
  | error error =>
      have hevents := S3CompatibleSourceRepository.restoreToPath_error (hresolve.trans hparse)
        answeringEnvironment
      rw [S3CompatibleSourceRepository.snapshotResult] at hrestore hevents
      rw [hevents] at hrestore
      cases hrestore
  | ok source =>
      have hevents := S3CompatibleSourceRepository.sentRequests_restoreToPath
        (hresolve.trans hparse) answeringEnvironment
      obtain ⟨hbucket, hkey⟩ : source.1 = repository.sourceTarget.bucket ∧
        source.2 = sourceKey := by
        have heq := hevents.symm.trans hrestore
        simpa using heq
      exact congrArg Except.ok (Prod.ext hbucket hkey)

end ReadsBack

/-! ### Snapshots of the sample layout -/

/-- The targets of the sample layout. -/
def sampleTargets : NormalizedStorageLayout where
  ingest := ⟨.ingest, "cdngine-data", "ingest", "cdngine-data/ingest"⟩
  source := ⟨.source, "cdngine-data", "source", "cdngine-data/source"⟩
  derived := ⟨.derived, "cdngine-data", "derived", "cdngine-data/derived"⟩
  exports := ⟨.exports, "cdngine-data", "exports", "cdngine-data/exports"⟩

def sampleSourceRepository : S3CompatibleSourceRepository :=
  ⟨sampleTargets.ingest, sampleTargets.source⟩

/-- The descriptor of a staged object of the sample layout. -/
def sampleStagedObject (key : String) : StagedObjectDescriptor :=
  ⟨"cdngine-data", key, 5, none⟩

/-- The snapshot of a staged object. -/
def sampleSnapshotInput (key filename : String) : SnapshotFromPathInput where
  assetVersionId := "ver 1"
  logicalByteLength := 5
  localPath := buildStagingSnapshotSourcePath (sampleStagedObject key)
  sourceFilename := filename
  sourceDigests := []
  metadata := []

end Cdngine
