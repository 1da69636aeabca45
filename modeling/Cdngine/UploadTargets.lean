import Cdngine.S3Stores

/-!
# Upload Targets

The upload target of the staging store is a URL under its upload base, whose path names the
qualified key with every segment percent-encoded. The path is set through the URL parser, which
resolves dot segments: an encoded dot is still a dot. A key with a dot segment gives a URL of
another object, which may lie outside of the role prefix, while `headObject` and `deleteObject`
send the key as it is.

## Main results

* `uploadUrl_path`: the path of an upload URL, for a key without dot segments.
* `uploadTargetReaches_iff`: an upload target reaches the object that the store addresses exactly
  when the qualified key has no dot segments.
-/

namespace Cdngine

open PercentEncoding UrlPaths

/-! ### Encoded segments -/

theorem isUriUnreserved_clean {c : Char} (h : isUriUnreserved c = true) :
    (∀ scheme, Clean scheme c) ∧ c ≠ ':' ∧ c ≠ '|' := by
  have hascii : c.toNat < 128 := by
    rcases Bool.or_eq_true_iff.mp h with halphanum | hmark
    · rcases Bool.or_eq_true_iff.mp halphanum with halpha | hdigit
      · rcases Bool.or_eq_true_iff.mp halpha with hupper | hlower
        · have hle := (of_decide_eq_true hupper).2
          exact Nat.lt_of_le_of_lt hle (by decide)
        · have hle := of_decide_eq_true (Bool.and_eq_true_iff.mp hlower).2
          exact Nat.lt_of_le_of_lt hle (by decide)
      · have hle := of_decide_eq_true (Bool.and_eq_true_iff.mp hdigit).2
        exact Nat.lt_of_le_of_lt hle (by decide)
    · have hall : ['-', '_', '.', '!', '~', '*', '\'', '(', ')'].all (·.toNat < 128) = true := by
        decide
      exact of_decide_eq_true (List.all_eq_true.mp hall c (List.contains_iff_mem.mp hmark))
  have hall : ∀ n < 128, isUriUnreserved (Char.ofNat n) = true →
      ((Char.ofNat n == '/') = false ∧ (Char.ofNat n == '\\') = false ∧
        inPathSet (Char.ofNat n) = false) ∧ Char.ofNat n ≠ ':' ∧ Char.ofNat n ≠ '|' := by
    decide +kernel
  obtain ⟨⟨hslash, hback, hset⟩, hcolon, hbar⟩ := hall c.toNat hascii (by rwa [Char.ofNat_toNat])
  rw [Char.ofNat_toNat] at hslash hback hset hcolon hbar
  refine ⟨fun scheme => ⟨?_, hset⟩, hcolon, hbar⟩
  rw [isSeparator, hslash, hback, Bool.and_false, Bool.or_false]

/-- An encoded segment holds nothing that the path state changes. -/
theorem clean_encodeURIComponent (scheme : Scheme) (cs : List Char) :
    ∀ c ∈ encodeURIComponent cs, Clean scheme c ∧ c ≠ ':' ∧ c ≠ '|' := by
  have hdigit : ∀ n < 16, hexDigit n ≠ ':' ∧ hexDigit n ≠ '|' := by decide
  exact forall_mem_encode ⟨clean_percent scheme, by decide, by decide⟩
    (fun n hn => ⟨clean_hexDigit scheme hn, hdigit n hn⟩)
    fun c hkeep => ⟨(isUriUnreserved_clean hkeep).1 scheme, (isUriUnreserved_clean hkeep).2⟩

/-- **An encoded segment is decoded to its bytes.** -/
theorem decode_encodeURIComponent (cs : List Char) :
    decode false (encodeURIComponent cs) = utf8 cs :=
  decode_encode (by decide) (by decide) cs

/-- A segment **is no dot segment**. -/
def IsPlainSegment (segment : List Char) : Prop := segment ≠ ['.'] ∧ segment ≠ ['.', '.']

instance (segment : List Char) : Decidable (IsPlainSegment segment) :=
  inferInstanceAs (Decidable (_ ∧ _))

/-- The path state keeps an encoded segment unless it is a dot segment. -/
theorem kept_encodeURIComponent (scheme : Scheme) {segment : List Char}
    (h : IsPlainSegment segment) : Kept scheme (encodeURIComponent segment) := by
  have hone : utf8 ['.'] = [0x2E] := by decide +kernel
  have htwo : utf8 ['.', '.'] = [0x2E, 0x2E] := by decide +kernel
  refine ⟨fun c hc => (clean_encodeURIComponent scheme segment c hc).1, ?_, ?_⟩
  · rw [Bool.eq_false_iff, Ne, isSingleDot_iff, decode_encodeURIComponent, ← hone, utf8_inj]
    exact h.1
  · rw [Bool.eq_false_iff, Ne, isDoubleDot_iff, decode_encodeURIComponent, ← htwo, utf8_inj]
    exact h.2

/-- An encoded segment is no drive letter. -/
theorem normalizeDrive_encodeURIComponent (scheme : Scheme) (segment : List Char) :
    normalizeDrive scheme [] (encodeURIComponent segment) = encodeURIComponent segment := by
  have hclean := clean_encodeURIComponent scheme segment
  refine normalizeDrive_of_not_drive ?_ scheme []
  generalize encodeURIComponent segment = encoded at hclean
  match encoded, hclean with
  | [a, b], hclean =>
      obtain ⟨-, hcolon, hbar⟩ := hclean b (List.mem_cons_of_mem a List.mem_cons_self)
      simp [isWindowsDrive, hcolon, hbar]
  | [], _ => rfl
  | [_], _ => rfl
  | _ :: _ :: _ :: _, _ => rfl

/-! ### The path of an upload URL -/

/-- The segments of a base path, without the empty one behind a slash at its end. -/
def baseSegments (path : List Segment) : List Segment :=
  if path.getLast? = some [] then path.dropLast else path

theorem serialize_append (path later : List Segment) :
    serialize (path ++ later) = serialize path ++ serialize later := List.flatMap_append

theorem mem_baseSegments {path : List Segment} {segment : Segment}
    (h : segment ∈ baseSegments path) : segment ∈ path := by
  unfold baseSegments at h
  split at h
  · exact List.mem_of_mem_dropLast h
  · exact h

theorem head?_baseSegments {path : List Segment} {segment : Segment}
    (h : segment ∈ (baseSegments path).head?) : segment ∈ path.head? := by
  unfold baseSegments at h
  split at h
  · match path, h with
    | [], h => cases h
    | [_], h => cases h
    | _ :: _ :: _, h => exact h
  · exact h

/-- Taking one slash from the end of a pathname takes the empty segment from its path. -/
theorem withoutTrailingSlash_pathname (base : Url) :
    withoutTrailingSlash base.pathname = serialize (baseSegments base.path) := by
  have hkept := base.wellFormed.kept
  rw [Url.pathname]
  generalize base.path = path at hkept
  cases path using List.reverseRecOn with
  | nil => rfl
  | append_singleton path segment _ =>
      rw [baseSegments, List.getLast?_concat, List.dropLast_concat, serialize_append]
      have hlast : serialize [segment] = '/' :: segment := List.append_nil _
      cases segment with
      | nil =>
          rw [if_pos rfl, hlast, withoutTrailingSlash, List.getLast?_concat, if_pos rfl,
            List.dropLast_concat]
      | cons c segment =>
          have hne : c :: segment ≠ [] := List.cons_ne_nil c segment
          have hmem := List.getLast_mem hne
          have hclean := (hkept (c :: segment)
            (List.mem_append_right path List.mem_cons_self)).clean _ hmem
          have hslash : (c :: segment).getLast hne ≠ '/' := fun heq => by
            have hseparator := hclean.1
            rw [heq, isSeparator_slash] at hseparator
            cases hseparator
          rw [if_neg (by simp), serialize_append, withoutTrailingSlash, if_neg]
          rw [hlast, List.getLast?_append, List.getLast?_cons_cons,
            List.getLast?_eq_some_getLast hne, Option.some_or]
          exact fun heq => hslash (Option.some.inj heq)

theorem serialize_eq_intercalate {path : List Segment} (h : path ≠ []) :
    serialize path = '/' :: ['/'].intercalate path := by
  induction path with
  | nil => exact absurd rfl h
  | cons segment path ih =>
      cases path with
      | nil => simp [serialize]
      | cons next path =>
          rw [List.intercalate_cons_cons, List.append_assoc, List.singleton_append,
            ← ih (List.cons_ne_nil next path)]
          rfl

/-- The segments of a key, encoded. -/
def encodedSegments (key : String) : List Segment :=
  (key.toList.splitOn '/').map encodeURIComponent

theorem encodedSegments_ne_nil (key : String) : encodedSegments key ≠ [] := by
  rw [encodedSegments, Ne, List.map_eq_nil_iff]
  exact List.splitOn_ne_nil '/' key.toList

/-- The upload URL of a key under a parsed base. -/
def uploadUrl (base : Url) (key : String) : Url :=
  base.setPathname (serialize (baseSegments base.path ++ encodedSegments key))

/-- The base that the store parses. -/
def S3CompatibleStagingBlobStore.normalizedBase (store : S3CompatibleStagingBlobStore) : String :=
  if store.uploadBaseUrl.toList.getLast? = some '/' then store.uploadBaseUrl
  else store.uploadBaseUrl ++ "/"

theorem buildTusUploadUrl_eq {parseUrl : String → Option Url}
    {store : S3CompatibleStagingBlobStore} {base : Url}
    (h : parseUrl store.normalizedBase = some base) (key : String) :
    buildTusUploadUrl parseUrl store.uploadBaseUrl key = .ok (uploadUrl base key) := by
  have hvalue : withoutTrailingSlash base.pathname ++
      '/' :: ['/'].intercalate ((key.toList.splitOn '/').map encodeURIComponent) =
        serialize (baseSegments base.path ++ encodedSegments key) := by
    rw [withoutTrailingSlash_pathname, serialize_append,
      serialize_eq_intercalate (encodedSegments_ne_nil key)]
    rfl
  unfold buildTusUploadUrl
  rw [S3CompatibleStagingBlobStore.normalizedBase] at h
  simp only [h, hvalue]
  rfl

/-- **The path of an upload URL**, for a key without dot segments. -/
theorem uploadUrl_path (base : Url) {key : String}
    (h : ∀ segment ∈ key.toList.splitOn '/', IsPlainSegment segment) :
    (uploadUrl base key).path = baseSegments base.path ++ encodedSegments key := by
  have hkept : ∀ segment ∈ baseSegments base.path ++ encodedSegments key,
      Kept base.scheme segment := by
    intro segment hsegment
    cases List.mem_append.mp hsegment with
    | inl hsegment => exact base.wellFormed.kept segment (mem_baseSegments hsegment)
    | inr hsegment =>
        obtain ⟨piece, hpiece, rfl⟩ := List.mem_map.mp hsegment
        exact kept_encodeURIComponent base.scheme (h piece hpiece)
  have hwell : WellFormed base.scheme (baseSegments base.path ++ encodedSegments key) := by
    refine ⟨hkept, fun segment hsegment => ?_⟩
    cases hbase : baseSegments base.path with
    | nil =>
        rw [hbase] at hsegment
        have hmem := List.mem_of_mem_head? hsegment
        obtain ⟨piece, -, rfl⟩ := List.mem_map.mp hmem
        exact normalizeDrive_encodeURIComponent base.scheme piece
    | cons first rest =>
        rw [hbase] at hsegment
        refine base.wellFormed.drive segment (head?_baseSegments ?_)
        rw [hbase]
        exact hsegment
  have hne : baseSegments base.path ++ encodedSegments key ≠ [] := by
    simp [encodedSegments_ne_nil key]
  change parsePath base.scheme (serialize _) = _
  rw [parsePath_serialize hne fun segment hsegment => (hkept segment hsegment).clean]
  exact readSegments_of_wellFormed hwell

/-! ### What an upload target reaches -/

/-- The decoded segments of the path of a URL, as a client resolves it. -/
def Url.decodedSegments (url : Url) : List (List UInt8) := url.resolved.path.map (decode false)

/-- The decoded segments of a base path. -/
def Url.decodedBase (base : Url) : List (List UInt8) :=
  (baseSegments base.path).map (decode false)

/-- The bytes of the key that a URL names under a base. -/
def objectBytes (base url : Url) : List UInt8 :=
  [0x2F].intercalate ((Url.decodedSegments url).drop (Url.decodedBase base).length)

/-- **A URL reaches a key of a store**: its path has the decoded segments of the base path, then
those of the key. It names the key under the base, and it lies under the role prefix. -/
structure UrlReaches (store : S3CompatibleStagingBlobStore) (base : Url) (key : String)
    (url : Url) : Prop where
  segments : Url.decodedSegments url =
    Url.decodedBase base ++ (key.toList.splitOn '/').map utf8
  object : objectBytes base url = utf8 key.toList
  stays : Url.decodedBase base ++ (store.target.keyPrefix.toList.splitOn '/').map utf8 <+:
    Url.decodedSegments url

/-- **The upload target of an input reaches the object that the store addresses**: the client
uploads to the key that `headObject` and `deleteObject` send. -/
def UploadTargetReaches (parseUrl : String → Option Url) (store : S3CompatibleStagingBlobStore)
    (base : Url) (input : CreateUploadTargetInput) : Prop :=
  ∃ key url result,
    buildTusUploadUrl parseUrl store.uploadBaseUrl key = .ok url ∧
      store.createUploadTarget parseUrl input = .ok result ∧ result.url = url.href ∧
      UrlReaches store base key url ∧
      (∀ env, (store.headObject env input.objectKey).events =
        [.send (.headObject store.target.bucket key)]) ∧
      ∀ env, (store.deleteObject env input.objectKey).events =
        [.send (.deleteObject store.target.bucket key)]

/-- A qualified key is the role prefix and a relative key. -/
theorem qualifiedObjectKey_ok {target : NormalizedStorageRoleTarget} {objectKey key : String}
    (h : qualifiedObjectKey target objectKey = .ok key) :
    ∃ relative, normalizeRelativeObjectKey objectKey = .ok relative ∧
      key.toList = target.keyPrefix.toList ++ '/' :: relative.toList := by
  unfold qualifiedObjectKey buildQualifiedObjectKey at h
  cases hrelative : normalizeRelativeObjectKey objectKey with
  | error message =>
      rw [hrelative] at h
      cases h
  | ok relative =>
      rw [hrelative] at h
      obtain rfl := Except.ok.inj h
      exact ⟨relative, rfl, by simp⟩

/-- The segments of a key are those of the role prefix, then those of the relative key. -/
theorem splitOn_qualifiedObjectKey {target : NormalizedStorageRoleTarget} {objectKey key : String}
    (h : qualifiedObjectKey target objectKey = .ok key) :
    target.keyPrefix.toList.splitOn '/' <+: key.toList.splitOn '/' := by
  obtain ⟨relative, -, hkey⟩ := qualifiedObjectKey_ok h
  rw [hkey, List.splitOn_append_cons_self]
  exact List.prefix_append _ _

/-- A URL with the segments of a key names the key, and lies under the role prefix. -/
theorem urlReaches_of_segments {store : S3CompatibleStagingBlobStore} {base url : Url}
    {objectKey key : String} (hkey : qualifiedObjectKey store.target objectKey = .ok key)
    (h : Url.decodedSegments url = Url.decodedBase base ++ (key.toList.splitOn '/').map utf8) :
    UrlReaches store base key url := by
  refine ⟨h, ?_, ?_⟩
  · have hslash : String.utf8EncodeChar '/' = [0x2F] := by decide +kernel
    rw [objectBytes, h, List.drop_left, ← utf8_intercalate hslash, List.intercalate_splitOn]
  · rw [h]
    exact (List.prefix_append_right_inj _).mpr ((splitOn_qualifiedObjectKey hkey).map utf8)

/-- The path of a URL that is read again has no segment that is decoded to dots. -/
theorem dots_notMem_decodedSegments (url : Url) :
    [0x2E] ∉ Url.decodedSegments url ∧ [0x2E, 0x2E] ∉ Url.decodedSegments url := by
  have hkept := url.resolved.wellFormed.kept
  constructor
  · intro hmem
    obtain ⟨segment, hsegment, hdecode⟩ := List.mem_map.mp hmem
    have hdot := (hkept segment hsegment).singleDot
    rw [isSingleDot_iff.mpr hdecode] at hdot
    cases hdot
  · intro hmem
    obtain ⟨segment, hsegment, hdecode⟩ := List.mem_map.mp hmem
    have hdot := (hkept segment hsegment).doubleDot
    rw [isDoubleDot_iff.mpr hdecode] at hdot
    cases hdot

/-- Only a key without dot segments is reached. -/
theorem UrlReaches.plain {store : S3CompatibleStagingBlobStore} {base url : Url} {key : String}
    (h : UrlReaches store base key url) :
    ∀ segment ∈ key.toList.splitOn '/', IsPlainSegment segment := by
  obtain ⟨hone, htwo⟩ := dots_notMem_decodedSegments url
  rw [h.segments] at hone htwo
  intro segment hsegment
  have hmem := List.mem_map_of_mem (f := utf8) hsegment
  constructor
  · rintro rfl
    exact hone (List.mem_append_right _ hmem)
  · rintro rfl
    exact htwo (List.mem_append_right _ hmem)

/-- The requests of the store for a key. -/
theorem headObject_events {store : S3CompatibleStagingBlobStore} {objectKey key : String}
    (h : qualifiedObjectKey store.target objectKey = .ok key) (env : S3Environment) :
    (store.headObject env objectKey).events = [.send (.headObject store.target.bucket key)] := by
  rw [S3CompatibleStagingBlobStore.headObject, h, Observed.events_ofExcept_ok]
  rfl

theorem deleteObject_events {store : S3CompatibleStagingBlobStore} {objectKey key : String}
    (h : qualifiedObjectKey store.target objectKey = .ok key) (env : S3Environment) :
    (store.deleteObject env objectKey).events =
      [.send (.deleteObject store.target.bucket key)] := by
  rw [S3CompatibleStagingBlobStore.deleteObject, h, Observed.events_ofExcept_ok]
  exact Observed.events_bind_ofExcept.trans (env.events_send 0 _)

/-- The result that the store returns for a key. -/
theorem createUploadTarget_eq {parseUrl : String → Option Url}
    {store : S3CompatibleStagingBlobStore} {base : Url} {input : CreateUploadTargetInput}
    {key : String} (hbase : parseUrl store.normalizedBase = some base)
    (hkey : qualifiedObjectKey store.target input.objectKey = .ok key) :
    store.createUploadTarget parseUrl input =
      .ok { method := "PATCH", protocol := "tus", url := (uploadUrl base key).href,
            expiresAt := input.expiresAt } := by
  rw [S3CompatibleStagingBlobStore.createUploadTarget, hkey]
  change (buildTusUploadUrl parseUrl store.uploadBaseUrl key >>= _) = _
  rw [buildTusUploadUrl_eq hbase]
  rfl

/-- The decoded path of an upload URL, for a key without dot segments. -/
theorem decodedSegments_uploadUrl (base : Url) {key : String}
    (h : ∀ segment ∈ key.toList.splitOn '/', IsPlainSegment segment) :
    Url.decodedSegments (uploadUrl base key) =
      Url.decodedBase base ++ (key.toList.splitOn '/').map utf8 := by
  have hpath := uploadUrl_path base h
  have hne : (uploadUrl base key).path ≠ [] := by
    rw [hpath]
    simp [encodedSegments_ne_nil key]
  rw [Url.decodedSegments, Url.resolved_path hne, hpath, List.map_append, encodedSegments,
    List.map_map]
  exact congrArg (Url.decodedBase base ++ ·)
    (List.map_congr_left fun segment _ => decode_encodeURIComponent segment)

/-- **An upload target reaches the object that the store addresses exactly when no segment of the
qualified key is a dot segment.** -/
theorem uploadTargetReaches_iff {parseUrl : String → Option Url}
    {store : S3CompatibleStagingBlobStore} {base : Url} {input : CreateUploadTargetInput}
    {key : String} (hbase : parseUrl store.normalizedBase = some base)
    (hkey : qualifiedObjectKey store.target input.objectKey = .ok key) :
    UploadTargetReaches parseUrl store base input ↔
      ∀ segment ∈ key.toList.splitOn '/', IsPlainSegment segment := by
  constructor
  · rintro ⟨key', url, -, -, -, -, hreaches, hhead, -⟩
    -- the key of the target is the one that `headObject` sends
    have hevents := (hhead ⟨fun _ _ => .ok {}, id, fun _ => .ok (), fun _ _ => .ok ()⟩).symm.trans
      (headObject_events hkey _)
    obtain rfl : key' = key := by simpa using hevents
    exact hreaches.plain
  · intro hplain
    exact ⟨key, uploadUrl base key, _, buildTusUploadUrl_eq hbase key,
      createUploadTarget_eq hbase hkey, rfl,
      urlReaches_of_segments hkey (decodedSegments_uploadUrl base hplain),
      headObject_events hkey, deleteObject_events hkey⟩

/-! ### A sample store -/

/-- The URL `https://uploads.cdngine.local/files/`. -/
def sampleUploadBase : Url where
  scheme := .special
  origin := "https://uploads.cdngine.local"
  path := ["files".toList, []]
  suffix := ""
  wellFormed := by
    have hpath : parsePath .special "/files/".toList = ["files".toList, []] := by decide +kernel
    exact hpath ▸ wellFormed_parsePath .special "/files/".toList

/-- A parser that knows the sample base. -/
def sampleParseUrl (text : String) : Option Url :=
  if text = "https://uploads.cdngine.local/files/" then some sampleUploadBase else none

def sampleStagingStore : S3CompatibleStagingBlobStore where
  target := ⟨.ingest, "cdngine-data", "ingest", "cdngine-data/ingest"⟩
  uploadBaseUrl := "https://uploads.cdngine.local/files"

theorem sampleParseUrl_normalizedBase :
    sampleParseUrl sampleStagingStore.normalizedBase = some sampleUploadBase := by
  have htext : sampleStagingStore.normalizedBase = "https://uploads.cdngine.local/files/" := by
    decide +kernel
  rw [htext]
  exact if_pos rfl

def sampleUploadInput (objectKey : String) : CreateUploadTargetInput :=
  ⟨objectKey, "image/png", 5, 0⟩

theorem sample_upload_reaches :
    UploadTargetReaches sampleParseUrl sampleStagingStore sampleUploadBase
      (sampleUploadInput "/tenant-1/café %2e%2e/hero image.png ") := by
  have hkey : qualifiedObjectKey sampleStagingStore.target
      "/tenant-1/café %2e%2e/hero image.png " =
        .ok "ingest/tenant-1/café %2e%2e/hero image.png" := by decide +kernel
  exact (@uploadTargetReaches_iff _ _ _ (sampleUploadInput "/tenant-1/café %2e%2e/hero image.png ")
    _ sampleParseUrl_normalizedBase hkey).mpr (by decide +kernel)

/-- **A key with dot segments gives an upload target outside of the role prefix**: the client
writes a canonical source. -/
theorem traversal_leaves_prefix :
    ∃ url, buildTusUploadUrl sampleParseUrl sampleStagingStore.uploadBaseUrl
        "ingest/../source/version-1/hero.png" = .ok url ∧
      qualifiedObjectKey sampleStagingStore.target "../source/version-1/hero.png" =
        .ok "ingest/../source/version-1/hero.png" ∧
      objectBytes sampleUploadBase url = utf8 "source/version-1/hero.png".toList ∧
      ¬ UploadTargetReaches sampleParseUrl sampleStagingStore sampleUploadBase
        (sampleUploadInput "../source/version-1/hero.png") := by
  have hkey : qualifiedObjectKey sampleStagingStore.target "../source/version-1/hero.png" =
      .ok "ingest/../source/version-1/hero.png" := by decide +kernel
  refine ⟨uploadUrl sampleUploadBase "ingest/../source/version-1/hero.png",
    buildTusUploadUrl_eq sampleParseUrl_normalizedBase _, hkey, by decide +kernel, ?_⟩
  rintro ⟨key, url, -, -, -, -, hreaches, hhead, -⟩
  have hevents := (hhead ⟨fun _ _ => .ok {}, id, fun _ => .ok (), fun _ _ => .ok ()⟩).symm.trans
    (headObject_events hkey _)
  obtain rfl : key = "ingest/../source/version-1/hero.png" := by simpa using hevents
  have hdots : ¬ IsPlainSegment ['.', '.'] := fun h => h.2 rfl
  exact hdots (hreaches.plain _ (by decide +kernel))

end Cdngine
