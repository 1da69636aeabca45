import Cdngine.JsonbColumns
import Cdngine.MemoryPublication
import Cdngine.PublicationWorkflow

/-!
# Published Payloads

The payload of a manifest and the metadata of a derivative, from the publication that stores
them to the reads that serve them. Both are converted for a JSON column, which has text where
the value has `null`; and the column, a JSONB one, has an order of its own for the members of
an object, while the recorded checksum is of the text of the payload in the order it was written.

## Main results

* `PublicationStore.publish_derivative_rows`, `PublicationStore.publish_manifest_rows`: the
  columns that a publication leaves.
* `publishManifest_checksum`: the checksum that a workflow records is of the text of the payload.
* `published_json_served_iff`: when the generic store serves what was published, under a checksum
  of what it serves, and stores a payload like no other.
-/

open Relational

namespace Cdngine

/-! ### What a publication leaves in its columns -/

/-- A derivative of a publication is **the last of its slot**: a derivative of one slot
replaces those before it. -/
def LastOfSlot (versionId : String) (derivatives : List PublishedDerivativeRecord)
    (d : PublishedDerivativeRecord) : Prop :=
  ∃ before after, derivatives = before ++ d :: after ∧
    ∀ e ∈ after, d.slot versionId ≠ e.slot versionId

namespace PublicationStore

variable {ε : Type} {store : PublicationStore ε} {rt : Runtime} {versionId deliveryScopeId : String}
  {derivatives : List PublishedDerivativeRecord} {manifest : PublishedManifestRecord} {db db' : Db}

/-- The row of a derivative holds its metadata. -/
theorem upsertDerivative_metadata {d : PublishedDerivativeRecord}
    (hwrites : store.writesMetadata = true)
    (h : store.upsertDerivative rt versionId db d = .ok db') :
    ∀ x ∈ db'.derivatives.rows, x.slot = d.slot versionId →
      x.metadata = store.metadataColumn rt d ∧ x.publicationState = .published := by
  obtain ⟨t, ht, rfl⟩ := write_eq_ok.mp h
  intro x hx hslot
  rcases Table.upsert_eq_ok_iff.mp ht with ⟨-, hrows⟩ | ⟨hnone, -, hrows⟩
  · simp only [hrows, Table.mem_updatedRows] at hx
    rcases hx with ⟨y, -, -, rfl⟩ | ⟨-, hne⟩
    · exact ⟨if_pos hwrites, rfl⟩
    · exact absurd hslot (beq_eq_false_iff_ne.mp hne)
  · simp only [hrows, List.mem_append, List.mem_singleton] at hx
    rcases hx with hx | rfl
    · exact absurd hslot (beq_eq_false_iff_ne.mp (hnone x hx))
    · exact ⟨rfl, rfl⟩

theorem upsertDerivatives_append {before after : List PublishedDerivativeRecord}
    (h : store.upsertDerivatives rt versionId (before ++ after) db = .ok db') :
    ∃ db₁, store.upsertDerivatives rt versionId before db = .ok db₁ ∧
      store.upsertDerivatives rt versionId after db₁ = .ok db' := by
  induction before generalizing db with
  | nil => exact ⟨db, rfl, h⟩
  | cons d ds ih =>
      obtain ⟨db₁, h₁, h₂⟩ := bind_eq_ok.mp h
      obtain ⟨db₂, hds, hafter⟩ := ih h₂
      exact ⟨db₂, bind_eq_ok.mpr ⟨db₁, h₁, hds⟩, hafter⟩

/-- **The derivative rows of a publication**: the slot of a derivative has a row, and what the last
derivative of a slot makes of the rows of its slot is what they are in the end. -/
theorem publish_derivative_rows {R : Derivative → Prop} {record : CanonicalVersionRecord ε}
    {d : PublishedDerivativeRecord}
    (hown : ∀ {db db' : Db}, store.upsertDerivative rt versionId db d = .ok db' →
      ∀ x ∈ db'.derivatives.rows, x.slot = d.slot versionId → R x)
    (h : store.publish rt versionId deliveryScopeId derivatives manifest db = .ok (record, db'))
    (hlast : LastOfSlot versionId derivatives d) :
    (∃ x ∈ db'.derivatives.rows, x.slot = d.slot versionId) ∧
      ∀ x ∈ db'.derivatives.rows, x.slot = d.slot versionId → R x := by
  obtain ⟨-, -, -, -, -, db₁, db₂, h₁, h₂, h₃⟩ := publish_cases h
  obtain ⟨before, after, rfl, hafter⟩ := hlast
  obtain ⟨dbBefore, -, hrest⟩ := upsertDerivatives_append h₁
  obtain ⟨dbOwn, hwritten, hothers⟩ := bind_eq_ok.mp hrest
  have hkept : ∀ x : Derivative, x.slot = d.slot versionId →
      (x ∈ db₁.derivatives.rows ↔ x ∈ dbOwn.derivatives.rows) := fun x hx =>
    upsertDerivatives_rows hothers fun e he => hx ▸ hafter e he
  have hsame : db'.derivatives.rows = db₁.derivatives.rows := by
    obtain ⟨t₂, -, rfl⟩ := write_eq_ok.mp h₂
    obtain ⟨t₃, -, rfl⟩ := write_eq_ok.mp h₃
    rfl
  rw [hsame]
  obtain ⟨-, -, x, hx, hslot⟩ := upsertDerivative_rows hwritten
  refine ⟨⟨x, (hkept x hslot).mpr hx, hslot⟩, fun y hy hyslot => ?_⟩
  exact hown hwritten y ((hkept y hyslot).mp hy) hyslot

/-- **The manifest row of a publication** holds its payload, its checksum and its object key. -/
theorem publish_manifest_rows {record : CanonicalVersionRecord ε}
    (h : store.publish rt versionId deliveryScopeId derivatives manifest db = .ok (record, db')) :
    (∃ x ∈ db'.assetManifests.rows, x.slot = (versionId, manifest.manifestType, deliveryScopeId)) ∧
      ∀ x ∈ db'.assetManifests.rows, x.slot = (versionId, manifest.manifestType, deliveryScopeId) →
        x.manifestPayload = toJsonValue rt manifest.manifestPayload ∧
          x.checksumValue = some manifest.checksumValue ∧ x.objectKey = manifest.objectKey := by
  obtain ⟨-, -, -, -, -, db₁, db₂, h₁, h₂, h₃⟩ := publish_cases h
  have hsame : db'.assetManifests.rows = db₂.assetManifests.rows := by
    obtain ⟨t₃, -, rfl⟩ := write_eq_ok.mp h₃
    rfl
  rw [hsame]
  refine ⟨(upsertManifest_rows h₂).1, ?_⟩
  obtain ⟨t, ht, rfl⟩ := write_eq_ok.mp h₂
  intro x hx hslot
  rcases Table.upsert_eq_ok_iff.mp ht with ⟨-, hrows⟩ | ⟨hnone, -, hrows⟩
  · simp only [hrows, Table.mem_updatedRows] at hx
    rcases hx with ⟨y, -, -, rfl⟩ | ⟨-, hne⟩
    · exact ⟨rfl, rfl, rfl⟩
    · exact absurd hslot (beq_eq_false_iff_ne.mp hne)
  · simp only [hrows, List.mem_append, List.mem_singleton] at hx
    rcases hx with hx | rfl
    · exact absurd hslot (beq_eq_false_iff_ne.mp (hnone x hx))
    · exact ⟨rfl, rfl, rfl⟩

end PublicationStore

/-! ### The registry read through its columns -/

/-- The row of a derivative as its JSONB column gives it back. -/
def Derivative.readBack (r : Derivative) :
    Derivative := { r with metadata := r.metadata.fromColumn }

/-- The row of a manifest as its JSONB column gives it back. -/
def AssetManifest.readBack (r : AssetManifest) : AssetManifest :=
  { r with manifestPayload := r.manifestPayload.fromColumn }

/-- The registry as its JSONB columns give it back. -/
def Db.readBack (db : Db) : Db :=
  { db with
    derivatives := db.derivatives.mapRows Derivative.readBack fun _ _ => rfl
    assetManifests := db.assetManifests.mapRows AssetManifest.readBack fun _ _ => rfl }

/-- The columns of a publication take its payload and its metadata. -/
def ColumnsTake (rt : Runtime) (derivatives : List PublishedDerivativeRecord)
    (manifest : PublishedManifestRecord) : Prop :=
  (toJsonValue rt manifest.manifestPayload).storable = true ∧
    ∀ d ∈ derivatives, (genericAssetPublicationStore.metadataColumn rt d).storable = true

instance (rt : Runtime) (derivatives : List PublishedDerivativeRecord)
    (manifest : PublishedManifestRecord) : Decidable (ColumnsTake rt derivatives manifest) :=
  inferInstanceAs (Decidable (_ ∧ _))

/-- `publishGenericAssetVersion` on JSONB columns, which refuse some texts; `refusal` is the error
of the database. -/
def publishToColumns (rt : Runtime) (refusal : RegistryError) (versionId deliveryScopeId : String)
    (derivatives : List PublishedDerivativeRecord) (manifest : PublishedManifestRecord) (db : Db) :
    Except RegistryError (CanonicalVersionRecord GenericCanonicalSourceEvidenceRecord × Db) := do
  let (record, db') ← publishGenericAssetVersion rt versionId deliveryScopeId derivatives
    manifest db
  if ColumnsTake rt derivatives manifest then .ok (record, db'.readBack) else .error refusal

/-! ### What is served -/

/-- The digest of the text of a payload, `JSON.stringify(payload, null, 2)`. -/
def payloadDigest (rt : Runtime) (payload : Json) : String :=
  rt.sha256Hex (utf8Bytes (stringifyIndented rt 0 payload))

/-- The checksum that a workflow records for a manifest is the digest of its payload. -/
theorem publishManifest_checksum {rt : Runtime} {env : TargetEnvironment} {n : Nat}
    {version : VersionIdentity} {deliveryScopeId manifestType : String} {payload : Json}
    {manifest : PublishedManifestRecord}
    (h : publishManifest rt env n version deliveryScopeId manifestType payload = .ok manifest) :
    manifest.manifestPayload = payload.toJs ∧
      manifest.checksumValue = payloadDigest rt payload := by
  obtain ⟨publication, -, h⟩ := bind_eq_ok.mp h
  obtain rfl := Except.ok.inj h
  exact ⟨rfl, rfl⟩

/-- A manifest is **served as it was published**: with the same payload, whatever the order of its
members, and under its checksum, which is the digest of the payload that is served. -/
def ServesManifest (rt : Runtime) (versionId deliveryScopeId : String)
    (manifest : PublishedManifestRecord) (payload : Json) (db : Db) : Prop :=
  ∃ record served,
    PublicationStore.readManifest versionId manifest.manifestType deliveryScopeId db =
      some record ∧
    record.manifestPayload = served.toJs ∧ served.Same payload ∧
      record.checksumValue = manifest.checksumValue ∧
        payloadDigest rt served = record.checksumValue

/-- The metadata of two derivatives is the same, whatever the order of its members. -/
def SameMetadata : Option (List (String × JsValue)) → Option (List (String × JsValue)) → Prop
  | some m, some m' =>
      ∃ j j' : Json, JsValue.object m = j.toJs ∧ JsValue.object m' = j'.toJs ∧ j.Same j'
  | none, none => True
  | _, _ => False

/-- A derivative is **served with the metadata it was published with**. -/
def ServesMetadata (rt : Runtime) (versionId : String) (d : PublishedDerivativeRecord) (db : Db) :
    Prop :=
  ∃ record ∈ genericAssetPublicationStore.listPublishedDerivatives rt versionId db,
    record.slot versionId = d.slot versionId ∧ SameMetadata record.metadata d.metadata

/-- There is no `null` in the metadata of a derivative. -/
def PublishedDerivativeRecord.MetadataNullFree (d : PublishedDerivativeRecord) : Prop :=
  ∀ m, d.metadata = some m → (JsValue.object m).NullFree

/-- The metadata of a derivative is a JSON object. -/
def PublishedDerivativeRecord.MetadataJson (d : PublishedDerivativeRecord) : Prop :=
  ∀ m, d.metadata = some m → ∃ entries, m = Json.entriesToJs entries ∧ (Json.object entries).Keyed

/-- The text of a payload has the same digest with the members in the order of a column. -/
def DigestKept (rt : Runtime) (payload : Json) : Prop :=
  payloadDigest rt payload.fromColumn = payloadDigest rt payload

/-- No manifest with another JSON payload has the payload column of a manifest. -/
def StoredApart (rt : Runtime) (versionId deliveryScopeId : String)
    (manifest : PublishedManifestRecord) (payload : Json) : Prop :=
  ∀ (other : PublishedManifestRecord) (payload' : Json), other.manifestPayload = payload'.toJs →
    payload'.Keyed →
      (PublicationStore.manifestRow rt versionId deliveryScopeId other).manifestPayload.column =
          (PublicationStore.manifestRow rt versionId deliveryScopeId
            manifest).manifestPayload.column →
        payload'.Same payload

section Served

variable {rt : Runtime} {refusal : RegistryError} {versionId deliveryScopeId : String}
  {derivatives : List PublishedDerivativeRecord} {manifest : PublishedManifestRecord} {db db' : Db}
  {record : CanonicalVersionRecord GenericCanonicalSourceEvidenceRecord}
  {payload : List (String × Json)}

/-- A publication on JSONB columns is one that the columns take. -/
theorem publishToColumns_eq_ok_iff {result : Db}
    (h : publishGenericAssetVersion rt versionId deliveryScopeId derivatives manifest db =
      .ok (record, db')) :
    publishToColumns rt refusal versionId deliveryScopeId derivatives manifest db =
        .ok (record, result) ↔
      ColumnsTake rt derivatives manifest ∧ result = db'.readBack := by
  rw [publishToColumns, h]
  change (if _ then _ else _) = _ ↔ _
  split
  · rename_i htake
    rw [Except.ok.injEq, Prod.mk.injEq, and_iff_right rfl, and_iff_right htake]
    exact eq_comm
  · rename_i htake
    exact iff_of_false nofun fun hboth => htake hboth.1

/-- The manifest of a publication, as it is read from its columns. -/
theorem readManifest_readBack
    (h : publishGenericAssetVersion rt versionId deliveryScopeId derivatives manifest db =
      .ok (record, db'))
    (hpayload : manifest.manifestPayload = (Json.object payload).toJs) :
    ∃ r, PublicationStore.readManifest versionId manifest.manifestType deliveryScopeId
        db'.readBack = some r ∧
      r.manifestPayload = (toJsonValue rt (Json.object payload).toJs).fromColumn.toJs ∧
        r.checksumValue = manifest.checksumValue := by
  obtain ⟨⟨x, hx, hslot⟩, hrows⟩ := PublicationStore.publish_manifest_rows h
  have hfound : ∃ y, db'.assetManifests.find? (fun r =>
      r.slot == (versionId, manifest.manifestType, deliveryScopeId)) = some y := by
    refine Option.ne_none_iff_exists'.mp fun hnone => ?_
    have hx' := Table.find?_eq_none_iff.mp hnone x hx
    rw [hslot, beq_self_eq_true] at hx'
    cases hx'
  obtain ⟨y, hy⟩ := hfound
  have hread : db'.readBack.assetManifests.find? (fun r =>
      r.slot == (versionId, manifest.manifestType, deliveryScopeId)) =
        some y.readBack :=
    (@Table.find?_mapRows _ _ _ AssetManifest.readBack (fun _ _ => rfl) _ fun _ => rfl).trans
      (congrArg (Option.map AssetManifest.readBack) hy)
  have hyslot := Table.sel_of_find? hy
  obtain ⟨hcolumn, hchecksum, -⟩ := hrows y (Table.mem_of_find? hy) (eq_of_beq hyslot)
  rw [PublicationStore.readManifest, hread]
  refine ⟨_, rfl, ?_, ?_⟩
  · simp only [PublicationStore.mapManifest, AssetManifest.readBack, hcolumn, hpayload, Json.toJs,
      toJsonValue, asObject, Json.fromColumn, Json.column, Json.sortKeys, Option.getD_some]
  · simp only [PublicationStore.mapManifest, AssetManifest.readBack, hchecksum, Option.getD_some]

/-- **When a manifest is served as it was published**: its payload has no `null`, and the order of
a column makes no difference to the digest of its text. -/
theorem servesManifest_iff
    (h : publishGenericAssetVersion rt versionId deliveryScopeId derivatives manifest db =
      .ok (record, db'))
    (hpayload : manifest.manifestPayload = (Json.object payload).toJs)
    (hkeyed : (Json.object payload).Keyed)
    (hchecksum : manifest.checksumValue = payloadDigest rt (.object payload)) :
    ServesManifest rt versionId deliveryScopeId manifest (.object payload) db'.readBack ↔
      manifest.manifestPayload.NullFree ∧ DigestKept rt (.object payload) := by
  obtain ⟨r, hread, hserved, hsum⟩ := readManifest_readBack h hpayload
  have hsame := @Json.fromColumn_same_iff rt _ hkeyed
  rw [hpayload]
  constructor
  · rintro ⟨r', served, hr', hpay, hpaySame, -, hdigest⟩
    obtain rfl := Option.some.inj (hread.symm.trans hr')
    obtain rfl := Json.toJs_injective (hserved.symm.trans hpay)
    have hfree := hsame.mp hpaySame
    rw [toJsonValue_toJs_eq_iff.mpr hfree, hsum, hchecksum] at hdigest
    exact ⟨hfree, hdigest⟩
  · rintro ⟨hfree, hdigest⟩
    refine ⟨r, _, hread, hserved, hsame.mpr hfree, hsum, ?_⟩
    rw [toJsonValue_toJs_eq_iff.mpr hfree, hsum, hchecksum]
    exact hdigest

/-- The metadata that is read of the column of a derivative is the same exactly when there is no
`null` in it. -/
theorem mapDerivative_sameMetadata_iff {d : PublishedDerivativeRecord} {x : Derivative}
    (hjson : d.MetadataJson)
    (h : x.metadata = (genericAssetPublicationStore.metadataColumn rt d).fromColumn) :
    SameMetadata (genericAssetPublicationStore.mapDerivative x).metadata d.metadata ↔
      d.MetadataNullFree := by
  rw [PublishedDerivativeRecord.MetadataNullFree]
  cases hd : d.metadata with
  | none =>
      simp only [PublicationStore.mapDerivative, h, PublicationStore.metadataColumn, hd]
      exact iff_of_true trivial fun m hm => by cases hm
  | some m =>
      obtain ⟨entries, rfl, hkeyed⟩ := hjson m hd
      have hsame := @Json.fromColumn_same_iff rt _ hkeyed
      have hread : ∃ served, (toJsonValue rt (Json.object entries).toJs).fromColumn =
          Json.object served ∧
            (genericAssetPublicationStore.mapDerivative x).metadata =
              some (Json.entriesToJs served) := by
        simp only [PublicationStore.mapDerivative, h, PublicationStore.metadataColumn, hd]
        exact ⟨_, rfl, rfl⟩
      obtain ⟨served, hcolumn, hmetadata⟩ := hread
      rw [hcolumn] at hsame
      rw [hmetadata, SameMetadata]
      constructor
      · rintro ⟨j, j', hj, hj', hsame'⟩ m hm
        obtain rfl := Option.some.inj hm
        obtain rfl := Json.toJs_injective (j := .object served) hj
        obtain rfl := Json.toJs_injective (j := .object entries) hj'
        exact hsame.mp hsame'
      · intro hfree
        exact ⟨.object served, .object entries, rfl, rfl, hsame.mpr (hfree _ rfl)⟩

/-- A derivative that is the last of its slot is served with its metadata exactly when the
metadata has no `null`. -/
theorem servesMetadata_iff {d : PublishedDerivativeRecord}
    (h : publishGenericAssetVersion rt versionId deliveryScopeId derivatives manifest db =
      .ok (record, db'))
    (hlast : LastOfSlot versionId derivatives d) (hjson : d.MetadataJson) :
    ServesMetadata rt versionId d db'.readBack ↔ d.MetadataNullFree := by
  obtain ⟨⟨x, hx, hslot⟩, hrows⟩ := PublicationStore.publish_derivative_rows
    (fun hok => PublicationStore.upsertDerivative_metadata rfl hok) h hlast
  unfold ServesMetadata PublicationStore.listPublishedDerivatives
  have hmem : ∀ y, y ∈ sortBy
        (fun a b => (rt.databaseCompare a.deterministicKey b.deterministicKey).isLE)
        (db'.readBack.derivatives.rows.filter fun r =>
          r.assetVersionId == versionId && r.publicationState == .published) ↔
      (∃ z ∈ db'.derivatives.rows, y = z.readBack) ∧
        y.assetVersionId = versionId ∧ y.publicationState = .published := by
    intro y
    rw [(sortBy_perm _ _).mem_iff, List.mem_filter, Bool.and_eq_true, beq_iff_eq, beq_iff_eq]
    refine and_congr_left fun _ => List.mem_map.trans ?_
    exact exists_congr fun z => and_congr_right fun _ => eq_comm
  constructor
  · rintro ⟨r, hr, hrslot, hserved⟩
    obtain ⟨y, hy, rfl⟩ := List.mem_map.mp hr
    obtain ⟨⟨z, hz, rfl⟩, hyversion, -⟩ := (hmem y).mp hy
    have hzslot : z.slot = d.slot versionId := by
      rw [← hrslot, ← hyversion]
      rfl
    have hcolumn := congrArg Json.fromColumn (hrows z hz hzslot).1
    exact (mapDerivative_sameMetadata_iff hjson hcolumn).mp hserved
  · intro hfree
    obtain ⟨hcolumn, hpublished⟩ := hrows x hx hslot
    have hversion : x.assetVersionId = versionId := congrArg Prod.fst hslot
    refine ⟨_, List.mem_map.mpr
      ⟨x.readBack, (hmem _).mpr ⟨⟨x, hx, rfl⟩, hversion, hpublished⟩, rfl⟩, ?_, ?_⟩
    · rw [← hslot, ← hversion]
      rfl
    · exact (mapDerivative_sameMetadata_iff hjson (congrArg Json.fromColumn hcolumn)).mpr hfree

/-- **What was published is served.** Where a publication through the generic store would succeed,
its payload and its metadata being JSON objects and its checksum the digest of the payload, it
does so on JSONB columns, and the manifest and every derivative that is the last of its slot are
served as they were published, exactly when the columns take the texts, there is no `null` at any
depth, and the members of the payload, in the order of a column, have the digest they were
recorded with. No manifest with another payload is stored alike exactly when there is no text of
`null` in the payload either. -/
theorem published_json_served_iff
    (h : publishGenericAssetVersion rt versionId deliveryScopeId derivatives manifest db =
      .ok (record, db'))
    (hpayload : manifest.manifestPayload = (Json.object payload).toJs)
    (hkeyed : (Json.object payload).Keyed)
    (hchecksum : manifest.checksumValue = payloadDigest rt (.object payload))
    (hmetadata : ∀ d ∈ derivatives, d.MetadataJson) :
    ((∃ result, publishToColumns rt refusal versionId deliveryScopeId derivatives manifest db =
          .ok (record, result) ∧
        ServesManifest rt versionId deliveryScopeId manifest (.object payload) result ∧
          ∀ d, LastOfSlot versionId derivatives d → ServesMetadata rt versionId d result) ↔
      ColumnsTake rt derivatives manifest ∧
        (manifest.manifestPayload.NullFree ∧ DigestKept rt (.object payload)) ∧
          ∀ d, LastOfSlot versionId derivatives d → d.MetadataNullFree) ∧
    (StoredApart rt versionId deliveryScopeId manifest (.object payload) ↔
      manifest.manifestPayload.NullTextFree) := by
  have hmanifest := servesManifest_iff h hpayload hkeyed hchecksum
  have hderivatives : ∀ d, LastOfSlot versionId derivatives d →
      (ServesMetadata rt versionId d db'.readBack ↔ d.MetadataNullFree) := by
    intro d hlast
    obtain ⟨before, after, hsplit, hafter⟩ := hlast
    have hd : d ∈ derivatives := by
      rw [hsplit]
      exact List.mem_append_right _ List.mem_cons_self
    exact servesMetadata_iff h ⟨before, after, hsplit, hafter⟩ (hmetadata d hd)
  constructor
  · simp only [publishToColumns_eq_ok_iff h, and_assoc, exists_and_left, exists_eq_left]
    refine and_congr_right fun _ => ?_
    rw [hmanifest, and_assoc]
    exact and_congr_right fun _ => and_congr_right fun _ => forall₂_congr hderivatives
  · rw [hpayload, ← @column_determines_iff rt _ hkeyed]
    constructor
    · intro hapart k hk hcolumn
      refine hapart { manifest with manifestPayload := k.toJs } k rfl hk ?_
      rw [PublicationStore.manifestRow, PublicationStore.manifestRow, hpayload]
      exact hcolumn
    · intro honly other k hother hk hcolumn
      rw [PublicationStore.manifestRow, PublicationStore.manifestRow, hother, hpayload] at hcolumn
      exact honly k hk hcolumn

end Served

/-! ### Payloads that are served and that are not -/

/-- A registry with a version that is processing and has its canonical evidence. -/
def sampleProcessingDb : Db :=
  { samplePublicationDb with
    assetVersions :=
      ⟨[{ samplePublicationRow.version with
          lifecycleState := .processing
          repositoryEngine := some "xet"
          canonicalSnapshotId := some "snapshot-a" }], by decide⟩ }

/-- A manifest of the version with a payload. -/
def samplePayloadManifest (payload : List (String × Json)) : PublishedManifestRecord :=
  { (sampleImageManifest "scope-1").toPublishedManifestRecord with
    checksumValue := payloadDigest sampleRuntime (.object payload)
    manifestPayload := (Json.object payload).toJs
    manifestType := "generic-default" }

/-- The publication of a manifest with a payload, and its thumbnail. -/
def samplePayloadPublication (payload : List (String × Json)) :
    Except RegistryError (CanonicalVersionRecord GenericCanonicalSourceEvidenceRecord × Db) :=
  publishToColumns sampleRuntime .thrownValue "version-a" "scope-1"
    [(sampleThumbnail "scope-1").toPublishedDerivativeRecord] (samplePayloadManifest payload)
    sampleProcessingDb

/-- The sample publication succeeds on columns that take every text. -/
theorem samplePayload_publishes (payload : List (String × Json)) :
    ∃ record db', publishGenericAssetVersion sampleRuntime "version-a" "scope-1"
      [(sampleThumbnail "scope-1").toPublishedDerivativeRecord] (samplePayloadManifest payload)
      sampleProcessingDb = .ok (record, db') := by
  have hany : ∀ (checksumValue : String) (manifestPayload : JsValue),
      ∃ published, publishGenericAssetVersion sampleRuntime "version-a" "scope-1"
        [(sampleThumbnail "scope-1").toPublishedDerivativeRecord]
        { (sampleImageManifest "scope-1").toPublishedManifestRecord with
          checksumValue, manifestPayload, manifestType := "generic-default" }
        sampleProcessingDb = .ok published := fun _ _ => ⟨_, rfl⟩
  obtain ⟨published, h⟩ := hany (payloadDigest sampleRuntime (.object payload))
    (Json.object payload).toJs
  exact ⟨published.1, published.2, h⟩

theorem sampleThumbnail_metadata : ∀ d ∈ [(sampleThumbnail "scope-1").toPublishedDerivativeRecord],
    d.metadata = none := by
  intro d hd
  rw [List.mem_singleton.mp hd]
  rfl

/-- The columns take a payload, and the manifest is not served as it was published. -/
theorem samplePayload_not_served {payload : List (String × Json)}
    (htake : ColumnsTake sampleRuntime [(sampleThumbnail "scope-1").toPublishedDerivativeRecord]
      (samplePayloadManifest payload)) (hkeyed : (Json.object payload).Keyed)
    (hnot : ¬((samplePayloadManifest payload).manifestPayload.NullFree ∧
      DigestKept sampleRuntime (.object payload))) :
    ∃ record result, samplePayloadPublication payload = .ok (record, result) ∧
      ¬ ServesManifest sampleRuntime "version-a" "scope-1" (samplePayloadManifest payload)
        (.object payload) result := by
  obtain ⟨record, db', h⟩ := samplePayload_publishes payload
  have hserved := servesManifest_iff h rfl hkeyed rfl
  exact ⟨record, db'.readBack, (publishToColumns_eq_ok_iff h).mpr ⟨htake, rfl⟩,
    fun hserves => hnot (hserved.mp hserves)⟩

/-- A payload without `null`, with its members in the order of a column, is served as it was
published, and stored like no other. -/
theorem report_payload_served :
    ∃ record result,
      samplePayloadPublication [("pages", .array []), ("title", .string "report")] =
        .ok (record, result) ∧
      ServesManifest sampleRuntime "version-a" "scope-1"
        (samplePayloadManifest [("pages", .array []), ("title", .string "report")])
        (.object [("pages", .array []), ("title", .string "report")]) result ∧
      StoredApart sampleRuntime "version-a" "scope-1"
        (samplePayloadManifest [("pages", .array []), ("title", .string "report")])
        (.object [("pages", .array []), ("title", .string "report")]) := by
  obtain ⟨record, db', h⟩ :=
    samplePayload_publishes [("pages", .array []), ("title", .string "report")]
  have hkeyed : (Json.object [("pages", .array []), ("title", .string "report")]).Keyed := by
    simp [Json.Keyed, Json.KeyedEntries, Json.KeyedItems]
  obtain ⟨hserved, hapart⟩ := @published_json_served_iff sampleRuntime .thrownValue "version-a"
    "scope-1" _ _ _ _ _ _ h rfl hkeyed rfl fun d hd m hm => by
      rw [sampleThumbnail_metadata d hd] at hm
      cases hm
  have hnone : ∀ d, LastOfSlot "version-a" [(sampleThumbnail "scope-1").toPublishedDerivativeRecord]
      d → d.MetadataNullFree := by
    rintro d ⟨before, after, hsplit, -⟩ m hm
    rw [sampleThumbnail_metadata d (hsplit ▸ List.mem_append_right _ List.mem_cons_self)] at hm
    cases hm
  have hkept : DigestKept sampleRuntime
      (.object [("pages", .array []), ("title", .string "report")]) := rfl
  obtain ⟨result, hpublished, hserves, -⟩ :=
    hserved.mpr ⟨by decide +kernel, ⟨rfl, hkept⟩, hnone⟩
  exact ⟨record, result, hpublished, hserves, hapart.mpr rfl⟩

/-- **A payload with `null` is not served as it was published**: its checksum is that of the
payload, and the payload that is served has the text of `null` instead, which is stored like
it. Nor is a payload whose members the column lists in another order: what is served has another
digest than the one it is served under. -/
theorem null_payload_not_served :
    (∃ record result, samplePayloadPublication [("caption", .null)] = .ok (record, result) ∧
      ¬ ServesManifest sampleRuntime "version-a" "scope-1"
        (samplePayloadManifest [("caption", .null)]) (.object [("caption", .null)]) result) ∧
      (¬ StoredApart sampleRuntime "version-a" "scope-1"
        (samplePayloadManifest [("caption", .null)]) (.object [("caption", .null)])) ∧
      ∃ record result,
        samplePayloadPublication [("title", .string "report"), ("pages", .array [])] =
          .ok (record, result) ∧
        ¬ ServesManifest sampleRuntime "version-a" "scope-1"
          (samplePayloadManifest [("title", .string "report"), ("pages", .array [])])
          (.object [("title", .string "report"), ("pages", .array [])]) result := by
  refine ⟨?_, fun hapart => ?_, ?_⟩
  · refine samplePayload_not_served (by decide +kernel) ?_ fun hboth => ?_
    · simp [Json.Keyed, Json.KeyedEntries]
    · cases hboth.1
  · have hsame := hapart { samplePayloadManifest [("caption", .null)] with
      manifestPayload := (Json.object [("caption", .string "null")]).toJs } _ rfl
        (by simp [Json.Keyed, Json.KeyedEntries]) rfl
    rw [Json.same_object_iff, sameEntries_iff] at hsame
    obtain ⟨entry', hentry', hvalue⟩ := hsame.2 _ List.mem_cons_self
    obtain rfl : entry' = .null := congrArg Prod.snd (List.mem_singleton.mp hentry')
    simp [Json.Same] at hvalue
  · refine samplePayload_not_served (by decide +kernel) ?_ fun hboth => ?_
    · simp [Json.Keyed, Json.KeyedEntries, Json.KeyedItems]
    · have hdigest := hboth.2
      rw [DigestKept] at hdigest
      revert hdigest
      decide +kernel

end Cdngine
