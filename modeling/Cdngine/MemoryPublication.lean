import Cdngine.Publication
import Cdngine.Completion
import Cdngine.MemoryUploadStore

/-!
# The In-Memory Publication Stores

The publication stores over maps of records, beside the Prisma stores of `Publication`. Both
answer the same calls. They differ in what they take for the identity of a derivative, the
deterministic key or the slot, and in the states from which a publication begins: the
in-memory stores refuse a version that is already `processing`.

One definition each for the three pairs of stores, with a `PublicationStore` as its
parameter.

## Main results

* `PublicationPair.Inv.step`: a call keeps two stores with the same contents so, where no
  begin meets a version that is processing and keys, slots and texts say the same.
* `publication_stores_agree`: two such stores answer every call of a run alike.
* `retried_publication_diverges`: two runs in which they do not.
-/

open Relational Runs

namespace Cdngine

/-! ### Maps with a list of values -/

/-- The values of a `Map`, in the order of insertion, after one is set under its own key: it
takes the place of the one with that key, or stands last. -/
def setValue {α κ : Type} [DecidableEq κ] (key : α → κ) (x : α) (values : List α) : List α :=
  if values.any fun y => decide (key y = key x) then values.map fun y =>
    if key y = key x then x else y
  else values ++ [x]

/-- The rows of a table are set by another key in the same way, and mapping them gives the
values of the map. -/
theorem setValue_map {α β κ μ : Type} [DecidableEq κ] [DecidableEq μ] {key : α → κ} {slot : β → μ}
    {f : β → α} {x : α} {y : β} {rows : List β} (hxy : f y = x)
    (h : ∀ r ∈ rows, key (f r) = key x ↔ slot r = slot y) :
    setValue key x (rows.map f) = (setValue slot y rows).map f := by
  have hany : ((rows.map f).any fun z => decide (key z = key x)) =
      rows.any fun r => decide (slot r = slot y) := by
    rw [List.any_map]
    exact Bool.eq_iff_iff.mpr (by
      simp only [List.any_eq_true, Function.comp_apply, decide_eq_true_eq]
      exact ⟨fun ⟨r, hr, he⟩ => ⟨r, hr, (h r hr).mp he⟩,
        fun ⟨r, hr, he⟩ => ⟨r, hr, (h r hr).mpr he⟩⟩)
  unfold setValue
  rw [hany]
  split
  · rw [List.map_map, List.map_map]
    refine List.map_congr_left fun r hr => ?_
    by_cases he : slot r = slot y
    · simp only [Function.comp_apply, if_pos he, if_pos ((h r hr).mpr he), hxy]
    · have hne : key (f r) ≠ key x := fun hk => he ((h r hr).mp hk)
      simp only [Function.comp_apply, if_neg he, if_neg hne]
  · rw [List.map_append, List.map_singleton, hxy]

/-! ### Records -/

/-- A derivative as a workflow hands it over, with the version it says it is of. -/
structure MemoryDerivativeRecord extends PublishedDerivativeRecord where
  assetVersionId : String

/-- A manifest as a workflow hands it over, with the version it says it is of. -/
structure MemoryManifestRecord extends PublishedManifestRecord where
  assetVersionId : String

structure MemoryPublicationStore (ε : Type) where
  derivativesByKey : List MemoryDerivativeRecord := []
  manifestsByKey : JsMap MemoryManifestRecord := fun _ => none
  versions : JsMap (CanonicalVersionRecord ε) := fun _ => none

/-- The text under which a manifest is kept. -/
def manifestText (versionId deliveryScopeId manifestType : String) : String :=
  versionId ++ ":" ++ deliveryScopeId ++ ":" ++ manifestType

/-! ### Reads of the Prisma stores -/

/-- An object column; any other value reads as absent. -/
def asObject : Json → Option (List (String × JsValue))
  | .object entries => some (Json.entriesToJs entries)
  | _ => none

/-- A variant without the label `slide` and the hyphen that it begins with. -/
def dropSlideLabel (variantKey : String) : List Char :=
  match variantKey.toList with
  | 's' :: 'l' :: 'i' :: 'd' :: 'e' :: '-' :: rest => rest
  | cs => cs

/-- The page that a presentation store reads from a recipe and a variant. -/
def parsedPageNumber (recipeId variantKey : String) : Option Rat :=
  match if recipeId = "slide-images" then parseInt (dropSlideLabel variantKey) else .finite 0 with
  | .finite q => some q
  | _ => none

namespace PublicationStore

variable {ε : Type} (store : PublicationStore ε)

/-- `mapDerivative`: the presentation store, which writes no metadata, reads a page
instead. -/
def mapDerivative (record : Derivative) : MemoryDerivativeRecord where
  assetVersionId := record.assetVersionId
  byteLength := record.byteLength
  checksumValue := record.checksumValue.getD ""
  contentType := record.contentType
  deliveryScopeId := record.deliveryScopeId
  deterministicKey := record.deterministicKey
  metadata :=
    if store.writesMetadata ∧ record.metadata.truthy then some ((asObject record.metadata).getD [])
    else none
  pageNumber :=
    if store.writesMetadata then none else parsedPageNumber record.recipeId record.variantKey
  publishedAt := record.publishedAt.getD 0
  recipeId := record.recipeId
  schemaVersion := record.schemaVersion
  storageBucket := record.storageBucket.getD ""
  storageKey := record.storageKey.getD ""
  variantKey := record.variantKey

def mapManifest (record : AssetManifest) : MemoryManifestRecord where
  assetVersionId := record.assetVersionId
  checksumValue := record.checksumValue.getD ""
  deliveryScopeId := record.deliveryScopeId
  manifestPayload := .object ((asObject record.manifestPayload).getD [])
  manifestType := record.manifestType
  objectKey := record.objectKey
  publishedAt := record.publishedAt.getD 0
  schemaVersion := record.schemaVersion

def getVersion (versionId : String) (db : Db) :
    Except RegistryError (Option (CanonicalVersionRecord ε)) :=
  match db.findPublicationVersion versionId with
  | none => .ok none
  | some row => (store.mapVersion row row.version.lifecycleState).map some

def listPublishedDerivatives (rt : Runtime) (versionId : String) (db : Db) :
    List MemoryDerivativeRecord :=
  (sortBy (fun a b => (rt.databaseCompare a.deterministicKey b.deterministicKey).isLE)
    (db.derivatives.rows.filter fun r =>
      r.assetVersionId == versionId && r.publicationState == .published)).map store.mapDerivative

def readManifest (versionId manifestType deliveryScopeId : String) (db : Db) :
    Option MemoryManifestRecord :=
  (db.assetManifests.find? fun r => r.slot == (versionId, manifestType, deliveryScopeId)).map
    mapManifest

/-- `cloneDerivative`: the members that the type of a store's derivatives has. -/
def cloneDerivative (record : MemoryDerivativeRecord) : MemoryDerivativeRecord :=
  if store.writesMetadata then { record with pageNumber := none } else
    { record with metadata := none }

end PublicationStore

/-! ### The in-memory stores -/

namespace MemoryPublicationStore

variable {ε : Type} (memory : MemoryPublicationStore ε) (store : PublicationStore ε)

/-- The store with a version in another state. -/
def moveVersion (versionId : String) (version : CanonicalVersionRecord ε)
    (state : AssetVersionState) : MemoryPublicationStore ε :=
  { memory with versions := memory.versions.set versionId { version with lifecycleState := state } }

/-- The begin of a publication. -/
def begin (versionId : String) :
    Except RegistryError (CanonicalVersionRecord ε) × MemoryPublicationStore ε :=
  match memory.versions versionId with
  | none => (.error (store.notFound versionId), memory)
  | some version =>
      if version.lifecycleState ≠ .canonical ∧ version.lifecycleState ≠ .published then
        (.error (store.stateError versionId version.lifecycleState.text "begin processing"), memory)
      else
        (.ok { version with lifecycleState := .processing },
          memory.moveVersion versionId version .processing)

/-- The derivatives and the manifest of a delivery scope are published. -/
def publish (versionId deliveryScopeId : String) (derivatives : List MemoryDerivativeRecord)
    (manifest : MemoryManifestRecord) :
    Except RegistryError (CanonicalVersionRecord ε) × MemoryPublicationStore ε :=
  match memory.versions versionId with
  | none => (.error (store.notFound versionId), memory)
  | some version =>
      if version.lifecycleState ≠ .processing ∧ version.lifecycleState ≠ .published then
        (.error (store.stateError versionId version.lifecycleState.text "publish derivatives"),
          memory)
      else
        let written : MemoryPublicationStore ε :=
          { memory with
            derivativesByKey :=
              derivatives.foldl
                (fun values d => setValue (·.deterministicKey) (store.cloneDerivative d) values)
                memory.derivativesByKey
            manifestsByKey :=
              memory.manifestsByKey.set
                (manifestText versionId deliveryScopeId manifest.manifestType) manifest }
        (.ok { version with lifecycleState := .published },
          written.moveVersion versionId version .published)

def getVersion (versionId : String) : Option (CanonicalVersionRecord ε) := memory.versions versionId

def listPublishedDerivatives (rt : Runtime) (versionId : String) : List MemoryDerivativeRecord :=
  sortBy (fun a b => (rt.localeCompare a.deterministicKey b.deterministicKey).isLE)
    (memory.derivativesByKey.filter fun d => d.assetVersionId == versionId)

def readManifest (versionId manifestType deliveryScopeId : String) : Option MemoryManifestRecord :=
  memory.manifestsByKey (manifestText versionId deliveryScopeId manifestType)

end MemoryPublicationStore

/-! ### Calls on a pair of stores -/

/-- A call on a publication store. -/
inductive PublicationCall
  | begin (versionId : String)
  | publish (versionId deliveryScopeId : String) (derivatives : List MemoryDerivativeRecord)
      (manifest : MemoryManifestRecord)
  | listPublishedDerivatives (versionId : String)
  | readManifest (versionId manifestType deliveryScopeId : String)
  | getVersion (versionId : String)

/-- An in-memory store and a database. -/
structure PublicationPair (ε : Type) where
  memory : MemoryPublicationStore ε
  db : Db

/-- Both stores after a call. -/
def PublicationCall.run {ε : Type} (rt : Runtime) (store : PublicationStore ε)
    (pair : PublicationPair ε) : PublicationCall → PublicationPair ε
  | begin versionId =>
      ⟨(pair.memory.begin store versionId).2, (transact (store.begin versionId) pair.db).2⟩
  | publish versionId deliveryScopeId derivatives manifest =>
      ⟨(pair.memory.publish store versionId deliveryScopeId derivatives manifest).2,
        (transact (store.publish rt versionId deliveryScopeId
          (derivatives.map (·.toPublishedDerivativeRecord)) manifest.toPublishedManifestRecord)
          pair.db).2⟩
  | listPublishedDerivatives _ | readManifest _ _ _ | getVersion _ => pair

/-- The step relation of the pair. -/
def PublicationStep {ε : Type} (rt : Runtime) (store : PublicationStore ε)
    (pair : PublicationPair ε) (call : PublicationCall) (pair' : PublicationPair ε) : Prop :=
  call.run rt store pair = pair'

/-- **The stores answer a call alike**: with the same record or error, the same set of
derivatives, the same manifest, the same version. -/
def PublicationCall.Agree {ε : Type} (rt : Runtime) (store : PublicationStore ε)
    (pair : PublicationPair ε) : PublicationCall → Prop
  | begin versionId =>
      (pair.memory.begin store versionId).1 = (transact (store.begin versionId) pair.db).1
  | publish versionId deliveryScopeId derivatives manifest =>
      (pair.memory.publish store versionId deliveryScopeId derivatives manifest).1 =
        (transact (store.publish rt versionId deliveryScopeId
          (derivatives.map (·.toPublishedDerivativeRecord)) manifest.toPublishedManifestRecord)
          pair.db).1
  | listPublishedDerivatives versionId =>
      ∀ d, d ∈ pair.memory.listPublishedDerivatives rt versionId ↔
        d ∈ store.listPublishedDerivatives rt versionId pair.db
  | readManifest versionId manifestType deliveryScopeId =>
      pair.memory.readManifest versionId manifestType deliveryScopeId =
        PublicationStore.readManifest versionId manifestType deliveryScopeId pair.db
  | getVersion versionId =>
      .ok (pair.memory.getVersion versionId) = store.getVersion versionId pair.db

/-- The two stores hold **the same versions**, each canonical, processing or published. -/
structure PublicationPair.SameVersions {ε : Type} (store : PublicationStore ε)
    (pair : PublicationPair ε) : Prop where
  found : ∀ {id row}, pair.db.findPublicationVersion id = some row →
    PublicationStore.acceptsBegin row.version.lifecycleState = true ∧
      ∃ record, pair.memory.versions id = some record ∧
        store.mapVersion row row.version.lifecycleState = .ok record
  missing : ∀ {id}, pair.db.findPublicationVersion id = none → pair.memory.versions id = none

/-- The two stores hold the same versions, and nothing has been published. -/
structure PublicationPair.Initial {ε : Type} (store : PublicationStore ε)
    (pair : PublicationPair ε) : Prop where
  versions : pair.SameVersions store
  memoryDerivatives : pair.memory.derivativesByKey = []
  memoryManifests : ∀ text, pair.memory.manifestsByKey text = none
  derivatives : pair.db.derivatives.rows = []
  manifests : pair.db.assetManifests.rows = []

/-! ### When the stores agree -/

/-- A publication goes to a delivery scope that is available to the asset of its version. -/
def PublicationCall.ScopeAvailable (db : Db) : PublicationCall → Prop
  | publish versionId deliveryScopeId _ _ => ∀ row, db.findPublicationVersion versionId = some row →
      ∃ s ∈ db.deliveryScopes.rows, s.id = deliveryScopeId ∧ s.availableTo row.asset = true
  | _ => True

/-- The entries of an object **survive a JSON column**: written and read back they are the
same. -/
def SurvivesColumn (rt : Runtime) (entries : List (String × JsValue)) : Prop :=
  Json.entriesToJs (toJsonEntries rt entries) = entries

/-- The member of a derivative that is not a plain column can be read back: its metadata, or
its page, which the presentation store reads from the variant. -/
def PublicationStore.ReadsBack {ε : Type} (store : PublicationStore ε) (rt : Runtime)
    (d : MemoryDerivativeRecord) : Prop :=
  if store.writesMetadata then ∀ m, d.metadata = some m → SurvivesColumn rt m
  else d.pageNumber = parsedPageNumber d.recipeId d.variantKey

/-- Among the stored derivatives and those of a publication, those with **one deterministic
key have one slot**, and conversely. -/
structure KeysAreSlots (db : Db) (versionId : String) (derivatives : List MemoryDerivativeRecord) :
    Prop where
  stored : ∀ d ∈ derivatives, ∀ r ∈ db.derivatives.rows,
    r.deterministicKey = d.deterministicKey ↔ r.slot = d.slot versionId
  own : ∀ d ∈ derivatives, ∀ d' ∈ derivatives,
    d'.deterministicKey = d.deterministicKey ↔ d'.slot versionId = d.slot versionId

/-- No stored manifest of another version, scope or type is kept under the same text. -/
def TextIsFree (db : Db) (versionId manifestType deliveryScopeId : String) : Prop :=
  ∀ r ∈ db.assetManifests.rows,
    manifestText r.assetVersionId r.deliveryScopeId r.manifestType =
        manifestText versionId deliveryScopeId manifestType →
      r.slot = (versionId, manifestType, deliveryScopeId)

/-- What is handed to a publication reads back from both stores as it is. -/
structure PublicationReadsBack {ε : Type} (rt : Runtime) (store : PublicationStore ε) (db : Db)
    (versionId deliveryScopeId : String) (derivatives : List MemoryDerivativeRecord)
    (manifest : MemoryManifestRecord) : Prop where
  keys : KeysAreSlots db versionId derivatives
  version : ∀ d ∈ derivatives, d.assetVersionId = versionId
  readsBack : ∀ d ∈ derivatives, store.ReadsBack rt d
  text : TextIsFree db versionId manifest.manifestType deliveryScopeId
  manifestVersion : manifest.assetVersionId = versionId
  manifestScope : manifest.deliveryScopeId = deliveryScopeId
  payload : ∃ entries, manifest.manifestPayload = .object entries ∧ SurvivesColumn rt entries

/-- **A call on which the stores agree**: a begin meets no version that is processing; a
publication that is accepted reads back; a manifest is read under a text of its own. -/
def PublicationCall.Regular {ε : Type} (rt : Runtime) (store : PublicationStore ε) (db : Db) :
    PublicationCall → Prop
  | begin versionId => ∀ row, db.findPublicationVersion versionId = some row →
      row.version.lifecycleState ≠ .processing
  | publish versionId deliveryScopeId derivatives manifest =>
      ∀ row, db.findPublicationVersion versionId = some row →
        PublicationStore.acceptsPublish row.version.lifecycleState = true →
        PublicationReadsBack rt store db versionId deliveryScopeId derivatives manifest
  | readManifest versionId manifestType deliveryScopeId =>
      TextIsFree db versionId manifestType deliveryScopeId
  | listPublishedDerivatives _ | getVersion _ => True

/-- A store that takes the evidence of a version from its evidence columns. -/
inductive PublicationStore.IsRegistryStore : ∀ {ε : Type}, PublicationStore ε → Prop
  | genericAsset : IsRegistryStore genericAssetPublicationStore
  | image : IsRegistryStore imagePublicationStore
  | presentation : IsRegistryStore presentationPublicationStore

/-! ### The invariant of the pair -/

/-- Both stores hold the same. -/
structure PublicationPair.Inv {ε : Type} (store : PublicationStore ε) (pair : PublicationPair ε) :
    Prop where
  versions : pair.SameVersions store
  derivatives : pair.memory.derivativesByKey = pair.db.derivatives.rows.map store.mapDerivative
  published : ∀ r ∈ pair.db.derivatives.rows, r.publicationState = .published
  manifests : ∀ r ∈ pair.db.assetManifests.rows,
    pair.memory.manifestsByKey (manifestText r.assetVersionId r.deliveryScopeId r.manifestType) =
      some (PublicationStore.mapManifest r)
  manifestsOnly : ∀ {text m}, pair.memory.manifestsByKey text = some m →
    ∃ r ∈ pair.db.assetManifests.rows,
      manifestText r.assetVersionId r.deliveryScopeId r.manifestType = text

theorem PublicationPair.Initial.inv {ε : Type} {store : PublicationStore ε}
    {pair : PublicationPair ε} (h : pair.Initial store) : pair.Inv store where
  versions := h.versions
  derivatives := by rw [h.memoryDerivatives, h.derivatives]; rfl
  published := fun r hr => by
    rw [h.derivatives] at hr
    cases hr
  manifests := fun r hr => by
    rw [h.manifests] at hr
    cases hr
  manifestsOnly := fun {text m} hm => by
    rw [h.memoryManifests] at hm
    cases hm

namespace PublicationStore

variable {ε : Type} {store : PublicationStore ε} {rt : Runtime} {versionId : String} {db db' : Db}

theorem IsRegistryStore.mapEvidence_moveTo (h : store.IsRegistryStore) (v : AssetVersion)
    (state : AssetVersionState) : store.mapEvidence (v.moveTo state) = store.mapEvidence v := by
  cases h <;> rfl

/-- The record of a version in another state. -/
theorem mapVersion_state {row : PublicationRow} {record : CanonicalVersionRecord ε}
    {s state : AssetVersionState} (hrecord : store.mapVersion row s = .ok record)
    (hstate : acceptsBegin state = true) :
    store.mapVersion row state = .ok { record with lifecycleState := state } := by
  obtain ⟨evidence, hevidence, hret⟩ := bind_eq_ok.mp hrecord
  obtain rfl := Except.ok.inj hret
  refine bind_eq_ok.mpr ⟨evidence, hevidence, ?_⟩
  rcases acceptsBegin_iff.mp hstate with rfl | rfl | rfl <;> rfl

theorem IsRegistryStore.mapVersion_moveTo (h : store.IsRegistryStore) (row : PublicationRow)
    (s state : AssetVersionState) :
    store.mapVersion { row with version := row.version.moveTo s } state =
      store.mapVersion row state := by
  unfold mapVersion
  rw [show (PublicationRow.mk (row.version.moveTo s) row.asset row.serviceNamespaceId).version =
    row.version.moveTo s from rfl, h.mapEvidence_moveTo]
  rfl

theorem mapVersion_lifecycleState {row : PublicationRow} {record : CanonicalVersionRecord ε}
    {state : AssetVersionState} (hrecord : store.mapVersion row state = .ok record)
    (hstate : acceptsBegin state = true) : record.lifecycleState = state := by
  obtain ⟨evidence, -, hret⟩ := bind_eq_ok.mp hrecord
  obtain rfl := Except.ok.inj hret
  rcases acceptsBegin_iff.mp hstate with rfl | rfl | rfl <;> rfl

/-- The joined rows after a version has moved. -/
theorem findPublicationVersion_moved {id : String} {state : AssetVersionState}
    (hversion : ∀ x, db'.version? x = (db.version? x).map fun v =>
      if x = id then v.moveTo state else v)
    (hassets : db'.assets = db.assets) (hnamespaces : db'.serviceNamespaces = db.serviceNamespaces)
    (x : String) :
    db'.findPublicationVersion x = (db.findPublicationVersion x).map fun row =>
      if x = id then { row with version := row.version.moveTo state } else row := by
  have hasset : ∀ a, db'.asset? a = db.asset? a := fun a => by rw [Db.asset?, hassets]; rfl
  have hns : ∀ n, db'.serviceNamespace? n = db.serviceNamespace? n := fun n => by
    rw [Db.serviceNamespace?, hnamespaces]; rfl
  simp only [Db.findPublicationVersion, hversion, Option.bind_eq_bind]
  cases db.version? x with
  | none => rfl
  | some v =>
      by_cases hx : x = id
      · simp only [if_pos hx, Option.map_some, Option.bind_some, hasset, hns]
        rw [show (v.moveTo state).assetId = v.assetId from rfl]
        cases db.asset? v.assetId with
        | none => rfl
        | some a =>
            simp only [Option.bind_some]
            cases db.serviceNamespace? a.serviceNamespaceId <;> rfl
      · simp only [if_neg hx, Option.map_some, Option.bind_some, hasset, hns, Option.map_id']

/-! ### The derivative rows of a publication -/

/-- A row of the slot of a derivative, with the data of the derivative. -/
def withData (store : PublicationStore ε) (rt : Runtime) (d : PublishedDerivativeRecord)
    (r : Derivative) : Derivative :=
  { r with
    byteLength := d.byteLength
    checksumValue := some d.checksumValue
    contentType := d.contentType
    deterministicKey := d.deterministicKey
    metadata := if store.writesMetadata then store.metadataColumn rt d else r.metadata
    publicationState := .published
    publishedAt := some d.publishedAt
    storageBucket := some d.storageBucket
    storageKey := some d.storageKey }

theorem withData_derivativeRow (d : PublishedDerivativeRecord) :
    store.withData rt d (store.derivativeRow rt versionId d) =
      store.derivativeRow rt versionId d := by
  unfold withData derivativeRow
  cases store.writesMetadata <;> rfl

/-- The row of a derivative reads back as the in-memory store keeps it. -/
theorem mapDerivative_withData {d : MemoryDerivativeRecord} {r : Derivative}
    (hreads : store.ReadsBack rt d) (hversion : d.assetVersionId = versionId)
    (hslot : r.slot = d.slot versionId) :
    store.mapDerivative (store.withData rt d.toPublishedDerivativeRecord r) =
      store.cloneDerivative d := by
  obtain ⟨d, assetVersionId⟩ := d
  obtain rfl := hversion
  simp only [Derivative.slot, PublishedDerivativeRecord.slot, Prod.mk.injEq] at hslot
  obtain ⟨hasset, hscope, hrecipe, hschema, hvariant⟩ := hslot
  unfold ReadsBack at hreads
  cases hwrites : store.writesMetadata with
  | true =>
      rw [if_pos hwrites] at hreads
      cases hmetadata : d.metadata with
      | none =>
          simp [mapDerivative, withData, metadataColumn, cloneDerivative, hwrites, hmetadata,
            Json.truthy, hasset, hscope, hrecipe, hschema, hvariant]
      | some m =>
          have hsurvives : Json.entriesToJs (toJsonEntries rt m) = m := hreads m hmetadata
          simp [mapDerivative, withData, metadataColumn, cloneDerivative, hwrites, hmetadata,
            toJsonValue, Json.truthy, asObject, hsurvives, hasset, hscope, hrecipe, hschema,
            hvariant]
  | false =>
      rw [hwrites] at hreads
      have hpage : d.pageNumber = parsedPageNumber d.recipeId d.variantKey := hreads
      simp [mapDerivative, withData, cloneDerivative, hwrites, hpage, hasset, hscope, hrecipe,
        hschema, hvariant]

/-- **One derivative**: where its key is held by the row of its slot and by no other, both
stores set it, and hold the same again. -/
theorem upsertDerivative_setValue {d : MemoryDerivativeRecord} (hreads : store.ReadsBack rt d)
    (hversion : d.assetVersionId = versionId)
    (hkeys : ∀ r ∈ db.derivatives.rows,
      r.deterministicKey = d.deterministicKey ↔ r.slot = d.slot versionId)
    (hpublished : ∀ r ∈ db.derivatives.rows, r.publicationState = .published) :
    ∃ db', store.upsertDerivative rt versionId db d.toPublishedDerivativeRecord = .ok db' ∧
      db'.derivatives.rows.map store.mapDerivative =
        setValue (·.deterministicKey) (store.cloneDerivative d)
          (db.derivatives.rows.map store.mapDerivative) ∧
      (∀ r ∈ db'.derivatives.rows, r.publicationState = .published) ∧
      ∀ r ∈ db'.derivatives.rows,
        (∃ r₀ ∈ db.derivatives.rows, r.deterministicKey = r₀.deterministicKey ∧ r.slot = r₀.slot) ∨
          r.deterministicKey = d.deterministicKey ∧ r.slot = d.slot versionId := by
  obtain ⟨db', h⟩ := (upsertDerivative_ok_iff store rt).mpr fun r hr hkey => (hkeys r hr).mp hkey
  refine ⟨db', h, ?_⟩
  have hclone : (store.cloneDerivative d).deterministicKey = d.deterministicKey := by
    unfold cloneDerivative
    split <;> rfl
  have hrow : store.mapDerivative (store.derivativeRow rt versionId d.toPublishedDerivativeRecord) =
      store.cloneDerivative d := by
    rw [← withData_derivativeRow]
    exact mapDerivative_withData hreads hversion rfl
  have hset := @setValue_map _ _ _ _ _ _ (fun d : MemoryDerivativeRecord => d.deterministicKey)
    Derivative.slot store.mapDerivative _ _ db.derivatives.rows hrow
    fun r hr => by rw [hclone]; exact hkeys r hr
  rw [hset]
  unfold setValue
  simp only [show (store.derivativeRow rt versionId d.toPublishedDerivativeRecord).slot =
    d.slot versionId from rfl]
  obtain ⟨t, ht, rfl⟩ := write_eq_ok.mp h
  rcases Table.upsert_eq_ok_iff.mp ht with ⟨⟨x, hx, hsel⟩, hrows⟩ | ⟨hnone, -, hrows⟩
  · change t.rows = db.derivatives.updatedRows (fun r => r.slot == d.slot versionId)
      (store.withData rt d.toPublishedDerivativeRecord) at hrows
    have hany : (db.derivatives.rows.any fun r => decide (r.slot = d.slot versionId)) = true :=
      List.any_eq_true.mpr ⟨x, hx, decide_eq_true (eq_of_beq hsel)⟩
    have hmem : ∀ r ∈ t.rows,
        (∃ r₀ ∈ db.derivatives.rows, r₀.slot = d.slot versionId ∧
          r = store.withData rt d.toPublishedDerivativeRecord r₀) ∨ r ∈ db.derivatives.rows := by
      intro r hr
      rw [hrows, Table.mem_updatedRows] at hr
      rcases hr with ⟨r₀, hr₀, hsel₀, rfl⟩ | ⟨hr, -⟩
      · exact Or.inl ⟨r₀, hr₀, eq_of_beq hsel₀, rfl⟩
      · exact Or.inr hr
    refine ⟨?_, fun r hr => ?_, fun r hr => ?_⟩
    · rw [if_pos hany]
      simp only [hrows, Table.updatedRows, List.map_map]
      refine List.map_congr_left fun r hr => ?_
      by_cases hslot : r.slot = d.slot versionId
      · have hdata := mapDerivative_withData hreads hversion hslot
        simp only [Function.comp_apply]
        rw [if_pos (beq_iff_eq.mpr hslot), if_pos hslot, hrow]
        exact hdata
      · simp only [Function.comp_apply]
        rw [if_neg (fun h => hslot (beq_iff_eq.mp h)), if_neg hslot]
    · rcases hmem r hr with ⟨r₀, -, -, rfl⟩ | hold
      · rfl
      · exact hpublished r hold
    · rcases hmem r hr with ⟨r₀, -, hslot₀, rfl⟩ | hold
      · exact Or.inr ⟨rfl, hslot₀⟩
      · exact Or.inl ⟨r, hold, rfl, rfl⟩
  · have hany : ¬ (db.derivatives.rows.any fun r => decide (r.slot = d.slot versionId)) = true := by
      intro hany
      obtain ⟨r, hr, hslot⟩ := List.any_eq_true.mp hany
      exact beq_eq_false_iff_ne.mp (hnone r hr) (of_decide_eq_true hslot)
    refine ⟨?_, fun r hr => ?_, fun r hr => ?_⟩
    · rw [if_neg hany, hrows]
    · rw [hrows] at hr
      rcases List.mem_append.mp hr with hold | hnew
      · exact hpublished r hold
      · obtain rfl := List.mem_singleton.mp hnew
        rfl
    · rw [hrows] at hr
      rcases List.mem_append.mp hr with hold | hnew
      · exact Or.inl ⟨r, hold, rfl, rfl⟩
      · obtain rfl := List.mem_singleton.mp hnew
        exact Or.inr ⟨rfl, rfl⟩

/-- **The derivatives of a publication**, one after another. -/
theorem upsertDerivatives_setValue {derivatives : List MemoryDerivativeRecord}
    (hreads : ∀ d ∈ derivatives, store.ReadsBack rt d)
    (hversion : ∀ d ∈ derivatives, d.assetVersionId = versionId)
    (hkeys : KeysAreSlots db versionId derivatives)
    (hpublished : ∀ r ∈ db.derivatives.rows, r.publicationState = .published) :
    ∃ db', store.upsertDerivatives rt versionId
        (derivatives.map (·.toPublishedDerivativeRecord)) db = .ok db' ∧
      db'.derivatives.rows.map store.mapDerivative =
        derivatives.foldl
          (fun values d => setValue (·.deterministicKey) (store.cloneDerivative d) values)
          (db.derivatives.rows.map store.mapDerivative) ∧
      ∀ r ∈ db'.derivatives.rows, r.publicationState = .published := by
  induction derivatives generalizing db with
  | nil => exact ⟨db, rfl, rfl, hpublished⟩
  | cons d ds ih =>
      obtain ⟨hd, hds⟩ := List.forall_mem_cons.mp hreads
      obtain ⟨hv, hvs⟩ := List.forall_mem_cons.mp hversion
      obtain ⟨db₁, h₁, hrows₁, hpublished₁, hplaces⟩ := upsertDerivative_setValue hd hv
        (hkeys.stored d List.mem_cons_self) hpublished
      have hkeys₁ : KeysAreSlots db₁ versionId ds := by
        refine ⟨fun e he r hr => ?_, fun e he e' he' =>
          hkeys.own e (List.mem_cons_of_mem _ he) e' (List.mem_cons_of_mem _ he')⟩
        rcases hplaces r hr with ⟨r₀, hr₀, hkey, hslot⟩ | ⟨hkey, hslot⟩
        · rw [hkey, hslot]
          exact hkeys.stored e (List.mem_cons_of_mem _ he) r₀ hr₀
        · rw [hkey, hslot]
          exact hkeys.own e (List.mem_cons_of_mem _ he) d List.mem_cons_self
      obtain ⟨db', h', hrows', hpublished'⟩ := ih hds hvs hkeys₁ hpublished₁
      refine ⟨db', ?_, ?_, hpublished'⟩
      · rw [List.map_cons]
        exact bind_eq_ok.mpr ⟨db₁, h₁, h'⟩
      · rw [hrows', hrows₁, List.foldl_cons]

/-! ### The manifest row of a publication -/

/-- **The manifest of a publication**: under a text of its own, both stores keep it. -/
theorem upsertManifest_set {manifestsByKey : JsMap MemoryManifestRecord}
    {manifest : MemoryManifestRecord} {entries : List (String × JsValue)}
    (hmanifests : ∀ r ∈ db.assetManifests.rows,
      manifestsByKey (manifestText r.assetVersionId r.deliveryScopeId r.manifestType) =
        some (mapManifest r))
    (honly : ∀ {text m}, manifestsByKey text = some m → ∃ r ∈ db.assetManifests.rows,
      manifestText r.assetVersionId r.deliveryScopeId r.manifestType = text)
    (htext : TextIsFree db versionId manifest.manifestType manifest.deliveryScopeId)
    (hversion : manifest.assetVersionId = versionId)
    (hpayload : manifest.manifestPayload = .object entries)
    (hsurvives : SurvivesColumn rt entries) :
    ∃ db', upsertManifest rt versionId manifest.deliveryScopeId
      manifest.toPublishedManifestRecord db =
        .ok db' ∧
      (∀ r ∈ db'.assetManifests.rows,
        manifestsByKey.set (manifestText versionId manifest.deliveryScopeId manifest.manifestType)
            manifest (manifestText r.assetVersionId r.deliveryScopeId r.manifestType) =
          some (mapManifest r)) ∧
      ∀ {text m},
        manifestsByKey.set (manifestText versionId manifest.deliveryScopeId manifest.manifestType)
          manifest text = some m → ∃ r ∈ db'.assetManifests.rows,
            manifestText r.assetVersionId r.deliveryScopeId r.manifestType = text := by
  obtain ⟨db', h⟩ := upsertManifest_ok rt versionId manifest.deliveryScopeId
    manifest.toPublishedManifestRecord db
  obtain ⟨hwritten, hkept⟩ := upsertManifest_rows h
  refine ⟨db', h, fun r hr => ?_, fun {text m} hm => ?_⟩
  · by_cases hslot : r.slot = (versionId, manifest.manifestType, manifest.deliveryScopeId)
    · -- the row that was written
      have hread : mapManifest r = manifest := by
        obtain ⟨t, ht, rfl⟩ := write_eq_ok.mp h
        obtain ⟨manifest, assetVersionId⟩ := manifest
        obtain rfl := hversion
        have hcolumn : asObject (toJsonValue rt manifest.manifestPayload) = some entries := by
          rw [hpayload]
          simp only [toJsonValue, asObject]
          exact congrArg some hsurvives
        simp only [AssetManifest.slot, Prod.mk.injEq] at hslot
        obtain ⟨hasset, htype, hscope⟩ := hslot
        rcases Table.upsert_eq_ok_iff.mp ht with ⟨-, hrows⟩ | ⟨hnone, -, hrows⟩
        · rw [hrows, Table.mem_updatedRows] at hr
          rcases hr with ⟨r₀, -, -, rfl⟩ | ⟨-, hne⟩
          · simp only [mapManifest, manifestRow, Option.getD_some] at hasset htype hscope ⊢
            rw [hcolumn, Option.getD_some, ← hpayload, hasset, htype, hscope]
          · refine absurd ?_ (beq_eq_false_iff_ne.mp hne)
            simp only [AssetManifest.slot, manifestRow, hasset, htype, hscope]
        · rw [hrows] at hr
          rcases List.mem_append.mp hr with hold | hnew
          · refine absurd ?_ (beq_eq_false_iff_ne.mp (hnone r hold))
            simp only [AssetManifest.slot, manifestRow, hasset, htype, hscope]
          · obtain rfl := List.mem_singleton.mp hnew
            simp only [mapManifest, manifestRow, Option.getD_some]
            rw [hcolumn, Option.getD_some, ← hpayload]
      simp only [AssetManifest.slot, Prod.mk.injEq] at hslot
      rw [hslot.1, hslot.2.1, hslot.2.2, JsMap.set_self, hread]
    · have hold := (hkept r hslot).mp hr
      rw [JsMap.set_of_ne _ _ fun heq => hslot (htext r hold heq)]
      exact hmanifests r hold
  · by_cases heq : text = manifestText versionId manifest.deliveryScopeId manifest.manifestType
    · obtain ⟨r, hr, hslot⟩ := hwritten
      simp only [AssetManifest.slot, Prod.mk.injEq] at hslot
      exact ⟨r, hr, by rw [hslot.1, hslot.2.1, hslot.2.2, heq]⟩
    · rw [JsMap.set_of_ne _ _ heq] at hm
      obtain ⟨r, hr, htextr⟩ := honly hm
      refine ⟨r, (hkept r fun hslot => heq ?_).mpr hr, htextr⟩
      simp only [AssetManifest.slot, Prod.mk.injEq] at hslot
      rw [← htextr, hslot.1, hslot.2.1, hslot.2.2]

end PublicationStore

/-! ### One call -/

section Step

variable {ε : Type} {store : PublicationStore ε} {rt : Runtime}
    {memory memory' : MemoryPublicationStore ε}
  {db db' : Db} {id : String} {row : PublicationRow} {record : CanonicalVersionRecord ε}
  {state : AssetVersionState}

/-- The same versions after both stores have moved one. -/
theorem PublicationPair.SameVersions.moved
    (h : PublicationPair.SameVersions store ⟨memory, db⟩) (hstore : store.IsRegistryStore)
    (hmemory : memory.versions id = some record)
    (hstate : PublicationStore.acceptsBegin state = true)
    (hmemory' : memory'.versions = memory.versions.set id { record with lifecycleState := state })
    (hdb' : ∀ x, db'.findPublicationVersion x = (db.findPublicationVersion x).map fun row =>
      if x = id then { row with version := row.version.moveTo state } else row) :
    PublicationPair.SameVersions store ⟨memory', db'⟩ where
  found := fun {x row'} hfound => by
    have hmapped := hdb' x
    rw [hfound] at hmapped
    obtain ⟨row, hrow, hrow'⟩ := Option.map_eq_some_iff.mp hmapped.symm
    obtain ⟨haccepts, r, hr, hrecord⟩ := h.found hrow
    simp only [hmemory']
    by_cases hx : x = id
    · subst hx
      rw [if_pos rfl] at hrow'
      subst hrow'
      obtain rfl := Option.some.inj (hmemory.symm.trans hr)
      refine ⟨hstate, _, JsMap.set_self _ _ _, ?_⟩
      exact (hstore.mapVersion_moveTo row state state).trans
        (PublicationStore.mapVersion_state hrecord hstate)
    · rw [if_neg hx] at hrow'
      subst hrow'
      exact ⟨haccepts, r, by rw [JsMap.set_of_ne _ _ hx]; exact hr, hrecord⟩
  missing := fun {x} hmissing => by
    have hmapped := hdb' x
    rw [hmissing] at hmapped
    have hnone := h.missing (Option.map_eq_none_iff.mp hmapped.symm)
    have hx : x ≠ id := by
      rintro rfl
      rw [show memory.versions x = none from hnone] at hmemory
      cases hmemory
    simp only [hmemory', JsMap.set_of_ne _ _ hx]
    exact hnone

/-- A begin of a version that is not processing. -/
theorem PublicationPair.Inv.begin (hinv : PublicationPair.Inv store ⟨memory, db⟩)
    (hstore : store.IsRegistryStore)
    (hregular : (PublicationCall.begin id).Regular rt store db) :
    (PublicationCall.begin id).Agree rt store ⟨memory, db⟩ ∧
      ((PublicationCall.begin id).run rt store ⟨memory, db⟩).Inv store := by
  cases hrow : db.findPublicationVersion id with
  | none =>
      have hmemory : memory.versions id = none := hinv.versions.missing hrow
      have hbegin : store.begin id db = .error (store.notFound id) := by
        simp only [PublicationStore.begin, hrow]
      simp only [PublicationCall.Agree, PublicationCall.run, MemoryPublicationStore.begin, hmemory,
        transact, hbegin]
      exact ⟨trivial, hinv⟩
  | some row =>
      obtain ⟨haccepts, record, hmemory, hrecord⟩ := hinv.versions.found hrow
      have hstate := PublicationStore.mapVersion_lifecycleState hrecord haccepts
      have hidle := hregular row hrow
      have hopen : ¬ (record.lifecycleState ≠ .canonical ∧ record.lifecycleState ≠ .published) := by
        rw [hstate]
        rintro ⟨hcanonical, hpublished⟩
        rcases PublicationStore.acceptsBegin_iff.mp haccepts with h | h | h
        · exact hcanonical h
        · exact hidle h
        · exact hpublished h
      have hversion := Db.findPublicationVersion_version? hrow
      have hid := (Db.version?_eq_some_iff.mp hversion).2
      obtain ⟨db', hupdate⟩ := Db.updateAssetVersion_ok (hid.symm ▸ hversion)
        (f := fun r => r.moveTo .processing) fun _ _ => rfl
      have hbegin : store.begin id db =
          .ok ({ record with lifecycleState := .processing }, db') := by
        simp only [PublicationStore.begin, hrow, if_pos haccepts]
        refine bind_eq_ok.mpr
          ⟨db', ?_, bind_eq_ok.mpr ⟨_, PublicationStore.mapVersion_state hrecord rfl,
          rfl⟩⟩
        rw [PublicationStore.startProcessing, if_neg hidle]
        exact hupdate
      simp only [PublicationCall.Agree, PublicationCall.run, MemoryPublicationStore.begin,
        show memory.versions id = some record from hmemory, transact, hbegin]
      rw [if_neg hopen]
      refine ⟨rfl, ?_⟩
      have hmoved := (Db.updateAssetVersion_moved hupdate).version?
      rw [hid] at hmoved
      obtain ⟨t, -, rfl⟩ := write_eq_ok.mp hupdate
      exact
        { versions := hinv.versions.moved hstore hmemory rfl rfl
            (PublicationStore.findPublicationVersion_moved hmoved rfl rfl)
          derivatives := hinv.derivatives
          published := hinv.published
          manifests := hinv.manifests
          manifestsOnly := hinv.manifestsOnly }

/-- A publication that is accepted reads back. -/
theorem PublicationPair.Inv.publish (hinv : PublicationPair.Inv store ⟨memory, db⟩)
    (hstore : store.IsRegistryStore) {scope : String} {derivatives : List MemoryDerivativeRecord}
    {manifest : MemoryManifestRecord}
    (hscope : (PublicationCall.publish id scope derivatives manifest).ScopeAvailable db)
    (hregular : (PublicationCall.publish id scope derivatives manifest).Regular rt store db) :
    (PublicationCall.publish id scope derivatives manifest).Agree rt store ⟨memory, db⟩ ∧
      ((PublicationCall.publish id scope derivatives manifest).run rt store ⟨memory, db⟩).Inv
        store := by
  cases hrow : db.findPublicationVersion id with
  | none =>
      have hmemory : memory.versions id = none := hinv.versions.missing hrow
      simp only [PublicationCall.Agree, PublicationCall.run, MemoryPublicationStore.publish,
        hmemory, transact, PublicationStore.publish, hrow]
      exact ⟨trivial, hinv⟩
  | some row =>
      obtain ⟨haccepts, record, hmemory, hrecord⟩ := hinv.versions.found hrow
      have hstate := PublicationStore.mapVersion_lifecycleState hrecord haccepts
      have hmemory' : memory.versions id = some record := hmemory
      by_cases hready : PublicationStore.acceptsPublish row.version.lifecycleState = true
      · have hopen :
          ¬ (record.lifecycleState ≠ .processing ∧ record.lifecycleState ≠ .published) := by
          rw [hstate]
          rintro ⟨hprocessing, hpublished⟩
          rcases PublicationStore.acceptsPublish_iff.mp hready with h | h
          · exact hprocessing h
          · exact hpublished h
        have hreads := hregular row hrow hready
        obtain ⟨entries, hpayload, hsurvives⟩ := hreads.payload
        obtain rfl := hreads.manifestScope
        obtain ⟨db₁, h₁, hrows₁, hpublished₁⟩ := PublicationStore.upsertDerivatives_setValue
          hreads.readsBack hreads.version hreads.keys hinv.published
        obtain ⟨t₁, rfl⟩ := PublicationStore.upsertDerivatives_frame h₁
        obtain ⟨db₂, h₂, hmanifests₂, honly₂⟩ := @PublicationStore.upsertManifest_set
          rt id { db with derivatives := t₁ } _ _ _ hinv.manifests hinv.manifestsOnly
          hreads.text hreads.manifestVersion hpayload hsurvives
        have hversion := Db.findPublicationVersion_version? hrow
        have hid := (Db.version?_eq_some_iff.mp hversion).2
        obtain ⟨s, hs, hsid, havailable⟩ := hscope row hrow
        have hany : (db.deliveryScopes.rows.any fun r =>
            r.id == manifest.deliveryScopeId && r.availableTo row.asset) = true :=
          List.any_eq_true.mpr ⟨s, hs, by rw [hsid, beq_self_eq_true, havailable]; rfl⟩
        obtain ⟨db₃, h₃⟩ :
          ∃ db₃, db₂.updateAssetVersion id (fun r => r.moveTo .published) = .ok db₃ := by
          have hversion₂ : db₂.version? id = some row.version := by
            obtain ⟨t₂, -, rfl⟩ := write_eq_ok.mp h₂
            exact hversion
          exact Db.updateAssetVersion_ok hversion₂ fun _ _ => rfl
        have hpublish : store.publish rt id manifest.deliveryScopeId
            (derivatives.map (·.toPublishedDerivativeRecord))
            manifest.toPublishedManifestRecord db =
              .ok ({ record with lifecycleState := .published }, db₃) := by
          simp only [PublicationStore.publish, hrow, if_pos hready, if_pos hany]
          exact bind_eq_ok.mpr ⟨_, h₁, bind_eq_ok.mpr ⟨db₂, h₂, bind_eq_ok.mpr ⟨db₃, h₃,
            bind_eq_ok.mpr ⟨_, PublicationStore.mapVersion_state hrecord rfl, rfl⟩⟩⟩⟩
        simp only [PublicationCall.Agree, PublicationCall.run, MemoryPublicationStore.publish,
          hmemory', transact, hpublish]
        rw [if_neg hopen]
        refine ⟨rfl, ?_⟩
        have hmoved := (Db.updateAssetVersion_moved h₃).version?
        obtain ⟨t₂, -, rfl⟩ := write_eq_ok.mp h₂
        obtain ⟨t₃, -, rfl⟩ := write_eq_ok.mp h₃
        exact
          { versions := hinv.versions.moved hstore hmemory rfl rfl
              (PublicationStore.findPublicationVersion_moved hmoved rfl rfl)
            derivatives := by
              rw [show (PublicationPair.memory _ : MemoryPublicationStore ε).derivativesByKey =
                derivatives.foldl
                  (fun values d => setValue (·.deterministicKey) (store.cloneDerivative d) values)
                  memory.derivativesByKey from rfl, hinv.derivatives]
              exact hrows₁.symm
            published := hpublished₁
            manifests := hmanifests₂
            manifestsOnly := honly₂ }
      · have hclosed : record.lifecycleState ≠ .processing ∧
          record.lifecycleState ≠ .published := by
          rw [hstate]
          exact ⟨fun h => hready (PublicationStore.acceptsPublish_iff.mpr (Or.inl h)),
            fun h => hready (PublicationStore.acceptsPublish_iff.mpr (Or.inr h))⟩
        simp only [PublicationCall.Agree, PublicationCall.run, MemoryPublicationStore.publish,
          hmemory', transact, PublicationStore.publish, hrow, if_neg hready]
        rw [if_pos hclosed, hstate]
        exact ⟨rfl, hinv⟩

/-- **A regular call** is answered alike and keeps the stores the same. -/
theorem PublicationPair.Inv.step {pair : PublicationPair ε} {call : PublicationCall}
    (hinv : pair.Inv store) (hstore : store.IsRegistryStore)
    (hscope : call.ScopeAvailable pair.db) (hregular : call.Regular rt store pair.db) :
    call.Agree rt store pair ∧ (call.run rt store pair).Inv store := by
  obtain ⟨memory, db⟩ := pair
  cases call with
  | begin versionId => exact hinv.begin hstore hregular
  | publish versionId deliveryScopeId derivatives manifest =>
      exact hinv.publish hstore hscope hregular
  | listPublishedDerivatives versionId =>
      refine ⟨fun d => ?_, hinv⟩
      have hderivatives : memory.derivativesByKey = db.derivatives.rows.map store.mapDerivative :=
        hinv.derivatives
      simp only [MemoryPublicationStore.listPublishedDerivatives,
        PublicationStore.listPublishedDerivatives, (sortBy_perm _ _).mem_iff, List.mem_map,
        hderivatives, List.mem_filter]
      constructor
      · rintro ⟨⟨r, hr, rfl⟩, hversion⟩
        refine ⟨r, ⟨hr, ?_⟩, rfl⟩
        rw [hinv.published r hr]
        simpa [PublicationStore.mapDerivative] using hversion
      · rintro ⟨r, ⟨hr, hsel⟩, rfl⟩
        simp only [Bool.and_eq_true] at hsel
        exact ⟨⟨r, hr, rfl⟩, hsel.1⟩
  | readManifest versionId manifestType deliveryScopeId =>
      refine ⟨?_, hinv⟩
      simp only [PublicationCall.Agree, MemoryPublicationStore.readManifest,
        PublicationStore.readManifest]
      cases hfind : db.assetManifests.find? fun r =>
          r.slot == (versionId, manifestType, deliveryScopeId) with
      | some r =>
          obtain ⟨hr, hslot⟩ := (Table.find?_key_eq_some_iff fun a b h => by
            simp [clash, sameKey, h]).mp hfind
          have hkept := hinv.manifests r hr
          simp only [AssetManifest.slot, Prod.mk.injEq] at hslot
          rw [hslot.1, hslot.2.1, hslot.2.2] at hkept
          exact hkept
      | none =>
          cases hkept : memory.manifestsByKey
              (manifestText versionId deliveryScopeId manifestType) with
          | none => rfl
          | some m =>
              obtain ⟨r, hr, htext⟩ := hinv.manifestsOnly hkept
              have hsel := Table.find?_eq_none_iff.mp hfind r hr
              exact absurd (beq_iff_eq.mpr (hregular r hr htext)) (by simp [hsel])
  | getVersion versionId =>
      refine ⟨?_, hinv⟩
      simp only [PublicationCall.Agree, MemoryPublicationStore.getVersion,
        PublicationStore.getVersion]
      cases hrow : db.findPublicationVersion versionId with
      | none => exact congrArg Except.ok (hinv.versions.missing hrow)
      | some row =>
          obtain ⟨-, record, hmemory, hrecord⟩ := hinv.versions.found hrow
          simp only [hrecord]
          exact congrArg Except.ok hmemory

end Step

/-- **The in-memory and the Prisma publication stores agree** on every run of calls, from the
same versions, whose publications go to available scopes and whose calls are regular: each
call is answered alike, and afterwards every version is in one lifecycle state. -/
theorem publication_stores_agree {ε : Type} {rt : Runtime} {store : PublicationStore ε}
    {pair pair' : PublicationPair ε} {tr : List (Transition (PublicationPair ε) PublicationCall)}
    (hstore : store.IsRegistryStore) (hinitial : pair.Initial store)
    (hrun : Run (PublicationStep rt store) pair tr pair')
    (hscopes : ∀ τ ∈ tr, τ.action.ScopeAvailable τ.before.db)
    (hregular : ∀ τ ∈ tr, τ.action.Regular rt store τ.before.db) :
    ∀ τ ∈ tr, τ.action.Agree rt store τ.before ∧
      ∀ id, (τ.after.memory.getVersion id).map (·.lifecycleState) =
        (τ.after.db.findPublicationVersion id).map (·.version.lifecycleState) := by
  have hstep :
    ∀ {s : PublicationPair ε} {a : PublicationCall} {s' : PublicationPair ε}, s.Inv store →
      PublicationStep rt store s a s' → a.ScopeAvailable s.db ∧ a.Regular rt store s.db →
      s'.Inv store := by
    rintro s a s' hs rfl ⟨hscope, hregular⟩
    exact (hs.step hstore hscope hregular).2
  have hinv := (hrun.forall_invariant_where
    (C := fun τ => τ.action.ScopeAvailable τ.before.db ∧ τ.action.Regular rt store τ.before.db)
    hstep
    hinitial.inv fun τ hτ => ⟨hscopes τ hτ, hregular τ hτ⟩).2
  intro τ hτ
  obtain ⟨hbefore, hafter⟩ := hinv τ hτ
  refine ⟨(hbefore.step hstore (hscopes τ hτ) (hregular τ hτ)).1, fun id => ?_⟩
  cases hrow : τ.after.db.findPublicationVersion id with
  | none => rw [MemoryPublicationStore.getVersion, hafter.versions.missing hrow]; rfl
  | some row =>
      obtain ⟨haccepts, record, hmemory, hrecord⟩ := hafter.versions.found hrow
      rw [MemoryPublicationStore.getVersion, hmemory, Option.map_some, Option.map_some,
        PublicationStore.mapVersion_lifecycleState hrecord haccepts]

/-! ### Runs on which the stores agree and do not -/

/-- A canonical version of a sample asset. -/
def samplePublicationRow : PublicationRow where
  version :=
    { issuedVersion (sampleIssue "a") (sampleIds "a") "asset-a" 1 with
      lifecycleState := .canonical
      canonicalSourceId := some "source-a"
      canonicalLogicalPath := some "media/report.pdf" }
  asset :=
    { id := "asset-a"
      serviceNamespaceId := "namespace-1"
      tenantScopeId := none
      assetOwner := "customer:acme"
      lookupKey := "lookup-a" }
  serviceNamespaceId := "media"

/-- A registry with the version and two delivery scopes of its asset. -/
def samplePublicationDb : Db :=
  { sampleRegistry with
    assets := ⟨[samplePublicationRow.asset], by decide⟩
    assetVersions := ⟨[samplePublicationRow.version], by decide⟩
    deliveryScopes :=
      ⟨[⟨"scope-1", "namespace-1", none, "public", "cdn.example", none⟩,
        ⟨"scope-2", "namespace-1", none, "partner", "partner.example", none⟩], by decide⟩ }

/-- The version as the image store returns it. -/
def sampleImageVersion : CanonicalVersionRecord CanonicalSourceIdentity where
  assetId := "asset-a"
  evidence := ⟨"media/report.pdf", "source-a"⟩
  detectedContentType := "application/pdf"
  lifecycleState := .canonical
  serviceNamespaceId := "media"
  sourceByteLength := 5
  sourceChecksumValue := "5d41402abc4b2a76"
  sourceFilename := "report.pdf"
  versionId := "version-a"
  versionNumber := 1

/-- The image stores with the version. -/
def samplePublicationPair : PublicationPair CanonicalSourceIdentity where
  memory := { versions := JsMap.set (fun _ => none) "version-a" sampleImageVersion }
  db := samplePublicationDb

theorem samplePublicationPair_initial : samplePublicationPair.Initial imagePublicationStore where
  versions :=
    { found := fun {id row} hfound => by
        have hversion := Db.findPublicationVersion_version? hfound
        obtain ⟨hmem, rfl⟩ := Db.version?_eq_some_iff.mp hversion
        have hrow : row.version = samplePublicationRow.version := List.mem_singleton.mp hmem
        rw [hrow] at hfound
        have hsample :
          samplePublicationPair.db.findPublicationVersion samplePublicationRow.version.id =
          some samplePublicationRow := rfl
        obtain rfl := Option.some.inj (hfound.symm.trans hsample)
        exact ⟨rfl, sampleImageVersion, rfl, rfl⟩
      missing := fun {id} hmissing => by
        by_cases hid : id = "version-a"
        · subst hid
          cases hmissing
        · exact JsMap.set_of_ne (fun _ => none) sampleImageVersion hid }
  memoryDerivatives := rfl
  memoryManifests := fun _ => rfl
  derivatives := rfl
  manifests := rfl

/-- A thumbnail of the version in a delivery scope, under the key that the workflows
compute, which does not name the scope. -/
def sampleThumbnail (deliveryScopeId : String) : MemoryDerivativeRecord where
  assetVersionId := "version-a"
  byteLength := 3
  checksumValue := "checksum"
  contentType := "image/webp"
  deliveryScopeId
  deterministicKey := "deriv/media/asset-a/version-a/thumbnail/webp"
  publishedAt := 50
  recipeId := "thumbnail"
  schemaVersion := "v1"
  storageBucket := "derived"
  storageKey := "deriv/media/asset-a/version-a/thumbnail/webp"
  variantKey := "webp"

/-- A manifest of the version in a delivery scope. -/
def sampleImageManifest (deliveryScopeId : String) : MemoryManifestRecord where
  assetVersionId := "version-a"
  checksumValue := "checksum"
  deliveryScopeId
  manifestPayload := .object []
  manifestType := "image-default"
  objectKey := "manifests/media/asset-a/version-a/image-default.json"
  publishedAt := 50
  schemaVersion := "v1"

/-- The publication of the thumbnail to a scope. -/
def samplePublish (deliveryScopeId : String) : PublicationCall :=
  .publish "version-a" deliveryScopeId [sampleThumbnail deliveryScopeId]
    (sampleImageManifest deliveryScopeId)

/-- The states of the image stores along a list of calls. -/
def samplePublicationTrace (calls : List PublicationCall) :
    List (Transition (PublicationPair CanonicalSourceIdentity) PublicationCall) :=
  trace (PublicationCall.run sampleRuntime imagePublicationStore) samplePublicationPair calls

/-- The thumbnail is published once and read back. -/
theorem thumbnail_publication_agrees :
    samplePublicationPair.Initial imagePublicationStore ∧
    ∀ τ ∈ samplePublicationTrace [.begin "version-a", samplePublish "scope-1",
        .listPublishedDerivatives "version-a", .readManifest "version-a" "image-default" "scope-1"],
      τ.action.Agree sampleRuntime imagePublicationStore τ.before ∧
        ∀ id, (τ.after.memory.getVersion id).map (·.lifecycleState) =
          (τ.after.db.findPublicationVersion id).map (·.version.lifecycleState) := by
  refine ⟨samplePublicationPair_initial,
    publication_stores_agree .image samplePublicationPair_initial
    (trace_run (PublicationCall.run sampleRuntime imagePublicationStore) samplePublicationPair _)
    ?_ ?_⟩
  · intro τ hτ
    simp only [samplePublicationTrace, trace, List.mem_cons, List.not_mem_nil, or_false] at hτ
    rcases hτ with rfl | rfl | rfl | rfl
    · trivial
    · intro row hrow
      obtain rfl := Option.some.inj hrow
      exact ⟨_, List.mem_cons_self, rfl, rfl⟩
    · trivial
    · trivial
  · intro τ hτ
    simp only [samplePublicationTrace, trace, List.mem_cons, List.not_mem_nil, or_false] at hτ
    rcases hτ with rfl | rfl | rfl | rfl
    · intro row hrow
      obtain rfl := Option.some.inj hrow
      exact nofun
    · intro row _ _
      exact
        { keys := ⟨fun _ _ _ hr => (by cases hr), fun d hd d' hd' => by
            rw [List.mem_singleton.mp hd, List.mem_singleton.mp hd']
            exact ⟨fun _ => rfl, fun _ => rfl⟩⟩
          version := fun d hd => by rw [List.mem_singleton.mp hd]; rfl
          readsBack := fun d hd => by
            rw [List.mem_singleton.mp hd]
            exact fun _ hm => (by cases hm)
          text := fun _ hr => (by cases hr)
          manifestVersion := rfl
          manifestScope := rfl
          payload := ⟨[], rfl, rfl⟩ }
    · trivial
    · intro r hr _
      obtain rfl := List.mem_singleton.mp hr
      rfl

/-- **The stores diverge.** A workflow begins a publication, fails, and begins it again: the
in-memory store refuses the version, which is processing, and the Prisma store accepts it.
And a thumbnail is published to two scopes under one deterministic key: the in-memory store
accepts both, and the Prisma store refuses the second. -/
theorem retried_publication_diverges :
    samplePublicationPair.Initial imagePublicationStore ∧
      (¬ ∀ τ ∈ samplePublicationTrace [.begin "version-a", .begin "version-a"],
        τ.action.Agree sampleRuntime imagePublicationStore τ.before) ∧
      ¬ ∀ τ ∈ samplePublicationTrace [.begin "version-a", samplePublish "scope-1",
          samplePublish "scope-2"],
        τ.action.Agree sampleRuntime imagePublicationStore τ.before := by
  refine ⟨samplePublicationPair_initial, fun hagree => ?_, fun hagree => ?_⟩
  · have hretry := hagree _ (List.mem_cons_of_mem _ List.mem_cons_self)
    have hoks := congrArg Except.isOk hretry
    exact absurd hoks (by decide +kernel)
  · have hsecond := hagree _
      (List.mem_cons_of_mem _ (List.mem_cons_of_mem _ List.mem_cons_self))
    have hoks := congrArg Except.isOk hsecond
    exact absurd hoks (by decide +kernel)

end Cdngine
