import Cdngine.FileCrashes
import Cdngine.PersistedValues
import Cdngine.SourceMigration
import Cdngine.Utf8

/-!
# State Files of the Local Runtime

With a state directory, the local runtime keeps its upload sessions and its staged objects over a
restart: each of the two stores writes its maps to a JSON file of its own and restores them when it
is created.

The two files are one `StateFile`, with the names of their maps as the parameter. Where a map is
missing in a file it is restored as an empty one; a file of another schema version, one that is no
JSON and one whose entries cannot be restored let the runtime fail to start.

## Main results

* `restoreMap_entries`: what is restored of the entries of a map.
* `restart_content_iff`: what a restart makes of the file that a store has written.
* `store_survives_restart_iff`: exactly the stores of storable values come back.
-/

namespace Cdngine

open FileCrashes InsertionMaps Readers

/-! ### Maps -/

/-- The entries of `mapToPersistedEntries`. -/
def persistedPairs : List (String × StoredValue) → Option (List JsValue)
  | [] => some []
  | (key, value) :: entries =>
      (encodePersistedValue value).bind fun v =>
        (persistedPairs entries).map (.array [.string key, v] :: ·)

/-- `mapToPersistedEntries`. -/
def mapToPersistedEntries (map : InsertionMap String StoredValue) : Option JsValue :=
  (persistedPairs map.entries).map .array

/-- One entry of `restoreMap`; `none` where it throws, and also for an entry whose key is no text,
which the code restores under that key and no store writes. -/
def restoreEntry (map : InsertionMap String StoredValue) :
    JsValue → Option (InsertionMap String StoredValue)
  | .array [.string key] => some (map.set key .undefined)
  | .array (.string key :: value :: _) => (decodePersistedValue value).map (map.set key)
  | _ => none

/-- `restoreMap`, into a map that has been cleared; `none` where it throws, and also for a text,
whose characters the code takes for entries and no store writes. -/
def restoreMap : JsValue → Option (InsertionMap String StoredValue)
  | .undefined => some .empty
  | .null => some .empty
  | .array items => items.foldlM restoreEntry .empty
  | _ => none

/-! ### Files -/

/-- The text that `readFileSync` reads. -/
def readText (bytes : List UInt8) : List Char :=
  (Utf8.decodeScalars .initial bytes).map Char.ofNat

/-- The bytes that `writeFileSync` writes. -/
def writeText (text : String) : List UInt8 :=
  (text.toList.map Char.toNat).flatMap Utf8.encodeScalar

/-- Why the runtime does not start. -/
inductive LoadError
  | invalidJson
  | unsupportedSchema (message : String)
  | notRestored
  deriving DecidableEq, Repr

/-- `readJsonFile`. -/
def readJsonFile : Option (List UInt8) → Except LoadError JsValue
  | none => .ok .null
  | some bytes =>
      match parseJson (readText bytes) with
      | some value => .ok value
      | none => .error .invalidJson

/-- The file operations of `writeJsonFile`, once the text is there. -/
def writeJsonFile (filePath : String) (content : List UInt8) : List (FileOp String UInt8) :=
  replaceFile (filePath ++ ".tmp") filePath content

/-- `!value`. -/
def JsValue.isFalsy : JsValue → Bool
  | .undefined => true
  | .null => true
  | .boolean b => !b
  | .number n => n == .finite 0 || n == .nan
  | .bigint n => n == 0
  | .string s => s.isEmpty
  | .array _ => false
  | .object _ => false

/-- `value === n`. -/
def JsValue.isNumber (q : Rat) : JsValue → Bool
  | .number n => n == .finite q
  | _ => false

/-- `RUNTIME_STATE_SCHEMA_VERSION`. -/
def runtimeStateSchemaVersion : Rat := 1

/-! ### Stores -/

/-- A JSON file with the maps of a store, by their names. -/
structure StateFile (ι : Type) where
  path : String
  label : String
  maps : List ι
  name : ι → String
  complete : ∀ i, i ∈ maps
  distinct : ("schemaVersion" :: maps.map name).Nodup

/-- The maps of a store. -/
abbrev RuntimeMaps (ι : Type) := ι → InsertionMap String StoredValue

namespace StateFile

variable {ι : Type} (f : StateFile ι) (rt : Runtime)

/-- A store that has just been created. -/
def initial : RuntimeMaps ι := fun _ => .empty

/-- The entries of the object that `save` writes. -/
def persistedMaps (maps : RuntimeMaps ι) : List ι → Option (List (String × JsValue))
  | [] => some []
  | i :: is =>
      (mapToPersistedEntries (maps i)).bind fun entries =>
        (persistedMaps maps is).map ((f.name i, entries) :: ·)

/-- The object that `save` writes. -/
def document (maps : RuntimeMaps ι) : Option JsValue :=
  (f.persistedMaps maps f.maps).map fun entries =>
    .object (("schemaVersion", .number (.finite runtimeStateSchemaVersion)) :: entries)

/-- The bytes that `save` writes; `none` where it throws before that. -/
def content (maps : RuntimeMaps ι) : Option (List UInt8) :=
  (f.document maps).bind fun v =>
    (serialized v).map fun j => writeText (stringifyIndented rt 0 j)

/-- `save`. -/
def save (maps : RuntimeMaps ι) : Option (List (FileOp String UInt8)) :=
  (f.content rt maps).map (writeJsonFile f.path)

/-- The maps that `load` restores. -/
def restoreMaps (persisted : JsValue) : Option (RuntimeMaps ι) :=
  if f.maps.all (fun i => (restoreMap (persisted.property (f.name i))).isSome) then
    some fun i => (restoreMap (persisted.property (f.name i))).getD .empty
  else none

/-- `load`. -/
def load (persisted : JsValue) : Except LoadError (RuntimeMaps ι) :=
  if persisted.isFalsy then .ok initial
  else if !(persisted.property "schemaVersion").isNumber runtimeStateSchemaVersion then
    .error (.unsupportedSchema ("Unsupported local runtime " ++ f.label ++ " state schema: " ++
      (persisted.property "schemaVersion").toText rt))
  else
    match f.restoreMaps persisted with
    | some maps => .ok maps
    | none => .error .notRestored

/-- A store that is created where the file has a content. -/
def restart (content : Option (List UInt8)) : Except LoadError (RuntimeMaps ι) :=
  (readJsonFile content).bind (f.load rt)

end StateFile

/-- The maps of `FileBackedUploadSessionIssuanceStore`. -/
inductive UploadSessionMap
  | assets
  | versionsById
  | versionsByAssetId
  | uploadSessions
  | idempotencyRecords
  | publishedDerivatives
  | publishedManifests

/-- The name of a map in the file. -/
def UploadSessionMap.fileKey : UploadSessionMap → String
  | .assets => "assets"
  | .versionsById => "versionsById"
  | .versionsByAssetId => "versionsByAssetId"
  | .uploadSessions => "uploadSessions"
  | .idempotencyRecords => "idempotencyRecords"
  | .publishedDerivatives => "publishedDerivatives"
  | .publishedManifests => "publishedManifests"

/-- The file of `FileBackedUploadSessionIssuanceStore`. -/
def uploadSessionStateFile : StateFile UploadSessionMap where
  path := "upload-session-store.json"
  label := "upload-session"
  maps := [.assets, .versionsById, .versionsByAssetId, .uploadSessions, .idempotencyRecords,
    .publishedDerivatives, .publishedManifests]
  name := UploadSessionMap.fileKey
  complete i := by cases i <;> simp
  distinct := by decide

/-- The file of `LocalRuntimeStagingBlobStore`, with its only map. -/
def stagingStateFile : StateFile Unit where
  path := "staging-objects.json"
  label := "staging"
  maps := [()]
  name _ := "objects"
  complete _ := List.mem_singleton_self ()
  distinct := by decide

/-! ### What is written -/

/-- The value whose encoding a map is written as. -/
def entriesValue (entries : List (String × StoredValue)) : StoredValue :=
  .array (entries.map fun e => .array [.string e.1, e.2])

theorem persistedPairs_eq (entries : List (String × StoredValue)) :
    persistedPairs entries =
      encodePersistedItems (entries.map fun e => .array [.string e.1, e.2]) := by
  induction entries with
  | nil => rfl
  | cons entry entries ih =>
      obtain ⟨key, v⟩ := entry
      rw [persistedPairs, List.map_cons, encodePersistedItems, ← ih, encodePersistedValue]
      cases hv : encodePersistedValue v with
      | none =>
          have hitems : encodePersistedItems [.string key, v] = none := by
            simp only [encodePersistedItems, hv, Option.bind_none, encodePersistedValue,
              Option.bind_some, Option.map_none]
          rw [hitems]
          rfl
      | some e =>
          have hitems : encodePersistedItems [.string key, v] = some [.string key, e] := by
            simp only [encodePersistedItems, hv, encodePersistedValue, Option.bind_some,
              Option.map_some]
          rw [hitems]
          rfl

theorem mapToPersistedEntries_eq (map : InsertionMap String StoredValue) :
    mapToPersistedEntries map = encodePersistedValue (entriesValue map.entries) := by
  rw [mapToPersistedEntries, persistedPairs_eq, entriesValue, encodePersistedValue]

namespace StateFile

variable {ι : Type} {f : StateFile ι} {rt : Runtime} {maps : RuntimeMaps ι}

/-- The value whose encoding a store is written as. -/
def value (f : StateFile ι) (maps : RuntimeMaps ι) : StoredValue :=
  .object (("schemaVersion", .number (.finite runtimeStateSchemaVersion)) ::
    f.maps.map fun i => (f.name i, entriesValue (maps i).entries))

theorem persistedMaps_eq (is : List ι) :
    f.persistedMaps maps is =
      encodePersistedEntries (is.map fun i => (f.name i, entriesValue (maps i).entries)) := by
  induction is with
  | nil => rfl
  | cons i is ih =>
      rw [persistedMaps, List.map_cons, encodePersistedEntries, ← ih, mapToPersistedEntries_eq]

theorem document_eq : f.document maps = encodePersistedValue (f.value maps) := by
  have hversion : encodePersistedValue (.number (.finite runtimeStateSchemaVersion)) =
      some (.number (.finite runtimeStateSchemaVersion)) := rfl
  rw [document, persistedMaps_eq, value, encodePersistedValue, encodePersistedEntries, hversion,
    Option.bind_some, Option.map_map]
  rfl

/-- The bytes of a store whose values are encoded. -/
theorem content_eq_some_iff {bytes : List UInt8} :
    f.content rt maps = some bytes ↔
      (∃ e, encodePersistedValue (f.value maps) = some e) ∧
        bytes = writeText (stringifyIndented rt 0 (f.value maps).saved) := by
  rw [content, document_eq]
  constructor
  · intro h
    obtain ⟨e, he, hwritten⟩ := Option.bind_eq_some_iff.mp h
    rw [serialized_of_encode he, Option.map_some] at hwritten
    exact ⟨⟨e, he⟩, (Option.some.inj hwritten).symm⟩
  · rintro ⟨⟨e, he⟩, rfl⟩
    rw [he, Option.bind_some, serialized_of_encode he, Option.map_some]

/-! ### What is restored -/

/-- What is restored of the entries of a map. -/
def restoredMap (map : InsertionMap String StoredValue) :
    Option (InsertionMap String StoredValue) :=
  (decodePersistedEntries (map.entries.map fun e => (e.1, e.2.saved.toJs))).map
    InsertionMap.empty.setAll

theorem foldlM_restoreEntry (entries : List (String × JsValue))
    (map : InsertionMap String StoredValue) :
    (entries.map fun e => JsValue.array [.string e.1, e.2]).foldlM restoreEntry map =
      (decodePersistedEntries entries).map map.setAll := by
  induction entries generalizing map with
  | nil => rfl
  | cons entry entries ih =>
      obtain ⟨key, v⟩ := entry
      rw [List.map_cons, List.foldlM_cons, restoreEntry, decodePersistedEntries]
      cases decodePersistedValue v with
      | none => rfl
      | some w =>
          rw [Option.map_some, Option.bind_some, Option.map_map]
          exact ih (map.set key w)

/-- **What is restored of the entries of a map.** -/
theorem restoreMap_entries (map : InsertionMap String StoredValue) :
    restoreMap (entriesValue map.entries).saved.toJs = restoredMap map := by
  have hpairs : (entriesValue map.entries).saved.toJs =
      .array ((map.entries.map fun e => (e.1, e.2.saved.toJs)).map fun e =>
        .array [.string e.1, e.2]) := by
    rw [entriesValue, StoredValue.saved, savedItems_eq_map, Json.toJs, itemsToJs_eq_map,
      List.map_map, List.map_map, List.map_map]
    rfl
  rw [hpairs, restoreMap, foldlM_restoreEntry, restoredMap]

/-- What the parsed file of a store is. -/
theorem value_toJs : (f.value maps).saved.toJs =
    .object (("schemaVersion", .number (.finite runtimeStateSchemaVersion)) ::
      f.maps.map fun i => (f.name i, (entriesValue (maps i).entries).saved.toJs)) := by
  have hpresent : presentEntries (("schemaVersion",
      StoredValue.number (.finite runtimeStateSchemaVersion)) ::
        f.maps.map fun i => (f.name i, entriesValue (maps i).entries)) =
      ("schemaVersion", .number (.finite runtimeStateSchemaVersion)) ::
        f.maps.map fun i => (f.name i, entriesValue (maps i).entries) := by
    refine List.filter_eq_self.mpr (List.forall_mem_cons.mpr ⟨rfl, ?_⟩)
    exact List.forall_mem_map.mpr fun i _ => rfl
  rw [value, StoredValue.saved, savedEntries_eq_map, hpresent, Json.toJs, entriesToJs_eq_map,
    List.map_map, List.map_cons, List.map_map]
  rfl

theorem property_value (i : ι) : (f.value maps).saved.toJs.property (f.name i) =
    (entriesValue (maps i).entries).saved.toJs := by
  have hkeys : ((("schemaVersion", JsValue.number (.finite runtimeStateSchemaVersion)) ::
      f.maps.map fun i => (f.name i, (entriesValue (maps i).entries).saved.toJs)).map
        Prod.fst).Nodup := by
    rw [List.map_cons, List.map_map]
    exact f.distinct
  have hmem : (f.name i, (entriesValue (maps i).entries).saved.toJs) ∈
      ("schemaVersion", JsValue.number (.finite runtimeStateSchemaVersion)) ::
        f.maps.map fun i => (f.name i, (entriesValue (maps i).entries).saved.toJs) :=
    List.mem_cons_of_mem _ (List.mem_map.mpr ⟨i, f.complete i, rfl⟩)
  rw [value_toJs, JsValue.property, lookup_of_mem_nodup hkeys hmem, Option.getD_some]

/-- **What is loaded of the parsed file of a store**, map by map. -/
theorem load_value_iff {maps' : RuntimeMaps ι} :
    f.load rt (f.value maps).saved.toJs = .ok maps' ↔
      ∀ i, restoredMap (maps i) = some (maps' i) := by
  have hversion : ((f.value maps).saved.toJs.property "schemaVersion").isNumber
      runtimeStateSchemaVersion = true := by
    rw [value_toJs, JsValue.property, List.lookup_cons_self, Option.getD_some, JsValue.isNumber]
    exact beq_self_eq_true _
  have hfalsy : (f.value maps).saved.toJs.isFalsy = false := by
    rw [value_toJs]
    rfl
  have hmap : ∀ i, restoreMap ((f.value maps).saved.toJs.property (f.name i)) =
      restoredMap (maps i) := fun i => by
    rw [property_value, restoreMap_entries]
  have hload : f.load rt (f.value maps).saved.toJs = .ok maps' ↔
      f.restoreMaps (f.value maps).saved.toJs = some maps' := by
    rw [load, hfalsy, if_neg Bool.false_ne_true, hversion, Bool.not_true,
      if_neg Bool.false_ne_true]
    cases f.restoreMaps (f.value maps).saved.toJs with
    | none => exact iff_of_false (fun h => by cases h) (fun h => by cases h)
    | some maps'' => rw [Except.ok.injEq, Option.some.injEq]
  rw [hload, restoreMaps]
  simp only [hmap]
  by_cases hall : f.maps.all (fun i => (restoredMap (maps i)).isSome) = true
  · rw [if_pos hall, Option.some.injEq]
    constructor
    · rintro rfl i
      obtain ⟨map, hrestored⟩ :=
        Option.isSome_iff_exists.mp (List.all_eq_true.mp hall i (f.complete i))
      change _ = some ((restoredMap (maps i)).getD .empty)
      rw [hrestored, Option.getD_some]
    · intro h
      funext i
      rw [h i, Option.getD_some]
  · rw [if_neg hall]
    refine iff_of_false (fun h => by cases h) fun h => hall (List.all_eq_true.mpr fun i _ => ?_)
    rw [h i, Option.isSome_some]

end StateFile

/-! ### Texts are read back -/

theorem isScalar_of_char (c : Char) : Utf8.IsScalar c.toNat := by
  cases c.valid with
  | inl h => exact .inl h
  | inr h => exact .inr ⟨h.1, h.2⟩

theorem readText_writeText (text : String) : readText (writeText text) = text.toList := by
  have hscalars : ∀ cp ∈ text.toList.map Char.toNat, Utf8.IsScalar cp :=
    List.forall_mem_map.mpr fun c _ => isScalar_of_char c
  rw [readText, writeText, Utf8.decodeScalars_flatMap hscalars, List.map_map]
  exact map_eq_self_iff.mpr fun c _ => Char.ofNat_toNat c

/-! ### Stores that come back -/

/-- The maps without what JSON does not have. -/
def RuntimeMaps.kept {ι : Type} (maps : RuntimeMaps ι) : RuntimeMaps ι :=
  fun i => (maps i).mapValues StoredValue.kept

/-- Every value of the maps is legible. -/
def RuntimeMaps.Legible {ι : Type} (rt : Runtime) (maps : RuntimeMaps ι) : Prop :=
  ∀ i, ∀ e ∈ (maps i).entries, e.2.Legible rt

/-- Every value of the maps is storable. -/
def RuntimeMaps.Storable {ι : Type} (rt : Runtime) (maps : RuntimeMaps ι) : Prop :=
  ∀ i, ∀ e ∈ (maps i).entries, e.2.Storable rt

variable {ι : Type} {f : StateFile ι} {rt : Runtime} {maps maps' : RuntimeMaps ι}

theorem RuntimeMaps.Storable.legible (h : maps.Storable rt) : maps.Legible rt :=
  fun i e he => (h i e he).legible

theorem storable_entriesValue {entries : List (String × StoredValue)}
    (h : ∀ e ∈ entries, e.2.Storable rt) : (entriesValue entries).Storable rt := by
  rw [entriesValue, StoredValue.Storable, itemsStorable_iff]
  exact List.forall_mem_map.mpr fun e he => ⟨trivial, h e he, trivial⟩

theorem legible_entriesValue {entries : List (String × StoredValue)}
    (h : ∀ e ∈ entries, e.2.Legible rt) : (entriesValue entries).Legible rt := by
  rw [entriesValue, StoredValue.Legible, itemsLegible_iff]
  exact List.forall_mem_map.mpr fun e he => ⟨trivial, h e he, trivial⟩

theorem readable_schemaVersion (rt : Runtime) :
    (Json.number runtimeStateSchemaVersion).Readable rt :=
  readable_number rfl (by decide)

namespace StateFile

theorem keys_value (f : StateFile ι) (maps : RuntimeMaps ι) :
    ((("schemaVersion", StoredValue.number (.finite runtimeStateSchemaVersion)) ::
      f.maps.map fun i => (f.name i, entriesValue (maps i).entries)).map Prod.fst).Nodup := by
  rw [List.map_cons, List.map_map]
  exact f.distinct

theorem legible_value (h : maps.Legible rt) : (f.value maps).Legible rt := by
  rw [value, StoredValue.Legible, entriesLegible_iff]
  refine ⟨f.keys_value maps, List.forall_mem_cons.mpr ⟨readable_schemaVersion rt, ?_⟩⟩
  exact List.forall_mem_map.mpr fun i _ => legible_entriesValue (h i)

theorem storable_value (h : maps.Storable rt) : (f.value maps).Storable rt := by
  rw [value, StoredValue.Storable, entriesStorable_iff]
  refine ⟨f.keys_value maps, ?_, List.forall_mem_cons.mpr ⟨readable_schemaVersion rt, ?_⟩⟩
  · rintro ⟨-, hvalue⟩
    obtain ⟨text, htext⟩ := Option.ne_none_iff_exists'.mp hvalue
    cases List.mem_cons.mp (mem_of_lookup (textUnder_eq_some htext)) with
    | inl heq => cases (Prod.mk.inj heq).2
    | inr hmem =>
        obtain ⟨i, -, heq⟩ := List.mem_map.mp hmem
        cases (Prod.mk.inj heq).2
  · exact List.forall_mem_map.mpr fun i _ => storable_entriesValue (h i)

/-- A store of storable values is written. -/
theorem content_of_storable (h : maps.Storable rt) :
    f.content rt maps = some (writeText (stringifyIndented rt 0 (f.value maps).saved)) :=
  content_eq_some_iff.mpr ⟨exists_encode (storable_value h), rfl⟩

/-- The text of a store is read back. -/
theorem parseJson_value (h : maps.Legible rt) :
    parseJson (stringifyIndented rt 0 (f.value maps).saved).toList =
      some (f.value maps).saved.toJs :=
  parseJson_stringifyIndented (readable_saved (legible_value h))

/-- **What a restart makes of the file that a store has written**, map by map. -/
theorem restart_content_iff (h : maps.Legible rt) {bytes : List UInt8}
    (hcontent : f.content rt maps = some bytes) :
    f.restart rt (some bytes) = .ok maps' ↔ ∀ i, restoredMap (maps i) = some (maps' i) := by
  obtain ⟨-, rfl⟩ := content_eq_some_iff.mp hcontent
  have hread : readJsonFile (some (writeText (stringifyIndented rt 0 (f.value maps).saved))) =
      .ok (f.value maps).saved.toJs := by
    rw [readJsonFile, readText_writeText, parseJson_value h]
  rw [restart, hread]
  exact load_value_iff

/-- A map of storable values is restored. -/
theorem restoredMap_of_storable {map : InsertionMap String StoredValue}
    (h : ∀ e ∈ map.entries, e.2.Storable rt) :
    restoredMap map = some (map.mapValues StoredValue.kept) := by
  have hdecode : decodePersistedEntries (map.entries.map fun e => (e.1, e.2.saved.toJs)) =
      some (map.entries.map fun e => (e.1, e.2.kept)) :=
    decodePersistedEntries_of fun e he => decode_saved (h e he)
  rw [restoredMap, hdecode, Option.map_some]
  exact congrArg some (InsertionMap.setAll_entries (map.mapValues StoredValue.kept))

/-- A store of storable values comes back without what JSON does not have. -/
theorem restart_of_storable (h : maps.Storable rt) {bytes : List UInt8}
    (hcontent : f.content rt maps = some bytes) :
    f.restart rt (some bytes) = .ok maps.kept :=
  (restart_content_iff h.legible hcontent).mpr fun i => restoredMap_of_storable (h i)

/-- The values of a store that has been written were encoded. -/
theorem encode_of_content {bytes : List UInt8} (h : f.content rt maps = some bytes) (i : ι) :
    ∀ e ∈ (maps i).entries, ∃ v, encodePersistedValue e.2 = some v := by
  intro e he
  obtain ⟨⟨document, hdocument⟩, -⟩ := content_eq_some_iff.mp h
  obtain ⟨entries, hentries, -⟩ := Option.map_eq_some_iff.mp hdocument
  have hmap : (f.name i, entriesValue (maps i).entries) ∈
      ("schemaVersion", StoredValue.number (.finite runtimeStateSchemaVersion)) ::
        f.maps.map fun i => (f.name i, entriesValue (maps i).entries) :=
    List.mem_cons_of_mem _ (List.mem_map.mpr ⟨i, f.complete i, rfl⟩)
  obtain ⟨array, harray⟩ := exists_encode_of_mem_entries hentries _ hmap
  obtain ⟨items, hitems, -⟩ := Option.map_eq_some_iff.mp harray
  obtain ⟨pair, hpair⟩ := exists_encode_of_mem hitems _ (List.mem_map.mpr ⟨e, he, rfl⟩)
  obtain ⟨parts, hparts, -⟩ := Option.map_eq_some_iff.mp hpair
  exact exists_encode_of_mem hparts e.2 (List.mem_cons_of_mem _ (List.mem_singleton_self e.2))

/-- Where a map comes back without what JSON does not have, so do its values. -/
theorem decode_of_restoredMap {map : InsertionMap String StoredValue}
    (h : restoredMap map = some (map.mapValues StoredValue.kept)) :
    ∀ e ∈ map.entries, decodePersistedValue e.2.saved.toJs = some e.2.kept := by
  obtain ⟨vs, hvs, hset⟩ := Option.map_eq_some_iff.mp h
  have hentries := decodePersistedEntries_eq_some hvs
  have hkeys : vs.map Prod.fst = map.entries.map Prod.fst := by
    have hfst := congrArg (List.map Prod.fst) hentries
    rw [List.map_map, List.map_map] at hfst
    exact hfst.symm
  have hnodup : (vs.map Prod.fst).Nodup := hkeys ▸ map.nodup
  have hback : InsertionMap.empty.setAll vs = ⟨vs, hnodup⟩ :=
    InsertionMap.setAll_entries ⟨vs, hnodup⟩
  have hvalues : vs = map.entries.map fun e => (e.1, e.2.kept) :=
    congrArg InsertionMap.entries (hback.symm.trans hset)
  rw [hvalues, List.map_map] at hentries
  exact fun e he => congrArg Prod.snd (List.map_inj_left.mp hentries e he)

end StateFile

/-- **A store comes back over a restart exactly if its values are storable**: as its maps without
what JSON does not have, with every key in its place. -/
theorem store_survives_restart_iff (f : StateFile ι) (h : maps.Legible rt) :
    (f.content rt maps).map (fun bytes => f.restart rt (some bytes)) = some (.ok maps.kept) ↔
      maps.Storable rt := by
  constructor
  · intro hback i e he
    obtain ⟨bytes, hcontent, hrestart⟩ := Option.map_eq_some_iff.mp hback
    have hmaps := (StateFile.restart_content_iff h hcontent).mp hrestart i
    exact (persisted_eq_kept_iff (h i e he)).mp (persisted_eq_some_iff.mpr
      ⟨StateFile.encode_of_content hcontent i e he, StateFile.decode_of_restoredMap hmaps e he⟩)
  · intro hstorable
    rw [StateFile.content_of_storable hstorable, Option.map_some, StateFile.restart_of_storable
      hstorable (StateFile.content_of_storable hstorable)]

/-- An upload session of ten bytes, whose expected length is not given. -/
def sampleStoredSession : StoredValue :=
  .object [("assetId", .string "ast_1"),
    ("byteLength", .bigint 10),
    ("canonicalByteLength", .undefined),
    ("checksum", .object [("algorithm", .string "sha256"), ("value", .string "9f")]),
    ("expiresAt", .date (some ⟨1767225600000, by decide⟩))]

/-- A store with one upload session. -/
def sampleUploadSessionMaps : RuntimeMaps UploadSessionMap
  | .uploadSessions => InsertionMap.empty.set "upl_1" sampleStoredSession
  | .versionsByAssetId => InsertionMap.empty.set "ast_1" (.array [.string "ver_1"])
  | _ => .empty

/-- The values of the sample store come back. -/
theorem storable_sampleUploadSessionMaps : sampleUploadSessionMaps.Storable sampleRuntime := by
  have hunmarked : ∀ entries, textUnder "value" entries = none → ¬ Marked entries :=
    fun entries h hmark => hmark.2 h
  have hchecksum : (StoredValue.object [("algorithm", .string "sha256"),
      ("value", .string "9f")]).Storable sampleRuntime := by
    refine ⟨by decide, ?_, trivial, trivial, trivial⟩
    rintro ⟨htype, -⟩
    cases htype with
    | inl h => cases h
    | inr h => cases h
  have hsession : sampleStoredSession.Storable sampleRuntime :=
    ⟨by decide, hunmarked _ rfl, trivial, trivial, trivial, hchecksum, rfl, trivial⟩
  intro i e he
  cases i with
  | uploadSessions =>
      obtain rfl := List.mem_singleton.mp he
      exact hsession
  | versionsByAssetId =>
      obtain rfl := List.mem_singleton.mp he
      exact ⟨trivial, trivial⟩
  | _ => exact absurd he List.not_mem_nil

/-- The sample store comes back with its session. -/
theorem sample_store_survives_restart :
    (uploadSessionStateFile.content sampleRuntime sampleUploadSessionMaps).map
        (fun bytes => uploadSessionStateFile.restart sampleRuntime (some bytes)) =
      some (.ok sampleUploadSessionMaps.kept) :=
  (store_survives_restart_iff uploadSessionStateFile
    storable_sampleUploadSessionMaps.legible).mpr storable_sampleUploadSessionMaps

end Cdngine
