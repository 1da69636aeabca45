import Mathlib.Data.Set.Function
import Cdngine.RuntimeRestarts

/-!
# Staged Objects of the Local Runtime

With a state directory, `LocalRuntimeStagingBlobStore` keeps the bytes of every staged object in a
file of its own, named by the digest of its key, and what it knows of the objects in its state file.
Neither write is atomic, and a process may stop at any point of the file operations of an upload or
a deletion.

An object is *torn* once an upload or a deletion of its key has been stopped, until the key is
uploaded or deleted again in full. The objects that are not torn are the ones that
`headObject` and `getObject` describe as their bytes are, in every process.

## Main results

* `StagedStore.Sound.step`: one event keeps the objects that are not torn as their bytes are.
* `staged_objects_intact`: what `headObject` says of an object that is not torn is true of the
  bytes that `getObject` reads, after every run of any number of processes.
-/

namespace Cdngine

open FileCrashes InsertionMaps Readers Runs

/-! ### The store -/

/-- The property of an object of a map. -/
def StoredValue.field (key : String) : StoredValue → StoredValue
  | .object entries => (entries.lookup key).getD .undefined
  | _ => .undefined

/-- `objectPath`. -/
def objectPath (rt : Runtime) (objectKey : String) : String :=
  "objects/" ++ rt.sha256Hex (writeText objectKey) ++ ".blob"

/-- What `writeObject` puts into the map for some bytes. -/
def stagedObject (rt : Runtime) (bytes : List UInt8) (contentType : String) : StoredValue :=
  .object [("byteLength", .number (.finite bytes.length)),
    ("checksum",
      .object [("algorithm", .string "sha256"), ("value", .string (rt.sha256Hex bytes))]),
    ("contentType", .string contentType)]

/-- The objects of the store. -/
abbrev StagedObjects := InsertionMap String StoredValue

/-- The file operations of `save`, none where it throws. -/
def saveStagedObjects (rt : Runtime) (objects : StagedObjects) : List (FileOp String UInt8) :=
  (stagingStateFile.save rt fun _ => objects).getD []

/-- The map after `writeObject`. -/
def StagedObjects.write (rt : Runtime) (objects : StagedObjects) (objectKey : String)
    (bytes : List UInt8) (contentType : String) : StagedObjects :=
  objects.set objectKey (stagedObject rt bytes contentType)

/-- The file operations of `writeObject`. -/
def writeObject (rt : Runtime) (objects : StagedObjects) (objectKey : String) (bytes : List UInt8)
    (contentType : String) : List (FileOp String UInt8) :=
  .write (objectPath rt objectKey) bytes ::
    saveStagedObjects rt (objects.write rt objectKey bytes contentType)

/-- The file operations of `deleteObject`. -/
def deleteObject (rt : Runtime) (objects : StagedObjects) (objectKey : String) :
    List (FileOp String UInt8) :=
  .remove (objectPath rt objectKey) :: saveStagedObjects rt (objects.delete objectKey)

/-- What a process does with the store, and where it stops. -/
inductive StagedEvent
  | start
  | write (objectKey : String) (bytes : List UInt8) (contentType : String)
  | delete (objectKey : String)
  | stop
  | stopInWrite (objectKey : String) (bytes : List UInt8) (contentType : String) (p : StopPoint)
  | stopInDelete (objectKey : String) (p : StopPoint)

/-- The files, and the objects of the process that runs. -/
structure StagedStore where
  directory : Directory String UInt8
  objects : Option StagedObjects

namespace StagedStore

/-- A store with an empty state directory. -/
def initial : StagedStore := ⟨fun _ => none, none⟩

/-- One event of the store. -/
def step (rt : Runtime) (s : StagedStore) : StagedEvent → Option StagedStore
  | .start =>
      match s.objects, stagingStateFile.restart rt (s.directory stagingStateFile.path) with
      | none, .ok maps => some { s with objects := some (maps ()) }
      | none, .error _ => some s
      | some _, _ => none
  | .write objectKey bytes contentType =>
      s.objects.bind fun objects =>
        (runOps s.directory (writeObject rt objects objectKey bytes contentType)).map fun d =>
          ⟨d, some (objects.write rt objectKey bytes contentType)⟩
  | .delete objectKey =>
      s.objects.bind fun objects =>
        (runOps s.directory (deleteObject rt objects objectKey)).map fun d =>
          ⟨d, some (objects.delete objectKey)⟩
  | .stop => s.objects.map fun _ => { s with objects := none }
  | .stopInWrite objectKey bytes contentType p =>
      s.objects.bind fun objects =>
        (stopIn (writeObject rt objects objectKey bytes contentType) p s.directory).map fun d =>
          ⟨d, none⟩
  | .stopInDelete objectKey p =>
      s.objects.bind fun objects =>
        (stopIn (deleteObject rt objects objectKey) p s.directory).map fun d => ⟨d, none⟩

/-- `getObject`: an object with its bytes. -/
def getObject (rt : Runtime) (s : StagedStore) (objectKey : String) :
    Option (StoredValue × List UInt8) :=
  s.objects.bind fun objects =>
    (objects.get? objectKey).bind fun object =>
      (s.directory (objectPath rt objectKey)).map fun bytes => (object, bytes)

/-- `headObject`, the byte count as it is kept. -/
def headObject (s : StagedStore) (objectKey : String) : Option StoredValue :=
  s.objects.bind fun objects =>
    (objects.get? objectKey).map fun object =>
      .object [("bucket", .string "cdngine-ingest"),
        ("byteLength", object.field "byteLength"),
        ("checksum", object.field "checksum"),
        ("etag", (object.field "checksum").field "value"),
        ("key", .string ("ingest/" ++ objectKey))]

/-- `getUploadOffset`. -/
def getUploadOffset (s : StagedStore) (objectKey : String) : StoredValue :=
  ((s.objects.bind fun objects => objects.get? objectKey).map fun object =>
    object.field "byteLength").getD (.number (.finite 0))

end StagedStore

/-- The keys that are torn after an event. -/
def tornBy (torn : List String) : StagedEvent → List String
  | .write objectKey _ _ => torn.filter (· ≠ objectKey)
  | .delete objectKey => torn.filter (· ≠ objectKey)
  | .stopInWrite objectKey _ _ _ => objectKey :: torn
  | .stopInDelete objectKey _ => objectKey :: torn
  | .start => torn
  | .stop => torn

/-- The key of an event is one of some keys, and what it writes has a length that a number
holds. -/
def StagedEvent.Within (keys : Set String) : StagedEvent → Prop
  | .write objectKey bytes _ => objectKey ∈ keys ∧ bytes.length < 2 ^ 53
  | .delete objectKey => objectKey ∈ keys
  | .stopInWrite objectKey bytes _ _ => objectKey ∈ keys ∧ bytes.length < 2 ^ 53
  | .stopInDelete objectKey _ => objectKey ∈ keys
  | .start => True
  | .stop => True

/-! ### Objects that a restart finds -/

variable {rt : Runtime}

/-- What the map says of an object comes back over a restart. -/
theorem storable_stagedObject {bytes : List UInt8} (h : bytes.length < 2 ^ 53)
    (contentType : String) : (stagedObject rt bytes contentType).Storable rt := by
  have hlength : (Json.number (bytes.length : Rat)).Readable rt :=
    readable_number (Rat.den_natCast _) (by rw [Rat.num_natCast]; exact h)
  have hchecksum : (StoredValue.object [("algorithm", .string "sha256"),
      ("value", .string (rt.sha256Hex bytes))]).Storable rt := by
    have hkeys : ["algorithm", "value"].Nodup := by decide
    refine ⟨hkeys, ?_, trivial, trivial, trivial⟩
    rintro ⟨htype, -⟩
    cases htype with
    | inl h => cases h
    | inr h => cases h
  have hkeys : ["byteLength", "checksum", "contentType"].Nodup := by decide
  exact ⟨hkeys, fun hmark => hmark.2 rfl, hlength, hchecksum, trivial, trivial⟩

theorem kept_stagedObject (bytes : List UInt8) (contentType : String) :
    (stagedObject rt bytes contentType).kept = stagedObject rt bytes contentType := rfl

/-- Every object of a map is described as some bytes, which are in its file unless it is torn. -/
def StagedObjects.Sound (rt : Runtime) (keys : Set String) (torn : List String)
    (d : Directory String UInt8) (objects : StagedObjects) : Prop :=
  ∀ e ∈ objects.entries, e.1 ∈ keys ∧ ∃ bytes contentType, bytes.length < 2 ^ 53 ∧
    e.2 = stagedObject rt bytes contentType ∧ (e.1 ∉ torn → d (objectPath rt e.1) = some bytes)

/-- The maps of a process and of the file are sound. -/
structure StagedStore.Sound (rt : Runtime) (keys : Set String) (torn : List String)
    (s : StagedStore) : Prop where
  objects : ∀ objects ∈ s.objects, StagedObjects.Sound rt keys torn s.directory objects
  file : ∃ view : FileView Unit,
    view.Holds stagingStateFile rt (s.directory stagingStateFile.path) ∧
      ∀ maps, view = .whole maps → StagedObjects.Sound rt keys torn s.directory (maps ())

variable {keys : Set String} {torn torn' : List String} {d d' : Directory String UInt8}
  {objects : StagedObjects} {objectKey contentType : String} {bytes : List UInt8}

theorem StagedObjects.Sound.storable (h : objects.Sound rt keys torn d) :
    RuntimeMaps.Storable rt fun _ : Unit => objects := by
  intro i e he
  obtain ⟨-, bytes, contentType, hlength, hvalue, -⟩ := h e he
  rw [hvalue]
  exact storable_stagedObject hlength contentType

theorem StagedObjects.Sound.kept (h : objects.Sound rt keys torn d) :
    objects.mapValues StoredValue.kept = objects := by
  have hentries : objects.entries.map (fun e => (e.1, e.2.kept)) = objects.entries := by
    refine map_eq_self_iff.mpr fun e he => ?_
    obtain ⟨-, bytes, contentType, -, hvalue, -⟩ := h e he
    rw [hvalue, kept_stagedObject, ← hvalue]
  cases objects
  rw [InsertionMap.mapValues, InsertionMap.mk.injEq]
  exact hentries

/-- What the operations of one key leave as it is. -/
structure Beside (rt : Runtime) (keys : Set String) (objectKey : String) (torn torn' : List String)
    (d d' : Directory String UInt8) : Prop where
  files : ∀ key ∈ keys, key ≠ objectKey → d' (objectPath rt key) = d (objectPath rt key)
  torn : ∀ key, key ≠ objectKey → key ∉ torn' → key ∉ torn

theorem StagedObjects.Sound.beside (h : objects.Sound rt keys torn d)
    (hbeside : Beside rt keys objectKey torn torn' d d') (htorn : objectKey ∈ torn') :
    objects.Sound rt keys torn' d' := by
  intro e he
  obtain ⟨hkey, bytes, contentType, hlength, hvalue, hfile⟩ := h e he
  refine ⟨hkey, bytes, contentType, hlength, hvalue, fun hwhole => ?_⟩
  have hne : e.1 ≠ objectKey := fun heq => hwhole (heq ▸ htorn)
  rw [hbeside.files e.1 hkey hne]
  exact hfile (hbeside.torn e.1 hne hwhole)

/-- A map after an upload, of which the file is written unless the object is torn. -/
theorem StagedObjects.Sound.write (h : objects.Sound rt keys torn d)
    (hbeside : Beside rt keys objectKey torn torn' d d') (hkey : objectKey ∈ keys)
    (hlength : bytes.length < 2 ^ 53)
    (hfile : objectKey ∉ torn' → d' (objectPath rt objectKey) = some bytes) :
    (objects.write rt objectKey bytes contentType).Sound rt keys torn' d' := by
  intro e he
  cases InsertionMap.mem_set he with
  | inl hnew =>
      rw [hnew]
      exact ⟨hkey, bytes, contentType, hlength, rfl, hfile⟩
  | inr hold =>
      obtain ⟨hmem, hne⟩ := hold
      obtain ⟨hkey', bytes', contentType', hlength', hvalue, hfile'⟩ := h e hmem
      refine ⟨hkey', bytes', contentType', hlength', hvalue, fun hwhole => ?_⟩
      rw [hbeside.files e.1 hkey' hne]
      exact hfile' (hbeside.torn e.1 hne hwhole)

/-- A map after a deletion. -/
theorem StagedObjects.Sound.delete (h : objects.Sound rt keys torn d)
    (hbeside : Beside rt keys objectKey torn torn' d d') :
    StagedObjects.Sound rt keys torn' d' (InsertionMap.delete objects objectKey) := by
  intro e he
  obtain ⟨hmem, hne⟩ := InsertionMap.mem_delete he
  obtain ⟨hkey, bytes, contentType, hlength, hvalue, hfile⟩ := h e hmem
  refine ⟨hkey, bytes, contentType, hlength, hvalue, fun hwhole => ?_⟩
  rw [hbeside.files e.1 hkey hne]
  exact hfile (hbeside.torn e.1 hne hwhole)

/-! ### File operations -/

/-- The file of an object is not the state file, nor the one by way of which that is replaced. -/
theorem objectPath_ne (rt : Runtime) (key : String) :
    objectPath rt key ≠ stagingStateFile.path ∧
      objectPath rt key ≠ stagingStateFile.path ++ ".tmp" := by
  have hhead : (objectPath rt key).toList.head? = some 'o' := by
    rw [objectPath, String.toList_append, String.toList_append]
    rfl
  have hpath : stagingStateFile.path.toList.head? = some 's' := by decide
  have hscratch : (stagingStateFile.path ++ ".tmp").toList.head? = some 's' := by decide
  constructor
  · intro heq
    rw [heq, hpath] at hhead
    cases hhead
  · intro heq
    rw [heq, hscratch] at hhead
    cases hhead

/-- The operations of `save` on a sound map. -/
theorem saveStagedObjects_eq (h : objects.Sound rt keys torn d) :
    saveStagedObjects rt objects = replaceFile (stagingStateFile.path ++ ".tmp")
      stagingStateFile.path (stagingStateFile.bytes rt fun _ => objects) := by
  rw [saveStagedObjects, save_of_storable h.storable, Option.getD_some]

/-- Where nothing has been done yet, everything is as it was. -/
theorem beside_self (rt : Runtime) (keys : Set String) (objectKey : String) (torn : List String)
    (d : Directory String UInt8) : Beside rt keys objectKey torn (objectKey :: torn) d d where
  files _ _ _ := rfl
  torn _ _ hwhole htorn := hwhole (List.mem_cons_of_mem _ htorn)

theorem target_replaceFile {scratch name : String} {content : List UInt8}
    {op : FileOp String UInt8} (h : op ∈ replaceFile scratch name content) :
    op.target = scratch ∨ op.target = name := by
  simp only [replaceFile, List.mem_cons, List.not_mem_nil, or_false] at h
  rcases h with rfl | rfl | rfl | rfl
  · exact .inl rfl
  · exact .inr rfl
  · exact .inr rfl
  · exact .inl rfl

section Updates

variable {op : FileOp String UInt8} {content : List UInt8}

/-- An update of one key does not change the files of the others. -/
theorem targets_update (hpaths : Set.InjOn (objectPath rt) keys) (hkey : objectKey ∈ keys)
    (hop : op.target = objectPath rt objectKey) {key : String} (hmem : key ∈ keys)
    (hne : key ≠ objectKey) :
    ∀ op' ∈ op :: replaceFile (stagingStateFile.path ++ ".tmp") stagingStateFile.path content,
      op'.target ≠ objectPath rt key := by
  refine List.forall_mem_cons.mpr ⟨?_, fun op' hop' => ?_⟩
  · rw [hop]
    exact fun heq => hne (hpaths hmem hkey heq.symm)
  · cases target_replaceFile hop' with
    | inl hscratch => exact fun heq => (objectPath_ne rt key).2 (heq.symm.trans hscratch)
    | inr hpath => exact fun heq => (objectPath_ne rt key).1 (heq.symm.trans hpath)

/-- What the state file holds after an update of one key that stops. -/
theorem holds_stopped {view : FileView Unit} {p : StopPoint}
    (h : view.Holds stagingStateFile rt (d stagingStateFile.path)) {maps : RuntimeMaps Unit}
    (hmaps : maps.Storable rt) (hop : op.target = objectPath rt objectKey)
    (hstop : stopIn (op :: replaceFile (stagingStateFile.path ++ ".tmp") stagingStateFile.path
      (stagingStateFile.bytes rt maps)) p d = some d') :
    ∃ view' : FileView Unit, view'.Holds stagingStateFile rt (d' stagingStateFile.path) ∧
      ∀ maps', view' = .whole maps' → view = .whole maps' ∨ maps' = maps := by
  have htarget : op.target ≠ stagingStateFile.path := hop ▸ (objectPath_ne rt objectKey).1
  obtain ⟨done, written⟩ := p
  cases done with
  | zero =>
      have hfile : d' stagingStateFile.path = d stagingStateFile.path := by
        cases written with
        | none =>
            obtain rfl := Option.some.inj hstop
            rfl
        | some n => exact run_other htarget (.inr ⟨n, hstop⟩)
      exact ⟨view, hfile ▸ h, fun maps' hview => .inl hview⟩
  | succ done =>
      rw [stopIn_cons] at hstop
      obtain ⟨d₁, hrun, hrest⟩ := Option.bind_eq_some_iff.mp hstop
      have hfile : d₁ stagingStateFile.path = d stagingStateFile.path :=
        run_other htarget (.inl hrun)
      have hbefore : view.Holds stagingStateFile rt (d₁ stagingStateFile.path) := hfile ▸ h
      obtain ⟨d₂, hrest', hholds⟩ := holds_afterStop hbefore hmaps ⟨done, written⟩
      obtain rfl := Option.some.inj (hrest'.symm.trans hrest)
      refine ⟨_, hholds, fun maps' hview => ?_⟩
      rw [FileView.afterStop] at hview
      split at hview
      · exact .inl hview
      · split at hview
        · split at hview
          · cases hview
          · cases hview
        · exact .inr (FileView.whole.inj hview).symm

/-- The directory after an update of one key. -/
theorem runOps_update (rt : Runtime) (objectKey : String)
    (hrun : runOps d (op :: replaceFile (stagingStateFile.path ++ ".tmp") stagingStateFile.path
      content) = some d') :
    d' stagingStateFile.path = some content ∧
      ∀ d₁, op.run d = some d₁ →
        d' (objectPath rt objectKey) = d₁ (objectPath rt objectKey) := by
  rw [runOps, List.foldlM_cons] at hrun
  obtain ⟨d₁, hfirst, hrest⟩ := Option.bind_eq_some_iff.mp hrun
  have hreplaced := runOps_replaceFile (d := d₁) (path_ne stagingStateFile) content
  obtain rfl := Option.some.inj (hreplaced.symm.trans hrest)
  constructor
  · rw [Function.update_of_ne (path_ne stagingStateFile).symm, Function.update_self]
  · intro d₂ hfirst'
    obtain rfl := Option.some.inj (hfirst.symm.trans hfirst')
    rw [Function.update_of_ne (objectPath_ne rt objectKey).2,
      Function.update_of_ne (objectPath_ne rt objectKey).1]

end Updates

/-! ### Steps and runs -/

namespace StagedStore

variable {s s' : StagedStore}

/-- A process that is started finds sound objects. -/
theorem Sound.start (h : s.Sound rt keys torn) (hstep : s.step rt .start = some s') :
    s'.Sound rt keys torn := by
  obtain ⟨view, hholds, hview⟩ := h.file
  rw [StagedStore.step, restart_of_holds hholds] at hstep
  cases hobjects : s.objects with
  | some objects =>
      rw [hobjects] at hstep
      cases hstep
  | none =>
      cases hrestart : view.restart with
      | error e =>
          rw [hobjects, hrestart] at hstep
          obtain rfl := Option.some.inj hstep
          exact h
      | ok maps =>
          rw [hobjects, hrestart] at hstep
          obtain rfl := Option.some.inj hstep
          refine ⟨fun objects hobjects' => ?_, view, hholds, hview⟩
          obtain rfl := Option.some.inj hobjects'
          cases view with
          | missing =>
              obtain rfl := Except.ok.inj hrestart
              exact fun e he => absurd he List.not_mem_nil
          | whole maps' =>
              obtain rfl := Except.ok.inj hrestart
              have hsound := hview maps' rfl
              have hkept : maps'.kept () = maps' () := hsound.kept
              rw [hkept]
              exact hsound
          | cut => cases hrestart

/-- What the operations of one key leave as it is, where all of them are done. -/
theorem beside_done {op : FileOp String UInt8} {content : List UInt8}
    (hpaths : Set.InjOn (objectPath rt) keys) (hkey : objectKey ∈ keys)
    (hop : op.target = objectPath rt objectKey)
    (hrun : runOps d (op :: replaceFile (stagingStateFile.path ++ ".tmp") stagingStateFile.path
      content) = some d') :
    Beside rt keys objectKey torn (torn.filter (· ≠ objectKey)) d d' where
  files _ hmem hne := runOps_other (targets_update hpaths hkey hop hmem hne) hrun
  torn _ hne hwhole htorn :=
    hwhole (List.mem_filter.mpr ⟨htorn, decide_eq_true hne⟩)

/-- What the operations of one key leave as it is, where they stop. -/
theorem beside_stopped {op : FileOp String UInt8} {content : List UInt8} {p : StopPoint}
    (hpaths : Set.InjOn (objectPath rt) keys) (hkey : objectKey ∈ keys)
    (hop : op.target = objectPath rt objectKey)
    (hstop : stopIn (op :: replaceFile (stagingStateFile.path ++ ".tmp") stagingStateFile.path
      content) p d = some d') :
    Beside rt keys objectKey torn (objectKey :: torn) d d' where
  files _ hmem hne := stopIn_other (targets_update hpaths hkey hop hmem hne) hstop
  torn _ _ hwhole htorn := hwhole (List.mem_cons_of_mem _ htorn)

/-- The operations of one key on a map, and the map after them. -/
structure Updates (rt : Runtime) (keys : Set String) (torn : List String) (s : StagedStore)
    (objectKey : String) (op : FileOp String UInt8) (objects' : StagedObjects) : Prop where
  key : objectKey ∈ keys
  target : op.target = objectPath rt objectKey
  sound : ∀ {torn' d'}, Beside rt keys objectKey torn torn' s.directory d' →
    (objectKey ∉ torn' → ∀ d₁, op.run s.directory = some d₁ →
      d' (objectPath rt objectKey) = d₁ (objectPath rt objectKey)) →
    StagedObjects.Sound rt keys torn' d' objects'

section Updates

variable {op : FileOp String UInt8} {objects' : StagedObjects}

/-- The map after the operations of one key is saved. -/
theorem Updates.save_eq (hupdate : Updates rt keys torn s objectKey op objects') :
    saveStagedObjects rt objects' = replaceFile (stagingStateFile.path ++ ".tmp")
      stagingStateFile.path (stagingStateFile.bytes rt fun _ => objects') :=
  saveStagedObjects_eq (hupdate.sound (beside_self rt keys objectKey torn s.directory)
    fun hwhole => absurd List.mem_cons_self hwhole)

/-- All operations of one key are done. -/
theorem Sound.done (hpaths : Set.InjOn (objectPath rt) keys)
    (hupdate : Updates rt keys torn s objectKey op objects')
    (hrun : runOps s.directory (op :: saveStagedObjects rt objects') = some d') :
    StagedStore.Sound rt keys (torn.filter (· ≠ objectKey)) ⟨d', some objects'⟩ := by
  rw [hupdate.save_eq] at hrun
  have hbeside : Beside rt keys objectKey torn (torn.filter (· ≠ objectKey)) s.directory d' :=
    beside_done hpaths hupdate.key hupdate.target hrun
  obtain ⟨hfile, hobject⟩ := runOps_update rt objectKey hrun
  have hsound := hupdate.sound hbeside fun _ => hobject
  refine ⟨fun objects'' hobjects'' => ?_, .whole fun _ => objects', ⟨hsound.storable, hfile⟩,
    fun maps hmaps => ?_⟩
  · obtain rfl := Option.some.inj hobjects''
    exact hsound
  · obtain rfl := FileView.whole.inj hmaps
    exact hsound

/-- The operations of one key stop. -/
theorem Sound.stopped {p : StopPoint} (hpaths : Set.InjOn (objectPath rt) keys)
    (h : s.Sound rt keys torn) (hupdate : Updates rt keys torn s objectKey op objects')
    (hstop : stopIn (op :: saveStagedObjects rt objects') p s.directory = some d') :
    StagedStore.Sound rt keys (objectKey :: torn) ⟨d', none⟩ := by
  rw [hupdate.save_eq] at hstop
  have hbeside : Beside rt keys objectKey torn (objectKey :: torn) s.directory d' :=
    beside_stopped hpaths hupdate.key hupdate.target hstop
  have hsound := hupdate.sound hbeside fun hwhole => absurd List.mem_cons_self hwhole
  obtain ⟨view, hholds, hview⟩ := h.file
  obtain ⟨view', hholds', hview'⟩ := holds_stopped hholds hsound.storable hupdate.target hstop
  refine ⟨fun objects'' hobjects'' => (by cases hobjects''), view', hholds', fun maps hmaps => ?_⟩
  cases hview' maps hmaps with
  | inl hold => exact (hview maps hold).beside hbeside List.mem_cons_self
  | inr hnew =>
      rw [hnew]
      exact hsound

end Updates

/-- The operations of an upload. -/
theorem updates_write (h : objects.Sound rt keys torn s.directory) (hkey : objectKey ∈ keys)
    (hlength : bytes.length < 2 ^ 53) :
    Updates rt keys torn s objectKey (.write (objectPath rt objectKey) bytes)
      (objects.write rt objectKey bytes contentType) where
  key := hkey
  target := rfl
  sound hbeside hfile := h.write hbeside hkey hlength fun hwhole =>
    (hfile hwhole _ rfl).trans (Function.update_self _ _ _)

/-- The operations of a deletion. -/
theorem updates_delete (h : objects.Sound rt keys torn s.directory) (hkey : objectKey ∈ keys) :
    Updates rt keys torn s objectKey (.remove (objectPath rt objectKey))
      (objects.delete objectKey) where
  key := hkey
  target := rfl
  sound hbeside _ := h.delete hbeside

/-- **One event keeps the objects that are not torn as their bytes are.** -/
theorem Sound.step {a : StagedEvent} (hpaths : Set.InjOn (objectPath rt) keys)
    (h : s.Sound rt keys torn) (hstep : s.step rt a = some s') (ha : a.Within keys) :
    s'.Sound rt keys (tornBy torn a) := by
  cases a with
  | start => exact h.start hstep
  | stop =>
      obtain ⟨objects, -, rfl⟩ := Option.map_eq_some_iff.mp hstep
      exact ⟨fun objects' hobjects' => (by cases hobjects'), h.file⟩
  | write objectKey bytes contentType =>
      obtain ⟨objects, hobjects, hwrite⟩ := Option.bind_eq_some_iff.mp hstep
      obtain ⟨d, hrun, rfl⟩ := Option.map_eq_some_iff.mp hwrite
      exact Sound.done hpaths (updates_write (h.objects objects hobjects) ha.1 ha.2) hrun
  | delete objectKey =>
      obtain ⟨objects, hobjects, hdelete⟩ := Option.bind_eq_some_iff.mp hstep
      obtain ⟨d, hrun, rfl⟩ := Option.map_eq_some_iff.mp hdelete
      exact Sound.done hpaths (updates_delete (h.objects objects hobjects) ha) hrun
  | stopInWrite objectKey bytes contentType p =>
      obtain ⟨objects, hobjects, hwrite⟩ := Option.bind_eq_some_iff.mp hstep
      obtain ⟨d, hstop, rfl⟩ := Option.map_eq_some_iff.mp hwrite
      exact h.stopped hpaths (updates_write (h.objects objects hobjects) ha.1 ha.2) hstop
  | stopInDelete objectKey p =>
      obtain ⟨objects, hobjects, hdelete⟩ := Option.bind_eq_some_iff.mp hstep
      obtain ⟨d, hstop, rfl⟩ := Option.map_eq_some_iff.mp hdelete
      exact h.stopped hpaths (updates_delete (h.objects objects hobjects) ha) hstop

/-- The steps of the store. -/
abbrev Steps (rt : Runtime) (s : StagedStore) (a : StagedEvent) (s' : StagedStore) : Prop :=
  s.step rt a = some s'

theorem sound_initial : initial.Sound rt keys [] where
  objects := fun objects hobjects => by cases hobjects
  file := ⟨.missing, rfl, fun maps hmaps => by cases hmaps⟩

/-- The objects of a store are as their bytes are after every run. -/
theorem sound_of_run {tr : List (Transition StagedStore StagedEvent)}
    (hpaths : Set.InjOn (objectPath rt) keys) (hrun : Run (Steps rt) initial tr s')
    (hkeys : ∀ x ∈ tr, x.action.Within keys) :
    s'.Sound rt keys ((tr.map Transition.action).foldl tornBy []) := by
  have hsteps : ∀ {s : StagedStore} {torn : List String} {a : StagedEvent} {s' : StagedStore},
      s.Sound rt keys torn → Steps rt s a s' → a.Within keys → s'.Sound rt keys (tornBy torn a) :=
    fun {_ _ _ _} h hstep ha => h.step hpaths hstep ha
  exact hrun.simulates_where (R := fun s torn => s.Sound rt keys torn)
    (C := fun x : Transition StagedStore StagedEvent => x.action.Within keys) hsteps
    sound_initial hkeys

end StagedStore

open StagedStore

/-- **What is said of an object that is not torn is true of its bytes**, after every run of any
number of processes: where `headObject` finds it, `getObject` reads bytes of the length, the digest
and the entity tag that `headObject` gives. -/
theorem staged_objects_intact {s : StagedStore} {tr : List (Transition StagedStore StagedEvent)}
    (hpaths : Set.InjOn (objectPath rt) keys) (hrun : Run (Steps rt) .initial tr s)
    (hkeys : ∀ x ∈ tr, x.action.Within keys)
    (hwhole : objectKey ∉ (tr.map Transition.action).foldl tornBy [])
    {head : StoredValue} (hhead : s.headObject objectKey = some head) :
    ∃ bytes contentType,
      s.getObject rt objectKey = some (stagedObject rt bytes contentType, bytes) ∧
      s.getUploadOffset objectKey = .number (.finite bytes.length) ∧
      head = .object [("bucket", .string "cdngine-ingest"),
        ("byteLength", .number (.finite bytes.length)),
        ("checksum", .object [("algorithm", .string "sha256"),
          ("value", .string (rt.sha256Hex bytes))]),
        ("etag", .string (rt.sha256Hex bytes)), ("key", .string ("ingest/" ++ objectKey))] := by
  have hsound := sound_of_run hpaths hrun hkeys
  obtain ⟨objects, hobjects, hmap⟩ := Option.bind_eq_some_iff.mp hhead
  obtain ⟨object, hobject, rfl⟩ := Option.map_eq_some_iff.mp hmap
  obtain ⟨-, bytes, contentType, -, hvalue, hfile⟩ :=
    hsound.objects objects hobjects _ (InsertionMap.mem_of_get? hobject)
  have hvalue' : object = stagedObject rt bytes contentType := hvalue
  refine ⟨bytes, contentType, ?_, ?_, ?_⟩
  · rw [getObject, hobjects, Option.bind_some, hobject, Option.bind_some, hfile hwhole,
      Option.map_some, hvalue']
  · rw [getUploadOffset, hobjects, Option.bind_some, hobject, hvalue']
    rfl
  · rw [hvalue']
    rfl

/-- An object of three bytes that has been uploaded. -/
theorem sample_staged_objects_intact :
    ∃ (s : StagedStore) (bytes : List UInt8) (contentType : String),
      s.getObject sampleRuntime "ast_1/ver_1/cube.stl" =
        some (stagedObject sampleRuntime bytes contentType, bytes) := by
  have hstart : StagedStore.initial.step sampleRuntime .start =
      some ⟨fun _ => none, some .empty⟩ := rfl
  have hmaps : RuntimeMaps.Storable sampleRuntime fun _ : Unit =>
      StagedObjects.write sampleRuntime .empty "ast_1/ver_1/cube.stl" [1, 2, 3] "model/stl" := by
    intro i e he
    obtain rfl := List.mem_singleton.mp he
    exact storable_stagedObject (by decide) _
  obtain ⟨s, hwrite, hobjects⟩ : ∃ s : StagedStore,
      StagedStore.step sampleRuntime ⟨fun _ => none, some .empty⟩
        (.write "ast_1/ver_1/cube.stl" [1, 2, 3] "model/stl") = some s ∧
        s.objects = some (StagedObjects.write sampleRuntime .empty "ast_1/ver_1/cube.stl"
          [1, 2, 3] "model/stl") := by
    rw [StagedStore.step, Option.bind_some, writeObject, saveStagedObjects,
      save_of_storable hmaps, Option.getD_some]
    exact ⟨_, congrArg (Option.map _)
      (runOps_replaceFile (path_ne stagingStateFile) _), rfl⟩
  have hhead : ∃ head, s.headObject "ast_1/ver_1/cube.stl" = some head := by
    rw [headObject, hobjects]
    exact ⟨_, rfl⟩
  obtain ⟨head, hhead⟩ := hhead
  have hkeys : ∀ a ∈ [StagedEvent.start,
      .write "ast_1/ver_1/cube.stl" [1, 2, 3] "model/stl"],
      a.Within {"ast_1/ver_1/cube.stl"} := by
    refine List.forall_mem_cons.mpr ⟨trivial, List.forall_mem_singleton.mpr ⟨rfl, by decide⟩⟩
  have hwhole : "ast_1/ver_1/cube.stl" ∉ [StagedEvent.start,
      .write "ast_1/ver_1/cube.stl" [1, 2, 3] "model/stl"].foldl tornBy [] := by decide
  obtain ⟨bytes, contentType, hget, -⟩ := staged_objects_intact
    (Set.injOn_singleton _ "ast_1/ver_1/cube.stl") (.cons hstart (.cons hwrite (.nil s)))
    (List.forall_mem_cons.mpr ⟨hkeys _ List.mem_cons_self,
      List.forall_mem_singleton.mpr (hkeys _ (List.mem_cons_of_mem _ List.mem_cons_self))⟩)
    hwhole hhead
  exact ⟨s, bytes, contentType, hget⟩

end Cdngine
