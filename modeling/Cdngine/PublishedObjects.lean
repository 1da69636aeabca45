import Cdngine.MemoryPublication
import Cdngine.PublicationPhases
import Cdngine.Runs
import Cdngine.WorkerRuntime

/-!
# Published Rows and the Derived Store

Publications of any versions to any delivery scopes, each of them cut short anywhere, interleaved
step by step: an execution begins, sends its writes to the derived store one at a time, and
publishes what it prepared. A write replaces the object of its place, also when the rows that name
this place were published before, and it stays when its execution does not come to publish.

## Ghost log

The writes are kept newest first (`PublicationSystem.writes`). No step reads the log: the object of
a written place is the one that the log has first (`Inv.objects`).

## Main results

* `PublicationSystem.exists_run_workflow`: a workflow is a run of the system.
* `published_rows_name_objects`: in every run a published row records a write, and the object of its
  place is this write or one that replaced it later.
-/

open Relational Runs

namespace Cdngine

/-! ### Objects -/

/-- An object of the derived store: what it was written with, and the bytes that arrived. -/
structure StoredObject extends PublishObjectInput where
  bytes : List UInt8
  deriving DecidableEq

/-- What a write leaves in the store, `streamed` being what a body that is read yields. -/
def PublishObjectInput.stored (streamed : List UInt8) (write : PublishObjectInput) : StoredObject :=
  { write with bytes := write.body.toBytes streamed }

/-- The length and the digest that an object was written with are those of its bytes. -/
def StoredObject.Honest (rt : Runtime) (object : StoredObject) : Prop :=
  (object.byteLength, object.checksum) = byteIntegrity rt object.bytes

/-- What was prepared names objects that were written. -/
structure PreparedPublication.StoredBy (address : String → PublishedObject)
    (objects : List StoredObject) (prepared : PreparedPublication) : Prop where
  derivatives : ∀ derivative ∈ prepared.derivatives,
    ∃ object ∈ objects, derivative.Names address object.toPublishObjectInput
  manifest : ∃ object ∈ objects, prepared.manifest.Names address object.toPublishObjectInput

theorem PreparedPublication.StoredBy.mono {address : String → PublishedObject}
    {prepared : PreparedPublication} {objects objects' : List StoredObject}
    (h : prepared.StoredBy address objects) (hsub : objects ⊆ objects') :
    prepared.StoredBy address objects' where
  derivatives derivative hderivative :=
    let ⟨object, hobject, hnames⟩ := h.derivatives derivative hderivative
    ⟨object, hsub hobject, hnames⟩
  manifest :=
    let ⟨object, hobject, hnames⟩ := h.manifest
    ⟨object, hsub hobject, hnames⟩

/-- What names the writes of a workflow names what they leave. -/
theorem PreparedPublication.WrittenBy.stored {address : String → PublishedObject}
    {prepared : PreparedPublication} {writes : List PublishObjectInput}
    (h : prepared.WrittenBy address writes) (streamed : List UInt8) :
    prepared.StoredBy address (writes.map (PublishObjectInput.stored streamed)) where
  derivatives derivative hderivative :=
    let ⟨write, hwrite, hnames⟩ := h.derivatives derivative hderivative
    ⟨write.stored streamed, List.mem_map_of_mem hwrite, hnames⟩
  manifest :=
    let ⟨write, hwrite, hnames⟩ := h.manifest
    ⟨write.stored streamed, List.mem_map_of_mem hwrite, hnames⟩

/-! ### Rows -/

/-- A derivative row names an object of the store, and has its length and its digest. -/
structure Derivative.Names (address : String → PublishedObject) (row : Derivative)
    (write : PublishObjectInput) : Prop where
  storageBucket : row.storageBucket = some (address write.objectKey).bucket
  storageKey : row.storageKey = some (address write.objectKey).key
  byteLength : row.byteLength = write.byteLength
  checksumValue : row.checksumValue = some write.checksum.value

/-- A manifest row names an object of the store, and has its digest. -/
structure AssetManifest.Names (address : String → PublishedObject) (row : AssetManifest)
    (write : PublishObjectInput) : Prop where
  objectKey : row.objectKey = (address write.objectKey).key
  checksumValue : row.checksumValue = some write.checksum.value

/-- Every published row of a registry names one of the writes. -/
structure Db.NamesWrites (address : String → PublishedObject) (writes : List StoredObject)
    (db : Db) : Prop where
  derivatives : ∀ row ∈ db.derivatives.rows,
    ∃ write ∈ writes, row.Names address write.toPublishObjectInput
  manifests : ∀ row ∈ db.assetManifests.rows,
    ∃ write ∈ writes, row.Names address write.toPublishObjectInput

section Rows

variable {ε : Type} {store : PublicationStore ε} {rt : Runtime} {db db' : Db}
  {address : String → PublishedObject} {writes : List StoredObject}

theorem Db.NamesWrites.mono {writes' : List StoredObject} (h : db.NamesWrites address writes)
    (hsub : writes ⊆ writes') : db.NamesWrites address writes' where
  derivatives row hrow :=
    let ⟨write, hwrite, hnames⟩ := h.derivatives row hrow
    ⟨write, hsub hwrite, hnames⟩
  manifests row hrow :=
    let ⟨write, hwrite, hnames⟩ := h.manifests row hrow
    ⟨write, hsub hwrite, hnames⟩

theorem Db.NamesWrites.of_rows_eq (h : db.NamesWrites address writes)
    (hderivatives : db'.derivatives = db.derivatives)
    (hmanifests : db'.assetManifests = db.assetManifests) : db'.NamesWrites address writes where
  derivatives := hderivatives ▸ h.derivatives
  manifests := hmanifests ▸ h.manifests

/-- A begin leaves the published rows as they are. -/
theorem PublicationStore.begin_namesWrites {versionId : String} {record : CanonicalVersionRecord ε}
    (h : store.begin versionId db = .ok (record, db')) (hdb : db.NamesWrites address writes) :
    db'.NamesWrites address writes := by
  obtain ⟨row, -, -, hstart, -⟩ := begin_cases h
  rw [startProcessing] at hstart
  split at hstart
  · cases hstart
    exact hdb
  · obtain ⟨t, -, rfl⟩ := write_eq_ok.mp hstart
    exact hdb.of_rows_eq rfl rfl

theorem PublicationStore.upsertDerivative_namesWrites {versionId : String}
    {derivative : PublishedDerivativeRecord}
    (h : store.upsertDerivative rt versionId db derivative = .ok db')
    (hdb : db.NamesWrites address writes)
    (hderivative : ∃ write ∈ writes, derivative.Names address write.toPublishObjectInput) :
    db'.NamesWrites address writes := by
  obtain ⟨write, hwrite, hnames⟩ := hderivative
  have hrow : ∀ row : Derivative, row.storageBucket = some derivative.storageBucket →
      row.storageKey = some derivative.storageKey → row.byteLength = derivative.byteLength →
      row.checksumValue = some derivative.checksumValue →
      ∃ write ∈ writes, row.Names address write.toPublishObjectInput :=
    fun row hbucket hkey hlength hchecksum =>
    ⟨write, hwrite,
      { storageBucket := hbucket.trans (congrArg some hnames.storageBucket)
        storageKey := hkey.trans (congrArg some hnames.storageKey)
        byteLength := hlength.trans hnames.byteLength
        checksumValue := hchecksum.trans (congrArg some hnames.checksumValue) }⟩
  obtain ⟨t, ht, rfl⟩ := write_eq_ok.mp h
  refine ⟨fun row hmem => ?_, hdb.manifests⟩
  rcases Table.upsert_eq_ok_iff.mp ht with ⟨-, hrows⟩ | ⟨-, -, hrows⟩
  · simp only [hrows, Table.mem_updatedRows] at hmem
    rcases hmem with ⟨r, -, -, rfl⟩ | ⟨hmem, -⟩
    · exact hrow _ rfl rfl rfl rfl
    · exact hdb.derivatives row hmem
  · simp only [hrows, List.mem_append, List.mem_singleton] at hmem
    rcases hmem with hmem | rfl
    · exact hdb.derivatives row hmem
    · exact hrow _ rfl rfl rfl rfl

theorem PublicationStore.upsertDerivatives_namesWrites {versionId : String}
    {derivatives : List PublishedDerivativeRecord}
    (h : store.upsertDerivatives rt versionId derivatives db = .ok db')
    (hdb : db.NamesWrites address writes)
    (hderivatives : ∀ derivative ∈ derivatives,
      ∃ write ∈ writes, derivative.Names address write.toPublishObjectInput) :
    db'.NamesWrites address writes := by
  induction derivatives generalizing db with
  | nil =>
      cases h
      exact hdb
  | cons derivative derivatives ih =>
      obtain ⟨hhead, htail⟩ := List.forall_mem_cons.mp hderivatives
      obtain ⟨db₁, h₁, h₂⟩ := bind_eq_ok.mp h
      exact ih h₂ (upsertDerivative_namesWrites h₁ hdb hhead) htail

theorem PublicationStore.upsertManifest_namesWrites {versionId deliveryScopeId : String}
    {manifest : PublishedManifestRecord}
    (h : upsertManifest rt versionId deliveryScopeId manifest db = .ok db')
    (hdb : db.NamesWrites address writes)
    (hmanifest : ∃ write ∈ writes, manifest.Names address write.toPublishObjectInput) :
    db'.NamesWrites address writes := by
  obtain ⟨write, hwrite, hnames⟩ := hmanifest
  have hrow : ∀ row : AssetManifest, row.objectKey = manifest.objectKey →
      row.checksumValue = some manifest.checksumValue →
      ∃ write ∈ writes, row.Names address write.toPublishObjectInput := fun row hkey hchecksum =>
    ⟨write, hwrite,
      { objectKey := hkey.trans hnames.objectKey
        checksumValue := hchecksum.trans (congrArg some hnames.checksumValue) }⟩
  obtain ⟨t, ht, rfl⟩ := write_eq_ok.mp h
  refine ⟨hdb.derivatives, fun row hmem => ?_⟩
  rcases Table.upsert_eq_ok_iff.mp ht with ⟨-, hrows⟩ | ⟨-, -, hrows⟩
  · simp only [hrows, Table.mem_updatedRows] at hmem
    rcases hmem with ⟨r, -, -, rfl⟩ | ⟨hmem, -⟩
    · exact hrow _ rfl rfl
    · exact hdb.manifests row hmem
  · simp only [hrows, List.mem_append, List.mem_singleton] at hmem
    rcases hmem with hmem | rfl
    · exact hdb.manifests row hmem
    · exact hrow _ rfl rfl

/-- A publication writes rows that name what was written. -/
theorem PublicationStore.publish_namesWrites {versionId deliveryScopeId : String}
    {prepared : PreparedPublication} {record : CanonicalVersionRecord ε}
    (h : store.publish rt versionId deliveryScopeId prepared.derivatives prepared.manifest db =
      .ok (record, db'))
    (hdb : db.NamesWrites address writes) (hprepared : prepared.StoredBy address writes) :
    db'.NamesWrites address writes := by
  obtain ⟨row, -, -, -, -, db₁, db₂, h₁, h₂, hupdate⟩ := publish_cases h
  have hdb₁ := upsertDerivatives_namesWrites h₁ hdb hprepared.derivatives
  have hdb₂ := upsertManifest_namesWrites h₂ hdb₁ hprepared.manifest
  obtain ⟨t, -, rfl⟩ := write_eq_ok.mp hupdate
  exact hdb₂.of_rows_eq rfl rfl

/-- A transaction keeps that rows name writes when it does so where it is committed. -/
theorem Interruption.transact_namesWrites {α : Type} {tx : Transaction α}
    (htx : ∀ a db', tx db = .ok (a, db') → db'.NamesWrites address writes)
    (hdb : db.NamesWrites address writes) (interruption : Interruption) :
    (interruption.transact tx db).2.NamesWrites address writes := by
  refine transact_keeps
    (R := fun db db' => db.NamesWrites address writes → db'.NamesWrites address writes)
    (fun _ => id) (fun hdb => ?_) interruption hdb
  rcases transact_snd tx db with ⟨a, h⟩ | h
  · exact htx a _ h
  · rw [h]
    exact hdb

theorem beginPhase_snd {observe : TargetEnvironment → String → CanonicalVersionRecord ε →
      Observed PublishObjectInput RegistryError PreparedPublication}
    {env : TargetEnvironment} {input : RunPublicationWorkflowInput} :
    (beginPhase store observe env input db).2 =
      (env.beginning.transact (store.begin input.versionId) db).2 := by
  rw [beginPhase]
  split
  · rename_i h
    rw [h]
  · rename_i h
    rw [h]

theorem publishPhase_snd {env : TargetEnvironment} {input : RunPublicationWorkflowInput}
    {prepared : PreparedPublication} :
    (publishPhase store rt env input prepared db).2 =
      (env.publishing.transact (store.publish rt input.versionId input.deliveryScopeId
        prepared.derivatives prepared.manifest) db).2 := by
  rw [publishPhase]
  split
  · rename_i h
    rw [h]
  · rename_i h
    rw [h]

theorem beginPhase_namesWrites {observe : TargetEnvironment → String → CanonicalVersionRecord ε →
      Observed PublishObjectInput RegistryError PreparedPublication}
    {env : TargetEnvironment} {input : RunPublicationWorkflowInput}
    (hdb : db.NamesWrites address writes) :
    (beginPhase store observe env input db).2.NamesWrites address writes := by
  rw [beginPhase_snd]
  exact Interruption.transact_namesWrites
    (fun _ _ h => PublicationStore.begin_namesWrites h hdb) hdb env.beginning

theorem publishPhase_namesWrites {env : TargetEnvironment} {input : RunPublicationWorkflowInput}
    {prepared : PreparedPublication} (hdb : db.NamesWrites address writes)
    (hprepared : prepared.StoredBy address writes) :
    (publishPhase store rt env input prepared db).2.NamesWrites address writes := by
  rw [publishPhase_snd]
  exact Interruption.transact_namesWrites
    (fun _ _ h => PublicationStore.publish_namesWrites h hdb hprepared) hdb env.publishing

/-- **Neither phase** leaves a row that names nothing that was written. -/
theorem PublicationKind.beginPhase_namesWrites (kind : PublicationKind) {env : TargetEnvironment}
    {input : RunPublicationWorkflowInput} (hdb : db.NamesWrites address writes) :
    (kind.beginPhase rt env input db).2.NamesWrites address writes := by
  cases kind with
  | genericAsset =>
      rw [PublicationKind.beginPhase]
      exact Cdngine.beginPhase_namesWrites hdb
  | image =>
      rw [PublicationKind.beginPhase]
      exact Cdngine.beginPhase_namesWrites hdb
  | presentation =>
      rw [PublicationKind.beginPhase]
      exact Cdngine.beginPhase_namesWrites hdb

theorem PublicationKind.publishPhase_namesWrites (kind : PublicationKind) {env : TargetEnvironment}
    {input : RunPublicationWorkflowInput} {prepared : PreparedPublication}
    (hdb : db.NamesWrites address writes) (hprepared : prepared.StoredBy address writes) :
    (kind.publishPhase rt env input prepared db).2.NamesWrites address writes := by
  cases kind with
  | genericAsset =>
      rw [PublicationKind.publishPhase]
      exact Cdngine.publishPhase_namesWrites hdb hprepared
  | image =>
      rw [PublicationKind.publishPhase]
      exact Cdngine.publishPhase_namesWrites hdb hprepared
  | presentation =>
      rw [PublicationKind.publishPhase]
      exact Cdngine.publishPhase_namesWrites hdb hprepared

end Rows

/-! ### The system -/

/-- The dependencies of an execution, over a store that keeps objects at `address`; `streamed` is
what the body of its processor yields, if it is to be read. -/
structure PublishingEnvironment (address : String → PublishedObject) extends TargetEnvironment where
  streamed : List UInt8 := []
  writesTo : toTargetEnvironment.WritesTo address

/-- What else happens in the registry: anything that leaves the published rows as they are. -/
structure RegistryChange where
  apply : Db → Db
  derivatives : ∀ db, (apply db).derivatives = db.derivatives
  manifests : ∀ db, (apply db).assetManifests = db.assetManifests

/-- An execution that has begun: what it has written, what is still to be written, and what the
preparation gives. -/
structure PublicationExecution where
  kind : PublicationKind
  env : TargetEnvironment
  input : RunPublicationWorkflowInput
  written : List StoredObject
  pending : List StoredObject
  result : Except RegistryError PreparedPublication

/-- The registry, the objects of the derived store by bucket and key, the executions in flight,
and the log of the writes. -/
structure PublicationSystem where
  db : Db
  objects : PublishedObject → Option StoredObject := fun _ => none
  executions : Nat → Option PublicationExecution := fun _ => none
  writes : List StoredObject := []

/-- A step of an execution, or of the registry. An execution may be stopped at any point: a write
that fails in the store has been made or not. -/
inductive PublicationAction (address : String → PublishedObject)
  | begin (execution : Nat) (kind : PublicationKind) (env : PublishingEnvironment address)
      (input : RunPublicationWorkflowInput)
  | write (execution : Nat)
  | publish (execution : Nat)
  | stop (execution : Nat)
  | change (registry : RegistryChange)

namespace PublicationSystem

variable (rt : Runtime) (address : String → PublishedObject)

/-- Where an execution is, or that it is over. -/
def setExecution (sys : PublicationSystem) (execution : Nat)
    (state : Option PublicationExecution) : PublicationSystem :=
  { sys with executions := Function.update sys.executions execution state }

/-- `publishObject` of the derived store, which replaces the object of its place. -/
def putObject (sys : PublicationSystem) (write : StoredObject) : PublicationSystem :=
  { sys with
    objects := Function.update sys.objects (address write.objectKey) (some write)
    writes := write :: sys.writes }

/-- A step; `none` where the execution is not at the point of it. -/
def next (sys : PublicationSystem) :
    PublicationAction address → Option PublicationSystem
  | .begin execution kind env input =>
      match sys.executions execution with
      | some _ => none
      | none =>
          match kind.beginPhase rt env.toTargetEnvironment input sys.db with
          | (.error _, db) => some { sys with db }
          | (.ok observed, db) =>
              some ({ sys with db }.setExecution execution
                (some ⟨kind, env.toTargetEnvironment, input, [],
                  observed.events.map (PublishObjectInput.stored env.streamed), observed.result⟩))
  | .write execution =>
      match sys.executions execution with
      | some { kind, env, input, written, pending := write :: pending, result } =>
          some ((sys.putObject address write).setExecution execution
            (some ⟨kind, env, input, write :: written, pending, result⟩))
      | _ => none
  | .publish execution =>
      match sys.executions execution with
      | some { kind, env, input, written := _, pending := [], result := .ok prepared } =>
          some ({ sys with db := (kind.publishPhase rt env input prepared sys.db).2 }.setExecution
            execution none)
      | _ => none
  | .stop execution => some (sys.setExecution execution none)
  | .change registry => some { sys with db := registry.apply sys.db }

/-- One step of the system. -/
def Step (sys : PublicationSystem) (action : PublicationAction address)
    (sys' : PublicationSystem) : Prop :=
  sys.next rt address action = some sys'

/-- The processors of an execution that begins report what they return. -/
def HonestProcessors : PublicationAction address → Prop
  | .begin _ _ env _ => env.toTargetEnvironment.Honest rt env.streamed
  | _ => True

/-- A generic execution that begins returns what has the digest of its source, if it reports none
and takes over the one of the source. -/
def TakesOwnDigest (τ : Transition PublicationSystem (PublicationAction address)) : Prop :=
  match τ.action with
  | .begin _ kind env input =>
      kind.TakesOwnDigest rt env.streamed env.toTargetEnvironment input τ.before.db
  | _ => True

/-- What holds of an execution: what it prepared it has written or is about to write, and all of
this is honest. -/
structure ExecutionInv (execution : PublicationExecution) : Prop where
  written : ∀ prepared, execution.result = .ok prepared →
    prepared.StoredBy address (execution.written ++ execution.pending)
  honest : ∀ write ∈ execution.written ++ execution.pending, write.Honest rt

/-- What holds in every state: the published rows name writes, the object of a written place is the
one written last, every write is honest, and what an execution has written is in the log. -/
structure Inv (sys : PublicationSystem) : Prop where
  rows : sys.db.NamesWrites address sys.writes
  objects : ∀ place stored,
    sys.writes.find? (fun write => address write.objectKey = place) = some stored →
      sys.objects place = some stored
  honest : ∀ write ∈ sys.writes, write.Honest rt
  executions : ∀ execution state, sys.executions execution = some state →
    ExecutionInv rt address state
  logged : ∀ execution state, sys.executions execution = some state → state.written ⊆ sys.writes

/-- A row **records** a write, `later` being what was written after it: the newest write that the
row names. -/
structure Records (sys : PublicationSystem) (names : PublishObjectInput → Prop)
    (write : StoredObject) (later : List StoredObject) : Prop where
  logged : ∃ earlier, sys.writes = later ++ write :: earlier
  named : names write.toPublishObjectInput
  newest : ∀ other ∈ later, ¬ names other.toPublishObjectInput

variable {rt address} {sys sys' : PublicationSystem}

@[simp] theorem setExecution_db (execution : Nat) (state : Option PublicationExecution) :
    (sys.setExecution execution state).db = sys.db := rfl

@[simp] theorem setExecution_objects (execution : Nat) (state : Option PublicationExecution) :
    (sys.setExecution execution state).objects = sys.objects := rfl

@[simp] theorem setExecution_writes (execution : Nat) (state : Option PublicationExecution) :
    (sys.setExecution execution state).writes = sys.writes := rfl

theorem setExecution_self (execution : Nat) (state : Option PublicationExecution) :
    (sys.setExecution execution state).executions execution = state := by
  simp only [setExecution, Function.update_self]

theorem setExecution_of_ne {execution other : Nat} (hother : other ≠ execution)
    (state : Option PublicationExecution) :
    (sys.setExecution execution state).executions other = sys.executions other := by
  simp only [setExecution, Function.update_of_ne hother]

theorem putObject_self (write : StoredObject) :
    (sys.putObject address write).objects (address write.objectKey) = some write :=
  Function.update_self _ _ sys.objects

theorem putObject_of_ne {write : StoredObject} {place : PublishedObject}
    (hplace : place ≠ address write.objectKey) :
    (sys.putObject address write).objects place = sys.objects place :=
  Function.update_of_ne hplace _ sys.objects

@[simp] theorem putObject_writes (write : StoredObject) :
    (sys.putObject address write).writes = write :: sys.writes := rfl

/-! ### Steps keep the invariant -/

/-- A write of an execution goes from what is still to be written to what is written. -/
theorem ExecutionInv.write {written pending : List StoredObject} {write : StoredObject}
    {kind : PublicationKind} {env : TargetEnvironment} {input : RunPublicationWorkflowInput}
    {result : Except RegistryError PreparedPublication}
    (h : ExecutionInv rt address ⟨kind, env, input, written, write :: pending, result⟩) :
    ExecutionInv rt address ⟨kind, env, input, write :: written, pending, result⟩ where
  written prepared hresult :=
    (h.written prepared hresult).mono fun other hother => by
      simpa [or_left_comm, or_assoc] using hother
  honest other hother := h.honest other (by simpa [or_left_comm, or_assoc] using hother)

/-- An execution is put in place. -/
theorem Inv.setExecution (h : sys.Inv rt address) (execution : Nat)
    {state : Option PublicationExecution}
    (hstate : ∀ running, state = some running →
      ExecutionInv rt address running ∧ running.written ⊆ sys.writes) :
    (sys.setExecution execution state).Inv rt address where
  rows := h.rows
  objects := h.objects
  honest := h.honest
  executions other running hrunning := by
    by_cases hother : other = execution
    · subst hother
      exact (hstate running ((setExecution_self other state).symm.trans hrunning)).1
    · exact h.executions other running ((setExecution_of_ne hother state).symm.trans hrunning)
  logged other running hrunning := by
    by_cases hother : other = execution
    · subst hother
      exact (hstate running ((setExecution_self other state).symm.trans hrunning)).2
    · exact h.logged other running ((setExecution_of_ne hother state).symm.trans hrunning)

/-- An execution is over. -/
theorem Inv.endExecution (h : sys.Inv rt address) (execution : Nat) :
    (sys.setExecution execution none).Inv rt address :=
  h.setExecution execution fun _ hnone => by cases hnone

/-- The registry moves on. -/
theorem Inv.setDb (h : sys.Inv rt address) {db : Db} (hdb : db.NamesWrites address sys.writes) :
    { sys with db }.Inv rt address where
  rows := hdb
  objects := h.objects
  honest := h.honest
  executions := h.executions
  logged := h.logged

/-- An object is written. -/
theorem Inv.putObject (h : sys.Inv rt address) {write : StoredObject}
    (hhonest : write.Honest rt) : (sys.putObject address write).Inv rt address where
  rows := h.rows.mono (List.subset_cons_self write sys.writes)
  objects place stored hstored := by
    rw [putObject_writes, List.find?_cons] at hstored
    by_cases hplace : place = address write.objectKey
    · rw [hplace, decide_eq_true rfl] at hstored
      rw [hplace, putObject_self]
      exact hstored
    · rw [decide_eq_false (Ne.symm hplace)] at hstored
      rw [putObject_of_ne hplace]
      exact h.objects place stored hstored
  honest := List.forall_mem_cons.mpr ⟨hhonest, h.honest⟩
  executions := h.executions
  logged execution state hstate :=
    List.Subset.trans (h.logged execution state hstate) (List.subset_cons_self write sys.writes)

/-- **Every step keeps the invariant.** -/
theorem Inv.step (h : sys.Inv rt address) {action : PublicationAction address}
    (hstep : sys.Step rt address action sys') (hhonest : HonestProcessors rt address action)
    (htakes : TakesOwnDigest rt address ⟨sys, action, sys'⟩) : sys'.Inv rt address := by
  cases action with
  | begin execution kind env input =>
      simp only [Step, next] at hstep
      split at hstep
      · cases hstep
      · have hdb : (kind.beginPhase rt env.toTargetEnvironment input sys.db).2.NamesWrites address
          sys.writes := kind.beginPhase_namesWrites h.rows
        split at hstep
        · rename_i hbegin
          cases hstep
          rw [hbegin] at hdb
          exact h.setDb hdb
        · rename_i observed db hbegin
          cases hstep
          rw [hbegin] at hdb
          refine (h.setDb hdb).setExecution execution fun running hrunning => ?_
          cases hrunning
          refine ⟨⟨fun prepared hresult => ?_, fun write hwrite => ?_⟩, List.nil_subset _⟩
          · exact (PublicationKind.beginPhase_writtenBy env.writesTo hbegin prepared hresult).stored
              env.streamed
          · obtain ⟨sent, hsent, rfl⟩ := List.mem_map.mp hwrite
            exact PublicationKind.beginPhase_honest hhonest htakes hbegin sent hsent
  | write execution =>
      simp only [Step, next] at hstep
      split at hstep
      · rename_i kind env input written write pending result hexecution
        cases hstep
        have hrunning := h.executions execution _ hexecution
        have hwrite := hrunning.honest write (List.mem_append_right _ List.mem_cons_self)
        refine (h.putObject hwrite).setExecution execution fun running hnext => ?_
        cases hnext
        exact ⟨hrunning.write, List.cons_subset_cons write (h.logged execution _ hexecution)⟩
      · cases hstep
  | publish execution =>
      simp only [Step, next] at hstep
      split at hstep
      · rename_i kind env input written prepared hexecution
        cases hstep
        have hprepared := (h.executions execution _ hexecution).written prepared rfl
        rw [List.append_nil] at hprepared
        have hlogged := hprepared.mono (h.logged execution _ hexecution)
        exact (h.setDb (kind.publishPhase_namesWrites h.rows hlogged)).endExecution execution
      · cases hstep
  | stop execution =>
      cases hstep
      exact h.endExecution execution
  | change registry =>
      cases hstep
      exact h.setDb (h.rows.of_rows_eq (registry.derivatives sys.db) (registry.manifests sys.db))

/-! ### Workflows as runs -/

/-- An execution writes all that is still to be written. -/
theorem exists_run_writes (rt : Runtime) (address : String → PublishedObject) {execution : Nat}
    {kind : PublicationKind} {env : TargetEnvironment} {input : RunPublicationWorkflowInput}
    {result : Except RegistryError PreparedPublication} {written pending : List StoredObject}
    {sys : PublicationSystem}
    (hexecution : sys.executions execution = some ⟨kind, env, input, written, pending, result⟩) :
    ∃ tr sys' written', Run (Step rt address) sys tr sys' ∧ sys'.db = sys.db ∧
      sys'.executions execution = some ⟨kind, env, input, written', [], result⟩ := by
  induction pending generalizing sys written with
  | nil => exact ⟨[], sys, written, Run.nil sys, rfl, hexecution⟩
  | cons write pending ih =>
      have hstep :
        Step rt address sys (.write execution) ((sys.putObject address write).setExecution
          execution (some ⟨kind, env, input, write :: written, pending, result⟩)) := by
        simp only [Step, next, hexecution]
      obtain ⟨tr, sys', written', hrun, hdb, hlast⟩ := ih (setExecution_self execution _)
      exact ⟨_, sys', written', Run.cons hstep hrun, hdb, hlast⟩

/-- **A workflow is a run of the system**: it begins, writes, and publishes or stops. -/
theorem exists_run_workflow {sys : PublicationSystem} {execution : Nat}
    (hfree : sys.executions execution = none) (kind : PublicationKind)
    (env : PublishingEnvironment address) (input : RunPublicationWorkflowInput) :
    ∃ tr sys', Run (Step rt address) sys tr sys' ∧
      sys'.db = (kind.run rt env.toTargetEnvironment input sys.db).2 := by
  rw [PublicationKind.run_eq_phases]
  rcases hbegin : kind.beginPhase rt env.toTargetEnvironment input sys.db with ⟨e | observed, db⟩
  · have hstep : Step rt address sys (.begin execution kind env input) { sys with db } := by
      simp only [Step, next, hfree, hbegin]
    exact ⟨_, _, Run.cons hstep (Run.nil _), rfl⟩
  · have hstep : Step rt address sys (.begin execution kind env input)
        ({ sys with db }.setExecution execution
          (some ⟨kind, env.toTargetEnvironment, input, [],
            observed.events.map (PublishObjectInput.stored env.streamed), observed.result⟩)) := by
      simp only [Step, next, hfree, hbegin]
    obtain ⟨tr, sys₁, written, hwrites, hdb, hlast⟩ :=
      exists_run_writes rt address (setExecution_self execution _)
    cases hresult : observed.result with
    | error e =>
        have hrun := Run.cons hstep hwrites
        exact ⟨_, sys₁, hrun, by simp only [runPhases, hresult, hdb, setExecution_db]⟩
    | ok prepared =>
        rw [hresult] at hlast
        have hpublish : Step rt address sys₁ (.publish execution)
            ({ sys₁ with
              db := (kind.publishPhase rt env.toTargetEnvironment input prepared sys₁.db).2
              }.setExecution execution none) := by
          simp only [Step, next, hlast]
        refine ⟨_, _, Run.cons hstep (hwrites.append (Run.cons hpublish (Run.nil _))), ?_⟩
        simp only [runPhases, hresult, hdb, setExecution_db]

/-! ### What a published row names -/

/-- A row that names a write records one. -/
theorem exists_records {names : PublishObjectInput → Prop} {write : StoredObject}
    (hwrite : write ∈ sys.writes) (hnames : names write.toPublishObjectInput) :
    ∃ write later, sys.Records names write later := by
  classical
  cases hfind : sys.writes.find? fun w => decide (names w.toPublishObjectInput) with
  | none =>
      have hnot := List.find?_eq_none.mp hfind write hwrite
      exact absurd (decide_eq_true hnames) hnot
  | some newest =>
      obtain ⟨hnewest, later, earlier, hwrites, hlater⟩ :=
        List.find?_eq_some_iff_append.mp hfind
      exact ⟨newest, later, ⟨earlier, hwrites⟩, of_decide_eq_true hnewest,
        fun other hother => by simpa using hlater other hother⟩

/-- The object at the place of a recorded write is this write or a later one. -/
theorem Inv.object_of_records (h : sys.Inv rt address) {names : PublishObjectInput → Prop}
    {write : StoredObject} {later : List StoredObject}
    (hrecords : sys.Records names write later) :
    ∃ stored, sys.objects (address write.objectKey) = some stored ∧ stored.Honest rt ∧
      (stored = write ∨ stored ∈ later ∧ address stored.objectKey = address write.objectKey) := by
  obtain ⟨earlier, hwrites⟩ := hrecords.logged
  have hobjects := h.objects (address write.objectKey)
  rw [hwrites, List.find?_append, List.find?_cons, decide_eq_true rfl] at hobjects
  cases hlater : later.find? fun w => decide (address w.objectKey = address write.objectKey) with
  | none =>
      rw [hlater] at hobjects
      have hwrite : write ∈ sys.writes := hwrites ▸ List.mem_append_right _ List.mem_cons_self
      exact ⟨write, hobjects write rfl, h.honest write hwrite, .inl rfl⟩
  | some stored =>
      have hplace : address stored.objectKey = address write.objectKey := by
        simpa using List.find?_some hlater
      have hmem := List.mem_of_find?_eq_some hlater
      rw [hlater] at hobjects
      exact ⟨stored, hobjects stored rfl,
        h.honest stored (hwrites ▸ List.mem_append_left _ hmem), .inr ⟨hmem, hplace⟩⟩

/-- A state with no published rows, nothing in flight and an empty log. -/
structure Initial (sys : PublicationSystem) : Prop where
  derivatives : sys.db.derivatives.rows = []
  manifests : sys.db.assetManifests.rows = []
  executions : sys.executions = fun _ => none
  writes : sys.writes = []

theorem Initial.inv (h : sys.Initial) : sys.Inv rt address where
  rows :=
    { derivatives := fun row hrow => by
        rw [h.derivatives] at hrow
        cases hrow
      manifests := fun row hrow => by
        rw [h.manifests] at hrow
        cases hrow }
  objects place stored hstored := by
    rw [h.writes] at hstored
    cases hstored
  honest write hwrite := by
    rw [h.writes] at hwrite
    cases hwrite
  executions execution state hstate := by
    rw [h.executions] at hstate
    cases hstate
  logged execution state hstate := by
    rw [h.executions] at hstate
    cases hstate

/-- A run keeps the invariant, with processors that are honest. -/
theorem Inv.run (h : sys.Inv rt address)
    {tr : List (Transition PublicationSystem (PublicationAction address))}
    (hrun : Run (Step rt address) sys tr sys')
    (hhonest : ∀ τ ∈ tr, HonestProcessors rt address τ.action)
    (htakes : ∀ τ ∈ tr, TakesOwnDigest rt address τ) : sys'.Inv rt address :=
  hrun.invariant_where
    (C := fun τ => HonestProcessors rt address τ.action ∧ TakesOwnDigest rt address τ)
    (fun h hstep hC => h.step hstep hC.1 hC.2) h fun τ hτ => ⟨hhonest τ hτ, htakes τ hτ⟩

/-- Only a generic execution whose processor reports no digest takes one over. -/
theorem takesOwnDigest_of_reports {τ : Transition PublicationSystem (PublicationAction address)}
    (h : ∀ execution env input, τ.action = .begin execution .genericAsset env input →
      ∀ given processed, env.processAssetDerivative given = .ok processed →
        processed.checksum ≠ none) : TakesOwnDigest rt address τ := by
  obtain ⟨before, action, after⟩ := τ
  cases action with
  | begin execution kind env input =>
      rintro rfl version - processed digest hprocessed hnone
      exact absurd hnone (h execution env input rfl _ processed hprocessed)
  | _ => trivial

end PublicationSystem

/-- **Published rows name objects.** In every run, from a registry without published rows, of
interleaved publications that may stop anywhere, with processors that report what they return, each
derivative row and each manifest row records a write: it has the place of the write, its length and
its digest, which are those of its bytes. And the store has an object at this place, the one that
was written then, or one that replaced it since and that the row does not name. -/
theorem published_rows_name_objects {rt : Runtime} {address : String → PublishedObject}
    {sys sys' : PublicationSystem}
    {tr : List (Transition PublicationSystem (PublicationAction address))}
    (hinitial : sys.Initial) (hrun : Run (PublicationSystem.Step rt address) sys tr sys')
    (hhonest : ∀ τ ∈ tr, PublicationSystem.HonestProcessors rt address τ.action)
    (htakes : ∀ τ ∈ tr, PublicationSystem.TakesOwnDigest rt address τ) :
    (∀ row ∈ sys'.db.derivatives.rows, ∃ write later stored,
      sys'.Records (row.Names address) write later ∧ write.Honest rt ∧
      sys'.objects (address write.objectKey) = some stored ∧ stored.Honest rt ∧
      (stored = write ∨ stored ∈ later ∧ address stored.objectKey = address write.objectKey)) ∧
    ∀ row ∈ sys'.db.assetManifests.rows, ∃ write later stored,
      sys'.Records (row.Names address) write later ∧ write.Honest rt ∧
      sys'.objects (address write.objectKey) = some stored ∧ stored.Honest rt ∧
      (stored = write ∨ stored ∈ later ∧ address stored.objectKey = address write.objectKey) := by
  have hinv : sys'.Inv rt address := hinitial.inv.run hrun hhonest htakes
  have hobject : ∀ names : PublishObjectInput → Prop,
      (∃ write ∈ sys'.writes, names write.toPublishObjectInput) →
      ∃ write later stored, sys'.Records names write later ∧ write.Honest rt ∧
        sys'.objects (address write.objectKey) = some stored ∧ stored.Honest rt ∧
        (stored = write ∨
          stored ∈ later ∧ address stored.objectKey = address write.objectKey) := by
    rintro names ⟨named, hnamed, hnames⟩
    obtain ⟨write, later, hrecords⟩ := PublicationSystem.exists_records hnamed hnames
    obtain ⟨stored, hstored, hhonest, hcontent⟩ := hinv.object_of_records hrecords
    obtain ⟨earlier, hwrites⟩ := hrecords.logged
    have hwrite := hinv.honest write (hwrites ▸ List.mem_append_right _ List.mem_cons_self)
    exact ⟨write, later, stored, hrecords, hwrite, hstored, hhonest, hcontent⟩
  exact ⟨fun row hrow => hobject _ (hinv.rows.derivatives row hrow),
    fun row hrow => hobject _ (hinv.rows.manifests row hrow)⟩

/-! ### A sample -/

/-- A store that keeps every object in one bucket, under its key. -/
def sampleAddress (objectKey : String) : PublishedObject := ⟨"derived", objectKey⟩

/-- The sample dependencies, with an image processor that returns a text, and a generic one that
reports its digest. -/
def samplePublishing (pixels : String) : PublishingEnvironment sampleAddress where
  toTargetEnvironment :=
    { sampleTarget with
      processAssetDerivative := fun _ =>
        let integrity := hashBody sampleRuntime (.text "original")
        .ok
          { body := .inline (.text "original")
            byteLength := integrity.1
            checksum := some integrity.2
            contentType := "application/pdf" }
      processDerivative := fun _ =>
        .ok { body := .text pixels, byteLength := 0, contentType := "image/webp" } }
  writesTo _ _ _ hpublished := (Except.ok.inj hpublished).symm

theorem samplePublishing_honest (pixels : String) (streamed : List UInt8) :
    (samplePublishing pixels).toTargetEnvironment.Honest sampleRuntime streamed where
  generic input processed hprocessed := by
    cases hprocessed
    refine ⟨rfl, fun reported hreported => ?_⟩
    cases hreported
    exact hashBody_eq sampleRuntime (.text "original")
  image input processed hprocessed reported hreported := by
    cases hprocessed
    cases hreported
  document input processed hprocessed reported hreported := by
    cases hprocessed
    cases hreported
  slides input processed hprocessed slide hslide reported hreported := by
    cases hprocessed
    obtain rfl := List.mem_singleton.mp hslide
    cases hreported

/-- The sample registry, before any publication. -/
def samplePublicationSystem : PublicationSystem where
  db := samplePublicationDb

theorem samplePublicationSystem_initial : samplePublicationSystem.Initial where
  derivatives := rfl
  manifests := rfl
  executions := rfl
  writes := rfl

/-- An execution that stops after its first write, one that publishes, and one whose processor
returns something else and that stops after its first write. -/
def samplePublicationActions : List (PublicationAction sampleAddress) :=
  [.begin 0 .image (samplePublishing "pixels") ⟨"scope-1", "version-a"⟩, .write 0, .stop 0,
    .begin 1 .image (samplePublishing "pixels") ⟨"scope-1", "version-a"⟩, .write 1, .write 1,
    .write 1, .publish 1,
    .begin 2 .image (samplePublishing "other pixels") ⟨"scope-1", "version-a"⟩, .write 2, .stop 2]

/-- The published rows name objects of the store, and the object of a derivative was overwritten. -/
theorem sample_rows_name_objects :
    ∃ tr sys', Run (PublicationSystem.Step sampleRuntime sampleAddress) samplePublicationSystem tr
        sys' ∧
      sys'.db.derivatives.rows.length = 2 ∧ sys'.db.assetManifests.rows.length = 1 ∧
      (∃ row ∈ sys'.db.derivatives.rows,
        ∃ stored ∈ sys'.objects (sampleAddress row.deterministicKey),
          row.byteLength ≠ stored.byteLength) ∧
      (∀ row ∈ sys'.db.derivatives.rows, ∃ write later stored,
        sys'.Records (row.Names sampleAddress) write later ∧ write.Honest sampleRuntime ∧
        sys'.objects (sampleAddress write.objectKey) = some stored ∧ stored.Honest sampleRuntime ∧
        (stored = write ∨
          stored ∈ later ∧ sampleAddress stored.objectKey = sampleAddress write.objectKey)) ∧
      ∀ row ∈ sys'.db.assetManifests.rows, ∃ write later stored,
        sys'.Records (row.Names sampleAddress) write later ∧ write.Honest sampleRuntime ∧
        sys'.objects (sampleAddress write.objectKey) = some stored ∧ stored.Honest sampleRuntime ∧
        (stored = write ∨
          stored ∈ later ∧ sampleAddress stored.objectKey = sampleAddress write.objectKey) := by
  obtain ⟨tr, sys', hrun, hactions, hderivatives, hmanifests, hoverwritten⟩ := exists_run_along
    (PublicationSystem.next sampleRuntime sampleAddress) samplePublicationSystem
    samplePublicationActions
    (fun _ s => s.db.derivatives.rows.length = 2 ∧ s.db.assetManifests.rows.length = 1 ∧
      ∃ row ∈ s.db.derivatives.rows, ∃ stored ∈ s.objects (sampleAddress row.deterministicKey),
        row.byteLength ≠ stored.byteLength)
    (by decide +kernel)
  have hmem : ∀ τ ∈ tr, τ.action ∈ samplePublicationActions := fun τ hτ =>
    hactions ▸ List.mem_map_of_mem hτ
  have hhonest : ∀ action ∈ samplePublicationActions,
      PublicationSystem.HonestProcessors sampleRuntime sampleAddress action := by
    simp only [samplePublicationActions, List.forall_mem_cons, List.not_mem_nil, false_imp_iff,
      implies_true, PublicationSystem.HonestProcessors, samplePublishing_honest, and_self]
  have hreports : ∀ action ∈ samplePublicationActions, ∀ execution env input,
      action ≠ .begin execution .genericAsset env input := by
    simp [samplePublicationActions]
  exact ⟨tr, sys', hrun, hderivatives, hmanifests, hoverwritten,
    published_rows_name_objects samplePublicationSystem_initial hrun
      (fun τ hτ => hhonest τ.action (hmem τ hτ))
      fun τ hτ => PublicationSystem.takesOwnDigest_of_reports fun execution env input hbegin =>
        absurd hbegin (hreports τ.action (hmem τ hτ) execution env input)⟩

end Cdngine
