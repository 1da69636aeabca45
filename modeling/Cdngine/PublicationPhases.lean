import Cdngine.PresentationManifests

/-!
# The Phases of a Publication

A publication workflow as it is seen from outside: the transaction that begins it, the writes that
it sends to the derived store, one after the other, and the transaction that publishes what they
prepared. The three workflows differ in what they write; a processor, the store or a connection
may fail anywhere.

## Main results

* `PublicationKind.run_eq_phases`: a workflow is its phases, run one after the other.
* `PublicationKind.beginPhase_writtenBy`: what a workflow prepares, it has written.
* `PublicationKind.beginPhase_honest`: every write of a workflow whose processors report the digests
  of what they return goes with the digest of its bytes, also when the workflow fails.
-/

open Observed

namespace Cdngine

/-! ### The writes of a workflow -/

/-- `prepareGenericAsset`, with the objects that it sends to the object store. -/
def observeGenericAsset (rt : Runtime) (env : TargetEnvironment) (deliveryScopeId : String)
    (version : CanonicalVersionRecord GenericCanonicalSourceEvidenceRecord) :
    Observed PublishObjectInput RegistryError PreparedPublication := do
  let recipeBinding := preserveOriginalBinding
  let processed ← Observed.ofExcept
    (env.processAssetDerivative (genericAssetActivityInput version))
  let integrity ← Observed.ofExcept (resolveChecksum rt processed version)
  Observed.emit (derivativeWrite version.identity recipeBinding recipeBinding.variantKey
    processed.body integrity processed.contentType)
  let derivative ← Observed.ofExcept (publishDerivative env 0 version.identity deliveryScopeId
    recipeBinding recipeBinding.variantKey processed.body integrity processed.contentType
    processed.metadata none)
  let payload := buildGenericAssetManifest version.identity env.manifestGeneratedAt
    recipeBinding.manifestType derivative
  Observed.emit (manifestWrite rt version.identity recipeBinding.manifestType payload)
  let manifest ← Observed.ofExcept
    (publishManifest rt env 1 version.identity deliveryScopeId recipeBinding.manifestType payload)
  return { derivatives := [derivative], manifest }

/-- The length and the digest that an image is published with. -/
def ImageDerivativeActivityResult.integrity (rt : Runtime)
    (processed : ImageDerivativeActivityResult) : Int × ObjectChecksum :=
  outputIntegrity rt processed.byteLength processed.checksum processed.body

/-- `publishImageDerivatives`, observed. -/
def observeImageDerivatives (rt : Runtime) (env : TargetEnvironment) (deliveryScopeId : String)
    (version : CanonicalVersionRecord CanonicalSourceIdentity) :
    Nat → List RecipeBinding →
      Observed PublishObjectInput RegistryError (List PublishedDerivativeRecord)
  | _, [] => pure []
  | n, recipeBinding :: recipeBindings => do
      let processed ← Observed.ofExcept (env.processDerivative
        { canonicalSourceId := version.evidence.canonicalSourceId
          recipeBinding
          sourceContentType := version.detectedContentType
          sourceFilename := version.sourceFilename })
      Observed.emit (derivativeWrite version.identity recipeBinding recipeBinding.variantKey
        (.inline processed.body) (processed.integrity rt) processed.contentType)
      let derivative ← Observed.ofExcept (publishDerivative env n version.identity deliveryScopeId
        recipeBinding recipeBinding.variantKey (.inline processed.body)
        (processed.integrity rt) processed.contentType processed.metadata none)
      let derivatives ← observeImageDerivatives rt env deliveryScopeId version
        (n + 1) recipeBindings
      return derivative :: derivatives

/-- `prepareImage`, with the objects that it sends to the object store. -/
def observeImage (rt : Runtime) (env : TargetEnvironment) (deliveryScopeId : String)
    (version : CanonicalVersionRecord CanonicalSourceIdentity) :
    Observed PublishObjectInput RegistryError PreparedPublication := do
  let derivatives ←
    observeImageDerivatives rt env deliveryScopeId version 0 defaultImageRecipeBindings
  let payload := buildImageAssetManifest rt version.identity env.manifestGeneratedAt derivatives
  Observed.emit (manifestWrite rt version.identity "image-default" payload)
  let manifest ← Observed.ofExcept (publishManifest rt env derivatives.length version.identity
    deliveryScopeId "image-default" payload)
  return { derivatives, manifest }

section Results

variable {rt : Runtime} {env : TargetEnvironment} {deliveryScopeId : String}

/-- The observed preparation of a generic asset prepares what the preparation does. -/
theorem result_observeGenericAsset
    (version : CanonicalVersionRecord GenericCanonicalSourceEvidenceRecord) :
    (observeGenericAsset rt env deliveryScopeId version).result =
      prepareGenericAsset rt env deliveryScopeId version := by
  rw [observeGenericAsset, prepareGenericAsset]
  simp only [result_bind, result_ofExcept, result_emit, result_pure]
  rfl

/-- The observed publication of the derivatives of an image gives the same derivatives. -/
theorem result_observeImageDerivatives
    (version : CanonicalVersionRecord CanonicalSourceIdentity) (n : Nat)
    (recipeBindings : List RecipeBinding) :
    (observeImageDerivatives rt env deliveryScopeId version n recipeBindings).result =
      publishImageDerivatives rt env deliveryScopeId version n recipeBindings := by
  induction recipeBindings generalizing n with
  | nil => rfl
  | cons recipeBinding recipeBindings ih =>
      rw [observeImageDerivatives, publishImageDerivatives]
      simp only [result_bind, result_ofExcept, result_emit, ih, result_pure]
      rfl

/-- The observed preparation of an image prepares what the preparation does. -/
theorem result_observeImage (version : CanonicalVersionRecord CanonicalSourceIdentity) :
    (observeImage rt env deliveryScopeId version).result =
      prepareImage rt env deliveryScopeId version := by
  rw [observeImage, prepareImage]
  simp only [result_bind, result_ofExcept, result_emit, result_observeImageDerivatives,
    result_pure]
  rfl

end Results

/-! ### The phases -/

/-- A transaction that begins a publication, and the writes that follow. -/
def beginPhase {ε : Type} (store : PublicationStore ε)
    (observe : TargetEnvironment → String → CanonicalVersionRecord ε →
      Observed PublishObjectInput RegistryError PreparedPublication)
    (env : TargetEnvironment) (input : RunPublicationWorkflowInput) (db : Db) :
    Except RegistryError (Observed PublishObjectInput RegistryError PreparedPublication) × Db :=
  match env.beginning.transact (store.begin input.versionId) db with
  | (.error e, db) => (.error e, db)
  | (.ok version, db) => (.ok (observe env input.deliveryScopeId version), db)

/-- The transaction that publishes what was prepared. -/
def publishPhase {ε : Type} (store : PublicationStore ε) (rt : Runtime) (env : TargetEnvironment)
    (input : RunPublicationWorkflowInput) (prepared : PreparedPublication) (db : Db) :
    Except RegistryError Unit × Db :=
  match env.publishing.transact (store.publish rt input.versionId input.deliveryScopeId
    prepared.derivatives prepared.manifest) db with
  | (.error e, db) => (.error e, db)
  | (.ok _, db) => (.ok (), db)

namespace PublicationKind

/-- The begin of a kind. -/
def beginPhase (rt : Runtime) (env : TargetEnvironment) (input : RunPublicationWorkflowInput)
    (db : Db) : PublicationKind →
      Except RegistryError (Observed PublishObjectInput RegistryError PreparedPublication) × Db
  | .genericAsset =>
      Cdngine.beginPhase genericAssetPublicationStore (observeGenericAsset rt) env input db
  | .image => Cdngine.beginPhase imagePublicationStore (observeImage rt) env input db
  | .presentation =>
      Cdngine.beginPhase presentationPublicationStore (observePresentation rt) env input db

/-- The publication of a kind. -/
def publishPhase (rt : Runtime) (env : TargetEnvironment) (input : RunPublicationWorkflowInput)
    (prepared : PreparedPublication) (db : Db) : PublicationKind → Except RegistryError Unit × Db
  | .genericAsset => Cdngine.publishPhase genericAssetPublicationStore rt env input prepared db
  | .image => Cdngine.publishPhase imagePublicationStore rt env input prepared db
  | .presentation => Cdngine.publishPhase presentationPublicationStore rt env input prepared db

end PublicationKind

/-- The phases of a workflow one after the other. -/
def runPhases
    (begun :
      Except RegistryError (Observed PublishObjectInput RegistryError PreparedPublication) × Db)
    (publish : PreparedPublication → Db → Except RegistryError Unit × Db) :
    Except RegistryError Unit × Db :=
  match begun with
  | (.error e, db) => (.error e, db)
  | (.ok observed, db) =>
      match observed.result with
      | .error e => (.error e, db)
      | .ok prepared => publish prepared db

/-- A workflow whose preparation is observed is its phases, whatever its store. -/
theorem runPublicationWorkflow_eq_phases {ε : Type} {store : PublicationStore ε}
    {prepare : TargetEnvironment → String → CanonicalVersionRecord ε →
      Except RegistryError PreparedPublication}
    {observe : TargetEnvironment → String → CanonicalVersionRecord ε →
      Observed PublishObjectInput RegistryError PreparedPublication}
    (hobserve : ∀ env scope version, (observe env scope version).result = prepare env scope version)
    (rt : Runtime) (env : TargetEnvironment) (input : RunPublicationWorkflowInput) (db : Db) :
    (runPublicationWorkflow store prepare rt env input db).map (·.map fun _ => ()) id =
      runPhases (beginPhase store observe env input db) (publishPhase store rt env input) := by
  rw [runPublicationWorkflow, beginPhase]
  rcases env.beginning.transact (store.begin input.versionId) db with ⟨e | version, db⟩
  · rfl
  · have hresult := hobserve env input.deliveryScopeId version
    simp only [runPhases, hresult]
    cases prepare env input.deliveryScopeId version with
    | error e => rfl
    | ok prepared =>
        simp only [publishPhase]
        rcases env.publishing.transact (store.publish rt input.versionId input.deliveryScopeId
          prepared.derivatives prepared.manifest) db with ⟨e | version, db⟩
        · rfl
        · rfl

section Equations

variable {rt : Runtime} {env : TargetEnvironment} {input : RunPublicationWorkflowInput} {db : Db}

/-- The workflow of a generic asset. -/
theorem PublicationKind.run_genericAsset : PublicationKind.genericAsset.run rt env input db =
    (runPublicationWorkflow genericAssetPublicationStore
      (prepareGenericAsset rt) rt env input db).map
      (·.map fun _ => ()) id := by
  rw [PublicationKind.run, runGenericAssetPublicationWorkflow]

/-- The workflow of an image. -/
theorem PublicationKind.run_image : PublicationKind.image.run rt env input db =
    (runPublicationWorkflow imagePublicationStore (prepareImage rt) rt env input db).map
      (·.map fun _ => ()) id := by
  rw [PublicationKind.run, runImagePublicationWorkflow]

/-- The workflow of a presentation. -/
theorem PublicationKind.run_presentation : PublicationKind.presentation.run rt env input db =
    (runPublicationWorkflow presentationPublicationStore
      (preparePresentation rt) rt env input db).map
      (·.map fun _ => ()) id := by
  rw [PublicationKind.run, runPresentationPublicationWorkflow]

end Equations

/-- **A workflow is its phases**, run one after the other. -/
theorem PublicationKind.run_eq_phases (kind : PublicationKind) (rt : Runtime)
    (env : TargetEnvironment) (input : RunPublicationWorkflowInput) (db : Db) :
    kind.run rt env input db =
      runPhases (kind.beginPhase rt env input db) fun prepared db =>
        kind.publishPhase rt env input prepared db := by
  cases kind with
  | genericAsset =>
      rw [run_genericAsset, runPublicationWorkflow_eq_phases fun _ _ version =>
        result_observeGenericAsset version]
      simp only [PublicationKind.beginPhase, PublicationKind.publishPhase]
  | image =>
      rw [run_image, runPublicationWorkflow_eq_phases fun _ _ version =>
        result_observeImage version]
      simp only [PublicationKind.beginPhase, PublicationKind.publishPhase]
  | presentation =>
      rw [run_presentation, runPublicationWorkflow_eq_phases fun _ _ version =>
        result_observePresentation version]
      simp only [PublicationKind.beginPhase, PublicationKind.publishPhase]

/-! ### What was written -/

/-- Every object that an environment writes is put where a store keeps the objects of its key. -/
def TargetEnvironment.WritesTo (env : TargetEnvironment) (address : String → PublishedObject) :
    Prop :=
  ∀ n write published, env.publishObject n write = .ok published →
    published = address write.objectKey

/-- A derivative **names** an object of the store, and has its length and its digest. -/
structure PublishedDerivativeRecord.Names (address : String → PublishedObject)
    (derivative : PublishedDerivativeRecord) (write : PublishObjectInput) : Prop where
  storageBucket : derivative.storageBucket = (address write.objectKey).bucket
  storageKey : derivative.storageKey = (address write.objectKey).key
  byteLength : derivative.byteLength = write.byteLength
  checksumValue : derivative.checksumValue = write.checksum.value

/-- A manifest names an object of the store, and has its digest. -/
structure PublishedManifestRecord.Names (address : String → PublishedObject)
    (manifest : PublishedManifestRecord) (write : PublishObjectInput) : Prop where
  objectKey : manifest.objectKey = (address write.objectKey).key
  checksumValue : manifest.checksumValue = write.checksum.value

/-- What was prepared names objects that were written. -/
structure PreparedPublication.WrittenBy (address : String → PublishedObject)
    (writes : List PublishObjectInput) (prepared : PreparedPublication) : Prop where
  derivatives :
    ∀ derivative ∈ prepared.derivatives, ∃ write ∈ writes, derivative.Names address write
  manifest : ∃ write ∈ writes, prepared.manifest.Names address write

section WrittenBy

variable {rt : Runtime} {env : TargetEnvironment} {deliveryScopeId : String}
  {address : String → PublishedObject}

/-- What some writes have written, more writes have written too. -/
theorem PreparedPublication.WrittenBy.mono {prepared : PreparedPublication}
    {writes writes' : List PublishObjectInput} (h : prepared.WrittenBy address writes)
    (hsub : writes ⊆ writes') : prepared.WrittenBy address writes' where
  derivatives derivative hderivative :=
    let ⟨write, hwrite, hnames⟩ := h.derivatives derivative hderivative
    ⟨write, hsub hwrite, hnames⟩
  manifest :=
    let ⟨write, hwrite, hnames⟩ := h.manifest
    ⟨write, hsub hwrite, hnames⟩

/-- A derivative names the object that it was written as. -/
theorem publishDerivative_names (henv : env.WritesTo address) {n : Nat} {version : VersionIdentity}
    {recipe : RecipeBinding} {variantKey : String} {body : ObjectBody}
    {integrity : Int × ObjectChecksum} {contentType : String}
    {metadata : Option (List (String × JsValue))} {pageNumber : Option Rat}
    {derivative : PublishedDerivativeRecord}
    (h : publishDerivative env n version deliveryScopeId recipe variantKey body integrity
      contentType metadata pageNumber = .ok derivative) :
    derivative.Names address
      (derivativeWrite version recipe variantKey body integrity contentType) := by
  obtain ⟨publication, hpublication, h⟩ := bind_eq_ok.mp h
  obtain rfl := henv n _ publication hpublication
  cases h
  exact ⟨rfl, rfl, rfl, rfl⟩

/-- A manifest names the object that it was written as. -/
theorem publishManifest_names (henv : env.WritesTo address) {n : Nat} {version : VersionIdentity}
    {manifestType : String} {payload : Json} {manifest : PublishedManifestRecord}
    (h : publishManifest rt env n version deliveryScopeId manifestType payload = .ok manifest) :
    manifest.Names address (manifestWrite rt version manifestType payload) := by
  obtain ⟨publication, hpublication, h⟩ := bind_eq_ok.mp h
  obtain rfl := henv n _ publication hpublication
  cases h
  exact ⟨rfl, rfl⟩

/-- What is prepared of a generic asset has been written. -/
theorem observeGenericAsset_writtenBy (henv : env.WritesTo address)
    {version : CanonicalVersionRecord GenericCanonicalSourceEvidenceRecord}
    {prepared : PreparedPublication}
    (h : (observeGenericAsset rt env deliveryScopeId version).result = .ok prepared) :
    prepared.WrittenBy address (observeGenericAsset rt env deliveryScopeId version).events := by
  rw [observeGenericAsset] at h ⊢
  obtain ⟨processed, -, h, hevents⟩ := exists_of_bind h
  obtain ⟨integrity, -, h, hevents₁⟩ := exists_of_bind h
  obtain ⟨-, -, h, hevents₂⟩ := exists_of_bind h
  obtain ⟨derivative, hderivative, h, hevents₃⟩ := exists_of_bind h
  obtain ⟨-, -, h, hevents₄⟩ := exists_of_bind h
  obtain ⟨manifest, hmanifest, h, hevents₅⟩ := exists_of_bind h
  cases h
  rw [hevents, hevents₁, hevents₂, hevents₃, hevents₄, hevents₅]
  constructor
  · intro d hd
    obtain rfl := List.mem_singleton.mp hd
    exact ⟨_, List.mem_cons_self, publishDerivative_names henv hderivative⟩
  · exact ⟨_, List.mem_cons_of_mem _ List.mem_cons_self, publishManifest_names henv hmanifest⟩

/-- The derivatives of an image name objects that have been written, by induction on the recipes.
-/
theorem observeImageDerivatives_names (henv : env.WritesTo address)
    {version : CanonicalVersionRecord CanonicalSourceIdentity} {recipeBindings : List RecipeBinding}
    {n : Nat} {derivatives : List PublishedDerivativeRecord}
    (h : (observeImageDerivatives rt env deliveryScopeId version n recipeBindings).result =
      .ok derivatives) :
    ∀ derivative ∈ derivatives,
      ∃ write ∈ (observeImageDerivatives rt env deliveryScopeId version n recipeBindings).events,
        derivative.Names address write := by
  induction recipeBindings generalizing n derivatives with
  | nil =>
      cases h
      intro derivative hderivative
      cases hderivative
  | cons recipeBinding recipeBindings ih =>
      rw [observeImageDerivatives] at h ⊢
      obtain ⟨processed, -, h, hevents⟩ := exists_of_bind h
      obtain ⟨-, -, h, hevents₁⟩ := exists_of_bind h
      obtain ⟨derivative, hderivative, h, hevents₂⟩ := exists_of_bind h
      obtain ⟨rest, hrest, h, hevents₃⟩ := exists_of_bind h
      cases h
      rw [hevents, hevents₁, hevents₂, hevents₃]
      simp only [events_ofExcept, events_emit, List.nil_append, List.singleton_append]
      intro d hd
      rcases List.mem_cons.mp hd with rfl | hd
      · exact ⟨_, List.mem_cons_self, publishDerivative_names henv hderivative⟩
      · obtain ⟨write, hwrite, hnames⟩ := ih hrest d hd
        exact ⟨write, List.mem_cons_of_mem _ (List.mem_append_left _ hwrite), hnames⟩

/-- What is prepared of an image has been written. -/
theorem observeImage_writtenBy (henv : env.WritesTo address)
    {version : CanonicalVersionRecord CanonicalSourceIdentity} {prepared : PreparedPublication}
    (h : (observeImage rt env deliveryScopeId version).result = .ok prepared) :
    prepared.WrittenBy address (observeImage rt env deliveryScopeId version).events := by
  rw [observeImage] at h ⊢
  obtain ⟨derivatives, hderivatives, h, hevents⟩ := exists_of_bind h
  obtain ⟨-, -, h, hevents₁⟩ := exists_of_bind h
  obtain ⟨manifest, hmanifest, h, hevents₂⟩ := exists_of_bind h
  cases h
  rw [hevents, hevents₁, hevents₂]
  constructor
  · intro derivative hderivative
    obtain ⟨write, hwrite, hnames⟩ := observeImageDerivatives_names henv hderivatives derivative
      hderivative
    exact ⟨write, List.mem_append_left _ hwrite, hnames⟩
  · exact ⟨_, List.mem_append_right _ List.mem_cons_self, publishManifest_names henv hmanifest⟩

/-- The slides of a presentation name objects that have been written, by induction on the slides.
-/
theorem observeSlides_names (henv : env.WritesTo address) {version : VersionIdentity}
    {slides : List PresentationSlideOutput} {n : Nat} {derivatives : List PublishedDerivativeRecord}
    (h : (observeSlides rt env deliveryScopeId version n slides).result = .ok derivatives) :
    ∀ derivative ∈ derivatives,
      ∃ write ∈ (observeSlides rt env deliveryScopeId version n slides).events,
        derivative.Names address write := by
  induction slides generalizing n derivatives with
  | nil =>
      cases h
      intro derivative hderivative
      cases hderivative
  | cons slide slides ih =>
      rw [observeSlides] at h ⊢
      obtain ⟨-, -, h, hevents⟩ := exists_of_bind h
      obtain ⟨derivative, hderivative, h, hevents₁⟩ := exists_of_bind h
      obtain ⟨rest, hrest, h, hevents₂⟩ := exists_of_bind h
      cases h
      rw [hevents, hevents₁, hevents₂]
      simp only [events_ofExcept, events_emit, List.nil_append, List.singleton_append]
      intro d hd
      rcases List.mem_cons.mp hd with rfl | hd
      · exact ⟨_, List.mem_cons_self, publishDerivative_names henv hderivative⟩
      · obtain ⟨write, hwrite, hnames⟩ := ih hrest d hd
        exact ⟨write, List.mem_cons_of_mem _ (List.mem_append_left _ hwrite), hnames⟩

/-- What is prepared of a presentation has been written. -/
theorem observePresentation_writtenBy (henv : env.WritesTo address)
    {version : CanonicalVersionRecord CanonicalSourceIdentity} {prepared : PreparedPublication}
    (h : (observePresentation rt env deliveryScopeId version).result = .ok prepared) :
    prepared.WrittenBy address (observePresentation rt env deliveryScopeId version).events := by
  rw [observePresentation] at h ⊢
  obtain ⟨processed, -, h, hevents⟩ := exists_of_bind h
  obtain ⟨-, -, h, hevents₁⟩ := exists_of_bind h
  obtain ⟨normalized, hnormalized, h, hevents₂⟩ := exists_of_bind h
  obtain ⟨slides, hslides, h, hevents₃⟩ := exists_of_bind h
  obtain ⟨-, -, h, hevents₄⟩ := exists_of_bind h
  obtain ⟨manifest, hmanifest, h, hevents₅⟩ := exists_of_bind h
  cases h
  rw [hevents, hevents₁, hevents₂, hevents₃, hevents₄, hevents₅]
  simp only [events_ofExcept, events_emit, List.nil_append, List.singleton_append]
  constructor
  · intro derivative hderivative
    rcases List.mem_cons.mp hderivative with rfl | hderivative
    · exact ⟨_, List.mem_cons_self, publishDerivative_names henv hnormalized⟩
    · obtain ⟨write, hwrite, hnames⟩ := observeSlides_names henv hslides derivative hderivative
      exact ⟨write, List.mem_cons_of_mem _ (List.mem_append_left _ hwrite), hnames⟩
  · exact ⟨_, List.mem_cons_of_mem _ (List.mem_append_right _ List.mem_cons_self),
      publishManifest_names henv hmanifest⟩

end WrittenBy

/-! ### Honest writes -/

/-- The bytes of a body in memory. -/
def InlineBody.toBytes : InlineBody → List UInt8
  | .text body => utf8Bytes body
  | .bytes body => body

/-- The bytes that the store receives of a body; `streamed` is what a body that is read yields. -/
def ObjectBody.toBytes (streamed : List UInt8) : ObjectBody → List UInt8
  | .inline body => body.toBytes
  | .readable => streamed

/-- The length and the digest of bytes. -/
def byteIntegrity (rt : Runtime) (bytes : List UInt8) : Int × ObjectChecksum :=
  (bytes.length, ⟨"sha256", rt.sha256Hex bytes⟩)

/-- The length and the digest that a body is written with are those of its bytes. -/
def PublishObjectInput.Honest (rt : Runtime) (streamed : List UInt8) (write : PublishObjectInput) :
    Prop :=
  (write.byteLength, write.checksum) = byteIntegrity rt (write.body.toBytes streamed)

/-- A length and a digest that a processor reports are those of the bytes that it returns. -/
def Reports (rt : Runtime) (byteLength : Int) (checksum : Option ObjectChecksum)
    (bytes : List UInt8) : Prop :=
  ∀ reported, checksum = some reported → (byteLength, reported) = byteIntegrity rt bytes

/-- The processors report what they return. The length of a generic derivative counts without a
digest, too. -/
structure TargetEnvironment.Honest (rt : Runtime) (streamed : List UInt8)
    (env : TargetEnvironment) : Prop where
  generic : ∀ input processed, env.processAssetDerivative input = .ok processed →
    processed.byteLength = (processed.body.toBytes streamed).length ∧
      Reports rt processed.byteLength processed.checksum (processed.body.toBytes streamed)
  image : ∀ input processed, env.processDerivative input = .ok processed →
    Reports rt processed.byteLength processed.checksum processed.body.toBytes
  document : ∀ input processed, env.processPresentation input = .ok processed →
    Reports rt processed.normalizedDocument.byteLength processed.normalizedDocument.checksum
      processed.normalizedDocument.body.toBytes
  slides : ∀ input processed, env.processPresentation input = .ok processed →
    ∀ slide ∈ processed.slides, Reports rt slide.byteLength slide.checksum slide.body.toBytes

/-- The digest that a generic derivative without one takes over from its source is the digest of
what its processor returns. -/
def TargetEnvironment.TakesOwnDigest (rt : Runtime) (streamed : List UInt8)
    (env : TargetEnvironment)
    (version : CanonicalVersionRecord GenericCanonicalSourceEvidenceRecord) : Prop :=
  ∀ processed digest,
    env.processAssetDerivative (genericAssetActivityInput version) = .ok processed →
    processed.checksum = none → sha256Digest version.evidence = some digest →
    digest.value = rt.sha256Hex (processed.body.toBytes streamed)

section Honest

variable {rt : Runtime} {streamed : List UInt8} {env : TargetEnvironment} {deliveryScopeId : String}

/-- The length and the digest of a body are those of its bytes. -/
theorem hashBody_eq (rt : Runtime) (body : InlineBody) :
    hashBody rt body = byteIntegrity rt body.toBytes := by
  cases body <;> rfl

/-- A processor that reports the length and the digest of a body is published with those of its
bytes. -/
theorem outputIntegrity_eq {byteLength : Int} {checksum : Option ObjectChecksum}
    {body : InlineBody} (h : Reports rt byteLength checksum body.toBytes) :
    outputIntegrity rt byteLength checksum body = byteIntegrity rt body.toBytes := by
  cases checksum with
  | none => exact hashBody_eq rt body
  | some reported => exact h reported rfl

/-- A digest of the canonical source is one by SHA-256. -/
theorem sha256Digest_algorithm {evidence : GenericCanonicalSourceEvidenceRecord}
    {digest : ObjectChecksum} (h : sha256Digest evidence = some digest) :
    digest.algorithm = "sha256" :=
  eq_of_beq (List.find?_some (p := fun digest : ObjectChecksum => digest.algorithm == "sha256") h)

/-- A generic asset is published with the length and the digest of its bytes. -/
theorem resolveChecksum_eq (henv : env.Honest rt streamed)
    {version : CanonicalVersionRecord GenericCanonicalSourceEvidenceRecord}
    (htakes : env.TakesOwnDigest rt streamed version)
    {processed : GenericAssetDerivativeActivityResult} {integrity : Int × ObjectChecksum}
    (hprocessed : env.processAssetDerivative (genericAssetActivityInput version) = .ok processed)
    (h : resolveChecksum rt processed version = .ok integrity) :
    integrity = byteIntegrity rt (processed.body.toBytes streamed) := by
  obtain ⟨hlength, hreports⟩ := henv.generic _ _ hprocessed
  rw [resolveChecksum] at h
  split at h
  · rename_i reported hreported
    cases h
    exact hreports reported hreported
  · rename_i hnone
    split at h
    · rename_i digest hdigest
      cases h
      have hvalue := htakes processed digest hprocessed hnone hdigest
      have halgorithm := sha256Digest_algorithm hdigest
      obtain ⟨algorithm, value⟩ := digest
      simp only at hvalue halgorithm
      rw [byteIntegrity, hlength, hvalue, halgorithm]
    · split at h
      · rename_i body hbody
        cases h
        rw [hbody, ObjectBody.toBytes, hashBody_eq]
      · cases h

/-- The write of a manifest goes with the digest of its text. -/
theorem manifestWrite_honest {version : VersionIdentity} {manifestType : String} {payload : Json} :
    (manifestWrite rt version manifestType payload).Honest rt streamed :=
  hashBody_eq rt (.text (stringifyIndented rt 0 payload))

/-- Every write for a generic asset goes with the digest of its bytes. -/
theorem observeGenericAsset_honest (henv : env.Honest rt streamed)
    {version : CanonicalVersionRecord GenericCanonicalSourceEvidenceRecord}
    (htakes : env.TakesOwnDigest rt streamed version) :
    ∀ write ∈ (observeGenericAsset rt env deliveryScopeId version).events,
      write.Honest rt streamed := by
  rw [observeGenericAsset]
  refine forall_events_ofExcept_bind fun processed hprocessed => ?_
  refine forall_events_ofExcept_bind fun integrity hintegrity => ?_
  refine forall_events_emit_bind ?_ ?_
  · exact resolveChecksum_eq henv htakes hprocessed hintegrity
  refine forall_events_ofExcept_bind fun derivative _ => ?_
  refine forall_events_emit_bind manifestWrite_honest ?_
  exact forall_events_ofExcept_bind fun _ _ _ h => by cases h

/-- Every write for a derivative of an image goes with the digest of its bytes. -/
theorem observeImageDerivatives_honest (henv : env.Honest rt streamed)
    {version : CanonicalVersionRecord CanonicalSourceIdentity} {recipeBindings : List RecipeBinding}
    {n : Nat} :
    ∀ write ∈ (observeImageDerivatives rt env deliveryScopeId version n recipeBindings).events,
      write.Honest rt streamed := by
  induction recipeBindings generalizing n with
  | nil =>
      intro write hwrite
      cases hwrite
  | cons recipeBinding recipeBindings ih =>
      rw [observeImageDerivatives]
      refine forall_events_ofExcept_bind fun processed hprocessed => ?_
      refine forall_events_emit_bind ?_ ?_
      · exact outputIntegrity_eq (henv.image _ _ hprocessed)
      refine forall_events_ofExcept_bind fun derivative _ => ?_
      exact forall_events_bind ih fun _ _ _ h => by cases h

/-- Every write for an image goes with the digest of its bytes. -/
theorem observeImage_honest (henv : env.Honest rt streamed)
    {version : CanonicalVersionRecord CanonicalSourceIdentity} :
    ∀ write ∈ (observeImage rt env deliveryScopeId version).events, write.Honest rt streamed := by
  rw [observeImage]
  refine forall_events_bind (observeImageDerivatives_honest henv) fun derivatives _ => ?_
  refine forall_events_emit_bind manifestWrite_honest ?_
  exact forall_events_ofExcept_bind fun _ _ _ h => by cases h

/-- Every write for a slide goes with the digest of its bytes. -/
theorem observeSlides_honest {version : VersionIdentity} {slides : List PresentationSlideOutput}
    (hslides : ∀ slide ∈ slides, Reports rt slide.byteLength slide.checksum slide.body.toBytes)
    {n : Nat} :
    ∀ write ∈ (observeSlides rt env deliveryScopeId version n slides).events,
      write.Honest rt streamed := by
  induction slides generalizing n with
  | nil =>
      intro write hwrite
      cases hwrite
  | cons slide slides ih =>
      obtain ⟨hslide, hslides⟩ := List.forall_mem_cons.mp hslides
      rw [observeSlides]
      refine forall_events_emit_bind ?_ ?_
      · exact outputIntegrity_eq hslide
      refine forall_events_ofExcept_bind fun derivative _ => ?_
      exact forall_events_bind (ih hslides) fun _ _ _ h => by cases h

/-- Every write for a presentation goes with the digest of its bytes. -/
theorem observePresentation_honest (henv : env.Honest rt streamed)
    {version : CanonicalVersionRecord CanonicalSourceIdentity} :
    ∀ write ∈ (observePresentation rt env deliveryScopeId version).events,
      write.Honest rt streamed := by
  rw [observePresentation]
  refine forall_events_ofExcept_bind fun processed hprocessed => ?_
  have hslides : ∀ slide ∈ processed.sortedSlides,
      Reports rt slide.byteLength slide.checksum slide.body.toBytes := fun slide hslide =>
    henv.slides _ _ hprocessed slide ((sortBy_perm _ _).mem_iff.mp hslide)
  refine forall_events_emit_bind ?_ ?_
  · exact outputIntegrity_eq (henv.document _ _ hprocessed)
  refine forall_events_ofExcept_bind fun normalized _ => ?_
  refine forall_events_bind (observeSlides_honest hslides) fun slides _ => ?_
  refine forall_events_emit_bind manifestWrite_honest ?_
  exact forall_events_ofExcept_bind fun _ _ _ h => by cases h

end Honest

/-! ### Begun workflows -/

section Begin

variable {address : String → PublishedObject} {rt : Runtime} {streamed : List UInt8}
  {env : TargetEnvironment} {input : RunPublicationWorkflowInput} {db db' : Db}
  {observed : Observed PublishObjectInput RegistryError PreparedPublication}
  {Q : Observed PublishObjectInput RegistryError PreparedPublication → Prop}

/-- A property of the observed preparation of every version that may begin holds of the one that
begins. -/
theorem beginPhase_observed {ε : Type} {store : PublicationStore ε}
    {observe : TargetEnvironment → String → CanonicalVersionRecord ε →
      Observed PublishObjectInput RegistryError PreparedPublication}
    (hobserve : ∀ version, (∃ db₁, store.begin input.versionId db = .ok (version, db₁)) →
      Q (observe env input.deliveryScopeId version))
    (h : beginPhase store observe env input db = (.ok observed, db')) : Q observed := by
  rw [beginPhase] at h
  split at h
  · cases h
  · rename_i version _ hbegin
    cases h
    refine hobserve version ⟨db', ?_⟩
    unfold Interruption.transact at hbegin
    split at hbegin
    · rw [transact] at hbegin
      split at hbegin
      · rename_i hok
        cases hbegin
        exact hok
      · cases hbegin
    · cases hbegin
    · cases hbegin

/-- What holds of the writes of every kind holds of those of a workflow that has begun. -/
theorem PublicationKind.beginPhase_observed {kind : PublicationKind}
    (hgeneric : kind = .genericAsset → ∀ version,
      (∃ db₁, genericAssetPublicationStore.begin input.versionId db = .ok (version, db₁)) →
        Q (observeGenericAsset rt env input.deliveryScopeId version))
    (himage : ∀ version, Q (observeImage rt env input.deliveryScopeId version))
    (hpresentation : ∀ version, Q (observePresentation rt env input.deliveryScopeId version))
    (h : kind.beginPhase rt env input db = (.ok observed, db')) : Q observed := by
  cases kind with
  | genericAsset =>
      rw [PublicationKind.beginPhase] at h
      exact Cdngine.beginPhase_observed (hgeneric rfl) h
  | image =>
      rw [PublicationKind.beginPhase] at h
      exact Cdngine.beginPhase_observed (fun version _ => himage version) h
  | presentation =>
      rw [PublicationKind.beginPhase] at h
      exact Cdngine.beginPhase_observed (fun version _ => hpresentation version) h

/-- **What a workflow prepares, it has written.** -/
theorem PublicationKind.beginPhase_writtenBy (henv : env.WritesTo address) {kind : PublicationKind}
    (h : kind.beginPhase rt env input db = (.ok observed, db')) :
    ∀ prepared, observed.result = .ok prepared → prepared.WrittenBy address observed.events :=
  beginPhase_observed
    (Q := fun observed => ∀ prepared, observed.result = .ok prepared →
      prepared.WrittenBy address observed.events)
    (fun _ _ _ _ => observeGenericAsset_writtenBy henv) (fun _ _ => observeImage_writtenBy henv)
    (fun _ _ => observePresentation_writtenBy henv) h

/-- What a generic publication takes over from the version that it begins is the digest of what its
processor returns. -/
def PublicationKind.TakesOwnDigest (rt : Runtime) (streamed : List UInt8) (env : TargetEnvironment)
    (input : RunPublicationWorkflowInput) (db : Db) (kind : PublicationKind) : Prop :=
  kind = .genericAsset → ∀ version,
    (∃ db₁, genericAssetPublicationStore.begin input.versionId db = .ok (version, db₁)) →
      env.TakesOwnDigest rt streamed version

/-- **Every write of a workflow is honest**, also of one that fails. -/
theorem PublicationKind.beginPhase_honest (henv : env.Honest rt streamed) {kind : PublicationKind}
    (htakes : kind.TakesOwnDigest rt streamed env input db)
    (h : kind.beginPhase rt env input db = (.ok observed, db')) :
    ∀ write ∈ observed.events, write.Honest rt streamed :=
  beginPhase_observed (Q := fun observed => ∀ write ∈ observed.events, write.Honest rt streamed)
    (fun hkind version hbegun => observeGenericAsset_honest henv (htakes hkind version hbegun))
    (fun _ => observeImage_honest henv) (fun _ => observePresentation_honest henv) h

end Begin

end Cdngine
