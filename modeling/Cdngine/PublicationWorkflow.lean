import Cdngine.JsonText
import Cdngine.Publication

/-!
# Publication Workflows

The three workflows that publish one version to one delivery scope: begin the
publication, process the source, write the derivatives and the manifest to the object
store, and record them in the registry. The part between the two transactions
(`prepareGenericAsset`, `prepareImage`, `preparePresentation`) reads no table; it depends on
the record of the begun version and on what the processor, the object store and the clock
return (`TargetEnvironment`).

## Main results

* `PublicationKind.prepare_spec`: what the prepared derivatives and manifest of a version
  say, whatever the processor returns: their scope, keys and order.
* `PublicationKind.prepare_succeeds_iff`: when the dependencies succeed, only a generic
  asset without a stable checksum cannot be prepared.
-/

open Relational

namespace Cdngine

/-! ### Recipes and keys -/

/-- A recipe as a workflow is bound to it. -/
structure RecipeBinding where
  capabilityId : String
  contentType : String
  manifestType : String
  recipeId : String
  schemaVersion : String
  variantKey : String
  workflowTemplateId : String
  deriving DecidableEq, Repr

/-- The recipe of generic assets, which `defaultGenericRecipeBindings` registers. -/
def preserveOriginalBinding : RecipeBinding where
  capabilityId := "asset.generic"
  contentType := "application/octet-stream"
  manifestType := "generic-asset-default"
  recipeId := "preserve-original"
  schemaVersion := "v1"
  variantKey := "preserve-original"
  workflowTemplateId := "asset-derivation-v1"

/-- The recipes that every image is derived by. -/
def defaultImageRecipeBindings : List RecipeBinding :=
  [{ capabilityId := "image.default"
     contentType := "image/webp"
     manifestType := "image-default"
     recipeId := "webp-master"
     schemaVersion := "v1"
     variantKey := "webp-master"
     workflowTemplateId := "image-derivation-v1" },
    { capabilityId := "image.default"
      contentType := "image/webp"
      manifestType := "image-default"
      recipeId := "thumbnail-small"
      schemaVersion := "v1"
      variantKey := "thumbnail-small"
      workflowTemplateId := "image-derivation-v1" }]

/-- The recipe of normalized presentations. -/
def normalizedPdfBinding : RecipeBinding where
  capabilityId := "presentation.default"
  contentType := "application/pdf"
  manifestType := "presentation-default"
  recipeId := "normalized-pdf"
  schemaVersion := "v1"
  variantKey := "normalized-pdf"
  workflowTemplateId := "presentation-normalization-v1"

/-- The recipe of the slides of a presentation. -/
def slideImagesBinding : RecipeBinding where
  capabilityId := "presentation.default"
  contentType := "image/webp"
  manifestType := "presentation-default"
  recipeId := "slide-images"
  schemaVersion := "v1"
  variantKey := "slide-\x7bpageNumber\x7d"
  workflowTemplateId := "presentation-normalization-v1"

/-- What the key of a derivative is made of. -/
structure DeterministicDerivativeKeyInput where
  assetId : String
  recipeId : String
  serviceNamespaceId : String
  variantKey : String
  versionId : String

/-- What the object key of a manifest is made of. -/
structure ManifestObjectKeyInput where
  assetId : String
  manifestType : String
  serviceNamespaceId : String
  versionId : String

/-- The key of a derivative, which names neither the schema version nor the delivery scope. -/
def buildDeterministicDerivativeKey (input : DeterministicDerivativeKeyInput) : String :=
  "deriv/" ++ input.serviceNamespaceId ++ "/" ++ input.assetId ++ "/" ++ input.versionId ++ "/" ++
    input.recipeId ++ "/" ++ input.variantKey

/-- The object key of a manifest. -/
def buildManifestObjectKey (input : ManifestObjectKeyInput) : String :=
  "manifests/" ++ input.serviceNamespaceId ++ "/" ++ input.assetId ++ "/" ++
    input.versionId ++ "/" ++
    input.manifestType ++ ".json"

/-! ### Dependencies -/

/-- A body that is held in memory. -/
inductive InlineBody
  | bytes (body : List UInt8)
  | text (body : String)
  deriving DecidableEq, Repr

/-- A body that is written to the object store. -/
inductive ObjectBody
  | inline (body : InlineBody)
  | readable
  deriving DecidableEq, Repr

/-- An object that a workflow sends to the derived store. -/
structure PublishObjectInput where
  body : ObjectBody
  byteLength : Int
  checksum : ObjectChecksum
  contentType : String
  objectKey : String
  deriving DecidableEq, Repr

/-- Where the derived store has put an object. -/
structure PublishedObject where
  bucket : String
  key : String
  deriving DecidableEq, Repr

/-- What the processor of generic assets is given. -/
structure GenericAssetDerivativeActivityInput where
  assetId : String
  canonicalSourceEvidence : GenericCanonicalSourceEvidenceRecord
  recipeBinding : RecipeBinding
  sourceContentType : String
  sourceFilename : String
  versionId : String

/-- What the processor of generic assets returns; it may report no length and no checksum. -/
structure GenericAssetDerivativeActivityResult where
  body : ObjectBody
  byteLength : Int
  checksum : Option ObjectChecksum := none
  contentType : String
  metadata : Option (List (String × JsValue)) := none

/-- What the image processor is given for one recipe. -/
structure ImageDerivativeActivityInput where
  canonicalSourceId : String
  recipeBinding : RecipeBinding
  sourceContentType : String
  sourceFilename : String

/-- What the image processor returns for one recipe. -/
structure ImageDerivativeActivityResult where
  body : InlineBody
  byteLength : Int
  checksum : Option ObjectChecksum := none
  contentType : String
  metadata : Option (List (String × JsValue)) := none

/-- What the presentation processor is given. -/
structure PresentationProcessingActivityInput where
  canonicalSourceId : String
  normalizedDocumentRecipeBinding : RecipeBinding
  slideImageRecipeBinding : RecipeBinding
  sourceContentType : String
  sourceFilename : String

/-- A document that the presentation processor returns. -/
structure PresentationDerivativeOutput where
  body : InlineBody
  byteLength : Int
  checksum : Option ObjectChecksum := none
  contentType : String

/-- A slide that the presentation processor returns, with its page. -/
structure PresentationSlideOutput extends PresentationDerivativeOutput where
  pageNumber : Rat

/-- What the presentation processor returns: the normalized document and its slides. -/
structure PresentationProcessingActivityResult where
  normalizedDocument : PresentationDerivativeOutput
  slides : List PresentationSlideOutput

/-- How a call of a store ends: as its transaction does, or with an error of the
connection before the transaction begins or after it has committed. -/
inductive Interruption
  | none
  | before (e : RegistryError)
  | after (e : RegistryError)
  deriving DecidableEq, Repr

/-- A transaction under an interruption. -/
def Interruption.transact {α : Type} (interruption : Interruption) (tx : Transaction α) (db : Db) :
    Except RegistryError α × Db :=
  match interruption with
  | .none => Cdngine.transact tx db
  | .before e => (.error e, db)
  | .after e => (.error e, (Cdngine.transact tx db).2)

/-- What the processor, the object store, the clock and the connections return while one
version is published to one delivery scope; a number counts the writes of the object
store. -/
structure TargetEnvironment where
  beginning : Interruption := .none
  publishing : Interruption := .none
  processAssetDerivative : GenericAssetDerivativeActivityInput →
    Except RegistryError GenericAssetDerivativeActivityResult
  processDerivative : ImageDerivativeActivityInput →
    Except RegistryError ImageDerivativeActivityResult
  processPresentation : PresentationProcessingActivityInput →
    Except RegistryError PresentationProcessingActivityResult
  publishObject : Nat → PublishObjectInput → Except RegistryError PublishedObject
  publishedAt : Nat → Instant
  manifestGeneratedAt : Instant
  manifestPublishedAt : Instant

/-! ### Derivatives -/

/-- The length and the digest of a body. -/
def hashBody (rt : Runtime) (body : InlineBody) : Int × ObjectChecksum :=
  let buffer :=
    match body with
    | .text text => utf8Bytes text
    | .bytes bytes => bytes
  (buffer.length, ⟨"sha256", rt.sha256Hex buffer⟩)

/-- A digest of the canonical source, as it is read back from its column. -/
def asObjectChecksum : Json → Option ObjectChecksum
  | .object entries =>
      match entries.lookup "algorithm", entries.lookup "value" with
      | some (.string algorithm), some (.string value) => some ⟨algorithm, value⟩
      | _, _ => none
  | _ => none

/-- The digest of the canonical source that a derivative without one takes over. -/
def sha256Digest (evidence : GenericCanonicalSourceEvidenceRecord) : Option ObjectChecksum :=
  (evidence.canonicalDigestSet.filterMap asObjectChecksum).find? fun digest =>
    digest.algorithm == "sha256"

/-- The length and the checksum of a generic asset: those its processor reports, the digest of its
source, or those of the body that it holds in memory. -/
def resolveChecksum (rt : Runtime) (result : GenericAssetDerivativeActivityResult)
    (version : CanonicalVersionRecord GenericCanonicalSourceEvidenceRecord) :
    Except RegistryError (Int × ObjectChecksum) :=
  match result.checksum with
  | some checksum => .ok (result.byteLength, checksum)
  | none =>
      match sha256Digest version.evidence with
      | some checksum => .ok (result.byteLength, checksum)
      | none =>
          match result.body with
          | .inline body => .ok (hashBody rt body)
          | .readable =>
              .error (.plain ("Generic asset version " ++ quoted version.versionId ++
                " is missing a stable checksum for preserve-original publication."))

/-- The length and the digest of an output whose processor may have computed them. -/
def outputIntegrity (rt : Runtime) (byteLength : Int) (checksum : Option ObjectChecksum)
    (body : InlineBody) : Int × ObjectChecksum :=
  match checksum with
  | some checksum => (byteLength, checksum)
  | none => hashBody rt body

/-- The identity of a version that keys and manifests name. -/
structure VersionIdentity where
  assetId : String
  serviceNamespaceId : String
  versionId : String
  deriving DecidableEq, Repr

/-- The identity of a version that a workflow has begun. -/
def CanonicalVersionRecord.identity {ε : Type} (version : CanonicalVersionRecord ε) :
    VersionIdentity where
  assetId := version.assetId
  serviceNamespaceId := version.serviceNamespaceId
  versionId := version.versionId

/-- The deterministic key of a derivative of a version. -/
def VersionIdentity.derivativeKey (version : VersionIdentity) (recipeId variantKey : String) :
    String :=
  buildDeterministicDerivativeKey
    { assetId := version.assetId
      recipeId
      serviceNamespaceId := version.serviceNamespaceId
      variantKey
      versionId := version.versionId }

/-- Write a derivative to the object store, as the `n`-th write of its workflow, and
record it. -/
def publishDerivative (env : TargetEnvironment) (n : Nat) (version : VersionIdentity)
    (deliveryScopeId : String) (recipe : RecipeBinding) (variantKey : String) (body : ObjectBody)
    (integrity : Int × ObjectChecksum) (contentType : String)
    (metadata : Option (List (String × JsValue))) (pageNumber : Option Rat) :
    Except RegistryError PublishedDerivativeRecord := do
  let deterministicKey := version.derivativeKey recipe.recipeId variantKey
  let publication ← env.publishObject n
    { body
      byteLength := integrity.1
      checksum := integrity.2
      contentType
      objectKey := deterministicKey }
  return {
    byteLength := integrity.1
    checksumValue := integrity.2.value
    contentType
    deliveryScopeId
    deterministicKey
    metadata
    pageNumber
    publishedAt := env.publishedAt n
    recipeId := recipe.recipeId
    schemaVersion := recipe.schemaVersion
    storageBucket := publication.bucket
    storageKey := publication.key
    variantKey }

/-! ### Manifests -/

/-- The entries of a derivative in a manifest. -/
def normalizeDerivative (derivative : PublishedDerivativeRecord) : List (String × Json) :=
  [("byteLength", (numberOfBigInt derivative.byteLength).toJson),
    ("checksum", .string derivative.checksumValue),
    ("contentType", .string derivative.contentType),
    ("deterministicKey", .string derivative.deterministicKey),
    ("recipeId", .string derivative.recipeId),
    ("schemaVersion", .string derivative.schemaVersion),
    ("variantKey", .string derivative.variantKey)]

/-- The manifest payload of a generic asset. -/
def buildGenericAssetManifest (version : VersionIdentity) (generatedAt : Instant)
    (manifestType : String) (preservedOriginal : PublishedDerivativeRecord) : Json :=
  .object
    [("assetId", .string version.assetId),
      ("generatedAt", .string (toISOString generatedAt)),
      ("manifestType", .string manifestType),
      ("preservedOriginal", .object (normalizeDerivative preservedOriginal)),
      ("schemaVersion", .string "v1"),
      ("serviceNamespaceId", .string version.serviceNamespaceId),
      ("versionId", .string version.versionId)]

/-- The manifest payload of an image. -/
def buildImageAssetManifest (rt : Runtime) (version : VersionIdentity) (generatedAt : Instant)
    (derivatives : List PublishedDerivativeRecord) : Json :=
  let sorted := sortBy (fun left right : PublishedDerivativeRecord =>
    (rt.localeCompare left.deterministicKey right.deterministicKey).isLE) derivatives
  .object
    [("assetId", .string version.assetId),
      ("derivatives", .array (sorted.map fun d => .object (normalizeDerivative d))),
      ("generatedAt", .string (toISOString generatedAt)),
      ("manifestType", .string "image-default"),
      ("schemaVersion", .string "v1"),
      ("serviceNamespaceId", .string version.serviceNamespaceId),
      ("versionId", .string version.versionId)]

/-- The page of a slide in a manifest. -/
def PublishedDerivativeRecord.page (derivative : PublishedDerivativeRecord) : Rat :=
  derivative.pageNumber.getD 0

/-- The order of the slides of a manifest: by page, then by key. -/
def slideBefore (rt : Runtime) (left right : PublishedDerivativeRecord) : Bool :=
  left.page < right.page ||
    left.page = right.page && (rt.localeCompare left.deterministicKey right.deterministicKey).isLE

/-- The manifest payload of a presentation. -/
def buildPresentationAssetManifest (rt : Runtime) (version : VersionIdentity)
    (generatedAt : Instant) (normalizedDocument : PublishedDerivativeRecord)
    (slides : List PublishedDerivativeRecord) : Json :=
  .object
    [("assetId", .string version.assetId),
      ("generatedAt", .string (toISOString generatedAt)),
      ("manifestType", .string "presentation-default"),
      ("normalizedDocument", .object (normalizeDerivative normalizedDocument)),
      ("schemaVersion", .string "v1"),
      ("serviceNamespaceId", .string version.serviceNamespaceId),
      ("slides", .array ((sortBy (slideBefore rt) slides).map fun slide =>
        .object (normalizeDerivative slide ++ [("pageNumber", .number slide.page)]))),
      ("versionId", .string version.versionId)]

/-- Write a manifest to the object store, as the `n`-th write of its workflow, and record
it. Parsing its text gives the payload back. -/
def publishManifest (rt : Runtime) (env : TargetEnvironment) (n : Nat) (version : VersionIdentity)
    (deliveryScopeId manifestType : String) (payload : Json) :
    Except RegistryError PublishedManifestRecord := do
  let body := InlineBody.text (stringifyIndented rt 0 payload)
  let integrity := hashBody rt body
  let publication ← env.publishObject n
    { body := .inline body
      byteLength := integrity.1
      checksum := integrity.2
      contentType := "application/json"
      objectKey := buildManifestObjectKey
        { assetId := version.assetId
          manifestType
          serviceNamespaceId := version.serviceNamespaceId
          versionId := version.versionId } }
  return {
    checksumValue := integrity.2.value
    deliveryScopeId
    manifestPayload := payload.toJs
    manifestType
    objectKey := publication.key
    publishedAt := env.manifestPublishedAt
    schemaVersion := "v1" }

/-! ### Preparation -/

/-- The derivatives and the manifest that a workflow hands to its store. -/
structure PreparedPublication where
  derivatives : List PublishedDerivativeRecord
  manifest : PublishedManifestRecord

/-- What the workflow of a generic asset asks its processor for. -/
def genericAssetActivityInput
    (version : CanonicalVersionRecord GenericCanonicalSourceEvidenceRecord) :
    GenericAssetDerivativeActivityInput where
  assetId := version.assetId
  canonicalSourceEvidence := version.evidence
  recipeBinding := preserveOriginalBinding
  sourceContentType := version.detectedContentType
  sourceFilename := version.sourceFilename
  versionId := version.versionId

/-- The derivative and the manifest of a generic asset. -/
def prepareGenericAsset (rt : Runtime) (env : TargetEnvironment) (deliveryScopeId : String)
    (version : CanonicalVersionRecord GenericCanonicalSourceEvidenceRecord) :
    Except RegistryError PreparedPublication := do
  let recipeBinding := preserveOriginalBinding
  let processed ← env.processAssetDerivative (genericAssetActivityInput version)
  let integrity ← resolveChecksum rt processed version
  let derivative ← publishDerivative env 0 version.identity deliveryScopeId recipeBinding
    recipeBinding.variantKey processed.body integrity processed.contentType processed.metadata none
  let manifest ← publishManifest rt env 1 version.identity deliveryScopeId
    recipeBinding.manifestType
    (buildGenericAssetManifest version.identity env.manifestGeneratedAt recipeBinding.manifestType
      derivative)
  return { derivatives := [derivative], manifest }

/-- Process and write the derivatives of an image, one for each recipe, from the `n`-th
write on. -/
def publishImageDerivatives (rt : Runtime) (env : TargetEnvironment) (deliveryScopeId : String)
    (version : CanonicalVersionRecord CanonicalSourceIdentity) :
    Nat → List RecipeBinding → Except RegistryError (List PublishedDerivativeRecord)
  | _, [] => .ok []
  | n, recipeBinding :: recipeBindings => do
      let processed ← env.processDerivative
        { canonicalSourceId := version.evidence.canonicalSourceId
          recipeBinding
          sourceContentType := version.detectedContentType
          sourceFilename := version.sourceFilename }
      let derivative ← publishDerivative env n version.identity deliveryScopeId recipeBinding
        recipeBinding.variantKey (.inline processed.body)
        (outputIntegrity rt processed.byteLength processed.checksum processed.body)
        processed.contentType processed.metadata none
      let derivatives ← publishImageDerivatives rt env deliveryScopeId version
        (n + 1) recipeBindings
      return derivative :: derivatives

/-- The derivatives of an image, one for each recipe, and its manifest. -/
def prepareImage (rt : Runtime) (env : TargetEnvironment) (deliveryScopeId : String)
    (version : CanonicalVersionRecord CanonicalSourceIdentity) :
    Except RegistryError PreparedPublication := do
  let derivatives ← publishImageDerivatives rt env deliveryScopeId version 0
    defaultImageRecipeBindings
  let manifest ← publishManifest rt env derivatives.length version.identity deliveryScopeId
    "image-default"
    (buildImageAssetManifest rt version.identity env.manifestGeneratedAt derivatives)
  return { derivatives, manifest }

/-- The variant of a slide: its page, of three digits at least. -/
def deriveSlideVariantKey (rt : Runtime) (pageNumber : Rat) : String :=
  "slide-" ++ padStart (renderNumber rt pageNumber) 3 '0'

/-- Write the slides of a presentation, from the `n`-th write on. -/
def publishSlides (rt : Runtime) (env : TargetEnvironment) (deliveryScopeId : String)
    (version : VersionIdentity) :
    Nat → List PresentationSlideOutput → Except RegistryError (List PublishedDerivativeRecord)
  | _, [] => .ok []
  | n, slide :: slides => do
      let derivative ← publishDerivative env n version deliveryScopeId slideImagesBinding
        (deriveSlideVariantKey rt slide.pageNumber) (.inline slide.body)
        (outputIntegrity rt slide.byteLength slide.checksum slide.body) slide.contentType none
        (some slide.pageNumber)
      let derivatives ← publishSlides rt env deliveryScopeId version (n + 1) slides
      return derivative :: derivatives

/-- What the workflow of a presentation asks its processor for. -/
def presentationActivityInput (version : CanonicalVersionRecord CanonicalSourceIdentity) :
    PresentationProcessingActivityInput where
  canonicalSourceId := version.evidence.canonicalSourceId
  normalizedDocumentRecipeBinding := normalizedPdfBinding
  slideImageRecipeBinding := slideImagesBinding
  sourceContentType := version.detectedContentType
  sourceFilename := version.sourceFilename

/-- The slides of a presentation, in the order in which they are written. -/
def PresentationProcessingActivityResult.sortedSlides
    (processed : PresentationProcessingActivityResult) : List PresentationSlideOutput :=
  sortBy (fun left right => left.pageNumber ≤ right.pageNumber) processed.slides

/-- The normalized document and the slides of a presentation, and its manifest. -/
def preparePresentation (rt : Runtime) (env : TargetEnvironment) (deliveryScopeId : String)
    (version : CanonicalVersionRecord CanonicalSourceIdentity) :
    Except RegistryError PreparedPublication := do
  let processed ← env.processPresentation (presentationActivityInput version)
  let document := processed.normalizedDocument
  let normalizedDerivative ← publishDerivative env 0 version.identity deliveryScopeId
    normalizedPdfBinding "normalized-pdf" (.inline document.body)
    (outputIntegrity rt document.byteLength document.checksum document.body) document.contentType
    none none
  let slides ← publishSlides rt env deliveryScopeId version.identity 1 processed.sortedSlides
  let manifest ← publishManifest rt env (slides.length + 1) version.identity deliveryScopeId
    "presentation-default"
    (buildPresentationAssetManifest rt version.identity env.manifestGeneratedAt normalizedDerivative
      ((normalizedDerivative :: slides).filter fun d => d.recipeId == "slide-images"))
  return { derivatives := normalizedDerivative :: slides, manifest }

/-! ### Workflows -/

/-- What a publication workflow is started with. -/
structure RunPublicationWorkflowInput where
  deliveryScopeId : String
  versionId : String

/-- What a publication workflow returns. -/
structure PublicationWorkflowResult (ε : Type) where
  derivatives : List PublishedDerivativeRecord
  manifest : PublishedManifestRecord
  version : CanonicalVersionRecord ε

/-- A publication workflow: the transaction that begins, the preparation, and the
transaction that publishes. -/
def runPublicationWorkflow {ε : Type} (store : PublicationStore ε)
    (prepare : TargetEnvironment → String → CanonicalVersionRecord ε →
      Except RegistryError PreparedPublication)
    (rt : Runtime) (env : TargetEnvironment) (input : RunPublicationWorkflowInput) (db : Db) :
    Except RegistryError (PublicationWorkflowResult ε) × Db :=
  match env.beginning.transact (store.begin input.versionId) db with
  | (.error e, db) => (.error e, db)
  | (.ok version, db) =>
      match prepare env input.deliveryScopeId version with
      | .error e => (.error e, db)
      | .ok prepared =>
          match env.publishing.transact (store.publish rt input.versionId input.deliveryScopeId
            prepared.derivatives prepared.manifest) db with
          | (.error e, db) => (.error e, db)
          | (.ok version, db) =>
              (.ok { derivatives := prepared.derivatives, manifest := prepared.manifest, version },
                db)

/-- The workflow of a generic asset. -/
def runGenericAssetPublicationWorkflow (rt : Runtime) :=
  runPublicationWorkflow genericAssetPublicationStore (prepareGenericAsset rt) rt

/-- The workflow of an image. -/
def runImagePublicationWorkflow (rt : Runtime) :=
  runPublicationWorkflow imagePublicationStore (prepareImage rt) rt

/-- The workflow of a presentation. -/
def runPresentationPublicationWorkflow (rt : Runtime) :=
  runPublicationWorkflow presentationPublicationStore (preparePresentation rt) rt

/-- The version that a publication row names. -/
def PublicationRow.identity (row : PublicationRow) : VersionIdentity where
  assetId := row.version.assetId
  serviceNamespaceId := row.serviceNamespaceId
  versionId := row.version.id

namespace PublicationKind

/-- The workflow template that a kind of publication executes. -/
def workflowTemplateId : PublicationKind → String
  | .genericAsset => "asset-derivation-v1"
  | .image => "image-derivation-v1"
  | .presentation => "presentation-normalization-v1"

/-- The type of the manifest of a kind. -/
def manifestType : PublicationKind → String
  | .genericAsset => "generic-asset-default"
  | .image => "image-default"
  | .presentation => "presentation-default"

/-- Run the workflow of a kind for one delivery scope. -/
def run (rt : Runtime) (env : TargetEnvironment) (input : RunPublicationWorkflowInput) (db : Db) :
    PublicationKind → Except RegistryError Unit × Db
  | .genericAsset => (runGenericAssetPublicationWorkflow rt env input db).map (·.map fun _ => ()) id
  | .image => (runImagePublicationWorkflow rt env input db).map (·.map fun _ => ()) id
  | .presentation => (runPresentationPublicationWorkflow rt env input db).map (·.map fun _ => ()) id

/-- The part of a workflow between its transactions, on the row of its version. -/
def prepare (rt : Runtime) (env : TargetEnvironment) (deliveryScopeId : String)
    (row : PublicationRow) : PublicationKind → Except RegistryError PreparedPublication
  | .genericAsset => genericAssetPublicationStore.mapVersion row .processing >>=
      prepareGenericAsset rt env deliveryScopeId
  | .image => imagePublicationStore.mapVersion row .processing >>=
      prepareImage rt env deliveryScopeId
  | .presentation => presentationPublicationStore.mapVersion row .processing >>=
      preparePresentation rt env deliveryScopeId

/-- The pages of a presentation, as its processor returns them. -/
def pages (env : TargetEnvironment) (row : PublicationRow) : List Rat :=
  match presentationPublicationStore.mapVersion row .processing >>= fun version =>
    env.processPresentation (presentationActivityInput version) with
  | .ok processed => processed.sortedSlides.map (·.pageNumber)
  | .error _ => []

/-- The recipe and variant of every derivative of a kind, in the order in which they are
written. -/
def variants (rt : Runtime) (env : TargetEnvironment) (row : PublicationRow) :
    PublicationKind → List (String × String)
  | .genericAsset => [("preserve-original", "preserve-original")]
  | .image => [("webp-master", "webp-master"), ("thumbnail-small", "thumbnail-small")]
  | .presentation => ("normalized-pdf", "normalized-pdf") ::
      (pages env row).map fun page => ("slide-images", deriveSlideVariantKey rt page)

/-- The deterministic key and the slot of a derivative of a version. -/
def place (row : PublicationRow) (deliveryScopeId : String) (variant : String × String) :
    String × DerivativeSlot :=
  (row.identity.derivativeKey variant.1 variant.2,
    (row.version.id, deliveryScopeId, variant.1, "v1", variant.2))

/-- The deterministic key and the slot of every derivative of a kind, in one delivery
scope. -/
def places (rt : Runtime) (env : TargetEnvironment) (deliveryScopeId : String)
    (row : PublicationRow) (kind : PublicationKind) : List (String × DerivativeSlot) :=
  (kind.variants rt env row).map (place row deliveryScopeId)

end PublicationKind

/-! ### What is prepared -/

section Prepared

variable {rt : Runtime} {env : TargetEnvironment} {deliveryScopeId : String}

/-- A mapped row has the identity of the row. -/
theorem PublicationStore.mapVersion_identity {ε : Type} {store : PublicationStore ε}
    {row : PublicationRow} {state : AssetVersionState} {record : CanonicalVersionRecord ε}
    (h : store.mapVersion row state = .ok record) : record.identity = row.identity := by
  obtain ⟨evidence, -, h⟩ := bind_eq_ok.mp h
  obtain rfl := Except.ok.inj h
  rfl

/-- A derivative is recorded under the key and in the slot of its recipe and variant. -/
theorem publishDerivative_place {n : Nat} {version : VersionIdentity} {recipe : RecipeBinding}
    {variantKey : String} {body : ObjectBody} {integrity : Int × ObjectChecksum}
    {contentType : String} {metadata : Option (List (String × JsValue))} {pageNumber : Option Rat}
    {derivative : PublishedDerivativeRecord}
    (h : publishDerivative env n version deliveryScopeId recipe variantKey body integrity
      contentType metadata pageNumber = .ok derivative) :
    derivative.place version.versionId =
      (version.derivativeKey recipe.recipeId variantKey,
        (version.versionId, deliveryScopeId, recipe.recipeId, recipe.schemaVersion,
          variantKey)) := by
  obtain ⟨publication, -, h⟩ := bind_eq_ok.mp h
  obtain rfl := Except.ok.inj h
  rfl

/-- A manifest is recorded under its type. -/
theorem publishManifest_manifestType {n : Nat} {version : VersionIdentity} {manifestType : String}
    {payload : Json} {manifest : PublishedManifestRecord}
    (h : publishManifest rt env n version deliveryScopeId manifestType payload = .ok manifest) :
    manifest.manifestType = manifestType := by
  obtain ⟨publication, -, h⟩ := bind_eq_ok.mp h
  obtain rfl := Except.ok.inj h
  rfl

/-- The derivatives of an image are recorded in the places of their recipes, in order. -/
theorem publishImageDerivatives_places {version : CanonicalVersionRecord CanonicalSourceIdentity}
    {n : Nat} {recipeBindings : List RecipeBinding} {derivatives : List PublishedDerivativeRecord}
    (h : publishImageDerivatives rt env deliveryScopeId version n recipeBindings =
      .ok derivatives) :
    derivatives.map (·.place version.versionId) = recipeBindings.map fun recipe =>
      (version.identity.derivativeKey recipe.recipeId recipe.variantKey,
        (version.versionId, deliveryScopeId, recipe.recipeId, recipe.schemaVersion,
          recipe.variantKey)) := by
  induction recipeBindings generalizing n derivatives with
  | nil =>
      obtain rfl := Except.ok.inj h
      rfl
  | cons recipe recipes ih =>
      obtain ⟨processed, -, h⟩ := bind_eq_ok.mp h
      obtain ⟨derivative, hderivative, h⟩ := bind_eq_ok.mp h
      obtain ⟨ds, hds, h⟩ := bind_eq_ok.mp h
      obtain rfl := Except.ok.inj h
      rw [List.map_cons, List.map_cons, ih hds]
      exact congrArg₂ List.cons (publishDerivative_place hderivative) rfl

/-- The slides of a presentation are recorded in the places of their pages, in order. -/
theorem publishSlides_places {version : VersionIdentity} {n : Nat}
    {slides : List PresentationSlideOutput} {derivatives : List PublishedDerivativeRecord}
    (h : publishSlides rt env deliveryScopeId version n slides = .ok derivatives) :
    derivatives.map (·.place version.versionId) = slides.map fun slide =>
      (version.derivativeKey "slide-images" (deriveSlideVariantKey rt slide.pageNumber),
        (version.versionId, deliveryScopeId, "slide-images", "v1",
          deriveSlideVariantKey rt slide.pageNumber)) := by
  induction slides generalizing n derivatives with
  | nil =>
      obtain rfl := Except.ok.inj h
      rfl
  | cons slide slides ih =>
      obtain ⟨derivative, hderivative, h⟩ := bind_eq_ok.mp h
      obtain ⟨ds, hds, h⟩ := bind_eq_ok.mp h
      obtain rfl := Except.ok.inj h
      rw [List.map_cons, List.map_cons, ih hds, publishDerivative_place hderivative]
      rfl

namespace PublicationKind

variable {row : PublicationRow} {prepared : PreparedPublication}

/-- **What is prepared**, whatever the processor returns: the derivatives of the kind's
variants, in their order, and a manifest of its type. -/
theorem prepare_spec {kind : PublicationKind}
    (h : kind.prepare rt env deliveryScopeId row = .ok prepared) :
    prepared.derivatives.map (·.place row.version.id) = kind.places rt env deliveryScopeId row ∧
      prepared.manifest.manifestType = kind.manifestType := by
  cases kind with
  | genericAsset =>
      obtain ⟨version, hversion, h⟩ := bind_eq_ok.mp h
      have hid := PublicationStore.mapVersion_identity hversion
      obtain ⟨processed, -, h⟩ := bind_eq_ok.mp h
      obtain ⟨integrity, -, h⟩ := bind_eq_ok.mp h
      obtain ⟨derivative, hderivative, h⟩ := bind_eq_ok.mp h
      obtain ⟨manifest, hmanifest, h⟩ := bind_eq_ok.mp h
      obtain rfl := Except.ok.inj h
      rw [hid] at hderivative
      exact ⟨congrArg (fun place => [place]) (publishDerivative_place hderivative),
        publishManifest_manifestType hmanifest⟩
  | image =>
      obtain ⟨version, hversion, h⟩ := bind_eq_ok.mp h
      have hid := PublicationStore.mapVersion_identity hversion
      obtain ⟨derivatives, hderivatives, h⟩ := bind_eq_ok.mp h
      obtain ⟨manifest, hmanifest, h⟩ := bind_eq_ok.mp h
      obtain rfl := Except.ok.inj h
      have hplaces := publishImageDerivatives_places hderivatives
      rw [hid, show version.versionId = row.version.id from congrArg VersionIdentity.versionId hid]
        at hplaces
      exact ⟨hplaces, publishManifest_manifestType hmanifest⟩
  | presentation =>
      obtain ⟨version, hversion, h⟩ := bind_eq_ok.mp h
      have hid := PublicationStore.mapVersion_identity hversion
      obtain ⟨processed, hprocessed, h⟩ := bind_eq_ok.mp h
      obtain ⟨normalized, hnormalized, h⟩ := bind_eq_ok.mp h
      obtain ⟨slides, hslides, h⟩ := bind_eq_ok.mp h
      obtain ⟨manifest, hmanifest, h⟩ := bind_eq_ok.mp h
      obtain rfl := Except.ok.inj h
      have hpages : pages env row = processed.sortedSlides.map (·.pageNumber) := by
        unfold pages
        rw [bind_eq_ok.mpr ⟨version, hversion, hprocessed⟩]
      rw [hid] at hnormalized hslides
      refine ⟨?_, publishManifest_manifestType hmanifest⟩
      rw [places, variants, hpages, List.map_cons, List.map_cons, List.map_map, List.map_map]
      exact congrArg₂ List.cons (publishDerivative_place hnormalized) (publishSlides_places hslides)

end PublicationKind

end Prepared

/-! ### Keys and slots -/

/-- Deterministic keys of one version determine recipe and variant, as long as the recipe
ids have no slash. -/
theorem VersionIdentity.derivativeKey_inj (version : VersionIdentity)
    {recipe recipe' variant variant' : String} (h : '/' ∉ recipe.toList)
    (h' : '/' ∉ recipe'.toList) :
    version.derivativeKey recipe variant = version.derivativeKey recipe' variant' ↔
      recipe = recipe' ∧ variant = variant' := by
  have hkey : ∀ r v, version.derivativeKey r v = "deriv/" ++ version.serviceNamespaceId ++ "/" ++
      version.assetId ++ "/" ++ version.versionId ++ "/" ++ (r ++ ("/" ++ v)) := fun r v =>
    String.append_assoc.trans String.append_assoc
  constructor
  · intro heq
    rw [hkey, hkey, String.append_right_inj] at heq
    have hlist := congrArg String.toList heq
    have hsplit : ∀ r v : String, (r ++ ("/" ++ v)).toList = r.toList ++ '/' :: v.toList := by
      intro r v
      rw [String.toList_append, String.toList_append, show "/".toList = ['/'] by decide,
        List.singleton_append]
    rw [hsplit, hsplit] at hlist
    obtain ⟨hrecipe, hvariant⟩ := append_cons_inj_of_notMem h h' hlist
    exact ⟨String.toList_inj.mp hrecipe, String.toList_inj.mp hvariant⟩
  · rintro ⟨rfl, rfl⟩
    rfl

namespace PublicationKind

variable {rt : Runtime} {env : TargetEnvironment} {deliveryScopeId : String} {row : PublicationRow}

/-- The first variant of a kind, which no processor decides. -/
def headVariant : PublicationKind → String × String
  | .genericAsset => ("preserve-original", "preserve-original")
  | .image => ("webp-master", "webp-master")
  | .presentation => ("normalized-pdf", "normalized-pdf")

/-- Every kind has a first variant, whatever its processor returns. -/
theorem variants_eq_cons (kind : PublicationKind) (rt : Runtime) (env : TargetEnvironment)
    (row : PublicationRow) :
    ∃ later, kind.variants rt env row = kind.headVariant :: later := by
  cases kind <;> exact ⟨_, rfl⟩

/-- No recipe has a slash. -/
theorem recipe_notMem_slash {kind : PublicationKind} {variant : String × String}
    (h : variant ∈ kind.variants rt env row) : '/' ∉ variant.1.toList := by
  cases kind with
  | genericAsset =>
      obtain rfl := List.mem_singleton.mp h
      decide
  | image =>
      simp only [variants, List.mem_cons, List.not_mem_nil, or_false] at h
      rcases h with rfl | rfl <;> decide
  | presentation =>
      rcases List.mem_cons.mp h with rfl | h
      · decide
      · obtain ⟨page, -, rfl⟩ := List.mem_map.mp h
        show '/' ∉ "slide-images".toList
        decide

/-- Inside one publication, one deterministic key is one slot. -/
theorem places_key_iff {kind : PublicationKind} {place place' : String × DerivativeSlot}
    (h : place ∈ kind.places rt env deliveryScopeId row)
    (h' : place' ∈ kind.places rt env deliveryScopeId row) : place.1 = place'.1 ↔
    place.2 = place'.2 := by
  obtain ⟨variant, hvariant, rfl⟩ := List.mem_map.mp h
  obtain ⟨variant', hvariant', rfl⟩ := List.mem_map.mp h'
  simp only [PublicationKind.place, Prod.mk.injEq, true_and]
  exact row.identity.derivativeKey_inj (recipe_notMem_slash hvariant)
    (recipe_notMem_slash hvariant')

end PublicationKind

/-! ### When the dependencies succeed -/

/-- The processor of a kind of publication never fails. -/
def TargetEnvironment.Processes (env : TargetEnvironment) : PublicationKind → Prop
  | .genericAsset => ∀ input, ∃ result, env.processAssetDerivative input = .ok result
  | .image => ∀ input, ∃ result, env.processDerivative input = .ok result
  | .presentation => ∀ input, ∃ result, env.processPresentation input = .ok result

/-- Nothing that a publication depends on fails: its connections, its processor and the
object store. -/
structure TargetEnvironment.Succeeds (env : TargetEnvironment) (kind : PublicationKind) : Prop where
  beginning : env.beginning = .none
  publishing : env.publishing = .none
  processes : env.Processes kind
  publishes : ∀ n input, ∃ publication, env.publishObject n input = .ok publication

/-- A generic derivative has a checksum: its own, the digest of the canonical source, or
that of a body in memory. -/
def GenericAssetDerivativeActivityResult.hasStableChecksum
    (result : GenericAssetDerivativeActivityResult)
    (evidence : GenericCanonicalSourceEvidenceRecord) : Bool :=
  result.checksum.isSome || (sha256Digest evidence).isSome || result.body != .readable

namespace PublicationKind

/-- The columns of the canonical evidence that the store of a kind requires. -/
def hasEvidence (version : AssetVersion) : PublicationKind → Bool
  | .genericAsset => (present version.repositoryEngine).isSome &&
      (present version.canonicalSourceId).isSome && (present version.canonicalSnapshotId).isSome &&
      (present version.canonicalLogicalPath).isSome
  | .image | .presentation => (present version.canonicalLogicalPath).isSome &&
      (present version.canonicalSourceId).isSome

/-- The derivative of a generic asset has a checksum; the other kinds hash their
outputs. -/
def hasStableChecksum (env : TargetEnvironment) (row : PublicationRow) : PublicationKind → Bool
  | .genericAsset =>
      match genericAssetPublicationStore.mapVersion row .processing with
      | .ok version =>
          match env.processAssetDerivative (genericAssetActivityInput version) with
          | .ok processed => processed.hasStableChecksum version.evidence
          | .error _ => false
      | .error _ => false
  | .image | .presentation => true

end PublicationKind

/-- A row is mapped when its evidence is. -/
theorem PublicationStore.exists_mapVersion_iff {ε : Type} (store : PublicationStore ε)
    (row : PublicationRow) (state : AssetVersionState) :
    (∃ record, store.mapVersion row state = .ok record) ↔
      ∃ evidence, store.mapEvidence row.version = .ok evidence := by
  constructor
  · rintro ⟨record, h⟩
    obtain ⟨evidence, hevidence, -⟩ := bind_eq_ok.mp h
    exact ⟨evidence, hevidence⟩
  · rintro ⟨evidence, hevidence⟩
    exact ⟨_, bind_eq_ok.mpr ⟨evidence, hevidence, rfl⟩⟩

/-- The evidence that a generic asset needs. -/
theorem exists_mapCanonicalSourceEvidence_iff {v : AssetVersion} :
    (∃ evidence, mapCanonicalSourceEvidence v = .ok evidence) ↔
      PublicationKind.genericAsset.hasEvidence v = true := by
  unfold mapCanonicalSourceEvidence PublicationKind.hasEvidence
  cases present v.repositoryEngine <;> cases present v.canonicalSourceId <;>
    cases present v.canonicalSnapshotId <;> cases present v.canonicalLogicalPath <;> simp

/-- The evidence that an image or a presentation needs. -/
theorem exists_mapCanonicalSourceIdentity_iff {subject : String} {v : AssetVersion} :
    (∃ identity, mapCanonicalSourceIdentity subject v = .ok identity) ↔
      PublicationKind.image.hasEvidence v = true := by
  unfold mapCanonicalSourceIdentity PublicationKind.hasEvidence
  cases present v.canonicalLogicalPath <;> cases present v.canonicalSourceId <;> simp

section Succeeds

variable {rt : Runtime} {env : TargetEnvironment} {deliveryScopeId : String}

/-- A checksum is found when it is reported, when the source has one, or when the body is in
memory. -/
theorem resolveChecksum_ok_iff (rt : Runtime) {result : GenericAssetDerivativeActivityResult}
    {version : CanonicalVersionRecord GenericCanonicalSourceEvidenceRecord} :
    (∃ integrity, resolveChecksum rt result version = .ok integrity) ↔
      result.hasStableChecksum version.evidence = true := by
  unfold resolveChecksum GenericAssetDerivativeActivityResult.hasStableChecksum
  cases result.checksum with
  | some checksum => simp
  | none =>
      cases sha256Digest version.evidence with
      | some checksum => simp
      | none =>
          cases result.body with
          | inline body => simp
          | readable => simp

/-- A derivative is published when every write succeeds. -/
theorem publishDerivative_ok (deliveryScopeId : String)
    (h : ∀ n input, ∃ publication, env.publishObject n input = .ok publication) (n : Nat)
    (version : VersionIdentity) (recipe : RecipeBinding) (variantKey : String) (body : ObjectBody)
    (integrity : Int × ObjectChecksum) (contentType : String)
    (metadata : Option (List (String × JsValue))) (pageNumber : Option Rat) :
    ∃ derivative, publishDerivative env n version deliveryScopeId recipe variantKey body integrity
      contentType metadata pageNumber = .ok derivative := by
  obtain ⟨publication, hpublication⟩ := h n
    { body
      byteLength := integrity.1
      checksum := integrity.2
      contentType
      objectKey := version.derivativeKey recipe.recipeId variantKey }
  exact ⟨_, bind_eq_ok.mpr ⟨publication, hpublication, rfl⟩⟩

/-- A manifest is published when every write succeeds. -/
theorem publishManifest_ok (rt : Runtime) (deliveryScopeId : String)
    (h : ∀ n input, ∃ publication, env.publishObject n input = .ok publication) (n : Nat)
    (version : VersionIdentity) (manifestType : String) (payload : Json) :
    ∃ manifest, publishManifest rt env n version deliveryScopeId manifestType payload =
      .ok manifest := by
  obtain ⟨publication, hpublication⟩ := h n _
  exact ⟨_, bind_eq_ok.mpr ⟨publication, hpublication, rfl⟩⟩

/-- The derivatives of an image are published when every activity succeeds. -/
theorem publishImageDerivatives_ok (rt : Runtime) (deliveryScopeId : String)
    (h : env.Succeeds .image)
    (version : CanonicalVersionRecord CanonicalSourceIdentity) (n : Nat)
    (recipeBindings : List RecipeBinding) :
    ∃ derivatives, publishImageDerivatives rt env deliveryScopeId version n recipeBindings =
      .ok derivatives := by
  induction recipeBindings generalizing n with
  | nil => exact ⟨[], rfl⟩
  | cons recipe recipes ih =>
      obtain ⟨processed, hprocessed⟩ := h.processes
        { canonicalSourceId := version.evidence.canonicalSourceId
          recipeBinding := recipe
          sourceContentType := version.detectedContentType
          sourceFilename := version.sourceFilename }
      obtain ⟨derivative, hderivative⟩ := publishDerivative_ok deliveryScopeId
        h.publishes n version.identity recipe recipe.variantKey (.inline processed.body)
        (outputIntegrity rt processed.byteLength processed.checksum processed.body)
        processed.contentType processed.metadata none
      obtain ⟨derivatives, hderivatives⟩ := ih (n + 1)
      exact ⟨_, bind_eq_ok.mpr ⟨processed, hprocessed, bind_eq_ok.mpr ⟨derivative, hderivative,
        bind_eq_ok.mpr ⟨derivatives, hderivatives, rfl⟩⟩⟩⟩

/-- The slides of a presentation are published when every write succeeds. -/
theorem publishSlides_ok (rt : Runtime) (deliveryScopeId : String)
    (h : ∀ n input, ∃ publication, env.publishObject n input = .ok publication)
    (version : VersionIdentity) (n : Nat) (slides : List PresentationSlideOutput) :
    ∃ derivatives, publishSlides rt env deliveryScopeId version n slides = .ok derivatives := by
  induction slides generalizing n with
  | nil => exact ⟨[], rfl⟩
  | cons slide slides ih =>
      obtain ⟨derivative, hderivative⟩ := publishDerivative_ok deliveryScopeId h n
        version slideImagesBinding (deriveSlideVariantKey rt slide.pageNumber) (.inline slide.body)
        (outputIntegrity rt slide.byteLength slide.checksum slide.body) slide.contentType none
        (some slide.pageNumber)
      obtain ⟨derivatives, hderivatives⟩ := ih (n + 1)
      exact ⟨_, bind_eq_ok.mpr ⟨derivative, hderivative,
        bind_eq_ok.mpr ⟨derivatives, hderivatives, rfl⟩⟩⟩

variable {row : PublicationRow}

/-- A generic asset is prepared exactly when a checksum is found, if every activity succeeds. -/
theorem prepareGenericAsset_ok_iff (h : env.Succeeds .genericAsset)
    {version : CanonicalVersionRecord GenericCanonicalSourceEvidenceRecord}
    (hversion : genericAssetPublicationStore.mapVersion row .processing = .ok version) :
    (∃ prepared, prepareGenericAsset rt env deliveryScopeId version = .ok prepared) ↔
      PublicationKind.genericAsset.hasStableChecksum env row = true := by
  obtain ⟨processed, hprocessed⟩ := h.processes (genericAssetActivityInput version)
  have hstable : PublicationKind.genericAsset.hasStableChecksum env row =
      processed.hasStableChecksum version.evidence := by
    simp only [PublicationKind.hasStableChecksum, hversion, hprocessed]
  rw [hstable, ← resolveChecksum_ok_iff rt]
  constructor
  · rintro ⟨prepared, hprepared⟩
    obtain ⟨processed', hprocessed', hprepared⟩ := bind_eq_ok.mp hprepared
    obtain rfl := Except.ok.inj (hprocessed.symm.trans hprocessed')
    obtain ⟨integrity, hintegrity, -⟩ := bind_eq_ok.mp hprepared
    exact ⟨integrity, hintegrity⟩
  · rintro ⟨integrity, hintegrity⟩
    obtain ⟨derivative, hderivative⟩ := publishDerivative_ok deliveryScopeId
      h.publishes 0 version.identity preserveOriginalBinding preserveOriginalBinding.variantKey
      processed.body integrity processed.contentType processed.metadata none
    obtain ⟨manifest, hmanifest⟩ := publishManifest_ok rt deliveryScopeId
      h.publishes 1 version.identity preserveOriginalBinding.manifestType
      (buildGenericAssetManifest version.identity env.manifestGeneratedAt
        preserveOriginalBinding.manifestType derivative)
    exact ⟨_, bind_eq_ok.mpr ⟨processed, hprocessed, bind_eq_ok.mpr ⟨integrity, hintegrity,
      bind_eq_ok.mpr ⟨derivative, hderivative, bind_eq_ok.mpr ⟨manifest, hmanifest, rfl⟩⟩⟩⟩⟩

/-- An image is prepared when every activity succeeds. -/
theorem prepareImage_ok (h : env.Succeeds .image)
    (version : CanonicalVersionRecord CanonicalSourceIdentity) :
    ∃ prepared, prepareImage rt env deliveryScopeId version = .ok prepared := by
  obtain ⟨derivatives, hderivatives⟩ := publishImageDerivatives_ok rt
    deliveryScopeId h version 0 defaultImageRecipeBindings
  obtain ⟨manifest, hmanifest⟩ := publishManifest_ok rt deliveryScopeId
    h.publishes derivatives.length version.identity "image-default"
    (buildImageAssetManifest rt version.identity env.manifestGeneratedAt derivatives)
  exact ⟨_, bind_eq_ok.mpr ⟨derivatives, hderivatives, bind_eq_ok.mpr ⟨manifest, hmanifest, rfl⟩⟩⟩

/-- A presentation is prepared when every activity succeeds. -/
theorem preparePresentation_ok (h : env.Succeeds .presentation)
    (version : CanonicalVersionRecord CanonicalSourceIdentity) :
    ∃ prepared, preparePresentation rt env deliveryScopeId version = .ok prepared := by
  obtain ⟨processed, hprocessed⟩ := h.processes (presentationActivityInput version)
  obtain ⟨normalized, hnormalized⟩ := publishDerivative_ok deliveryScopeId
    h.publishes 0 version.identity normalizedPdfBinding "normalized-pdf"
    (.inline processed.normalizedDocument.body)
    (outputIntegrity rt processed.normalizedDocument.byteLength
      processed.normalizedDocument.checksum processed.normalizedDocument.body)
    processed.normalizedDocument.contentType none none
  obtain ⟨slides, hslides⟩ := publishSlides_ok rt deliveryScopeId
    h.publishes version.identity 1 processed.sortedSlides
  obtain ⟨manifest, hmanifest⟩ := publishManifest_ok rt deliveryScopeId
    h.publishes (slides.length + 1) version.identity "presentation-default"
    (buildPresentationAssetManifest rt version.identity env.manifestGeneratedAt normalized
      ((normalized :: slides).filter fun d => d.recipeId == "slide-images"))
  exact ⟨_, bind_eq_ok.mpr ⟨processed, hprocessed, bind_eq_ok.mpr ⟨normalized, hnormalized,
    bind_eq_ok.mpr ⟨slides, hslides, bind_eq_ok.mpr ⟨manifest, hmanifest, rfl⟩⟩⟩⟩⟩

/-- **When a publication can be prepared**, with dependencies that succeed: the version
has the evidence of its kind, and a generic asset has a checksum. -/
theorem PublicationKind.prepare_succeeds_iff (rt : Runtime) (deliveryScopeId : String)
    {kind : PublicationKind} (h : env.Succeeds kind) :
    (∃ prepared, kind.prepare rt env deliveryScopeId row = .ok prepared) ↔
      kind.hasEvidence row.version = true ∧ kind.hasStableChecksum env row = true := by
  cases kind with
  | genericAsset =>
      simp only [prepare, bind_eq_ok]
      rw [← exists_mapCanonicalSourceEvidence_iff]
      have hmap := PublicationStore.exists_mapVersion_iff genericAssetPublicationStore row
        .processing
      constructor
      · rintro ⟨prepared, version, hversion, hprepared⟩
        exact ⟨hmap.mp ⟨version, hversion⟩,
          (prepareGenericAsset_ok_iff h hversion).mp ⟨prepared, hprepared⟩⟩
      · rintro ⟨hevidence, hstable⟩
        obtain ⟨version, hversion⟩ := hmap.mpr hevidence
        obtain ⟨prepared, hprepared⟩ := (prepareGenericAsset_ok_iff h hversion).mpr hstable
        exact ⟨prepared, version, hversion, hprepared⟩
  | image =>
      simp only [prepare, bind_eq_ok]
      have hmap := PublicationStore.exists_mapVersion_iff imagePublicationStore row .processing
      constructor
      · rintro ⟨-, version, hversion, -⟩
        exact ⟨exists_mapCanonicalSourceIdentity_iff.mp (hmap.mp ⟨version, hversion⟩), rfl⟩
      · rintro ⟨hevidence, -⟩
        obtain ⟨version, hversion⟩ := hmap.mpr (exists_mapCanonicalSourceIdentity_iff.mpr hevidence)
        obtain ⟨prepared, hprepared⟩ := prepareImage_ok h version
        exact ⟨prepared, version, hversion, hprepared⟩
  | presentation =>
      simp only [prepare, bind_eq_ok]
      have hmap := PublicationStore.exists_mapVersion_iff presentationPublicationStore row
        .processing
      constructor
      · rintro ⟨-, version, hversion, -⟩
        exact ⟨exists_mapCanonicalSourceIdentity_iff.mp (hmap.mp ⟨version, hversion⟩), rfl⟩
      · rintro ⟨hevidence, -⟩
        obtain ⟨version, hversion⟩ := hmap.mpr (exists_mapCanonicalSourceIdentity_iff.mpr hevidence)
        obtain ⟨prepared, hprepared⟩ := preparePresentation_ok h version
        exact ⟨prepared, version, hversion, hprepared⟩

end Succeeds

/-! ### Runs of a workflow -/

/-- Inside a publication, derivatives have one deterministic key exactly when they have
one slot. -/
def PreparedPublication.OneKeyPerSlot (prepared : PreparedPublication) (versionId : String) :
    Prop :=
  ∀ d ∈ prepared.derivatives, ∀ d' ∈ prepared.derivatives,
    d.deterministicKey = d'.deterministicKey ↔ d.slot versionId = d'.slot versionId

/-- What is prepared has one key for each slot. -/
theorem PublicationKind.prepare_oneKeyPerSlot (kind : PublicationKind) {rt : Runtime}
    {env : TargetEnvironment} {deliveryScopeId : String} {row : PublicationRow}
    {prepared : PreparedPublication} (h : kind.prepare rt env deliveryScopeId row = .ok prepared) :
    prepared.OneKeyPerSlot row.version.id := by
  intro d hd d' hd'
  have hplace : ∀ d ∈ prepared.derivatives,
      d.place row.version.id ∈ kind.places rt env deliveryScopeId row := by
    intro d hd
    rw [← (PublicationKind.prepare_spec h).1]
    exact List.mem_map.mpr ⟨d, hd, rfl⟩
  exact PublicationKind.places_key_iff (hplace d hd) (hplace d' hd')

/-- The row of a version after a begin. -/
theorem PublicationStore.begin_row {ε : Type} {store : PublicationStore ε} {versionId : String}
    {db db₁ : Db} {version : CanonicalVersionRecord ε} {row : PublicationRow}
    (h : store.begin versionId db = .ok (version, db₁))
    (hrow : db.findPublicationVersion versionId = some row) :
    (∃ versions, db₁ = { db with assetVersions := versions }) ∧
      db₁.findPublicationVersion versionId =
        some { row with version := row.version.moveTo .processing } := by
  have hversion := (begin_moved h).2.version? versionId
  obtain ⟨row', hrow', -, hstart, -⟩ := begin_cases h
  obtain rfl := Option.some.inj (hrow.symm.trans hrow')
  have hframe : ∃ versions, db₁ = { db with assetVersions := versions } := by
    unfold startProcessing at hstart
    split at hstart
    · exact ⟨db.assetVersions, (Except.ok.inj hstart).symm⟩
    · obtain ⟨t, -, rfl⟩ := write_eq_ok.mp hstart
      exact ⟨t, rfl⟩
  refine ⟨hframe, ?_⟩
  simp only [Db.findPublicationVersion, Option.bind_eq_bind, Option.bind_eq_some_iff,
    Option.some.injEq] at hrow ⊢
  obtain ⟨v, hv, a, ha, ns, hns, rfl⟩ := hrow
  obtain ⟨t, rfl⟩ := hframe
  exact ⟨v.moveTo .processing, by rw [hversion, hv]; simp, a, ha, ns, hns, rfl⟩

section Run

variable {ε : Type} {store : PublicationStore ε}
  {prepare : TargetEnvironment → String → CanonicalVersionRecord ε →
    Except RegistryError PreparedPublication}
  {rt : Runtime} {env : TargetEnvironment} {input : RunPublicationWorkflowInput} {db db' : Db}

/-- **Inversion of a workflow** whose connections do not fail. -/
theorem runPublicationWorkflow_ok_iff (hbeginning : env.beginning = .none)
    (hpublishing : env.publishing = .none) :
    (∃ result, runPublicationWorkflow store prepare rt env input db = (.ok result, db')) ↔
      ∃ version db₁ prepared record, store.begin input.versionId db = .ok (version, db₁) ∧
        prepare env input.deliveryScopeId version = .ok prepared ∧
        store.publish rt input.versionId input.deliveryScopeId prepared.derivatives
          prepared.manifest
          db₁ = .ok (record, db') := by
  unfold runPublicationWorkflow
  simp only [hbeginning, hpublishing, Interruption.transact, transact]
  cases hbegin : store.begin input.versionId db with
  | error e => simp
  | ok r =>
      obtain ⟨version, db₁⟩ := r
      cases hprepare : prepare env input.deliveryScopeId version with
      | error e => simp [hprepare]
      | ok prepared =>
          cases hpublish : store.publish rt input.versionId input.deliveryScopeId
            prepared.derivatives prepared.manifest db₁ with
          | error e => simp [hprepare, hpublish]
          | ok r => simp [hprepare, hpublish, Prod.ext_iff]

/-- **When a workflow publishes**: from a state in which publications begin, when its
publication can be prepared for a scope of its asset, and its keys are free. -/
theorem runPublicationWorkflow_succeeds_iff (hbeginning : env.beginning = .none)
    (hpublishing : env.publishing = .none)
    (hmap : ∀ v state, store.mapEvidence (v.moveTo state) = store.mapEvidence v)
    (hkeys : ∀ {row prepared}, (store.mapVersion row .processing >>=
      prepare env input.deliveryScopeId) = .ok prepared → prepared.OneKeyPerSlot row.version.id) :
    (∃ result db', runPublicationWorkflow store prepare rt env input db = (.ok result, db')) ↔
      ∃ row prepared, db.findPublicationVersion input.versionId = some row ∧
        PublicationStore.acceptsBegin row.version.lifecycleState = true ∧
        (store.mapVersion row .processing >>= prepare env input.deliveryScopeId) = .ok prepared ∧
        (∃ s ∈ db.deliveryScopes.rows, s.id = input.deliveryScopeId ∧
          s.availableTo row.asset = true) ∧
        KeysFree db (prepared.derivatives.map (·.place input.versionId)) := by
  rw [exists_comm]
  simp only [runPublicationWorkflow_ok_iff hbeginning hpublishing]
  constructor
  · rintro ⟨db', version, db₁, prepared, record, hbegin, hprepare, hpublish⟩
    obtain ⟨row, hrow, haccepts, -, hversion⟩ := PublicationStore.begin_cases hbegin
    have hid := (Db.version?_eq_some_iff.mp (Db.findPublicationVersion_version? hrow)).2
    have hprepared := bind_eq_ok.mpr ⟨version, hversion, hprepare⟩
    obtain ⟨⟨t, rfl⟩, hrow₁⟩ := PublicationStore.begin_row hbegin hrow
    obtain ⟨row', hrow', -, hscope, -, db₂, h₂⟩ :=
      PublicationStore.publish_succeeds_iff.mp ⟨record, db', hpublish⟩
    obtain rfl := Option.some.inj (hrow₁.symm.trans hrow')
    have hfree := (PublicationStore.upsertDerivatives_ok_iff fun d hd d' hd' => by
      rw [← hid]
      exact (hkeys hprepared d hd d' hd').mp).mp ⟨db₂, h₂⟩
    exact ⟨row, prepared, hrow, haccepts, hprepared, hscope, hfree⟩
  · rintro ⟨row, prepared, hrow, haccepts, hprepared, hscope, hfree⟩
    have hid := (Db.version?_eq_some_iff.mp (Db.findPublicationVersion_version? hrow)).2
    obtain ⟨version, hversion, hprepare⟩ := bind_eq_ok.mp hprepared
    obtain ⟨record, db₁, hbegin⟩ := PublicationStore.begin_succeeds_iff.mpr
      ⟨row, hrow, haccepts, version, hversion⟩
    obtain ⟨row', hrow', -, -, hrecord⟩ := PublicationStore.begin_cases hbegin
    obtain rfl := Option.some.inj (hrow.symm.trans hrow')
    obtain rfl := Except.ok.inj (hversion.symm.trans hrecord)
    obtain ⟨⟨t, rfl⟩, hrow₁⟩ := PublicationStore.begin_row hbegin hrow
    obtain ⟨evidence, hevidence⟩ :=
      (PublicationStore.exists_mapVersion_iff _ _ _).mp ⟨version, hversion⟩
    obtain ⟨record, db', hpublish⟩ := PublicationStore.publish_succeeds_iff.mpr
      ⟨_, hrow₁, rfl, hscope,
        (PublicationStore.exists_mapVersion_iff _ _ _).mpr ⟨evidence, (hmap _ _).trans hevidence⟩,
        (PublicationStore.upsertDerivatives_ok_iff fun d hd d' hd' => by
          rw [← hid]
          exact (hkeys hprepared d hd d' hd').mp).mpr hfree⟩
    exact ⟨db', version, _, prepared, record, hbegin, hprepare, hpublish⟩

/-- **What a workflow leaves** when it publishes. -/
theorem runPublicationWorkflow_publishedTo (hbeginning : env.beginning = .none)
    (hpublishing : env.publishing = .none)
    (hkeys : ∀ {row prepared}, (store.mapVersion row .processing >>=
      prepare env input.deliveryScopeId) = .ok prepared → prepared.OneKeyPerSlot row.version.id)
    {result : PublicationWorkflowResult ε}
    (h : runPublicationWorkflow store prepare rt env input db = (.ok result, db')) :
    ∃ row prepared, db.findPublicationVersion input.versionId = some row ∧
      (store.mapVersion row .processing >>= prepare env input.deliveryScopeId) = .ok prepared ∧
      db.PublishedTo db' input.versionId input.deliveryScopeId prepared.manifest.manifestType
        (prepared.derivatives.map (·.place input.versionId)) := by
  obtain ⟨version, db₁, prepared, record, hbegin, hprepare, hpublish⟩ :=
    (runPublicationWorkflow_ok_iff hbeginning hpublishing).mp ⟨result, h⟩
  obtain ⟨row, hrow, -, -, hversion⟩ := PublicationStore.begin_cases hbegin
  have hid := (Db.version?_eq_some_iff.mp (Db.findPublicationVersion_version? hrow)).2
  have hprepared := bind_eq_ok.mpr ⟨version, hversion, hprepare⟩
  have hmoved := (PublicationStore.begin_moved hbegin).2.version?
  obtain ⟨⟨t, rfl⟩, -⟩ := PublicationStore.begin_row hbegin hrow
  have hpublished := PublicationStore.publish_publishedTo hpublish fun d hd d' hd' => by
    rw [← hid]
    exact (hkeys hprepared d hd d' hd').mpr
  obtain ⟨versions, derivatives, manifests, hunchanged⟩ := hpublished.unchanged
  refine ⟨row, prepared, hrow, hprepared,
    { hpublished with version? := fun x => ?_, unchanged := ?_ }⟩
  · rw [hpublished.version?, hmoved, Option.map_map]
    congr 1
    funext v
    simp only [Function.comp_apply]
    split
    · rfl
    · rfl
  · exact ⟨versions, derivatives, manifests, hunchanged⟩

end Run

namespace PublicationKind

variable {rt : Runtime} {env : TargetEnvironment} {input : RunPublicationWorkflowInput}
    {db db' : Db}
  {kind : PublicationKind}

/-- **When the workflow of a kind publishes.** -/
theorem run_succeeds_iff (rt : Runtime) (input : RunPublicationWorkflowInput) (db : Db)
    (h : env.Succeeds kind) :
    (∃ db', kind.run rt env input db = (.ok (), db')) ↔
      ∃ row, db.findPublicationVersion input.versionId = some row ∧
        PublicationStore.acceptsBegin row.version.lifecycleState = true ∧
        kind.hasEvidence row.version = true ∧ kind.hasStableChecksum env row = true ∧
        (∃ s ∈ db.deliveryScopes.rows, s.id = input.deliveryScopeId ∧
          s.availableTo row.asset = true) ∧
        KeysFree db (kind.places rt env input.deliveryScopeId row) := by
  have hforget : ∀ {ε : Type} {p : Except RegistryError (PublicationWorkflowResult ε) × Db},
      (∃ db', p.map (·.map fun _ => ()) id = (.ok (), db')) ↔
      ∃ result db', p = (.ok result, db') := by
    rintro ε ⟨e | r, db⟩ <;> simp [Except.map]
  have hrun : (∃ db', kind.run rt env input db = (.ok (), db')) ↔
      ∃ row prepared, db.findPublicationVersion input.versionId = some row ∧
        PublicationStore.acceptsBegin row.version.lifecycleState = true ∧
        kind.prepare rt env input.deliveryScopeId row = .ok prepared ∧
        (∃ s ∈ db.deliveryScopes.rows, s.id = input.deliveryScopeId ∧
          s.availableTo row.asset = true) ∧
        KeysFree db (prepared.derivatives.map (·.place input.versionId)) := by
    cases kind with
    | genericAsset =>
        exact hforget.trans (runPublicationWorkflow_succeeds_iff h.beginning h.publishing
          (fun _ _ => rfl) fun hp => prepare_oneKeyPerSlot .genericAsset hp)
    | image =>
        exact hforget.trans (runPublicationWorkflow_succeeds_iff h.beginning h.publishing
          (fun _ _ => rfl) fun hp => prepare_oneKeyPerSlot .image hp)
    | presentation =>
        exact hforget.trans (runPublicationWorkflow_succeeds_iff h.beginning h.publishing
          (fun _ _ => rfl) fun hp => prepare_oneKeyPerSlot .presentation hp)
  rw [hrun]
  constructor
  · rintro ⟨row, prepared, hrow, haccepts, hprepared, hscope, hfree⟩
    have hid := (Db.version?_eq_some_iff.mp (Db.findPublicationVersion_version? hrow)).2
    obtain ⟨hevidence, hstable⟩ :=
      (prepare_succeeds_iff rt input.deliveryScopeId h).mp ⟨prepared, hprepared⟩
    rw [← hid, (prepare_spec hprepared).1] at hfree
    exact ⟨row, hrow, haccepts, hevidence, hstable, hscope, hfree⟩
  · rintro ⟨row, hrow, haccepts, hevidence, hstable, hscope, hfree⟩
    have hid := (Db.version?_eq_some_iff.mp (Db.findPublicationVersion_version? hrow)).2
    obtain ⟨prepared, hprepared⟩ := (prepare_succeeds_iff rt input.deliveryScopeId
      h).mpr ⟨hevidence, hstable⟩
    rw [← (prepare_spec hprepared).1, hid] at hfree
    exact ⟨row, prepared, hrow, haccepts, hprepared, hscope, hfree⟩

/-- **What the workflow of a kind leaves** when it publishes. -/
theorem run_publishedTo (h : env.Succeeds kind) (hrun : kind.run rt env input db = (.ok (), db')) :
    ∃ row, db.findPublicationVersion input.versionId = some row ∧
      db.PublishedTo db' input.versionId input.deliveryScopeId kind.manifestType
        (kind.places rt env input.deliveryScopeId row) := by
  have hforget : ∀ {ε : Type} {p : Except RegistryError (PublicationWorkflowResult ε) × Db},
      p.map (·.map fun _ => ()) id = (.ok (), db') → ∃ result, p = (.ok result, db') := by
    rintro ε ⟨e | r, db⟩ <;> simp [Except.map]
  have hpublished : ∃ row prepared, db.findPublicationVersion input.versionId = some row ∧
      kind.prepare rt env input.deliveryScopeId row = .ok prepared ∧
      db.PublishedTo db' input.versionId input.deliveryScopeId prepared.manifest.manifestType
        (prepared.derivatives.map (·.place input.versionId)) := by
    cases kind with
    | genericAsset =>
        obtain ⟨result, hrun⟩ := hforget hrun
        exact runPublicationWorkflow_publishedTo h.beginning h.publishing
          (fun hp => prepare_oneKeyPerSlot .genericAsset hp) hrun
    | image =>
        obtain ⟨result, hrun⟩ := hforget hrun
        exact runPublicationWorkflow_publishedTo h.beginning h.publishing
          (fun hp => prepare_oneKeyPerSlot .image hp) hrun
    | presentation =>
        obtain ⟨result, hrun⟩ := hforget hrun
        exact runPublicationWorkflow_publishedTo h.beginning h.publishing
          (fun hp => prepare_oneKeyPerSlot .presentation hp) hrun
  obtain ⟨row, prepared, hrow, hprepared, hpublished⟩ := hpublished
  have hid := (Db.version?_eq_some_iff.mp (Db.findPublicationVersion_version? hrow)).2
  obtain ⟨hplaces, htype⟩ := prepare_spec hprepared
  rw [hid] at hplaces
  rw [hplaces, htype] at hpublished
  exact ⟨row, hrow, hpublished⟩

end PublicationKind

end Cdngine
