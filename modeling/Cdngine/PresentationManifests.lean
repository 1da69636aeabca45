import Cdngine.JsonReadability
import Cdngine.MemoryPublication
import Cdngine.Observed
import Cdngine.PublicationWorkflow
import Mathlib.Algebra.Order.Ring.Rat

/-!
# Manifests of Presentations

The presentation workflow between its two transactions, with the objects that it writes on the way:
the normalized document, the slides in the order of their pages, and the manifest that lists them.
Page numbers are any positive numbers; the platform renders those that are not plain integers.

## Main results

* `deriveSlideVariantKey_inj`: different pages have different variant keys, beyond the padding too.
* `events_observePresentation`: what is written, in its order.
* `presentation_manifest_agrees`: the published manifest, the derivatives and the written objects
  agree.
-/

open Observed

namespace Cdngine

/-! ### Variant keys -/

/-- The texts that the platform renders numbers to, those that are not plain integers: they are not
made of digits only, and are read back whatever zeros stand before them. -/
structure FractionTexts (rt : Runtime) : Prop where
  notDigits : ∀ q, ∃ c ∈ (rt.numberToString q).toList, c.isDigit = false
  readBack : ∃ read : List Char → Rat, ∀ q k, 0 < q →
    read (List.replicate k '0' ++ (rt.numberToString q).toList) = q

/-- A plain positive number is a natural number, rendered as its digits. -/
theorem renderNumber_of_isPlain {rt : Runtime} {q : Rat} (h : IsPlain q) (hpos : 0 < q) :
    ∃ n : Nat, q = n ∧ (renderNumber rt q).toList = Nat.toDigits 10 n := by
  have hnum : 0 < q.num := Rat.num_pos.mpr hpos
  obtain ⟨n, hn⟩ := Int.eq_ofNat_of_zero_le hnum.le
  refine ⟨n, ?_, ?_⟩
  · rw [← (Rat.den_eq_one_iff q).mp h.1, hn]
    rfl
  · have hplain : q.den = 1 ∧ q.num.natAbs < 10 ^ 21 := h
    rw [renderNumber, if_pos hplain, hn]
    exact Nat.toList_repr

theorem toList_padStart (s : String) (length : Nat) (filler : Char) :
    (padStart s length filler).toList = List.replicate (length - s.length) filler ++ s.toList := by
  rw [padStart, String.toList_append, String.toList_ofList]

/-- Digits are read back whatever zeros stand before them. -/
theorem ofDigitChars_replicate_append (k n : Nat) :
    Nat.ofDigitChars 10 (List.replicate k '0' ++ Nat.toDigits 10 n) 0 = n := by
  induction k with
  | zero => exact Nat.ofDigitChars_ten_toDigits
  | succ k ih =>
      rw [List.replicate_succ, List.cons_append, Nat.ofDigitChars_cons]
      exact ih

/-- A plain number and one that is not have different texts. -/
theorem padded_ne_of_isPlain {rt : Runtime} (h : FractionTexts rt) {p q : Rat} (hp : IsPlain p)
    (hpos : 0 < p) (hq : ¬ IsPlain q) :
    padStart (renderNumber rt p) 3 '0' ≠ padStart (renderNumber rt q) 3 '0' := by
  intro heq
  obtain ⟨n, -, hdigits⟩ := @renderNumber_of_isPlain rt _ hp hpos
  obtain ⟨c, hc, hdigit⟩ := h.notDigits q
  have hlist := congrArg String.toList heq
  have hfraction : renderNumber rt q = rt.numberToString q := if_neg hq
  rw [toList_padStart, toList_padStart, hdigits, hfraction] at hlist
  have hmem : c ∈ List.replicate (3 - (renderNumber rt p).length) '0' ++ Nat.toDigits 10 n := by
    rw [hlist]
    exact List.mem_append_right _ hc
  have hall : c.isDigit = true := by
    cases List.mem_append.mp hmem with
    | inl hzero =>
        rw [List.eq_of_mem_replicate hzero]
        decide
    | inr hmem => exact Nat.isDigit_of_mem_toDigits (by decide) (by decide) hmem
  rw [hdigit] at hall
  cases hall

/-- **Different pages have different variant keys.** -/
theorem deriveSlideVariantKey_inj {rt : Runtime} (h : FractionTexts rt) {p q : Rat} (hp : 0 < p)
    (hq : 0 < q) (heq : deriveSlideVariantKey rt p = deriveSlideVariantKey rt q) : p = q := by
  have hpadded : padStart (renderNumber rt p) 3 '0' = padStart (renderNumber rt q) 3 '0' :=
    (String.append_right_inj _).mp heq
  by_cases hplain : IsPlain p
  · by_cases hplain' : IsPlain q
    · obtain ⟨n, rfl, hn⟩ := @renderNumber_of_isPlain rt _ hplain hp
      obtain ⟨m, rfl, hm⟩ := @renderNumber_of_isPlain rt _ hplain' hq
      have hlist := congrArg String.toList hpadded
      rw [toList_padStart, toList_padStart, hn, hm] at hlist
      have hread := congrArg (fun cs => Nat.ofDigitChars 10 cs 0) hlist
      simp only [ofDigitChars_replicate_append] at hread
      rw [hread]
    · exact absurd hpadded (padded_ne_of_isPlain h hplain hp hplain')
  · by_cases hplain' : IsPlain q
    · exact absurd hpadded.symm (padded_ne_of_isPlain h hplain' hq hplain)
    · obtain ⟨read, hread⟩ := h.readBack
      have hfraction : ∀ {r}, ¬ IsPlain r → renderNumber rt r = rt.numberToString r :=
        fun hr => if_neg hr
      have hlist := congrArg String.toList hpadded
      rw [toList_padStart, toList_padStart, hfraction hplain, hfraction hplain'] at hlist
      rw [← hread p _ hp, hlist, hread q _ hq]

/-! ### What is written -/

/-- The write of a derivative. -/
def derivativeWrite (version : VersionIdentity) (recipe : RecipeBinding) (variantKey : String)
    (body : ObjectBody) (integrity : Int × ObjectChecksum) (contentType : String) :
    PublishObjectInput where
  body
  byteLength := integrity.1
  checksum := integrity.2
  contentType
  objectKey := version.derivativeKey recipe.recipeId variantKey

/-- The length and the digest that an output is published with. -/
def PresentationDerivativeOutput.integrity (rt : Runtime) (output : PresentationDerivativeOutput) :
    Int × ObjectChecksum :=
  outputIntegrity rt output.byteLength output.checksum output.body

/-- The write of the normalized document. -/
def documentWrite (rt : Runtime) (version : VersionIdentity)
    (processed : PresentationProcessingActivityResult) : PublishObjectInput :=
  derivativeWrite version normalizedPdfBinding "normalized-pdf"
    (.inline processed.normalizedDocument.body) (processed.normalizedDocument.integrity rt)
    processed.normalizedDocument.contentType

/-- The write of a slide. -/
def slideWrite (rt : Runtime) (version : VersionIdentity) (slide : PresentationSlideOutput) :
    PublishObjectInput :=
  derivativeWrite version slideImagesBinding (deriveSlideVariantKey rt slide.pageNumber)
    (.inline slide.body) (slide.toPresentationDerivativeOutput.integrity rt) slide.contentType

/-- The write of a manifest. -/
def manifestWrite (rt : Runtime) (version : VersionIdentity) (manifestType : String)
    (payload : Json) : PublishObjectInput :=
  let body := InlineBody.text (stringifyIndented rt 0 payload)
  { body := .inline body
    byteLength := (hashBody rt body).1
    checksum := (hashBody rt body).2
    contentType := "application/json"
    objectKey := buildManifestObjectKey
      { assetId := version.assetId
        manifestType
        serviceNamespaceId := version.serviceNamespaceId
        versionId := version.versionId } }

/-- The payload of the manifest of a presentation. -/
def presentationPayload (rt : Runtime) (env : TargetEnvironment) (version : VersionIdentity)
    (normalized : PublishedDerivativeRecord) (slides : List PublishedDerivativeRecord) : Json :=
  buildPresentationAssetManifest rt version env.manifestGeneratedAt normalized
    ((normalized :: slides).filter fun d => d.recipeId == "slide-images")

/-- The record of a written derivative. -/
def derivativeRecord (env : TargetEnvironment) (n : Nat) (deliveryScopeId : String)
    (recipe : RecipeBinding) (variantKey : String) (pageNumber : Option Rat)
    (write : PublishObjectInput) (publication : PublishedObject) : PublishedDerivativeRecord where
  byteLength := write.byteLength
  checksumValue := write.checksum.value
  contentType := write.contentType
  deliveryScopeId
  deterministicKey := write.objectKey
  metadata := none
  pageNumber
  publishedAt := env.publishedAt n
  recipeId := recipe.recipeId
  schemaVersion := recipe.schemaVersion
  storageBucket := publication.bucket
  storageKey := publication.key
  variantKey

section Written

variable {rt : Runtime} {env : TargetEnvironment} {deliveryScopeId : String}

/-- A derivative is written once, and recorded. -/
theorem publishDerivative_eq_ok_iff {n : Nat} {version : VersionIdentity} {recipe : RecipeBinding}
    {variantKey : String} {body : ObjectBody} {integrity : Int × ObjectChecksum}
    {contentType : String} {pageNumber : Option Rat} {derivative : PublishedDerivativeRecord} :
    publishDerivative env n version deliveryScopeId recipe variantKey body integrity
      contentType none
        pageNumber = .ok derivative ↔
      ∃ publication,
        env.publishObject n
          (derivativeWrite version recipe variantKey body integrity contentType) =
          .ok publication ∧
        derivative = derivativeRecord env n deliveryScopeId recipe variantKey pageNumber
          (derivativeWrite version recipe variantKey body integrity contentType) publication := by
  unfold publishDerivative
  rw [bind_eq_ok]
  exact exists_congr fun publication => and_congr_right fun _ =>
    ⟨fun h => (Except.ok.inj h).symm, fun h => congrArg Except.ok h.symm⟩

end Written

/-- Write the slides of a presentation, observed. -/
def observeSlides (rt : Runtime) (env : TargetEnvironment) (deliveryScopeId : String)
    (version : VersionIdentity) : Nat → List PresentationSlideOutput →
      Observed PublishObjectInput RegistryError (List PublishedDerivativeRecord)
  | _, [] => pure []
  | n, slide :: slides => do
      Observed.emit (slideWrite rt version slide)
      let derivative ← Observed.ofExcept
        (publishDerivative env n version deliveryScopeId slideImagesBinding
          (deriveSlideVariantKey rt slide.pageNumber) (.inline slide.body)
          (outputIntegrity rt slide.byteLength slide.checksum slide.body) slide.contentType none
          (some slide.pageNumber))
      let derivatives ← observeSlides rt env deliveryScopeId version (n + 1) slides
      return derivative :: derivatives

/-- `preparePresentation`, with the objects that it sends to the object store. -/
def observePresentation (rt : Runtime) (env : TargetEnvironment) (deliveryScopeId : String)
    (version : CanonicalVersionRecord CanonicalSourceIdentity) :
    Observed PublishObjectInput RegistryError PreparedPublication := do
  let processed ← Observed.ofExcept (env.processPresentation (presentationActivityInput version))
  let document := processed.normalizedDocument
  Observed.emit (documentWrite rt version.identity processed)
  let normalized ← Observed.ofExcept
    (publishDerivative env 0 version.identity deliveryScopeId normalizedPdfBinding "normalized-pdf"
      (.inline document.body)
      (outputIntegrity rt document.byteLength document.checksum document.body) document.contentType
      none none)
  let slides ← observeSlides rt env deliveryScopeId version.identity 1 processed.sortedSlides
  let payload := presentationPayload rt env version.identity normalized slides
  Observed.emit (manifestWrite rt version.identity "presentation-default" payload)
  let manifest ← Observed.ofExcept (publishManifest rt env (slides.length + 1) version.identity
    deliveryScopeId "presentation-default" payload)
  return { derivatives := normalized :: slides, manifest }

section Written

variable {rt : Runtime} {env : TargetEnvironment} {deliveryScopeId : String}

theorem result_observeSlides {version : VersionIdentity} (slides : List PresentationSlideOutput)
    (n : Nat) :
    (observeSlides rt env deliveryScopeId version n slides).result =
      publishSlides rt env deliveryScopeId version n slides := by
  induction slides generalizing n with
  | nil => rfl
  | cons slide slides ih =>
      rw [observeSlides, publishSlides, result_emit_bind, result_bind, result_ofExcept]
      simp only [result_bind, ih, result_pure]
      rfl

/-- **The observed preparation prepares the same.** -/
theorem result_observePresentation (version : CanonicalVersionRecord CanonicalSourceIdentity) :
    (observePresentation rt env deliveryScopeId version).result =
      preparePresentation rt env deliveryScopeId version := by
  unfold observePresentation preparePresentation
  simp only [result_bind, result_ofExcept, result_emit, result_observeSlides, result_pure]
  rfl

theorem events_observeSlides {version : VersionIdentity} {slides : List PresentationSlideOutput}
    {n : Nat} {derivatives : List PublishedDerivativeRecord}
    (h : publishSlides rt env deliveryScopeId version n slides = .ok derivatives) :
    (observeSlides rt env deliveryScopeId version n slides).events =
      slides.map (slideWrite rt version) := by
  induction slides generalizing n derivatives with
  | nil => rfl
  | cons slide slides ih =>
      obtain ⟨derivative, hderivative, h⟩ := bind_eq_ok.mp h
      obtain ⟨ds, hds, -⟩ := bind_eq_ok.mp h
      rw [observeSlides, events_emit_bind, hderivative, events_ofExcept_ok,
        events_bind ((result_observeSlides slides (n + 1)).trans hds), ih hds, events_pure,
        List.append_nil, List.map_cons]

end Written

/-! ### Derivatives and their writes -/

/-- A derivative **records** the object that was written for it. -/
structure PublishedDerivativeRecord.Records (derivative : PublishedDerivativeRecord)
    (write : PublishObjectInput) : Prop where
  deterministicKey : derivative.deterministicKey = write.objectKey
  byteLength : derivative.byteLength = write.byteLength
  checksumValue : derivative.checksumValue = write.checksum.value
  contentType : derivative.contentType = write.contentType

/-- The derivative of a slide records its write, and names its page. -/
structure RecordsSlide (rt : Runtime) (version : VersionIdentity) (slide : PresentationSlideOutput)
    (derivative : PublishedDerivativeRecord) : Prop where
  records : derivative.Records (slideWrite rt version slide)
  pageNumber : derivative.pageNumber = some slide.pageNumber
  recipeId : derivative.recipeId = "slide-images"

/-- The derivative of the normalized document records its write, and names no page. -/
structure RecordsDocument (rt : Runtime) (version : VersionIdentity)
    (processed : PresentationProcessingActivityResult) (derivative : PublishedDerivativeRecord) :
    Prop where
  records : derivative.Records (documentWrite rt version processed)
  pageNumber : derivative.pageNumber = none
  recipeId : derivative.recipeId = "normalized-pdf"

section Records

variable {rt : Runtime} {env : TargetEnvironment} {deliveryScopeId : String}

theorem publishSlides_records {version : VersionIdentity} {slides : List PresentationSlideOutput}
    {n : Nat} {derivatives : List PublishedDerivativeRecord}
    (h : publishSlides rt env deliveryScopeId version n slides = .ok derivatives) :
    List.Forall₂ (RecordsSlide rt version) slides derivatives := by
  induction slides generalizing n derivatives with
  | nil =>
      cases h
      exact .nil
  | cons slide slides ih =>
      obtain ⟨derivative, hderivative, h⟩ := bind_eq_ok.mp h
      obtain ⟨ds, hds, h⟩ := bind_eq_ok.mp h
      cases h
      obtain ⟨publication, -, rfl⟩ := publishDerivative_eq_ok_iff.mp hderivative
      exact .cons ⟨⟨rfl, rfl, rfl, rfl⟩, rfl, rfl⟩ (ih hds)

/-- **What a presentation prepares and writes**: the document and the slides in the order of their
pages, each recorded as it is written, and then the manifest of the records. -/
theorem preparePresentation_eq_ok {version : CanonicalVersionRecord CanonicalSourceIdentity}
    {prepared : PreparedPublication}
    (h : preparePresentation rt env deliveryScopeId version = .ok prepared) :
    ∃ processed normalized slides,
      env.processPresentation (presentationActivityInput version) = .ok processed ∧
      prepared.derivatives = normalized :: slides ∧
      RecordsDocument rt version.identity processed normalized ∧
      List.Forall₂ (RecordsSlide rt version.identity) processed.sortedSlides slides ∧
      prepared.manifest.manifestPayload =
        (presentationPayload rt env version.identity normalized slides).toJs ∧
      (observePresentation rt env deliveryScopeId version).events =
        documentWrite rt version.identity processed ::
          (processed.sortedSlides.map (slideWrite rt version.identity) ++
            [manifestWrite rt version.identity "presentation-default"
              (presentationPayload rt env version.identity normalized slides)]) := by
  obtain ⟨processed, hprocessed, h⟩ := bind_eq_ok.mp h
  obtain ⟨normalized, hnormalized, h⟩ := bind_eq_ok.mp h
  obtain ⟨slides, hslides, h⟩ := bind_eq_ok.mp h
  obtain ⟨manifest, hmanifest, h⟩ := bind_eq_ok.mp h
  cases h
  have hpayload : manifest.manifestPayload =
      (presentationPayload rt env version.identity normalized slides).toJs := by
    obtain ⟨publication, -, hmanifest⟩ := bind_eq_ok.mp hmanifest
    cases hmanifest
    rfl
  have hrecords : RecordsDocument rt version.identity processed normalized := by
    obtain ⟨publication, -, hrecord⟩ := publishDerivative_eq_ok_iff.mp hnormalized
    rw [hrecord]
    exact ⟨⟨rfl, rfl, rfl, rfl⟩, rfl, rfl⟩
  refine ⟨processed, normalized, slides, hprocessed, rfl, hrecords, publishSlides_records hslides,
    hpayload, ?_⟩
  have hobserved := (result_observeSlides processed.sortedSlides 1).trans hslides
  have hlast : publishManifest rt env (slides.length + 1) version.identity deliveryScopeId
      "presentation-default" (presentationPayload rt env version.identity normalized slides) =
        .ok manifest := hmanifest
  rw [observePresentation, hprocessed, events_ofExcept_ok]
  dsimp only
  rw [events_emit_bind, hnormalized, events_ofExcept_ok, events_bind hobserved,
    events_observeSlides hslides, events_emit_bind, hlast, events_ofExcept_ok, events_pure]

end Records

/-! ### Lengths in a manifest -/

theorem roundToDouble_of_lt {m : Nat} (h : m < 2 ^ 53) : roundToDouble m = m := by
  have hlog : m.log2 < 53 := by
    by_cases hzero : m = 0
    · rw [hzero]
      decide
    · exact (Nat.log2_lt hzero).mpr h
  have hshift : m.log2 + 1 - 53 = 0 := by omega
  simp only [roundToDouble, hshift, pow_zero, Nat.mod_one, Nat.div_one, Nat.mul_one]
  simp

/-- A length below 2 to the 53rd is written as it is. -/
theorem toJson_numberOfBigInt {n : Int} (h : n.natAbs < 2 ^ 53) :
    (numberOfBigInt n).toJson = .number n := by
  have hround := roundToDouble_of_lt h
  have hpow : ∀ k, 53 ≤ k → 2 ^ 53 ≤ 2 ^ k := fun k hk => Nat.pow_le_pow_right (by decide) hk
  have hfinite : ¬ 2 ^ 1024 ≤ n.natAbs := not_le.mpr (h.trans_le (hpow 1024 (by decide)))
  unfold numberOfBigInt
  simp only [hround, if_neg hfinite]
  by_cases hneg : n < 0
  · have hvalue : (n : Rat) = -(n.natAbs : Rat) := by
      have habs : n = -(n.natAbs : Int) := by omega
      calc (n : Rat) = ((-(n.natAbs : Int) : Int) : Rat) := congrArg _ habs
        _ = -(n.natAbs : Rat) := by rw [Int.cast_neg, Int.cast_natCast]
    rw [if_pos hneg, JsNumber.toJson, hvalue]
  · have hvalue : (n : Rat) = (n.natAbs : Rat) := by
      have habs : n = (n.natAbs : Int) := by omega
      calc (n : Rat) = ((n.natAbs : Int) : Rat) := congrArg _ habs
        _ = (n.natAbs : Rat) := Int.cast_natCast _
    rw [if_neg hneg, JsNumber.toJson, hvalue]

/-! ### The manifest -/

/-- A member of an object of a manifest. -/
def manifestMember (key : String) : Json → Option Json
  | .object members => members.lookup key
  | _ => none

/-- The page that an entry names. -/
def entryPage (entry : Json) : Option Rat :=
  match manifestMember "pageNumber" entry with
  | some (.number page) => some page
  | _ => none

/-- An entry of a manifest **agrees** with a derivative. -/
structure EntryAgrees (entry : Json) (derivative : PublishedDerivativeRecord) : Prop where
  deterministicKey : manifestMember "deterministicKey" entry =
    some (.string derivative.deterministicKey)
  checksum : manifestMember "checksum" entry = some (.string derivative.checksumValue)
  byteLength : manifestMember "byteLength" entry = some (.number derivative.byteLength)
  contentType : manifestMember "contentType" entry = some (.string derivative.contentType)
  pageNumber : entryPage entry = derivative.pageNumber

/-- A processor result with different positive pages. -/
structure PresentationProcessingActivityResult.Paged
    (processed : PresentationProcessingActivityResult) : Prop where
  positive : ∀ slide ∈ processed.slides, 0 < slide.pageNumber
  distinct : (processed.slides.map (·.pageNumber)).Nodup

/-- The lengths that the outputs are published with are below 2 to the 53rd. -/
structure PresentationProcessingActivityResult.ShortLengths (rt : Runtime)
    (processed : PresentationProcessingActivityResult) : Prop where
  document : (processed.normalizedDocument.integrity rt).1.natAbs < 2 ^ 53
  slides : ∀ slide ∈ processed.slides,
    (slide.toPresentationDerivativeOutput.integrity rt).1.natAbs < 2 ^ 53

/-- The body of a write is the one that the processor returned for a derivative. -/
def BodyOf (processed : PresentationProcessingActivityResult)
    (derivative : PublishedDerivativeRecord) (write : PublishObjectInput) : Prop :=
  (derivative.pageNumber = none ∧ write.body = .inline processed.normalizedDocument.body) ∨
    ∃ slide ∈ processed.slides, derivative.pageNumber = some slide.pageNumber ∧
      write.body = .inline slide.body

/-- **The manifest of a presentation agrees** with what was processed, recorded and written: it
lists every slide once, in the order of the pages; its keys are different; each entry agrees with
one derivative; and each derivative records the one write under its key, which has the body that
the processor returned. -/
structure PresentationAgrees (processed : PresentationProcessingActivityResult)
    (derivatives : List PublishedDerivativeRecord) (writes : List PublishObjectInput)
    (document : Json) (slides : List Json) : Prop where
  eachSlideOnce : (slides.map entryPage).Perm
    (processed.slides.map fun slide => some slide.pageNumber)
  ascending : slides.Pairwise fun left right => ∃ page page', entryPage left = some page ∧
    entryPage right = some page' ∧ page < page'
  distinctKeys : ((document :: slides).map (manifestMember "deterministicKey")).Nodup
  agree : ∀ entry ∈ document :: slides, ∃! derivative, derivative ∈ derivatives ∧
    EntryAgrees entry derivative
  writtenOnce : (writes.map (·.objectKey)).Nodup
  written : ∀ derivative ∈ derivatives, ∃! write, write ∈ writes ∧
    write.objectKey = derivative.deterministicKey ∧ derivative.Records write ∧
    BodyOf processed derivative write

section Agrees

variable {rt : Runtime} {env : TargetEnvironment} {version : VersionIdentity}
  {processed : PresentationProcessingActivityResult} {normalized : PublishedDerivativeRecord}
  {slides : List PublishedDerivativeRecord}

/-- The slides are written in strictly ascending order. -/
theorem pairwise_sortedSlides (h : processed.Paged) :
    processed.sortedSlides.Pairwise fun left right => left.pageNumber < right.pageNumber := by
  refine sortBy_pairwise h.distinct fun left right hne => ?_
  exact decide_eq_true_iff.trans ⟨fun hle => lt_of_le_of_ne hle hne, fun hlt => hlt.le⟩

theorem map_pageNumber_of_records {sorted : List PresentationSlideOutput}
    (h : List.Forall₂ (RecordsSlide rt version) sorted slides) :
    slides.map (·.pageNumber) = sorted.map fun slide => some slide.pageNumber := by
  induction h with
  | nil => rfl
  | cons hslide _ ih => rw [List.map_cons, List.map_cons, hslide.pageNumber, ih]

theorem map_deterministicKey_of_records {sorted : List PresentationSlideOutput}
    (h : List.Forall₂ (RecordsSlide rt version) sorted slides) :
    slides.map (·.deterministicKey) = sorted.map fun slide =>
      (slideWrite rt version slide).objectKey := by
  induction h with
  | nil => rfl
  | cons hslide _ ih => rw [List.map_cons, List.map_cons, hslide.records.deterministicKey, ih]

/-- The derivative of a slide has its slide. -/
theorem exists_slide_of_mem {sorted : List PresentationSlideOutput}
    (h : List.Forall₂ (RecordsSlide rt version) sorted slides) {d : PublishedDerivativeRecord}
    (hd : d ∈ slides) : ∃ slide ∈ sorted, RecordsSlide rt version slide d := by
  induction h with
  | nil => cases hd
  | cons hslide _ ih =>
      cases hd with
      | head => exact ⟨_, List.mem_cons_self, hslide⟩
      | tail _ hd =>
          obtain ⟨slide, hmem, hrecords⟩ := ih hd
          exact ⟨slide, List.mem_cons_of_mem _ hmem, hrecords⟩

/-- The pages of the derivatives of slides are strictly ascending. -/
theorem pairwise_page (h : processed.Paged)
    (hrecords : List.Forall₂ (RecordsSlide rt version) processed.sortedSlides slides) :
    slides.Pairwise fun left right => left.page < right.page := by
  have hpages : slides.map (·.page) = processed.sortedSlides.map (·.pageNumber) := by
    have hmap := congrArg (List.map fun page : Option Rat => page.getD 0)
      (map_pageNumber_of_records hrecords)
    rw [List.map_map, List.map_map] at hmap
    exact hmap
  have hsorted := List.pairwise_map.mpr (pairwise_sortedSlides h)
  rw [← hpages] at hsorted
  exact List.pairwise_map.mp hsorted

/-- The manifest lists the derivatives of the slides as they are. -/
theorem manifest_slides (h : processed.Paged) (hdocument : normalized.recipeId = "normalized-pdf")
    (hrecords : List.Forall₂ (RecordsSlide rt version) processed.sortedSlides slides) :
    sortBy (slideBefore rt) ((normalized :: slides).filter fun d => d.recipeId == "slide-images") =
      slides := by
  have hslides : ∀ d ∈ slides, (d.recipeId == "slide-images") = true := by
    intro d hd
    obtain ⟨slide, -, hslide⟩ := exists_slide_of_mem hrecords hd
    rw [hslide.recipeId]
    decide
  have hnot : (normalized.recipeId == "slide-images") = false := by
    rw [hdocument]
    decide
  rw [List.filter_cons, hnot, if_neg Bool.false_ne_true, List.filter_eq_self.mpr hslides]
  refine List.Pairwise.insertionSort_eq ((pairwise_page h hrecords).imp fun hlt => ?_)
  rw [slideBefore, decide_eq_true hlt, Bool.true_or]

/-- The entry of the normalized document. -/
def documentEntry (derivative : PublishedDerivativeRecord) : Json :=
  .object (normalizeDerivative derivative)

/-- The entry of a slide. -/
def slideEntry (derivative : PublishedDerivativeRecord) : Json :=
  .object (normalizeDerivative derivative ++ [("pageNumber", .number derivative.page)])

/-- The members of the published payload. -/
theorem members_presentationPayload (h : processed.Paged)
    (hdocument : normalized.recipeId = "normalized-pdf")
    (hrecords : List.Forall₂ (RecordsSlide rt version) processed.sortedSlides slides)
    (env : TargetEnvironment) :
    manifestMember "normalizedDocument" (presentationPayload rt env version normalized slides) =
        some (documentEntry normalized) ∧
      manifestMember "slides" (presentationPayload rt env version normalized slides) =
        some (.array (slides.map slideEntry)) := by
  rw [presentationPayload, buildPresentationAssetManifest, manifest_slides h hdocument hrecords]
  exact ⟨rfl, rfl⟩

theorem documentEntry_agrees (hrecords : RecordsDocument rt version processed normalized)
    (hlengths : processed.ShortLengths rt) : EntryAgrees (documentEntry normalized) normalized where
  deterministicKey := rfl
  checksum := rfl
  byteLength := by
    have hshort : normalized.byteLength.natAbs < 2 ^ 53 := by
      rw [hrecords.records.byteLength]
      exact hlengths.document
    exact congrArg some (toJson_numberOfBigInt hshort)
  contentType := rfl
  pageNumber := hrecords.pageNumber.symm

theorem slideEntry_agrees {slide : PresentationSlideOutput} {d : PublishedDerivativeRecord}
    (hrecords : RecordsSlide rt version slide d)
    (hshort : (slide.toPresentationDerivativeOutput.integrity rt).1.natAbs < 2 ^ 53) :
    EntryAgrees (slideEntry d) d where
  deterministicKey := rfl
  checksum := rfl
  byteLength := by
    have hlength : d.byteLength.natAbs < 2 ^ 53 := by
      rw [hrecords.records.byteLength]
      exact hshort
    exact congrArg some (toJson_numberOfBigInt hlength)
  contentType := rfl
  pageNumber := by
    change some (d.pageNumber.getD 0) = d.pageNumber
    rw [hrecords.pageNumber]
    rfl

/-- The keys of the derivatives of slides are different. -/
theorem nodup_slideKeys (htexts : FractionTexts rt) (h : processed.Paged) :
    (processed.sortedSlides.map fun slide => (slideWrite rt version slide).objectKey).Nodup := by
  refine List.pairwise_map.mpr ((pairwise_sortedSlides h).imp_of_mem fun hleft hright hlt heq => ?_)
  have hslash : '/' ∉ "slide-images".toList := by decide
  have hvariant := ((version.derivativeKey_inj hslash hslash).mp heq).2
  have hpositive : ∀ slide ∈ processed.sortedSlides, 0 < slide.pageNumber := fun slide hslide =>
    h.positive slide ((sortBy_perm _ _).mem_iff.mp hslide)
  exact hlt.ne (deriveSlideVariantKey_inj htexts (hpositive _ hleft) (hpositive _ hright) hvariant)

/-- The key of the document is not that of a slide. -/
theorem documentKey_ne (processed : PresentationProcessingActivityResult)
    (slide : PresentationSlideOutput) :
    (documentWrite rt version processed).objectKey ≠ (slideWrite rt version slide).objectKey := by
  intro heq
  have hrecipe := ((version.derivativeKey_inj (by decide) (by decide)).mp heq).1
  exact absurd hrecipe (by decide)

/-- The key of a manifest is not that of a derivative. -/
theorem manifestKey_ne (payload : Json) (recipe : RecipeBinding) (variantKey : String)
    (body : ObjectBody) (integrity : Int × ObjectChecksum) (contentType manifestType : String) :
    (derivativeWrite version recipe variantKey body integrity contentType).objectKey ≠
      (manifestWrite rt version manifestType payload).objectKey := by
  have hderivative : Begins ['d'] "deriv/" := by unfold Begins; decide
  have hmanifest : Begins ['m'] "manifests/" := by unfold Begins; decide
  have hnamespace :=
    ((hderivative.append version.serviceNamespaceId).append "/").append version.assetId
  have hversion := ((hnamespace.append "/").append version.versionId).append "/"
  have hnamespace' :=
    ((hmanifest.append version.serviceNamespaceId).append "/").append version.assetId
  have hversion' := ((hnamespace'.append "/").append version.versionId).append "/"
  exact (((hversion.append recipe.recipeId).append "/").append variantKey).ne
    ((hversion'.append manifestType).append ".json") rfl (by decide)

/-- The records of the derivatives have different keys. -/
theorem nodup_deterministicKeys (htexts : FractionTexts rt) (h : processed.Paged)
    (hdocument : RecordsDocument rt version processed normalized)
    (hrecords : List.Forall₂ (RecordsSlide rt version) processed.sortedSlides slides) :
    ((normalized :: slides).map (·.deterministicKey)).Nodup := by
  rw [List.map_cons, map_deterministicKey_of_records hrecords, hdocument.records.deterministicKey]
  refine List.nodup_cons.mpr ⟨fun hmem => ?_, nodup_slideKeys htexts h⟩
  obtain ⟨slide, -, heq⟩ := List.mem_map.mp hmem
  exact documentKey_ne processed slide heq.symm

/-- The keys of the written objects are different. -/
theorem nodup_objectKeys (htexts : FractionTexts rt) (h : processed.Paged) (payload : Json)
    (manifestType : String) :
    ((documentWrite rt version processed ::
      (processed.sortedSlides.map (slideWrite rt version) ++
        [manifestWrite rt version manifestType payload])).map (·.objectKey)).Nodup := by
  rw [List.map_cons, List.map_append, List.map_singleton, List.map_map]
  refine List.nodup_cons.mpr ⟨fun hmem => ?_, ?_⟩
  · cases List.mem_append.mp hmem with
    | inl hmem =>
        obtain ⟨slide, -, heq⟩ := List.mem_map.mp hmem
        exact documentKey_ne processed slide heq.symm
    | inr hmem =>
        exact manifestKey_ne payload _ _ _ _ _ manifestType (List.mem_singleton.mp hmem)
  · refine List.Nodup.append (nodup_slideKeys htexts h) (List.nodup_singleton _) ?_
    intro key hkey hmem
    obtain ⟨slide, -, rfl⟩ := List.mem_map.mp hkey
    exact manifestKey_ne payload _ _ _ _ _ manifestType (List.mem_singleton.mp hmem)

/-- An entry that agrees with one derivative agrees with no other. -/
theorem existsUnique_entry {derivatives : List PublishedDerivativeRecord}
    (hkeys : (derivatives.map (·.deterministicKey)).Nodup) {entry : Json}
    {d : PublishedDerivativeRecord} (hd : d ∈ derivatives) (hagrees : EntryAgrees entry d) :
    ∃! derivative, derivative ∈ derivatives ∧ EntryAgrees entry derivative := by
  refine ⟨d, ⟨hd, hagrees⟩, fun d' ⟨hd', hagrees'⟩ => ?_⟩
  have hkey := hagrees'.deterministicKey.symm.trans hagrees.deterministicKey
  exact List.inj_on_of_nodup_map hkeys hd' hd (Json.string.inj (Option.some.inj hkey))

/-- A derivative that records a write records no other. -/
theorem existsUnique_write {writes : List PublishObjectInput}
    (hkeys : (writes.map (·.objectKey)).Nodup) {d : PublishedDerivativeRecord}
    {write : PublishObjectInput} (hwrite : write ∈ writes) (hrecords : d.Records write)
    (hbody : BodyOf processed d write) :
    ∃! write, write ∈ writes ∧ write.objectKey = d.deterministicKey ∧ d.Records write ∧
      BodyOf processed d write := by
  refine ⟨write, ⟨hwrite, hrecords.deterministicKey.symm, hrecords, hbody⟩, ?_⟩
  rintro write' ⟨hwrite', hkey, -, -⟩
  exact List.inj_on_of_nodup_map hkeys hwrite' hwrite (hkey.trans hrecords.deterministicKey)

/-- **A prepared presentation agrees with its manifest.** -/
theorem presentationAgrees_of_records (htexts : FractionTexts rt) (h : processed.Paged)
    (hlengths : processed.ShortLengths rt)
    (hdocument : RecordsDocument rt version processed normalized)
    (hrecords : List.Forall₂ (RecordsSlide rt version) processed.sortedSlides slides)
    (payload : Json) (manifestType : String) :
    PresentationAgrees processed (normalized :: slides)
      (documentWrite rt version processed ::
        (processed.sortedSlides.map (slideWrite rt version) ++
          [manifestWrite rt version manifestType payload]))
      (documentEntry normalized) (slides.map slideEntry) := by
  have hkeys := nodup_deterministicKeys htexts h hdocument hrecords
  have hwrites : ((documentWrite rt version processed ::
      (processed.sortedSlides.map (slideWrite rt version) ++
        [manifestWrite rt version manifestType payload])).map (·.objectKey)).Nodup :=
    nodup_objectKeys htexts h payload manifestType
  have hsorted := sortBy_perm (fun left right : PresentationSlideOutput =>
    left.pageNumber ≤ right.pageNumber) processed.slides
  have hslide : ∀ d ∈ slides, ∃ slide ∈ processed.slides, RecordsSlide rt version slide d ∧
      slideWrite rt version slide ∈ processed.sortedSlides.map (slideWrite rt version) := by
    intro d hd
    obtain ⟨slide, hmem, hslide⟩ := exists_slide_of_mem hrecords hd
    exact ⟨slide, hsorted.mem_iff.mp hmem, hslide, List.mem_map_of_mem hmem⟩
  have hpage : ∀ d ∈ slides, entryPage (slideEntry d) = d.pageNumber := by
    intro d hd
    obtain ⟨slide, hmem, hrecord, -⟩ := hslide d hd
    exact (slideEntry_agrees hrecord (hlengths.slides slide hmem)).pageNumber
  refine ⟨?_, ?_, ?_, ?_, hwrites, ?_⟩
  · have hpages : slides.map (entryPage ∘ slideEntry) = slides.map (·.pageNumber) :=
      List.map_congr_left hpage
    rw [List.map_map, hpages, map_pageNumber_of_records hrecords]
    exact hsorted.map _
  · refine List.pairwise_map.mpr ((pairwise_page h hrecords).imp_of_mem fun _ _ hlt => ?_)
    exact ⟨_, _, rfl, rfl, hlt⟩
  · have hentries : (documentEntry normalized :: slides.map slideEntry).map
        (manifestMember "deterministicKey") =
        ((normalized :: slides).map (·.deterministicKey)).map fun key =>
        some (Json.string key) := by
      rw [List.map_cons, List.map_map, List.map_map]
      rfl
    rw [hentries]
    exact hkeys.map fun _ _ heq => Json.string.inj (Option.some.inj heq)
  · intro entry hentry
    cases List.mem_cons.mp hentry with
    | inl heq =>
        rw [heq]
        exact existsUnique_entry hkeys List.mem_cons_self (documentEntry_agrees hdocument hlengths)
    | inr hmem =>
        obtain ⟨d, hd, rfl⟩ := List.mem_map.mp hmem
        obtain ⟨slide, hslides, hrecord, -⟩ := hslide d hd
        exact existsUnique_entry hkeys (List.mem_cons_of_mem _ hd)
          (slideEntry_agrees hrecord (hlengths.slides slide hslides))
  · intro d hd
    cases List.mem_cons.mp hd with
    | inl heq =>
        rw [heq]
        exact existsUnique_write hwrites List.mem_cons_self hdocument.records
          (.inl ⟨hdocument.pageNumber, rfl⟩)
    | inr hd =>
        obtain ⟨slide, hslides, hrecord, hmem⟩ := hslide d hd
        exact existsUnique_write hwrites
          (List.mem_cons_of_mem _ (List.mem_append_left _ hmem)) hrecord.records
          (.inr ⟨slide, hslides, hrecord.pageNumber, rfl⟩)

end Agrees

/-- A workflow that publishes has prepared what it publishes of the version that it has begun. -/
theorem prepared_of_runPublicationWorkflow {ε : Type} {store : PublicationStore ε}
    {prepare : TargetEnvironment → String → CanonicalVersionRecord ε →
      Except RegistryError PreparedPublication}
    {rt : Runtime} {env : TargetEnvironment} {input : RunPublicationWorkflowInput} {db db' : Db}
    {result : PublicationWorkflowResult ε}
    (h : runPublicationWorkflow store prepare rt env input db = (.ok result, db')) :
    ∃ version, (env.beginning.transact (store.begin input.versionId) db).1 = .ok version ∧
      prepare env input.deliveryScopeId version =
        .ok { derivatives := result.derivatives, manifest := result.manifest } := by
  unfold runPublicationWorkflow at h
  cases hbegin : env.beginning.transact (store.begin input.versionId) db with
  | mk outcome db₁ =>
      cases outcome with
      | error e =>
          rw [hbegin] at h
          cases h
      | ok version =>
          cases hprepare : prepare env input.deliveryScopeId version with
          | error e =>
              simp only [hbegin, hprepare] at h
              cases h
          | ok prepared =>
              simp only [hbegin, hprepare] at h
              split at h
              · cases h
              · cases h
                exact ⟨version, rfl, hprepare⟩

/-- **The published manifest agrees.** A run of the presentation workflow that publishes has
processed the version that its first transaction returned, and prepared the derivatives and the
manifest that it hands to the store.
When the processor returned different positive pages and short lengths, the manifest, these
derivatives and all objects that were written agree, and the manifest is the last of them. -/
theorem presentation_manifest_agrees {rt : Runtime} (htexts : FractionTexts rt)
    {env : TargetEnvironment} {input : RunPublicationWorkflowInput} {db db' : Db}
    {result : PublicationWorkflowResult CanonicalSourceIdentity}
    (hrun : runPresentationPublicationWorkflow rt env input db = (.ok result, db')) :
    ∃ version processed payload writes,
      (env.beginning.transact (presentationPublicationStore.begin input.versionId) db).1 =
        .ok version ∧
      env.processPresentation (presentationActivityInput version) = .ok processed ∧
      (observePresentation rt env input.deliveryScopeId version).result =
        .ok { derivatives := result.derivatives, manifest := result.manifest } ∧
      (observePresentation rt env input.deliveryScopeId version).events =
        writes ++ [manifestWrite rt version.identity "presentation-default" payload] ∧
      result.manifest.manifestPayload = payload.toJs ∧
      (processed.Paged → processed.ShortLengths rt →
        ∃ document slides, manifestMember "normalizedDocument" payload = some document ∧
          manifestMember "slides" payload = some (.array slides) ∧
          PresentationAgrees processed result.derivatives
            (writes ++ [manifestWrite rt version.identity "presentation-default" payload]) document
            slides) := by
  obtain ⟨version, hbegun, hprepare⟩ := prepared_of_runPublicationWorkflow hrun
  obtain ⟨processed, normalized, slides, hprocessed, hderivatives, hdocument, hrecords, hpayload,
    hevents⟩ := preparePresentation_eq_ok hprepare
  refine ⟨version, processed, presentationPayload rt env version.identity normalized slides,
    documentWrite rt version.identity processed ::
      processed.sortedSlides.map (slideWrite rt version.identity), hbegun, hprocessed,
    (result_observePresentation version).trans hprepare, ?_, hpayload, fun hpaged hlengths => ?_⟩
  · rw [hevents, List.cons_append]
  · obtain ⟨hmember, hslides⟩ :=
      members_presentationPayload hpaged hdocument.recipeId hrecords env
    dsimp only at hderivatives
    rw [hderivatives, List.cons_append]
    exact ⟨_, _, hmember, hslides,
      presentationAgrees_of_records htexts hpaged hlengths hdocument hrecords _ _⟩

/-! ### A presentation with two slides -/

/-- The sample platform renders a fraction as its numerator and its denominator. -/
theorem sampleRuntime_fractionTexts : FractionTexts sampleRuntime where
  notDigits q := by
    refine ⟨'/', ?_, by decide⟩
    change '/' ∈ (toString q.num ++ "/" ++ toString q.den).toList
    rw [String.toList_append, String.toList_append]
    exact List.mem_append_left _ (List.mem_append_right _ (by decide))
  readBack := by
    refine ⟨fun cs => (Nat.ofDigitChars 10 (cs.takeWhile (· != '/')) 0 : Rat) /
      (Nat.ofDigitChars 10 ((cs.dropWhile (· != '/')).drop 1) 0 : Rat), fun q k hpos => ?_⟩
    obtain ⟨n, hn⟩ := Int.eq_ofNat_of_zero_le (Rat.num_pos.mpr hpos).le
    have htext : (sampleRuntime.numberToString q).toList =
        Nat.toDigits 10 n ++ '/' :: Nat.toDigits 10 q.den := by
      change (toString q.num ++ "/" ++ toString q.den).toList = _
      have hslash : "/".toList = ['/'] := by decide
      rw [hn, String.toList_append, String.toList_append, hslash, List.append_assoc,
        List.singleton_append]
      exact congrArg₂ _ Nat.toList_repr (congrArg _ Nat.toList_repr)
    have hdigits : ∀ c ∈ List.replicate k '0' ++ Nat.toDigits 10 n, (c != '/') = true := by
      intro c hc
      cases List.mem_append.mp hc with
      | inl hzero =>
          rw [List.eq_of_mem_replicate hzero]
          decide
      | inr hmem =>
          have hdigit := Nat.isDigit_of_mem_toDigits (by decide) (by decide) hmem
          refine bne_iff_ne.mpr fun heq => ?_
          rw [heq] at hdigit
          exact absurd hdigit (by decide)
    have hslash : ('/' != '/') = false := by decide
    rw [htext, ← List.append_assoc]
    dsimp only
    rw [List.takeWhile_append_of_pos hdigits,
      List.dropWhile_append_of_pos hdigits, List.takeWhile_cons, List.dropWhile_cons, hslash,
      if_neg Bool.false_ne_true, if_neg Bool.false_ne_true, List.append_nil,
      ofDigitChars_replicate_append, List.drop_one, List.tail_cons, Nat.ofDigitChars_ten_toDigits]
    calc (n : Rat) / q.den = (q.num : Rat) / q.den := by rw [hn]; rfl
      _ = q := Rat.num_div_den q

/-- A slide. -/
def sampleSlide (pageNumber : Rat) : PresentationSlideOutput where
  body := .text "slide"
  byteLength := 5
  contentType := "image/webp"
  pageNumber

/-- A presentation whose pages are not in order, one of them beyond the padding. -/
def sampleProcessed : PresentationProcessingActivityResult where
  normalizedDocument := { body := .text "pages", byteLength := 5, contentType := "application/pdf" }
  slides := [sampleSlide 1000, sampleSlide 2]

/-- What a publication of the presentation meets. -/
def samplePresentation : TargetEnvironment where
  processAssetDerivative _ := .error (.plain "no generic asset")
  processDerivative _ := .error (.plain "no image")
  processPresentation _ := .ok sampleProcessed
  publishObject _ input := .ok ⟨"derived", input.objectKey⟩
  publishedAt n := 100 + n
  manifestGeneratedAt := 110
  manifestPublishedAt := 120

/-- The publication of the sample version. -/
def samplePresentationRun : RunPublicationWorkflowInput := ⟨"scope-1", "version-a"⟩

theorem samplePresentation_succeeds : samplePresentation.Succeeds .presentation :=
  ⟨rfl, rfl, fun _ => ⟨_, rfl⟩, fun _ _ => ⟨_, rfl⟩⟩

theorem samplePresentation_publishes :
    ∃ result db', runPresentationPublicationWorkflow sampleRuntime samplePresentation
      samplePresentationRun samplePublicationDb = (.ok result, db') := by
  have hkeys : ∀ {row prepared}, (presentationPublicationStore.mapVersion row .processing >>=
      preparePresentation sampleRuntime samplePresentation samplePresentationRun.deliveryScopeId) =
        .ok prepared → prepared.OneKeyPerSlot row.version.id :=
    fun h => PublicationKind.prepare_oneKeyPerSlot .presentation h
  obtain ⟨prepared, hprepared⟩ : ∃ prepared, PublicationKind.presentation.prepare sampleRuntime
      samplePresentation samplePresentationRun.deliveryScopeId samplePublicationRow =
      .ok prepared :=
    (PublicationKind.prepare_succeeds_iff sampleRuntime _ samplePresentation_succeeds).mpr
      ⟨rfl, rfl⟩
  exact (runPublicationWorkflow_succeeds_iff rfl rfl (fun _ _ => rfl) hkeys).mpr
    ⟨samplePublicationRow, prepared, rfl, rfl, hprepared,
      ⟨_, List.mem_cons_self, rfl, rfl⟩, KeysFree.of_rows_nil rfl _⟩

/-- The manifest of the presentation agrees with what is recorded and written. -/
theorem sample_presentation_manifest :
    ∃ result db' payload writes document slides,
      runPresentationPublicationWorkflow sampleRuntime samplePresentation samplePresentationRun
        samplePublicationDb = (.ok result, db') ∧
      result.manifest.manifestPayload = payload.toJs ∧
      manifestMember "slides" payload = some (.array slides) ∧
      PresentationAgrees sampleProcessed result.derivatives writes document slides := by
  obtain ⟨result, db', hrun⟩ := samplePresentation_publishes
  obtain ⟨version, processed, payload, writes, -, hprocessed, -, -, hpayload, hagrees⟩ :=
    presentation_manifest_agrees sampleRuntime_fractionTexts hrun
  cases hprocessed
  have hpaged : sampleProcessed.Paged := by
    refine ⟨fun slide hslide => ?_, by decide⟩
    simp only [sampleProcessed, List.mem_cons, List.not_mem_nil, or_false] at hslide
    rcases hslide with rfl | rfl <;> decide
  have hlengths : sampleProcessed.ShortLengths sampleRuntime := by
    refine ⟨by decide, fun slide hslide => ?_⟩
    simp only [sampleProcessed, List.mem_cons, List.not_mem_nil, or_false] at hslide
    rcases hslide with rfl | rfl <;> decide
  obtain ⟨document, slides, -, hslides, hall⟩ := hagrees hpaged hlengths
  exact ⟨result, db', payload, _, document, slides, hrun, hpayload, hslides, hall⟩

end Cdngine
