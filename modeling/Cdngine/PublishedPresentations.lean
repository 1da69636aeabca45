import Cdngine.PresentationManifests

/-!
# Published Presentations

The derivatives of a presentation as its workflow returns them, and as the stores list them
afterwards. The in-memory store keeps the page of a slide; the Prisma store has no column for it
and reads it from the variant, and reads page zero where the recipe is not that of slides.

## Main results

* `mapDerivative_pageNumber`: the page that the Prisma store reads of a row that is not a slide.
* `presentation_never_listed_as_published`: after no publication of a presentation does the Prisma
  store list what the workflow returned.
-/

namespace Cdngine

/-! ### The workflow over the in-memory store -/

/-- A derivative as the workflow returns it for a version. -/
def PublishedDerivativeRecord.ofVersion (versionId : String)
    (derivative : PublishedDerivativeRecord) : MemoryDerivativeRecord :=
  { derivative with assetVersionId := versionId }

/-- A manifest as the workflow returns it for a version. -/
def PublishedManifestRecord.ofVersion (versionId : String) (manifest : PublishedManifestRecord) :
    MemoryManifestRecord :=
  { manifest with assetVersionId := versionId }

/-- `runPresentationPublicationWorkflow` over the in-memory store. -/
def runMemoryPresentationPublicationWorkflow (rt : Runtime) (env : TargetEnvironment)
    (input : RunPublicationWorkflowInput)
    (memory : MemoryPublicationStore CanonicalSourceIdentity) :
    Except RegistryError (PublicationWorkflowResult CanonicalSourceIdentity) ×
      MemoryPublicationStore CanonicalSourceIdentity :=
  match memory.begin presentationPublicationStore input.versionId with
  | (.error e, memory) => (.error e, memory)
  | (.ok version, memory) =>
      match preparePresentation rt env input.deliveryScopeId version with
      | .error e => (.error e, memory)
      | .ok prepared =>
          match memory.publish presentationPublicationStore input.versionId input.deliveryScopeId
            (prepared.derivatives.map (·.ofVersion version.versionId))
            (prepared.manifest.ofVersion version.versionId) with
          | (.error e, memory) => (.error e, memory)
          | (.ok version, memory) =>
              (.ok { derivatives := prepared.derivatives, manifest := prepared.manifest, version },
                memory)

/-! ### What is listed -/

/-- A derivative of a slide. -/
def MemoryDerivativeRecord.isSlide (d : MemoryDerivativeRecord) : Bool :=
  d.recipeId == "slide-images"

/-- Derivatives are **listed as they were published**: the records that the workflow returned, of
which the slides and no others have a page, with the slides in the order of their pages, and as the
in-memory store lists them after the same workflow. -/
structure ListedAsPublished (returned listed inMemory : List MemoryDerivativeRecord) : Prop where
  returned : listed.Perm returned
  pages : ∀ d ∈ listed, d.pageNumber.isSome = d.isSlide
  ascending : (listed.filter MemoryDerivativeRecord.isSlide).Pairwise fun left right =>
    left.page < right.page
  inMemory : listed = inMemory

/-- **The page that the Prisma store reads** of a row that is not a slide is zero. -/
theorem mapDerivative_pageNumber {record : Derivative} (h : record.recipeId ≠ "slide-images") :
    (presentationPublicationStore.mapDerivative record).pageNumber = some 0 := by
  change parsedPageNumber record.recipeId record.variantKey = some 0
  rw [parsedPageNumber, if_neg h]

/-- Every derivative that the Prisma store lists and that is no slide has page zero. -/
theorem pageNumber_of_mem_listed {rt : Runtime} {versionId : String} {db : Db}
    {d : MemoryDerivativeRecord}
    (h : d ∈ presentationPublicationStore.listPublishedDerivatives rt versionId db)
    (hslide : d.isSlide = false) : d.pageNumber = some 0 := by
  obtain ⟨record, -, rfl⟩ := List.mem_map.mp h
  exact mapDerivative_pageNumber fun heq => by
    rw [MemoryDerivativeRecord.isSlide, beq_eq_false_iff_ne] at hslide
    exact hslide heq

section Listed

variable {rt : Runtime} {env : TargetEnvironment} {input : RunPublicationWorkflowInput}
  {db db' : Db} {result : PublicationWorkflowResult CanonicalSourceIdentity}

/-- The workflow returns the normalized document without a page. -/
theorem exists_document
    (hrun : runPresentationPublicationWorkflow rt env input db = (.ok result, db')) :
    ∃ d ∈ result.derivatives, d.recipeId = "normalized-pdf" ∧ d.pageNumber = none := by
  obtain ⟨version, -, hprepare⟩ := prepared_of_runPublicationWorkflow hrun
  obtain ⟨processed, normalized, slides, -, hderivatives, hdocument, -⟩ :=
    preparePresentation_eq_ok hprepare
  dsimp only at hderivatives
  refine ⟨normalized, ?_, hdocument.recipeId, hdocument.pageNumber⟩
  rw [hderivatives]
  exact List.mem_cons_self

/-- The Prisma store does not list the normalized document as it was returned. -/
theorem exists_not_listed
    (hrun : runPresentationPublicationWorkflow rt env input db = (.ok result, db')) :
    ∃ d ∈ result.derivatives.map (·.ofVersion input.versionId), d.pageNumber = none ∧
      d ∉ presentationPublicationStore.listPublishedDerivatives rt input.versionId db' := by
  obtain ⟨d, hd, hrecipe, hpage⟩ := exists_document hrun
  refine ⟨d.ofVersion input.versionId, List.mem_map_of_mem hd, hpage, fun hlisted => ?_⟩
  have hslide : (d.ofVersion input.versionId).isSlide = false := by
    change (d.recipeId == "slide-images") = false
    rw [hrecipe]
    decide
  have hzero := pageNumber_of_mem_listed hlisted hslide
  cases hpage.symm.trans hzero

/-- **No presentation is listed as it was published.** Whatever the processor returns, whatever the
registry holds and whatever the in-memory store does, the Prisma store does not list the normalized
document as the workflow returned it. -/
theorem presentation_never_listed_as_published
    (hrun : runPresentationPublicationWorkflow rt env input db = (.ok result, db'))
    (memory : MemoryPublicationStore CanonicalSourceIdentity) :
    ¬ ListedAsPublished (result.derivatives.map (·.ofVersion input.versionId))
      (presentationPublicationStore.listPublishedDerivatives rt input.versionId db')
      ((runMemoryPresentationPublicationWorkflow rt env input memory).2.listPublishedDerivatives rt
        input.versionId) := by
  intro h
  obtain ⟨d, hd, -, hnot⟩ := exists_not_listed hrun
  exact hnot (h.returned.mem_iff.mpr hd)

end Listed

/-! ### The sample presentation -/

/-- The in-memory store publishes the sample presentation. -/
theorem samplePresentation_publishes_inMemory :
    ∃ result memory', runMemoryPresentationPublicationWorkflow sampleRuntime samplePresentation
      samplePresentationRun samplePublicationPair.memory = (.ok result, memory') := by
  obtain ⟨prepared, hprepared⟩ : ∃ prepared, preparePresentation sampleRuntime samplePresentation
      "scope-1" { sampleImageVersion with lifecycleState := .processing } = .ok prepared :=
    preparePresentation_ok samplePresentation_succeeds _
  have hbegin : samplePublicationPair.memory.begin presentationPublicationStore "version-a" =
      (.ok { sampleImageVersion with lifecycleState := .processing },
        samplePublicationPair.memory.moveVersion "version-a" sampleImageVersion .processing) := rfl
  rw [runMemoryPresentationPublicationWorkflow, samplePresentationRun, hbegin]
  simp only [hprepared]
  exact ⟨_, _, rfl⟩

/-- After the sample presentation is published through both stores, the Prisma store does not list
the normalized document as it was returned, without a page. -/
theorem sample_presentation_listed_otherwise :
    ∃ result db' inMemory memory',
      runPresentationPublicationWorkflow sampleRuntime samplePresentation samplePresentationRun
        samplePublicationDb = (.ok result, db') ∧
      runMemoryPresentationPublicationWorkflow sampleRuntime samplePresentation
        samplePresentationRun samplePublicationPair.memory = (.ok inMemory, memory') ∧
      (∃ d ∈ result.derivatives.map (·.ofVersion "version-a"), d.pageNumber = none ∧
        d ∉ presentationPublicationStore.listPublishedDerivatives sampleRuntime "version-a" db') ∧
      ¬ ListedAsPublished (result.derivatives.map (·.ofVersion "version-a"))
        (presentationPublicationStore.listPublishedDerivatives sampleRuntime "version-a" db')
        (memory'.listPublishedDerivatives sampleRuntime "version-a") := by
  obtain ⟨result, db', hrun⟩ := samplePresentation_publishes
  obtain ⟨inMemory, memory', hmemory⟩ := samplePresentation_publishes_inMemory
  obtain ⟨d, hd, hpage, hnot⟩ := exists_not_listed hrun
  exact ⟨result, db', inMemory, memory', hrun, hmemory, ⟨d, hd, hpage, hnot⟩,
    fun h => hnot (h.returned.mem_iff.mpr hd)⟩

/-- The sample presentation is not listed as it was published. -/
theorem sample_presentation_not_listed_as_published :
    ∃ result db',
      runPresentationPublicationWorkflow sampleRuntime samplePresentation samplePresentationRun
        samplePublicationDb = (.ok result, db') ∧
      ¬ ListedAsPublished (result.derivatives.map (·.ofVersion "version-a"))
        (presentationPublicationStore.listPublishedDerivatives sampleRuntime "version-a" db')
        ((runMemoryPresentationPublicationWorkflow sampleRuntime samplePresentation
          samplePresentationRun samplePublicationPair.memory).2.listPublishedDerivatives
            sampleRuntime "version-a") := by
  obtain ⟨result, db', hrun⟩ := samplePresentation_publishes
  exact ⟨result, db', hrun,
    presentation_never_listed_as_published hrun samplePublicationPair.memory⟩

end Cdngine
