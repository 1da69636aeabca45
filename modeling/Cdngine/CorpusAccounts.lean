import Cdngine.DedupeCorpus
import Cdngine.XetSourceRepository
import Mathlib.Algebra.Order.BigOperators.Group.List
import Mathlib.Algebra.Order.Group.Nat

/-!
# The Accounts of a Corpus

What the numbers that the deduplication script reports say about the chunks of the corpus.

## Main results

* `Benchmarked.totals`: what the records of a corpus add up to is what its repository holds, each
  chunk once.
* `corpus_accounted`: every summary of a run accounts for the chunks of the corpus.
* `corpus_samples_verified`: no restore of a sample fails, and every sample is verified.
-/

open ContentStore Runs

namespace Cdngine

/-! ### Records of snapshots -/

/-- A record **tells** what a snapshot of a source did to the chunks of a repository. -/
structure CorpusRecord.Tells (rt : XetRuntime) (before : Directory String UInt8)
    (source : List UInt8) (record : CorpusRecord) (after : Directory String UInt8) : Prop where
  saved : after = before.saveAll (chunkAddress rt) (chunkBuffer source)
  terms : record.evidence.terms = termsOf rt 0 (chunkBuffer source)
  sha256 : record.sha256 = some (rt.sha256Hex source)
  logical : record.logicalByteLength = source.length
  stored : (after.byteSize : Int) = before.byteSize + record.storedByteLength
  chunks : record.chunkCount = (chunkBuffer source).length
  uploaded : (after.files.length : Int) + record.reusedChunkCount =
    before.files.length + record.chunkCount

section Snapshots

variable {rt : XetRuntime}

/-- An iteration that uploads its chunk adds a file, and no other one does. -/
theorem files_snapshotChunk (rt : XetRuntime)
    (state : SnapshotProgress × Directory String UInt8) (chunk : List UInt8) :
    (snapshotChunk rt state chunk).2.files.length + state.1.uploadedChunkHashes.length =
      state.2.files.length + (snapshotChunk rt state chunk).1.uploadedChunkHashes.length := by
  rw [snapshotChunk]
  cases hread : state.2.read (chunkFile (rt.sha256Hex chunk)) with
  | some _ => rfl
  | none =>
      have hfiles := Directory.weight_write_of_new (fun _ => 1) chunk hread
      rw [Directory.weight_one, Directory.weight_one] at hfiles
      change (state.2.write (chunkFile (rt.sha256Hex chunk)) chunk).files.length + _ =
        _ + (state.1.uploadedChunkHashes ++ [rt.sha256Hex chunk]).length
      rw [hfiles, List.length_append, List.length_singleton]
      omega

/-- **The uploaded chunks are the new files.** -/
theorem files_snapshotLoop (rt : XetRuntime) (source : List UInt8)
    (before : Directory String UInt8) :
    (snapshotLoop rt source before).2.files.length =
      before.files.length + (snapshotLoop rt source before).1.uploadedChunkHashes.length := by
  have hfold : ∀ (chunks : List (List UInt8)) (state : SnapshotProgress × Directory String UInt8),
      (chunks.foldl (snapshotChunk rt) state).2.files.length +
          state.1.uploadedChunkHashes.length =
        state.2.files.length +
          (chunks.foldl (snapshotChunk rt) state).1.uploadedChunkHashes.length := by
    intro chunks
    induction chunks with
    | nil => exact fun _ => rfl
    | cons chunk chunks ih =>
        intro state
        have hstep := files_snapshotChunk rt state chunk
        have hrest := ih (snapshotChunk rt state chunk)
        rw [List.foldl_cons]
        omega
  exact hfold (chunkBuffer source) ({}, before)

theorem countOfNumber_ofNat (n : Nat) : countOfNumber (some (.ofNat n)) = n := rfl

theorem countOfText_toString (n : Nat) : countOfText (some (.string (toString n))) = n := by
  rw [countOfText, bigIntOfText_toString, Option.getD_some]

/-- What the script records of a snapshot. -/
theorem tells_evidenceToRecord (rt : XetRuntime) (repository : XetRepository)
    (input : XetSnapshotInput)
    {logicalByteLength : Int} (hlogical : logicalByteLength = input.source.length)
    {sha256 : Option String} (hsha256 : sha256 = some (rt.sha256Hex input.source))
    (name path : String) (sourceArchive : Option SourceArchive)
    (splitEntry : Option SplitEntryReference) :
    (evidenceToRecord (snapshotCommand rt input repository).1 logicalByteLength name path sha256
        sourceArchive splitEntry).Tells rt repository.chunks input.source
      (snapshotCommand rt input repository).2.chunks := by
  have htracks := snapshot_tracks rt input.source repository.chunks
  have hfiles := files_snapshotLoop rt input.source repository.chunks
  rw [snapshotCommand]
  generalize snapshotLoop rt input.source repository.chunks = state at htracks hfiles
  obtain ⟨progress, chunks⟩ := state
  have hterms : progress.terms = termsOf rt 0 (chunkBuffer input.source) := htracks.progress.terms
  have hlength : progress.terms.length = (chunkBuffer input.source).length := by
    rw [hterms, length_termsOf]
  have hcounted := htracks.progress.counted
  have hbytes := htracks.stored
  simp only at hfiles hcounted hbytes
  refine ⟨htracks.chunks, hterms, hsha256, hlogical, ?_, ?_, ?_⟩
  · simp only [evidenceToRecord, snapshotOutput, countOfText_toString]
    omega
  · simp only [evidenceToRecord, snapshotOutput, countOfNumber_ofNat, hlength]
  · simp only [evidenceToRecord, snapshotOutput, countOfNumber_ofNat, hlength]
    omega

/-! ### Records of sequences of snapshots -/

/-- Records that tell, one by one, what snapshots of sources did to the chunks. -/
inductive Benchmarked (rt : XetRuntime) :
    Directory String UInt8 → List (List UInt8) → List CorpusRecord →
      Directory String UInt8 → Prop
  | nil (chunks : Directory String UInt8) : Benchmarked rt chunks [] [] chunks
  | cons {before middle after : Directory String UInt8} {source : List UInt8}
      {record : CorpusRecord} {sources : List (List UInt8)} {records : List CorpusRecord} :
      record.Tells rt before source middle → Benchmarked rt middle sources records after →
        Benchmarked rt before (source :: sources) (record :: records) after

namespace Benchmarked

variable {before middle after : Directory String UInt8} {sources sources' : List (List UInt8)}
  {records records' : List CorpusRecord}

theorem append (h : Benchmarked rt before sources records middle)
    (h' : Benchmarked rt middle sources' records' after) :
    Benchmarked rt before (sources ++ sources') (records ++ records') after := by
  induction h with
  | nil _ => exact h'
  | cons htells _ ih => exact Benchmarked.cons htells (ih h')

theorem singleton {source : List UInt8} {record : CorpusRecord}
    (h : record.Tells rt before source after) : Benchmarked rt before [source] [record] after :=
  Benchmarked.cons h (Benchmarked.nil after)

/-- The chunks of all sources are saved, in order. -/
theorem saved (h : Benchmarked rt before sources records after) :
    after = before.saveAll (chunkAddress rt) (sources.flatMap chunkBuffer) := by
  induction h with
  | nil _ => rfl
  | cons htells _ ih =>
      rw [ih, htells.saved, List.flatMap_cons, Directory.saveAll, Directory.saveAll,
        Directory.saveAll, List.foldl_append]

/-- What the records add up to. -/
theorem sums (h : Benchmarked rt before sources records after) :
    records.length = sources.length ∧
      (records.map (·.logicalByteLength)).sum = ((sources.map List.length).sum : Nat) ∧
      (after.byteSize : Int) = before.byteSize + (records.map (·.storedByteLength)).sum ∧
      (records.map (·.chunkCount)).sum =
        ((sources.map fun source => (chunkBuffer source).length).sum : Nat) ∧
      (after.files.length : Int) + (records.map (·.reusedChunkCount)).sum =
        before.files.length + (records.map (·.chunkCount)).sum := by
  induction h with
  | nil _ => exact ⟨rfl, rfl, (Int.add_zero _).symm, rfl, rfl⟩
  | cons htells _ ih =>
      obtain ⟨hlength, hlogical, hstored, hchunks, huploaded⟩ := ih
      have hlogical' := htells.logical
      have hstored' := htells.stored
      have hchunks' := htells.chunks
      have huploaded' := htells.uploaded
      simp only [List.length_cons, List.map_cons, List.sum_cons]
      refine ⟨?_, ?_, ?_, ?_, ?_⟩ <;> omega

/-- Each record has the digest and the terms of one of the sources. -/
theorem source_of_mem (h : Benchmarked rt before sources records after) {record : CorpusRecord}
    (hrecord : record ∈ records) :
    ∃ source ∈ sources, record.evidence.terms = termsOf rt 0 (chunkBuffer source) ∧
      record.sha256 = some (rt.sha256Hex source) := by
  induction h with
  | nil _ => cases hrecord
  | cons htells _ ih =>
      rcases List.mem_cons.mp hrecord with rfl | hrecord
      · exact ⟨_, List.mem_cons_self, htells.terms, htells.sha256⟩
      · obtain ⟨source, hsource, htold⟩ := ih hrecord
        exact ⟨source, List.mem_cons_of_mem _ hsource, htold⟩

end Benchmarked

/-! ### Each chunk once -/

/-- The different chunks of sources. -/
def distinctChunks (sources : List (List UInt8)) : Finset (List UInt8) :=
  (sources.flatMap chunkBuffer).toFinset

/-- Totals that count each chunk of the sources once. -/
structure CorpusTotals.CountOnce (totals : CorpusTotals) (sources : List (List UInt8)) :
    Prop where
  objects : totals.benchmarkedObjectCount = sources.length
  stored : totals.totalStoredByteLength = (∑ chunk ∈ distinctChunks sources, chunk.length : Nat)
  chunks : totals.totalChunks =
    ((sources.map fun source => (chunkBuffer source).length).sum : Nat)
  uploaded : totals.uploadedChunks = (distinctChunks sources).card

/-- The chunks of the sources, for the digests. -/
def ChunkedFrom (sources : List (List UInt8)) : Set (List UInt8) :=
  {chunk | chunk ∈ sources.flatMap chunkBuffer}

theorem chunkedFrom_append_left (sources sources' : List (List UInt8)) :
    ChunkedFrom sources ⊆ ChunkedFrom (sources ++ sources') := by
  intro chunk hchunk
  rw [ChunkedFrom, List.flatMap_append]
  exact List.mem_append_left _ hchunk

theorem chunkedFrom_append_right (sources sources' : List (List UInt8)) :
    ChunkedFrom sources' ⊆ ChunkedFrom (sources ++ sources') := by
  intro chunk hchunk
  rw [ChunkedFrom, List.flatMap_append]
  exact List.mem_append_right _ hchunk

/-- **What the records of a corpus add up to**: the repository has each chunk once. -/
theorem Benchmarked.totals {sources : List (List UInt8)} {records : List CorpusRecord}
    {after : Directory String UInt8} (h : Benchmarked rt .empty sources records after)
    (hcollision : Set.InjOn rt.sha256Hex (ChunkedFrom sources)) :
    (corpusTotals records).CountOnce sources := by
  obtain ⟨hlength, -, hstored, hchunks, huploaded⟩ := h.sums
  have haddress : Set.InjOn (chunkAddress rt) {chunk | chunk ∈ sources.flatMap chunkBuffer} :=
    chunkAddress_injOn hcollision
  have hbytes := weight_saveAll_empty List.length haddress
  have hfiles := weight_saveAll_empty (fun _ => 1) haddress
  rw [← h.saved, ← Directory.byteSize_eq_weight] at hbytes
  rw [← h.saved, Directory.weight_one, ← Finset.card_eq_sum_ones] at hfiles
  have hempty : (Directory.empty : Directory String UInt8).byteSize = 0 := rfl
  have hnone : (Directory.empty : Directory String UInt8).files.length = 0 := rfl
  refine ⟨?_, ?_, hchunks, ?_⟩
  · exact congrArg Int.ofNat hlength
  · change (records.map (·.storedByteLength)).sum = _
    rw [distinctChunks, ← hbytes]
    omega
  · change (records.map (·.chunkCount)).sum - (records.map (·.reusedChunkCount)).sum = _
    rw [distinctChunks, ← hfiles]
    omega

/-- The different chunks are not longer than the sources. -/
theorem distinctChunks_le (sources : List (List UInt8)) :
    ∑ chunk ∈ distinctChunks sources, chunk.length ≤ (sources.map List.length).sum := by
  have hall : ((sources.flatMap chunkBuffer).map List.length).sum =
      (sources.map List.length).sum := by
    induction sources with
    | nil => rfl
    | cons source sources ih =>
        have hsource := congrArg List.length (flatten_chunkBuffer source)
        rw [List.length_flatten] at hsource
        rw [List.flatMap_cons, List.map_append, List.sum_append, hsource, ih, List.map_cons,
          List.sum_cons]
  have hdedup : ∑ chunk ∈ distinctChunks sources, chunk.length =
      ((sources.flatMap chunkBuffer).dedup.map List.length).sum := by
    rw [← List.sum_toFinset List.length (List.nodup_dedup _), distinctChunks]
    congr 1
    ext chunk
    rw [List.mem_toFinset, List.mem_toFinset, List.mem_dedup]
  rw [hdedup, ← hall]
  exact ((List.dedup_sublist _).map List.length).sum_le_sum fun _ _ => Nat.zero_le _

end Snapshots

/-! ### The two corpora -/

section Corpora

variable {ε ι : Type} {rt : CorpusRuntime} {adapters : SplitArtifactAdapters ε ι}

/-- The first SHA-256 digest of a snapshot is that of its request. -/
theorem foundSha256_snapshot (rt : XetRuntime) (repository : XetRepository)
    {input : XetSnapshotInput} {digest : String}
    (hdigests : input.request.sourceDigests = some [⟨"sha256", digest⟩]) :
    foundSha256 (snapshotCommand rt input repository).1 = some digest := by
  have hnormal : normalizeDigests rt input.request input.source = [⟨"sha256", digest⟩] := by
    rw [normalizeDigests, hdigests]
    rfl
  change ((normalizeDigests rt input.request input.source).find? _).map _ = _
  rw [hnormal]
  rfl

/-- The length that a snapshot reports. -/
theorem logicalByteLength_snapshot (rt : XetRuntime) (repository : XetRepository)
    (input : XetSnapshotInput) :
    countOfText (snapshotCommand rt input repository).1.logicalByteLength = input.source.length :=
  countOfText_toString input.source.length

/-- A file is snapshotted whole. -/
theorem tells_fileRecord (rt : CorpusRuntime) (repository : XetRepository) (file : CorpusFile)
    (index : Nat) (metadata : List (String × String)) {sha256 : Option String}
    (hsha256 : sha256 = some (rt.sha256Hex file.content)) :
    (evidenceToRecord (runBenchmarkForFile rt file repository index metadata).1
        (countOfText (runBenchmarkForFile rt file repository index metadata).1.logicalByteLength)
        file.name file.path sha256 none none).Tells rt.toXetRuntime repository.chunks file.content
      (runBenchmarkForFile rt file repository index metadata).2.chunks :=
  tells_evidenceToRecord rt.toXetRuntime repository (fileInput rt file index metadata)
    (logicalByteLength_snapshot rt.toXetRuntime repository (fileInput rt file index metadata))
    hsha256 file.name file.path none none

/-- The archive corpus is its files. -/
theorem benchmarked_archive (rt : CorpusRuntime) (index : Nat) (files : List CorpusFile)
    (repository : XetRepository) :
    Benchmarked rt.toXetRuntime repository.chunks (files.map (·.content))
      (runArchiveFrom rt index files repository).1
      (runArchiveFrom rt index files repository).2.chunks := by
  induction files generalizing index repository with
  | nil => exact Benchmarked.nil repository.chunks
  | cons file files ih =>
      have hsha256 := @foundSha256_snapshot rt.toXetRuntime repository (fileInput rt file index [])
        (rt.sha256Hex file.content) rfl
      exact Benchmarked.cons (tells_fileRecord rt repository file index [] hsha256)
        (ih (index + 1) (runBenchmarkForFile rt file repository index []).2)

/-- The sources that a file of a split corpus is snapshotted as. -/
def splitSourcesOf (adapters : SplitArtifactAdapters ε ι) (file : CorpusFile) :
    List (List UInt8) :=
  if adapters.detectSplitArtifactFormat file.name file.content then
    match adapters.splitArtifactArchive file.content file.name with
    | .ok split => split.entries.map adapters.data
    | .error _ => []
  else [file.content]

/-- The entries of an archive are snapshotted in order. -/
theorem benchmarked_entries (workspacePath : String) (file : CorpusFile) (fileIndex : Nat)
    (format : String) (entryIndex : Nat) (entries : List ι) (repository : XetRepository) :
    Benchmarked rt.toXetRuntime repository.chunks (entries.map adapters.data)
      (benchmarkEntriesFrom rt adapters workspacePath file fileIndex format entryIndex entries
        repository).1
      (benchmarkEntriesFrom rt adapters workspacePath file fileIndex format entryIndex entries
        repository).2.chunks := by
  induction entries generalizing entryIndex repository with
  | nil => exact Benchmarked.nil repository.chunks
  | cons entry entries ih =>
      have htells := tells_evidenceToRecord rt.toXetRuntime repository
        (bufferInput rt (adapters.data entry)
          (entryRequest rt adapters file fileIndex entryIndex format entry) workspacePath) rfl rfl
        (file.name ++ "!/" ++ adapters.logicalPath entry) file.path
        (some ⟨file.name, rt.sha256Hex file.content⟩)
        (some ⟨entryIndex, adapters.logicalPath entry⟩)
      exact Benchmarked.cons htells (ih (entryIndex + 1) _)

/-- What is summarized of a file is what its records add up to. -/
structure SplitFileSummary.Sums (summary : SplitFileSummary) (file : CorpusFile)
    (records : List CorpusRecord) : Prop where
  original : summary.originalArchiveByteLength = file.content.length
  representation : summary.representation = "split" ∨ summary.representation = "whole-fallback"
  stored : summary.storedByteLength = (records.map (·.storedByteLength)).sum
  chunks : summary.chunkCount = (records.map (·.chunkCount)).sum
  reused : summary.reusedChunkCount = (records.map (·.reusedChunkCount)).sum

theorem sums_wholeFallback (rt : CorpusRuntime) (file : CorpusFile) (fileIndex : Nat)
    (repository : XetRepository) :
    (runWholeFallback rt file fileIndex repository).2.1.Sums file
      [(runWholeFallback rt file fileIndex repository).1] := by
  rw [runWholeFallback]
  generalize runBenchmarkForFile rt file repository fileIndex
    [("assetVersionId", packageCorpusId fileIndex ++ "-whole-fallback"),
      ("representation", "whole-fallback")] = taken
  refine ⟨rfl, .inr rfl, ?_, ?_, ?_⟩
  · rw [List.map_singleton, List.sum_singleton]
  · rw [List.map_singleton, List.sum_singleton]
  · rw [List.map_singleton, List.sum_singleton]

/-- A file of the split corpus. -/
theorem benchmarked_splitFile {workspacePath : String} {file : CorpusFile} {fileIndex : Nat}
    {repository repository' : XetRepository} {records : List CorpusRecord}
    {summary : SplitFileSummary}
    (h : runSplitFile rt adapters workspacePath file fileIndex repository =
      .ok (records, summary, repository')) :
    Benchmarked rt.toXetRuntime repository.chunks (splitSourcesOf adapters file) records
        repository'.chunks ∧
      summary.Sums file records := by
  rw [runSplitFile] at h
  rw [splitSourcesOf]
  by_cases hdetect : adapters.detectSplitArtifactFormat file.name file.content = true
  · rw [hdetect, Bool.not_true, if_neg Bool.false_ne_true] at h
    obtain ⟨split, hsplit, h⟩ := bind_eq_ok.mp h
    obtain ⟨-, -, h⟩ := bind_eq_ok.mp h
    obtain ⟨manifest, -, h⟩ := bind_eq_ok.mp h
    obtain ⟨rfl, rfl, rfl⟩ : _ ∧ _ ∧ _ := by simpa only [Except.ok.injEq, Prod.mk.injEq] using h
    rw [if_pos hdetect, mapError_eq_ok.mp hsplit]
    exact ⟨benchmarked_entries workspacePath file fileIndex split.format 0 split.entries
      repository, rfl, .inl rfl, rfl, rfl, rfl⟩
  · rw [Bool.not_eq_true] at hdetect
    rw [hdetect, Bool.not_false, if_pos rfl] at h
    obtain ⟨rfl, hrest⟩ : _ ∧ _ := by simpa only [Except.ok.injEq, Prod.mk.injEq] using h
    have hsums := sums_wholeFallback rt file fileIndex repository
    rw [hrest] at hsums
    have htells := tells_fileRecord rt repository file fileIndex
      [("assetVersionId", packageCorpusId fileIndex ++ "-whole-fallback"),
        ("representation", "whole-fallback")] rfl
    have hafter : repository' = (runWholeFallback rt file fileIndex repository).2.2 :=
      (congrArg Prod.snd hrest).symm
    rw [hdetect, if_neg Bool.false_ne_true, hafter]
    exact ⟨Benchmarked.singleton htells, hsums⟩

/-- What the files of a split corpus are summarized as. -/
structure SplitCorpusResult.Sums (result : SplitCorpusResult) (files : List CorpusFile) :
    Prop where
  length : result.filesSummary.length = files.length
  original : (result.filesSummary.map (·.originalArchiveByteLength)).sum =
    ((files.map (·.content.length)).sum : Nat)
  representation : ∀ summary ∈ result.filesSummary,
    summary.representation = "split" ∨ summary.representation = "whole-fallback"
  stored : (result.filesSummary.map (·.storedByteLength)).sum =
    (result.records.map (·.storedByteLength)).sum
  chunks : (result.filesSummary.map (·.chunkCount)).sum = (result.records.map (·.chunkCount)).sum
  reused : (result.filesSummary.map (·.reusedChunkCount)).sum =
    (result.records.map (·.reusedChunkCount)).sum

/-- The split corpus is the entries of its archives, and its other files. -/
theorem benchmarked_split {workspacePath : String} {files : List CorpusFile} {fileIndex : Nat}
    {repository repository' : XetRepository} {result : SplitCorpusResult}
    (h : runSplitFrom rt adapters workspacePath fileIndex files repository =
      .ok (result, repository')) :
    Benchmarked rt.toXetRuntime repository.chunks (files.flatMap (splitSourcesOf adapters))
        result.records repository'.chunks ∧
      result.Sums files := by
  induction files generalizing fileIndex repository result with
  | nil =>
      obtain ⟨rfl, rfl⟩ :
        _ ∧ _ := by simpa only [runSplitFrom, Except.ok.injEq, Prod.mk.injEq] using h
      exact ⟨Benchmarked.nil repository.chunks, rfl, rfl, fun _ hmem => (by cases hmem), rfl, rfl,
        rfl⟩
  | cons file files ih =>
      rw [runSplitFrom] at h
      obtain ⟨⟨records, summary, middle⟩, hfile, h⟩ := bind_eq_ok.mp h
      obtain ⟨⟨rest, after⟩, hrest, h⟩ := bind_eq_ok.mp h
      obtain ⟨rfl, rfl⟩ : _ ∧ _ := by simpa only [Except.ok.injEq, Prod.mk.injEq] using h
      obtain ⟨hbench, hsums⟩ := benchmarked_splitFile hfile
      obtain ⟨hbenchs, hsumss⟩ := ih hrest
      refine ⟨?_, ?_, ?_, ?_, ?_, ?_, ?_⟩
      · rw [List.flatMap_cons]
        exact hbench.append hbenchs
      · exact congrArg (· + 1) hsumss.length
      · have hfirst := hsums.original
        have hothers := hsumss.original
        simp only [List.map_cons, List.sum_cons]
        omega
      · exact List.forall_mem_cons.mpr ⟨hsums.representation, hsumss.representation⟩
      · simp only [List.map_cons, List.sum_cons, List.map_append, List.sum_append, hsums.stored,
          hsumss.stored]
      · simp only [List.map_cons, List.sum_cons, List.map_append, List.sum_append, hsums.chunks,
          hsumss.chunks]
      · simp only [List.map_cons, List.sum_cons, List.map_append, List.sum_append, hsums.reused,
          hsumss.reused]

theorem mapError_adapter {α : Type} {x : Except ε α} {error : CorpusError ε}
    (h : x.mapError CorpusError.adapter = .error error) : ∃ e, error = .adapter e := by
  cases x with
  | error e => exact ⟨e, (Except.error.inj h).symm⟩
  | ok a => cases h

theorem assertSplitContentEquivalent_error {archiveName : String} {split : SplitArchive ι}
    {error : CorpusError ε}
    (h : assertSplitContentEquivalent rt adapters archiveName split = .error error) :
    (∃ e, error = .adapter e) ∨ error = .notEquivalent archiveName := by
  rcases bind_eq_error.mp h with hrepack | ⟨repacked, -, h1⟩
  · exact .inl (mapError_adapter hrepack)
  rcases bind_eq_error.mp h1 with hunpack | ⟨unpackedAgain, -, h2⟩
  · exact .inl (mapError_adapter hunpack)
  rcases bind_eq_error.mp h2 with hcompare | ⟨equivalent, -, h3⟩
  · exact .inl (mapError_adapter hcompare)
  split at h3
  · cases h3
  · exact .inr (Except.error.inj h3).symm

theorem splitFile_error {workspacePath : String} {file : CorpusFile} {fileIndex : Nat}
    {repository : XetRepository} {error : CorpusError ε}
    (h : runSplitFile rt adapters workspacePath file fileIndex repository = .error error) :
    (∃ e, error = .adapter e) ∨ ∃ name, error = .notEquivalent name := by
  rw [runSplitFile] at h
  split at h
  · cases h
  rcases bind_eq_error.mp h with hsplit | ⟨split, -, h1⟩
  · exact .inl (mapError_adapter hsplit)
  rcases bind_eq_error.mp h1 with hassert | ⟨-, -, h2⟩
  · rcases assertSplitContentEquivalent_error hassert with hadapter | hname
    · exact .inl hadapter
    · exact .inr ⟨file.name, hname⟩
  rcases bind_eq_error.mp h2 with hmanifest | ⟨manifest, -, h3⟩
  · exact .inl (mapError_adapter hmanifest)
  · cases h3

/-- The adapters, and the comparison of what they repack, are all that a split corpus fails by. -/
theorem split_error {workspacePath : String} {files : List CorpusFile} {fileIndex : Nat}
    {repository : XetRepository} {error : CorpusError ε}
    (h : runSplitFrom rt adapters workspacePath fileIndex files repository = .error error) :
    (∃ e, error = .adapter e) ∨ ∃ name, error = .notEquivalent name := by
  induction files generalizing fileIndex repository with
  | nil => cases h
  | cons file files ih =>
      rw [runSplitFrom] at h
      rcases bind_eq_error.mp h with hfile | ⟨_, _, hafter⟩
      · exact splitFile_error hfile
      · rcases bind_eq_error.mp hafter with hrest | ⟨_, _, hlast⟩
        · exact ih hrest
        · cases hlast

end Corpora

/-! ### Restores of samples -/

/-- What is asked of the samples of records: there are as many as were asked for, if there are so
many records, and each is verified. -/
structure SamplesVerified (sampleCount : Nat) (recordCount : Int) (samples : List RestoreSample) :
    Prop where
  length : (samples.length : Int) = min (sampleCount : Int) recordCount
  verified : ∀ sample ∈ samples, sample.verified = true

section Samples

variable {ε : Type} {rt : CorpusRuntime} {before : Directory String UInt8}
  {sources : List (List UInt8)} {records : List CorpusRecord} {repository : XetRepository}

/-- Records of sources whose chunks the repository holds are restored. -/
theorem verifySamplesFrom_ok
    (h : Benchmarked rt.toXetRuntime before sources records repository.chunks)
    (hread : ∀ source ∈ sources, ∀ chunk ∈ chunkBuffer source,
      repository.chunks.read (chunkAddress rt.toXetRuntime chunk) = some chunk)
    (restoreRoot : String) (index : Nat) {entries : List CorpusRecord}
    (hentries : ∀ entry ∈ entries, entry ∈ records) :
    ∃ samples : List RestoreSample,
      verifySamplesFrom rt repository restoreRoot index entries =
        (.ok samples : Except (CorpusError ε) (List RestoreSample)) ∧
      samples.length = entries.length ∧ ∀ sample ∈ samples, sample.verified = true := by
  induction entries generalizing index with
  | nil => exact ⟨[], rfl, rfl, fun _ hmem => by cases hmem⟩
  | cons entry entries ih =>
      obtain ⟨hentry, hrest⟩ := List.forall_mem_cons.mp hentries
      obtain ⟨samples, hsamples, hlength, hverified⟩ := ih (index + 1) hrest
      obtain ⟨source, hsource, hterms, hsha256⟩ := h.source_of_mem hentry
      rw [verifySamplesFrom, restoreCommand_eq_ok hterms (hread source hsource)]
      refine ⟨_, bind_eq_ok.mpr ⟨_, rfl, bind_eq_ok.mpr ⟨samples, hsamples, rfl⟩⟩, ?_, ?_⟩
      · rw [List.length_cons, List.length_cons, hlength]
      · refine List.forall_mem_cons.mpr ⟨?_, hverified⟩
        exact decide_eq_true hsha256.symm

/-- **The samples are restored**: as many as were asked for while there are enough, and each to
the digest of its source. -/
theorem verifyRestoreSamples_ok {contents : Set (List UInt8)}
    (h : Benchmarked rt.toXetRuntime before sources records repository.chunks)
    (hcollision : Set.InjOn rt.sha256Hex contents) (hsources : ChunkedFrom sources ⊆ contents)
    (hbefore : Addressed (chunkAddress rt.toXetRuntime) contents none before)
    (restoreRoot : String) (sampleCount : Nat) :
    ∃ samples : List RestoreSample,
      verifyRestoreSamples rt records repository restoreRoot sampleCount =
        (.ok samples : Except (CorpusError ε) (List RestoreSample)) ∧
      SamplesVerified sampleCount records.length samples := by
  have hread : ∀ source ∈ sources, ∀ chunk ∈ chunkBuffer source,
      repository.chunks.read (chunkAddress rt.toXetRuntime chunk) = some chunk := by
    intro source hsource chunk hchunk
    rw [h.saved]
    exact hbefore.read_saveAll (chunkAddress_injOn hcollision) (fun c hc => hsources hc)
      (List.mem_flatMap.mpr ⟨source, hsource, hchunk⟩)
  obtain ⟨hsublist, hlength⟩ := sampleRestoreTargets_sublist records sampleCount
  obtain ⟨samples, hsamples, hcount, hverified⟩ := @verifySamplesFrom_ok ε rt before
    sources records repository h hread restoreRoot 0 _ fun entry hentry => hsublist.mem hentry
  refine ⟨samples, hsamples, ?_, hverified⟩
  rw [hcount, hlength]
  omega

end Samples

/-! ### Reports -/

section Reports

variable {ε ι : Type} (rt : CorpusRuntime) (adapters : SplitArtifactAdapters ε ι)

/-- The sources of a split corpus. -/
def splitSources (files : List CorpusFile) : List (List UInt8) :=
  files.flatMap (splitSourcesOf adapters)

/-- What a summary of an archive corpus is asked for. -/
structure ArchiveSummary.Accounted (summary : ArchiveSummary) (files : List CorpusFile) :
    Prop where
  totals : summary.toCorpusTotals.CountOnce (files.map (·.content))
  fileCount : summary.fileCount = files.length
  logical : summary.totalLogicalByteLength = ((files.map (·.content.length)).sum : Nat)
  savings : summary.totalSavingsByteLength =
    summary.totalLogicalByteLength - summary.totalStoredByteLength
  saved : 0 ≤ summary.totalSavingsByteLength

/-- What a summary of a split corpus is asked for. -/
structure SplitSummary.Accounted (summary : SplitSummary) (files : List CorpusFile) :
    Prop where
  totals : summary.toCorpusTotals.CountOnce (splitSources adapters files)
  fileCount : summary.fileCount = files.length
  kinds : summary.splitFileCount + summary.wholeFallbackFileCount = summary.fileCount
  logical : summary.totalLogicalByteLength = ((files.map (·.content.length)).sum : Nat)
  stored : (summary.files.map (·.storedByteLength)).sum = summary.totalStoredByteLength
  chunks : (summary.files.map (·.chunkCount)).sum = summary.totalChunks
  reused : (summary.files.map (·.reusedChunkCount)).sum = summary.reusedChunks

/-- What a report is asked for: each summary in it accounts for its repository, and the comparison
is that of the two corpora. -/
def CorpusReport.Accounted (files : List CorpusFile) : CorpusReport → Prop
  | .archive summary => summary.Accounted files
  | .split summary => summary.Accounted adapters files
  | .both whole entries comparison =>
      whole.Accounted files ∧ entries.Accounted adapters files ∧
        comparison.splitDeltaByteLength =
          ((∑ chunk ∈ distinctChunks (splitSources adapters files), chunk.length : Nat) : Int) -
            (∑ chunk ∈ distinctChunks (files.map (·.content)), chunk.length : Nat)

/-- What is asked of the samples of a report. -/
def CorpusReport.Restored (sampleCount : Nat) : CorpusReport → Prop
  | .archive summary =>
      SamplesVerified sampleCount summary.benchmarkedObjectCount summary.restoreSamples
  | .split summary =>
      SamplesVerified sampleCount summary.benchmarkedObjectCount summary.restoreSamples
  | .both whole entries _ =>
      SamplesVerified sampleCount whole.benchmarkedObjectCount whole.restoreSamples ∧
        SamplesVerified sampleCount entries.benchmarkedObjectCount entries.restoreSamples

/-- The sources that are snapshotted in a mode. -/
def corpusSources (mode : String) (files : List CorpusFile) : List (List UInt8) :=
  if mode = "both" then files.map (·.content) ++ splitSources adapters files
  else if mode = "split" then splitSources adapters files
  else files.map (·.content)

variable {rt adapters} {directories : CorpusDirectories} {options : CorpusOptions}
  {files : List CorpusFile} {repository repository' : XetRepository}

/-- The mode `archive` in a fresh repository. -/
theorem archiveMode_accounted {summary : ArchiveSummary}
    (hcollision : Set.InjOn rt.sha256Hex (ChunkedFrom (files.map (·.content))))
    (h : runArchiveMode rt directories options files .empty =
      (.ok (summary, repository') : Except (CorpusError ε) _)) : summary.Accounted files := by
  obtain ⟨samples, -, h⟩ := bind_eq_ok.mp h
  obtain ⟨rfl, -⟩ : _ ∧ _ := by simpa only [Except.ok.injEq, Prod.mk.injEq] using h
  have hbench := benchmarked_archive rt 0 files .empty
  have htotals := hbench.totals hcollision
  obtain ⟨-, hlogical, -⟩ := hbench.sums
  have hstored := htotals.stored
  have hle := distinctChunks_le (files.map (·.content))
  rw [List.map_map] at hlogical hle
  refine ⟨htotals, rfl, hlogical, rfl, ?_⟩
  change 0 ≤ ((runArchiveFrom rt 0 files .empty).1.map (·.logicalByteLength)).sum -
    (corpusTotals (runArchiveFrom rt 0 files .empty).1).totalStoredByteLength
  rw [hlogical, hstored]
  omega

/-- Files that are of one of two kinds, counted by kind. -/
theorem length_kinds {files : List SplitFileSummary}
    (h : ∀ file ∈ files, file.representation = "split" ∨ file.representation = "whole-fallback") :
    (files.filter fun file => file.representation = "split").length +
      (files.filter fun file => file.representation = "whole-fallback").length = files.length := by
  induction files with
  | nil => rfl
  | cons file files ih =>
      obtain ⟨hfile, hfiles⟩ := List.forall_mem_cons.mp h
      have hrest := ih hfiles
      have hne : ¬ ("whole-fallback" = "split") ∧ ¬ ("split" = "whole-fallback") := by decide
      rcases hfile with heq | heq
      · simp only [List.filter_cons, heq, hne.2, decide_true, decide_false, if_true,
          Bool.false_eq_true, if_false, List.length_cons]
        omega
      · simp only [List.filter_cons, heq, hne.1, decide_true, decide_false, if_true,
          Bool.false_eq_true, if_false, List.length_cons]
        omega

/-- The mode `split` in a fresh repository. -/
theorem splitMode_accounted {summary : SplitSummary}
    (hcollision : Set.InjOn rt.sha256Hex (ChunkedFrom (splitSources adapters files)))
    (h : runSplitMode rt adapters directories options files .empty =
      .ok (summary, repository')) : summary.Accounted adapters files := by
  obtain ⟨⟨result, after⟩, hresult, h⟩ := bind_eq_ok.mp h
  obtain ⟨samples, -, h⟩ := bind_eq_ok.mp h
  obtain ⟨rfl, -⟩ : _ ∧ _ := by simpa only [Except.ok.injEq, Prod.mk.injEq] using h
  obtain ⟨hbench, hsums⟩ := benchmarked_split hresult
  have hkinds := length_kinds hsums.representation
  refine ⟨hbench.totals hcollision, congrArg Int.ofNat hsums.length, ?_, hsums.original,
    hsums.stored, hsums.chunks, hsums.reused⟩
  change (((result.filesSummary.filter fun file => file.representation = "split").length : Int) +
    (result.filesSummary.filter fun file => file.representation = "whole-fallback").length) =
      result.filesSummary.length
  omega

/-- **Every summary accounts for the chunks of the corpus**: after a reset, whatever the mode and
the adapters, the totals of a run count each chunk of what was snapshotted once. -/
theorem corpus_accounted {entries : List CorpusEntry}
    {repositories repositories' : CorpusRepositories} {report : CorpusReport}
    (hreset : options.reset = true)
    (hcollision : Set.InjOn rt.sha256Hex (ChunkedFrom (corpusSources adapters options.mode
      (listCorpusFiles rt options.corpusPath entries))))
    (h : runPackageCorpusDedupe rt adapters directories options (some entries) repositories =
      .ok (report, repositories')) :
    report.Accounted adapters (listCorpusFiles rt options.corpusPath entries) := by
  rw [runPackageCorpusDedupe] at h
  generalize listCorpusFiles rt options.corpusPath entries = files at h hcollision
  simp only [hreset, if_true] at h
  split at h
  · cases h
  rw [corpusSources] at hcollision
  by_cases hboth : options.mode = "both"
  · rw [if_pos hboth] at h hcollision
    obtain ⟨⟨whole, archive⟩, hwhole, h⟩ := bind_eq_ok.mp h
    obtain ⟨⟨summary, split⟩, hsummary, h⟩ := bind_eq_ok.mp h
    obtain ⟨rfl, -⟩ : _ ∧ _ := by simpa only [Except.ok.injEq, Prod.mk.injEq] using h
    have harchive := archiveMode_accounted
      (hcollision.mono (chunkedFrom_append_left _ _)) hwhole
    have hsplit := splitMode_accounted
      (hcollision.mono (chunkedFrom_append_right _ _)) hsummary
    refine ⟨harchive, hsplit, ?_⟩
    rw [compareSummaries, harchive.totals.stored, hsplit.totals.stored]
  · rw [if_neg hboth] at h hcollision
    by_cases hsplit : options.mode = "split"
    · rw [if_pos hsplit] at h hcollision
      obtain ⟨⟨summary, own⟩, hsummary, h⟩ := bind_eq_ok.mp h
      obtain ⟨rfl, -⟩ : _ ∧ _ := by simpa only [Except.ok.injEq, Prod.mk.injEq] using h
      exact splitMode_accounted hcollision hsummary
    · rw [if_neg hsplit] at h hcollision
      obtain ⟨⟨summary, own⟩, hsummary, h⟩ := bind_eq_ok.mp h
      obtain ⟨rfl, -⟩ : _ ∧ _ := by simpa only [Except.ok.injEq, Prod.mk.injEq] using h
      exact archiveMode_accounted hcollision hsummary

/-! ### Samples of reports -/

/-- The repositories of a run hold contents under their digests only. -/
structure CorpusRepositories.Hold (rt : CorpusRuntime) (contents : Set (List UInt8))
    (repositories : CorpusRepositories) : Prop where
  own : Addressed (chunkAddress rt.toXetRuntime) contents none repositories.own.chunks
  archive : Addressed (chunkAddress rt.toXetRuntime) contents none repositories.archive.chunks
  split : Addressed (chunkAddress rt.toXetRuntime) contents none repositories.split.chunks

theorem hold_removed (rt : CorpusRuntime) (contents : Set (List UInt8)) :
    CorpusRepositories.removed.Hold rt contents :=
  ⟨addressed_empty _ _, addressed_empty _ _, addressed_empty _ _⟩

/-- The mode `archive` never fails, and its samples are verified. -/
theorem archiveMode_restored {contents : Set (List UInt8)}
    (hcollision : Set.InjOn rt.sha256Hex contents)
    (hsources : ChunkedFrom (files.map (·.content)) ⊆ contents)
    (hbefore : Addressed (chunkAddress rt.toXetRuntime) contents none repository.chunks) :
    ∃ summary repository',
      runArchiveMode rt directories options files repository =
        (.ok (summary, repository') : Except (CorpusError ε) _) ∧
      SamplesVerified options.restoreSampleCount summary.benchmarkedObjectCount
        summary.restoreSamples := by
  obtain ⟨samples, hsamples, hverified⟩ := @verifyRestoreSamples_ok ε rt _ _ _ _ contents
    (benchmarked_archive rt 0 files repository) hcollision hsources hbefore
    directories.restoreRoot options.restoreSampleCount
  exact ⟨_, _, bind_eq_ok.mpr ⟨samples, hsamples, rfl⟩, hverified⟩

/-- The mode `split` fails by its adapters only, and its samples are verified. -/
theorem splitMode_restored {contents : Set (List UInt8)}
    (hcollision : Set.InjOn rt.sha256Hex contents)
    (hsources : ChunkedFrom (splitSources adapters files) ⊆ contents)
    (hbefore : Addressed (chunkAddress rt.toXetRuntime) contents none repository.chunks) :
    (∃ error, runSplitMode rt adapters directories options files repository = .error error ∧
      ∀ e, error ≠ .restore e) ∨
    ∃ summary repository',
      runSplitMode rt adapters directories options files repository = .ok (summary, repository') ∧
      SamplesVerified options.restoreSampleCount summary.benchmarkedObjectCount
        summary.restoreSamples := by
  cases hresult : runSplitCorpus rt adapters directories.workspacePath files repository with
  | error error =>
      refine .inl ⟨error, ?_, ?_⟩
      · exact bind_eq_error.mpr (.inl hresult)
      · rcases split_error hresult with ⟨e, rfl⟩ | ⟨name, rfl⟩
        · exact fun _ h => by cases h
        · exact fun _ h => by cases h
  | ok taken =>
      obtain ⟨result, after⟩ := taken
      obtain ⟨hbench, -⟩ := benchmarked_split hresult
      obtain ⟨samples, hsamples, hverified⟩ := @verifyRestoreSamples_ok ε rt _ _ _ _ contents
        hbench hcollision hsources hbefore directories.restoreRoot options.restoreSampleCount
      refine .inr ⟨_, _, bind_eq_ok.mpr ⟨_, hresult, bind_eq_ok.mpr ⟨samples, hsamples, rfl⟩⟩, ?_⟩
      exact hverified

/-- **No restore of a sample fails, and every sample is verified**, in every mode and also in
repositories that are kept, while they hold contents under their digests. A run fails by its mode
or its adapters only. -/
theorem corpus_samples_verified {entries : List CorpusEntry} {repositories : CorpusRepositories}
    {contents : Set (List UInt8)} (hcollision : Set.InjOn rt.sha256Hex contents)
    (hsources : ChunkedFrom (corpusSources adapters options.mode
      (listCorpusFiles rt options.corpusPath entries)) ⊆ contents)
    (hkept : options.reset = false → repositories.Hold rt contents) :
    (∃ error, runPackageCorpusDedupe rt adapters directories options (some entries) repositories =
        .error error ∧ ∀ e, error ≠ .restore e) ∨
      ∃ report repositories',
        runPackageCorpusDedupe rt adapters directories options (some entries) repositories =
          .ok (report, repositories') ∧
        report.Restored options.restoreSampleCount := by
  rw [runPackageCorpusDedupe]
  generalize listCorpusFiles rt options.corpusPath entries = files at hsources
  simp only
  split
  · exact .inl ⟨_, rfl, fun _ h => by cases h⟩
  have hhold : (if options.reset = true then CorpusRepositories.removed else repositories).Hold rt
      contents := by
    split
    · exact hold_removed rt contents
    · rename_i hreset
      exact hkept (Bool.not_eq_true _ ▸ hreset)
  generalize (if options.reset = true then CorpusRepositories.removed else repositories) =
    repositories at hhold
  rw [corpusSources] at hsources
  by_cases hboth : options.mode = "both"
  · rw [if_pos hboth] at hsources ⊢
    obtain ⟨summary, archive, hsummary, hverified⟩ := @archiveMode_restored ε rt directories
      { options with
        mode := "archive"
        repositoryPath := options.repositoryPath ++ "/archive" } files repositories.archive
      contents hcollision ((chunkedFrom_append_left _ _).trans hsources) hhold.archive
    rcases @splitMode_restored ε ι rt adapters directories
      { options with repositoryPath := options.repositoryPath ++ "/split" } files
      repositories.split contents hcollision ((chunkedFrom_append_right _ _).trans hsources)
      hhold.split with ⟨error, herror, hne⟩ | ⟨summary', split, hsummary', hverified'⟩
    · exact .inl ⟨error, bind_eq_error.mpr (.inr ⟨_, hsummary,
        bind_eq_error.mpr (.inl herror)⟩), hne⟩
    · exact .inr ⟨_, _, bind_eq_ok.mpr ⟨_, hsummary, bind_eq_ok.mpr ⟨_, hsummary', rfl⟩⟩,
        hverified, hverified'⟩
  · rw [if_neg hboth] at hsources ⊢
    by_cases hsplit : options.mode = "split"
    · rw [if_pos hsplit] at hsources ⊢
      rcases @splitMode_restored ε ι rt adapters directories options files repositories.own
        contents hcollision hsources hhold.own with
          ⟨error, herror, hne⟩ | ⟨summary, own, hsummary, hverified⟩
      · exact .inl ⟨error, bind_eq_error.mpr (.inl herror), hne⟩
      · exact .inr ⟨_, _, bind_eq_ok.mpr ⟨_, hsummary, rfl⟩, hverified⟩
    · rw [if_neg hsplit] at hsources ⊢
      obtain ⟨summary, own, hsummary, hverified⟩ := @archiveMode_restored ε rt directories options
        files repositories.own contents hcollision hsources hhold.own
      exact .inr ⟨_, _, bind_eq_ok.mpr ⟨_, hsummary, rfl⟩, hverified⟩

end Reports

/-! ### A small corpus -/

/-- The platform for a small corpus. -/
def sampleCorpusRuntime : CorpusRuntime where
  toXetRuntime := sampleXetRuntime
  toLowerCase s := String.ofList (s.toList.map Char.toLower)

/-- Adapters that split one archive. -/
def sampleAdapters : SplitArtifactAdapters String (String × List UInt8) where
  logicalPath := Prod.fst
  data := Prod.snd
  detectSplitArtifactFormat filename _ := filename = "b.zip"
  splitArtifactArchive _ _ := .ok ⟨[("payload.bin", [1, 2, 3]), ("metadata.txt", [4, 5])], "zip"⟩
  createSplitArtifactArchive split := .ok (split.entries.flatMap Prod.snd)
  compareSplitEntryDigestTrees left right := .ok (decide (left = right))
  createSplitArtifactManifest _ _ _ split := .ok
    ⟨"content-equivalent", (split.entries.map fun entry => (entry.2.length : Int)).sum⟩

/-- A directory with three files, two of which are the same. -/
def sampleCorpus : List CorpusEntry :=
  [⟨"b.zip", some [4, 5]⟩, ⟨"old", none⟩, ⟨"a.bin", some [1, 2, 3]⟩, ⟨"c.bin", some [1, 2, 3]⟩]

def sampleCorpusOptions : CorpusOptions where
  corpusPath := "/corpus"
  repositoryPath := "/repo"
  mode := "both"

/-- The files of the directory, in order. -/
def sampleCorpusFiles : List CorpusFile :=
  listCorpusFiles sampleCorpusRuntime sampleCorpusOptions.corpusPath sampleCorpus

/-- A run on the directory. -/
def sampleCorpusRun : Except (CorpusError String) (CorpusReport × CorpusRepositories) :=
  runPackageCorpusDedupe sampleCorpusRuntime sampleAdapters ⟨"/tmp/split", "/tmp/restore"⟩
    sampleCorpusOptions (some sampleCorpus) .removed

/-- The directory has two different chunks. -/
theorem sampleCorpus_chunks :
    ChunkedFrom (corpusSources sampleAdapters sampleCorpusOptions.mode sampleCorpusFiles) ⊆
      chunksOf sampleSnapshots := by
  have hchunks : (corpusSources sampleAdapters sampleCorpusOptions.mode
      sampleCorpusFiles).flatMap chunkBuffer =
        [[1, 2, 3], [4, 5], [1, 2, 3], [1, 2, 3], [1, 2, 3], [4, 5], [1, 2, 3]] := by
    decide +kernel
  intro chunk hchunk
  rw [ChunkedFrom, hchunks] at hchunk
  rw [sampleSnapshots_chunks]
  simp only [Set.mem_ofPred_eq, List.mem_cons, List.not_mem_nil, or_false] at hchunk
  rw [Set.mem_insert_iff, Set.mem_singleton_iff]
  tauto

/-- The run succeeds and accounts for the chunks. -/
theorem sample_corpus_accounted :
    ∃ report repositories', sampleCorpusRun = .ok (report, repositories') ∧
      report.Accounted sampleAdapters sampleCorpusFiles := by
  have hok : sampleCorpusRun.isOk = true := by decide +kernel
  obtain ⟨⟨report, repositories'⟩, hrun⟩ := exists_of_isOk hok
  exact ⟨report, repositories', hrun,
    corpus_accounted rfl (sampleSnapshots_injOn.mono sampleCorpus_chunks) hrun⟩

/-- Its samples are verified, unless an adapter fails. -/
theorem sample_corpus_verified :
    (∃ error, sampleCorpusRun = .error error ∧ ∀ e, error ≠ .restore e) ∨
      ∃ report repositories', sampleCorpusRun = .ok (report, repositories') ∧ report.Restored 3 :=
  corpus_samples_verified sampleSnapshots_injOn sampleCorpus_chunks fun h => by cases h

end Cdngine
