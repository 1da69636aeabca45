import Cdngine.Runs
import Cdngine.XetCommands

/-!
# Snapshots of a Local Repository

Sequences of runs of the snapshot command against one repository. Digests are assumed to differ
on the chunks of the files that are snapshotted, not on all byte strings.

## Main results

* `read_chunks_of_mem_trace`: after a sequence of runs, the repository holds all chunks of all
  files.
* `snapshot_holds_iff`: in every sequence of runs from the empty repository, a run is accepted,
  counts what it did and is restored after all further runs, exactly if its file is not empty.
-/

open ContentStore Runs

namespace Cdngine

variable {rt : XetRuntime}

/-- The repository after a run. -/
def XetRepository.snapshot (rt : XetRuntime) (repository : XetRepository)
    (input : XetSnapshotInput) : XetRepository :=
  (snapshotCommand rt input repository).2

/-- The chunks of the files of runs. -/
def chunksOf (inputs : List XetSnapshotInput) : Set (List UInt8) :=
  {chunk | ∃ input ∈ inputs, chunk ∈ chunkBuffer input.source}

theorem chunkFile_injective : Function.Injective chunkFile :=
  fun _ _ => (String.append_left_inj ".bin").mp

/-- Chunks with different digests have different files. -/
theorem chunkAddress_injOn {chunks : Set (List UInt8)} (h : Set.InjOn rt.sha256Hex chunks) :
    Set.InjOn (chunkAddress rt) chunks := fun _ ha _ hb heq => h ha hb (chunkFile_injective heq)

/-- The chunks of the repository after a run. -/
theorem chunks_snapshot (repository : XetRepository) (input : XetSnapshotInput) :
    (repository.snapshot rt input).chunks =
      repository.chunks.saveAll (chunkAddress rt) (chunkBuffer input.source) :=
  (snapshot_tracks rt input.source repository.chunks).chunks

/-- Later runs leave the chunks that are there as they are. -/
theorem read_snapshots {repository : XetRepository} {name : String} {content : List UInt8}
    (inputs : List XetSnapshotInput) (h : repository.chunks.read name = some content) :
    (inputs.foldl (XetRepository.snapshot rt) repository).chunks.read name = some content := by
  induction inputs generalizing repository with
  | nil => exact h
  | cons input inputs ih =>
      refine ih ?_
      rw [chunks_snapshot]
      exact Directory.read_saveAll_of_read _ _ h

/-- **Every run's chunks are there after all runs**, where no two chunks have one digest. -/
theorem read_chunks_of_mem_trace {contents : Set (List UInt8)} {repository : XetRepository}
    {inputs : List XetSnapshotInput} (haddress : Set.InjOn (chunkAddress rt) contents)
    (hcontents : chunksOf inputs ⊆ contents)
    (haddressed : Addressed (chunkAddress rt) contents none repository.chunks) :
    ∀ τ ∈ trace (XetRepository.snapshot rt) repository inputs,
      ∀ chunk ∈ chunkBuffer τ.action.source,
        (inputs.foldl (XetRepository.snapshot rt) repository).chunks.read
          (chunkAddress rt chunk) = some chunk := by
  induction inputs generalizing repository with
  | nil => intro τ hτ; cases hτ
  | cons input inputs ih =>
      have hinput : ∀ chunk ∈ chunkBuffer input.source, chunk ∈ contents := fun chunk hchunk =>
        hcontents ⟨input, List.mem_cons_self, hchunk⟩
      have hrest : chunksOf inputs ⊆ contents := fun chunk ⟨input', hinput', hchunk⟩ =>
        hcontents ⟨input', List.mem_cons_of_mem _ hinput', hchunk⟩
      have hafter : Addressed (chunkAddress rt) contents none
          (repository.snapshot rt input).chunks := by
        rw [chunks_snapshot]
        exact haddressed.saveAll hinput
      intro τ hτ chunk hchunk
      rcases List.mem_cons.mp hτ with rfl | hτ
      · refine read_snapshots inputs ?_
        rw [chunks_snapshot]
        exact haddressed.read_saveAll haddress hinput hchunk
      · exact ih hrest hafter τ hτ chunk hchunk

/-- What a run reports. -/
def snapshotReport (rt : XetRuntime) (τ : Transition XetRepository XetSnapshotInput) :
    XetSnapshotEvidenceCommandPayload :=
  (snapshotCommand rt τ.action τ.before).1

/-- What is asked of a run, given the repository after all further runs: its report is accepted;
the chunk count is the number of terms, and that of uploaded and reused hashes; the stored length
is the growth of the chunks; and the restore command writes the file, both from the report and
from the payload of the accepted evidence. -/
structure SnapshotHolds (rt : XetRuntime) (final : XetRepository)
    (τ : Transition XetRepository XetSnapshotInput) : Prop where
  accepted : ∃ evidence, parseXetSnapshotEvidenceCommandPayload (snapshotReport rt τ) = .ok evidence
  chunkCount : (snapshotReport rt τ).chunkCount = some (.ofNat (snapshotReport rt τ).terms.length)
  counted : (snapshotReport rt τ).terms.length =
    ((snapshotReport rt τ).uploadedXorbHashes.getD []).length +
      ((snapshotReport rt τ).deduplicatedXorbHashes.getD []).length
  stored : parseOptionalBigInt (snapshotReport rt τ).storedByteLength "storedByteLength" =
    .ok (some ((τ.after.chunks.byteSize : Int) - τ.before.chunks.byteSize))
  restored : ∀ destinationPath fileId,
    restoreCommand rt final ⟨destinationPath, some (snapshotReport rt τ), fileId⟩ =
      .ok ⟨destinationPath, τ.action.source⟩
  materialized : ∀ evidence,
    parseXetSnapshotEvidenceCommandPayload (snapshotReport rt τ) = .ok evidence →
      ∀ destinationPath fileId,
        restoreCommand rt final
            ⟨destinationPath, some (xetSnapshotEvidenceToCommandPayload evidence), fileId⟩ =
          .ok ⟨destinationPath, τ.action.source⟩

/-- The report of a run on an empty file is rejected: it has no term. -/
theorem parse_empty_report (rt : XetRuntime) (repository : XetRepository)
    (request : CommandBackedXetSnapshotRequest) (evidence : XetSnapshotEvidence) :
    parseXetSnapshotEvidenceCommandPayload (snapshotCommand rt ⟨request, []⟩ repository).1 ≠
      .ok evidence := by
  intro h
  obtain ⟨-, hne, -⟩ := parse_eq_ok h
  exact hne rfl

/-- What the snapshot command prints for a file that is not empty can be read. -/
theorem exists_parse_snapshotCommand (hdigest : ∀ bytes, rt.sha256Hex bytes ≠ "")
    {source : List UInt8} (hne : source ≠ []) (request : CommandBackedXetSnapshotRequest)
    (repository : XetRepository) :
    ∃ evidence, parseXetSnapshotEvidenceCommandPayload
      (snapshotCommand rt ⟨request, source⟩ repository).1 = .ok evidence := by
  have hterms : (snapshotCommand rt ⟨request, source⟩ repository).1.terms =
      termsOf rt 0 (chunkBuffer source) :=
    (snapshot_tracks rt source repository.chunks).progress.terms
  have hsome : (snapshotCommand rt ⟨request, source⟩ repository).1.terms ≠ [] := by
    rw [hterms, ← List.length_pos_iff, length_termsOf, List.length_pos_iff]
    exact fun h => hne (chunkBuffer_eq_nil_iff.mp h)
  have hwell : ∀ term ∈ (snapshotCommand rt ⟨request, source⟩ repository).1.terms,
      term.WellFormed := by
    rw [hterms]
    exact termsOf_wellFormed hdigest 0 _
  have hfileId : (snapshotCommand rt ⟨request, source⟩ repository).1.fileId ≠ "" := hdigest _
  obtain ⟨evidence, hevidence, -⟩ := exists_parse_eq_ok hfileId rfl rfl hsome hwell
  exact ⟨evidence, hevidence⟩

/-- **A run is accepted, counts what it did and is restored after all further runs exactly if
its file is not empty**, in every sequence of runs from the empty repository on whose chunks the
digests differ. -/
theorem snapshot_holds_iff {inputs : List XetSnapshotInput}
    (hdigest : ∀ bytes, rt.sha256Hex bytes ≠ "")
    (hcollision : Set.InjOn rt.sha256Hex (chunksOf inputs)) :
    ∀ τ ∈ trace (XetRepository.snapshot rt) .empty inputs,
      SnapshotHolds rt (inputs.foldl (XetRepository.snapshot rt) .empty) τ ↔
        τ.action.source ≠ [] := by
  intro τ hτ
  have hread := read_chunks_of_mem_trace (chunkAddress_injOn hcollision) subset_rfl
    (addressed_empty _ _) τ hτ
  have hafter : τ.after = τ.before.snapshot rt τ.action :=
    ((trace_run (XetRepository.snapshot rt) .empty inputs).step_of_mem τ hτ).symm
  have htracks := snapshot_tracks rt τ.action.source τ.before.chunks
  have hterms : (snapshotReport rt τ).terms = termsOf rt 0 (chunkBuffer τ.action.source) :=
    htracks.progress.terms
  constructor
  · intro h hempty
    obtain ⟨evidence, hevidence⟩ := h.accepted
    have hinput : τ.action = ⟨τ.action.request, []⟩ := by rw [← hempty]
    rw [snapshotReport, hinput] at hevidence
    exact parse_empty_report rt τ.before τ.action.request evidence hevidence
  · intro hne
    have hstored := htracks.stored
    refine ⟨?_, rfl, ?_, ?_, ?_, ?_⟩
    · exact exists_parse_snapshotCommand hdigest hne τ.action.request τ.before
    · rw [hterms, length_termsOf, ← htracks.progress.counted]
      rfl
    · have hgrowth : τ.after.chunks.byteSize = τ.before.chunks.byteSize +
          (snapshotLoop rt τ.action.source τ.before.chunks).1.storedByteLength := by
        rw [hafter]
        exact hstored
      have hcount : (τ.after.chunks.byteSize : Int) - τ.before.chunks.byteSize =
          (snapshotLoop rt τ.action.source τ.before.chunks).1.storedByteLength := by omega
      rw [hcount]
      exact parseOptionalBigInt_toString _ _
    · exact restoreCommand_eq_ok hterms hread
    · intro evidence hevidence
      obtain ⟨-, -, -, -, heq⟩ := parse_eq_ok hevidence
      exact restoreCommand_eq_ok (heq.trans hterms) hread

/-! ### Runs on small files -/

/-- A digest has hexadecimal digits. -/
theorem sampleXetRuntime_digest (bytes : List UInt8) : sampleXetRuntime.sha256Hex bytes ≠ "" := by
  intro h
  have hlength := Sha256.length_hex bytes
  rw [show Sha256.hex bytes = "" from h] at hlength
  cases hlength

/-- A run on a file. -/
def sampleSnapshot (source : List UInt8) : XetSnapshotInput where
  request := { assetVersionId := "version-1", localPath := "/tmp/a.bin", sourceFilename := "a.bin" }
  source

/-- Two runs on one file and a run on another in between. -/
def sampleSnapshots : List XetSnapshotInput :=
  [sampleSnapshot [1, 2, 3], sampleSnapshot [4, 5], sampleSnapshot [1, 2, 3]]

theorem sampleSnapshots_chunks : chunksOf sampleSnapshots = {[1, 2, 3], [4, 5]} := by
  ext chunk
  have hfirst : chunkBuffer [1, 2, 3] = [[1, 2, 3]] := by decide
  have hsecond : chunkBuffer [4, 5] = [[4, 5]] := by decide
  simp only [chunksOf, sampleSnapshots, List.mem_cons, List.not_mem_nil, or_false, exists_eq_or_imp,
    exists_eq_left, sampleSnapshot, hfirst, hsecond, Set.mem_ofPred_eq, Set.mem_insert_iff,
    Set.mem_singleton_iff]
  tauto

/-- The digests of the two files differ. -/
theorem sampleSnapshots_injOn :
    Set.InjOn sampleXetRuntime.sha256Hex (chunksOf sampleSnapshots) := by
  have hne : Sha256.hex [1, 2, 3] ≠ Sha256.hex [4, 5] := by decide +kernel
  rw [sampleSnapshots_chunks]
  rintro a (rfl | rfl) b (rfl | rfl) h
  · rfl
  · exact absurd h hne
  · exact absurd h.symm hne
  · rfl

/-- The three runs hold; the last reuses the chunk of the first. -/
theorem sampleSnapshots_hold :
    Set.InjOn sampleXetRuntime.sha256Hex (chunksOf sampleSnapshots) ∧
      ∀ τ ∈ trace (XetRepository.snapshot sampleXetRuntime) .empty sampleSnapshots,
        SnapshotHolds sampleXetRuntime
          (sampleSnapshots.foldl (XetRepository.snapshot sampleXetRuntime) .empty) τ := by
  refine ⟨sampleSnapshots_injOn, fun τ hτ => ?_⟩
  refine (snapshot_holds_iff sampleXetRuntime_digest sampleSnapshots_injOn τ hτ).mpr ?_
  simp only [sampleSnapshots, trace, List.mem_cons, List.not_mem_nil, or_false] at hτ
  rcases hτ with rfl | rfl | rfl
  · exact List.cons_ne_nil _ _
  · exact List.cons_ne_nil _ _
  · exact List.cons_ne_nil _ _

/-- **The report of a run on an empty file is rejected**, although the run ends, reports that it
wrote nothing, and the restore command writes the empty file from that report. -/
theorem empty_snapshot_rejected :
    parseXetSnapshotEvidenceCommandPayload
          (snapshotCommand sampleXetRuntime (sampleSnapshot []) .empty).1 =
        .error (.error "Xet evidence must include at least one reconstruction term.") ∧
      restoreCommand sampleXetRuntime
          (snapshotCommand sampleXetRuntime (sampleSnapshot []) .empty).2
          ⟨"/tmp/b.bin", some (snapshotCommand sampleXetRuntime (sampleSnapshot []) .empty).1,
            none⟩ =
        .ok ⟨"/tmp/b.bin", []⟩ ∧
      ¬ ∀ τ ∈ trace (XetRepository.snapshot sampleXetRuntime) .empty [sampleSnapshot []],
        SnapshotHolds sampleXetRuntime
          ([sampleSnapshot []].foldl (XetRepository.snapshot sampleXetRuntime) .empty) τ := by
  have hrejected : parseXetSnapshotEvidenceCommandPayload
      (snapshotCommand sampleXetRuntime (sampleSnapshot []) .empty).1 =
        .error (.error "Xet evidence must include at least one reconstruction term.") := by
    decide +kernel
  refine ⟨hrejected, rfl, fun h => ?_⟩
  obtain ⟨evidence, hevidence⟩ := (h _ List.mem_cons_self).accepted
  cases hrejected.symm.trans hevidence

end Cdngine
