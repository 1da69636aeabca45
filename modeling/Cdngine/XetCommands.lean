import Cdngine.Chunkers
import Cdngine.ContentStore
import Cdngine.XetEvidence

/-!
# The Snapshot and Restore Commands

The two scripts over a local chunk repository. The snapshot command cuts a file into chunks
where a rolling fingerprint says so, stores the chunks that the repository does not hold under
their digests, persists a manifest and reports its evidence; the restore command orders the
terms of an evidence and concatenates their chunks.

## Main results

* `chunkBuffer_eq_chunks`: the loop over the bytes is the chunker `gearChunker`.
* `flatten_chunkBuffer`, `chunkBuffer_sizes`: the chunks are the file, none is empty or above the
  largest size, and all but the last have the least size.
* `snapshot_tracks`: what a run reports and does to the chunks of the repository.
* `restoreCommand_eq_ok`: a file is restored from the terms of its chunks.
-/

open Chunkers ContentStore

namespace Cdngine

/-! ### Cutting a file into chunks -/

/-- `MIN_CHUNK_SIZE`. -/
def minChunkSize : Nat := 32 * 1024

/-- `MAX_CHUNK_SIZE`. -/
def maxChunkSize : Nat := 128 * 1024

/-- `BOUNDARY_MASK`. -/
def boundaryMask : UInt32 := 0x0001ffff

/-- `nextDeterministicUint32`. -/
def nextDeterministicUint32 (state : UInt32) : UInt32 :=
  let value := state ^^^ (state <<< 13)
  let value := value ^^^ (value >>> 17)
  value ^^^ (value <<< 5)

/-- The states that follow a state. -/
def gearStates : Nat → UInt32 → List UInt32
  | 0, _ => []
  | n + 1, state =>
      let next := nextDeterministicUint32 state
      next :: gearStates n next

/-- `createGearTable`. -/
def createGearTable : List UInt32 := gearStates 256 0x9e3779b9

/-- `GEAR_TABLE[byte]`. -/
def gear (byte : UInt8) : UInt32 := createGearTable.getD byte.toNat 0

/-- The loop of `chunkBuffer`, with the bytes since the last cut, newest first, their number and
their fingerprint. -/
def chunksFrom (chunk : List UInt8) (chunkSize : Nat) (fingerprint : UInt32) :
    List UInt8 → List (List UInt8)
  | [] => if chunk.isEmpty then [] else [chunk.reverse]
  | byte :: bytes =>
      let fingerprint := (fingerprint <<< 1) + gear byte
      let chunkSize := chunkSize + 1
      if minChunkSize ≤ chunkSize ∧
          (fingerprint &&& boundaryMask = 0 ∨ maxChunkSize ≤ chunkSize) then
        (byte :: chunk).reverse :: chunksFrom [] 0 0 bytes
      else chunksFrom (byte :: chunk) chunkSize fingerprint bytes

/-- `chunkBuffer`, which the comparison of package corpora has a copy of. -/
def chunkBuffer (buffer : List UInt8) : List (List UInt8) :=
  if buffer.isEmpty then [] else chunksFrom [] 0 0 buffer

/-- The chunker of `chunkBuffer`: the size of the open chunk and its fingerprint. -/
def gearChunker : Chunker (Nat × UInt32) UInt8 where
  start := (0, 0)
  step s byte := (s.1 + 1, (s.2 <<< 1) + gear byte)
  cut s := decide (minChunkSize ≤ s.1 ∧ (s.2 &&& boundaryMask = 0 ∨ maxChunkSize ≤ s.1))

theorem chunksFrom_eq_chunksAfter (chunk : List UInt8) (chunkSize : Nat) (fingerprint : UInt32)
    (bytes : List UInt8) :
    chunksFrom chunk chunkSize fingerprint bytes =
      gearChunker.chunksAfter chunk (chunkSize, fingerprint) bytes := by
  induction bytes generalizing chunk chunkSize fingerprint with
  | nil => rw [chunksFrom, Chunker.chunksAfter]
  | cons byte bytes ih =>
      have hcut := ih [] 0 0
      have hopen := ih (byte :: chunk) (chunkSize + 1) ((fingerprint <<< 1) + gear byte)
      simp only [chunksFrom, Chunker.chunksAfter, hcut, hopen, gearChunker, decide_eq_true_eq]

/-- **`chunkBuffer` is a chunker.** -/
theorem chunkBuffer_eq_chunks (buffer : List UInt8) :
    chunkBuffer buffer = gearChunker.chunks buffer := by
  rw [chunkBuffer, Chunker.chunks]
  cases buffer with
  | nil => rfl
  | cons byte bytes =>
      rw [List.isEmpty_cons, if_neg Bool.false_ne_true, chunksFrom_eq_chunksAfter]
      rfl

/-- **The chunks are the file.** -/
theorem flatten_chunkBuffer (buffer : List UInt8) : (chunkBuffer buffer).flatten = buffer := by
  rw [chunkBuffer_eq_chunks, Chunker.flatten_chunks]

/-- Only the empty file has no chunk. -/
theorem chunkBuffer_eq_nil_iff {buffer : List UInt8} : chunkBuffer buffer = [] ↔ buffer = [] := by
  constructor
  · intro h
    rw [← flatten_chunkBuffer buffer, h, List.flatten_nil]
  · rintro rfl
    rfl

/-- What the sizes of a list of chunks are. -/
structure ChunkSizes (chunks : List (List UInt8)) : Prop where
  nonempty : ∀ chunk ∈ chunks, chunk ≠ []
  le_max : ∀ chunk ∈ chunks, chunk.length ≤ maxChunkSize
  min_le : ∀ chunk ∈ chunks.dropLast, minChunkSize ≤ chunk.length

theorem chunkSizes_nil : ChunkSizes [] where
  nonempty := fun _ h => by cases h
  le_max := fun _ h => by cases h
  min_le := fun _ h => by cases h

theorem chunkSizes_singleton {chunk : List UInt8} (hne : chunk ≠ [])
    (hle : chunk.length ≤ maxChunkSize) : ChunkSizes [chunk] where
  nonempty := List.forall_mem_singleton.mpr hne
  le_max := List.forall_mem_singleton.mpr hle
  min_le := fun _ h => by cases h

theorem ChunkSizes.cons {chunk : List UInt8} {chunks : List (List UInt8)} (h : ChunkSizes chunks)
    (hne : chunk ≠ []) (hle : chunk.length ≤ maxChunkSize) (hge : minChunkSize ≤ chunk.length) :
    ChunkSizes (chunk :: chunks) where
  nonempty := List.forall_mem_cons.mpr ⟨hne, h.nonempty⟩
  le_max := List.forall_mem_cons.mpr ⟨hle, h.le_max⟩
  min_le := by
    cases chunks with
    | nil => exact fun _ h => by cases h
    | cons next chunks =>
        rw [List.dropLast_cons_cons]
        exact List.forall_mem_cons.mpr ⟨hge, h.min_le⟩

/-- The loop keeps the open chunk below the largest size. -/
theorem chunksFrom_sizes {chunk : List UInt8} (fingerprint : UInt32) (bytes : List UInt8)
    (hlt : chunk.length < maxChunkSize) :
    ChunkSizes (chunksFrom chunk chunk.length fingerprint bytes) := by
  induction bytes generalizing chunk fingerprint with
  | nil =>
      rw [chunksFrom]
      cases chunk with
      | nil => exact chunkSizes_nil
      | cons byte chunk =>
          refine chunkSizes_singleton (by simp) ?_
          rw [List.length_reverse]
          exact hlt.le
  | cons byte bytes ih =>
      rw [chunksFrom]
      have hlength : (byte :: chunk).reverse.length = chunk.length + 1 := by
        rw [List.length_reverse, List.length_cons]
      split
      · rename_i hcut
        have hrest : ChunkSizes (chunksFrom [] 0 0 bytes) := @ih [] 0 (by decide)
        exact hrest.cons (by simp) (by omega) (by omega)
      · rename_i hcut
        have hmin : minChunkSize < maxChunkSize := by decide
        have hopen : chunk.length + 1 < maxChunkSize := by
          by_contra hge
          exact hcut ⟨by omega, .inr (by omega)⟩
        exact @ih (byte :: chunk) _ hopen

/-- **The sizes of the chunks**: none is empty or above the largest size, and all but the last
have the least size. -/
theorem chunkBuffer_sizes (buffer : List UInt8) : ChunkSizes (chunkBuffer buffer) := by
  rw [chunkBuffer]
  split
  · exact chunkSizes_nil
  · exact @chunksFrom_sizes [] 0 buffer (by decide)

/-! ### The snapshot command -/

/-- The platform of the scripts: what the rest of the code takes from it, and the terms in the
parsed text of a manifest. -/
structure XetRuntime extends Runtime where
  manifestTerms : List UInt8 → Option (List XetReconstructionTerm)

/-- The sample platform; no manifest is parsed with it. -/
def sampleXetRuntime : XetRuntime where
  toRuntime := sampleRuntime
  manifestTerms _ := none

/-- The local repository: its two directories. -/
structure XetRepository where
  chunks : Directory String UInt8
  manifests : Directory String UInt8

/-- The repository after `ensureRepositoryLayout`. -/
def XetRepository.empty : XetRepository := ⟨.empty, .empty⟩

/-- `CommandBackedXetSnapshotRequest`. -/
structure CommandBackedXetSnapshotRequest where
  assetVersionId : String
  localPath : String
  sourceFilename : String
  logicalByteLength : Option String := none
  sourceDigests : Option (List ObjectChecksum) := none
  metadata : Option (List (String × String)) := none
  deriving DecidableEq, Repr

/-- The name of the file of a chunk. -/
def chunkFile (chunkHash : String) : String := chunkHash ++ ".bin"

/-- The name of the file of a manifest. -/
def manifestFile (fileId : String) : String := fileId ++ ".json"

/-- The name of the file that a chunk is stored in. -/
def chunkAddress (rt : XetRuntime) (chunk : List UInt8) : String := chunkFile (rt.sha256Hex chunk)

/-- `normalizeDigests`. -/
def normalizeDigests (rt : XetRuntime) (request : CommandBackedXetSnapshotRequest)
    (buffer : List UInt8) : List ObjectChecksum :=
  let digestSet := request.sourceDigests.getD []
  if digestSet.any fun digest => digest.algorithm = "sha256" then digestSet
  else digestSet ++ [⟨"sha256", rt.sha256Hex buffer⟩]

/-- A digest as JSON. -/
def digestJson (digest : ObjectChecksum) : Json :=
  .object [("algorithm", .string digest.algorithm), ("value", .string digest.value)]

/-- A term as JSON. -/
def XetReconstructionTerm.toJson (term : XetReconstructionTerm) : Json :=
  .object [("xorbHash", .string term.xorbHash),
    ("startChunkIndex", term.startChunkIndex.toJson), ("endChunkIndex", term.endChunkIndex.toJson)]

/-- `JSON.stringify(terms)`. -/
def termsJson (terms : List XetReconstructionTerm) : Json :=
  .array (terms.map XetReconstructionTerm.toJson)

/-- The variables of the snapshot loop. -/
structure SnapshotProgress where
  index : Nat := 0
  terms : List XetReconstructionTerm := []
  uploadedChunkHashes : List String := []
  reusedChunkHashes : List String := []
  storedByteLength : Nat := 0
  deriving DecidableEq, Repr

/-- One iteration records the term of its chunk. -/
def SnapshotProgress.pushTerm (progress : SnapshotProgress) (chunkHash : String) :
    SnapshotProgress :=
  { progress with
    index := progress.index + 1
    terms := progress.terms ++
      [⟨chunkHash, .ofNat progress.index, .ofNat (progress.index + 1)⟩] }

/-- An iteration that finds the file of its chunk. -/
def SnapshotProgress.reuse (progress : SnapshotProgress) (chunkHash : String) : SnapshotProgress :=
  { progress.pushTerm chunkHash with
    reusedChunkHashes := progress.reusedChunkHashes ++ [chunkHash] }

/-- An iteration that has written its chunk. -/
def SnapshotProgress.upload (progress : SnapshotProgress) (chunkHash : String) (length : Nat) :
    SnapshotProgress :=
  { progress.pushTerm chunkHash with
    uploadedChunkHashes := progress.uploadedChunkHashes ++ [chunkHash]
    storedByteLength := progress.storedByteLength + length }

/-- One iteration of the snapshot loop. -/
def snapshotChunk (rt : XetRuntime) (state : SnapshotProgress × Directory String UInt8)
    (chunk : List UInt8) : SnapshotProgress × Directory String UInt8 :=
  let chunkHash := rt.sha256Hex chunk
  match state.2.read (chunkFile chunkHash) with
  | some _ => (state.1.reuse chunkHash, state.2)
  | none =>
      (state.1.upload chunkHash chunk.length, state.2.write (chunkFile chunkHash) chunk)

/-- The manifest of a finished loop. -/
def snapshotManifest (rt : XetRuntime) (request : CommandBackedXetSnapshotRequest)
    (sourceBuffer : List UInt8) (progress : SnapshotProgress) : Json :=
  let logicalPath := ((request.metadata.getD []).lookup "logicalPath").getD request.sourceFilename
  .object [("assetVersionId", .string request.assetVersionId),
    ("digests", .array ((normalizeDigests rt request sourceBuffer).map digestJson)),
    ("logicalByteLength", .string (toString sourceBuffer.length)),
    ("logicalPath", .string logicalPath), ("sourceFilename", .string request.sourceFilename),
    ("terms", termsJson progress.terms)]

/-- The file id of a finished loop. -/
def snapshotFileId (rt : XetRuntime) (request : CommandBackedXetSnapshotRequest)
    (sourceBuffer : List UInt8) (progress : SnapshotProgress) : String :=
  rt.sha256Hex (utf8Bytes (stringify rt.toRuntime (.object
    [("digests", .array ((normalizeDigests rt request sourceBuffer).map digestJson)),
      ("logicalByteLength", .string (toString sourceBuffer.length)),
      ("terms", termsJson progress.terms)])))

/-- What the command prints after a finished loop. -/
def snapshotOutput (rt : XetRuntime) (request : CommandBackedXetSnapshotRequest)
    (sourceBuffer : List UInt8) (progress : SnapshotProgress) :
    XetSnapshotEvidenceCommandPayload where
  fileId := snapshotFileId rt request sourceBuffer progress
  terms := progress.terms
  shardIds := some [rt.sha256Hex (utf8Bytes (stringify rt.toRuntime (termsJson progress.terms)))]
  uploadedXorbHashes := some progress.uploadedChunkHashes
  deduplicatedXorbHashes := some progress.reusedChunkHashes
  logicalPath := some
    (((request.metadata.getD []).lookup "logicalPath").getD request.sourceFilename)
  digests := some (normalizeDigests rt request sourceBuffer)
  logicalByteLength := some (.string (toString sourceBuffer.length))
  storedByteLength := some (.string (toString progress.storedByteLength))
  chunkCount := some (.ofNat progress.terms.length)
  reusedChunkCount := some (.ofNat progress.reusedChunkHashes.length)

/-- The text of a manifest file. -/
def manifestBytes (rt : XetRuntime) (request : CommandBackedXetSnapshotRequest)
    (sourceBuffer : List UInt8) (progress : SnapshotProgress) : List UInt8 :=
  utf8Bytes (stringifyIndented rt.toRuntime 0 (snapshotManifest rt request sourceBuffer progress))

/-- The snapshot loop over the chunks of a file. -/
def snapshotLoop (rt : XetRuntime) (sourceBuffer : List UInt8)
    (chunks : Directory String UInt8) : SnapshotProgress × Directory String UInt8 :=
  (chunkBuffer sourceBuffer).foldl (snapshotChunk rt) ({}, chunks)

/-- A run of the snapshot command: its request, and the bytes of the file at its `localPath`. -/
structure XetSnapshotInput where
  request : CommandBackedXetSnapshotRequest
  source : List UInt8
  deriving DecidableEq, Repr

/-- The snapshot command. -/
def snapshotCommand (rt : XetRuntime) (input : XetSnapshotInput) (repository : XetRepository) :
    XetSnapshotEvidenceCommandPayload × XetRepository :=
  let (progress, chunks) := snapshotLoop rt input.source repository.chunks
  let fileId := snapshotFileId rt input.request input.source progress
  (snapshotOutput rt input.request input.source progress,
    { chunks
      manifests := repository.manifests.write (manifestFile fileId)
        (manifestBytes rt input.request input.source progress) })

/-! ### The restore command -/

/-- What the restore command reads of its request. -/
structure XetRestoreCommandRequest where
  destinationPath : String
  evidence : Option XetSnapshotEvidenceCommandPayload
  fileId : Option String
  deriving DecidableEq, Repr

/-- What the restore command writes, and where. -/
structure XetRestoredFile where
  restoredPath : String
  content : List UInt8
  deriving DecidableEq, Repr

/-- How the restore command fails. -/
inductive XetRestoreError
  | noSuchFile (name : String)
  | invalidManifest
  deriving DecidableEq, Repr

/-- `readFileSync` in a directory. -/
def readFileSync (directory : Directory String UInt8) (name : String) :
    Except XetRestoreError (List UInt8) :=
  match directory.read name with
  | some content => .ok content
  | none => .error (.noSuchFile name)

/-- The terms of `request.evidence ?? readManifest(repositoryDirectory, request.fileId)`. -/
def restoreTerms (rt : XetRuntime) (repository : XetRepository)
    (request : XetRestoreCommandRequest) : Except XetRestoreError (List XetReconstructionTerm) :=
  match request.evidence with
  | some evidence => .ok evidence.terms
  | none => do
      let content ← readFileSync repository.manifests
        (manifestFile (request.fileId.getD "undefined"))
      match rt.manifestTerms content with
      | some terms => .ok terms
      | none => .error .invalidManifest

/-- The loop of the restore command. -/
def readChunks (chunks : Directory String UInt8) :
    List XetReconstructionTerm → Except XetRestoreError (List (List UInt8))
  | [] => .ok []
  | term :: terms => do
      let chunk ← readFileSync chunks (chunkFile term.xorbHash)
      let rest ← readChunks chunks terms
      .ok (chunk :: rest)

/-- The restore command. -/
def restoreCommand (rt : XetRuntime) (repository : XetRepository)
    (request : XetRestoreCommandRequest) : Except XetRestoreError XetRestoredFile := do
  let terms ← restoreTerms rt repository request
  let buffers ← readChunks repository.chunks
    (sortBy (fun left right => left.startChunkIndex.notAbove right.startChunkIndex) terms)
  .ok ⟨request.destinationPath, buffers.flatten⟩

/-! ### What the snapshot loop does -/

/-- The terms of chunks, from an index on. -/
def termsOf (rt : XetRuntime) : Nat → List (List UInt8) → List XetReconstructionTerm
  | _, [] => []
  | index, chunk :: chunks =>
      ⟨rt.sha256Hex chunk, .ofNat index, .ofNat (index + 1)⟩ :: termsOf rt (index + 1) chunks

theorem length_termsOf (rt : XetRuntime) (index : Nat) (chunks : List (List UInt8)) :
    (termsOf rt index chunks).length = chunks.length := by
  induction chunks generalizing index with
  | nil => rfl
  | cons chunk chunks ih => rw [termsOf, List.length_cons, List.length_cons, ih]

theorem termsOf_append (rt : XetRuntime) (index : Nat) (chunks chunks' : List (List UInt8)) :
    termsOf rt index (chunks ++ chunks') =
      termsOf rt index chunks ++ termsOf rt (index + chunks.length) chunks' := by
  induction chunks generalizing index with
  | nil => rfl
  | cons chunk chunks ih =>
      rw [List.cons_append, termsOf, ih, termsOf, List.cons_append, List.length_cons,
        Nat.add_assoc, Nat.add_comm 1]

/-- The terms start at the index or later. -/
theorem le_start_of_mem_termsOf {rt : XetRuntime} {index : Nat} {chunks : List (List UInt8)}
    {term : XetReconstructionTerm} (h : term ∈ termsOf rt index chunks) :
    ∃ chunk ∈ chunks, ∃ i, index ≤ i ∧ term = ⟨rt.sha256Hex chunk, .ofNat i, .ofNat (i + 1)⟩ := by
  induction chunks generalizing index with
  | nil => cases h
  | cons chunk chunks ih =>
      rcases List.mem_cons.mp h with rfl | hmem
      · exact ⟨chunk, List.mem_cons_self, index, le_rfl, rfl⟩
      · obtain ⟨chunk', hchunk', i, hi, hterm⟩ := ih hmem
        exact ⟨chunk', List.mem_cons_of_mem _ hchunk', i, (Nat.le_succ index).trans hi, hterm⟩

theorem termsOf_wellFormed {rt : XetRuntime} (hdigest : ∀ bytes, rt.sha256Hex bytes ≠ "")
    (index : Nat) (chunks : List (List UInt8)) :
    ∀ term ∈ termsOf rt index chunks, term.WellFormed := by
  intro term hterm
  obtain ⟨chunk, -, i, -, rfl⟩ := le_start_of_mem_termsOf hterm
  exact ⟨hdigest chunk, i, (i + 1 : Nat), integer?_ofNat i, integer?_ofNat (i + 1), by omega,
    by omega⟩

/-- The terms are in the order that the restore command puts them in. -/
theorem sortBy_termsOf (rt : XetRuntime) (index : Nat) (chunks : List (List UInt8)) :
    sortBy (fun left right => left.startChunkIndex.notAbove right.startChunkIndex)
      (termsOf rt index chunks) = termsOf rt index chunks := by
  refine List.Pairwise.insertionSort_eq ?_
  induction chunks generalizing index with
  | nil => exact List.Pairwise.nil
  | cons chunk chunks ih =>
      refine List.pairwise_cons.mpr ⟨fun term hterm => ?_, ih (index + 1)⟩
      obtain ⟨-, -, i, hi, rfl⟩ := le_start_of_mem_termsOf hterm
      exact (notAbove_ofNat index i).trans (decide_eq_true ((Nat.le_succ index).trans hi))

/-- The variables of the loop **track** the chunks that are done. -/
structure SnapshotProgress.Tracks (rt : XetRuntime) (done : List (List UInt8))
    (progress : SnapshotProgress) : Prop where
  index : progress.index = done.length
  terms : progress.terms = termsOf rt 0 done
  counted : progress.uploadedChunkHashes.length + progress.reusedChunkHashes.length = done.length
  reused : ∀ hash ∈ progress.reusedChunkHashes, ∃ chunk ∈ done, hash = rt.sha256Hex chunk

theorem SnapshotProgress.tracks_nil (rt : XetRuntime) : ({} : SnapshotProgress).Tracks rt [] where
  index := rfl
  terms := rfl
  counted := rfl
  reused := fun _ h => by cases h

section Tracks

variable {rt : XetRuntime} {done : List (List UInt8)} {progress : SnapshotProgress}

/-- The term of the next chunk. -/
theorem SnapshotProgress.Tracks.pushTerm (h : progress.Tracks rt done) (chunk : List UInt8) :
    (progress.pushTerm (rt.sha256Hex chunk)).terms = termsOf rt 0 (done ++ [chunk]) := by
  rw [termsOf_append, Nat.zero_add, ← h.index, ← h.terms]
  rfl

theorem SnapshotProgress.Tracks.reuse (h : progress.Tracks rt done) (chunk : List UInt8) :
    (progress.reuse (rt.sha256Hex chunk)).Tracks rt (done ++ [chunk]) where
  index := by
    rw [List.length_append, ← h.index]
    rfl
  terms := h.pushTerm chunk
  counted := by
    have hcounted := h.counted
    simp only [SnapshotProgress.reuse, SnapshotProgress.pushTerm, List.length_append,
      List.length_singleton]
    omega
  reused := by
    intro hash hhash
    rcases List.mem_append.mp hhash with hhash | hhash
    · obtain ⟨chunk', hchunk', hhash⟩ := h.reused hash hhash
      exact ⟨chunk', List.mem_append_left _ hchunk', hhash⟩
    · exact ⟨chunk, List.mem_append_right _ (List.mem_singleton_self _),
        List.mem_singleton.mp hhash⟩

theorem SnapshotProgress.Tracks.upload (h : progress.Tracks rt done) (chunk : List UInt8)
    (length : Nat) : (progress.upload (rt.sha256Hex chunk) length).Tracks rt (done ++ [chunk]) where
  index := by
    rw [List.length_append, ← h.index]
    rfl
  terms := h.pushTerm chunk
  counted := by
    have hcounted := h.counted
    simp only [SnapshotProgress.upload, SnapshotProgress.pushTerm, List.length_append,
      List.length_singleton]
    omega
  reused := by
    intro hash hhash
    obtain ⟨chunk', hchunk', hhash⟩ := h.reused hash hhash
    exact ⟨chunk', List.mem_append_left _ hchunk', hhash⟩

end Tracks

/-- The state of the loop tracks the chunks that are done: its variables do, the chunks are
saved, and the bytes that the directory grew by are counted. -/
structure SnapshotTracks (rt : XetRuntime) (before : Directory String UInt8)
    (done : List (List UInt8)) (state : SnapshotProgress × Directory String UInt8) : Prop where
  progress : state.1.Tracks rt done
  chunks : state.2 = before.saveAll (chunkAddress rt) done
  stored : state.2.byteSize = before.byteSize + state.1.storedByteLength

/-- One iteration does one more chunk. -/
theorem SnapshotTracks.step {rt : XetRuntime} {before : Directory String UInt8}
    {done : List (List UInt8)} {state : SnapshotProgress × Directory String UInt8}
    (h : SnapshotTracks rt before done state) (chunk : List UInt8) :
    SnapshotTracks rt before (done ++ [chunk]) (snapshotChunk rt state chunk) := by
  have hsaved : before.saveAll (chunkAddress rt) (done ++ [chunk]) =
      state.2.save (chunkAddress rt) chunk := by
    rw [h.chunks, Directory.saveAll, Directory.saveAll, List.foldl_append]
    rfl
  have hstored := h.stored
  rw [snapshotChunk]
  cases hread : state.2.read (chunkFile (rt.sha256Hex chunk)) with
  | some _ =>
      refine ⟨h.progress.reuse chunk, ?_, hstored⟩
      rw [hsaved, Directory.save, chunkAddress, hread]
  | none =>
      refine ⟨h.progress.upload chunk chunk.length, ?_, ?_⟩
      · rw [hsaved, Directory.save, chunkAddress, hread]
      · change (state.2.write (chunkFile (rt.sha256Hex chunk)) chunk).byteSize =
          before.byteSize + (state.1.storedByteLength + chunk.length)
        rw [Directory.byteSize_write_of_new chunk hread]
        omega

/-- **What the loop does**: it records all chunks of the file, saves them, and counts the bytes
that the directory of the chunks grew by. -/
theorem snapshot_tracks (rt : XetRuntime) (source : List UInt8)
    (before : Directory String UInt8) :
    SnapshotTracks rt before (chunkBuffer source) (snapshotLoop rt source before) := by
  have hfold :
    ∀ (chunks done : List (List UInt8)) (state : SnapshotProgress × Directory String UInt8),
      SnapshotTracks rt before done state →
        SnapshotTracks rt before (done ++ chunks) (chunks.foldl (snapshotChunk rt) state) := by
    intro chunks
    induction chunks with
    | nil =>
        intro done state h
        rwa [List.append_nil]
    | cons chunk chunks ih =>
        intro done state h
        have hrest := ih (done ++ [chunk]) _ (h.step chunk)
        rwa [List.append_assoc, List.singleton_append] at hrest
  exact hfold (chunkBuffer source) [] ({}, before) ⟨SnapshotProgress.tracks_nil rt, rfl, rfl⟩

/-! ### What the restore command writes -/

/-- The chunks of terms are read. -/
theorem readChunks_termsOf {rt : XetRuntime} {directory : Directory String UInt8} {index : Nat}
    {chunks : List (List UInt8)}
    (hread : ∀ chunk ∈ chunks, directory.read (chunkAddress rt chunk) = some chunk) :
    readChunks directory (termsOf rt index chunks) = .ok chunks := by
  induction chunks generalizing index with
  | nil => rfl
  | cons chunk chunks ih =>
      obtain ⟨hchunk, hrest⟩ := List.forall_mem_cons.mp hread
      have hfile : readFileSync directory (chunkFile (rt.sha256Hex chunk)) = .ok chunk := by
        rw [readFileSync, ← chunkAddress, hchunk]
      rw [termsOf, readChunks, hfile, ih hrest]
      rfl

/-- **A file is restored** from the terms of its chunks while the repository holds them. -/
theorem restoreCommand_eq_ok {rt : XetRuntime} {repository : XetRepository} {source : List UInt8}
    {evidence : XetSnapshotEvidenceCommandPayload}
    (hterms : evidence.terms = termsOf rt 0 (chunkBuffer source))
    (hread : ∀ chunk ∈ chunkBuffer source,
      repository.chunks.read (chunkAddress rt chunk) = some chunk)
    (destinationPath : String) (fileId : Option String) :
    restoreCommand rt repository ⟨destinationPath, some evidence, fileId⟩ =
      .ok ⟨destinationPath, source⟩ := by
  have hrestore : restoreTerms rt repository ⟨destinationPath, some evidence, fileId⟩ =
      .ok (termsOf rt 0 (chunkBuffer source)) := congrArg Except.ok hterms
  rw [restoreCommand, bind_eq_ok]
  refine ⟨_, hrestore, bind_eq_ok.mpr ⟨chunkBuffer source, ?_, ?_⟩⟩
  · rw [sortBy_termsOf, readChunks_termsOf hread]
  · rw [flatten_chunkBuffer]

end Cdngine
