import Cdngine.ArchiveErrors
import Cdngine.Observed

/-!
# Limits While Unpacking

What `splitArtifactArchive` unpacks on its way. The limits are checked once everything is unpacked,
so that a run goes on behind the file that passes a limit; and both decompressors run to the end of
their data. A decompression that fails has made data too: the checks of a stream stand behind it.

## Main results

* `result_observeSplitArtifactArchive`: the observed run is the run of the adapters.
* `events_observeTarFrom`, `events_observeZipFrom`: what is unpacked of an archive.
* `limitsKept_iff`: the archives whose runs keep the limits at every point.
-/

open ByteBuffer

namespace Cdngine

/-! ### Observed runs -/

/-- The data of a file, as it is unpacked: whether it is inflated, and how many bytes it has. -/
structure Unpacked where
  inflated : Bool
  length : Nat
  deriving DecidableEq, Repr

/-- What unpacking does: it decompresses a whole archive, or makes the data of a file. -/
inductive UnpackEvent
  | gunzipped (length : Nat)
  | unpacked (file : Unpacked)
  deriving DecidableEq, Repr

/-- The platform, with the data that its decompressors have made of a stream that they fail on. -/
structure DecompressingRuntime extends ArchiveRuntime where
  gunzipBeforeFailure : List UInt8 → List UInt8
  inflateBeforeFailure : List UInt8 → List UInt8

namespace DecompressingRuntime

instance : Coe DecompressingRuntime ArchiveRuntime := ⟨toArchiveRuntime⟩

/-- All that is made of a stream, whether it is returned or thrown away. -/
def gunzipped (rt : DecompressingRuntime) (buffer : List UInt8) : List UInt8 :=
  (rt.gunzipSync buffer).getD (rt.gunzipBeforeFailure buffer)

@[inherit_doc gunzipped] def inflated (rt : DecompressingRuntime) (buffer : List UInt8) :
    List UInt8 :=
  (rt.inflateRawSync buffer).getD (rt.inflateBeforeFailure buffer)

end DecompressingRuntime

/-- An observed run of the adapters. -/
abbrev Unpacking := Observed UnpackEvent SplitArtifactError

/-- `looksLikeGzipTar`, observed. -/
def observeLooksLikeGzipTar (rt : DecompressingRuntime) (buffer : List UInt8) : Unpacking Bool :=
  if buffer.length < 2 ∨ buffer[0]? ≠ some 0x1f ∨ buffer[1]? ≠ some 0x8b then pure false
  else do
    Observed.emit (.gunzipped (rt.gunzipped buffer).length)
    pure (match rt.gunzipSync buffer with
      | some tar => looksLikeTar tar
      | none => false)

/-- `detectSplitArtifactFormat`, observed. -/
def observeDetectSplitArtifactFormat (rt : DecompressingRuntime) (filename : JsString)
    (archive : List UInt8) : Unpacking (Option SplitArtifactFormat) :=
  let lower := rt.toLowerCase filename
  if endsWith lower ".unitypackage" then do
    let looks ← observeLooksLikeGzipTar rt archive
    pure (if looks then some .unitypackage else none)
  else if endsWith lower ".tar.gz" || endsWith lower ".tgz" then do
    let looks ← observeLooksLikeGzipTar rt archive
    pure (if looks then some .gzipTar else none)
  else if endsWith lower ".tar" then pure (if looksLikeTar archive then some .tar else none)
  else if endsWith lower ".zip" then pure (if looksLikeZip archive then some .zip else none)
  else pure none

/-- The loop of `unpackTar`, observed. -/
def observeTarFrom (tarBuffer : List UInt8) : Unpacking (List SplitArtifactEntry) :=
  if tarBuffer.length < 512 then pure []
  else if isZeroBlock (slice tarBuffer 0 512) then pure []
  else do
    let header ← Observed.ofExcept (readTarHeader (slice tarBuffer 0 512))
    if tarBuffer.length < 512 + header.size then
      Observed.ofExcept (.error (.archiveSafety (codeUnits "Tar entry " ++
        inQuotes header.logicalPath ++ codeUnits " extends past archive end.")))
    else if header.typeflag = codeUnits "0" ∨ header.typeflag = [0] then
      let entry : SplitArtifactEntry :=
        { data := slice tarBuffer 512 header.size
          logicalPath := header.logicalPath
          mode := some header.mode
          mtime := some (.valid (header.mtimeSeconds * 1000)) }
      Observed.emit (.unpacked ⟨false, entry.data.length⟩)
      (entry :: ·) <$> observeTarFrom (tarBuffer.drop (512 + padLength header.size 512))
    else if header.typeflag = codeUnits "5" then
      observeTarFrom (tarBuffer.drop (512 + padLength header.size 512))
    else
      Observed.ofExcept (.error (.archiveSafety (codeUnits "Unsupported tar entry type " ++
        inQuotes header.typeflag ++ codeUnits " for " ++ inQuotes header.logicalPath ++
        codeUnits ".")))
termination_by tarBuffer.length
decreasing_by all_goals (rw [List.length_drop]; omega)

/-- `unpackTar`, observed. -/
def observeTar (rt : Runtime) (tarBuffer : List UInt8) (limits : SplitArtifactLimits) :
    Unpacking (List SplitArtifactEntry) := do
  let entries ← observeTarFrom tarBuffer
  Observed.ofExcept (validateEntries rt entries limits false)

/-- The data of an entry, observed. -/
def observeEntryData (rt : DecompressingRuntime) (entry : CentralEntry) (logicalPath : JsString)
    (compressed : List UInt8) : Unpacking (List UInt8) :=
  if entry.method = 0 then do
    Observed.emit (.unpacked ⟨false, compressed.length⟩)
    pure compressed
  else if entry.method = 8 then do
    Observed.emit (.unpacked ⟨true, (rt.inflated compressed).length⟩)
    Observed.ofExcept (match rt.inflateRawSync compressed with
      | some data => .ok data
      | none => .error .invalidCompressedData)
  else
    Observed.ofExcept (.error (.archiveSafety (codeUnits "Unsupported zip compression method " ++
      codeUnits (toString entry.method) ++ codeUnits " for " ++ inQuotes logicalPath ++
      codeUnits ".")))

/-- `readLocalEntry`, observed. -/
def observeLocalEntry (rt : DecompressingRuntime) (buffer : List UInt8) (entry : CentralEntry)
    (logicalPath : JsString) (next : Nat) : Unpacking (Option SplitArtifactEntry × Nat) := do
  let localSignature ← Observed.ofExcept (readUIntLE buffer entry.localHeaderOffset 4)
  if localSignature ≠ zipSignature then
    Observed.ofExcept (.error (.archiveSafety (codeUnits "Invalid local header for zip entry " ++
      inQuotes logicalPath ++ codeUnits ".")))
  else
    let localNameLength ← Observed.ofExcept (readUIntLE buffer (entry.localHeaderOffset + 26) 2)
    let localExtraLength ← Observed.ofExcept (readUIntLE buffer (entry.localHeaderOffset + 28) 2)
    let dataStart := entry.localHeaderOffset + 30 + localNameLength + localExtraLength
    let compressed := slice buffer dataStart entry.compressedSize
    let data ← observeEntryData rt entry logicalPath compressed
    if data.length ≠ entry.uncompressedSize ∨ (crc32 data).toNat ≠ entry.crc then
      Observed.ofExcept (.error (.archiveSafety (codeUnits "Zip entry " ++ inQuotes logicalPath ++
        codeUnits " failed size or CRC validation.")))
    else pure (some ⟨data, logicalPath, none, none⟩, next)

/-- `readCentralEntry`, observed. -/
def observeCentralEntry (rt : DecompressingRuntime) (buffer : List UInt8) (entry : CentralEntry)
    (next : Nat) : Unpacking (Option SplitArtifactEntry × Nat) := do
  let logicalPath ← Observed.ofExcept (normalizeArchivePath entry.rawName)
  if entry.flags % 2 ≠ 0 then
    Observed.ofExcept (.error (.archiveSafety (codeUnits "Encrypted zip entry " ++
      inQuotes logicalPath ++ codeUnits " is not supported.")))
  else if entry.rawName.getLast? = some slash then pure (none, next)
  else observeLocalEntry rt buffer entry logicalPath next

/-- One turn of the loop of `unpackZip`, observed. -/
def observeZipEntry (rt : DecompressingRuntime) (buffer : List UInt8) (offset : Nat) :
    Unpacking (Option SplitArtifactEntry × Nat) := do
  let signature ← Observed.ofExcept (readUIntLE buffer offset 4)
  if signature ≠ zipCentralDirectorySignature then
    Observed.ofExcept
      (.error (.archiveSafety (codeUnits "Invalid zip central directory entry.")))
  else
    let flags ← Observed.ofExcept (readUIntLE buffer (offset + 8) 2)
    let method ← Observed.ofExcept (readUIntLE buffer (offset + 10) 2)
    let crc ← Observed.ofExcept (readUIntLE buffer (offset + 16) 4)
    let compressedSize ← Observed.ofExcept (readUIntLE buffer (offset + 20) 4)
    let uncompressedSize ← Observed.ofExcept (readUIntLE buffer (offset + 24) 4)
    let nameLength ← Observed.ofExcept (readUIntLE buffer (offset + 28) 2)
    let extraLength ← Observed.ofExcept (readUIntLE buffer (offset + 30) 2)
    let commentLength ← Observed.ofExcept (readUIntLE buffer (offset + 32) 2)
    let localHeaderOffset ← Observed.ofExcept (readUIntLE buffer (offset + 42) 4)
    observeCentralEntry rt buffer
      ⟨flags, method, crc, compressedSize, uncompressedSize, nameLength, extraLength,
        commentLength, localHeaderOffset, Utf8.decode (slice buffer (offset + 46) nameLength)⟩
      (offset + (46 + nameLength + extraLength + commentLength))

/-- The loop of `unpackZip`, observed. -/
def observeZipFrom (rt : DecompressingRuntime) (buffer : List UInt8) :
    (entryCount offset : Nat) → Unpacking (List SplitArtifactEntry)
  | 0, _ => pure []
  | entryCount + 1, offset => do
      let (entry, next) ← observeZipEntry rt buffer offset
      let rest ← observeZipFrom rt buffer entryCount next
      pure (entry.toList ++ rest)

/-- `unpackZip`, observed. -/
def observeZip (rt : DecompressingRuntime) (buffer : List UInt8) (limits : SplitArtifactLimits) :
    Unpacking (List SplitArtifactEntry) :=
  match findZipEndOfCentralDirectory buffer with
  | none =>
      Observed.ofExcept
        (.error (.archiveSafety (codeUnits "Zip end of central directory was not found.")))
  | some eocdOffset => do
      let entryCount ← Observed.ofExcept (readUIntLE buffer (eocdOffset + 10) 2)
      let centralDirectoryOffset ← Observed.ofExcept (readUIntLE buffer (eocdOffset + 16) 4)
      let entries ← observeZipFrom rt buffer entryCount centralDirectoryOffset
      Observed.ofExcept (validateEntries rt.toRuntime entries limits false)

/-- The entries of an archive of a detected format, observed. -/
def observeUnpackDetected (rt : DecompressingRuntime) (archive : List UInt8)
    (limits : SplitArtifactLimits) : SplitArtifactFormat → Unpacking (List SplitArtifactEntry)
  | .zip => observeZip rt archive limits
  | .tar => observeTar rt.toRuntime archive limits
  | .gzipTar | .unitypackage => do
      Observed.emit (.gunzipped (rt.gunzipped archive).length)
      match rt.gunzipSync archive with
      | some tar => observeTar rt.toRuntime tar limits
      | none => Observed.ofExcept (.error .invalidCompressedData)

/-- `splitArtifactArchive`, observed. -/
def observeSplitArtifactArchive (rt : DecompressingRuntime) (input : SplitArtifactArchiveInput) :
    Unpacking SplitArtifactArchiveResult := do
  let detected ← observeDetectSplitArtifactFormat rt input.filename input.archive
  match detected with
  | none =>
      Observed.ofExcept (.error (.unsupportedSplitArtifact
        (codeUnits "No split-history adapter is registered for " ++ inQuotes input.filename ++
          codeUnits ".")))
  | some format => do
      let entries ← observeUnpackDetected rt input.archive (resolveLimits input.limits) format
      pure ⟨entries, format, input.archive.length⟩

/-! ### The observed run is the run -/

section Result

variable {rt : DecompressingRuntime} {buffer : List UInt8}

theorem result_ite {α : Type} {p : Prop} [Decidable p] {x y : Unpacking α} :
    (if p then x else y).result = if p then x.result else y.result := apply_ite _ p x y

theorem result_observeLooksLikeGzipTar :
    (observeLooksLikeGzipTar rt buffer).result = .ok (looksLikeGzipTar rt buffer) := by
  rw [observeLooksLikeGzipTar, looksLikeGzipTar]
  split <;> rfl

theorem result_observeDetectSplitArtifactFormat {filename : JsString} {archive : List UInt8} :
    (observeDetectSplitArtifactFormat rt filename archive).result =
      .ok (detectSplitArtifactFormat rt filename archive) := by
  have hgzip : ∀ format : SplitArtifactFormat, (do
      let looks ← observeLooksLikeGzipTar rt archive
      pure (if looks then some format else none) : Unpacking _).result =
        .ok (if looksLikeGzipTar rt archive then some format else none) := by
    intro format
    rw [Observed.result_bind, result_observeLooksLikeGzipTar]
    rfl
  simp only [observeDetectSplitArtifactFormat, detectSplitArtifactFormat, result_ite, hgzip,
    Observed.result_pure, apply_ite Except.ok]

theorem result_observeTarFrom (tarBuffer : List UInt8) :
    (observeTarFrom tarBuffer).result = unpackTarFrom tarBuffer := by
  induction hn : tarBuffer.length using Nat.strong_induction_on generalizing tarBuffer with
  | _ n ih =>
      rw [observeTarFrom, unpackTarFrom, result_ite, result_ite]
      refine ite_congr rfl (fun _ => rfl) fun hlength => ite_congr rfl (fun _ => rfl) fun _ => ?_
      have hrest : ∀ size, (observeTarFrom (tarBuffer.drop (512 + padLength size 512))).result =
          unpackTarFrom (tarBuffer.drop (512 + padLength size 512)) := by
        intro size
        refine ih _ ?_ _ rfl
        rw [List.length_drop]
        omega
      rw [Observed.result_bind, Observed.result_ofExcept]
      refine congrArg _ (funext fun header => ?_)
      simp only [result_ite, Observed.result_emit_bind, Observed.result_map,
        Observed.result_ofExcept, hrest]

theorem result_observeTar {rt : Runtime} {limits : SplitArtifactLimits} :
    (observeTar rt buffer limits).result = unpackTar rt buffer limits := by
  rw [observeTar, unpackTar, Observed.result_bind, result_observeTarFrom]
  rfl

theorem result_observeEntryData {entry : CentralEntry} {logicalPath : JsString}
    {compressed : List UInt8} :
    (observeEntryData rt entry logicalPath compressed).result =
      if entry.method = 0 then .ok compressed
      else if entry.method = 8 then
        match rt.inflateRawSync compressed with
        | some data => .ok data
        | none => .error .invalidCompressedData
      else
        .error (.archiveSafety (codeUnits "Unsupported zip compression method " ++
          codeUnits (toString entry.method) ++ codeUnits " for " ++ inQuotes logicalPath ++
          codeUnits ".")) := by
  rw [observeEntryData, result_ite, result_ite]
  rfl

theorem result_observeLocalEntry {entry : CentralEntry} {logicalPath : JsString} {next : Nat} :
    (observeLocalEntry rt buffer entry logicalPath next).result =
      readLocalEntry rt buffer entry logicalPath next := by
  rw [observeLocalEntry, readLocalEntry, Observed.result_bind, Observed.result_ofExcept]
  refine congrArg _ (funext fun localSignature => ?_)
  rw [result_ite]
  refine ite_congr rfl (fun _ => rfl) fun _ => ?_
  rw [Observed.result_bind, Observed.result_ofExcept]
  refine congrArg _ (funext fun localNameLength => ?_)
  rw [Observed.result_bind, Observed.result_ofExcept]
  refine congrArg _ (funext fun localExtraLength => ?_)
  simp only [Observed.result_bind, Observed.result_ofExcept, Observed.result_pure, result_ite,
    result_observeEntryData]
  split_ifs with hstored hdeflated
  · rfl
  · generalize rt.inflateRawSync _ = inflated
    cases inflated with
    | none => rfl
    | some data => rfl
  · rfl

theorem result_observeCentralEntry {entry : CentralEntry} {next : Nat} :
    (observeCentralEntry rt buffer entry next).result = readCentralEntry rt buffer entry next := by
  rw [observeCentralEntry, readCentralEntry, Observed.result_bind, Observed.result_ofExcept]
  refine congrArg _ (funext fun logicalPath => ?_)
  simp only [result_ite, Observed.result_ofExcept, Observed.result_pure, result_observeLocalEntry]

theorem result_observeZipEntry {offset : Nat} :
    (observeZipEntry rt buffer offset).result = readZipEntry rt buffer offset := by
  simp only [observeZipEntry, readZipEntry_eq, Observed.result_bind, Observed.result_ofExcept,
    result_ite, result_observeCentralEntry]

theorem result_observeZipFrom {entryCount offset : Nat} :
    (observeZipFrom rt buffer entryCount offset).result =
      unpackZipFrom rt buffer entryCount offset := by
  induction entryCount generalizing offset with
  | zero => rfl
  | succ entryCount ih =>
      rw [observeZipFrom, unpackZipFrom, Observed.result_bind, result_observeZipEntry]
      refine congrArg _ (funext fun found => ?_)
      rw [Observed.result_bind, ih]
      rfl

theorem result_observeZip {limits : SplitArtifactLimits} :
    (observeZip rt buffer limits).result = unpackZip rt buffer limits := by
  rw [observeZip, unpackZip]
  cases findZipEndOfCentralDirectory buffer with
  | none => rfl
  | some eocdOffset =>
      simp only [Observed.result_bind, Observed.result_ofExcept, result_observeZipFrom]

theorem result_observeUnpackDetected {limits : SplitArtifactLimits}
    {format : SplitArtifactFormat} :
    (observeUnpackDetected rt buffer limits format).result =
      unpackDetected rt buffer limits format := by
  have hgzip : (match rt.gunzipSync buffer with
      | some tar => observeTar rt.toRuntime tar limits
      | none => Observed.ofExcept (.error .invalidCompressedData) : Unpacking _).result =
      match rt.gunzipSync buffer with
      | some tar => unpackTar rt.toRuntime tar limits
      | none => .error .invalidCompressedData := by
    cases rt.gunzipSync buffer with
    | none => rfl
    | some tar => exact result_observeTar
  cases format with
  | zip => exact result_observeZip
  | tar => exact result_observeTar
  | gzipTar => exact hgzip
  | unitypackage => exact hgzip

/-- **The observed run is the run of the adapters.** -/
theorem result_observeSplitArtifactArchive {input : SplitArtifactArchiveInput} :
    (observeSplitArtifactArchive rt input).result = splitArtifactArchive rt input := by
  rw [observeSplitArtifactArchive, splitArtifactArchive, Observed.result_bind,
    result_observeDetectSplitArtifactFormat]
  cases detectSplitArtifactFormat rt input.filename input.archive with
  | none => rfl
  | some format =>
      change (_ >>= _ : Unpacking _).result = _
      rw [Observed.result_bind, result_observeUnpackDetected]
      rfl

end Result

/-! ### The files of an archive -/

/-- The files of a tar archive, up to its end or to the first header that is refused. -/
def tarFiles (tarBuffer : List UInt8) : List Unpacked :=
  if tarBuffer.length < 512 then []
  else if isZeroBlock (slice tarBuffer 0 512) then []
  else
    match readTarHeader (slice tarBuffer 0 512) with
    | .error _ => []
    | .ok header =>
        if tarBuffer.length < 512 + header.size then []
        else if header.typeflag = codeUnits "0" ∨ header.typeflag = [0] then
          ⟨false, header.size⟩ :: tarFiles (tarBuffer.drop (512 + padLength header.size 512))
        else if header.typeflag = codeUnits "5" then
          tarFiles (tarBuffer.drop (512 + padLength header.size 512))
        else []
termination_by tarBuffer.length
decreasing_by all_goals (rw [List.length_drop]; omega)

/-- The path of an entry is accepted, and the entry is neither encrypted nor a directory. -/
def CentralEntry.namesFile (entry : CentralEntry) : Bool :=
  (normalizeArchivePath entry.rawName).isOk && entry.flags % 2 = 0 &&
    entry.rawName.getLast? ≠ some slash

/-- The data that is made for an entry, unless its method is not known. -/
def CentralEntry.unpacked (rt : DecompressingRuntime) (buffer : List UInt8)
    (entry : CentralEntry) : Option Unpacked :=
  if entry.method = 0 then some ⟨false, (entry.compressed buffer).length⟩
  else if entry.method = 8 then some ⟨true, (rt.inflated (entry.compressed buffer)).length⟩
  else none

/-- The file whose data an entry of the central directory leads to. -/
def fileAt (rt : DecompressingRuntime) (buffer : List UInt8) (offset : Nat) : Option Unpacked :=
  let entry := centralEntryAt buffer offset
  if offset + 46 ≤ buffer.length ∧ numberAt buffer offset 4 = zipCentralDirectorySignature ∧
      entry.namesFile = true ∧ entry.localHeaderOffset + 30 ≤ buffer.length ∧
      numberAt buffer entry.localHeaderOffset 4 = zipSignature then
    entry.unpacked rt buffer
  else none

open Classical in
/-- The files of a zip archive, up to the last entry or to the first one that does not pass. -/
noncomputable def zipFiles (rt : DecompressingRuntime) (buffer : List UInt8) :
    (entryCount offset : Nat) → List Unpacked
  | 0, _ => []
  | entryCount + 1, offset =>
      (fileAt rt buffer offset).toList ++
        if EntryInside rt buffer offset ∧ EntryPasses rt buffer offset then
          zipFiles rt buffer entryCount (nextEntryOffset buffer offset)
        else []

section Events

variable {rt : DecompressingRuntime} {buffer : List UInt8}

theorem events_ite {α : Type} {p : Prop} [Decidable p] {x y : Unpacking α} :
    (if p then x else y).events = if p then x.events else y.events := apply_ite _ p x y

/-- **What is unpacked of a tar archive.** -/
theorem events_observeTarFrom (tarBuffer : List UInt8) :
    (observeTarFrom tarBuffer).events = (tarFiles tarBuffer).map UnpackEvent.unpacked := by
  induction hn : tarBuffer.length using Nat.strong_induction_on generalizing tarBuffer with
  | _ n ih =>
      rw [observeTarFrom, tarFiles, events_ite, events_ite, apply_ite (List.map _),
        apply_ite (List.map _)]
      refine ite_congr rfl (fun _ => rfl) fun hlength => ite_congr rfl (fun _ => rfl) fun _ => ?_
      have hrest : ∀ size, (observeTarFrom (tarBuffer.drop (512 + padLength size 512))).events =
          (tarFiles (tarBuffer.drop (512 + padLength size 512))).map UnpackEvent.unpacked := by
        intro size
        refine ih _ ?_ _ rfl
        rw [List.length_drop]
        omega
      cases readTarHeader (slice tarBuffer 0 512) with
      | error e => rfl
      | ok header =>
          rw [Observed.events_ofExcept_ok, events_ite]
          simp only [apply_ite (List.map UnpackEvent.unpacked)]
          refine ite_congr rfl (fun _ => rfl) fun hend => ?_
          rw [events_ite, events_ite]
          refine ite_congr rfl (fun _ => ?_) fun _ => ite_congr rfl (fun _ => ?_) fun _ => rfl
          · have hdata : (slice tarBuffer 512 header.size).length = header.size := by
              rw [length_slice]
              omega
            rw [Observed.events_emit_bind, Observed.events_map, hrest, List.map_cons, hdata]
          · exact hrest header.size

/-- What is unpacked is what the loop returns. -/
theorem tarFiles_of_unpack {tarBuffer : List UInt8} {entries : List SplitArtifactEntry}
    (h : unpackTarFrom tarBuffer = .ok entries) :
    tarFiles tarBuffer = entries.map fun entry => ⟨false, entry.data.length⟩ := by
  induction hn : tarBuffer.length using Nat.strong_induction_on generalizing tarBuffer entries with
  | _ n ih =>
      rw [unpackTarFrom] at h
      rw [tarFiles]
      split at h
      · rename_i hlength
        obtain rfl := Except.ok.inj h
        rw [if_pos hlength]
        rfl
      rename_i hlength
      rw [if_neg hlength]
      split at h
      · rename_i hzero
        obtain rfl := Except.ok.inj h
        rw [if_pos hzero]
        rfl
      rename_i hzero
      rw [if_neg hzero]
      have hrest : ∀ size rest,
          unpackTarFrom (tarBuffer.drop (512 + padLength size 512)) = .ok rest →
          tarFiles (tarBuffer.drop (512 + padLength size 512)) =
            rest.map fun entry => ⟨false, entry.data.length⟩ := by
        intro size rest hunpack
        refine ih _ ?_ hunpack rfl
        rw [List.length_drop]
        omega
      obtain ⟨header, hread, h⟩ := bind_eq_ok.mp h
      rw [hread]
      simp only
      split at h
      · cases h
      rename_i hend
      rw [if_neg hend]
      split at h
      · rename_i hfile
        rw [if_pos hfile]
        cases hunpack : unpackTarFrom (tarBuffer.drop (512 + padLength header.size 512)) with
        | error e =>
            rw [hunpack] at h
            cases h
        | ok rest =>
            rw [hunpack] at h
            obtain rfl := Except.ok.inj h
            have hdata : (slice tarBuffer 512 header.size).length = header.size := by
              rw [length_slice]
              omega
            rw [hrest header.size rest hunpack, List.map_cons, hdata]
      rename_i hfile
      rw [if_neg hfile]
      split at h
      · rename_i hdirectory
        rw [if_pos hdirectory]
        exact hrest header.size entries h
      · cases h

theorem events_read {α : Type} {offset width : Nat} {f : Nat → Unpacking α} :
    (Observed.ofExcept (readUIntLE buffer offset width) >>= f).events =
      if offset + width ≤ buffer.length then (f (numberAt buffer offset width)).events else [] := by
  rw [readUIntLE_eq]
  split
  · exact Observed.events_ofExcept_ok
  · rfl

theorem events_observeEntryData {entry : CentralEntry} {logicalPath : JsString} :
    (observeEntryData rt entry logicalPath (entry.compressed buffer)).events =
      (entry.unpacked rt buffer).toList.map UnpackEvent.unpacked := by
  rw [observeEntryData, CentralEntry.unpacked, events_ite, events_ite]
  split_ifs <;> rfl

theorem events_observeLocalEntry {entry : CentralEntry} {logicalPath : JsString} {next : Nat} :
    (observeLocalEntry rt buffer entry logicalPath next).events =
      if entry.localHeaderOffset + 30 ≤ buffer.length ∧
          numberAt buffer entry.localHeaderOffset 4 = zipSignature then
        (entry.unpacked rt buffer).toList.map UnpackEvent.unpacked
      else [] := by
  simp only [observeLocalEntry, events_read, events_ite]
  by_cases hsig : numberAt buffer entry.localHeaderOffset 4 = zipSignature
  · by_cases hend : entry.localHeaderOffset + 30 ≤ buffer.length
    · have hsignature : entry.localHeaderOffset + 4 ≤ buffer.length := by omega
      have hname : entry.localHeaderOffset + 26 + 2 ≤ buffer.length := by omega
      have hinside : entry.localHeaderOffset + 30 ≤ buffer.length ∧
          numberAt buffer entry.localHeaderOffset 4 = zipSignature := ⟨hend, hsig⟩
      rw [if_pos hinside, if_pos hsignature, if_neg (not_not_intro hsig), if_pos hname,
        if_pos hend, ← @events_observeEntryData _ _ _ logicalPath]
      -- nothing is done behind the data
      refine Eq.trans ?_ (@Observed.events_bind_ofExcept _ _ _ _
        (observeEntryData rt entry logicalPath (entry.compressed buffer)) fun data =>
          if data.length ≠ entry.uncompressedSize ∨ (crc32 data).toNat ≠ entry.crc then
            .error (.archiveSafety (codeUnits "Zip entry " ++ inQuotes logicalPath ++
              codeUnits " failed size or CRC validation."))
          else .ok (some (⟨data, logicalPath, none, none⟩ : SplitArtifactEntry), next))
      refine congrArg (fun f => (_ >>= f : Unpacking _).events) (funext fun data => ?_)
      split <;> rfl
    · have hout : ¬(entry.localHeaderOffset + 30 ≤ buffer.length ∧
          numberAt buffer entry.localHeaderOffset 4 = zipSignature) := fun h => hend h.1
      have hextra : ¬entry.localHeaderOffset + 28 + 2 ≤ buffer.length := by omega
      rw [if_neg hout, if_neg (not_not_intro hsig), if_neg hextra, ite_self, ite_self]
  · have hout : ¬(entry.localHeaderOffset + 30 ≤ buffer.length ∧
        numberAt buffer entry.localHeaderOffset 4 = zipSignature) := fun h => hsig h.2
    rw [if_neg hout, if_pos hsig]
    exact ite_self _

theorem events_observeCentralEntry {entry : CentralEntry} {next : Nat} :
    (observeCentralEntry rt buffer entry next).events =
      if entry.namesFile = true ∧ entry.localHeaderOffset + 30 ≤ buffer.length ∧
          numberAt buffer entry.localHeaderOffset 4 = zipSignature then
        (entry.unpacked rt buffer).toList.map UnpackEvent.unpacked
      else [] := by
  rw [observeCentralEntry, CentralEntry.namesFile]
  cases hpath : normalizeArchivePath entry.rawName with
  | error e =>
      rw [Observed.events_ofExcept_error, if_neg]
      rintro ⟨hname, -⟩
      cases hname
  | ok path =>
      rw [Observed.events_ofExcept_ok, events_ite, events_ite, events_observeLocalEntry]
      by_cases hplain : entry.flags % 2 = 0
      · rw [if_neg (not_not_intro hplain)]
        by_cases hdirectory : entry.rawName.getLast? = some slash
        · rw [if_pos hdirectory, if_neg]
          · rfl
          · simp [hdirectory]
        · rw [if_neg hdirectory]
          refine if_congr ?_ rfl rfl
          simp [Except.isOk, Except.toBool, hplain, hdirectory]
      · rw [if_pos hplain, if_neg]
        · rfl
        · simp [hplain]

/-- What is unpacked of one entry of a zip archive. -/
theorem events_observeZipEntry {offset : Nat} :
    (observeZipEntry rt buffer offset).events =
      (fileAt rt buffer offset).toList.map UnpackEvent.unpacked := by
  have hmap : ∀ (p : Prop) [Decidable p] (file : Option Unpacked),
      (if p then file else none).toList.map UnpackEvent.unpacked =
        if p then file.toList.map UnpackEvent.unpacked else [] := by
    intro p _ file
    split <;> rfl
  simp only [observeZipEntry, events_read, events_ite, events_observeCentralEntry,
    Observed.events_ofExcept, fileAt, hmap]
  by_cases hend : offset + 46 ≤ buffer.length
  · by_cases hsig : numberAt buffer offset 4 = zipCentralDirectorySignature
    · rw [if_pos (by omega), if_neg (not_not_intro hsig), if_pos (by omega), if_pos (by omega),
        if_pos (by omega), if_pos (by omega), if_pos (by omega), if_pos (by omega),
        if_pos (by omega), if_pos (by omega), if_pos (by omega)]
      refine if_congr ?_ rfl rfl
      exact ⟨fun h => ⟨hend, hsig, h⟩, fun h => h.2.2⟩
    · simp only [hsig, ne_eq, not_false_eq_true, if_true, ite_self, false_and, and_false, if_false]
  · have hlast : ¬offset + 42 + 4 ≤ buffer.length := by omega
    simp only [hlast, if_false, ite_self, false_and]

/-- **What is unpacked of a zip archive.** -/
theorem events_observeZipFrom {entryCount offset : Nat} :
    (observeZipFrom rt buffer entryCount offset).events =
      (zipFiles rt buffer entryCount offset).map UnpackEvent.unpacked := by
  induction entryCount generalizing offset with
  | zero => rfl
  | succ entryCount ih =>
      rw [observeZipFrom, zipFiles, List.map_append, ← events_observeZipEntry]
      cases hread : readZipEntry rt buffer offset with
      | error e =>
          rw [Observed.events_bind_error (result_observeZipEntry.trans hread), if_neg]
          · exact (List.append_nil _).symm
          · rintro ⟨hinside, hpasses⟩
            obtain ⟨found, hok⟩ := (exists_readZipEntry_iff hinside).mpr ⟨hpasses, rfl⟩
            rw [hread] at hok
            cases hok
      | ok found =>
          obtain ⟨entry, next⟩ := found
          have hinside : EntryInside rt buffer offset := by
            rw [← ownErrors_readZipEntry_iff, hread]
            exact ownErrors_ok _
          obtain ⟨hpasses, rfl⟩ := (exists_readZipEntry_iff hinside).mp ⟨entry, hread⟩
          rw [Observed.events_bind (result_observeZipEntry.trans hread),
            if_pos ⟨hinside, hpasses⟩, ← ih]
          congr 1
          exact Observed.events_bind_ofExcept

/-- The data that is read for an entry is all that is made for it. -/
theorem CentralEntry.map_length_unpacked {entry : CentralEntry} {data : List UInt8}
    (h : entry.data rt buffer = some data) :
    (entry.unpacked rt buffer).map Unpacked.length = some data.length := by
  rw [CentralEntry.data] at h
  rw [CentralEntry.unpacked]
  split_ifs at h ⊢
  · rw [← Option.some.inj h]
    rfl
  · rw [DecompressingRuntime.inflated, h]
    rfl

/-- The file that a turn of the loop returns is the one whose data it unpacks. -/
theorem fileAt_of_read {offset next : Nat} {found : Option SplitArtifactEntry}
    (h : readZipEntry rt buffer offset = .ok (found, next)) :
    (fileAt rt buffer offset).map Unpacked.length = found.map fun entry => entry.data.length := by
  have hinside : EntryInside rt buffer offset := by
    rw [← ownErrors_readZipEntry_iff, h]
    exact ownErrors_ok _
  obtain ⟨hpasses, -⟩ := (exists_readZipEntry_iff hinside).mp ⟨found, h⟩
  have hend := hinside.numbers hpasses.signature
  obtain ⟨path, hpath⟩ := hpasses.accepted
  rw [readZipEntry_of_inside hpasses.signature hend, readCentralEntry, hpath] at h
  simp only [bind, Except.bind] at h
  rw [if_neg (not_not_intro hpasses.plain)] at h
  simp only [fileAt, CentralEntry.namesFile, hpath]
  by_cases hdirectory : (centralEntryAt buffer offset).rawName.getLast? = some slash
  · rw [if_pos hdirectory] at h
    obtain ⟨rfl, -⟩ := Prod.mk.inj (Except.ok.inj h)
    rw [if_neg]
    · rfl
    · simp [hdirectory]
  · rw [if_neg hdirectory] at h
    have hlocal := hinside.localEntry hpasses.signature
      ⟨hpasses.accepted, hpasses.plain, hdirectory⟩
    obtain ⟨hsig, data, hdata, hlength, hcrc⟩ := hpasses.content.resolve_left hdirectory
    rw [readLocalEntry_of_inside hlocal hsig, hdata] at h
    simp only at h
    rw [if_neg (not_or.mpr ⟨not_not_intro hlength, not_not_intro hcrc⟩)] at h
    obtain ⟨rfl, -⟩ := Prod.mk.inj (Except.ok.inj h)
    rw [if_pos, CentralEntry.map_length_unpacked hdata]
    · rfl
    · refine ⟨hend, hpasses.signature, ?_, hlocal.lengths hsig, hsig⟩
      simp [Except.isOk, Except.toBool, hpasses.plain, hdirectory]

/-- What is unpacked of a zip archive is what the loop returns. -/
theorem zipFiles_of_unpack {entryCount offset : Nat} {entries : List SplitArtifactEntry}
    (h : unpackZipFrom rt buffer entryCount offset = .ok entries) :
    (zipFiles rt buffer entryCount offset).map Unpacked.length =
      entries.map fun entry => entry.data.length := by
  induction entryCount generalizing offset entries with
  | zero =>
      obtain rfl := Except.ok.inj h
      rfl
  | succ entryCount ih =>
      rw [unpackZipFrom] at h
      obtain ⟨⟨found, next⟩, hread, h⟩ := bind_eq_ok.mp h
      obtain ⟨rest, hrest, h⟩ := bind_eq_ok.mp h
      obtain rfl := Except.ok.inj h
      have hinside : EntryInside rt buffer offset := by
        rw [← ownErrors_readZipEntry_iff, hread]
        exact ownErrors_ok _
      obtain ⟨hpasses, rfl⟩ := (exists_readZipEntry_iff hinside).mp ⟨found, hread⟩
      have hfile := congrArg Option.toList (fileAt_of_read hread)
      rw [Option.toList_map, Option.toList_map] at hfile
      rw [zipFiles, if_pos ⟨hinside, hpasses⟩, List.map_append, List.map_append, ih hrest, hfile]

end Events

/-! ### What a whole run does -/

/-- What is made of an archive that is decompressed, as its filename and its first bytes ask for. -/
def gunzippedArchive (rt : DecompressingRuntime) (input : SplitArtifactArchiveInput) :
    Option (List UInt8) :=
  let lower := rt.toLowerCase input.filename
  if (endsWith lower ".unitypackage" || endsWith lower ".tar.gz" || endsWith lower ".tgz") ∧
      ¬(input.archive.length < 2 ∨ input.archive[0]? ≠ some 0x1f ∨
        input.archive[1]? ≠ some 0x8b) then
    some (rt.gunzipped input.archive)
  else none

/-- The files that an archive of a format has. -/
noncomputable def formatFiles (rt : DecompressingRuntime) (archive : List UInt8) :
    SplitArtifactFormat → List Unpacked
  | .zip =>
      match findZipEndOfCentralDirectory archive with
      | some eocdOffset =>
          zipFiles rt archive (numberAt archive (eocdOffset + 10) 2)
            (numberAt archive (eocdOffset + 16) 4)
      | none => []
  | .tar => tarFiles archive
  | .gzipTar | .unitypackage =>
      match rt.gunzipSync archive with
      | some tar => tarFiles tar
      | none => []

/-- The files of an archive, none when its format is not detected. -/
noncomputable def archiveFiles (rt : DecompressingRuntime) (input : SplitArtifactArchiveInput) :
    List Unpacked :=
  match detectSplitArtifactFormat rt input.filename input.archive with
  | some format => formatFiles rt input.archive format
  | none => []

section Run

variable {rt : DecompressingRuntime} {input : SplitArtifactArchiveInput}

theorem events_observeLooksLikeGzipTar {buffer : List UInt8} :
    (observeLooksLikeGzipTar rt buffer).events =
      (if ¬(buffer.length < 2 ∨ buffer[0]? ≠ some 0x1f ∨ buffer[1]? ≠ some 0x8b) then
        some (rt.gunzipped buffer)
      else none).toList.map fun tar => UnpackEvent.gunzipped tar.length := by
  rw [observeLooksLikeGzipTar]
  split <;> rfl

/-- What the detection does. -/
theorem events_observeDetectSplitArtifactFormat :
    (observeDetectSplitArtifactFormat rt input.filename input.archive).events =
      (gunzippedArchive rt input).toList.map fun tar => UnpackEvent.gunzipped tar.length := by
  have hgzip : ∀ format : SplitArtifactFormat, (do
      let looks ← observeLooksLikeGzipTar rt input.archive
      pure (if looks then some format else none) : Unpacking _).events =
        (observeLooksLikeGzipTar rt input.archive).events :=
    fun format => Observed.events_bind_ofExcept
  simp only [observeDetectSplitArtifactFormat, gunzippedArchive, events_ite, hgzip,
    events_observeLooksLikeGzipTar, Observed.events_pure]
  by_cases hunity : endsWith (rt.toLowerCase input.filename) ".unitypackage" = true
  · simp only [hunity, Bool.true_or, if_true, true_and]
  rw [Bool.not_eq_true] at hunity
  by_cases htar : (endsWith (rt.toLowerCase input.filename) ".tar.gz" ||
      endsWith (rt.toLowerCase input.filename) ".tgz") = true
  · simp only [hunity, htar, Bool.false_or, Bool.false_eq_true, if_true, if_false, true_and]
  rw [Bool.not_eq_true] at htar
  simp only [hunity, htar, Bool.false_or, Bool.false_eq_true, if_false, false_and, ite_self]
  rfl

theorem events_observeTar {tar : List UInt8} {limits : SplitArtifactLimits} :
    (observeTar rt.toRuntime tar limits).events = (tarFiles tar).map UnpackEvent.unpacked := by
  rw [observeTar, Observed.events_bind_ofExcept, events_observeTarFrom]

theorem events_observeZip {archive : List UInt8} {limits : SplitArtifactLimits} :
    (observeZip rt archive limits).events =
      (formatFiles rt archive .zip).map UnpackEvent.unpacked := by
  rw [observeZip, formatFiles]
  cases hend : findZipEndOfCentralDirectory archive with
  | none => rfl
  | some eocdOffset =>
      have hinside := findZipEndOfCentralDirectory_inside hend
      have hcount : eocdOffset + 10 + 2 ≤ archive.length := by omega
      have hoffset : eocdOffset + 16 + 4 ≤ archive.length := by omega
      simp only [events_read, if_pos hcount, if_pos hoffset, Observed.events_bind_ofExcept,
        events_observeZipFrom]

/-- A compressed archive is decompressed once more, once its format is detected. -/
def gunzippedAgain (rt : DecompressingRuntime) (archive : List UInt8) :
    SplitArtifactFormat → Option (List UInt8)
  | .zip | .tar => none
  | .gzipTar | .unitypackage => some (rt.gunzipped archive)

theorem events_observeUnpackDetected {archive : List UInt8} {limits : SplitArtifactLimits}
    {format : SplitArtifactFormat} :
    (observeUnpackDetected rt archive limits format).events =
      ((gunzippedAgain rt archive format).toList.map fun tar =>
        UnpackEvent.gunzipped tar.length) ++
      (formatFiles rt archive format).map UnpackEvent.unpacked := by
  have hgzip : (match rt.gunzipSync archive with
      | some tar => observeTar rt.toRuntime tar limits
      | none => Observed.ofExcept (.error .invalidCompressedData) : Unpacking _).events =
      (match rt.gunzipSync archive with
        | some tar => tarFiles tar
        | none => []).map UnpackEvent.unpacked := by
    cases rt.gunzipSync archive with
    | none => rfl
    | some tar => exact events_observeTar
  cases format with
  | zip => exact events_observeZip
  | tar => exact events_observeTar
  | gzipTar => exact congrArg (List.cons _) hgzip
  | unitypackage => exact congrArg (List.cons _) hgzip

/-- What is decompressed again is what was decompressed for the detection. -/
theorem gunzippedArchive_of_detect {format : SplitArtifactFormat} {tar : List UInt8}
    (hdetect : detectSplitArtifactFormat rt input.filename input.archive = some format)
    (hagain : gunzippedAgain rt input.archive format = some tar) :
    gunzippedArchive rt input = some tar := by
  have hmagic : looksLikeGzipTar rt input.archive = true →
      ¬(input.archive.length < 2 ∨ input.archive[0]? ≠ some 0x1f ∨
        input.archive[1]? ≠ some 0x8b) := by
    intro hlooks hshort
    rw [looksLikeGzipTar, if_pos hshort] at hlooks
    cases hlooks
  have hlooks := looksLike_of_detect hdetect
  simp only [detectSplitArtifactFormat] at hdetect
  rw [gunzippedArchive]
  by_cases hunity : endsWith (rt.toLowerCase input.filename) ".unitypackage" = true
  · rw [if_pos hunity] at hdetect
    split at hdetect
    · rename_i hlike
      obtain rfl := Option.some.inj hdetect
      rw [if_pos ⟨by rw [hunity]; rfl, hmagic hlike⟩]
      exact hagain
    · cases hdetect
  rw [if_neg hunity] at hdetect
  by_cases htar : (endsWith (rt.toLowerCase input.filename) ".tar.gz" ||
      endsWith (rt.toLowerCase input.filename) ".tgz") = true
  · rw [if_pos htar] at hdetect
    split at hdetect
    · rename_i hlike
      obtain rfl := Option.some.inj hdetect
      rw [if_pos ⟨by rw [Bool.or_assoc, htar, Bool.or_true], hmagic hlike⟩]
      exact hagain
    · cases hdetect
  rw [if_neg htar] at hdetect
  split at hdetect
  · split at hdetect
    · obtain rfl := Option.some.inj hdetect
      cases hagain
    · cases hdetect
  split at hdetect
  · split at hdetect
    · obtain rfl := Option.some.inj hdetect
      cases hagain
    · cases hdetect
  · cases hdetect

/-- **Everything that a run does**: what it decompresses to detect the format and again to unpack,
and the files that it unpacks. -/
theorem events_observeSplitArtifactArchive :
    ∃ again, (∀ tar ∈ again, gunzippedArchive rt input = some tar) ∧
      (observeSplitArtifactArchive rt input).events =
        (((gunzippedArchive rt input).toList ++ again).map fun tar =>
          UnpackEvent.gunzipped tar.length) ++
        (archiveFiles rt input).map UnpackEvent.unpacked := by
  rw [observeSplitArtifactArchive,
    Observed.events_bind result_observeDetectSplitArtifactFormat,
    events_observeDetectSplitArtifactFormat, archiveFiles]
  cases hdetect : detectSplitArtifactFormat rt input.filename input.archive with
  | none => exact ⟨[], fun tar htar => absurd htar List.not_mem_nil, by simp⟩
  | some format =>
      refine ⟨(gunzippedAgain rt input.archive format).toList, fun tar htar =>
        gunzippedArchive_of_detect hdetect (Option.mem_toList.mp htar), ?_⟩
      have hlast := @Observed.events_bind_ofExcept _ _ _ _
        (observeUnpackDetected rt input.archive (resolveLimits input.limits) format)
        fun entries => .ok (⟨entries, format, input.archive.length⟩ : SplitArtifactArchiveResult)
      rw [events_observeUnpackDetected] at hlast
      rw [List.map_append]
      exact (congrArg (_ ++ ·) hlast).trans (List.append_assoc _ _ _).symm

end Run

/-! ### The limits at every point -/

/-- A file of so many bytes is within the limits on top of the files that are held. -/
structure Fits (limits : SplitArtifactLimits) (held : List Nat) (length : Nat) : Prop where
  count : exceeds (held.length + 1) limits.maxEntryCount = false
  byteLength : exceeds length limits.maxEntryByteLength = false
  total : exceeds (held.sum + length) limits.maxTotalUnpackedByteLength = false

/-- Files of so many bytes are within the limits. -/
structure LengthsWithin (limits : SplitArtifactLimits) (lengths : List Nat) : Prop where
  count : exceeds lengths.length limits.maxEntryCount = false
  byteLength : ∀ length ∈ lengths, exceeds length limits.maxEntryByteLength = false
  total : exceeds lengths.sum limits.maxTotalUnpackedByteLength = false

/-- The lengths of the files that have been unpacked. -/
def held (events : List UnpackEvent) : List Nat :=
  events.filterMap fun event =>
    match event with
    | .unpacked file => some file.length
    | .gunzipped _ => none

/-- What may happen at a point of a run, after what was done and before what is done. A file that is
unpacked fits, or is the last thing that is unpacked by a run that fails; and what is decompressed
is within what is left. -/
def AllowedAt (limits : SplitArtifactLimits) (failed : Prop) (before : List UnpackEvent) :
    (event : UnpackEvent) → (after : List UnpackEvent) → Prop
  | .gunzipped length, _ => exceeds length limits.maxTotalUnpackedByteLength = false
  | .unpacked file, after =>
      (Fits limits (held before) file.length ∨ after = [] ∧ failed) ∧
        (file.inflated = true → exceeds file.length limits.maxEntryByteLength = false ∧
          exceeds ((held before).sum + file.length) limits.maxTotalUnpackedByteLength = false)

/-- A run that keeps the limits at every point. -/
def LimitsKept {α : Type} (limits : SplitArtifactLimits) (run : Unpacking α) : Prop :=
  Observed.EveryPoint (AllowedAt limits (∃ e, run.result = .error e)) run.events

/-- The files before the last one are within the limits, and the last one is within the limits of
bytes if it is inflated. -/
def OnlyLastExceeds (limits : SplitArtifactLimits) (files : List Unpacked) : Prop :=
  (files.dropLast = [] ∨ LengthsWithin limits (files.dropLast.map Unpacked.length)) ∧
    ∀ file ∈ files.getLast?, file.inflated = true →
      exceeds file.length limits.maxEntryByteLength = false ∧
        exceeds (files.map Unpacked.length).sum limits.maxTotalUnpackedByteLength = false

/-- Every file fits on top of the ones before it. -/
def EachFits (limits : SplitArtifactLimits) (lengths : List Nat) : Prop :=
  Observed.EveryPoint (fun before length _ => Fits limits before length) lengths

section Limits

variable {limits : SplitArtifactLimits}

@[simp] theorem held_append (before after : List UnpackEvent) :
    held (before ++ after) = held before ++ held after := List.filterMap_append

@[simp] theorem held_unpacked (files : List Unpacked) :
    held (files.map UnpackEvent.unpacked) = files.map Unpacked.length := by
  rw [held, List.filterMap_map]
  exact congrFun (List.filterMap_eq_map (f := Unpacked.length)) files

@[simp] theorem held_gunzipped (archives : List (List UInt8)) :
    held (archives.map fun tar => UnpackEvent.gunzipped tar.length) = [] := by
  rw [held, List.filterMap_map, List.filterMap_eq_nil_iff]
  exact fun tar _ => rfl

/-- **Every file fits when all of them together do.** -/
theorem eachFits_iff {lengths : List Nat} :
    EachFits limits lengths ↔ lengths = [] ∨ LengthsWithin limits lengths := by
  constructor
  · intro h
    cases lengths using List.reverseRecOn with
    | nil => exact .inl rfl
    | append_singleton before length =>
        obtain ⟨hcount, -, htotal⟩ := h before length [] rfl
        refine .inr ⟨?_, fun n hn => ?_, ?_⟩
        · rw [List.length_append]
          exact hcount
        · obtain ⟨front, back, hsplit⟩ := List.append_of_mem hn
          exact (h front n back hsplit).byteLength
        · rw [List.sum_append, List.sum_singleton]
          exact htotal
  · rintro (rfl | ⟨hcount, hlengths, htotal⟩)
    · exact Observed.everyPoint_nil
    · rintro before length after rfl
      refine ⟨exceeds_mono ?_ hcount, hlengths length (by simp), exceeds_mono ?_ htotal⟩
      · rw [List.length_append, List.length_cons]
        omega
      · rw [List.sum_append, List.sum_cons]
        omega

/-- **When the files of an archive are unpacked within the limits**, by a run that fails when they
do not all fit. -/
theorem everyPoint_files_iff {failed : Prop} {files : List Unpacked} {archives : List (List UInt8)}
    (hfailed : ¬EachFits limits (files.map Unpacked.length) → failed) :
    Observed.EveryPoint (fun before => AllowedAt limits failed
        ((archives.map fun tar => UnpackEvent.gunzipped tar.length) ++ before))
        (files.map UnpackEvent.unpacked) ↔
      OnlyLastExceeds limits files := by
  cases files using List.reverseRecOn with
  | nil =>
      refine iff_of_true Observed.everyPoint_nil ⟨.inl rfl, fun file hfile => by cases hfile⟩
  | append_singleton files last =>
      have hbefore : Observed.EveryPoint (fun before event after => AllowedAt limits failed
          ((archives.map fun tar => UnpackEvent.gunzipped tar.length) ++ before) event
          (after ++ [last].map UnpackEvent.unpacked)) (files.map UnpackEvent.unpacked) ↔
            EachFits limits (files.map Unpacked.length) := by
        rw [EachFits, Observed.everyPoint_map_iff, Observed.everyPoint_map_iff]
        refine Observed.everyPoint_congr fun before file after => ?_
        rw [AllowedAt, held_append, held_gunzipped, held_unpacked, List.nil_append]
        constructor
        · rintro ⟨hfits | ⟨hnil, -⟩, -⟩
          · exact hfits
          · exact absurd hnil (List.append_ne_nil_of_right_ne_nil _ (List.cons_ne_nil _ _))
        · exact fun hfits => ⟨.inl hfits, fun _ => ⟨hfits.byteLength, hfits.total⟩⟩
      have hlast : EachFits limits ((files ++ [last]).map Unpacked.length) ↔
          EachFits limits (files.map Unpacked.length) ∧
            Fits limits (files.map Unpacked.length) last.length := by
        rw [EachFits, List.map_append, Observed.everyPoint_append_iff, List.map_singleton,
          Observed.everyPoint_cons_iff, List.append_nil]
        exact and_congr_right fun _ => and_iff_left Observed.everyPoint_nil
      rw [List.map_append, Observed.everyPoint_append_iff, hbefore, List.map_singleton,
        Observed.everyPoint_cons_iff, AllowedAt, held_append, held_gunzipped, List.append_nil,
        held_unpacked, List.nil_append, OnlyLastExceeds, List.dropLast_concat, eachFits_iff,
        List.map_eq_nil_iff]
      refine and_congr_right fun hfits => ?_
      simp only [List.getLast?_concat, Option.mem_some_iff, forall_eq', List.map_append,
        List.map_singleton, List.sum_append, List.sum_singleton]
      refine ⟨fun h => h.1.2, fun h => ⟨⟨?_, h⟩, Observed.everyPoint_nil⟩⟩
      by_cases hall : EachFits limits ((files ++ [last]).map Unpacked.length)
      · exact .inl (hlast.mp hall).2
      · exact .inr ⟨trivial, hfailed hall⟩

/-- Entries that pass the checks fit. -/
theorem eachFits_of_validate {rt : Runtime} {entries out : List SplitArtifactEntry}
    (h : validateEntries rt entries limits false = .ok out) :
    EachFits limits (entries.map fun entry => entry.data.length) := by
  rw [eachFits_iff]
  by_cases hne : entries = []
  · exact .inl (by rw [hne]; rfl)
  obtain ⟨hvalid, hnormalized⟩ := validateEntries_valid h (exceeds_zero_of_validate hne h)
  have hlengths : (entries.map fun entry => entry.data.length) =
      out.map fun entry => entry.data.length := by
    clear * - hnormalized
    induction hnormalized with
    | nil => rfl
    | cons hentry hrest ih => rw [List.map_cons, List.map_cons, ih, hentry.2]
  rw [hlengths]
  refine .inr ⟨?_, fun length hlength => ?_, hvalid.total⟩
  · rw [List.length_map]
    exact hvalid.count
  · obtain ⟨entry, hentry, rfl⟩ := List.mem_map.mp hlength
    exact hvalid.byteLength entry hentry

/-- The files of an archive that is accepted fit. -/
theorem eachFits_of_unpack {rt : DecompressingRuntime} {archive : List UInt8}
    {format : SplitArtifactFormat} {out : List SplitArtifactEntry}
    (h : unpackDetected rt archive limits format = .ok out) :
    EachFits limits ((formatFiles rt archive format).map Unpacked.length) := by
  have htar : ∀ {tar}, unpackTar rt.toRuntime tar limits = .ok out →
      EachFits limits ((tarFiles tar).map Unpacked.length) := by
    intro tar hunpack
    obtain ⟨entries, hentries, hvalidate⟩ := bind_eq_ok.mp hunpack
    rw [tarFiles_of_unpack hentries, List.map_map]
    exact eachFits_of_validate hvalidate
  have hgzip : (match rt.gunzipSync archive with
      | some tar => unpackTar rt.toRuntime tar limits
      | none => .error .invalidCompressedData) = .ok out →
      EachFits limits ((match rt.gunzipSync archive with
        | some tar => tarFiles tar
        | none => []).map Unpacked.length) := by
    intro hunpack
    cases hgunzip : rt.gunzipSync archive with
    | none =>
        rw [hgunzip] at hunpack
        cases hunpack
    | some tar =>
        rw [hgunzip] at hunpack
        exact htar hunpack
  cases format with
  | zip =>
      rw [unpackDetected, unpackZip] at h
      rw [formatFiles]
      cases hend : findZipEndOfCentralDirectory archive with
      | none =>
          rw [hend] at h
          cases h
      | some eocdOffset =>
          rw [hend] at h
          obtain ⟨-, h⟩ := read_eq_ok_iff.mp h
          obtain ⟨-, h⟩ := read_eq_ok_iff.mp h
          obtain ⟨entries, hentries, hvalidate⟩ := bind_eq_ok.mp h
          simp only
          rw [zipFiles_of_unpack hentries]
          exact eachFits_of_validate hvalidate
  | tar => exact htar h
  | gzipTar => exact hgzip h
  | unitypackage => exact hgzip h

end Limits

/-- **Which archives are unpacked within the limits at every point**: those of which no more bytes
are decompressed than the limit of the total, if they are compressed as a whole, and of whose files
only the last one may pass a limit, and not one of bytes if it is inflated. Whether a decompression
fails at its end makes no difference. -/
theorem limitsKept_iff {rt : DecompressingRuntime} {input : SplitArtifactArchiveInput} :
    LimitsKept (resolveLimits input.limits) (observeSplitArtifactArchive rt input) ↔
      (∀ tar, gunzippedArchive rt input = some tar →
        exceeds tar.length (resolveLimits input.limits).maxTotalUnpackedByteLength = false) ∧
      OnlyLastExceeds (resolveLimits input.limits) (archiveFiles rt input) := by
  have hfailed : ¬EachFits (resolveLimits input.limits)
      ((archiveFiles rt input).map Unpacked.length) →
        ∃ e, (observeSplitArtifactArchive rt input).result = .error e := by
    intro hnot
    rw [result_observeSplitArtifactArchive]
    cases hsplit : splitArtifactArchive rt input with
    | error e => exact ⟨e, rfl⟩
    | ok result =>
        refine absurd ?_ hnot
        rw [splitArtifactArchive] at hsplit
        rw [archiveFiles]
        split at hsplit
        · cases hsplit
        rename_i format hdetect
        obtain ⟨entries, hunpack, -⟩ := bind_eq_ok.mp hsplit
        rw [hdetect]
        exact eachFits_of_unpack hunpack
  obtain ⟨again, hagain, hevents⟩ := @events_observeSplitArtifactArchive rt input
  rw [LimitsKept, hevents, Observed.everyPoint_append_iff, everyPoint_files_iff hfailed,
    Observed.everyPoint_map_iff]
  refine and_congr_left fun _ => ?_
  constructor
  · intro h tar htar
    rw [htar] at h
    exact h [] tar again rfl
  · rintro h before tar after hsplit
    refine h tar ?_
    have hmem : tar ∈ (gunzippedArchive rt input).toList ++ again :=
      hsplit ▸ List.mem_append_right before List.mem_cons_self
    cases List.mem_append.mp hmem with
    | inl hfirst => exact Option.mem_toList.mp hfirst
    | inr hsecond => exact hagain tar hsecond

/-- The sample platform: four bytes are inflated of the deflated ones without their end. -/
def sampleDecompressingRuntime : DecompressingRuntime where
  toArchiveRuntime := sampleArchiveRuntime
  gunzipBeforeFailure _ := []
  inflateBeforeFailure data :=
    if data = [0x0b, 0xf0, 0x66, 0x65, 0x03] then [0x50, 0x4b, 0x05, 0x06] else []

/-- A zip archive of one file, whose deflated data is cut off behind its four bytes. -/
def cutArchive : List UInt8 :=
  [0x50, 0x4b, 0x03, 0x04, 0x14, 0x00, 0x00, 0x00, 0x08, 0x00, 0x00, 0x00, 0x21, 0x00, 0xef, 0xe3,
    0x92, 0x02, 0x05, 0x00, 0x00, 0x00, 0x04, 0x00, 0x00, 0x00, 0x01, 0x00, 0x00, 0x00, 0x62, 0x0b,
    0xf0, 0x66, 0x65, 0x03, 0x50, 0x4b, 0x01, 0x02, 0x14, 0x00, 0x14, 0x00, 0x00, 0x00, 0x08, 0x00,
    0x00, 0x00, 0x21, 0x00, 0xef, 0xe3, 0x92, 0x02, 0x05, 0x00, 0x00, 0x00, 0x04, 0x00, 0x00, 0x00,
    0x01, 0x00, 0x00, 0x00, 0x00, 0x00, 0x00, 0x00, 0x00, 0x00, 0x00, 0x00, 0x00, 0x00, 0x00, 0x00,
    0x00, 0x00, 0x62, 0x50, 0x4b, 0x05, 0x06, 0x00, 0x00, 0x00, 0x00, 0x01, 0x00, 0x01, 0x00, 0x2f,
    0x00, 0x00, 0x00, 0x24, 0x00, 0x00, 0x00, 0x00, 0x00]

/-- Inflated data beyond the limit of a file is against the limits. -/
theorem not_limitsKept_of_inflated {α : Type} {limits : SplitArtifactLimits} {run : Unpacking α}
    {length : Nat} {after : List UnpackEvent} (h : run.events = .unpacked ⟨true, length⟩ :: after)
    (hlength : exceeds length limits.maxEntryByteLength = true) : ¬LimitsKept limits run := by
  intro hkept
  obtain ⟨-, hinflated⟩ := hkept [] _ after h
  rw [(hinflated rfl).1] at hlength
  cases hlength

/-- The two sample files, with a limit that the first one passes: the second one is inflated before
the first one is rejected. Of a file that cannot be inflated more than the limit is made too. -/
theorem second_file_unpacked :
    (∃ archive limits,
      createSplitArtifactArchive sampleArchiveRuntime ⟨sampleSplitEntries, .zip, false⟩ =
        .ok archive ∧
      (observeSplitArtifactArchive sampleDecompressingRuntime
        ⟨archive, codeUnits "sample.zip", some limits⟩).events =
          [.unpacked ⟨true, 1⟩, .unpacked ⟨true, 4⟩] ∧
      exceeds 1 (resolveLimits (some limits)).maxEntryByteLength = true ∧
      ¬LimitsKept (resolveLimits (some limits))
        (observeSplitArtifactArchive sampleDecompressingRuntime
          ⟨archive, codeUnits "sample.zip", some limits⟩)) ∧
      ∃ limits,
        (observeSplitArtifactArchive sampleDecompressingRuntime
          ⟨cutArchive, codeUnits "cut.zip", some limits⟩).events = [.unpacked ⟨true, 4⟩] ∧
        ¬LimitsKept (resolveLimits (some limits))
          (observeSplitArtifactArchive sampleDecompressingRuntime
            ⟨cutArchive, codeUnits "cut.zip", some limits⟩) := by
  constructor
  · have hcreated : (createSplitArtifactArchive sampleArchiveRuntime
        ⟨sampleSplitEntries, .zip, false⟩).isOk = true := by
      decide +kernel
    obtain ⟨archive, harchive⟩ := exists_of_isOk hcreated
    have hrun : (createSplitArtifactArchive sampleArchiveRuntime
        ⟨sampleSplitEntries, .zip, false⟩).map (fun archive =>
          (observeSplitArtifactArchive sampleDecompressingRuntime
            ⟨archive, codeUnits "sample.zip", some ⟨some (.finite 0), none, none⟩⟩).events) =
        .ok [.unpacked ⟨true, 1⟩, .unpacked ⟨true, 4⟩] := by
      decide +kernel
    rw [harchive] at hrun
    have hevents := Except.ok.inj hrun
    exact ⟨archive, ⟨some (.finite 0), none, none⟩, harchive, hevents, by decide +kernel,
      not_limitsKept_of_inflated hevents (by decide +kernel)⟩
  · have hevents : (observeSplitArtifactArchive sampleDecompressingRuntime
        ⟨cutArchive, codeUnits "cut.zip", some ⟨some (.finite 3), none, none⟩⟩).events =
          [.unpacked ⟨true, 4⟩] := by
      decide +kernel
    exact ⟨⟨some (.finite 3), none, none⟩, hevents,
      not_limitsKept_of_inflated hevents (by decide +kernel)⟩

end Cdngine
