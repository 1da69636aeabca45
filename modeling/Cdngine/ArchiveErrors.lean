import Cdngine.SplitArtifacts

/-!
# Errors of the Archive Readers

Which errors leave `splitArtifactArchive`. The reader of tar archives fails with the errors of the
adapters alone, whatever the bytes. The reader of zip archives reads at the offsets that the bytes
declare and inflates what they declare, so that the errors of the buffer and of the decompressor
leave it as well.

## Main results

* `ownErrors_unpackTar`: the reader of tar archives fails with own errors only.
* `ownErrors_readZipEntry_iff`: when one entry of a zip archive does.
* `splitArtifactArchive_ownErrors_iff`: the archives whose errors are all own ones.
-/

open ByteBuffer

namespace Cdngine

/-! ### Own errors -/

/-- `ArchiveSafetyError` and `UnsupportedSplitArtifactError`. -/
def SplitArtifactError.isOwn : SplitArtifactError → Bool
  | .archiveSafety _ | .unsupportedSplitArtifact _ => true
  | .outOfRange | .invalidCompressedData => false

/-- A computation that fails with own errors only. -/
def OwnErrors {α : Type} (x : Except SplitArtifactError α) : Prop :=
  ∀ e, x = .error e → e.isOwn = true

section OwnErrors

variable {α β : Type}

@[simp] theorem ownErrors_ok (a : α) : OwnErrors (.ok a : Except SplitArtifactError α) :=
  fun e h => by cases h

@[simp] theorem ownErrors_error_iff {e : SplitArtifactError} :
    OwnErrors (.error e : Except SplitArtifactError α) ↔ e.isOwn = true := by
  refine ⟨fun h => h e rfl, fun h e' he => ?_⟩
  obtain rfl := Except.error.inj he
  exact h

theorem ownErrors_bind_iff {x : Except SplitArtifactError α}
    {f : α → Except SplitArtifactError β} :
    OwnErrors (x >>= f) ↔ OwnErrors x ∧ ∀ a, x = .ok a → OwnErrors (f a) := by
  cases x with
  | error e =>
      refine ⟨fun h => ⟨ownErrors_error_iff.mpr (h e rfl), fun a ha => by cases ha⟩, fun h => ?_⟩
      exact ownErrors_error_iff.mpr (ownErrors_error_iff.mp h.1)
  | ok a =>
      refine ⟨fun h => ⟨ownErrors_ok a, fun a' ha => ?_⟩, fun h => h.2 a rfl⟩
      obtain rfl := Except.ok.inj ha
      exact h

theorem ownErrors_map_iff {x : Except SplitArtifactError α} {f : α → β} :
    OwnErrors (f <$> x) ↔ OwnErrors x := by
  cases x with
  | error e => exact ownErrors_error_iff.trans ownErrors_error_iff.symm
  | ok a => exact iff_of_true (ownErrors_ok (f a)) (ownErrors_ok a)

@[simp] theorem ownErrors_ok_bind {a : α} {f : α → Except SplitArtifactError β} :
    OwnErrors ((.ok a : Except SplitArtifactError α) >>= f) ↔ OwnErrors (f a) := Iff.rfl

@[simp] theorem ownErrors_error_bind {e : SplitArtifactError}
    {f : α → Except SplitArtifactError β} :
    OwnErrors ((.error e : Except SplitArtifactError α) >>= f) ↔ e.isOwn = true :=
  ownErrors_error_iff

theorem ownErrors_ite_iff {p : Prop} [Decidable p] {x y : Except SplitArtifactError α} :
    OwnErrors (if p then x else y) ↔ (p → OwnErrors x) ∧ (¬p → OwnErrors y) := by
  by_cases hp : p
  · rw [if_pos hp]
    exact ⟨fun h => ⟨fun _ => h, fun hnot => absurd hp hnot⟩, fun h => h.1 hp⟩
  · rw [if_neg hp]
    exact ⟨fun h => ⟨fun hpos => absurd hpos hp, fun _ => h⟩, fun h => h.2 hp⟩

end OwnErrors

/-! ### Paths and entries -/

theorem ownErrors_normalizeArchivePath (rawPath : JsString) :
    OwnErrors (normalizeArchivePath rawPath) := by
  simp only [normalizeArchivePath, ownErrors_ite_iff, ownErrors_error_iff, ownErrors_ok]
  exact ⟨fun _ => rfl, fun _ => trivial⟩

theorem ownErrors_validateEach {limits : SplitArtifactLimits} {seen : List JsString} {total : Nat}
    (entries : List SplitArtifactEntry) :
    OwnErrors (validateEach limits false seen total entries) := by
  induction entries generalizing seen total with
  | nil => exact ownErrors_ok []
  | cons entry rest ih =>
      rw [validateEach, if_neg Bool.false_ne_true, ownErrors_bind_iff]
      refine ⟨ownErrors_normalizeArchivePath _, fun path _ => ?_⟩
      simp only [ownErrors_ite_iff, ownErrors_error_iff, ownErrors_map_iff]
      exact ⟨fun _ => rfl, fun _ => ⟨fun _ => rfl, fun _ => ⟨fun _ => rfl, fun _ => ih⟩⟩⟩

theorem ownErrors_validateEntries (rt : Runtime) (entries : List SplitArtifactEntry)
    (limits : SplitArtifactLimits) : OwnErrors (validateEntries rt entries limits false) := by
  rw [validateEntries, ownErrors_ite_iff, ownErrors_error_iff]
  exact ⟨fun _ => rfl, fun _ => ownErrors_validateEach entries⟩

/-! ### Tar archives -/

theorem ownErrors_parseTarOctal (buffer : List UInt8) (start length : Nat) :
    OwnErrors (parseTarOctal buffer start length) := by
  simp only [parseTarOctal, ownErrors_ite_iff, ownErrors_ok]
  refine ⟨fun _ => trivial, fun _ => ?_⟩
  split
  · exact ownErrors_error_iff.mpr rfl
  · simp only [ownErrors_ite_iff, ownErrors_error_iff, ownErrors_ok]
    exact ⟨fun _ => rfl, fun _ => trivial⟩

theorem ownErrors_readTarHeader (header : List UInt8) : OwnErrors (readTarHeader header) := by
  simp only [readTarHeader, ownErrors_bind_iff]
  exact ⟨ownErrors_parseTarOctal header 100 8, fun _ _ => ⟨ownErrors_parseTarOctal header 124 12,
    fun _ _ => ⟨ownErrors_parseTarOctal header 136 12, fun _ _ =>
      ⟨ownErrors_normalizeArchivePath _, fun _ _ => ownErrors_ok _⟩⟩⟩⟩

theorem ownErrors_unpackTarFrom (tarBuffer : List UInt8) : OwnErrors (unpackTarFrom tarBuffer) := by
  induction hn : tarBuffer.length using Nat.strong_induction_on generalizing tarBuffer with
  | _ n ih =>
      have hrest : ∀ size, ¬tarBuffer.length < 512 →
          OwnErrors (unpackTarFrom (tarBuffer.drop (512 + padLength size 512))) := by
        intro size hlength
        refine ih _ ?_ _ rfl
        rw [List.length_drop]
        omega
      rw [unpackTarFrom, ownErrors_ite_iff, ownErrors_ite_iff, ownErrors_bind_iff]
      refine ⟨fun _ => ownErrors_ok [], fun hlength => ⟨fun _ => ownErrors_ok [], fun _ =>
        ⟨ownErrors_readTarHeader _, fun header _ => ?_⟩⟩⟩
      simp only [ownErrors_ite_iff, ownErrors_error_iff, ownErrors_map_iff]
      exact ⟨fun _ => rfl, fun _ => ⟨fun _ => hrest header.size hlength,
        fun _ => ⟨fun _ => hrest header.size hlength, fun _ => rfl⟩⟩⟩

/-- **The reader of tar archives fails with own errors only**, whatever the bytes. -/
theorem ownErrors_unpackTar (rt : Runtime) (tarBuffer : List UInt8) (limits : SplitArtifactLimits) :
    OwnErrors (unpackTar rt tarBuffer limits) := by
  rw [unpackTar, ownErrors_bind_iff]
  exact ⟨ownErrors_unpackTarFrom tarBuffer, fun entries _ =>
    ownErrors_validateEntries rt entries limits⟩

/-! ### Entries of a zip archive -/

/-- The number at an offset. -/
def numberAt (buffer : List UInt8) (offset width : Nat) : Nat := valueLE (slice buffer offset width)

/-- A number is read inside the buffer only. -/
theorem readUIntLE_eq (buffer : List UInt8) (offset width : Nat) :
    readUIntLE buffer offset width =
      if offset + width ≤ buffer.length then .ok (numberAt buffer offset width)
      else .error .outOfRange := by
  rw [readUIntLE, readLE]
  split
  · rename_i value h
    split at h
    · rename_i hle
      rw [if_pos hle, numberAt, Option.some.inj h]
    · cases h
  · rename_i h
    split at h
    · cases h
    · rename_i hle
      rw [if_neg hle]

section Reads

variable {α : Type} {buffer : List UInt8} {offset width : Nat}
  {f : Nat → Except SplitArtifactError α}

theorem ownErrors_read_iff : OwnErrors (readUIntLE buffer offset width >>= f) ↔
    offset + width ≤ buffer.length ∧ OwnErrors (f (numberAt buffer offset width)) := by
  rw [readUIntLE_eq]
  split
  · rename_i hle
    exact ⟨fun h => ⟨hle, h⟩, fun h => h.2⟩
  · rename_i hle
    exact iff_of_false (fun h => Bool.false_ne_true (ownErrors_error_bind.mp h)) fun h => hle h.1

theorem read_eq_ok_iff {a : α} : (readUIntLE buffer offset width >>= f) = .ok a ↔
    offset + width ≤ buffer.length ∧ f (numberAt buffer offset width) = .ok a := by
  rw [readUIntLE_eq]
  split
  · rename_i hle
    exact ⟨fun h => ⟨hle, h⟩, fun h => h.2⟩
  · rename_i hle
    exact iff_of_false (fun h => by cases h) fun h => hle h.1

end Reads

/-- An entry of the central directory. -/
structure CentralEntry where
  flags : Nat
  method : Nat
  crc : Nat
  compressedSize : Nat
  uncompressedSize : Nat
  nameLength : Nat
  extraLength : Nat
  commentLength : Nat
  localHeaderOffset : Nat
  rawName : JsString

/-- The entry of the central directory at an offset. -/
def centralEntryAt (buffer : List UInt8) (offset : Nat) : CentralEntry where
  flags := numberAt buffer (offset + 8) 2
  method := numberAt buffer (offset + 10) 2
  crc := numberAt buffer (offset + 16) 4
  compressedSize := numberAt buffer (offset + 20) 4
  uncompressedSize := numberAt buffer (offset + 24) 4
  nameLength := numberAt buffer (offset + 28) 2
  extraLength := numberAt buffer (offset + 30) 2
  commentLength := numberAt buffer (offset + 32) 2
  localHeaderOffset := numberAt buffer (offset + 42) 4
  rawName := Utf8.decode (slice buffer (offset + 46) (numberAt buffer (offset + 28) 2))

/-- Where the next entry starts. -/
def nextEntryOffset (buffer : List UInt8) (offset : Nat) : Nat :=
  let entry := centralEntryAt buffer offset
  offset + (46 + entry.nameLength + entry.extraLength + entry.commentLength)

/-- The data of an entry, as it is stored. -/
def CentralEntry.compressed (buffer : List UInt8) (entry : CentralEntry) : List UInt8 :=
  slice buffer (entry.localHeaderOffset + 30 + numberAt buffer (entry.localHeaderOffset + 26) 2 +
    numberAt buffer (entry.localHeaderOffset + 28) 2) entry.compressedSize

/-- The data of an entry, unless the compressor refuses it or is not known. -/
def CentralEntry.data (rt : ArchiveRuntime) (buffer : List UInt8) (entry : CentralEntry) :
    Option (List UInt8) :=
  if entry.method = 0 then some (entry.compressed buffer)
  else if entry.method = 8 then rt.inflateRawSync (entry.compressed buffer)
  else none

/-- What is made of an entry from its local header on. -/
def readLocalEntry (rt : ArchiveRuntime) (buffer : List UInt8) (entry : CentralEntry)
    (logicalPath : JsString) (next : Nat) :
    Except SplitArtifactError (Option SplitArtifactEntry × Nat) := do
  let localSignature ← readUIntLE buffer entry.localHeaderOffset 4
  if localSignature ≠ zipSignature then
    .error (.archiveSafety (codeUnits "Invalid local header for zip entry " ++
      inQuotes logicalPath ++ codeUnits "."))
  else
    let localNameLength ← readUIntLE buffer (entry.localHeaderOffset + 26) 2
    let localExtraLength ← readUIntLE buffer (entry.localHeaderOffset + 28) 2
    let dataStart := entry.localHeaderOffset + 30 + localNameLength + localExtraLength
    let compressed := slice buffer dataStart entry.compressedSize
    let data ←
      if entry.method = 0 then .ok compressed
      else if entry.method = 8 then
        match rt.inflateRawSync compressed with
        | some data => .ok data
        | none => .error .invalidCompressedData
      else
        .error (.archiveSafety (codeUnits "Unsupported zip compression method " ++
          codeUnits (toString entry.method) ++ codeUnits " for " ++ inQuotes logicalPath ++
          codeUnits "."))
    if data.length ≠ entry.uncompressedSize ∨ (crc32 data).toNat ≠ entry.crc then
      .error (.archiveSafety (codeUnits "Zip entry " ++ inQuotes logicalPath ++
        codeUnits " failed size or CRC validation."))
    else .ok (some ⟨data, logicalPath, none, none⟩, next)

/-- What is made of an entry of the central directory. -/
def readCentralEntry (rt : ArchiveRuntime) (buffer : List UInt8) (entry : CentralEntry)
    (next : Nat) : Except SplitArtifactError (Option SplitArtifactEntry × Nat) := do
  let logicalPath ← normalizeArchivePath entry.rawName
  if entry.flags % 2 ≠ 0 then
    .error (.archiveSafety (codeUnits "Encrypted zip entry " ++ inQuotes logicalPath ++
      codeUnits " is not supported."))
  else if entry.rawName.getLast? = some slash then .ok (none, next)
  else readLocalEntry rt buffer entry logicalPath next

/-- The turn of the loop reads an entry of the central directory and makes something of it. -/
theorem readZipEntry_eq (rt : ArchiveRuntime) (buffer : List UInt8) (offset : Nat) :
    readZipEntry rt buffer offset = (do
      let signature ← readUIntLE buffer offset 4
      if signature ≠ zipCentralDirectorySignature then
        .error (.archiveSafety (codeUnits "Invalid zip central directory entry."))
      else
        let flags ← readUIntLE buffer (offset + 8) 2
        let method ← readUIntLE buffer (offset + 10) 2
        let crc ← readUIntLE buffer (offset + 16) 4
        let compressedSize ← readUIntLE buffer (offset + 20) 4
        let uncompressedSize ← readUIntLE buffer (offset + 24) 4
        let nameLength ← readUIntLE buffer (offset + 28) 2
        let extraLength ← readUIntLE buffer (offset + 30) 2
        let commentLength ← readUIntLE buffer (offset + 32) 2
        let localHeaderOffset ← readUIntLE buffer (offset + 42) 4
        readCentralEntry rt buffer
          ⟨flags, method, crc, compressedSize, uncompressedSize, nameLength, extraLength,
            commentLength, localHeaderOffset,
            Utf8.decode (slice buffer (offset + 46) nameLength)⟩
          (offset + (46 + nameLength + extraLength + commentLength))) := rfl

/-- What is read of an entry from its local header on lies inside the buffer, and what is inflated
can be. -/
structure LocalInside (rt : ArchiveRuntime) (buffer : List UInt8) (entry : CentralEntry) :
    Prop where
  signature : entry.localHeaderOffset + 4 ≤ buffer.length
  lengths : numberAt buffer entry.localHeaderOffset 4 = zipSignature →
    entry.localHeaderOffset + 30 ≤ buffer.length
  inflates : numberAt buffer entry.localHeaderOffset 4 = zipSignature → entry.method = 8 →
    ∃ data, rt.inflateRawSync (entry.compressed buffer) = some data

/-- An entry that names a file to read: its path is accepted, and it is neither encrypted nor a
directory. -/
structure CentralEntry.NamesFile (entry : CentralEntry) : Prop where
  accepted : ∃ path, normalizeArchivePath entry.rawName = .ok path
  plain : entry.flags % 2 = 0
  file : entry.rawName.getLast? ≠ some slash

/-- Everything that is read of an entry lies inside the buffer, and what is inflated can be. -/
structure EntryInside (rt : ArchiveRuntime) (buffer : List UInt8) (offset : Nat) : Prop where
  signature : offset + 4 ≤ buffer.length
  numbers : numberAt buffer offset 4 = zipCentralDirectorySignature → offset + 46 ≤ buffer.length
  localEntry : numberAt buffer offset 4 = zipCentralDirectorySignature →
    (centralEntryAt buffer offset).NamesFile → LocalInside rt buffer (centralEntryAt buffer offset)

section Inside

variable {rt : ArchiveRuntime} {buffer : List UInt8} {entry : CentralEntry} {offset : Nat}

theorem ownErrors_readLocalEntry_iff {logicalPath : JsString} {next : Nat} :
    OwnErrors (readLocalEntry rt buffer entry logicalPath next) ↔ LocalInside rt buffer entry := by
  simp only [readLocalEntry, ownErrors_read_iff, ownErrors_ite_iff, ownErrors_error_iff]
  constructor
  · rintro ⟨hsignature, -, hlocal⟩
    refine ⟨hsignature, fun hsig => ?_, fun hsig hmethod => ?_⟩
    · obtain ⟨-, hlengths, -⟩ := hlocal (not_not_intro hsig)
      omega
    · obtain ⟨-, -, -, hdata⟩ := hlocal (not_not_intro hsig)
      have hinflated := (hdata (by omega)).1 hmethod
      cases hinflate : rt.inflateRawSync (entry.compressed buffer) with
      | some data => exact ⟨data, rfl⟩
      | none =>
          rw [CentralEntry.compressed] at hinflate
          rw [hinflate] at hinflated
          exact absurd (ownErrors_error_bind.mp hinflated) Bool.false_ne_true
  · rintro ⟨hsignature, hlengths, hinflates⟩
    refine ⟨hsignature, fun _ => rfl, fun hsig => ?_⟩
    rw [not_not] at hsig
    have hend := hlengths hsig
    have hcheck : ∀ data : List UInt8, OwnErrors
        (if data.length ≠ entry.uncompressedSize ∨ (crc32 data).toNat ≠ entry.crc then
          .error (.archiveSafety (codeUnits "Zip entry " ++ inQuotes logicalPath ++
            codeUnits " failed size or CRC validation."))
        else .ok (some (⟨data, logicalPath, none, none⟩ : SplitArtifactEntry), next)) := by
      intro data
      rw [ownErrors_ite_iff, ownErrors_error_iff]
      exact ⟨fun _ => rfl, fun _ => ownErrors_ok _⟩
    refine ⟨by omega, by omega, fun _ => hcheck _, fun _ => ⟨fun hmethod => ?_, fun _ => ?_⟩⟩
    · obtain ⟨data, hdata⟩ := hinflates hsig hmethod
      rw [CentralEntry.compressed] at hdata
      rw [hdata]
      exact hcheck data
    · exact ownErrors_error_bind.mpr rfl

theorem ownErrors_readCentralEntry_iff {next : Nat} :
    OwnErrors (readCentralEntry rt buffer entry next) ↔
      (entry.NamesFile → LocalInside rt buffer entry) := by
  simp only [readCentralEntry, ownErrors_bind_iff, ownErrors_ite_iff, ownErrors_error_iff,
    ownErrors_ok, ownErrors_readLocalEntry_iff]
  constructor
  · rintro ⟨-, hnamed⟩ ⟨⟨path, hpath⟩, hplain, hfile⟩
    exact ((hnamed path hpath).2 (not_not_intro hplain)).2 hfile
  · intro hinside
    refine ⟨ownErrors_normalizeArchivePath _, fun path hpath => ⟨fun _ => rfl, fun hplain =>
      ⟨fun _ => trivial, fun hfile => hinside ⟨⟨path, hpath⟩, not_not.mp hplain, hfile⟩⟩⟩⟩

/-- **When one entry fails with own errors only.** -/
theorem ownErrors_readZipEntry_iff :
    OwnErrors (readZipEntry rt buffer offset) ↔ EntryInside rt buffer offset := by
  simp only [readZipEntry_eq, ownErrors_read_iff, ownErrors_ite_iff, ownErrors_error_iff,
    ownErrors_readCentralEntry_iff]
  constructor
  · rintro ⟨hsignature, -, hentry⟩
    refine ⟨hsignature, fun hsig => ?_, fun hsig hfile => ?_⟩
    · obtain ⟨-, -, -, -, -, -, -, -, hlast, -⟩ := hentry (not_not_intro hsig)
      omega
    · obtain ⟨-, -, -, -, -, -, -, -, -, hinside⟩ := hentry (not_not_intro hsig)
      exact hinside hfile
  · rintro ⟨hsignature, hnumbers, hinside⟩
    refine ⟨hsignature, fun _ => rfl, fun hsig => ?_⟩
    rw [not_not] at hsig
    have hend := hnumbers hsig
    exact ⟨by omega, by omega, by omega, by omega, by omega, by omega, by omega, by omega,
      by omega, hinside hsig⟩

end Inside

/-! ### Entries that pass -/

/-- The local header of an entry is one, and the data is what the entry says. -/
structure LocalPasses (rt : ArchiveRuntime) (buffer : List UInt8) (entry : CentralEntry) :
    Prop where
  signature : numberAt buffer entry.localHeaderOffset 4 = zipSignature
  content : ∃ data, entry.data rt buffer = some data ∧ data.length = entry.uncompressedSize ∧
    (crc32 data).toNat = entry.crc

/-- An entry of the central directory that is a directory, or a file whose data is right. -/
structure EntryPasses (rt : ArchiveRuntime) (buffer : List UInt8) (offset : Nat) : Prop where
  signature : numberAt buffer offset 4 = zipCentralDirectorySignature
  accepted : ∃ path, normalizeArchivePath (centralEntryAt buffer offset).rawName = .ok path
  plain : (centralEntryAt buffer offset).flags % 2 = 0
  content : (centralEntryAt buffer offset).rawName.getLast? = some slash ∨
    LocalPasses rt buffer (centralEntryAt buffer offset)

section Passes

variable {rt : ArchiveRuntime} {buffer : List UInt8} {entry : CentralEntry}
    {offset next next' : Nat}

/-- A last check. -/
theorem exists_ite_ok_iff {p : Prop} [Decidable p] {e : SplitArtifactError}
    {found : Option SplitArtifactEntry} :
    (∃ found', (if p then .error e else .ok (found, next) : Except SplitArtifactError _) =
      .ok (found', next')) ↔ ¬p ∧ next' = next := by
  by_cases hp : p
  · rw [if_pos hp]
    exact iff_of_false (fun ⟨_, h⟩ => by cases h) fun h => h.1 hp
  · rw [if_neg hp]
    constructor
    · rintro ⟨found', h⟩
      obtain ⟨-, rfl⟩ := Prod.mk.inj (Except.ok.inj h)
      exact ⟨hp, rfl⟩
    · rintro ⟨-, rfl⟩
      exact ⟨found, rfl⟩

/-- The data of an entry, checked, when everything that is read lies inside. -/
theorem readLocalEntry_of_inside {logicalPath : JsString} (h : LocalInside rt buffer entry)
    (hsig : numberAt buffer entry.localHeaderOffset 4 = zipSignature) :
    readLocalEntry rt buffer entry logicalPath next =
      match entry.data rt buffer with
      | some data =>
          if data.length ≠ entry.uncompressedSize ∨ (crc32 data).toNat ≠ entry.crc then
            .error (.archiveSafety (codeUnits "Zip entry " ++ inQuotes logicalPath ++
              codeUnits " failed size or CRC validation."))
          else .ok (some ⟨data, logicalPath, none, none⟩, next)
      | none =>
          .error (.archiveSafety (codeUnits "Unsupported zip compression method " ++
            codeUnits (toString entry.method) ++ codeUnits " for " ++ inQuotes logicalPath ++
            codeUnits ".")) := by
  have hend := h.lengths hsig
  rw [readLocalEntry, CentralEntry.data, readUIntLE_eq, if_pos h.signature, readUIntLE_eq,
    if_pos (by omega), readUIntLE_eq, if_pos (by omega)]
  simp only [bind, Except.bind, hsig, ne_eq, not_true_eq_false, if_false]
  by_cases hstored : entry.method = 0
  · rw [if_pos hstored, if_pos hstored]
    rfl
  rw [if_neg hstored, if_neg hstored]
  by_cases hdeflated : entry.method = 8
  · obtain ⟨data, hdata⟩ := h.inflates hsig hdeflated
    rw [if_pos hdeflated, if_pos hdeflated, hdata]
    rw [CentralEntry.compressed] at hdata
    rw [hdata]
  · rw [if_neg hdeflated, if_neg hdeflated]

theorem exists_readLocalEntry_iff {logicalPath : JsString} (h : LocalInside rt buffer entry) :
    (∃ found, readLocalEntry rt buffer entry logicalPath next = .ok (found, next')) ↔
      LocalPasses rt buffer entry ∧ next' = next := by
  by_cases hsig : numberAt buffer entry.localHeaderOffset 4 = zipSignature
  · rw [readLocalEntry_of_inside h hsig]
    cases hdata : entry.data rt buffer with
    | none =>
        refine iff_of_false (fun ⟨_, h⟩ => by cases h) ?_
        rintro ⟨⟨-, data, hsome, -⟩, -⟩
        rw [hdata] at hsome
        cases hsome
    | some data =>
        simp only [exists_ite_ok_iff, not_or, not_not]
        refine and_congr_left fun _ => ⟨fun hright => ⟨hsig, data, hdata, hright⟩, ?_⟩
        rintro ⟨-, data', hsome, hright⟩
        rw [hdata] at hsome
        obtain rfl := Option.some.inj hsome
        exact hright
  · refine iff_of_false ?_ fun hpasses => hsig hpasses.1.signature
    rintro ⟨found, hread⟩
    rw [readLocalEntry, read_eq_ok_iff, if_pos hsig] at hread
    cases hread.2

/-- The entry of the central directory, when its numbers lie inside. -/
theorem readZipEntry_of_inside
    (hsig : numberAt buffer offset 4 = zipCentralDirectorySignature)
    (hend : offset + 46 ≤ buffer.length) :
    readZipEntry rt buffer offset =
      readCentralEntry rt buffer (centralEntryAt buffer offset)
        (nextEntryOffset buffer offset) := by
  have hnumber : ∀ o w, o + w ≤ offset + 46 →
      readUIntLE buffer o w = .ok (numberAt buffer o w) := by
    intro o w hle
    rw [readUIntLE_eq, if_pos (by omega)]
  rw [readZipEntry_eq, hnumber offset 4 (by omega), hnumber _ 2 (by omega),
    hnumber _ 2 (by omega), hnumber _ 4 (by omega), hnumber _ 4 (by omega),
    hnumber _ 4 (by omega), hnumber _ 2 (by omega), hnumber _ 2 (by omega),
    hnumber _ 2 (by omega), hnumber _ 4 (by omega)]
  simp only [bind, Except.bind, hsig, ne_eq, not_true_eq_false, if_false]
  rfl

/-- What the turn of the loop gives, when everything it reads lies inside. -/
theorem exists_readZipEntry_iff (h : EntryInside rt buffer offset) :
    (∃ found, readZipEntry rt buffer offset = .ok (found, next')) ↔
      EntryPasses rt buffer offset ∧ next' = nextEntryOffset buffer offset := by
  by_cases hsig : numberAt buffer offset 4 = zipCentralDirectorySignature
  · rw [readZipEntry_of_inside hsig (h.numbers hsig), readCentralEntry]
    cases hpath : normalizeArchivePath (centralEntryAt buffer offset).rawName with
    | error e =>
        refine iff_of_false (fun ⟨_, h⟩ => by cases h) ?_
        rintro ⟨⟨-, ⟨path, haccepted⟩, -, -⟩, -⟩
        rw [hpath] at haccepted
        cases haccepted
    | ok path =>
        simp only [bind, Except.bind]
        by_cases hplain : (centralEntryAt buffer offset).flags % 2 = 0
        · rw [if_neg (not_not_intro hplain)]
          by_cases hdirectory : (centralEntryAt buffer offset).rawName.getLast? = some slash
          · rw [if_pos hdirectory]
            constructor
            · rintro ⟨found, hfound⟩
              obtain ⟨-, rfl⟩ := Prod.mk.inj (Except.ok.inj hfound)
              exact ⟨⟨hsig, ⟨path, hpath⟩, hplain, .inl hdirectory⟩, rfl⟩
            · rintro ⟨-, rfl⟩
              exact ⟨none, rfl⟩
          · rw [if_neg hdirectory,
              exists_readLocalEntry_iff (h.localEntry hsig ⟨⟨path, hpath⟩, hplain, hdirectory⟩)]
            refine and_congr_left fun _ =>
              ⟨fun hpasses => ⟨hsig, ⟨path, hpath⟩, hplain, .inr hpasses⟩, fun hpasses => ?_⟩
            exact hpasses.content.resolve_left hdirectory
        · rw [if_pos hplain]
          exact iff_of_false (fun ⟨_, h⟩ => by cases h) fun hpasses => hplain hpasses.1.plain
  · refine iff_of_false ?_ fun hpasses => hsig hpasses.1.signature
    rintro ⟨found, hread⟩
    rw [readZipEntry_eq, read_eq_ok_iff, if_pos hsig] at hread
    cases hread.2

end Passes

/-! ### The whole central directory -/

/-- Where the entries of a central directory start, by the lengths that each declares. -/
def entryOffset (buffer : List UInt8) (start : Nat) : Nat → Nat
  | 0 => start
  | k + 1 => entryOffset buffer (nextEntryOffset buffer start) k

/-- Every entry that is reached, as the ones before it pass, lies inside the buffer. -/
def EntriesInside (rt : ArchiveRuntime) (buffer : List UInt8) (entryCount start : Nat) : Prop :=
  ∀ k < entryCount, (∀ j < k, EntryPasses rt buffer (entryOffset buffer start j)) →
    EntryInside rt buffer (entryOffset buffer start k)

section Entries

variable {rt : ArchiveRuntime} {buffer : List UInt8} {entryCount start : Nat}

theorem entriesInside_succ_iff : EntriesInside rt buffer (entryCount + 1) start ↔
    EntryInside rt buffer start ∧ (EntryPasses rt buffer start →
      EntriesInside rt buffer entryCount (nextEntryOffset buffer start)) := by
  constructor
  · intro h
    refine ⟨h 0 (Nat.succ_pos _) fun j hj => absurd hj (Nat.not_lt_zero j),
      fun hpasses k hk hbefore => h (k + 1) (Nat.succ_lt_succ hk) fun j hj => ?_⟩
    cases j with
    | zero => exact hpasses
    | succ j => exact hbefore j (Nat.lt_of_succ_lt_succ hj)
  · rintro ⟨hfirst, hrest⟩ k hk hbefore
    cases k with
    | zero => exact hfirst
    | succ k =>
        exact hrest (hbefore 0 (Nat.succ_pos k)) k (Nat.lt_of_succ_lt_succ hk)
          fun j hj => hbefore (j + 1) (Nat.succ_lt_succ hj)

/-- **When the loop over the entries fails with own errors only.** -/
theorem ownErrors_unpackZipFrom_iff : OwnErrors (unpackZipFrom rt buffer entryCount start) ↔
    EntriesInside rt buffer entryCount start := by
  induction entryCount generalizing start with
  | zero => exact iff_of_true (ownErrors_ok []) fun k hk => absurd hk (Nat.not_lt_zero k)
  | succ entryCount ih =>
      rw [unpackZipFrom, ownErrors_bind_iff, ownErrors_readZipEntry_iff, entriesInside_succ_iff]
      refine and_congr_right fun hinside => ?_
      constructor
      · intro h hpasses
        obtain ⟨found, hread⟩ := (exists_readZipEntry_iff hinside).mpr ⟨hpasses, rfl⟩
        exact ih.mp (ownErrors_bind_iff.mp (h _ hread)).1
      · rintro h ⟨found, next⟩ hread
        obtain ⟨hpasses, rfl⟩ := (exists_readZipEntry_iff hinside).mp ⟨found, hread⟩
        exact ownErrors_bind_iff.mpr ⟨ih.mpr (h hpasses), fun rest _ => ownErrors_ok _⟩

end Entries

/-- The search from the back stays below where it starts. -/
theorem search_le {buffer : List UInt8} {minOffset start offset : Nat}
    (h : searchEndOfCentralDirectory buffer minOffset start = some offset) : offset ≤ start := by
  induction start with
  | zero =>
      rw [searchEndOfCentralDirectory] at h
      split at h
      · exact (Option.some.inj h).ge
      · cases h
  | succ start ih =>
      rw [searchEndOfCentralDirectory] at h
      split at h
      · cases h
      split at h
      · exact (Option.some.inj h).ge
      · exact (ih h).trans (Nat.le_succ start)

/-- The end record lies inside the buffer. -/
theorem findZipEndOfCentralDirectory_inside {buffer : List UInt8} {offset : Nat}
    (h : findZipEndOfCentralDirectory buffer = some offset) : offset + 22 ≤ buffer.length := by
  rw [findZipEndOfCentralDirectory] at h
  split at h
  · cases h
  · have hle := search_le h
    omega

theorem ownErrors_unpackZip_iff {rt : ArchiveRuntime} {buffer : List UInt8}
    {limits : SplitArtifactLimits} :
    OwnErrors (unpackZip rt buffer limits) ↔
      ∀ eocdOffset, findZipEndOfCentralDirectory buffer = some eocdOffset →
        EntriesInside rt buffer (numberAt buffer (eocdOffset + 10) 2)
          (numberAt buffer (eocdOffset + 16) 4) := by
  rw [unpackZip]
  cases hend : findZipEndOfCentralDirectory buffer with
  | none => exact iff_of_true (ownErrors_error_iff.mpr rfl) fun eocdOffset h => by cases h
  | some eocdOffset =>
      have hinside := findZipEndOfCentralDirectory_inside hend
      simp only [ownErrors_read_iff, Option.some.injEq, forall_eq']
      rw [ownErrors_bind_iff, ownErrors_unpackZipFrom_iff]
      constructor
      · rintro ⟨-, -, hentries, -⟩
        exact hentries
      · intro hentries
        exact ⟨by omega, by omega, hentries, fun entries _ =>
          ownErrors_validateEntries rt.toRuntime entries limits⟩

/-! ### Any archive -/

/-- What is detected looks like its format. -/
theorem looksLike_of_detect {rt : ArchiveRuntime} {filename : JsString} {archive : List UInt8}
    {format : SplitArtifactFormat}
    (h : detectSplitArtifactFormat rt filename archive = some format) :
    looksLike rt archive format = true := by
  have hlooks : ∀ {detected : SplitArtifactFormat} {looks : Bool},
      (if looks = true then some detected else none) = some format →
        detected = format ∧ looks = true := by
    intro detected looks hdetect
    split at hdetect
    · rename_i hlooks
      exact ⟨Option.some.inj hdetect, hlooks⟩
    · cases hdetect
  simp only [detectSplitArtifactFormat] at h
  split at h
  · obtain ⟨rfl, hlike⟩ := hlooks h
    exact hlike
  split at h
  · obtain ⟨rfl, hlike⟩ := hlooks h
    exact hlike
  split at h
  · obtain ⟨rfl, hlike⟩ := hlooks h
    exact hlike
  split at h
  · obtain ⟨rfl, hlike⟩ := hlooks h
    exact hlike
  · cases h

/-- What looks like a compressed archive can be decompressed. -/
theorem exists_gunzip_of_looksLike {rt : ArchiveRuntime} {archive : List UInt8}
    (h : looksLikeGzipTar rt archive = true) : ∃ tar, rt.gunzipSync archive = some tar := by
  rw [looksLikeGzipTar] at h
  split at h
  · cases h
  · cases hgunzip : rt.gunzipSync archive with
    | none =>
        rw [hgunzip] at h
        cases h
    | some tar => exact ⟨tar, rfl⟩

/-- **Which archives fail with own errors only**: all but the zip archives in which an entry that is
reached does not lie inside the bytes, or is deflated and cannot be inflated. -/
theorem splitArtifactArchive_ownErrors_iff {rt : ArchiveRuntime}
    {input : SplitArtifactArchiveInput} :
    (∀ e, splitArtifactArchive rt input = .error e → e.isOwn = true) ↔
      (detectSplitArtifactFormat rt input.filename input.archive = some .zip →
        ∀ eocdOffset, findZipEndOfCentralDirectory input.archive = some eocdOffset →
          EntriesInside rt input.archive (numberAt input.archive (eocdOffset + 10) 2)
            (numberAt input.archive (eocdOffset + 16) 4)) := by
  change OwnErrors (splitArtifactArchive rt input) ↔ _
  rw [splitArtifactArchive]
  cases hdetect : detectSplitArtifactFormat rt input.filename input.archive with
  | none => exact iff_of_true (ownErrors_error_iff.mpr rfl) fun h => by cases h
  | some format =>
      have hunpack : OwnErrors (unpackDetected rt input.archive (resolveLimits input.limits) format
          >>= fun entries => .ok (⟨entries, format, input.archive.length⟩ :
            SplitArtifactArchiveResult)) ↔
          OwnErrors (unpackDetected rt input.archive (resolveLimits input.limits) format) := by
        rw [ownErrors_bind_iff]
        exact and_iff_left fun entries _ => ownErrors_ok _
      have hgzip : ∀ looks, looksLike rt input.archive looks = looksLikeGzipTar rt input.archive →
          looksLike rt input.archive looks = true →
          OwnErrors (match rt.gunzipSync input.archive with
            | some tar => unpackTar rt.toRuntime tar (resolveLimits input.limits)
            | none => .error .invalidCompressedData) := by
        intro looks heq hlooks
        obtain ⟨tar, htar⟩ := exists_gunzip_of_looksLike (heq ▸ hlooks)
        rw [htar]
        exact ownErrors_unpackTar rt.toRuntime tar _
      have hlooks := looksLike_of_detect hdetect
      refine hunpack.trans ?_
      cases format with
      | zip =>
          rw [unpackDetected, ownErrors_unpackZip_iff]
          exact ⟨fun h _ => h, fun h => h rfl⟩
      | tar =>
          exact iff_of_true (ownErrors_unpackTar rt.toRuntime input.archive _) fun h => by cases h
      | gzipTar => exact iff_of_true (hgzip .gzipTar rfl hlooks) fun h => by cases h
      | unitypackage => exact iff_of_true (hgzip .unitypackage rfl hlooks) fun h => by cases h

/-- An end record alone, for one entry behind it. -/
def danglingArchive : List UInt8 :=
  [0x50, 0x4b, 0x05, 0x06, 0x00, 0x00, 0x00, 0x00, 0x01, 0x00, 0x01, 0x00, 0x2e, 0x00, 0x00, 0x00,
    0x16, 0x00, 0x00, 0x00, 0x00, 0x00]

/-- Reading the entry behind the end record is an error of the buffer. -/
theorem danglingArchive_escapes :
    splitArtifactArchive sampleArchiveRuntime ⟨danglingArchive, codeUnits "dangling.zip", none⟩ =
      .error .outOfRange ∧ SplitArtifactError.outOfRange.isOwn = false := by
  decide +kernel

end Cdngine
