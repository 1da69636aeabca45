import Cdngine.ArchivePaths
import Cdngine.ByteBuffer

/-!
# Zip Archives

Writing and reading the zip archives of the split-history adapters. The writer streams a local
header and the deflated data of every entry, keeps the central directory beside them, and ends
with the record of the end. The reader looks for that record from the back and follows the counts
and offsets from there.

## Main results

* `findZipEndOfCentralDirectory_append`: the search from the back stops at a record without a
  comment at once, whatever stands before it.
* `readZipEntry_of_holdsAt`: one entry of the central directory, with its local record.
* `unpackZipFrom_of_holdsAt`: the central directory that was written gives the entries back.
-/

open ByteBuffer

namespace Cdngine

/-! ### Signatures and checksums -/

/-- `zipSignature`. -/
def zipSignature : Nat := 0x04034b50

/-- `zipCentralDirectorySignature`. -/
def zipCentralDirectorySignature : Nat := 0x02014b50

/-- `zipEndOfCentralDirectorySignature`. -/
def zipEndOfCentralDirectorySignature : Nat := 0x06054b50

/-- One bit of an entry of the table. -/
def crc32Step (value : UInt32) : UInt32 :=
  if value &&& 1 ≠ 0 then (0xedb88320 : UInt32) ^^^ (value >>> 1) else value >>> 1

/-- An entry of `crc32Table`. -/
def crc32Table (index : UInt32) : UInt32 := crc32Step^[8] index

/-- `crc32`. -/
def crc32 (buffer : List UInt8) : UInt32 :=
  buffer.foldl (fun crc byte => crc32Table ((crc ^^^ byte.toUInt32) &&& 0xff) ^^^ (crc >>> 8))
    0xffffffff ^^^ 0xffffffff

/-- The check value of the code. -/
example : crc32 [0x31, 0x32, 0x33, 0x34, 0x35, 0x36, 0x37, 0x38, 0x39] = 0xcbf43926 := by
  decide +kernel

/-! ### Reading -/

/-- `buffer.readUInt16LE(offset)` and `buffer.readUInt32LE(offset)`. -/
def readUIntLE (buffer : List UInt8) (offset width : Nat) : Except SplitArtifactError Nat :=
  match readLE buffer offset width with
  | some value => .ok value
  | none => .error .outOfRange

/-- The loop of `findZipEndOfCentralDirectory`, from an offset down. -/
def searchEndOfCentralDirectory (buffer : List UInt8) (minOffset : Nat) :
    (offset : Nat) → Option Nat
  | 0 =>
      if minOffset = 0 ∧ readLE buffer 0 4 = some zipEndOfCentralDirectorySignature then some 0
      else none
  | offset + 1 =>
      if offset + 1 < minOffset then none
      else if readLE buffer (offset + 1) 4 = some zipEndOfCentralDirectorySignature then
        some (offset + 1)
      else searchEndOfCentralDirectory buffer minOffset offset

/-- `findZipEndOfCentralDirectory`. -/
def findZipEndOfCentralDirectory (buffer : List UInt8) : Option Nat :=
  if buffer.length < 22 then none
  else searchEndOfCentralDirectory buffer (buffer.length - 65557) (buffer.length - 22)

/-- One turn of the loop of `unpackZip`, at the entry of the central directory at `offset`: the
entry that it adds, and where the next one starts. -/
def readZipEntry (rt : ArchiveRuntime) (buffer : List UInt8) (offset : Nat) :
    Except SplitArtifactError (Option SplitArtifactEntry × Nat) := do
  let signature ← readUIntLE buffer offset 4
  if signature ≠ zipCentralDirectorySignature then
    .error (.archiveSafety (codeUnits "Invalid zip central directory entry."))
  else
    let flags ← readUIntLE buffer (offset + 8) 2
    let method ← readUIntLE buffer (offset + 10) 2
    let crc ← readUIntLE buffer (offset + 16) 4
    let compressedSize ← readUIntLE buffer (offset + 20) 4
    let uncompressedSize ← readUIntLE buffer (offset + 24) 4
    let nameLength ← readUIntLE buffer (offset + 28) 2
    let extraLength ← readUIntLE buffer (offset + 30) 2
    let commentLength ← readUIntLE buffer (offset + 32) 2
    let localHeaderOffset ← readUIntLE buffer (offset + 42) 4
    let rawName := Utf8.decode (slice buffer (offset + 46) nameLength)
    let logicalPath ← normalizeArchivePath rawName
    let next := offset + (46 + nameLength + extraLength + commentLength)
    if flags % 2 ≠ 0 then
      .error (.archiveSafety (codeUnits "Encrypted zip entry " ++ inQuotes logicalPath ++
        codeUnits " is not supported."))
    else if rawName.getLast? = some slash then .ok (none, next)
    else
      let localSignature ← readUIntLE buffer localHeaderOffset 4
      if localSignature ≠ zipSignature then
        .error (.archiveSafety (codeUnits "Invalid local header for zip entry " ++
          inQuotes logicalPath ++ codeUnits "."))
      else
        let localNameLength ← readUIntLE buffer (localHeaderOffset + 26) 2
        let localExtraLength ← readUIntLE buffer (localHeaderOffset + 28) 2
        let dataStart := localHeaderOffset + 30 + localNameLength + localExtraLength
        let compressed := slice buffer dataStart compressedSize
        let data ←
          if method = 0 then .ok compressed
          else if method = 8 then
            match rt.inflateRawSync compressed with
            | some data => .ok data
            | none => .error .invalidCompressedData
          else
            .error (.archiveSafety (codeUnits "Unsupported zip compression method " ++
              codeUnits (toString method) ++ codeUnits " for " ++ inQuotes logicalPath ++
              codeUnits "."))
        if data.length ≠ uncompressedSize ∨ (crc32 data).toNat ≠ crc then
          .error (.archiveSafety (codeUnits "Zip entry " ++ inQuotes logicalPath ++
            codeUnits " failed size or CRC validation."))
        else .ok (some ⟨data, logicalPath, none, none⟩, next)

/-- The loop of `unpackZip`. -/
def unpackZipFrom (rt : ArchiveRuntime) (buffer : List UInt8) :
    (entryCount offset : Nat) → Except SplitArtifactError (List SplitArtifactEntry)
  | 0, _ => .ok []
  | entryCount + 1, offset => do
      let (entry, next) ← readZipEntry rt buffer offset
      let rest ← unpackZipFrom rt buffer entryCount next
      .ok (entry.toList ++ rest)

/-- `unpackZip`. -/
def unpackZip (rt : ArchiveRuntime) (buffer : List UInt8) (limits : SplitArtifactLimits) :
    Except SplitArtifactError (List SplitArtifactEntry) :=
  match findZipEndOfCentralDirectory buffer with
  | none => .error (.archiveSafety (codeUnits "Zip end of central directory was not found."))
  | some eocdOffset => do
      let entryCount ← readUIntLE buffer (eocdOffset + 10) 2
      let centralDirectoryOffset ← readUIntLE buffer (eocdOffset + 16) 4
      let entries ← unpackZipFrom rt buffer entryCount centralDirectoryOffset
      validateEntries rt.toRuntime entries limits false

/-! ### Writing -/

/-- `dosDateTime`, the date and the time; the parts of an invalid date are zero. -/
def dosDateTime : Option JsDate → Nat × Nat
  | some .invalid => (0, 0)
  | some (.valid t) => ofInstant t
  | none => ofInstant 315532800000
where
  /-- The date and the time of an instant. -/
  ofInstant (t : Instant) : Nat × Nat :=
    let (year, month, day) := civilFromDays (t.fdiv 86400000)
    let ms := (t.fmod 86400000).toNat
    (((max 1980 year - 1980).toNat <<< 9) ||| (month.toNat <<< 5) ||| day.toNat,
      (ms / 3600000 <<< 11) ||| (ms / 60000 % 60 <<< 5) ||| (ms / 1000 % 60 / 2))

/-- The numbers of a local header. -/
def localFields (date time crc compressedLength dataLength nameLength : Nat) : List Field :=
  [⟨0, 4, zipSignature⟩, ⟨4, 2, 20⟩, ⟨6, 2, 0⟩, ⟨8, 2, 8⟩, ⟨10, 2, time⟩, ⟨12, 2, date⟩,
    ⟨14, 4, crc⟩, ⟨18, 4, compressedLength⟩, ⟨22, 4, dataLength⟩, ⟨26, 2, nameLength⟩, ⟨28, 2, 0⟩]

/-- The numbers of an entry of the central directory. -/
def centralFields (date time crc compressedLength dataLength nameLength offset : Nat) :
    List Field :=
  [⟨0, 4, zipCentralDirectorySignature⟩, ⟨4, 2, 20⟩, ⟨6, 2, 20⟩, ⟨8, 2, 0⟩, ⟨10, 2, 8⟩,
    ⟨12, 2, time⟩, ⟨14, 2, date⟩, ⟨16, 4, crc⟩, ⟨20, 4, compressedLength⟩, ⟨24, 4, dataLength⟩,
    ⟨28, 2, nameLength⟩, ⟨30, 2, 0⟩, ⟨32, 2, 0⟩, ⟨34, 2, 0⟩, ⟨36, 2, 0⟩, ⟨38, 4, 0⟩,
    ⟨42, 4, offset⟩]

/-- The numbers of the end record. -/
def endFields (entryCount centralLength offset : Nat) : List Field :=
  [⟨0, 4, zipEndOfCentralDirectorySignature⟩, ⟨4, 2, 0⟩, ⟨6, 2, 0⟩, ⟨8, 2, entryCount⟩,
    ⟨10, 2, entryCount⟩, ⟨12, 4, centralLength⟩, ⟨16, 4, offset⟩, ⟨20, 2, 0⟩]

/-- A buffer of numbers and a tail; a number that does not fit is a `RangeError`. -/
def writeRecord (size : Nat) (fields : List Field) (tail : List UInt8) :
    Except SplitArtifactError (List UInt8) :=
  match record size fields tail with
  | some buffer => .ok buffer
  | none => .error .outOfRange

/-- One turn of the loop of `packZip`: what it adds to the local parts and to the central
directory. -/
def packZipEntry (rt : ArchiveRuntime) (entry : SplitArtifactEntry) (offset : Nat) :
    Except SplitArtifactError (List UInt8 × List UInt8) := do
  let logicalPath ← normalizeArchivePath entry.logicalPath
  let name := Utf8.encode logicalPath
  let compressed := rt.deflateRawSync entry.data
  let crc := (crc32 entry.data).toNat
  let (date, time) := dosDateTime entry.mtime
  let localHeader ← writeRecord 30
    (localFields date time crc compressed.length entry.data.length name.length) name
  let central ← writeRecord 46
    (centralFields date time crc compressed.length entry.data.length name.length offset) name
  .ok (localHeader ++ compressed, central)

/-- The loop of `packZip`: the local parts, the central directory, and the last offset. -/
def packZipFrom (rt : ArchiveRuntime) : (entries : List SplitArtifactEntry) → (offset : Nat) →
    Except SplitArtifactError (List UInt8 × List UInt8 × Nat)
  | [], offset => .ok ([], [], offset)
  | entry :: rest, offset => do
      let (localPart, central) ← packZipEntry rt entry offset
      let (localParts, centralParts, last) ← packZipFrom rt rest (offset + localPart.length)
      .ok (localPart ++ localParts, central ++ centralParts, last)

/-- `packZip`. -/
def packZip (rt : ArchiveRuntime) (entries : List SplitArtifactEntry) :
    Except SplitArtifactError (List UInt8) := do
  let (localParts, centralDirectory, offset) ← packZipFrom rt entries 0
  let eocd ← writeRecord 22 (endFields entries.length centralDirectory.length offset) []
  .ok (localParts ++ centralDirectory ++ eocd)

/-! ### Records are read back -/

theorem writeRecord_eq_ok {size : Nat} {fields : List Field} {tail r : List UInt8}
    (h : writeRecord size fields tail = .ok r) : record size fields tail = some r := by
  rw [writeRecord] at h
  cases hrecord : record size fields tail with
  | none => rw [hrecord] at h; cases h
  | some buffer => rw [hrecord] at h; exact congrArg some (Except.ok.inj h)

section Layouts

variable {date time crc compressedLength dataLength nameLength offset entryCount : Nat}

theorem layout_localFields :
    Layout 30 (((localFields date time crc compressedLength dataLength nameLength).map
      Field.toSlot).map Slot.span) := by
  change Layout 30 [(0, 4), (4, 2), (6, 2), (8, 2), (10, 2), (12, 2), (14, 4), (18, 4), (22, 4),
    (26, 2), (28, 2)]
  decide

theorem layout_centralFields :
    Layout 46 (((centralFields date time crc compressedLength dataLength nameLength offset).map
      Field.toSlot).map Slot.span) := by
  change Layout 46 [(0, 4), (4, 2), (6, 2), (8, 2), (10, 2), (12, 2), (14, 2), (16, 4), (20, 4),
    (24, 4), (28, 2), (30, 2), (32, 2), (34, 2), (36, 2), (38, 4), (42, 4)]
  decide

theorem layout_endFields :
    Layout 22 (((endFields entryCount dataLength offset).map Field.toSlot).map Slot.span) := by
  change Layout 22 [(0, 4), (4, 2), (6, 2), (8, 2), (10, 2), (12, 4), (16, 4), (20, 2)]
  decide

end Layouts

/-- A number that was written is what the reader gets. -/
theorem readUIntLE_record {b r tail : List UInt8} {size offset : Nat} {fields : List Field}
    (h : record size fields tail = some r)
    (hlayout : Layout size ((fields.map Field.toSlot).map Slot.span)) (hat : HoldsAt b offset r)
    {o width value : Nat} (hf : ⟨o, width, value⟩ ∈ fields) (hpos : 0 < width) :
    readUIntLE b (offset + o) width = .ok value := by
  rw [readUIntLE, readLE_record h hlayout hat hf hpos]

/-- What packing an entry takes. -/
theorem packZipEntry_eq_ok {rt : ArchiveRuntime} {entry : SplitArtifactEntry} {offset : Nat}
    {localPart central : List UInt8} (hsafe : SafeArchivePath entry.logicalPath)
    (h : packZipEntry rt entry offset = .ok (localPart, central)) :
    ∃ date time localHeader,
      record 30 (localFields date time (crc32 entry.data).toNat
        (rt.deflateRawSync entry.data).length entry.data.length
        (Utf8.encode entry.logicalPath).length) (Utf8.encode entry.logicalPath) =
          some localHeader ∧
      localPart = localHeader ++ rt.deflateRawSync entry.data ∧
      record 46 (centralFields date time (crc32 entry.data).toNat
        (rt.deflateRawSync entry.data).length entry.data.length
        (Utf8.encode entry.logicalPath).length offset) (Utf8.encode entry.logicalPath) =
          some central := by
  rw [packZipEntry, hsafe.normalizeArchivePath_eq] at h
  obtain ⟨path, hpath, h⟩ := bind_eq_ok.mp h
  obtain rfl := Except.ok.inj hpath
  obtain ⟨localHeader, hlocal, h⟩ := bind_eq_ok.mp h
  obtain ⟨central', hcentral, h⟩ := bind_eq_ok.mp h
  obtain ⟨hlocalPart, rfl⟩ := Prod.mk.inj (Except.ok.inj h)
  exact ⟨_, _, localHeader, writeRecord_eq_ok hlocal, hlocalPart.symm, writeRecord_eq_ok hcentral⟩

/-- What a zip archive gives back for an entry: its path and its data. -/
def zipRestored (entry : SplitArtifactEntry) : SplitArtifactEntry :=
  { entry with mode := none, mtime := none }

/-- **One entry is read back** from a buffer that holds its local part and its entry of the
central directory. -/
theorem readZipEntry_of_holdsAt {rt : ArchiveRuntime} {buffer localPart central : List UInt8}
    {entry : SplitArtifactEntry} {localOffset offset : Nat}
    (hinflate : ∀ data, rt.inflateRawSync (rt.deflateRawSync data) = some data)
    (hsafe : SafeArchivePath entry.logicalPath) (hwell : Utf8.WellFormed entry.logicalPath)
    (hpack : packZipEntry rt entry localOffset = .ok (localPart, central))
    (hlocal : HoldsAt buffer localOffset localPart) (hcentral : HoldsAt buffer offset central) :
    readZipEntry rt buffer offset = .ok (some (zipRestored entry), offset + central.length) := by
  obtain ⟨date, time, localHeader, hlocalRecord, hlocalPart, hcentralRecord⟩ :=
    packZipEntry_eq_ok hsafe hpack
  rw [hlocalPart, holdsAt_append] at hlocal
  obtain ⟨hheader, hdata⟩ := hlocal
  have hnext := length_record hcentralRecord layout_centralFields
  rw [length_record hlocalRecord layout_localFields] at hdata
  -- the central directory
  have hsignature : readUIntLE buffer offset 4 = .ok zipCentralDirectorySignature :=
    readUIntLE_record (o := 0) hcentralRecord layout_centralFields hcentral
      (by simp [centralFields]) (by decide)
  have hflags : readUIntLE buffer (offset + 8) 2 = .ok 0 :=
    readUIntLE_record hcentralRecord layout_centralFields hcentral (by simp [centralFields])
      (by decide)
  have hmethod : readUIntLE buffer (offset + 10) 2 = .ok 8 :=
    readUIntLE_record hcentralRecord layout_centralFields hcentral (by simp [centralFields])
      (by decide)
  have hcrc : readUIntLE buffer (offset + 16) 4 = .ok (crc32 entry.data).toNat :=
    readUIntLE_record hcentralRecord layout_centralFields hcentral (by simp [centralFields])
      (by decide)
  have hcompressed :
      readUIntLE buffer (offset + 20) 4 = .ok (rt.deflateRawSync entry.data).length :=
    readUIntLE_record hcentralRecord layout_centralFields hcentral (by simp [centralFields])
      (by decide)
  have hlength : readUIntLE buffer (offset + 24) 4 = .ok entry.data.length :=
    readUIntLE_record hcentralRecord layout_centralFields hcentral (by simp [centralFields])
      (by decide)
  have hnameLength :
      readUIntLE buffer (offset + 28) 2 = .ok (Utf8.encode entry.logicalPath).length :=
    readUIntLE_record hcentralRecord layout_centralFields hcentral (by simp [centralFields])
      (by decide)
  have hextra : readUIntLE buffer (offset + 30) 2 = .ok 0 :=
    readUIntLE_record hcentralRecord layout_centralFields hcentral (by simp [centralFields])
      (by decide)
  have hcomment : readUIntLE buffer (offset + 32) 2 = .ok 0 :=
    readUIntLE_record hcentralRecord layout_centralFields hcentral (by simp [centralFields])
      (by decide)
  have hlocalOffset : readUIntLE buffer (offset + 42) 4 = .ok localOffset :=
    readUIntLE_record hcentralRecord layout_centralFields hcentral (by simp [centralFields])
      (by decide)
  have hname : Utf8.decode (slice buffer (offset + 46) (Utf8.encode entry.logicalPath).length) =
      entry.logicalPath := by
    rw [slice_record hcentralRecord layout_centralFields hcentral, Utf8.decode_encode hwell]
  -- the local record
  have hlocalSignature : readUIntLE buffer localOffset 4 = .ok zipSignature :=
    readUIntLE_record (o := 0) hlocalRecord layout_localFields hheader (by simp [localFields])
      (by decide)
  have hlocalName :
      readUIntLE buffer (localOffset + 26) 2 = .ok (Utf8.encode entry.logicalPath).length :=
    readUIntLE_record hlocalRecord layout_localFields hheader (by simp [localFields]) (by decide)
  have hlocalExtra : readUIntLE buffer (localOffset + 28) 2 = .ok 0 :=
    readUIntLE_record hlocalRecord layout_localFields hheader (by simp [localFields]) (by decide)
  have hslice : slice buffer (localOffset + 30 + (Utf8.encode entry.logicalPath).length + 0)
      (rt.deflateRawSync entry.data).length = rt.deflateRawSync entry.data := by
    rw [Nat.add_zero, Nat.add_assoc]
    exact slice_of_holdsAt_self hdata
  have hlast : entry.logicalPath.getLast? ≠ some slash := by
    rw [List.getLast?_eq_some_getLast hsafe.ne_nil]
    exact fun heq => Strip.getLast_ne_of_splitOn hsafe.nil_notMem hsafe.ne_nil (Option.some.inj heq)
  simp only [readZipEntry, hsignature, hflags, hmethod, hcrc, hcompressed, hlength, hnameLength,
    hextra, hcomment, hlocalOffset, hname, hsafe.normalizeArchivePath_eq, hlocalSignature,
    hlocalName, hlocalExtra, hslice, hinflate, hlast, bind, Except.bind, ne_eq, not_true_eq_false,
    if_false, Nat.zero_mod, OfNat.ofNat_ne_zero, if_true, or_self]
  rw [hnext]
  rfl

/-- The local parts and the central directory of a list, from those of its parts. -/
theorem packZipFrom_cons_eq_ok {rt : ArchiveRuntime} {entry : SplitArtifactEntry}
    {rest : List SplitArtifactEntry} {offset last : Nat} {localParts centralParts : List UInt8}
    (h : packZipFrom rt (entry :: rest) offset = .ok (localParts, centralParts, last)) :
    ∃ localPart central localRest centralRest,
      packZipEntry rt entry offset = .ok (localPart, central) ∧
      packZipFrom rt rest (offset + localPart.length) = .ok (localRest, centralRest, last) ∧
      localParts = localPart ++ localRest ∧ centralParts = central ++ centralRest := by
  rw [packZipFrom] at h
  obtain ⟨⟨localPart, central⟩, hentry, h⟩ := bind_eq_ok.mp h
  obtain ⟨⟨localRest, centralRest, last'⟩, hrest, h⟩ := bind_eq_ok.mp h
  obtain ⟨hlocal, hpair⟩ := Prod.mk.inj (Except.ok.inj h)
  obtain ⟨hcentral, rfl⟩ := Prod.mk.inj hpair
  exact ⟨localPart, central, localRest, centralRest, hentry, hrest, hlocal.symm, hcentral.symm⟩

/-- The last offset is behind the local parts. -/
theorem packZipFrom_last {rt : ArchiveRuntime} {entries : List SplitArtifactEntry}
    {offset last : Nat} {localParts centralParts : List UInt8}
    (h : packZipFrom rt entries offset = .ok (localParts, centralParts, last)) :
    last = offset + localParts.length := by
  induction entries generalizing offset localParts centralParts with
  | nil =>
      obtain ⟨rfl, hpair⟩ := Prod.mk.inj (Except.ok.inj h)
      exact (Prod.mk.inj hpair).2.symm
  | cons entry rest ih =>
      obtain ⟨localPart, central, localRest, centralRest, -, hrest, rfl, -⟩ :=
        packZipFrom_cons_eq_ok h
      rw [ih hrest, List.length_append, Nat.add_assoc]

/-- **The entries are read back** from a buffer that holds their local parts and their central
directory. -/
theorem unpackZipFrom_of_holdsAt {rt : ArchiveRuntime} {buffer localParts centralParts : List UInt8}
    {entries : List SplitArtifactEntry} {localOffset last offset : Nat}
    (hinflate : ∀ data, rt.inflateRawSync (rt.deflateRawSync data) = some data)
    (hentries : ∀ entry ∈ entries,
      SafeArchivePath entry.logicalPath ∧ Utf8.WellFormed entry.logicalPath)
    (hpack : packZipFrom rt entries localOffset = .ok (localParts, centralParts, last))
    (hlocal : HoldsAt buffer localOffset localParts)
    (hcentral : HoldsAt buffer offset centralParts) :
    unpackZipFrom rt buffer entries.length offset = .ok (entries.map zipRestored) := by
  induction entries generalizing localOffset offset localParts centralParts with
  | nil => rfl
  | cons entry rest ih =>
      obtain ⟨localPart, central, localRest, centralRest, hentry, hrest, rfl, rfl⟩ :=
        packZipFrom_cons_eq_ok hpack
      obtain ⟨hlocalPart, hlocalRest⟩ := holdsAt_append.mp hlocal
      obtain ⟨hcentralPart, hcentralRest⟩ := holdsAt_append.mp hcentral
      obtain ⟨hsafe, hwell⟩ := hentries entry List.mem_cons_self
      have hread := readZipEntry_of_holdsAt hinflate hsafe hwell hentry hlocalPart hcentralPart
      rw [List.length_cons, unpackZipFrom, hread]
      simp only [bind, Except.bind]
      rw [ih (fun e he => hentries e (List.mem_cons_of_mem entry he)) hrest hlocalRest hcentralRest]
      rfl

/-! ### The end record -/

theorem searchEndOfCentralDirectory_of_readLE {buffer : List UInt8} {minOffset offset : Nat}
    (hmin : minOffset ≤ offset)
    (h : readLE buffer offset 4 = some zipEndOfCentralDirectorySignature) :
    searchEndOfCentralDirectory buffer minOffset offset = some offset := by
  cases offset with
  | zero => rw [searchEndOfCentralDirectory, if_pos ⟨Nat.le_zero.mp hmin, h⟩]
  | succ offset => rw [searchEndOfCentralDirectory, if_neg (by omega), if_pos h]

/-- **The search from the back** stops at once at an end record without a comment, whatever stands
before it. -/
theorem findZipEndOfCentralDirectory_append {front eocd : List UInt8} {fields : List Field}
    (hrecord : record 22 fields [] = some eocd)
    (hlayout : Layout 22 ((fields.map Field.toSlot).map Slot.span))
    (hsignature : ⟨0, 4, zipEndOfCentralDirectorySignature⟩ ∈ fields) :
    findZipEndOfCentralDirectory (front ++ eocd) = some front.length := by
  have hlength := length_record hrecord hlayout
  rw [List.length_nil, Nat.add_zero] at hlength
  have hat : HoldsAt (front ++ eocd) front.length eocd := holdsAt_length front eocd
  have hread : readLE (front ++ eocd) front.length 4 = some zipEndOfCentralDirectorySignature :=
    readLE_record hrecord hlayout hat hsignature (by decide)
  have hend : (front ++ eocd).length = front.length + 22 := by
    rw [List.length_append, hlength]
  rw [findZipEndOfCentralDirectory, hend, if_neg (by omega), Nat.add_sub_cancel]
  exact searchEndOfCentralDirectory_of_readLE (by omega) hread

/-- **The entries of a packed archive** are read back, in order. -/
theorem unpackZip_packZip {rt : ArchiveRuntime} {entries : List SplitArtifactEntry}
    {buffer : List UInt8} {limits : SplitArtifactLimits}
    (hinflate : ∀ data, rt.inflateRawSync (rt.deflateRawSync data) = some data)
    (hentries : ∀ entry ∈ entries,
      SafeArchivePath entry.logicalPath ∧ Utf8.WellFormed entry.logicalPath)
    (hpack : packZip rt entries = .ok buffer) :
    (findZipEndOfCentralDirectory buffer).isSome = true ∧
      unpackZip rt buffer limits =
        validateEntries rt.toRuntime (entries.map zipRestored) limits false := by
  rw [packZip] at hpack
  obtain ⟨⟨localParts, centralDirectory, last⟩, hfrom, hpack⟩ := bind_eq_ok.mp hpack
  obtain ⟨eocd, hend, hpack⟩ := bind_eq_ok.mp hpack
  obtain rfl := Except.ok.inj hpack
  have hlast := packZipFrom_last hfrom
  rw [Nat.zero_add] at hlast
  have hrecord := writeRecord_eq_ok hend
  have hfind := @findZipEndOfCentralDirectory_append (localParts ++ centralDirectory) _ _ hrecord
    layout_endFields (by simp [endFields])
  generalize hbuffer : localParts ++ centralDirectory ++ eocd = buffer at hfind ⊢
  have hat : HoldsAt buffer (localParts ++ centralDirectory).length eocd :=
    hbuffer ▸ holdsAt_length (localParts ++ centralDirectory) eocd
  have hlocal : HoldsAt buffer 0 localParts := by
    rw [HoldsAt, List.drop_zero, ← hbuffer, List.append_assoc]
    exact List.prefix_append _ _
  have hcentral : HoldsAt buffer last centralDirectory := by
    rw [HoldsAt, hlast, ← hbuffer, List.append_assoc, List.drop_left]
    exact List.prefix_append _ _
  have hcount : readUIntLE buffer ((localParts ++ centralDirectory).length + 10) 2 =
      .ok entries.length :=
    readUIntLE_record hrecord layout_endFields hat (by simp [endFields]) (by decide)
  have hoffset : readUIntLE buffer ((localParts ++ centralDirectory).length + 16) 4 = .ok last :=
    readUIntLE_record hrecord layout_endFields hat (by simp [endFields]) (by decide)
  refine ⟨by rw [hfind]; rfl, ?_⟩
  simp only [unpackZip, hfind, hcount, hoffset, bind, Except.bind,
    unpackZipFrom_of_holdsAt hinflate hentries hfrom hlocal hcentral]

end Cdngine
