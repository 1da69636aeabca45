import Cdngine.JsonReadability
import Cdngine.SourceCopies
import Cdngine.XetEvidence

/-!
# Payloads of Another Process

What `parseXetSnapshotEvidenceCommandPayload` lets through. A byte count may be a number, a text
or a big integer; only as a number is it checked to be a non-negative integer, and the two chunk
counts are not checked at all. An accepted payload always survives the conversion back.

## Main results

* `bigIntOfText_toString_int`: every integer is read back from its decimal text.
* `parse_toCommandPayload`: an accepted payload gives the same evidence once converted back.
* `payloadHandled_iff`: an accepted payload gives sound evidence exactly when the quantities that
  nothing checks are sound.
-/

namespace Cdngine

/-! ### Integers and their texts -/

/-- The white space around a sign and digits. -/
theorem trim_neg_digits {cs : List Char} (hne : cs ≠ []) (h : ∀ c ∈ cs, c.isDigit = true) :
    (trim (String.ofList ('-' :: cs))).toList = '-' :: cs := by
  rw [trim_toList, String.toList_ofList]
  refine Strip.strip_eq_self ⟨?_, ?_⟩
  · rintro c ⟨⟩
    decide
  · intro c hc
    rw [List.getLast?_cons_of_ne_nil hne] at hc
    exact isStrWhiteSpace_of_isDigit (h c (List.mem_of_getLast? hc))

theorem toString_negSucc (n : Nat) :
    toString (Int.negSucc n) = String.ofList ('-' :: Nat.toDigits 10 (n + 1)) := by
  apply String.toList_inj.mp
  rw [toList_toString_negSucc, String.toList_ofList]

/-- **Every integer is read back from its decimal text.** -/
theorem bigIntOfText_toString_int (n : Int) : bigIntOfText (toString n) = some n := by
  cases n with
  | ofNat n => exact bigIntOfText_toString n
  | negSucc n =>
      have hdigit : ∀ c ∈ Nat.toDigits 10 (n + 1), c.isDigit = true := fun c hc =>
        Nat.isDigit_of_mem_toDigits (by decide) (by decide) hc
      rw [bigIntOfText, toString_negSucc, trim_neg_digits Nat.toDigits_ne_nil hdigit]
      simp only [readDigits_toDigits]
      rfl

/-- A decimal text is read as its integer, with or without a sign. -/
theorem parseOptionalBigInt_toString_int (n : Int) (fieldName : String) :
    parseOptionalBigInt (some (.string (toString n))) fieldName = .ok (some n) := by
  have hne : (toString n).isEmpty = false := by
    refine Bool.eq_false_iff.mpr fun h => ?_
    have hread := bigIntOfText_toString_int n
    cases n with
    | ofNat n => exact Nat.repr_ne_empty (String.isEmpty_iff.mp h)
    | negSucc n =>
        have hnil := congrArg String.toList (String.isEmpty_iff.mp h)
        rw [toString_negSucc, String.toList_ofList] at hnil
        cases hnil
  simp only [parseOptionalBigInt, hne, Bool.false_eq_true, if_false, bigIntOfText_toString_int]

/-- A byte count that was read is read back from its text. -/
theorem parseOptionalBigInt_map_toString (n : Option Int) (fieldName : String) :
    parseOptionalBigInt (n.map fun n => .string (toString n)) fieldName = .ok n := by
  cases n with
  | none => rfl
  | some n => exact parseOptionalBigInt_toString_int n fieldName

/-! ### The conversion back -/

theorem cloneNewDigests_cloneNewDigests (seen : List String) (digests : List ObjectChecksum) :
    cloneNewDigests seen (cloneNewDigests seen digests) = cloneNewDigests seen digests := by
  induction digests generalizing seen with
  | nil => rfl
  | cons digest digests ih =>
      by_cases hseen : digest.algorithm ++ ":" ++ digest.value ∈ seen
      · simp only [cloneNewDigests, if_pos hseen, ih]
      · simp only [cloneNewDigests, if_neg hseen, ih]

/-- What an accepted payload gives. -/
theorem parse_eq_ok_iff {payload : XetSnapshotEvidenceCommandPayload}
    {evidence : XetSnapshotEvidence} :
    parseXetSnapshotEvidenceCommandPayload payload = .ok evidence ↔
      payload.fileId ≠ "" ∧ payload.terms ≠ [] ∧ (∀ term ∈ payload.terms, term.WellFormed) ∧
        ∃ logicalByteLength storedByteLength,
          parseOptionalBigInt payload.logicalByteLength "logicalByteLength" =
            .ok logicalByteLength ∧
          parseOptionalBigInt payload.storedByteLength "storedByteLength" = .ok storedByteLength ∧
          evidence =
            { fileId := payload.fileId
              terms := payload.terms
              shardIds := payload.shardIds
              uploadedXorbHashes := payload.uploadedXorbHashes
              deduplicatedXorbHashes := payload.deduplicatedXorbHashes
              logicalPath := present payload.logicalPath
              digests := payload.digests.map fun digests => cloneDigests (some digests)
              logicalByteLength
              storedByteLength
              chunkCount := payload.chunkCount
              reusedChunkCount := payload.reusedChunkCount
              fetchEndpoint := present payload.fetchEndpoint } := by
  rw [parseXetSnapshotEvidenceCommandPayload]
  by_cases hfileId : payload.fileId = ""
  · rw [if_pos (String.isEmpty_iff.mpr hfileId)]
    exact ⟨(fun h => by cases h), fun h => absurd hfileId h.1⟩
  · rw [if_neg (mt String.isEmpty_iff.mp hfileId)]
    simp only [bind_eq_ok, validateTerms_eq_ok_iff, Except.ok.injEq]
    constructor
    · rintro ⟨logical, hlogical, stored, hstored, terms, ⟨hne, hwell, rfl⟩, rfl⟩
      exact ⟨hfileId, hne, hwell, logical, stored, hlogical, hstored, rfl⟩
    · rintro ⟨-, hne, hwell, logical, stored, hlogical, hstored, rfl⟩
      exact ⟨logical, hlogical, stored, hstored, payload.terms, ⟨hne, hwell, rfl⟩, rfl⟩

/-- **An accepted payload gives the same evidence once converted back.** -/
theorem parse_toCommandPayload {payload : XetSnapshotEvidenceCommandPayload}
    {evidence : XetSnapshotEvidence}
    (h : parseXetSnapshotEvidenceCommandPayload payload = .ok evidence) :
    parseXetSnapshotEvidenceCommandPayload (xetSnapshotEvidenceToCommandPayload evidence) =
      .ok evidence := by
  obtain ⟨hfileId, hne, hwell, logical, stored, -, -, rfl⟩ := parse_eq_ok_iff.mp h
  have hdigests : ∀ digests : Option (List ObjectChecksum),
      (digests.map fun digests => cloneDigests (some digests)).map
        (fun digests => cloneDigests (some digests)) =
      digests.map fun digests => cloneDigests (some digests) := by
    intro digests
    rw [Option.map_map]
    exact Option.map_congr fun digests _ => cloneNewDigests_cloneNewDigests [] digests
  refine parse_eq_ok_iff.mpr ⟨hfileId, hne, hwell, logical, stored,
    parseOptionalBigInt_map_toString logical _, parseOptionalBigInt_map_toString stored _, ?_⟩
  simp only [xetSnapshotEvidenceToCommandPayload, present_present, hdigests]

/-! ### Sound evidence -/

/-- A number is a **count**: a non-negative integer. -/
def JsNumber.IsCount (n : JsNumber) : Prop := ∃ k : Nat, n.integer? = some (k : Int)

/-- Chunk counts are **sound**: counts, and no more chunks are reused than there are. -/
structure CountsSound (chunkCount reusedChunkCount : Option JsNumber) : Prop where
  chunks : ∀ n ∈ chunkCount, n.IsCount
  reused : ∀ n ∈ reusedChunkCount, n.IsCount
  reused_le : ∀ reused ∈ reusedChunkCount, ∀ n ∈ chunkCount, reused.notAbove n = true

/-- What the evidence of a snapshot is expected to be. -/
structure XetSnapshotEvidence.Sound (evidence : XetSnapshotEvidence) : Prop where
  fileId : evidence.fileId ≠ ""
  terms_ne_nil : evidence.terms ≠ []
  terms : ∀ term ∈ evidence.terms, term.WellFormed
  logicalByteLength : ∀ n ∈ evidence.logicalByteLength, 0 ≤ n
  storedByteLength : ∀ n ∈ evidence.storedByteLength, 0 ≤ n
  counts : CountsSound evidence.chunkCount evidence.reusedChunkCount

/-- A payload is **handled** when it is rejected, or gives sound evidence that survives the
conversion back. -/
def PayloadHandled (payload : XetSnapshotEvidenceCommandPayload) : Prop :=
  ∀ evidence, parseXetSnapshotEvidenceCommandPayload payload = .ok evidence →
    evidence.Sound ∧
      parseXetSnapshotEvidenceCommandPayload (xetSnapshotEvidenceToCommandPayload evidence) =
        .ok evidence

/-- A byte count is not negative where nothing checks it: as a text or as a big integer. -/
def XetCommandBigInt.UncheckedSound : XetCommandBigInt → Prop
  | .string text => ∀ n, bigIntOfText text = some n → 0 ≤ n
  | .number _ => True
  | .bigint n => 0 ≤ n

/-- The parts of a payload that are checked: it names a file, its byte counts can be read, and
it has terms, all of them well formed. -/
structure XetSnapshotEvidenceCommandPayload.Checked
    (payload : XetSnapshotEvidenceCommandPayload) : Prop where
  fileId : payload.fileId ≠ ""
  terms_ne_nil : payload.terms ≠ []
  terms : ∀ term ∈ payload.terms, term.WellFormed
  logicalByteLength :
    (parseOptionalBigInt payload.logicalByteLength "logicalByteLength").isOk = true
  storedByteLength : (parseOptionalBigInt payload.storedByteLength "storedByteLength").isOk = true

/-- The quantities that nothing checks are sound. -/
structure XetSnapshotEvidenceCommandPayload.UncheckedSound
    (payload : XetSnapshotEvidenceCommandPayload) : Prop where
  logicalByteLength : ∀ length ∈ payload.logicalByteLength, length.UncheckedSound
  storedByteLength : ∀ length ∈ payload.storedByteLength, length.UncheckedSound
  counts : CountsSound payload.chunkCount payload.reusedChunkCount

/-- A byte count that is read is not negative exactly when it is not so where nothing checks
it. -/
theorem nonneg_of_parse_iff {length : Option XetCommandBigInt} {n : Option Int} {fieldName : String}
    (h : parseOptionalBigInt length fieldName = .ok n) :
    (∀ k ∈ n, 0 ≤ k) ↔ ∀ value ∈ length, value.UncheckedSound := by
  cases length with
  | none =>
      obtain rfl := Except.ok.inj h
      exact ⟨(fun _ _ hv => by cases hv), fun _ _ hk => by cases hk⟩
  | some value =>
      simp only [Option.mem_def, Option.some.injEq, forall_eq']
      cases value with
      | bigint k =>
          obtain rfl := Except.ok.inj h
          simp only [Option.some.injEq, forall_eq', XetCommandBigInt.UncheckedSound]
      | number number =>
          simp only [parseOptionalBigInt] at h
          cases hinteger : number.integer? with
          | none =>
              rw [hinteger] at h
              cases h
          | some k =>
              simp only [hinteger] at h
              split at h
              · cases h
              · rename_i hneg
                obtain rfl := Except.ok.inj h
                simp only [Option.some.injEq, forall_eq', XetCommandBigInt.UncheckedSound, iff_true]
                omega
      | string text =>
          simp only [parseOptionalBigInt] at h
          split at h
          · cases h
          · cases hread : bigIntOfText text with
            | none =>
                rw [hread] at h
                cases h
            | some k =>
                simp only [hread] at h
                obtain rfl := Except.ok.inj h
                simp only [Option.some.injEq, forall_eq', XetCommandBigInt.UncheckedSound, hread]

/-- **A payload is handled exactly when it fails a check or the quantities that nothing checks
are sound.** -/
theorem payloadHandled_iff (payload : XetSnapshotEvidenceCommandPayload) :
    PayloadHandled payload ↔ (payload.Checked → payload.UncheckedSound) := by
  constructor
  · intro h hchecked
    obtain ⟨logical, hlogical⟩ := exists_of_isOk hchecked.logicalByteLength
    obtain ⟨stored, hstored⟩ := exists_of_isOk hchecked.storedByteLength
    obtain ⟨hsound, -⟩ := h _ (parse_eq_ok_iff.mpr ⟨hchecked.fileId, hchecked.terms_ne_nil,
      hchecked.terms, logical, stored, hlogical, hstored, rfl⟩)
    exact
      { logicalByteLength := (nonneg_of_parse_iff hlogical).mp hsound.logicalByteLength
        storedByteLength := (nonneg_of_parse_iff hstored).mp hsound.storedByteLength
        counts := hsound.counts }
  · intro h evidence hparse
    refine ⟨?_, parse_toCommandPayload hparse⟩
    obtain ⟨hfileId, hne, hwell, logical, stored, hlogical, hstored, rfl⟩ :=
      parse_eq_ok_iff.mp hparse
    have hunchecked := h ⟨hfileId, hne, hwell, by rw [hlogical]; rfl, by rw [hstored]; rfl⟩
    exact
      { fileId := hfileId
        terms_ne_nil := hne
        terms := hwell
        logicalByteLength := (nonneg_of_parse_iff hlogical).mpr hunchecked.logicalByteLength
        storedByteLength := (nonneg_of_parse_iff hstored).mpr hunchecked.storedByteLength
        counts := hunchecked.counts }

/-- A payload whose stored byte length is negative, as a text, and that reuses more chunks than it
has. -/
def unsoundPayload : XetSnapshotEvidenceCommandPayload where
  fileId := "file"
  terms := [⟨"xorb", .ofNat 0, .ofNat 1⟩]
  storedByteLength := some (.string "-5")
  chunkCount := some (.ofNat 1)
  reusedChunkCount := some (.ofNat 2)

/-- It is accepted. -/
theorem unsound_payload_accepted : ¬ PayloadHandled unsoundPayload := by
  have hparse : parseXetSnapshotEvidenceCommandPayload unsoundPayload =
      .ok
        { fileId := "file"
          terms := [⟨"xorb", .ofNat 0, .ofNat 1⟩]
          storedByteLength := some (-5)
          chunkCount := some (.ofNat 1)
          reusedChunkCount := some (.ofNat 2) } := by decide +kernel
  intro h
  have hnonneg : (0 : Int) ≤ -5 := (h _ hparse).1.storedByteLength (-5) rfl
  omega

end Cdngine
