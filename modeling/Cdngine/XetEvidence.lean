import Cdngine.UploadSession

/-!
# The Evidence of a Xet Snapshot

What the snapshot command reports about a file, and how the storage package reads it:
`parseXetSnapshotEvidenceCommandPayload` checks a reported payload and turns its byte counts,
which travel as texts, into big integers, and `xetSnapshotEvidenceToCommandPayload` is the
payload that the restore command is sent.

## Main results

* `bigIntOfText_toString`: a count that travels as its decimal text is read back.
* `validateTerms_eq_ok_iff`: terms are accepted when there is one and each is well formed, and
  they are returned as they are.
* `parse_eq_ok_iff`: what an accepted payload says.
-/

namespace Cdngine

/-! ### Numbers -/

/-- The integer that a number is: `Number.isInteger(value)` with its value. -/
def JsNumber.integer? : JsNumber → Option Int
  | .finite q => if q.den = 1 then some q.num else none
  | .nan | .infinity _ => none

/-- A count, as a JavaScript number. -/
def JsNumber.ofNat (n : Nat) : JsNumber := .finite n

@[simp] theorem integer?_ofNat (n : Nat) : (JsNumber.ofNat n).integer? = some (n : Int) := rfl

/-- `left - right` is not positive: how a numeric comparison function orders two numbers. A
difference that is not a number counts as zero. -/
def JsNumber.notAbove : JsNumber → JsNumber → Bool
  | .finite q, .finite r => decide (q ≤ r)
  | .nan, _ | _, .nan => true
  | .infinity negative, .finite _ => negative
  | .finite _, .infinity negative => !negative
  | .infinity negative, .infinity negative' => negative || !negative'

@[simp] theorem notAbove_ofNat (n m : Nat) :
    (JsNumber.ofNat n).notAbove (JsNumber.ofNat m) = decide (n ≤ m) := by
  simp only [JsNumber.ofNat, JsNumber.notAbove, Rat.natCast_le_natCast]

/-! ### Big integers -/

/-- The value of a digit; no digit of any base has the value of another character. -/
def digitValue (c : Char) : Nat :=
  let n := c.toNat
  if c.isDigit then n - '0'.toNat
  else if 0x61 ≤ n ∧ n ≤ 0x66 then n - 0x57
  else if 0x41 ≤ n ∧ n ≤ 0x46 then n - 0x37
  else 36

/-- The number that digits of a base denote. -/
def readDigits (base : Nat) (cs : List Char) : Option Nat :=
  if !cs.isEmpty && cs.all fun c => decide (digitValue c < base) then
    some (cs.foldl (fun n c => base * n + digitValue c) 0)
  else none

/-- `BigInt(text)`: a decimal number with or without a sign, or a binary, octal or hexadecimal
one without; the empty text is zero. -/
def bigIntOfText (text : String) : Option Int :=
  match (trim text).toList with
  | [] => some 0
  | '-' :: digits => (readDigits 10 digits).map fun n => -(n : Int)
  | '+' :: digits => (readDigits 10 digits).map Int.ofNat
  | '0' :: 'x' :: digits | '0' :: 'X' :: digits => (readDigits 16 digits).map Int.ofNat
  | '0' :: 'o' :: digits | '0' :: 'O' :: digits => (readDigits 8 digits).map Int.ofNat
  | '0' :: 'b' :: digits | '0' :: 'B' :: digits => (readDigits 2 digits).map Int.ofNat
  | digits => (readDigits 10 digits).map Int.ofNat

theorem digitValue_of_isDigit {c : Char} (h : c.isDigit = true) :
    digitValue c = c.toNat - '0'.toNat := by
  rw [digitValue, if_pos h]

theorem digitValue_lt_ten {c : Char} (h : c.isDigit = true) : digitValue c < 10 := by
  rw [digitValue_of_isDigit h]
  simp only [Char.isDigit, Bool.and_eq_true, decide_eq_true_eq, UInt32.le_iff_toNat_le] at h
  have hupper : c.toNat ≤ 57 := h.2
  change c.toNat - 48 < 10
  omega

/-- The decimal digits of a number denote it. -/
theorem readDigits_toDigits (n : Nat) : readDigits 10 (Nat.toDigits 10 n) = some n := by
  have hdigit : ∀ c ∈ Nat.toDigits 10 n, c.isDigit = true := fun c hc =>
    Nat.isDigit_of_mem_toDigits (by decide) (by decide) hc
  have hfold : ∀ (cs : List Char) (init : Nat), (∀ c ∈ cs, c.isDigit = true) →
      cs.foldl (fun n c => 10 * n + digitValue c) init = Nat.ofDigitChars 10 cs init := by
    intro cs
    induction cs with
    | nil => exact fun _ _ => rfl
    | cons c cs ih =>
        intro init h
        rw [List.foldl_cons, digitValue_of_isDigit (h c List.mem_cons_self),
          ih _ fun c' hc' => h c' (List.mem_cons_of_mem _ hc'), Nat.ofDigitChars_cons]
  have hread : (!(Nat.toDigits 10 n).isEmpty &&
      (Nat.toDigits 10 n).all fun c => decide (digitValue c < 10)) = true := by
    rw [Bool.and_eq_true, Bool.not_eq_true', List.isEmpty_eq_false_iff, List.all_eq_true]
    exact ⟨Nat.toDigits_ne_nil, fun c hc => decide_eq_true (digitValue_lt_ten (hdigit c hc))⟩
  rw [readDigits, if_pos hread, hfold _ _ hdigit, Nat.ofDigitChars_ten_toDigits]

theorem isStrWhiteSpace_of_isDigit {c : Char} (h : c.isDigit = true) :
    isStrWhiteSpace c = false := by
  simp only [Char.isDigit, Bool.and_eq_true, decide_eq_true_eq, UInt32.le_iff_toNat_le] at h
  have hlower : 48 ≤ c.toNat := h.1
  have hupper : c.toNat ≤ 57 := h.2
  simp only [isStrWhiteSpace, List.contains_eq_mem, List.mem_cons, List.not_mem_nil, or_false,
    Bool.or_eq_false_iff, decide_eq_false_iff_not]
  omega

/-- A text of digits has no white space to trim. -/
theorem trim_digits {cs : List Char} (h : ∀ c ∈ cs, c.isDigit = true) :
    (trim (String.ofList cs)).toList = cs := by
  have hkeep : ∀ {ds : List Char}, (∀ c ∈ ds, c.isDigit = true) →
      ds.dropWhile isStrWhiteSpace = ds := by
    intro ds hds
    cases ds with
    | nil => rfl
    | cons c ds =>
        rw [List.dropWhile_cons, isStrWhiteSpace_of_isDigit (hds c List.mem_cons_self)]
        rfl
  have hreverse : ∀ c ∈ cs.reverse, c.isDigit = true := fun c hc => h c (List.mem_reverse.mp hc)
  rw [trim, String.toList_ofList, String.toList_ofList, hkeep h, hkeep hreverse,
    List.reverse_reverse]

/-- **A count is read back from its decimal text.** -/
theorem bigIntOfText_toString (n : Nat) : bigIntOfText (toString n) = some (n : Int) := by
  have hdigit : ∀ c ∈ Nat.toDigits 10 n, c.isDigit = true := fun c hc =>
    Nat.isDigit_of_mem_toDigits (by decide) (by decide) hc
  have hread := readDigits_toDigits n
  have hne : Nat.toDigits 10 n ≠ [] := Nat.toDigits_ne_nil
  rw [bigIntOfText, Nat.toString_eq_ofList_toDigits, trim_digits hdigit]
  generalize Nat.toDigits 10 n = cs at hdigit hread hne
  -- Neither a sign nor the letter of a base is a digit.
  have hletter : ∀ {c : Char}, c ∈ cs → c.isDigit = false → False := fun hc h => by
    rw [hdigit _ hc] at h
    cases h
  split
  · exact absurd rfl hne
  · exact (hletter List.mem_cons_self (by decide)).elim
  · exact (hletter List.mem_cons_self (by decide)).elim
  all_goals first
    | exact (hletter (List.mem_cons_of_mem _ List.mem_cons_self) (by decide)).elim
    | rw [hread, Option.map_some]; rfl

/-! ### Payloads and evidence -/

/-- `XetReconstructionTerm`. -/
structure XetReconstructionTerm where
  xorbHash : String
  startChunkIndex : JsNumber
  endChunkIndex : JsNumber
  deriving DecidableEq, Repr

/-- `XetCommandBigInt`. -/
inductive XetCommandBigInt
  | string (text : String)
  | number (n : JsNumber)
  | bigint (n : Int)
  deriving DecidableEq, Repr

/-- `XetSnapshotEvidenceCommandPayload`: what the snapshot command prints. -/
structure XetSnapshotEvidenceCommandPayload where
  fileId : String
  terms : List XetReconstructionTerm
  shardIds : Option (List String) := none
  uploadedXorbHashes : Option (List String) := none
  deduplicatedXorbHashes : Option (List String) := none
  logicalPath : Option String := none
  digests : Option (List ObjectChecksum) := none
  logicalByteLength : Option XetCommandBigInt := none
  storedByteLength : Option XetCommandBigInt := none
  chunkCount : Option JsNumber := none
  reusedChunkCount : Option JsNumber := none
  fetchEndpoint : Option String := none
  deriving DecidableEq, Repr

/-- `XetSnapshotEvidence`. -/
structure XetSnapshotEvidence where
  fileId : String
  terms : List XetReconstructionTerm
  shardIds : Option (List String) := none
  uploadedXorbHashes : Option (List String) := none
  deduplicatedXorbHashes : Option (List String) := none
  logicalPath : Option String := none
  digests : Option (List ObjectChecksum) := none
  logicalByteLength : Option Int := none
  storedByteLength : Option Int := none
  chunkCount : Option JsNumber := none
  reusedChunkCount : Option JsNumber := none
  fetchEndpoint : Option String := none
  deriving DecidableEq, Repr

/-- What the reading of a payload throws. -/
inductive XetEvidenceError
  | error (message : String)
  | syntaxError (message : String)
  deriving DecidableEq, Repr

/-- The digests that are not among those seen, each once. -/
def cloneNewDigests (seen : List String) : List ObjectChecksum → List ObjectChecksum
  | [] => []
  | digest :: digests =>
      let key := digest.algorithm ++ ":" ++ digest.value
      if key ∈ seen then cloneNewDigests seen digests
      else digest :: cloneNewDigests (key :: seen) digests

/-- `cloneDigests`. -/
def cloneDigests (digests : Option (List ObjectChecksum)) : List ObjectChecksum :=
  cloneNewDigests [] (digests.getD [])

/-- `parseOptionalBigInt`. -/
def parseOptionalBigInt (value : Option XetCommandBigInt) (fieldName : String) :
    Except XetEvidenceError (Option Int) :=
  match value with
  | none => .ok none
  | some (.bigint n) => .ok (some n)
  | some (.number n) =>
      match n.integer? with
      | some k =>
          if k < 0 then .error
            (.error ("Expected " ++ fieldName ++ " to be a non-negative integer."))
          else .ok (some k)
      | none => .error (.error ("Expected " ++ fieldName ++ " to be a non-negative integer."))
  | some (.string text) =>
      if text.isEmpty then
        .error (.error ("Expected " ++ fieldName ++ " to be a bigint-compatible value."))
      else
        match bigIntOfText text with
        | some n => .ok (some n)
        | none => .error (.syntaxError ("Cannot convert " ++ text ++ " to a BigInt"))

/-- The checks of one term. -/
def validateTerm (index : Nat) (term : XetReconstructionTerm) :
    Except XetEvidenceError XetReconstructionTerm :=
  if term.xorbHash.isEmpty then
    .error (.error ("Xet term " ++ toString index ++ " is missing a xorb hash."))
  else
    match term.startChunkIndex.integer? with
    | none =>
        .error (.error ("Xet term " ++ toString index ++ " has an invalid start chunk index."))
    | some start =>
        if start < 0 then
          .error (.error ("Xet term " ++ toString index ++ " has an invalid start chunk index."))
        else
          match term.endChunkIndex.integer? with
          | none =>
              .error (.error ("Xet term " ++ toString index ++ " has an invalid end chunk index."))
          | some stop =>
              if stop ≤ start then
                .error
                  (.error ("Xet term " ++ toString index ++ " has an invalid end chunk index."))
              else .ok term

/-- The checks of the terms from an index on. -/
def validateTermsFrom (index : Nat) :
    List XetReconstructionTerm → Except XetEvidenceError (List XetReconstructionTerm)
  | [] => .ok []
  | term :: terms => do
      let checked ← validateTerm index term
      let rest ← validateTermsFrom (index + 1) terms
      .ok (checked :: rest)

/-- `validateTerms`. -/
def validateTerms (terms : List XetReconstructionTerm) :
    Except XetEvidenceError (List XetReconstructionTerm) :=
  if terms.isEmpty then
    .error (.error "Xet evidence must include at least one reconstruction term.")
  else validateTermsFrom 0 terms

/-- `parseXetSnapshotEvidenceCommandPayload`. -/
def parseXetSnapshotEvidenceCommandPayload (payload : XetSnapshotEvidenceCommandPayload) :
    Except XetEvidenceError XetSnapshotEvidence :=
  if payload.fileId.isEmpty then .error (.error "Xet command output is missing fileId.")
  else do
    let logicalByteLength ← parseOptionalBigInt payload.logicalByteLength "logicalByteLength"
    let storedByteLength ← parseOptionalBigInt payload.storedByteLength "storedByteLength"
    let terms ← validateTerms payload.terms
    .ok
      { fileId := payload.fileId
        terms
        shardIds := payload.shardIds
        uploadedXorbHashes := payload.uploadedXorbHashes
        deduplicatedXorbHashes := payload.deduplicatedXorbHashes
        logicalPath := present payload.logicalPath
        digests := payload.digests.map fun digests => cloneDigests (some digests)
        logicalByteLength
        storedByteLength
        chunkCount := payload.chunkCount
        reusedChunkCount := payload.reusedChunkCount
        fetchEndpoint := present payload.fetchEndpoint }

/-- `xetSnapshotEvidenceToCommandPayload`. -/
def xetSnapshotEvidenceToCommandPayload (evidence : XetSnapshotEvidence) :
    XetSnapshotEvidenceCommandPayload where
  fileId := evidence.fileId
  terms := evidence.terms
  shardIds := evidence.shardIds
  uploadedXorbHashes := evidence.uploadedXorbHashes
  deduplicatedXorbHashes := evidence.deduplicatedXorbHashes
  logicalPath := present evidence.logicalPath
  digests := evidence.digests.map fun digests => cloneDigests (some digests)
  logicalByteLength := evidence.logicalByteLength.map fun n => .string (toString n)
  storedByteLength := evidence.storedByteLength.map fun n => .string (toString n)
  chunkCount := evidence.chunkCount
  reusedChunkCount := evidence.reusedChunkCount
  fetchEndpoint := present evidence.fetchEndpoint

/-! ### What is accepted -/

/-- A term is **well formed**: it names a xorb, and its chunk indices are integers in order. -/
def XetReconstructionTerm.WellFormed (term : XetReconstructionTerm) : Prop :=
  term.xorbHash ≠ "" ∧ ∃ start stop : Int, term.startChunkIndex.integer? = some start ∧
    term.endChunkIndex.integer? = some stop ∧ 0 ≤ start ∧ start < stop

theorem validateTerm_eq_ok_iff {index : Nat} {term checked : XetReconstructionTerm} :
    validateTerm index term = .ok checked ↔ term.WellFormed ∧ checked = term := by
  rw [validateTerm]
  by_cases hhash : term.xorbHash = ""
  · simp [hhash, XetReconstructionTerm.WellFormed]
  · have hempty : term.xorbHash.isEmpty = false := by
      rw [Bool.eq_false_iff]
      exact fun h => hhash (String.isEmpty_iff.mp h)
    rw [hempty, if_neg Bool.false_ne_true]
    cases hstart : term.startChunkIndex.integer? with
    | none => simp [XetReconstructionTerm.WellFormed, hstart]
    | some start =>
        cases hstop : term.endChunkIndex.integer? with
        | none =>
            simp only [XetReconstructionTerm.WellFormed, hstop]
            split <;> simp
        | some stop =>
            simp only [XetReconstructionTerm.WellFormed, hstart, hstop, Option.some.injEq,
              exists_and_left, exists_eq_left']
            split
            · rename_i hneg
              simp only [reduceCtorEq, false_iff, not_and]
              omega
            · split
              · simp only [reduceCtorEq, false_iff, not_and]
                omega
              · simp only [Except.ok.injEq, ne_eq, hhash, not_false_eq_true, true_and]
                constructor
                · rintro rfl
                  exact ⟨⟨by omega, by omega⟩, rfl⟩
                · rintro ⟨-, rfl⟩
                  rfl

theorem validateTermsFrom_eq_ok_iff {index : Nat} {terms checked : List XetReconstructionTerm} :
    validateTermsFrom index terms = .ok checked ↔
      (∀ term ∈ terms, term.WellFormed) ∧ checked = terms := by
  induction terms generalizing index checked with
  | nil => simp [validateTermsFrom, eq_comm]
  | cons term terms ih =>
      simp only [validateTermsFrom, bind_eq_ok, validateTerm_eq_ok_iff, ih, Except.ok.injEq,
        List.forall_mem_cons]
      constructor
      · rintro ⟨_, ⟨hterm, rfl⟩, _, ⟨hterms, rfl⟩, rfl⟩
        exact ⟨⟨hterm, hterms⟩, rfl⟩
      · rintro ⟨⟨hterm, hterms⟩, rfl⟩
        exact ⟨_, ⟨hterm, rfl⟩, _, ⟨hterms, rfl⟩, rfl⟩

/-- **Terms are accepted** when there is one and each is well formed; they are returned as they
are. -/
theorem validateTerms_eq_ok_iff {terms checked : List XetReconstructionTerm} :
    validateTerms terms = .ok checked ↔
      terms ≠ [] ∧ (∀ term ∈ terms, term.WellFormed) ∧ checked = terms := by
  rw [validateTerms]
  cases terms with
  | nil => simp
  | cons term terms =>
      rw [List.isEmpty_cons, if_neg Bool.false_ne_true, validateTermsFrom_eq_ok_iff]
      simp

/-- A decimal text is a count. -/
theorem parseOptionalBigInt_toString (n : Nat) (fieldName : String) :
    parseOptionalBigInt (some (.string (toString n))) fieldName = .ok (some (n : Int)) := by
  have hne : (toString n).isEmpty = false := by
    rw [Bool.eq_false_iff]
    exact fun h => Nat.repr_ne_empty (String.isEmpty_iff.mp h)
  simp only [parseOptionalBigInt, hne, Bool.false_eq_true, if_false, bigIntOfText_toString]

/-- **What an accepted payload says**: it names a file, its counts can be read and its terms
are in order; the evidence has the same file and terms. -/
theorem parse_eq_ok {payload : XetSnapshotEvidenceCommandPayload} {evidence : XetSnapshotEvidence}
    (h : parseXetSnapshotEvidenceCommandPayload payload = .ok evidence) :
    payload.fileId ≠ "" ∧ payload.terms ≠ [] ∧ (∀ term ∈ payload.terms, term.WellFormed) ∧
      evidence.fileId = payload.fileId ∧ evidence.terms = payload.terms := by
  rw [parseXetSnapshotEvidenceCommandPayload] at h
  split at h
  · cases h
  · rename_i hfileId
    simp only [bind_eq_ok, validateTerms_eq_ok_iff, Except.ok.injEq] at h
    obtain ⟨logical, -, stored, -, terms, ⟨hne, hwell, rfl⟩, rfl⟩ := h
    exact ⟨fun heq => hfileId (String.isEmpty_iff.mpr heq), hne, hwell, rfl, rfl⟩

/-- A payload is accepted when it names a file, its counts are decimal texts and its terms are
in order. -/
theorem exists_parse_eq_ok {payload : XetSnapshotEvidenceCommandPayload} {logical stored : Nat}
    (hfileId : payload.fileId ≠ "")
    (hlogical : payload.logicalByteLength = some (.string (toString logical)))
    (hstored : payload.storedByteLength = some (.string (toString stored)))
    (hne : payload.terms ≠ []) (hwell : ∀ term ∈ payload.terms, term.WellFormed) :
    ∃ evidence, parseXetSnapshotEvidenceCommandPayload payload = .ok evidence ∧
      evidence.storedByteLength = some (stored : Int) := by
  have hempty : payload.fileId.isEmpty = false := by
    rw [Bool.eq_false_iff]
    exact fun h => hfileId (String.isEmpty_iff.mp h)
  have hterms := validateTerms_eq_ok_iff.mpr ⟨hne, hwell, rfl⟩
  rw [parseXetSnapshotEvidenceCommandPayload, hempty, if_neg Bool.false_ne_true, hlogical, hstored,
    parseOptionalBigInt_toString, parseOptionalBigInt_toString, hterms]
  exact ⟨_, rfl, rfl⟩

end Cdngine
