import Mathlib.Algebra.Order.Ring.Rat
import Mathlib.Data.List.Induction
import Cdngine.InsertionMaps
import Cdngine.JsonReadability
import Cdngine.Readers
import Cdngine.XetEvidence

/-!
# Reading JSON Texts

`JSON.parse` as a reader of characters: white space, escapes with surrogate pairs, decimal numbers
rounded to the nearest double, and objects whose later entries replace earlier ones of the same
key. The readers that call themselves take the steps that they may make as a number.

An escape of a lone surrogate is refused, as a string of characters cannot hold it.

## Main results

* `lawful_readers`: only a number at the end of a text may go on in what follows it.
* `refines_readValue`: more steps read the same.
* `parseJson_cut`: the text of an object that is cut before its last brace is refused, also when
  something else stands where it was cut.
-/

namespace Cdngine

open InsertionMaps Readers

/-! ### Numbers -/

/-- A number with a power of two as a factor. -/
def scaled (q : Rat) (e : Int) : Rat :=
  if 0 ≤ e then mkRat (q.num * 2 ^ e.toNat) q.den else mkRat q.num (q.den * 2 ^ (-e).toNat)

/-- A number without sign, rounded to an integer, ties to even. -/
def roundHalfEven (q : Rat) : Nat :=
  let quotient := q.num.natAbs / q.den
  let rest := q.num.natAbs % q.den
  if q.den < 2 * rest ∨ (2 * rest = q.den ∧ quotient % 2 = 1) then quotient + 1 else quotient

/-- The double nearest to a number, ties to the even significand. -/
def nearestNumber (q : Rat) : JsNumber :=
  if q.den = 1 ∧ q.num.natAbs < 2 ^ 53 then .finite q
  else
    let magnitude := mkRat q.num.natAbs q.den
    -- the exponent of the last place, or one more than it
    let estimate : Int := Nat.log2 q.num.natAbs - Nat.log2 q.den - 52
    let exponent :=
      max (if scaled magnitude (-estimate) < 2 ^ 52 then estimate - 1 else estimate) (-1074)
    let rounded := scaled (roundHalfEven (scaled magnitude (-exponent)) : Nat) exponent
    if 2 ^ 1024 ≤ rounded then .infinity (decide (q < 0))
    else .finite (if q < 0 then -rounded else rounded)

/-- The digits that a text begins with, at least one, and the rest. -/
def readDigitRun : Reader (List Char) := fun cs =>
  if cs.takeWhile Char.isDigit = [] then none
  else some (cs.takeWhile Char.isDigit, cs.dropWhile Char.isDigit)

/-- A minus sign, if there is one. -/
def readMinus : Reader Bool := .ifHead (· == '-') (.done true) (.done false)

/-- The integer digits of a number; a zero stands alone. -/
def readInteger : Reader (List Char) :=
  readDigitRun.andThen fun digits =>
    if digits.head? = some '0' ∧ digits ≠ ['0'] then .refuse else .done digits

/-- The digits behind a decimal point, if there is one. -/
def readFraction : Reader (List Char) := .ifHead (· == '.') readDigitRun (.done [])

/-- The number that digits denote. -/
def readNatural : Reader Int := readDigitRun.change fun digits => Nat.ofDigitChars 10 digits 0

/-- Digits with or without a sign. -/
def readSigned : Reader Int :=
  .ifHead (· == '-') (readNatural.change (- ·)) (.ifHead (· == '+') readNatural readNatural)

/-- The exponent of a number, if there is one. -/
def readExponent : Reader Int := .ifHead (fun c => c == 'e' || c == 'E') readSigned (.done 0)

/-- The number that a decimal literal denotes. -/
def decimalValue (negative : Bool) (integer fraction : List Char) (exponent : Int) : Rat :=
  let digits : Int := Nat.ofDigitChars 10 (integer ++ fraction) 0
  let power := exponent - fraction.length
  let magnitude : Rat :=
    if 0 ≤ power then (digits * 10 ^ power.toNat : Int) else mkRat digits (10 ^ (-power).toNat)
  if negative then -magnitude else magnitude

/-- A number. -/
def readNumber : Reader JsNumber :=
  readMinus.andThen fun negative =>
    readInteger.andThen fun integer =>
      readFraction.andThen fun fraction =>
        readExponent.change fun exponent =>
          nearestNumber (decimalValue negative integer fraction exponent)

example : readNumber "-12.5e1,".toList = some (.finite (-125), [',']) := by decide +kernel

/-! ### Strings -/

/-- The next character. -/
def takeChar : Reader Char
  | [] => none
  | c :: rest => some (c, rest)

/-- The code unit that four hexadecimal digits denote. -/
def readUnitDigits : Reader Nat :=
  takeChar.andThen fun a => takeChar.andThen fun b => takeChar.andThen fun c =>
    takeChar.andThen fun d => .lift (readDigits 16 [a, b, c, d])

/-- The second half of an escaped surrogate pair. -/
def readLowSurrogate : Reader Nat :=
  takeChar.andThen fun backslash => takeChar.andThen fun letter =>
    if backslash = '\\' ∧ letter = 'u' then
      readUnitDigits.andThen fun low =>
        if 0xDC00 ≤ low ∧ low < 0xE000 then .done low else .refuse
    else .refuse

/-- The character behind `\u`. -/
def readUnicodeEscape : Reader Char :=
  readUnitDigits.andThen fun unit =>
    if 0xD800 ≤ unit ∧ unit < 0xDC00 then
      readLowSurrogate.change fun low =>
        Char.ofNat (0x10000 + (unit - 0xD800) * 0x400 + (low - 0xDC00))
    else if 0xDC00 ≤ unit ∧ unit < 0xE000 then .refuse
    else .done (Char.ofNat unit)

/-- The character that a letter behind a backslash stands for. -/
def unescapedLetter (c : Char) : Option Char :=
  match c.toNat with
  | 0x22 => some c
  | 0x5c => some c
  | 0x2f => some c
  | 0x62 => some (Char.ofNat 0x08)
  | 0x66 => some (Char.ofNat 0x0c)
  | 0x6e => some (Char.ofNat 0x0a)
  | 0x72 => some (Char.ofNat 0x0d)
  | 0x74 => some (Char.ofNat 0x09)
  | _ => none

/-- What stands behind a backslash. -/
def readEscape : Reader Char :=
  takeChar.andThen fun c => if c = 'u' then readUnicodeEscape else .lift (unescapedLetter c)

/-- The characters of a string up to its closing quote. -/
def readString : Nat → Reader (List Char)
  | 0 => .refuse
  | fuel + 1 => takeChar.andThen fun c =>
      if c = Char.ofNat 0x22 then .done []
      else if c = '\\' then
        readEscape.andThen fun c' => (readString fuel).change (c' :: ·)
      else if c.toNat < 0x20 then .refuse
      else (readString fuel).change (c :: ·)

/-! ### Values -/

/-- The white space of JSON. -/
def isJsonSpace (c : Char) : Bool := c == ' ' || c == '\t' || c == '\n' || c == '\r'

/-- The next character that is not white space. -/
def nextChar : Reader Char := fun cs => takeChar (cs.dropWhile isJsonSpace)

/-- The rest of a word that stands for a value. -/
def readWord (word : List Char) (value : JsValue) : Reader JsValue := fun cs =>
  if word <+: cs then some (value, cs.drop word.length) else none

/-- Nothing before the character that closes a list, or what is in the list. -/
def readList {α : Type} (close : Char) (body : Reader (List α)) : Reader (List α) := fun cs =>
  (nextChar cs).bind fun next => if next.1 = close then some ([], next.2) else body cs

/-- An object of entries: a later entry replaces an earlier one of its key. -/
def objectOf (entries : List (String × JsValue)) : JsValue :=
  .object (InsertionMap.empty.setAll entries).entries

mutual

/-- A value, with the white space before it. -/
def readValue : Nat → Reader JsValue
  | 0 => .refuse
  | fuel + 1 => nextChar.andThen fun c =>
      if c = '[' then (readList ']' (readItems fuel)).change .array
      else if c = '\x7b' then (readList '\x7d' (readEntries fuel)).change objectOf
      else if c = Char.ofNat 0x22 then
        (readString fuel).change fun cs => .string (String.ofList cs)
      else if c = 'n' then readWord "ull".toList .null
      else if c = 't' then readWord "rue".toList (.boolean true)
      else if c = 'f' then readWord "alse".toList (.boolean false)
      else fun rest => readNumber.change .number (c :: rest)

/-- The items of an array, up to the bracket that closes it. -/
def readItems : Nat → Reader (List JsValue)
  | 0 => .refuse
  | fuel + 1 => (readValue fuel).andThen fun item => nextChar.andThen fun c =>
      if c = ']' then .done [item]
      else if c = ',' then (readItems fuel).change (item :: ·)
      else .refuse

/-- The entries of an object, up to the brace that closes it. -/
def readEntries : Nat → Reader (List (String × JsValue))
  | 0 => .refuse
  | fuel + 1 => nextChar.andThen fun c =>
      if c = Char.ofNat 0x22 then
        (readString fuel).andThen fun key => nextChar.andThen fun c =>
          if c = ':' then
            (readValue fuel).andThen fun value => nextChar.andThen fun c =>
              if c = '\x7d' then .done [(String.ofList key, value)]
              else if c = ',' then (readEntries fuel).change ((String.ofList key, value) :: ·)
              else .refuse
          else .refuse
      else .refuse

end

/-- `JSON.parse(text)`; `none` where it throws. -/
def parseJson (text : List Char) : Option JsValue :=
  (readValue (2 * text.length + 2) text).bind fun read =>
    if read.2.all isJsonSpace then some read.1 else none

/-! ### What the readers leave -/

/-- What does not continue a number. -/
def EndsNumber (cs : List Char) : Prop := ∀ c ∈ cs.head?, isNumberChar c = false ∧ c ≠ 'E'

theorem EndsNumber.not_digit {cs : List Char} (h : EndsNumber cs) :
    ∀ c ∈ cs.head?, c.isDigit = false := by
  intro c hc
  have hchar := (h c hc).1
  simp only [isNumberChar, Bool.or_eq_false_iff] at hchar
  exact hchar.1.1.1.1

/-- The text does not go on with a character that numbers have. -/
theorem EndsNumber.not_any {cs : List Char} (h : EndsNumber cs) {p : Char → Bool}
    (hp : ∀ c, p c = true → isNumberChar c = true ∨ c = 'E') : cs.head?.any p = false := by
  rw [Bool.eq_false_iff]
  intro hany
  obtain ⟨c, hc, hpc⟩ := (Option.any_eq_true _ _).mp hany
  obtain ⟨hchar, hexponent⟩ := h c hc
  cases hp c hpc with
  | inl hnumber =>
      rw [hchar] at hnumber
      cases hnumber
  | inr heq => exact hexponent heq

theorem takeWhile_append_of_dropWhile_ne_nil {p : Char → Bool} {cs later : List Char}
    (h : cs.dropWhile p ≠ [] ∨ ∀ c ∈ later.head?, p c = false) :
    (cs ++ later).takeWhile p = cs.takeWhile p ∧
      (cs ++ later).dropWhile p = cs.dropWhile p ++ later := by
  induction cs with
  | nil =>
      cases later with
      | nil => exact ⟨rfl, rfl⟩
      | cons c later =>
          have hc : p c = false := h.elim (fun hne => absurd rfl hne) fun hlater => hlater c rfl
          constructor
          · rw [List.nil_append, List.takeWhile_cons, hc]
            rfl
          · rw [List.nil_append, List.dropWhile_cons, hc]
            rfl
  | cons c cs ih =>
      cases hc : p c with
      | true =>
          rw [List.dropWhile_cons_of_pos hc] at h
          obtain ⟨htake, hdrop⟩ := ih h
          rw [List.cons_append, List.takeWhile_cons_of_pos hc, List.takeWhile_cons_of_pos hc,
            List.dropWhile_cons_of_pos hc, List.dropWhile_cons_of_pos hc, htake, hdrop]
          exact ⟨rfl, rfl⟩
      | false =>
          have hneg : ¬ p c = true := by rw [hc]; exact Bool.false_ne_true
          rw [List.cons_append, List.takeWhile_cons_of_neg hneg, List.takeWhile_cons_of_neg hneg,
            List.dropWhile_cons_of_neg hneg, List.dropWhile_cons_of_neg hneg]
          exact ⟨rfl, List.cons_append⟩

theorem lawful_readDigitRun : readDigitRun.Lawful EndsNumber where
  suffix {cs digits rest} h := by
    simp only [readDigitRun] at h
    split at h
    · cases h
    · obtain ⟨-, rfl⟩ := Prod.mk.inj (Option.some.inj h)
      exact List.dropWhile_suffix _
  later {cs digits rest later} h hlater := by
    simp only [readDigitRun] at h ⊢
    split at h
    · cases h
    · rename_i hdigits
      obtain ⟨rfl, rfl⟩ := Prod.mk.inj (Option.some.inj h)
      have hstop : cs.dropWhile Char.isDigit ≠ [] ∨ ∀ c ∈ later.head?, c.isDigit = false := by
        by_cases hnil : cs.dropWhile Char.isDigit = []
        · exact .inr (hlater hnil).not_digit
        · exact .inl hnil
      obtain ⟨htake, hdrop⟩ := takeWhile_append_of_dropWhile_ne_nil hstop
      rw [htake, hdrop, if_neg hdigits]

theorem lawful_readInteger : readInteger.Lawful EndsNumber :=
  lawful_readDigitRun.andThen fun digits =>
    .ite Reader.closed_refuse.over (Reader.closed_done digits).over

theorem lawful_readMinus : readMinus.Lawful EndsNumber :=
  .ifHead (Reader.closed_done true).over (Reader.closed_done false).over
    fun later h => h.not_any fun c hc => by simp_all [isNumberChar]

theorem lawful_readFraction : readFraction.Lawful EndsNumber :=
  .ifHead lawful_readDigitRun (Reader.closed_done []).over
    fun later h => h.not_any fun c hc => by simp_all [isNumberChar]

theorem lawful_readSigned : readSigned.Lawful EndsNumber :=
  .ifHead lawful_readDigitRun.change.change
    (.ifHead lawful_readDigitRun.change lawful_readDigitRun.change
      fun later h => h.not_any fun c hc => by simp_all [isNumberChar])
    fun later h => h.not_any fun c hc => by simp_all [isNumberChar]

theorem lawful_readExponent : readExponent.Lawful EndsNumber := by
  refine .ifHead lawful_readSigned (Reader.closed_done 0).over fun later h => h.not_any ?_
  intro c hc
  cases Bool.or_eq_true_iff.mp hc with
  | inl hlower => exact .inl (by simp_all [isNumberChar])
  | inr hupper => exact .inr (beq_iff_eq.mp hupper)

/-- **What a number is does not depend on what follows it.** -/
theorem lawful_readNumber : readNumber.Lawful EndsNumber :=
  lawful_readMinus.andThen fun _ => lawful_readInteger.andThen fun _ =>
    lawful_readFraction.andThen fun _ => lawful_readExponent.change

theorem closed_takeChar : takeChar.Closed where
  suffix {cs c rest} h := by
    cases cs with
    | nil => cases h
    | cons d cs =>
        obtain ⟨-, rfl⟩ := Prod.mk.inj (Option.some.inj h)
        exact List.suffix_cons _ _
  later {cs c rest later} h _ := by
    cases cs with
    | nil => cases h
    | cons d cs =>
        obtain ⟨rfl, rfl⟩ := Prod.mk.inj (Option.some.inj h)
        rfl

theorem closed_readUnitDigits : readUnitDigits.Closed :=
  closed_takeChar.andThen fun _ => closed_takeChar.andThen fun _ => closed_takeChar.andThen fun _ =>
    closed_takeChar.andThen fun _ => Reader.closed_lift _

theorem closed_readEscape : readEscape.Closed := by
  have hlow : readLowSurrogate.Closed :=
    closed_takeChar.andThen fun _ => closed_takeChar.andThen fun _ =>
      .ite (closed_readUnitDigits.andThen fun low =>
        .ite (Reader.closed_done low) Reader.closed_refuse) Reader.closed_refuse
  have hunicode : readUnicodeEscape.Closed :=
    closed_readUnitDigits.andThen fun _ =>
      .ite hlow.change (.ite Reader.closed_refuse (Reader.closed_done _))
  exact closed_takeChar.andThen fun _ => .ite hunicode (Reader.closed_lift _)

theorem closed_readString (fuel : Nat) : (readString fuel).Closed := by
  induction fuel with
  | zero => exact Reader.closed_refuse
  | succ fuel ih =>
      exact closed_takeChar.andThen fun c =>
        .ite (Reader.closed_done []) (.ite (closed_readEscape.andThen fun _ => ih.change)
          (.ite Reader.closed_refuse ih.change))

/-- The next character that is not white space, of a text that has one. -/
theorem nextChar_eq_some {cs rest : List Char} {c : Char} (h : nextChar cs = some (c, rest)) :
    ∃ space, cs = space ++ c :: rest ∧ (∀ d ∈ space, isJsonSpace d = true) ∧
      isJsonSpace c = false := by
  have hsplit := List.takeWhile_append_dropWhile (p := isJsonSpace) (l := cs)
  rw [nextChar] at h
  cases hdrop : cs.dropWhile isJsonSpace with
  | nil =>
      rw [hdrop] at h
      cases h
  | cons d rest' =>
      have hne : cs.dropWhile isJsonSpace ≠ [] := by rw [hdrop]; exact List.cons_ne_nil _ _
      have hhead := List.head_dropWhile_not isJsonSpace hne
      simp only [hdrop, List.head_cons] at hhead
      rw [hdrop] at h hsplit
      obtain ⟨rfl, rfl⟩ := Prod.mk.inj (Option.some.inj h)
      exact ⟨_, hsplit.symm, List.all_eq_true.mp List.all_takeWhile, hhead⟩

/-- White space is skipped. -/
theorem nextChar_space {space : List Char} (h : ∀ d ∈ space, isJsonSpace d = true)
    (cs : List Char) : nextChar (space ++ cs) = nextChar cs := by
  rw [nextChar, nextChar, List.dropWhile_append_of_pos h]

theorem nextChar_cons {c : Char} (h : isJsonSpace c = false) (rest : List Char) :
    nextChar (c :: rest) = some (c, rest) := by
  have hneg : ¬ isJsonSpace c = true := by rw [h]; exact Bool.false_ne_true
  rw [nextChar, List.dropWhile_cons_of_neg hneg]
  rfl

theorem closed_nextChar : nextChar.Closed where
  suffix h := by
    obtain ⟨space, rfl, -, -⟩ := nextChar_eq_some h
    exact (List.suffix_cons _ _).trans (List.suffix_append _ _)
  later h _ := by
    obtain ⟨space, rfl, hspace, hchar⟩ := nextChar_eq_some h
    rw [List.append_assoc, nextChar_space hspace, List.cons_append, nextChar_cons hchar]

theorem closed_readWord (word : List Char) (value : JsValue) : (readWord word value).Closed where
  suffix {cs a rest} h := by
    rw [readWord] at h
    split at h
    · obtain ⟨-, rfl⟩ := Prod.mk.inj (Option.some.inj h)
      exact List.drop_suffix _ _
    · cases h
  later {cs a rest later} h _ := by
    rw [readWord] at h
    split at h
    · rename_i hword
      obtain ⟨rfl, rfl⟩ := Prod.mk.inj (Option.some.inj h)
      rw [readWord, if_pos (hword.trans (List.prefix_append _ _)),
        List.drop_append_of_le_length hword.length_le]
    · cases h

theorem closed_readList {α : Type} {close : Char} {body : Reader (List α)} (h : body.Closed) :
    (readList close body).Closed where
  suffix {cs a rest} hread := by
    obtain ⟨⟨c, rest'⟩, hnext, hrest⟩ := Option.bind_eq_some_iff.mp hread
    split at hrest
    · obtain ⟨-, rfl⟩ := Prod.mk.inj (Option.some.inj hrest)
      exact closed_nextChar.suffix hnext
    · exact h.suffix hrest
  later {cs a rest later} hread hlater := by
    obtain ⟨⟨c, rest'⟩, hnext, hrest⟩ := Option.bind_eq_some_iff.mp hread
    rw [readList, closed_nextChar.later hnext fun _ => trivial, Option.bind_some]
    split at hrest
    · rename_i hclose
      obtain ⟨rfl, rfl⟩ := Prod.mk.inj (Option.some.inj hrest)
      rw [if_pos hclose]
    · rename_i hclose
      rw [if_neg hclose]
      exact h.later hrest hlater

/-- A number has at least one character. -/
theorem ne_of_readNumber {cs rest : List Char} {n : JsNumber}
    (h : readNumber cs = some (n, rest)) : rest ≠ cs := by
  obtain ⟨negative, hminus, hrest⟩ := Reader.andThen_eq_some h
  obtain ⟨integer, hinteger, hrest⟩ := Reader.andThen_eq_some hrest
  obtain ⟨digits, hdigits, hinteger⟩ := Reader.andThen_eq_some hinteger
  have hlength : digits.2.length < negative.2.length := by
    simp only [readDigitRun] at hdigits
    split at hdigits
    · cases hdigits
    · rename_i hne
      have hsplit := congrArg List.length
        (List.takeWhile_append_dropWhile (p := Char.isDigit) (l := negative.2))
      have hpos := List.length_pos_iff.mpr hne
      rw [List.length_append] at hsplit
      obtain rfl := Option.some.inj hdigits
      change (negative.2.dropWhile Char.isDigit).length < _
      omega
  have hstart := (lawful_readMinus.suffix hminus).length_le
  have hmiddle : integer.2 <:+ digits.2 :=
    Reader.Lawful.suffix (.ite Reader.closed_refuse (Reader.closed_done digits.1)) hinteger
  have hend : rest <:+ integer.2 :=
    Reader.Lawful.suffix (lawful_readFraction.andThen fun _ => lawful_readExponent.change) hrest
  have hle := hmiddle.length_le
  have hle' := hend.length_le
  rintro rfl
  omega

/-- A number whose first character has been looked at. -/
theorem lawful_readNumber_cons (c : Char) :
    Reader.Lawful EndsNumber fun rest => readNumber.change JsValue.number (c :: rest) where
  suffix {cs value rest} h := by
    obtain ⟨n, hread, -⟩ := Reader.change_eq_some h
    cases List.suffix_cons_iff.mp (lawful_readNumber.suffix hread) with
    | inl heq => exact absurd heq (ne_of_readNumber hread)
    | inr hsuffix => exact hsuffix
  later h hlater := lawful_readNumber.change.later h hlater

/-- The readers of values, with a number of steps: only a number at the end of the text may go on
in what follows it. -/
theorem lawful_readers (fuel : Nat) :
    (readValue fuel).Lawful EndsNumber ∧ (readItems fuel).Closed ∧ (readEntries fuel).Closed := by
  induction fuel with
  | zero => exact ⟨Reader.closed_refuse.over, Reader.closed_refuse, Reader.closed_refuse⟩
  | succ fuel ih =>
      obtain ⟨hvalue, hitems, hentries⟩ := ih
      refine ⟨?_, ?_, ?_⟩
      · rw [readValue]
        refine closed_nextChar.over.andThen fun c => ?_
        refine .ite (closed_readList hitems).change.over ?_
        refine .ite (closed_readList hentries).change.over ?_
        refine .ite (closed_readString fuel).change.over ?_
        refine .ite (closed_readWord _ _).over ?_
        refine .ite (closed_readWord _ _).over ?_
        exact .ite (closed_readWord _ _).over (lawful_readNumber_cons c)
      · refine hvalue.andThen_closed (fun item => ?_) fun item => rfl
        exact closed_nextChar.andThen fun c =>
          .ite (Reader.closed_done [item]) (.ite hitems.change Reader.closed_refuse)
      · refine closed_nextChar.andThen fun c => .ite ?_ Reader.closed_refuse
        refine (closed_readString fuel).andThen fun key => closed_nextChar.andThen fun c =>
          .ite ?_ Reader.closed_refuse
        refine hvalue.andThen_closed (fun value => ?_) fun value => rfl
        exact closed_nextChar.andThen fun c =>
          .ite (Reader.closed_done _) (.ite hentries.change Reader.closed_refuse)

/-- A value that a character begins. -/
theorem readValue_cons {c : Char} (hc : isJsonSpace c = false) (fuel : Nat) (rest : List Char) :
    readValue (fuel + 1) (c :: rest) =
      (if c = '[' then (readList ']' (readItems fuel)).change JsValue.array
      else if c = '\x7b' then (readList '\x7d' (readEntries fuel)).change objectOf
      else if c = Char.ofNat 0x22 then
        (readString fuel).change fun cs => JsValue.string (String.ofList cs)
      else if c = 'n' then readWord "ull".toList .null
      else if c = 't' then readWord "rue".toList (.boolean true)
      else if c = 'f' then readWord "alse".toList (.boolean false)
      else fun rest => readNumber.change JsValue.number (c :: rest) : Reader JsValue) rest := by
  rw [readValue, Reader.andThen_of_eq (nextChar_cons hc rest)]

/-! ### Numbers of steps -/

theorem refines_readString (fuel : Nat) : (readString fuel).Refines (readString (fuel + 1)) := by
  induction fuel with
  | zero => intro cs p h; cases h
  | succ fuel ih =>
      refine (Reader.Refines.refl _).andThen fun c =>
        .ite (.refl _) (.ite ?_ (.ite (.refl _) ih.change))
      exact (Reader.Refines.refl _).andThen fun c' => ih.change

theorem refines_readList {α : Type} {close : Char} {body body' : Reader (List α)}
    (h : body.Refines body') : (readList close body).Refines (readList close body') := by
  intro cs p hp
  obtain ⟨next, hnext, hrest⟩ := Option.bind_eq_some_iff.mp hp
  rw [readList, hnext, Option.bind_some]
  split at hrest
  · rename_i hclose
    rw [if_pos hclose]
    exact hrest
  · rename_i hclose
    rw [if_neg hclose]
    exact h cs p hrest

theorem refines_readers (fuel : Nat) :
    (readValue fuel).Refines (readValue (fuel + 1)) ∧
      (readItems fuel).Refines (readItems (fuel + 1)) ∧
      (readEntries fuel).Refines (readEntries (fuel + 1)) := by
  induction fuel with
  | zero =>
      refine ⟨?_, ?_, ?_⟩
      · intro cs p h
        cases h
      · intro cs p h
        cases h
      · intro cs p h
        cases h
  | succ fuel ih =>
      obtain ⟨hvalue, hitems, hentries⟩ := ih
      refine ⟨?_, ?_, ?_⟩
      · rw [readValue, readValue]
        refine (Reader.Refines.refl _).andThen fun c => .ite (refines_readList hitems).change ?_
        refine .ite (refines_readList hentries).change ?_
        exact .ite (refines_readString fuel).change (.refl _)
      · rw [readItems, readItems]
        refine hvalue.andThen fun item => (Reader.Refines.refl _).andThen fun c => ?_
        exact .ite (.refl _) (.ite hitems.change (.refl _))
      · rw [readEntries, readEntries]
        refine (Reader.Refines.refl _).andThen fun c => .ite ?_ (.refl _)
        refine (refines_readString fuel).andThen fun key => ?_
        refine (Reader.Refines.refl _).andThen fun c => .ite ?_ (.refl _)
        refine hvalue.andThen fun value => (Reader.Refines.refl _).andThen fun c => ?_
        exact .ite (.refl _) (.ite hentries.change (.refl _))

/-- **More steps read the same.** -/
theorem refines_readValue {fuel fuel' : Nat} (h : fuel ≤ fuel') :
    (readValue fuel).Refines (readValue fuel') := by
  induction h with
  | refl => exact .refl _
  | step _ ih => exact fun cs p hp => (refines_readers _).1 cs p (ih cs p hp)

/-! ### Texts that are cut -/

/-- What the reader of entries leaves stands behind the brace that closes the object. -/
theorem readEntries_suffix {fuel : Nat} {cs rest : List Char} {entries : List (String × JsValue)}
    (h : readEntries fuel cs = some (entries, rest)) : '\x7d' :: rest <:+ cs := by
  induction fuel generalizing cs entries with
  | zero => cases h
  | succ fuel ih =>
      rw [readEntries] at h
      obtain ⟨quote, hquote, h⟩ := Reader.andThen_eq_some h
      split at h
      case isFalse => cases h
      obtain ⟨key, hkey, h⟩ := Reader.andThen_eq_some h
      obtain ⟨colon, hcolon, h⟩ := Reader.andThen_eq_some h
      split at h
      case isFalse => cases h
      obtain ⟨value, hvalue, h⟩ := Reader.andThen_eq_some h
      obtain ⟨⟨c, next⟩, hnext, h⟩ := Reader.andThen_eq_some h
      have hbefore : value.2 <:+ cs :=
        ((((lawful_readers fuel).1.suffix hvalue).trans (closed_nextChar.suffix hcolon)).trans
          ((closed_readString fuel).suffix hkey)).trans (closed_nextChar.suffix hquote)
      split at h
      · rename_i hclose
        obtain ⟨-, rfl⟩ := Prod.mk.inj (Option.some.inj h)
        obtain ⟨space, htext, -, -⟩ := nextChar_eq_some hnext
        have hclosed : c :: next <:+ value.2 := ⟨space, htext.symm⟩
        rw [show c = '\x7d' from hclose] at hclosed
        exact hclosed.trans hbefore
      · split at h
        · obtain ⟨entries', hrest, -⟩ := Reader.change_eq_some h
          exact ((ih hrest).trans (closed_nextChar.suffix hnext)).trans hbefore
        · cases h

/-- The text of an object ends with the brace that closes it. -/
theorem readObject_suffix {fuel : Nat} {cs rest : List Char} {value : JsValue}
    (h : readValue fuel ('\x7b' :: cs) = some (value, rest)) : '\x7d' :: rest <:+ cs := by
  cases fuel with
  | zero => cases h
  | succ fuel =>
      rw [readValue_cons (by decide), if_neg (by decide), if_pos rfl] at h
      obtain ⟨entries, hread, -⟩ := Reader.change_eq_some h
      obtain ⟨⟨c, next⟩, hnext, hread⟩ := Option.bind_eq_some_iff.mp hread
      split at hread
      · rename_i hclose
        obtain ⟨-, rfl⟩ := Prod.mk.inj (Option.some.inj hread)
        obtain ⟨space, htext, -, -⟩ := nextChar_eq_some hnext
        exact ⟨space, by rw [htext, show c = '\x7d' from hclose]⟩
      · exact readEntries_suffix hread

/-- The reader of an object does not look behind the brace that closes it. -/
theorem readObject_later {fuel : Nat} {cs rest : List Char} {value : JsValue}
    (h : readValue fuel ('\x7b' :: cs) = some (value, rest)) (later : List Char) :
    readValue fuel ('\x7b' :: (cs ++ later)) = some (value, rest ++ later) := by
  cases fuel with
  | zero => cases h
  | succ fuel =>
      rw [readValue_cons (by decide), if_neg (by decide), if_pos rfl] at h ⊢
      exact (closed_readList (lawful_readers fuel).2.2).change.later h fun _ => trivial

/-- **A text that is cut before the brace at its end is refused**, also when something that is no
white space and no brace stands where it was cut. -/
theorem parseJson_cut {cut cs : List Char} {value : JsValue}
    (h : parseJson ('\x7b' :: (cut ++ cs ++ ['\x7d'])) = some value) {later : List Char}
    (hlater : ∀ c ∈ later.getLast?, isJsonSpace c = false ∧ c ≠ '\x7d') :
    parseJson ('\x7b' :: (cut ++ later)) = none := by
  rw [Option.eq_none_iff_forall_ne_some]
  intro value' h'
  obtain ⟨⟨value', rest'⟩, hread', hspace'⟩ := Option.bind_eq_some_iff.mp h'
  split at hspace'
  case isFalse => cases hspace'
  rename_i hall'
  have hclosed := readObject_suffix hread'
  cases later using List.reverseRecOn with
  | nil =>
      obtain ⟨⟨value, rest⟩, hread, hspace⟩ := Option.bind_eq_some_iff.mp h
      split at hspace
      case isFalse => cases hspace
      rename_i hall
      rw [List.append_nil] at hread'
      have hmore := readObject_later hread' (cs ++ ['\x7d'])
      rw [← List.append_assoc] at hmore
      have hsteps : 2 * ('\x7b' :: cut).length + 2 ≤
          2 * ('\x7b' :: (cut ++ cs ++ ['\x7d'])).length + 2 := by
        simp only [List.length_cons, List.length_append]
        omega
      have hsame := refines_readValue hsteps _ _ hmore
      rw [hread] at hsame
      obtain ⟨-, rfl⟩ := Prod.mk.inj (Option.some.inj hsame)
      have hbrace := List.all_eq_true.mp hall '\x7d' (by simp)
      cases hbrace
  | append_singleton later c _ =>
      -- nothing is left behind the object, so that its brace is what stands last
      obtain ⟨hc, hbrace⟩ := hlater c List.getLast?_concat
      rw [← List.append_assoc] at hclosed
      cases rest' using List.reverseRecOn with
      | nil =>
          obtain ⟨-, heq⟩ := List.append_inj' (hclosed.choose_spec) rfl
          exact hbrace (List.singleton_inj.mp heq).symm
      | append_singleton rest' d _ =>
          obtain ⟨before, heq⟩ := hclosed
          have hsame : before ++ '\x7d' :: rest' ++ [d] = cut ++ later ++ [c] := by
            rw [List.append_assoc, List.cons_append]
            exact heq
          have hlast := List.append_inj' hsame rfl
          have hd := List.all_eq_true.mp hall' d (by simp)
          rw [List.singleton_inj.mp hlast.2, hc] at hd
          cases hd

end Cdngine
