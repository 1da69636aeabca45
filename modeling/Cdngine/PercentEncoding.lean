import Mathlib.Data.List.Infix
import Mathlib.Tactic.Common

/-!
# Percent-Encoding

The percent-encoding of a text and its decoding to bytes. A text that is not an escape is decoded
to its UTF-8 bytes, and an incomplete escape to itself; a decoder may read a plus sign as a
space.

## Main results

* `decode_encode`: an encoded text is decoded to its bytes.
* `decode_eq_utf8_iff`: decoding does nothing to a text exactly when it has no escapes, and no plus
  signs that are read as spaces.
-/

namespace PercentEncoding

/-! ### Bytes and digits -/

/-- The UTF-8 bytes of a text. -/
def utf8 (cs : List Char) : List UInt8 := cs.flatMap String.utf8EncodeChar

@[simp] theorem utf8_nil : utf8 [] = [] := rfl

@[simp] theorem utf8_cons (c : Char) (cs : List Char) :
    utf8 (c :: cs) = String.utf8EncodeChar c ++ utf8 cs := rfl

@[simp] theorem utf8_append (cs ds : List Char) : utf8 (cs ++ ds) = utf8 cs ++ utf8 ds :=
  List.flatMap_append

theorem utf8_intercalate {sep : Char} {byte : UInt8} (h : String.utf8EncodeChar sep = [byte])
    (parts : List (List Char)) :
    utf8 ([sep].intercalate parts) = [byte].intercalate (parts.map utf8) := by
  induction parts with
  | nil => rfl
  | cons first parts ih =>
      cases parts with
      | nil => simp
      | cons second parts =>
          have hsep : utf8 [sep] = [byte] := by rw [utf8_cons, h, utf8_nil, List.append_nil]
          rw [List.intercalate_cons_cons, utf8_append, utf8_append, ih, hsep]
          exact List.intercalate_cons_cons.symm

/-- Different texts have different bytes. -/
theorem utf8_inj {cs ds : List Char} : utf8 cs = utf8 ds ↔ cs = ds := by
  refine ⟨fun h => ?_, congrArg utf8⟩
  have hencode : cs.utf8Encode = ds.utf8Encode := congrArg List.toByteArray h
  have hdecode := congrArg ByteArray.utf8Decode? hencode
  rw [List.utf8Decode?_utf8Encode, List.utf8Decode?_utf8Encode] at hdecode
  simpa using hdecode

theorem length_utf8EncodeChar_pos (c : Char) : 0 < (String.utf8EncodeChar c).length :=
  List.length_pos_iff.mpr String.utf8EncodeChar_ne_nil

/-- An ASCII byte stands for its own character only. -/
theorem toNat_of_mem_utf8EncodeChar {c : Char} {b : UInt8} (h : b ∈ String.utf8EncodeChar c)
    (hb : b.toNat < 0x80) : c.toNat = b.toNat := by
  have hval : c.val.toNat < 0x110000 := by
    have := c.valid
    simp only [UInt32.isValidChar, Nat.isValidChar] at this
    omega
  change c.val.toNat = b.toNat
  simp only [String.utf8EncodeChar] at h
  split_ifs at h <;> simp only [List.mem_cons, List.not_mem_nil, or_false] at h
  · subst h
    simp only [UInt8.toNat_ofNat']
    omega
  · rcases h with rfl | rfl <;> simp only [UInt8.toNat_ofNat'] at hb ⊢ <;> omega
  · rcases h with rfl | rfl | rfl <;> simp only [UInt8.toNat_ofNat'] at hb ⊢ <;> omega
  · rcases h with rfl | rfl | rfl | rfl <;> simp only [UInt8.toNat_ofNat'] at hb ⊢ <;> omega

theorem eq_of_toNat_eq {c d : Char} (h : c.toNat = d.toNat) : c = d := by
  rw [← Char.ofNat_toNat c, h, Char.ofNat_toNat]

/-- A text whose bytes hold an ASCII byte holds its character. -/
theorem mem_of_mem_utf8 {c : Char} {b : UInt8} {cs : List Char} (h : b ∈ utf8 cs)
    (hb : b.toNat < 0x80) (hc : c.toNat = b.toNat) : c ∈ cs := by
  obtain ⟨d, hd, hmem⟩ := List.mem_flatMap.mp h
  obtain rfl : d = c := eq_of_toNat_eq ((toNat_of_mem_utf8EncodeChar hmem hb).trans hc.symm)
  exact hd

/-- A hexadecimal digit, read. -/
def hexValue (c : Char) : Option Nat :=
  let n := c.toNat
  if 0x30 ≤ n ∧ n ≤ 0x39 then some (n - 0x30)
  else if 0x41 ≤ n ∧ n ≤ 0x46 then some (n - 0x37)
  else if 0x61 ≤ n ∧ n ≤ 0x66 then some (n - 0x57)
  else none

/-- The upper-case hexadecimal digit of a number below sixteen. -/
def hexDigit (n : Nat) : Char := Char.ofNat (if n < 10 then 0x30 + n else 0x37 + n)

theorem hexValue_hexDigit : ∀ n < 16, hexValue (hexDigit n) = some n := by decide

theorem hexValue_lt {c : Char} {n : Nat} (h : hexValue c = some n) : n < 16 := by
  simp only [hexValue] at h
  split_ifs at h <;> simp only [Option.some.injEq] at h <;> omega

/-! ### Encoding -/

/-- The escape of a byte. -/
def encodeByte (b : UInt8) : List Char := ['%', hexDigit (b.toNat / 16), hexDigit (b.toNat % 16)]

/-- A text with the characters outside `keep` escaped. -/
def encode (keep : Char → Bool) (cs : List Char) : List Char :=
  cs.flatMap fun c => if keep c then [c] else (String.utf8EncodeChar c).flatMap encodeByte

/-- A property of the characters of an encoded text. -/
theorem forall_mem_encode {P : Char → Prop} {keep : Char → Bool} {cs : List Char}
    (hpercent : P '%') (hdigit : ∀ n < 16, P (hexDigit n)) (hkeep : ∀ c, keep c = true → P c) :
    ∀ c ∈ encode keep cs, P c := by
  intro c hc
  obtain ⟨d, -, hc⟩ := List.mem_flatMap.mp hc
  split at hc
  · rename_i hd
    rw [List.mem_singleton.mp hc]
    exact hkeep d hd
  · obtain ⟨b, -, hc⟩ := List.mem_flatMap.mp hc
    have hlt := b.toNat_lt
    rcases List.mem_cons.mp hc with rfl | hc
    · exact hpercent
    rcases List.mem_pair.mp hc with rfl | rfl
    · exact hdigit _ (by omega)
    · exact hdigit _ (by omega)

/-! ### Decoding -/

/-- The byte that three characters escape. -/
def escaped (c a b : Char) : Option UInt8 :=
  if c = '%' then do
    let high ← hexValue a
    let low ← hexValue b
    return UInt8.ofNat (16 * high + low)
  else none

/-- The bytes of a character outside of escapes. -/
def literal (plus : Bool) (c : Char) : List UInt8 :=
  if plus && c == '+' then [0x20] else String.utf8EncodeChar c

/-- The bytes of an encoded text; with `plus`, a plus sign is a space. -/
def decode (plus : Bool) : List Char → List UInt8
  | c :: a :: b :: rest =>
      match escaped c a b with
      | some byte => byte :: decode plus rest
      | none => literal plus c ++ decode plus (a :: b :: rest)
  | cs => cs.flatMap (literal plus)

section Decode

variable {plus : Bool}

@[simp] theorem decode_nil : decode plus [] = [] := rfl

theorem literal_of_ne {c : Char} (h : c ≠ '+') : literal plus c = String.utf8EncodeChar c := by
  simp [literal, h]

@[simp] theorem literal_false (c : Char) : literal false c = String.utf8EncodeChar c := rfl

theorem length_literal_pos (c : Char) : 0 < (literal plus c).length := by
  unfold literal
  split
  · exact Nat.one_pos
  · exact length_utf8EncodeChar_pos c

theorem length_literal_le (c : Char) :
    (literal plus c).length ≤ (String.utf8EncodeChar c).length := by
  unfold literal
  split
  · exact length_utf8EncodeChar_pos c
  · exact Nat.le_refl _

theorem decode_escape {c a b : Char} {byte : UInt8} (h : escaped c a b = some byte)
    (rest : List Char) : decode plus (c :: a :: b :: rest) = byte :: decode plus rest := by
  simp only [decode, h]

/-- A text **begins with an escape**. -/
def BeginsEscaped : List Char → Prop
  | c :: a :: b :: _ => escaped c a b ≠ none
  | _ => False

/-- Decoding a character outside of escapes. -/
theorem decode_literal {c : Char} {rest : List Char} (h : ¬ BeginsEscaped (c :: rest)) :
    decode plus (c :: rest) = literal plus c ++ decode plus rest := by
  match rest with
  | [] => rfl
  | [a] => rfl
  | a :: b :: rest =>
      have hnone : escaped c a b = none := not_not.mp h
      simp only [decode, hnone]

theorem not_beginsEscaped {c : Char} (h : c ≠ '%') (rest : List Char) :
    ¬ BeginsEscaped (c :: rest) := by
  match rest with
  | [] => exact id
  | [a] => exact id
  | a :: b :: rest => exact fun hescape => hescape (if_neg h)

/-- Induction over the escapes and the other characters of a text. -/
theorem decode_induction {motive : List Char → Prop} (nil : motive [])
    (escape : ∀ c a b byte rest, escaped c a b = some byte → motive rest →
      motive (c :: a :: b :: rest))
    (single : ∀ c rest, ¬ BeginsEscaped (c :: rest) → motive rest → motive (c :: rest)) :
    ∀ cs, motive cs
  | [] => nil
  | [c] => single c [] id nil
  | [c, d] => single c [d] id (single d [] id nil)
  | c :: a :: b :: rest =>
      match h : escaped c a b with
      | some byte =>
          escape c a b byte rest h (decode_induction nil escape single rest)
      | none =>
          single c (a :: b :: rest) (not_not.mpr h)
            (decode_induction nil escape single (a :: b :: rest))

/-- Only the empty text is decoded to nothing. -/
theorem decode_eq_nil_iff {cs : List Char} : decode plus cs = [] ↔ cs = [] := by
  refine ⟨fun h => ?_, fun h => h ▸ decode_nil⟩
  cases cs using decode_induction with
  | nil => rfl
  | escape c a b byte rest hescape _ =>
      rw [decode_escape hescape] at h
      cases h
  | single c rest hsingle _ =>
      have hc := @length_literal_pos plus c
      rw [decode_literal hsingle, List.append_eq_nil_iff] at h
      rw [h.1] at hc
      cases hc

/-- Decoding does not lengthen a text. -/
theorem length_decode_le (cs : List Char) : (decode plus cs).length ≤ (utf8 cs).length := by
  induction cs using decode_induction with
  | nil => exact Nat.le_refl 0
  | escape c a b byte rest h ih =>
      have hc := length_utf8EncodeChar_pos c
      rw [decode_escape h]
      simp only [List.length_cons, utf8_cons, List.length_append]
      omega
  | single c rest h ih =>
      have hc := @length_literal_le plus c
      rw [decode_literal h]
      simp only [utf8_cons, List.length_append]
      omega

end Decode

/-! ### Decoding an encoded text -/

theorem escaped_encodeByte (b : UInt8) :
    escaped '%' (hexDigit (b.toNat / 16)) (hexDigit (b.toNat % 16)) = some b := by
  have hlt := b.toNat_lt
  have hhigh : b.toNat / 16 < 16 := by omega
  have hlow : b.toNat % 16 < 16 := by omega
  have hvalue : 16 * (b.toNat / 16) + b.toNat % 16 = b.toNat := by omega
  simp only [escaped, if_true, hexValue_hexDigit _ hhigh, hexValue_hexDigit _ hlow,
    Option.bind_eq_bind, Option.bind_some, Option.pure_def, hvalue, UInt8.ofNat_toNat]

theorem decode_encodeBytes {plus : Bool} (bytes : List UInt8) (rest : List Char) :
    decode plus (bytes.flatMap encodeByte ++ rest) = bytes ++ decode plus rest := by
  induction bytes with
  | nil => rfl
  | cons b bytes ih =>
      rw [List.flatMap_cons, List.append_assoc]
      exact (decode_escape (escaped_encodeByte b) _).trans (congrArg (b :: ·) ih)

/-- **An encoded text is decoded to its bytes**, also before another text. -/
theorem decode_encode_append {keep : Char → Bool} {plus : Bool} (hpercent : keep '%' = false)
    (hplus : keep '+' = false) (cs rest : List Char) :
    decode plus (encode keep cs ++ rest) = utf8 cs ++ decode plus rest := by
  induction cs with
  | nil => rfl
  | cons c cs ih =>
      rw [encode, List.flatMap_cons, List.append_assoc, utf8_cons, List.append_assoc]
      split
      · rename_i hkeep
        have hc : c ≠ '%' := fun heq => by
          rw [heq, hpercent] at hkeep
          cases hkeep
        have hc' : c ≠ '+' := fun heq => by
          rw [heq, hplus] at hkeep
          cases hkeep
        rw [List.singleton_append, decode_literal (not_beginsEscaped hc _), literal_of_ne hc']
        exact congrArg (String.utf8EncodeChar c ++ ·) ih
      · rw [decode_encodeBytes]
        exact congrArg (String.utf8EncodeChar c ++ ·) ih

/-- **An encoded text is decoded to its bytes.** -/
theorem decode_encode {keep : Char → Bool} {plus : Bool} (hpercent : keep '%' = false)
    (hplus : keep '+' = false) (cs : List Char) : decode plus (encode keep cs) = utf8 cs := by
  have h := @decode_encode_append keep plus hpercent hplus cs []
  simpa using h

/-! ### Texts that decoding does not change -/

/-- A text **is plain**: it has no escapes, nor plus signs that are read as spaces. -/
structure Plain (plus : Bool) (cs : List Char) : Prop where
  escapes : ∀ rest, rest <:+ cs → ¬ BeginsEscaped rest
  plusSigns : plus = true → '+' ∉ cs

theorem plain_nil (plus : Bool) : Plain plus [] where
  escapes rest hrest := by
    rw [List.suffix_nil.mp hrest]
    exact id
  plusSigns _ := List.not_mem_nil

theorem plain_cons_iff {plus : Bool} {c : Char} {cs : List Char} :
    Plain plus (c :: cs) ↔
      ¬ BeginsEscaped (c :: cs) ∧ ¬ (plus = true ∧ c = '+') ∧ Plain plus cs := by
  constructor
  · rintro ⟨hescapes, hplus⟩
    refine ⟨hescapes _ (List.suffix_refl _), ?_, ?_, ?_⟩
    · rintro ⟨htrue, rfl⟩
      exact hplus htrue List.mem_cons_self
    · exact fun rest hrest => hescapes rest (hrest.trans (List.suffix_cons c cs))
    · exact fun htrue hmem => hplus htrue (List.mem_cons_of_mem c hmem)
  · rintro ⟨hfirst, hc, hescapes, hplus⟩
    constructor
    · intro rest hrest
      cases List.suffix_cons_iff.mp hrest with
      | inl heq => exact heq ▸ hfirst
      | inr hsuffix => exact hescapes rest hsuffix
    · intro htrue hmem
      cases List.mem_cons.mp hmem with
      | inl heq => exact hc ⟨htrue, heq.symm⟩
      | inr hmem => exact hplus htrue hmem

/-- **Decoding does nothing to plain texts, and to no others.** -/
theorem decode_eq_utf8_iff {plus : Bool} {cs : List Char} :
    decode plus cs = utf8 cs ↔ Plain plus cs := by
  induction cs using decode_induction with
  | nil => exact iff_of_true rfl (plain_nil plus)
  | escape c a b byte rest h ih =>
      refine iff_of_false (fun heq => ?_) fun hplain => ?_
      · -- the text of an escape has more bytes than the escape
        have hlength := congrArg List.length heq
        have hle := @length_decode_le plus rest
        have hc := length_utf8EncodeChar_pos c
        have ha := length_utf8EncodeChar_pos a
        rw [decode_escape h] at hlength
        simp only [List.length_cons, utf8_cons, List.length_append] at hlength
        have hb := length_utf8EncodeChar_pos b
        omega
      · refine (plain_cons_iff.mp hplain).1 ?_
        change escaped c a b ≠ none
        rw [h]
        exact Option.some_ne_none byte
  | single c rest h ih =>
      rw [decode_literal h, plain_cons_iff, utf8_cons]
      by_cases hplus : plus = true ∧ c = '+'
      · obtain ⟨rfl, rfl⟩ := hplus
        refine iff_of_false (fun heq => ?_) fun hplain => hplain.2.1 ⟨rfl, rfl⟩
        have hhead := congrArg List.head? heq
        revert hhead
        exact of_decide_eq_false rfl
      · have hliteral : literal plus c = String.utf8EncodeChar c := by
          refine if_neg fun htrue => hplus ?_
          simpa using htrue
        rw [hliteral, List.append_right_inj, ih]
        exact ⟨fun hrest => ⟨h, hplus, hrest⟩, fun hall => hall.2.2⟩

end PercentEncoding
