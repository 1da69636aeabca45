import Cdngine.PercentEncoding
import Cdngine.Strip

/-!
# Texts in Header Values

The text of a header value is sent as one byte for each of its code units, so a text outside of
Latin-1 is not sent at all, and the other end reads a letter beyond ASCII as a byte that is not
its UTF-8. It takes the blanks at the ends off, and may decode the escapes of what is left.

## Main results

* `readValue_eq_utf8_iff`: the texts that are read as their UTF-8 bytes.
-/

namespace HeaderValues

open PercentEncoding

/-! ### Sending -/

/-- The printable characters of ASCII, and the tab. -/
def isPrintable (c : Char) : Bool := c.toNat == 0x09 || decide (0x20 ≤ c.toNat ∧ c.toNat ≤ 0x7E)

/-- The characters that a header value may hold. -/
def isFieldChar (c : Char) : Bool := isPrintable c || decide (0x80 ≤ c.toNat ∧ c.toNat ≤ 0xFF)

/-- The bytes of a text of Latin-1. -/
def latin1 (cs : List Char) : List UInt8 := cs.map fun c => UInt8.ofNat c.toNat

/-- The bytes that a header value is sent as, if it is sent. -/
def sendValue (cs : List Char) : Option (List UInt8) :=
  if cs.all isFieldChar then some (latin1 cs) else none

/-! ### Reading -/

/-- The bytes that are taken off the ends of a value. -/
def isBlank (b : UInt8) : Bool := b == 0x20 || b == 0x09

/-- The character that a byte is looked at as. -/
def byteChar (b : UInt8) : Char := Char.ofNat b.toNat

/-- A byte outside of escapes. -/
def literalByte (plus : Bool) (b : UInt8) : UInt8 := if plus && b == 0x2B then 0x20 else b

/-- The bytes of a value whose escapes are decoded; with `plus`, a plus sign is a space. -/
def decodeBytes (plus : Bool) : List UInt8 → List UInt8
  | c :: a :: b :: rest =>
      match escaped (byteChar c) (byteChar a) (byteChar b) with
      | some byte => byte :: decodeBytes plus rest
      | none => literalByte plus c :: decodeBytes plus (a :: b :: rest)
  | bytes => bytes.map (literalByte plus)

/-- The bytes that the other end reads in a value, if it is sent. -/
def readValue (plus : Bool) (cs : List Char) : Option (List UInt8) :=
  (sendValue cs).map fun bytes => decodeBytes plus (Strip.strip isBlank bytes)

/-! ### Values of ASCII -/

@[simp] theorem length_latin1 (cs : List Char) : (latin1 cs).length = cs.length :=
  List.length_map _

theorem byteChar_ofNat {c : Char} (h : c.toNat < 0x80) : byteChar (UInt8.ofNat c.toNat) = c := by
  have hnat : (UInt8.ofNat c.toNat).toNat = c.toNat := by
    rw [UInt8.toNat_ofNat']
    omega
  rw [byteChar, hnat, Char.ofNat_toNat]

theorem utf8EncodeChar_of_lt {c : Char} (h : c.toNat < 0x80) :
    String.utf8EncodeChar c = [UInt8.ofNat c.toNat] := by
  have hle : c.val.toNat ≤ 0x7F := Nat.le_of_lt_succ h
  simp only [String.utf8EncodeChar]
  rw [if_pos hle]
  rfl

theorem one_lt_length_utf8EncodeChar {c : Char} (h : 0x80 ≤ c.toNat) :
    1 < (String.utf8EncodeChar c).length := by
  have hgt : ¬ c.val.toNat ≤ 0x7F := Nat.not_le_of_lt h
  simp only [String.utf8EncodeChar]
  rw [if_neg hgt]
  split_ifs <;> simp

theorem length_le_length_utf8 (cs : List Char) : cs.length ≤ (utf8 cs).length := by
  induction cs with
  | nil => exact Nat.le_refl 0
  | cons c cs ih =>
      have hpos := length_utf8EncodeChar_pos c
      simp only [utf8_cons, List.length_append, List.length_cons]
      omega

/-- Only the texts of ASCII have no more bytes than characters. -/
theorem length_utf8_le_iff {cs : List Char} :
    (utf8 cs).length ≤ cs.length ↔ ∀ c ∈ cs, c.toNat < 0x80 := by
  induction cs with
  | nil => simp
  | cons c cs ih =>
      have hle := length_le_length_utf8 cs
      rw [utf8_cons, List.length_append, List.length_cons, List.forall_mem_cons, ← ih]
      by_cases hc : c.toNat < 0x80
      · rw [utf8EncodeChar_of_lt hc, List.length_singleton]
        omega
      · have hlong := one_lt_length_utf8EncodeChar (Nat.le_of_not_lt hc)
        omega

theorem literal_of_lt {plus : Bool} {c : Char} (h : c.toNat < 0x80) :
    literal plus c = [literalByte plus (UInt8.ofNat c.toNat)] := by
  have hplus : (UInt8.ofNat c.toNat == 0x2B) = (c == '+') := by
    rw [Bool.eq_iff_iff, beq_iff_eq, beq_iff_eq]
    constructor
    · intro heq
      rw [← byteChar_ofNat h, heq]
      rfl
    · rintro rfl
      rfl
  rw [literal, literalByte, hplus, utf8EncodeChar_of_lt h]
  split <;> rfl

/-- A value of ASCII is decoded as a text is. -/
theorem decodeBytes_latin1 (plus : Bool) :
    ∀ cs : List Char, (∀ c ∈ cs, c.toNat < 0x80) → decodeBytes plus (latin1 cs) = decode plus cs
  | [], _ => rfl
  | [c], h => by
      have hc := @literal_of_lt plus _ (h c (by simp))
      simp [decode, decodeBytes, latin1, hc]
  | [c, d], h => by
      have hc := @literal_of_lt plus _ (h c (by simp))
      have hd := @literal_of_lt plus _ (h d (by simp))
      simp [decode, decodeBytes, latin1, hc, hd]
  | c :: a :: b :: rest, h => by
      have hc := h c (by simp)
      have ha := h a (by simp)
      have hb := h b (by simp)
      have hrest := decodeBytes_latin1 plus rest fun d hd => h d (by simp [hd])
      have htail := decodeBytes_latin1 plus (a :: b :: rest) fun d hd => h d (by simp_all)
      simp only [latin1, List.map_cons] at hrest htail ⊢
      simp only [decode, decodeBytes, byteChar_ofNat hc, byteChar_ofNat ha, byteChar_ofNat hb,
        hrest, htail, literal_of_lt hc]
      cases escaped c a b <;> rfl

/-- Decoding does not lengthen a value. -/
theorem length_decodeBytes_le (plus : Bool) (bytes : List UInt8) :
    (decodeBytes plus bytes).length ≤ bytes.length := by
  fun_induction decodeBytes plus bytes with
  | case1 c a b rest byte h ih =>
      simp only [List.length_cons]
      omega
  | case2 c a b rest h ih =>
      simp only [List.length_cons] at ih ⊢
      omega
  | case3 bytes h => simp

/-! ### Values that are read as they are -/

/-- A text **is kept** in a header value: it is printable, begins and ends with no blank, and has
nothing to decode. -/
structure Kept (plus : Bool) (cs : List Char) : Prop where
  printable : ∀ c ∈ cs, isPrintable c = true
  ends : Strip.Stripped isBlank (latin1 cs)
  plain : Plain plus cs

theorem lt_of_isPrintable {c : Char} (h : isPrintable c = true) : c.toNat < 0x80 := by
  simp only [isPrintable, Bool.or_eq_true, beq_iff_eq, decide_eq_true_eq] at h
  omega

theorem isPrintable_of_isFieldChar {c : Char} (h : isFieldChar c = true) (hc : c.toNat < 0x80) :
    isPrintable c = true := by
  simp only [isFieldChar, Bool.or_eq_true, decide_eq_true_eq] at h
  rcases h with h | h
  · exact h
  · omega

/-- **The texts that the other end reads as their UTF-8 bytes** are the ones that are kept. -/
theorem readValue_eq_utf8_iff {plus : Bool} {cs : List Char} :
    readValue plus cs = some (utf8 cs) ↔ Kept plus cs := by
  rw [readValue, sendValue]
  constructor
  · intro h
    split at h
    · rename_i hfield
      have hread : decodeBytes plus (Strip.strip isBlank (latin1 cs)) = utf8 cs :=
        Option.some.inj h
      -- no step on the way lengthens the text, and its UTF-8 is at least as long as it
      have hdecode := length_decodeBytes_le plus (Strip.strip isBlank (latin1 cs))
      have hsub := Strip.strip_sublist isBlank (latin1 cs)
      have hstrip := hsub.length_le
      rw [hread] at hdecode
      rw [length_latin1] at hstrip
      have hascii := length_utf8_le_iff.mp (hdecode.trans hstrip)
      have hends : Strip.strip isBlank (latin1 cs) = latin1 cs := by
        apply hsub.eq_of_length_le
        rw [length_latin1]
        exact (length_le_length_utf8 cs).trans hdecode
      rw [hends, decodeBytes_latin1 plus cs hascii] at hread
      refine ⟨fun c hc => ?_, ?_, decode_eq_utf8_iff.mp hread⟩
      · exact isPrintable_of_isFieldChar (List.all_eq_true.mp hfield c hc) (hascii c hc)
      · rw [← hends]
        exact Strip.stripped_strip isBlank _
    · cases h
  · rintro ⟨hprintable, hends, hplain⟩
    have hfield : cs.all isFieldChar = true := List.all_eq_true.mpr fun c hc =>
      Bool.or_eq_true_iff.mpr (.inl (hprintable c hc))
    have hascii : ∀ c ∈ cs, c.toNat < 0x80 := fun c hc => lt_of_isPrintable (hprintable c hc)
    rw [if_pos hfield, Option.map_some, Strip.strip_eq_self hends,
      decodeBytes_latin1 plus cs hascii, decode_eq_utf8_iff.mpr hplain]

end HeaderValues
