import Mathlib.Data.List.TakeWhile
import Cdngine.JsonColumns
import Cdngine.JsonParsing

/-!
# JSON Texts That Are Read Back

What `JSON.stringify` writes with an indentation, `JSON.parse` reads back, at every nesting depth.
A text `ReadsAs` a value when it is read as that value wherever something else follows it; this
holds of strings and words, of the numbers whose text the platform reads back, and of lists with
any white space between their items.

## Main results

* `readsAs_array`, `readsAs_object`: texts of lists are read when those of their items are.
* `parseJson_stringifyIndented`: the indented text of a JSON value is read back as that value.
-/

namespace Cdngine

open InsertionMaps Readers

/-! ### Strings are read back -/

theorem readString_backslash {cs rest : List Char} {c : Char} (fuel : Nat)
    (h : readEscape cs = some (c, rest)) :
    readString (fuel + 1) ('\\' :: cs) = (readString fuel).change (c :: ·) rest := by
  have hchar : takeChar ('\\' :: cs) = some ('\\', cs) := rfl
  have hne : '\\' ≠ Char.ofNat 0x22 := by decide
  rw [readString, Reader.andThen_of_eq hchar, if_neg hne, if_pos rfl, Reader.andThen_of_eq h]

/-- A character that is written as its number is read back. -/
theorem readEscape_control {c : Char} (h : c.toNat < 0x20) (rest : List Char) :
    readEscape ('u' :: '0' :: '0' :: Sha256.hexDigit (c.toNat / 16) ::
      Sha256.hexDigit (c.toNat % 16) :: rest) = some (c, rest) := by
  have hdigits : ∀ n < 0x20, readDigits 16 ['0', '0', Sha256.hexDigit (n / 16),
      Sha256.hexDigit (n % 16)] = some n := by decide
  have hunit : readUnitDigits ('0' :: '0' :: Sha256.hexDigit (c.toNat / 16) ::
      Sha256.hexDigit (c.toNat % 16) :: rest) = some (c.toNat, rest) := by
    change (readDigits 16 ['0', '0', Sha256.hexDigit (c.toNat / 16),
      Sha256.hexDigit (c.toNat % 16)]).map _ = _
    rw [hdigits c.toNat h, Option.map_some]
  have hhigh : ¬ (0xD800 ≤ c.toNat ∧ c.toNat < 0xDC00) := by omega
  have hlow : ¬ (0xDC00 ≤ c.toNat ∧ c.toNat < 0xE000) := by omega
  have hletter : takeChar ('u' :: '0' :: '0' :: Sha256.hexDigit (c.toNat / 16) ::
      Sha256.hexDigit (c.toNat % 16) :: rest) = some ('u', '0' :: '0' ::
        Sha256.hexDigit (c.toNat / 16) :: Sha256.hexDigit (c.toNat % 16) :: rest) := rfl
  rw [readEscape, Reader.andThen_of_eq hletter, if_pos rfl, readUnicodeEscape,
    Reader.andThen_of_eq hunit, if_neg hhigh, if_neg hlow, Char.ofNat_toNat]
  rfl

/-- A character with an escape of its own. -/
theorem readEscape_short {letter c : Char} (hletter : letter ≠ 'u')
    (h : unescapedLetter letter = some c) (rest : List Char) :
    readEscape (letter :: rest) = some (c, rest) := by
  have hchar : takeChar (letter :: rest) = some (letter, rest) := rfl
  rw [readEscape, Reader.andThen_of_eq hchar, if_neg hletter, Reader.lift, h, Option.map_some]

/-- An escaped character is read back. -/
theorem readString_escapeChar (c : Char) (fuel : Nat) (rest : List Char) :
    readString (fuel + 1) ((escapeChar c).toList ++ rest) =
      (readString fuel).change (c :: ·) rest := by
  unfold escapeChar
  split
  case h_8 n hquote hbackslash h3 h4 h5 h6 h7 =>
    split
    · rename_i hcontrol
      have htext : "\\u00".toList = ['\\', 'u', '0', '0'] := by decide
      rw [String.toList_append, htext, String.toList_ofList]
      exact readString_backslash fuel (readEscape_control hcontrol rest)
    · rename_i hcontrol
      have hchar : takeChar (c :: rest) = some (c, rest) := rfl
      have hne : c ≠ Char.ofNat 0x22 := by
        rintro rfl
        exact hquote rfl
      have hne' : c ≠ '\\' := by
        rintro rfl
        exact hbackslash rfl
      rw [String.toList_singleton, List.singleton_append, readString, Reader.andThen_of_eq hchar,
        if_neg hne, if_neg hne', if_neg hcontrol]
  all_goals
    rename_i h
    rw [eq_ofNat_of_toNat h]
    exact readString_backslash fuel (readEscape_short (by decide) rfl rest)

/-- The characters of a quoted string are read back. -/
theorem readString_escaped {cs : List Char} {fuel : Nat} (h : cs.length < fuel)
    (rest : List Char) :
    readString fuel (cs.flatMap (fun c => (escapeChar c).toList) ++ Char.ofNat 0x22 :: rest) =
      some (cs, rest) := by
  induction cs generalizing fuel with
  | nil =>
      obtain ⟨fuel, rfl⟩ := Nat.exists_eq_add_one_of_ne_zero (Nat.ne_zero_of_lt h)
      rfl
  | cons c cs ih =>
      obtain ⟨fuel, rfl⟩ := Nat.exists_eq_add_one_of_ne_zero (Nat.ne_zero_of_lt h)
      rw [List.flatMap_cons, List.append_assoc, readString_escapeChar]
      exact Reader.change_of_eq (ih (Nat.lt_of_succ_lt_succ h))

theorem length_le_escaped (cs : List Char) :
    cs.length ≤ (cs.flatMap fun c => (escapeChar c).toList).length := by
  induction cs with
  | nil => exact Nat.le_refl 0
  | cons c cs ih =>
      have hpos := List.length_pos_iff.mpr (escapeChar_ne_nil c)
      rw [List.flatMap_cons, List.length_append, List.length_cons]
      omega

/-- **A quoted string is read back.** -/
theorem readString_quote (s : String) (rest : List Char) {fuel : Nat}
    (h : (quote s).toList.length ≤ fuel) :
    ∃ cs, (quote s).toList ++ rest = Char.ofNat 0x22 :: cs ∧
      readString fuel cs = some (s.toList, rest) := by
  rw [quote_toList] at h ⊢
  have hlength := length_le_escaped s.toList
  simp only [List.length_cons, List.length_append, List.length_nil] at h
  refine ⟨s.toList.flatMap (fun c => (escapeChar c).toList) ++ Char.ofNat 0x22 :: rest, ?_, ?_⟩
  · rw [List.cons_append, List.append_assoc, List.singleton_append]
  · exact readString_escaped (by omega) rest

/-! ### Numbers are read back -/

/-- No number but zero begins with a zero. -/
theorem head?_toDigits_ten {n : Nat} (h : 0 < n) : (Nat.toDigits 10 n).head? ≠ some '0' := by
  induction n using Nat.strong_induction_on with
  | _ n ih =>
      by_cases hsmall : n < 10
      · have hall : ∀ n < 10, 0 < n → some n.digitChar ≠ some '0' := by decide
        rw [Nat.toDigits_of_lt_base hsmall]
        exact hall n hsmall h
      · rw [Nat.toDigits_of_base_le (by decide) (Nat.le_of_not_lt hsmall),
          List.head?_append_of_ne_nil _ Nat.toDigits_ne_nil]
        exact ih (n / 10) (by omega) (by omega)

theorem readInteger_toDigits (n : Nat) :
    readInteger (Nat.toDigits 10 n) = some (Nat.toDigits 10 n, []) := by
  have hall : ∀ c ∈ Nat.toDigits 10 n, c.isDigit = true := fun c hc =>
    isDigit_of_mem_toDigits_ten hc
  have hrun : readDigitRun (Nat.toDigits 10 n) = some (Nat.toDigits 10 n, []) := by
    have htake : (Nat.toDigits 10 n).takeWhile Char.isDigit = Nat.toDigits 10 n :=
      List.takeWhile_eq_self_iff.mpr hall
    have hdrop : (Nat.toDigits 10 n).dropWhile Char.isDigit = [] :=
      List.dropWhile_eq_nil_iff.mpr hall
    have hne : Nat.toDigits 10 n ≠ [] := Nat.toDigits_ne_nil
    simp only [readDigitRun, htake, hdrop, if_neg hne]
  have hzero : ¬ ((Nat.toDigits 10 n).head? = some '0' ∧ Nat.toDigits 10 n ≠ ['0']) := by
    rintro ⟨hhead, hne⟩
    cases n with
    | zero => exact hne rfl
    | succ n => exact head?_toDigits_ten n.succ_pos hhead
  rw [readInteger, Reader.andThen_of_eq hrun, if_neg hzero]
  rfl

/-- **An integer that a double holds exactly is read back from its decimal text.** -/
theorem readNumber_toString {n : Int} (h : n.natAbs < 2 ^ 53) :
    readNumber (toString n).toList = some (.finite n, []) := by
  have hnearest : nearestNumber n = .finite n := if_pos ⟨rfl, h⟩
  have hvalue : ∀ m : Nat, Nat.ofDigitChars 10 (Nat.toDigits 10 m ++ []) 0 = m := fun m => by
    rw [List.append_nil, Nat.ofDigitChars_ten_toDigits]
  cases n with
  | ofNat m =>
      have hminus : readMinus (Nat.toDigits 10 m) = some (false, Nat.toDigits 10 m) := by
        have hhead : (Nat.toDigits 10 m).head?.any (· == '-') = false := by
          rw [Bool.eq_false_iff]
          intro hany
          obtain ⟨c, hc, hsign⟩ := (Option.any_eq_true _ _).mp hany
          have hdigit := isDigit_of_mem_toDigits_ten (List.mem_of_mem_head? hc)
          rw [beq_iff_eq.mp hsign] at hdigit
          cases hdigit
        simp only [readMinus, Reader.ifHead, hhead, Bool.false_eq_true, if_false]
        rfl
      have hdecimal : decimalValue false (Nat.toDigits 10 m) [] 0 = (Int.ofNat m : Rat) := by
        simp [decimalValue, Nat.ofDigitChars_ten_toDigits]
      rw [toList_toString_ofNat, readNumber, Reader.andThen_of_eq hminus,
        Reader.andThen_of_eq (readInteger_toDigits m)]
      change some (nearestNumber (decimalValue false (Nat.toDigits 10 m) [] 0), []) = _
      rw [hdecimal, hnearest]
  | negSucc m =>
      have hdecimal : decimalValue true (Nat.toDigits 10 (m + 1)) [] 0 = (Int.negSucc m : Rat) := by
        simp [decimalValue, Nat.ofDigitChars_ten_toDigits, Int.negSucc_eq]
      have hminus : readMinus ('-' :: Nat.toDigits 10 (m + 1)) =
          some (true, Nat.toDigits 10 (m + 1)) := rfl
      rw [toList_toString_negSucc, readNumber, Reader.andThen_of_eq hminus,
        Reader.andThen_of_eq (readInteger_toDigits (m + 1))]
      change some (nearestNumber (decimalValue true (Nat.toDigits 10 (m + 1)) [] 0), []) = _
      rw [hdecimal, hnearest]

/-- A number begins with a character that numbers have. -/
theorem readNumber_begins {cs rest : List Char} {n : JsNumber}
    (h : readNumber cs = some (n, rest)) : ∃ c cs', cs = c :: cs' ∧ isNumberChar c = true := by
  cases cs with
  | nil => cases h
  | cons c cs =>
      refine ⟨c, cs, rfl, ?_⟩
      by_contra hchar
      simp only [isNumberChar, Bool.or_eq_true, not_or, Bool.not_eq_true] at hchar
      have hminus : readMinus (c :: cs) = some (false, c :: cs) := by
        simp only [readMinus, Reader.ifHead, List.head?_cons, Option.any_some, hchar.1.1.1.2,
          Bool.false_eq_true, if_false]
        rfl
      have hdigits : readDigitRun (c :: cs) = none := by
        simp only [readDigitRun, List.takeWhile_cons, hchar.1.1.1.1, Bool.false_eq_true, if_false,
          if_true]
      rw [readNumber, Reader.andThen_of_eq hminus, readInteger, Reader.andThen, Reader.andThen,
        hdigits] at h
      cases h

/-! ### Values are read back -/

/-- A text is read as a value, wherever something else follows it. -/
def ReadsAs (text : List Char) (value : JsValue) : Prop :=
  ∀ fuel rest, 2 * text.length ≤ fuel → EndsNumber rest →
    readValue fuel (text ++ rest) = some (value, rest)

/-- White space. -/
def IsSpace (cs : List Char) : Prop := ∀ c ∈ cs, isJsonSpace c = true

theorem endsNumber_nil : EndsNumber [] := fun c hc => by cases hc

theorem endsNumber_cons {c : Char} (hc : isNumberChar c = false ∧ c ≠ 'E') (rest : List Char) :
    EndsNumber (c :: rest) := by
  intro d hd
  obtain rfl := Option.some.inj hd
  exact hc

theorem IsSpace.endsNumber {space rest : List Char} (h : IsSpace space) (hrest : EndsNumber rest) :
    EndsNumber (space ++ rest) := by
  cases space with
  | nil => exact hrest
  | cons c space =>
      refine endsNumber_cons ?_ _
      have hc := h c List.mem_cons_self
      simp only [isJsonSpace, Bool.or_eq_true, beq_iff_eq] at hc
      rcases hc with ((rfl | rfl) | rfl) | rfl
      · decide
      · decide
      · decide
      · decide

theorem readValue_space {space : List Char} (h : IsSpace space) (fuel : Nat) (cs : List Char) :
    readValue fuel (space ++ cs) = readValue fuel cs := by
  cases fuel with
  | zero => rfl
  | succ fuel => rw [readValue, Reader.andThen, Reader.andThen, nextChar_space h]

/-- The steps for a text that is not empty. -/
theorem exists_steps {n fuel : Nat} (hn : 0 < n) (h : 2 * n ≤ fuel) :
    ∃ steps, fuel = steps + 1 ∧ 2 * n ≤ steps + 1 := by
  refine ⟨fuel - 1, ?_, ?_⟩ <;> omega

theorem readsAs_word {c : Char} {word : List Char} {value : JsValue}
    (h : ∀ fuel rest, readValue (fuel + 1) (c :: rest) = readWord word value rest) :
    ReadsAs (c :: word) value := by
  intro fuel rest hfuel _
  obtain ⟨steps, rfl, -⟩ := exists_steps (Nat.succ_pos word.length) hfuel
  rw [List.cons_append, h, readWord, if_pos (List.prefix_append _ _), List.drop_left]

theorem readsAs_number {text : List Char} {n : JsNumber} (h : readNumber text = some (n, [])) :
    ReadsAs text (.number n) := by
  intro fuel rest hfuel hrest
  obtain ⟨c, cs, rfl, hc⟩ := readNumber_begins h
  obtain ⟨steps, rfl, -⟩ := exists_steps (Nat.succ_pos cs.length) hfuel
  have hne : ∀ d, isNumberChar d = false → c ≠ d := by
    rintro d hd rfl
    rw [hc] at hd
    cases hd
  have hspace : isJsonSpace c = false := by
    rw [Bool.eq_false_iff]
    intro hspace
    have hblank : IsSpace [c] := fun d hd => by rwa [List.mem_singleton.mp hd]
    have hends := hblank.endsNumber endsNumber_nil c rfl
    rw [hc] at hends
    cases hends.1
  have hread := lawful_readNumber.later h fun _ => hrest
  rw [List.cons_append, readValue_cons hspace, if_neg (hne _ (by decide)),
    if_neg (hne _ (by decide)), if_neg (hne _ (by decide)), if_neg (hne _ (by decide)),
    if_neg (hne _ (by decide)), if_neg (hne _ (by decide))]
  exact Reader.change_of_eq hread

theorem readsAs_quote (s : String) : ReadsAs (quote s).toList (.string s) := by
  intro fuel rest hfuel _
  have hpos : 0 < (quote s).toList.length := by
    rw [quote_toList]
    exact Nat.succ_pos _
  obtain ⟨steps, rfl, hsteps⟩ := exists_steps hpos hfuel
  have hsteps' : (quote s).toList.length < steps + 1 := by omega
  obtain ⟨cs, htext, hread⟩ := readString_quote s rest (Nat.le_of_lt_succ hsteps')
  have hvalue := Reader.change_of_eq (f := fun cs => JsValue.string (String.ofList cs)) hread
  rw [htext, readValue_cons (by decide), if_neg (by decide), if_neg (by decide), if_pos rfl, hvalue,
    String.ofList_toList]

/-- The text of an entry, with white space behind its colon. -/
def entryText (gap : List Char) (entry : String × List Char × JsValue) : List Char :=
  (quote entry.1).toList ++ ':' :: (gap ++ entry.2.1)

/-- An entry is read up to what follows its value. -/
theorem readEntries_entry {before gap : List Char} (hbefore : IsSpace before) (hgap : IsSpace gap)
    {entry : String × List Char × JsValue} (hread : ReadsAs entry.2.1 entry.2.2) {fuel : Nat}
    (hfuel : 2 * (entryText gap entry).length ≤ fuel + 1) {c : Char} {rest next : List Char}
    (hnext : nextChar next = some (c, rest)) (hends : EndsNumber next) :
    readEntries (fuel + 1) (before ++ (entryText gap entry ++ next)) =
      (if c = '\x7d' then .done [(entry.1, entry.2.2)]
      else if c = ',' then (readEntries fuel).change ((entry.1, entry.2.2) :: ·)
      else .refuse : Reader (List (String × JsValue))) rest := by
  obtain ⟨key, text, value⟩ := entry
  simp only [entryText, List.length_append, List.length_cons] at hfuel hread ⊢
  have hlength : (quote key).toList.length ≤ fuel := by omega
  obtain ⟨cs, htext, hkey⟩ := readString_quote key (':' :: (gap ++ (text ++ next))) hlength
  have hvalue := hread fuel next (by omega) hends
  rw [← readValue_space hgap] at hvalue
  have hstart : before ++ ((quote key).toList ++ ':' :: (gap ++ text) ++ next) =
      before ++ Char.ofNat 0x22 :: cs := by
    rw [← htext]
    simp only [List.append_assoc, List.cons_append]
  rw [hstart, readEntries, Reader.andThen_of_eq
    ((nextChar_space hbefore _).trans (nextChar_cons (by decide) cs)), if_pos rfl,
    Reader.andThen_of_eq hkey, Reader.andThen_of_eq (nextChar_cons (by decide) _), if_pos rfl,
    Reader.andThen_of_eq hvalue, Reader.andThen_of_eq hnext, String.ofList_toList]

/-- Nothing between brackets. -/
theorem readList_closed {α : Type} {close : Char} (hclose : isJsonSpace close = false)
    (body : Reader (List α)) (rest : List Char) :
    readList close body (close :: rest) = some ([], rest) := by
  rw [readList, nextChar_cons hclose, Option.bind_some, if_pos rfl]

theorem readsAs_emptyArray : ReadsAs ['[', ']'] (.array []) := by
  intro fuel rest hfuel _
  obtain ⟨steps, rfl, -⟩ := exists_steps (Nat.succ_pos _) hfuel
  rw [List.cons_append, readValue_cons (by decide), if_pos rfl]
  exact Reader.change_of_eq (readList_closed (by decide) _ rest)

theorem readsAs_emptyObject : ReadsAs ['\x7b', '\x7d'] (.object []) := by
  intro fuel rest hfuel _
  obtain ⟨steps, rfl, -⟩ := exists_steps (Nat.succ_pos _) hfuel
  rw [List.cons_append, readValue_cons (by decide), if_neg (by decide), if_pos rfl]
  exact Reader.change_of_eq (f := objectOf) (readList_closed (by decide) _ rest)

section Lists

variable {before after : List Char} (hbefore : IsSpace before) (hafter : IsSpace after)
include hbefore hafter

/-- **The items of an array are read back**, with white space before and behind them. -/
theorem readItems_between {items : List (List Char × JsValue)} (hne : items ≠ [])
    (hread : ∀ item ∈ items, ReadsAs item.1 item.2) (fuel : Nat) (rest : List Char)
    (hfuel : 2 * ((',' :: before).intercalate (items.map Prod.fst)).length + 1 ≤ fuel) :
    readItems fuel (before ++ ((',' :: before).intercalate (items.map Prod.fst) ++
      (after ++ ']' :: rest))) = some (items.map Prod.snd, rest) := by
  have hclose : ∀ rest, EndsNumber (after ++ ']' :: rest) := fun rest =>
    hafter.endsNumber (endsNumber_cons (by decide) rest)
  have hcomma : ∀ rest, EndsNumber (',' :: rest) := fun rest => endsNumber_cons (by decide) rest
  induction items generalizing fuel with
  | nil => exact absurd rfl hne
  | cons item items ih =>
      obtain ⟨hitem, hitems⟩ := List.forall_mem_cons.mp hread
      obtain ⟨fuel, rfl⟩ := Nat.exists_eq_add_one_of_ne_zero (show fuel ≠ 0 by omega)
      cases items with
      | nil =>
          simp only [List.map_cons, List.map_nil, List.intercalate_singleton] at hfuel ⊢
          have hvalue := hitem fuel _ (by omega) (hclose rest)
          rw [← readValue_space hbefore] at hvalue
          rw [readItems, Reader.andThen_of_eq hvalue, Reader.andThen_of_eq
            ((nextChar_space hafter _).trans (nextChar_cons (by decide) rest)), if_pos rfl]
          rfl
      | cons next items =>
          simp only [List.map_cons, List.intercalate_cons_cons, List.append_assoc,
            List.cons_append, List.length_append, List.length_cons] at hfuel ⊢
          have hvalue := hitem fuel (',' :: (before ++ ((',' :: before).intercalate
            (next.1 :: items.map Prod.fst) ++ (after ++ ']' :: rest)))) (by omega) (hcomma _)
          have hrest := ih (List.cons_ne_nil _ _) hitems fuel (by
            simp only [List.map_cons]
            omega)
          rw [← readValue_space hbefore] at hvalue
          rw [readItems, Reader.andThen_of_eq hvalue,
            Reader.andThen_of_eq (nextChar_cons (by decide) _), if_neg (by decide), if_pos rfl]
          exact Reader.change_of_eq hrest

/-- **The entries of an object are read back**, with white space before and behind them. -/
theorem readEntries_between {gap : List Char} (hgap : IsSpace gap)
    {entries : List (String × List Char × JsValue)} (hne : entries ≠ [])
    (hread : ∀ entry ∈ entries, ReadsAs entry.2.1 entry.2.2) (fuel : Nat) (rest : List Char)
    (hfuel : 2 * ((',' :: before).intercalate (entries.map (entryText gap))).length + 1 ≤ fuel) :
    readEntries fuel (before ++ ((',' :: before).intercalate (entries.map (entryText gap)) ++
      (after ++ '\x7d' :: rest))) = some (entries.map fun entry => (entry.1, entry.2.2), rest) := by
  induction entries generalizing fuel with
  | nil => exact absurd rfl hne
  | cons entry entries ih =>
      obtain ⟨hentry, hentries⟩ := List.forall_mem_cons.mp hread
      obtain ⟨fuel, rfl⟩ := Nat.exists_eq_add_one_of_ne_zero (show fuel ≠ 0 by omega)
      cases entries with
      | nil =>
          simp only [List.map_cons, List.map_nil, List.intercalate_singleton] at hfuel ⊢
          rw [readEntries_entry hbefore hgap hentry (by omega)
            ((nextChar_space hafter _).trans (nextChar_cons (by decide) rest))
            (hafter.endsNumber (endsNumber_cons (by decide) rest)), if_pos rfl]
          rfl
      | cons next entries =>
          simp only [List.map_cons, List.intercalate_cons_cons, List.append_assoc,
            List.cons_append, List.length_append, List.length_cons] at hfuel ⊢
          have hrest := ih (List.cons_ne_nil _ _) hentries fuel (by
            simp only [List.map_cons]
            omega)
          rw [readEntries_entry hbefore hgap hentry (by omega)
            (nextChar_cons (by decide) _) (endsNumber_cons (by decide) _), if_neg (by decide),
            if_pos rfl]
          exact Reader.change_of_eq hrest

/-- **The text of an array is read as the array of what its items are read as.** -/
theorem readsAs_array (items : List (List Char × JsValue)) (hne : items ≠ [])
    (hread : ∀ item ∈ items, ReadsAs item.1 item.2)
    (hbegins : ∀ item ∈ items, ∃ c cs, item.1 = c :: cs ∧ isJsonSpace c = false ∧ c ≠ ']') :
    ReadsAs ('[' :: (before ++ ((',' :: before).intercalate (items.map Prod.fst) ++
      (after ++ [']'])))) (.array (items.map Prod.snd)) := by
  intro fuel rest hfuel _
  simp only [List.length_cons, List.length_append, List.length_nil] at hfuel
  obtain ⟨steps, rfl, hsteps⟩ := exists_steps (Nat.succ_pos _) hfuel
  have hbody := readItems_between hbefore hafter hne hread steps rest (by omega)
  obtain ⟨item, items, rfl⟩ := List.exists_cons_of_ne_nil hne
  obtain ⟨c, cs, hitem, hc, hclose⟩ := hbegins item List.mem_cons_self
  obtain ⟨cs', htext⟩ : ∃ cs', (',' :: before).intercalate ((item :: items).map Prod.fst) ++
      (after ++ ']' :: rest) = c :: cs' := by
    cases items with
    | nil =>
        rw [List.map_singleton, List.intercalate_singleton, hitem]
        exact ⟨_, rfl⟩
    | cons next items =>
        rw [List.map_cons, List.map_cons, List.intercalate_cons_cons, hitem]
        exact ⟨_, rfl⟩
  have hlist : readList ']' (readItems steps) (before ++ ((',' :: before).intercalate
      ((item :: items).map Prod.fst) ++ (after ++ ']' :: rest))) =
        some ((item :: items).map Prod.snd, rest) := by
    rw [readList, nextChar_space hbefore, htext, nextChar_cons hc, Option.bind_some,
      if_neg hclose, ← htext]
    exact hbody
  have hvalue := Reader.change_of_eq (f := JsValue.array) hlist
  rw [List.cons_append, readValue_cons (by decide), if_pos rfl]
  simp only [List.append_assoc, List.singleton_append]
  exact hvalue

/-- **The text of an object with different keys is read as the object.** -/
theorem readsAs_object {gap : List Char} (hgap : IsSpace gap)
    (entries : List (String × List Char × JsValue)) (hne : entries ≠ [])
    (hread : ∀ entry ∈ entries, ReadsAs entry.2.1 entry.2.2)
    (hkeys : (entries.map Prod.fst).Nodup) :
    ReadsAs ('\x7b' :: (before ++ ((',' :: before).intercalate (entries.map (entryText gap)) ++
      (after ++ ['\x7d'])))) (.object (entries.map fun entry => (entry.1, entry.2.2))) := by
  intro fuel rest hfuel _
  simp only [List.length_cons, List.length_append, List.length_nil] at hfuel
  obtain ⟨steps, rfl, hsteps⟩ := exists_steps (Nat.succ_pos _) hfuel
  have hbody := readEntries_between hbefore hafter hgap hne hread steps rest (by omega)
  obtain ⟨entry, entries, rfl⟩ := List.exists_cons_of_ne_nil hne
  obtain ⟨cs, htext⟩ : ∃ cs, (',' :: before).intercalate
      ((entry :: entries).map (entryText gap)) ++ (after ++ '\x7d' :: rest) =
        Char.ofNat 0x22 :: cs := by
    cases entries with
    | nil =>
        rw [List.map_singleton, List.intercalate_singleton, entryText, quote_toList]
        exact ⟨_, rfl⟩
    | cons next entries =>
        rw [List.map_cons, List.map_cons, List.intercalate_cons_cons, entryText, quote_toList]
        exact ⟨_, rfl⟩
  have hlist : readList '\x7d' (readEntries steps) (before ++ ((',' :: before).intercalate
      ((entry :: entries).map (entryText gap)) ++ (after ++ '\x7d' :: rest))) =
        some ((entry :: entries).map (fun entry => (entry.1, entry.2.2)), rest) := by
    have hquote : Char.ofNat 0x22 ≠ '\x7d' := by decide
    rw [readList, nextChar_space hbefore, htext, nextChar_cons (by decide), Option.bind_some,
      if_neg hquote, ← htext]
    exact hbody
  have hobject : objectOf ((entry :: entries).map fun entry => (entry.1, entry.2.2)) =
      .object ((entry :: entries).map fun entry => (entry.1, entry.2.2)) := by
    have hnodup : (((entry :: entries).map fun e => (e.1, e.2.2)).map Prod.fst).Nodup := by
      rw [List.map_map]
      exact hkeys
    have hentries := InsertionMap.setAll_entries ⟨_, hnodup⟩
    rw [objectOf, hentries]
  have hvalue := Reader.change_of_eq (f := objectOf) hlist
  rw [hobject] at hvalue
  rw [List.cons_append, readValue_cons (by decide), if_neg (by decide), if_pos rfl]
  simp only [List.append_assoc, List.singleton_append]
  exact hvalue

end Lists

/-! ### Indented texts are read back -/

variable {rt : Runtime}

mutual

/-- Every number of the value is read back from its text, and every object has different keys. -/
def Json.Readable (rt : Runtime) : Json → Prop
  | .null => True
  | .boolean _ => True
  | .number q => readNumber (stringifyNumber rt q).toList = some (.finite q, [])
  | .string _ => True
  | .array items => Json.ItemsReadable rt items
  | .object entries => (entries.map Prod.fst).Nodup ∧ Json.EntriesReadable rt entries

/-- The items of an array are `Readable`. -/
def Json.ItemsReadable (rt : Runtime) : List Json → Prop
  | [] => True
  | item :: items => item.Readable rt ∧ Json.ItemsReadable rt items

/-- The values of an object are `Readable`. -/
def Json.EntriesReadable (rt : Runtime) : List (String × Json) → Prop
  | [] => True
  | (_, entry) :: entries => entry.Readable rt ∧ Json.EntriesReadable rt entries

end

theorem itemsReadable_iff {items : List Json} :
    Json.ItemsReadable rt items ↔ ∀ item ∈ items, item.Readable rt := by
  induction items with
  | nil => exact iff_of_true trivial fun _ h => absurd h List.not_mem_nil
  | cons item items ih => rw [Json.ItemsReadable, ih, List.forall_mem_cons]

theorem entriesReadable_iff {entries : List (String × Json)} :
    Json.EntriesReadable rt entries ↔ ∀ entry ∈ entries, entry.2.Readable rt := by
  induction entries with
  | nil => exact iff_of_true trivial fun _ h => absurd h List.not_mem_nil
  | cons entry entries ih => rw [Json.EntriesReadable, ih, List.forall_mem_cons]

/-- A number that is an integer below two to the power of 53 is read back. -/
theorem readable_number {q : Rat} (hden : q.den = 1) (h : q.num.natAbs < 2 ^ 53) :
    (Json.number q).Readable rt := by
  have hplain : IsPlain q := ⟨hden, by omega⟩
  have hq : (q.num : Rat) = q := Rat.ext rfl hden.symm
  rw [Json.Readable, stringifyNumber, renderNumber_of_plain hplain, readNumber_toString h, hq]

theorem indentedItems_eq_map (depth : Nat) (items : List Json) :
    indentedItems rt depth items = items.map (stringifyIndented rt depth) := by
  induction items with
  | nil => simp only [indentedItems, List.map_nil]
  | cons item items ih => rw [indentedItems, ih, List.map_cons]

theorem indentedEntries_eq_map (depth : Nat) (entries : List (String × Json)) :
    indentedEntries rt depth entries =
      entries.map fun e => quote e.1 ++ ": " ++ stringifyIndented rt depth e.2 := by
  induction entries with
  | nil => simp only [indentedEntries, List.map_nil]
  | cons entry entries ih => rw [indentedEntries, ih, List.map_cons]

/-- The characters of a line break. -/
def newlineChars (depth : Nat) : List Char := '\n' :: List.replicate (2 * depth) ' '

theorem newline_toList (depth : Nat) : (newline depth).toList = newlineChars depth := by
  rw [newline, String.toList_append, String.toList_ofList, String.toList_ofList]
  rfl

theorem isSpace_newlineChars (depth : Nat) : IsSpace (newlineChars depth) := by
  intro c hc
  cases List.mem_cons.mp hc with
  | inl hline => rw [hline]; decide
  | inr hspace => rw [List.eq_of_mem_replicate hspace]; decide

theorem isSpace_blank : IsSpace [' '] := by
  intro c hc
  rw [List.mem_singleton.mp hc]
  decide

/-- The characters of items between brackets. -/
theorem bracketLines_toList {opening closing : String} {a b : Char}
    (hopening : opening.toList = [a]) (hclosing : closing.toList = [b]) (depth : Nat)
    {items : List String} (hne : items ≠ []) :
    (bracketLines opening closing depth items).toList =
      a :: (newlineChars (depth + 1) ++ ((',' :: newlineChars (depth + 1)).intercalate
        (items.map String.toList) ++ (newlineChars depth ++ [b]))) := by
  obtain ⟨item, items, rfl⟩ := List.exists_cons_of_ne_nil hne
  have hcomma : ("," ++ newline (depth + 1)).toList = ',' :: newlineChars (depth + 1) := by
    rw [String.toList_append, newline_toList]
    rfl
  simp only [bracketLines, String.toList_append, String.toList_intercalate, hopening, hclosing,
    newline_toList, hcomma, List.append_assoc, List.cons_append, List.nil_append]

/-- The first character of the text of a value. -/
theorem stringifyIndented_begins {j : Json} (h : j.Readable rt) (depth : Nat) :
    ∃ c cs, (stringifyIndented rt depth j).toList = c :: cs ∧ isJsonSpace c = false ∧ c ≠ ']' := by
  have hlists : ∀ (opening closing : String) (a : Char), opening.toList = [a] →
      isJsonSpace a = false → a ≠ ']' → ∀ items, ∃ c cs,
        (bracketLines opening closing depth items).toList = c :: cs ∧ isJsonSpace c = false ∧
          c ≠ ']' := by
    intro opening closing a hopening hspace hclose items
    cases items with
    | nil =>
        rw [bracketLines, String.toList_append, hopening]
        exact ⟨a, _, rfl, hspace, hclose⟩
    | cons item items =>
        rw [bracketLines, String.toList_append, String.toList_append, String.toList_append,
          String.toList_append, hopening]
        · exact ⟨a, _, rfl, hspace, hclose⟩
        · exact List.cons_ne_nil _ _
  cases j with
  | null =>
      rw [stringifyIndented]
      exact ⟨'n', _, rfl, by decide, by decide⟩
  | boolean b =>
      rw [stringifyIndented]
      cases b with
      | false => exact ⟨'f', _, rfl, by decide, by decide⟩
      | true => exact ⟨'t', _, rfl, by decide, by decide⟩
  | number q =>
      rw [Json.Readable] at h
      rw [stringifyIndented]
      obtain ⟨c, cs, htext, hc⟩ := readNumber_begins h
      refine ⟨c, cs, htext, ?_, ?_⟩
      · rw [Bool.eq_false_iff]
        intro hspace
        simp only [isJsonSpace, Bool.or_eq_true, beq_iff_eq] at hspace
        rcases hspace with ((rfl | rfl) | rfl) | rfl
        · cases hc
        · cases hc
        · cases hc
        · cases hc
      · rintro rfl
        cases hc
  | string s =>
      rw [stringifyIndented, quote_toList]
      exact ⟨_, _, rfl, by decide, by decide⟩
  | array items =>
      rw [stringifyIndented]
      exact hlists "[" "]" '[' (by decide) (by decide) (by decide) _
  | object entries =>
      rw [stringifyIndented]
      exact hlists "\x7b" "\x7d" '\x7b' (by decide) (by decide) (by decide) _

/-- **An indented text is read as the value that it was written from**, at every depth. -/
theorem readsAs_stringifyIndented {j : Json} (h : j.Readable rt) (depth : Nat) :
    ReadsAs (stringifyIndented rt depth j).toList j.toJs := by
  induction j using Json.inductionOn generalizing depth with
  | hnull =>
      rw [stringifyIndented]
      exact readsAs_word fun fuel rest => readValue_cons (by decide) fuel rest
  | hboolean b =>
      rw [stringifyIndented]
      cases b with
      | false => exact readsAs_word fun fuel rest => readValue_cons (by decide) fuel rest
      | true => exact readsAs_word fun fuel rest => readValue_cons (by decide) fuel rest
  | hnumber q =>
      rw [stringifyIndented]
      rw [Json.Readable] at h
      exact readsAs_number h
  | hstring s =>
      rw [stringifyIndented]
      exact readsAs_quote s
  | harray items ih =>
      rw [Json.Readable, itemsReadable_iff] at h
      rw [stringifyIndented, indentedItems_eq_map, Json.toJs, itemsToJs_eq_map]
      cases items with
      | nil =>
          have htext : (bracketLines "[" "]" depth []).toList = ['[', ']'] := by
            rw [bracketLines, String.toList_append]
            rfl
          rw [List.map_nil, List.map_nil, htext]
          exact readsAs_emptyArray
      | cons item items =>
          have hread := readsAs_array (isSpace_newlineChars (depth + 1))
            (isSpace_newlineChars depth)
            ((item :: items).map fun j =>
              ((stringifyIndented rt (depth + 1) j).toList, j.toJs)) (by simp)
            (by
              intro pair hpair
              obtain ⟨j, hj, rfl⟩ := List.mem_map.mp hpair
              exact ih j hj (h j hj) (depth + 1))
            (by
              intro pair hpair
              obtain ⟨j, hj, rfl⟩ := List.mem_map.mp hpair
              exact stringifyIndented_begins (h j hj) (depth + 1))
          rw [bracketLines_toList (a := '[') (b := ']') (by decide) (by decide) depth (by simp)]
          rw [List.map_map] at hread ⊢
          rw [List.map_map] at hread
          exact hread
  | hobject entries ih =>
      rw [Json.Readable, entriesReadable_iff] at h
      rw [stringifyIndented, indentedEntries_eq_map, Json.toJs, entriesToJs_eq_map]
      cases entries with
      | nil =>
          have htext : (bracketLines "\x7b" "\x7d" depth []).toList = ['\x7b', '\x7d'] := by
            rw [bracketLines, String.toList_append]
            rfl
          rw [List.map_nil, List.map_nil, htext]
          exact readsAs_emptyObject
      | cons entry entries =>
          have hread := readsAs_object (isSpace_newlineChars (depth + 1))
            (isSpace_newlineChars depth) isSpace_blank
            ((entry :: entries).map fun e =>
              (e.1, (stringifyIndented rt (depth + 1) e.2).toList, e.2.toJs)) (by simp)
            (by
              intro triple htriple
              obtain ⟨e, he, rfl⟩ := List.mem_map.mp htriple
              exact ih e he (h.2 e he) (depth + 1))
            (by
              rw [List.map_map]
              exact h.1)
          rw [bracketLines_toList (a := '\x7b') (b := '\x7d') (by decide) (by decide) depth
            (by simp)]
          have htexts : ((entry :: entries).map fun e => quote e.1 ++ ": " ++
              stringifyIndented rt (depth + 1) e.2).map String.toList =
                (entry :: entries).map fun e => entryText [' ']
                  (e.1, (stringifyIndented rt (depth + 1) e.2).toList, e.2.toJs) := by
            rw [List.map_map]
            refine List.map_congr_left fun e _ => ?_
            simp only [Function.comp, String.toList_append, entryText, List.append_assoc]
            rfl
          rw [htexts]
          rw [List.map_map, List.map_map] at hread
          exact hread

/-- **An indented text is parsed to the value that it was written from.** -/
theorem parseJson_stringifyIndented {j : Json} (h : j.Readable rt) :
    parseJson (stringifyIndented rt 0 j).toList = some j.toJs := by
  have hread := readsAs_stringifyIndented h 0
    (2 * (stringifyIndented rt 0 j).toList.length + 2) [] (by omega) endsNumber_nil
  rw [List.append_nil] at hread
  rw [parseJson, hread, Option.bind_some]
  rfl

end Cdngine
