import Cdngine.JsonText

/-!
# Unique Readability of Nested JSON

`JSON.stringify` writes different JSON values as different texts, at every nesting depth. Only the
text of a number does not end by itself; what follows it in a JSON text is never a character that
could continue it.

## Main results

* `intercalate_append_inj`: items that can be read one by one can be read between commas.
* `stringify_append_inj`: a text that begins with a JSON value determines it and the rest.
* `stringify_injective`: the text of a JSON value determines it.
-/

namespace Cdngine

variable {rt : Runtime}

/-! ### Texts of numbers -/

/-- A number that is rendered as its decimal digits. -/
def IsPlain (q : Rat) : Prop := q.den = 1 ∧ q.num.natAbs < 10 ^ 21

/-- A character of the text of a number. -/
def isNumberChar (c : Char) : Bool :=
  c.isDigit || c == '-' || c == '+' || c == '.' || c == 'e'

/-- The texts that the platform renders numbers to, those that are not plain integers: they have a
point or an exponent, nothing but characters of numbers, and are different for different numbers. -/
structure NumberTexts (rt : Runtime) : Prop where
  chars : ∀ q, ¬ IsPlain q → ∀ c ∈ (rt.numberToString q).toList, isNumberChar c = true
  marked : ∀ q, ¬ IsPlain q → ∃ c ∈ (rt.numberToString q).toList, c = '.' ∨ c = 'e'
  injective : ∀ p q, ¬ IsPlain p → ¬ IsPlain q →
    rt.numberToString p = rt.numberToString q → p = q

theorem renderNumber_of_plain {q : Rat} (h : IsPlain q) : renderNumber rt q = toString q.num :=
  if_pos h

theorem renderNumber_of_not_plain {q : Rat} (h : ¬ IsPlain q) :
    renderNumber rt q = rt.numberToString q :=
  if_neg h

theorem toList_toString_ofNat (n : Nat) : (toString (Int.ofNat n)).toList = Nat.toDigits 10 n := by
  change (toString n).toList = _
  rw [Nat.toString_eq_ofList_toDigits, String.toList_ofList]

theorem toList_toString_negSucc (n : Nat) :
    (toString (Int.negSucc n)).toList = '-' :: Nat.toDigits 10 (n + 1) := by
  change ("-" ++ toString (n + 1)).toList = _
  have hsign : "-".toList = ['-'] := rfl
  rw [String.toList_append, hsign, Nat.toString_eq_ofList_toDigits, String.toList_ofList,
    List.singleton_append]

theorem isDigit_of_mem_toDigits_ten {n : Nat} {c : Char} (h : c ∈ Nat.toDigits 10 n) :
    c.isDigit = true :=
  Nat.isDigit_of_mem_toDigits (by decide) (by decide) h

/-- The text of an integer has digits and a sign. -/
theorem isDigit_or_sign_of_mem_toString {n : Int} {c : Char} (h : c ∈ (toString n).toList) :
    c.isDigit = true ∨ c = '-' := by
  cases n with
  | ofNat m =>
      rw [toList_toString_ofNat] at h
      exact .inl (isDigit_of_mem_toDigits_ten h)
  | negSucc m =>
      rw [toList_toString_negSucc] at h
      cases List.mem_cons.mp h with
      | inl hsign => exact .inr hsign
      | inr hdigit => exact .inl (isDigit_of_mem_toDigits_ten hdigit)

theorem toString_int_ne_nil (n : Int) : (toString n).toList ≠ [] := by
  cases n with
  | ofNat m =>
      rw [toList_toString_ofNat]
      exact Nat.toDigits_ne_nil
  | negSucc m =>
      rw [toList_toString_negSucc]
      exact List.cons_ne_nil _ _

theorem toDigits_ten_injective {m n : Nat} (h : Nat.toDigits 10 m = Nat.toDigits 10 n) : m = n := by
  have hread := congrArg (fun cs => Nat.ofDigitChars 10 cs 0) h
  simpa only [Nat.ofDigitChars_ten_toDigits] using hread

/-- The text of a negative integer is not that of another. -/
theorem toDigits_ten_ne_sign (m : Nat) (cs : List Char) : Nat.toDigits 10 m ≠ '-' :: cs := by
  intro h
  have hsign : '-' ∈ Nat.toDigits 10 m := by rw [h]; exact List.mem_cons_self
  exact absurd (isDigit_of_mem_toDigits_ten hsign) (by decide)

theorem toString_int_injective {m n : Int} (h : toString m = toString n) : m = n := by
  have hlist := congrArg String.toList h
  cases m with
  | ofNat m =>
      cases n with
      | ofNat n =>
          rw [toList_toString_ofNat, toList_toString_ofNat] at hlist
          rw [toDigits_ten_injective hlist]
      | negSucc n =>
          rw [toList_toString_ofNat, toList_toString_negSucc] at hlist
          exact absurd hlist (toDigits_ten_ne_sign m _)
  | negSucc m =>
      cases n with
      | ofNat n =>
          rw [toList_toString_ofNat, toList_toString_negSucc] at hlist
          exact absurd hlist.symm (toDigits_ten_ne_sign n _)
      | negSucc n =>
          rw [toList_toString_negSucc, toList_toString_negSucc] at hlist
          rw [Nat.succ.inj (toDigits_ten_injective (List.cons.inj hlist).2)]

/-- The text of a plain number has no point and no exponent. -/
theorem not_marked_of_plain {q : Rat} (h : IsPlain q) {c : Char}
    (hc : c ∈ (renderNumber rt q).toList) : ¬ (c = '.' ∨ c = 'e') := by
  rw [renderNumber_of_plain h] at hc
  rintro (rfl | rfl)
  · exact (isDigit_or_sign_of_mem_toString hc).elim (by decide) (by decide)
  · exact (isDigit_or_sign_of_mem_toString hc).elim (by decide) (by decide)

section Numbers

variable (htexts : NumberTexts rt) {p q : Rat}
include htexts

theorem isNumberChar_of_mem_renderNumber {c : Char} (h : c ∈ (renderNumber rt q).toList) :
    isNumberChar c = true := by
  by_cases hplain : IsPlain q
  · rw [renderNumber_of_plain hplain] at h
    cases isDigit_or_sign_of_mem_toString h with
    | inl hdigit => simp [isNumberChar, hdigit]
    | inr hsign => rw [hsign]; decide
  · rw [renderNumber_of_not_plain hplain] at h
    exact htexts.chars q hplain c h

theorem renderNumber_ne_nil : (renderNumber rt q).toList ≠ [] := by
  by_cases hplain : IsPlain q
  · rw [renderNumber_of_plain hplain]
    exact toString_int_ne_nil q.num
  · obtain ⟨c, hc, -⟩ := htexts.marked q hplain
    rw [renderNumber_of_not_plain hplain]
    exact List.ne_nil_of_mem hc

/-- A plain number and one that is not have different texts. -/
theorem renderNumber_ne (hp : IsPlain p) (hq : ¬ IsPlain q) :
    renderNumber rt p ≠ renderNumber rt q := by
  intro heq
  obtain ⟨c, hc, hmark⟩ := htexts.marked q hq
  rw [← renderNumber_of_not_plain hq, ← heq] at hc
  exact not_marked_of_plain hp hc hmark

/-- **Different numbers have different texts.** -/
theorem renderNumber_injective (heq : renderNumber rt p = renderNumber rt q) : p = q := by
  by_cases hp : IsPlain p
  · by_cases hq : IsPlain q
    · rw [renderNumber_of_plain hp, renderNumber_of_plain hq] at heq
      have hnum : p.num = q.num := toString_int_injective heq
      exact Rat.ext hnum (hp.1.trans hq.1.symm)
    · exact absurd heq (renderNumber_ne htexts hp hq)
  · by_cases hq : IsPlain q
    · exact absurd heq.symm (renderNumber_ne htexts hq hp)
    · rw [renderNumber_of_not_plain hp, renderNumber_of_not_plain hq] at heq
      exact htexts.injective p q hp hq heq

end Numbers

/-! ### What follows a value -/

/-- A text that does not continue a number. -/
def Delimited (cs : List Char) : Prop := ∀ c ∈ cs.head?, isNumberChar c = false

theorem delimited_nil : Delimited [] := fun c hc => by cases hc

theorem delimited_cons {c : Char} {cs : List Char} (h : isNumberChar c = false) :
    Delimited (c :: cs) := by
  intro d hd
  obtain rfl : c = d := Option.some.inj hd
  exact h

theorem takeWhile_of_delimited {cs : List Char} (h : Delimited cs) :
    cs.takeWhile isNumberChar = [] := by
  cases cs with
  | nil => rfl
  | cons c cs =>
      have hc : isNumberChar c = false := h c rfl
      rw [List.takeWhile_cons, hc]
      rfl

/-- The text of a number is read up to where it is delimited. -/
theorem renderNumber_append_inj (htexts : NumberTexts rt) {p q : Rat} {x y : List Char}
    (hx : Delimited x) (hy : Delimited y)
    (heq : (renderNumber rt p).toList ++ x = (renderNumber rt q).toList ++ y) : p = q ∧ x = y := by
  have hread : ∀ {r : Rat} {z : List Char}, Delimited z →
      ((renderNumber rt r).toList ++ z).takeWhile isNumberChar = (renderNumber rt r).toList := by
    intro r z hz
    rw [List.takeWhile_append_of_pos fun c hc => isNumberChar_of_mem_renderNumber htexts hc,
      takeWhile_of_delimited hz, List.append_nil]
  have htext : (renderNumber rt p).toList = (renderNumber rt q).toList := by
    rw [← hread hx, heq, hread hy]
  obtain rfl := renderNumber_injective htexts (String.toList_inj.mp htext)
  exact ⟨rfl, List.append_cancel_left heq⟩

/-! ### Items between commas -/

/-- **Items between commas.** When no item begins with the character that closes the list, and each
can be read from what follows it, the list and what follows it can be read. -/
theorem intercalate_append_inj {α : Type} {text : α → List Char} {close : Char}
    (hcomma : close ≠ ',') (hclose : isNumberChar close = false)
    (hbegins : ∀ a, ∃ c rest, text a = c :: rest ∧ c ≠ close) {as bs : List α} {x y : List Char}
    (hread : ∀ a ∈ as, ∀ b x y, Delimited x → Delimited y → text a ++ x = text b ++ y →
      a = b ∧ x = y)
    (heq : [','].intercalate (as.map text) ++ close :: x =
      [','].intercalate (bs.map text) ++ close :: y) : as = bs ∧ x = y := by
  have hnonempty : ∀ b bs z, ∃ c rest,
      [','].intercalate ((b :: bs).map text) ++ z = c :: rest ∧ c ≠ close := by
    intro b bs z
    obtain ⟨c, rest, htext, hc⟩ := hbegins b
    cases bs with
    | nil => exact ⟨c, rest ++ z, by simp [htext], hc⟩
    | cons b' bs => exact ⟨c, _, by simp [htext, List.intercalate_cons_cons]; rfl, hc⟩
  have hdelimited : ∀ z, Delimited (close :: z) := fun z => delimited_cons hclose
  have hdelimited' : ∀ z, Delimited (',' :: z) := fun z => delimited_cons (by decide)
  induction as generalizing bs with
  | nil =>
      cases bs with
      | nil => exact ⟨rfl, (List.cons.inj heq).2⟩
      | cons b bs =>
          obtain ⟨c, rest, htext, hc⟩ := hnonempty b bs (close :: y)
          rw [htext] at heq
          exact absurd (List.cons.inj heq).1.symm hc
  | cons a as ih =>
      obtain ⟨ha, has⟩ := List.forall_mem_cons.mp hread
      cases bs with
      | nil =>
          obtain ⟨c, rest, htext, hc⟩ := hnonempty a as (close :: x)
          rw [htext] at heq
          exact absurd (List.cons.inj heq).1 hc
      | cons b bs =>
          cases as with
          | nil =>
              cases bs with
              | nil =>
                  simp only [List.map_cons, List.map_nil, List.intercalate_singleton] at heq
                  obtain ⟨rfl, hrest⟩ := ha b _ _ (hdelimited x) (hdelimited y) heq
                  exact ⟨rfl, (List.cons.inj hrest).2⟩
              | cons b' bs =>
                  simp only [List.map_cons, List.map_nil, List.intercalate_singleton,
                    List.intercalate_cons_cons, List.append_assoc, List.singleton_append] at heq
                  obtain ⟨-, hrest⟩ := ha b _ _ (hdelimited x) (hdelimited' _) heq
                  exact absurd (List.cons.inj hrest).1 hcomma
          | cons a' as =>
              cases bs with
              | nil =>
                  simp only [List.map_cons, List.map_nil, List.intercalate_singleton,
                    List.intercalate_cons_cons, List.append_assoc, List.singleton_append] at heq
                  obtain ⟨-, hrest⟩ := ha b _ _ (hdelimited' _) (hdelimited y) heq
                  exact absurd (List.cons.inj hrest).1.symm hcomma
              | cons b' bs =>
                  simp only [List.map_cons, List.intercalate_cons_cons, List.append_assoc,
                    List.singleton_append] at heq
                  obtain ⟨rfl, hrest⟩ := ha b _ _ (hdelimited' _) (hdelimited' _) heq
                  have htail := (List.cons.inj hrest).2
                  rw [← List.map_cons, ← List.map_cons] at htail
                  obtain ⟨hsame, hend⟩ := ih has htail
                  exact ⟨by rw [hsame], hend⟩

/-! ### Nested values -/

mutual

/-- Induction over the values of arrays and objects. -/
theorem Json.inductionOn {P : Json → Prop} (hnull : P .null) (hboolean : ∀ b, P (.boolean b))
    (hnumber : ∀ q, P (.number q)) (hstring : ∀ s, P (.string s))
    (harray : ∀ items, (∀ j ∈ items, P j) → P (.array items))
    (hobject : ∀ entries, (∀ e ∈ entries, P e.2) → P (.object entries)) : ∀ j, P j
  | .null => hnull
  | .boolean b => hboolean b
  | .number q => hnumber q
  | .string s => hstring s
  | .array items =>
      harray items (Json.inductionOnItems hnull hboolean hnumber hstring harray hobject items)
  | .object entries =>
      hobject entries
        (Json.inductionOnEntries hnull hboolean hnumber hstring harray hobject entries)

/-- Induction over the values of the items of an array. -/
theorem Json.inductionOnItems {P : Json → Prop} (hnull : P .null) (hboolean : ∀ b, P (.boolean b))
    (hnumber : ∀ q, P (.number q)) (hstring : ∀ s, P (.string s))
    (harray : ∀ items, (∀ j ∈ items, P j) → P (.array items))
    (hobject : ∀ entries, (∀ e ∈ entries, P e.2) → P (.object entries)) :
    ∀ items : List Json, ∀ j ∈ items, P j
  | [] => fun _ hj => absurd hj List.not_mem_nil
  | item :: items => List.forall_mem_cons.mpr
      ⟨Json.inductionOn hnull hboolean hnumber hstring harray hobject item,
        Json.inductionOnItems hnull hboolean hnumber hstring harray hobject items⟩

/-- Induction over the values of the entries of an object. -/
theorem Json.inductionOnEntries {P : Json → Prop} (hnull : P .null)
    (hboolean : ∀ b, P (.boolean b)) (hnumber : ∀ q, P (.number q)) (hstring : ∀ s, P (.string s))
    (harray : ∀ items, (∀ j ∈ items, P j) → P (.array items))
    (hobject : ∀ entries, (∀ e ∈ entries, P e.2) → P (.object entries)) :
    ∀ entries : List (String × Json), ∀ e ∈ entries, P e.2
  | [] => fun _ he => absurd he List.not_mem_nil
  | (_, entry) :: entries => List.forall_mem_cons.mpr
      ⟨Json.inductionOn hnull hboolean hnumber hstring harray hobject entry,
        Json.inductionOnEntries hnull hboolean hnumber hstring harray hobject entries⟩

end

theorem stringifyItems_eq_map (rt : Runtime) (items : List Json) :
    stringifyItems rt items = items.map (stringify rt) := by
  induction items with
  | nil => simp only [stringifyItems, List.map_nil]
  | cons item items ih => rw [stringifyItems, ih, List.map_cons]

theorem stringifyEntries_eq_map (rt : Runtime) (entries : List (String × Json)) :
    stringifyEntries rt entries = entries.map fun e => quote e.1 ++ ":" ++ stringify rt e.2 := by
  induction entries with
  | nil => simp only [stringifyEntries, List.map_nil]
  | cons entry entries ih => rw [stringifyEntries, ih, List.map_cons]

/-- The characters of an entry of an object. -/
def entryChars (rt : Runtime) (entry : String × Json) : List Char :=
  (quote entry.1).toList ++ ':' :: (stringify rt entry.2).toList

theorem stringify_array_toList (items : List Json) :
    (stringify rt (.array items)).toList =
      '[' :: ([','].intercalate (items.map fun j => (stringify rt j).toList) ++ [']']) := by
  have hcomma : ",".toList = [','] := rfl
  rw [stringify, stringifyItems_eq_map, String.toList_append, String.toList_append,
    String.toList_intercalate, List.map_map, hcomma]
  rfl

theorem stringify_object_toList (entries : List (String × Json)) :
    (stringify rt (.object entries)).toList =
      '\x7b' :: ([','].intercalate (entries.map (entryChars rt)) ++ ['\x7d']) := by
  have hcomma : ",".toList = [','] := rfl
  have hentry : (String.toList ∘ fun e : String × Json => quote e.1 ++ ":" ++ stringify rt e.2) =
      entryChars rt := by
    funext e
    rw [Function.comp_apply, String.toList_append, String.toList_append, List.append_assoc]
    rfl
  rw [stringify, stringifyEntries_eq_map, String.toList_append, String.toList_append,
    String.toList_intercalate, List.map_map, hcomma, hentry]
  rfl

/-- The kinds of JSON values. -/
inductive JsonKind
  | null
  | boolean
  | number
  | string
  | array
  | object
  deriving DecidableEq, Repr

/-- The kind of value whose text a character begins. -/
def JsonKind.ofHead (c : Char) : Option JsonKind :=
  if isNumberChar c then some .number
  else if c = 'n' then some .null
  else if c = 't' ∨ c = 'f' then some .boolean
  else if c = Char.ofNat 0x22 then some .string
  else if c = '[' then some .array
  else if c = '\x7b' then some .object
  else none

def Json.kind : Json → JsonKind
  | .null => .null
  | .boolean _ => .boolean
  | .number _ => .number
  | .string _ => .string
  | .array _ => .array
  | .object _ => .object

section Texts

variable (htexts : NumberTexts rt)
include htexts

/-- The first character of a text tells the kind of the value. -/
theorem stringify_begins (j : Json) :
    ∃ c rest, (stringify rt j).toList = c :: rest ∧ JsonKind.ofHead c = some j.kind := by
  cases j with
  | null =>
      rw [stringify]
      exact ⟨'n', _, rfl, by decide⟩
  | boolean b =>
      rw [stringify]
      cases b with
      | false => exact ⟨'f', _, rfl, by decide⟩
      | true => exact ⟨'t', _, rfl, by decide⟩
  | number q =>
      rw [stringify, stringifyNumber]
      have hne : (renderNumber rt q).toList ≠ [] := renderNumber_ne_nil htexts
      obtain ⟨c, rest, hcons⟩ := List.exists_cons_of_ne_nil hne
      have hmem : c ∈ (renderNumber rt q).toList := by rw [hcons]; exact List.mem_cons_self
      have hc : isNumberChar c = true := isNumberChar_of_mem_renderNumber htexts hmem
      exact ⟨c, rest, hcons, if_pos hc⟩
  | string s =>
      rw [stringify, quote_toList]
      exact ⟨_, _, rfl, rfl⟩
  | array items =>
      rw [stringify_array_toList]
      exact ⟨_, _, rfl, rfl⟩
  | object entries =>
      rw [stringify_object_toList]
      exact ⟨_, _, rfl, rfl⟩

theorem kind_eq_of_append {j j' : Json} {x y : List Char}
    (heq : (stringify rt j).toList ++ x = (stringify rt j').toList ++ y) : j.kind = j'.kind := by
  obtain ⟨c, rest, htext, hkind⟩ := stringify_begins htexts j
  obtain ⟨c', rest', htext', hkind'⟩ := stringify_begins htexts j'
  rw [htext, htext'] at heq
  obtain rfl : c = c' := (List.cons.inj heq).1
  exact Option.some.inj (hkind.symm.trans hkind')

/-- **A JSON text is read up to where it is delimited.** -/
theorem stringify_append_inj {j j' : Json} {x y : List Char} (hx : Delimited x) (hy : Delimited y)
    (heq : (stringify rt j).toList ++ x = (stringify rt j').toList ++ y) : j = j' ∧ x = y := by
  induction j using Json.inductionOn generalizing j' x y with
  | hnull =>
      cases j' with
      | null => exact ⟨rfl, List.append_cancel_left heq⟩
      | _ => cases kind_eq_of_append htexts heq
  | hboolean b =>
      cases j' with
      | boolean b' =>
          simp only [stringify] at heq
          cases b with
          | false =>
              cases b' with
              | false => exact ⟨rfl, List.append_cancel_left heq⟩
              | true => exact absurd (List.cons.inj heq).1 (by decide)
          | true =>
              cases b' with
              | false => exact absurd (List.cons.inj heq).1 (by decide)
              | true => exact ⟨rfl, List.append_cancel_left heq⟩
      | _ => cases kind_eq_of_append htexts heq
  | hnumber q =>
      cases j' with
      | number q' =>
          simp only [stringify] at heq
          obtain ⟨rfl, hrest⟩ := renderNumber_append_inj htexts hx hy heq
          exact ⟨rfl, hrest⟩
      | _ => cases kind_eq_of_append htexts heq
  | hstring s =>
      cases j' with
      | string s' =>
          simp only [stringify] at heq
          obtain ⟨rfl, hrest⟩ := quote_append_inj heq
          exact ⟨rfl, hrest⟩
      | _ => cases kind_eq_of_append htexts heq
  | harray items ih =>
      cases j' with
      | array items' =>
          rw [stringify_array_toList, stringify_array_toList] at heq
          simp only [List.cons_append, List.append_assoc, List.nil_append, List.cons.injEq,
            true_and] at heq
          have hbegins : ∀ j : Json, ∃ c rest, (stringify rt j).toList = c :: rest ∧ c ≠ ']' := by
            intro j
            obtain ⟨c, rest, htext, hkind⟩ := stringify_begins htexts j
            refine ⟨c, rest, htext, ?_⟩
            rintro rfl
            cases hkind
          obtain ⟨rfl, hrest⟩ := intercalate_append_inj (by decide) (by decide) hbegins
            (fun a ha b x y hx hy h => ih a ha hx hy h) heq
          exact ⟨rfl, hrest⟩
      | _ => cases kind_eq_of_append htexts heq
  | hobject entries ih =>
      cases j' with
      | object entries' =>
          rw [stringify_object_toList, stringify_object_toList] at heq
          simp only [List.cons_append, List.append_assoc, List.nil_append, List.cons.injEq,
            true_and] at heq
          have hbegins : ∀ e : String × Json, ∃ c rest,
              entryChars rt e = c :: rest ∧ c ≠ '\x7d' := by
            intro e
            rw [entryChars, quote_toList]
            exact ⟨_, _, rfl, by decide⟩
          have hentry : ∀ e ∈ entries, ∀ e' x y, Delimited x → Delimited y →
              entryChars rt e ++ x = entryChars rt e' ++ y → e = e' ∧ x = y := by
            intro e he e' x y hx hy h
            simp only [entryChars, List.append_assoc, List.cons_append] at h
            obtain ⟨hkey, hvalue⟩ := quote_append_inj h
            obtain ⟨hsame, hrest⟩ := ih e he hx hy (List.cons.inj hvalue).2
            exact ⟨Prod.ext hkey hsame, hrest⟩
          obtain ⟨rfl, hrest⟩ := intercalate_append_inj (by decide) (by decide) hbegins hentry heq
          exact ⟨rfl, hrest⟩
      | _ => cases kind_eq_of_append htexts heq

/-- **The text of a JSON value determines it.** -/
theorem stringify_injective {j j' : Json} (heq : stringify rt j = stringify rt j') : j = j' := by
  have hlist := congrArg (fun s : String => s.toList ++ []) heq
  exact (stringify_append_inj htexts delimited_nil delimited_nil hlist).1

end Texts

end Cdngine
