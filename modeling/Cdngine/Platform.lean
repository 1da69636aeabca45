import Mathlib.Data.List.Sort
import Cdngine.Relational
import Cdngine.Sha256
import Cdngine.Strip

/-!
# The JavaScript Platform

The values, JSON texts and dates that the code under study passes around. A JavaScript
value (`JsValue`) may be `undefined`, a `bigint` or a non-finite number; a JSON value
(`Json`), which is what a JSON column of the registry stores, may not. `toJsonValue` is
the conversion every store applies before it writes a JSON column.

`Runtime` collects what the code takes from outside the repository.

Dates are instants in milliseconds since the epoch (`Instant`); `toISOString` renders
them in the proleptic Gregorian calendar.
-/

namespace Cdngine

/-- A date: milliseconds since the epoch. -/
abbrev Instant := Int

/-- A JavaScript number: a finite double, given by the rational it denotes, or one of
the three non-finite values. -/
inductive JsNumber
  | finite (q : Rat)
  | nan
  | infinity (negative : Bool)
  deriving DecidableEq, Repr

/-- A JavaScript value, as far as the code stores it. -/
inductive JsValue
  | undefined
  | null
  | boolean (b : Bool)
  | number (n : JsNumber)
  | bigint (n : Int)
  | string (s : String)
  | array (items : List JsValue)
  | object (entries : List (String × JsValue))

/-- A JSON value, as a JSON column stores it. -/
inductive Json
  | null
  | boolean (b : Bool)
  | number (q : Rat)
  | string (s : String)
  | array (items : List Json)
  | object (entries : List (String × Json))

/-- What the code takes from the platform it runs on: digests, the rendering of a
fractional number, the collation behind `localeCompare`, the order of texts in the
database, and the message of a database error. -/
structure Runtime where
  sha256Hex : List UInt8 → String
  numberToString : Rat → String
  localeCompare : String → String → Ordering
  databaseCompare : String → String → Ordering
  violationMessage : Relational.Violation → String

/-- A platform for concrete inputs: digests are SHA-256, and texts compare by code
point, as the collations order the lower-case keys of the code under study. -/
def sampleRuntime : Runtime where
  sha256Hex := Sha256.hex
  numberToString q := toString q.num ++ "/" ++ toString q.den
  localeCompare := compare
  databaseCompare := compare
  violationMessage
    | .uniqueConstraint => "Unique constraint failed"
    | .recordNotFound => "No record was found for an update."

/-! ### Computations that throw -/

/-- The inversion rule of a sequenced computation that succeeds. -/
theorem bind_eq_ok {ε α β : Type} {x : Except ε α} {f : α → Except ε β} {b : β} :
    (x >>= f) = .ok b ↔ ∃ a, x = .ok a ∧ f a = .ok b := by
  cases x with
  | error e => simp [bind, Except.bind]
  | ok a => simp [bind, Except.bind]

/-- A mapped error changes no result. -/
theorem mapError_eq_ok {ε ε' α : Type} {x : Except ε α} {f : ε → ε'} {a : α} :
    x.mapError f = .ok a ↔ x = .ok a := by
  cases x <;> simp [Except.mapError]

/-- The inversion rule of a sequenced computation that throws. -/
theorem bind_eq_error {ε α β : Type} {x : Except ε α} {f : α → Except ε β} {e : ε} :
    (x >>= f) = .error e ↔ x = .error e ∨ ∃ a, x = .ok a ∧ f a = .error e := by
  cases x with
  | error e' => simp [bind, Except.bind]
  | ok a => simp [bind, Except.bind]

theorem exists_of_isOk {ε α : Type} {x : Except ε α} (h : x.isOk = true) : ∃ a, x = .ok a := by
  cases x with
  | error e => cases h
  | ok a => exact ⟨a, rfl⟩

/-! ### Strings -/

/-- `String.prototype.padStart` with a one-character filler. -/
def padStart (s : String) (length : Nat) (filler : Char) : String :=
  String.ofList (List.replicate (length - s.length) filler) ++ s

/-- The decimal rendering of a finite number; a fractional or very large one is rendered
by the platform. -/
def renderNumber (rt : Runtime) (q : Rat) : String :=
  if q.den = 1 ∧ q.num.natAbs < 10 ^ 21 then toString q.num else rt.numberToString q

/-- `String(value)` of a number. -/
def JsNumber.toText (rt : Runtime) : JsNumber → String
  | .finite q => renderNumber rt q
  | .nan => "NaN"
  | .infinity negative => if negative then "-Infinity" else "Infinity"

/-! ### Reading numbers -/

/-- The white space that `Number.parseInt` and `trim` skip: the space separators and line ends of
Unicode, and the byte order mark. -/
def isStrWhiteSpace (c : Char) : Bool :=
  let n := c.toNat
  decide (9 ≤ n ∧ n ≤ 13) || decide (0x2000 ≤ n ∧ n ≤ 0x200a) ||
    [0x20, 0xa0, 0x1680, 0x2028, 0x2029, 0x202f, 0x205f, 0x3000, 0xfeff].contains n

/-- `String.prototype.trim`. -/
def trim (s : String) : String :=
  String.ofList
    (((s.toList.dropWhile isStrWhiteSpace).reverse.dropWhile isStrWhiteSpace).reverse)

theorem trim_toList (s : String) : (trim s).toList = Strip.strip isStrWhiteSpace s.toList :=
  String.toList_ofList

@[simp] theorem trim_trim (s : String) : trim (trim s) = trim s := by
  rw [← String.toList_inj, trim_toList, trim_toList, Strip.strip_strip]

/-- The double nearest to a natural number, ties to the even significand. -/
def nearestDouble (n : Nat) : JsNumber :=
  if n < 2 ^ 53 then .finite n
  else
    let e := Nat.log2 n - 52
    let quotient := n / 2 ^ e
    let rest := n % 2 ^ e
    let half := 2 ^ (e - 1)
    let rounded := if half < rest ∨ (rest = half ∧ quotient % 2 = 1) then quotient + 1 else quotient
    if 2 ^ 1024 ≤ rounded * 2 ^ e then .infinity false else .finite (rounded * 2 ^ e : Nat)

/-- A number with the other sign. -/
def JsNumber.negate : JsNumber → JsNumber
  | .finite q => .finite (-q)
  | .nan => .nan
  | .infinity negative => .infinity !negative

/-- The number that a text of decimal digits begins with. -/
def parseDigits (cs : List Char) : JsNumber :=
  match cs.takeWhile Char.isDigit with
  | [] => .nan
  | digits => nearestDouble (digits.foldl (fun n c => 10 * n + (c.toNat - '0'.toNat)) 0)

/-- `Number.parseInt(text, 10)`. -/
def parseInt (cs : List Char) : JsNumber :=
  match cs.dropWhile isStrWhiteSpace with
  | '-' :: rest => (parseDigits rest).negate
  | '+' :: rest => parseDigits rest
  | rest => parseDigits rest

/-! ### Arrays -/

/-- `Array.prototype.sort`, which is stable: `before a b` says that the comparison of `a`
with `b` is not positive. -/
def sortBy {α : Type} (before : α → α → Bool) (items : List α) : List α :=
  items.insertionSort fun a b => before a b = true

theorem sortBy_perm {α : Type} (before : α → α → Bool) (items : List α) :
    (sortBy before items).Perm items :=
  List.perm_insertionSort _ items

/-- Items with different keys, which the comparison reads, are sorted strictly. -/
theorem sortBy_pairwise {α κ : Type} [LinearOrder κ] {key : α → κ} {before : α → α → Bool}
    {items : List α} (hnodup : (items.map key).Nodup)
    (hbefore : ∀ a b, key a ≠ key b → (before a b = true ↔ key a < key b)) :
    (sortBy before items).Pairwise fun a b => key a < key b := by
  have hinsert : ∀ (a : α) (sorted : List α), (∀ b ∈ sorted, key a ≠ key b) →
      (sorted.Pairwise fun a b => key a < key b) →
      (sorted.orderedInsert (fun a b => before a b = true) a).Pairwise fun a b =>
      key a < key b := by
    intro a sorted
    induction sorted with
    | nil => exact fun _ _ => List.pairwise_singleton _ a
    | cons b rest ih =>
        intro hne hsorted
        obtain ⟨hnb, hnrest⟩ := List.forall_mem_cons.mp hne
        obtain ⟨hb, hrest⟩ := List.pairwise_cons.mp hsorted
        rw [List.orderedInsert]
        by_cases hab : before a b = true
        · have hlt := (hbefore a b hnb).mp hab
          rw [if_pos hab]
          refine List.pairwise_cons.mpr ⟨fun c hc => ?_, hsorted⟩
          rcases List.mem_cons.mp hc with rfl | hc
          · exact hlt
          · exact hlt.trans (hb c hc)
        · have hlt : key b < key a :=
            lt_of_le_of_ne (not_lt.mp fun h => hab ((hbefore a b hnb).mpr h)) (Ne.symm hnb)
          rw [if_neg hab]
          refine List.pairwise_cons.mpr ⟨fun c hc => ?_, ih hnrest hrest⟩
          rcases (List.mem_orderedInsert _).mp hc with rfl | hc
          · exact hlt
          · exact hb c hc
  unfold sortBy
  induction items with
  | nil => exact List.Pairwise.nil
  | cons a items ih =>
      rw [List.map_cons, List.nodup_cons] at hnodup
      rw [List.insertionSort_cons]
      refine hinsert a _ (fun b hb heq => hnodup.1 ?_) (ih hnodup.2)
      rw [heq]
      exact List.mem_map_of_mem ((List.mem_insertionSort _).mp hb)

/-! ### Conversion to a JSON column -/

mutual

/-- `toJsonValue`: the conversion applied before a JSON column is written. A `null`
becomes the string `null`, a `bigint` its decimal text. -/
def toJsonValue (rt : Runtime) : JsValue → Json
  | .null => .string "null"
  | .string s => .string s
  | .boolean b => .boolean b
  | .number (.finite q) => .number q
  | .number n => .string (n.toText rt)
  | .bigint n => .string (toString n)
  | .array items => .array (toJsonItems rt items)
  | .object entries => .object (toJsonEntries rt entries)
  | .undefined => .string "undefined"

/-- `toJsonValue` on the items of an array. -/
def toJsonItems (rt : Runtime) : List JsValue → List Json
  | [] => []
  | item :: items => toJsonValue rt item :: toJsonItems rt items

/-- `toJsonValue` on the entries of an object. -/
def toJsonEntries (rt : Runtime) : List (String × JsValue) → List (String × Json)
  | [] => []
  | (key, entry) :: entries => (key, toJsonValue rt entry) :: toJsonEntries rt entries

end

mutual

/-- A JSON value read back from a column. -/
def Json.toJs : Json → JsValue
  | .null => .null
  | .boolean b => .boolean b
  | .number q => .number (.finite q)
  | .string s => .string s
  | .array items => .array (Json.itemsToJs items)
  | .object entries => .object (Json.entriesToJs entries)

/-- The items of a JSON array read back from a column. -/
def Json.itemsToJs : List Json → List JsValue
  | [] => []
  | item :: items => item.toJs :: Json.itemsToJs items

/-- The entries of a JSON object read back from a column. -/
def Json.entriesToJs : List (String × Json) → List (String × JsValue)
  | [] => []
  | (key, entry) :: entries => (key, entry.toJs) :: Json.entriesToJs entries

end

/-! ### JSON texts -/

/-- A double quote. -/
def doubleQuote : String := String.singleton (Char.ofNat 0x22)

/-- One character of a quoted JSON string. -/
def escapeChar (c : Char) : String :=
  match c.toNat with
  | 0x22 => "\\" ++ doubleQuote
  | 0x5c => "\\\\"
  | 0x08 => "\\b"
  | 0x09 => "\\t"
  | 0x0a => "\\n"
  | 0x0c => "\\f"
  | 0x0d => "\\r"
  | n =>
      if n < 0x20 then "\\u00" ++ String.ofList [Sha256.hexDigit (n / 16), Sha256.hexDigit (n % 16)]
      else String.singleton c

/-- A JSON string literal. -/
def quote (s : String) : String :=
  doubleQuote ++ String.join (s.toList.map escapeChar) ++ doubleQuote

/-- `JSON.stringify` of a finite number. -/
def stringifyNumber (rt : Runtime) (q : Rat) : String := renderNumber rt q

mutual

/-- `JSON.stringify(value)`. -/
def stringify (rt : Runtime) : Json → String
  | .null => "null"
  | .boolean b => if b then "true" else "false"
  | .number q => stringifyNumber rt q
  | .string s => quote s
  | .array items => "[" ++ String.intercalate "," (stringifyItems rt items) ++ "]"
  | .object entries =>
      "\x7b" ++ String.intercalate "," (stringifyEntries rt entries) ++ "\x7d"

/-- The texts of the items of an array. -/
def stringifyItems (rt : Runtime) : List Json → List String
  | [] => []
  | item :: items => stringify rt item :: stringifyItems rt items

/-- The texts of the entries of an object. -/
def stringifyEntries (rt : Runtime) : List (String × Json) → List String
  | [] => []
  | (key, entry) :: entries =>
      (quote key ++ ":" ++ stringify rt entry) :: stringifyEntries rt entries

end

/-- A line break followed by the indentation of a nesting depth. -/
def newline (depth : Nat) : String := "\n" ++ String.ofList (List.replicate (2 * depth) ' ')

/-- Items between brackets, one a line. -/
def bracketLines (opening closing : String) (depth : Nat) : List String → String
  | [] => opening ++ closing
  | items =>
      opening ++ newline (depth + 1) ++ String.intercalate ("," ++ newline (depth + 1)) items ++
        newline depth ++ closing

mutual

/-- `JSON.stringify(value, null, 2)`, at a nesting depth. -/
def stringifyIndented (rt : Runtime) (depth : Nat) : Json → String
  | .array items => bracketLines "[" "]" depth (indentedItems rt (depth + 1) items)
  | .object entries => bracketLines "\x7b" "\x7d" depth (indentedEntries rt (depth + 1) entries)
  | .null => "null"
  | .boolean b => if b then "true" else "false"
  | .number q => stringifyNumber rt q
  | .string s => quote s

/-- The indented texts of the items of an array. -/
def indentedItems (rt : Runtime) (depth : Nat) : List Json → List String
  | [] => []
  | item :: items => stringifyIndented rt depth item :: indentedItems rt depth items

/-- The indented texts of the entries of an object. -/
def indentedEntries (rt : Runtime) (depth : Nat) : List (String × Json) → List String
  | [] => []
  | (key, entry) :: entries =>
      (quote key ++ ": " ++ stringifyIndented rt depth entry) :: indentedEntries rt depth entries

end

/-! ### Order-independent JSON texts -/

mutual

/-- `stableJson`: a JSON text whose object entries are sorted by key and whose undefined
entries are dropped. -/
def stableJson (rt : Runtime) : JsValue → String
  | .null => "null"
  | .string s => quote s
  | .boolean b => if b then "true" else "false"
  | .number (.finite q) => stringifyNumber rt q
  | .number n => quote (n.toText rt)
  | .bigint n => quote (toString n)
  | .array items => "[" ++ String.intercalate "," (stableItems rt items) ++ "]"
  | .object entries =>
      let sorted := sortBy (fun left right : String × String =>
        (rt.localeCompare left.1 right.1).isLE) (stableEntries rt entries)
      "\x7b" ++ String.intercalate "," (sorted.map fun entry => quote entry.1 ++ ":" ++ entry.2) ++
        "\x7d"
  | .undefined => quote "undefined"

/-- The texts of the items of an array. -/
def stableItems (rt : Runtime) : List JsValue → List String
  | [] => []
  | item :: items => stableJson rt item :: stableItems rt items

/-- The keys of an object with the texts of their values, undefined values left out. -/
def stableEntries (rt : Runtime) : List (String × JsValue) → List (String × String)
  | [] => []
  | (_, .undefined) :: entries => stableEntries rt entries
  | (key, entry) :: entries => (key, stableJson rt entry) :: stableEntries rt entries

end

/-- The bytes that `createHash('sha256').update(text)` digests. -/
def utf8Bytes (text : String) : List UInt8 := text.toUTF8.data.toList

/-! ### Numbers and dates -/

/-- Round a natural number to the nearest one with at most 53 significant bits, ties to
even. -/
def roundToDouble (m : Nat) : Nat :=
  let shift := m.log2 + 1 - 53
  let quotient := m / 2 ^ shift
  let remainder := m % 2 ^ shift
  if 2 * remainder > 2 ^ shift ∨ (2 * remainder = 2 ^ shift ∧ quotient % 2 = 1 ∧ shift ≠ 0) then
    (quotient + 1) * 2 ^ shift
  else quotient * 2 ^ shift

/-- `Number(value)` of a `bigint`. -/
def numberOfBigInt (n : Int) : JsNumber :=
  let magnitude := roundToDouble n.natAbs
  if 2 ^ 1024 ≤ magnitude then .infinity (decide (n < 0))
  else .finite (if n < 0 then -(magnitude : Rat) else magnitude)

/-- A number inside a JSON text: a non-finite one is written as `null`. -/
def JsNumber.toJson : JsNumber → Json
  | .finite q => .number q
  | .nan | .infinity _ => .null

/-- The proleptic Gregorian date, as year, month and day, of a day count since the
epoch. -/
def civilFromDays (days : Int) : Int × Int × Int :=
  let z := days + 719468
  let era := z.fdiv 146097
  let dayOfEra := z.fmod 146097
  let yearOfEra := (dayOfEra - dayOfEra / 1460 + dayOfEra / 36524 - dayOfEra / 146096) / 365
  let dayOfYear := dayOfEra - (365 * yearOfEra + yearOfEra / 4 - yearOfEra / 100)
  let shifted := (5 * dayOfYear + 2) / 153
  let day := dayOfYear - (153 * shifted + 2) / 5 + 1
  let month := if shifted < 10 then shifted + 3 else shifted - 9
  let year := yearOfEra + era * 400 + (if month ≤ 2 then 1 else 0)
  (year, month, day)

/-- A number with leading zeros. -/
def padded (n : Int) (length : Nat) : String := padStart (toString n.natAbs) length '0'

/-- `Date.prototype.toISOString`. -/
def toISOString (t : Instant) : String :=
  let (year, month, day) := civilFromDays (t.fdiv 86400000)
  let ms := t.fmod 86400000
  let yearText :=
    if 0 ≤ year ∧ year ≤ 9999 then padded year 4
    else (if year < 0 then "-" else "+") ++ padded year 6
  yearText ++ "-" ++ padded month 2 ++ "-" ++ padded day 2 ++ "T" ++
  padded (ms / 3600000) 2 ++ ":" ++
    padded (ms / 60000 % 60) 2 ++ ":" ++ padded (ms / 1000 % 60) 2 ++ "." ++
    padded (ms % 1000) 3 ++ "Z"

example : toISOString 1772366400000 = "2026-03-01T12:00:00.000Z" := by decide

end Cdngine
