import Cdngine.IsoDates
import Cdngine.JsonRoundTrips

/-!
# Persisted Values

The local runtime keeps its maps in JSON files. `encodePersistedValue` writes dates and big integers
as marked objects, `JSON.stringify` leaves undefined entries out, and `decodePersistedValue` makes
dates and big integers of the marked objects again.

What comes back is the value without what JSON does not have (`StoredValue.kept`). An object that
has a mark of its own does not come back, nor does a date out of range.

## Main results

* `decode_saved`: what is read of a storable value is the value without what JSON does not have.
* `marked_value_changes`: an object with a mark of its own comes back as something else.
* `persisted_eq_kept_iff`: exactly the storable values come back as what JSON has of them.
-/

namespace Cdngine

open InsertionMaps Readers

/-! ### Values -/

/-- The time value of a date. -/
structure TimeValue where
  ms : Int
  inRange : -maxTime ≤ ms ∧ ms ≤ maxTime

/-- A value in a map of the local runtime; a date without time value is an invalid one. -/
inductive StoredValue
  | undefined
  | null
  | boolean (b : Bool)
  | number (n : JsNumber)
  | bigint (n : Int)
  | string (s : String)
  | date (time : Option TimeValue)
  | array (items : List StoredValue)
  | object (entries : List (String × StoredValue))

mutual

/-- Induction over the values of arrays and objects. -/
theorem StoredValue.inductionOn {P : StoredValue → Prop} (hundefined : P .undefined)
    (hnull : P .null) (hboolean : ∀ b, P (.boolean b)) (hnumber : ∀ n, P (.number n))
    (hbigint : ∀ n, P (.bigint n)) (hstring : ∀ s, P (.string s)) (hdate : ∀ t, P (.date t))
    (harray : ∀ items, (∀ v ∈ items, P v) → P (.array items))
    (hobject : ∀ entries, (∀ e ∈ entries, P e.2) → P (.object entries)) : ∀ v, P v
  | .undefined => hundefined
  | .null => hnull
  | .boolean b => hboolean b
  | .number n => hnumber n
  | .bigint n => hbigint n
  | .string s => hstring s
  | .date t => hdate t
  | .array items => harray items (StoredValue.inductionOnItems hundefined hnull hboolean hnumber
      hbigint hstring hdate harray hobject items)
  | .object entries => hobject entries (StoredValue.inductionOnEntries hundefined hnull hboolean
      hnumber hbigint hstring hdate harray hobject entries)

/-- Induction over the values of the items of an array. -/
theorem StoredValue.inductionOnItems {P : StoredValue → Prop} (hundefined : P .undefined)
    (hnull : P .null) (hboolean : ∀ b, P (.boolean b)) (hnumber : ∀ n, P (.number n))
    (hbigint : ∀ n, P (.bigint n)) (hstring : ∀ s, P (.string s)) (hdate : ∀ t, P (.date t))
    (harray : ∀ items, (∀ v ∈ items, P v) → P (.array items))
    (hobject : ∀ entries, (∀ e ∈ entries, P e.2) → P (.object entries)) :
    ∀ items : List StoredValue, ∀ v ∈ items, P v
  | [] => fun _ hv => absurd hv List.not_mem_nil
  | item :: items => List.forall_mem_cons.mpr
      ⟨StoredValue.inductionOn hundefined hnull hboolean hnumber hbigint hstring hdate harray
          hobject item,
        StoredValue.inductionOnItems hundefined hnull hboolean hnumber hbigint hstring hdate harray
          hobject items⟩

/-- Induction over the values of the entries of an object. -/
theorem StoredValue.inductionOnEntries {P : StoredValue → Prop} (hundefined : P .undefined)
    (hnull : P .null) (hboolean : ∀ b, P (.boolean b)) (hnumber : ∀ n, P (.number n))
    (hbigint : ∀ n, P (.bigint n)) (hstring : ∀ s, P (.string s)) (hdate : ∀ t, P (.date t))
    (harray : ∀ items, (∀ v ∈ items, P v) → P (.array items))
    (hobject : ∀ entries, (∀ e ∈ entries, P e.2) → P (.object entries)) :
    ∀ entries : List (String × StoredValue), ∀ e ∈ entries, P e.2
  | [] => fun _ he => absurd he List.not_mem_nil
  | (_, entry) :: entries => List.forall_mem_cons.mpr
      ⟨StoredValue.inductionOn hundefined hnull hboolean hnumber hbigint hstring hdate harray
          hobject entry,
        StoredValue.inductionOnEntries hundefined hnull hboolean hnumber hbigint hstring hdate
          harray hobject entries⟩

end

/-! ### Writing and reading values -/

/-- The object that stands for a value of a type that JSON does not have. -/
def markedObject (type value : String) : JsValue :=
  .object [("__cdngineType", .string type), ("value", .string value)]

mutual

/-- `encodePersistedValue`; `none` where the text of an invalid date is asked for, which throws. -/
def encodePersistedValue : StoredValue → Option JsValue
  | .date none => none
  | .date (some t) => some (markedObject "Date" (toISOString t.ms))
  | .bigint n => some (markedObject "BigInt" (toString n))
  | .array items => (encodePersistedItems items).map .array
  | .object entries => (encodePersistedEntries entries).map .object
  | .undefined => some .undefined
  | .null => some .null
  | .boolean b => some (.boolean b)
  | .number n => some (.number n)
  | .string s => some (.string s)

/-- `encodePersistedValue` on the items of an array. -/
def encodePersistedItems : List StoredValue → Option (List JsValue)
  | [] => some []
  | item :: items =>
      (encodePersistedValue item).bind fun v => (encodePersistedItems items).map (v :: ·)

/-- `encodePersistedValue` on the entries of an object. -/
def encodePersistedEntries : List (String × StoredValue) → Option (List (String × JsValue))
  | [] => some []
  | (key, entry) :: entries =>
      (encodePersistedValue entry).bind fun v =>
      (encodePersistedEntries entries).map ((key, v) :: ·)

end

mutual

/-- The JSON value that `JSON.stringify` writes of a value in an array; `none` where it throws, at a
big integer. -/
def serialized : JsValue → Option Json
  | .undefined => some .null
  | .null => some .null
  | .boolean b => some (.boolean b)
  | .number n => some n.toJson
  | .bigint _ => none
  | .string s => some (.string s)
  | .array items => (serializedItems items).map .array
  | .object entries => (serializedEntries entries).map .object

/-- The items that `JSON.stringify` writes. -/
def serializedItems : List JsValue → Option (List Json)
  | [] => some []
  | item :: items => (serialized item).bind fun j => (serializedItems items).map (j :: ·)

/-- The entries that `JSON.stringify` writes, the undefined ones left out. -/
def serializedEntries : List (String × JsValue) → Option (List (String × Json))
  | [] => some []
  | (_, .undefined) :: entries => serializedEntries entries
  | (key, entry) :: entries =>
      (serialized entry).bind fun j => (serializedEntries entries).map ((key, j) :: ·)

end

/-- `new Date(text)`. -/
def dateOfText (text : String) : Option TimeValue :=
  (readIsoDate text).bind fun t =>
    if h : -maxTime ≤ t ∧ t ≤ maxTime then some ⟨t, h⟩ else none

/-- The type and the text of a marked object. -/
def markOf (entries : List (String × JsValue)) : Option (String × String) :=
  match entries.lookup "__cdngineType", entries.lookup "value" with
  | some (.string type), some (.string text) => some (type, text)
  | _, _ => none

mutual

/-- `decodePersistedValue`; `none` where the text of a big integer is none, which throws. -/
def decodePersistedValue : JsValue → Option StoredValue
  | .array items => (decodePersistedItems items).map .array
  | .object entries =>
      match markOf entries with
      | some ("Date", text) => some (.date (dateOfText text))
      | some ("BigInt", text) => (bigIntOfText text).map .bigint
      | _ => (decodePersistedEntries entries).map .object
  | .undefined => some .undefined
  | .null => some .null
  | .boolean b => some (.boolean b)
  | .number n => some (.number n)
  | .bigint n => some (.bigint n)
  | .string s => some (.string s)

/-- `decodePersistedValue` on the items of an array. -/
def decodePersistedItems : List JsValue → Option (List StoredValue)
  | [] => some []
  | item :: items =>
      (decodePersistedValue item).bind fun v => (decodePersistedItems items).map (v :: ·)

/-- `decodePersistedValue` on the entries of an object. -/
def decodePersistedEntries : List (String × JsValue) → Option (List (String × StoredValue))
  | [] => some []
  | (key, entry) :: entries =>
      (decodePersistedValue entry).bind fun v =>
      (decodePersistedEntries entries).map ((key, v) :: ·)

end

/-! ### What comes back -/

mutual

/-- A value without what JSON does not have. -/
def StoredValue.kept : StoredValue → StoredValue
  | .undefined => .null
  | .number (.finite q) => .number (.finite q)
  | .number _ => .null
  | .array items => .array (StoredValue.keptItems items)
  | .object entries => .object (StoredValue.keptEntries entries)
  | .null => .null
  | .boolean b => .boolean b
  | .bigint n => .bigint n
  | .string s => .string s
  | .date t => .date t

/-- The items of an array without what JSON does not have. -/
def StoredValue.keptItems : List StoredValue → List StoredValue
  | [] => []
  | item :: items => item.kept :: StoredValue.keptItems items

/-- The entries of an object without what JSON does not have. -/
def StoredValue.keptEntries : List (String × StoredValue) → List (String × StoredValue)
  | [] => []
  | (_, .undefined) :: entries => StoredValue.keptEntries entries
  | (key, entry) :: entries => (key, entry.kept) :: StoredValue.keptEntries entries

end

mutual

/-- The JSON value that is written of a value with valid dates. -/
def StoredValue.saved : StoredValue → Json
  | .undefined => .null
  | .null => .null
  | .boolean b => .boolean b
  | .number n => n.toJson
  | .bigint n => .object [("__cdngineType", .string "BigInt"), ("value", .string (toString n))]
  | .string s => .string s
  | .date none => .null
  | .date (some t) =>
      .object [("__cdngineType", .string "Date"), ("value", .string (toISOString t.ms))]
  | .array items => .array (StoredValue.savedItems items)
  | .object entries => .object (StoredValue.savedEntries entries)

/-- The items that are written. -/
def StoredValue.savedItems : List StoredValue → List Json
  | [] => []
  | item :: items => item.saved :: StoredValue.savedItems items

/-- The entries that are written. -/
def StoredValue.savedEntries : List (String × StoredValue) → List (String × Json)
  | [] => []
  | (_, .undefined) :: entries => StoredValue.savedEntries entries
  | (key, entry) :: entries => (key, entry.saved) :: StoredValue.savedEntries entries

end

/-- The text under a key of an object. -/
def textUnder (key : String) (entries : List (String × StoredValue)) : Option String :=
  match entries.lookup key with
  | some (.string s) => some s
  | _ => none

/-- An object that looks like one that stands for a date or a big integer. -/
def Marked (entries : List (String × StoredValue)) : Prop :=
  (textUnder "__cdngineType" entries = some "Date" ∨
    textUnder "__cdngineType" entries = some "BigInt") ∧ textUnder "value" entries ≠ none

mutual

/-- Dates are valid, numbers are read back from their texts, and objects have different keys and no
mark of their own. -/
def StoredValue.Storable (rt : Runtime) : StoredValue → Prop
  | .number (.finite q) => (Json.number q).Readable rt
  | .date t => t.isSome = true
  | .array items => StoredValue.ItemsStorable rt items
  | .object entries =>
      (entries.map Prod.fst).Nodup ∧ ¬ Marked entries ∧ StoredValue.EntriesStorable rt entries
  | _ => True

/-- The items of an array are `Storable`. -/
def StoredValue.ItemsStorable (rt : Runtime) : List StoredValue → Prop
  | [] => True
  | item :: items => item.Storable rt ∧ StoredValue.ItemsStorable rt items

/-- The values of an object are `Storable`. -/
def StoredValue.EntriesStorable (rt : Runtime) : List (String × StoredValue) → Prop
  | [] => True
  | (_, entry) :: entries => entry.Storable rt ∧ StoredValue.EntriesStorable rt entries

end

mutual

/-- Numbers are read back from their texts, and objects have different keys. -/
def StoredValue.Legible (rt : Runtime) : StoredValue → Prop
  | .number (.finite q) => (Json.number q).Readable rt
  | .array items => StoredValue.ItemsLegible rt items
  | .object entries =>
      (entries.map Prod.fst).Nodup ∧ StoredValue.EntriesLegible rt entries
  | _ => True

/-- The items of an array are `Legible`. -/
def StoredValue.ItemsLegible (rt : Runtime) : List StoredValue → Prop
  | [] => True
  | item :: items => item.Legible rt ∧ StoredValue.ItemsLegible rt items

/-- The values of an object are `Legible`. -/
def StoredValue.EntriesLegible (rt : Runtime) : List (String × StoredValue) → Prop
  | [] => True
  | (_, entry) :: entries => entry.Legible rt ∧ StoredValue.EntriesLegible rt entries

end

/-! ### Lists of values -/

theorem encodePersistedItems_of {items : List StoredValue}
    (h : ∀ v ∈ items, ∃ e, encodePersistedValue v = some e) :
    ∃ es, encodePersistedItems items = some es := by
  induction items with
  | nil => exact ⟨[], rfl⟩
  | cons item items ih =>
      obtain ⟨⟨e, he⟩, hitems⟩ := List.forall_mem_cons.mp h
      obtain ⟨es, hes⟩ := ih hitems
      exact ⟨e :: es, by rw [encodePersistedItems, he, hes]; rfl⟩

theorem encodePersistedEntries_of {entries : List (String × StoredValue)}
    (h : ∀ entry ∈ entries, ∃ e, encodePersistedValue entry.2 = some e) :
    ∃ es, encodePersistedEntries entries = some es := by
  induction entries with
  | nil => exact ⟨[], rfl⟩
  | cons entry entries ih =>
      obtain ⟨⟨e, he⟩, hentries⟩ := List.forall_mem_cons.mp h
      obtain ⟨es, hes⟩ := ih hentries
      exact ⟨(entry.1, e) :: es, by rw [encodePersistedEntries, he, hes]; rfl⟩

theorem exists_encode_of_mem {items : List StoredValue} {es : List JsValue}
    (h : encodePersistedItems items = some es) :
    ∀ v ∈ items, ∃ e, encodePersistedValue v = some e := by
  induction items generalizing es with
  | nil => exact fun v hv => absurd hv List.not_mem_nil
  | cons item items ih =>
      obtain ⟨e, he, hes⟩ := Option.bind_eq_some_iff.mp h
      obtain ⟨es', hes', -⟩ := Option.map_eq_some_iff.mp hes
      exact List.forall_mem_cons.mpr ⟨⟨e, he⟩, ih hes'⟩

theorem exists_encode_of_mem_entries {entries : List (String × StoredValue)}
    {es : List (String × JsValue)} (h : encodePersistedEntries entries = some es) :
    ∀ entry ∈ entries, ∃ e, encodePersistedValue entry.2 = some e := by
  induction entries generalizing es with
  | nil => exact fun v hv => absurd hv List.not_mem_nil
  | cons entry entries ih =>
      obtain ⟨e, he, hes⟩ := Option.bind_eq_some_iff.mp h
      obtain ⟨es', hes', -⟩ := Option.map_eq_some_iff.mp hes
      exact List.forall_mem_cons.mpr ⟨⟨e, he⟩, ih hes'⟩

theorem decodePersistedItems_of {α : Type} {l : List α} {f : α → JsValue} {g : α → StoredValue}
    (h : ∀ a ∈ l, decodePersistedValue (f a) = some (g a)) :
    decodePersistedItems (l.map f) = some (l.map g) := by
  induction l with
  | nil => rfl
  | cons a l ih =>
      obtain ⟨ha, hl⟩ := List.forall_mem_cons.mp h
      rw [List.map_cons, decodePersistedItems, ha, ih hl]
      rfl

theorem decodePersistedEntries_of {α : Type} {l : List α} {key : α → String} {f : α → JsValue}
    {g : α → StoredValue} (h : ∀ a ∈ l, decodePersistedValue (f a) = some (g a)) :
    decodePersistedEntries (l.map fun a => (key a, f a)) =
      some (l.map fun a => (key a, g a)) := by
  induction l with
  | nil => rfl
  | cons a l ih =>
      obtain ⟨ha, hl⟩ := List.forall_mem_cons.mp h
      rw [List.map_cons, decodePersistedEntries, ha, ih hl]
      rfl

/-- What is decoded of an array, item by item. -/
theorem decodePersistedItems_eq_some {α : Type} {l : List α} {f : α → JsValue}
    {vs : List StoredValue} (h : decodePersistedItems (l.map f) = some vs) :
    l.map (fun a => decodePersistedValue (f a)) = vs.map some := by
  induction l generalizing vs with
  | nil =>
      obtain rfl := Option.some.inj h
      rfl
  | cons a l ih =>
      obtain ⟨v, hv, hvs⟩ := Option.bind_eq_some_iff.mp h
      obtain ⟨vs', hvs', rfl⟩ := Option.map_eq_some_iff.mp hvs
      rw [List.map_cons, List.map_cons, hv, ih hvs']

/-- What is decoded of an object, entry by entry. -/
theorem decodePersistedEntries_eq_some {α : Type} {l : List α} {key : α → String}
    {f : α → JsValue} {vs : List (String × StoredValue)}
    (h : decodePersistedEntries (l.map fun a => (key a, f a)) = some vs) :
    l.map (fun a => (key a, decodePersistedValue (f a))) = vs.map fun e => (e.1, some e.2) := by
  induction l generalizing vs with
  | nil =>
      obtain rfl := Option.some.inj h
      rfl
  | cons a l ih =>
      obtain ⟨v, hv, hvs⟩ := Option.bind_eq_some_iff.mp h
      obtain ⟨vs', hvs', rfl⟩ := Option.map_eq_some_iff.mp hvs
      rw [List.map_cons, List.map_cons, hv, ih hvs']

theorem keptItems_eq_map (items : List StoredValue) :
    StoredValue.keptItems items = items.map StoredValue.kept := by
  induction items with
  | nil => rfl
  | cons item items ih => rw [StoredValue.keptItems, ih, List.map_cons]

theorem savedItems_eq_map (items : List StoredValue) :
    StoredValue.savedItems items = items.map StoredValue.saved := by
  induction items with
  | nil => rfl
  | cons item items ih => rw [StoredValue.savedItems, ih, List.map_cons]

theorem itemsStorable_iff {rt : Runtime} {items : List StoredValue} :
    StoredValue.ItemsStorable rt items ↔ ∀ v ∈ items, v.Storable rt := by
  induction items with
  | nil => exact iff_of_true trivial fun _ h => absurd h List.not_mem_nil
  | cons item items ih => rw [StoredValue.ItemsStorable, ih, List.forall_mem_cons]

theorem entriesStorable_iff {rt : Runtime} {entries : List (String × StoredValue)} :
    StoredValue.EntriesStorable rt entries ↔ ∀ e ∈ entries, e.2.Storable rt := by
  induction entries with
  | nil => exact iff_of_true trivial fun _ h => absurd h List.not_mem_nil
  | cons entry entries ih => rw [StoredValue.EntriesStorable, ih, List.forall_mem_cons]

theorem itemsLegible_iff {rt : Runtime} {items : List StoredValue} :
    StoredValue.ItemsLegible rt items ↔ ∀ v ∈ items, v.Legible rt := by
  induction items with
  | nil => exact iff_of_true trivial fun _ h => absurd h List.not_mem_nil
  | cons item items ih => rw [StoredValue.ItemsLegible, ih, List.forall_mem_cons]

theorem entriesLegible_iff {rt : Runtime} {entries : List (String × StoredValue)} :
    StoredValue.EntriesLegible rt entries ↔ ∀ e ∈ entries, e.2.Legible rt := by
  induction entries with
  | nil => exact iff_of_true trivial fun _ h => absurd h List.not_mem_nil
  | cons entry entries ih => rw [StoredValue.EntriesLegible, ih, List.forall_mem_cons]

/-! ### Undefined entries -/

/-- A value that is not undefined. -/
def StoredValue.isPresent : StoredValue → Bool
  | .undefined => false
  | _ => true

/-- The entries that JSON has. -/
def presentEntries (entries : List (String × StoredValue)) : List (String × StoredValue) :=
  entries.filter fun e => e.2.isPresent

theorem presentEntries_cons (key : String) (v : StoredValue)
    (entries : List (String × StoredValue)) :
    presentEntries ((key, v) :: entries) =
      if v.isPresent = true then (key, v) :: presentEntries entries else presentEntries entries :=
  List.filter_cons

theorem keptEntries_eq_map (entries : List (String × StoredValue)) :
    StoredValue.keptEntries entries =
      (presentEntries entries).map fun e => (e.1, e.2.kept) := by
  induction entries with
  | nil => rfl
  | cons entry entries ih =>
      obtain ⟨key, v⟩ := entry
      rw [presentEntries_cons]
      cases v with
      | undefined => exact ih
      | _ => exact congrArg (_ :: ·) ih

theorem savedEntries_eq_map (entries : List (String × StoredValue)) :
    StoredValue.savedEntries entries =
      (presentEntries entries).map fun e => (e.1, e.2.saved) := by
  induction entries with
  | nil => rfl
  | cons entry entries ih =>
      obtain ⟨key, v⟩ := entry
      rw [presentEntries_cons]
      cases v with
      | undefined => exact ih
      | _ => exact congrArg (_ :: ·) ih

theorem nodup_presentEntries {entries : List (String × StoredValue)}
    (h : (entries.map Prod.fst).Nodup) : ((presentEntries entries).map Prod.fst).Nodup :=
  (List.filter_sublist.map Prod.fst).nodup h

/-- A value under a key is the one that is found there. -/
theorem lookup_of_mem_nodup {β : Type} {entries : List (String × β)}
    (h : (entries.map Prod.fst).Nodup) {key : String} {v : β} (hmem : (key, v) ∈ entries) :
    entries.lookup key = some v := by
  induction entries with
  | nil => exact absurd hmem List.not_mem_nil
  | cons entry entries ih =>
      rw [List.map_cons, List.nodup_cons] at h
      obtain ⟨key', v'⟩ := entry
      rw [List.lookup_cons]
      cases List.mem_cons.mp hmem with
      | inl heq =>
          obtain ⟨rfl, rfl⟩ := Prod.mk.inj heq
          rw [beq_self_eq_true]
      | inr htail =>
          have hne : (key == key') = false := by
            rw [beq_eq_false_iff_ne]
            rintro rfl
            exact h.1 (List.mem_map.mpr ⟨_, htail, rfl⟩)
          rw [hne]
          exact ih h.2 htail

theorem mem_of_lookup {β : Type} {entries : List (String × β)} {key : String} {v : β}
    (h : entries.lookup key = some v) : (key, v) ∈ entries := by
  obtain ⟨before, after, rfl, -⟩ := List.lookup_eq_some_iff.mp h
  exact List.mem_append_right before List.mem_cons_self

/-! ### Values are written -/

theorem serializedEntries_cons {v : JsValue} (h : v ≠ .undefined) (key : String)
    (entries : List (String × JsValue)) :
    serializedEntries ((key, v) :: entries) =
      (serialized v).bind fun j => (serializedEntries entries).map ((key, j) :: ·) := by
  cases v with
  | undefined => exact absurd rfl h
  | _ => rfl

/-- Only undefined is encoded as undefined. -/
theorem eq_undefined_of_encode {v : StoredValue} (h : encodePersistedValue v = some .undefined) :
    v = .undefined := by
  cases v with
  | undefined => rfl
  | date t => cases t <;> cases h
  | array items =>
      obtain ⟨_, _, heq⟩ := Option.map_eq_some_iff.mp h
      cases heq
  | object entries =>
      obtain ⟨_, _, heq⟩ := Option.map_eq_some_iff.mp h
      cases heq
  | _ => cases h

theorem serializedItems_of {items : List StoredValue} {es : List JsValue}
    (h : ∀ v ∈ items, ∀ e, encodePersistedValue v = some e → serialized e = some v.saved)
    (hencode : encodePersistedItems items = some es) :
    serializedItems es = some (StoredValue.savedItems items) := by
  induction items generalizing es with
  | nil =>
      obtain rfl := Option.some.inj hencode
      rfl
  | cons item items ih =>
      obtain ⟨hitem, hitems⟩ := List.forall_mem_cons.mp h
      obtain ⟨e, he, hes⟩ := Option.bind_eq_some_iff.mp hencode
      obtain ⟨es', hes', rfl⟩ := Option.map_eq_some_iff.mp hes
      rw [serializedItems, hitem e he, ih hitems hes']
      rfl

theorem serializedEntries_of {entries : List (String × StoredValue)}
    {es : List (String × JsValue)}
    (h : ∀ entry ∈ entries, ∀ e, encodePersistedValue entry.2 = some e →
      serialized e = some entry.2.saved)
    (hencode : encodePersistedEntries entries = some es) :
    serializedEntries es = some (StoredValue.savedEntries entries) := by
  induction entries generalizing es with
  | nil =>
      obtain rfl := Option.some.inj hencode
      rfl
  | cons entry entries ih =>
      obtain ⟨hentry, hentries⟩ := List.forall_mem_cons.mp h
      obtain ⟨e, he, hes⟩ := Option.bind_eq_some_iff.mp hencode
      obtain ⟨es', hes', rfl⟩ := Option.map_eq_some_iff.mp hes
      obtain ⟨key, v⟩ := entry
      by_cases hv : v = .undefined
      · subst hv
        obtain rfl := Option.some.inj he
        have hrest := ih hentries hes'
        exact hrest
      · have hdefined : e ≠ .undefined := by
          rintro rfl
          exact hv (eq_undefined_of_encode he)
        rw [serializedEntries_cons hdefined, hentry e he, ih hentries hes']
        cases v with
        | undefined => exact absurd rfl hv
        | _ => rfl

/-- **What is written of an encoded value.** -/
theorem serialized_of_encode {v : StoredValue} {e : JsValue}
    (h : encodePersistedValue v = some e) : serialized e = some v.saved := by
  induction v using StoredValue.inductionOn generalizing e with
  | hdate t =>
      cases t with
      | none => cases h
      | some t =>
          obtain rfl := Option.some.inj h
          rfl
  | harray items ih =>
      obtain ⟨es, hes, rfl⟩ := Option.map_eq_some_iff.mp h
      rw [serialized, serializedItems_of (fun v hv e => ih v hv) hes]
      rfl
  | hobject entries ih =>
      obtain ⟨es, hes, rfl⟩ := Option.map_eq_some_iff.mp h
      rw [serialized, serializedEntries_of (fun v hv e => ih v hv) hes]
      rfl
  | _ =>
      obtain rfl := Option.some.inj h
      rfl

/-- A storable value is encoded. -/
theorem exists_encode {rt : Runtime} {v : StoredValue} (h : v.Storable rt) :
    ∃ e, encodePersistedValue v = some e := by
  induction v using StoredValue.inductionOn with
  | hdate t =>
      cases t with
      | none => cases h
      | some t => exact ⟨_, rfl⟩
  | harray items ih =>
      rw [StoredValue.Storable, itemsStorable_iff] at h
      obtain ⟨es, hes⟩ := encodePersistedItems_of fun v hv => ih v hv (h v hv)
      exact ⟨.array es, by rw [encodePersistedValue, hes]; rfl⟩
  | hobject entries ih =>
      rw [StoredValue.Storable, entriesStorable_iff] at h
      obtain ⟨es, hes⟩ := encodePersistedEntries_of fun e he => ih e he (h.2.2 e he)
      exact ⟨.object es, by rw [encodePersistedValue, hes]; rfl⟩
  | _ => exact ⟨_, rfl⟩

theorem StoredValue.Storable.legible {rt : Runtime} {v : StoredValue} (h : v.Storable rt) :
    v.Legible rt := by
  induction v using StoredValue.inductionOn with
  | hnumber n =>
      cases n with
      | finite q => exact h
      | nan => trivial
      | infinity negative => trivial
  | harray items ih =>
      rw [StoredValue.Storable, itemsStorable_iff] at h
      rw [StoredValue.Legible, itemsLegible_iff]
      exact fun v hv => ih v hv (h v hv)
  | hobject entries ih =>
      rw [StoredValue.Storable, entriesStorable_iff] at h
      rw [StoredValue.Legible, entriesLegible_iff]
      exact ⟨h.1, fun e he => ih e he (h.2.2 e he)⟩
  | _ => trivial

/-- What is written of a legible value can be read. -/
theorem readable_saved {rt : Runtime} {v : StoredValue} (h : v.Legible rt) :
    v.saved.Readable rt := by
  have hmarked : ∀ type text : String, (Json.object [("__cdngineType", .string type),
      ("value", .string text)]).Readable rt := by
    intro type text
    have hkeys : ["__cdngineType", "value"].Nodup := by decide
    exact ⟨hkeys, trivial, trivial, trivial⟩
  induction v using StoredValue.inductionOn with
  | hnumber n =>
      cases n with
      | finite q => exact h
      | nan => trivial
      | infinity negative => trivial
  | hbigint n => exact hmarked "BigInt" _
  | hdate t =>
      cases t with
      | none => trivial
      | some t => exact hmarked "Date" _
  | harray items ih =>
      rw [StoredValue.Legible, itemsLegible_iff] at h
      rw [StoredValue.saved, Json.Readable, savedItems_eq_map, itemsReadable_iff,
        List.forall_mem_map]
      exact fun v hv => ih v hv (h v hv)
  | hobject entries ih =>
      rw [StoredValue.Legible, entriesLegible_iff] at h
      rw [StoredValue.saved, Json.Readable, savedEntries_eq_map, entriesReadable_iff,
        List.forall_mem_map, List.map_map]
      exact ⟨nodup_presentEntries h.1, fun e he =>
        ih e (List.mem_of_mem_filter he) (h.2 e (List.mem_of_mem_filter he))⟩
  | _ => trivial

/-! ### Values are read back -/

/-- Only a string is written as a string. -/
theorem saved_toJs_eq_string {v : StoredValue} {s : String} (h : v.saved.toJs = .string s) :
    v = .string s := by
  cases v with
  | string s' => exact congrArg StoredValue.string (JsValue.string.inj h)
  | number n => cases n <;> cases h
  | date t => cases t <;> cases h
  | _ => cases h

/-- A string in what is read of an object was in the object. -/
theorem lookup_saved_string {entries : List (String × StoredValue)}
    (hkeys : (entries.map Prod.fst).Nodup) {key s : String}
    (h : ((presentEntries entries).map fun e => (e.1, e.2.saved.toJs)).lookup key =
      some (.string s)) :
    entries.lookup key = some (.string s) := by
  obtain ⟨⟨key', v⟩, hmem, heq⟩ := List.mem_map.mp (mem_of_lookup h)
  obtain ⟨rfl, hv⟩ := Prod.mk.inj heq
  rw [← saved_toJs_eq_string hv]
  exact lookup_of_mem_nodup hkeys (List.mem_of_mem_filter hmem)

/-- What is read of an object without a mark stands for no date and no big integer. -/
theorem markOf_saved {entries : List (String × StoredValue)}
    (hkeys : (entries.map Prod.fst).Nodup) (hmark : ¬ Marked entries) {type text : String}
    (h : markOf ((presentEntries entries).map fun e => (e.1, e.2.saved.toJs)) =
      some (type, text)) : type ≠ "Date" ∧ type ≠ "BigInt" := by
  rw [markOf] at h
  split at h
  case h_1 type' text' htype htext =>
    obtain ⟨rfl, rfl⟩ := Prod.mk.inj (Option.some.inj h)
    have htype' : textUnder "__cdngineType" entries = some type' := by
      rw [textUnder, lookup_saved_string hkeys htype]
    have htext' : textUnder "value" entries ≠ none := by
      rw [textUnder, lookup_saved_string hkeys htext]
      exact Option.some_ne_none _
    constructor
    · rintro rfl
      exact hmark ⟨.inl htype', htext'⟩
    · rintro rfl
      exact hmark ⟨.inr htype', htext'⟩
  case h_2 => cases h

/-- An object that has no mark is decoded entry by entry. -/
theorem decodePersistedValue_object {entries : List (String × JsValue)}
    (h : ∀ type text, markOf entries = some (type, text) → type ≠ "Date" ∧ type ≠ "BigInt") :
    decodePersistedValue (.object entries) =
      (decodePersistedEntries entries).map .object := by
  rw [decodePersistedValue]
  split
  case h_1 text hmark => exact absurd rfl (h _ _ hmark).1
  case h_2 text hmark => exact absurd rfl (h _ _ hmark).2
  case h_3 => rfl

/-- A date is read back from its text. -/
theorem dateOfText_toISOString (t : TimeValue) : dateOfText (toISOString t.ms) = some t := by
  rw [dateOfText, readIsoDate_toISOString t.inRange.1 t.inRange.2, Option.bind_some,
    dif_pos t.inRange]

/-- **What is read of a storable value** is the value without what JSON does not have. -/
theorem decode_saved {rt : Runtime} {v : StoredValue} (h : v.Storable rt) :
    decodePersistedValue v.saved.toJs = some v.kept := by
  induction v using StoredValue.inductionOn with
  | hundefined => rfl
  | hnull => rfl
  | hboolean b => rfl
  | hnumber n => cases n <;> rfl
  | hbigint n =>
      have hread : decodePersistedValue (StoredValue.bigint n).saved.toJs =
          (bigIntOfText (toString n)).map .bigint := rfl
      rw [hread, bigIntOfText_toString_int]
      rfl
  | hstring s => rfl
  | hdate t =>
      cases t with
      | none => cases h
      | some t =>
          have hread : decodePersistedValue (StoredValue.date (some t)).saved.toJs =
              some (.date (dateOfText (toISOString t.ms))) := rfl
          rw [hread, dateOfText_toISOString]
          rfl
  | harray items ih =>
      rw [StoredValue.Storable, itemsStorable_iff] at h
      have hdecode : decodePersistedItems (items.map fun v => v.saved.toJs) =
          some (items.map StoredValue.kept) :=
        decodePersistedItems_of fun v hv => ih v hv (h v hv)
      rw [StoredValue.saved, savedItems_eq_map, Json.toJs, itemsToJs_eq_map, List.map_map,
        StoredValue.kept, keptItems_eq_map, ← Option.map_some, ← hdecode]
      rfl
  | hobject entries ih =>
      rw [StoredValue.Storable, entriesStorable_iff] at h
      rw [StoredValue.saved, savedEntries_eq_map, Json.toJs, entriesToJs_eq_map, List.map_map]
      have hdecode : decodePersistedEntries
          ((presentEntries entries).map fun e => (e.1, e.2.saved.toJs)) =
            some ((presentEntries entries).map fun e => (e.1, e.2.kept)) :=
        decodePersistedEntries_of fun e he =>
          ih e (List.mem_of_mem_filter he) (h.2.2 e (List.mem_of_mem_filter he))
      rw [StoredValue.kept, keptEntries_eq_map, ← Option.map_some, ← hdecode]
      exact decodePersistedValue_object fun type text => markOf_saved h.1 h.2.1

/-! ### Values that do not come back -/

/-- What a value has become when it was written and read. -/
def persisted (v : StoredValue) : Option StoredValue :=
  (encodePersistedValue v).bind fun e =>
    (serialized e).bind fun j => decodePersistedValue j.toJs

theorem persisted_eq_some_iff {v w : StoredValue} :
    persisted v = some w ↔
      (∃ e, encodePersistedValue v = some e) ∧ decodePersistedValue v.saved.toJs = some w := by
  constructor
  · intro h
    obtain ⟨e, he, hread⟩ := Option.bind_eq_some_iff.mp h
    rw [serialized_of_encode he, Option.bind_some] at hread
    exact ⟨⟨e, he⟩, hread⟩
  · rintro ⟨⟨e, he⟩, hread⟩
    rw [persisted, he, Option.bind_some, serialized_of_encode he, Option.bind_some, hread]

/-- A string in an object is in what is read of it. -/
theorem lookup_saved_of_string {entries : List (String × StoredValue)}
    (hkeys : (entries.map Prod.fst).Nodup) {key s : String}
    (h : entries.lookup key = some (.string s)) :
    ((presentEntries entries).map fun e => (e.1, e.2.saved.toJs)).lookup key =
      some (.string s) := by
  have hmem : (key, .string s) ∈ presentEntries entries :=
    List.mem_filter.mpr ⟨mem_of_lookup h, rfl⟩
  refine lookup_of_mem_nodup ?_ (List.mem_map.mpr ⟨_, hmem, rfl⟩)
  rw [List.map_map]
  exact nodup_presentEntries hkeys

theorem textUnder_eq_some {key s : String} {entries : List (String × StoredValue)}
    (h : textUnder key entries = some s) : entries.lookup key = some (.string s) := by
  rw [textUnder] at h
  split at h
  case h_1 s' hlookup =>
    obtain rfl := Option.some.inj h
    exact hlookup
  case h_2 => cases h

/-- **An object with a mark of its own** comes back as no object. -/
theorem marked_value_changes {entries : List (String × StoredValue)}
    (hkeys : (entries.map Prod.fst).Nodup) (hmark : Marked entries)
    (entries' : List (String × StoredValue)) :
    decodePersistedValue (StoredValue.object entries).saved.toJs ≠ some (.object entries') := by
  obtain ⟨htype, hvalue⟩ := hmark
  obtain ⟨text, htext⟩ := Option.ne_none_iff_exists'.mp hvalue
  have htext' := lookup_saved_of_string hkeys (textUnder_eq_some htext)
  rw [StoredValue.saved, savedEntries_eq_map, Json.toJs, entriesToJs_eq_map, List.map_map]
  intro h
  cases htype with
  | inl hdate =>
      have hdate' := lookup_saved_of_string hkeys (textUnder_eq_some hdate)
      have hmarkOf : markOf ((presentEntries entries).map fun e => (e.1, e.2.saved.toJs)) =
          some ("Date", text) := by
        rw [markOf, hdate', htext']
      have hread : decodePersistedValue
          (.object ((presentEntries entries).map fun e => (e.1, e.2.saved.toJs))) =
            some (.date (dateOfText text)) := by
        rw [decodePersistedValue, hmarkOf]
        rfl
      cases hread.symm.trans h
  | inr hbigint =>
      have hbigint' := lookup_saved_of_string hkeys (textUnder_eq_some hbigint)
      have hmarkOf : markOf ((presentEntries entries).map fun e => (e.1, e.2.saved.toJs)) =
          some ("BigInt", text) := by
        rw [markOf, hbigint', htext']
      have hread : decodePersistedValue
          (.object ((presentEntries entries).map fun e => (e.1, e.2.saved.toJs))) =
            (bigIntOfText text).map .bigint := by
        rw [decodePersistedValue, hmarkOf]
        rfl
      obtain ⟨n, -, hn⟩ := Option.map_eq_some_iff.mp (hread.symm.trans h)
      cases hn

/-- **Exactly the storable values come back** as what JSON has of them. -/
theorem persisted_eq_kept_iff {rt : Runtime} {v : StoredValue} (h : v.Legible rt) :
    persisted v = some v.kept ↔ v.Storable rt := by
  refine ⟨fun hback => ?_, fun hstorable =>
    persisted_eq_some_iff.mpr ⟨exists_encode hstorable, decode_saved hstorable⟩⟩
  induction v using StoredValue.inductionOn with
  | hnumber n =>
      cases n with
      | finite q => exact h
      | nan => trivial
      | infinity negative => trivial
  | hdate t =>
      cases t with
      | none => cases hback
      | some t => rfl
  | harray items ih =>
      rw [StoredValue.Legible, itemsLegible_iff] at h
      obtain ⟨⟨e, he⟩, hread⟩ := persisted_eq_some_iff.mp hback
      obtain ⟨es, hes, -⟩ := Option.map_eq_some_iff.mp he
      rw [StoredValue.saved, savedItems_eq_map, Json.toJs, itemsToJs_eq_map, List.map_map,
        decodePersistedValue, StoredValue.kept, keptItems_eq_map] at hread
      obtain ⟨vs, hvs, heq⟩ := Option.map_eq_some_iff.mp hread
      obtain rfl := StoredValue.array.inj heq
      have hitems := decodePersistedItems_eq_some hvs
      rw [List.map_map] at hitems
      rw [StoredValue.Storable, itemsStorable_iff]
      exact fun v hv => ih v hv (h v hv) (persisted_eq_some_iff.mpr
        ⟨exists_encode_of_mem hes v hv, List.map_inj_left.mp hitems v hv⟩)
  | hobject entries ih =>
      rw [StoredValue.Legible, entriesLegible_iff] at h
      obtain ⟨⟨e, he⟩, hread⟩ := persisted_eq_some_iff.mp hback
      obtain ⟨es, hes, -⟩ := Option.map_eq_some_iff.mp he
      have hmark : ¬ Marked entries := fun hmark =>
        marked_value_changes h.1 hmark _ hread
      rw [StoredValue.saved, savedEntries_eq_map, Json.toJs, entriesToJs_eq_map, List.map_map,
        StoredValue.kept, keptEntries_eq_map] at hread
      have hplain := decodePersistedValue_object fun type text htype =>
        markOf_saved h.1 hmark htype
      obtain ⟨vs, hvs, heq⟩ := Option.map_eq_some_iff.mp (hplain.symm.trans hread)
      obtain rfl := StoredValue.object.inj heq
      have hentries := decodePersistedEntries_eq_some hvs
      rw [List.map_map] at hentries
      rw [StoredValue.Storable, entriesStorable_iff]
      refine ⟨h.1, hmark, fun e he => ih e he (h.2 e he) (persisted_eq_some_iff.mpr
        ⟨exists_encode_of_mem_entries hes e he, ?_⟩)⟩
      by_cases hpresent : e.2.isPresent = true
      · have hentry := List.map_inj_left.mp hentries e (List.mem_filter.mpr ⟨he, hpresent⟩)
        exact congrArg Prod.snd hentry
      · have hv : e.2 = .undefined := by
          cases hv : e.2 with
          | undefined => rfl
          | _ => exact absurd (by rw [hv]; rfl) hpresent
        rw [hv]
        rfl
  | _ => trivial

/-! ### What comes back twice -/

/-- Only a string is kept as a string. -/
theorem kept_eq_string {v : StoredValue} {s : String} (h : v.kept = .string s) :
    v = .string s := by
  cases v with
  | string s' => exact h
  | number n => cases n <;> cases h
  | _ => cases h

/-- A text in what comes back of an object was in the object. -/
theorem textUnder_kept {entries : List (String × StoredValue)}
    (hkeys : (entries.map Prod.fst).Nodup) {key s : String}
    (h : textUnder key (StoredValue.keptEntries entries) = some s) :
    textUnder key entries = some s := by
  have hlookup := textUnder_eq_some h
  rw [keptEntries_eq_map] at hlookup
  obtain ⟨⟨key', v⟩, hmem, heq⟩ := List.mem_map.mp (mem_of_lookup hlookup)
  obtain ⟨rfl, hv⟩ := Prod.mk.inj heq
  have hv' : v = .string s := kept_eq_string hv
  have hentry := lookup_of_mem_nodup hkeys (List.mem_of_mem_filter hmem)
  rw [textUnder, hentry, hv']

/-- What comes back of a storable value is storable. -/
theorem StoredValue.Storable.kept {rt : Runtime} {v : StoredValue} (h : v.Storable rt) :
    v.kept.Storable rt := by
  induction v using StoredValue.inductionOn with
  | hnumber n =>
      cases n with
      | finite q => exact h
      | nan => trivial
      | infinity negative => trivial
  | hdate t => exact h
  | harray items ih =>
      rw [StoredValue.Storable, itemsStorable_iff] at h
      rw [StoredValue.kept, StoredValue.Storable, keptItems_eq_map, itemsStorable_iff]
      exact List.forall_mem_map.mpr fun v hv => ih v hv (h v hv)
  | hobject entries ih =>
      rw [StoredValue.Storable, entriesStorable_iff] at h
      rw [StoredValue.kept, StoredValue.Storable, entriesStorable_iff]
      refine ⟨?_, ?_, ?_⟩
      · rw [keptEntries_eq_map, List.map_map]
        exact nodup_presentEntries h.1
      · rintro ⟨htype, hvalue⟩
        obtain ⟨text, htext⟩ := Option.ne_none_iff_exists'.mp hvalue
        have hvalue' : textUnder "value" entries ≠ none := by
          rw [textUnder_kept h.1 htext]
          exact Option.some_ne_none text
        exact h.2.1 ⟨htype.imp (textUnder_kept h.1) (textUnder_kept h.1), hvalue'⟩
      · rw [keptEntries_eq_map]
        exact List.forall_mem_map.mpr fun e he =>
          ih e (List.mem_of_mem_filter he) (h.2.2 e (List.mem_of_mem_filter he))
  | _ => trivial

end Cdngine
