import Cdngine.Platform

/-!
# Values in JSON Columns

A value is converted by `toJsonValue` when a JSON column is written, and read back as plain
JSON. The conversion turns into text what JSON does not have, and `null` as well.

## Main results

* `toJs_toJsonValue_iff`: a value is read back as it was written exactly when it is JSON and
  has no `null` at any depth.
* `JsValue.contains_withNulls`: a value with `null` for each text of it, which is stored alike.
-/

namespace Cdngine

/-! ### Induction over values -/

mutual

/-- Induction over the values of arrays and objects. -/
theorem JsValue.inductionOn {P : JsValue → Prop} (hundefined : P .undefined) (hnull : P .null)
    (hboolean : ∀ b, P (.boolean b)) (hnumber : ∀ n, P (.number n)) (hbigint : ∀ n, P (.bigint n))
    (hstring : ∀ s, P (.string s)) (harray : ∀ items, (∀ v ∈ items, P v) → P (.array items))
    (hobject : ∀ entries, (∀ e ∈ entries, P e.2) → P (.object entries)) : ∀ v, P v
  | .undefined => hundefined
  | .null => hnull
  | .boolean b => hboolean b
  | .number n => hnumber n
  | .bigint n => hbigint n
  | .string s => hstring s
  | .array items => harray items (JsValue.inductionOnItems hundefined hnull hboolean hnumber hbigint
      hstring harray hobject items)
  | .object entries => hobject entries (JsValue.inductionOnEntries hundefined hnull hboolean hnumber
      hbigint hstring harray hobject entries)

/-- Induction over the values of the items of an array. -/
theorem JsValue.inductionOnItems {P : JsValue → Prop} (hundefined : P .undefined) (hnull : P .null)
    (hboolean : ∀ b, P (.boolean b)) (hnumber : ∀ n, P (.number n)) (hbigint : ∀ n, P (.bigint n))
    (hstring : ∀ s, P (.string s)) (harray : ∀ items, (∀ v ∈ items, P v) → P (.array items))
    (hobject : ∀ entries, (∀ e ∈ entries, P e.2) → P (.object entries)) :
    ∀ items : List JsValue, ∀ v ∈ items, P v
  | [] => fun _ hv => absurd hv List.not_mem_nil
  | item :: items => List.forall_mem_cons.mpr
      ⟨JsValue.inductionOn hundefined hnull hboolean hnumber hbigint hstring harray hobject item,
        JsValue.inductionOnItems hundefined hnull hboolean hnumber hbigint hstring harray hobject
          items⟩

/-- Induction over the values of the entries of an object. -/
theorem JsValue.inductionOnEntries {P : JsValue → Prop} (hundefined : P .undefined)
    (hnull : P .null) (hboolean : ∀ b, P (.boolean b)) (hnumber : ∀ n, P (.number n))
    (hbigint : ∀ n, P (.bigint n)) (hstring : ∀ s, P (.string s))
    (harray : ∀ items, (∀ v ∈ items, P v) → P (.array items))
    (hobject : ∀ entries, (∀ e ∈ entries, P e.2) → P (.object entries)) :
    ∀ entries : List (String × JsValue), ∀ e ∈ entries, P e.2
  | [] => fun _ he => absurd he List.not_mem_nil
  | (_, entry) :: entries => List.forall_mem_cons.mpr
      ⟨JsValue.inductionOn hundefined hnull hboolean hnumber hbigint hstring harray hobject entry,
        JsValue.inductionOnEntries hundefined hnull hboolean hnumber hbigint hstring harray hobject
          entries⟩

end

theorem map_eq_self_iff {α : Type} {f : α → α} {l : List α} : l.map f = l ↔ ∀ a ∈ l, f a = a := by
  rw [← List.map_inj_left, List.map_id']

theorem any_congr_of_mem {α : Type} {p q : α → Bool} {l : List α} (h : ∀ a ∈ l, p a = q a) :
    l.any p = l.any q := by
  induction l with
  | nil => rfl
  | cons a l ih =>
      obtain ⟨ha, hl⟩ := List.forall_mem_cons.mp h
      rw [List.any_cons, List.any_cons, ha, ih hl]

theorem toJsonItems_eq_map (rt : Runtime) (items : List JsValue) :
    toJsonItems rt items = items.map (toJsonValue rt) := by
  induction items with
  | nil => rfl
  | cons item items ih => rw [toJsonItems, ih, List.map_cons]

theorem toJsonEntries_eq_map (rt : Runtime) (entries : List (String × JsValue)) :
    toJsonEntries rt entries = entries.map fun e => (e.1, toJsonValue rt e.2) := by
  induction entries with
  | nil => rfl
  | cons entry entries ih => rw [toJsonEntries, ih, List.map_cons]

theorem itemsToJs_eq_map (items : List Json) : Json.itemsToJs items = items.map Json.toJs := by
  induction items with
  | nil => rfl
  | cons item items ih => rw [Json.itemsToJs, ih, List.map_cons]

theorem entriesToJs_eq_map (entries : List (String × Json)) :
    Json.entriesToJs entries = entries.map fun e => (e.1, e.2.toJs) := by
  induction entries with
  | nil => rfl
  | cons entry entries ih => rw [Json.entriesToJs, ih, List.map_cons]

/-! ### Values at any depth -/

mutual

/-- A plain value of which `p` holds is in a value, at any depth. -/
def JsValue.contains (p : JsValue → Bool) : JsValue → Bool
  | .array items => JsValue.itemsContain p items
  | .object entries => JsValue.entriesContain p entries
  | .undefined => p .undefined
  | .null => p .null
  | .boolean b => p (.boolean b)
  | .number n => p (.number n)
  | .bigint n => p (.bigint n)
  | .string s => p (.string s)

/-- A plain value of which `p` holds is in the items of an array. -/
def JsValue.itemsContain (p : JsValue → Bool) : List JsValue → Bool
  | [] => false
  | item :: items => item.contains p || JsValue.itemsContain p items

/-- A plain value of which `p` holds is in the entries of an object. -/
def JsValue.entriesContain (p : JsValue → Bool) : List (String × JsValue) → Bool
  | [] => false
  | (_, entry) :: entries => entry.contains p || JsValue.entriesContain p entries

end

theorem JsValue.itemsContain_eq_any (p : JsValue → Bool) (items : List JsValue) :
    JsValue.itemsContain p items = items.any (·.contains p) := by
  induction items with
  | nil => rfl
  | cons item items ih => rw [JsValue.itemsContain, ih, List.any_cons]

theorem JsValue.entriesContain_eq_any (p : JsValue → Bool) (entries : List (String × JsValue)) :
    JsValue.entriesContain p entries = entries.any (·.2.contains p) := by
  induction entries with
  | nil => rfl
  | cons entry entries ih => rw [JsValue.entriesContain, ih, List.any_cons]

def JsValue.isNull : JsValue → Bool
  | .null => true
  | _ => false

/-- The text that a column has for `null`. -/
def JsValue.isNullText : JsValue → Bool
  | .string s => s == "null"
  | _ => false

/-- A plain value that JSON does not have. -/
def JsValue.isForeign : JsValue → Bool
  | .undefined | .bigint _ => true
  | .number (.finite _) => false
  | .number _ => true
  | _ => false

/-- A JSON value: strings, finite numbers, booleans, nulls, arrays and objects. -/
def JsValue.IsJson (v : JsValue) : Prop := v.contains JsValue.isForeign = false

/-- There is no `null` in a value. -/
def JsValue.NullFree (v : JsValue) : Prop := v.contains JsValue.isNull = false

instance (v : JsValue) : Decidable v.IsJson := inferInstanceAs (Decidable (_ = _))

instance (v : JsValue) : Decidable v.NullFree := inferInstanceAs (Decidable (_ = _))

/-- There is neither `null` nor the text of it in a value. -/
def JsValue.NullTextFree (v : JsValue) : Prop :=
  v.contains (fun w => w.isNull || w.isNullText) = false

/-! ### Reading back -/

/-- **A value is read back from a column as it was written** exactly when it is JSON and has
no `null` at any depth. -/
theorem toJs_toJsonValue_iff (rt : Runtime) (v : JsValue) :
    (toJsonValue rt v).toJs = v ↔ v.IsJson ∧ v.NullFree := by
  unfold JsValue.IsJson JsValue.NullFree
  induction v using JsValue.inductionOn with
  | hundefined => simp [toJsonValue, Json.toJs, JsValue.contains, JsValue.isForeign]
  | hnull => simp [toJsonValue, Json.toJs, JsValue.contains, JsValue.isNull]
  | hboolean b =>
      simp [toJsonValue, Json.toJs, JsValue.contains, JsValue.isForeign, JsValue.isNull]
  | hnumber n =>
      cases n <;> simp [toJsonValue, Json.toJs, JsValue.contains, JsValue.isForeign, JsValue.isNull]
  | hbigint n => simp [toJsonValue, Json.toJs, JsValue.contains, JsValue.isForeign]
  | hstring s =>
      simp [toJsonValue, Json.toJs, JsValue.contains, JsValue.isForeign, JsValue.isNull]
  | harray items ih =>
      simp only [toJsonValue, Json.toJs, JsValue.contains, JsValue.array.injEq, toJsonItems_eq_map,
        itemsToJs_eq_map, JsValue.itemsContain_eq_any, List.map_map, List.any_eq_false,
        Bool.not_eq_true]
      rw [map_eq_self_iff, ← forall₂_and]
      exact forall₂_congr ih
  | hobject entries ih =>
      simp only [toJsonValue, Json.toJs, JsValue.contains, JsValue.object.injEq,
        toJsonEntries_eq_map, entriesToJs_eq_map, JsValue.entriesContain_eq_any, List.map_map,
        List.any_eq_false, Bool.not_eq_true]
      rw [map_eq_self_iff, ← forall₂_and]
      refine forall₂_congr fun e he => (?_ : _ ↔ _).trans (ih e he)
      exact ⟨fun h => congrArg Prod.snd h, fun h => Prod.ext rfl h⟩

/-- The column of a value is that of what is read back from it. -/
theorem toJsonValue_toJs_toJsonValue (rt : Runtime) (v : JsValue) :
    toJsonValue rt (toJsonValue rt v).toJs = toJsonValue rt v := by
  induction v using JsValue.inductionOn with
  | hundefined | hnull | hboolean | hbigint | hstring => rfl
  | hnumber n => cases n <;> rfl
  | harray items ih =>
      simp only [toJsonValue, Json.toJs, toJsonItems_eq_map, itemsToJs_eq_map, List.map_map,
        Json.array.injEq]
      exact List.map_congr_left ih
  | hobject entries ih =>
      simp only [toJsonValue, Json.toJs, toJsonEntries_eq_map, entriesToJs_eq_map, List.map_map,
        Json.object.injEq]
      exact List.map_congr_left fun e he => Prod.ext rfl (ih e he)

/-- What is read back from the column of a value can be read back again. -/
theorem toJs_toJsonValue_kept (rt : Runtime) (v : JsValue) :
    (toJsonValue rt v).toJs.IsJson ∧ (toJsonValue rt v).toJs.NullFree :=
  (toJs_toJsonValue_iff rt _).mp (congrArg Json.toJs (toJsonValue_toJs_toJsonValue rt v))

/-! ### Values that are stored alike -/

/-- The text of `null` is in what is read back of a JSON value exactly where the value has
`null` or the text of it. -/
theorem contains_toJs_toJsonValue (rt : Runtime) (v : JsValue) (hv : v.IsJson) :
    (toJsonValue rt v).toJs.contains JsValue.isNullText =
      v.contains fun w => w.isNull || w.isNullText := by
  unfold JsValue.IsJson at hv
  induction v using JsValue.inductionOn with
  | hundefined | hbigint => cases hv
  | hnull | hboolean | hstring => rfl
  | hnumber n =>
      cases n with
      | finite q => rfl
      | nan | infinity => cases hv
  | harray items ih =>
      simp only [toJsonValue, Json.toJs, JsValue.contains, toJsonItems_eq_map, itemsToJs_eq_map,
        JsValue.itemsContain_eq_any, List.map_map, List.any_map, List.any_eq_false,
        Bool.not_eq_true] at hv ⊢
      exact any_congr_of_mem fun w hw => ih w hw (hv w hw)
  | hobject entries ih =>
      simp only [toJsonValue, Json.toJs, JsValue.contains, toJsonEntries_eq_map, entriesToJs_eq_map,
        JsValue.entriesContain_eq_any, List.map_map, List.any_map, List.any_eq_false,
        Bool.not_eq_true] at hv ⊢
      exact any_congr_of_mem fun e he => ih e he (hv e he)

mutual

/-- A value with `null` for each text of it. -/
def JsValue.withNulls : JsValue → JsValue
  | .string s => if s = "null" then .null else .string s
  | .array items => .array (JsValue.itemsWithNulls items)
  | .object entries => .object (JsValue.entriesWithNulls entries)
  | v => v

/-- The items of an array with `null` for each text of it. -/
def JsValue.itemsWithNulls : List JsValue → List JsValue
  | [] => []
  | item :: items => item.withNulls :: JsValue.itemsWithNulls items

/-- The entries of an object with `null` for each text of it. -/
def JsValue.entriesWithNulls : List (String × JsValue) → List (String × JsValue)
  | [] => []
  | (key, entry) :: entries => (key, entry.withNulls) :: JsValue.entriesWithNulls entries

end

theorem JsValue.itemsWithNulls_eq_map (items : List JsValue) :
    JsValue.itemsWithNulls items = items.map (·.withNulls) := by
  induction items with
  | nil => rfl
  | cons item items ih => rw [JsValue.itemsWithNulls, ih, List.map_cons]

theorem JsValue.entriesWithNulls_eq_map (entries : List (String × JsValue)) :
    JsValue.entriesWithNulls entries = entries.map fun e => (e.1, e.2.withNulls) := by
  induction entries with
  | nil => rfl
  | cons entry entries ih => rw [JsValue.entriesWithNulls, ih, List.map_cons]

/-- A value with `null` for each text of it is stored alike. -/
theorem toJsonValue_withNulls (rt : Runtime) (v : JsValue) :
    toJsonValue rt v.withNulls = toJsonValue rt v := by
  induction v using JsValue.inductionOn with
  | hundefined | hnull | hboolean | hnumber | hbigint => rfl
  | hstring s =>
      rw [JsValue.withNulls]
      split
      · rename_i hs
        rw [hs]
        rfl
      · rfl
  | harray items ih =>
      simp only [JsValue.withNulls, toJsonValue, JsValue.itemsWithNulls_eq_map, toJsonItems_eq_map,
        List.map_map, Json.array.injEq]
      exact List.map_congr_left ih
  | hobject entries ih =>
      simp only [JsValue.withNulls, toJsonValue, JsValue.entriesWithNulls_eq_map,
        toJsonEntries_eq_map, List.map_map, Json.object.injEq]
      exact List.map_congr_left fun e he => Prod.ext rfl (ih e he)

/-- Where `null` and what JSON does not have are in a value with `null` for each text. -/
theorem JsValue.contains_withNulls (v : JsValue) :
    v.withNulls.contains JsValue.isNull = v.contains (fun w => w.isNull || w.isNullText) ∧
      v.withNulls.contains JsValue.isForeign = v.contains JsValue.isForeign := by
  induction v using JsValue.inductionOn with
  | hundefined | hnull | hboolean | hnumber | hbigint => exact ⟨rfl, rfl⟩
  | hstring s =>
      rw [JsValue.withNulls]
      split
      · rename_i hs
        rw [hs]
        exact ⟨rfl, rfl⟩
      · rename_i hs
        simp [JsValue.contains, JsValue.isNull, JsValue.isNullText, hs]
  | harray items ih =>
      simp only [JsValue.withNulls, JsValue.contains, JsValue.itemsWithNulls_eq_map,
        JsValue.itemsContain_eq_any, List.any_map]
      exact ⟨any_congr_of_mem fun w hw => (ih w hw).1, any_congr_of_mem fun w hw => (ih w hw).2⟩
  | hobject entries ih =>
      simp only [JsValue.withNulls, JsValue.contains, JsValue.entriesWithNulls_eq_map,
        JsValue.entriesContain_eq_any, List.any_map]
      exact ⟨any_congr_of_mem fun e he => (ih e he).1, any_congr_of_mem fun e he => (ih e he).2⟩

theorem JsValue.contains_mono {p q : JsValue → Bool} (hpq : ∀ v, p v = true → q v = true)
    (v : JsValue) (h : v.contains p = true) : v.contains q = true := by
  induction v using JsValue.inductionOn with
  | hundefined | hnull | hboolean | hnumber | hbigint | hstring => exact hpq _ h
  | harray items ih =>
      simp only [JsValue.contains, JsValue.itemsContain_eq_any, List.any_eq_true] at h ⊢
      obtain ⟨w, hw, hp⟩ := h
      exact ⟨w, hw, ih w hw hp⟩
  | hobject entries ih =>
      simp only [JsValue.contains, JsValue.entriesContain_eq_any, List.any_eq_true] at h ⊢
      obtain ⟨e, he, hp⟩ := h
      exact ⟨e, he, ih e he hp⟩

theorem JsValue.NullTextFree.nullFree {v : JsValue} (h : v.NullTextFree) : v.NullFree := by
  refine Bool.eq_false_iff.mpr fun hnull => Bool.eq_false_iff.mp h ?_
  exact v.contains_mono (fun w hw => by rw [hw, Bool.true_or]) hnull

end Cdngine
