import Cdngine.JsonColumns
import Cdngine.PercentEncoding
import Cdngine.SortedJson

/-!
# JSONB Columns

A JSONB column lists the members of an object by the length of their keys and then by their bytes,
in whatever order they were written, and does not take the character U+0000. A client that parses
the column lists the keys that are indexes of an array before the others. So a value is read back
the same up to the order of its members, but a text or a digest of it may be another one.

## Main results

* `Json.column_eq_iff`: the values with one column are the same up to the order of their members.
* `Json.fromColumn_same_iff`: which values are read back the same after a conversion.
-/

namespace Cdngine

open PercentEncoding

/-! ### The order of members -/

/-- The order of the members of a JSONB object: by the number of bytes of the keys, then by the
bytes. -/
def jsonbKeyCompare : String → String → Ordering :=
  compareLex (compareOn fun key => (utf8 key.toList).length) (compareOn fun key => utf8 key.toList)

instance : Std.TransCmp jsonbKeyCompare := inferInstanceAs (Std.TransCmp (compareLex _ _))

/-- No two keys are tied. -/
theorem eq_of_jsonbKeyCompare {key key' : String} (h : jsonbKeyCompare key key' = .eq) :
    key = key' := by
  rw [jsonbKeyCompare, compareLex_eq_eq] at h
  have hbytes : utf8 key.toList = utf8 key'.toList := Std.LawfulEqCmp.eq_of_compare h.2
  exact String.toList_inj.mp (utf8_inj.mp hbytes)

/-- The place of a key among the keys that a client lists: the indexes of an array by number, and
the others behind them. -/
def enumerationRank (key : String) : Nat :=
  let n := Nat.ofDigitChars 10 key.toList 0
  if Nat.toDigits 10 n = key.toList ∧ n < 2 ^ 32 - 1 then n else 2 ^ 32 - 1

/-- A value as a JSONB column keeps it. -/
def Json.column (j : Json) : Json := j.sortKeys jsonbKeyCompare

/-- A value as a client reads it from a JSONB column. -/
def Json.fromColumn (j : Json) : Json := j.column.sortKeys (compareOn enumerationRank)

mutual

/-- A JSONB column takes a value: no text and no key in it has the character U+0000. -/
def Json.storable : Json → Bool
  | .array items => Json.itemsStorable items
  | .object entries => Json.entriesStorable entries
  | .string s => !s.toList.contains '\x00'
  | .null | .boolean _ | .number _ => true

/-- A JSONB column takes the items of an array. -/
def Json.itemsStorable : List Json → Bool
  | [] => true
  | item :: items => item.storable && Json.itemsStorable items

/-- A JSONB column takes the entries of an object. -/
def Json.entriesStorable : List (String × Json) → Bool
  | [] => true
  | (key, entry) :: entries =>
      !key.toList.contains '\x00' && entry.storable && Json.entriesStorable entries

end

/-! ### Sorting keeps a value -/

theorem sortItems_eq_map (cmp : String → String → Ordering) (items : List Json) :
    Json.sortItems cmp items = items.map (·.sortKeys cmp) := by
  induction items with
  | nil => rw [Json.sortItems, List.map_nil]
  | cons item items ih => rw [Json.sortItems, ih, List.map_cons]

theorem keyedItems_iff {items : List Json} : Json.KeyedItems items ↔ ∀ j ∈ items, j.Keyed := by
  induction items with
  | nil => simp [Json.KeyedItems]
  | cons item items ih => rw [Json.KeyedItems, ih, List.forall_mem_cons]

theorem sameItems_map_iff {f : Json → Json} {items : List Json} :
    Json.SameItems (items.map f) items ↔ ∀ j ∈ items, (f j).Same j := by
  induction items with
  | nil => simp [Json.SameItems]
  | cons item items ih => rw [List.map_cons, Json.SameItems, ih, List.forall_mem_cons]

section SortedValues

variable {cmp : String → String → Ordering}

/-- The entries of an object, sorted inside and by key, have the same keys. -/
theorem perm_map_sorted (entries : List (String × Json)) :
    ((sortBy (fun left right => (cmp left.1 right.1).isLE)
      (entries.map fun e => (e.1, e.2.sortKeys cmp))).map (·.1)).Perm (entries.map (·.1)) := by
  refine ((sortBy_perm _ _).map _).trans (.of_eq ?_)
  rw [List.map_map]
  rfl

theorem Json.keyed_sortKeys {j : Json} (h : j.Keyed) : (j.sortKeys cmp).Keyed := by
  induction j using Json.inductionOn with
  | hnull | hboolean | hnumber | hstring => simp [Json.sortKeys, Json.Keyed]
  | harray items ih =>
      rw [Json.Keyed, keyedItems_iff] at h
      rw [Json.sortKeys, Json.Keyed, keyedItems_iff, sortItems_eq_map]
      exact List.forall_mem_map.mpr fun j hj => ih j hj (h j hj)
  | hobject entries ih =>
      rw [Json.Keyed, keyedEntries_iff] at h
      rw [Json.sortKeys, Json.Keyed, keyedEntries_iff, sortEntries_eq_map]
      refine ⟨(perm_map_sorted entries).nodup_iff.mpr h.1, fun e he => ?_⟩
      obtain ⟨e', he', rfl⟩ := List.mem_map.mp ((sortBy_perm _ _).mem_iff.mp he)
      exact ih e' he' (h.2 e' he')

/-- **A sorted value is the same value.** -/
theorem Json.sortKeys_same (j : Json) : (j.sortKeys cmp).Same j := by
  induction j using Json.inductionOn with
  | hnull | hboolean | hnumber | hstring => simp [Json.sortKeys, Json.Same]
  | harray items ih =>
      rw [Json.sortKeys, Json.Same, sortItems_eq_map, sameItems_map_iff]
      exact ih
  | hobject entries ih =>
      rw [Json.sortKeys, Json.same_object_iff, sortEntries_eq_map, sameEntries_iff]
      refine ⟨?_, fun e he => ?_⟩
      · rw [(sortBy_perm _ _).length_eq, List.length_map]
      · obtain ⟨e', he', rfl⟩ := List.mem_map.mp ((sortBy_perm _ _).mem_iff.mp he)
        exact ⟨e'.2, he', ih e' he'⟩

/-- A plain value is in a sorted value exactly where it is in the value. -/
theorem contains_sortKeys (p : JsValue → Bool) (j : Json) :
    (j.sortKeys cmp).toJs.contains p = j.toJs.contains p := by
  induction j using Json.inductionOn with
  | hnull | hboolean | hnumber | hstring => simp only [Json.sortKeys]
  | harray items ih =>
      simp only [Json.sortKeys, sortItems_eq_map, Json.toJs, itemsToJs_eq_map, JsValue.contains,
        JsValue.itemsContain_eq_any, List.map_map, List.any_map]
      exact any_congr_of_mem ih
  | hobject entries ih =>
      simp only [Json.sortKeys, sortEntries_eq_map, Json.toJs, entriesToJs_eq_map,
        JsValue.contains, JsValue.entriesContain_eq_any, List.any_map]
      rw [(sortBy_perm _ _).any_eq, List.any_map]
      exact any_congr_of_mem ih

/-- Without ties among keys, values that are the same have their tied keys in the same order. -/
theorem Json.keysAlike_of_same [Std.TransCmp cmp]
    (hties : ∀ key key', cmp key key' = .eq → key = key') {j j' : Json} (hj : j.Keyed)
    (hj' : j'.Keyed) (h : j.Same j') : j.KeysAlike cmp j' := by
  induction j using Json.inductionOn generalizing j' with
  | hnull | hboolean | hnumber | hstring => cases j' <;> simp [Json.KeysAlike]
  | harray items ih =>
      cases j' with
      | array items' =>
          rw [Json.Keyed] at hj hj'
          rw [Json.Same] at h
          rw [Json.KeysAlike]
          induction items generalizing items' with
          | nil => cases items' <;> simp [Json.ItemsAlike]
          | cons item items ihItems =>
              cases items' with
              | nil => simp [Json.ItemsAlike]
              | cons item' items' =>
                  rw [Json.KeyedItems] at hj hj'
                  rw [Json.SameItems] at h
                  rw [Json.ItemsAlike]
                  exact ⟨ih item List.mem_cons_self hj.1 hj'.1 h.1,
                    ihItems (fun j hmem => ih j (List.mem_cons_of_mem _ hmem)) hj.2 items'
                      hj'.2 h.2⟩
      | _ => simp [Json.KeysAlike]
  | hobject entries ih =>
      cases j' with
      | object entries' =>
          rw [Json.Keyed, keyedEntries_iff] at hj hj'
          rw [Json.same_object_iff, sameEntries_iff] at h
          rw [Json.KeysAlike, entriesAlike_iff]
          constructor
          · have hsub : ∀ key ∈ entries.map (·.1), key ∈ entries'.map (·.1) := by
              rintro key hkey
              obtain ⟨e, he, rfl⟩ := List.mem_map.mp hkey
              obtain ⟨entry', hentry', -⟩ := h.2 e he
              exact List.mem_map.mpr ⟨_, hentry', rfl⟩
            have hperm : (entries.map (·.1)).Perm (entries'.map (·.1)) := by
              refine (List.subperm_of_subset hj.1 hsub).perm_of_length_le ?_
              rw [List.length_map, List.length_map, h.1]
            exact tiedKeysAlike_of_perm hperm (hj.1.imp fun hne htied => hne (hties _ _ htied))
          · intro e he entry' hentry'
            obtain ⟨entry'', hentry'', hsame⟩ := h.2 e he
            have hunique := List.inj_on_of_nodup_map hj'.1 hentry' hentry'' rfl
            rw [(Prod.mk.inj hunique).2]
            exact ih e he (hj.2 e he) (hj'.2 _ hentry'') hsame
      | _ => simp [Json.KeysAlike]

end SortedValues

/-! ### Values with one column -/

/-- **The values with one column** are the same up to the order of their members. -/
theorem Json.column_eq_iff {j j' : Json} (hj : j.Keyed) (hj' : j'.Keyed) :
    j.column = j'.column ↔ j.Same j' := by
  rw [Json.column, Json.column, Json.sortKeys_eq_iff hj hj']
  exact and_iff_left_of_imp (Json.keysAlike_of_same (fun _ _ => eq_of_jsonbKeyCompare) hj hj')

/-- A value that is read from a column is the value that was written, up to the order of members. -/
theorem Json.column_fromColumn {j : Json} (h : j.Keyed) : j.fromColumn.column = j.column := by
  have hcolumn : j.column.Keyed := Json.keyed_sortKeys h
  have hread : j.fromColumn.column = j.column.column :=
    (Json.column_eq_iff (Json.keyed_sortKeys hcolumn) hcolumn).mpr (Json.sortKeys_same _)
  rw [hread, Json.column_eq_iff hcolumn h]
  exact Json.sortKeys_same j

theorem Json.keyed_fromColumn {j : Json} (h : j.Keyed) : j.fromColumn.Keyed :=
  Json.keyed_sortKeys (Json.keyed_sortKeys h)

/-! ### Values with other plain values -/

mutual

/-- A value with `f` applied to the plain values in it. -/
def Json.mapPlain (f : Json → Json) : Json → Json
  | .array items => .array (Json.itemsMapPlain f items)
  | .object entries => .object (Json.entriesMapPlain f entries)
  | .null => f .null
  | .boolean b => f (.boolean b)
  | .number q => f (.number q)
  | .string s => f (.string s)

/-- The items of an array with `f` applied to the plain values in them. -/
def Json.itemsMapPlain (f : Json → Json) : List Json → List Json
  | [] => []
  | item :: items => item.mapPlain f :: Json.itemsMapPlain f items

/-- The entries of an object with `f` applied to the plain values in them. -/
def Json.entriesMapPlain (f : Json → Json) : List (String × Json) → List (String × Json)
  | [] => []
  | (key, entry) :: entries => (key, entry.mapPlain f) :: Json.entriesMapPlain f entries

end

/-- The text of `null` for `null`. -/
def Json.nullToText : Json → Json
  | .null => .string "null"
  | j => j

/-- `null` for the text of it. -/
def Json.textToNull : Json → Json
  | .string s => if s = "null" then .null else .string s
  | j => j

section MapPlain

variable {f : Json → Json}

theorem itemsMapPlain_eq_map (items : List Json) :
    Json.itemsMapPlain f items = items.map (·.mapPlain f) := by
  induction items with
  | nil => rfl
  | cons item items ih => rw [Json.itemsMapPlain, ih, List.map_cons]

theorem entriesMapPlain_eq_map (entries : List (String × Json)) :
    Json.entriesMapPlain f entries = entries.map fun e => (e.1, e.2.mapPlain f) := by
  induction entries with
  | nil => rfl
  | cons entry entries ih => rw [Json.entriesMapPlain, ih, List.map_cons]

/-- The plain values of a value may be changed without the keys of its objects. -/
theorem Json.keyed_mapPlain (hf : ∀ j : Json, j.Keyed → (f j).Keyed) {j : Json} (h : j.Keyed) :
    (j.mapPlain f).Keyed := by
  induction j using Json.inductionOn with
  | hnull | hboolean | hnumber | hstring => exact hf _ h
  | harray items ih =>
      rw [Json.Keyed, keyedItems_iff] at h
      rw [Json.mapPlain, Json.Keyed, keyedItems_iff, itemsMapPlain_eq_map]
      exact List.forall_mem_map.mpr fun j hj => ih j hj (h j hj)
  | hobject entries ih =>
      rw [Json.Keyed, keyedEntries_iff] at h
      rw [Json.mapPlain, Json.Keyed, keyedEntries_iff, entriesMapPlain_eq_map, List.map_map]
      exact ⟨h.1, List.forall_mem_map.mpr fun e he => ih e he (h.2 e he)⟩

/-- **A value with other plain values is another one**, also up to the order of members. -/
theorem Json.mapPlain_eq_of_same (hf : ∀ j : Json, (f j).Same j → f j = j) {j : Json}
    (h : j.Keyed) (hsame : (j.mapPlain f).Same j) : j.mapPlain f = j := by
  induction j using Json.inductionOn with
  | hnull | hboolean | hnumber | hstring => exact hf _ hsame
  | harray items ih =>
      rw [Json.Keyed, keyedItems_iff] at h
      rw [Json.mapPlain, itemsMapPlain_eq_map, Json.Same, sameItems_map_iff] at hsame
      rw [Json.mapPlain, itemsMapPlain_eq_map, Json.array.injEq, map_eq_self_iff]
      exact fun j hj => ih j hj (h j hj) (hsame j hj)
  | hobject entries ih =>
      rw [Json.Keyed, keyedEntries_iff] at h
      rw [Json.mapPlain, entriesMapPlain_eq_map, Json.same_object_iff, sameEntries_iff] at hsame
      rw [Json.mapPlain, entriesMapPlain_eq_map, Json.object.injEq, map_eq_self_iff]
      intro e he
      obtain ⟨entry', hentry', hvalue⟩ := hsame.2 _ (List.mem_map_of_mem he)
      have hunique := List.inj_on_of_nodup_map h.1 hentry' he rfl
      rw [(Prod.mk.inj hunique).2] at hvalue
      exact Prod.ext rfl (ih e he (h.2 e he) hvalue)

end MapPlain

theorem Json.keyed_nullToText (j : Json) (h : j.Keyed) : j.nullToText.Keyed := by
  cases j with
  | null => simp [Json.nullToText, Json.Keyed]
  | _ => exact h

theorem Json.keyed_textToNull (j : Json) (h : j.Keyed) : j.textToNull.Keyed := by
  cases j with
  | string s =>
      rw [Json.textToNull]
      split
      · simp [Json.Keyed]
      · exact h
  | _ => exact h

theorem Json.nullToText_eq_of_same (j : Json) (h : j.nullToText.Same j) : j.nullToText = j := by
  cases j with
  | null => simp [Json.nullToText, Json.Same] at h
  | _ => rfl

theorem Json.textToNull_eq_of_same (j : Json) (h : j.textToNull.Same j) : j.textToNull = j := by
  cases j with
  | string s =>
      rw [Json.textToNull] at h ⊢
      split at h
      · simp [Json.Same] at h
      · rename_i hs
        exact if_neg hs
  | _ => rfl

theorem Json.toJs_injective {j j' : Json} (h : j.toJs = j'.toJs) : j = j' := by
  induction j using Json.inductionOn generalizing j' with
  | hnull | hboolean | hnumber | hstring => cases j' <;> simp_all [Json.toJs]
  | harray items ih =>
      cases j' with
      | array items' =>
          simp only [Json.toJs, itemsToJs_eq_map, JsValue.array.injEq] at h
          refine congrArg Json.array (List.ext_getElem ?_ fun i hi hi' => ?_)
          · simpa using congrArg List.length h
          · refine ih _ (List.getElem_mem hi) ?_
            have hget := congrArg (·[i]?) h
            simpa [hi, hi'] using hget
      | _ => simp [Json.toJs] at h
  | hobject entries ih =>
      cases j' with
      | object entries' =>
          simp only [Json.toJs, entriesToJs_eq_map, JsValue.object.injEq] at h
          refine congrArg Json.object (List.ext_getElem ?_ fun i hi hi' => ?_)
          · simpa using congrArg List.length h
          · have hget := congrArg (·[i]?) h
            simp only [List.getElem?_map, hi, hi', List.getElem?_eq_getElem, Option.map_some,
              Option.some.injEq, Prod.mk.injEq] at hget
            exact Prod.ext hget.1 (ih _ (List.getElem_mem hi) hget.2)
      | _ => simp [Json.toJs] at h

/-! ### Values that are converted for a column -/

section Conversion

variable {rt : Runtime}

/-- The conversion for a column writes the text of `null` for `null`. -/
theorem toJsonValue_toJs (j : Json) : toJsonValue rt j.toJs = j.mapPlain Json.nullToText := by
  induction j using Json.inductionOn with
  | hnull | hboolean | hnumber | hstring => rfl
  | harray items ih =>
      simp only [Json.toJs, toJsonValue, itemsToJs_eq_map, toJsonItems_eq_map, Json.mapPlain,
        itemsMapPlain_eq_map, List.map_map, Json.array.injEq]
      exact List.map_congr_left ih
  | hobject entries ih =>
      simp only [Json.toJs, toJsonValue, entriesToJs_eq_map, toJsonEntries_eq_map, Json.mapPlain,
        entriesMapPlain_eq_map, List.map_map, Json.object.injEq]
      exact List.map_congr_left fun e he => Prod.ext rfl (ih e he)

theorem toJs_mapPlain_textToNull (j : Json) :
    (j.mapPlain Json.textToNull).toJs = j.toJs.withNulls := by
  induction j using Json.inductionOn with
  | hnull | hboolean | hnumber => rfl
  | hstring s =>
      rw [Json.mapPlain, Json.textToNull, Json.toJs, JsValue.withNulls]
      split <;> rfl
  | harray items ih =>
      simp only [Json.toJs, itemsToJs_eq_map, Json.mapPlain, itemsMapPlain_eq_map,
        JsValue.withNulls, JsValue.itemsWithNulls_eq_map, List.map_map, JsValue.array.injEq]
      exact List.map_congr_left ih
  | hobject entries ih =>
      simp only [Json.toJs, entriesToJs_eq_map, Json.mapPlain, entriesMapPlain_eq_map,
        JsValue.withNulls, JsValue.entriesWithNulls_eq_map, List.map_map, JsValue.object.injEq]
      exact List.map_congr_left fun e he => Prod.ext rfl (ih e he)

theorem keyed_toJsonValue {j : Json} (h : j.Keyed) : (toJsonValue rt j.toJs).Keyed := by
  rw [toJsonValue_toJs]
  exact Json.keyed_mapPlain Json.keyed_nullToText h

theorem isJson_toJs (j : Json) : j.toJs.IsJson := by
  rw [JsValue.IsJson]
  induction j using Json.inductionOn with
  | hnull | hboolean | hnumber | hstring => rfl
  | harray items ih =>
      simp only [Json.toJs, itemsToJs_eq_map, JsValue.contains, JsValue.itemsContain_eq_any,
        List.any_map, List.any_eq_false, Bool.not_eq_true]
      exact ih
  | hobject entries ih =>
      simp only [Json.toJs, entriesToJs_eq_map, JsValue.contains, JsValue.entriesContain_eq_any,
        List.any_map, List.any_eq_false, Bool.not_eq_true]
      exact ih

/-- A JSON value is converted to itself exactly when there is no `null` in it. -/
theorem toJsonValue_toJs_eq_iff {j : Json} : toJsonValue rt j.toJs = j ↔ j.toJs.NullFree := by
  have hkept := toJs_toJsonValue_iff rt j.toJs
  constructor
  · intro h
    exact (hkept.mp (congrArg Json.toJs h)).2
  · intro h
    exact Json.toJs_injective (hkept.mpr ⟨isJson_toJs j, h⟩)

/-- A converted value has the column of the value exactly when it is the value. -/
theorem column_toJsonValue_iff {j : Json} (h : j.Keyed) :
    (toJsonValue rt j.toJs).column = j.column ↔ j.toJs.NullFree := by
  rw [Json.column_eq_iff (keyed_toJsonValue h) h, ← @toJsonValue_toJs_eq_iff rt]
  constructor
  · intro hsame
    rw [toJsonValue_toJs] at hsame ⊢
    exact Json.mapPlain_eq_of_same Json.nullToText_eq_of_same h hsame
  · intro heq
    exact (Json.column_eq_iff (keyed_toJsonValue h) h).mp (congrArg Json.column heq)

/-- **Which values are read back the same after the conversion**: those without `null`. -/
theorem Json.fromColumn_same_iff {j : Json} (h : j.Keyed) :
    (toJsonValue rt j.toJs).fromColumn.Same j ↔ j.toJs.NullFree := by
  have hkeyed := @keyed_toJsonValue rt _ h
  rw [← Json.column_eq_iff (Json.keyed_fromColumn hkeyed) h, Json.column_fromColumn hkeyed]
  exact column_toJsonValue_iff h

theorem contains_column (p : JsValue → Bool) (j : Json) :
    j.column.toJs.contains p = j.toJs.contains p := contains_sortKeys p j

/-- **Which values have a column of their own**: no other value has the column of a value, up to
the order of members, exactly when there is neither `null` nor the text of it. -/
theorem column_determines_iff {j : Json} (h : j.Keyed) :
    (∀ k : Json, k.Keyed →
      (toJsonValue rt k.toJs).column = (toJsonValue rt j.toJs).column → k.Same j) ↔
        j.toJs.NullTextFree := by
  constructor
  · intro honly
    have hnulls : (j.mapPlain Json.textToNull).Same j := by
      refine honly _ (Json.keyed_mapPlain Json.keyed_textToNull h) ?_
      rw [toJs_mapPlain_textToNull, toJsonValue_withNulls]
    have hread : (toJsonValue rt j.toJs).Same j :=
      honly _ (keyed_toJsonValue h) (by rw [toJsonValue_toJs_toJsonValue])
    have heq := Json.mapPlain_eq_of_same Json.textToNull_eq_of_same h hnulls
    rw [JsValue.NullTextFree, ← j.toJs.contains_withNulls.1, ← toJs_mapPlain_textToNull, heq]
    exact (column_toJsonValue_iff h).mp
      ((Json.column_eq_iff (@keyed_toJsonValue rt _ h) h).mpr hread)
  · intro hfree k hk hstored
    have hkfree : k.toJs.NullTextFree := by
      rw [JsValue.NullTextFree, ← contains_toJs_toJsonValue rt _ (isJson_toJs k), ← contains_column,
        hstored, contains_column, contains_toJs_toJsonValue rt _ (isJson_toJs j)]
      exact hfree
    rw [← Json.column_eq_iff hk h, ← (@column_toJsonValue_iff rt _ hk).mpr hkfree.nullFree,
      hstored]
    exact (column_toJsonValue_iff h).mpr hfree.nullFree

end Conversion

end Cdngine
