import Cdngine.JsonReadability
import Cdngine.StableSort

/-!
# JSON with Sorted Keys

A JSON value whose objects have their entries sorted by key at every depth is a representative of
the value, whatever the order in which the entries stand, unless the comparison ties two keys of one
object. Entries with tied keys keep their order.

## Main results

* `filter_keys_eq_iff`: entries with tied keys are the same, in the same order, in two objects.
* `Json.sortKeys_eq_iff`: two values are sorted to the same value exactly when they are the same up
  to the order of entries, and their tied keys stand in the same order.
-/

namespace Cdngine

/-! ### Sorting -/

mutual

/-- A JSON value with the entries of its objects sorted by key, at every depth. -/
def Json.sortKeys (localeCompare : String → String → Ordering) : Json → Json
  | .array items => .array (Json.sortItems localeCompare items)
  | .object entries =>
      .object (sortBy (fun left right => (localeCompare left.1 right.1).isLE)
        (Json.sortEntries localeCompare entries))
  | .null => .null
  | .boolean b => .boolean b
  | .number q => .number q
  | .string s => .string s

/-- The items of an array, sorted inside. -/
def Json.sortItems (localeCompare : String → String → Ordering) : List Json → List Json
  | [] => []
  | item :: items => item.sortKeys localeCompare :: Json.sortItems localeCompare items

/-- The entries of an object, sorted inside. -/
def Json.sortEntries (localeCompare : String → String → Ordering) :
    List (String × Json) → List (String × Json)
  | [] => []
  | (key, entry) :: entries =>
      (key, entry.sortKeys localeCompare) :: Json.sortEntries localeCompare entries

end

theorem sortEntries_eq_map (localeCompare : String → String → Ordering)
    (entries : List (String × Json)) :
    Json.sortEntries localeCompare entries =
      entries.map fun e => (e.1, e.2.sortKeys localeCompare) := by
  induction entries with
  | nil => simp only [Json.sortEntries, List.map_nil]
  | cons entry entries ih => rw [Json.sortEntries, ih, List.map_cons]

/-! ### Values up to the order of entries -/

mutual

/-- The objects of a JSON value have different keys, at every depth. -/
def Json.Keyed : Json → Prop
  | .array items => Json.KeyedItems items
  | .object entries => (entries.map (·.1)).Nodup ∧ Json.KeyedEntries entries
  | .null | .boolean _ | .number _ | .string _ => True

/-- The objects in the items of an array have different keys. -/
def Json.KeyedItems : List Json → Prop
  | [] => True
  | item :: items => item.Keyed ∧ Json.KeyedItems items

/-- The objects in the entries of an object have different keys. -/
def Json.KeyedEntries : List (String × Json) → Prop
  | [] => True
  | (_, entry) :: entries => entry.Keyed ∧ Json.KeyedEntries entries

end

mutual

/-- Two JSON values are the **same**, irrespective of the order of the entries of their objects:
objects have equally many entries, and each entry of one has an entry of the other with its key and
the same value. -/
def Json.Same : Json → Json → Prop
  | .null, .null => True
  | .boolean b, .boolean b' => b = b'
  | .number q, .number q' => q = q'
  | .string s, .string s' => s = s'
  | .array items, .array items' => Json.SameItems items items'
  | .object entries, .object entries' =>
      entries.length = entries'.length ∧ Json.SameEntries entries entries'
  | _, _ => False

/-- The items of two arrays are the same, one by one. -/
def Json.SameItems : List Json → List Json → Prop
  | [], [] => True
  | item :: items, item' :: items' => item.Same item' ∧ Json.SameItems items items'
  | _, _ => False

/-- Each of some entries has an entry with its key and the same value. -/
def Json.SameEntries : List (String × Json) → List (String × Json) → Prop
  | [], _ => True
  | (key, entry) :: entries, entries' =>
      (∃ entry', (key, entry') ∈ entries' ∧ entry.Same entry') ∧ Json.SameEntries entries entries'

end

@[simp] theorem Json.same_number_iff {q q' : Rat} :
    (Json.number q).Same (.number q') ↔ q = q' := by
  rw [Json.Same]

@[simp] theorem Json.same_string_iff {s s' : String} :
    (Json.string s).Same (.string s') ↔ s = s' := by
  rw [Json.Same]

@[simp] theorem Json.same_object_iff {entries entries' : List (String × Json)} :
    (Json.object entries).Same (.object entries') ↔
      entries.length = entries'.length ∧ Json.SameEntries entries entries' := by
  rw [Json.Same]

/-- **Tied keys come in the same order** in two lists: for every key, the keys that compare equal
to it are the same, in the same order. -/
def TiedKeysAlike (localeCompare : String → String → Ordering) (keys keys' : List String) : Prop :=
  ∀ key, keys.filter (fun k => decide (localeCompare key k = .eq)) =
    keys'.filter fun k => decide (localeCompare key k = .eq)

mutual

/-- In the corresponding objects of two JSON values, at every depth, tied keys come in the same
order. -/
def Json.KeysAlike (localeCompare : String → String → Ordering) : Json → Json → Prop
  | .array items, .array items' => Json.ItemsAlike localeCompare items items'
  | .object entries, .object entries' =>
      TiedKeysAlike localeCompare (entries.map (·.1)) (entries'.map (·.1)) ∧
        Json.EntriesAlike localeCompare entries entries'
  | _, _ => True

/-- Tied keys come in the same order in the items of two arrays, one by one. -/
def Json.ItemsAlike (localeCompare : String → String → Ordering) : List Json → List Json → Prop
  | item :: items, item' :: items' =>
      item.KeysAlike localeCompare item' ∧ Json.ItemsAlike localeCompare items items'
  | _, _ => True

/-- Tied keys come in the same order in the values of equal keys. -/
def Json.EntriesAlike (localeCompare : String → String → Ordering) :
    List (String × Json) → List (String × Json) → Prop
  | [], _ => True
  | (key, entry) :: entries, entries' =>
      (∀ entry', (key, entry') ∈ entries' → entry.KeysAlike localeCompare entry') ∧
        Json.EntriesAlike localeCompare entries entries'

end

@[simp] theorem Json.number_keysAlike {localeCompare : String → String → Ordering} {q : Rat}
    {j : Json} : (Json.number q).KeysAlike localeCompare j := by
  cases j <;> simp [Json.KeysAlike]

section Entries

variable {localeCompare : String → String → Ordering} {entries entries' : List (String × Json)}

theorem keyedEntries_iff : Json.KeyedEntries entries ↔ ∀ e ∈ entries, e.2.Keyed := by
  induction entries with
  | nil => simp [Json.KeyedEntries]
  | cons entry entries ih => rw [Json.KeyedEntries, ih, List.forall_mem_cons]

theorem sameEntries_iff : Json.SameEntries entries entries' ↔
    ∀ e ∈ entries, ∃ entry', (e.1, entry') ∈ entries' ∧ e.2.Same entry' := by
  induction entries with
  | nil => simp [Json.SameEntries]
  | cons entry entries ih => rw [Json.SameEntries, ih, List.forall_mem_cons]

theorem entriesAlike_iff : Json.EntriesAlike localeCompare entries entries' ↔
    ∀ e ∈ entries, ∀ entry', (e.1, entry') ∈ entries' → e.2.KeysAlike localeCompare entry' := by
  induction entries with
  | nil => simp [Json.EntriesAlike]
  | cons entry entries ih => rw [Json.EntriesAlike, ih, List.forall_mem_cons]

end Entries

/-! ### Entries with tied keys -/

section Keyed

variable {β : Type} {l l' entries entries' : List (String × β)}

/-- Entries of one object with the same keys in the same order are the same. -/
theorem eq_of_map_key_eq (hkeys : (entries.map (·.1)).Nodup) (hl : ∀ e ∈ l, e ∈ entries)
    (hl' : ∀ e ∈ l', e ∈ entries) (heq : l.map (·.1) = l'.map (·.1)) : l = l' := by
  induction l generalizing l' with
  | nil => exact (List.map_eq_nil_iff.mp heq.symm).symm
  | cons e l ih =>
      cases l' with
      | nil => cases heq
      | cons e' l' =>
          obtain ⟨he, hl⟩ := List.forall_mem_cons.mp hl
          obtain ⟨he', hl'⟩ := List.forall_mem_cons.mp hl'
          obtain ⟨hkey, htail⟩ := List.cons.inj heq
          rw [List.inj_on_of_nodup_map hkeys he he' hkey, ih hl hl' htail]

variable {localeCompare : String → String → Ordering} [Std.TransCmp localeCompare]

omit [Std.TransCmp localeCompare] in
theorem map_filter_key (key : String) (l : List (String × β)) :
    (l.filter fun e => decide (localeCompare key e.1 = .eq)).map (·.1) =
      (l.map (·.1)).filter fun k => decide (localeCompare key k = .eq) := by
  rw [List.filter_map]
  rfl

/-- Keys of which no two are tied come in the same order, whatever order they come in. -/
theorem tiedKeysAlike_of_perm {keys keys' : List String} (hperm : keys.Perm keys')
    (huntied : keys.Pairwise fun k k' => localeCompare k k' ≠ .eq) :
    TiedKeysAlike localeCompare keys keys' := by
  intro key
  have htied : ∀ k ∈ keys.filter (fun k => decide (localeCompare key k = .eq)),
      localeCompare key k = .eq := fun k hk => of_decide_eq_true (List.mem_filter.mp hk).2
  have hfilter := hperm.filter fun k => decide (localeCompare key k = .eq)
  have hpairwise := huntied.filter fun k => decide (localeCompare key k = .eq)
  revert htied hfilter hpairwise
  -- Two keys that are tied to one are tied.
  match keys.filter (fun k => decide (localeCompare key k = .eq)) with
  | [] => exact fun _ hfilter _ => hfilter.nil_eq
  | [k] => exact fun _ hfilter _ => (List.perm_singleton.mp hfilter.symm).symm
  | k :: k' :: ks =>
      intro htied _ hpairwise
      have hk : localeCompare k key = .eq := Std.OrientedCmp.eq_symm (htied k List.mem_cons_self)
      have hk' := htied k' (List.mem_cons_of_mem _ List.mem_cons_self)
      exact absurd (Std.TransCmp.eq_trans hk hk')
        ((List.pairwise_cons.mp hpairwise).1 k' List.mem_cons_self)

/-- **The entries with tied keys** are the same, in the same order, in two objects exactly when
the objects have the same entries and the tied keys come in the same order. -/
theorem filter_keys_eq_iff (hkeys : (entries.map (·.1)).Nodup)
    (hkeys' : (entries'.map (·.1)).Nodup) :
    (∀ key, entries.filter (fun e => decide (localeCompare key e.1 = .eq)) =
        entries'.filter fun e => decide (localeCompare key e.1 = .eq)) ↔
      (entries.length = entries'.length ∧ ∀ e ∈ entries, e ∈ entries') ∧
        TiedKeysAlike localeCompare (entries.map (·.1)) (entries'.map (·.1)) := by
  constructor
  · intro h
    have hself : ∀ key, decide (localeCompare key key = .eq) = true := fun key =>
      decide_eq_true Std.ReflCmp.compare_self
    have hmem : ∀ e, e ∈ entries ↔ e ∈ entries' := by
      intro e
      have hboth : e ∈ entries.filter (fun e' => decide (localeCompare e.1 e'.1 = .eq)) ↔
          e ∈ entries'.filter fun e' => decide (localeCompare e.1 e'.1 = .eq) := by rw [h e.1]
      simpa only [List.mem_filter, hself, and_true] using hboth
    have hperm := (List.perm_ext_iff_of_nodup (hkeys.of_map _) (hkeys'.of_map _)).mpr hmem
    refine ⟨⟨hperm.length_eq, fun e he => (hmem e).mp he⟩, fun key => ?_⟩
    rw [← map_filter_key, ← map_filter_key, h key]
  · rintro ⟨⟨hlength, hsubset⟩, hties⟩ key
    refine eq_of_map_key_eq hkeys' (fun e he => hsubset e (List.mem_filter.mp he).1)
      (fun e he => (List.mem_filter.mp he).1) ?_
    rw [map_filter_key, map_filter_key]
    exact hties key

end Keyed

/-! ### Values that are sorted alike -/

section SortKeys

variable {localeCompare : String → String → Ordering} [Std.TransCmp localeCompare]

/-- Two objects are sorted to the same entries exactly when they have the same entries, sorted
inside, and their tied keys come in the same order. -/
theorem sortBy_keys_eq_iff {entries entries' : List (String × Json)}
    (hkeys : (entries.map (·.1)).Nodup) (hkeys' : (entries'.map (·.1)).Nodup) :
    sortBy (fun left right => (localeCompare left.1 right.1).isLE) entries =
        sortBy (fun left right => (localeCompare left.1 right.1).isLE) entries' ↔
      (entries.length = entries'.length ∧ ∀ e ∈ entries, e ∈ entries') ∧
        TiedKeysAlike localeCompare (entries.map (·.1)) (entries'.map (·.1)) := by
  have hsorted := @StableSort.insertionSort_key_eq_iff (String × Json) String localeCompare _
    Prod.fst entries entries'
  refine hsorted.trans (Iff.trans ?_ (filter_keys_eq_iff hkeys hkeys'))
  exact ⟨fun h key => h (key, .null), fun h e => h e.1⟩

omit [Std.TransCmp localeCompare] in
/-- The items of two arrays are sorted alike when each two of them are. -/
theorem sortItems_eq_iff {items items' : List Json} (hitems : Json.KeyedItems items)
    (hitems' : Json.KeyedItems items')
    (hitem : ∀ j ∈ items, ∀ j', j.Keyed → j'.Keyed →
      (j.sortKeys localeCompare = j'.sortKeys localeCompare ↔
        j.Same j' ∧ j.KeysAlike localeCompare j')) :
    Json.sortItems localeCompare items = Json.sortItems localeCompare items' ↔
      Json.SameItems items items' ∧ Json.ItemsAlike localeCompare items items' := by
  induction items generalizing items' with
  | nil => cases items' <;> simp [Json.sortItems, Json.SameItems, Json.ItemsAlike]
  | cons item items ih =>
      cases items' with
      | nil => simp [Json.sortItems, Json.SameItems]
      | cons item' items' =>
          rw [Json.KeyedItems] at hitems hitems'
          obtain ⟨hfirst, hrest⟩ := List.forall_mem_cons.mp hitem
          rw [Json.sortItems, Json.sortItems, List.cons.injEq, hfirst item' hitems.1 hitems'.1,
            ih hitems.2 hitems'.2 hrest, Json.SameItems, Json.ItemsAlike]
          exact and_and_and_comm

omit [Std.TransCmp localeCompare] in
/-- An entry of an object, sorted inside, is in another one when the value of its key is sorted
alike there. -/
theorem mem_sorted_entries_iff {entries' : List (String × Json)} {e : String × Json} :
    (e.1, e.2.sortKeys localeCompare) ∈
        (entries'.map fun e => (e.1, e.2.sortKeys localeCompare)) ↔
      ∃ entry', (e.1, entry') ∈ entries' ∧
        e.2.sortKeys localeCompare = entry'.sortKeys localeCompare := by
  rw [List.mem_map]
  constructor
  · rintro ⟨⟨key, entry'⟩, hmem, heq⟩
    obtain ⟨rfl, hvalue⟩ := Prod.mk.inj heq
    exact ⟨entry', hmem, hvalue.symm⟩
  · rintro ⟨entry', hmem, hvalue⟩
    exact ⟨(e.1, entry'), hmem, by rw [hvalue]⟩

/-- **Values that are sorted alike** are the same up to the order of entries, with their tied keys
in the same order, at every depth. -/
theorem Json.sortKeys_eq_iff {j j' : Json} (hj : j.Keyed) (hj' : j'.Keyed) :
    j.sortKeys localeCompare = j'.sortKeys localeCompare ↔
      j.Same j' ∧ j.KeysAlike localeCompare j' := by
  induction j using Json.inductionOn generalizing j' with
  | hnull => cases j' <;> simp [Json.sortKeys, Json.Same, Json.KeysAlike]
  | hboolean b => cases j' <;> simp [Json.sortKeys, Json.Same, Json.KeysAlike]
  | hnumber q => cases j' <;> simp [Json.sortKeys, Json.Same, Json.KeysAlike]
  | hstring s => cases j' <;> simp [Json.sortKeys, Json.Same, Json.KeysAlike]
  | harray items ih =>
      cases j' with
      | array items' =>
          rw [Json.Keyed] at hj hj'
          have hitems := sortItems_eq_iff hj hj' fun j hj j' hkeyed hkeyed' =>
            ih j hj hkeyed hkeyed'
          rw [Json.sortKeys, Json.sortKeys, Json.array.injEq, hitems, Json.Same, Json.KeysAlike]
      | _ => simp [Json.sortKeys, Json.Same]
  | hobject entries ih =>
      cases j' with
      | object entries' =>
          rw [Json.Keyed, keyedEntries_iff] at hj hj'
          obtain ⟨hkeys, hentries⟩ := hj
          obtain ⟨hkeys', hentries'⟩ := hj'
          have hmapped : ∀ l : List (String × Json),
              (l.map fun e => (e.1, e.2.sortKeys localeCompare)).map (·.1) = l.map (·.1) :=
            fun l => by rw [List.map_map]; rfl
          have hvalue : ∀ e ∈ entries,
              ((e.1, e.2.sortKeys localeCompare) ∈
                (entries'.map fun e => (e.1, e.2.sortKeys localeCompare)) ↔
              (∃ entry', (e.1, entry') ∈ entries' ∧ e.2.Same entry') ∧
                ∀ entry', (e.1, entry') ∈ entries' → e.2.KeysAlike localeCompare entry') := by
            intro e he
            have hiff : ∀ entry', (e.1, entry') ∈ entries' →
                (e.2.sortKeys localeCompare = entry'.sortKeys localeCompare ↔
                  e.2.Same entry' ∧ e.2.KeysAlike localeCompare entry') := fun entry' hmem =>
              ih e he (hentries e he) (hentries' _ hmem)
            rw [mem_sorted_entries_iff]
            constructor
            · rintro ⟨entry', hmem, heq⟩
              obtain ⟨hsame, halike⟩ := (hiff entry' hmem).mp heq
              refine ⟨⟨entry', hmem, hsame⟩, fun entry'' hmem' => ?_⟩
              -- The other object has one entry with the key.
              have hunique := List.inj_on_of_nodup_map hkeys' hmem hmem' rfl
              rw [← (Prod.mk.inj hunique).2]
              exact halike
            · rintro ⟨⟨entry', hmem, hsame⟩, halike⟩
              exact ⟨entry', hmem, (hiff entry' hmem).mpr ⟨hsame, halike entry' hmem⟩⟩
          have hsorted := @sortBy_keys_eq_iff localeCompare _
            (entries.map fun e => (e.1, e.2.sortKeys localeCompare))
            (entries'.map fun e => (e.1, e.2.sortKeys localeCompare))
            (by rw [hmapped]; exact hkeys) (by rw [hmapped]; exact hkeys')
          rw [hmapped, hmapped, List.length_map, List.length_map, List.forall_mem_map] at hsorted
          rw [Json.sortKeys, Json.sortKeys, Json.object.injEq, sortEntries_eq_map,
            sortEntries_eq_map, hsorted, forall₂_congr hvalue, Json.Same, Json.KeysAlike,
            sameEntries_iff, entriesAlike_iff]
          constructor
          · rintro ⟨⟨hlength, hvalues⟩, hties⟩
            exact ⟨⟨hlength, fun e he => (hvalues e he).1⟩, hties, fun e he => (hvalues e he).2⟩
          · rintro ⟨⟨hlength, hsame⟩, hties, halike⟩
            exact ⟨⟨hlength, fun e he => ⟨hsame e he, halike e he⟩⟩, hties⟩
      | _ => simp [Json.sortKeys, Json.Same]

end SortKeys

end Cdngine
