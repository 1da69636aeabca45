import Mathlib.Data.List.Basic
import Mathlib.Data.List.Nodup

/-!
# Maps in Insertion Order

A map that keeps its keys in the order in which they were set first, and a value that is set again
in its place. Keys and values are of any type.

## Main results

* `setAll_entries`: a map is restored from its entries.
-/

namespace InsertionMaps

variable {κ ν : Type} [DecidableEq κ]

/-- A map in the order in which its keys were set first. -/
structure InsertionMap (κ ν : Type) where
  entries : List (κ × ν)
  nodup : (entries.map Prod.fst).Nodup

/-- The entries after a key is set: a key that is there keeps its place. -/
def setEntry (key : κ) (value : ν) : List (κ × ν) → List (κ × ν)
  | [] => [(key, value)]
  | entry :: entries =>
      if entry.1 = key then (key, value) :: entries else entry :: setEntry key value entries

theorem keys_setEntry (key : κ) (value : ν) (entries : List (κ × ν)) :
    (setEntry key value entries).map Prod.fst =
      if key ∈ entries.map Prod.fst then entries.map Prod.fst
      else entries.map Prod.fst ++ [key] := by
  induction entries with
  | nil => rfl
  | cons entry entries ih =>
      by_cases hkey : entry.1 = key
      · simp [setEntry, hkey]
      · have hne : key ≠ entry.1 := fun h => hkey h.symm
        rw [setEntry, if_neg hkey, List.map_cons, ih, List.map_cons]
        by_cases hmem : key ∈ entries.map Prod.fst
        · rw [if_pos hmem, if_pos (List.mem_cons_of_mem _ hmem)]
        · have hnew : key ∉ entry.1 :: entries.map Prod.fst := fun h =>
            (List.mem_cons.mp h).elim hne hmem
          rw [if_neg hmem, if_neg hnew, List.cons_append]

/-- A new key is set at the end. -/
theorem setEntry_of_notMem {key : κ} {entries : List (κ × ν)} (value : ν)
    (h : key ∉ entries.map Prod.fst) : setEntry key value entries = entries ++ [(key, value)] := by
  induction entries with
  | nil => rfl
  | cons entry entries ih =>
      have hne : entry.1 ≠ key := fun heq => h (heq ▸ List.mem_cons_self)
      have htail : key ∉ entries.map Prod.fst := fun hmem => h (List.mem_cons_of_mem _ hmem)
      rw [setEntry, if_neg hne, ih htail, List.cons_append]

namespace InsertionMap

/-- The map without entries. -/
def empty : InsertionMap κ ν := ⟨[], List.nodup_nil⟩

/-- `Map.prototype.set`. -/
def set (map : InsertionMap κ ν) (key : κ) (value : ν) : InsertionMap κ ν where
  entries := setEntry key value map.entries
  nodup := by
    rw [keys_setEntry]
    split
    · exact map.nodup
    · rename_i hnew
      exact List.nodup_append.mpr ⟨map.nodup, List.pairwise_singleton _ _, fun a ha b hb heq =>
        hnew (List.mem_singleton.mp hb ▸ heq ▸ ha)⟩

/-- The map after some entries are set. -/
def setAll (map : InsertionMap κ ν) (entries : List (κ × ν)) : InsertionMap κ ν :=
  entries.foldl (fun map entry => map.set entry.1 entry.2) map

/-- Entries with new keys are set at the end. -/
theorem entries_setAll {map : InsertionMap κ ν} {entries : List (κ × ν)}
    (h : ((map.entries ++ entries).map Prod.fst).Nodup) :
    (map.setAll entries).entries = map.entries ++ entries := by
  induction entries generalizing map with
  | nil => exact (List.append_nil _).symm
  | cons entry entries ih =>
      have hnew : entry.1 ∉ map.entries.map Prod.fst := by
        rw [List.map_append, List.map_cons, List.nodup_append] at h
        exact fun hmem => h.2.2 _ hmem _ List.mem_cons_self rfl
      have hset : (map.set entry.1 entry.2).entries = map.entries ++ [entry] :=
        setEntry_of_notMem entry.2 hnew
      have hsplit : map.entries ++ entry :: entries = map.entries ++ [entry] ++ entries := by
        rw [List.append_assoc, List.singleton_append]
      have hrest : ((map.set entry.1 entry.2).setAll entries).entries =
          (map.set entry.1 entry.2).entries ++ entries :=
        ih (by rw [hset, ← hsplit]; exact h)
      rw [hset, ← hsplit] at hrest
      exact hrest

/-- **A map is restored from its entries.** -/
theorem setAll_entries (map : InsertionMap κ ν) : empty.setAll map.entries = map := by
  have hentries : (empty.setAll map.entries).entries = map.entries :=
    entries_setAll (by rw [empty, List.nil_append]; exact map.nodup)
  cases map
  rw [InsertionMap.mk.injEq]
  exact hentries

/-- `Map.prototype.get`. -/
def get? (map : InsertionMap κ ν) (key : κ) : Option ν := map.entries.lookup key

/-- `Map.prototype.delete`. -/
def delete (map : InsertionMap κ ν) (key : κ) : InsertionMap κ ν where
  entries := map.entries.filter fun e => e.1 ≠ key
  nodup := (List.filter_sublist.map Prod.fst).nodup map.nodup

theorem mem_of_get? {map : InsertionMap κ ν} {key : κ} {value : ν}
    (h : map.get? key = some value) : (key, value) ∈ map.entries := by
  obtain ⟨before, after, hentries, -⟩ := List.lookup_eq_some_iff.mp h
  rw [hentries]
  exact List.mem_append_right before List.mem_cons_self

/-- What is in a map after a key is set. -/
theorem mem_set {map : InsertionMap κ ν} {key : κ} {value : ν} {e : κ × ν}
    (h : e ∈ (map.set key value).entries) : e = (key, value) ∨ e ∈ map.entries ∧ e.1 ≠ key := by
  have hmem : ∀ entries : List (κ × ν), (entries.map Prod.fst).Nodup →
      e ∈ setEntry key value entries → e = (key, value) ∨ e ∈ entries ∧ e.1 ≠ key := by
    intro entries hnodup he
    induction entries with
    | nil => exact .inl (List.mem_singleton.mp he)
    | cons entry entries ih =>
        rw [List.map_cons, List.nodup_cons] at hnodup
        rw [setEntry] at he
        by_cases hkey : entry.1 = key
        · rw [if_pos hkey] at he
          cases List.mem_cons.mp he with
          | inl hnew => exact .inl hnew
          | inr hold =>
              refine .inr ⟨List.mem_cons_of_mem _ hold, ?_⟩
              intro heq
              exact hnodup.1 (List.mem_map.mpr ⟨e, hold, heq.trans hkey.symm⟩)
        · rw [if_neg hkey] at he
          cases List.mem_cons.mp he with
          | inl hfirst => exact .inr ⟨hfirst ▸ List.mem_cons_self, hfirst ▸ hkey⟩
          | inr hrest =>
              cases ih hnodup.2 hrest with
              | inl hnew => exact .inl hnew
              | inr hold => exact .inr ⟨List.mem_cons_of_mem _ hold.1, hold.2⟩
  exact hmem map.entries map.nodup h

/-- What is in a map after a key is deleted. -/
theorem mem_delete {map : InsertionMap κ ν} {key : κ} {e : κ × ν}
    (h : e ∈ (map.delete key).entries) : e ∈ map.entries ∧ e.1 ≠ key := by
  obtain ⟨hmem, hne⟩ := List.mem_filter.mp h
  exact ⟨hmem, of_decide_eq_true hne⟩

/-- A map with every value changed in its place. -/
def mapValues {μ : Type} (f : ν → μ) (map : InsertionMap κ ν) : InsertionMap κ μ where
  entries := map.entries.map fun e => (e.1, f e.2)
  nodup := by
    rw [List.map_map]
    exact map.nodup

end InsertionMap

end InsertionMaps
