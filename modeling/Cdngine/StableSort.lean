import Mathlib.Data.List.Sort

/-!
# Stable Sorting by a Comparison with Ties

Insertion sort by a total and transitive relation keeps the elements that the relation ties in
the order in which they came. What is sorted therefore depends on that order, unless no two
different elements are tied.

## Main results

* `filter_insertionSort`: sorting keeps the elements of a class of ties in their order.
* `insertionSort_eq_iff`: two lists are sorted to the same list exactly when they have the same
  elements of each class of ties in the same order.
* `insertionSort_key_eq_iff`: the same for sorting by a comparison of keys.
-/

namespace StableSort

variable {α : Type*} {r : α → α → Prop} [DecidableRel r] {l m : List α}

/-- Two elements that the relation does not tell apart. -/
def tied (r : α → α → Prop) [DecidableRel r] (a b : α) : Bool := decide (r a b ∧ r b a)

theorem tied_iff {a b : α} : tied r a b = true ↔ r a b ∧ r b a := decide_eq_true_iff

/-- **Sorting is stable**: the elements of a class keep their order. -/
theorem filter_insertionSort {p : α → Bool} (hp : ∀ a b, p a = true → p b = true → r a b)
    (l : List α) : (l.insertionSort r).filter p = l.filter p := by
  have hpairwise : (l.filter p).Pairwise r :=
    List.pairwise_of_forall_mem_list fun a ha b hb =>
      hp a b (List.mem_filter.mp ha).2 (List.mem_filter.mp hb).2
  have hsublist : ((l.filter p).filter p).Sublist ((l.insertionSort r).filter p) :=
    (List.sublist_insertionSort hpairwise List.filter_sublist).filter p
  simp only [List.filter_filter, Bool.and_self] at hsublist
  have hperm : ((l.insertionSort r).filter p).Perm (l.filter p) :=
    (List.perm_insertionSort r l).filter p
  exact (hsublist.eq_of_length hperm.length_eq.symm).symm

section Total

variable (htotal : ∀ a b, r a b ∨ r b a)
include htotal

omit [DecidableRel r] in
theorem refl_of_total (a : α) : r a a := (htotal a a).elim id id

theorem tied_self (a : α) : tied r a a = true :=
  tied_iff.mpr ⟨refl_of_total htotal a, refl_of_total htotal a⟩

omit [DecidableRel r] in
/-- The first element of a sorted list is not above an element of the list. -/
theorem rel_of_mem_cons {a b : α} (hsorted : (a :: l).Pairwise r) (hb : b ∈ a :: l) : r a b := by
  rcases List.mem_cons.mp hb with rfl | hb
  · exact refl_of_total htotal b
  · exact (List.pairwise_cons.mp hsorted).1 b hb

/-- Lists with the same elements of each class have the same elements. -/
theorem mem_iff_of_filter_tied_eq (h : ∀ a, l.filter (tied r a) = m.filter (tied r a)) (a : α) :
    a ∈ l ↔ a ∈ m := by
  have hself := tied_self htotal a
  have hboth : a ∈ l.filter (tied r a) ↔ a ∈ m.filter (tied r a) := by rw [h a]
  simpa [List.mem_filter, hself] using hboth

/-- Sorted lists with the same elements of each class in the same order are the same. -/
theorem eq_of_filter_tied_eq (hl : l.Pairwise r) (hm : m.Pairwise r)
    (h : ∀ a, l.filter (tied r a) = m.filter (tied r a)) : l = m := by
  have hmem := mem_iff_of_filter_tied_eq htotal h
  induction l generalizing m with
  | nil =>
      cases m with
      | nil => rfl
      | cons b m => exact absurd ((hmem b).mpr List.mem_cons_self) List.not_mem_nil
  | cons a l ih =>
      cases m with
      | nil => exact absurd ((hmem a).mp List.mem_cons_self) List.not_mem_nil
      | cons b m =>
          have hab : r a b := rel_of_mem_cons htotal hl ((hmem b).mpr List.mem_cons_self)
          have hba : r b a := rel_of_mem_cons htotal hm ((hmem a).mp List.mem_cons_self)
          have hfirst := h a
          rw [List.filter_cons_of_pos (tied_self htotal a),
            List.filter_cons_of_pos (tied_iff.mpr ⟨hab, hba⟩)] at hfirst
          obtain ⟨rfl, -⟩ := List.cons.inj hfirst
          have hrest : ∀ c, l.filter (tied r c) = m.filter (tied r c) := by
            intro c
            have hc := h c
            cases hca : tied r c a with
            | true =>
                rw [List.filter_cons_of_pos hca, List.filter_cons_of_pos hca] at hc
                exact (List.cons.inj hc).2
            | false =>
                have hne : ¬ tied r c a = true := by rw [hca]; exact Bool.false_ne_true
                rw [List.filter_cons_of_neg hne, List.filter_cons_of_neg hne] at hc
                exact hc
          rw [ih (List.pairwise_cons.mp hl).2 (List.pairwise_cons.mp hm).2 hrest
            (mem_iff_of_filter_tied_eq htotal hrest)]

/-- **Lists that are sorted alike**: their elements of each class come in the same order. -/
theorem insertionSort_eq_iff (htrans : ∀ a b c, r a b → r b c → r a c) (l m : List α) :
    l.insertionSort r = m.insertionSort r ↔ ∀ a, l.filter (tied r a) = m.filter (tied r a) := by
  have hclass : ∀ a x y, tied r a x = true → tied r a y = true → r x y := fun a x y hx hy =>
    htrans x a y (tied_iff.mp hx).2 (tied_iff.mp hy).1
  constructor
  · intro h a
    rw [← filter_insertionSort (hclass a) l, h, filter_insertionSort (hclass a) m]
  · intro h
    have : Std.Total r := ⟨htotal⟩
    have : IsTrans α r := ⟨htrans⟩
    refine eq_of_filter_tied_eq htotal (List.pairwise_insertionSort r l)
      (List.pairwise_insertionSort r m) fun a => ?_
    rw [filter_insertionSort (hclass a), filter_insertionSort (hclass a), h a]

end Total

/-! ### Sorting by a comparison of keys -/

section Keys

variable {κ : Type*} {cmp : κ → κ → Ordering} [Std.TransCmp cmp] {key : α → κ}

theorem isLE_total (a b : α) :
    (cmp (key a) (key b)).isLE = true ∨ (cmp (key b) (key a)).isLE = true := by
  have hswap : cmp (key b) (key a) = (cmp (key a) (key b)).swap := Std.OrientedCmp.eq_swap
  rw [hswap]
  cases cmp (key a) (key b) with
  | lt => exact .inl rfl
  | eq => exact .inl rfl
  | gt => exact .inr rfl

/-- The relation ties the elements whose keys compare equal. -/
theorem tied_key (a b : α) :
    tied (fun a b => (cmp (key a) (key b)).isLE = true) a b =
      decide (cmp (key a) (key b) = .eq) := by
  have hswap : cmp (key b) (key a) = (cmp (key a) (key b)).swap := Std.OrientedCmp.eq_swap
  rw [tied, hswap]
  cases cmp (key a) (key b) <;> rfl

/-- **Lists that are sorted alike by their keys**: the elements whose keys compare equal come in
the same order. -/
theorem insertionSort_key_eq_iff (l m : List α) :
    l.insertionSort (fun a b => (cmp (key a) (key b)).isLE = true) =
        m.insertionSort (fun a b => (cmp (key a) (key b)).isLE = true) ↔
      ∀ a, l.filter (fun b => decide (cmp (key a) (key b) = .eq)) =
        m.filter (fun b => decide (cmp (key a) (key b) = .eq)) := by
  have htied : ∀ (l : List α) a, l.filter (tied (fun a b => (cmp (key a) (key b)).isLE = true) a) =
      l.filter fun b => decide (cmp (key a) (key b) = .eq) := fun l a =>
    List.filter_congr fun b _ => tied_key a b
  have hsorted := insertionSort_eq_iff (@isLE_total α κ cmp _ key)
    (fun _ _ _ => Std.TransCmp.isLE_trans) l m
  simpa only [htied] using hsorted

end Keys

end StableSort
