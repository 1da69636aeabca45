import Mathlib.Data.List.Pairwise
import Mathlib.Tactic.Common

/-!
# Tables With Unique Constraints

A small theory of relational tables as a client of a transactional store sees them: a
table is a finite list of rows, in insertion order, and its schema says which pairs of
rows **clash**, that is, violate a unique constraint when both are present. The absence
of clashes is a field of the table, so a table that violates its schema cannot be built;
a statement that would violate it fails instead (`Violation.uniqueConstraint`).

Rows are addressed by a Boolean selector. A selector is a **key** (`IsKey`) when any two
rows it selects clash, so that it selects at most one row of any table; this is the
shape of a lookup by primary key or by the columns of a unique constraint.

## Main results

* `insert_eq_ok_iff`, `update_eq_ok_iff`, `upsert_eq_ok_iff`: what each statement does
  when it succeeds, guards included.
* `update_eq_ok_of_keeps`: an update that touches no constrained column never fails on a
  constraint.
* `exists_update_iff`: an update addressed by a key succeeds exactly when the row exists
  and its new value clashes with no other row.
* `exists_upsert_key`: an upsert by the only unique constraint never fails.
* `find?_insert`, `find?_update_key`, `find?_upsert_key`: the frame of each statement
  under a later lookup.
* `countP_eq_one_iff`: under a key, "exactly one row" is "some row".
-/

namespace Relational

/-- Why a statement of the store fails: a unique constraint is violated, or a row that
the statement addresses does not exist. -/
inductive Violation
  | uniqueConstraint
  | recordNotFound
  deriving DecidableEq, Repr

/-- A row type together with its unique constraints: `clash a b` says that `a` and `b`
may not stand in one table. -/
class Constrained (ρ : Type*) where
  clash : ρ → ρ → Bool
  clash_comm : ∀ a b, clash a b = clash b a

export Constrained (clash clash_comm)

/-! ### Constraint combinators -/

/-- The constraint that the columns `k` are unique. -/
def sameKey {ρ κ : Type*} [DecidableEq κ] (k : ρ → κ) (a b : ρ) : Bool :=
  decide (k a = k b)

/-- The constraint that the nullable columns `k` are unique: a row in which one of them
is null never clashes. -/
def sameNonNullKey {ρ κ : Type*} [DecidableEq κ] (k : ρ → Option κ) (a b : ρ) : Bool :=
  (k a).isSome && decide (k a = k b)

theorem sameKey_comm {ρ κ : Type*} [DecidableEq κ] (k : ρ → κ) (a b : ρ) :
    sameKey k a b = sameKey k b a := by
  simp only [sameKey, eq_comm]

theorem sameNonNullKey_comm {ρ κ : Type*} [DecidableEq κ] (k : ρ → Option κ) (a b : ρ) :
    sameNonNullKey k a b = sameNonNullKey k b a := by
  by_cases h : k a = k b
  · simp only [sameNonNullKey, h]
  · simp only [sameNonNullKey, decide_eq_false h, decide_eq_false (Ne.symm h), Bool.and_false]

@[simp] theorem sameKey_eq_true {ρ κ : Type*} [DecidableEq κ] (k : ρ → κ) (a b : ρ) :
    sameKey k a b = true ↔ k a = k b := by
  simp only [sameKey, decide_eq_true_eq]

@[simp] theorem sameNonNullKey_eq_true {ρ κ : Type*} [DecidableEq κ] (k : ρ → Option κ)
    (a b : ρ) : sameNonNullKey k a b = true ↔ (k a).isSome ∧ k a = k b := by
  simp only [sameNonNullKey, Bool.and_eq_true, decide_eq_true_eq]

/-! ### Lists with keys -/

/-- A lookup by key, where the keys are different. -/
theorem find?_key_iff {α κ : Type*} [DecidableEq κ] {key : α → κ} {k : κ} {l : List α}
    (hnodup : (l.map key).Nodup) {a : α} :
    l.find? (fun x => key x == k) = some a ↔ a ∈ l ∧ key a = k := by
  constructor
  · intro h
    exact ⟨List.mem_of_find?_eq_some h, eq_of_beq (List.find?_some (p := fun x => key x == k) h)⟩
  · rintro ⟨hmem, rfl⟩
    induction l with
    | nil => cases hmem
    | cons x l ih =>
        rw [List.map_cons, List.nodup_cons] at hnodup
        rcases List.mem_cons.mp hmem with rfl | hmem
        · exact List.find?_cons_of_pos (beq_self_eq_true _)
        · have hne : key x ≠ key a := fun heq => hnodup.1 (heq ▸ List.mem_map_of_mem hmem)
          rw [List.find?_cons_of_neg (by simp [hne])]
          exact ih hnodup.2 hmem

/-! ### Tables and statements -/

/-- A **table**: rows in insertion order, no two of which clash. -/
structure Table (ρ : Type*) [Constrained ρ] where
  rows : List ρ
  unique : rows.Pairwise fun a b => clash a b = false

namespace Table

variable {ρ : Type*} [Constrained ρ]

@[ext] theorem ext {t t' : Table ρ} (h : t.rows = t'.rows) : t = t' := by
  cases t
  cases t'
  simp only at h
  subst h
  rfl

/-- The table without rows. -/
def empty : Table ρ := ⟨[], List.Pairwise.nil⟩

/-- The first row, in insertion order, that the selector accepts. -/
def find? (t : Table ρ) (p : ρ → Bool) : Option ρ := t.rows.find? p

/-- The number of rows that the selector accepts. -/
def countP (t : Table ρ) (p : ρ → Bool) : Nat := t.rows.countP p

/-- Insert a row, or fail on a unique constraint. -/
def insert (t : Table ρ) (r : ρ) : Except Violation (Table ρ) :=
  if h : ∀ x ∈ t.rows, clash x r = false then
    .ok ⟨t.rows ++ [r], List.pairwise_append.mpr
      ⟨t.unique, List.pairwise_singleton _ r, fun x hx y hy => by
        rw [List.mem_singleton.mp hy]; exact h x hx⟩⟩
  else .error .uniqueConstraint

/-- The rows after the update of every selected row. -/
def updatedRows (t : Table ρ) (p : ρ → Bool) (f : ρ → ρ) : List ρ :=
  t.rows.map fun r => if p r then f r else r

/-- Update the selected row, or fail: when no row is selected, or on a unique
constraint. -/
def update (t : Table ρ) (p : ρ → Bool) (f : ρ → ρ) : Except Violation (Table ρ) :=
  if t.rows.any p then
    if h : (t.updatedRows p f).Pairwise fun a b => clash a b = false then
      .ok ⟨t.updatedRows p f, h⟩
    else .error .uniqueConstraint
  else .error .recordNotFound

/-- Update the selected row when there is one and insert `r` otherwise. -/
def upsert (t : Table ρ) (p : ρ → Bool) (f : ρ → ρ) (r : ρ) : Except Violation (Table ρ) :=
  if t.rows.any p then t.update p f else t.insert r

/-- The table with its rows changed outside of their keys. -/
def mapRows (t : Table ρ) (f : ρ → ρ) (hf : ∀ a b, clash (f a) (f b) = clash a b) : Table ρ where
  rows := t.rows.map f
  unique := List.pairwise_map.mpr (t.unique.imp fun h => (hf _ _).trans h)

/-! ### What a successful statement did -/

theorem insert_eq_ok_iff {t t' : Table ρ} {r : ρ} :
    t.insert r = .ok t' ↔ (∀ x ∈ t.rows, clash x r = false) ∧ t'.rows = t.rows ++ [r] := by
  unfold insert
  split
  · rename_i h
    simp only [Except.ok.injEq]
    constructor
    · rintro rfl
      exact ⟨h, rfl⟩
    · rintro ⟨-, hr⟩
      exact Table.ext hr.symm
  · rename_i h
    simp only [reduceCtorEq, false_iff, not_and]
    exact fun h' => absurd h' h

theorem exists_insert_iff {t : Table ρ} {r : ρ} :
    (∃ t', t.insert r = .ok t') ↔ ∀ x ∈ t.rows, clash x r = false := by
  constructor
  · rintro ⟨t', h⟩
    exact (insert_eq_ok_iff.mp h).1
  · intro h
    exact ⟨_, by rw [insert, dif_pos h]⟩

/-- The rows after an insertion. -/
theorem mem_rows_insert {t t' : Table ρ} {r : ρ} (h : t.insert r = .ok t') (x : ρ) :
    x ∈ t'.rows ↔ x ∈ t.rows ∨ x = r := by
  rw [(insert_eq_ok_iff.mp h).2, List.mem_append, List.mem_singleton]

/-- Inserting into a table with one unique constraint: no row has the key. -/
theorem exists_insert_key_iff {κ : Type*} [DecidableEq κ] {k : ρ → κ} {t : Table ρ} {r : ρ}
    (hclash : ∀ a b : ρ, clash a b = sameKey k a b) :
    (∃ t', t.insert r = .ok t') ↔ ∀ x ∈ t.rows, k x ≠ k r := by
  rw [exists_insert_iff]
  simp only [hclash, sameKey, decide_eq_false_iff_not, ne_eq]

/-- The only way an insertion fails. -/
theorem insert_eq_error {t : Table ρ} {r : ρ} {e : Violation} (h : t.insert r = .error e) :
    e = .uniqueConstraint := by
  unfold insert at h
  split at h
  · exact absurd h (by simp)
  · exact (Except.error.inj h).symm

theorem update_eq_ok_iff {t t' : Table ρ} {p : ρ → Bool} {f : ρ → ρ} :
    t.update p f = .ok t' ↔ (∃ r ∈ t.rows, p r = true) ∧ t'.rows = t.updatedRows p f := by
  unfold update
  split
  · rename_i hany
    have hex : ∃ r ∈ t.rows, p r = true := List.any_eq_true.mp hany
    split
    · simp only [Except.ok.injEq]
      constructor
      · rintro rfl
        exact ⟨hex, rfl⟩
      · rintro ⟨-, hr⟩
        exact Table.ext hr.symm
    · rename_i hnot
      simp only [reduceCtorEq, false_iff, not_and]
      intro _ hr
      exact hnot (hr ▸ t'.unique)
  · rename_i hany
    simp only [reduceCtorEq, false_iff, not_and]
    intro hex
    exact absurd (List.any_eq_true.mpr hex) hany

theorem upsert_eq_ok_iff {t t' : Table ρ} {p : ρ → Bool} {f : ρ → ρ} {r : ρ} :
    t.upsert p f r = .ok t' ↔
      ((∃ x ∈ t.rows, p x = true) ∧ t'.rows = t.updatedRows p f) ∨
      ((∀ x ∈ t.rows, p x = false) ∧ (∀ x ∈ t.rows, clash x r = false) ∧
        t'.rows = t.rows ++ [r]) := by
  unfold upsert
  split
  · rename_i hany
    rw [update_eq_ok_iff]
    have hex : ∃ x ∈ t.rows, p x = true := List.any_eq_true.mp hany
    constructor
    · exact Or.inl
    · rintro (h | ⟨hall, -⟩)
      · exact h
      · obtain ⟨x, hx, hpx⟩ := hex
        rw [hall x hx] at hpx
        exact absurd hpx (by simp)
  · rename_i hany
    rw [insert_eq_ok_iff]
    have hall : ∀ x ∈ t.rows, p x = false := by
      intro x hx
      cases hp : p x
      · rfl
      · exact absurd (List.any_eq_true.mpr ⟨x, hx, hp⟩) hany
    constructor
    · rintro ⟨h, hr⟩
      exact Or.inr ⟨hall, h, hr⟩
    · rintro (⟨⟨x, hx, hpx⟩, -⟩ | ⟨-, h, hr⟩)
      · rw [hall x hx] at hpx
        exact absurd hpx (by simp)
      · exact ⟨h, hr⟩

/-! ### Members and keys -/

/-- Two different members of a table do not clash. -/
theorem clash_eq_false {t : Table ρ} {a b : ρ} (ha : a ∈ t.rows) (hb : b ∈ t.rows)
    (hne : a ≠ b) : clash a b = false := by
  have hsymm : Std.Symm fun a b : ρ => clash a b = false :=
    ⟨fun x y h => by rw [clash_comm]; exact h⟩
  exact t.unique.forall ha hb hne

/-- Members that clash are the same row. -/
theorem eq_of_clash {t : Table ρ} {a b : ρ} (ha : a ∈ t.rows) (hb : b ∈ t.rows)
    (h : clash a b = true) : a = b := by
  by_contra hne
  rw [clash_eq_false ha hb hne] at h
  exact absurd h (by simp)

/-- A selector is a **key** when any two rows it selects clash. -/
def IsKey (p : ρ → Bool) : Prop := ∀ a b, p a = true → p b = true → clash a b = true

theorem IsKey.eq {p : ρ → Bool} (hp : IsKey p) {t : Table ρ} {a b : ρ} (ha : a ∈ t.rows)
    (hb : b ∈ t.rows) (hpa : p a = true) (hpb : p b = true) : a = b :=
  eq_of_clash ha hb (hp a b hpa hpb)

theorem mem_of_find? {t : Table ρ} {p : ρ → Bool} {r : ρ} (h : t.find? p = some r) :
    r ∈ t.rows := List.mem_of_find?_eq_some h

theorem sel_of_find? {t : Table ρ} {p : ρ → Bool} {r : ρ} (h : t.find? p = some r) :
    p r = true := List.find?_some h

/-- A lookup by key finds the member that the key selects. -/
theorem find?_eq_some_of_mem {t : Table ρ} {p : ρ → Bool} (hp : IsKey p) {r : ρ}
    (hr : r ∈ t.rows) (hpr : p r = true) : t.find? p = some r := by
  cases hf : t.find? p with
  | none => exact absurd hpr (by simpa using List.find?_eq_none.mp hf r hr)
  | some x => rw [hp.eq (mem_of_find? hf) hr (sel_of_find? hf) hpr]

theorem find?_eq_none_iff {t : Table ρ} {p : ρ → Bool} :
    t.find? p = none ↔ ∀ r ∈ t.rows, p r = false := by
  simp only [find?, List.find?_eq_none, Bool.not_eq_true]

/-- A lookup in a table whose rows are changed outside of what is looked for. -/
theorem find?_mapRows {t : Table ρ} {f : ρ → ρ} {hf : ∀ a b, clash (f a) (f b) = clash a b}
    {p : ρ → Bool} (hp : ∀ r, p (f r) = p r) : (t.mapRows f hf).find? p = (t.find? p).map f := by
  have hcomp : p ∘ f = p := funext hp
  rw [find?, find?, mapRows, List.find?_map, hcomp]

/-- A key selects at most one row. -/
theorem countP_le_one {t : Table ρ} {p : ρ → Bool} (hp : IsKey p) : t.countP p ≤ 1 := by
  have key : ∀ l : List ρ, (l.Pairwise fun a b => clash a b = false) → l.countP p ≤ 1 := by
    intro l hl
    induction hl with
    | nil => simp
    | @cons a l hal _ ih =>
        rw [List.countP_cons]
        by_cases hpa : p a = true
        · have h0 : l.countP p = 0 := by
            rw [List.countP_eq_zero]
            intro b hb hpb
            have := hp a b hpa hpb
            rw [hal b hb] at this
            exact absurd this (by simp)
          simp [h0, hpa]
        · simpa [hpa] using ih
  exact key t.rows t.unique

/-- Under a key, exactly one row is selected as soon as some row is. -/
theorem countP_eq_one_iff {t : Table ρ} {p : ρ → Bool} (hp : IsKey p) :
    t.countP p = 1 ↔ ∃ r ∈ t.rows, p r = true := by
  have hle := countP_le_one (t := t) hp
  have hpos : 0 < t.countP p ↔ ∃ r ∈ t.rows, p r = true := List.countP_pos_iff
  rw [← hpos]
  omega

/-! ### Success of an update -/

theorem mem_updatedRows {t : Table ρ} {p : ρ → Bool} {f : ρ → ρ} {x : ρ} :
    x ∈ t.updatedRows p f ↔
      (∃ r ∈ t.rows, p r = true ∧ f r = x) ∨ (x ∈ t.rows ∧ p x = false) := by
  simp only [updatedRows, List.mem_map]
  constructor
  · rintro ⟨r, hr, hx⟩
    by_cases hpr : p r = true
    · rw [if_pos hpr] at hx
      exact Or.inl ⟨r, hr, hpr, hx⟩
    · rw [if_neg hpr] at hx
      subst hx
      exact Or.inr ⟨hr, by simpa using hpr⟩
  · rintro (⟨r, hr, hpr, hx⟩ | ⟨hx, hpx⟩)
    · exact ⟨r, hr, by rw [if_pos hpr, hx]⟩
    · exact ⟨x, hx, by simp [hpx]⟩

/-- An update that leaves every constrained column as it is fails on no constraint. -/
theorem update_eq_ok_of_keeps {t : Table ρ} {p : ρ → Bool} {f : ρ → ρ}
    (hf : ∀ a b, clash (f a) b = clash a b) (hex : ∃ r ∈ t.rows, p r = true) :
    ∃ t', t.update p f = .ok t' := by
  have hkeep : ∀ a b, clash (if p a then f a else a) (if p b then f b else b) = clash a b := by
    intro a b
    have hfb : ∀ c, clash c (f b) = clash c b := fun c => by
      rw [clash_comm, hf, clash_comm]
    by_cases ha : p a = true <;> by_cases hb : p b = true <;> simp [ha, hb, hf, hfb]
  have hpw : (t.updatedRows p f).Pairwise fun a b => clash a b = false := by
    rw [updatedRows, List.pairwise_map]
    exact t.unique.imp fun {a b} h => by rw [hkeep]; exact h
  exact ⟨⟨_, hpw⟩, by rw [update, if_pos (List.any_eq_true.mpr hex), dif_pos hpw]⟩

/-- An update addressed by a key succeeds exactly when the addressed row exists and its
new value clashes with no other row. -/
theorem exists_update_iff {t : Table ρ} {p : ρ → Bool} {f : ρ → ρ} (hp : IsKey p) :
    (∃ t', t.update p f = .ok t') ↔
      ∃ r ∈ t.rows, p r = true ∧ ∀ x ∈ t.rows, p x = false → clash (f r) x = false := by
  have hsymm : Std.Symm fun a b : ρ => clash a b = false :=
    ⟨fun x y h => by rw [clash_comm]; exact h⟩
  constructor
  · rintro ⟨t', h⟩
    obtain ⟨⟨r, hr, hpr⟩, -⟩ := update_eq_ok_iff.mp h
    refine ⟨r, hr, hpr, fun x hx hpx => ?_⟩
    have hpw : (t.updatedRows p f).Pairwise fun a b => clash a b = false :=
      (update_eq_ok_iff.mp h).2 ▸ t'.unique
    rw [updatedRows, List.pairwise_map] at hpw
    have hne : r ≠ x := fun he => by rw [he, hpx] at hpr; exact absurd hpr (by simp)
    have hsymm' : Std.Symm fun a b : ρ =>
        clash (if p a then f a else a) (if p b then f b else b) = false :=
      ⟨fun a b h => by rw [clash_comm]; exact h⟩
    simpa [hpr, hpx] using hpw.forall hr hx hne
  · rintro ⟨r, hr, hpr, hfree⟩
    have hpw : (t.updatedRows p f).Pairwise fun a b => clash a b = false := by
      rw [updatedRows, List.pairwise_map]
      refine t.unique.imp_of_mem fun {a b} ha hb hab => ?_
      by_cases hpa : p a = true <;> by_cases hpb : p b = true
      · rw [hp a b hpa hpb] at hab
        exact absurd hab (by simp)
      · have hpb' : p b = false := by simpa using hpb
        rw [if_pos hpa, if_neg hpb, hp.eq ha hr hpa hpr]
        exact hfree b hb hpb'
      · have hpa' : p a = false := by simpa using hpa
        rw [if_neg hpa, if_pos hpb, hp.eq hb hr hpb hpr, clash_comm]
        exact hfree a ha hpa'
      · rw [if_neg hpa, if_neg hpb]
        exact hab
    exact ⟨⟨_, hpw⟩, by
      rw [update, if_pos (List.any_eq_true.mpr ⟨r, hr, hpr⟩), dif_pos hpw]⟩

/-! ### Frames: lookups after a statement -/

/-- A lookup after an insertion. -/
theorem find?_insert {t t' : Table ρ} {r : ρ} (h : t.insert r = .ok t') (q : ρ → Bool) :
    t'.find? q = (t.find? q).or (if q r then some r else none) := by
  rw [find?, (insert_eq_ok_iff.mp h).2, List.find?_append, find?]
  congr 1
  by_cases hq : q r = true <;> simp [hq]

/-- A lookup after an update that leaves the selected columns as they are. -/
theorem find?_update {t t' : Table ρ} {p : ρ → Bool} {f : ρ → ρ}
    (h : t.update p f = .ok t') {q : ρ → Bool} (hq : ∀ r, q (f r) = q r) :
    t'.find? q = (t.find? q).map fun r => if p r then f r else r := by
  rw [find?, (update_eq_ok_iff.mp h).2, updatedRows, List.find?_map, find?]
  congr 2
  funext r
  by_cases hp : p r = true <;> simp [hp, hq]

section Key

variable {κ : Type*} [BEq κ] [LawfulBEq κ] {k : ρ → κ} {key : κ} {f : ρ → ρ}

/-- A lookup by the columns of a unique constraint finds the member that has them. -/
theorem find?_key_eq_some_iff {t : Table ρ} (hk : ∀ a b : ρ, k a = k b → clash a b = true) {r : ρ} :
    t.find? (fun r => k r == key) = some r ↔ r ∈ t.rows ∧ k r = key := by
  have hkey : IsKey fun r => k r == key := fun a b ha hb =>
    hk a b ((eq_of_beq ha).trans (eq_of_beq hb).symm)
  constructor
  · intro h
    exact ⟨mem_of_find? h, eq_of_beq (sel_of_find? (p := fun r => k r == key) h)⟩
  · rintro ⟨hmem, hr⟩
    exact find?_eq_some_of_mem hkey hmem (beq_iff_eq.mpr hr)

/-- The rows after an update by key. -/
theorem mem_rows_update_key {t t' : Table ρ} (h : t.update (fun r => k r == key) f = .ok t')
    (x : ρ) :
    x ∈ t'.rows ↔ (∃ r ∈ t.rows, k r = key ∧ f r = x) ∨ (x ∈ t.rows ∧ k x ≠ key) := by
  rw [(update_eq_ok_iff.mp h).2, mem_updatedRows]
  simp only [beq_iff_eq, beq_eq_false_iff_ne]

variable [DecidableEq κ]

/-- **Frame of an update by key**: the addressed row is updated and every other row is
found as before. -/
theorem find?_update_key {t t' : Table ρ} (h : t.update (fun r => k r == key) f = .ok t')
    (hk : ∀ r, k (f r) = k r) (other : κ) :
    t'.find? (fun r => k r == other) =
      (t.find? fun r => k r == other).map fun r => if other = key then f r else r := by
  rw [find?_update h (by simp [hk])]
  cases hf : t.find? fun r => k r == other with
  | none => rfl
  | some r =>
      have hr : k r = other := by simpa using sel_of_find? hf
      simp only [Option.map_some, beq_iff_eq, hr]

/-- **Frame of an upsert by key.** -/
theorem find?_upsert_key {t t' : Table ρ} {row : ρ}
    (h : t.upsert (fun r => k r == key) f row = .ok t') (hk : ∀ r, k (f r) = k r)
    (hrow : k row = key) (other : κ) :
    t'.find? (fun r => k r == other) =
      if other = key then some (((t.find? fun r => k r == key).map f).getD row)
      else t.find? fun r => k r == other := by
  unfold upsert at h
  split at h
  · rename_i hany
    rw [find?_update_key h hk]
    split
    · rename_i heq
      subst heq
      obtain ⟨x, hx, hpx⟩ := List.any_eq_true.mp hany
      cases hf : t.find? fun r => k r == other with
      | none => exact absurd hpx (by simp [find?_eq_none_iff.mp hf x hx])
      | some r => rfl
    · exact Option.map_id'
  · rename_i hany
    rw [find?_insert h, hrow]
    have hnone : t.find? (fun r => k r == key) = none := by
      rw [find?_eq_none_iff]
      intro r hr
      by_contra hne
      exact hany (List.any_eq_true.mpr ⟨r, hr, by simpa using hne⟩)
    by_cases heq : other = key
    · subst heq
      simp [hnone]
    · simp [heq, Ne.symm heq]

/-- An upsert by the columns of the only unique constraint never fails. -/
theorem exists_upsert_key {t : Table ρ} {row : ρ} (hclash : ∀ a b : ρ, clash a b = sameKey k a b)
    (hk : ∀ r, k (f r) = k r) (hrow : k row = key) :
    ∃ t', t.upsert (fun r => k r == key) f row = .ok t' := by
  unfold upsert
  split
  · rename_i hany
    obtain ⟨x, hx, hpx⟩ := List.any_eq_true.mp hany
    exact update_eq_ok_of_keeps (fun a b => by simp only [hclash, sameKey, hk]) ⟨x, hx, hpx⟩
  · rename_i hany
    refine exists_insert_iff.mpr fun x hx => ?_
    by_contra hne
    refine hany (List.any_eq_true.mpr ⟨x, hx, ?_⟩)
    simpa [hclash, hrow] using hne

end Key

end Table

end Relational
