import Mathlib.Data.Fintype.Basic
import Cdngine.Runs

/-!
# Sessions under READ COMMITTED

Any number of sessions over one database, one statement at a time, at the isolation level
READ COMMITTED:

* a statement sees the committed database with the writes of its own session on top;
* a write keeps the row it writes locked until its session commits or rolls back, and a
  write on a row that another session has locked waits;
* a session's writes reach the committed database when it commits, and are lost when it
  rolls back.

A write is computed when its statement executes, from what the statement sees. Its row
stays locked from then on, so it still applies to the same row when the session commits.

What a session does is given by its *code*: a function of its location and of what it
sees.

## Main results

* `Write.KeepsToRow`: writes on one row each, and what a session sees of the other rows.
* `step_cases`: the inversion of a step.
* `LocalInvariant.holds`: the proof rule. An invariant of the committed database, with one
  for each session over the database, the session's location and its pending writes, holds
  in every state of every run, when each session keeps its own and no commit of another
  session that holds other locks disturbs it.
-/

open Runs

namespace ReadCommitted

/-- A write of a session: the row that it locks, and what it does to the database. -/
structure Write (σ κ : Type*) where
  row : κ
  effect : σ → σ

/-- What a session does next. `autocommit` is a write statement outside a transaction. -/
inductive Action (σ κ Λ : Type*)
  | query (next : Λ)
  | write (w : Write σ κ) (next : Λ)
  | autocommit (w : Write σ κ) (next : Λ)
  | commit (next : Λ)
  | rollback (next : Λ)
  | halt

/-- Where an action leads. -/
def Action.next? {σ κ Λ : Type*} : Action σ κ Λ → Option Λ
  | query next | write _ next | autocommit _ next | commit next | rollback next => some next
  | halt => none

/-- A session: where it is in its code, and its writes that are not committed. -/
structure Session (σ κ Λ : Type*) where
  location : Λ
  pending : List (Write σ κ) := []

variable {ι σ κ Λ : Type*}

/-- The database with a list of writes on top. -/
def applyAll (ws : List (Write σ κ)) (db : σ) : σ := ws.foldl (fun db w => w.effect db) db

@[simp] theorem applyAll_nil (db : σ) : applyAll ([] : List (Write σ κ)) db = db := rfl

@[simp] theorem applyAll_cons (w : Write σ κ) (ws : List (Write σ κ)) (db : σ) :
    applyAll (w :: ws) db = applyAll ws (w.effect db) := rfl

@[simp] theorem applyAll_append (ws ws' : List (Write σ κ)) (db : σ) :
    applyAll (ws ++ ws') db = applyAll ws' (applyAll ws db) := List.foldl_append

namespace Session

/-- What a session sees of the database. -/
def view (s : Session σ κ Λ) (db : σ) : σ := applyAll s.pending db

/-- A session without writes sees the committed database. -/
theorem view_of_idle {s : Session σ κ Λ} {db : σ} (h : s.pending = []) : s.view db = db := by
  rw [view, h, applyAll_nil]

/-- What a session sees after one more write. -/
theorem view_append {s : Session σ κ Λ} {w : Write σ κ} {next : Λ} {db : σ} :
    (Session.mk next (s.pending ++ [w])).view db = w.effect (s.view db) := by
  simp only [view, applyAll_append, applyAll_cons, applyAll_nil]

/-- A session keeps a row locked. -/
def Holds (s : Session σ κ Λ) (row : κ) : Prop := ∃ w ∈ s.pending, w.row = row

instance [DecidableEq κ] (s : Session σ κ Λ) (row : κ) : Decidable (s.Holds row) :=
  inferInstanceAs (Decidable (∃ w ∈ s.pending, w.row = row))

theorem holds_append {s : Session σ κ Λ} {w : Write σ κ} {next : Λ} {row : κ} :
    (Session.mk next (s.pending ++ [w])).Holds row ↔ s.Holds row ∨ w.row = row := by
  simp only [Holds, List.mem_append, List.mem_singleton]
  constructor
  · rintro ⟨x, hx | rfl, hrow⟩
    · exact Or.inl ⟨x, hx, hrow⟩
    · exact Or.inr hrow
  · rintro (⟨x, hx, hrow⟩ | hrow)
    · exact ⟨x, Or.inl hx, hrow⟩
    · exact ⟨w, Or.inr rfl, hrow⟩

theorem not_holds_nil {next : Λ} {row : κ} : ¬ (Session.mk next [] : Session σ κ Λ).Holds row := by
  rintro ⟨w, hw, -⟩
  cases hw

end Session

/-! ### Writes that keep to their row -/

section Rows

variable {β : Type*} {lookup : κ → σ → β}

/-- A write changes at most what a lookup of its own row finds, and what it leaves there
depends on nothing else. -/
structure Write.KeepsToRow (lookup : κ → σ → β) (w : Write σ κ) : Prop where
  frame {db : σ} {key : κ} : key ≠ w.row → lookup key (w.effect db) = lookup key db
  congr {db db' : σ} : lookup w.row db = lookup w.row db' →
    lookup w.row (w.effect db) = lookup w.row (w.effect db')

/-- Writes on other rows do not change what a lookup finds. -/
theorem lookup_applyAll {ws : List (Write σ κ)} {key : κ} {db : σ}
    (hws : ∀ w ∈ ws, w.KeepsToRow lookup) (hkey : ∀ w ∈ ws, w.row ≠ key) :
    lookup key (applyAll ws db) = lookup key db := by
  induction ws generalizing db with
  | nil => rfl
  | cons w ws ih =>
      have htail := @ih (w.effect db) (fun x hx => hws x (List.mem_cons_of_mem _ hx))
        fun x hx => hkey x (List.mem_cons_of_mem _ hx)
      rw [applyAll_cons, htail]
      exact (hws w List.mem_cons_self).frame (hkey w List.mem_cons_self).symm

/-- What a lookup finds after some writes depends only on what it finds before. -/
theorem lookup_applyAll_congr {ws : List (Write σ κ)} {key : κ} {db db' : σ}
    (hws : ∀ w ∈ ws, w.KeepsToRow lookup) (h : lookup key db = lookup key db') :
    lookup key (applyAll ws db) = lookup key (applyAll ws db') := by
  induction ws generalizing db db' with
  | nil => exact h
  | cons w ws ih =>
      refine ih (fun x hx => hws x (List.mem_cons_of_mem _ hx)) ?_
      have hw := hws w List.mem_cons_self
      by_cases hkey : key = w.row
      · subst hkey
        exact hw.congr h
      · rw [hw.frame hkey, hw.frame hkey]
        exact h

/-- A session sees the rows that it does not hold as they are committed. -/
theorem Session.lookup_view {s : Session σ κ Λ} {key : κ} {db : σ}
    (hws : ∀ w ∈ s.pending, w.KeepsToRow lookup) (hkey : ¬ s.Holds key) :
    lookup key (s.view db) = lookup key db :=
  lookup_applyAll hws fun w hw heq => hkey ⟨w, hw, heq⟩

end Rows

/-! ### The system -/

/-- The committed database with the sessions. -/
structure System (ι σ κ Λ : Type*) where
  db : σ
  session : ι → Session σ κ Λ

/-- A row is locked by another session. -/
def System.Blocked (sys : System ι σ κ Λ) (i : ι) (row : κ) : Prop :=
  ∃ j, j ≠ i ∧ (sys.session j).Holds row

instance [Fintype ι] [DecidableEq ι] [DecidableEq κ] (sys : System ι σ κ Λ) (i : ι) (row : κ) :
    Decidable (sys.Blocked i row) :=
  inferInstanceAs (Decidable (∃ j, j ≠ i ∧ (sys.session j).Holds row))

/-- No two sessions keep one row locked. -/
def System.Exclusive (sys : System ι σ κ Λ) : Prop :=
  ∀ i j row, i ≠ j → (sys.session i).Holds row → ¬ (sys.session j).Holds row

theorem System.Exclusive.not_blocked {sys : System ι σ κ Λ} {i : ι}
    {row : κ} (h : sys.Exclusive)
    (hi : (sys.session i).Holds row) : ¬ sys.Blocked i row := by
  rintro ⟨j, hji, hj⟩
  exact h j i row hji hj hi

/-- Sessions that have done nothing hold no locks. -/
theorem System.exclusive_of_idle {sys : System ι σ κ Λ}
    (h : ∀ i, (sys.session i).pending = []) : sys.Exclusive := by
  rintro i j row - ⟨w, hw, -⟩
  rw [h i] at hw
  cases hw

variable [DecidableEq ι]

/-- Replace one session, over a database. -/
def System.set (sys : System ι σ κ Λ) (i : ι) (db : σ) (s : Session σ κ Λ) : System ι σ κ Λ where
  db
  session := Function.update sys.session i s

section Set

variable {sys : System ι σ κ Λ} {i j : ι} {db : σ} {s : Session σ κ Λ}

@[simp] theorem System.set_db : (sys.set i db s).db = db := rfl

@[simp] theorem System.set_session_self : (sys.set i db s).session i = s := by
  simp only [System.set, Function.update_self]

@[simp] theorem System.set_session_of_ne (h : j ≠ i) : (sys.set i db s).session j =
    sys.session j := by
  simp only [System.set, Function.update_of_ne h]

end Set

/-- What a step of a session leads to, with the row whose lock it takes. -/
def System.attempt (code : ι → Λ → σ → Action σ κ Λ) (sys : System ι σ κ Λ) (i : ι) :
    Option (Option κ × System ι σ κ Λ) :=
  let s := sys.session i
  match code i s.location (s.view sys.db) with
  | .query next => some (none, sys.set i sys.db { s with location := next })
  | .write w next => some (some w.row, sys.set i sys.db ⟨next, s.pending ++ [w]⟩)
  | .autocommit w next =>
      some (some w.row, sys.set i (w.effect sys.db) { s with location := next })
  | .commit next => some (none, sys.set i (s.view sys.db) ⟨next, []⟩)
  | .rollback next => some (none, sys.set i sys.db ⟨next, []⟩)
  | .halt => none

/-- The steps of the system: a statement of a session, or a change of the database by
somebody else. -/
inductive Event (ι σ : Type*)
  | session (i : ι)
  | environment (db : σ)

/-- **The step relation.** A session steps unless it waits for a lock; `env` says which
changes the others may make. -/
inductive Step (code : ι → Λ → σ → Action σ κ Λ) (env : σ → σ → Prop) (sys : System ι σ κ Λ) :
    Event ι σ → System ι σ κ Λ → Prop
  | session {i : ι} {lock : Option κ} {sys' : System ι σ κ Λ}
      (hattempt : sys.attempt code i = some (lock, sys'))
      (hfree : ∀ row, lock = some row → ¬ sys.Blocked i row) : Step code env sys (.session i) sys'
  | environment {db : σ} (h : env sys.db db) : Step code env sys (.environment db) { sys with db }

/-- The step function of finitely many sessions. -/
def System.next [Fintype ι] [DecidableEq κ] (code : ι → Λ → σ → Action σ κ Λ)
    (sys : System ι σ κ Λ) (i : ι) : Option (System ι σ κ Λ) :=
  (sys.attempt code i).bind fun (lock, sys') =>
    if lock.any fun row => decide (sys.Blocked i row) then none else some sys'

/-- The step function of finitely many sessions that nobody else disturbs. -/
def System.perform [Fintype ι] [DecidableEq κ] (code : ι → Λ → σ → Action σ κ Λ)
    (sys : System ι σ κ Λ) : Event ι σ → Option (System ι σ κ Λ)
  | .session i => sys.next code i
  | .environment _ => none

variable {code : ι → Λ → σ → Action σ κ Λ} {env : σ → σ → Prop} {sys sys' : System ι σ κ Λ}

theorem step_of_next [Fintype ι] [DecidableEq κ] {i : ι} (h : sys.next code i = some sys') :
    Step code env sys (.session i) sys' := by
  obtain ⟨⟨lock, sys₁⟩, hattempt, h⟩ := Option.bind_eq_some_iff.mp h
  dsimp only at h
  split at h
  · cases h
  · rename_i hfree
    obtain rfl := Option.some.inj h
    refine .session hattempt fun row hlock hblocked => hfree ?_
    subst hlock
    simpa using hblocked

/-- A run of finitely many sessions, found by executing a schedule. -/
theorem exists_run_of_schedule [Fintype ι] [DecidableEq κ] (code : ι → Λ → σ → Action σ κ Λ)
    (env : σ → σ → Prop) (sys : System ι σ κ Λ) (schedule : List ι)
    (P : List (Transition (System ι σ κ Λ) (Event ι σ)) → System ι σ κ Λ → Prop)
    [∀ tr sys', Decidable (P tr sys')]
    (h : (exec (System.perform code) sys (schedule.map .session)).any
      (fun r => decide (P r.1 r.2)) = true) :
    ∃ tr sys', Run (Step code env) sys tr sys' ∧ P tr sys' := by
  obtain ⟨tr, sys', hrun, hP⟩ := exists_run_of_exec _ _ _ P h
  refine ⟨tr, sys', hrun.mono fun {sys e sys'} hstep => ?_, hP⟩
  cases e with
  | session i => exact step_of_next hstep
  | environment db => cases hstep

/-- **Inversion of a step of a session.** -/
inductive SessionStep (code : ι → Λ → σ → Action σ κ Λ) (sys : System ι σ κ Λ) (i : ι) :
    System ι σ κ Λ → Prop
  | query {next : Λ}
      (h : code i (sys.session i).location ((sys.session i).view sys.db) = .query next) :
      SessionStep code sys i (sys.set i sys.db ⟨next, (sys.session i).pending⟩)
  | write {w : Write σ κ} {next : Λ}
      (h : code i (sys.session i).location ((sys.session i).view sys.db) = .write w next)
      (hfree : ¬ sys.Blocked i w.row) :
      SessionStep code sys i (sys.set i sys.db ⟨next, (sys.session i).pending ++ [w]⟩)
  | autocommit {w : Write σ κ} {next : Λ}
      (h : code i (sys.session i).location ((sys.session i).view sys.db) = .autocommit w next)
      (hfree : ¬ sys.Blocked i w.row) :
      SessionStep code sys i (sys.set i (w.effect sys.db) ⟨next, (sys.session i).pending⟩)
  | commit {next : Λ}
      (h : code i (sys.session i).location ((sys.session i).view sys.db) = .commit next) :
      SessionStep code sys i (sys.set i ((sys.session i).view sys.db) ⟨next, []⟩)
  | rollback {next : Λ}
      (h : code i (sys.session i).location ((sys.session i).view sys.db) = .rollback next) :
      SessionStep code sys i (sys.set i sys.db ⟨next, []⟩)

theorem step_cases {i : ι} (h : Step code env sys (.session i) sys') :
    SessionStep code sys i sys' := by
  cases h with
  | session hattempt hfree =>
      unfold System.attempt at hattempt
      dsimp only at hattempt
      split at hattempt
      · rename_i hcode
        obtain ⟨-, rfl⟩ := Prod.mk.inj (Option.some.inj hattempt)
        exact .query hcode
      · rename_i hcode
        obtain ⟨rfl, rfl⟩ := Prod.mk.inj (Option.some.inj hattempt)
        exact .write hcode (hfree _ rfl)
      · rename_i hcode
        obtain ⟨rfl, rfl⟩ := Prod.mk.inj (Option.some.inj hattempt)
        exact .autocommit hcode (hfree _ rfl)
      · rename_i hcode
        obtain ⟨-, rfl⟩ := Prod.mk.inj (Option.some.inj hattempt)
        exact .commit hcode
      · rename_i hcode
        obtain ⟨-, rfl⟩ := Prod.mk.inj (Option.some.inj hattempt)
        exact .rollback hcode
      · cases hattempt

/-! ### Steps keep the locks exclusive -/

/-- A session whose locks do not grow keeps the locks exclusive. -/
theorem System.Exclusive.set {i : ι} {db : σ} {s : Session σ κ Λ} (h : sys.Exclusive)
    (hs : ∀ row, s.Holds row → ¬ sys.Blocked i row) : (sys.set i db s).Exclusive := by
  intro j k row hjk hj hk
  by_cases hji : j = i
  · subst hji
    rw [System.set_session_self] at hj
    rw [System.set_session_of_ne hjk.symm] at hk
    exact hs row hj ⟨k, hjk.symm, hk⟩
  · rw [System.set_session_of_ne hji] at hj
    by_cases hki : k = i
    · subst hki
      rw [System.set_session_self] at hk
      exact hs row hk ⟨j, hji, hj⟩
    · rw [System.set_session_of_ne hki] at hk
      exact h j k row hjk hj hk

theorem System.Exclusive.step {e : Event ι σ} (h : sys.Exclusive)
    (hstep : Step code env sys e sys') :
    sys'.Exclusive := by
  cases e with
  | environment db =>
      cases hstep with
      | environment henv => exact h
  | session i =>
      cases step_cases hstep with
      | query hcode => exact h.set fun row hrow => h.not_blocked hrow
      | write hcode hfree =>
          refine h.set fun row hrow => ?_
          rcases Session.holds_append.mp hrow with hrow | rfl
          · exact h.not_blocked hrow
          · exact hfree
      | autocommit hcode hfree => exact h.set fun row hrow => h.not_blocked hrow
      | commit hcode => exact h.set fun row hrow => absurd hrow Session.not_holds_nil
      | rollback hcode => exact h.set fun row hrow => absurd hrow Session.not_holds_nil

/-! ### The proof rule -/

/-- Two sessions hold no common lock. -/
def Session.Apart (s s' : Session σ κ Λ) : Prop := ∀ row, s.Holds row → ¬ s'.Holds row

/-- **An invariant proved session by session.** `db` is kept by the committed database,
`own i` by session `i`. What the condition `C` says of a step may be used where the
session of the step moves on. -/
structure LocalInvariant (code : ι → Λ → σ → Action σ κ Λ) (env : σ → σ → Prop)
    (C : ι → Session σ κ Λ → σ → Prop) (G : σ → Prop) (J : ι → Session σ κ Λ → σ → Prop) :
    Prop where
  query {i : ι} {s : Session σ κ Λ} {db : σ} {next : Λ} :
    G db → J i s db → C i s db → code i s.location (s.view db) = .query next →
      J i ⟨next, s.pending⟩ db
  write {i : ι} {s : Session σ κ Λ} {db : σ} {w : Write σ κ} {next : Λ} :
    G db → J i s db → C i s db → code i s.location (s.view db) = .write w next →
      J i ⟨next, s.pending ++ [w]⟩ db
  autocommit {i : ι} {s : Session σ κ Λ} {db : σ} {w : Write σ κ} {next : Λ} :
    G db → J i s db → C i s db → code i s.location (s.view db) = .autocommit w next →
      G (w.effect db) ∧ J i ⟨next, s.pending⟩ (w.effect db)
  autocommit_frame {i j : ι} {s s' : Session σ κ Λ} {db : σ} {w : Write σ κ} {next : Λ} :
    G db → J i s db → C i s db → code i s.location (s.view db) = .autocommit w next → j ≠ i →
      ¬ s'.Holds w.row → J j s' db → J j s' (w.effect db)
  commit {i : ι} {s : Session σ κ Λ} {db : σ} {next : Λ} :
    G db → J i s db → C i s db → code i s.location (s.view db) = .commit next →
      G (s.view db) ∧ J i ⟨next, []⟩ (s.view db)
  commit_frame {i j : ι} {s s' : Session σ κ Λ} {db : σ} {next : Λ} :
    G db → J i s db → C i s db → code i s.location (s.view db) = .commit next → j ≠ i →
      s.Apart s' → J j s' db → J j s' (s.view db)
  rollback {i : ι} {s : Session σ κ Λ} {db : σ} {next : Λ} :
    G db → J i s db → C i s db → code i s.location (s.view db) = .rollback next →
      J i ⟨next, []⟩ db
  environment {db db' : σ} : G db → env db db' → G db'
  environment_frame {i : ι} {s : Session σ κ Λ} {db db' : σ} :
    G db → env db db' → J i s db → J i s db'

/-- The states that a local invariant describes. -/
structure System.Satisfies (sys : System ι σ κ Λ) (G : σ → Prop)
    (J : ι → Session σ κ Λ → σ → Prop) : Prop where
  exclusive : sys.Exclusive
  db : G sys.db
  own : ∀ i, J i (sys.session i) sys.db

/-- The condition on a transition: the session that steps meets it. -/
def Transition.Meets (C : ι → Session σ κ Λ → σ → Prop)
    (τ : Transition (System ι σ κ Λ) (Event ι σ)) : Prop :=
  ∀ i, τ.action = .session i → C i (τ.before.session i) τ.before.db

instance (C : ι → Session σ κ Λ → σ → Prop) [∀ i s db, Decidable (C i s db)]
    (τ : Transition (System ι σ κ Λ) (Event ι σ)) : Decidable (Transition.Meets C τ) :=
  match h : τ.action with
  | .session i =>
      decidable_of_iff (C i (τ.before.session i) τ.before.db)
        ⟨fun hC _ hj => Event.session.inj (h.symm.trans hj) ▸ hC, fun hmeets => hmeets i h⟩
  | .environment _ => isTrue fun _ hi => nomatch h.symm.trans hi

namespace LocalInvariant

variable {C : ι → Session σ κ Λ → σ → Prop} {G : σ → Prop} {J : ι → Session σ κ Λ → σ → Prop}

theorem step (h : LocalInvariant code env C G J) {e : Event ι σ} (hsys : sys.Satisfies G J)
    (hstep : Step code env sys e sys') (hC : Transition.Meets C ⟨sys, e, sys'⟩) :
    sys'.Satisfies G J := by
  have hown : ∀ {i db s}, J i s db → (∀ j, j ≠ i → J j (sys.session j) db) →
      ∀ j, J j ((sys.set i db s).session j) db := by
    intro i db s hi hothers j
    by_cases hji : j = i
    · subst hji
      rw [System.set_session_self]
      exact hi
    · rw [System.set_session_of_ne hji]
      exact hothers j hji
  refine ⟨hsys.exclusive.step hstep, ?_, ?_⟩
  · cases e with
    | environment db =>
        cases hstep with
        | environment henv => exact h.environment hsys.db henv
    | session i =>
        have hi := hC i rfl
        cases step_cases hstep with
        | query hcode => exact hsys.db
        | write hcode hfree => exact hsys.db
        | autocommit hcode hfree => exact (h.autocommit hsys.db (hsys.own i) hi hcode).1
        | commit hcode => exact (h.commit hsys.db (hsys.own i) hi hcode).1
        | rollback hcode => exact hsys.db
  · cases e with
    | environment db =>
        cases hstep with
        | environment henv => exact fun j => h.environment_frame hsys.db henv (hsys.own j)
    | session i =>
        have hi := hC i rfl
        cases step_cases hstep with
        | query hcode =>
            exact hown (h.query hsys.db (hsys.own i) hi hcode) fun j _ => hsys.own j
        | write hcode hfree =>
            exact hown (h.write hsys.db (hsys.own i) hi hcode) fun j _ => hsys.own j
        | autocommit hcode hfree =>
            exact hown (h.autocommit hsys.db (hsys.own i) hi hcode).2 fun j hji =>
              h.autocommit_frame hsys.db (hsys.own i) hi hcode hji (fun hj => hfree ⟨j, hji, hj⟩)
                (hsys.own j)
        | commit hcode =>
            exact hown (h.commit hsys.db (hsys.own i) hi hcode).2 fun j hji =>
              h.commit_frame hsys.db (hsys.own i) hi hcode hji
                (fun row hrow => hsys.exclusive i j row hji.symm hrow) (hsys.own j)
        | rollback hcode =>
            exact hown (h.rollback hsys.db (hsys.own i) hi hcode) fun j _ => hsys.own j

/-- **The proof rule.** In every run whose steps meet the condition, the invariant holds at
the end, and before and after each step. -/
theorem holds (h : LocalInvariant code env C G J)
    {tr : List (Transition (System ι σ κ Λ) (Event ι σ))} (hrun : Run (Step code env) sys tr sys')
    (hsys : sys.Satisfies G J) (hC : ∀ τ ∈ tr, Transition.Meets C τ) :
    sys'.Satisfies G J ∧ ∀ τ ∈ tr, τ.before.Satisfies G J ∧ τ.after.Satisfies G J :=
  hrun.forall_invariant_where (fun hs hstep hC => h.step hs hstep hC) hsys hC

end LocalInvariant

end ReadCommitted
