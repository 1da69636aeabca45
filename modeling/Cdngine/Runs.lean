import Mathlib.Data.List.Basic
import Mathlib.Tactic.Common

/-!
# Runs of Labelled Transition Systems

A run of a labelled step relation, carrying the list of its transitions, each with the
state it left and the state it reached. Carrying the transitions lets a statement say
both "every state the run reaches satisfies `I`" and "every step of the run satisfies
`P`", where `P` may look at the state before the step, at its label, and at the state
after it.

## Main results

* `Run.invariant`: a predicate that every step preserves holds at the end of a run.
* `Run.invariant_where`: the same when only the steps that meet a condition preserve it
  and every step of the run meets the condition.
* `Run.forall_where`: a property of single steps that follows from the invariant and the
  condition holds of every step of the run.
* `Run.simulates_where`: another system that simulates each step simulates the run.
* `Run.forall_iff_where`: two properties that an invariant makes equivalent hold of the same runs.
* `exec_run`, `exists_run_along`: executing a step function label by label is a run of its
  graph.
-/

namespace Runs

/-- One step of a run: the state it leaves, its label, the state it reaches. -/
structure Transition (σ α : Type*) where
  before : σ
  action : α
  after : σ

/-- A **run** of a step relation, with its transitions in order. -/
inductive Run {σ α : Type*} (step : σ → α → σ → Prop) : σ → List (Transition σ α) → σ → Prop
  | nil (s : σ) : Run step s [] s
  | cons {s s' s'' : σ} {a : α} {tr : List (Transition σ α)} :
      step s a s' → Run step s' tr s'' → Run step s (⟨s, a, s'⟩ :: tr) s''

variable {σ α : Type*} {step : σ → α → σ → Prop}

/-- Runs compose. -/
theorem Run.append {s s' s'' : σ} {tr tr' : List (Transition σ α)} (h : Run step s tr s')
    (h' : Run step s' tr' s'') : Run step s (tr ++ tr') s'' := by
  induction h with
  | nil s => exact h'
  | cons hs _ ih => exact Run.cons hs (ih h')

/-- A run of a relation is a run of a larger one. -/
theorem Run.mono {step' : σ → α → σ → Prop} (hstep : ∀ {s a s'}, step s a s' → step' s a s')
    {s s' : σ} {tr : List (Transition σ α)} (h : Run step s tr s') : Run step' s tr s' := by
  induction h with
  | nil s => exact Run.nil s
  | cons hs _ ih => exact Run.cons (hstep hs) ih

/-- Every recorded transition of a run is a step. -/
theorem Run.step_of_mem {s s' : σ} {tr : List (Transition σ α)} (h : Run step s tr s') :
    ∀ τ ∈ tr, step τ.before τ.action τ.after := by
  induction h with
  | nil s => intro τ hτ; cases hτ
  | cons hs _ ih =>
      intro τ hτ
      rcases List.mem_cons.mp hτ with rfl | hτ
      · exact hs
      · exact ih τ hτ

/-- **The invariant rule, under a condition on the steps.** When every step that meets
`C` preserves `I`, a run all of whose steps meet `C` preserves `I`, and `I` holds before
and after each of its steps. -/
theorem Run.forall_invariant_where {I : σ → Prop} {C : Transition σ α → Prop}
    (hI : ∀ {s a s'}, I s → step s a s' → C ⟨s, a, s'⟩ → I s') {s s' : σ}
    {tr : List (Transition σ α)} (h : Run step s tr s') (hs : I s) (hC : ∀ τ ∈ tr, C τ) :
    I s' ∧ ∀ τ ∈ tr, I τ.before ∧ I τ.after := by
  induction h with
  | nil s => exact ⟨hs, fun τ hτ => by cases hτ⟩
  | cons hstep _ ih =>
      have hs' := hI hs hstep (hC _ List.mem_cons_self)
      obtain ⟨hlast, hall⟩ := ih hs' fun τ hτ => hC τ (List.mem_cons_of_mem _ hτ)
      refine ⟨hlast, fun τ hτ => ?_⟩
      rcases List.mem_cons.mp hτ with rfl | hτ
      · exact ⟨hs, hs'⟩
      · exact hall τ hτ

/-- The invariant rule under a condition, at the end of the run. -/
theorem Run.invariant_where {I : σ → Prop} {C : Transition σ α → Prop}
    (hI : ∀ {s a s'}, I s → step s a s' → C ⟨s, a, s'⟩ → I s') {s s' : σ}
    {tr : List (Transition σ α)} (h : Run step s tr s') (hs : I s) (hC : ∀ τ ∈ tr, C τ) :
    I s' :=
  (h.forall_invariant_where hI hs hC).1

/-- **The invariant rule.** A predicate that every step preserves is preserved by every
run. -/
theorem Run.invariant {I : σ → Prop} (hI : ∀ {s a s'}, I s → step s a s' → I s') {s s' : σ}
    {tr : List (Transition σ α)} (h : Run step s tr s') (hs : I s) : I s' :=
  h.invariant_where (C := fun _ => True) (fun hs hstep _ => hI hs hstep) hs fun _ _ => trivial

/-- A relation between a step and every later one, under an invariant and a condition, holds
of the steps of a run pairwise. -/
theorem Run.pairwise_where {I : σ → Prop} {C : Transition σ α → Prop}
    {P : Transition σ α → Transition σ α → Prop}
    (hI : ∀ {s a s'}, I s → step s a s' → C ⟨s, a, s'⟩ → I s')
    (hP : ∀ {s a s' tr s''}, I s → step s a s' → C ⟨s, a, s'⟩ → Run step s' tr s'' →
      (∀ τ ∈ tr, C τ) → ∀ τ ∈ tr, P ⟨s, a, s'⟩ τ) {s s' : σ}
    {tr : List (Transition σ α)} (h : Run step s tr s') (hs : I s) (hC : ∀ τ ∈ tr, C τ) :
    tr.Pairwise P := by
  induction h with
  | nil s => exact List.Pairwise.nil
  | cons hstep hrest ih =>
      obtain ⟨hhead, htail⟩ := List.forall_mem_cons.mp hC
      exact List.Pairwise.cons (hP hs hstep hhead hrest htail) (ih (hI hs hstep hhead) htail)

/-- A property of single steps that an invariant and a condition entail holds of every
step of a run that meets the condition. -/
theorem Run.forall_where {I : σ → Prop} {C P : Transition σ α → Prop}
    (hI : ∀ {s a s'}, I s → step s a s' → C ⟨s, a, s'⟩ → I s')
    (hP : ∀ {s a s'}, I s → step s a s' → C ⟨s, a, s'⟩ → P ⟨s, a, s'⟩) {s s' : σ}
    {tr : List (Transition σ α)} (h : Run step s tr s') (hs : I s) (hC : ∀ τ ∈ tr, C τ) :
    ∀ τ ∈ tr, P τ := by
  intro τ hτ
  have hbefore := ((h.forall_invariant_where hI hs hC).2 τ hτ).1
  exact hP hbefore (h.step_of_mem τ hτ) (hC τ hτ)

/-- A property of single steps that is equivalent to another one under the invariant holds of
every step of a run exactly when the other does, where the other preserves the invariant. -/
theorem Run.forall_iff_where {I : σ → Prop} {C P Q : Transition σ α → Prop}
    (hI : ∀ {s a s'}, I s → step s a s' → C ⟨s, a, s'⟩ → Q ⟨s, a, s'⟩ → I s')
    (hPQ : ∀ {s a s'}, I s → step s a s' → C ⟨s, a, s'⟩ → (P ⟨s, a, s'⟩ ↔ Q ⟨s, a, s'⟩))
    {s s' : σ} {tr : List (Transition σ α)} (h : Run step s tr s') (hs : I s)
    (hC : ∀ τ ∈ tr, C τ) : (∀ τ ∈ tr, P τ) ↔ ∀ τ ∈ tr, Q τ := by
  induction h with
  | nil s => exact iff_of_true (List.forall_mem_nil P) (List.forall_mem_nil Q)
  | cons hstep _ ih =>
      obtain ⟨hhead, htail⟩ := List.forall_mem_cons.mp hC
      rw [List.forall_mem_cons, List.forall_mem_cons, hPQ hs hstep hhead]
      exact and_congr_right fun hQ => ih (hI hs hstep hhead hQ) htail

/-- A function of another system that simulates every step of a run under a condition
simulates the run. -/
theorem Run.simulates_where {τ : Type*} {next : τ → α → τ} {R : σ → τ → Prop}
    {C : Transition σ α → Prop}
    (hR : ∀ {s t a s'}, R s t → step s a s' → C ⟨s, a, s'⟩ → R s' (next t a)) {s s' : σ} {t : τ}
    {tr : List (Transition σ α)} (h : Run step s tr s') (hs : R s t) (hC : ∀ x ∈ tr, C x) :
    R s' ((tr.map Transition.action).foldl next t) := by
  induction h generalizing t with
  | nil s => exact hs
  | cons hstep _ ih =>
      obtain ⟨hhead, htail⟩ := List.forall_mem_cons.mp hC
      exact ih (hR hs hstep hhead) htail

/-! ### Executable systems -/

/-- The transitions of a total step function along a list of labels. -/
def trace {σ α : Type*} (next : σ → α → σ) : σ → List α → List (Transition σ α)
  | _, [] => []
  | s, a :: as => ⟨s, a, next s a⟩ :: trace next (next s a) as

/-- They form a run of its graph. -/
theorem trace_run {σ α : Type*} (next : σ → α → σ) (s : σ) (as : List α) :
    Run (fun s a s' => next s a = s') s (trace next s as) (as.foldl next s) := by
  induction as generalizing s with
  | nil => exact Run.nil s
  | cons a as ih => exact Run.cons rfl (ih (next s a))

/-- Execute a partial step function along a list of labels, recording the transitions. -/
def exec {σ α : Type*} (next : σ → α → Option σ) : σ → List α → Option (List (Transition σ α) × σ)
  | s, [] => some ([], s)
  | s, a :: as =>
      (next s a).bind fun s' =>
        (exec next s' as).map fun r => (⟨s, a, s'⟩ :: r.1, r.2)

/-- An execution is a run of the graph of the step function. -/
theorem exec_run {next : σ → α → Option σ} {s s' : σ} {as : List α}
    {tr : List (Transition σ α)} (h : exec next s as = some (tr, s')) :
    Run (fun s a s' => next s a = some s') s tr s' := by
  induction as generalizing s tr with
  | nil =>
      simp only [exec, Option.some.injEq, Prod.mk.injEq] at h
      obtain ⟨rfl, rfl⟩ := h
      exact Run.nil s
  | cons a as ih =>
      simp only [exec, Option.bind_eq_some_iff, Option.map_eq_some_iff, Prod.mk.injEq] at h
      obtain ⟨s₁, hs₁, ⟨tr₁, s₂⟩, htr, rfl, rfl⟩ := h
      exact Run.cons hs₁ (ih htr)

/-- The transitions of an execution have its labels. -/
theorem exec_actions {next : σ → α → Option σ} {s s' : σ} {as : List α}
    {tr : List (Transition σ α)} (h : exec next s as = some (tr, s')) :
    tr.map Transition.action = as := by
  induction as generalizing s tr with
  | nil =>
      simp only [exec, Option.some.injEq, Prod.mk.injEq] at h
      obtain ⟨rfl, rfl⟩ := h
      rfl
  | cons a as ih =>
      simp only [exec, Option.bind_eq_some_iff, Option.map_eq_some_iff, Prod.mk.injEq] at h
      obtain ⟨s₁, hs₁, ⟨tr₁, s₂⟩, htr, rfl, rfl⟩ := h
      rw [List.map_cons, ih htr]

/-- A run along given labels, found by executing the step function, with a decidable property of
its transitions and its last state. -/
theorem exists_run_along (next : σ → α → Option σ) (s : σ) (as : List α)
    (P : List (Transition σ α) → σ → Prop) [∀ tr s', Decidable (P tr s')]
    (h : (exec next s as).any (fun r => decide (P r.1 r.2)) = true) :
    ∃ tr s', Run (fun s a s' => next s a = some s') s tr s' ∧ tr.map Transition.action = as ∧
      P tr s' := by
  cases hexec : exec next s as with
  | none => simp [hexec] at h
  | some r =>
      rw [hexec] at h
      exact ⟨r.1, r.2, exec_run hexec, exec_actions hexec, by simpa using h⟩

/-- A run found by executing the step function, whatever its labels. -/
theorem exists_run_of_exec (next : σ → α → Option σ) (s : σ) (as : List α)
    (P : List (Transition σ α) → σ → Prop) [∀ tr s', Decidable (P tr s')]
    (h : (exec next s as).any (fun r => decide (P r.1 r.2)) = true) :
    ∃ tr s', Run (fun s a s' => next s a = some s') s tr s' ∧ P tr s' := by
  obtain ⟨tr, s', hrun, -, hP⟩ := exists_run_along next s as P h
  exact ⟨tr, s', hrun, hP⟩

end Runs
