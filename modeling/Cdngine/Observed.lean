import Mathlib.Data.List.Basic

/-!
# Observed Computations

Computations that may fail, together with everything that they do on the way: a failure keeps what
was done before it. The result of an observed computation is the computation without the
observations, and a property of every point of a run is one of every event with what was done before
and after it.

## Main results

* `result_bind`, `events_bind`: the result and the events of one computation after another.
* `exists_of_bind`, `forall_events_bind`: what both did when they succeed, and what holds of all
  that they do also when they fail.
* `everyPoint_append_iff`: the points of one list of events after another.
-/

/-- A computation that gives a value or an error, and the events on the way. -/
structure Observed (E ε α : Type) where
  events : List E
  result : Except ε α

namespace Observed

variable {E ε α β : Type}

/-- A computation without events. -/
def ofExcept (x : Except ε α) : Observed E ε α := ⟨[], x⟩

/-- An event. -/
def emit (event : E) : Observed E ε Unit := ⟨[event], .ok ()⟩

/-- One computation after another, unless the first one fails. -/
def andThen (x : Observed E ε α) (f : α → Observed E ε β) : Observed E ε β where
  events := x.events ++ match x.result with
    | .ok a => (f a).events
    | .error _ => []
  result := x.result >>= fun a => (f a).result

/-- Observed computations run one after another. -/
instance : Monad (Observed E ε) where
  pure a := ofExcept (.ok a)
  bind := andThen

@[simp] theorem result_ofExcept (x : Except ε α) : (ofExcept x : Observed E ε α).result = x := rfl

@[simp] theorem events_ofExcept (x : Except ε α) : (ofExcept x : Observed E ε α).events = [] := rfl

@[simp] theorem result_emit (event : E) : (emit event : Observed E ε Unit).result = .ok () := rfl

@[simp] theorem events_emit (event : E) : (emit event : Observed E ε Unit).events = [event] := rfl

@[simp] theorem result_pure (a : α) : (pure a : Observed E ε α).result = .ok a := rfl

@[simp] theorem events_pure (a : α) : (pure a : Observed E ε α).events = [] := rfl

section Bind

variable {x : Observed E ε α} {f : α → Observed E ε β}

/-- **The result of one computation after another.** -/
theorem result_bind : (x >>= f).result = x.result >>= fun a => (f a).result := rfl

/-- The result is the second one where the first computation succeeds. -/
theorem result_bind_ok {a : α} (h : x.result = .ok a) : (x >>= f).result = (f a).result := by
  rw [result_bind, h]
  rfl

/-- A computation after another one succeeds when both do. -/
theorem exists_of_result_bind {b : β} (h : (x >>= f).result = .ok b) :
    ∃ a, x.result = .ok a ∧ (f a).result = .ok b := by
  rw [result_bind] at h
  cases hx : x.result with
  | error e =>
      rw [hx] at h
      cases h
  | ok a =>
      rw [hx] at h
      exact ⟨a, rfl, h⟩

/-- **The events of one computation after another.** -/
theorem events_bind {a : α} (h : x.result = .ok a) :
    (x >>= f).events = x.events ++ (f a).events := by
  change x.events ++ _ = _
  rw [h]

/-- Nothing is done after a computation that fails. -/
theorem events_bind_error {e : ε} (h : x.result = .error e) : (x >>= f).events = x.events := by
  change x.events ++ _ = _
  rw [h]
  exact List.append_nil x.events

/-- An event does not fail. -/
theorem result_emit_bind {event : E} {f : Unit → Observed E ε β} :
    (emit event >>= f).result = (f ()).result := rfl

/-- An event comes before what follows it. -/
theorem events_emit_bind {event : E} {f : Unit → Observed E ε β} :
    (emit event >>= f).events = event :: (f ()).events := rfl

/-- A computation without events adds none to what follows it. -/
theorem events_ofExcept_ok {a : α} : (ofExcept (.ok a) >>= f).events = (f a).events :=
  List.nil_append _

/-- Nothing is done after a computation without events that fails. -/
theorem events_ofExcept_error {e : ε} : (ofExcept (.error e) >>= f).events = [] := rfl

/-- Nothing is done by a last step without events. -/
theorem events_bind_ofExcept {g : α → Except ε β} :
    (x >>= fun a => ofExcept (g a)).events = x.events := by
  cases h : x.result with
  | error e => exact events_bind_error h
  | ok a => exact (events_bind h).trans (List.append_nil x.events)

/-- The result of a changed computation. -/
theorem result_map {g : α → β} : (g <$> x).result = g <$> x.result := by
  change (x.result >>= fun a => .ok (g a)) = _
  cases x.result with
  | error e => rfl
  | ok a => rfl

/-- A changed computation does the same. -/
@[simp] theorem events_map {g : α → β} : (g <$> x).events = x.events := by
  change x.events ++ _ = _
  cases x.result with
  | error e => exact List.append_nil x.events
  | ok a => exact List.append_nil x.events

/-- **Inversion** of one computation after another: what each of them gives and does. -/
theorem exists_of_bind {b : β} (h : (x >>= f).result = .ok b) :
    ∃ a, x.result = .ok a ∧ (f a).result = .ok b ∧ (x >>= f).events = x.events ++ (f a).events := by
  obtain ⟨a, ha, hb⟩ := exists_of_result_bind h
  exact ⟨a, ha, hb, events_bind ha⟩

/-- A property of all that one computation after another does, whether they fail or not. -/
theorem forall_events_bind {P : E → Prop} (hx : ∀ event ∈ x.events, P event)
    (hf : ∀ a, x.result = .ok a → ∀ event ∈ (f a).events, P event) :
    ∀ event ∈ (x >>= f).events, P event := by
  intro event hevent
  cases hresult : x.result with
  | error e =>
      rw [events_bind_error hresult] at hevent
      exact hx event hevent
  | ok a =>
      rw [events_bind hresult] at hevent
      rcases List.mem_append.mp hevent with hevent | hevent
      · exact hx event hevent
      · exact hf a hresult event hevent

/-- A property of an event and of all that follows it. -/
theorem forall_events_emit_bind {P : E → Prop} {event : E} {f : Unit → Observed E ε β}
    (hevent : P event) (hf : ∀ other ∈ (f ()).events, P other) :
    ∀ other ∈ (emit event >>= f).events, P other :=
  forall_events_bind (fun _ hother => List.mem_singleton.mp hother ▸ hevent) fun _ _ => hf

/-- A property of all that follows a computation without events. -/
theorem forall_events_ofExcept_bind {P : E → Prop} {x : Except ε α} {f : α → Observed E ε β}
    (hf : ∀ a, x = .ok a → ∀ event ∈ (f a).events, P event) :
    ∀ event ∈ (ofExcept x >>= f).events, P event :=
  forall_events_bind (fun _ h => by cases h) hf

end Bind

/-! ### Every point of a run -/

/-- A property of every event, what was done before it and what is done after it. -/
def EveryPoint (P : List E → E → List E → Prop) (events : List E) : Prop :=
  ∀ before event after, events = before ++ event :: after → P before event after

section EveryPoint

variable {P : List E → E → List E → Prop} {events : List E}

/-- There is no point in an empty run. -/
theorem everyPoint_nil : EveryPoint P [] := by
  intro before event after h
  exact absurd h.symm (List.append_ne_nil_of_right_ne_nil before (List.cons_ne_nil event after))

/-- The points of a run are its first one and those of the rest. -/
theorem everyPoint_cons_iff {event : E} :
    EveryPoint P (event :: events) ↔
      P [] event events ∧ EveryPoint (fun before => P (event :: before)) events := by
  constructor
  · intro h
    refine ⟨h [] event events rfl, fun before event' after heq => ?_⟩
    exact h (event :: before) event' after (by rw [heq, List.cons_append])
  · rintro ⟨hfirst, hrest⟩ before event' after heq
    cases before with
    | nil =>
        obtain ⟨rfl, rfl⟩ := List.cons.inj heq
        exact hfirst
    | cons event'' before =>
        obtain ⟨rfl, htail⟩ := List.cons.inj heq
        exact hrest before event' after htail

/-- **The points of one list of events after another.** -/
theorem everyPoint_append_iff {later : List E} :
    EveryPoint P (events ++ later) ↔
      EveryPoint (fun before event after => P before event (after ++ later)) events ∧
        EveryPoint (fun before => P (events ++ before)) later := by
  induction events generalizing P with
  | nil => exact (and_iff_right everyPoint_nil).symm
  | cons event events ih =>
      rw [List.cons_append, everyPoint_cons_iff, everyPoint_cons_iff, ih, and_assoc]
      rfl

/-- Equivalent properties hold at the same points. -/
theorem everyPoint_congr {Q : List E → E → List E → Prop}
    (h : ∀ before event after, P before event after ↔ Q before event after) :
    EveryPoint P events ↔ EveryPoint Q events :=
  forall_congr' fun before => forall_congr' fun event => forall_congr' fun after =>
    imp_congr_right fun _ => h before event after

/-- The points of a run of changed events. -/
theorem everyPoint_map_iff {A : Type} {f : A → E} {as : List A} :
    EveryPoint P (as.map f) ↔
      EveryPoint (fun before a after => P (before.map f) (f a) (after.map f)) as := by
  induction as generalizing P with
  | nil => exact iff_of_true everyPoint_nil everyPoint_nil
  | cons a as ih =>
      rw [List.map_cons, everyPoint_cons_iff, everyPoint_cons_iff, ih]
      rfl

end EveryPoint

end Observed
