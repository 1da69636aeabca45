import Mathlib.Data.List.Basic
import Mathlib.Logic.Function.Basic
import Mathlib.Tactic.Common

/-!
# Files That a Stopped Process Leaves

A directory of files, and the operations on it that a process performs one after another. The
process may stop between two operations or inside one that writes; a stop inside a write leaves
the file with a beginning of what was to be written. Names and contents are of any type.

`replaceFile` is the replacement of a file by way of another one: the other one is written, the
file is removed and written again from the other one, which is removed last. From the removal to
the end of the second write the content of the file is nowhere under its name.

## Main results

* `stopIn_other`: operations that stop leave the other names as they are.
* `stopIn_replaceFile`: what the file holds where a replacement stops.
-/

namespace FileCrashes

variable {ν β : Type} [DecidableEq ν]

/-! ### Operations -/

/-- The files of a directory: the content under each name. -/
abbrev Directory (ν β : Type) := ν → Option (List β)

/-- The operations on files. -/
inductive FileOp (ν β : Type)
  | write (name : ν) (content : List β)
  | copy (source target : ν)
  | remove (name : ν)

/-- The directory after an operation; `none` where the operation throws. -/
def FileOp.run (d : Directory ν β) : FileOp ν β → Option (Directory ν β)
  | .write name content => some (Function.update d name (some content))
  | .copy source target => (d source).map fun content => Function.update d target (some content)
  | .remove name => some (Function.update d name none)

/-- The directory where an operation stops after `n` elements; a removal is whole or has not
begun. -/
def FileOp.runPart (n : Nat) (d : Directory ν β) : FileOp ν β → Option (Directory ν β)
  | .write name content => some (Function.update d name (some (content.take n)))
  | .copy source target =>
      (d source).map fun content => Function.update d target (some (content.take n))
  | .remove _ => some d

/-- The directory after operations. -/
def runOps (d : Directory ν β) (ops : List (FileOp ν β)) : Option (Directory ν β) :=
  ops.foldlM FileOp.run d

/-- Where operations stop: after the first `done` of them, and inside the next one if it has
written something. -/
structure StopPoint where
  done : Nat
  written : Option Nat := none
  deriving DecidableEq, Repr

/-- The directory where operations stop. -/
def stopIn (ops : List (FileOp ν β)) (p : StopPoint) (d : Directory ν β) :
    Option (Directory ν β) :=
  (runOps d (ops.take p.done)).bind fun d' =>
    match p.written, ops[p.done]? with
    | some n, some op => op.runPart n d'
    | _, _ => some d'

/-- Operations that stop stop in the first one or in the others. -/
theorem stopIn_cons (op : FileOp ν β) (ops : List (FileOp ν β)) (done : Nat)
    (written : Option Nat) (d : Directory ν β) :
    stopIn (op :: ops) ⟨done + 1, written⟩ d =
      (op.run d).bind (stopIn ops ⟨done, written⟩) := by
  have hrun : runOps d (op :: ops.take done) = (op.run d).bind fun d' =>
    runOps d' (ops.take done) :=
    List.foldlM_cons
  rw [stopIn, List.take_succ_cons, hrun, Option.bind_assoc]
  rfl

/-- The name that an operation changes. -/
def FileOp.target : FileOp ν β → ν
  | .write name _ => name
  | .copy _ target => target
  | .remove name => name

/-- An operation, also one that stops, leaves the other names as they are. -/
theorem run_other {op : FileOp ν β} {d d' : Directory ν β} {name : ν} (hname : op.target ≠ name)
    (h : op.run d = some d' ∨ ∃ n, op.runPart n d = some d') : d' name = d name := by
  have hne : name ≠ op.target := hname.symm
  cases op with
  | write target content =>
      rcases h with h | ⟨n, h⟩
      · obtain rfl := Option.some.inj h
        exact Function.update_of_ne hne _ _
      · obtain rfl := Option.some.inj h
        exact Function.update_of_ne hne _ _
  | copy source target =>
      rcases h with h | ⟨n, h⟩
      · obtain ⟨content, -, rfl⟩ := Option.map_eq_some_iff.mp h
        exact Function.update_of_ne hne _ _
      · obtain ⟨content, -, rfl⟩ := Option.map_eq_some_iff.mp h
        exact Function.update_of_ne hne _ _
  | remove target =>
      rcases h with h | ⟨n, h⟩
      · obtain rfl := Option.some.inj h
        exact Function.update_of_ne hne _ _
      · obtain rfl := Option.some.inj h
        rfl

theorem runOps_other {ops : List (FileOp ν β)} {d d' : Directory ν β} {name : ν}
    (hname : ∀ op ∈ ops, op.target ≠ name) (h : runOps d ops = some d') : d' name = d name := by
  induction ops generalizing d with
  | nil =>
      obtain rfl := Option.some.inj h
      rfl
  | cons op ops ih =>
      obtain ⟨hop, hops⟩ := List.forall_mem_cons.mp hname
      rw [runOps, List.foldlM_cons] at h
      obtain ⟨d₁, hfirst, hrest⟩ := Option.bind_eq_some_iff.mp h
      rw [ih hops hrest, run_other hop (.inl hfirst)]

/-- **Operations that stop leave the other names as they are.** -/
theorem stopIn_other {ops : List (FileOp ν β)} {p : StopPoint} {d d' : Directory ν β} {name : ν}
    (hname : ∀ op ∈ ops, op.target ≠ name) (h : stopIn ops p d = some d') : d' name = d name := by
  obtain ⟨d₁, hrun, hstop⟩ := Option.bind_eq_some_iff.mp h
  have hfirst := runOps_other (fun op hop => hname op (List.mem_of_mem_take hop)) hrun
  rw [← hfirst]
  split at hstop
  case h_1 n op hwritten hop =>
    exact run_other (hname op (List.mem_of_getElem? hop)) (.inr ⟨n, hstop⟩)
  case h_2 =>
    obtain rfl := Option.some.inj hstop
    rfl

/-! ### The replacement of a file -/

/-- The replacement of a file by way of another one. -/
def replaceFile (scratch name : ν) (content : List β) : List (FileOp ν β) :=
  [.write scratch content, .remove name, .copy scratch name, .remove scratch]

/-- The file is **lost** at a stop of its replacement: it has been removed and not yet been
written again to its end. -/
def StopPoint.Losing (content : List β) (p : StopPoint) : Prop :=
  p.done = 2 ∧ ∀ n ∈ p.written, n < content.length

instance (content : List β) (p : StopPoint) : Decidable (p.Losing content) :=
  inferInstanceAs (Decidable (p.done = 2 ∧ ∀ n ∈ p.written, n < content.length))

variable {scratch name : ν} {d : Directory ν β}

/-- The other file is there to be copied. -/
theorem run_copy_scratch (hname : scratch ≠ name) (content : List β) :
    (FileOp.copy scratch name).run (Function.update (Function.update d scratch (some content)) name
      none) = some (Function.update (Function.update d scratch (some content)) name
        (some content)) := by
  rw [FileOp.run, Function.update_of_ne hname, Function.update_self, Option.map_some,
    Function.update_idem]

/-- The directory after a replacement. -/
theorem runOps_replaceFile (hname : scratch ≠ name) (content : List β) :
    runOps d (replaceFile scratch name content) =
      some (Function.update (Function.update d name (some content)) scratch none) := by
  have hupdates : Function.update (Function.update (Function.update d scratch (some content)) name
      (some content)) scratch none =
      Function.update (Function.update d name (some content)) scratch none := by
    rw [Function.update_comm hname, Function.update_idem, Function.update_comm hname.symm]
  calc runOps d (replaceFile scratch name content)
    _ = ((FileOp.copy scratch name).run (Function.update (Function.update d scratch (some content))
          name none)).bind fun d' => some (Function.update d' scratch none) := rfl
    _ = some (Function.update (Function.update d name (some content)) scratch none) := by
        rw [run_copy_scratch hname, Option.bind_some, hupdates]

/-- The directory where a replacement stops while the file is written again. -/
theorem stopIn_copy (hname : scratch ≠ name) (content : List β) (n : Nat) :
    stopIn (replaceFile scratch name content) ⟨2, some n⟩ d =
      some (Function.update (Function.update (Function.update d scratch (some content)) name none)
        name (some (content.take n))) := by
  change ((Function.update (Function.update d scratch (some content)) name none scratch).map
    fun copied => Function.update (Function.update (Function.update d scratch (some content)) name
      none) name (some (copied.take n))) = _
  rw [Function.update_of_ne hname, Function.update_self, Option.map_some]

/-- The directory where a replacement stops after the file has been written again. -/
theorem stopIn_replaced (hname : scratch ≠ name) (content : List β) {done : Nat}
    (written : Option Nat) (hdone : 2 < done) :
    ∃ d', stopIn (replaceFile scratch name content) ⟨done, written⟩ d = some d' ∧
      d' name = some content := by
  have hcopied := run_copy_scratch (d := d) hname content
  have hkept : Function.update (Function.update d scratch (some content)) name (some content)
      name = some content := Function.update_self _ _ _
  by_cases hlast : done = 3
  · have hrun : runOps d ((replaceFile scratch name content).take 3) =
        some (Function.update (Function.update d scratch (some content)) name (some content)) := by
      change ((FileOp.copy scratch name).run _).bind some = _
      rw [hcopied, Option.bind_some]
    refine ⟨_, ?_, hkept⟩
    rw [hlast, stopIn, hrun, Option.bind_some]
    cases written with
    | none => rfl
    | some n => rfl
  · have hlength : (replaceFile scratch name content).length ≤ done := by
      change 4 ≤ done
      omega
    refine ⟨Function.update (Function.update d name (some content)) scratch none, ?_, ?_⟩
    · rw [stopIn, List.take_of_length_le hlength, runOps_replaceFile hname, Option.bind_some,
        List.getElem?_eq_none hlength]
      cases written with
      | none => rfl
      | some n => rfl
    · rw [Function.update_of_ne hname.symm, Function.update_self]

/-- **What the file holds where its replacement stops**: its content before, as long as it has
not been removed, then what has been written of the new one. -/
theorem stopIn_replaceFile (hname : scratch ≠ name) (content : List β) (p : StopPoint) :
    ∃ d', stopIn (replaceFile scratch name content) p d = some d' ∧
      d' name =
        if p.done < 2 then d name
        else if p.done = 2 then p.written.map content.take
        else some content := by
  have hother : ∀ x : Option (List β), Function.update d scratch x name = d name := fun x =>
    Function.update_of_ne hname.symm x d
  match p with
  | ⟨0, none⟩ => exact ⟨d, rfl, rfl⟩
  | ⟨0, some n⟩ => exact ⟨_, rfl, hother _⟩
  | ⟨1, none⟩ => exact ⟨_, rfl, hother _⟩
  | ⟨1, some n⟩ => exact ⟨_, rfl, hother _⟩
  | ⟨2, none⟩ => exact ⟨_, rfl, Function.update_self name none (Function.update d scratch _)⟩
  | ⟨2, some n⟩ => exact ⟨_, stopIn_copy hname content n, Function.update_self name _ _⟩
  | ⟨done + 3, written⟩ =>
      have hdone : 2 < done + 3 := by omega
      have hearly : ¬ done + 3 < 2 := by omega
      have hcopying : ¬ done + 3 = 2 := by omega
      obtain ⟨d', hstop, hcontent⟩ := stopIn_replaced (d := d) hname content written hdone
      exact ⟨d', hstop, by rw [if_neg hearly, if_neg hcopying, hcontent]⟩

end FileCrashes
