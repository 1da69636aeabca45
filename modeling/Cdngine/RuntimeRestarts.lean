import Cdngine.RuntimeStateFiles
import Cdngine.Runs

/-!
# Restarts of the Local Runtime

A store of the local runtime over any number of processes, one after another. A process creates
the store from its file, changes its maps, saves them, and stops: between two saves, or at any point
of the file operations of one.

`RuntimeSpec` says what such a store is for, without files: what the last save has left
(`FileView`), and the maps of the process that runs. A stop inside a save leaves the maps that were
there or the new ones, except between the removal of the file and the end of its second write.
Before the second write has created the file nothing is left, and the next process starts with a
store without entries; from then on, also before the first byte, a beginning of the file is left,
and no process starts any more.

## Main results

* `restart_cut`: a file that was cut is no JSON, wherever it was cut.
* `LocalRuntime.simulates`: one step of the store does what its specification says.
* `restart_after_run`: after every run a restart finds what the specification says.
* `never_restarts`: once a beginning of the file is left, no process ever starts.
-/

namespace Cdngine

open FileCrashes InsertionMaps Readers Runs

variable {ι : Type}

/-! ### The store and its file -/

/-- What a process does with a store, and where it stops. -/
inductive RuntimeEvent (ι : Type)
  | start
  | change (maps : RuntimeMaps ι)
  | save
  | stop
  | stopInSave (p : StopPoint)

/-- The files, and the maps of the process that runs. -/
structure LocalRuntime (ι : Type) where
  directory : Directory String UInt8
  memory : Option (RuntimeMaps ι)

/-- One event of a store. A process that cannot load the file is not started, a save that throws
before it writes changes nothing, and no event but a start happens where no process runs. -/
def LocalRuntime.step (f : StateFile ι) (rt : Runtime) (s : LocalRuntime ι) :
    RuntimeEvent ι → Option (LocalRuntime ι)
  | .start =>
      match s.memory, f.restart rt (s.directory f.path) with
      | none, .ok maps => some { s with memory := some maps }
      | none, .error _ => some s
      | some _, _ => none
  | .change maps => s.memory.map fun _ => { s with memory := some maps }
  | .save =>
      s.memory.bind fun maps =>
        match f.save rt maps with
        | some ops => (runOps s.directory ops).map fun d => { s with directory := d }
        | none => some s
  | .stop => s.memory.map fun _ => { s with memory := none }
  | .stopInSave p =>
      s.memory.bind fun maps =>
        (f.save rt maps).bind fun ops =>
          (stopIn ops p s.directory).map fun d => ⟨d, none⟩

/-! ### What a store is for -/

/-- What is left of a store when no process runs: nothing, its maps, or a beginning of its file. -/
inductive FileView (ι : Type)
  | missing
  | whole (maps : RuntimeMaps ι)
  | cut

/-- A restart where something is left. -/
def FileView.restart : FileView ι → Except LoadError (RuntimeMaps ι)
  | .missing => .ok StateFile.initial
  | .whole maps => .ok maps.kept
  | .cut => .error .invalidJson

/-- The bytes of a store whose values are encoded. -/
def StateFile.bytes (f : StateFile ι) (rt : Runtime) (maps : RuntimeMaps ι) : List UInt8 :=
  writeText (stringifyIndented rt 0 (f.value maps).saved)

/-- What is left after a stop inside a save of some maps. -/
def FileView.afterStop (f : StateFile ι) (rt : Runtime) (maps : RuntimeMaps ι) (p : StopPoint)
    (view : FileView ι) : FileView ι :=
  if p.done < 2 then view
  else if p.Losing (f.bytes rt maps) then
    if p.written.isSome then .cut else .missing
  else .whole maps

/-- What is left of a store, and the maps of the process that runs. -/
structure RuntimeSpec (ι : Type) where
  view : FileView ι
  memory : Option (RuntimeMaps ι)

/-- A store that has never been saved. -/
def RuntimeSpec.initial : RuntimeSpec ι := ⟨.missing, none⟩

/-- What an event does to a store. -/
def RuntimeSpec.next (f : StateFile ι) (rt : Runtime) (t : RuntimeSpec ι) :
    RuntimeEvent ι → RuntimeSpec ι
  | .start => { t with memory := t.view.restart.toOption }
  | .change maps => { t with memory := some maps }
  | .save => { t with view := t.memory.elim t.view .whole }
  | .stop => { t with memory := none }
  | .stopInSave p =>
      ⟨t.memory.elim t.view fun maps => t.view.afterStop f rt maps p, none⟩

/-! ### Cut files -/

variable {f : StateFile ι} {rt : Runtime} {maps : RuntimeMaps ι}

/-- The text of a store is between braces. -/
theorem text_begins_ends (f : StateFile ι) (rt : Runtime) (maps : RuntimeMaps ι) :
    ∃ body, (stringifyIndented rt 0 (f.value maps).saved).toList =
      '\x7b' :: (body ++ ['\x7d']) := by
  have hpresent : (StoredValue.number (.finite runtimeStateSchemaVersion)).isPresent = true := rfl
  have hends : ∀ x y z : List Char, ∃ body,
      '\x7b' :: (x ++ (y ++ (z ++ ['\x7d']))) = '\x7b' :: (body ++ ['\x7d']) := fun x y z =>
    ⟨x ++ (y ++ z), by simp only [List.append_assoc]⟩
  rw [StateFile.value, StoredValue.saved, stringifyIndented, savedEntries_eq_map,
    presentEntries_cons, if_pos hpresent, List.map_cons, indentedEntries_eq_map, List.map_cons,
    bracketLines_toList (a := '\x7b') (b := '\x7d') (by decide) (by decide) 0
      (List.cons_ne_nil _ _)]
  exact hends _ _ _

/-- A store is written as at least one byte. -/
theorem bytes_pos (f : StateFile ι) (rt : Runtime) (maps : RuntimeMaps ι) :
    0 < (f.bytes rt maps).length := by
  obtain ⟨body, htext⟩ := text_begins_ends f rt maps
  rw [StateFile.bytes, writeText, htext, List.map_cons, List.flatMap_cons, List.length_append]
  exact Nat.add_pos_left (Utf8.length_encodeScalar_pos _) _

/-- **A file that was cut is no JSON**, wherever it was cut. -/
theorem parseJson_cut_file (h : maps.Legible rt) {n : Nat}
    (hn : n < (f.bytes rt maps).length) :
    parseJson (readText ((f.bytes rt maps).take n)) = none := by
  obtain ⟨body, htext⟩ := text_begins_ends f rt maps
  have hscalars : ∀ cp ∈ (stringifyIndented rt 0 (f.value maps).saved).toList.map Char.toNat,
      Utf8.IsScalar cp := List.forall_mem_map.mpr fun c _ => isScalar_of_char c
  obtain ⟨k, later, hread, hlater, hlength⟩ := Utf8.decodeScalars_take hscalars n
  have hk := hlength hn
  have hbytes : readText ((f.bytes rt maps).take n) =
      (stringifyIndented rt 0 (f.value maps).saved).toList.take k ++ later.map Char.ofNat := by
    rw [readText, StateFile.bytes, writeText, hread, List.map_append, ← List.map_take,
      List.map_map]
    exact congrArg (· ++ _) (map_eq_self_iff.mpr fun c _ => Char.ofNat_toNat c)
  have hlater' : ∀ c ∈ (later.map Char.ofNat).getLast?, isJsonSpace c = false ∧ c ≠ '\x7d' := by
    intro c hc
    cases hlater with
    | inl hnil =>
        rw [hnil] at hc
        cases hc
    | inr hreplacement =>
        rw [hreplacement] at hc
        obtain rfl := Option.some.inj hc
        decide
  rw [List.length_map, htext, List.length_cons, List.length_append, List.length_singleton] at hk
  rw [hbytes, htext]
  cases k with
  | zero =>
      rw [List.take_zero, List.nil_append]
      cases hlater with
      | inl hnil => rw [hnil]; rfl
      | inr hreplacement => rw [hreplacement]; rfl
  | succ k =>
      have htake : (body ++ ['\x7d']).take k = body.take k :=
        List.take_append_of_le_length (by omega)
      rw [List.take_succ_cons, List.cons_append, htake]
      have hwhole : parseJson ('\x7b' :: (body.take k ++ body.drop k ++ ['\x7d'])) =
          some (f.value maps).saved.toJs := by
        rw [List.take_append_drop, ← htext]
        exact StateFile.parseJson_value h
      exact parseJson_cut hwhole hlater'

/-! ### The specification is met -/

/-- What the file of a store holds where something is left of it. -/
def FileView.Holds (f : StateFile ι) (rt : Runtime) (file : Option (List UInt8)) :
    FileView ι → Prop
  | .missing => file = none
  | .whole maps => maps.Storable rt ∧ file = some (f.bytes rt maps)
  | .cut => ∃ (maps : RuntimeMaps ι) (n : Nat), maps.Storable rt ∧
      n < (f.bytes rt maps).length ∧ file = some ((f.bytes rt maps).take n)

/-- A store does what its specification says so far. -/
structure LocalRuntime.Meets (f : StateFile ι) (rt : Runtime) (s : LocalRuntime ι)
    (t : RuntimeSpec ι) : Prop where
  memory : s.memory = t.memory
  storable : ∀ maps ∈ t.memory, maps.Storable rt
  view : t.view.Holds f rt (s.directory f.path)

theorem RuntimeMaps.Storable.kept (h : maps.Storable rt) : maps.kept.Storable rt :=
  fun i => List.forall_mem_map.mpr fun e he => (h i e he).kept

theorem storable_initial : (StateFile.initial : RuntimeMaps ι).Storable rt :=
  fun _ _ he => absurd he List.not_mem_nil

theorem path_ne (f : StateFile ι) : f.path ++ ".tmp" ≠ f.path := by
  intro h
  have hlength := congrArg String.length h
  rw [String.length_append] at hlength
  have htmp : ".tmp".length = 4 := by decide
  omega

/-- What is written of a store of storable values. -/
theorem save_of_storable (h : maps.Storable rt) :
    f.save rt maps = some (replaceFile (f.path ++ ".tmp") f.path (f.bytes rt maps)) := by
  rw [StateFile.save, StateFile.content_of_storable h, Option.map_some]
  rfl

/-- A file that was cut is not loaded. -/
theorem restart_cut (h : maps.Legible rt) {n : Nat} (hn : n < (f.bytes rt maps).length) :
    f.restart rt (some ((f.bytes rt maps).take n)) = .error .invalidJson := by
  rw [StateFile.restart, readJsonFile, parseJson_cut_file h hn]
  rfl

/-- **A restart where something is left.** -/
theorem restart_of_holds {view : FileView ι} {file : Option (List UInt8)}
    (h : view.Holds f rt file) : f.restart rt file = view.restart := by
  cases view with
  | missing =>
      obtain rfl : file = none := h
      rfl
  | whole maps =>
      obtain ⟨hmaps, rfl⟩ := h
      exact StateFile.restart_of_storable hmaps (StateFile.content_of_storable hmaps)
  | cut =>
      obtain ⟨maps, n, hmaps, hn, rfl⟩ := h
      exact restart_cut hmaps.legible hn

/-- The maps of a store that has been restarted are storable. -/
theorem storable_of_restart {view : FileView ι} {file : Option (List UInt8)}
    (h : view.Holds f rt file) (hrestart : view.restart = .ok maps) : maps.Storable rt := by
  cases view with
  | missing =>
      obtain rfl := Except.ok.inj hrestart
      exact storable_initial
  | whole maps' =>
      obtain rfl := Except.ok.inj hrestart
      exact h.1.kept
  | cut => cases hrestart

/-- **What is left after a stop inside a save.** -/
theorem holds_afterStop {view : FileView ι} {d : Directory String UInt8}
    (h : view.Holds f rt (d f.path)) (hmaps : maps.Storable rt) (p : StopPoint) :
    ∃ d', stopIn (replaceFile (f.path ++ ".tmp") f.path (f.bytes rt maps)) p d = some d' ∧
      (view.afterStop f rt maps p).Holds f rt (d' f.path) := by
  obtain ⟨d', hstop, hfile⟩ := stopIn_replaceFile (d := d) (path_ne f) (f.bytes rt maps) p
  refine ⟨d', hstop, ?_⟩
  rw [hfile, FileView.afterStop]
  by_cases hearly : p.done < 2
  · rw [if_pos hearly, if_pos hearly]
    exact h
  · rw [if_neg hearly, if_neg hearly]
    by_cases hlosing : p.Losing (f.bytes rt maps)
    · rw [if_pos hlosing.1, if_pos hlosing]
      cases hwritten : p.written with
      | none => exact rfl
      | some n => exact ⟨maps, n, hmaps, hlosing.2 n hwritten, rfl⟩
    · rw [if_neg hlosing]
      by_cases hcopying : p.done = 2
      · obtain ⟨n, hwritten, hn⟩ : ∃ n ∈ p.written, (f.bytes rt maps).length ≤ n := by
          by_contra hnone
          exact hlosing ⟨hcopying, fun n hn => Nat.lt_of_not_le fun hle => hnone ⟨n, hn, hle⟩⟩
        rw [if_pos hcopying, Option.mem_def.mp hwritten, Option.map_some,
          List.take_of_length_le hn]
        exact ⟨hmaps, rfl⟩
      · rw [if_neg hcopying]
        exact ⟨hmaps, rfl⟩

/-- A process gives a store only storable values. -/
def RuntimeEvent.Storable (rt : Runtime) : RuntimeEvent ι → Prop
  | .change maps => maps.Storable rt
  | _ => True

/-- **One step of a store does what its specification says.** -/
theorem LocalRuntime.simulates {s s' : LocalRuntime ι} {t : RuntimeSpec ι} {a : RuntimeEvent ι}
    (h : s.Meets f rt t) (hstep : s.step f rt a = some s')
    (hchange : a.Storable rt) : s'.Meets f rt (t.next f rt a) := by
  cases a with
  | start =>
      rw [LocalRuntime.step, restart_of_holds h.view] at hstep
      cases hmemory : s.memory with
      | some maps =>
          rw [hmemory] at hstep
          cases hstep
      | none =>
          cases hrestart : t.view.restart with
          | ok maps =>
              rw [hmemory, hrestart] at hstep
              obtain rfl := Option.some.inj hstep
              refine ⟨?_, fun maps' hmaps' => ?_, h.view⟩
              · rw [RuntimeSpec.next, hrestart]
                rfl
              · rw [RuntimeSpec.next, hrestart] at hmaps'
                obtain rfl := Option.some.inj hmaps'
                exact storable_of_restart h.view hrestart
          | error e =>
              rw [hmemory, hrestart] at hstep
              obtain rfl := Option.some.inj hstep
              refine ⟨?_, fun maps' hmaps' => ?_, h.view⟩
              · rw [RuntimeSpec.next, hrestart, hmemory]
                rfl
              · rw [RuntimeSpec.next, hrestart] at hmaps'
                cases hmaps'
  | change maps =>
      obtain ⟨maps', -, rfl⟩ := Option.map_eq_some_iff.mp hstep
      refine ⟨rfl, fun maps'' hmaps'' => ?_, h.view⟩
      obtain rfl := Option.some.inj hmaps''
      exact hchange
  | save =>
      obtain ⟨maps, hmaps, hsave⟩ := Option.bind_eq_some_iff.mp hstep
      have hmemory : t.memory = some maps := h.memory ▸ hmaps
      have hstorable := h.storable maps hmemory
      rw [save_of_storable hstorable] at hsave
      obtain ⟨d, hrun, rfl⟩ := Option.map_eq_some_iff.mp hsave
      rw [runOps_replaceFile (path_ne f)] at hrun
      obtain rfl := Option.some.inj hrun
      refine ⟨h.memory, h.storable, ?_⟩
      rw [RuntimeSpec.next, hmemory]
      have hfile : Function.update (Function.update s.directory f.path (some (f.bytes rt maps)))
          (f.path ++ ".tmp") none f.path = some (f.bytes rt maps) := by
        rw [Function.update_of_ne (path_ne f).symm, Function.update_self]
      exact ⟨hstorable, hfile⟩
  | stop =>
      obtain ⟨maps, -, rfl⟩ := Option.map_eq_some_iff.mp hstep
      exact ⟨rfl, fun maps' hmaps' => (by cases hmaps'), h.view⟩
  | stopInSave p =>
      obtain ⟨maps, hmaps, hsave⟩ := Option.bind_eq_some_iff.mp hstep
      have hmemory : t.memory = some maps := h.memory ▸ hmaps
      have hstorable := h.storable maps hmemory
      rw [save_of_storable hstorable, Option.bind_some] at hsave
      obtain ⟨d, hstop, rfl⟩ := Option.map_eq_some_iff.mp hsave
      obtain ⟨d', hstop', hholds⟩ := holds_afterStop h.view hstorable p
      obtain rfl := Option.some.inj (hstop'.symm.trans hstop)
      refine ⟨rfl, fun maps' hmaps' => (by cases hmaps'), ?_⟩
      rw [RuntimeSpec.next, hmemory]
      exact hholds

/-! ### Runs -/

/-- The steps of a store. -/
abbrev LocalRuntime.Steps (f : StateFile ι) (rt : Runtime) (s : LocalRuntime ι)
    (a : RuntimeEvent ι) (s' : LocalRuntime ι) : Prop := s.step f rt a = some s'

/-- A store does what its specification says, over any number of processes. -/
theorem meets_of_run {s s' : LocalRuntime ι} {tr : List (Transition (LocalRuntime ι) _)}
    (hfile : s.directory f.path = none) (hstopped : s.memory = none)
    (hrun : Run (LocalRuntime.Steps f rt) s tr s')
    (hchange : ∀ x ∈ tr, x.action.Storable rt) :
    s'.Meets f rt ((tr.map Transition.action).foldl (RuntimeSpec.next f rt) .initial) := by
  have hinitial : s.Meets f rt .initial := ⟨hstopped, fun maps hmaps => (by cases hmaps), hfile⟩
  have hsteps : ∀ {s : LocalRuntime ι} {t : RuntimeSpec ι} {a : RuntimeEvent ι}
      {s' : LocalRuntime ι}, s.Meets f rt t → LocalRuntime.Steps f rt s a s' →
        a.Storable rt → s'.Meets f rt (t.next f rt a) :=
    fun {_ _ _ _} h hstep ha => LocalRuntime.simulates h hstep ha
  exact hrun.simulates_where (C := fun x : Transition (LocalRuntime ι) (RuntimeEvent ι) =>
    x.action.Storable rt) hsteps hinitial hchange

/-- **After every run, over any number of processes, a restart finds what the specification says**:
the maps of the last save or of the one that was stopped, nothing, or a file that is no JSON. -/
theorem restart_after_run {s s' : LocalRuntime ι} {tr : List (Transition (LocalRuntime ι) _)}
    (hfile : s.directory f.path = none) (hstopped : s.memory = none)
    (hrun : Run (LocalRuntime.Steps f rt) s tr s')
    (hchange : ∀ x ∈ tr, x.action.Storable rt) :
    f.restart rt (s'.directory f.path) =
      ((tr.map Transition.action).foldl (RuntimeSpec.next f rt) .initial).view.restart :=
  restart_of_holds (meets_of_run hfile hstopped hrun hchange).view

/-- The runtime with an empty state directory. -/
def emptyLocalRuntime : LocalRuntime UploadSessionMap := ⟨fun _ => none, none⟩

/-- A session is saved in the first process, which then stops; a second process finds it. -/
theorem sample_restart_after_run :
    ∃ tr s, Run (LocalRuntime.Steps uploadSessionStateFile sampleRuntime) emptyLocalRuntime tr s ∧
      tr.map Transition.action = [.start, .change sampleUploadSessionMaps, .save, .stop] ∧
      uploadSessionStateFile.restart sampleRuntime (s.directory uploadSessionStateFile.path) =
        .ok sampleUploadSessionMaps.kept := by
  have hstorable := storable_sampleUploadSessionMaps
  have hstart : emptyLocalRuntime.step uploadSessionStateFile sampleRuntime .start =
      some ⟨fun _ => none, some StateFile.initial⟩ := rfl
  have hchange : LocalRuntime.step uploadSessionStateFile sampleRuntime
      ⟨fun _ => none, some StateFile.initial⟩ (.change sampleUploadSessionMaps) =
        some ⟨fun _ => none, some sampleUploadSessionMaps⟩ := rfl
  obtain ⟨d, hsave⟩ : ∃ d, LocalRuntime.step uploadSessionStateFile sampleRuntime
      ⟨fun _ => none, some sampleUploadSessionMaps⟩ .save =
        some ⟨d, some sampleUploadSessionMaps⟩ := by
    rw [LocalRuntime.step, Option.bind_some, save_of_storable hstorable]
    exact ⟨_, congrArg (Option.map _) (runOps_replaceFile (path_ne uploadSessionStateFile) _)⟩
  have hstop : LocalRuntime.step uploadSessionStateFile sampleRuntime
      ⟨d, some sampleUploadSessionMaps⟩ .stop = some ⟨d, none⟩ := rfl
  have hrun : Run (LocalRuntime.Steps uploadSessionStateFile sampleRuntime) emptyLocalRuntime _
      ⟨d, none⟩ := .cons hstart (.cons hchange (.cons hsave (.cons hstop (.nil _))))
  refine ⟨_, _, hrun, rfl, restart_after_run rfl rfl hrun fun x hx => ?_⟩
  simp only [List.mem_cons, List.not_mem_nil, or_false] at hx
  rcases hx with rfl | rfl | rfl | rfl
  · trivial
  · exact hstorable
  · trivial
  · trivial

/-! ### A file that was cut stays so -/

/-- No process runs, the file cannot be loaded, and the other file holds some bytes. -/
structure LocalRuntime.Stuck (f : StateFile ι) (rt : Runtime) (file scratch : List UInt8)
    (s : LocalRuntime ι) : Prop where
  memory : s.memory = none
  file : s.directory f.path = some file
  scratch : s.directory (f.path ++ ".tmp") = some scratch

/-- Nothing but a start that fails happens where no process can start. -/
theorem LocalRuntime.Stuck.step {file scratch : List UInt8} {s s' : LocalRuntime ι}
    {a : RuntimeEvent ι} {e : LoadError} (h : s.Stuck f rt file scratch)
    (hfails : f.restart rt (some file) = .error e) (hstep : s.step f rt a = some s') :
    s'.Stuck f rt file scratch := by
  cases a with
  | start =>
      rw [LocalRuntime.step, h.memory, h.file, hfails] at hstep
      obtain rfl := Option.some.inj hstep
      exact h
  | change maps =>
      rw [LocalRuntime.step, h.memory] at hstep
      cases hstep
  | save =>
      rw [LocalRuntime.step, h.memory] at hstep
      cases hstep
  | stop =>
      rw [LocalRuntime.step, h.memory] at hstep
      cases hstep
  | stopInSave p =>
      rw [LocalRuntime.step, h.memory] at hstep
      cases hstep

/-- **Once a save has been stopped inside its second write, no process ever starts**: the file
stays cut, while the other file holds the whole of what was to be saved. -/
theorem never_restarts {s s' s'' : LocalRuntime ι} {p : StopPoint} {n : Nat}
    {tr : List (Transition (LocalRuntime ι) _)} (hmemory : s.memory = some maps)
    (hmaps : maps.Storable rt) (hwritten : p.written = some n)
    (hlosing : p.Losing (f.bytes rt maps)) (hstop : s.step f rt (.stopInSave p) = some s')
    (hrun : Run (LocalRuntime.Steps f rt) s' tr s'') :
    s''.Stuck f rt ((f.bytes rt maps).take n) (f.bytes rt maps) := by
  have hfails := restart_cut hmaps.legible (hlosing.2 n hwritten)
  have hp : p = ⟨2, some n⟩ := by
    obtain ⟨done, written⟩ := p
    obtain rfl : done = 2 := hlosing.1
    obtain rfl : written = some n := hwritten
    rfl
  have hstuck : s'.Stuck f rt ((f.bytes rt maps).take n) (f.bytes rt maps) := by
    obtain ⟨maps', hmaps', hsave⟩ := Option.bind_eq_some_iff.mp hstop
    obtain rfl := Option.some.inj (hmemory.symm.trans hmaps')
    rw [save_of_storable hmaps, Option.bind_some, hp, stopIn_copy (path_ne f)] at hsave
    obtain rfl := Option.some.inj hsave
    refine ⟨rfl, Function.update_self _ _ _, ?_⟩
    exact (Function.update_of_ne (path_ne f) _ _).trans
      ((Function.update_of_ne (path_ne f) _ _).trans (Function.update_self _ _ _))
  exact hrun.invariant (fun h hstep => h.step hfails hstep) hstuck

/-- A process is stopped before the first byte of the second write, and the next one is not
started. -/
theorem sample_never_restarts :
    ∃ s : LocalRuntime UploadSessionMap, LocalRuntime.Stuck uploadSessionStateFile sampleRuntime
      ((uploadSessionStateFile.bytes sampleRuntime sampleUploadSessionMaps).take 0)
      (uploadSessionStateFile.bytes sampleRuntime sampleUploadSessionMaps) s := by
  have hstorable := storable_sampleUploadSessionMaps
  have hlength := bytes_pos uploadSessionStateFile sampleRuntime sampleUploadSessionMaps
  have hlosing : StopPoint.Losing
      (uploadSessionStateFile.bytes sampleRuntime sampleUploadSessionMaps) ⟨2, some 0⟩ :=
    ⟨rfl, fun n hn => Option.some.inj hn ▸ hlength⟩
  have hstop : ∃ s, LocalRuntime.step uploadSessionStateFile sampleRuntime
      ⟨fun _ => none, some sampleUploadSessionMaps⟩ (.stopInSave ⟨2, some 0⟩) = some s := by
    rw [LocalRuntime.step, Option.bind_some, save_of_storable hstorable, Option.bind_some]
    exact ⟨_, congrArg (Option.map _) (stopIn_copy (path_ne uploadSessionStateFile) _ 0)⟩
  obtain ⟨s, hstop⟩ := hstop
  exact ⟨s, never_restarts rfl hstorable rfl hlosing hstop (.nil s)⟩

end Cdngine
