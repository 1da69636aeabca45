import Cdngine.XetSnapshots

/-!
# Interrupted Snapshots

The snapshot command as a machine that does one thing at a time: it looks at the file of a chunk,
creates a file, writes some bytes of it, or finishes it. A run may stop anywhere, and the next run
starts from the files that are there.

The command writes a chunk under its final name, so a run that stops while it writes a chunk
leaves a file that later runs take for the chunk.

## Main results

* `exists_run_snapshot`: a run that is not stopped is the snapshot command.
* `xetStep_iff`: what one step does.
* `interrupted_runs_sound`: while no run stops in the middle of a chunk, every completed run is
  restored, and every chunk that was counted as reused is complete.
* `interrupted_chunk_reused`: a run that stops in the middle of a chunk damages a later one.
-/

open ContentStore Runs

namespace Cdngine

/-! ### The machine -/

/-- Where a run is: between two files, or in the middle of one. -/
inductive SnapshotPhase
  | loop
  | writingChunk (chunk : List UInt8) (written : Nat)
  | writingManifest (written : Nat)
  deriving DecidableEq, Repr

/-- A run that is under way. -/
structure SnapshotProcess where
  input : XetSnapshotInput
  pending : List (List UInt8)
  progress : SnapshotProgress
  phase : SnapshotPhase
  deriving DecidableEq, Repr

/-- A run that has ended: what it read and what it printed. -/
structure CompletedSnapshot where
  input : XetSnapshotInput
  output : XetSnapshotEvidenceCommandPayload
  deriving DecidableEq, Repr

/-- The repository, the run that is under way and the runs that have ended. -/
structure XetSystem where
  repository : XetRepository
  process : Option SnapshotProcess
  completed : List CompletedSnapshot

/-- No run has started yet. -/
def XetSystem.initial : XetSystem := ⟨.empty, none, []⟩

/-- What can happen: a run starts, goes on to the next file, writes some bytes, or stops. -/
inductive XetAction
  | start (input : XetSnapshotInput)
  | advance
  | write (count : Nat)
  | stop
  deriving DecidableEq, Repr

/-- A run between two files. -/
def SnapshotProcess.started (input : XetSnapshotInput) : SnapshotProcess where
  input
  pending := chunkBuffer input.source
  progress := {}
  phase := .loop

/-- The name of the manifest of a run. -/
def SnapshotProcess.manifestName (rt : XetRuntime) (process : SnapshotProcess) : String :=
  manifestFile (snapshotFileId rt process.input.request process.input.source process.progress)

/-- The text of the manifest of a run. -/
def SnapshotProcess.manifest (rt : XetRuntime) (process : SnapshotProcess) : List UInt8 :=
  manifestBytes rt process.input.request process.input.source process.progress

/-- What a run prints at its end. -/
def SnapshotProcess.output (rt : XetRuntime) (process : SnapshotProcess) :
    XetSnapshotEvidenceCommandPayload :=
  snapshotOutput rt process.input.request process.input.source process.progress

/-- The system with another content of a chunk file. -/
def XetSystem.writeChunk (sys : XetSystem) (name : String) (content : List UInt8) :
    XetRepository :=
  { sys.repository with chunks := sys.repository.chunks.write name content }

/-- The system with another content of a manifest file. -/
def XetSystem.writeManifest (sys : XetSystem) (name : String) (content : List UInt8) :
    XetRepository :=
  { sys.repository with manifests := sys.repository.manifests.write name content }

/-- A run goes on: it looks at the file of the next chunk and creates it if there is none, ends
the file that it has written, creates the manifest, or ends. -/
def XetSystem.advance (rt : XetRuntime) (sys : XetSystem) (process : SnapshotProcess) :
    Option XetSystem :=
  match process.phase, process.pending with
  | .loop, chunk :: pending =>
      match sys.repository.chunks.read (chunkAddress rt chunk) with
      | some _ =>
          some { sys with
            process := some { process with
              pending
              progress := process.progress.reuse (rt.sha256Hex chunk) } }
      | none =>
          some { sys with
            repository := sys.writeChunk (chunkAddress rt chunk) []
            process := some { process with
              pending
              phase := .writingChunk chunk 0 } }
  | .loop, [] =>
      some { sys with
        repository := sys.writeManifest (process.manifestName rt) []
        process := some { process with phase := .writingManifest 0 } }
  | .writingChunk chunk written, _ =>
      if written = chunk.length then
        some { sys with
          process := some { process with
            progress := process.progress.upload (rt.sha256Hex chunk) chunk.length
            phase := .loop } }
      else none
  | .writingManifest written, _ =>
      if written = (process.manifest rt).length then
        some { sys with
          process := none
          completed := sys.completed ++ [⟨process.input, process.output rt⟩] }
      else none

/-- A run writes the next bytes of the file it has created. -/
def XetSystem.write (rt : XetRuntime) (sys : XetSystem) (process : SnapshotProcess) (count : Nat) :
    Option XetSystem :=
  match process.phase with
  | .loop => none
  | .writingChunk chunk written =>
      if written + count ≤ chunk.length then
        some { sys with
          repository := sys.writeChunk (chunkAddress rt chunk) (chunk.take (written + count))
          process := some { process with phase := .writingChunk chunk (written + count) } }
      else none
  | .writingManifest written =>
      if written + count ≤ (process.manifest rt).length then
        some { sys with
          repository := sys.writeManifest (process.manifestName rt)
            ((process.manifest rt).take (written + count))
          process := some { process with phase := .writingManifest (written + count) } }
      else none

/-- One step. One run is under way at a time. -/
def XetSystem.next (rt : XetRuntime) (sys : XetSystem) (action : XetAction) : Option XetSystem :=
  match action, sys.process with
  | .start input, none => some { sys with process := some (.started input) }
  | .advance, some process => sys.advance rt process
  | .write count, some process => sys.write rt process count
  | .stop, some _ => some { sys with process := none }
  | _, _ => none

/-- The steps of the machine. -/
def XetStep (rt : XetRuntime) (sys : XetSystem) (action : XetAction) (sys' : XetSystem) : Prop :=
  sys.next rt action = some sys'

/-! ### What a step does -/

/-- What a step can do, case by case. -/
inductive SnapshotStep (rt : XetRuntime) : XetSystem → XetAction → XetSystem → Prop
  | start {repository : XetRepository} {completed : List CompletedSnapshot}
      (input : XetSnapshotInput) :
      SnapshotStep rt ⟨repository, none, completed⟩ (.start input)
        ⟨repository, some (.started input), completed⟩
  | reuse {repository : XetRepository} {completed : List CompletedSnapshot}
      {input : XetSnapshotInput} {chunk found : List UInt8} {pending : List (List UInt8)}
      {progress : SnapshotProgress} :
      repository.chunks.read (chunkAddress rt chunk) = some found →
      SnapshotStep rt ⟨repository, some ⟨input, chunk :: pending, progress, .loop⟩, completed⟩
        .advance
        ⟨repository, some ⟨input, pending, progress.reuse (rt.sha256Hex chunk), .loop⟩, completed⟩
  | createChunk {chunks manifests : Directory String UInt8} {completed : List CompletedSnapshot}
      {input : XetSnapshotInput} {chunk : List UInt8} {pending : List (List UInt8)}
      {progress : SnapshotProgress} :
      chunks.read (chunkAddress rt chunk) = none →
      SnapshotStep rt
        ⟨⟨chunks, manifests⟩, some ⟨input, chunk :: pending, progress, .loop⟩, completed⟩ .advance
        ⟨⟨chunks.write (chunkAddress rt chunk) [], manifests⟩,
          some ⟨input, pending, progress, .writingChunk chunk 0⟩, completed⟩
  | writeChunk {chunks manifests : Directory String UInt8} {completed : List CompletedSnapshot}
      {input : XetSnapshotInput} {chunk : List UInt8} {pending : List (List UInt8)}
      {progress : SnapshotProgress} {written count : Nat} :
      written + count ≤ chunk.length →
      SnapshotStep rt
        ⟨⟨chunks, manifests⟩, some ⟨input, pending, progress, .writingChunk chunk written⟩,
          completed⟩ (.write count)
        ⟨⟨chunks.write (chunkAddress rt chunk) (chunk.take (written + count)), manifests⟩,
          some ⟨input, pending, progress, .writingChunk chunk (written + count)⟩, completed⟩
  | finishChunk {repository : XetRepository} {completed : List CompletedSnapshot}
      {input : XetSnapshotInput} {chunk : List UInt8} {pending : List (List UInt8)}
      {progress : SnapshotProgress} :
      SnapshotStep rt
        ⟨repository, some ⟨input, pending, progress, .writingChunk chunk chunk.length⟩, completed⟩
        .advance
        ⟨repository,
          some ⟨input, pending, progress.upload (rt.sha256Hex chunk) chunk.length, .loop⟩,
          completed⟩
  | createManifest {chunks manifests : Directory String UInt8}
      {completed : List CompletedSnapshot} {input : XetSnapshotInput}
      {progress : SnapshotProgress} :
      SnapshotStep rt ⟨⟨chunks, manifests⟩, some ⟨input, [], progress, .loop⟩, completed⟩ .advance
        ⟨⟨chunks,
          manifests.write (SnapshotProcess.manifestName rt ⟨input, [], progress, .loop⟩) []⟩,
          some ⟨input, [], progress, .writingManifest 0⟩, completed⟩
  | writeManifest {chunks manifests : Directory String UInt8}
      {completed : List CompletedSnapshot} {process : SnapshotProcess} {written count : Nat} :
      process.phase = .writingManifest written →
      written + count ≤ (process.manifest rt).length →
      SnapshotStep rt ⟨⟨chunks, manifests⟩, some process, completed⟩ (.write count)
        ⟨⟨chunks, manifests.write (process.manifestName rt)
            ((process.manifest rt).take (written + count))⟩,
          some { process with phase := .writingManifest (written + count) }, completed⟩
  | finish {repository : XetRepository} {completed : List CompletedSnapshot}
      {process : SnapshotProcess} :
      process.phase = .writingManifest (process.manifest rt).length →
      SnapshotStep rt ⟨repository, some process, completed⟩ .advance
        ⟨repository, none, completed ++ [⟨process.input, process.output rt⟩]⟩
  | stop {repository : XetRepository} {completed : List CompletedSnapshot}
      {process : SnapshotProcess} :
      SnapshotStep rt ⟨repository, some process, completed⟩ .stop ⟨repository, none, completed⟩

/-- **The cases are all that a step can do**, and each of them can happen. -/
theorem xetStep_iff {rt : XetRuntime} {sys sys' : XetSystem} {action : XetAction} :
    XetStep rt sys action sys' ↔ SnapshotStep rt sys action sys' := by
  constructor
  · intro h
    obtain ⟨⟨chunks, manifests⟩, process, completed⟩ := sys
    cases process with
    | none =>
        cases action with
        | start input => cases h; exact .start input
        | advance => cases h
        | write count => cases h
        | stop => cases h
    | some process =>
        obtain ⟨input, pending, progress, phase⟩ := process
        cases action with
        | start input => cases h
        | stop => cases h; exact .stop
        | write count =>
            cases phase with
            | loop => cases h
            | writingChunk chunk written =>
                simp only [XetStep, XetSystem.next, XetSystem.write, Option.ite_none_right_eq_some,
                  Option.some.injEq] at h
                obtain ⟨hle, rfl⟩ := h
                exact .writeChunk hle
            | writingManifest written =>
                simp only [XetStep, XetSystem.next, XetSystem.write, Option.ite_none_right_eq_some,
                  Option.some.injEq] at h
                obtain ⟨hle, rfl⟩ := h
                exact .writeManifest rfl hle
        | advance =>
            cases phase with
            | loop =>
                cases pending with
                | nil => cases h; exact .createManifest
                | cons chunk pending =>
                    simp only [XetStep, XetSystem.next, XetSystem.advance] at h
                    cases hread : chunks.read (chunkAddress rt chunk) with
                    | some found =>
                        rw [hread] at h
                        cases h
                        exact .reuse hread
                    | none =>
                        rw [hread] at h
                        cases h
                        exact .createChunk hread
            | writingChunk chunk written =>
                simp only [XetStep, XetSystem.next, XetSystem.advance,
                  Option.ite_none_right_eq_some, Option.some.injEq] at h
                obtain ⟨rfl, rfl⟩ := h
                exact .finishChunk
            | writingManifest written =>
                simp only [XetStep, XetSystem.next, XetSystem.advance,
                  Option.ite_none_right_eq_some, Option.some.injEq] at h
                obtain ⟨hwritten, rfl⟩ := h
                exact .finish (congrArg SnapshotPhase.writingManifest hwritten)
  · intro h
    cases h with
    | start input => rfl
    | reuse hread => simp only [XetStep, XetSystem.next, XetSystem.advance, hread]
    | createChunk hread =>
        simp only [XetStep, XetSystem.next, XetSystem.advance, hread, XetSystem.writeChunk]
    | writeChunk hle =>
        simp only [XetStep, XetSystem.next, XetSystem.write, if_pos hle, XetSystem.writeChunk]
    | finishChunk => simp only [XetStep, XetSystem.next, XetSystem.advance, if_true]
    | createManifest => rfl
    | writeManifest hphase hle =>
        simp only [XetStep, XetSystem.next, XetSystem.write, hphase, if_pos hle,
          XetSystem.writeManifest]
    | finish hphase => simp only [XetStep, XetSystem.next, XetSystem.advance, hphase, if_true]
    | stop => rfl

/-! ### A run that is not stopped -/

section Uninterrupted

variable {rt : XetRuntime} {completed : List CompletedSnapshot}

/-- The machine does a chunk as the loop does. -/
theorem exists_run_chunk (input : XetSnapshotInput) (pending : List (List UInt8))
    (state : SnapshotProgress × Directory String UInt8) (manifests : Directory String UInt8)
    (chunk : List UInt8) :
    ∃ tr, Run (SnapshotStep rt)
      ⟨⟨state.2, manifests⟩, some ⟨input, chunk :: pending, state.1, .loop⟩, completed⟩ tr
      ⟨⟨(snapshotChunk rt state chunk).2, manifests⟩,
        some ⟨input, pending, (snapshotChunk rt state chunk).1, .loop⟩, completed⟩ := by
  rw [snapshotChunk, ← chunkAddress]
  cases hread : state.2.read (chunkAddress rt chunk) with
  | some found => exact ⟨_, Run.cons (.reuse hread) (Run.nil _)⟩
  | none =>
      have hwritten : (state.2.write (chunkAddress rt chunk) []).write (chunkAddress rt chunk)
          (chunk.take (0 + chunk.length)) = state.2.write (chunkAddress rt chunk) chunk := by
        rw [Directory.write_write, Nat.zero_add, List.take_length]
      have hwrite := @SnapshotStep.writeChunk rt (state.2.write (chunkAddress rt chunk) [])
        manifests completed input chunk pending state.1 0 chunk.length (Nat.zero_add _).le
      rw [hwritten, Nat.zero_add] at hwrite
      exact ⟨_, Run.cons (.createChunk hread) (Run.cons hwrite (Run.cons .finishChunk (Run.nil _)))⟩

/-- The machine does all pending chunks as the loop does. -/
theorem exists_run_loop (input : XetSnapshotInput) (pending : List (List UInt8))
    (state : SnapshotProgress × Directory String UInt8) (manifests : Directory String UInt8) :
    ∃ tr, Run (SnapshotStep rt)
      ⟨⟨state.2, manifests⟩, some ⟨input, pending, state.1, .loop⟩, completed⟩ tr
      ⟨⟨(pending.foldl (snapshotChunk rt) state).2, manifests⟩,
        some ⟨input, [], (pending.foldl (snapshotChunk rt) state).1, .loop⟩, completed⟩ := by
  induction pending generalizing state with
  | nil => exact ⟨[], Run.nil _⟩
  | cons chunk pending ih =>
      obtain ⟨tr, hchunk⟩ := exists_run_chunk input pending state manifests chunk
      obtain ⟨tr', hrest⟩ := ih (snapshotChunk rt state chunk)
      exact ⟨tr ++ tr', hchunk.append hrest⟩

/-- The machine ends a run as the command does: it persists the manifest and prints. -/
theorem exists_run_manifest (input : XetSnapshotInput)
    (state : SnapshotProgress × Directory String UInt8) (manifests : Directory String UInt8) :
    ∃ tr, Run (SnapshotStep rt) ⟨⟨state.2, manifests⟩, some ⟨input, [], state.1, .loop⟩, completed⟩
      tr
      ⟨⟨state.2, manifests.write
          (manifestFile (snapshotFileId rt input.request input.source state.1))
          (manifestBytes rt input.request input.source state.1)⟩, none,
        completed ++ [⟨input, snapshotOutput rt input.request input.source state.1⟩]⟩ := by
  let process : SnapshotProcess := ⟨input, [], state.1, .writingManifest 0⟩
  have hwritten : (manifests.write (process.manifestName rt) []).write (process.manifestName rt)
      ((process.manifest rt).take (0 + (process.manifest rt).length)) =
        manifests.write (process.manifestName rt) (process.manifest rt) := by
    rw [Directory.write_write, Nat.zero_add, List.take_length]
  have hwrite := @SnapshotStep.writeManifest rt state.2
    (manifests.write (process.manifestName rt) []) completed process 0
    (process.manifest rt).length rfl (Nat.zero_add _).le
  rw [hwritten, Nat.zero_add] at hwrite
  exact ⟨_, Run.cons .createManifest (Run.cons hwrite (Run.cons (.finish rfl) (Run.nil _)))⟩

/-- **A run that is not stopped is the snapshot command**: it leaves the same repository and
prints the same evidence. -/
theorem exists_run_snapshot (rt : XetRuntime) (repository : XetRepository)
    (completed : List CompletedSnapshot) (input : XetSnapshotInput) :
    ∃ tr, Run (XetStep rt) ⟨repository, none, completed⟩ tr
      ⟨repository.snapshot rt input, none,
        completed ++ [⟨input, (snapshotCommand rt input repository).1⟩]⟩ := by
  obtain ⟨chunks, manifests⟩ := repository
  obtain ⟨tr, hloop⟩ := @exists_run_loop rt completed input (chunkBuffer input.source) ({}, chunks)
    manifests
  obtain ⟨tr', hend⟩ := @exists_run_manifest rt completed input
    (snapshotLoop rt input.source chunks) manifests
  exact ⟨_, (Run.cons (.start input) (hloop.append hend)).mono xetStep_iff.mpr⟩

end Uninterrupted

/-! ### What the files hold -/

/-- The chunk file that is being written. -/
def XetSystem.opened (rt : XetRuntime) (sys : XetSystem) : Option String :=
  sys.process.bind fun process =>
    match process.phase with
    | .writingChunk chunk _ => some (chunkAddress rt chunk)
    | .loop | .writingManifest _ => none

/-- While a manifest is written, no chunk file is. -/
theorem opened_of_writingManifest {rt : XetRuntime} {sys : XetSystem} {process : SnapshotProcess}
    {written : Nat} (hprocess : sys.process = some process)
    (hphase : process.phase = .writingManifest written) : sys.opened rt = none := by
  rw [XetSystem.opened, hprocess, Option.bind_some, hphase]

/-- A chunk file is being written and is not complete yet. -/
def XetSystem.chunkIncomplete (sys : XetSystem) : Bool :=
  sys.process.any fun process =>
    match process.phase with
    | .writingChunk chunk written => decide (written < chunk.length)
    | .loop | .writingManifest _ => false

/-- A chunk is **stored**: its file holds it and is not being written. -/
def XetSystem.Stored (rt : XetRuntime) (sys : XetSystem) (chunk : List UInt8) : Prop :=
  sys.repository.chunks.read (chunkAddress rt chunk) = some chunk ∧
    sys.opened rt ≠ some (chunkAddress rt chunk)

section Steps

variable {rt : XetRuntime} {contents : Set (List UInt8)} {sys sys' : XetSystem}
  {action : XetAction}

/-- A stored chunk stays stored, whatever happens. -/
theorem SnapshotStep.stored (h : SnapshotStep rt sys action sys') {chunk : List UInt8}
    (hstored : sys.Stored rt chunk) : sys'.Stored rt chunk := by
  obtain ⟨hread, hopened⟩ := hstored
  cases h with
  | start input => exact ⟨hread, hopened⟩
  | reuse _ => exact ⟨hread, hopened⟩
  | createChunk hnew =>
      rename_i chunks _ _ _ chunk' _ _
      have hne : chunkAddress rt chunk' ≠ chunkAddress rt chunk := by
        intro heq
        rw [heq] at hnew
        cases hnew.symm.trans hread
      exact ⟨(chunks.read_write_of_ne [] hne).trans hread, fun heq => hne (Option.some.inj heq)⟩
  | writeChunk _ =>
      rename_i chunks _ _ _ chunk' _ _ _ _ _
      have hne : chunkAddress rt chunk' ≠ chunkAddress rt chunk := fun heq =>
        hopened (congrArg some heq)
      exact ⟨(chunks.read_write_of_ne _ hne).trans hread, hopened⟩
  | finishChunk => exact ⟨hread, fun heq => by cases heq⟩
  | createManifest => exact ⟨hread, hopened⟩
  | writeManifest hphase _ => exact ⟨hread, fun heq => by cases heq⟩
  | finish _ => exact ⟨hread, fun heq => by cases heq⟩
  | stop => exact ⟨hread, fun heq => by cases heq⟩

/-- The chunks that a run has not finished. -/
def SnapshotProcess.remaining (process : SnapshotProcess) : List (List UInt8) :=
  match process.phase with
  | .writingChunk chunk _ => chunk :: process.pending
  | .loop | .writingManifest _ => process.pending

/-- What is known of the file that a run is writing. -/
def SnapshotProcess.FileHolds (rt : XetRuntime) (chunks : Directory String UInt8)
    (process : SnapshotProcess) : Prop :=
  match process.phase with
  | .loop => True
  | .writingChunk chunk written =>
      chunks.read (chunkAddress rt chunk) = some (chunk.take written) ∧ written ≤ chunk.length
  | .writingManifest _ => process.pending = []

/-- A run that is under way: the chunks that are done are recorded and stored. -/
structure SnapshotProcess.Inv (rt : XetRuntime) (contents : Set (List UInt8)) (sys : XetSystem)
    (done : List (List UInt8)) (process : SnapshotProcess) : Prop where
  chunks : done ++ process.remaining = chunkBuffer process.input.source
  contents : ∀ chunk ∈ chunkBuffer process.input.source, chunk ∈ contents
  tracks : process.progress.Tracks rt done
  stored : ∀ chunk ∈ done, sys.Stored rt chunk
  file : process.FileHolds rt sys.repository.chunks

/-- A run that has ended: all of its chunks are recorded and stored. -/
structure CompletedSnapshot.Inv (rt : XetRuntime) (sys : XetSystem) (run : CompletedSnapshot) :
    Prop where
  terms : run.output.terms = termsOf rt 0 (chunkBuffer run.input.source)
  reused : ∀ hash ∈ run.output.deduplicatedXorbHashes.getD [],
    ∃ chunk ∈ chunkBuffer run.input.source, hash = rt.sha256Hex chunk
  stored : ∀ chunk ∈ chunkBuffer run.input.source, sys.Stored rt chunk

/-- **The invariant**: every chunk file but the one that is being written holds the chunk that it
is named after, and all chunks that were recorded are stored. -/
structure XetSystem.Inv (rt : XetRuntime) (contents : Set (List UInt8)) (sys : XetSystem) :
    Prop where
  addressed : Addressed (chunkAddress rt) contents (sys.opened rt) sys.repository.chunks
  process : ∀ process, sys.process = some process →
    ∃ done, process.Inv rt contents sys done
  completed : ∀ run ∈ sys.completed, run.Inv rt sys

theorem XetSystem.inv_initial (rt : XetRuntime) (contents : Set (List UInt8)) :
    XetSystem.initial.Inv rt contents where
  addressed := addressed_empty _ _
  process := fun _ h => by cases h
  completed := fun _ h => by cases h

/-- A step keeps the chunk files addressed, if it does not stop in the middle of a chunk. -/
theorem SnapshotStep.addressed (h : SnapshotStep rt sys action sys') (hinv : sys.Inv rt contents)
    (hstop : action = .stop → sys.chunkIncomplete = false) :
    Addressed (chunkAddress rt) contents (sys'.opened rt) sys'.repository.chunks := by
  have haddressed := hinv.addressed
  have hprocess := hinv.process
  cases h with
  | start input => exact haddressed
  | reuse _ => exact haddressed
  | createChunk _ => exact haddressed.write (.inl rfl) []
  | writeChunk _ => exact haddressed.write (.inr rfl) _
  | finishChunk =>
      obtain ⟨done, hrun⟩ := hprocess _ rfl
      have hmem : _ ∈ contents := hrun.contents _ (by
        rw [← hrun.chunks]
        exact List.mem_append_right _ List.mem_cons_self)
      have hread := hrun.file.1
      rw [List.take_length] at hread
      exact haddressed.close hmem hread
  | createManifest => exact haddressed
  | writeManifest hphase _ =>
      rw [opened_of_writingManifest rfl hphase] at haddressed
      exact haddressed
  | finish hphase =>
      rw [opened_of_writingManifest rfl hphase] at haddressed
      exact haddressed
  | stop =>
      rename_i process
      obtain ⟨input, pending, progress, phase⟩ := process
      cases phase with
      | loop => exact haddressed
      | writingManifest written => exact haddressed
      | writingChunk chunk written =>
          -- The file is complete: nothing of the chunk is left to write.
          obtain ⟨done, hrun⟩ := hprocess _ rfl
          obtain ⟨hread, hle⟩ := hrun.file
          have hnot : ¬ written < chunk.length := of_decide_eq_false (hstop rfl)
          have hmem : chunk ∈ contents := hrun.contents _ (by
            rw [← hrun.chunks]
            exact List.mem_append_right _ List.mem_cons_self)
          rw [List.take_of_length_le (by omega)] at hread
          exact haddressed.close hmem hread

/-- What is known of a run is kept while it records nothing and its file holds what it should. -/
theorem SnapshotProcess.Inv.keep {process process' : SnapshotProcess} {done : List (List UInt8)}
    (h : process.Inv rt contents sys done)
    (hstored : ∀ chunk, sys.Stored rt chunk → sys'.Stored rt chunk)
    (hinput : process'.input = process.input) (hprogress : process'.progress = process.progress)
    (hremaining : process'.remaining = process.remaining)
    (hfile : process'.FileHolds rt sys'.repository.chunks) :
    process'.Inv rt contents sys' done where
  chunks := by rw [hremaining, hinput, h.chunks]
  contents := hinput ▸ h.contents
  tracks := hprogress ▸ h.tracks
  stored := fun chunk hchunk => hstored chunk (h.stored chunk hchunk)
  file := hfile

/-- A step keeps what is known of the run that is under way. -/
theorem SnapshotStep.process (h : SnapshotStep rt sys action sys') (hinv : sys.Inv rt contents)
    (haddress : Set.InjOn (chunkAddress rt) contents)
    (hstart : ∀ input, action = .start input →
      ∀ chunk ∈ chunkBuffer input.source, chunk ∈ contents) :
    ∀ process, sys'.process = some process → ∃ done, process.Inv rt contents sys' done := by
  have hstored : ∀ chunk, sys.Stored rt chunk → sys'.Stored rt chunk := fun chunk => h.stored
  have haddressed := hinv.addressed
  have hprocess := hinv.process
  intro process' hprocess'
  cases h with
  | start input =>
      obtain rfl := Option.some.inj hprocess'
      exact ⟨[],
        { chunks := rfl
          contents := hstart input rfl
          tracks := SnapshotProgress.tracks_nil rt
          stored := fun _ h => by cases h
          file := trivial }⟩
  | reuse hread =>
      rename_i chunk found pending progress
      obtain ⟨done, hrun⟩ := hprocess _ rfl
      obtain rfl := Option.some.inj hprocess'
      have hmem : chunk ∈ contents := hrun.contents _ (by
        rw [← hrun.chunks]
        exact List.mem_append_right _ List.mem_cons_self)
      have hfound : found = chunk :=
        haddressed.eq_of_read haddress hmem hread fun heq => by cases heq
      refine ⟨done ++ [chunk],
        { chunks := ?_
          contents := hrun.contents
          tracks := hrun.tracks.reuse chunk
          stored := fun c hc => ?_
          file := trivial }⟩
      · rw [List.append_assoc]
        exact hrun.chunks
      · rcases List.mem_append.mp hc with hc | hc
        · exact hstored c (hrun.stored c hc)
        · rw [List.mem_singleton.mp hc]
          exact ⟨hread.trans (congrArg some hfound), fun heq => by cases heq⟩
  | createChunk hnew =>
      obtain ⟨done, hrun⟩ := hprocess _ rfl
      obtain rfl := Option.some.inj hprocess'
      exact ⟨done, hrun.keep hstored rfl rfl rfl ⟨Directory.read_write_self _ _ _, Nat.zero_le _⟩⟩
  | writeChunk hle =>
      obtain ⟨done, hrun⟩ := hprocess _ rfl
      obtain rfl := Option.some.inj hprocess'
      exact ⟨done, hrun.keep hstored rfl rfl rfl ⟨Directory.read_write_self _ _ _, hle⟩⟩
  | finishChunk =>
      rename_i chunk pending progress
      obtain ⟨done, hrun⟩ := hprocess _ rfl
      obtain rfl := Option.some.inj hprocess'
      have hread := hrun.file.1
      rw [List.take_length] at hread
      refine ⟨done ++ [chunk],
        { chunks := ?_
          contents := hrun.contents
          tracks := hrun.tracks.upload chunk chunk.length
          stored := fun c hc => ?_
          file := trivial }⟩
      · rw [List.append_assoc]
        exact hrun.chunks
      · rcases List.mem_append.mp hc with hc | hc
        · exact hstored c (hrun.stored c hc)
        · rw [List.mem_singleton.mp hc]
          exact ⟨hread, fun heq => by cases heq⟩
  | createManifest =>
      obtain ⟨done, hrun⟩ := hprocess _ rfl
      obtain rfl := Option.some.inj hprocess'
      exact ⟨done, hrun.keep hstored rfl rfl rfl rfl⟩
  | writeManifest hphase _ =>
      rename_i process written count _
      obtain ⟨done, hrun⟩ := hprocess _ rfl
      obtain rfl := Option.some.inj hprocess'
      have hpending : process.remaining = process.pending := by
        rw [SnapshotProcess.remaining, hphase]
      have hfile := hrun.file
      rw [SnapshotProcess.FileHolds, hphase] at hfile
      exact ⟨done, hrun.keep hstored rfl rfl hpending.symm hfile⟩
  | finish _ => cases hprocess'
  | stop => cases hprocess'

/-- A run that ends has all of its chunks recorded and stored. -/
theorem SnapshotStep.completed (h : SnapshotStep rt sys action sys') (hinv : sys.Inv rt contents) :
    ∀ run ∈ sys'.completed, run.Inv rt sys' := by
  have hkeep : ∀ run ∈ sys.completed, run.Inv rt sys' := fun run hrun =>
    { hinv.completed run hrun with
      stored := fun chunk hchunk => h.stored ((hinv.completed run hrun).stored chunk hchunk) }
  have hstored : ∀ chunk, sys.Stored rt chunk → sys'.Stored rt chunk := fun chunk => h.stored
  have hprocess := hinv.process
  cases h with
  | finish hphase =>
      rename_i process
      intro run hrun
      rcases List.mem_append.mp hrun with hrun | hrun
      · exact hkeep run hrun
      · obtain rfl := List.mem_singleton.mp hrun
        obtain ⟨done, hdone⟩ := hprocess _ rfl
        have hpending : process.remaining = process.pending := by
          rw [SnapshotProcess.remaining, hphase]
        have hfile := hdone.file
        rw [SnapshotProcess.FileHolds, hphase] at hfile
        have hchunks := hdone.chunks
        rw [hpending, hfile, List.append_nil] at hchunks
        exact
          { terms := by rw [← hchunks]; exact hdone.tracks.terms
            reused := by rw [← hchunks]; exact hdone.tracks.reused
            stored := by
              rw [← hchunks]
              exact fun chunk hchunk => hstored chunk (hdone.stored chunk hchunk) }
  | start _ => exact hkeep
  | reuse _ => exact hkeep
  | createChunk _ => exact hkeep
  | writeChunk _ => exact hkeep
  | finishChunk => exact hkeep
  | createManifest => exact hkeep
  | writeManifest _ _ => exact hkeep
  | stop => exact hkeep

/-- **Every step keeps the invariant**, if it does not stop in the middle of a chunk. -/
theorem SnapshotStep.inv (h : SnapshotStep rt sys action sys') (hinv : sys.Inv rt contents)
    (haddress : Set.InjOn (chunkAddress rt) contents)
    (hstart : ∀ input, action = .start input → ∀ chunk ∈ chunkBuffer input.source, chunk ∈ contents)
    (hstop : action = .stop → sys.chunkIncomplete = false) : sys'.Inv rt contents where
  addressed := h.addressed hinv hstop
  process := h.process hinv haddress hstart
  completed := h.completed hinv

end Steps

/-! ### Runs -/

/-- The chunks of the files of the runs that were started. -/
def startedChunks (tr : List (Transition XetSystem XetAction)) : Set (List UInt8) :=
  {chunk | ∃ τ ∈ tr, ∃ input, τ.action = .start input ∧ chunk ∈ chunkBuffer input.source}

/-- The hashes that were counted as reused, by the run that is under way and by those that have
ended. -/
def XetSystem.reusedHashes (sys : XetSystem) : List String :=
  (sys.process.map (·.progress.reusedChunkHashes)).getD [] ++
    sys.completed.flatMap fun run => run.output.deduplicatedXorbHashes.getD []

/-- What is asked of a state: the restore command, given what a completed run reported, writes the
bytes that the run read; and the file of every hash that was counted as reused has that hash. -/
structure XetSystem.Sound (rt : XetRuntime) (sys : XetSystem) : Prop where
  restorable : ∀ run ∈ sys.completed, ∀ destinationPath fileId,
    restoreCommand rt sys.repository ⟨destinationPath, some run.output, fileId⟩ =
      .ok ⟨destinationPath, run.input.source⟩
  reused : ∀ hash ∈ sys.reusedHashes, ∃ chunk,
    sys.repository.chunks.read (chunkFile hash) = some chunk ∧ rt.sha256Hex chunk = hash

theorem XetSystem.Inv.sound {rt : XetRuntime} {contents : Set (List UInt8)} {sys : XetSystem}
    (h : sys.Inv rt contents) : sys.Sound rt where
  restorable := fun run hrun destinationPath fileId =>
    restoreCommand_eq_ok (h.completed run hrun).terms
      (fun chunk hchunk => ((h.completed run hrun).stored chunk hchunk).1) destinationPath fileId
  reused := by
    intro hash hhash
    rcases List.mem_append.mp hhash with hhash | hhash
    · cases hprocess : sys.process with
      | none =>
          rw [hprocess] at hhash
          cases hhash
      | some process =>
          rw [hprocess] at hhash
          obtain ⟨done, hrun⟩ := h.process process hprocess
          obtain ⟨chunk, hchunk, rfl⟩ := hrun.tracks.reused hash hhash
          exact ⟨chunk, (hrun.stored chunk hchunk).1, rfl⟩
    · obtain ⟨run, hrun, hhash⟩ := List.mem_flatMap.mp hhash
      obtain ⟨chunk, hchunk, rfl⟩ := (h.completed run hrun).reused hash hhash
      exact ⟨chunk, ((h.completed run hrun).stored chunk hchunk).1, rfl⟩

/-- **Interrupted runs are harmless while none stops in the middle of a chunk**: in every state
of the history, the completed runs are restored and the reused chunks are complete. A run may
stop between two files, at the end of a chunk, or anywhere in a manifest. -/
theorem interrupted_runs_sound {rt : XetRuntime} {sys : XetSystem}
    {tr : List (Transition XetSystem XetAction)} (hrun : Run (XetStep rt) .initial tr sys)
    (hcollision : Set.InjOn rt.sha256Hex (startedChunks tr))
    (hstops : ∀ τ ∈ tr, τ.action = .stop → τ.before.chunkIncomplete = false) :
    ∀ τ ∈ tr, τ.after.Sound rt := by
  have hstep : ∀ {s : XetSystem} {a : XetAction} {s' : XetSystem},
      s.Inv rt (startedChunks tr) → XetStep rt s a s' →
      (∀ input, a = .start input → ∀ chunk ∈ chunkBuffer input.source, chunk ∈ startedChunks tr) ∧
        (a = .stop → s.chunkIncomplete = false) → s'.Inv rt (startedChunks tr) :=
    fun hinv hs hallowed =>
      (xetStep_iff.mp hs).inv hinv (chunkAddress_injOn hcollision) hallowed.1 hallowed.2
  have hinv := (hrun.forall_invariant_where (C := fun τ =>
    (∀ input, τ.action = .start input →
      ∀ chunk ∈ chunkBuffer input.source, chunk ∈ startedChunks tr) ∧
      (τ.action = .stop → τ.before.chunkIncomplete = false)) hstep (XetSystem.inv_initial _ _)
    fun τ hτ => ⟨fun input hinput chunk hchunk => ⟨τ, hτ, input, hinput, hchunk⟩, hstops τ hτ⟩).2
  exact fun τ hτ => (hinv τ hτ).2.sound

/-! ### Runs on a small file -/

/-- A run on the sample file starts. -/
def sampleFileStart : XetAction := .start (sampleSnapshot [1, 2, 3])

/-- The only chunk of the sample file has no second one to collide with. -/
theorem sampleFileStart_injOn {actions : List XetAction}
    {tr : List (Transition XetSystem XetAction)} (htr : tr.map (·.action) = actions)
    (hstart : ∀ input, .start input ∈ actions → input = sampleSnapshot [1, 2, 3]) :
    Set.InjOn sampleXetRuntime.sha256Hex (startedChunks tr) := by
  have hchunk : ∀ chunk ∈ startedChunks tr, chunk = [1, 2, 3] := by
    rintro chunk ⟨τ, hτ, input, haction, hchunk⟩
    have hmem : XetAction.start input ∈ actions := by
      rw [← htr, ← haction]
      exact List.mem_map_of_mem hτ
    have hbuffer : chunkBuffer [1, 2, 3] = [[1, 2, 3]] := by decide
    rw [hstart input hmem, sampleSnapshot, hbuffer] at hchunk
    exact List.mem_singleton.mp hchunk
  intro a ha b hb _
  rw [hchunk a ha, hchunk b hb]

/-- A completed run of a state is not restored. -/
def XetSystem.damaged (sys : XetSystem) : Bool :=
  sys.completed.any fun run =>
    decide (restoreCommand sampleXetRuntime sys.repository ⟨"/tmp/b.bin", some run.output, none⟩ ≠
      .ok ⟨"/tmp/b.bin", run.input.source⟩)

/-- A run stops in the middle of its manifest, the next one between two files, and the third
ends. -/
def harmlessActions : List XetAction :=
  [sampleFileStart, .advance, .write 3, .advance, .advance, .write 10, .stop, sampleFileStart,
    .advance, .stop, sampleFileStart, .advance, .advance, .write 430, .advance]

/-- These interruptions are harmless. -/
theorem harmless_interruptions :
    ∃ tr sys, Run (XetStep sampleXetRuntime) .initial tr sys ∧
      tr.map (·.action) = harmlessActions ∧ sys.completed.length = 1 ∧
      ∀ τ ∈ tr, τ.after.Sound sampleXetRuntime := by
  obtain ⟨tr, sys, hrun, hactions, hcompleted, hstops⟩ :=
    exists_run_of_exec (XetSystem.next sampleXetRuntime) .initial harmlessActions
      (fun tr sys => tr.map (·.action) = harmlessActions ∧ sys.completed.length = 1 ∧
        ∀ τ ∈ tr, τ.action = .stop → τ.before.chunkIncomplete = false) (by decide +kernel)
  have hstart : ∀ input, .start input ∈ harmlessActions → input = sampleSnapshot [1, 2, 3] := by
    intro input hinput
    simpa [harmlessActions, sampleFileStart] using hinput
  exact ⟨tr, sys, hrun, hactions, hcompleted,
    interrupted_runs_sound hrun (sampleFileStart_injOn hactions hstart) hstops⟩

/-- A run stops in the middle of its chunk, and the next one ends. -/
def harmfulActions : List XetAction :=
  [sampleFileStart, .advance, .write 1, .stop, sampleFileStart, .advance, .advance, .write 430,
    .advance]

/-- **A run that stops in the middle of a chunk damages a later one**: the file with the first
byte of the chunk is taken for the chunk, the run on the same file ends, and the restore command
does not write that file from what it reported. -/
theorem interrupted_chunk_reused :
    ∃ tr sys, Run (XetStep sampleXetRuntime) .initial tr sys ∧
      tr.map (·.action) = harmfulActions ∧
      Set.InjOn sampleXetRuntime.sha256Hex (startedChunks tr) ∧
      ¬ ∀ τ ∈ tr, τ.after.Sound sampleXetRuntime := by
  obtain ⟨tr, sys, hrun, hactions, hdamaged⟩ :=
    exists_run_of_exec (XetSystem.next sampleXetRuntime) .initial harmfulActions
      (fun tr _ => tr.map (·.action) = harmfulActions ∧ tr.any (·.after.damaged) = true)
      (by decide +kernel)
  have hstart : ∀ input, .start input ∈ harmfulActions → input = sampleSnapshot [1, 2, 3] := by
    intro input hinput
    simpa [harmfulActions, sampleFileStart] using hinput
  refine ⟨tr, sys, hrun, hactions, sampleFileStart_injOn hactions hstart, fun hsound => ?_⟩
  obtain ⟨τ, hτ, hτdamaged⟩ := List.any_eq_true.mp hdamaged
  obtain ⟨run, hmem, hne⟩ := List.any_eq_true.mp hτdamaged
  exact of_decide_eq_true hne ((hsound τ hτ).restorable run hmem _ _)

end Cdngine
