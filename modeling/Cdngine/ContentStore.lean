import Mathlib.Algebra.BigOperators.Group.Finset.Basic
import Mathlib.Algebra.GroupWithZero.Nat
import Mathlib.Data.List.Basic
import Mathlib.Data.Set.Function
import Mathlib.Tactic.Common

/-!
# Content-Addressed Directories

A directory of files, and the discipline of a content-addressed one: a content is written to
the file that its address names, and only if there is no such file yet. A file that is being
written may hold anything; all others hold a content whose address is their name
(`Addressed`). Where no two contents share an address, such a directory gives back every
content that was saved in it.

## Main results

* `Addressed.eq_of_read`: a file that has the address of a content holds that content.
* `Addressed.save`, `Addressed.write`, `Addressed.close`: saving a content keeps the
  discipline, and so does writing one file piece by piece, if all of it is written.
* `Addressed.read_saveAll`: all that was saved is read back.
* `byteSize_write_of_new`: the directory grows by the contents that were not yet in it.
* `weight_saveAll_empty`: what was saved is in the directory once, however often and in whatever
  order it was saved.
-/

namespace ContentStore

/-- A **directory**: its files with their contents, each under a name of its own. -/
structure Directory (ν β : Type*) where
  files : List (ν × List β)
  nodup : (files.map Prod.fst).Nodup

variable {ν β : Type*}

/-- The empty directory. -/
def Directory.empty : Directory ν β := ⟨[], List.nodup_nil⟩

/-- The number of bytes in the files of a list. -/
def sizeOf (files : List (ν × List β)) : Nat := (files.map fun file => file.2.length).sum

/-- The number of bytes in a directory. -/
def Directory.byteSize (d : Directory ν β) : Nat := sizeOf d.files

variable [DecidableEq ν]

/-! ### Reading and writing files -/

/-- The content of a file of a list. -/
def readFile (name : ν) : List (ν × List β) → Option (List β)
  | [] => none
  | file :: files => if file.1 = name then some file.2 else readFile name files

/-- Give a file of a list a content; a new file comes last. -/
def writeFile (name : ν) (content : List β) : List (ν × List β) → List (ν × List β)
  | [] => [(name, content)]
  | file :: files =>
      if file.1 = name then (name, content) :: files else file :: writeFile name content files

/-- The names after a write. -/
theorem names_writeFile (name : ν) (content : List β) (files : List (ν × List β)) :
    (writeFile name content files).map Prod.fst =
      if name ∈ files.map Prod.fst then files.map Prod.fst else files.map Prod.fst ++ [name] := by
  induction files with
  | nil => simp [writeFile]
  | cons file files ih =>
      rw [writeFile]
      by_cases h : file.1 = name
      · simp [h]
      · rw [if_neg h, List.map_cons, ih]
        simp only [List.map_cons, List.mem_cons, Ne.symm h, false_or]
        split <;> rfl

theorem readFile_writeFile (name name' : ν) (content : List β) (files : List (ν × List β)) :
    readFile name' (writeFile name content files) =
      if name = name' then some content else readFile name' files := by
  induction files with
  | nil => simp [writeFile, readFile]
  | cons file files ih =>
      rw [writeFile]
      by_cases h : file.1 = name
      · rw [if_pos h, readFile, readFile, h]
        split <;> rfl
      · rw [if_neg h, readFile, ih, readFile]
        by_cases h' : file.1 = name'
        · rw [if_pos h', if_pos h', if_neg fun heq => h (h'.trans heq.symm)]
        · rw [if_neg h', if_neg h']

/-- Of two writes to one file the second counts. -/
theorem writeFile_writeFile (name : ν) (content content' : List β) (files : List (ν × List β)) :
    writeFile name content' (writeFile name content files) = writeFile name content' files := by
  induction files with
  | nil => simp [writeFile]
  | cons file files ih =>
      rw [writeFile, writeFile]
      by_cases h : file.1 = name
      · rw [if_pos h, if_pos h, writeFile, if_pos rfl]
      · rw [if_neg h, if_neg h, writeFile, if_neg h, ih]

/-- The files of a list, each weighed by its content. -/
def weightOf (weight : List β → Nat) (files : List (ν × List β)) : Nat :=
  (files.map fun file => weight file.2).sum

/-- A new file adds its weight. -/
theorem weightOf_writeFile (weight : List β → Nat) {name : ν} {files : List (ν × List β)}
    (content : List β) (hnew : readFile name files = none) :
    weightOf weight (writeFile name content files) = weightOf weight files + weight content := by
  induction files with
  | nil => simp [writeFile, weightOf]
  | cons file files ih =>
      rw [readFile] at hnew
      by_cases h : file.1 = name
      · rw [if_pos h] at hnew
        cases hnew
      · rw [if_neg h] at hnew
        have hrest := ih hnew
        rw [writeFile, if_neg h]
        simp only [weightOf, List.map_cons, List.sum_cons] at hrest ⊢
        omega

/-- A new file adds its bytes. -/
theorem sizeOf_writeFile {name : ν} {files : List (ν × List β)} (content : List β)
    (hnew : readFile name files = none) :
    sizeOf (writeFile name content files) = sizeOf files + content.length :=
  weightOf_writeFile List.length content hnew

namespace Directory

/-- The content of a file. -/
def read (d : Directory ν β) (name : ν) : Option (List β) := readFile name d.files

/-- Write a file, in place of the one of that name if there is one. -/
def write (d : Directory ν β) (name : ν) (content : List β) : Directory ν β where
  files := writeFile name content d.files
  nodup := by
    rw [names_writeFile]
    split
    · exact d.nodup
    · rename_i hnew
      exact List.nodup_append.mpr ⟨d.nodup, List.pairwise_singleton _ _, fun a ha b hb heq =>
        hnew (List.mem_singleton.mp hb ▸ heq ▸ ha)⟩

@[simp] theorem read_empty (name : ν) : (empty : Directory ν β).read name = none := rfl

theorem read_write (d : Directory ν β) (name name' : ν) (content : List β) :
    (d.write name content).read name' = if name = name' then some content else d.read name' :=
  readFile_writeFile name name' content d.files

@[simp] theorem read_write_self (d : Directory ν β) (name : ν) (content : List β) :
    (d.write name content).read name = some content := by
  rw [read_write, if_pos rfl]

/-- A write leaves the other files as they are. -/
theorem read_write_of_ne (d : Directory ν β) {name name' : ν} (content : List β)
    (h : name ≠ name') : (d.write name content).read name' = d.read name' := by
  rw [read_write, if_neg h]

@[simp] theorem write_write (d : Directory ν β) (name : ν) (content content' : List β) :
    (d.write name content).write name content' = d.write name content' := by
  simp only [write, writeFile_writeFile]

theorem byteSize_write_of_new {d : Directory ν β} {name : ν} (content : List β)
    (hnew : d.read name = none) :
    (d.write name content).byteSize = d.byteSize + content.length :=
  sizeOf_writeFile content hnew

/-- Save a content under an address, unless there is a file of that name. -/
def save (d : Directory ν β) (address : List β → ν) (content : List β) : Directory ν β :=
  match d.read (address content) with
  | some _ => d
  | none => d.write (address content) content

/-- A save leaves the files that exist as they are. -/
theorem read_save_of_read {d : Directory ν β} {name : ν} {content : List β}
    (address : List β → ν) (content' : List β) (h : d.read name = some content) :
    (d.save address content').read name = some content := by
  rw [save]
  cases hread : d.read (address content') with
  | some _ => exact h
  | none =>
      change (d.write (address content') content').read name = some content
      rw [read_write_of_ne, h]
      rintro rfl
      rw [h] at hread
      cases hread

/-- Save contents one after the other. -/
def saveAll (d : Directory ν β) (address : List β → ν) (contents : List (List β)) :
    Directory ν β :=
  contents.foldl (fun d content => d.save address content) d

/-- Saves leave the files that exist as they are. -/
theorem read_saveAll_of_read {d : Directory ν β} {name : ν} {content : List β}
    (address : List β → ν) (contents : List (List β)) (h : d.read name = some content) :
    (d.saveAll address contents).read name = some content := by
  induction contents generalizing d with
  | nil => exact h
  | cons content' contents ih => exact ih (read_save_of_read address content' h)

end Directory

/-! ### Addressed directories -/

/-- A directory is **addressed**, but for a file that is being written: every other file holds
one of the contents, and its name is the address of that content. -/
def Addressed (address : List β → ν) (contents : Set (List β)) (opened : Option ν)
    (d : Directory ν β) : Prop :=
  ∀ (name : ν) (content : List β), d.read name = some content → opened ≠ some name →
    content ∈ contents ∧ address content = name

section Addressed

variable {address : List β → ν} {contents : Set (List β)} {opened : Option ν} {d : Directory ν β}
  {content : List β}

theorem addressed_empty (address : List β → ν) (contents : Set (List β)) :
    Addressed address contents none (Directory.empty : Directory ν β) := by
  intro name content hread
  cases hread

/-- **A file with the address of a content holds that content**, where no two contents share
an address. -/
theorem Addressed.eq_of_read (h : Addressed address contents opened d)
    (haddress : Set.InjOn address contents) (hcontent : content ∈ contents) {found : List β}
    (hread : d.read (address content) = some found) (hopened : opened ≠ some (address content)) :
    found = content := by
  obtain ⟨hfound, hname⟩ := h _ _ hread hopened
  exact haddress hfound hcontent hname

/-- A file may be written with anything while it is the one being written. -/
theorem Addressed.write (h : Addressed address contents opened d) {name : ν}
    (hopened : opened = none ∨ opened = some name) (content : List β) :
    Addressed address contents (some name) (d.write name content) := by
  intro name' content' hread hne
  have hne' : name ≠ name' := fun heq => hne (congrArg some heq)
  rw [Directory.read_write_of_ne _ _ hne'] at hread
  refine h _ _ hread ?_
  rcases hopened with rfl | rfl
  · exact fun heq => by cases heq
  · exact hne

/-- A file that was being written and holds its content is like the others. -/
theorem Addressed.close (h : Addressed address contents (some (address content)) d)
    (hcontent : content ∈ contents) (hread : d.read (address content) = some content) :
    Addressed address contents none d := by
  intro name found hfound _
  by_cases heq : address content = name
  · subst heq
    rw [hread] at hfound
    obtain rfl := Option.some.inj hfound
    exact ⟨hcontent, rfl⟩
  · exact h _ _ hfound fun h => heq (Option.some.inj h)

/-- A save keeps the directory addressed. -/
theorem Addressed.save (h : Addressed address contents none d) (hcontent : content ∈ contents) :
    Addressed address contents none (d.save address content) := by
  rw [Directory.save]
  cases hread : d.read (address content) with
  | some _ => exact h
  | none =>
      exact (h.write (.inl rfl) content).close hcontent (Directory.read_write_self _ _ _)

/-- **What was saved is read back.** -/
theorem Addressed.read_save (h : Addressed address contents none d)
    (haddress : Set.InjOn address contents) (hcontent : content ∈ contents) :
    (d.save address content).read (address content) = some content := by
  rw [Directory.save]
  cases hread : d.read (address content) with
  | some found =>
      change d.read (address content) = some content
      rw [hread, h.eq_of_read haddress hcontent hread fun heq => by cases heq]
  | none => exact Directory.read_write_self _ _ _

theorem Addressed.saveAll {saved : List (List β)} (h : Addressed address contents none d)
    (hsaved : ∀ content ∈ saved, content ∈ contents) :
    Addressed address contents none (d.saveAll address saved) := by
  induction saved generalizing d with
  | nil => exact h
  | cons content saved ih =>
      obtain ⟨hcontent, hrest⟩ := List.forall_mem_cons.mp hsaved
      exact ih (h.save hcontent) hrest

/-- **All that was saved is read back.** -/
theorem Addressed.read_saveAll {saved : List (List β)} (h : Addressed address contents none d)
    (haddress : Set.InjOn address contents) (hsaved : ∀ content ∈ saved, content ∈ contents)
    (hcontent : content ∈ saved) :
    (d.saveAll address saved).read (address content) = some content := by
  induction saved generalizing d with
  | nil => cases hcontent
  | cons content' saved ih =>
      obtain ⟨hhead, hrest⟩ := List.forall_mem_cons.mp hsaved
      rcases List.mem_cons.mp hcontent with rfl | hmem
      · exact Directory.read_saveAll_of_read address saved (h.read_save haddress hhead)
      · exact ih (h.save hhead) hrest hmem

end Addressed

/-! ### What was saved, counted -/

namespace Directory

/-- A directory, weighed by the contents of its files. -/
def weight (d : Directory ν β) (weight : List β → Nat) : Nat := weightOf weight d.files

omit [DecidableEq ν] in
theorem byteSize_eq_weight (d : Directory ν β) : d.byteSize = d.weight List.length := rfl

omit [DecidableEq ν] in
/-- With weight one the files are counted. -/
theorem weight_one (d : Directory ν β) : d.weight (fun _ => 1) = d.files.length := by
  rw [weight, weightOf, List.map_const', List.sum_replicate_nat, Nat.mul_one]

theorem weight_write_of_new {d : Directory ν β} {name : ν} (weight : List β → Nat)
    (content : List β) (hnew : d.read name = none) :
    (d.write name content).weight weight = d.weight weight + weight content :=
  weightOf_writeFile weight content hnew

end Directory

/-- **What was saved in the empty directory is there once**: its weight is that of the different
contents, where no two of them share an address. -/
theorem weight_saveAll_empty [DecidableEq β] {address : List β → ν} (weight : List β → Nat)
    {saved : List (List β)} (haddress : Set.InjOn address {content | content ∈ saved}) :
    ((Directory.empty : Directory ν β).saveAll address saved).weight weight =
      ∑ content ∈ saved.toFinset, weight content := by
  induction saved using List.reverseRecOn with
  | nil => rfl
  | append_singleton saved content ih =>
      have hsubset : ∀ c ∈ saved, c ∈ saved ++ [content] := fun c hc => List.mem_append_left _ hc
      have hlast : content ∈ saved ++ [content] := List.mem_append_right _ List.mem_cons_self
      have hsaved := ih fun a ha b hb => haddress (hsubset a ha) (hsubset b hb)
      have haddressed : Addressed address {c | c ∈ saved} none
          ((Directory.empty : Directory ν β).saveAll address saved) :=
        (addressed_empty address _).saveAll fun c hc => hc
      have hstep : (Directory.empty : Directory ν β).saveAll address (saved ++ [content]) =
          ((Directory.empty : Directory ν β).saveAll address saved).save address content :=
        List.foldl_append
      rw [hstep, Directory.save]
      by_cases hmem : content ∈ saved
      · have hread := (addressed_empty address {c | c ∈ saved}).read_saveAll
          (fun a ha b hb => haddress (hsubset a ha) (hsubset b hb)) (fun c hc => hc) hmem
        have hsame : (saved ++ [content]).toFinset = saved.toFinset := by
          rw [List.toFinset_append, List.toFinset_cons, List.toFinset_nil]
          exact Finset.union_eq_left.mpr (by simpa using hmem)
        rw [hread, hsame]
        exact hsaved
      · have hread : ((Directory.empty : Directory ν β).saveAll address saved).read
            (address content) = none := by
          cases hfound : ((Directory.empty : Directory ν β).saveAll address saved).read
              (address content) with
          | none => rfl
          | some found =>
              obtain ⟨hin, heq⟩ := haddressed _ _ hfound fun h => by cases h
              exact absurd (haddress (hsubset found hin) hlast heq ▸ hin) hmem
        have hnew : content ∉ saved.toFinset := fun h => hmem (List.mem_toFinset.mp h)
        have hmore : (saved ++ [content]).toFinset = insert content saved.toFinset := by
          ext c
          simp only [List.mem_toFinset, List.mem_append, List.mem_singleton, Finset.mem_insert]
          exact or_comm
        rw [hread, hmore, Finset.sum_insert hnew, ← hsaved]
        exact (Directory.weight_write_of_new weight content hread).trans (Nat.add_comm _ _)

end ContentStore
