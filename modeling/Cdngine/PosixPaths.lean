import Cdngine.Strip
import Mathlib.Data.List.Basic
import Mathlib.Tactic.Common

/-!
# POSIX Paths

Absolute paths in normal form, as lists of names, and the two operations that programs confine
paths with: resolving a sequence of paths against a directory, where a path that begins with a
slash starts over and `..` leaves a directory, and the relative path from one absolute path to
another.

## Main results

* `resolvePath_text`: the text of a path is resolved to the path.
* `relativeNames_append`, `relativeNames_of_not_prefix`: a relative path is the rest of a path
  inside, and goes up first to any other.
* `inside_of_relative`: a relative path that does not go up leads inside.
-/

namespace PosixPaths

abbrev Segment := List Char

/-- The name of the directory above. -/
def up : Segment := ['.', '.']

/-- A segment that names a file of a directory. -/
structure IsName (s : Segment) : Prop where
  ne_nil : s ≠ []
  no_slash : '/' ∉ s
  ne_dot : s ≠ ['.']
  ne_up : s ≠ up

/-- An **absolute path** in normal form: the names from the root. -/
@[ext] structure Path where
  names : List Segment
  isName : ∀ s ∈ names, IsName s

/-- The text of a path. -/
def Path.text (p : Path) : List Char := '/' :: ['/'].intercalate p.names

/-- The root directory. -/
def Path.root : Path := ⟨[], fun _ h => by cases h⟩

/-- `q` lies strictly inside `p`. -/
def Path.Inside (p q : Path) : Prop := ∃ rest, rest ≠ [] ∧ q.names = p.names ++ rest

/-! ### Resolution -/

/-- A segment after the names of a directory. -/
def enter (names : List Segment) (s : Segment) : List Segment :=
  if s = [] ∨ s = ['.'] then names
  else if s = up then names.dropLast
  else names ++ [s]

theorem enter_of_isName (names : List Segment) {s : Segment} (h : IsName s) :
    enter names s = names ++ [s] := by
  rw [enter, if_neg (not_or.mpr ⟨h.ne_nil, h.ne_dot⟩), if_neg h.ne_up]

/-- A path after the names of a directory; an absolute one starts over. -/
def walk (names : List Segment) (path : List Char) : List Segment :=
  (path.splitOn '/').foldl enter (if path.head? = some '/' then [] else names)

theorem isName_enter {names : List Segment} {s : Segment} (hnames : ∀ s ∈ names, IsName s)
    (hs : '/' ∉ s) : ∀ t ∈ enter names s, IsName t := by
  unfold enter
  split
  · exact hnames
  · rename_i hplain
    split
    · exact fun t ht => hnames t (List.dropLast_subset names ht)
    · rename_i hup
      obtain ⟨hne, hdot⟩ := not_or.mp hplain
      intro t ht
      rcases List.mem_append.mp ht with ht | ht
      · exact hnames t ht
      · obtain rfl := List.mem_singleton.mp ht
        exact ⟨hne, hs, hdot, hup⟩

theorem isName_foldl_enter {names segments : List Segment} (hnames : ∀ s ∈ names, IsName s)
    (hsegments : ∀ s ∈ segments, '/' ∉ s) : ∀ t ∈ segments.foldl enter names, IsName t := by
  induction segments generalizing names with
  | nil => exact hnames
  | cons s segments ih =>
      obtain ⟨hs, hrest⟩ := List.forall_mem_cons.mp hsegments
      exact ih (isName_enter hnames hs) hrest

theorem isName_walk {names : List Segment} (hnames : ∀ s ∈ names, IsName s) (path : List Char) :
    ∀ t ∈ walk names path, IsName t := by
  have hslash : ∀ s ∈ path.splitOn '/', '/' ∉ s := fun s hs hmem =>
    (Strip.mem_splitOn hs '/' hmem).2 rfl
  unfold walk
  split
  · exact isName_foldl_enter (fun _ h => by cases h) hslash
  · exact isName_foldl_enter hnames hslash

/-- The directory `p` after a path. -/
def Path.walk (p : Path) (path : List Char) : Path :=
  ⟨PosixPaths.walk p.names path, isName_walk p.isName path⟩

/-- `path.resolve(...paths)`, for a process in the directory `cwd`. -/
def resolvePath (cwd : Path) (paths : List (List Char)) : Path := paths.foldl Path.walk cwd

theorem resolvePath_append (cwd : Path) (paths paths' : List (List Char)) :
    resolvePath cwd (paths ++ paths') = resolvePath (resolvePath cwd paths) paths' :=
  List.foldl_append

/-- Names are entered one after the other. -/
theorem foldl_enter_of_isName {segments : List Segment} (h : ∀ s ∈ segments, IsName s)
    (names : List Segment) : segments.foldl enter names = names ++ segments := by
  induction segments generalizing names with
  | nil => rw [List.foldl_nil, List.append_nil]
  | cons s segments ih =>
      obtain ⟨hs, hrest⟩ := List.forall_mem_cons.mp h
      rw [List.foldl_cons, enter_of_isName names hs, ih hrest, List.append_assoc,
        List.singleton_append]

/-- A segment is the path to the file that it names. -/
theorem walk_of_isName (p : Path) {s : Segment} (h : IsName s) :
    (p.walk s).names = p.names ++ [s] := by
  have hhead : s.head? ≠ some '/' := fun hhead => h.no_slash (List.mem_of_mem_head? hhead)
  change walk p.names s = _
  rw [walk, if_neg hhead, List.splitOn_eq_singleton h.no_slash, List.foldl_cons,
    List.foldl_nil, enter_of_isName p.names h]

/-- The names in the text of a path. -/
theorem foldl_enter_text (p : Path) : (p.text.splitOn '/').foldl enter [] = p.names := by
  have hhead : p.text.splitOn '/' = [] :: (['/'].intercalate p.names).splitOn '/' := by
    rw [Path.text]
    exact List.splitOn_append_cons_self [] (['/'].intercalate p.names)
  rw [hhead, List.foldl_cons, enter, if_pos (.inl rfl)]
  cases hnames : p.names with
  | nil => rfl
  | cons s names =>
      have hslash : ∀ s ∈ p.names, '/' ∉ s := fun s hs => (p.isName s hs).no_slash
      rw [← hnames, List.splitOn_intercalate '/' hslash
        (by rw [hnames]; exact List.cons_ne_nil s names),
        foldl_enter_of_isName p.isName, List.nil_append]

/-- **The text of a path is resolved to the path**, wherever the process is. -/
theorem walk_text (cwd p : Path) : cwd.walk p.text = p := by
  have hhead : p.text.head? = some '/' := rfl
  apply Path.ext
  change walk cwd.names p.text = p.names
  rw [walk, if_pos hhead, foldl_enter_text]

theorem resolvePath_text (cwd p : Path) (paths : List (List Char)) :
    resolvePath cwd (p.text :: paths) = resolvePath p paths := by
  rw [resolvePath, List.foldl_cons, walk_text, resolvePath]

/-- `path.join(p, ...paths)`: none of the paths starts over. -/
def joinPath (p : Path) (paths : List (List Char)) : Path :=
  ⟨(paths.flatMap (List.splitOn '/')).foldl enter p.names,
    isName_foldl_enter p.isName fun s hs hmem => by
      obtain ⟨path, -, hs⟩ := List.mem_flatMap.mp hs
      exact (Strip.mem_splitOn hs '/' hmem).2 rfl⟩

/-- `path.basename(path)`. -/
def basename (path : List Char) : List Char :=
  ((path.splitOn '/').filter fun s => !s.isEmpty).getLast?.getD []

/-! ### Relative paths -/

/-- The names of the path from one list of names to another: up from the first to what both begin
with, and down to the second. -/
def relativeNames : List Segment → List Segment → List Segment
  | s :: source, t :: target =>
      if s = t then relativeNames source target
      else (s :: source).map (fun _ => up) ++ t :: target
  | source, target => source.map (fun _ => up) ++ target

/-- `path.relative(source, target)`, for a process in the directory `cwd`. -/
def relativePath (cwd : Path) (source target : List Char) : List Char :=
  ['/'].intercalate
  (relativeNames (resolvePath cwd [source]).names (resolvePath cwd [target]).names)

/-- The relative path to a path inside is the rest of it. -/
theorem relativeNames_append (names rest : List Segment) :
    relativeNames names (names ++ rest) = rest := by
  induction names with
  | nil => rfl
  | cons s names ih => rw [List.cons_append, relativeNames, if_pos rfl, ih]

/-- The relative path to any other path begins by going up. -/
theorem relativeNames_of_not_prefix {source target : List Segment} (h : ¬ source <+: target) :
    ∃ rest, relativeNames source target = up :: rest := by
  induction source generalizing target with
  | nil => exact absurd (List.nil_prefix) h
  | cons s source ih =>
      cases target with
      | nil =>
          exact ⟨source.map (fun _ => up),
            by rw [relativeNames, List.append_nil, List.map_cons]; simp⟩
      | cons t target =>
          by_cases hst : s = t
          · subst hst
            have hrest : ¬ source <+: target :=
              fun hpre => h (List.cons_prefix_cons.mpr ⟨rfl, hpre⟩)
            obtain ⟨rest, hrelative⟩ := ih hrest
            exact ⟨rest, by rw [relativeNames, if_pos rfl, hrelative]⟩
          · exact ⟨source.map (fun _ => up) ++ t :: target, by
              rw [relativeNames, if_neg hst, List.map_cons, List.cons_append]⟩

/-- Text that begins by going up. -/
theorem intercalate_up (rest : List Segment) :
    ['/'].intercalate (up :: rest) = up ∨ (up ++ ['/']) <+: ['/'].intercalate (up :: rest) := by
  cases rest with
  | nil => exact .inl (List.intercalate_singleton)
  | cons s rest =>
      refine .inr ⟨['/'].intercalate (s :: rest), ?_⟩
      rw [List.intercalate_cons_cons]

/-- **A relative path that is not empty and does not go up leads inside.** -/
theorem inside_of_relative (cwd source target : Path)
    (hne : relativePath cwd source.text target.text ≠ [])
    (hup : relativePath cwd source.text target.text ≠ up)
    (hslash : ¬ (up ++ ['/']) <+: relativePath cwd source.text target.text) :
    source.Inside target := by
  have hrelative : relativePath cwd source.text target.text =
      ['/'].intercalate (relativeNames source.names target.names) := by
    rw [relativePath, resolvePath_text, resolvePath_text]
    rfl
  by_cases hpre : source.names <+: target.names
  · obtain ⟨rest, hrest⟩ := hpre
    refine ⟨rest, ?_, hrest.symm⟩
    rintro rfl
    rw [← hrest, relativeNames_append] at hrelative
    exact hne hrelative
  · obtain ⟨rest, hrest⟩ := relativeNames_of_not_prefix hpre
    rw [hrest] at hrelative
    cases intercalate_up rest with
    | inl h => exact absurd (hrelative.trans h) hup
    | inr h => exact absurd (hrelative ▸ h) hslash

end PosixPaths
