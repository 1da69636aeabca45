import Cdngine.ArchivePaths
import Cdngine.StableSort

/-!
# Digest Trees

The comparison of two lists of archive entries by their digest trees: the pairs of normalized
path and SHA-256 digest of each list are sorted by the locale order of the paths and compared as
JSON texts. The sort is stable, and paths that the locale order ties keep the order in which the
entries came.

## Main results

* `stringifyPairs_inj`: the JSON text of a list of pairs determines it.
* `compareSplitEntryDigestTrees_iff`: the comparison answers whether the lists have the same
  pairs exactly when, in lists that have, tied pairs come in the same order.
-/

namespace Cdngine

/-! ### JSON texts of strings -/

/-- The unit of a hexadecimal digit. -/
def hexUnit (n : Nat) : UInt16 := UInt16.ofNat (if n < 10 then 0x30 + n else 0x57 + n)

/-- The value of the unit of a hexadecimal digit. -/
def hexUnitValue (u : UInt16) : Nat := if u.toNat < 0x40 then u.toNat - 0x30 else u.toNat - 0x57

/-- The double quote. -/
abbrev quoteUnit : UInt16 := 0x22

/-- The letter of a short escape. -/
def shortEscape (u : UInt16) : Option UInt16 :=
  match u.toNat with
  | 0x22 => some 0x22
  | 0x5c => some 0x5c
  | 0x08 => some 0x62
  | 0x09 => some 0x74
  | 0x0a => some 0x6e
  | 0x0c => some 0x66
  | 0x0d => some 0x72
  | _ => none

/-- The unit that a short escape stands for. -/
def shortUnescape (u : UInt16) : UInt16 :=
  match u.toNat with
  | 0x62 => 0x08
  | 0x74 => 0x09
  | 0x6e => 0x0a
  | 0x66 => 0x0c
  | 0x72 => 0x0d
  | _ => u

/-- A unit of a string with the mark of those that stand in a surrogate pair. -/
def pairing : JsString → List (UInt16 × Bool)
  | [] => []
  | [u] => [(u, false)]
  | u :: v :: rest =>
      if Utf8.isHigh u && Utf8.isLow v then (u, true) :: (v, true) :: pairing rest
      else (u, false) :: pairing (v :: rest)

/-- The text of a unit in a JSON string: control characters and lone surrogates are escaped. -/
def escapeUnit (piece : UInt16 × Bool) : JsString :=
  match shortEscape piece.1 with
  | some letter => [backslash, letter]
  | none =>
      if piece.1.toNat < 0x20 ∨
          (Utf8.isHigh piece.1 ∨ Utf8.isLow piece.1) ∧ piece.2 = false then
        [backslash, 0x75, hexUnit (piece.1.toNat / 4096), hexUnit (piece.1.toNat / 256 % 16),
          hexUnit (piece.1.toNat / 16 % 16), hexUnit (piece.1.toNat % 16)]
      else [piece.1]

/-- `JSON.stringify` of a string. -/
def stringifyString (s : JsString) : JsString :=
  quoteUnit :: ((pairing s).flatMap escapeUnit ++ [quoteUnit])

/-- `JSON.stringify` of a pair of strings. -/
def stringifyPair (pair : JsString × JsString) : JsString :=
  codeUnits "[" ++ stringifyString pair.1 ++ codeUnits "," ++ stringifyString pair.2 ++
    codeUnits "]"

/-- `JSON.stringify` of a list of pairs of strings. -/
def stringifyPairs (pairs : List (JsString × JsString)) : JsString :=
  codeUnits "[" ++ (codeUnits ",").intercalate (pairs.map stringifyPair) ++ codeUnits "]"

/-- Read one unit of a JSON string back. -/
def readUnit : JsString → Option (UInt16 × JsString)
  | [] => none
  | u :: rest =>
      if u = backslash then
        match rest with
        | [] => none
        | letter :: rest =>
            if letter = 0x75 then
              match rest with
              | a :: b :: c :: d :: rest =>
                  some (UInt16.ofNat (4096 * hexUnitValue a + 256 * hexUnitValue b +
                    16 * hexUnitValue c + hexUnitValue d), rest)
              | _ => none
            else some (shortUnescape letter, rest)
      else some (u, rest)

theorem hexUnitValue_hexUnit : ∀ n < 16, hexUnitValue (hexUnit n) = n := by
  decide

theorem eq_of_toNat_eq {u v : UInt16} (h : u.toNat = v.toNat) : u = v := UInt16.toNat_inj.mp h

/-- A short escape is read back. -/
theorem shortEscape_eq_some {u letter : UInt16} (h : shortEscape u = some letter) :
    letter ≠ 0x75 ∧ shortUnescape letter = u := by
  unfold shortEscape at h
  split at h
  case h_8 => cases h
  all_goals
    rename_i hu
    obtain rfl := Option.some.inj h
    exact ⟨by decide, (eq_of_toNat_eq (hu.trans (by decide))).symm⟩

/-- The four digits of a unit. -/
theorem hexDigits_value (u : UInt16) :
    UInt16.ofNat (4096 * hexUnitValue (hexUnit (u.toNat / 4096)) +
      256 * hexUnitValue (hexUnit (u.toNat / 256 % 16)) +
      16 * hexUnitValue (hexUnit (u.toNat / 16 % 16)) +
      hexUnitValue (hexUnit (u.toNat % 16))) = u := by
  have hu := u.toNat_lt
  rw [hexUnitValue_hexUnit _ (by omega), hexUnitValue_hexUnit _ (by omega),
    hexUnitValue_hexUnit _ (by omega), hexUnitValue_hexUnit _ (by omega)]
  have hvalue : 4096 * (u.toNat / 4096) + 256 * (u.toNat / 256 % 16) + 16 * (u.toNat / 16 % 16) +
      u.toNat % 16 = u.toNat := by omega
  rw [hvalue, UInt16.ofNat_toNat]

/-- Reading a unit undoes writing it. -/
theorem readUnit_escapeUnit (piece : UInt16 × Bool) (rest : JsString) :
    readUnit (escapeUnit piece ++ rest) = some (piece.1, rest) := by
  unfold escapeUnit
  split
  · rename_i letter hletter
    obtain ⟨hne, hvalue⟩ := shortEscape_eq_some hletter
    simp only [List.cons_append, List.nil_append, readUnit, if_neg hne, hvalue]
    rfl
  · rename_i hshort
    split
    · simp only [List.cons_append, List.nil_append, readUnit, hexDigits_value]
      rfl
    · have hne : piece.1 ≠ backslash := by
        intro heq
        rw [heq] at hshort
        cases hshort
      simp only [List.cons_append, List.nil_append, readUnit, if_neg hne]

/-- The text of a unit does not begin with a quote. -/
theorem escapeUnit_ne_quote {piece : UInt16 × Bool} {u : UInt16} {rest : JsString}
    (h : escapeUnit piece = u :: rest) : u ≠ quoteUnit := by
  unfold escapeUnit at h
  split at h
  · obtain ⟨rfl, -⟩ := List.cons.inj h
    decide
  · rename_i hshort
    split at h
    · obtain ⟨rfl, -⟩ := List.cons.inj h
      decide
    · obtain ⟨rfl, -⟩ := List.cons.inj h
      intro heq
      rw [heq] at hshort
      cases hshort

theorem escapeUnit_ne_nil (piece : UInt16 × Bool) : escapeUnit piece ≠ [] := by
  intro h
  have hread := readUnit_escapeUnit piece []
  rw [h] at hread
  cases hread

theorem escapeUnit_append_inj {p q : UInt16 × Bool} {x y : JsString}
    (h : escapeUnit p ++ x = escapeUnit q ++ y) : p.1 = q.1 ∧ x = y := by
  have hread := readUnit_escapeUnit p x
  rw [h, readUnit_escapeUnit] at hread
  obtain ⟨hunit, hrest⟩ := Prod.mk.inj (Option.some.inj hread)
  exact ⟨hunit.symm, hrest.symm⟩

/-- The units of a JSON string, with what follows its closing quote. -/
theorem escapeUnits_append_inj {ps qs : List (UInt16 × Bool)} {x y : JsString}
    (h : ps.flatMap escapeUnit ++ quoteUnit :: x = qs.flatMap escapeUnit ++ quoteUnit :: y) :
    ps.map Prod.fst = qs.map Prod.fst ∧ x = y := by
  have hopen : ∀ {p : UInt16 × Bool} {rest tail : JsString},
      quoteUnit :: tail ≠ escapeUnit p ++ rest := by
    intro p rest tail heq
    cases hp : escapeUnit p with
    | nil => exact escapeUnit_ne_nil p hp
    | cons u units =>
        rw [hp] at heq
        exact escapeUnit_ne_quote hp (List.cons.inj heq).1.symm
  induction ps generalizing qs with
  | nil =>
      cases qs with
      | nil => exact ⟨rfl, (List.cons.inj h).2⟩
      | cons q qs =>
          rw [List.flatMap_cons, List.append_assoc] at h
          exact absurd h hopen
  | cons p ps ih =>
      rw [List.flatMap_cons, List.append_assoc] at h
      cases qs with
      | nil => exact absurd h.symm hopen
      | cons q qs =>
          rw [List.flatMap_cons, List.append_assoc] at h
          obtain ⟨hunit, hrest⟩ := escapeUnit_append_inj h
          obtain ⟨hunits, hxy⟩ := ih hrest
          exact ⟨by rw [List.map_cons, List.map_cons, hunit, hunits], hxy⟩

theorem pairing_map_fst (s : JsString) : (pairing s).map Prod.fst = s := by
  induction s using pairing.induct with
  | case1 => rfl
  | case2 u => rfl
  | case3 u v rest hpair ih => rw [pairing, if_pos hpair, List.map_cons, List.map_cons, ih]
  | case4 u v rest hpair ih => rw [pairing, if_neg hpair, List.map_cons, ih]

/-- **A string written as JSON is self-delimiting.** -/
theorem stringifyString_append_inj {s t x y : JsString}
    (h : stringifyString s ++ x = stringifyString t ++ y) : s = t ∧ x = y := by
  simp only [stringifyString, List.cons_append, List.append_assoc, List.nil_append,
    List.cons.injEq, true_and] at h
  obtain ⟨hunits, hxy⟩ := escapeUnits_append_inj h
  rw [pairing_map_fst, pairing_map_fst] at hunits
  exact ⟨hunits, hxy⟩

theorem stringifyPair_append_inj {p q : JsString × JsString} {x y : JsString}
    (h : stringifyPair p ++ x = stringifyPair q ++ y) : p = q ∧ x = y := by
  simp only [stringifyPair, List.append_assoc, List.append_cancel_left_eq] at h
  obtain ⟨hfirst, hrest⟩ := stringifyString_append_inj h
  obtain ⟨hsecond, hend⟩ := stringifyString_append_inj (List.append_cancel_left hrest)
  exact ⟨Prod.ext hfirst hsecond, List.append_cancel_left hend⟩

/-- The text behind the first pair of a list: the other pairs, each behind a comma. -/
theorem intercalate_stringifyPair (p : JsString × JsString) (ps : List (JsString × JsString)) :
    (codeUnits ",").intercalate ((p :: ps).map stringifyPair) =
      stringifyPair p ++ ps.flatMap fun q => codeUnits "," ++ stringifyPair q := by
  induction ps generalizing p with
  | nil => simp
  | cons q ps ih =>
      rw [List.map_cons, List.map_cons, List.intercalate_cons_cons, ← List.map_cons, ih q,
        List.flatMap_cons, List.append_assoc, List.append_assoc]

theorem stringifyTail_inj {ps qs : List (JsString × JsString)}
    (h : (ps.flatMap fun q => codeUnits "," ++ stringifyPair q) ++ codeUnits "]" =
      (qs.flatMap fun q => codeUnits "," ++ stringifyPair q) ++ codeUnits "]") : ps = qs := by
  induction ps generalizing qs with
  | nil =>
      cases qs with
      | nil => rfl
      | cons q qs => cases h
  | cons p ps ih =>
      cases qs with
      | nil => cases h
      | cons q qs =>
          simp only [List.flatMap_cons, List.append_assoc, List.append_cancel_left_eq] at h
          obtain ⟨rfl, hrest⟩ := stringifyPair_append_inj h
          rw [ih hrest]

/-- **The JSON text of a list of pairs determines it.** -/
theorem stringifyPairs_inj {ps qs : List (JsString × JsString)}
    (h : stringifyPairs ps = stringifyPairs qs) : ps = qs := by
  simp only [stringifyPairs, List.append_assoc, List.append_cancel_left_eq] at h
  cases ps with
  | nil =>
      cases qs with
      | nil => rfl
      | cons q qs =>
          rw [intercalate_stringifyPair] at h
          cases h
  | cons p ps =>
      cases qs with
      | nil =>
          rw [intercalate_stringifyPair] at h
          cases h
      | cons q qs =>
          rw [intercalate_stringifyPair, intercalate_stringifyPair, List.append_assoc,
            List.append_assoc] at h
          obtain ⟨rfl, hrest⟩ := stringifyPair_append_inj h
          rw [stringifyTail_inj hrest]

/-! ### Comparing digest trees -/

/-- The normalized path of an entry with the digest of its data. -/
def digestPair (rt : Runtime) (entry : SplitArtifactEntry) :
    Except SplitArtifactError (JsString × JsString) := do
  let path ← normalizeArchivePath entry.logicalPath
  .ok (path, codeUnits (rt.sha256Hex entry.data))

/-- The pairs of a list of entries; a path that is not accepted throws. -/
def digestPairs (rt : Runtime) :
    List SplitArtifactEntry → Except SplitArtifactError (List (JsString × JsString))
  | [] => .ok []
  | entry :: entries => do
      let pair ← digestPair rt entry
      let pairs ← digestPairs rt entries
      .ok (pair :: pairs)

/-- `toDigestTree`, with the platform's `localeCompare`. -/
def toDigestTree (rt : Runtime) (localeCompare : JsString → JsString → Ordering)
    (entries : List SplitArtifactEntry) : Except SplitArtifactError JsString := do
  let pairs ← digestPairs rt entries
  .ok (stringifyPairs (sortBy (fun left right => (localeCompare left.1 right.1).isLE) pairs))

/-- `compareSplitEntryDigestTrees`. -/
def compareSplitEntryDigestTrees (rt : Runtime) (localeCompare : JsString → JsString → Ordering)
    (leftEntries rightEntries : List SplitArtifactEntry) : Except SplitArtifactError Bool := do
  let left ← toDigestTree rt localeCompare leftEntries
  let right ← toDigestTree rt localeCompare rightEntries
  .ok (decide (left = right))

/-- A comparison of strings that is **consistent**, as sorting by it requires: it orders the
strings, but may tie different ones. -/
structure ConsistentComparison (localeCompare : JsString → JsString → Ordering) : Prop where
  swap : ∀ a b, localeCompare b a = (localeCompare a b).swap
  trans : ∀ a b c, (localeCompare a b).isLE = true → (localeCompare b c).isLE = true →
    (localeCompare a c).isLE = true

/-- What sorting by keys asks of a comparison. -/
theorem ConsistentComparison.transCmp {localeCompare : JsString → JsString → Ordering}
    (h : ConsistentComparison localeCompare) : Std.TransCmp localeCompare where
  eq_swap := h.swap _ _
  isLE_trans := h.trans _ _ _

/-- Strings that are tied to one string are tied. -/
theorem ConsistentComparison.tied_trans {localeCompare : JsString → JsString → Ordering}
    (h : ConsistentComparison localeCompare) {a b c : JsString} (hb : localeCompare a b = .eq)
    (hc : localeCompare a c = .eq) : localeCompare b c = .eq := by
  have htrans := h.transCmp
  exact Std.TransCmp.eq_trans (Std.OrientedCmp.eq_symm hb) hc

/-- **Tied pairs come in the same order** in two lists: for every path, the pairs whose paths
compare equal to it are the same, in the same order. -/
def TiedAlike (localeCompare : JsString → JsString → Ordering)
    (left right : List (JsString × JsString)) : Prop :=
  ∀ path, left.filter (fun pair => localeCompare path pair.1 = .eq) =
    right.filter (fun pair => localeCompare path pair.1 = .eq)

section Compare

variable {rt : Runtime} {localeCompare : JsString → JsString → Ordering}
  {leftEntries rightEntries : List SplitArtifactEntry} {left right : List (JsString × JsString)}

/-- Two lists are sorted alike exactly when their tied pairs come in the same order. -/
theorem sortBy_localeCompare_eq_iff (horder : ConsistentComparison localeCompare) :
    sortBy (fun left right : JsString × JsString => (localeCompare left.1 right.1).isLE) left =
        sortBy (fun left right => (localeCompare left.1 right.1).isLE) right ↔
      TiedAlike localeCompare left right := by
  have htrans := horder.transCmp
  have hsorted := @StableSort.insertionSort_key_eq_iff (JsString × JsString) JsString localeCompare
    htrans Prod.fst left right
  exact hsorted.trans ⟨fun h path => h (path, []), fun h pair => h pair.1⟩

/-- **The comparison of digest trees** answers whether two lists of entries have the same pairs
of path and digest, each as often, exactly when the tied pairs of lists that have come in the
same order. -/
theorem compareSplitEntryDigestTrees_iff (horder : ConsistentComparison localeCompare)
    (hleft : digestPairs rt leftEntries = .ok left)
    (hright : digestPairs rt rightEntries = .ok right) :
    ∃ answer, compareSplitEntryDigestTrees rt localeCompare leftEntries rightEntries = .ok answer ∧
      ((answer = true ↔ left.Perm right) ↔
        (left.Perm right → TiedAlike localeCompare left right)) := by
  refine ⟨_, bind_eq_ok.mpr ⟨_, bind_eq_ok.mpr ⟨_, hleft, rfl⟩,
    bind_eq_ok.mpr ⟨_, bind_eq_ok.mpr ⟨_, hright, rfl⟩, rfl⟩⟩, ?_⟩
  have hanswer := @sortBy_localeCompare_eq_iff _ left right horder
  rw [decide_eq_true_iff]
  have hperm : sortBy (fun a b : JsString × JsString => (localeCompare a.1 b.1).isLE) left =
      sortBy (fun a b => (localeCompare a.1 b.1).isLE) right → left.Perm right := fun h =>
    (sortBy_perm _ left).symm.trans (h ▸ sortBy_perm _ right)
  constructor
  · exact fun hiff hsame => hanswer.mp (stringifyPairs_inj (hiff.mpr hsame))
  · intro htied
    exact ⟨fun h => hperm (stringifyPairs_inj h),
      fun hsame => congrArg stringifyPairs (hanswer.mpr (htied hsame))⟩

end Compare

/-! ### Lists that are compared right and wrong -/

/-- A locale order for concrete inputs: texts compare by code unit, and soft hyphens do not
count. -/
def sampleLocaleCompare (a b : JsString) : Ordering :=
  List.compareLex compare (a.filter fun u => u ≠ 0xad) (b.filter fun u => u ≠ 0xad)

theorem sampleLocaleCompare_consistent : ConsistentComparison sampleLocaleCompare where
  swap _ _ := @Std.OrientedCmp.eq_swap _ (List.compareLex compare) _ _ _
  trans _ _ _ := @Std.TransCmp.isLE_trans _ (List.compareLex compare) _ _ _ _

/-- An entry of one byte. -/
def sampleDigestEntry (path : String) (byte : UInt8) : SplitArtifactEntry where
  data := [byte]
  logicalPath := codeUnits path
  mode := none
  mtime := none

/-- The pair of an entry of one byte. -/
def sampleDigestPair (path : String) (byte : UInt8) : JsString × JsString :=
  (codeUnits path, codeUnits (Sha256.hex [byte]))

/-- Entries whose paths are not tied are compared right, in either order. -/
theorem swapped_entries_compared :
    ∃ answer, compareSplitEntryDigestTrees sampleRuntime sampleLocaleCompare
        [sampleDigestEntry "./b" 1, sampleDigestEntry "a" 2]
        [sampleDigestEntry "a" 2, sampleDigestEntry "b/" 1] = .ok answer ∧
      (answer = true ↔ [sampleDigestPair "b" 1, sampleDigestPair "a" 2].Perm
        [sampleDigestPair "a" 2, sampleDigestPair "b" 1]) := by
  have hleft : digestPairs sampleRuntime [sampleDigestEntry "./b" 1, sampleDigestEntry "a" 2] =
    .ok [sampleDigestPair "b" 1, sampleDigestPair "a" 2] := rfl
  have hright : digestPairs sampleRuntime [sampleDigestEntry "a" 2, sampleDigestEntry "b/" 1] =
    .ok [sampleDigestPair "a" 2, sampleDigestPair "b" 1] := rfl
  obtain ⟨answer, hanswer, hiff⟩ :=
    compareSplitEntryDigestTrees_iff sampleLocaleCompare_consistent hleft hright
  refine ⟨answer, hanswer, hiff.mpr fun _ path => ?_⟩
  by_cases hb : sampleLocaleCompare path (sampleDigestPair "b" 1).1 = .eq
  · have ha : ¬ sampleLocaleCompare path (sampleDigestPair "a" 2).1 = .eq := fun ha =>
      absurd (sampleLocaleCompare_consistent.tied_trans hb ha) (by decide +kernel)
    simp [hb, ha]
  · by_cases ha : sampleLocaleCompare path (sampleDigestPair "a" 2).1 = .eq <;> simp [hb, ha]

/-- **Tied entries in another order are compared wrong.** One path occurs twice, with
different data, and the other list has the two the other way round; or two paths differ by a
soft hyphen, and the locale order ties them. The lists have the same pairs, and the answer is
no. -/
theorem tied_entries_differ :
    (compareSplitEntryDigestTrees sampleRuntime sampleLocaleCompare
        [sampleDigestEntry "a" 1, sampleDigestEntry "a" 2]
        [sampleDigestEntry "a" 2, sampleDigestEntry "a" 1] = .ok false ∧
      digestPairs sampleRuntime [sampleDigestEntry "a" 1, sampleDigestEntry "a" 2] =
        .ok [sampleDigestPair "a" 1, sampleDigestPair "a" 2] ∧
      digestPairs sampleRuntime [sampleDigestEntry "a" 2, sampleDigestEntry "a" 1] =
        .ok [sampleDigestPair "a" 2, sampleDigestPair "a" 1] ∧
      [sampleDigestPair "a" 1, sampleDigestPair "a" 2].Perm
        [sampleDigestPair "a" 2, sampleDigestPair "a" 1]) ∧
    compareSplitEntryDigestTrees sampleRuntime sampleLocaleCompare
        [sampleDigestEntry "ab" 1, sampleDigestEntry "a\u00adb" 1]
        [sampleDigestEntry "a\u00adb" 1, sampleDigestEntry "ab" 1] = .ok false ∧
      [sampleDigestPair "ab" 1, sampleDigestPair "a\u00adb" 1].Perm
        [sampleDigestPair "a\u00adb" 1, sampleDigestPair "ab" 1] :=
  ⟨⟨by decide +kernel, rfl, rfl, .swap _ _ _⟩, by decide +kernel, .swap _ _ _⟩

end Cdngine
