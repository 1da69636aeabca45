import Cdngine.Platform

/-!
# Unique Readability of JSON Texts

A quoted string is self-delimiting, and so is the text of a boolean. The order-independent
text of an object whose values are strings and booleans therefore determines the values,
when the keys are known: the texts of two objects with the same keys are equal only if the
objects are, whatever the collation that sorts the keys.

## Main results

* `quote_append_inj`: a text that begins with a quoted string determines it and the rest.
* `stableJson_object_inj`: the text of a flat object determines its values.
-/

namespace Cdngine

/-! ### Texts with different beginnings -/

/-- A text begins with some characters. -/
def Begins (cs : List Char) (s : String) : Prop := cs <+: s.toList

theorem Begins.append {cs : List Char} {s : String} (h : Begins cs s) (x : String) :
    Begins cs (s ++ x) := by
  rw [Begins, String.toList_append]
  exact h.trans (List.prefix_append _ _)

theorem Begins.ne {cs cs' : List Char} {s s' : String} (h : Begins cs s) (h' : Begins cs' s')
    (hlength : cs.length = cs'.length) (hne : cs ≠ cs') : s ≠ s' := by
  rintro rfl
  have hpre := List.prefix_of_prefix_length_le h h' (le_of_eq hlength)
  exact hne (hpre.eq_of_length hlength)

/-- A list splits in one way at the first occurrence of an element. -/
theorem append_cons_inj_of_notMem {α : Type} {a : α} {l l' m m' : List α} (h : a ∉ l)
    (h' : a ∉ l') (heq : l ++ a :: m = l' ++ a :: m') : l = l' ∧ m = m' := by
  induction l generalizing l' with
  | nil =>
      cases l' with
      | nil => exact ⟨rfl, (List.cons.inj heq).2⟩
      | cons b l' => exact absurd List.mem_cons_self ((List.cons.inj heq).1 ▸ h')
  | cons b l ih =>
      cases l' with
      | nil => exact absurd List.mem_cons_self ((List.cons.inj heq).1 ▸ h)
      | cons c l' =>
          obtain ⟨rfl, htail⟩ := List.cons.inj heq
          obtain ⟨rfl, rfl⟩ := ih (fun hm => h (List.mem_cons_of_mem _ hm))
            (fun hm => h' (List.mem_cons_of_mem _ hm)) htail
          exact ⟨rfl, rfl⟩

/-! ### Quoted strings -/

/-- The value of a hexadecimal digit. -/
def hexValue (c : Char) : Nat := if c.toNat < 0x61 then c.toNat - 0x30 else c.toNat - 0x57

/-- The character behind a one-letter escape. -/
def unescapeLetter (c : Char) : Char :=
  match c.toNat with
  | 0x62 => Char.ofNat 0x08
  | 0x74 => Char.ofNat 0x09
  | 0x6e => Char.ofNat 0x0a
  | 0x66 => Char.ofNat 0x0c
  | 0x72 => Char.ofNat 0x0d
  | _ => c

/-- Read one character of a quoted string back. -/
def readChar : List Char → Option (Char × List Char)
  | [] => none
  | c :: rest =>
      if c.toNat = 0x5c then
        match rest with
        | [] => none
        | c' :: rest =>
            if c'.toNat = 0x75 then
              match rest with
              | _ :: _ :: a :: b :: rest => some (Char.ofNat (16 * hexValue a + hexValue b), rest)
              | _ => none
            else some (unescapeLetter c', rest)
      else some (c, rest)

theorem hexValue_hexDigit : ∀ n < 0x20,
    16 * hexValue (Sha256.hexDigit (n / 16)) + hexValue (Sha256.hexDigit (n % 16)) = n := by
  decide

theorem eq_ofNat_of_toNat {c : Char} {n : Nat} (h : c.toNat = n) : c = Char.ofNat n := by
  rw [← h, Char.ofNat_toNat]

/-- Reading a character undoes writing it. -/
theorem readChar_escapeChar (c : Char) (rest : List Char) :
    readChar ((escapeChar c).toList ++ rest) = some (c, rest) := by
  unfold escapeChar
  split
  case h_8 n h1 h2 h3 h4 h5 h6 h7 =>
    split
    · rename_i hlt
      simp [readChar, hexValue_hexDigit _ hlt, Char.ofNat_toNat]
    · have hne : c.toNat ≠ 0x5c := h2
      simp [readChar, hne]
  all_goals
    rename_i h
    rw [eq_ofNat_of_toNat h]
    rfl

/-- A character written into a quoted string does not close it. -/
theorem escapeChar_ne_doubleQuote {c h : Char} {rest : List Char}
    (heq : (escapeChar c).toList = h :: rest) : h ≠ Char.ofNat 0x22 := by
  unfold escapeChar at heq
  split at heq
  case h_8 n h1 h2 h3 h4 h5 h6 h7 =>
    split at heq
    · simp only [String.toList_append] at heq
      obtain ⟨rfl, -⟩ := List.cons.inj heq
      decide
    · obtain ⟨rfl, -⟩ := List.cons.inj (heq.symm.trans (String.toList_singleton c))
      rintro rfl
      exact h1 rfl
  all_goals
    obtain ⟨rfl, -⟩ := List.cons.inj heq
    decide

theorem escapeChar_ne_nil (c : Char) : (escapeChar c).toList ≠ [] := by
  intro h
  have hread := readChar_escapeChar c []
  rw [h] at hread
  cases hread

theorem escapeChar_append_inj {c c' : Char} {x y : List Char}
    (h : (escapeChar c).toList ++ x = (escapeChar c').toList ++ y) : c = c' ∧ x = y := by
  have hread := readChar_escapeChar c x
  rw [h, readChar_escapeChar] at hread
  obtain ⟨rfl, rfl⟩ := Prod.mk.inj (Option.some.inj hread)
  exact ⟨rfl, rfl⟩

/-- The characters of a quoted string, with what follows its closing quote. -/
theorem escaped_append_inj {cs cs' x y : List Char}
    (h : cs.flatMap (fun c => (escapeChar c).toList) ++ Char.ofNat 0x22 :: x =
      cs'.flatMap (fun c => (escapeChar c).toList) ++ Char.ofNat 0x22 :: y) : cs = cs' ∧ x = y := by
  induction cs generalizing cs' with
  | nil =>
      cases cs' with
      | nil => exact ⟨rfl, (List.cons.inj h).2⟩
      | cons c' cs' =>
          cases hc : (escapeChar c').toList with
          | nil => exact absurd hc (escapeChar_ne_nil c')
          | cons d rest =>
              simp only [List.flatMap_cons, hc] at h
              exact absurd (List.cons.inj h).1.symm (escapeChar_ne_doubleQuote hc)
  | cons c cs ih =>
      cases cs' with
      | nil =>
          cases hc : (escapeChar c).toList with
          | nil => exact absurd hc (escapeChar_ne_nil c)
          | cons d rest =>
              simp only [List.flatMap_cons, hc] at h
              exact absurd (List.cons.inj h).1 (escapeChar_ne_doubleQuote hc)
      | cons c' cs' =>
          simp only [List.flatMap_cons, List.append_assoc] at h
          obtain ⟨rfl, htail⟩ := escapeChar_append_inj h
          obtain ⟨rfl, rfl⟩ := ih htail
          exact ⟨rfl, rfl⟩

theorem quote_toList (s : String) :
    (quote s).toList =
      Char.ofNat 0x22 ::
      (s.toList.flatMap (fun c => (escapeChar c).toList) ++ [Char.ofNat 0x22]) := by
  simp only [quote, doubleQuote, String.toList_append, String.toList_singleton, String.toList_join,
    List.flatMap_map, List.cons_append, List.nil_append]

/-- **A quoted string is self-delimiting.** -/
theorem quote_append_inj {s s' : String} {x y : List Char}
    (h : (quote s).toList ++ x = (quote s').toList ++ y) : s = s' ∧ x = y := by
  rw [quote_toList, quote_toList] at h
  simp only [List.cons_append, List.append_assoc, List.nil_append, List.cons.injEq, true_and] at h
  obtain ⟨hs, hxy⟩ := escaped_append_inj h
  exact ⟨String.toList_inj.mp hs, hxy⟩

/-! ### Flat objects -/

/-- A string or a boolean. -/
inductive JsValue.Flat : JsValue → Prop
  | string (s : String) : JsValue.Flat (.string s)
  | boolean (b : Bool) : JsValue.Flat (.boolean b)

variable {rt : Runtime}

theorem stableJson_boolean_toList (b : Bool) :
    (stableJson rt (.boolean b)).toList =
      if b then 't' :: "rue".toList else 'f' :: "alse".toList := by
  cases b
  · rw [show stableJson rt (.boolean false) = "false" by simp [stableJson]]
    decide
  · rw [show stableJson rt (.boolean true) = "true" by simp [stableJson]]
    decide

/-- The text of a boolean is not that of a string. -/
theorem quote_append_ne_boolean {s : String} {b : Bool} {x y : List Char} :
    (quote s).toList ++ x ≠ (stableJson rt (.boolean b)).toList ++ y := by
  intro h
  rw [quote_toList, stableJson_boolean_toList] at h
  cases b
  · exact absurd (List.cons.inj h).1 (by decide)
  · exact absurd (List.cons.inj h).1 (by decide)

/-- **The text of a string or a boolean is self-delimiting.** -/
theorem stableJson_append_inj {v v' : JsValue} (hv : v.Flat) (hv' : v'.Flat) {x y : List Char}
    (h : (stableJson rt v).toList ++ x = (stableJson rt v').toList ++ y) : v = v' ∧ x = y := by
  cases hv with
  | string s =>
      rw [show stableJson rt (.string s) = quote s by simp only [stableJson]] at h
      cases hv' with
      | string s' =>
          rw [show stableJson rt (.string s') = quote s' by simp only [stableJson]] at h
          obtain ⟨rfl, rfl⟩ := quote_append_inj h
          exact ⟨rfl, rfl⟩
      | boolean b' => exact absurd h quote_append_ne_boolean
  | boolean b =>
      cases hv' with
      | string s' =>
          rw [show stableJson rt (.string s') = quote s' by simp only [stableJson]] at h
          exact absurd h.symm quote_append_ne_boolean
      | boolean b' =>
          rw [stableJson_boolean_toList, stableJson_boolean_toList] at h
          cases b <;> cases b'
          · exact ⟨rfl, List.append_cancel_left h⟩
          · exact absurd (List.cons.inj h).1 (by decide)
          · exact absurd (List.cons.inj h).1 (by decide)
          · exact ⟨rfl, List.append_cancel_left h⟩

/-- The entries of two flat objects with the same keys, whose texts are equal. -/
theorem entryTexts_inj {zs : List (String × JsValue × JsValue)}
    (hflat : ∀ z ∈ zs, z.2.1.Flat ∧ z.2.2.Flat) {x y : List Char}
    (h : (String.intercalate ","
        (zs.map fun z => quote z.1 ++ ":" ++ stableJson rt z.2.1)).toList ++ x =
      (String.intercalate ","
        (zs.map fun z => quote z.1 ++ ":" ++ stableJson rt z.2.2)).toList ++ y) :
    ∀ z ∈ zs, z.2.1 = z.2.2 := by
  induction zs with
  | nil => intro z hz; cases hz
  | cons z zs ih =>
      obtain ⟨hz, hz'⟩ := hflat z List.mem_cons_self
      cases zs with
      | nil =>
          simp only [List.map_cons, List.map_nil, String.intercalate_singleton,
            String.toList_append, List.append_assoc, List.append_cancel_left_eq] at h
          intro w hw
          obtain rfl := List.mem_singleton.mp hw
          exact (stableJson_append_inj hz hz' h).1
      | cons z₁ zs =>
          simp only [List.map_cons, String.intercalate_cons_cons, String.toList_append,
            List.append_assoc, List.append_cancel_left_eq] at h
          obtain ⟨heq, hrest⟩ := stableJson_append_inj hz hz' h
          have htail := ih (fun w hw => hflat w (List.mem_cons_of_mem _ hw))
            (by simpa only [List.map_cons, List.append_cancel_left_eq] using hrest)
          intro w hw
          rcases List.mem_cons.mp hw with rfl | hw
          · exact heq
          · exact htail w hw

theorem stableEntries_of_flat {entries : List (String × JsValue)} (h : ∀ e ∈ entries, e.2.Flat) :
    stableEntries rt entries = entries.map fun e => (e.1, stableJson rt e.2) := by
  induction entries with
  | nil => simp [stableEntries]
  | cons e entries ih =>
      obtain ⟨key, v⟩ := e
      have htail := ih fun e he => h e (List.mem_cons_of_mem _ he)
      cases h (key, v) List.mem_cons_self with
      | string s => rw [stableEntries, htail, List.map_cons]; simp
      | boolean b => rw [stableEntries, htail, List.map_cons]; simp

/-- Two objects with the same keys, entry by entry. -/
theorem exists_zip_of_keys {entries entries' : List (String × JsValue)}
    (hkeys : entries.map (·.1) = entries'.map (·.1)) :
    ∃ zs : List (String × JsValue × JsValue),
      entries = zs.map (fun z => (z.1, z.2.1)) ∧ entries' = zs.map fun z => (z.1, z.2.2) := by
  induction entries generalizing entries' with
  | nil =>
      cases entries' with
      | nil => exact ⟨[], rfl, rfl⟩
      | cons e' entries' => cases hkeys
  | cons e entries ih =>
      cases entries' with
      | nil => cases hkeys
      | cons e' entries' =>
          obtain ⟨hkey, hkeys⟩ := List.cons.inj hkeys
          obtain ⟨zs, rfl, rfl⟩ := ih hkeys
          obtain ⟨key, v⟩ := e
          obtain ⟨key', v'⟩ := e'
          obtain rfl : key = key' := hkey
          exact ⟨(key, v, v') :: zs, rfl, rfl⟩

/-- **The text of a flat object determines its values**, whatever the order of the keys. -/
theorem stableJson_object_inj {entries entries' : List (String × JsValue)}
    (hkeys : entries.map (·.1) = entries'.map (·.1)) (hflat : ∀ e ∈ entries, e.2.Flat)
    (hflat' : ∀ e ∈ entries', e.2.Flat)
    (h : stableJson rt (.object entries) = stableJson rt (.object entries')) :
    entries = entries' := by
  obtain ⟨zs, rfl, rfl⟩ := exists_zip_of_keys hkeys
  have hlist := congrArg String.toList h
  simp only [stableJson, stableEntries_of_flat hflat, stableEntries_of_flat hflat', List.map_map,
    String.toList_append, List.append_assoc, List.append_cancel_left_eq] at hlist
  -- Sorting moves the entries of both objects in the same way.
  let byKey : String × JsValue × JsValue → String × JsValue × JsValue → Bool :=
    fun left right => (rt.localeCompare left.1 right.1).isLE
  have hsort : ∀ f : String × JsValue × JsValue → String,
      sortBy (fun left right : String × String => (rt.localeCompare left.1 right.1).isLE)
        (zs.map fun z => (z.1, f z)) = (sortBy byKey zs).map fun z => (z.1, f z) := by
    intro f
    exact (List.map_insertionSort (fun a b => byKey a b = true)
      (fun a b : String × String => (rt.localeCompare a.1 b.1).isLE = true)
      (fun z => (z.1, f z)) zs fun _ _ _ _ => Iff.rfl).symm
  have hleft := hsort fun z => stableJson rt z.2.1
  have hright := hsort fun z => stableJson rt z.2.2
  simp only [Function.comp_def] at hlist
  rw [hleft, hright, List.map_map, List.map_map] at hlist
  have hperm := sortBy_perm byKey zs
  have hflats : ∀ z ∈ sortBy byKey zs, z.2.1.Flat ∧ z.2.2.Flat := by
    intro z hz
    have hmem := hperm.mem_iff.mp hz
    exact ⟨hflat (z.1, z.2.1) (List.mem_map_of_mem hmem),
      hflat' (z.1, z.2.2) (List.mem_map_of_mem hmem)⟩
  have hvalues := entryTexts_inj hflats hlist
  refine List.map_congr_left fun z hz => ?_
  rw [hvalues z (hperm.mem_iff.mpr hz)]

end Cdngine
