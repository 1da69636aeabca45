import Cdngine.PercentEncoding

/-!
# Paths of URLs

The path state of the URL standard: it reads a path character by character, ends a segment at every
separator, resolves the dot segments and escapes what a path does not hold. A URL carries the
invariant of the paths that the state reads.

## Main results

* `isSingleDot_iff`, `isDoubleDot_iff`: a dot segment is one that is decoded to dots.
* `wellFormed_pathState`: the paths that are read are well-formed.
* `readSegments_of_wellFormed`: the segments that are read when none of them is a dot segment.
* `Url.resolved_path`: a URL that is read again has the same path.
-/

namespace UrlPaths

open PercentEncoding

/-! ### Segments -/

/-- The schemes that the path state tells apart. -/
inductive Scheme
  | file
  | special
  | other
  deriving DecidableEq, Repr

def Scheme.isSpecial : Scheme → Bool
  | .file => true
  | .special => true
  | .other => false

abbrev Segment := List Char

/-- The characters that end a segment. -/
def isSeparator (scheme : Scheme) (c : Char) : Bool := c == '/' || scheme.isSpecial && c == '\\'

/-- The path percent-encode set. -/
def inPathSet (c : Char) : Bool :=
  decide (c.toNat < 0x20) || decide (0x7E < c.toNat) ||
    [0x20, 0x22, 0x23, 0x3C, 0x3E, 0x3F, 0x5E, 0x60, 0x7B, 0x7D].contains c.toNat

/-- The characters as the path holds them. -/
def encodePath (cs : List Char) : List Char := encode (fun c => !inPathSet c) cs

/-- The spellings of a dot. -/
def dots : List Segment := [['.'], ['%', '2', 'e'], ['%', '2', 'E']]

def isSingleDot (segment : Segment) : Bool := dots.contains segment

def isDoubleDot (segment : Segment) : Bool :=
  (dots.flatMap fun first => dots.map fun second => first ++ second).contains segment

def isLetter (c : Char) : Bool := c.isAlpha

def isWindowsDrive : Segment → Bool
  | [a, b] => isLetter a && (b == ':' || b == '|')
  | _ => false

def isNormalizedWindowsDrive : Segment → Bool
  | [a, b] => isLetter a && b == ':'
  | _ => false

/-! ### The path state -/

/-- A path without its last segment; a drive letter is kept. -/
def shorten (scheme : Scheme) (path : List Segment) : List Segment :=
  match scheme, path with
  | .file, [segment] => if isNormalizedWindowsDrive segment then [segment] else []
  | _, path => path.dropLast

/-- The first segment of a file is normalized when it is a drive letter. -/
def normalizeDrive (scheme : Scheme) (path : List Segment) (segment : Segment) : Segment :=
  match scheme, path, segment with
  | .file, [], [a, b] => if isWindowsDrive [a, b] then [a, ':'] else [a, b]
  | _, _, segment => segment

/-- The path at the end of a segment; `slash` tells that a separator ended it. -/
def endSegment (scheme : Scheme) (slash : Bool) (path : List Segment) (segment : Segment) :
    List Segment :=
  if isDoubleDot segment then
    if slash then shorten scheme path else shorten scheme path ++ [[]]
  else if isSingleDot segment then
    if slash then path else path ++ [[]]
  else path ++ [normalizeDrive scheme path segment]

/-- The path state, with the path and the segment read so far. -/
def pathState (scheme : Scheme) : List Segment → Segment → List Char → List Segment
  | path, buffer, [] => endSegment scheme false path buffer
  | path, buffer, c :: rest =>
      if isSeparator scheme c then pathState scheme (endSegment scheme true path buffer) [] rest
      else pathState scheme path (buffer ++ encodePath [c]) rest

/-- The path of an input, after a first separator; tabs and line ends are removed from it. -/
def parsePath (scheme : Scheme) (input : List Char) : List Segment :=
  match input.filter fun c => !(['\t', '\n', '\r'].contains c) with
  | [] => if scheme.isSpecial then pathState scheme [] [] [] else []
  | c :: rest => pathState scheme [] [] (if isSeparator scheme c then rest else c :: rest)

/-- A path as a URL holds it. -/
def serialize (path : List Segment) : List Char := path.flatMap fun segment => '/' :: segment

/-! ### Dot segments -/

/-- A dot is the only character with the byte of a dot. -/
theorem utf8EncodeChar_eq_dot {c : Char} {front back : List UInt8}
    (h : String.utf8EncodeChar c ++ front = 0x2E :: back) : c = '.' ∧ front = back := by
  have hmem : 0x2E ∈ String.utf8EncodeChar c := by
    cases hbytes : String.utf8EncodeChar c with
    | nil => exact absurd hbytes String.utf8EncodeChar_ne_nil
    | cons b bytes =>
        rw [hbytes] at h
        rw [List.head_eq_of_cons_eq h]
        exact List.mem_cons_self
  have hc : c = '.' := eq_of_toNat_eq (toNat_of_mem_utf8EncodeChar hmem (by decide))
  subst hc
  exact ⟨rfl, List.tail_eq_of_cons_eq h⟩

theorem hexValue_eq_two {c : Char} (h : hexValue c = some 2) : c = '2' := by
  apply eq_of_toNat_eq
  change c.toNat = 0x32
  simp only [hexValue] at h
  split_ifs at h <;> simp only [Option.some.injEq] at h <;> omega

theorem hexValue_eq_fourteen {c : Char} (h : hexValue c = some 14) : c = 'e' ∨ c = 'E' := by
  have hcode : c.toNat = 0x65 ∨ c.toNat = 0x45 := by
    simp only [hexValue] at h
    split_ifs at h <;> simp only [Option.some.injEq] at h <;> omega
  exact hcode.imp eq_of_toNat_eq eq_of_toNat_eq

/-- The escapes of a dot. -/
theorem escaped_eq_dot {c a b : Char} (h : escaped c a b = some 0x2E) : [c, a, b] ∈ dots := by
  unfold escaped at h
  split at h
  · rename_i hc
    obtain ⟨high, hhigh, h⟩ := Option.bind_eq_some_iff.mp h
    obtain ⟨low, hlow, h⟩ := Option.bind_eq_some_iff.mp h
    have hhigh' := hexValue_lt hhigh
    have hlow' := hexValue_lt hlow
    have hbyte := congrArg UInt8.toNat (Option.some.inj h)
    simp only [UInt8.toNat_ofNat'] at hbyte
    have hdot : UInt8.toNat 0x2E = 0x2E := rfl
    obtain rfl : high = 2 := by omega
    obtain rfl : low = 14 := by omega
    obtain rfl := hc
    obtain rfl := hexValue_eq_two hhigh
    rcases hexValue_eq_fourteen hlow with rfl | rfl
    · exact List.mem_cons_of_mem _ List.mem_cons_self
    · exact List.mem_cons_of_mem _ (List.mem_cons_of_mem _ List.mem_cons_self)
  · cases h

/-- A text that is decoded to a dot and more begins with a spelling of a dot. -/
theorem exists_dot {cs : List Char} {bytes : List UInt8} (h : decode false cs = 0x2E :: bytes) :
    ∃ dot ∈ dots, ∃ rest, cs = dot ++ rest ∧ decode false rest = bytes := by
  cases cs using decode_induction with
  | nil => cases h
  | escape c a b byte rest hescape _ =>
      rw [decode_escape hescape] at h
      obtain ⟨rfl, hrest⟩ := List.cons.inj h
      exact ⟨[c, a, b], escaped_eq_dot hescape, rest, rfl, hrest⟩
  | single c rest hsingle _ =>
      rw [decode_literal hsingle, literal_false] at h
      obtain ⟨rfl, hrest⟩ := utf8EncodeChar_eq_dot h
      exact ⟨['.'], List.mem_cons_self, rest, rfl, hrest⟩

/-- **A single-dot segment is one that is decoded to a dot.** -/
theorem isSingleDot_iff {segment : Segment} :
    isSingleDot segment = true ↔ decode false segment = [0x2E] := by
  rw [isSingleDot, List.contains_iff_mem]
  constructor
  · intro h
    have hall : ∀ dot ∈ dots, decode false dot = [0x2E] := by decide +kernel
    exact hall segment h
  · intro h
    obtain ⟨dot, hdot, rest, rfl, hrest⟩ := exists_dot h
    rw [decode_eq_nil_iff.mp hrest, List.append_nil]
    exact hdot

/-- **A double-dot segment is one that is decoded to two dots.** -/
theorem isDoubleDot_iff {segment : Segment} :
    isDoubleDot segment = true ↔ decode false segment = [0x2E, 0x2E] := by
  rw [isDoubleDot, List.contains_iff_mem]
  constructor
  · intro h
    have hall : ∀ pair ∈ dots.flatMap fun first => dots.map fun second => first ++ second,
        decode false pair = [0x2E, 0x2E] := by decide +kernel
    exact hall segment h
  · intro h
    obtain ⟨first, hfirst, rest, rfl, hfirstRest⟩ := exists_dot h
    obtain ⟨second, hsecond, rest, rfl, hrest⟩ := exists_dot hfirstRest
    rw [decode_eq_nil_iff.mp hrest, List.append_nil]
    exact List.mem_flatMap.mpr ⟨first, hfirst, List.mem_map_of_mem hsecond⟩

/-! ### Well-formed paths -/

/-- A character that a path holds as it is. -/
def Clean (scheme : Scheme) (c : Char) : Prop :=
  isSeparator scheme c = false ∧ inPathSet c = false

/-- A segment **is kept** by the path state. -/
structure Kept (scheme : Scheme) (segment : Segment) : Prop where
  clean : ∀ c ∈ segment, Clean scheme c
  singleDot : isSingleDot segment = false
  doubleDot : isDoubleDot segment = false

/-- A path **is well-formed**: its segments are kept, and a first drive letter is normalized. -/
structure WellFormed (scheme : Scheme) (path : List Segment) : Prop where
  kept : ∀ segment ∈ path, Kept scheme segment
  drive : ∀ segment ∈ path.head?, normalizeDrive scheme [] segment = segment

theorem normalizeDrive_of_ne {scheme : Scheme} {path : List Segment} (h : path ≠ [])
    (segment : Segment) : normalizeDrive scheme path segment = segment := by
  cases path with
  | nil => exact absurd rfl h
  | cons first path => cases scheme <;> rfl

theorem normalizeDrive_of_not_drive {segment : Segment} (h : isWindowsDrive segment = false)
    (scheme : Scheme) (path : List Segment) : normalizeDrive scheme path segment = segment := by
  unfold normalizeDrive
  split
  · rw [h]
    rfl
  · rfl

/-- What a drive letter is normalized to. -/
theorem normalizeDrive_cases (scheme : Scheme) (path : List Segment) (segment : Segment) :
    normalizeDrive scheme path segment = segment ∨
      ∃ a, (a ∈ segment ∧ isLetter a = true) ∧ normalizeDrive scheme path segment = [a, ':'] := by
  unfold normalizeDrive
  split
  · split
    · rename_i a b hdrive
      have ha : isLetter a = true := (Bool.and_eq_true_iff.mp hdrive).1
      exact .inr ⟨a, ⟨List.mem_cons_self, ha⟩, rfl⟩
    · exact .inl rfl
  · exact .inl rfl

theorem normalizeDrive_idem (scheme : Scheme) (segment : Segment) :
    normalizeDrive scheme [] (normalizeDrive scheme [] segment) =
      normalizeDrive scheme [] segment := by
  rcases normalizeDrive_cases scheme [] segment with heq | ⟨a, -, heq⟩
  · rw [heq, heq]
  · rw [heq]
    cases scheme with
    | file => exact ite_self [a, ':']
    | special => rfl
    | other => rfl

theorem wellFormed_nil (scheme : Scheme) : WellFormed scheme [] :=
  ⟨fun _ h => absurd h List.not_mem_nil, fun _ h => by cases h⟩

theorem kept_nil (scheme : Scheme) : Kept scheme [] :=
  ⟨fun _ h => absurd h List.not_mem_nil, rfl, rfl⟩

/-- The drive letter that a kept segment is normalized to is kept. -/
theorem Kept.normalizeDrive {scheme : Scheme} {segment : Segment} (h : Kept scheme segment)
    (path : List Segment) : Kept scheme (normalizeDrive scheme path segment) := by
  rcases normalizeDrive_cases scheme path segment with heq | ⟨a, ⟨hmem, hletter⟩, heq⟩
  · rw [heq]
    exact h
  · rw [heq]
    constructor
    · intro c hc
      rcases List.mem_pair.mp hc with rfl | rfl
      · exact h.clean c hmem
      · cases scheme <;> exact ⟨rfl, rfl⟩
    · simp [isSingleDot, dots]
    · simp [isDoubleDot, dots]

/-- A kept segment behind a well-formed path. -/
theorem WellFormed.append {scheme : Scheme} {path : List Segment} (h : WellFormed scheme path)
    {segment : Segment} (hsegment : Kept scheme segment) :
    WellFormed scheme (path ++ [normalizeDrive scheme path segment]) := by
  constructor
  · intro other hother
    cases List.mem_append.mp hother with
    | inl hother => exact h.kept other hother
    | inr hother =>
        rw [List.mem_singleton.mp hother]
        exact hsegment.normalizeDrive path
  · cases path with
    | nil =>
        rintro first ⟨⟩
        exact normalizeDrive_idem scheme segment
    | cons first path => exact h.drive

theorem WellFormed.append_nil {scheme : Scheme} {path : List Segment}
    (h : WellFormed scheme path) : WellFormed scheme (path ++ [[]]) := by
  have happend := h.append (kept_nil scheme)
  have hnil : normalizeDrive scheme path [] = [] := by
    cases scheme with
    | file => cases path <;> rfl
    | special => rfl
    | other => rfl
  rwa [hnil] at happend

theorem WellFormed.dropLast {scheme : Scheme} {path : List Segment} (h : WellFormed scheme path) :
    WellFormed scheme path.dropLast := by
  refine ⟨fun segment hsegment => h.kept segment (List.mem_of_mem_dropLast hsegment), ?_⟩
  match path, h with
  | [], _ => exact fun _ hfirst => by cases hfirst
  | [_], _ => exact fun _ hfirst => by cases hfirst
  | _ :: _ :: _, h => exact h.drive

theorem WellFormed.shorten {scheme : Scheme} {path : List Segment} (h : WellFormed scheme path) :
    WellFormed scheme (shorten scheme path) := by
  unfold UrlPaths.shorten
  split
  · split
    · exact h
    · exact wellFormed_nil _
  · exact h.dropLast

/-- The end of a segment leaves a well-formed path. -/
theorem WellFormed.endSegment {scheme : Scheme} {path : List Segment} (h : WellFormed scheme path)
    {segment : Segment} (hclean : ∀ c ∈ segment, Clean scheme c) (slash : Bool) :
    WellFormed scheme (endSegment scheme slash path segment) := by
  unfold UrlPaths.endSegment
  split
  · split
    · exact h.shorten
    · exact h.shorten.append_nil
  · rename_i hdouble
    split
    · split
      · exact h
      · exact h.append_nil
    · rename_i hsingle
      have hkept : Kept scheme segment :=
        ⟨hclean, Bool.eq_false_iff.mpr hsingle, Bool.eq_false_iff.mpr hdouble⟩
      exact h.append hkept

/-! ### Clean characters -/

theorem clean_hexDigit (scheme : Scheme) {n : Nat} (h : n < 16) : Clean scheme (hexDigit n) := by
  have hall : ∀ n < 16, (hexDigit n == '/') = false ∧ (hexDigit n == '\\') = false ∧
      inPathSet (hexDigit n) = false := by decide
  obtain ⟨hslash, hback, hset⟩ := hall n h
  refine ⟨?_, hset⟩
  rw [isSeparator, hslash, hback, Bool.and_false, Bool.or_false]

theorem clean_percent (scheme : Scheme) : Clean scheme '%' := by
  cases scheme <;> exact ⟨rfl, rfl⟩

theorem encodePath_of_clean {scheme : Scheme} {c : Char} (h : Clean scheme c) :
    encodePath [c] = [c] := by
  have hkeep : (!inPathSet c) = true := by rw [h.2, Bool.not_false]
  simp only [encodePath, encode, List.flatMap_cons, List.flatMap_nil, hkeep, if_true,
    List.append_nil]

theorem clean_encodePath {scheme : Scheme} {c : Char} (h : isSeparator scheme c = false) :
    ∀ d ∈ encodePath [c], Clean scheme d := by
  cases hset : inPathSet c with
  | true =>
      have heq : encodePath [c] = encode (fun _ => false) [c] := by simp [encodePath, encode, hset]
      rw [heq]
      exact forall_mem_encode (clean_percent scheme) (fun _ hn => clean_hexDigit scheme hn)
        fun _ hkeep => by cases hkeep
  | false =>
      have hclean : Clean scheme c := ⟨h, hset⟩
      intro d hd
      rw [encodePath_of_clean hclean] at hd
      rw [List.mem_singleton.mp hd]
      exact hclean

/-- **The paths that the path state reads are well-formed.** -/
theorem wellFormed_pathState {scheme : Scheme} {path : List Segment} (h : WellFormed scheme path)
    {buffer : Segment} (hbuffer : ∀ c ∈ buffer, Clean scheme c) (input : List Char) :
    WellFormed scheme (pathState scheme path buffer input) := by
  induction input generalizing path buffer with
  | nil => exact h.endSegment hbuffer false
  | cons c rest ih =>
      unfold pathState
      split
      · exact ih (h.endSegment hbuffer true) fun _ hc => absurd hc List.not_mem_nil
      · rename_i hseparator
        refine ih h fun d hd => ?_
        cases List.mem_append.mp hd with
        | inl hd => exact hbuffer d hd
        | inr hd =>
            exact clean_encodePath (Bool.eq_false_iff.mpr hseparator) d hd

theorem wellFormed_parsePath (scheme : Scheme) (input : List Char) :
    WellFormed scheme (parsePath scheme input) := by
  have hread := fun rest =>
    wellFormed_pathState (wellFormed_nil scheme) (fun _ hc => absurd hc List.not_mem_nil) rest
  unfold parsePath
  split
  · split
    · exact hread []
    · exact wellFormed_nil scheme
  · exact hread _

/-! ### Reading segments -/

/-- Clean characters are read into the segment. -/
theorem pathState_append {scheme : Scheme} {cs : List Char} (h : ∀ c ∈ cs, Clean scheme c)
    (path : List Segment) (buffer : Segment) (rest : List Char) :
    pathState scheme path buffer (cs ++ rest) = pathState scheme path (buffer ++ cs) rest := by
  induction cs generalizing buffer with
  | nil => rw [List.nil_append, List.append_nil]
  | cons c cs ih =>
      obtain ⟨hc, hcs⟩ := List.forall_mem_cons.mp h
      rw [List.cons_append, pathState, if_neg (Bool.eq_false_iff.mp hc.1), encodePath_of_clean hc,
        ih hcs, List.append_assoc, List.singleton_append]

/-- A path with segments read behind it: a separator ends all of them but the last. -/
def readSegments (scheme : Scheme) : List Segment → List Segment → List Segment
  | path, [] => path
  | path, [segment] => endSegment scheme false path segment
  | path, segment :: rest => readSegments scheme (endSegment scheme true path segment) rest

theorem isSeparator_slash (scheme : Scheme) : isSeparator scheme '/' = true := rfl

theorem pathState_segments {scheme : Scheme} {segment : Segment} {segments : List Segment}
    (h : ∀ s ∈ segment :: segments, ∀ c ∈ s, Clean scheme c) (path : List Segment) :
    pathState scheme path [] (segment ++ serialize segments) =
      readSegments scheme path (segment :: segments) := by
  induction segments generalizing segment path with
  | nil =>
      rw [pathState_append (h segment List.mem_cons_self)]
      rfl
  | cons next segments ih =>
      obtain ⟨hsegment, hrest⟩ := List.forall_mem_cons.mp h
      rw [pathState_append hsegment, List.nil_append]
      change pathState scheme path segment ('/' :: (next ++ serialize segments)) = _
      rw [pathState, if_pos (isSeparator_slash scheme)]
      exact ih hrest (endSegment scheme true path segment)

theorem endSegment_of_kept {scheme : Scheme} {segment : Segment} (h : Kept scheme segment)
    (slash : Bool) (path : List Segment) :
    endSegment scheme slash path segment = path ++ [normalizeDrive scheme path segment] := by
  rw [endSegment, if_neg (Bool.eq_false_iff.mp h.doubleDot),
    if_neg (Bool.eq_false_iff.mp h.singleDot)]

/-- Segments that make a well-formed path are read behind it. -/
theorem readSegments_of_wellFormed {scheme : Scheme} {path segments : List Segment}
    (h : WellFormed scheme (path ++ segments)) :
    readSegments scheme path segments = path ++ segments := by
  induction segments generalizing path with
  | nil => exact (List.append_nil path).symm
  | cons segment segments ih =>
      have hkept := h.kept segment (List.mem_append_right path List.mem_cons_self)
      have hdrive : normalizeDrive scheme path segment = segment := by
        cases path with
        | nil => exact h.drive segment rfl
        | cons first path => exact normalizeDrive_of_ne (List.cons_ne_nil first path) segment
      have hend : ∀ slash, endSegment scheme slash path segment = path ++ [segment] := by
        intro slash
        rw [endSegment_of_kept hkept, hdrive]
      cases segments with
      | nil => exact hend false
      | cons next segments =>
          rw [readSegments, hend true, ih, List.append_assoc, List.singleton_append]
          · rwa [List.append_assoc, List.singleton_append]
          · simp

theorem mem_serialize {path : List Segment} {c : Char} (h : c ∈ serialize path) :
    c = '/' ∨ ∃ segment ∈ path, c ∈ segment := by
  obtain ⟨segment, hsegment, hc⟩ := List.mem_flatMap.mp h
  exact (List.mem_cons.mp hc).imp_right fun hc => ⟨segment, hsegment, hc⟩

/-- Nothing is removed from a serialized path. -/
theorem filter_serialize {scheme : Scheme} {path : List Segment}
    (h : ∀ segment ∈ path, ∀ c ∈ segment, Clean scheme c) :
    (serialize path).filter (fun c => !(['\t', '\n', '\r'].contains c)) = serialize path := by
  rw [List.filter_eq_self]
  intro c hc
  rcases mem_serialize hc with rfl | ⟨segment, hsegment, hc⟩
  · rfl
  · have hset := (h segment hsegment c hc).2
    by_contra hremoved
    rw [Bool.not_eq_true, Bool.not_eq_false', List.contains_iff_mem] at hremoved
    have hall : ['\t', '\n', '\r'].all inPathSet = true := by decide
    rw [List.all_eq_true.mp hall c hremoved] at hset
    cases hset

/-- **The path that a serialized path is read to.** -/
theorem parsePath_serialize {scheme : Scheme} {path : List Segment} (hne : path ≠ [])
    (h : ∀ segment ∈ path, ∀ c ∈ segment, Clean scheme c) :
    parsePath scheme (serialize path) = readSegments scheme [] path := by
  cases path with
  | nil => exact absurd rfl hne
  | cons segment segments =>
      rw [parsePath, filter_serialize h]
      change pathState scheme [] [] (if isSeparator scheme '/' then segment ++ serialize segments
        else _) = _
      rw [if_pos (isSeparator_slash scheme), pathState_segments h]

/-! ### URLs -/

/-- A URL with a path: the text before the path, the path, and the query and the fragment. A URL
with an opaque path (`data:x`), whose pathname setter does nothing, is not a `Url`. -/
structure Url where
  scheme : Scheme
  origin : String
  path : List Segment
  suffix : String
  wellFormed : WellFormed scheme path

namespace Url

def pathname (url : Url) : List Char := serialize url.path

def href (url : Url) : String := url.origin ++ String.ofList url.pathname ++ url.suffix

/-- A URL with another path. -/
def setPathname (url : Url) (value : List Char) : Url :=
  { url with
    path := parsePath url.scheme value
    wellFormed := wellFormed_parsePath url.scheme value }

/-- A URL as it is read again from its text. -/
def resolved (url : Url) : Url := url.setPathname url.pathname

/-- **A URL that is read again has the same path.** -/
theorem resolved_path {url : Url} (h : url.path ≠ []) : url.resolved.path = url.path := by
  have hclean : ∀ segment ∈ url.path, ∀ c ∈ segment, Clean url.scheme c :=
    fun segment hsegment => (url.wellFormed.kept segment hsegment).clean
  change parsePath url.scheme (serialize url.path) = url.path
  rw [parsePath_serialize h hclean]
  exact readSegments_of_wellFormed url.wellFormed

end Url

end UrlPaths
