import Cdngine.EvidencePayloads
import Cdngine.Readers

/-!
# Dates in ISO Texts

`new Date(text)` for the texts that `toISOString` writes. Days are counted by eras of 400 years that
begin on the first of March, so that a leap day is the last day of its year; the year of a day of an
era is found by taking the leap days off it.

A text in another form is no date here, which the platform may read as one.

## Main results

* `daysFromCivil_civilFromDays`: the day count of the calendar date of a day count.
* `readIsoDate_toISOString`: a date is read back from its text.
-/

namespace Cdngine

open Readers

/-! ### Years of an era -/

/-- The days of an era before one of its years. -/
def daysBefore (year : Int) : Int := 365 * year + year / 4 - year / 100

/-- The days of an era before a day of it, less the leap days. -/
def withoutLeapDays (day : Int) : Int := day - day / 1460 + day / 36524 - day / 146096

/-- The last day of a year of an era; only the last year of an era has the leap day of its
century. -/
def lastDay (year : Nat) : Int := if year = 399 then 146096 else daysBefore (year + 1 : Nat) - 1

theorem withoutLeapDays_mono {a b : Int} (h : a ≤ b) : withoutLeapDays a ≤ withoutLeapDays b := by
  have hstep : ∀ d, withoutLeapDays d ≤ withoutLeapDays (d + 1) := fun d => by
    simp only [withoutLeapDays]
    omega
  obtain ⟨n, rfl⟩ := Int.le.dest h
  clear h
  induction n with
  | zero => exact Int.le_of_eq (by rw [Int.natCast_zero, Int.add_zero])
  | succ n ih =>
      have hnext : a + ((n + 1 : Nat) : Int) = a + n + 1 := by omega
      rw [hnext]
      exact Int.le_trans ih (hstep _)

/-- The leap days taken off, a year of an era has 365 days. -/
theorem withoutLeapDays_years : ∀ year : Nat, year < 400 →
    365 * (year : Int) ≤ withoutLeapDays (daysBefore year) ∧
      withoutLeapDays (lastDay year) < 365 * ((year + 1 : Nat) : Int) ∧
      lastDay year - daysBefore year ≤ 365 := by
  decide +kernel

/-- Every day of an era is a day of one of its years. -/
theorem exists_year {day : Int} (h0 : 0 ≤ day) (h : day < 146097) :
    ∃ year : Nat, year < 400 ∧ daysBefore year ≤ day ∧ day ≤ lastDay year := by
  have hsearch : ∀ n : Nat, day < daysBefore n →
      ∃ year : Nat, year < n ∧ daysBefore year ≤ day ∧ day < daysBefore (year + 1 : Nat) := by
    intro n
    induction n with
    | zero =>
        intro hn
        simp only [daysBefore] at hn
        omega
    | succ n ih =>
        intro hn
        by_cases hlater : daysBefore n ≤ day
        · exact ⟨n, Nat.lt_succ_self n, hlater, hn⟩
        · obtain ⟨year, hyear, hbounds⟩ := ih (Int.not_le.mp hlater)
          exact ⟨year, Nat.lt_succ_of_lt hyear, hbounds⟩
  by_cases hlast : daysBefore 399 ≤ day
  · exact ⟨399, by decide, hlast, Int.le_of_lt_add_one h⟩
  · obtain ⟨year, hyear, hfirst, hnext⟩ := hsearch 399 (Int.not_le.mp hlast)
    refine ⟨year, Nat.lt_succ_of_lt hyear, hfirst, ?_⟩
    rw [lastDay, if_neg (Nat.ne_of_lt hyear)]
    exact Int.le_sub_one_of_lt hnext

/-- **The year of a day of an era**, and the day of that year. -/
theorem year_of_day {day : Int} (h0 : 0 ≤ day) (h : day < 146097) :
    ∃ year : Nat, year < 400 ∧ withoutLeapDays day / 365 = year ∧
      0 ≤ day - daysBefore year ∧ day - daysBefore year ≤ 365 := by
  obtain ⟨year, hyear, hfirst, hlast⟩ := exists_year h0 h
  obtain ⟨hlower, hupper, hlength⟩ := withoutLeapDays_years year hyear
  have hlower' := withoutLeapDays_mono hfirst
  have hupper' := withoutLeapDays_mono hlast
  refine ⟨year, hyear, ?_, by omega, by omega⟩
  push_cast at hupper
  omega

/-! ### Day counts -/

/-- The day count since the epoch of a date in the proleptic Gregorian calendar. -/
def daysFromCivil (date : Int × Int × Int) : Int :=
  let year := if date.2.1 ≤ 2 then date.1 - 1 else date.1
  let shifted := if date.2.1 ≤ 2 then date.2.1 + 9 else date.2.1 - 3
  let yearOfEra := year.fmod 400
  year.fdiv 400 * 146097 + daysBefore yearOfEra + ((153 * shifted + 2) / 5 + date.2.2 - 1) - 719468

/-- The parts of the date of a day count: the year of its era, the month counted from March, and
the day of the month. -/
theorem civilFromDays_parts (days : Int) :
    ∃ (year : Nat) (shifted day : Int), year < 400 ∧ 0 ≤ shifted ∧ shifted ≤ 11 ∧ 1 ≤ day ∧
      day ≤ 31 ∧
      (days + 719468).fmod 146097 = daysBefore year + ((153 * shifted + 2) / 5 + day - 1) ∧
      civilFromDays days =
        (year + (days + 719468).fdiv 146097 * 400 +
          (if (if shifted < 10 then shifted + 3 else shifted - 9) ≤ 2 then 1 else 0),
          if shifted < 10 then shifted + 3 else shifted - 9, day) := by
  have h0 : 0 ≤ (days + 719468).fmod 146097 := Int.fmod_nonneg_of_pos _ (by decide)
  have h : (days + 719468).fmod 146097 < 146097 := Int.fmod_lt_of_pos _ (by decide)
  obtain ⟨year, hyear, hspread, hlower, hupper⟩ := year_of_day h0 h
  simp only [withoutLeapDays, daysBefore] at hspread hlower hupper
  refine ⟨year, (5 * ((days + 719468).fmod 146097 - daysBefore year) + 2) / 153,
    (days + 719468).fmod 146097 - daysBefore year -
      (153 * ((5 * ((days + 719468).fmod 146097 - daysBefore year) + 2) / 153) + 2) / 5 + 1,
    hyear, ?_, ?_, ?_, ?_, ?_, ?_⟩
  · simp only [daysBefore]
    omega
  · simp only [daysBefore]
    omega
  · simp only [daysBefore]
    omega
  · simp only [daysBefore]
    omega
  · omega
  · simp only [civilFromDays, hspread, daysBefore]
    rfl

/-- **The day count of the date of a day count.** -/
theorem daysFromCivil_civilFromDays (days : Int) : daysFromCivil (civilFromDays days) = days := by
  obtain ⟨year, shifted, day, hyear, h0, h11, -, -, hday, hdate⟩ := civilFromDays_parts days
  have hsplit := Int.fdiv_mul_add_fmod (days + 719468) 146097
  have hera : ∀ era : Int, ((year : Int) + era * 400).fdiv 400 = era ∧
      ((year : Int) + era * 400).fmod 400 = year := fun era => by
    constructor
    · rw [Int.add_mul_fdiv_right _ _ (by decide), Int.fdiv_eq_ediv_of_nonneg _ (by decide)]
      omega
    · rw [Int.add_mul_fmod_self_right, Int.fmod_eq_emod_of_nonneg _ (by decide)]
      omega
  obtain ⟨hdiv, hmod⟩ := hera ((days + 719468).fdiv 146097)
  rw [hdate]
  by_cases hspring : shifted < 10
  · have hmonth : ¬ shifted + 3 ≤ 2 := by omega
    have hshifted : shifted + 3 - 3 = shifted := by omega
    simp only [daysFromCivil, hspring, if_true, hmonth, if_false, Int.add_zero, hdiv, hmod,
      hshifted]
    omega
  · have hmonth : shifted - 9 ≤ 2 := by omega
    have hshifted : shifted - 9 + 9 = shifted := by omega
    simp only [daysFromCivil, hspring, if_true, hmonth, if_false, Int.add_sub_cancel, hdiv, hmod,
      hshifted]
    omega

/-! ### Texts -/

/-- A number of some digits. -/
def readField (width : Nat) : Reader Nat := fun cs =>
  (readDigits 10 (cs.take width)).map fun n => (n, cs.drop width)

/-- A character. -/
def readMark (mark : Char) : Reader Unit := fun cs =>
  if cs.head? = some mark then some ((), cs.tail) else none

/-- A year: four digits, or a sign and six digits. -/
def readYear : Reader Int := fun cs =>
  if cs.head? = some '-' then (readField 6).change (fun n : Nat => -(n : Int)) cs.tail
  else if cs.head? = some '+' then (readField 6).change (fun n : Nat => (n : Int)) cs.tail
  else (readField 4).change (fun n : Nat => (n : Int)) cs

/-- A date and the time of day, as a time value. -/
def timeOf (date : Int × Int × Int) (hours minutes seconds ms : Nat) : Int :=
  daysFromCivil date * 86400000 + (((hours * 60 + minutes) * 60 + seconds) * 1000 + ms : Nat)

/-- The fields of a text. -/
def readDateFields : Reader Int :=
  readYear.andThen fun year => (readMark '-').andThen fun _ =>
  (readField 2).andThen fun month => (readMark '-').andThen fun _ =>
  (readField 2).andThen fun day => (readMark 'T').andThen fun _ =>
  (readField 2).andThen fun hours => (readMark ':').andThen fun _ =>
  (readField 2).andThen fun minutes => (readMark ':').andThen fun _ =>
  (readField 2).andThen fun seconds => (readMark '.').andThen fun _ =>
  (readField 3).andThen fun ms => (readMark 'Z').change fun _ =>
    timeOf (year, month, day) hours minutes seconds ms

/-- `new Date(text)` for a text that `toISOString` writes; `none` is no date. -/
def readIsoDate (text : String) : Option Instant :=
  (readDateFields text.toList).bind fun read =>
    if toISOString read.1 = text then some read.1 else none

/-- The characters of a number with leading zeros. -/
theorem padded_toList (n : Int) (width : Nat) :
    (padded n width).toList =
      List.replicate (width - (Nat.toDigits 10 n.natAbs).length) '0' ++
      Nat.toDigits 10 n.natAbs := by
  rw [padded, padStart, String.toList_append, String.toList_ofList, Nat.toString_eq_ofList_toDigits,
    String.toList_ofList, String.length_ofList]

/-- **A number with leading zeros is read back.** -/
theorem readField_padded {n : Int} {width : Nat}
    (h : (Nat.toDigits 10 n.natAbs).length ≤ width) (rest : List Char) :
    readField width ((padded n width).toList ++ rest) = some (n.natAbs, rest) := by
  have hlength : (padded n width).toList.length = width := by
    rw [padded_toList, List.length_append, List.length_replicate]
    omega
  have hread : readDigits 10 (padded n width).toList = some n.natAbs := by
    have hdigits := readDigits_toDigits n.natAbs
    have hzero : digitValue '0' = 0 := by decide
    rw [readDigits] at hdigits
    split at hdigits
    case isFalse => cases hdigits
    rename_i hall
    obtain ⟨-, hall⟩ := Bool.and_eq_true_iff.mp hall
    have hzeros : ∀ k, (List.replicate k '0').foldl (fun n c => 10 * n + digitValue c) 0 = 0 := by
      intro k
      induction k with
      | zero => rfl
      | succ k ih => rw [List.replicate_succ, List.foldl_cons, hzero]; exact ih
    have hall' : (!(padded n width).toList.isEmpty &&
        (padded n width).toList.all fun c => decide (digitValue c < 10)) = true := by
      rw [padded_toList, Bool.and_eq_true, Bool.not_eq_true', List.isEmpty_eq_false_iff,
        List.all_append, hall, Bool.and_true]
      refine ⟨List.append_ne_nil_of_right_ne_nil _ Nat.toDigits_ne_nil, ?_⟩
      rw [List.all_eq_true]
      intro c hc
      rw [List.eq_of_mem_replicate hc]
      decide
    rw [readDigits, if_pos hall', padded_toList, List.foldl_append, hzeros]
    exact hdigits
  rw [readField, List.take_left' hlength, List.drop_left' hlength, hread, Option.map_some]

theorem isDigit_of_mem_padded {n : Int} {width : Nat} {c : Char}
    (h : c ∈ (padded n width).toList) : c.isDigit = true := by
  rw [padded_toList, List.mem_append] at h
  cases h with
  | inl hzero => rw [List.eq_of_mem_replicate hzero]; decide
  | inr hdigit => exact isDigit_of_mem_toDigits_ten hdigit

theorem readMark_cons (mark : Char) (rest : List Char) :
    readMark mark (mark :: rest) = some ((), rest) := if_pos rfl

/-- The text of a year. -/
def yearText (year : Int) : String :=
  if 0 ≤ year ∧ year ≤ 9999 then padded year 4
  else (if year < 0 then "-" else "+") ++ padded year 6

/-- A year is read back from its text. -/
theorem readYear_yearText {year : Int} (h : year.natAbs < 1000000) (rest : List Char) :
    readYear ((yearText year).toList ++ rest) = some (year, rest) := by
  have hlength : (Nat.toDigits 10 year.natAbs).length ≤ 6 :=
    (Nat.length_toDigits_le_iff (by decide) (by decide)).mpr (by omega)
  have hwide := readField_padded hlength rest
  by_cases hshort : 0 ≤ year ∧ year ≤ 9999
  · have hlength' : (Nat.toDigits 10 year.natAbs).length ≤ 4 :=
      (Nat.length_toDigits_le_iff (by decide) (by decide)).mpr (by omega)
    have hfield := readField_padded hlength' rest
    have hhead : ∀ c, c.isDigit = false → ((padded year 4).toList ++ rest).head? ≠ some c := by
      intro c hc hhead
      have hne : (padded year 4).toList ≠ [] := by
        rw [padded_toList]
        exact List.append_ne_nil_of_right_ne_nil _ Nat.toDigits_ne_nil
      rw [List.head?_append_of_ne_nil _ hne] at hhead
      rw [isDigit_of_mem_padded (List.mem_of_mem_head? hhead)] at hc
      cases hc
    have hvalue : ((year.natAbs : Nat) : Int) = year := by omega
    rw [yearText, if_pos hshort, readYear, if_neg (hhead '-' (by decide)),
      if_neg (hhead '+' (by decide)), Reader.change_of_eq hfield, hvalue]
  · rw [yearText, if_neg hshort]
    by_cases hnegative : year < 0
    · have hvalue : -((year.natAbs : Nat) : Int) = year := by omega
      have hsign : ("-" ++ padded year 6).toList ++ rest =
          '-' :: ((padded year 6).toList ++ rest) := by
        rw [String.toList_append]
        rfl
      rw [if_pos hnegative, hsign, readYear, if_pos List.head?_cons, List.tail_cons,
        Reader.change_of_eq hwide, hvalue]
    · have hvalue : ((year.natAbs : Nat) : Int) = year := by omega
      have hsign : ("+" ++ padded year 6).toList ++ rest =
          '+' :: ((padded year 6).toList ++ rest) := by
        rw [String.toList_append]
        rfl
      have hplus : ('+' :: ((padded year 6).toList ++ rest)).head? ≠ some '-' := by
        rw [List.head?_cons]
        decide
      rw [if_neg hnegative, hsign, readYear, if_neg hplus, if_pos List.head?_cons, List.tail_cons,
        Reader.change_of_eq hwide, hvalue]

/-- The characters of the text of a date. -/
theorem toISOString_toList (t : Instant) :
    (toISOString t).toList =
      (yearText (civilFromDays (t.fdiv 86400000)).1).toList ++ '-' ::
        ((padded (civilFromDays (t.fdiv 86400000)).2.1 2).toList ++ '-' ::
          ((padded (civilFromDays (t.fdiv 86400000)).2.2 2).toList ++ 'T' ::
            ((padded (t.fmod 86400000 / 3600000) 2).toList ++ ':' ::
              ((padded (t.fmod 86400000 / 60000 % 60) 2).toList ++ ':' ::
                ((padded (t.fmod 86400000 / 1000 % 60) 2).toList ++ '.' ::
                  ((padded (t.fmod 86400000 % 1000) 3).toList ++ ['Z'])))))) := by
  have htext : toISOString t = yearText (civilFromDays (t.fdiv 86400000)).1 ++ "-" ++
      padded (civilFromDays (t.fdiv 86400000)).2.1 2 ++ "-" ++
      padded (civilFromDays (t.fdiv 86400000)).2.2 2 ++ "T" ++
      padded (t.fmod 86400000 / 3600000) 2 ++ ":" ++ padded (t.fmod 86400000 / 60000 % 60) 2 ++
      ":" ++ padded (t.fmod 86400000 / 1000 % 60) 2 ++ "." ++
      padded (t.fmod 86400000 % 1000) 3 ++ "Z" := rfl
  have hdash : "-".toList = ['-'] := rfl
  have htime : "T".toList = ['T'] := rfl
  have hcolon : ":".toList = [':'] := rfl
  have hpoint : ".".toList = ['.'] := rfl
  have hzone : "Z".toList = ['Z'] := rfl
  rw [htext]
  simp only [String.toList_append, List.append_assoc, hdash, htime, hcolon, hpoint, hzone,
    List.cons_append, List.nil_append]

/-- The greatest distance of a date from the epoch. -/
def maxTime : Int := 8640000000000000

/-- The fields of a date that is not too far from the epoch. -/
theorem civilFromDays_bounds {days : Int} (hlower : -100000000 ≤ days) (hupper : days ≤ 100000000) :
    (civilFromDays days).1.natAbs < 1000000 ∧
      (1 ≤ (civilFromDays days).2.1 ∧ (civilFromDays days).2.1 ≤ 12) ∧
      1 ≤ (civilFromDays days).2.2 ∧ (civilFromDays days).2.2 ≤ 31 := by
  obtain ⟨year, shifted, day, hyear, h0, h11, hfirst, hlast, -, hdate⟩ := civilFromDays_parts days
  have hera := Int.fdiv_mul_add_fmod (days + 719468) 146097
  have hera0 : 0 ≤ (days + 719468).fmod 146097 := Int.fmod_nonneg_of_pos _ (by decide)
  have hera1 : (days + 719468).fmod 146097 < 146097 := Int.fmod_lt_of_pos _ (by decide)
  rw [hdate]
  generalize (days + 719468).fdiv 146097 = era at hera ⊢
  refine ⟨?_, ⟨?_, ?_⟩, hfirst, hlast⟩
  · have hinner : ∀ x : Int, x = 0 ∨ x = 1 → ((year : Int) + era * 400 + x).natAbs < 1000000 := by
      intro x hx
      omega
    have hbit : ∀ (p : Prop) [Decidable p],
        (if p then (1 : Int) else 0) = 0 ∨ (if p then (1 : Int) else 0) = 1 := by
      intro p _
      by_cases hp : p
      · exact .inr (if_pos hp)
      · exact .inl (if_neg hp)
    exact hinner _ (hbit _)
  · change 1 ≤ if shifted < 10 then shifted + 3 else shifted - 9
    split <;> omega
  · change (if shifted < 10 then shifted + 3 else shifted - 9) ≤ 12
    split <;> omega

/-- **A date is read back from its text.** -/
theorem readIsoDate_toISOString {t : Int} (hlower : -maxTime ≤ t) (hupper : t ≤ maxTime) :
    readIsoDate (toISOString t) = some t := by
  have hlower' : -8640000000000000 ≤ t := hlower
  have hupper' : t ≤ 8640000000000000 := hupper
  have hday : t.fdiv 86400000 * 86400000 + t.fmod 86400000 = t := Int.fdiv_mul_add_fmod _ _
  have h0 : 0 ≤ t.fmod 86400000 := Int.fmod_nonneg_of_pos _ (by decide)
  have h1 : t.fmod 86400000 < 86400000 := Int.fmod_lt_of_pos _ (by decide)
  obtain ⟨hyear, ⟨hmonth, hmonth'⟩, hdate, hdate'⟩ :=
    civilFromDays_bounds (show -100000000 ≤ t.fdiv 86400000 by omega) (by omega)
  have hcivil := daysFromCivil_civilFromDays (t.fdiv 86400000)
  have hread : readDateFields (toISOString t).toList = some (t, []) := by
    rw [toISOString_toList]
    generalize civilFromDays (t.fdiv 86400000) = civil at hyear hmonth hmonth' hdate hdate' hcivil ⊢
    generalize t.fdiv 86400000 = days at hday hcivil
    generalize t.fmod 86400000 = ms at hday h0 h1 ⊢
    have hdigits : ∀ {n : Int} (width : Nat), n.natAbs < 10 ^ width → 0 < width →
        (Nat.toDigits 10 n.natAbs).length ≤ width := fun width h hwidth =>
      (Nat.length_toDigits_le_iff (by decide) hwidth).mpr h
    rw [readDateFields, Reader.andThen_of_eq (readYear_yearText hyear _),
      Reader.andThen_of_eq (readMark_cons '-' _),
      Reader.andThen_of_eq (readField_padded (hdigits 2 (by omega) (by decide)) _),
      Reader.andThen_of_eq (readMark_cons '-' _),
      Reader.andThen_of_eq (readField_padded (hdigits 2 (by omega) (by decide)) _),
      Reader.andThen_of_eq (readMark_cons 'T' _),
      Reader.andThen_of_eq (readField_padded (hdigits 2 (by omega) (by decide)) _),
      Reader.andThen_of_eq (readMark_cons ':' _),
      Reader.andThen_of_eq (readField_padded (hdigits 2 (by omega) (by decide)) _),
      Reader.andThen_of_eq (readMark_cons ':' _),
      Reader.andThen_of_eq (readField_padded (hdigits 2 (by omega) (by decide)) _),
      Reader.andThen_of_eq (readMark_cons '.' _),
      Reader.andThen_of_eq (readField_padded (hdigits 3 (by omega) (by decide)) _),
      Reader.change_of_eq (readMark_cons 'Z' _)]
    have hfields : (civil.1, ((civil.2.1.natAbs : Nat) : Int), ((civil.2.2.natAbs : Nat) : Int)) =
        civil := by
      rw [Int.natAbs_of_nonneg (by omega), Int.natAbs_of_nonneg (by omega)]
    rw [timeOf, hfields, hcivil]
    refine congrArg (fun t : Int => some (t, [])) ?_
    omega
  rw [readIsoDate, hread, Option.bind_some, if_pos rfl]

end Cdngine
