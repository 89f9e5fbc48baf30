import Mathlib.Data.List.Basic
import Mathlib.Tactic.IntervalCases
import StylesheetRunner.Instant

/-!
The calendar by which points in time are written. Days are counted here as a reader of a date counts
them, year by year and month by month, and every date that is written is the one that is reached so.
-/

namespace StylesheetRunner.Instant

/-- Every fourth year has a leap day, except that of the years that end a century only every fourth
has one. -/
def IsLeap (year : Nat) : Prop :=
  4 ∣ year ∧ (100 ∣ year → 400 ∣ year)

instance : DecidablePred IsLeap := fun _ => inferInstanceAs (Decidable (_ ∧ _))

def yearLength (year : Nat) : Nat :=
  if IsLeap year then 366 else 365

def monthLengths (year : Nat) : List Nat :=
  [31, if IsLeap year then 29 else 28, 31, 30, 31, 30, 31, 31, 30, 31, 30, 31]

def daysBefore (year : Nat) : Nat :=
  ((List.range' 1970 (year - 1970)).map yearLength).sum

def dayNumber? (year month day : Nat) : Option Nat :=
  match (monthLengths year)[month - 1]? with
  | some length =>
    if 1970 ≤ year ∧ 1 ≤ month ∧ 1 ≤ day ∧ day ≤ length then
      some (daysBefore year + ((monthLengths year).take (month - 1)).sum + (day - 1))
    else none
  | none => none

/-! Eras of four hundred years, which begin in March. -/

/-- A day of an era lies in a century, in a cycle of four years of the century, in a year of the
cycle, and some days behind the beginning of that year. -/
structure EraDay (day century cycle year rest : Nat) : Prop where
  day_eq : day = 36524 * century + 1461 * cycle + 365 * year + rest
  century_le : century ≤ 3
  cycle_le : cycle ≤ 24
  year_le : year ≤ 3
  rest_le : rest ≤ 365
  leap : rest = 365 → year = 3 ∧ (cycle < 24 ∨ century = 3)

theorem exists_eraDay {day : Nat} (small : day < 146097) :
    ∃ century cycle year rest, EraDay day century cycle year rest := by
  -- The last century and the last year of a cycle may be one day longer than the others.
  have few : day - 36524 * min 3 (day / 36524) ≤ 36524 := by omega
  generalize century_eq : min 3 (day / 36524) = century at few
  obtain ⟨in_century, day_eq⟩ : ∃ in_century, day = 36524 * century + in_century :=
    Nat.exists_eq_add_of_le (by omega)
  have cycle_le : in_century / 1461 ≤ 24 := by omega
  generalize cycle_eq : in_century / 1461 = cycle at cycle_le
  obtain ⟨in_cycle, in_century_eq⟩ : ∃ in_cycle, in_century = 1461 * cycle + in_cycle :=
    Nat.exists_eq_add_of_le (by omega)
  exact ⟨century, cycle, min 3 (in_cycle / 365), in_cycle - 365 * min 3 (in_cycle / 365),
    by omega, by omega, by omega, by omega, by omega, by omega⟩

section

variable {day century cycle year rest : Nat}

theorem EraDay.yearOfEra_eq (split : EraDay day century cycle year rest) :
    (day - day / 1460 + day / 36524 - day / 146096) / 365 = 100 * century + 4 * cycle + year := by
  obtain ⟨day_eq, century_le, cycle_le, year_le, rest_le, leap⟩ := split
  by_cases last : day = 146096
  · subst last
    omega
  · have in_century : day / 36524 = century := by omega
    have in_era : day / 146096 = 0 := by omega
    obtain ⟨late, late_le, late_eq⟩ : ∃ late ≤ 1, day / 1460 = 25 * century + cycle + late :=
      ⟨(24 * century + cycle + 365 * year + rest) / 1460, by omega, by omega⟩
    have counted : day - day / 1460 + day / 36524 - day / 146096 =
        365 * (100 * century + 4 * cycle + year) + (rest - late) := by omega
    rw [counted]
    omega

theorem EraDay.dayOfYear_eq (split : EraDay day century cycle year rest) :
    day - (365 * (100 * century + 4 * cycle + year) + (100 * century + 4 * cycle + year) / 4 -
      (100 * century + 4 * cycle + year) / 100) = rest := by
  obtain ⟨day_eq, -, cycle_le, year_le, -, -⟩ := split
  have fourth : (100 * century + 4 * cycle + year) / 4 = 25 * century + cycle := by omega
  have hundredth : (100 * century + 4 * cycle + year) / 100 = century := by omega
  rw [fourth, hundredth]
  omega

theorem EraDay.isLeap (split : EraDay day century cycle year 365) (era : Nat) :
    IsLeap (100 * century + 4 * cycle + year + 400 * era + 1) := by
  obtain ⟨-, -, cycle_le, -, -, leap⟩ := split
  obtain ⟨rfl, before⟩ := leap rfl
  have fourth : 100 * century + 4 * cycle + 3 + 400 * era + 1 =
      4 * (25 * century + cycle + 1 + 100 * era) := by omega
  refine ⟨⟨_, fourth⟩, fun hundredth => ?_⟩
  have split : 100 * century + 4 * cycle + 3 + 400 * era + 1 =
      100 * (century + 4 * era) + 4 * (cycle + 1) := by omega
  rw [split, Nat.dvd_add_right (Nat.dvd_mul_right ..)] at hundredth
  have last : cycle = 24 := by omega
  have century_eq : century = 3 := before.resolve_left (by omega)
  subst last century_eq
  exact ⟨era + 1, by omega⟩

end

/-! Leap days, and the days before a year. -/

def leapDays (year : Nat) : Nat :=
  year / 4 - year / 100 + year / 400

theorem leapDays_add_one (year : Nat) :
    365 + leapDays (year + 1) = yearLength (year + 1) + leapDays year := by
  have fewer : year / 100 ≤ year / 4 := Nat.div_le_div_left (by decide) (by decide)
  have of_hundred : 100 ∣ year + 1 → 4 ∣ year + 1 := Nat.dvd_trans (by decide)
  have of_era : 400 ∣ year + 1 → 100 ∣ year + 1 := Nat.dvd_trans (by decide)
  simp only [leapDays, yearLength, IsLeap, Nat.succ_div]
  generalize year / 4 = fourth, year / 100 = hundredth, year / 400 = eras at *
  by_cases quarter : 4 ∣ year + 1
  · by_cases hundred : 100 ∣ year + 1
    · by_cases era : 400 ∣ year + 1
      · simp only [quarter, hundred, era, imp_self, and_self, if_true]
        omega
      · simp only [quarter, hundred, era, forall_const, and_false, if_true, if_false]
        omega
    · have no_era : ¬ 400 ∣ year + 1 := mt of_era hundred
      simp only [quarter, hundred, no_era, false_imp_iff, and_self, if_true, if_false]
      omega
  · have no_hundred : ¬ 100 ∣ year + 1 := mt of_hundred quarter
    have no_era : ¬ 400 ∣ year + 1 := mt of_era no_hundred
    simp only [quarter, no_hundred, no_era, false_and, if_false]
    omega

theorem monotone_leapDays : Monotone leapDays := by
  refine monotone_nat_of_le_succ fun year => ?_
  have step := leapDays_add_one year
  have least : 365 ≤ yearLength (year + 1) := by
    unfold yearLength
    split <;> decide
  omega

theorem leapDays_of_era {century cycle year : Nat} (era : Nat) (century_le : century ≤ 3)
    (cycle_le : cycle ≤ 24) (year_le : year ≤ 3) :
    leapDays (100 * century + 4 * cycle + year + 400 * era) = 24 * century + cycle + 97 * era := by
  have fourth : (100 * century + 4 * cycle + year + 400 * era) / 4 =
    25 * century + cycle + 100 * era := by omega
  have hundredth : (100 * century + 4 * cycle + year + 400 * era) / 100 = century + 4 * era := by
    omega
  have eras : (100 * century + 4 * cycle + year + 400 * era) / 400 = era := by omega
  rw [leapDays, fourth, hundredth, eras]
  omega

theorem daysBefore_add_one {year : Nat} (late : 1970 ≤ year) :
    daysBefore (year + 1) = daysBefore year + yearLength year := by
  have more : year + 1 - 1970 = year - 1970 + 1 := Nat.sub_add_comm late
  unfold daysBefore
  rw [more, List.range'_1_concat, List.map_append, List.sum_append, List.map_singleton,
    List.sum_singleton, Nat.add_sub_of_le late]

theorem daysBefore_eq {year : Nat} (late : 1970 ≤ year) :
    daysBefore year + 719162 = 365 * (year - 1) + leapDays (year - 1) := by
  induction year, late using Nat.le_induction with
  | base => rfl
  | succ year late ih =>
    have step := leapDays_add_one (year - 1)
    rw [Nat.sub_add_cancel (Nat.one_le_of_lt late)] at step
    rw [daysBefore_add_one late, Nat.add_sub_cancel]
    omega

/-! From years that begin in March to dates. -/

def dateBehindMarch (year day : Nat) : Nat × Nat × Nat :=
  let month := (5 * day + 2) / 153
  (if month < 10 then year else year + 1, if month < 10 then month + 3 else month - 9,
    day - (153 * month + 2) / 5 + 1)

theorem civilDate_eq {days era dayOfEra yearOfEra dayOfYear : Nat}
    (era_eq : (days + 719468) / 146097 = era) (day_eq : (days + 719468) % 146097 = dayOfEra)
    (year_eq : (dayOfEra - dayOfEra / 1460 + dayOfEra / 36524 - dayOfEra / 146096) / 365 =
      yearOfEra)
    (rest_eq : dayOfEra - (365 * yearOfEra + yearOfEra / 4 - yearOfEra / 100) = dayOfYear)
    (rest_le : dayOfYear ≤ 365) :
    civilDate days = dateBehindMarch (yearOfEra + 400 * era) dayOfYear := by
  unfold civilDate dateBehindMarch
  have month_le : (5 * dayOfYear + 2) / 153 ≤ 11 := by omega
  simp only [era_eq, day_eq, year_eq, rest_eq]
  generalize (5 * dayOfYear + 2) / 153 = month at *
  by_cases early : month < 10
  · have spring : ¬ month + 3 ≤ 2 := by omega
    simp only [if_pos early, if_neg spring, Nat.add_zero]
  · have winter : month - 9 ≤ 2 := by omega
    simp only [if_neg early, if_pos winter]

theorem exists_civilDate_eq (days : Nat) :
    ∃ year day, civilDate days = dateBehindMarch year day ∧
      days + 719468 = 365 * year + leapDays year + day ∧ day ≤ 365 ∧
      (day = 365 → IsLeap (year + 1)) := by
  have small : (days + 719468) % 146097 < 146097 := Nat.mod_lt _ (by decide)
  obtain ⟨century, cycle, year, day, split⟩ := exists_eraDay small
  have whole := Nat.div_add_mod (days + 719468) 146097
  obtain ⟨era, era_eq⟩ : ∃ era, (days + 719468) / 146097 = era := ⟨_, rfl⟩
  refine ⟨_, day, civilDate_eq era_eq rfl split.yearOfEra_eq split.dayOfYear_eq split.rest_le, ?_,
    split.rest_le, ?_⟩
  · rw [split.day_eq, era_eq] at whole
    rw [leapDays_of_era _ split.century_le split.cycle_le split.year_le]
    omega
  · rintro rfl
    exact split.isLeap era

theorem getElem?_monthLengths (year : Nat) {month : Nat} (early : month < 10) :
    (monthLengths year)[month + 2]? =
      some ((153 * (month + 1) + 2) / 5 - (153 * month + 2) / 5) := by
  interval_cases month <;> rfl

theorem sum_take_monthLengths (year : Nat) {month : Nat} (early : month < 10) :
    365 + ((monthLengths year).take (month + 2)).sum =
      yearLength year + 59 + (153 * month + 2) / 5 := by
  unfold yearLength monthLengths
  interval_cases month <;> split <;> simp

theorem dayNumber?_eq_some {year month day length : Nat} (late : 1970 ≤ year)
    (found : (monthLengths year)[month]? = some length) (day_lt : day < length) :
    dayNumber? year (month + 1) (day + 1) =
      some (daysBefore year + ((monthLengths year).take month).sum + day) := by
  rw [dayNumber?, Nat.add_sub_cancel, found]
  exact if_pos ⟨late, Nat.le_add_left 1 month, Nat.le_add_left 1 day, day_lt⟩

section

variable {days year day month : Nat}

/-- Days are counted from 1970, so a year that begins in March begins no earlier than 1969. -/
theorem le_of_days (days_eq : days + 719468 = 365 * year + leapDays year + day)
    (day_le : day ≤ 365) : 1969 ≤ year ∧ (day < 306 → 1970 ≤ year) := by
  have few (before : year ≤ 1969) : leapDays year ≤ 477 := monotone_leapDays before
  constructor
  · by_contra before
    have bound := few (by omega)
    omega
  · intro early
    by_contra before
    have bound := few (by omega)
    omega

theorem dayNumber?_of_spring (days_eq : days + 719468 = 365 * year + leapDays year + day)
    (early : month < 10) (least : 153 * month ≤ 5 * day + 2)
    (most : 5 * day + 2 < 153 * month + 153) :
    dayNumber? year (month + 3) (day - (153 * month + 2) / 5 + 1) = some days := by
  have late : 1970 ≤ year := (le_of_days days_eq (by omega)).2 (by omega)
  have before := daysBefore_eq late
  have this_year := leapDays_add_one (year - 1)
  rw [Nat.sub_add_cancel (Nat.one_le_of_lt late)] at this_year
  have months := sum_take_monthLengths year early
  rw [dayNumber?_eq_some late (getElem?_monthLengths year early) (by omega)]
  refine congrArg some ?_
  omega

/-- January and February end a year that began in March. -/
theorem dayNumber?_of_winter (days_eq : days + 719468 = 365 * year + leapDays year + day)
    (day_le : day ≤ 365) (leap : day = 365 → IsLeap (year + 1)) (winter : month = 0 ∨ month = 1)
    (least : 153 * (month + 10) ≤ 5 * day + 2) (most : 5 * day + 2 < 153 * (month + 10) + 153) :
    dayNumber? (year + 1) (month + 1) (day - (153 * (month + 10) + 2) / 5 + 1) = some days := by
  have late : 1970 ≤ year + 1 := Nat.succ_le_succ (le_of_days days_eq day_le).1
  have before := daysBefore_eq late
  rw [Nat.add_sub_cancel] at before
  rcases winter with rfl | rfl
  · have january : (monthLengths (year + 1))[0]? = some 31 := rfl
    rw [dayNumber?_eq_some late january (by omega)]
    refine congrArg some ?_
    rw [List.take_zero, List.sum_nil]
    omega
  · have february : (monthLengths (year + 1))[1]? =
      some (if IsLeap (year + 1) then 29 else 28) := rfl
    have day_lt : day - (153 * (1 + 10) + 2) / 5 < if IsLeap (year + 1) then 29 else 28 := by
      split
      next => omega
      next no_leap =>
        have other := mt leap no_leap
        omega
    have january : ((monthLengths (year + 1)).take 1).sum = 31 := rfl
    rw [dayNumber?_eq_some late february day_lt, january]
    refine congrArg some ?_
    omega

end

theorem dayNumber?_civilDate (days : Nat) :
    dayNumber? (civilDate days).1 (civilDate days).2.1 (civilDate days).2.2 = some days := by
  obtain ⟨year, day, date_eq, days_eq, day_le, leap⟩ := exists_civilDate_eq days
  rw [date_eq]
  unfold dateBehindMarch
  dsimp only
  have month_le : (5 * day + 2) / 153 ≤ 11 := by omega
  have least : 153 * ((5 * day + 2) / 153) ≤ 5 * day + 2 := Nat.mul_div_le _ _
  have most : 5 * day + 2 < 153 * ((5 * day + 2) / 153) + 153 :=
    Nat.lt_mul_div_succ _ (by decide)
  generalize (5 * day + 2) / 153 = month at *
  by_cases early : month < 10
  · rw [if_pos early, if_pos early]
    exact dayNumber?_of_spring days_eq early least most
  · obtain ⟨month, rfl⟩ : ∃ later, month = later + 10 := Nat.exists_eq_add_of_le' (by omega)
    have shown : month + 10 - 9 = month + 1 := by omega
    rw [if_neg early, if_neg early, shown]
    exact dayNumber?_of_winter days_eq day_le leap (by omega) least most

end StylesheetRunner.Instant
