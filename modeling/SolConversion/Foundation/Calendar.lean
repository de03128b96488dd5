import Mathlib.Data.Int.Notation
import Mathlib.Data.Nat.Notation
import Mathlib.Tactic.Common

/-!
# The Gregorian calendar

Days are numbered from the first of January 1970, also backwards and before the calendar came into
use.  A date is a year, a month and a day that exist; dates and day numbers correspond.
-/

namespace Calendar

def isLeap (year : ℤ) : Bool :=
  year % 4 == 0 && (year % 100 != 0 || year % 400 == 0)

def daysInYear (year : ℤ) : ℤ := if isLeap year then 366 else 365

/-- The first day of a year. -/
def dayFromYear (year : ℤ) : ℤ :=
  365 * (year - 1970) + (year - 1969) / 4 - (year - 1901) / 100 + (year - 1601) / 400

/-- The year of a day, from the mean length of a year and a correction by one. -/
def yearFromDay (day : ℤ) : ℤ :=
  let estimate := 1970 + day * 400 / 146097
  if day < dayFromYear estimate then estimate - 1
  else if dayFromYear (estimate + 1) ≤ day then estimate + 1
  else estimate

theorem isLeap_iff {year : ℤ} :
    isLeap year = true ↔ year % 4 = 0 ∧ (year % 100 ≠ 0 ∨ year % 400 = 0) := by
  simp [isLeap]

theorem dayFromYear_succ (year : ℤ) :
    dayFromYear (year + 1) = dayFromYear year + daysInYear year := by
  by_cases leap : isLeap year = true
  · rw [daysInYear, if_pos leap]
    rw [isLeap_iff] at leap
    unfold dayFromYear
    omega
  · rw [daysInYear, if_neg leap]
    rw [isLeap_iff] at leap
    unfold dayFromYear
    omega

theorem yearFromDay_bounds (day : ℤ) :
    dayFromYear (yearFromDay day) ≤ day ∧ day < dayFromYear (yearFromDay day + 1) := by
  unfold yearFromDay dayFromYear
  grind

theorem dayFromYear_mono {year later : ℤ} (before : year ≤ later) :
    dayFromYear year ≤ dayFromYear later := by
  unfold dayFromYear
  omega

private theorem yearFromDay_eq {day year : ℤ} (begun : dayFromYear year ≤ day)
    (lasts : day < dayFromYear (year + 1)) : yearFromDay day = year := by
  obtain ⟨begun', lasts'⟩ := yearFromDay_bounds day
  rcases Int.lt_trichotomy (yearFromDay day) year with earlier | same | later
  · have ordered := dayFromYear_mono (Int.add_one_le_of_lt earlier)
    omega
  · exact same
  · have ordered := dayFromYear_mono (Int.add_one_le_of_lt later)
    omega

def daysInMonth (leap : Bool) : ℕ → ℕ
  | 1 => 31
  | 2 => if leap then 29 else 28
  | 3 => 31
  | 4 => 30
  | 5 => 31
  | 6 => 30
  | 7 => 31
  | 8 => 31
  | 9 => 30
  | 10 => 31
  | 11 => 30
  | 12 => 31
  | _ => 0

theorem daysInMonth_le (leap : Bool) (month : ℕ) : daysInMonth leap month ≤ 31 := by
  unfold daysInMonth
  grind

/-- The days of a year before a month. -/
def monthStart (leap : Bool) : ℕ → ℕ
  | 0 => 0
  | month + 1 => monthStart leap month + daysInMonth leap month

/-- The first month from some month on that does not end before a day of the year. -/
def monthFrom (leap : Bool) (dayInYear month : ℕ) : ℕ → ℕ
  | 0 => month
  | later + 1 =>
      if dayInYear < monthStart leap (month + 1) then month
      else monthFrom leap dayInYear (month + 1) later

/-- The month of a day of a year, where days are counted from zero and months from one. -/
def monthOf (leap : Bool) (dayInYear : ℕ) : ℕ := monthFrom leap dayInYear 1 11

theorem monthStart_mono (leap : Bool) {month later : ℕ} (before : month ≤ later) :
    monthStart leap month ≤ monthStart leap later := by
  induction before with
  | refl => exact Nat.le_refl _
  | step _ ih => exact Nat.le_trans ih (Nat.le_add_right _ _)

/-- The twelve months make a year. -/
theorem monthStart_thirteen (year : ℤ) :
    (monthStart (isLeap year) 13 : ℤ) = daysInYear year := by
  rw [daysInYear]
  cases isLeap year <;> rfl

theorem monthFrom_bounds {leap : Bool} {dayInYear month later : ℕ} :
    month ≤ monthFrom leap dayInYear month later ∧
      monthFrom leap dayInYear month later ≤ month + later := by
  induction later generalizing month with
  | zero => exact ⟨Nat.le_refl _, Nat.le_refl _⟩
  | succ later ih =>
      rw [monthFrom]
      split
      · exact ⟨Nat.le_refl _, Nat.le_add_right _ _⟩
      · have bounds := @ih (month + 1)
        omega

private theorem monthFrom_contains {leap : Bool} {dayInYear month later : ℕ}
    (begun : monthStart leap month ≤ dayInYear)
    (lasts : dayInYear < monthStart leap (month + later + 1)) :
    monthStart leap (monthFrom leap dayInYear month later) ≤ dayInYear ∧
      dayInYear < monthStart leap (monthFrom leap dayInYear month later + 1) := by
  induction later generalizing month with
  | zero => exact ⟨begun, lasts⟩
  | succ later ih =>
      rw [monthFrom]
      split
      · exact ⟨begun, ‹_›⟩
      · rename_i past
        apply ih
        · exact Nat.le_of_not_lt past
        · rwa [Nat.add_right_comm month 1 later]

theorem one_le_monthOf (leap : Bool) (dayInYear : ℕ) : 1 ≤ monthOf leap dayInYear :=
  monthFrom_bounds.1

theorem monthOf_le_twelve (leap : Bool) (dayInYear : ℕ) : monthOf leap dayInYear ≤ 12 :=
  monthFrom_bounds.2

theorem monthOf_bounds {leap : Bool} {dayInYear : ℕ} (inside : dayInYear < monthStart leap 13) :
    monthStart leap (monthOf leap dayInYear) ≤ dayInYear ∧
      dayInYear < monthStart leap (monthOf leap dayInYear + 1) :=
  monthFrom_contains (Nat.zero_le _) inside

private theorem monthOf_eq {leap : Bool} {dayInYear month : ℕ}
    (inside : dayInYear < monthStart leap 13)
    (begun : monthStart leap month ≤ dayInYear) (lasts : dayInYear < monthStart leap (month + 1)) :
    monthOf leap dayInYear = month := by
  obtain ⟨begun', lasts'⟩ := monthOf_bounds inside
  rcases Nat.lt_trichotomy (monthOf leap dayInYear) month with earlier | same | later
  · have ordered := monthStart_mono leap (Nat.add_one_le_iff.mpr earlier)
    omega
  · exact same
  · have ordered := monthStart_mono leap (Nat.add_one_le_iff.mpr later)
    omega

/-- The number of the day with some place in a month of a year. -/
def makeDay (year : ℤ) (month : ℕ) (day : ℤ) : ℤ :=
  dayFromYear year + monthStart (isLeap year) month + day - 1

/-- A year, a month and a day that exist. -/
@[ext]
structure Date where
  year : ℤ
  month : ℕ
  day : ℕ
  one_le_month : 1 ≤ month
  month_le_twelve : month ≤ 12
  one_le_day : 1 ≤ day
  day_le : day ≤ daysInMonth (isLeap year) month

def dayInYear (day : ℤ) : ℕ := (day - dayFromYear (yearFromDay day)).toNat

def monthFromDay (day : ℤ) : ℕ := monthOf (isLeap (yearFromDay day)) (dayInYear day)

def dateFromDay (day : ℤ) : ℕ :=
  dayInYear day - monthStart (isLeap (yearFromDay day)) (monthFromDay day) + 1

theorem dayInYear_eq (day : ℤ) : (dayInYear day : ℤ) = day - dayFromYear (yearFromDay day) := by
  have begun := (yearFromDay_bounds day).1
  rw [dayInYear, Int.toNat_of_nonneg (by omega)]

theorem dayInYear_lt (day : ℤ) : dayInYear day < monthStart (isLeap (yearFromDay day)) 13 := by
  obtain ⟨begun, lasts⟩ := yearFromDay_bounds day
  rw [dayFromYear_succ, ← monthStart_thirteen] at lasts
  have := dayInYear_eq day
  omega

theorem dateFromDay_le (day : ℤ) :
    dateFromDay day ≤ daysInMonth (isLeap (yearFromDay day)) (monthFromDay day) := by
  obtain ⟨begun, lasts⟩ := monthOf_bounds (dayInYear_lt day)
  rw [← monthFromDay, monthStart] at lasts
  rw [← monthFromDay] at begun
  unfold dateFromDay
  omega

/-- The day of a month of a year is the day itself. -/
theorem makeDay_fields (day : ℤ) :
    makeDay (yearFromDay day) (monthFromDay day) (dateFromDay day) = day := by
  have begun := (monthOf_bounds (dayInYear_lt day)).1
  have position := dayInYear_eq day
  rw [← monthFromDay] at begun
  unfold makeDay dateFromDay
  omega

namespace Date

/-- The number of a date. -/
def toDay (date : Date) : ℤ := makeDay date.year date.month date.day

/-- The date of a day. -/
def ofDay (day : ℤ) : Date where
  year := yearFromDay day
  month := monthFromDay day
  day := dateFromDay day
  one_le_month := one_le_monthOf _ _
  month_le_twelve := monthOf_le_twelve _ _
  one_le_day := Nat.le_add_left _ _
  day_le := dateFromDay_le day

@[simp]
theorem toDay_ofDay (day : ℤ) : (ofDay day).toDay = day := makeDay_fields day

theorem monthStart_succ_le (date : Date) :
    monthStart (isLeap date.year) date.month + date.day ≤
      monthStart (isLeap date.year) (date.month + 1) :=
  Nat.add_le_add_left date.day_le _

theorem inside_year (date : Date) :
    monthStart (isLeap date.year) date.month + date.day ≤ monthStart (isLeap date.year) 13 :=
  Nat.le_trans date.monthStart_succ_le
    (monthStart_mono _ (Nat.succ_le_succ date.month_le_twelve))

theorem toDay_eq (date : Date) : date.toDay =
    dayFromYear date.year + monthStart (isLeap date.year) date.month + date.day - 1 := rfl

theorem yearFromDay_toDay (date : Date) : yearFromDay date.toDay = date.year := by
  have inside := date.inside_year
  have nonempty := date.one_le_day
  have length := monthStart_thirteen date.year
  have position := date.toDay_eq
  apply yearFromDay_eq
  · omega
  · rw [dayFromYear_succ]
    omega

theorem dayInYear_toDay (date : Date) :
    dayInYear date.toDay = monthStart (isLeap date.year) date.month + date.day - 1 := by
  have position := dayInYear_eq date.toDay
  have nonempty := date.one_le_day
  have defined := date.toDay_eq
  rw [yearFromDay_toDay] at position
  omega

theorem monthFromDay_toDay (date : Date) : monthFromDay date.toDay = date.month := by
  have nonempty := date.one_le_day
  have month_ends := date.monthStart_succ_le
  have year_ends := date.inside_year
  rw [monthFromDay, yearFromDay_toDay, dayInYear_toDay]
  apply monthOf_eq
  · omega
  · omega
  · omega

@[simp]
theorem ofDay_toDay (date : Date) : ofDay date.toDay = date := by
  have nonempty := date.one_le_day
  have day_eq : dateFromDay date.toDay = date.day := by
    rw [dateFromDay, dayInYear_toDay, monthFromDay_toDay, yearFromDay_toDay]
    omega
  exact Date.ext date.yearFromDay_toDay date.monthFromDay_toDay day_eq

end Date

/-- The days from the first to the last. -/
def daysBetween (first last : ℤ) : List ℤ :=
  (List.range (last + 1 - first).toNat).map fun offset : ℕ => first + offset

@[simp]
theorem mem_daysBetween {first last day : ℤ} :
    day ∈ daysBetween first last ↔ first ≤ day ∧ day ≤ last := by
  simp only [daysBetween, List.mem_map, List.mem_range]
  constructor
  · rintro ⟨offset, inside, rfl⟩
    omega
  · rintro ⟨begun, lasts⟩
    exact ⟨(day - first).toNat, by omega, by omega⟩

theorem daysBetween_of_lt {first last : ℤ} (before : last < first) :
    daysBetween first last = [] := by
  rw [daysBetween, Int.toNat_eq_zero.mpr (by omega)]
  rfl

theorem daysBetween_cons {first last : ℤ} (ordered : first ≤ last) :
    daysBetween first last = first :: daysBetween (first + 1) last := by
  obtain ⟨length, length_eq⟩ : ∃ length : ℕ, (last + 1 - first).toNat = length + 1 :=
    ⟨(last - first).toNat, by omega⟩
  have rest : (last + 1 - (first + 1)).toNat = length := by omega
  rw [daysBetween, daysBetween, length_eq, rest, List.range_succ_eq_map, List.map_cons,
    List.map_map]
  congr 1
  · omega
  · apply List.map_congr_left
    intro offset _
    simp only [Function.comp_apply]
    omega

/-- The place of a day is how many days come before it. -/
theorem getElem?_daysBetween {first last day : ℤ} {place : ℕ} :
    (daysBetween first last)[place]? = some day ↔ day = first + place ∧ day ≤ last := by
  rw [daysBetween, List.getElem?_map, Option.map_eq_some_iff]
  constructor
  · rintro ⟨offset, found, rfl⟩
    obtain ⟨inside, rfl⟩ := List.getElem?_eq_some_iff.mp found
    rw [List.length_range] at inside
    rw [List.getElem_range]
    omega
  · rintro ⟨rfl, inside⟩
    exact ⟨place, List.getElem?_range (by omega), rfl⟩

theorem nodup_daysBetween (first last : ℤ) : (daysBetween first last).Nodup := by
  apply List.Pairwise.map _ _ List.nodup_range
  intro offset other different same
  exact different (Int.ofNat_inj.mp (Int.add_left_cancel same))

end Calendar
