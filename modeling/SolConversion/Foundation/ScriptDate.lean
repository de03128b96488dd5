import SolConversion.Foundation.Calendar
import SolConversion.Foundation.ScriptNumber

/-!
# Dates of a scripting language

A date is a number of milliseconds since the first of January 1970, written and read in the time
zone of that moment.  A date too far away is invalid, and so is one read from a text that names no
month or no day of any month.  A day past the end of its month is one of the next month.
-/

namespace ScriptDate

open Calendar ScriptNumber

def msPerDay : ℤ := 86400000

/-- The days before and after the first that dates reach. -/
def maxDays : ℤ := 100000000

/-- The moment, unless it is too far away. -/
def timeClip (time : ℤ) : Option ℤ :=
  if -(maxDays * msPerDay) ≤ time ∧ time ≤ maxDays * msPerDay then some time else none

def getDate (time : ℤ) : ℕ := dateFromDay (time / msPerDay)

/-- The moment on another day of the month, which may lie in another month. -/
def setDate (time date : ℤ) : Option ℤ :=
  let day := time / msPerDay
  timeClip (makeDay (yearFromDay day) (monthFromDay day) date * msPerDay + time % msPerDay)

/-- A year of four digits, or of six behind a sign. -/
def isoYear (year : ℤ) : List Char :=
  if 0 ≤ year ∧ year ≤ 9999 then padded 4 year.toNat
  else (if year < 0 then '-' else '+') :: padded 6 year.natAbs

/-- Year, month and day of a day number. -/
def isoDate (day : ℤ) : List Char :=
  isoYear (yearFromDay day) ++ '-' :: padded 2 (monthFromDay day) ++
    '-' :: padded 2 (dateFromDay day)

/-- A date as it is written. -/
def writtenDate (date : Date) : String :=
  String.ofList (isoYear date.year ++ '-' :: padded 2 date.month ++ '-' :: padded 2 date.day)

/-- Hours, minutes, seconds and milliseconds of a moment of a day. -/
def isoTime (timeWithinDay : ℕ) : List Char :=
  padded 2 (timeWithinDay / 3600000) ++ ':' :: padded 2 (timeWithinDay / 60000 % 60) ++
    ':' :: padded 2 (timeWithinDay / 1000 % 60) ++ '.' :: padded 3 (timeWithinDay % 1000)

def toISOString (time : ℤ) : String :=
  String.ofList (isoDate (time / msPerDay) ++ 'T' :: isoTime (time % msPerDay).toNat ++ ['Z'])

/-- The part of a text in front of the first `T`. -/
def splitT (text : String) : String :=
  String.ofList (text.toList.takeWhile (· != 'T'))

/-- So many digits and what follows them. -/
def readDigits (width : ℕ) (chars : List Char) : Option (ℕ × List Char) :=
  if (chars.take width).length = width ∧ (chars.take width).all Char.isDigit then
    some (Nat.ofDigitChars 10 (chars.take width) 0, chars.drop width)
  else none

/-- What follows a character. -/
def skip (char : Char) : List Char → Option (List Char)
  | [] => none
  | first :: rest => if first = char then some rest else none

/-- A year as it is written.  There is no negative year zero. -/
def readYear (chars : List Char) : Option (ℤ × List Char) :=
  match skip '+' chars, skip '-' chars with
  | some rest, _ => (readDigits 6 rest).map fun found => (found.1, found.2)
  | _, some rest =>
      (readDigits 6 rest).bind fun found =>
        if found.1 = 0 then none else some (-found.1, found.2)
  | none, none => (readDigits 4 chars).map fun found => (found.1, found.2)

/-- A time to the second behind a date, midnight if there is none. -/
def readTime (chars : List Char) : Option ℤ :=
  if chars = [] then some 0
  else do
    let chars ← skip 'T' chars
    let (hours, chars) ← readDigits 2 chars
    let chars ← skip ':' chars
    let (minutes, chars) ← readDigits 2 chars
    let chars ← skip ':' chars
    let (seconds, chars) ← readDigits 2 chars
    let chars ← skip 'Z' chars
    if chars = [] ∧ minutes < 60 ∧ seconds < 60 ∧
        (hours < 24 ∨ hours = 24 ∧ minutes = 0 ∧ seconds = 0) then
      some (3600000 * hours + 60000 * minutes + 1000 * seconds)
    else none

/-- The moment a text names. -/
def parse (text : String) : Option ℤ := do
  let (year, chars) ← readYear text.toList
  let chars ← skip '-' chars
  let (month, chars) ← readDigits 2 chars
  let chars ← skip '-' chars
  let (day, chars) ← readDigits 2 chars
  let timeWithinDay ← readTime chars
  if 1 ≤ month ∧ month ≤ 12 ∧ 1 ≤ day ∧ day ≤ 31 then
    timeClip (makeDay year month day * msPerDay + timeWithinDay)
  else none

theorem msPerDay_pos : 0 < msPerDay := Int.ofNat_lt.mpr (Nat.succ_pos _)

theorem timeClip_eq_some {time clipped : ℤ} :
    timeClip time = some clipped ↔
      (-(maxDays * msPerDay) ≤ time ∧ time ≤ maxDays * msPerDay) ∧ time = clipped := by
  simp [timeClip]

theorem timeClip_of_near {day timeWithinDay : ℤ} (near : -maxDays ≤ day ∧ day < maxDays)
    (within : 0 ≤ timeWithinDay ∧ timeWithinDay < msPerDay) :
    timeClip (day * msPerDay + timeWithinDay) = some (day * msPerDay + timeWithinDay) := by
  rw [timeClip_eq_some]
  rw [maxDays] at near ⊢
  rw [msPerDay] at within ⊢
  omega

/-- The day behind the last of a month is the first of the next. -/
theorem setDate_succ (time : ℤ) : setDate time (getDate time + 1) = timeClip (time + msPerDay) := by
  have same_day := makeDay_fields (time / msPerDay)
  have split := Int.mul_ediv_add_emod time msPerDay
  have next : makeDay (yearFromDay (time / msPerDay)) (monthFromDay (time / msPerDay))
      (dateFromDay (time / msPerDay) + 1) = time / msPerDay + 1 := by
    unfold makeDay at same_day ⊢
    omega
  rw [setDate, getDate, next]
  congr 1
  rw [add_mul, one_mul, mul_comm]
  omega

theorem readDigits_of_isDigit {width : ℕ} {digits : List Char} (length_eq : digits.length = width)
    (all_digits : ∀ char ∈ digits, char.isDigit = true) (rest : List Char) :
    readDigits width (digits ++ rest) = some (Nat.ofDigitChars 10 digits 0, rest) := by
  have taken : (digits ++ rest).take width = digits := List.take_left' length_eq
  rw [readDigits, taken, if_pos ⟨length_eq, List.all_eq_true.mpr all_digits⟩,
    List.drop_left' length_eq]

theorem readDigits_padded {width number : ℕ} (positive : 0 < width) (small : number < 10 ^ width)
    (rest : List Char) : readDigits width (padded width number ++ rest) = some (number, rest) := by
  rw [readDigits_of_isDigit (length_padded positive small) (fun _ => isDigit_of_mem_padded),
    ofDigitChars_padded]

@[simp]
theorem skip_cons (char : Char) (rest : List Char) : skip char (char :: rest) = some rest :=
  if_pos rfl

theorem skip_padded {width number : ℕ} {char : Char} (positive : 0 < width)
    (small : number < 10 ^ width) (no_digit : char.isDigit = false) (rest : List Char) :
    skip char (padded width number ++ rest) = none := by
  have length := length_padded positive small
  cases shape : padded width number with
  | nil =>
      rw [shape] at length
      exact absurd length positive.ne
  | cons first digits =>
      have member : first ∈ padded width number := shape ▸ List.mem_cons_self
      exact if_neg (ne_of_isDigit (isDigit_of_mem_padded member) no_digit)

private theorem readYear_isoYear {year : ℤ} (reached : -999999 ≤ year ∧ year ≤ 999999)
    (rest : List Char) : readYear (isoYear year ++ rest) = some (year, rest) := by
  unfold isoYear
  by_cases four : 0 ≤ year ∧ year ≤ 9999
  · have small : year.toNat < 10 ^ 4 := by omega
    rw [if_pos four, readYear, skip_padded (by norm_num) small rfl,
      skip_padded (by norm_num) small rfl, readDigits_padded (by norm_num) small]
    simp [four.1]
  · have small : year.natAbs < 10 ^ 6 := by omega
    rw [if_neg four]
    by_cases negative : year < 0
    · rw [if_pos negative, List.cons_append, readYear, skip_cons]
      have no_plus : skip '+' ('-' :: (padded 6 year.natAbs ++ rest)) = none := rfl
      simp only [no_plus, readDigits_padded (by norm_num) small, Option.bind_some]
      rw [if_neg (by omega)]
      congr 2
      omega
    · rw [if_neg negative, List.cons_append, readYear, skip_cons]
      simp only [readDigits_padded (by norm_num) small, Option.map_some]
      congr 2
      omega

private theorem readYear_of_isDigit {digits : List Char} (length_eq : digits.length = 4)
    (all_digits : ∀ char ∈ digits, char.isDigit = true) (rest : List Char) :
    readYear (digits ++ rest) = some ((Nat.ofDigitChars 10 digits 0 : ℤ), rest) := by
  have four := readDigits_of_isDigit length_eq all_digits rest
  cases digits with
  | nil => cases length_eq
  | cons first digits =>
      have digit := all_digits first List.mem_cons_self
      have no_plus : skip '+' (first :: digits ++ rest) = none := if_neg (ne_of_isDigit digit rfl)
      have no_minus : skip '-' (first :: digits ++ rest) = none := if_neg (ne_of_isDigit digit rfl)
      rw [readYear, no_plus, no_minus]
      dsimp only
      rw [four]
      rfl

/-- Four digits, two and two are read as a date, also if its month is over before the day. -/
theorem parse_digits {year month day chars : List Char} {timeWithinDay : ℤ}
    (lengths : year.length = 4 ∧ month.length = 2 ∧ day.length = 2)
    (year_digits : ∀ char ∈ year, char.isDigit = true)
    (month_digits : ∀ char ∈ month, char.isDigit = true)
    (day_digits : ∀ char ∈ day, char.isDigit = true)
    (time_read : readTime chars = some timeWithinDay) :
    parse (String.ofList (year ++ '-' :: (month ++ '-' :: (day ++ chars)))) =
      if 1 ≤ Nat.ofDigitChars 10 month 0 ∧ Nat.ofDigitChars 10 month 0 ≤ 12 ∧
          1 ≤ Nat.ofDigitChars 10 day 0 ∧ Nat.ofDigitChars 10 day 0 ≤ 31 then
        timeClip (makeDay (Nat.ofDigitChars 10 year 0) (Nat.ofDigitChars 10 month 0)
          (Nat.ofDigitChars 10 day 0) * msPerDay + timeWithinDay)
      else none := by
  rw [parse, String.toList_ofList, readYear_of_isDigit lengths.1 year_digits]
  simp only [Option.bind_eq_bind, Option.bind_some, skip_cons,
    readDigits_of_isDigit lengths.2.1 month_digits,
    readDigits_of_isDigit lengths.2.2 day_digits, time_read]

private theorem year_reached {day : ℤ} (near : -maxDays ≤ day ∧ day ≤ maxDays) :
    -999999 ≤ yearFromDay day ∧ yearFromDay day ≤ 999999 := by
  obtain ⟨begun, lasts⟩ := yearFromDay_bounds day
  unfold dayFromYear at begun lasts
  unfold maxDays at near
  omega

private theorem monthFromDay_bounds (day : ℤ) : 1 ≤ monthFromDay day ∧ monthFromDay day ≤ 12 :=
  ⟨one_le_monthOf _ _, monthOf_le_twelve _ _⟩

private theorem dateFromDay_bounds (day : ℤ) : 1 ≤ dateFromDay day ∧ dateFromDay day ≤ 31 :=
  ⟨Nat.le_add_left _ _, Nat.le_trans (dateFromDay_le day) (daysInMonth_le _ _)⟩

/-- A date and the time behind it are read as the moment of that day. -/
theorem parse_isoDate {day timeWithinDay : ℤ} {chars : List Char}
    (near : -maxDays ≤ day ∧ day ≤ maxDays) (time_read : readTime chars = some timeWithinDay) :
    parse (String.ofList (isoDate day ++ chars)) = timeClip (day * msPerDay + timeWithinDay) := by
  obtain ⟨month_pos, month_le⟩ := monthFromDay_bounds day
  obtain ⟨date_pos, date_le⟩ := dateFromDay_bounds day
  have same_day := makeDay_fields day
  rw [parse, String.toList_ofList, isoDate, List.append_assoc, List.append_assoc, List.cons_append,
    List.cons_append]
  simp [readYear_isoYear (year_reached near), readDigits_padded, time_read, month_pos, date_pos,
    date_le, month_le, same_day, show monthFromDay day < 100 by omega,
    show dateFromDay day < 100 by omega]

theorem parse_isoDate_midnight {day : ℤ} (near : -maxDays ≤ day ∧ day ≤ maxDays) :
    parse (String.ofList (isoDate day)) = some (day * msPerDay) := by
  have read := parse_isoDate near (show readTime [] = some 0 from rfl)
  rw [List.append_nil, add_zero] at read
  rw [read, timeClip_eq_some, msPerDay]
  rw [maxDays] at near ⊢
  omega

theorem isoDate_toDay (date : Date) :
    String.ofList (isoDate date.toDay) = writtenDate date := by
  have date_eq := date.ofDay_toDay
  rw [isoDate, writtenDate, date.yearFromDay_toDay, date.monthFromDay_toDay,
    show dateFromDay date.toDay = date.day from congrArg Date.day date_eq]

theorem toDay_bounds {date : Date} (four : 0 ≤ date.year ∧ date.year ≤ 9999) :
    -719528 ≤ date.toDay ∧ date.toDay ≤ 2932896 := by
  obtain ⟨begun, lasts⟩ := yearFromDay_bounds date.toDay
  rw [date.yearFromDay_toDay, dayFromYear] at begun lasts
  omega

theorem isoDate_inj {day other : ℤ} (near : -maxDays ≤ day ∧ day ≤ maxDays)
    (other_near : -maxDays ≤ other ∧ other ≤ maxDays) :
    String.ofList (isoDate day) = String.ofList (isoDate other) ↔ day = other := by
  constructor
  · intro same
    have moments := parse_isoDate_midnight near
    rw [same, parse_isoDate_midnight other_near] at moments
    exact (Int.eq_of_mul_eq_mul_right msPerDay_pos.ne' (Option.some.inj moments)).symm
  · rintro rfl
    rfl

private theorem mem_isoYear {year : ℤ} {char : Char} (member : char ∈ isoYear year) :
    char ≠ 'T' := by
  rw [isoYear] at member
  split at member
  · exact ne_of_isDigit (isDigit_of_mem_padded member) rfl
  · rcases List.mem_cons.mp member with rfl | digit
    · split <;> decide
    · exact ne_of_isDigit (isDigit_of_mem_padded digit) rfl

private theorem mem_isoDate {day : ℤ} {char : Char} (member : char ∈ isoDate day) : char ≠ 'T' := by
  rw [isoDate, List.mem_append, List.mem_append, List.mem_cons, List.mem_cons] at member
  rcases member with (year | rfl | month) | rfl | date
  · exact mem_isoYear year
  · decide
  · exact ne_of_isDigit (isDigit_of_mem_padded month) rfl
  · decide
  · exact ne_of_isDigit (isDigit_of_mem_padded date) rfl

/-- What is written in front of the time is the date. -/
theorem splitT_toISOString (time : ℤ) :
    splitT (toISOString time) = String.ofList (isoDate (time / msPerDay)) := by
  have no_separator : ∀ char ∈ isoDate (time / msPerDay), (char != 'T') = true := by
    intro char member
    exact bne_iff_ne.mpr (mem_isoDate member)
  rw [splitT, toISOString, String.toList_ofList, List.append_assoc, List.cons_append,
    List.takeWhile_append_of_pos no_separator]
  simp

end ScriptDate
