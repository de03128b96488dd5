import SolConversion.Indexer.DailyBuckets

/-!
# The dates of a request

A request names two dates by texts of digits and hyphens.  Validation looks at the shape of the
texts only, so a month or a day that no calendar has passes it: the constructor of dates then yields
no moment at all, or a moment of the next month.
-/

namespace SolConversion.Indexer

open Calendar ScriptDate ScriptNumber

/-- The numbers in the places of year, month and day. -/
structure DateFields where
  year : ℕ
  month : ℕ
  day : ℕ
  deriving DecidableEq

def dateFields (text : String) : DateFields where
  year := Nat.ofDigitChars 10 (text.toList.take 4) 0
  month := Nat.ofDigitChars 10 ((text.toList.drop 5).take 2) 0
  day := Nat.ofDigitChars 10 ((text.toList.drop 8).take 2) 0

namespace DateFields

/-- The calendar has the month, and the month has the day. -/
def Exist (fields : DateFields) : Prop :=
  1 ≤ fields.month ∧ fields.month ≤ 12 ∧ 1 ≤ fields.day ∧
    fields.day ≤ daysInMonth (isLeap fields.year) fields.month

/-- Some month has the day. -/
def Readable (fields : DateFields) : Prop :=
  1 ≤ fields.month ∧ fields.month ≤ 12 ∧ 1 ≤ fields.day ∧ fields.day ≤ 31

instance (fields : DateFields) : Decidable fields.Exist :=
  inferInstanceAs (Decidable (_ ∧ _ ∧ _ ∧ _))

instance (fields : DateFields) : Decidable fields.Readable :=
  inferInstanceAs (Decidable (_ ∧ _ ∧ _ ∧ _))

/-- The number of the day, in the next month if the month is over before it. -/
def toDay (fields : DateFields) : ℤ := makeDay fields.year fields.month fields.day

def date (fields : DateFields) (exist : fields.Exist) : Date where
  year := fields.year
  month := fields.month
  day := fields.day
  one_le_month := exist.1
  month_le_twelve := exist.2.1
  one_le_day := exist.2.2.1
  day_le := exist.2.2.2

end DateFields

/-- The two texts are those of existing dates. -/
def NamesRange (queryStringParameters : Option QueryStringParameters)
    (fromDate toDate : Date) : Prop :=
  FourDigits fromDate ∧ FourDigits toDate ∧
    queryStringParameters = some ⟨some (writtenDate fromDate), some (writtenDate toDate)⟩

/-- The bounds a request queries the events with, if it comes to a query. -/
def queriedBounds (event : APIGatewayProxyEvent) : Option (Option ℤ × Option ℤ) :=
  match validateDateRange event.queryStringParameters with
  | .error _ => none
  | .ok request =>
      if event.httpMethod = "GET" ∧ (event.resourceEndsWith "/metrics/buys" ∨
          event.resourceEndsWith "/metrics/dequeues") then
        some (request.fromTimestamp, request.toTimestamp)
      else none

/-- Existing dates are accepted with their first and last second, everything else is refused, and
no query has other bounds. -/
structure ExactlyValidated (queryStringParameters : Option QueryStringParameters) : Prop where
  accepted : ∀ fromDate toDate, NamesRange queryStringParameters fromDate toDate →
    validateDateRange queryStringParameters = .ok (requestFor fromDate toDate)
  sound : ∀ request, validateDateRange queryStringParameters = .ok request →
    ∃ fromDate toDate, NamesRange queryStringParameters fromDate toDate ∧
      request = requestFor fromDate toDate
  refused : (¬∃ fromDate toDate, NamesRange queryStringParameters fromDate toDate) →
    ∃ error, validateDateRange queryStringParameters = .error error ∧ error.statusCode = 400
  queried : ∀ (event : APIGatewayProxyEvent) (bounds : Option ℤ × Option ℤ),
    event.queryStringParameters = queryStringParameters → queriedBounds event = some bounds →
    ∃ fromDate toDate, NamesRange queryStringParameters fromDate toDate ∧
      bounds = (some (fromDate.toDay * 86400), some (toDate.toDay * 86400 + 86399))

theorem exists_of_dateRegex {text : String} (shaped : dateRegex text = true) :
    ∃ year month day : List Char, text.toList = year ++ '-' :: (month ++ '-' :: day) ∧
      (year.length = 4 ∧ month.length = 2 ∧ day.length = 2) ∧
      (∀ char ∈ year, char.isDigit = true) ∧ (∀ char ∈ month, char.isDigit = true) ∧
      ∀ char ∈ day, char.isDigit = true := by
  rw [dateRegex] at shaped
  split at shaped
  · rename_i y1 y2 y3 y4 h1 m1 m2 h2 d1 d2 chars
    simp only [List.all_cons, List.all_nil, Bool.and_true, Bool.and_eq_true, beq_iff_eq] at shaped
    obtain ⟨⟨⟨y1_digit, y2_digit, y3_digit, y4_digit, m1_digit, m2_digit, d1_digit, d2_digit⟩,
      rfl⟩, rfl⟩ := shaped
    refine ⟨[y1, y2, y3, y4], [m1, m2], [d1, d2], chars, ⟨rfl, rfl, rfl⟩, ?_, ?_, ?_⟩
    · simp [y1_digit, y2_digit, y3_digit, y4_digit]
    · simp [m1_digit, m2_digit]
    · simp [d1_digit, d2_digit]
  · cases shaped

theorem dateFields_eq {text : String} {year month day : List Char}
    (chars : text.toList = year ++ '-' :: (month ++ '-' :: day))
    (lengths : year.length = 4 ∧ month.length = 2 ∧ day.length = 2) :
    dateFields text = ⟨Nat.ofDigitChars 10 year 0, Nat.ofDigitChars 10 month 0,
      Nat.ofDigitChars 10 day 0⟩ := by
  obtain ⟨year_length, month_length, day_length⟩ := lengths
  obtain ⟨y1, y2, y3, y4, rfl⟩ := List.length_eq_four.mp year_length
  obtain ⟨m1, m2, rfl⟩ := List.length_eq_two.mp month_length
  obtain ⟨d1, d2, rfl⟩ := List.length_eq_two.mp day_length
  rw [dateFields, chars]
  rfl

theorem year_le_of_dateRegex {text : String} (shaped : dateRegex text = true) :
    (dateFields text).year ≤ 9999 := by
  obtain ⟨year, month, day, chars, lengths, year_digits, -, -⟩ := exists_of_dateRegex shaped
  have year_lt := ofDigitChars_lt year_digits
  rw [lengths.1] at year_lt
  rw [dateFields_eq chars lengths]
  exact Nat.le_of_lt_succ year_lt

theorem writtenDate_date {text : String} (shaped : dateRegex text = true)
    (exist : (dateFields text).Exist) :
    FourDigits ((dateFields text).date exist) ∧
      writtenDate ((dateFields text).date exist) = text := by
  obtain ⟨year, month, day, chars, lengths, year_digits, month_digits, day_digits⟩ :=
    exists_of_dateRegex shaped
  have fields := dateFields_eq chars lengths
  have four : 0 ≤ ((dateFields text).year : ℤ) ∧ ((dateFields text).year : ℤ) ≤ 9999 :=
    ⟨Int.natCast_nonneg _, Int.ofNat_le.mpr (year_le_of_dateRegex shaped)⟩
  have written : writtenDate ((dateFields text).date exist) =
      String.ofList (isoYear (dateFields text).year ++ '-' :: padded 2 (dateFields text).month ++
        '-' :: padded 2 (dateFields text).day) := rfl
  refine ⟨four, ?_⟩
  rw [written, isoYear, if_pos four, Int.toNat_natCast, fields,
    padded_ofDigitChars (by decide) year_digits lengths.1,
    padded_ofDigitChars (by decide) month_digits lengths.2.1,
    padded_ofDigitChars (by decide) day_digits lengths.2.2, List.append_assoc, List.cons_append,
    ← chars, String.ofList_toList]

theorem exist_writtenDate {date : Date} (four : FourDigits date) :
    (dateFields (writtenDate date)).Exist := by
  obtain ⟨chars, lengths⟩ := toList_writtenDate four
  have year_eq : (date.year.toNat : ℤ) = date.year := Int.toNat_of_nonneg four.1
  have fields : dateFields (writtenDate date) = ⟨date.year.toNat, date.month, date.day⟩ := by
    rw [dateFields_eq chars lengths, ofDigitChars_padded, ofDigitChars_padded,
      ofDigitChars_padded]
  rw [fields, DateFields.Exist, year_eq]
  exact ⟨date.one_le_month, date.month_le_twelve, date.one_le_day, date.day_le⟩

/-- What is accepted has the shape of a date twice, and everything else is a bad request. -/
theorem validateDateRange_cases (queryStringParameters : Option QueryStringParameters) :
    (∃ fromDate toDate, queryStringParameters = some ⟨some fromDate, some toDate⟩ ∧
      dateRegex fromDate = true ∧ dateRegex toDate = true) ∨
    ∃ error, validateDateRange queryStringParameters = .error error ∧ error.statusCode = 400 := by
  cases queryStringParameters with
  | none => exact .inr ⟨_, rfl, rfl⟩
  | some present =>
      obtain ⟨fromDate, toDate⟩ := present
      rw [validateDateRange]
      dsimp only [Option.getD_some]
      split
      · rename_i fromText toText from_present to_present
        obtain ⟨rfl, -⟩ := Option.filter_eq_some_iff.mp from_present
        obtain ⟨rfl, -⟩ := Option.filter_eq_some_iff.mp to_present
        split
        · rename_i shaped
          obtain ⟨from_shaped, to_shaped⟩ := Bool.and_eq_true_iff.mp shaped
          exact .inl ⟨fromText, toText, rfl, from_shaped, to_shaped⟩
        · exact .inr ⟨_, rfl, rfl⟩
      · exact .inr ⟨_, rfl, rfl⟩

private theorem namesRange_of_exist {fromDate toDate : String}
    (from_shaped : dateRegex fromDate = true)
    (to_shaped : dateRegex toDate = true) (from_exist : (dateFields fromDate).Exist)
    (to_exist : (dateFields toDate).Exist) :
    NamesRange (some ⟨some fromDate, some toDate⟩) ((dateFields fromDate).date from_exist)
      ((dateFields toDate).date to_exist) := by
  obtain ⟨from_four, from_eq⟩ := writtenDate_date from_shaped from_exist
  obtain ⟨to_four, to_eq⟩ := writtenDate_date to_shaped to_exist
  exact ⟨from_four, to_four, by rw [from_eq, to_eq]⟩

theorem exist_of_namesRange {first second : String} {fromDate toDate : Date}
    (names : NamesRange (some ⟨some first, some second⟩) fromDate toDate) :
    (dateFields first).Exist ∧ (dateFields second).Exist := by
  obtain ⟨from_four, to_four, same⟩ := names
  obtain ⟨rfl, rfl⟩ : first = writtenDate fromDate ∧ second = writtenDate toDate := by
    simpa using same
  exact ⟨exist_writtenDate from_four, exist_writtenDate to_four⟩

theorem validateDateRange_of_namesRange {queryStringParameters : Option QueryStringParameters}
    {fromDate toDate : Date} (names : NamesRange queryStringParameters fromDate toDate) :
    validateDateRange queryStringParameters = .ok (requestFor fromDate toDate) := by
  obtain ⟨from_four, to_four, rfl⟩ := names
  exact validateDateRange_writtenDate from_four to_four

theorem accepted_of_queriedBounds {event : APIGatewayProxyEvent} {bounds : Option ℤ × Option ℤ}
    (queried : queriedBounds event = some bounds) :
    ∃ request, validateDateRange event.queryStringParameters = .ok request ∧
      bounds = (request.fromTimestamp, request.toTimestamp) := by
  rw [queriedBounds] at queried
  split at queried
  · cases queried
  · rename_i request accepted
    split at queried
    · exact ⟨request, accepted, (Option.some.inj queried).symm⟩
    · cases queried

private theorem inReach_fields {fields : DateFields} (year_le : fields.year ≤ 9999)
    (readable : fields.Readable) : -maxDays ≤ fields.toDay ∧ fields.toDay < maxDays := by
  obtain ⟨month_pos, month_le, day_pos, day_le⟩ := readable
  have months := monthStart_mono (isLeap fields.year) (Nat.le_add_right_of_le (k := 1) month_le)
  have year_length : (monthStart (isLeap fields.year) (12 + 1) : ℤ) ≤ 366 := by
    rw [monthStart_thirteen, daysInYear]
    split <;> omega
  rw [maxDays, DateFields.toDay, makeDay, dayFromYear]
  omega

/-- The constructor of dates reads the numbers in a text, and asks of the day only that some month
has it. -/
theorem parse_of_dateRegex {text clock : String} {timeWithinDay : ℤ}
    (shaped : dateRegex text = true) (read : readTime clock.toList = some timeWithinDay)
    (within : 0 ≤ timeWithinDay ∧ timeWithinDay < msPerDay) :
    parse (text ++ clock) =
      if (dateFields text).Readable then
        some ((dateFields text).toDay * msPerDay + timeWithinDay)
      else none := by
  obtain ⟨year, month, day, chars, lengths, year_digits, month_digits, day_digits⟩ :=
    exists_of_dateRegex shaped
  have fields := dateFields_eq chars lengths
  have text_eq : text ++ clock =
      String.ofList (year ++ '-' :: (month ++ '-' :: (day ++ clock.toList))) := by
    rw [← String.toList_inj, String.toList_append, String.toList_ofList, chars, List.append_assoc,
      List.cons_append, List.append_assoc, List.cons_append]
  have parsed := parse_digits lengths year_digits month_digits day_digits read
  rw [text_eq, parsed]
  by_cases readable : (dateFields text).Readable
  · have near := inReach_fields (year_le_of_dateRegex shaped) readable
    rw [if_pos readable, ← timeClip_of_near near within]
    rw [fields] at readable ⊢
    exact if_pos readable
  · rw [if_neg readable]
    rw [fields] at readable
    exact if_neg readable

/-- A second of the day that the fields are taken for. -/
def DateFields.second (fields : DateFields) (secondOfDay : ℤ) : Option ℤ :=
  if fields.Readable then some (fields.toDay * 86400 + secondOfDay) else none

theorem unixSeconds_of_dateRegex {text clock : String} {secondOfDay : ℤ}
    (shaped : dateRegex text = true) (read : readTime clock.toList = some (secondOfDay * 1000))
    (within : 0 ≤ secondOfDay ∧ secondOfDay < 86400) :
    unixSeconds (text ++ clock) = (dateFields text).second secondOfDay := by
  rw [unixSeconds, parse_of_dateRegex shaped read (by rw [msPerDay]; omega), DateFields.second]
  split
  · rw [Option.map_some, msPerDay]
    congr 1
    omega
  · rfl

private theorem validateDateRange_eq {fromDate toDate : String}
    (from_shaped : dateRegex fromDate = true)
    (to_shaped : dateRegex toDate = true) :
    validateDateRange (some ⟨some fromDate, some toDate⟩) =
      .ok ⟨fromDate, toDate, (dateFields fromDate).second 0, (dateFields toDate).second 86399⟩ := by
  rw [validateDateRange_of_dateRegex from_shaped to_shaped,
    @unixSeconds_of_dateRegex _ _ 0 from_shaped (by rfl) (by decide),
    @unixSeconds_of_dateRegex _ _ 86399 to_shaped (by rfl) (by decide)]

section Answers

variable (arithmetic : Arithmetic) {buyEvents : List BuyEventData}
  {dequeueEvents : List DequeueEventData} {event : APIGatewayProxyEvent}

theorem queryEvents_of_nan {α : Type} {timestamp : α → ℤ} {events : List α}
    {bounds : Option ℤ × Option ℤ} (nan : bounds.1 = none ∨ bounds.2 = none) :
    queryEvents timestamp bounds.1 bounds.2 events = .error .specialNumber := by
  obtain ⟨first, last⟩ := bounds
  rcases nan with rfl | rfl
  · rfl
  · cases first <;> rfl

private theorem handler_of_nan {bounds : Option ℤ × Option ℤ}
    (queried : queriedBounds event = some bounds) (nan : bounds.1 = none ∨ bounds.2 = none) :
    handler arithmetic buyEvents dequeueEvents event =
      createErrorResponse 500 "INTERNAL_SERVER_ERROR" "An internal error occurred" := by
  obtain ⟨request, accepted, rfl⟩ := accepted_of_queriedBounds queried
  have buys : handleBuysMetrics buyEvents request = .error .specialNumber := by
    rw [handleBuysMetrics, queryEvents_of_nan nan]
    rfl
  have dequeues : handleDequeuesMetrics arithmetic dequeueEvents request =
      .error .specialNumber := by
    rw [handleDequeuesMetrics, queryEvents_of_nan nan]
    rfl
  rw [queriedBounds, accepted] at queried
  rw [handler, accepted]
  dsimp only at queried ⊢
  rw [buys, dequeues]
  split at queried
  · rename_i routed
    obtain ⟨is_get, ends_buys | ends_dequeues⟩ := routed
    · rw [if_pos ⟨is_get, ends_buys⟩]
      rfl
    · split
      · rfl
      · rw [if_pos ⟨is_get, ends_dequeues⟩]
        rfl
  · cases queried

end Answers

/-- Validation keeps the promise unless both texts have the shape of a date and one of them names
no date. -/
theorem dates_validated_iff (queryStringParameters : Option QueryStringParameters) :
    ExactlyValidated queryStringParameters ↔
      ∀ fromDate toDate, queryStringParameters = some ⟨some fromDate, some toDate⟩ →
        dateRegex fromDate = true → dateRegex toDate = true →
        (dateFields fromDate).Exist ∧ (dateFields toDate).Exist := by
  constructor
  · rintro validated fromDate toDate rfl from_shaped to_shaped
    obtain ⟨fromDate, toDate, names, -⟩ :=
      validated.sound _ (validateDateRange_of_dateRegex from_shaped to_shaped)
    exact exist_of_namesRange names
  · intro exist
    have named_or_refused :
        (∃ fromDate toDate, NamesRange queryStringParameters fromDate toDate) ∨
        ∃ error, validateDateRange queryStringParameters = .error error ∧
          error.statusCode = 400 := by
      refine (validateDateRange_cases queryStringParameters).imp_left ?_
      rintro ⟨fromDate, toDate, rfl, from_shaped, to_shaped⟩
      obtain ⟨from_exist, to_exist⟩ := exist fromDate toDate rfl from_shaped to_shaped
      exact ⟨_, _, namesRange_of_exist from_shaped to_shaped from_exist to_exist⟩
    have sound : ∀ request, validateDateRange queryStringParameters = .ok request →
        ∃ fromDate toDate, NamesRange queryStringParameters fromDate toDate ∧
          request = requestFor fromDate toDate := by
      intro request accepted
      rcases named_or_refused with ⟨fromDate, toDate, names⟩ | ⟨error, refused, -⟩
      · rw [validateDateRange_of_namesRange names] at accepted
        exact ⟨fromDate, toDate, names, (Except.ok.inj accepted).symm⟩
      · rw [refused] at accepted
        cases accepted
    refine ⟨fun _ _ names => validateDateRange_of_namesRange names, sound,
      named_or_refused.resolve_left, ?_⟩
    rintro event bounds rfl queried
    obtain ⟨request, accepted, rfl⟩ := accepted_of_queriedBounds queried
    obtain ⟨fromDate, toDate, names, rfl⟩ := sound request accepted
    exact ⟨fromDate, toDate, names, rfl⟩

/-- A request from a day that February does not have to one of a month that no year has is accepted,
and its query fails. -/
theorem impossible_dates_accepted :
    validateDateRange (some ⟨some "2024-02-30", some "2024-13-01"⟩) =
        .ok ⟨"2024-02-30", "2024-13-01", some 1709251200, none⟩ ∧
      ¬ExactlyValidated (some ⟨some "2024-02-30", some "2024-13-01"⟩) ∧
      ∀ arithmetic buyEvents dequeueEvents,
        handler arithmetic buyEvents dequeueEvents
            ⟨"GET", "/metrics/buys", some ⟨some "2024-02-30", some "2024-13-01"⟩⟩ =
          createErrorResponse 500 "INTERNAL_SERVER_ERROR" "An internal error occurred" := by
  have accepted : validateDateRange (some ⟨some "2024-02-30", some "2024-13-01"⟩) =
      .ok ⟨"2024-02-30", "2024-13-01", some 1709251200, none⟩ :=
    validateDateRange_eq (by rfl) (by rfl)
  refine ⟨accepted, ?_, fun arithmetic _ _ => ?_⟩
  · intro validated
    obtain ⟨fromDate, toDate, names, -⟩ :=
      validated.sound _ (validateDateRange_of_dateRegex (by rfl) (by rfl))
    exact absurd (exist_of_namesRange names).1 (by decide)
  · have queried : queriedBounds
        ⟨"GET", "/metrics/buys", some ⟨some "2024-02-30", some "2024-13-01"⟩⟩ =
          some (some 1709251200, none) := by
      rw [queriedBounds, accepted]
      decide
    exact handler_of_nan arithmetic queried (.inr rfl)

end SolConversion.Indexer
