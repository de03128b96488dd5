import Mathlib.Algebra.BigOperators.Group.List.Basic
import Mathlib.Data.List.Induction
import SolConversion.Indexer.MetricsApi

/-!
# Daily buckets

The query, the date an event is counted for, the dates of the answer and the ends of the buckets
come from four computations with dates.  They agree on every day from the year zero to the year
9999, so each event that is read is counted in one bucket, the one its timestamp falls in.
-/

namespace SolConversion.Indexer

open Calendar Fallible ScriptDate ScriptNumber

/-- The date of a day. -/
def dayText (day : ℤ) : String := String.ofList (isoDate day)

/-- The day of a second. -/
def dayOf (timestamp : ℤ) : ℤ := timestamp / 86400

/-- The timestamp lies in the bucket, which does not contain its end. -/
def DateBucket.contains (bucket : DateBucket) (timestamp : ℤ) : Bool :=
  match parse bucket.start, parse bucket.bucketEnd with
  | some start, some bucketEnd => start ≤ timestamp * 1000 ∧ timestamp * 1000 < bucketEnd
  | _, _ => false

/-- The timestamp is one that the request queries. -/
def ValidatedRequest.selects (request : ValidatedRequest) (timestamp : ℤ) : Bool :=
  match request.fromTimestamp, request.toTimestamp with
  | some first, some last => first ≤ timestamp ∧ timestamp ≤ last
  | _, _ => false

/-- Buckets with their counts partition what a request selects by the days from one date to
another. -/
structure DailyPartition (fromDate toDate : Date) (request : ValidatedRequest)
    (timestamps : List ℤ) (buckets : List (DateBucket × ℕ)) : Prop where
  named : buckets.map (fun entry => entry.1.bucket) =
    (daysBetween fromDate.toDay toDate.toDay).map fun day => writtenDate (.ofDay day)
  consecutive : ∀ (place : ℕ) (entry : DateBucket × ℕ), buckets[place]? = some entry →
    parse entry.1.start = some ((fromDate.toDay + place) * msPerDay) ∧
      parse entry.1.bucketEnd = some ((fromDate.toDay + place + 1) * msPerDay)
  covered : ∀ timestamp, request.selects timestamp = true ↔
    ∃ entry ∈ buckets, entry.1.contains timestamp = true
  unique : ∀ (timestamp : ℤ) (place other : ℕ) (entry otherEntry : DateBucket × ℕ),
    buckets[place]? = some entry → buckets[other]? = some otherEntry →
    entry.1.contains timestamp = true → otherEntry.1.contains timestamp = true → place = other
  counted : ∀ entry ∈ buckets, entry.2 =
    timestamps.countP fun timestamp => request.selects timestamp && entry.1.contains timestamp
  total : (buckets.map Prod.snd).sum = timestamps.countP request.selects

/-- The days of the years from zero to 9999 and the day behind them. -/
def InReach (day : ℤ) : Prop := -719528 ≤ day ∧ day ≤ 2932897

def FourDigits (date : Date) : Prop := 0 ≤ date.year ∧ date.year ≤ 9999

theorem InReach.near {day : ℤ} (reach : InReach day) : -maxDays ≤ day ∧ day ≤ maxDays := by
  obtain ⟨first, last⟩ := reach
  rw [maxDays]
  omega

theorem FourDigits.inReach {date : Date} (four : FourDigits date) :
    InReach date.toDay ∧ InReach (date.toDay + 1) := by
  obtain ⟨first, last⟩ := toDay_bounds four
  exact ⟨⟨first, by omega⟩, by omega, by omega⟩

theorem inReach_of_mem {fromDate toDate : Date} (from_four : FourDigits fromDate)
    (to_four : FourDigits toDate) {day : ℤ}
    (member : day ∈ daysBetween fromDate.toDay toDate.toDay) :
    InReach day ∧ InReach (day + 1) := by
  obtain ⟨first, -⟩ := toDay_bounds from_four
  obtain ⟨-, last⟩ := toDay_bounds to_four
  obtain ⟨behind, before⟩ := mem_daysBetween.mp member
  exact ⟨⟨first.trans behind, by omega⟩, by omega, by omega⟩

theorem timeClip_of_inReach {day timeWithinDay : ℤ} (reach : InReach day)
    (within : 0 ≤ timeWithinDay ∧ timeWithinDay < msPerDay) :
    timeClip (day * msPerDay + timeWithinDay) = some (day * msPerDay + timeWithinDay) := by
  obtain ⟨first, last⟩ := reach
  apply timeClip_of_near ?_ within
  rw [maxDays]
  omega

theorem parse_dayText {day : ℤ} (reach : InReach day) :
    parse (dayText day) = some (day * msPerDay) := parse_isoDate_midnight reach.near

theorem parse_dayText_append {day timeWithinDay : ℤ} {clock : String} (reach : InReach day)
    (read : readTime clock.toList = some timeWithinDay)
    (within : 0 ≤ timeWithinDay ∧ timeWithinDay < msPerDay) :
    parse (dayText day ++ clock) = some (day * msPerDay + timeWithinDay) := by
  have parsed := parse_isoDate reach.near read
  rw [timeClip_of_inReach reach within] at parsed
  rw [dayText, ← parsed, String.ofList_append, String.ofList_toList]

theorem parse_start {day : ℤ} (reach : InReach day) :
    parse (dayText day ++ "T00:00:00Z") = some (day * msPerDay) := by
  have parsed := @parse_dayText_append day 0 "T00:00:00Z" reach (by rfl) ⟨le_refl 0, msPerDay_pos⟩
  rwa [add_zero] at parsed

private theorem parse_last {day : ℤ} (reach : InReach day) :
    parse (dayText day ++ "T23:59:59Z") = some (day * msPerDay + 86399000) :=
  parse_dayText_append reach (by rfl) (by decide)

private theorem dayText_inj {day other : ℤ} (reach : InReach day) (other_reach : InReach other) :
    dayText day = dayText other ↔ day = other := isoDate_inj reach.near other_reach.near

theorem dateOf_some (time : ℤ) : dateOf (some time) = .ok (dayText (time / msPerDay)) := by
  rw [dateOf, splitT_toISOString]
  rfl

theorem setDate_midnight {day : ℤ} (reach : InReach (day + 1)) :
    setDate (day * msPerDay) (getDate (day * msPerDay) + 1) = some ((day + 1) * msPerDay) := by
  have clipped := timeClip_of_inReach reach ⟨le_refl 0, msPerDay_pos⟩
  rw [add_zero, add_mul, one_mul] at clipped
  rw [setDate_succ, clipped, add_mul, one_mul]

/-- The request for two dates. -/
def requestFor (fromDate toDate : Date) : ValidatedRequest where
  fromDate := writtenDate fromDate
  toDate := writtenDate toDate
  fromTimestamp := some (fromDate.toDay * 86400)
  toTimestamp := some (toDate.toDay * 86400 + 86399)

private theorem dateRegex_of_digits {text : String} {year month day : List Char}
    (chars : text.toList = year ++ '-' :: (month ++ '-' :: day))
    (lengths : year.length = 4 ∧ month.length = 2 ∧ day.length = 2)
    (year_digits : ∀ char ∈ year, char.isDigit = true)
    (month_digits : ∀ char ∈ month, char.isDigit = true)
    (day_digits : ∀ char ∈ day, char.isDigit = true) : dateRegex text = true := by
  obtain ⟨year_length, month_length, day_length⟩ := lengths
  obtain ⟨y1, y2, y3, y4, rfl⟩ := List.length_eq_four.mp year_length
  obtain ⟨m1, m2, rfl⟩ := List.length_eq_two.mp month_length
  obtain ⟨d1, d2, rfl⟩ := List.length_eq_two.mp day_length
  simp only [List.forall_mem_cons] at year_digits month_digits day_digits
  simp [dateRegex, chars, year_digits, month_digits, day_digits]

theorem toList_writtenDate {date : Date} (four : FourDigits date) :
    (writtenDate date).toList =
        padded 4 date.year.toNat ++ '-' :: (padded 2 date.month ++ '-' :: padded 2 date.day) ∧
      (padded 4 date.year.toNat).length = 4 ∧ (padded 2 date.month).length = 2 ∧
        (padded 2 date.day).length = 2 := by
  have four' : 0 ≤ date.year ∧ date.year ≤ 9999 := four
  have day_le := Nat.le_trans date.day_le (daysInMonth_le _ _)
  have month_le := date.month_le_twelve
  refine ⟨?_, length_padded (by decide) (by omega), length_padded (by decide) (by omega),
    length_padded (by decide) (by omega)⟩
  rw [writtenDate, String.toList_ofList, isoYear, if_pos four', List.append_assoc,
    List.cons_append]

theorem dateRegex_writtenDate {date : Date} (four : FourDigits date) :
    dateRegex (writtenDate date) = true := by
  obtain ⟨chars, lengths⟩ := toList_writtenDate four
  exact dateRegex_of_digits chars lengths (fun _ => isDigit_of_mem_padded)
    (fun _ => isDigit_of_mem_padded) (fun _ => isDigit_of_mem_padded)

theorem present_of_dateRegex {text : String} (shaped : dateRegex text = true) :
    (some text).filter (· ≠ "") = some text := by
  have nonempty : text ≠ "" := by
    rintro rfl
    contradiction
  simp [Option.filter, nonempty]

theorem validateDateRange_of_dateRegex {fromDate toDate : String}
    (from_shaped : dateRegex fromDate = true) (to_shaped : dateRegex toDate = true) :
    validateDateRange (some ⟨some fromDate, some toDate⟩) =
      .ok ⟨fromDate, toDate, unixSeconds (fromDate ++ "T00:00:00Z"),
        unixSeconds (toDate ++ "T23:59:59Z")⟩ := by
  simp only [validateDateRange, Option.getD_some, present_of_dateRegex from_shaped,
    present_of_dateRegex to_shaped, from_shaped, to_shaped, Bool.and_self, if_true]

theorem unixSeconds_of_parse {text : String} {second : ℤ}
    (parsed : parse text = some (second * 1000)) : unixSeconds text = some second := by
  rw [unixSeconds, parsed]
  simp only [Option.map_some, Option.some.injEq]
  omega

theorem validateDateRange_writtenDate {fromDate toDate : Date} (from_four : FourDigits fromDate)
    (to_four : FourDigits toDate) :
    validateDateRange (some ⟨some (writtenDate fromDate), some (writtenDate toDate)⟩) =
      .ok (requestFor fromDate toDate) := by
  have first : unixSeconds (writtenDate fromDate ++ "T00:00:00Z") =
      some (fromDate.toDay * 86400) := by
    apply unixSeconds_of_parse
    rw [← isoDate_toDay, ← dayText, parse_start from_four.inReach.1, msPerDay, mul_assoc]
    rfl
  have last : unixSeconds (writtenDate toDate ++ "T23:59:59Z") =
      some (toDate.toDay * 86400 + 86399) := by
    apply unixSeconds_of_parse
    rw [← isoDate_toDay, ← dayText, parse_last to_four.inReach.1, msPerDay, add_mul, mul_assoc]
    rfl
  rw [validateDateRange_of_dateRegex (dateRegex_writtenDate from_four)
    (dateRegex_writtenDate to_four), first, last]
  rfl

/-- The date an event is counted for is that of its day, as no timestamp in reach is so large that
it is taken for milliseconds. -/
theorem eventDate_eq {timestamp : ℤ} (reach : InReach (dayOf timestamp)) :
    eventDate timestamp = .ok (dayText (dayOf timestamp)) := by
  have small : ¬timestamp > 1000000000000 := by
    obtain ⟨first, last⟩ := reach
    rw [dayOf] at first last
    omega
  have clipped : timeClip (timestamp * 1000) = some (timestamp * 1000) := by
    obtain ⟨first, last⟩ := reach
    rw [dayOf] at first last
    rw [timeClip_eq_some, maxDays, msPerDay]
    omega
  have same_day : timestamp * 1000 / msPerDay = dayOf timestamp := by
    rw [dayOf, msPerDay]
    omega
  rw [eventDate, timestampToMs, if_neg small, clipped, dateOf_some, same_day]

def bucketOf (day : ℤ) : DateBucket :=
  ⟨dayText day, dayText day ++ "T00:00:00Z", dayText (day + 1) ++ "T00:00:00Z"⟩

private theorem createDateBucket_dayText {day : ℤ} (reach : InReach day)
    (next_reach : InReach (day + 1)) :
    createDateBucket (dayText day) = .ok (bucketOf day) := by
  have midnight : (day + 1) * msPerDay / msPerDay = day + 1 :=
    Int.mul_ediv_cancel _ msPerDay_pos.ne'
  simp only [createDateBucket, parse_dayText reach, Option.bind_some, setDate_midnight next_reach,
    dateOf_some, midnight]
  rfl

private theorem run_dateRange {last : ℤ} {fuel : ℕ} {day : ℤ} {dates : List String}
    (fuel_eq : (last + 1 - day).toNat = fuel)
    (reach : ∀ between ∈ daysBetween day last, InReach (between + 1)) :
    (WhileLoop.run (DateRange.guard (some (last * msPerDay))) DateRange.pass fuel
      ⟨some (day * msPerDay), dates⟩).map DateRange.dates =
      .ok (dates ++ (daysBetween day last).map dayText) := by
  induction fuel generalizing day dates with
  | zero =>
      rw [daysBetween_of_lt (by omega), List.map_nil, List.append_nil]
      rfl
  | succ fuel ih =>
      have ordered : day ≤ last := by omega
      have running : DateRange.guard (some (last * msPerDay)) ⟨some (day * msPerDay), dates⟩ =
          true := decide_eq_true (Int.mul_le_mul_of_nonneg_right ordered msPerDay_pos.le)
      have next_reach : InReach (day + 1) := reach day (mem_daysBetween.mpr ⟨le_refl _, ordered⟩)
      have pass : DateRange.pass ⟨some (day * msPerDay), dates⟩ =
          .ok ⟨some ((day + 1) * msPerDay), dates ++ [dayText day]⟩ := by
        simp only [DateRange.pass, dateOf_some, Option.bind_some, setDate_midnight next_reach,
          Int.mul_ediv_cancel _ msPerDay_pos.ne']
        rfl
      rw [WhileLoop.run_succ running pass, daysBetween_cons ordered, List.map_cons,
        List.append_cons dates (dayText day) (List.map _ _)]
      apply ih
      · omega
      · intro between member
        apply reach
        rw [mem_daysBetween] at member ⊢
        omega

theorem generateDateRange_requestFor {fromDate toDate : Date} (from_four : FourDigits fromDate)
    (to_four : FourDigits toDate) :
    generateDateRange (requestFor fromDate toDate).fromDate (requestFor fromDate toDate).toDate =
      .ok ((daysBetween fromDate.toDay toDate.toDay).map dayText) := by
  have passes : ((toDate.toDay * msPerDay - fromDate.toDay * msPerDay) / msPerDay + 1).toNat =
      (toDate.toDay + 1 - fromDate.toDay).toNat := by
    rw [← sub_mul, Int.mul_ediv_cancel _ msPerDay_pos.ne']
    omega
  have dates := @run_dateRange toDate.toDay _ fromDate.toDay [] rfl
    fun _ member => (inReach_of_mem from_four to_four member).2
  rw [List.nil_append] at dates
  rw [generateDateRange, requestFor, ← isoDate_toDay, ← isoDate_toDay, ← dayText, ← dayText,
    parse_dayText from_four.inReach.1, parse_dayText to_four.inReach.1]
  simp only [DateRange.left, passes, dates]

/-- The events of a day. -/
def eventsOn {α : Type} (timestamp : α → ℤ) (events : List α) (day : ℤ) : List α :=
  events.filter fun event => dayOf (timestamp event) = day

section Requests

variable {fromDate toDate : Date} {α : Type} {timestamp : α → ℤ} {events : List α}

/-- A request selects the seconds of the days from the one date to the other. -/
theorem selects_requestFor {second : ℤ} :
    (requestFor fromDate toDate).selects second = true ↔
      dayOf second ∈ daysBetween fromDate.toDay toDate.toDay := by
  simp only [ValidatedRequest.selects, requestFor, decide_eq_true_eq, mem_daysBetween]
  rw [dayOf]
  omega

theorem queryEvents_requestFor :
    queryEvents timestamp (requestFor fromDate toDate).fromTimestamp
        (requestFor fromDate toDate).toTimestamp events =
      .ok (events.filter fun event => (requestFor fromDate toDate).selects (timestamp event)) :=
  rfl

private theorem filter_selected {day : ℤ} (inside : day ∈ daysBetween fromDate.toDay toDate.toDay) :
    (events.filter fun event => (requestFor fromDate toDate).selects (timestamp event)).filter
        (fun event => dayOf (timestamp event) = day) =
      eventsOn timestamp events day := by
  rw [List.filter_filter, eventsOn]
  apply List.filter_congr
  intro event _
  by_cases same : dayOf (timestamp event) = day
  · simp [same, selects_requestFor.mpr (same ▸ inside)]
  · simp [same]

theorem eventDate_of_selected (from_four : FourDigits fromDate) (to_four : FourDigits toDate)
    {event : α} (selected : event ∈ events.filter fun event =>
      (requestFor fromDate toDate).selects (timestamp event)) :
    eventDate (timestamp event) = .ok (dayText (dayOf (timestamp event))) :=
  eventDate_eq (inReach_of_mem from_four to_four
    (selects_requestFor.mp (List.mem_filter.mp selected).2)).1

theorem filter_dayText (from_four : FourDigits fromDate) (to_four : FourDigits toDate) {day : ℤ}
    (inside : day ∈ daysBetween fromDate.toDay toDate.toDay) :
    (events.filter fun event => (requestFor fromDate toDate).selects (timestamp event)).filter
        (fun event => dayText (dayOf (timestamp event)) = dayText day) =
      eventsOn timestamp events day := by
  rw [← filter_selected inside]
  apply List.filter_congr
  intro event member
  have event_inside := selects_requestFor.mp (List.mem_filter.mp member).2
  rw [decide_eq_decide]
  exact dayText_inj (inReach_of_mem from_four to_four event_inside).1
    (inReach_of_mem from_four to_four inside).1

end Requests

theorem foldl_update {α σ : Type} (date : α → String) (add : σ → α → σ) (start : σ)
    (events : List α) (key : String) :
    events.foldl (fun eventsByDay event => Function.update eventsByDay (date event)
        (add (eventsByDay (date event)) event)) (fun _ => start) key =
      (events.filter fun event => date event = key).foldl add start := by
  induction events using List.reverseRecOn with
  | nil => rfl
  | append_singleton events event ih =>
      rw [List.foldl_append, List.foldl_cons, List.foldl_nil, List.filter_append, List.foldl_append,
        Function.update_apply, ← ih]
      by_cases same : date event = key
      · subst same
        simp
      · simp [same, Ne.symm same]

private theorem foldl_countBuy (events : List BuyEventData) :
    events.foldl (fun count _ => count + 1) 0 = events.length := by
  induction events using List.reverseRecOn with
  | nil => rfl
  | append_singleton events event ih => rw [List.foldl_append, ih, List.length_append]; rfl

/-- What the map has for a date after all events of it. -/
def dayDataOf (events : List DequeueEventData) : Option DayData :=
  if events = [] then none
  else some ⟨events.map DequeueEventData.solDequeued, events.length⟩

/-- What the map has for a date after one event more. -/
def withDequeue (data : Option DayData) (event : DequeueEventData) : Option DayData :=
  some ⟨(data.getD ⟨[], 0⟩).amounts ++ [event.solDequeued], (data.getD ⟨[], 0⟩).count + 1⟩

private theorem foldl_withDequeue (events : List DequeueEventData) :
    events.foldl withDequeue none = dayDataOf events := by
  induction events using List.reverseRecOn with
  | nil => rfl
  | append_singleton events event ih =>
      rw [List.foldl_append, ih]
      by_cases none_before : events = []
      · simp [withDequeue, dayDataOf, none_before]
      · simp [withDequeue, dayDataOf, none_before]

section Handlers

variable {fromDate toDate : Date} (from_four : FourDigits fromDate) (to_four : FourDigits toDate)

include from_four to_four

/-- A bucket is made for every day between the dates. -/
theorem mapM_buckets {β : Type} (bucket : DateBucket → String → β) :
    ((daysBetween fromDate.toDay toDate.toDay).map dayText).mapM (fun dateStr => do
      let dateBucket ← createDateBucket dateStr
      return bucket dateBucket dateStr) =
      .ok ((daysBetween fromDate.toDay toDate.toDay).map fun day =>
        bucket (bucketOf day) (dayText day)) := by
  rw [List.mapM_map]
  apply mapM_eq_ok
  intro day member
  obtain ⟨reach, next_reach⟩ := inReach_of_mem from_four to_four member
  rw [Function.comp_apply, createDateBucket_dayText reach next_reach]
  rfl

/-- Each day between the dates has a bucket with the number of its events. -/
theorem handleBuysMetrics_eq (buyEvents : List BuyEventData) :
    handleBuysMetrics buyEvents (requestFor fromDate toDate) =
      .ok ⟨writtenDate fromDate, writtenDate toDate,
        (daysBetween fromDate.toDay toDate.toDay).map fun day =>
          ⟨bucketOf day, (eventsOn BuyEventData.timestamp buyEvents day).length⟩⟩ := by
  have counted : ∀ event ∈ buyEvents.filter (fun event =>
      (requestFor fromDate toDate).selects event.timestamp), ∀ eventsByDay : String → ℕ,
      countBuy eventsByDay event = .ok (Function.update eventsByDay
        (dayText (dayOf event.timestamp)) (eventsByDay (dayText (dayOf event.timestamp)) + 1)) := by
    intro event selected eventsByDay
    rw [countBuy, eventDate_of_selected from_four to_four selected]
    rfl
  rw [handleBuysMetrics, queryEvents_requestFor, ok_bind, foldlM_eq_ok counted, ok_bind,
    generateDateRange_requestFor from_four to_four, ok_bind]
  generalize eventsByDay_eq : List.foldl _ _ _ = eventsByDay
  rw [mapM_buckets from_four to_four fun dateBucket dateStr =>
    (⟨dateBucket, eventsByDay dateStr⟩ : BuysBucket), ok_bind]
  congr 2
  apply List.map_congr_left
  intro day member
  rw [← eventsByDay_eq, foldl_update (fun event => dayText (dayOf event.timestamp))
    (fun count (_ : BuyEventData) => count + 1) 0, foldl_countBuy,
    filter_dayText from_four to_four member]

/-- Each day between the dates has a bucket with the data of its events. -/
theorem handleDequeuesMetrics_eq (arithmetic : Arithmetic)
    (dequeueEvents : List DequeueEventData) :
    handleDequeuesMetrics arithmetic dequeueEvents (requestFor fromDate toDate) =
      .ok ⟨writtenDate fromDate, writtenDate toDate,
        (daysBetween fromDate.toDay toDate.toDay).map fun day =>
          dequeuesBucket arithmetic (bucketOf day)
            (dayDataOf (eventsOn DequeueEventData.timestamp dequeueEvents day))⟩ := by
  have added : ∀ event ∈ dequeueEvents.filter (fun event =>
      (requestFor fromDate toDate).selects event.timestamp),
      ∀ eventsByDay : String → Option DayData, addDequeue eventsByDay event =
        .ok (Function.update eventsByDay (dayText (dayOf event.timestamp))
          (withDequeue (eventsByDay (dayText (dayOf event.timestamp))) event)) := by
    intro event selected eventsByDay
    rw [addDequeue, eventDate_of_selected from_four to_four selected]
    rfl
  rw [handleDequeuesMetrics, queryEvents_requestFor, ok_bind, foldlM_eq_ok added, ok_bind,
    generateDateRange_requestFor from_four to_four, ok_bind]
  generalize eventsByDay_eq : List.foldl _ _ _ = eventsByDay
  rw [mapM_buckets from_four to_four fun dateBucket dateStr =>
    dequeuesBucket arithmetic dateBucket (eventsByDay dateStr), ok_bind]
  congr 2
  apply List.map_congr_left
  intro day member
  rw [← eventsByDay_eq, foldl_update (fun event => dayText (dayOf event.timestamp)) withDequeue,
    foldl_withDequeue, filter_dayText from_four to_four member]

end Handlers

/-! ## The partition -/

private theorem contains_bucketOf {day timestamp : ℤ} (reach : InReach day)
    (next_reach : InReach (day + 1)) :
    (bucketOf day).contains timestamp = true ↔ dayOf timestamp = day := by
  simp only [DateBucket.contains, bucketOf, parse_start reach, parse_start next_reach,
    decide_eq_true_eq]
  rw [dayOf, msPerDay]
  omega

theorem contains_of_mem {fromDate toDate : Date} (from_four : FourDigits fromDate)
    (to_four : FourDigits toDate) {day timestamp : ℤ}
    (inside : day ∈ daysBetween fromDate.toDay toDate.toDay) :
    (bucketOf day).contains timestamp = true ↔ dayOf timestamp = day := by
  obtain ⟨reach, next_reach⟩ := inReach_of_mem from_four to_four inside
  exact contains_bucketOf reach next_reach

private theorem countP_dayOf_cons {day : ℤ} {days : List ℤ} (fresh : day ∉ days)
    (timestamps : List ℤ) :
    (timestamps.countP fun timestamp => dayOf timestamp ∈ day :: days) =
      (timestamps.countP fun timestamp => dayOf timestamp = day) +
        timestamps.countP fun timestamp => dayOf timestamp ∈ days := by
  induction timestamps with
  | nil => rfl
  | cons timestamp timestamps ih =>
      rw [List.countP_cons, List.countP_cons, List.countP_cons, ih]
      by_cases same : dayOf timestamp = day
      · simp [same, fresh]
        omega
      · simp [same]
        omega

/-- Counting day by day counts everything on the days, as long as no day is repeated. -/
theorem sum_countP_dayOf {days : List ℤ} (distinct : days.Nodup) (timestamps : List ℤ) :
    (days.map fun day => timestamps.countP fun timestamp => dayOf timestamp = day).sum =
      timestamps.countP fun timestamp => dayOf timestamp ∈ days := by
  induction days with
  | nil => simp
  | cons day days ih =>
      obtain ⟨fresh, distinct⟩ := List.nodup_cons.mp distinct
      rw [List.map_cons, List.sum_cons, ih distinct, countP_dayOf_cons fresh]

theorem dailyPartition_map {fromDate toDate : Date} (from_four : FourDigits fromDate)
    (to_four : FourDigits toDate) (timestamps : List ℤ) :
    DailyPartition fromDate toDate (requestFor fromDate toDate) timestamps
      ((daysBetween fromDate.toDay toDate.toDay).map fun day =>
        (bucketOf day, timestamps.countP fun timestamp => dayOf timestamp = day)) where
  named := by
    rw [List.map_map]
    apply List.map_congr_left
    intro day _
    rw [← isoDate_toDay, Date.toDay_ofDay]
    rfl
  consecutive := by
    intro place entry found
    rw [List.getElem?_map, Option.map_eq_some_iff] at found
    obtain ⟨day, at_place, rfl⟩ := found
    obtain ⟨reach, next_reach⟩ := inReach_of_mem from_four to_four (List.mem_of_getElem? at_place)
    obtain ⟨rfl, -⟩ := getElem?_daysBetween.mp at_place
    exact ⟨parse_start reach, parse_start next_reach⟩
  covered := by
    intro timestamp
    rw [selects_requestFor]
    constructor
    · intro inside
      exact ⟨_, List.mem_map_of_mem inside, (contains_of_mem from_four to_four inside).mpr rfl⟩
    · rintro ⟨entry, member, contained⟩
      obtain ⟨day, inside, rfl⟩ := List.mem_map.mp member
      rwa [(contains_of_mem from_four to_four inside).mp contained]
  unique := by
    intro timestamp place other entry otherEntry found other_found contained other_contained
    rw [List.getElem?_map, Option.map_eq_some_iff] at found other_found
    obtain ⟨day, at_place, rfl⟩ := found
    obtain ⟨otherDay, at_other, rfl⟩ := other_found
    have day_of := (contains_of_mem from_four to_four (List.mem_of_getElem? at_place)).mp contained
    have other_of :=
      (contains_of_mem from_four to_four (List.mem_of_getElem? at_other)).mp other_contained
    have same : day = otherDay := day_of.symm.trans other_of
    have day_eq := (getElem?_daysBetween.mp at_place).1
    have other_eq := (getElem?_daysBetween.mp at_other).1
    omega
  counted := by
    intro entry member
    obtain ⟨day, inside, rfl⟩ := List.mem_map.mp member
    apply List.countP_congr
    intro timestamp _
    rw [decide_eq_true_eq, Bool.and_eq_true, contains_of_mem from_four to_four inside,
      selects_requestFor]
    constructor
    · rintro rfl
      exact ⟨inside, rfl⟩
    · exact And.right
  total := by
    rw [List.map_map, show (Prod.snd ∘ fun day =>
        (bucketOf day, timestamps.countP fun timestamp => dayOf timestamp = day)) =
      fun day => timestamps.countP fun timestamp => dayOf timestamp = day from rfl,
      sum_countP_dayOf (nodup_daysBetween _ _)]
    apply List.countP_congr
    intro timestamp _
    rw [decide_eq_true_eq, selects_requestFor]

theorem length_eventsOn {α : Type} (timestamp : α → ℤ) (events : List α) (day : ℤ) :
    (eventsOn timestamp events day).length =
      (events.map timestamp).countP fun second => dayOf second = day := by
  rw [eventsOn, List.countP_map, List.countP_eq_length_filter]
  rfl

theorem dequeuesBucket_of_ne_nil (arithmetic : Arithmetic) (dateBucket : DateBucket)
    {events : List DequeueEventData} (nonempty : events ≠ []) :
    dequeuesBucket arithmetic dateBucket (dayDataOf events) = {
      dateBucket
      count := events.length
      solDequeuedTotal := solText arithmetic
        ((dayTotal arithmetic (events.map DequeueEventData.solDequeued)).toNumber arithmetic.round)
      solDequeuedAvg := solText arithmetic
        (dayAvg arithmetic (events.map DequeueEventData.solDequeued))
      solDequeuedP95 := solText arithmetic
        (((dayP95 arithmetic (events.map DequeueEventData.solDequeued)).map
          (Value.toNumber arithmetic.round)).getD .nan) } := by
  have some_amount : 0 < events.length := List.length_pos_iff.mpr nonempty
  simp [dequeuesBucket, dayDataOf, nonempty, Option.filter, some_amount]

theorem count_dequeuesBucket (arithmetic : Arithmetic) (dateBucket : DateBucket)
    (events : List DequeueEventData) :
    (dequeuesBucket arithmetic dateBucket (dayDataOf events)).count = events.length ∧
      (dequeuesBucket arithmetic dateBucket (dayDataOf events)).dateBucket = dateBucket := by
  by_cases empty : events = []
  · subst empty
    exact ⟨rfl, rfl⟩
  · rw [dequeuesBucket_of_ne_nil arithmetic dateBucket empty]
    exact ⟨rfl, rfl⟩

/-- The buckets of both answers partition the events that are read. -/
theorem daily_buckets_partition (arithmetic : Arithmetic) {fromDate toDate : Date}
    (from_four : FourDigits fromDate) (to_four : FourDigits toDate)
    (buyEvents : List BuyEventData) (dequeueEvents : List DequeueEventData) :
    ∃ request, validateDateRange
        (some ⟨some (writtenDate fromDate), some (writtenDate toDate)⟩) = .ok request ∧
      (∃ response, handleBuysMetrics buyEvents request = .ok response ∧
        DailyPartition fromDate toDate request (buyEvents.map BuyEventData.timestamp)
          (response.data.map fun bucket => (bucket.dateBucket, bucket.buys))) ∧
      ∃ response, handleDequeuesMetrics arithmetic dequeueEvents request = .ok response ∧
        DailyPartition fromDate toDate request (dequeueEvents.map DequeueEventData.timestamp)
          (response.data.map fun bucket => (bucket.dateBucket, bucket.count)) := by
  refine ⟨_, validateDateRange_writtenDate from_four to_four,
    ⟨_, handleBuysMetrics_eq from_four to_four buyEvents, ?_⟩,
    ⟨_, handleDequeuesMetrics_eq from_four to_four arithmetic dequeueEvents, ?_⟩⟩
  · have partition := dailyPartition_map from_four to_four
      (buyEvents.map BuyEventData.timestamp)
    simp only [← length_eventsOn] at partition
    rwa [List.map_map]
  · have partition := dailyPartition_map from_four to_four
      (dequeueEvents.map DequeueEventData.timestamp)
    simp only [← length_eventsOn] at partition
    rw [List.map_map]
    convert partition using 3 with day
    simp [count_dequeuesBucket]

def leapDay : Date where
  year := 2024
  month := 2
  day := 29
  one_le_month := by decide
  month_le_twelve := by decide
  one_le_day := by decide
  day_le := by decide

def lastDate : Date where
  year := 9999
  month := 12
  day := 31
  one_le_month := by decide
  month_le_twelve := by decide
  one_le_day := by decide
  day_le := by decide

theorem fourDigits_leapDay : FourDigits leapDay := ⟨by decide, by decide⟩

private theorem fourDigits_lastDate : FourDigits lastDate := ⟨by decide, by decide⟩

/-- The last second of a leap day and the first one behind it. -/
theorem daily_buckets_partition_leap :
    ∃ request, validateDateRange
        (some ⟨some (writtenDate leapDay), some (writtenDate lastDate)⟩) = .ok request ∧
      (∃ response, handleBuysMetrics [⟨1709251199⟩, ⟨1709251200⟩] request = .ok response ∧
        DailyPartition leapDay lastDate request [1709251199, 1709251200]
          (response.data.map fun bucket => (bucket.dateBucket, bucket.buys))) ∧
      ∃ response, handleDequeuesMetrics .exact [] request = .ok response ∧
        DailyPartition leapDay lastDate request []
          (response.data.map fun bucket => (bucket.dateBucket, bucket.count)) :=
  daily_buckets_partition .exact fourDigits_leapDay fourDigits_lastDate
    [⟨1709251199⟩, ⟨1709251200⟩] []

end SolConversion.Indexer
