import Mathlib.Data.List.DropRight
import Mathlib.Data.List.Induction

/-!
# The circuit breaker of the price oracle

The breaker opens at a failure and closes after a number of health checks passed while it was open.
A failure that finds it open is ignored, so the passes counted before such a failure still count.
The breaker closes on consecutive successes exactly as long as no failure interrupts a count.
-/

namespace SolConversion.Oracle

inductive CircuitBreakerState
  | circuitClosed
  | circuitOpen
  deriving DecidableEq

structure CircuitBreaker where
  state : CircuitBreakerState
  openedAt : Option ℤ
  /-- Unset until the first report. -/
  consecutiveHealthCheckPasses : Option ℕ
  lastFailureReason : Option String
  deriving DecidableEq

/-- What is reported to the breaker, a failure with its time. -/
inductive Report
  | healthCheckSuccess
  | healthCheckFailure (now : ℤ)
  | priceRetrievalFailure (now : ℤ)
  deriving DecidableEq

namespace CircuitBreaker

/-- A new breaker. -/
def initial : CircuitBreaker := ⟨.circuitClosed, none, none, none⟩

def openCircuit (breaker : CircuitBreaker) (now : ℤ) (reason : String) : CircuitBreaker :=
  if breaker.state = .circuitClosed then ⟨.circuitOpen, some now, some 0, some reason⟩ else breaker

def closeCircuit (breaker : CircuitBreaker) : CircuitBreaker :=
  { breaker with
    state := .circuitClosed
    openedAt := none
    consecutiveHealthCheckPasses := some 0 }

def onHealthCheckFailure (breaker : CircuitBreaker) (now : ℤ) : CircuitBreaker :=
  breaker.openCircuit now "Health check failed"

def onPriceRetrievalFailure (breaker : CircuitBreaker) (now : ℤ) : CircuitBreaker :=
  breaker.openCircuit now "Price retrieval failed"

def onHealthCheckSuccess (healthCheckAttemptsToClose : ℕ) (breaker : CircuitBreaker) :
    CircuitBreaker :=
  if breaker.state = .circuitOpen then
    -- an unset count becomes `NaN`, which reaches no bound
    let passes := breaker.consecutiveHealthCheckPasses.map (· + 1)
    let counted := { breaker with consecutiveHealthCheckPasses := passes }
    if passes.any (healthCheckAttemptsToClose ≤ ·) then counted.closeCircuit else counted
  else { breaker with consecutiveHealthCheckPasses := some 0 }

def canExecute (breaker : CircuitBreaker) : Bool := breaker.state = .circuitClosed

/-- Take in one report. -/
def report (healthCheckAttemptsToClose : ℕ) (breaker : CircuitBreaker) :
    Report → CircuitBreaker
  | .healthCheckSuccess => breaker.onHealthCheckSuccess healthCheckAttemptsToClose
  | .healthCheckFailure now => breaker.onHealthCheckFailure now
  | .priceRetrievalFailure now => breaker.onPriceRetrievalFailure now

/-- The breaker after some reports. -/
def after (healthCheckAttemptsToClose : ℕ) (reports : List Report) : CircuitBreaker :=
  reports.foldl (report healthCheckAttemptsToClose) initial

end CircuitBreaker

def Report.isFailure : Report → Bool
  | .healthCheckSuccess => false
  | .healthCheckFailure _ => true
  | .priceRetrievalFailure _ => true

/-- The number of successes reported after the most recent failure. -/
def successesSinceFailure (reports : List Report) : ℕ :=
  (reports.rtakeWhile fun report => !report.isFailure).length

/-- The breaker is open while fewer successes than it asks for follow the most recent failure. -/
def ClosesOnConsecutive (attempts : ℕ) (reports : List Report) : Prop :=
  (CircuitBreaker.after attempts reports).state = .circuitOpen ↔
    (∃ report ∈ reports, report.isFailure = true) ∧ successesSinceFailure reports < attempts

/-- The successes after the last failure complete a count that the failure interrupted. -/
def CompletesInterrupted (attempts : ℕ) (reports : List Report) : Prop :=
  ∃ earlier failure later passes, reports = earlier ++ failure :: later ∧
    failure.isFailure = true ∧ (∀ report ∈ later, report.isFailure = false) ∧
    (CircuitBreaker.after attempts earlier).state = .circuitOpen ∧
    (CircuitBreaker.after attempts earlier).consecutiveHealthCheckPasses = some passes ∧
    later.length < attempts ∧ attempts ≤ passes + later.length

/-- No failure finds the breaker open with a pass counted. -/
def Uninterrupted (attempts : ℕ) (reports : List Report) : Prop :=
  ∀ earlier failure later, reports = earlier ++ failure :: later → failure.isFailure = true →
    (CircuitBreaker.after attempts earlier).state = .circuitOpen →
    (CircuitBreaker.after attempts earlier).consecutiveHealthCheckPasses = some 0

namespace CircuitBreaker

variable {attempts : ℕ}

@[simp]
theorem after_nil : after attempts [] = initial := rfl

theorem after_append (earlier later : List Report) :
    after attempts (earlier ++ later) = later.foldl (report attempts) (after attempts earlier) :=
  List.foldl_append

@[simp]
theorem after_snoc (reports : List Report) (last : Report) :
    after attempts (reports ++ [last]) = (after attempts reports).report attempts last :=
  after_append reports [last]

theorem report_failure_of_closed {breaker : CircuitBreaker} {failure : Report}
    (failed : failure.isFailure = true) (closed : breaker.state = .circuitClosed) :
    (breaker.report attempts failure).state = .circuitOpen ∧
      (breaker.report attempts failure).consecutiveHealthCheckPasses = some 0 := by
  cases failure with
  | healthCheckSuccess => contradiction
  | healthCheckFailure now => simp [report, onHealthCheckFailure, openCircuit, closed]
  | priceRetrievalFailure now => simp [report, onPriceRetrievalFailure, openCircuit, closed]

theorem report_failure_of_open {breaker : CircuitBreaker} {failure : Report}
    (failed : failure.isFailure = true) (opened : breaker.state = .circuitOpen) :
    breaker.report attempts failure = breaker := by
  cases failure with
  | healthCheckSuccess => contradiction
  | healthCheckFailure now => simp [report, onHealthCheckFailure, openCircuit, opened]
  | priceRetrievalFailure now => simp [report, onPriceRetrievalFailure, openCircuit, opened]

theorem report_success_of_closed {breaker : CircuitBreaker}
    (closed : breaker.state = .circuitClosed) :
    (breaker.report attempts .healthCheckSuccess).state = .circuitClosed := by
  simp [report, onHealthCheckSuccess, closed]

theorem report_success_of_open {breaker : CircuitBreaker} {passes : ℕ}
    (opened : breaker.state = .circuitOpen)
    (counted : breaker.consecutiveHealthCheckPasses = some passes) :
    ((breaker.report attempts .healthCheckSuccess).state = .circuitClosed ∧
        attempts ≤ passes + 1) ∨
      ((breaker.report attempts .healthCheckSuccess).state = .circuitOpen ∧
        (breaker.report attempts .healthCheckSuccess).consecutiveHealthCheckPasses =
          some (passes + 1) ∧ passes + 1 < attempts) := by
  obtain reached | short := Nat.lt_or_ge (passes + 1) attempts
  · right
    simp [report, onHealthCheckSuccess, opened, counted, Nat.not_le.mpr reached, reached]
  · left
    simp [report, onHealthCheckSuccess, closeCircuit, opened, counted, short]

theorem eq_success_of_not_failure {report : Report} (succeeded : report.isFailure = false) :
    report = .healthCheckSuccess := by
  cases report with
  | healthCheckSuccess => rfl
  | healthCheckFailure now => contradiction
  | priceRetrievalFailure now => contradiction

theorem passes_lt_of_open (positive : 0 < attempts) (reports : List Report)
    (opened : (after attempts reports).state = .circuitOpen) :
    ∃ passes, (after attempts reports).consecutiveHealthCheckPasses = some passes ∧
      passes < attempts := by
  induction reports using List.reverseRecOn with
  | nil => contradiction
  | append_singleton reports last ih =>
      rw [after_snoc] at opened ⊢
      cases before : (after attempts reports).state with
      | circuitClosed =>
          cases failed : last.isFailure with
          | true => exact ⟨0, (report_failure_of_closed failed before).2, positive⟩
          | false =>
              rw [eq_success_of_not_failure failed, report_success_of_closed before] at opened
              contradiction
      | circuitOpen =>
          obtain ⟨passes, counted, few⟩ := ih before
          cases failed : last.isFailure with
          | true => exact ⟨passes, by rw [report_failure_of_open failed before, counted], few⟩
          | false =>
              rw [eq_success_of_not_failure failed] at opened ⊢
              rcases report_success_of_open before counted with ⟨closed, -⟩ | ⟨-, next, fewer⟩
              · rw [closed] at opened
                contradiction
              · exact ⟨passes + 1, next, fewer⟩

theorem closed_of_successes {breaker : CircuitBreaker} {later : List Report}
    (successes : ∀ report ∈ later, report.isFailure = false)
    (closed : breaker.state = .circuitClosed) :
    (later.foldl (report attempts) breaker).state = .circuitClosed := by
  induction later generalizing breaker with
  | nil => exact closed
  | cons first later ih =>
      rw [List.forall_mem_cons] at successes
      rw [List.foldl_cons, eq_success_of_not_failure successes.1]
      exact ih successes.2 (report_success_of_closed closed)

private theorem open_iff_of_successes {breaker : CircuitBreaker} {later : List Report} {passes : ℕ}
    (successes : ∀ report ∈ later, report.isFailure = false)
    (opened : breaker.state = .circuitOpen)
    (counted : breaker.consecutiveHealthCheckPasses = some passes) (few : passes < attempts) :
    (later.foldl (report attempts) breaker).state = .circuitOpen ↔
      passes + later.length < attempts := by
  induction later generalizing breaker passes with
  | nil => simp [opened, few]
  | cons first later ih =>
      rw [List.forall_mem_cons] at successes
      rw [List.foldl_cons, eq_success_of_not_failure successes.1, List.length_cons]
      rcases report_success_of_open opened counted with ⟨closed, reached⟩ | ⟨still, next, fewer⟩
      · rw [closed_of_successes successes.2 closed]
        simp only [reduceCtorEq, false_iff]
        omega
      · rw [ih successes.2 still next fewer]
        omega

end CircuitBreaker

open CircuitBreaker

private theorem exists_last_failure (reports : List Report) :
    (∀ report ∈ reports, report.isFailure = false) ∨
      ∃ earlier failure later, reports = earlier ++ failure :: later ∧ failure.isFailure = true ∧
        ∀ report ∈ later, report.isFailure = false := by
  induction reports with
  | nil => exact .inl (by simp)
  | cons first reports ih =>
      rcases ih with successes | ⟨earlier, failure, later, split, failed, successes⟩
      · cases failed : first.isFailure with
        | true => exact .inr ⟨[], first, reports, rfl, failed, successes⟩
        | false => exact .inl (List.forall_mem_cons.mpr ⟨failed, successes⟩)
      · exact .inr ⟨first :: earlier, failure, later, by rw [split, List.cons_append], failed,
          successes⟩

private theorem successesSinceFailure_append {earlier later : List Report} {failure : Report}
    (failed : failure.isFailure = true)
    (successes : ∀ report ∈ later, report.isFailure = false) :
    successesSinceFailure (earlier ++ failure :: later) = later.length := by
  induction later using List.reverseRecOn with
  | nil => simp [successesSinceFailure, failed]
  | append_singleton later last ih =>
      rw [List.forall_mem_append] at successes
      have succeeded : last.isFailure = false := successes.2 last (List.mem_singleton_self last)
      have counted := ih successes.1
      simp only [successesSinceFailure] at counted ⊢
      rw [← List.cons_append, ← List.append_assoc, List.rtakeWhile_concat]
      simp [succeeded, counted]

/-- A last failure leaves the breaker open with at most the passes counted before it. -/
theorem after_failure {attempts : ℕ} (positive : 0 < attempts) (earlier : List Report)
    {failure : Report} (failed : failure.isFailure = true) :
    ∃ passes, ((after attempts earlier).report attempts failure).state = .circuitOpen ∧
      ((after attempts earlier).report attempts failure).consecutiveHealthCheckPasses =
        some passes ∧ passes < attempts ∧
      (passes = 0 ∨ (after attempts earlier).state = .circuitOpen ∧
        (after attempts earlier).consecutiveHealthCheckPasses = some passes) := by
  cases before : (after attempts earlier).state with
  | circuitClosed =>
      obtain ⟨opened, counted⟩ := @report_failure_of_closed attempts _ _ failed before
      exact ⟨0, opened, counted, positive, .inl rfl⟩
  | circuitOpen =>
      obtain ⟨passes, counted, few⟩ := passes_lt_of_open positive earlier before
      rw [report_failure_of_open failed before]
      exact ⟨passes, before, counted, few, .inr ⟨rfl, counted⟩⟩

/-! ## When the law holds -/

private theorem closesOnConsecutive_of_successes {attempts : ℕ} {reports : List Report}
    (successes : ∀ report ∈ reports, report.isFailure = false) :
    ClosesOnConsecutive attempts reports := by
  have closed : (after attempts reports).state = .circuitClosed :=
    closed_of_successes successes rfl
  rw [ClosesOnConsecutive, closed]
  simp only [reduceCtorEq, false_iff]
  rintro ⟨⟨report, member, failed⟩, -⟩
  rw [successes report member] at failed
  contradiction

/-- After a last failure the law compares the successes that follow with the passes still
missing. -/
theorem closesOnConsecutive_append_iff {attempts passes : ℕ} {earlier later : List Report}
    {failure : Report} (failed : failure.isFailure = true)
    (successes : ∀ report ∈ later, report.isFailure = false)
    (opened : ((after attempts earlier).report attempts failure).state = .circuitOpen)
    (counted : ((after attempts earlier).report attempts failure).consecutiveHealthCheckPasses =
      some passes) (few : passes < attempts) :
    ClosesOnConsecutive attempts (earlier ++ failure :: later) ↔
      ¬(later.length < attempts ∧ attempts ≤ passes + later.length) := by
  have reported : ∃ report ∈ earlier ++ failure :: later, report.isFailure = true :=
    ⟨failure, by simp, failed⟩
  rw [ClosesOnConsecutive, after_append, List.foldl_cons,
    open_iff_of_successes successes opened counted few,
    successesSinceFailure_append failed successes]
  simp only [reported, true_and]
  omega

/-- The law fails exactly when a count interrupted by the last failure is completed. -/
theorem closesOnConsecutive_iff {attempts : ℕ} (positive : 0 < attempts)
    (reports : List Report) :
    ClosesOnConsecutive attempts reports ↔ ¬CompletesInterrupted attempts reports := by
  constructor
  · rintro law ⟨earlier, failure, later, passes, rfl, failed, successes, opened, counted, short,
      enough⟩
    have ignored := @report_failure_of_open attempts _ _ failed opened
    obtain ⟨_, counted', few⟩ := passes_lt_of_open positive earlier opened
    obtain rfl := Option.some.inj (counted.symm.trans counted')
    rw [← ignored] at opened counted
    exact (closesOnConsecutive_append_iff failed successes opened counted few).mp law
      ⟨short, enough⟩
  · intro uncompleted
    rcases exists_last_failure reports with
      successes | ⟨earlier, failure, later, rfl, failed, successes⟩
    · exact closesOnConsecutive_of_successes successes
    · obtain ⟨passes, opened, counted, few, origin⟩ := after_failure positive earlier failed
      rw [closesOnConsecutive_append_iff failed successes opened counted few]
      rintro ⟨short, enough⟩
      rcases origin with rfl | ⟨opened, counted⟩
      · omega
      · exact uncompleted ⟨earlier, failure, later, passes, rfl, failed, successes, opened, counted,
          short, enough⟩

theorem Uninterrupted.of_prefix {attempts : ℕ} {front reports : List Report}
    (uninterrupted : Uninterrupted attempts reports) (initial : front <+: reports) :
    Uninterrupted attempts front := by
  rintro earlier failure later rfl failed
  obtain ⟨rest, rfl⟩ := initial
  exact uninterrupted earlier failure (later ++ rest) (by simp) failed

private theorem Uninterrupted.append_successes {attempts : ℕ} {front : List Report}
    (uninterrupted : Uninterrupted attempts front) (successes : ℕ) :
    Uninterrupted attempts (front ++ List.replicate successes .healthCheckSuccess) := by
  intro earlier failure later split failed
  have outside : failure ∉ List.replicate successes Report.healthCheckSuccess := by
    intro member
    rw [List.eq_of_mem_replicate member] at failed
    contradiction
  rcases List.append_eq_append_iff.mp split with
    ⟨between, rfl, replicated⟩ | ⟨between, rfl, behind⟩
  · exact absurd (by rw [replicated]; simp) outside
  · cases between with
    | nil => exact absurd (by rw [← List.nil_append (List.replicate _ _), ← behind]; simp) outside
    | cons first between =>
        obtain ⟨rfl, -⟩ := List.cons.inj behind
        exact uninterrupted earlier failure between rfl failed

theorem closesOnConsecutive_of_uninterrupted {attempts : ℕ} (positive : 0 < attempts)
    {reports : List Report} (uninterrupted : Uninterrupted attempts reports) :
    ClosesOnConsecutive attempts reports := by
  rw [closesOnConsecutive_iff positive]
  rintro ⟨earlier, failure, later, passes, rfl, failed, -, opened, counted, short, enough⟩
  have uncounted := uninterrupted earlier failure later rfl failed opened
  obtain rfl := Option.some.inj (counted.symm.trans uncounted)
  omega

private theorem not_closesOnConsecutive_of_interrupted {attempts passes : ℕ} {earlier : List Report}
    {failure : Report} (failed : failure.isFailure = true)
    (opened : (after attempts earlier).state = .circuitOpen)
    (counted : (after attempts earlier).consecutiveHealthCheckPasses = some passes)
    (few : passes < attempts) (interrupted : 0 < passes) :
    ¬ClosesOnConsecutive attempts
      (earlier ++ [failure] ++ List.replicate (attempts - passes) .healthCheckSuccess) := by
  rw [closesOnConsecutive_iff (Nat.zero_lt_of_lt few), not_not]
  refine ⟨earlier, failure, List.replicate (attempts - passes) .healthCheckSuccess, passes,
    by simp, failed, ?_, opened, counted, ?_, ?_⟩
  · intro report member
    rw [List.eq_of_mem_replicate member]
    rfl
  · rw [List.length_replicate]
    omega
  · rw [List.length_replicate]
    omega

/-- The law survives any further successes exactly in the runs where no failure interrupts a
count. -/
theorem uninterrupted_iff {attempts : ℕ} (positive : 0 < attempts) (reports : List Report) :
    Uninterrupted attempts reports ↔ ∀ front, front <+: reports → ∀ successes,
      ClosesOnConsecutive attempts
        (front ++ List.replicate successes .healthCheckSuccess) := by
  constructor
  · intro uninterrupted front initial successes
    exact closesOnConsecutive_of_uninterrupted positive
      ((uninterrupted.of_prefix initial).append_successes successes)
  · rintro law earlier failure later rfl failed opened
    obtain ⟨passes, counted, few⟩ := passes_lt_of_open positive earlier opened
    obtain rfl | interrupted := Nat.eq_zero_or_pos passes
    · exact counted
    · exact absurd (law (earlier ++ [failure]) ⟨later, by simp⟩ (attempts - passes))
        (not_closesOnConsecutive_of_interrupted failed opened counted few interrupted)

private theorem exists_successes_of_le {attempts : ℕ} {reports : List Report}
    (enough : attempts ≤ successesSinceFailure reports) :
    ∃ earlier, reports = earlier ++ List.replicate attempts .healthCheckSuccess := by
  obtain ⟨earlier, split⟩ := List.rtakeWhile_suffix (fun report => !report.isFailure) reports
  have all_successes : reports.rtakeWhile (fun report => !report.isFailure) =
      List.replicate (successesSinceFailure reports) .healthCheckSuccess := by
    refine List.eq_replicate_iff.mpr ⟨rfl, fun report member => ?_⟩
    have succeeded := List.mem_rtakeWhile_imp member
    exact eq_success_of_not_failure (by simpa using succeeded)
  refine ⟨earlier ++ List.replicate (successesSinceFailure reports - attempts)
    .healthCheckSuccess, ?_⟩
  rw [List.append_assoc, List.replicate_append_replicate, Nat.sub_add_cancel enough,
    ← all_successes, split]

private theorem exists_successes_of_closing {attempts : ℕ} (positive : 0 < attempts)
    {reports : List Report} {last : Report}
    (uninterrupted : Uninterrupted attempts (reports ++ [last]))
    (opened : (after attempts reports).state = .circuitOpen)
    (closed : (after attempts (reports ++ [last])).state = .circuitClosed) :
    ∃ earlier, reports ++ [last] =
      earlier ++ List.replicate attempts .healthCheckSuccess := by
  have law := closesOnConsecutive_of_uninterrupted positive uninterrupted
  obtain ⟨⟨failure, member, failed⟩, -⟩ := (closesOnConsecutive_of_uninterrupted positive
    (uninterrupted.of_prefix (List.prefix_append reports [last]))).mp opened
  apply exists_successes_of_le
  by_contra short
  have still : (after attempts (reports ++ [last])).state = .circuitOpen :=
    law.mpr ⟨⟨failure, List.mem_append_left _ member, failed⟩, Nat.not_le.mp short⟩
  rw [closed] at still
  contradiction

/-- A breaker closes on consecutive successes only, exactly as long as no failure finds it open with
a pass counted. -/
theorem circuitBreaker_closes_iff (attempts : ℕ) (positive : 0 < attempts)
    (reports : List Report) :
    (ClosesOnConsecutive attempts reports ↔ ¬CompletesInterrupted attempts reports) ∧
      (Uninterrupted attempts reports ↔ ∀ front, front <+: reports → ∀ successes,
        ClosesOnConsecutive attempts
          (front ++ List.replicate successes .healthCheckSuccess)) ∧
      (Uninterrupted attempts reports → ∀ front last, front ++ [last] <+: reports →
        (after attempts front).state = .circuitOpen →
        (after attempts (front ++ [last])).state = .circuitClosed →
        ∃ earlier, front ++ [last] =
          earlier ++ List.replicate attempts .healthCheckSuccess) := by
  refine ⟨closesOnConsecutive_iff positive reports, uninterrupted_iff positive reports, ?_⟩
  intro uninterrupted front last initial
  exact exists_successes_of_closing positive (uninterrupted.of_prefix initial)

/-- A failed price retrieval between health checks does not restart the count. -/
def interruptedReports : List Report :=
  [.healthCheckFailure 0, .healthCheckSuccess, .priceRetrievalFailure 40, .healthCheckSuccess,
    .healthCheckSuccess]

theorem circuitBreaker_closes_iff_three :
    0 < 3 ∧ (ClosesOnConsecutive 3 interruptedReports ↔
      ¬CompletesInterrupted 3 interruptedReports) :=
  ⟨by decide, (circuitBreaker_closes_iff 3 (by decide) interruptedReports).1⟩

/-- Two successes after the last failure close a breaker that asks for three in a row. -/
theorem closes_after_two_successes : ¬ClosesOnConsecutive 3 interruptedReports := by
  rw [ClosesOnConsecutive]
  decide

end SolConversion.Oracle
