import SolConversion.Oracle.Freshness

/-!
# The classification of price failures

A request that needs new rates is answered from the outcomes of all pricing services.  The handler
tells stale prices from other unavailable ones, but the failure of all services is thrown anew as
one of unavailability, so the answer for stale prices is never given.
-/

namespace SolConversion.Oracle

open Fallible ScriptNumber

def ServiceError.stalePrice : ServiceError → Option StalePrice
  | .staleness _ feedId publishTime ageSeconds maxAgeSeconds =>
      some ⟨feedId, publishTime, ageSeconds, maxAgeSeconds⟩
  | _ => none

def ServiceError.isStaleness (failure : ServiceError) : Bool := failure.stalePrice.isSome

/-- The errors of the services that failed. -/
def serviceErrors (outcomes : Outcomes) : List ServiceError :=
  outcomes.filterMap fun outcome =>
    match outcome.2 with
    | .ok _ => none
    | .error failure => some failure

/-- One of some rates that none of them exceeds. -/
structure IsMaximum (rates : List PriceRate) (best : PriceRate) : Prop where
  member : best ∈ rates
  unexceeded : ∀ rate ∈ rates, rate.swapRate.greater best.swapRate = false

/-- The answer and the breaker fit the outcomes of the services. -/
structure Classified (arithmetic : Arithmetic) (request : Request) (outcomes : Outcomes)
    (response : HandlerResponse) (breaker : CircuitBreaker) : Prop where
  rate : successfulRates outcomes ≠ [] →
    ∃ best, IsMaximum (successfulRates outcomes) best ∧
      response = signedResponse arithmetic request best false
  stale : successfulRates outcomes = [] →
    (∀ failure ∈ serviceErrors outcomes, failure.isStaleness = true) →
    ∃ body stalePrice, response = .failure 503 body ∧ body.error = "Price data too old" ∧
      body.stalePrice = some stalePrice ∧
      ∃ failure ∈ serviceErrors outcomes, failure.stalePrice = some stalePrice
  unavailable : successfulRates outcomes = [] →
    (∃ failure ∈ serviceErrors outcomes, failure.isStaleness = false) →
    (∃ failure ∈ serviceErrors outcomes, failure.isUnavailable = true) →
    ∃ body, response = .failure 503 body ∧ body.error = "Price data temporarily unavailable"
  internal : successfulRates outcomes = [] →
    (∀ failure ∈ serviceErrors outcomes, failure.isUnavailable = false) →
    ∃ body, response = .failure 500 body
  opened : breaker.state = .circuitOpen ↔ successfulRates outcomes = [] ∧
    ∀ failure ∈ serviceErrors outcomes, failure.isUnavailable = false

variable {outcomes : Outcomes}

theorem mem_serviceErrors {failure : ServiceError} :
    failure ∈ serviceErrors outcomes ↔ ∃ service, (service, .error failure) ∈ outcomes := by
  simp only [serviceErrors, List.mem_filterMap]
  constructor
  · rintro ⟨⟨service, outcome⟩, member, failed⟩
    cases outcome with
    | ok rate => contradiction
    | error reported =>
        obtain rfl := Option.some.inj failed
        exact ⟨service, member⟩
  · rintro ⟨service, member⟩
    exact ⟨_, member, rfl⟩

theorem exists_mem_serviceErrors (nonempty : outcomes ≠ [])
    (no_rate : successfulRates outcomes = []) : ∃ failure, failure ∈ serviceErrors outcomes := by
  obtain ⟨⟨service, outcome⟩, member⟩ := List.exists_mem_of_ne_nil outcomes nonempty
  cases outcome with
  | ok rate =>
      have successful : rate ∈ successfulRates outcomes := mem_successfulRates.mpr ⟨service, member⟩
      rw [no_rate] at successful
      contradiction
  | error failure => exact ⟨failure, mem_serviceErrors.mpr ⟨service, member⟩⟩

theorem failedServices_ne_nil {unavailable : Bool} :
    failedServices unavailable outcomes ≠ [] ↔
      ∃ failure ∈ serviceErrors outcomes, failure.isUnavailable = unavailable := by
  induction outcomes with
  | nil => simp [failedServices, serviceErrors]
  | cons outcome outcomes ih =>
      obtain ⟨service, result⟩ := outcome
      cases result with
      | ok rate => exact ih
      | error failure =>
          have errors : serviceErrors ((service, .error failure) :: outcomes) =
            failure :: serviceErrors outcomes := rfl
          rw [errors, List.exists_mem_cons_iff, ← ih]
          by_cases kind : failure.isUnavailable = unavailable
          · simp [failedServices, kind]
          · simp [failedServices, kind]

private theorem failedServices_eq_nil {unavailable : Bool} :
    failedServices unavailable outcomes = [] ↔
      ∀ failure ∈ serviceErrors outcomes, failure.isUnavailable = !unavailable := by
  rw [← not_iff_not]
  apply failedServices_ne_nil.trans
  simp

private theorem isUnavailable_of_isStaleness {failure : ServiceError}
    (stale : failure.isStaleness = true) : failure.isUnavailable = true := by
  cases failure with
  | staleness | unavailable => rfl
  | priceService | configuration | other => contradiction

private theorem greater_eq_false_of_greater {best current other : Number}
    (exceeds : current.greater best = true) (below : other.greater best = false) :
    other.greater current = false := by
  unfold Number.greater at *
  grind

theorem greater_self (number : Number) : number.greater number = false := by
  unfold Number.greater
  grind

/-- Keeping the greater of two rates leaves one that no rate exceeds. -/
theorem foldl_select_unexceeded (rates seen : List PriceRate) (first : PriceRate)
    (unexceeded : ∀ rate ∈ seen, rate.swapRate.greater first.swapRate = false) :
    ∀ rate ∈ seen ++ rates, rate.swapRate.greater
      (rates.foldl (fun bestRate currentRate =>
        if currentRate.swapRate.greater bestRate.swapRate then currentRate else bestRate)
        first).swapRate = false := by
  induction rates generalizing seen first with
  | nil => simpa using unexceeded
  | cons current rates ih =>
      rw [List.foldl_cons, List.append_cons]
      apply ih
      intro rate member
      by_cases exceeds : current.swapRate.greater first.swapRate = true
      · rw [if_pos exceeds]
        rcases List.mem_append.mp member with before | last
        · exact greater_eq_false_of_greater exceeds (unexceeded rate before)
        · rw [List.mem_singleton.mp last]
          exact greater_self _
      · rw [if_neg exceeds]
        rcases List.mem_append.mp member with before | last
        · exact unexceeded rate before
        · rw [List.mem_singleton.mp last]
          exact Bool.eq_false_iff.mpr exceeds

private theorem selectMostFavorableRate_isMaximum {rates : List PriceRate} (nonempty : rates ≠ []) :
    ∃ best, selectMostFavorableRate rates = .ok best ∧ IsMaximum rates best := by
  cases rates with
  | nil => contradiction
  | cons first others =>
      refine ⟨_, rfl, selectMostFavorableRate_mem rfl, ?_⟩
      have start : ∀ rate ∈ [first], rate.swapRate.greater first.swapRate = false := by
        intro rate member
        rw [List.mem_singleton.mp member]
        exact greater_self _
      exact foldl_select_unexceeded others [first] first start

/-- Among finite rates the maximum is at least as large as each of them. -/
theorem IsMaximum.le {rates : List PriceRate} {best rate : PriceRate} {value maximum : ℚ}
    (largest : IsMaximum rates best) (member : rate ∈ rates)
    (value_eq : rate.swapRate = .finite value) (maximum_eq : best.swapRate = .finite maximum) :
    value ≤ maximum := by
  have unexceeded := largest.unexceeded rate member
  rw [value_eq, maximum_eq] at unexceeded
  exact not_lt.mp (of_decide_eq_false unexceeded)

section Handler

variable {arithmetic : Arithmetic} {config : OracleConfig} {request : Request}
  {state : OracleState}

/-- The services are asked as the service is healthy and the cache of no use. -/
structure Refetches (config : OracleConfig) (request : Request) (state : OracleState) : Prop where
  healthy : getHealthStatus state = true
  no_entry : lookupCache config request.nowUnix (readCache request state) = .refetch

private theorem circuitClosed_of_healthy (healthy : getHealthStatus state = true) :
    state.circuitBreaker.state = .circuitClosed := by
  rw [getHealthStatus, Bool.and_eq_true] at healthy
  exact of_decide_eq_true healthy.1

private theorem swapRateHandler_of_rates (refetches : Refetches config request state)
    (monitored : request.putMonitoringData = .ok ()) (writes : request.cacheWrites = true)
    (rates : successfulRates outcomes ≠ []) :
    ∃ best, IsMaximum (successfulRates outcomes) best ∧
      swapRateHandler arithmetic config request outcomes state =
        (signedResponse arithmetic request best false,
          { state with cache := some best.throughJson }) := by
  obtain ⟨best, selected, largest⟩ := selectMostFavorableRate_isMaximum rates
  refine ⟨best, largest, ?_⟩
  have fetched : fetchSwapRate request outcomes = .ok (some best) := by
    rw [fetchSwapRate, if_pos rates, selected, ok_bind, monitored]
    rfl
  simp [swapRateHandler, getSwapRate, refetches.healthy, refetches.no_entry, fetched, writes]

/-- Without a rate one failure of unavailability decides, whatever kind of it. -/
theorem swapRateHandler_of_unavailable (refetches : Refetches config request state)
    (no_rate : successfulRates outcomes = [])
    (unavailable : ∃ failure ∈ serviceErrors outcomes, failure.isUnavailable = true) :
    swapRateHandler arithmetic config request outcomes state =
      (errorResponse (.unavailable ("All pricing services failed confidence check. Services: " ++
        ", ".intercalate (confidenceFailures outcomes))), state) := by
  have confidence : confidenceFailures outcomes ≠ [] := failedServices_ne_nil.mpr unavailable
  have fetched : fetchSwapRate request outcomes =
      .error (.unavailable ("All pricing services failed confidence check. Services: " ++
        ", ".intercalate (confidenceFailures outcomes))) := by
    rw [fetchSwapRate, if_neg (not_not_intro no_rate), if_pos confidence]
  simp [swapRateHandler, getSwapRate, refetches.healthy, refetches.no_entry, fetched,
    ServiceError.isUnavailable]

private theorem swapRateHandler_of_system (refetches : Refetches config request state)
    (nonempty : outcomes ≠ []) (no_rate : successfulRates outcomes = [])
    (system : ∀ failure ∈ serviceErrors outcomes, failure.isUnavailable = false) :
    swapRateHandler arithmetic config request outcomes state =
      (internalServerError, { state with
        circuitBreaker := state.circuitBreaker.onPriceRetrievalFailure request.dateNow }) := by
  have no_confidence : confidenceFailures outcomes = [] := failedServices_eq_nil.mpr system
  obtain ⟨failure, member⟩ := exists_mem_serviceErrors nonempty no_rate
  have failed : systemFailures outcomes ≠ [] :=
    failedServices_ne_nil.mpr ⟨failure, member, system failure member⟩
  have fetched : ∃ message, fetchSwapRate request outcomes = .error (.other message) := by
    rw [fetchSwapRate, if_neg (not_not_intro no_rate), if_neg (not_not_intro no_confidence),
      if_pos failed]
    exact ⟨_, rfl⟩
  obtain ⟨message, fetched⟩ := fetched
  simp [swapRateHandler, getSwapRate, refetches.healthy, refetches.no_entry, fetched,
    ServiceError.isUnavailable, errorResponse]

private theorem classified_of_other (refetches : Refetches config request state)
    (monitored : request.putMonitoringData = .ok ()) (writes : request.cacheWrites = true)
    (nonempty : outcomes ≠ [])
    (other : successfulRates outcomes ≠ [] ∨
      ∃ failure ∈ serviceErrors outcomes, failure.isStaleness = false) :
    Classified arithmetic request outcomes
      (swapRateHandler arithmetic config request outcomes state).1
      (swapRateHandler arithmetic config request outcomes state).2.circuitBreaker := by
  have closed := circuitClosed_of_healthy refetches.healthy
  by_cases no_rate : successfulRates outcomes = []
  · obtain ⟨failure, member, fresh⟩ := other.resolve_left (not_not_intro no_rate)
    by_cases system : ∀ failure ∈ serviceErrors outcomes, failure.isUnavailable = false
    · rw [swapRateHandler_of_system refetches nonempty no_rate system]
      refine ⟨fun rates => absurd no_rate rates, fun _ stale => ?_, fun _ _ unavailable => ?_,
        fun _ _ => ⟨_, rfl⟩, ?_⟩
      · rw [stale failure member] at fresh
        contradiction
      · obtain ⟨reported, reported_member, is_unavailable⟩ := unavailable
        rw [system reported reported_member] at is_unavailable
        contradiction
      · simpa [CircuitBreaker.onPriceRetrievalFailure, CircuitBreaker.openCircuit, closed, no_rate]
          using system
    · have unavailable : ∃ failure ∈ serviceErrors outcomes, failure.isUnavailable = true := by
        simpa using system
      rw [swapRateHandler_of_unavailable refetches no_rate unavailable]
      refine ⟨fun rates => absurd no_rate rates, fun _ stale => ?_, fun _ _ _ => ⟨_, rfl, rfl⟩,
        fun _ none_unavailable => absurd none_unavailable system, ?_⟩
      · rw [stale failure member] at fresh
        contradiction
      · simp only [closed, reduceCtorEq, false_iff, not_and]
        exact fun _ => system
  · obtain ⟨best, largest, handled⟩ :=
      @swapRateHandler_of_rates _ arithmetic _ _ _ refetches monitored writes no_rate
    rw [handled]
    refine ⟨fun _ => ⟨best, largest, rfl⟩, fun none => absurd none no_rate,
      fun none => absurd none no_rate, fun none => absurd none no_rate, ?_⟩
    simp [closed, no_rate]

/-- The answer fits the outcomes unless every service has stale prices. -/
theorem failures_classified_iff (healthy : getHealthStatus state = true)
    (no_entry : lookupCache config request.nowUnix (readCache request state) = .refetch)
    (monitored : request.putMonitoringData = .ok ()) (writes : request.cacheWrites = true)
    (nonempty : outcomes ≠ []) :
    Classified arithmetic request outcomes
        (swapRateHandler arithmetic config request outcomes state).1
        (swapRateHandler arithmetic config request outcomes state).2.circuitBreaker ↔
      successfulRates outcomes ≠ [] ∨
        ∃ failure ∈ serviceErrors outcomes, failure.isStaleness = false := by
  have refetches : Refetches config request state := ⟨healthy, no_entry⟩
  constructor
  · intro classified
    by_contra all_stale
    rw [not_or, not_not] at all_stale
    obtain ⟨no_rate, none_other⟩ := all_stale
    have stale : ∀ failure ∈ serviceErrors outcomes, failure.isStaleness = true := by
      intro failure member
      apply Bool.of_not_eq_false
      exact fun fresh => none_other ⟨failure, member, fresh⟩
    obtain ⟨failure, member⟩ := exists_mem_serviceErrors nonempty no_rate
    have unavailable : ∃ failure ∈ serviceErrors outcomes, failure.isUnavailable = true :=
      ⟨failure, member, isUnavailable_of_isStaleness (stale failure member)⟩
    obtain ⟨body, stalePrice, answered, error_eq, -⟩ := classified.stale no_rate stale
    rw [swapRateHandler_of_unavailable refetches no_rate unavailable] at answered
    obtain ⟨-, rfl⟩ := HandlerResponse.failure.inj answered
    simp at error_eq
  · exact classified_of_other refetches monitored writes nonempty

end Handler

/-- A request at one second past the first minute, with all other systems at work. -/
def requestInSecondMinute : Request where
  dateNow := 61000
  cacheReads := true
  cacheWrites := true
  putMonitoringData := .ok ()
  signBytes := .ok

/-- The breaker is closed and one service was found healthy. -/
def healthyState : OracleState := ⟨none, .initial, [⟨"Pyth", .healthy⟩]⟩

/-- One service, whose SOL price is one second too old. -/
def staleOutcomes : Outcomes :=
  [("Pyth", .error (.staleness "SOL price data is stale (age: 61s, max: 60s)" "SOL/USD" 0 61 60))]

theorem failures_misclassified : ¬Classified .exact requestInSecondMinute staleOutcomes
    (swapRateHandler .exact defaultConfig requestInSecondMinute staleOutcomes
      healthyState).1
    (swapRateHandler .exact defaultConfig requestInSecondMinute staleOutcomes
      healthyState).2.circuitBreaker := by
  intro classified
  obtain ⟨body, stalePrice, answered, error_eq, -⟩ := classified.stale rfl (by simp
    [serviceErrors, staleOutcomes, ServiceError.isStaleness, ServiceError.stalePrice])
  obtain ⟨-, rfl⟩ := HandlerResponse.failure.inj answered
  simp at error_eq

/-- A stale price beside one without a publish time. -/
def mixedOutcomes : Outcomes :=
  ("Pyth", .error (.unavailable "2Z price data missing publishTime")) :: staleOutcomes

theorem failures_classified_mixed : Classified .exact requestInSecondMinute mixedOutcomes
    (swapRateHandler .exact defaultConfig requestInSecondMinute mixedOutcomes healthyState).1
    (swapRateHandler .exact defaultConfig requestInSecondMinute mixedOutcomes
      healthyState).2.circuitBreaker :=
  (failures_classified_iff rfl rfl rfl rfl (List.cons_ne_nil _ _)).mpr
    (.inr ⟨.unavailable "2Z price data missing publishTime",
      mem_serviceErrors.mpr ⟨"Pyth", List.mem_cons_self⟩, rfl⟩)

end SolConversion.Oracle
