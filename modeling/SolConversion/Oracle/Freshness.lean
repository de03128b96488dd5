import SolConversion.Oracle.SignedRate

/-!
# Freshness of signed prices

Everything in the cache was calculated from two prices with publish times and carries the earlier of
them.  A cached rate is returned only while this time is recent, so both prices behind a signed rate
are recent when it is signed, and the branch for cached rates without a publish time is never taken.
-/

namespace SolConversion.Oracle

open Fallible ScriptNumber

variable (arithmetic : Arithmetic) (config : OracleConfig) (services : List PricingService)

/-- A service fetched both prices for a request and calculated the rate from them. -/
def Priced (event : Event) (solPriceData twozPriceData : PriceData) (rate : PriceRate) : Prop :=
  ∃ (request : Request) (responses : FeedResponses) (index : ℕ) (service : PricingService),
    event = .request request responses ∧ services[index]? = some service ∧
    service.prices (responses index) = .ok (solPriceData, twozPriceData) ∧
    swapRateCalculation arithmetic config request.nowUnix solPriceData twozPriceData = .ok rate

/-- The cached rate was calculated for one of the events. -/
def CacheSound (events : List Event) (cache : Option PriceRate) : Prop :=
  ∀ entry, cache = some entry → ∃ event ∈ events, ∃ solPriceData twozPriceData rate,
    Priced arithmetic config services event solPriceData twozPriceData rate ∧
      entry = rate.throughJson

/-- The answer shows a rate and its prices. -/
def Carries (result : SwapRateResponse) (priceRate : PriceRate) : Prop :=
  result.swapRate = scaledRate arithmetic priceRate ∧
    priceText arithmetic.round priceRate.solPriceUsd = some result.solPriceUsd ∧
    priceText arithmetic.round priceRate.twozPriceUsd = some result.twozPriceUsd

variable {arithmetic config services}

private theorem foldl_select_mem {rates : List PriceRate} {first : PriceRate}
    (better : PriceRate → PriceRate → Bool) :
    rates.foldl (fun best current => if better current best then current else best) first ∈
      first :: rates := by
  induction rates generalizing first with
  | nil => exact List.mem_singleton_self first
  | cons rate rates ih =>
      rw [List.foldl_cons]
      have member := @ih (if better rate first then rate else first)
      split at member <;> grind

theorem selectMostFavorableRate_mem {rates : List PriceRate} {rate : PriceRate}
    (selected : selectMostFavorableRate rates = .ok rate) : rate ∈ rates := by
  cases rates with
  | nil => contradiction
  | cons first others =>
      rw [← Except.ok.inj selected]
      exact foldl_select_mem fun current best => current.swapRate.greater best.swapRate

theorem mem_successfulRates {outcomes : Outcomes} {rate : PriceRate} :
    rate ∈ successfulRates outcomes ↔ ∃ service, (service, .ok rate) ∈ outcomes := by
  simp only [successfulRates, List.mem_filterMap]
  constructor
  · rintro ⟨⟨service, outcome⟩, member, succeeded⟩
    cases outcome with
    | error failure => contradiction
    | ok result =>
        obtain rfl := Option.some.inj succeeded
        exact ⟨service, member⟩
  · rintro ⟨service, member⟩
    exact ⟨_, member, rfl⟩

theorem mem_of_fetchSwapRate {request : Request} {outcomes : Outcomes} {rate : PriceRate}
    (fetched : fetchSwapRate request outcomes = .ok (some rate)) :
    rate ∈ successfulRates outcomes := by
  unfold fetchSwapRate at fetched
  split at fetched
  · simp only [bind_eq_ok, pure_eq_ok, Option.some.injEq] at fetched
    obtain ⟨selected, selects, -, -, rfl⟩ := fetched
    exact selectMostFavorableRate_mem selects
  · split at fetched
    · contradiction
    · split at fetched
      · contradiction
      · simp at fetched

theorem priced_of_mem {request : Request} {responses : FeedResponses} {rate : PriceRate}
    (member : rate ∈ successfulRates
      (serviceOutcomes arithmetic config services request responses)) :
    ∃ solPriceData twozPriceData, Priced arithmetic config services (.request request responses)
      solPriceData twozPriceData rate := by
  obtain ⟨serviceType, member⟩ := mem_successfulRates.mp member
  rw [serviceOutcomes, List.mem_mapIdx] at member
  obtain ⟨index, inside, outcome_eq⟩ := member
  have retrieved := (Prod.mk.inj outcome_eq).2
  simp only [PricingService.retrieveSwapRate, bind_eq_ok] at retrieved
  obtain ⟨⟨solPriceData, twozPriceData⟩, fetched, calculated⟩ := retrieved
  exact ⟨solPriceData, twozPriceData, request, responses, index, services[index], rfl,
    List.getElem?_eq_getElem inside, fetched, calculated⟩

private theorem getSwapRate_cache (request : Request) (outcomes : Outcomes) (state : OracleState) :
    (getSwapRate config request outcomes state).2.cache = state.cache ∨
      ∃ rate ∈ successfulRates outcomes,
        (getSwapRate config request outcomes state).2.cache = some rate.throughJson := by
  simp only [getSwapRate]
  split
  · exact .inl rfl
  · exact .inl rfl
  · split
    · exact .inl rfl
    · rename_i rate fetched
      by_cases writes : request.cacheWrites
      · rw [if_pos writes]
        exact .inr ⟨rate, mem_of_fetchSwapRate fetched, rfl⟩
      · rw [if_neg writes]
        exact .inl rfl
    · split
      · exact .inl rfl
      · exact .inl rfl

private theorem swapRateHandler_cache (request : Request) (outcomes : Outcomes)
    (state : OracleState) :
    (swapRateHandler arithmetic config request outcomes state).2.cache = state.cache ∨
      ∃ rate ∈ successfulRates outcomes,
        (swapRateHandler arithmetic config request outcomes state).2.cache =
          some rate.throughJson := by
  have cases_of := @getSwapRate_cache config request outcomes state
  unfold swapRateHandler
  split
  · split
    all_goals
      rename_i found
      rwa [found] at cases_of
  · exact .inl rfl

/-- What a step can do to the cache. -/
theorem step_cache (state : OracleState) (event : Event) :
    (step arithmetic config services state event).cache = state.cache ∨
      (step arithmetic config services state event).cache = none ∨
      ∃ solPriceData twozPriceData rate,
        Priced arithmetic config services event solPriceData twozPriceData rate ∧
          (step arithmetic config services state event).cache = some rate.throughJson := by
  cases event with
  | request request responses =>
      rcases swapRateHandler_cache request
        (serviceOutcomes arithmetic config services request responses) state with
        same | ⟨rate, member, written⟩
      · exact .inl same
      · obtain ⟨sol, twoz, priced⟩ := priced_of_mem member
        exact .inr (.inr ⟨sol, twoz, rate, priced, written⟩)
  | healthChecks dateNow healthChecks => exact .inl rfl
  | cacheExpiry => exact .inr (.inl rfl)

private theorem cacheSound_step {events : List Event} {state : OracleState}
    (sound : CacheSound arithmetic config services events state.cache) (event : Event) :
    CacheSound arithmetic config services (events ++ [event])
      (step arithmetic config services state event).cache := by
  intro entry stored
  rcases step_cache state event with same | expired | ⟨sol, twoz, rate, priced, written⟩
  · rw [same] at stored
    obtain ⟨earlier, member, source⟩ := sound entry stored
    exact ⟨earlier, List.mem_append_left _ member, source⟩
  · rw [expired] at stored
    contradiction
  · rw [written] at stored
    obtain rfl := Option.some.inj stored
    exact ⟨event, by simp, sol, twoz, rate, priced, rfl⟩

/-- In every run whatever is cached was calculated for a request of the run. -/
theorem cacheSound_stateAfter (events : List Event) :
    CacheSound arithmetic config services events
      (stateAfter arithmetic config services events).cache := by
  induction events using List.reverseRecOn with
  | nil =>
      intro entry stored
      contradiction
  | append_singleton events event ih =>
      have after : stateAfter arithmetic config services (events ++ [event]) =
          step arithmetic config services (stateAfter arithmetic config services events) event :=
        List.foldl_append
      rw [after]
      exact cacheSound_step ih event

/-- The publish time of a cached rate is set, and no price behind the rate is older. -/
theorem publishTime_of_priced {event : Event} {solPriceData twozPriceData : PriceData}
    {rate : PriceRate}
    (priced : Priced arithmetic config services event solPriceData twozPriceData rate) :
    ∃ solTime twozTime, solPriceData.publishTime = some solTime ∧
      twozPriceData.publishTime = some twozTime ∧
      truthy rate.publishTime = some (min solTime twozTime) := by
  obtain ⟨request, responses, index, service, -, -, -, calculated⟩ := priced
  obtain ⟨solTime, twozTime, sol_set, sol_nonzero, -, twoz_set, twoz_nonzero, -, minimum⟩ :=
    fresh_of_swapRateCalculation calculated
  refine ⟨solTime, twozTime, sol_set, twoz_set, truthy_eq_some.mpr ⟨minimum, ?_⟩⟩
  rcases min_choice solTime twozTime with first | second
  · rwa [first]
  · rwa [second]

variable (arithmetic config services) in
/-- The rate was calculated for one of the events from prices that are recent at a time. -/
def FreshlyPriced (events : List Event) (nowUnix : ℤ) (rate : PriceRate) : Prop :=
  ∃ event ∈ events, ∃ solPriceData twozPriceData solTime twozTime,
    Priced arithmetic config services event solPriceData twozPriceData rate ∧
      solPriceData.publishTime = some solTime ∧ nowUnix - config.maxPriceAge ≤ solTime ∧
      twozPriceData.publishTime = some twozTime ∧ nowUnix - config.maxPriceAge ≤ twozTime

section Lookup

variable {events : List Event} {cache : Option PriceRate} {nowUnix : ℤ}

theorem lookupCache_ne_legacy (sound : CacheSound arithmetic config services events cache)
    (rate : PriceRate) : lookupCache config nowUnix cache ≠ .legacy rate := by
  cases cache with
  | none => exact nofun
  | some entry =>
      obtain ⟨event, -, sol, twoz, source, priced, rfl⟩ := sound entry rfl
      obtain ⟨solTime, twozTime, -, -, set⟩ := publishTime_of_priced priced
      simp only [lookupCache, throughJson_publishTime, set]
      split
      · exact nofun
      · exact nofun

private theorem freshlyPriced_of_hit {entry : PriceRate}
    (sound : CacheSound arithmetic config services events cache)
    (hit : lookupCache config nowUnix cache = .hit entry) :
    ∃ rate, entry = rate.throughJson ∧
      FreshlyPriced arithmetic config services events nowUnix rate := by
  cases cache with
  | none => contradiction
  | some stored =>
      obtain ⟨event, member, sol, twoz, rate, priced, rfl⟩ := sound stored rfl
      obtain ⟨solTime, twozTime, sol_set, twoz_set, set⟩ := publishTime_of_priced priced
      simp only [lookupCache, throughJson_publishTime, set] at hit
      split at hit
      · rename_i young
        obtain rfl := CacheLookup.hit.inj hit
        have sol_le := min_le_left solTime twozTime
        have twoz_le := min_le_right solTime twozTime
        exact ⟨rate, rfl, event, member, sol, twoz, solTime, twozTime, priced, sol_set, by omega,
          twoz_set, by omega⟩
      · contradiction

end Lookup

private theorem freshlyPriced_of_priced {request : Request} {responses : FeedResponses}
    {solPriceData twozPriceData : PriceData} {rate : PriceRate}
    (priced : Priced arithmetic config services (.request request responses) solPriceData
      twozPriceData rate) :
    FreshlyPriced arithmetic config services [.request request responses] request.nowUnix rate := by
  obtain ⟨request', responses', index, service, same, found, fetched, calculated⟩ := priced
  obtain ⟨rfl, rfl⟩ := Event.request.inj same
  obtain ⟨solTime, twozTime, sol_set, -, sol_young, twoz_set, -, twoz_young, -⟩ :=
    fresh_of_swapRateCalculation calculated
  exact ⟨_, List.mem_singleton_self _, solPriceData, twozPriceData, solTime, twozTime,
    ⟨request, responses, index, service, rfl, found, fetched, calculated⟩, sol_set, by omega,
    twoz_set, by omega⟩

theorem FreshlyPriced.of_subset {events more : List Event} {nowUnix : ℤ} {rate : PriceRate}
    (fresh : FreshlyPriced arithmetic config services events nowUnix rate)
    (subset : events ⊆ more) :
    FreshlyPriced arithmetic config services more nowUnix rate := by
  obtain ⟨event, member, source⟩ := fresh
  exact ⟨event, subset member, source⟩

theorem cacheSound_readCache (events : List Event) (request : Request) :
    CacheSound arithmetic config services events
      (readCache request (stateAfter arithmetic config services events)) := by
  intro entry answered
  unfold readCache at answered
  split at answered
  · exact cacheSound_stateAfter events entry answered
  · contradiction

/-- The rate for a request in a run is recent, whether cached or not. -/
theorem freshlyPriced_of_getSwapRate {earlier : List Event} {request : Request}
    {responses : FeedResponses} {priceRate : PriceRate} {isCacheHit : Bool} {after : OracleState}
    (found : getSwapRate config request
      (serviceOutcomes arithmetic config services request responses)
      (stateAfter arithmetic config services earlier) =
        (.ok (some (priceRate, isCacheHit)), after)) :
    ∃ rate, priceRate = (if isCacheHit then rate.throughJson else rate) ∧
      FreshlyPriced arithmetic config services (earlier ++ [.request request responses])
        request.nowUnix rate := by
  have sound := @cacheSound_readCache arithmetic config services earlier request
  unfold getSwapRate at found
  split at found
  · rename_i entry hit
    obtain ⟨⟨rfl, rfl⟩, rfl⟩ := by simpa using found
    obtain ⟨rate, entry_eq, fresh⟩ := freshlyPriced_of_hit sound hit
    exact ⟨rate, entry_eq, fresh.of_subset (List.subset_append_left _ _)⟩
  · rename_i entry legacy
    exact absurd legacy (lookupCache_ne_legacy sound entry)
  · split at found
    · simp at found
    · rename_i rate fetched
      obtain ⟨⟨rfl, rfl⟩, -⟩ := by simpa using found
      obtain ⟨sol, twoz, priced⟩ := priced_of_mem (mem_of_fetchSwapRate fetched)
      exact ⟨rate, rfl,
        (freshlyPriced_of_priced priced).of_subset (List.subset_append_right _ _)⟩
    · simp at found

theorem carries_of_signedResponse {request : Request} {priceRate : PriceRate} {isCacheHit : Bool}
    {result : SwapRateResponse}
    (signed : signedResponse arithmetic request priceRate isCacheHit = .json result) :
    Carries arithmetic result priceRate ∧ result.cacheHit = isCacheHit ∧
      result.timestamp = request.nowUnix := by
  simp only [signedResponse] at signed
  split at signed
  · exact absurd signed (errorResponse_ne_json _ result)
  · split at signed
    · rename_i sol twoz
      obtain rfl := HandlerResponse.json.inj signed
      exact ⟨⟨rfl, sol, twoz⟩, rfl, rfl⟩
    · simp [internalServerError] at signed

/-- In every run from an empty cache, whatever is signed is a rate of a SOL and a 2Z price fetched
in the run and no older than the maximum age, and no cached rate lacks its publish time. -/
theorem signed_prices_fresh (arithmetic : Arithmetic) (config : OracleConfig)
    (services : List PricingService) (earlier : List Event) (request : Request)
    (responses : FeedResponses) :
    (∀ rate, lookupCache config request.nowUnix
      (readCache request (stateAfter arithmetic config services earlier)) ≠ .legacy rate) ∧
    ∀ result,
      (answer arithmetic config services request responses
        (stateAfter arithmetic config services earlier)).1 = .json result →
      result.timestamp = request.nowUnix ∧
      ∃ rate, Carries arithmetic result (if result.cacheHit then rate.throughJson else rate) ∧
        FreshlyPriced arithmetic config services (earlier ++ [.request request responses])
          result.timestamp rate := by
  refine ⟨lookupCache_ne_legacy (cacheSound_readCache earlier request), fun result signed => ?_⟩
  unfold answer swapRateHandler at signed
  split at signed
  · split at signed
    · rename_i priceRate isCacheHit after found
      obtain ⟨rate, rate_eq, fresh⟩ := freshlyPriced_of_getSwapRate found
      obtain ⟨carries, rfl, timestamp_eq⟩ := carries_of_signedResponse signed
      rw [timestamp_eq]
      exact ⟨rfl, rate, rate_eq ▸ carries, fresh⟩
    · simp [internalServerError] at signed
    · exact absurd signed (errorResponse_ne_json _ result)
  · simp at signed

def pythService : PricingService := ⟨"pyth", some "sol", some "2z"⟩

/-- The feeds answer with SOL at 15 dollars and 2Z at one dollar. -/
def feedAnswers : FeedResponses := fun _ feed _ =>
  match feed with
  | .solUsd => .ok (some ⟨some [some ⟨some (.text "1500000000"), some (.text "500000"), some (-8),
      some 1700000000⟩]⟩)
  | .twozUsd => .ok (some ⟨some [some ⟨some (.text "100000000"), some (.text "40000"), some (-8),
      some 1700000001⟩]⟩)

/-- A request that nothing goes wrong for, with the signed text in place of a signature. -/
def smoothRequest (dateNow : ℤ) : Request := ⟨dateNow, true, true, .ok (), .ok⟩

/-- A passed round of health checks and a request. -/
def firstEvents : List Event :=
  [.healthChecks 1700000005000 [⟨"pyth", .healthy⟩],
    .request (smoothRequest 1700000010000) feedAnswers]

/-- A later request answered from the cache. -/
def cachedResult : SwapRateResponse where
  swapRate := .finite 1500000000
  timestamp := 1700000055
  signature := "1500000000|1700000055"
  solPriceUsd := "15"
  twozPriceUsd := "1"
  cacheHit := true

theorem answer_cached :
    (answer (doubleArithmetic nearestPowerOfTen) defaultConfig [pythService]
      (smoothRequest 1700000055999) feedAnswers
      (stateAfter (doubleArithmetic nearestPowerOfTen) defaultConfig [pythService]
        firstEvents)).1 = .json cachedResult := by
  decide +kernel

theorem signed_prices_fresh_cached :
    (answer (doubleArithmetic nearestPowerOfTen) defaultConfig [pythService]
      (smoothRequest 1700000055999) feedAnswers
      (stateAfter (doubleArithmetic nearestPowerOfTen) defaultConfig [pythService]
        firstEvents)).1 = .json cachedResult ∧
      ∃ rate, Carries (doubleArithmetic nearestPowerOfTen) cachedResult rate.throughJson ∧
        FreshlyPriced (doubleArithmetic nearestPowerOfTen) defaultConfig [pythService]
          (firstEvents ++ [.request (smoothRequest 1700000055999) feedAnswers]) 1700000055 rate :=
  ⟨answer_cached, ((signed_prices_fresh (doubleArithmetic nearestPowerOfTen) defaultConfig
    [pythService] firstEvents (smoothRequest 1700000055999) feedAnswers).2 cachedResult
      answer_cached).2⟩

end SolConversion.Oracle
