import SolConversion.Oracle.CircuitBreaker
import SolConversion.Oracle.SwapRate

/-!
# The swap rate controller

A request is answered from the cache while the cached rate is recent, and else with the best rate of
all pricing services, which is cached in turn.  The answer is signed.  Failures that mean no price
can be given now are told from failures of the service, and only these open the circuit breaker.
-/

namespace SolConversion.Oracle

open Fallible ScriptNumber

structure CircuitBreakerStats where
  state : CircuitBreakerState
  openedAt : Option ℤ
  lastFailureReason : Option String
  deriving DecidableEq

def CircuitBreaker.getStats (breaker : CircuitBreaker) : CircuitBreakerStats :=
  ⟨breaker.state, breaker.openedAt, breaker.lastFailureReason⟩

inductive HealthStatus
  | healthy
  | unHealthy
  deriving DecidableEq

structure HealthCheckResult where
  serviceType : String
  status : HealthStatus
  deriving DecidableEq

structure OracleState where
  /-- The rate read back from the cache. -/
  cache : Option PriceRate
  circuitBreaker : CircuitBreaker
  monitoringData : List HealthCheckResult
  deriving DecidableEq

def OracleState.initial : OracleState := ⟨none, .initial, []⟩

def getHealthStatus (state : OracleState) : Bool :=
  state.circuitBreaker.canExecute &&
    state.monitoringData.any fun healthCheck => healthCheck.status = .healthy

def healthCheckAttemptsToClose : ℕ := 3

/-- A round of health checks. -/
def startMonitoring (dateNow : ℤ) (healthChecks : List HealthCheckResult) (state : OracleState) :
    OracleState :=
  let report : Report :=
    if healthChecks.any fun healthCheck => healthCheck.status = .unHealthy then
      .healthCheckFailure dateNow
    else .healthCheckSuccess
  { state with
    monitoringData := healthChecks
    circuitBreaker := state.circuitBreaker.report healthCheckAttemptsToClose report }

/-- What a request meets: the time in milliseconds, and whether other systems do their part. -/
structure Request where
  dateNow : ℤ
  cacheReads : Bool
  cacheWrites : Bool
  putMonitoringData : Except ServiceError Unit
  signBytes : String → Except ServiceError String

def Request.nowUnix (request : Request) : ℤ := request.dateNow / 1000

/-- The outcome of every pricing service with its type. -/
abbrev Outcomes := List (String × Except ServiceError PriceRate)

def successfulRates (outcomes : Outcomes) : List PriceRate :=
  outcomes.filterMap fun outcome => outcome.2.toOption

/-- The services that failed with an error of unavailability, or with another one. -/
def failedServices (unavailable : Bool) (outcomes : Outcomes) : List String :=
  outcomes.filterMap fun outcome =>
    match outcome.2 with
    | .ok _ => none
    | .error failure => if failure.isUnavailable = unavailable then some outcome.1 else none

def confidenceFailures (outcomes : Outcomes) : List String := failedServices true outcomes

def systemFailures (outcomes : Outcomes) : List String := failedServices false outcomes

def selectMostFavorableRate : List PriceRate → Except ServiceError PriceRate
  | [] => .error (.other "No price rates available")
  | first :: others =>
      .ok (others.foldl
        (fun bestRate currentRate =>
          if currentRate.swapRate.greater bestRate.swapRate then currentRate else bestRate) first)

/-- The rate of the services, none if there is no service. -/
def fetchSwapRate (request : Request) (outcomes : Outcomes) :
    Except ServiceError (Option PriceRate) :=
  if successfulRates outcomes ≠ [] then do
    let priceRate ← selectMostFavorableRate (successfulRates outcomes)
    request.putMonitoringData
    return some priceRate
  else if confidenceFailures outcomes ≠ [] then
    .error (.unavailable ("All pricing services failed confidence check. Services: " ++
      ", ".intercalate (confidenceFailures outcomes)))
  else if systemFailures outcomes ≠ [] then
    .error (.other ("Pricing services system failures. Failed services: " ++
      ", ".intercalate (systemFailures outcomes) ++ "."))
  else .ok none

inductive CacheLookup
  | hit (priceRate : PriceRate)
  /-- An entry without a publish time is returned whatever its age. -/
  | legacy (priceRate : PriceRate)
  | refetch

def lookupCache (config : OracleConfig) (nowUnix : ℤ) : Option PriceRate → CacheLookup
  | none => .refetch
  | some cachedSwapRate =>
      match truthy cachedSwapRate.publishTime with
      | some publishTime =>
          if nowUnix - publishTime ≤ config.maxPriceAge then .hit cachedSwapRate else .refetch
      | none => .legacy cachedSwapRate

/-- The rate as the cache gives it back. -/
def PriceRate.throughJson (priceRate : PriceRate) : PriceRate :=
  { priceRate with
    swapRate := priceRate.swapRate.throughJson
    solPriceUsd := priceRate.solPriceUsd.throughJson
    twozPriceUsd := priceRate.twozPriceUsd.throughJson }

@[simp]
theorem throughJson_publishTime (priceRate : PriceRate) :
    priceRate.throughJson.publishTime = priceRate.publishTime := rfl

/-- What the cache answers, nothing if it fails. -/
def readCache (request : Request) (state : OracleState) : Option PriceRate :=
  if request.cacheReads then state.cache else none

/-- The rate for a request and whether it comes from the cache. -/
def getSwapRate (config : OracleConfig) (request : Request) (outcomes : Outcomes)
    (state : OracleState) : Except ServiceError (Option (PriceRate × Bool)) × OracleState :=
  match lookupCache config request.nowUnix (readCache request state) with
  | .hit cachedSwapRate => (.ok (some (cachedSwapRate, true)), state)
  | .legacy cachedSwapRate => (.ok (some (cachedSwapRate, true)), state)
  | .refetch =>
      match fetchSwapRate request outcomes with
      | .ok none => (.ok none, state)
      | .ok (some priceRate) =>
          (.ok (some (priceRate, false)),
            if request.cacheWrites then { state with cache := some priceRate.throughJson }
            else state)
      | .error failure =>
          (.error failure,
            if failure.isUnavailable then state
            else
              { state with
                circuitBreaker := state.circuitBreaker.onPriceRetrievalFailure request.dateNow })

structure SwapRateResponse where
  swapRate : Number
  timestamp : ℤ
  signature : String
  solPriceUsd : String
  twozPriceUsd : String
  cacheHit : Bool
  deriving DecidableEq

structure StalePrice where
  feedId : String
  publishTime : ℤ
  ageSeconds : ℤ
  maxAgeSeconds : ℤ
  deriving DecidableEq

structure ErrorBody where
  error : String
  details : Option String := none
  circuitBreakerStats : Option CircuitBreakerStats := none
  stalePrice : Option StalePrice := none
  retryAfter : Option String := none
  deriving DecidableEq

inductive HandlerResponse
  | json (result : SwapRateResponse)
  | failure (status : ℕ) (body : ErrorBody)
  deriving DecidableEq

def internalServerError : HandlerResponse := .failure 500 { error := "Internal server error" }

/-- The answer to a request that failed. -/
def errorResponse : ServiceError → HandlerResponse
  | .staleness message feedId publishTime ageSeconds maxAgeSeconds =>
      .failure 503 {
        error := "Price data too old"
        details := some message
        stalePrice := some ⟨feedId, publishTime, ageSeconds, maxAgeSeconds⟩
        retryAfter := some "30 seconds" }
  | .unavailable _ =>
      .failure 503 {
        error := "Price data temporarily unavailable"
        details := some
          "Current price data confidence levels exceed acceptable thresholds"
        retryAfter := some "60 seconds" }
  | _ => internalServerError

theorem errorResponse_ne_json (failure : ServiceError) (result : SwapRateResponse) :
    errorResponse failure ≠ .json result := by
  cases failure with
  | staleness | unavailable | priceService | configuration | other => exact nofun

/-- The text that is signed. -/
def attestationMessage (round : ℚ → ℚ) (swapRate : Number) (timestamp : ℤ) : String :=
  swapRate.text round ++ "|" ++ toString timestamp

/-- A price in dollars as text, which `null` does not have. -/
def priceText (round : ℚ → ℚ) : Number → Option String
  | .null => none
  | price => some (price.text round)

section Handler

variable (arithmetic : Arithmetic) (config : OracleConfig)

def scaledRate (priceRate : PriceRate) : Number :=
  priceRate.swapRate.mul arithmetic (.finite twozPrecision)

/-- The signed answer with a rate. -/
def signedResponse (request : Request) (priceRate : PriceRate) (isCacheHit : Bool) :
    HandlerResponse :=
  let timestamp := request.nowUnix
  let swapRate := scaledRate arithmetic priceRate
  match request.signBytes (attestationMessage arithmetic.round swapRate timestamp) with
  | .error failure => errorResponse failure
  | .ok signedBytes =>
      match priceText arithmetic.round priceRate.solPriceUsd,
        priceText arithmetic.round priceRate.twozPriceUsd with
      | some solPriceUsd, some twozPriceUsd =>
          .json ⟨swapRate, timestamp, signedBytes, solPriceUsd, twozPriceUsd, isCacheHit⟩
      | _, _ => internalServerError

def swapRateHandler (request : Request) (outcomes : Outcomes) (state : OracleState) :
    HandlerResponse × OracleState :=
  if getHealthStatus state then
    match getSwapRate config request outcomes state with
    | (.ok (some (priceRate, isCacheHit)), after) =>
        (signedResponse arithmetic request priceRate isCacheHit, after)
    | (.ok none, after) => (internalServerError, after)
    | (.error failure, after) => (errorResponse failure, after)
  else
    (.failure 503 {
      error := "Service temporarily unavailable"
      details := some "Health check failed"
      circuitBreakerStats := some state.circuitBreaker.getStats }, state)

/-- The answers of the feed server by service, feed and attempt. -/
abbrev FeedResponses := ℕ → PriceFeed → ℕ → FeedResponse

inductive Event
  | request (request : Request) (responses : FeedResponses)
  | healthChecks (dateNow : ℤ) (healthChecks : List HealthCheckResult)
  | cacheExpiry

variable (services : List PricingService)

/-- The outcomes of all services for a request. -/
def serviceOutcomes (request : Request) (responses : FeedResponses) : Outcomes :=
  services.mapIdx fun index service => (service.serviceType,
    service.retrieveSwapRate arithmetic config request.nowUnix (responses index))

/-- The answer to a request in a state, and the state behind it. -/
def answer (request : Request) (responses : FeedResponses) (state : OracleState) :
    HandlerResponse × OracleState :=
  swapRateHandler arithmetic config request
    (serviceOutcomes arithmetic config services request responses) state

def step (state : OracleState) : Event → OracleState
  | .request request responses => (answer arithmetic config services request responses state).2
  | .healthChecks dateNow healthChecks => startMonitoring dateNow healthChecks state
  | .cacheExpiry => { state with cache := none }

/-- The state after some events, starting with an empty cache. -/
def stateAfter (events : List Event) : OracleState :=
  events.foldl (step arithmetic config services) .initial

end Handler

end SolConversion.Oracle
