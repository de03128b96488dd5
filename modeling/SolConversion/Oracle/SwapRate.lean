import SolConversion.Foundation.Fallible
import SolConversion.Foundation.ScriptNumber

/-!
# Swap rates from price feeds

A pricing service fetches a SOL price and a 2Z price, a few times if need be, and divides one by the
other.  A price without a publish time, too old or too uncertain gives no rate.  Times are whole
seconds.
-/

namespace SolConversion.Oracle

open Fallible ScriptNumber

def twozPrecision : ℕ := 100000000

def twozPrecisionDecimals : ℕ := 8

def defaultMaxPriceAgeSeconds : ℤ := 60

/-- The errors of a pricing service; one of staleness is one of unavailability too. -/
inductive ServiceError
  | staleness (message feedId : String) (publishTime ageSeconds maxAgeSeconds : ℤ)
  | unavailable (message : String)
  | priceService (message feedId : String)
  | configuration (message : String)
  | other (message : String)
  deriving DecidableEq

def ServiceError.isUnavailable : ServiceError → Bool
  | .staleness .. => true
  | .unavailable _ => true
  | _ => false

/-- A number that is set, which zero is not. -/
def truthy (number : Option ℤ) : Option ℤ := number.filter (· ≠ 0)

@[simp]
theorem truthy_eq_some {number : Option ℤ} {value : ℤ} :
    truthy number = some value ↔ number = some value ∧ value ≠ 0 := by
  simp [truthy, Option.filter_eq_some_iff]

/-- What a feed says in place of a number. -/
inductive Amount
  | text (digits : String)
  | number (value : Number)
  deriving DecidableEq

structure PriceData where
  confidence : Amount
  price : Amount
  exponent : ℤ
  publishTime : Option ℤ
  deriving DecidableEq

structure PriceRate where
  swapRate : Number
  solPriceUsd : Number
  twozPriceUsd : Number
  /-- The second whose date is stored. -/
  lastPriceUpdate : ℤ
  publishTime : Option ℤ
  solPublishTime : Option ℤ
  twozPublishTime : Option ℤ
  deriving DecidableEq

structure OracleConfig where
  maxConfidenceRatio : Number
  maxPriceAgeSeconds : Option ℤ

def OracleConfig.maxPriceAge (config : OracleConfig) : ℤ :=
  (truthy config.maxPriceAgeSeconds).getD defaultMaxPriceAgeSeconds

section Calculation

variable (arithmetic : Arithmetic) (config : OracleConfig) (now : ℤ)

def convertPrice (price : Amount) (exponent : ℤ) : Number :=
  let priceNum :=
    match price with
    | .text digits => parseInt arithmetic.round digits
    | .number value => value
  priceNum.mul arithmetic (arithmetic.powerOfTen exponent)

/-- A publish time that is set and recent enough. -/
def checkPublishTime (symbol feedId : String) (publishTime : Option ℤ) : Except ServiceError ℤ := do
  let publishTime ← orFail (.unavailable (symbol ++ " price data missing publishTime"))
    (truthy publishTime)
  let age := now - publishTime
  require (age ≤ config.maxPriceAge) (.staleness
    (symbol ++ " price data is stale (age: " ++ toString age ++ "s, max: " ++
      toString config.maxPriceAge ++ "s)") feedId publishTime age config.maxPriceAge)
  return publishTime

/-- `swapRateCalculation` over a division. -/
def swapRateCalculationWith (divide : Number → Number → Number)
    (solPriceData twozPriceData : PriceData) : Except ServiceError PriceRate := do
  let solPublishTime ← checkPublishTime config now "SOL" "SOL/USD" solPriceData.publishTime
  let twozPublishTime ← checkPublishTime config now "2Z" "2Z/USD" twozPriceData.publishTime
  let solUsdPrice := convertPrice arithmetic solPriceData.price solPriceData.exponent
  let solConfidence := convertPrice arithmetic solPriceData.confidence solPriceData.exponent
  let twozUsdPrice := convertPrice arithmetic twozPriceData.price twozPriceData.exponent
  let twozConfidence := convertPrice arithmetic twozPriceData.confidence twozPriceData.exponent
  let solConfidenceRatio := divide solConfidence solUsdPrice
  let twozConfidenceRatio := divide twozConfidence twozUsdPrice
  let combinedConfidenceRatio := solConfidenceRatio.add arithmetic twozConfidenceRatio
  require (combinedConfidenceRatio.greater config.maxConfidenceRatio = false)
    (.unavailable "Price data confidence check failed. Combined ratio exceeds maximum")
  let twozPerSol := divide solUsdPrice twozUsdPrice
  let roundedTwozPerSol :=
    parseFloat arithmetic.round (twozPerSol.toFixed arithmetic.round twozPrecisionDecimals)
  return {
    swapRate := roundedTwozPerSol
    solPriceUsd := solUsdPrice
    twozPriceUsd := twozUsdPrice
    lastPriceUpdate := now
    publishTime := some (min solPublishTime twozPublishTime)
    solPublishTime := some solPublishTime
    twozPublishTime := some twozPublishTime }

/-- The division is that of the language. -/
def swapRateCalculation (solPriceData twozPriceData : PriceData) :
    Except ServiceError PriceRate :=
  swapRateCalculationWith arithmetic config now (Number.div arithmetic) solPriceData twozPriceData

end Calculation

inductive PriceFeed
  | solUsd
  | twozUsd
  deriving DecidableEq

/-- The price object of a feed. -/
structure FeedPrice where
  price : Option Amount
  conf : Option Amount
  expo : Option ℤ
  publishTime : Option ℤ

/-- An answer of the feed server, where anything may be missing. -/
structure PriceUpdate where
  parsed : Option (List (Option FeedPrice))

/-- The outcome of asking the feed server. -/
abbrev FeedResponse := Except ServiceError (Option PriceUpdate)

def maxRetries : ℕ := 3

/-- The price in an answer that has all its parts. -/
def validatePriceData (feedID : String) (priceData : Option PriceUpdate) :
    Except ServiceError PriceData := do
  let priceData ← orFail (.priceService "Received null or undefined price data" feedID) priceData
  let first ← orFail
    (.priceService "Invalid price data structure: missing or empty parsed array" feedID)
    (priceData.parsed.bind List.head?)
  let firstPrice ← orFail
    (.priceService "Invalid price data structure: missing price object" feedID) first
  let price ← orFail (.priceService "Price value is missing or null" feedID) firstPrice.price
  let conf ← orFail (.priceService "Confidence value is missing or null" feedID) firstPrice.conf
  let expo ← orFail (.priceService "Exponent value is missing or null" feedID) firstPrice.expo
  let publishTime ← orFail (.priceService "Publish time is missing" feedID)
    (truthy firstPrice.publishTime)
  return ⟨conf, price, expo, some publishTime⟩

/-- An error after which the server is not asked again. -/
def ServiceError.isFinal : ServiceError → Bool
  | .configuration _ => true
  | .priceService message _ =>
      message.toList.tails.any fun rest => "Invalid".toList.isPrefixOf rest
  | _ => false

/-- The first valid price, unless a final error or the last attempt comes first. -/
def attemptPrice (feedID : String) (responses : ℕ → FeedResponse) (attempt : ℕ) :
    ℕ → Option PriceData
  | 0 => none
  | remaining + 1 =>
      match responses attempt >>= validatePriceData feedID with
      | .ok priceData => some priceData
      | .error failure =>
          if failure.isFinal then none else attemptPrice feedID responses (attempt + 1) remaining

def fetchPrice (feedID : String) (responses : ℕ → FeedResponse) : Except ServiceError PriceData :=
  orFail
    (.priceService ("Failed to fetch price for feed " ++ feedID ++ " after " ++
      toString maxRetries ++ " attempts") feedID)
    (attemptPrice feedID responses 1 maxRetries)

structure PricingService where
  serviceType : String
  solUsdFeedID : Option String
  twozUsdFeedID : Option String

/-- The identifiers of both feeds, which must not be empty. -/
def PricingService.feedIDs (service : PricingService) : Except ServiceError (String × String) := do
  let solUsdFeedID ← orFail (.other "Missing required feed IDs")
    (service.solUsdFeedID.filter (· ≠ ""))
  let twozUsdFeedID ← orFail (.other "Missing required feed IDs")
    (service.twozUsdFeedID.filter (· ≠ ""))
  return (solUsdFeedID, twozUsdFeedID)

/-- The two prices a service fetches. -/
def PricingService.prices (service : PricingService) (responses : PriceFeed → ℕ → FeedResponse) :
    Except ServiceError (PriceData × PriceData) := do
  let (solUsdFeedID, twozUsdFeedID) ← service.feedIDs
  let solPrice ← mapFailure
    (fun _ => .priceService "Failed to fetch SOL price" solUsdFeedID)
    (fetchPrice solUsdFeedID (responses .solUsd))
  let twozPrice ← mapFailure
    (fun _ => .priceService "Failed to fetch TWOZ price" twozUsdFeedID)
    (fetchPrice twozUsdFeedID (responses .twozUsd))
  return (solPrice, twozPrice)

def PricingService.retrieveSwapRate (arithmetic : Arithmetic) (config : OracleConfig) (now : ℤ)
    (service : PricingService) (responses : PriceFeed → ℕ → FeedResponse) :
    Except ServiceError PriceRate := do
  let (solPrice, twozPrice) ← service.prices responses
  swapRateCalculation arithmetic config now solPrice twozPrice

theorem checkPublishTime_eq_ok {config : OracleConfig} {now : ℤ} {symbol feedId : String}
    {publishTime : Option ℤ} {time : ℤ} :
    checkPublishTime config now symbol feedId publishTime = .ok time ↔
      publishTime = some time ∧ time ≠ 0 ∧ now - time ≤ config.maxPriceAge := by
  simp only [checkPublishTime, bind_eq_ok, orFail_eq_ok, truthy_eq_some, require_eq_ok, pure_eq_ok]
  constructor
  · rintro ⟨_, ⟨set, nonzero⟩, _, young, rfl⟩
    exact ⟨set, nonzero, young⟩
  · rintro ⟨set, nonzero, young⟩
    exact ⟨time, ⟨set, nonzero⟩, (), young, rfl⟩

variable {arithmetic : Arithmetic} {config : OracleConfig} {now : ℤ}
  {solPriceData twozPriceData : PriceData} {rate : PriceRate}

/-- Both prices of a rate have a recent publish time, and the rate has the earlier one. -/
theorem fresh_of_swapRateCalculation
    (calculated : swapRateCalculation arithmetic config now solPriceData twozPriceData = .ok rate) :
    ∃ solTime twozTime, solPriceData.publishTime = some solTime ∧ solTime ≠ 0 ∧
      now - solTime ≤ config.maxPriceAge ∧ twozPriceData.publishTime = some twozTime ∧
      twozTime ≠ 0 ∧ now - twozTime ≤ config.maxPriceAge ∧
      rate.publishTime = some (min solTime twozTime) := by
  simp only [swapRateCalculation, swapRateCalculationWith, bind_eq_ok, checkPublishTime_eq_ok,
    require_eq_ok, pure_eq_ok] at calculated
  obtain ⟨solTime, ⟨sol_set, sol_nonzero, sol_young⟩, twozTime,
    ⟨twoz_set, twoz_nonzero, twoz_young⟩, -, -, rfl⟩ := calculated
  exact ⟨solTime, twozTime, sol_set, sol_nonzero, sol_young, twoz_set, twoz_nonzero, twoz_young,
    rfl⟩

/-- The rate is the quotient of the prices, written with eight decimals and read back. -/
theorem swapRate_of_swapRateCalculation
    (calculated : swapRateCalculation arithmetic config now solPriceData twozPriceData = .ok rate) :
    rate.swapRate = parseFloat arithmetic.round
      (((convertPrice arithmetic solPriceData.price solPriceData.exponent).div arithmetic
        (convertPrice arithmetic twozPriceData.price twozPriceData.exponent)).toFixed
          arithmetic.round twozPrecisionDecimals) := by
  simp only [swapRateCalculation, swapRateCalculationWith, bind_eq_ok, checkPublishTime_eq_ok,
    require_eq_ok, pure_eq_ok] at calculated
  obtain ⟨solTime, -, twozTime, -, -, -, rfl⟩ := calculated
  rfl

end SolConversion.Oracle
