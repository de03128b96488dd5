import Mathlib.Logic.Function.Basic
import SolConversion.Foundation.ScriptDate
import SolConversion.Foundation.ScriptValue
import SolConversion.Foundation.WhileLoop

/-!
# The metrics service

A request names two dates.  Its handler reads the events between the first moment of the one and
the last second of the other, sorts them into days by the dates of their timestamps, and answers
with a bucket for each day from the one date to the other.
-/

namespace SolConversion.Indexer

open ScriptDate ScriptNumber

structure QueryStringParameters where
  fromDate : Option String
  toDate : Option String

/-- The timestamps are seconds, missing where the source has `NaN`. -/
structure ValidatedRequest where
  fromDate : String
  toDate : String
  fromTimestamp : Option ℤ
  toTimestamp : Option ℤ
  deriving DecidableEq

structure ValidationError where
  code : String
  message : String
  statusCode : ℕ
  deriving DecidableEq

/-- Four digits, two and two with hyphens between them. -/
def dateRegex (text : String) : Bool :=
  match text.toList with
  | [y1, y2, y3, y4, h1, m1, m2, h2, d1, d2] =>
      [y1, y2, y3, y4, m1, m2, d1, d2].all Char.isDigit && h1 == '-' && h2 == '-'
  | _ => false

/-- The second of a moment. -/
def unixSeconds (text : String) : Option ℤ := (parse text).map (· / 1000)

def validateDateRange (queryStringParameters : Option QueryStringParameters) :
    Except ValidationError ValidatedRequest :=
  let present := queryStringParameters.getD ⟨none, none⟩
  match present.fromDate.filter (· ≠ ""), present.toDate.filter (· ≠ "") with
  | some fromDate, some toDate =>
      if dateRegex fromDate && dateRegex toDate then
        .ok ⟨fromDate, toDate, unixSeconds (fromDate ++ "T00:00:00Z"),
          unixSeconds (toDate ++ "T23:59:59Z")⟩
      else .error ⟨"INVALID_DATE_FORMAT", "Date parameters must be in YYYY-MM-DD format", 400⟩
  | _, _ => .error ⟨"INVALID_PARAMETERS", "Both from and to parameters are required", 400⟩

inductive MetricsError
  /-- An invalid date has no text. -/
  | rangeError
  /-- A query cannot hold `NaN`. -/
  | specialNumber
  deriving DecidableEq

def timestampToMs (timestamp : ℤ) : ℤ :=
  if timestamp > 1000000000000 then timestamp else timestamp * 1000

/-- The date of a moment. -/
def dateOf : Option ℤ → Except MetricsError String
  | some time => .ok (splitT (toISOString time))
  | none => .error .rangeError

/-- The day an event is counted for. -/
def eventDate (timestamp : ℤ) : Except MetricsError String :=
  dateOf (timeClip (timestampToMs timestamp))

/-- The date the loop is at and the dates before it. -/
structure DateRange where
  date : Option ℤ
  dates : List String

/-- An invalid date compares with none. -/
def DateRange.guard (endDate : Option ℤ) (range : DateRange) : Bool :=
  match range.date, endDate with
  | some date, some endDate => date ≤ endDate
  | _, _ => false

def DateRange.pass (range : DateRange) : Except MetricsError DateRange := do
  let text ← dateOf range.date
  return ⟨range.date.bind fun date => setDate date (getDate date + 1), range.dates ++ [text]⟩

/-- The passes that are left. -/
def DateRange.left (endDate : Option ℤ) (range : DateRange) : ℕ :=
  match range.date, endDate with
  | some date, some endDate => ((endDate - date) / msPerDay + 1).toNat
  | _, _ => 0

def generateDateRange (fromDate toDate : String) : Except MetricsError (List String) :=
  let start : DateRange := ⟨parse fromDate, []⟩
  let endDate := parse toDate
  (WhileLoop.run (DateRange.guard endDate) DateRange.pass (start.left endDate) start).map
    DateRange.dates

structure DateBucket where
  bucket : String
  start : String
  bucketEnd : String
  deriving DecidableEq

def createDateBucket (dateStr : String) : Except MetricsError DateBucket := do
  let nextDay ← dateOf ((parse dateStr).bind fun date => setDate date (getDate date + 1))
  return ⟨dateStr, dateStr ++ "T00:00:00Z", nextDay ++ "T00:00:00Z"⟩

structure BuyEventData where
  timestamp : ℤ

structure DequeueEventData where
  timestamp : ℤ
  solDequeued : Value

/-- The events between two seconds. -/
def queryEvents {α : Type} (timestamp : α → ℤ) (fromTimestamp toTimestamp : Option ℤ)
    (events : List α) : Except MetricsError (List α) :=
  match fromTimestamp, toTimestamp with
  | some first, some last =>
      .ok (events.filter fun event => first ≤ timestamp event ∧ timestamp event ≤ last)
  | _, _ => .error .specialNumber

structure BuysBucket where
  dateBucket : DateBucket
  buys : ℕ
  deriving DecidableEq

structure MetricsResponse (β : Type) where
  fromDate : String
  toDate : String
  data : List β

def countBuy (eventsByDay : String → ℕ) (event : BuyEventData) :
    Except MetricsError (String → ℕ) := do
  let eventDate ← eventDate event.timestamp
  return Function.update eventsByDay eventDate (eventsByDay eventDate + 1)

def handleBuysMetrics (buyEvents : List BuyEventData) (request : ValidatedRequest) :
    Except MetricsError (MetricsResponse BuysBucket) := do
  let events ←
    queryEvents BuyEventData.timestamp request.fromTimestamp request.toTimestamp buyEvents
  let eventsByDay ← events.foldlM countBuy (fun _ => 0)
  let dates ← generateDateRange request.fromDate request.toDate
  let data ← dates.mapM fun dateStr => do
    let dateBucket ← createDateBucket dateStr
    return (⟨dateBucket, eventsByDay dateStr⟩ : BuysBucket)
  return ⟨request.fromDate, request.toDate, data⟩

structure DayData where
  amounts : List Value
  count : ℕ

def addDequeue (eventsByDay : String → Option DayData) (event : DequeueEventData) :
    Except MetricsError (String → Option DayData) := do
  let eventDate ← eventDate event.timestamp
  let dayData := (eventsByDay eventDate).getD ⟨[], 0⟩
  return Function.update eventsByDay eventDate
    (some ⟨dayData.amounts ++ [event.solDequeued], dayData.count + 1⟩)

section Statistics

variable (arithmetic : Arithmetic)

/-- The total of a day, a text as soon as one of the amounts is. -/
def dayTotal (amounts : List Value) : Value :=
  amounts.foldl (Value.plus arithmetic) (.number (.finite 0))

def dayAvg (amounts : List Value) : Number :=
  ((dayTotal arithmetic amounts).toNumber arithmetic.round).div arithmetic
    (.finite amounts.length)

/-- `a - b` does not exceed zero. -/
def inOrder (a b : Value) : Bool :=
  !((a.toNumber arithmetic.round).sub arithmetic (b.toNumber arithmetic.round)).greater (.finite 0)

def sortedAmounts (amounts : List Value) : List Value :=
  amounts.mergeSort (inOrder arithmetic)

/-- `Math.ceil(length * 0.95) - 1` -/
def p95Index (length : ℕ) : ℤ :=
  match (Number.finite length).mul arithmetic (.finite (arithmetic.round (95 / 100))) with
  | .finite product => ⌈product⌉ - 1
  | _ => -1

/-- The amount at the place of the percentile, if there is one. -/
def dayP95 (amounts : List Value) : Option Value :=
  (sortedAmounts arithmetic amounts)[(max 0 (p95Index arithmetic amounts.length)).toNat]?

/-- Lamports as SOL. -/
def solText (lamports : Number) : String :=
  (lamports.div arithmetic (.finite 1000000000)).toFixed arithmetic.round 9

structure DequeuesBucket where
  dateBucket : DateBucket
  count : ℕ
  solDequeuedTotal : String
  solDequeuedAvg : String
  solDequeuedP95 : String
  deriving DecidableEq

/-- The amounts of a day, zero if there are none. -/
def dequeuesBucket (dateBucket : DateBucket) (dayData : Option DayData) : DequeuesBucket :=
  match dayData.filter fun dayData => dayData.amounts.length > 0 with
  | some dayData => {
      dateBucket
      count := dayData.count
      solDequeuedTotal :=
        solText arithmetic ((dayTotal arithmetic dayData.amounts).toNumber arithmetic.round)
      solDequeuedAvg := solText arithmetic (dayAvg arithmetic dayData.amounts)
      solDequeuedP95 := solText arithmetic
        (((dayP95 arithmetic dayData.amounts).map (Value.toNumber arithmetic.round)).getD .nan) }
  | none => ⟨dateBucket, (dayData.map DayData.count).getD 0, "0.000000000", "0.000000000",
      "0.000000000"⟩

def handleDequeuesMetrics (dequeueEvents : List DequeueEventData) (request : ValidatedRequest) :
    Except MetricsError (MetricsResponse DequeuesBucket) := do
  let events ←
    queryEvents DequeueEventData.timestamp request.fromTimestamp request.toTimestamp dequeueEvents
  let eventsByDay ← events.foldlM addDequeue (fun _ => none)
  let dates ← generateDateRange request.fromDate request.toDate
  let data ← dates.mapM fun dateStr => do
    let dateBucket ← createDateBucket dateStr
    return dequeuesBucket arithmetic dateBucket (eventsByDay dateStr)
  return ⟨request.fromDate, request.toDate, data⟩

end Statistics

/-- `body` before it is written as JSON. -/
inductive ResponseBody
  | error (code message : String)
  | buys (data : MetricsResponse BuysBucket)
  | dequeues (data : MetricsResponse DequeuesBucket)

structure APIGatewayProxyResult where
  statusCode : ℕ
  headers : List (String × String)
  body : ResponseBody

def createResponse (statusCode : ℕ) (body : ResponseBody) : APIGatewayProxyResult where
  statusCode
  headers := [("Content-Type", "application/json"), ("Access-Control-Allow-Origin", "*"),
    ("Access-Control-Allow-Headers",
      "Content-Type,X-Amz-Date,Authorization,X-Amz-Security-Token"),
    ("Access-Control-Allow-Methods", "GET,OPTIONS")]
  body

def createErrorResponse (statusCode : ℕ) (code message : String) : APIGatewayProxyResult :=
  createResponse statusCode (.error code message)

def createSuccessResponse (data : ResponseBody) : APIGatewayProxyResult := createResponse 200 data

structure APIGatewayProxyEvent where
  httpMethod : String
  resource : String
  queryStringParameters : Option QueryStringParameters

/-- `resource.endsWith(path)` -/
def APIGatewayProxyEvent.resourceEndsWith (event : APIGatewayProxyEvent) (path : String) : Bool :=
  path.toList.isSuffixOf event.resource.toList

/-- The answer of a metrics handler, whose errors end in the `catch` of `handler`. -/
def respond {β : Type} (body : β → ResponseBody) : Except MetricsError β → APIGatewayProxyResult
  | .ok data => createSuccessResponse (body data)
  | .error _ =>
      createErrorResponse 500 "INTERNAL_SERVER_ERROR" "An internal error occurred"

def handler (arithmetic : Arithmetic) (buyEvents : List BuyEventData)
    (dequeueEvents : List DequeueEventData) (event : APIGatewayProxyEvent) :
    APIGatewayProxyResult :=
  match validateDateRange event.queryStringParameters with
  | .error error => createErrorResponse error.statusCode error.code error.message
  | .ok validatedRequest =>
      if event.httpMethod = "GET" ∧ event.resourceEndsWith "/metrics/buys" then
        respond .buys (handleBuysMetrics buyEvents validatedRequest)
      else if event.httpMethod = "GET" ∧ event.resourceEndsWith "/metrics/dequeues" then
        respond .dequeues (handleDequeuesMetrics arithmetic dequeueEvents validatedRequest)
      else createErrorResponse 404 "NOT_FOUND" "Endpoint not found"

end SolConversion.Indexer
