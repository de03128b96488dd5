import SolConversion.Cli.RemoteCall
import SolConversion.OnChain.PricingContract
import SolConversion.Oracle.Freshness
import SolConversion.Oracle.SignedRate

/-!
# A quote from the oracle to the screen

`get_price` fetches a signed rate from the oracle, has the program price it and shows what the
program returned.  A rate that the tool can read is one whose signature the program accepts, so the
quote is shown exactly if the rate is positive, fresh by the program's clock and not from before the
last trade; and it is the documented price of a rate calculated from recent feeds.
-/

namespace SolConversion.Cli

open BinaryFloat Borsh DecimalFormat Fallible FixedWidth OnChain

/-- A document's number read into a signed word. -/
def deserializeI64 (text : String) : Option Int64 :=
  match text.toList with
  | '-' :: digits =>
      if digits ≠ [] ∧ digits.all Char.isDigit ∧ digits.head? ≠ some '0' then
        toI64 (-Nat.ofDigitChars 10 digits 0)
      else none
  | digits =>
      if digits ≠ [] ∧ digits.all Char.isDigit ∧
          (digits.head? = some '0' → digits.length = 1) then
        toI64 (Nat.ofDigitChars 10 digits 0)
      else none

/-- `fetch_oracle_price`: what the tool reads of an answer.  The body of a failure lacks the
fields. -/
def fetchOraclePrice (round : ℚ → ℚ) : Oracle.HandlerResponse → Option OraclePriceData
  | .json result => do
      let swapRate ← Oracle.deserializeU64 (Oracle.jsonText round result.swapRate)
      let timestamp ← deserializeI64 (toString result.timestamp)
      return ⟨swapRate, timestamp, result.signature⟩
  | .failure _ _ => none

private theorem deserializeI64_of_digits {text : String} {digits : List Char} {word : Int64}
    (text_eq : text.toList = digits) (all_digits : ∀ char ∈ digits, char.isDigit = true)
    (read : deserializeI64 text = some word) : word.toInt = Nat.ofDigitChars 10 digits 0 := by
  rw [deserializeI64, text_eq] at read
  split at read
  · exact absurd (all_digits '-' List.mem_cons_self) (by decide)
  · split at read
    · exact (toI64_eq_some.mp read).symm
    · contradiction

private theorem deserializeI64_of_minus {text : String} {digits : List Char} {word : Int64}
    (text_eq : text.toList = '-' :: digits) (read : deserializeI64 text = some word) :
    word.toInt = -Nat.ofDigitChars 10 digits 0 := by
  rw [deserializeI64, text_eq] at read
  simp only at read
  split at read
  · exact (toI64_eq_some.mp read).symm
  · contradiction

private theorem deserializeI64_toString {number : ℤ} {word : Int64}
    (read : deserializeI64 (toString number) = some word) : word.toInt = number := by
  cases number with
  | ofNat natural =>
      have text_eq : (toString (Int.ofNat natural)).toList = Nat.toDigits 10 natural :=
        DecimalText.toList_toString natural
      rw [deserializeI64_of_digits text_eq (fun _ => DecimalText.isDigit_of_mem_toDigits) read,
        Nat.ofDigitChars_ten_toDigits]
      rfl
  | negSucc natural =>
      have text_eq : (toString (Int.negSucc natural)).toList =
          '-' :: Nat.toDigits 10 (natural + 1) := by
        rw [show toString (Int.negSucc natural) = "-" ++ toString (natural + 1) from rfl,
          String.toList_append, DecimalText.toList_toString]
        rfl
      rw [deserializeI64_of_minus text_eq read, Nat.ofDigitChars_ten_toDigits]
      rfl

private theorem text_of_deserializeU64 {text : String} {word : UInt64}
    (read : Oracle.deserializeU64 text = some word) : text = toString word.toNat := by
  simp only [Oracle.deserializeU64] at read
  split at read
  · rename_i canonical
    obtain ⟨nonempty, digits, no_zero⟩ := canonical
    have value_eq := toU64_eq_some.mp read
    rw [← String.toList_inj, DecimalText.toList_toString, ← value_eq,
      ScriptNumber.toDigits_ofDigitChars nonempty (List.all_eq_true.mp digits) no_zero]
  · contradiction

private theorem text_of_jsonText {round : ℚ → ℚ} {number : ScriptNumber.Number} {word : UInt64}
    (read : Oracle.deserializeU64 (Oracle.jsonText round number) = some word) :
    number.text round = toString word.toNat := by
  have text_eq := text_of_deserializeU64 read
  cases number with
  | finite value => exact text_eq
  | infinite | nan | null =>
      have null_digits : (toString word.toNat).toList = "null".toList :=
        congrArg String.toList text_eq.symm
      rw [DecimalText.toList_toString] at null_digits
      have letter : 'n' ∈ Nat.toDigits 10 word.toNat := by simp [null_digits]
      exact absurd (DecimalText.isDigit_of_mem_toDigits letter) (by decide)

/-- `get_price`: the text that is shown, and the state of the program behind the command. -/
def queryPrice (platform : Platform) (tool : Tool) (round : ℚ → ℚ) (context : Context)
    (knows : ℕ → Bool) (state : ConverterState) (response : Oracle.HandlerResponse) :
    Except CommandFailure String × ConverterState :=
  match fetchOraclePrice round response with
  | none => (.error .unreadable, state)
  | some oraclePriceData =>
      match getPrice tool.hash oraclePriceData with
      | none => (.error .unreadable, state)
      | some data =>
          let sent := sendInstructionWithReturnData u64ReturnData tool.programId knows state
            (entry platform tool.hash tool.accounts context state data)
          (do
            let resultBps ← sent.1
            let result ← mapFailure .amount (convertTokenValue tool.library resultBps)
            return tool.library.display result, sent.2)

/-- The program verifies what the oracle signs under a key. -/
def SignsUnder (platform : Platform) (oraclePubkey : Pubkey) (request : Oracle.Request) : Prop :=
  ∀ message signature, request.signBytes message = .ok signature →
    ∃ bytes, platform.base64Decode signature = some bytes ∧
      platform.sigVerify oraclePubkey message.toUTF8.toList bytes = true

section Signatures

variable {arithmetic : ScriptNumber.Arithmetic} {config : Oracle.OracleConfig}
  {services : List Oracle.PricingService} {request : Oracle.Request}
  {result : Oracle.SwapRateResponse}

private theorem signBytes_of_signedResponse {priceRate : Oracle.PriceRate} {isCacheHit : Bool}
    (signed : Oracle.signedResponse arithmetic request priceRate isCacheHit = .json result) :
    request.signBytes (Oracle.attestationMessage arithmetic.round result.swapRate
      result.timestamp) = .ok result.signature := by
  simp only [Oracle.signedResponse] at signed
  split at signed
  · exact absurd signed (Oracle.errorResponse_ne_json _ result)
  · rename_i signature signature_eq
    split at signed
    · obtain rfl := Oracle.HandlerResponse.json.inj signed
      exact signature_eq
    · simp [Oracle.internalServerError] at signed

private theorem signedResponse_of_answer {responses : Oracle.FeedResponses}
    {state : Oracle.OracleState}
    (answered : (Oracle.answer arithmetic config services request responses state).1 =
      .json result) :
    ∃ priceRate isCacheHit after,
      Oracle.getSwapRate config request
        (Oracle.serviceOutcomes arithmetic config services request responses) state =
          (.ok (some (priceRate, isCacheHit)), after) ∧
      Oracle.signedResponse arithmetic request priceRate isCacheHit = .json result := by
  unfold Oracle.answer Oracle.swapRateHandler at answered
  split at answered
  · split at answered
    · rename_i priceRate isCacheHit after found
      exact ⟨priceRate, isCacheHit, after, found, answered⟩
    · simp [Oracle.internalServerError] at answered
    · exact absurd answered (Oracle.errorResponse_ne_json _ result)
  · simp at answered

private theorem json_of_fetchOraclePrice {round : ℚ → ℚ} {response : Oracle.HandlerResponse}
    {oraclePriceData : OraclePriceData}
    (fetched : fetchOraclePrice round response = some oraclePriceData) :
    ∃ result, response = .json result := by
  cases response with
  | json result => exact ⟨result, rfl⟩
  | failure status body => contradiction

theorem fetchOraclePrice_eq_some {round : ℚ → ℚ} {oraclePriceData : OraclePriceData}
    (fetched : fetchOraclePrice round (.json result) = some oraclePriceData) :
    result.swapRate.text round = toString oraclePriceData.swapRate.toNat ∧
      oraclePriceData.timestamp.toInt = result.timestamp ∧
      oraclePriceData.signature = result.signature := by
  simp only [fetchOraclePrice, Option.bind_eq_bind, Option.bind_eq_some_iff, Option.pure_def,
    Option.some.injEq] at fetched
  obtain ⟨swapRate, swapRate_read, timestamp, timestamp_read, rfl⟩ := fetched
  exact ⟨text_of_jsonText swapRate_read, deserializeI64_toString timestamp_read, rfl⟩

private theorem attestationText_of_fetched {round : ℚ → ℚ} {oraclePriceData : OraclePriceData}
    (fetched : fetchOraclePrice round (.json result) = some oraclePriceData) :
    Oracle.attestationMessage round result.swapRate result.timestamp =
      attestationText oraclePriceData.swapRate oraclePriceData.timestamp := by
  obtain ⟨text_eq, timestamp_eq, -⟩ := fetchOraclePrice_eq_some fetched
  rw [Oracle.attestationMessage, attestationText, text_eq, timestamp_eq]

end Signatures

section Quotes

variable {platform : Platform} {rounding : Rounding} {context : Context} {state : ConverterState}
  {oraclePriceData : OnChain.OraclePriceData}

/-- A failure because of the signature. -/
def RefusesSignature (failure : Failure) : Prop :=
  failure = failWith .invalidAttestation ∨ failure = failWith .attestationVerificationError

/-- The quote is the documented price of an attested rate. -/
theorem getConversionRate_eq_ok (lawful : platform.decimal.Lawful rounding)
    (valid : state.configurationRegistry.Valid) {rate : UInt64} :
    getConversionRate platform context state oraclePriceData = .ok rate ↔
      Attested platform state.configurationRegistry.oraclePubkey
          state.configurationRegistry.priceMaximumAge context.clock oraclePriceData ∧
        state.programState.lastTradeSlot ≤ context.clock.slot ∧
        rate.toNat = state.configurationRegistry.priceAfter oraclePriceData.swapRate.toNat
          (context.clock.slot.toNat - state.programState.lastTradeSlot.toNat) := by
  rw [← asks_iff lawful valid]
  simp only [getConversionRate, bind_eq_ok, mapFailure_eq_ok]
  constructor
  · rintro ⟨verified, attested, asked⟩
    exact ⟨verifyAttestation_eq_ok.mp attested, asked⟩
  · rintro ⟨attested, asked⟩
    exact ⟨(), verifyAttestation_eq_ok.mpr attested, asked⟩

/-- There is a quote for every attested rate, unless the slot is before the last trade. -/
theorem exists_getConversionRate_iff (lawful : platform.decimal.Lawful rounding)
    (valid : state.configurationRegistry.Valid) :
    (∃ rate, getConversionRate platform context state oraclePriceData = .ok rate) ↔
      Attested platform state.configurationRegistry.oraclePubkey
          state.configurationRegistry.priceMaximumAge context.clock oraclePriceData ∧
        state.programState.lastTradeSlot ≤ context.clock.slot := by
  constructor
  · rintro ⟨rate, quoted⟩
    obtain ⟨attested, ordered, -⟩ := (getConversionRate_eq_ok lawful valid).mp quoted
    exact ⟨attested, ordered⟩
  · rintro ⟨attested, ordered⟩
    obtain ⟨rate, -, rate_eq⟩ := conversionRate_of_valid lawful valid oraclePriceData ordered
    exact ⟨rate, (getConversionRate_eq_ok lawful valid).mpr ⟨attested, ordered, rate_eq⟩⟩

private theorem signature_accepted {signature : List UInt8}
    (decoded : platform.base64Decode oraclePriceData.signature = some signature)
    (verified : platform.sigVerify state.configurationRegistry.oraclePubkey
      (attestationMessage oraclePriceData) signature = true) :
    ¬FailsWhere RefusesSignature (getConversionRate platform context state oraclePriceData) := by
  have others : ¬RefusesSignature (failWith .invalidOracleSwapRate) ∧
      ¬RefusesSignature (abortWith .panic) ∧ ¬RefusesSignature (failWith .stalePrice) ∧
      ¬RefusesSignature (failWith .askPriceCalculationError) := by
    unfold RefusesSignature
    decide
  obtain ⟨rate, panics, stale, ask⟩ := others
  have price : ∀ stop, ¬RefusesSignature (askPriceFailure stop) := by
    intro stop
    cases stop with
    | none => exact ask
    | panic => exact panics
  simp only [getConversionRate, verifyAttestation, checked, failsWhere_bind, failsWhere_orFail,
    failsWhere_require, failsWhere_mapFailure, decoded, rate, panics, stale, price]
  simp [FailsWhere, verified]

end Quotes

section Rates

variable {powerOfTen : ℤ → ScriptNumber.Number}

/-- A rate that is shown as a positive integer is not changed by the cache. -/
theorem scaledRate_eq_throughJson {rate : Oracle.PriceRate} {units : ℕ} (positive : 0 < units)
    (text_eq : (Oracle.scaledRate (Oracle.doubleArithmetic powerOfTen) rate.throughJson).text
      (toNearest 53) = toString units) :
    Oracle.scaledRate (Oracle.doubleArithmetic powerOfTen) rate =
      Oracle.scaledRate (Oracle.doubleArithmetic powerOfTen) rate.throughJson := by
  have zero_text : (ScriptNumber.Number.finite (toNearest 53 (0 * Oracle.twozPrecision))).text
      (toNearest 53) = toString 0 := by
    decide +kernel
  obtain ⟨swapRate⟩ := rate
  cases swapRate with
  | finite value => rfl
  | null => rfl
  | infinite | nan =>
      rw [show Oracle.scaledRate _ _ = .finite (toNearest 53 (0 * Oracle.twozPrecision)) from rfl,
        zero_text] at text_eq
      have units_eq := congrArg String.toList text_eq
      rw [DecimalText.toList_toString, DecimalText.toList_toString] at units_eq
      have := congrArg (Nat.ofDigitChars 10 · 0) units_eq
      simp only [Nat.ofDigitChars_ten_toDigits] at this
      omega

variable {config : Oracle.OracleConfig} {services : List Oracle.PricingService}
  {earlier : List Oracle.Event} {request : Oracle.Request} {responses : Oracle.FeedResponses}
  {result : Oracle.SwapRateResponse}

/-- The units are a rate that was calculated for one of the events from two prices, neither of them
published before a time. -/
def PricedSince (arithmetic : ScriptNumber.Arithmetic) (config : Oracle.OracleConfig)
    (services : List Oracle.PricingService) (events : List Oracle.Event) (oldest : ℤ)
    (units : ℕ) : Prop :=
  ∃ event ∈ events, ∃ solPriceData twozPriceData solTime twozTime rate,
    Oracle.Priced arithmetic config services event solPriceData twozPriceData rate ∧
      solPriceData.publishTime = some solTime ∧ oldest ≤ solTime ∧
      twozPriceData.publishTime = some twozTime ∧ oldest ≤ twozTime ∧
      (Oracle.scaledRate arithmetic rate).text arithmetic.round = toString units

private theorem PricedSince.of_le {arithmetic : ScriptNumber.Arithmetic}
    {events : List Oracle.Event}
    {oldest older : ℤ} {units : ℕ}
    (priced : PricedSince arithmetic config services events oldest units)
    (older_le : older ≤ oldest) : PricedSince arithmetic config services events older units := by
  obtain ⟨event, member, sol, twoz, solTime, twozTime, rate, priced, sol_set, sol_recent,
    twoz_set, twoz_recent, text_eq⟩ := priced
  exact ⟨event, member, sol, twoz, solTime, twozTime, rate, priced, sol_set,
    older_le.trans sol_recent, twoz_set, older_le.trans twoz_recent, text_eq⟩

/-- A document that is read has a rate calculated from recent prices, and its own text is signed. -/
theorem pricedSince_of_fetched {oraclePriceData : OraclePriceData}
    (answered : (Oracle.answer (Oracle.doubleArithmetic powerOfTen) config services request
      responses (Oracle.stateAfter (Oracle.doubleArithmetic powerOfTen) config services
        earlier)).1 = .json result)
    (fetched : fetchOraclePrice (toNearest 53) (.json result) = some oraclePriceData) :
    oraclePriceData.timestamp.toInt = request.nowUnix ∧
      request.signBytes (attestationText oraclePriceData.swapRate oraclePriceData.timestamp) =
        .ok oraclePriceData.signature ∧
      (0 < oraclePriceData.swapRate → PricedSince (Oracle.doubleArithmetic powerOfTen) config
        services (earlier ++ [.request request responses]) (request.nowUnix - config.maxPriceAge)
        oraclePriceData.swapRate.toNat) := by
  obtain ⟨priceRate, isCacheHit, after, found, signed⟩ := signedResponse_of_answer answered
  obtain ⟨text_eq, timestamp_eq, signature_eq⟩ := fetchOraclePrice_eq_some fetched
  obtain ⟨⟨swapRate_eq, -, -⟩, -, time_eq⟩ := Oracle.carries_of_signedResponse signed
  refine ⟨timestamp_eq.trans time_eq, ?_, fun positive => ?_⟩
  · have message_signed := signBytes_of_signedResponse signed
    rwa [show (Oracle.doubleArithmetic powerOfTen).round = toNearest 53 from rfl,
      attestationText_of_fetched fetched, ← signature_eq] at message_signed
  · obtain ⟨rate, rfl, event, member, sol, twoz, solTime, twozTime, priced, sol_set, sol_recent,
      twoz_set, twoz_recent⟩ := Oracle.freshlyPriced_of_getSwapRate found
    refine ⟨event, member, sol, twoz, solTime, twozTime, rate, priced, sol_set, sol_recent,
      twoz_set, twoz_recent, ?_⟩
    rw [swapRate_eq] at text_eq
    cases isCacheHit with
    | false => exact text_eq
    | true =>
        rw [scaledRate_eq_throughJson (UInt64.lt_iff_toNat_lt.mp positive) text_eq]
        exact text_eq

end Rates

section Shown

variable {platform : Platform} {tool : Tool} {round : ℚ → ℚ} {rounding : Rounding}
  {context : Context} {knows : ℕ → Bool} {state : ConverterState}
  {response : Oracle.HandlerResponse} {oraclePriceData : OraclePriceData}

theorem entry_of_getPrice (distinct : Distinguishes tool.hash) {data : Bytes}
    (built : getPrice tool.hash oraclePriceData = some data) :
    entry platform tool.hash tool.accounts context state data =
      mapFailure .program (processInstruction platform state
        (context, .getConversionRate oraclePriceData.toProgram)) :=
  entry_of_data distinct tool.accounts context state
    (show (Command.getPrice oraclePriceData).arguments = some _ from rfl) built

theorem queryPrice_of_failure (distinct : Distinguishes tool.hash) {data : Bytes}
    {failure : Failure} (fetched : fetchOraclePrice round response = some oraclePriceData)
    (built : getPrice tool.hash oraclePriceData = some data)
    (refused : getConversionRate platform context state oraclePriceData.toProgram =
      .error failure) :
    queryPrice platform tool round context knows state response =
      (.error (.rejected (.program failure)), state) := by
  have executed : processInstruction platform state
      (context, .getConversionRate oraclePriceData.toProgram) = .error failure := by
    rw [processInstruction, refused]
    rfl
  simp only [queryPrice, fetched, built, entry_of_getPrice distinct built, executed]
  rfl

/-- A quote is shown so that it can be read back, if the transaction is known in time. -/
theorem queryPrice_of_quote (distinct : Distinguishes tool.hash)
    (lawful : tool.library.Lawful rounding) {data : Bytes} {quote : UInt64}
    (fetched : fetchOraclePrice round response = some oraclePriceData)
    (built : getPrice tool.hash oraclePriceData = some data)
    (quoted : getConversionRate platform context state oraclePriceData.toProgram = .ok quote) :
    ∃ text, parseTokenValue tool.library text = .ok quote ∧
      queryPrice platform tool round context knows state response =
        (if KnownInTime knows then .ok text
          else .error (.returned (.message "Deserialization error")), state) := by
  obtain ⟨value, converted, parsed⟩ :
      ∃ value, convertTokenValue tool.library quote = .ok value ∧
        parseTokenValue tool.library (tool.library.display value) = .ok quote :=
    parseValue_display lawful tokenUnits_toNat (by norm_num) _ _ quote
  have executed : processInstruction platform state
      (context, .getConversionRate oraclePriceData.toProgram) =
        .ok (state, ⟨[], .conversionRate quote, context.ledger⟩) := by
    rw [processInstruction, quoted]
    rfl
  have written : (ReturnData.conversionRate quote).toVec = some _ := rfl
  have sent : sendInstructionWithReturnData u64ReturnData tool.programId knows state
      (.ok (state, ⟨[], .conversionRate quote, context.ledger⟩)) =
        (if KnownInTime knows then .ok quote
          else .error (.returned (.message "Deserialization error")), state) :=
    sendInstructionWithReturnData_ok written (u64ReturnData_toVec written)
  refine ⟨tool.library.display value, parsed, ?_⟩
  simp only [queryPrice, fetched, built, entry_of_getPrice distinct built, executed, mapFailure,
    sent]
  by_cases known : KnownInTime knows
  · rw [if_pos known, if_pos known, ok_bind, converted]
    rfl
  · rw [if_neg known, if_neg known]
    rfl

theorem queryPrice_of_unreadable
    (unreadable : ∀ oraclePriceData, fetchOraclePrice round response = some oraclePriceData →
      getPrice tool.hash oraclePriceData = none) :
    queryPrice platform tool round context knows state response = (.error .unreadable, state) := by
  unfold queryPrice
  split
  · rfl
  · rename_i oraclePriceData fetched
    rw [unreadable oraclePriceData fetched]

/-- Data is built unless the signature is too long. -/
theorem getPrice_eq_none {hash : Hash} :
    getPrice hash oraclePriceData = none ↔ ¬(utf8 oraclePriceData.signature).length < 2 ^ 32 := by
  rw [← isSome_price, getPrice]
  cases oraclePriceData.tryToVec with
  | none => simp
  | some bytes => simp

private theorem failure_of_queryPrice (distinct : Distinguishes tool.hash)
    (lawful : tool.library.Lawful rounding) {data : Bytes} {failure : Failure}
    (fetched : fetchOraclePrice round response = some oraclePriceData)
    (built : getPrice tool.hash oraclePriceData = some data)
    (rejected : (queryPrice platform tool round context knows state response).1 =
      .error (.rejected (.program failure))) :
    getConversionRate platform context state oraclePriceData.toProgram = .error failure := by
  cases computed : getConversionRate platform context state oraclePriceData.toProgram with
  | error refused =>
      rw [queryPrice_of_failure distinct fetched built computed] at rejected
      cases rejected
      rfl
  | ok quote =>
      obtain ⟨text, -, shown⟩ := queryPrice_of_quote distinct lawful fetched built computed
      rw [shown] at rejected
      by_cases known : KnownInTime knows
      · rw [if_pos known] at rejected
        cases rejected
      · rw [if_neg known] at rejected
        cases rejected

/-- A text that is shown is that of the quote. -/
theorem quote_of_queryPrice (distinct : Distinguishes tool.hash)
    (lawful : tool.library.Lawful rounding) {data : Bytes} {text : String}
    (fetched : fetchOraclePrice round response = some oraclePriceData)
    (built : getPrice tool.hash oraclePriceData = some data)
    (shown : (queryPrice platform tool round context knows state response).1 = .ok text) :
    KnownInTime knows ∧ ∃ quote, parseTokenValue tool.library text = .ok quote ∧
      getConversionRate platform context state oraclePriceData.toProgram = .ok quote := by
  cases computed : getConversionRate platform context state oraclePriceData.toProgram with
  | error refused =>
      rw [queryPrice_of_failure distinct fetched built computed] at shown
      cases shown
  | ok quote =>
      obtain ⟨display, parsed, queried⟩ :=
        queryPrice_of_quote distinct lawful fetched built computed
      rw [queried] at shown
      by_cases known : KnownInTime knows
      · rw [if_pos known] at shown
        cases shown
        exact ⟨known, quote, parsed, rfl⟩
      · rw [if_neg known] at shown
        cases shown

private theorem queryPrice_state (distinct : Distinguishes tool.hash)
    (lawful : tool.library.Lawful rounding) :
    (queryPrice platform tool round context knows state response).2 = state := by
  by_cases readable : ∃ oraclePriceData data,
      fetchOraclePrice round response = some oraclePriceData ∧
        getPrice tool.hash oraclePriceData = some data
  · obtain ⟨oraclePriceData, data, fetched, built⟩ := readable
    cases computed : getConversionRate platform context state oraclePriceData.toProgram with
    | error refused => rw [queryPrice_of_failure distinct fetched built computed]
    | ok quote =>
        obtain ⟨text, -, shown⟩ := queryPrice_of_quote distinct lawful fetched built computed
        rw [shown]
  · rw [queryPrice_of_unreadable]
    intro oraclePriceData fetched
    cases built : getPrice tool.hash oraclePriceData with
    | none => rfl
    | some data => exact absurd ⟨oraclePriceData, data, fetched, built⟩ readable

end Shown

/-- The command shows a quote exactly if the document is read, its rate is positive and fresh by the
program's clock, the slot is not before the last trade and the transaction is known in time; never
is a price refused for its signature.  What is shown reads back as the documented price of a rate
that was calculated from two prices as recent as both ages together allow. -/
theorem quote_delivered {platform : Platform} {rounding : Rounding}
    (decimal : platform.decimal.Lawful rounding) (tool : Tool) {shownRounding : Rounding}
    (lawful : tool.library.Lawful shownRounding) (distinct : Distinguishes tool.hash)
    {state : ConverterState} (reachable : Reachable platform state)
    (powerOfTen : ℤ → ScriptNumber.Number) (config : Oracle.OracleConfig)
    (services : List Oracle.PricingService) (earlier : List Oracle.Event)
    {request : Oracle.Request}
    (signs : SignsUnder platform state.configurationRegistry.oraclePubkey request)
    (responses : Oracle.FeedResponses) (context : Context) (knows : ℕ → Bool) :
    let arithmetic := Oracle.doubleArithmetic powerOfTen
    let response := (Oracle.answer arithmetic config services request responses
      (Oracle.stateAfter arithmetic config services earlier)).1
    let queried := queryPrice platform tool (toNearest 53) context knows state response
    let configuration := state.configurationRegistry
    queried.2 = state ∧
      ((∃ text, queried.1 = .ok text) ↔
        ∃ oraclePriceData, fetchOraclePrice (toNearest 53) response = some oraclePriceData ∧
          (utf8 oraclePriceData.signature).length < 2 ^ 32 ∧ 0 < oraclePriceData.swapRate ∧
          |context.clock.unixTimestamp.toInt - request.nowUnix| ≤
            configuration.priceMaximumAge.toInt ∧
          state.programState.lastTradeSlot ≤ context.clock.slot ∧ KnownInTime knows) ∧
      (∀ failure, queried.1 = .error (.rejected (.program failure)) →
        ¬RefusesSignature failure) ∧
      ∀ text, queried.1 = .ok text → ∃ oraclePriceData quote,
        fetchOraclePrice (toNearest 53) response = some oraclePriceData ∧
        parseTokenValue tool.library text = .ok quote ∧
        quote.toNat = configuration.priceAfter oraclePriceData.swapRate.toNat
          (context.clock.slot.toNat - state.programState.lastTradeSlot.toNat) ∧
        PricedSince arithmetic config services (earlier ++ [.request request responses])
          (context.clock.unixTimestamp.toInt - (configuration.priceMaximumAge.toInt +
            config.maxPriceAge)) oraclePriceData.swapRate.toNat := by
  intro arithmetic response queried configuration
  refine ⟨queryPrice_state distinct lawful, ?_⟩
  by_cases readable : ∃ oraclePriceData,
      fetchOraclePrice (toNearest 53) response = some oraclePriceData ∧
        (utf8 oraclePriceData.signature).length < 2 ^ 32
  · obtain ⟨oraclePriceData, fetched, fits⟩ := readable
    obtain ⟨data, built⟩ := Option.ne_none_iff_exists'.mp
      fun missing => (@getPrice_eq_none oraclePriceData tool.hash).mp missing fits
    obtain ⟨result, answered⟩ := json_of_fetchOraclePrice fetched
    rw [answered] at fetched
    obtain ⟨timestamp_eq, signed, priced⟩ := pricedSince_of_fetched answered fetched
    obtain ⟨signature, decoded, verified⟩ := signs _ _ signed
    change platform.sigVerify _ (attestationText oraclePriceData.toProgram.swapRate
      oraclePriceData.toProgram.timestamp).toUTF8.toList signature = true at verified
    rw [← attestationMessage_eq] at verified
    rw [← answered] at fetched
    have attested_iff : Attested platform configuration.oraclePubkey configuration.priceMaximumAge
        context.clock oraclePriceData.toProgram ↔ 0 < oraclePriceData.swapRate ∧
          |context.clock.unixTimestamp.toInt - request.nowUnix| ≤
            configuration.priceMaximumAge.toInt := by
      rw [← timestamp_eq]
      exact ⟨fun attested => ⟨attested.positive, attested.fresh⟩,
        fun ⟨positive, fresh⟩ => ⟨⟨signature, decoded, verified⟩, positive, fresh⟩⟩
    have valid := valid_of_reachable reachable
    refine ⟨⟨?_, ?_⟩, ?_, ?_⟩
    · rintro ⟨text, shown⟩
      obtain ⟨known, quote, -, quoted⟩ := quote_of_queryPrice distinct lawful fetched built shown
      obtain ⟨attested, ordered⟩ := (exists_getConversionRate_iff decimal valid).mp ⟨quote, quoted⟩
      obtain ⟨positive, fresh⟩ := attested_iff.mp attested
      exact ⟨oraclePriceData, fetched, fits, positive, fresh, ordered, known⟩
    · rintro ⟨other, fetched_other, -, positive, fresh, ordered, known⟩
      obtain rfl := Option.some.inj (fetched.symm.trans fetched_other)
      obtain ⟨quote, quoted⟩ := (exists_getConversionRate_iff decimal valid).mpr
        ⟨attested_iff.mpr ⟨positive, fresh⟩, ordered⟩
      obtain ⟨text, -, shown⟩ := queryPrice_of_quote distinct lawful fetched built quoted
      refine ⟨text, ?_⟩
      rw [show queried = _ from shown, if_pos known]
    · intro failure rejected refuses
      have refused := failure_of_queryPrice distinct lawful fetched built rejected
      exact signature_accepted decoded verified ⟨failure, refused, refuses⟩
    · intro text shown
      obtain ⟨-, quote, parsed, quoted⟩ := quote_of_queryPrice distinct lawful fetched built shown
      obtain ⟨attested, -, quote_eq⟩ := (getConversionRate_eq_ok decimal valid).mp quoted
      obtain ⟨positive, fresh⟩ := attested_iff.mp attested
      have clock_le : context.clock.unixTimestamp.toInt - configuration.priceMaximumAge.toInt ≤
          request.nowUnix := by
        linarith [(abs_le.mp fresh).2]
      refine ⟨oraclePriceData, quote, fetched, parsed, quote_eq, (priced positive).of_le ?_⟩
      linarith
  · have nothing : queried = (.error .unreadable, state) := by
      apply queryPrice_of_unreadable
      intro oraclePriceData fetched
      rw [getPrice_eq_none]
      exact fun fits => readable ⟨oraclePriceData, fetched, fits⟩
    rw [nothing]
    refine ⟨⟨fun ⟨text, shown⟩ => by contradiction, ?_⟩, ?_, ?_⟩
    · rintro ⟨oraclePriceData, fetched, fits, -⟩
      exact absurd ⟨oraclePriceData, fetched, fits⟩ readable
    · intro failure rejected
      cases rejected
    · intro text shown
      contradiction

/-! ## A delivered quote -/

/-- The feeds answer with SOL at two dollars and 2Z at one dollar. -/
def quotedFeeds : Oracle.FeedResponses := fun _ feed _ =>
  match feed with
  | .solUsd => .ok (some ⟨some [some ⟨some (.text "200000000"), some (.text "40000"), some (-8),
      some 1699999990⟩]⟩)
  | .twozUsd => .ok (some ⟨some [some ⟨some (.text "100000000"), some (.text "40000"), some (-8),
      some 1699999991⟩]⟩)

/-- A request with the signature of the test oracle. -/
def quotedRequest : Oracle.Request where
  dateNow := 1700000000123
  cacheReads := true
  cacheWrites := true
  putMonitoringData := .ok ()
  signBytes text :=
    if text = "200000000|1700000000" then .ok Local.price.signature
    else .error (.other "no signature")

private theorem signsUnder_local : SignsUnder Local.platform Local.oraclePubkey quotedRequest := by
  intro message signature signed
  have signed_eq : quotedRequest.signBytes message =
    if message = "200000000|1700000000" then .ok Local.price.signature
    else .error (.other "no signature") := rfl
  rw [signed_eq] at signed
  split at signed
  · rename_i message_eq
    obtain rfl := Except.ok.inj signed
    rw [message_eq]
    exact ⟨Local.priceSignature, rfl, by decide +kernel⟩
  · contradiction

/-- The health check that comes before the request. -/
def healthyEvents : List Oracle.Event := [.healthChecks 1699999999000 [⟨"pyth", .healthy⟩]]

/-- The answer of the oracle to the request. -/
def quotedResponse : Oracle.HandlerResponse :=
  (Oracle.answer (Oracle.doubleArithmetic Oracle.nearestPowerOfTen) Oracle.defaultConfig
    [Oracle.pythService] quotedRequest quotedFeeds (Oracle.stateAfter
      (Oracle.doubleArithmetic Oracle.nearestPowerOfTen) Oracle.defaultConfig
      [Oracle.pythService] healthyEvents)).1

theorem fetched_local : fetchOraclePrice (toNearest 53) quotedResponse =
    some ⟨200000000, 1700000000, Local.price.signature⟩ := by
  decide +kernel

/-- The node knows the transaction at the third attempt. -/
theorem quote_delivered_local :
    ∃ text, (queryPrice Local.platform buyerTool (toNearest 53) (Local.context 200 Local.ledger)
        (fun attempt => decide (attempt = 2)) Local.initial quotedResponse).1 = .ok text ∧
      parseTokenValue nearestLibrary text = .ok 189100000 := by
  obtain ⟨-, shows, -, reads⟩ := quote_delivered nearestArithmetic_lawful buyerTool
    nearestLibrary_lawful distinguishes_nameHash Local.initial_reachable Oracle.nearestPowerOfTen
    Oracle.defaultConfig [Oracle.pythService] healthyEvents signsUnder_local quotedFeeds
    (Local.context 200 Local.ledger) (fun attempt => decide (attempt = 2))
  obtain ⟨text, shown⟩ := shows.mpr ⟨_, fetched_local, by decide +kernel, by decide, by decide,
    by decide, by decide⟩
  obtain ⟨oraclePriceData, quote, fetched, parsed, quote_eq, -⟩ := reads text shown
  obtain rfl := Option.some.inj (fetched_local.symm.trans fetched)
  obtain rfl : quote = 189100000 := UInt64.toNat_inj.mp (quote_eq.trans (by decide))
  exact ⟨text, shown, parsed⟩

end SolConversion.Cli
