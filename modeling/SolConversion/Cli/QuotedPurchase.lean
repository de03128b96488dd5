import SolConversion.Cli.QuoteDelivery
import SolConversion.OnChain.PriceProtection

/-!
# Bidding a quoted price

`buy_sol` takes the bid as a text, and the buyer has a text from `get_price`.  As long as nobody
trades, the discounts stay and the rate does not rise, the quoted price is never too low a bid, and
whoever bids it pays no more than was shown.
-/

namespace SolConversion.Cli

open BinaryFloat Borsh DecimalFormat Fallible OnChain Transactional

/-- `buy_sol`: the receipt of the transaction, and the state of the program behind the command. -/
def placeBid (platform : Platform) (tool : Tool) (round : ℚ → ℚ) (context : Context)
    (state : ConverterState) (bidPrice : String) (response : Oracle.HandlerResponse) :
    Except CommandFailure Receipt × ConverterState :=
  match parseTokenValue tool.library bidPrice with
  | .error failure => (.error (.amount failure), state)
  | .ok bidPriceParsed =>
      match fetchOraclePrice round response with
      | none => (.error .unreadable, state)
      | some oraclePriceData =>
          match buySol tool.hash bidPriceParsed oraclePriceData with
          | none => (.error .unreadable, state)
          | some data =>
              match entry platform tool.hash tool.accounts context state data with
              | .error failure => (.error (.rejected failure), state)
              | .ok (next, receipt) => (.ok receipt, next)

/-- What came of a command, from what came of the instruction. -/
def bidOutcome (state : ConverterState) :
    Except Failure (ConverterState × Receipt) → Except CommandFailure Receipt × ConverterState
  | .error failure => (.error (.rejected (.program failure)), state)
  | .ok (next, receipt) => (.ok receipt, next)

section Command

variable {platform : Platform} {tool : Tool} {round : ℚ → ℚ} {context : Context}
  {state : ConverterState} {bidPrice : String} {bidPriceParsed : UInt64}
  {response : Oracle.HandlerResponse}

/-- With a bid that is a number the command sends nothing, or executes the purchase with the price
that was fetched. -/
theorem placeBid_cases (distinct : Distinguishes tool.hash)
    (parsed : parseTokenValue tool.library bidPrice = .ok bidPriceParsed) :
    placeBid platform tool round context state bidPrice response = (.error .unreadable, state) ∨
      ∃ oraclePriceData, fetchOraclePrice round response = some oraclePriceData ∧
        placeBid platform tool round context state bidPrice response =
          bidOutcome state (OnChain.buySol platform context state tool.accounts.toBuySolAccounts
            bidPriceParsed oraclePriceData.toProgram) := by
  cases fetched : fetchOraclePrice round response with
  | none =>
      left
      simp only [placeBid, parsed, fetched]
  | some oraclePriceData =>
      cases built : buySol tool.hash bidPriceParsed oraclePriceData with
      | none =>
          left
          simp only [placeBid, parsed, fetched, built]
      | some data =>
          refine .inr ⟨oraclePriceData, rfl, ?_⟩
          have executed : entry platform tool.hash tool.accounts context state data =
              mapFailure .program (OnChain.buySol platform context state
                tool.accounts.toBuySolAccounts bidPriceParsed oraclePriceData.toProgram) :=
            entry_of_data distinct tool.accounts context state
              (show (Command.buySol bidPriceParsed oraclePriceData).arguments = some _ from rfl)
              built
          simp only [placeBid, parsed, fetched, built, executed]
          cases OnChain.buySol platform context state tool.accounts.toBuySolAccounts
            bidPriceParsed oraclePriceData.toProgram with
          | error failure => rfl
          | ok success => rfl

end Command

section Prices

variable {platform : Platform} {rounding : Rounding} {state : ConverterState}

private theorem quote_of_shown {tool : Tool} (distinct : Distinguishes tool.hash)
    (lawful : tool.library.Lawful rounding) {round : ℚ → ℚ} {context : Context}
    {knows : ℕ → Bool} {response : Oracle.HandlerResponse} {text : String}
    (shown : (queryPrice platform tool round context knows state response).1 = .ok text) :
    ∃ oraclePriceData quote, fetchOraclePrice round response = some oraclePriceData ∧
      parseTokenValue tool.library text = .ok quote ∧
      getConversionRate platform context state oraclePriceData.toProgram = .ok quote := by
  by_cases readable : ∃ oraclePriceData data,
      fetchOraclePrice round response = some oraclePriceData ∧
        getPrice tool.hash oraclePriceData = some data
  · obtain ⟨oraclePriceData, data, fetched, built⟩ := readable
    obtain ⟨-, quote, parsed, quoted⟩ := quote_of_queryPrice distinct lawful fetched built shown
    exact ⟨oraclePriceData, quote, fetched, parsed, quoted⟩
  · rw [queryPrice_of_unreadable] at shown
    · cases shown
    · intro oraclePriceData fetched
      cases built : getPrice tool.hash oraclePriceData with
      | none => rfl
      | some data => exact absurd ⟨oraclePriceData, data, fetched, built⟩ readable

/-- A quote is no less than what is asked later, if nobody traded, the discounts stayed and the rate
did not rise. -/
theorem asked_le_quote (decimal : platform.decimal.Lawful rounding)
    (reachable : Reachable platform state) {inputs : List (Context × Instruction)}
    (untraded : Untraded platform state inputs)
    (alike : state.configurationRegistry.DiscountsAlike
      (runProgram platform state inputs).configurationRegistry)
    {earlier later : Context} (ordered : earlier.clock.slot ≤ later.clock.slot)
    {oraclePriceData laterPriceData : OnChain.OraclePriceData} {quote askPrice : UInt64}
    (cheaper : laterPriceData.swapRate ≤ oraclePriceData.swapRate)
    (quoted : getConversionRate platform earlier state oraclePriceData = .ok quote)
    (asked : Asks platform later (runProgram platform state inputs) laterPriceData askPrice) :
    askPrice ≤ quote := by
  have valid := valid_of_reachable reachable
  obtain ⟨-, -, quote_eq⟩ := (getConversionRate_eq_ok decimal valid).mp quoted
  obtain ⟨-, asked_eq⟩ := (asks_iff decimal valid).mp ((asks_of_untraded untraded alike).mp asked)
  rw [UInt64.le_iff_toNat_le, quote_eq, asked_eq]
  exact (priceAfter_antitone _ (Nat.sub_le_sub_right (UInt64.le_iff_toNat_le.mp ordered) _)).trans
    (DutchAuction.price_mono (UInt64.le_iff_toNat_le.mp cheaper))

end Prices

/-- Whoever bids the text that `get_price` showed, at a later slot and with a rate that is not
higher, before anybody trades and with the discounts unchanged, is never refused for a low bid, and
pays for the SOL at most the price that was shown. -/
theorem quote_honoured {platform : Platform} {rounding : Rounding}
    (decimal : platform.decimal.Lawful rounding) (foreign : platform.TokenErrorsForeign)
    (tool : Tool) {shownRounding : Rounding} (lawful : tool.library.Lawful shownRounding)
    (distinct : Distinguishes tool.hash) (round : ℚ → ℚ) {state : ConverterState}
    (reachable : Reachable platform state) {earlier later : Context} {knows : ℕ → Bool}
    {response laterResponse : Oracle.HandlerResponse} {text : String}
    (shown : (queryPrice platform tool round earlier knows state response).1 = .ok text)
    {inputs : List (Context × Instruction)} (untraded : Untraded platform state inputs)
    (alike : state.configurationRegistry.DiscountsAlike
      (runProgram platform state inputs).configurationRegistry)
    (ordered : earlier.clock.slot ≤ later.clock.slot)
    (cheaper : ∀ oraclePriceData laterPriceData,
      fetchOraclePrice round response = some oraclePriceData →
      fetchOraclePrice round laterResponse = some laterPriceData →
        laterPriceData.swapRate ≤ oraclePriceData.swapRate) :
    let bid := placeBid platform tool round later (runProgram platform state inputs) text
      laterResponse
    (∀ events, bid.1 ≠ .error (.rejected (.program ⟨.custom .bidTooLow, events⟩))) ∧
      (∀ failure, bid.1 ≠ .error (.amount failure)) ∧
      ∀ receipt, bid.1 = .ok receipt → ∃ quote event,
        parseTokenValue tool.library text = .ok quote ∧ receipt.events = [.trade event] ∧
          event.bidPrice = quote ∧
          event.tokenAmount.toNat * 10 ^ 9 ≤ event.solAmount.toNat * quote.toNat := by
  intro bid
  obtain ⟨oraclePriceData, quote, fetched, parsed, quoted⟩ :=
    quote_of_shown distinct lawful shown
  obtain nothing | ⟨laterPriceData, later_fetched, bid_eq⟩ :=
    @placeBid_cases platform tool round later (runProgram platform state inputs) text quote
      laterResponse distinct parsed
  · have silent : bid = (.error .unreadable, runProgram platform state inputs) := nothing
    rw [silent]
    exact ⟨fun _ => by simp, fun _ => by simp, fun _ succeeded => by cases succeeded⟩
  · have outcome : bid = bidOutcome _ _ := bid_eq
    have within (askPrice : UInt64) (asked : Asks platform later
        (runProgram platform state inputs) laterPriceData.toProgram askPrice) :
        askPrice ≤ quote :=
      asked_le_quote decimal reachable untraded alike ordered
        (cheaper _ _ fetched later_fetched) quoted asked
    rw [outcome]
    cases bought : OnChain.buySol platform later (runProgram platform state inputs)
      tool.accounts.toBuySolAccounts quote laterPriceData.toProgram with
    | error failure =>
        refine ⟨?_, fun _ => by simp [bidOutcome], fun _ succeeded => by cases succeeded⟩
        intro events rejected
        obtain rfl : failure = ⟨.custom .bidTooLow, events⟩ := by
          simpa [bidOutcome] using rejected
        obtain ⟨-, askPrice, asked, ⟨low, -⟩ | ⟨-, -, other⟩⟩ :=
          (buySol_failsWith foreign (.inl rfl)).mp ⟨events, bought⟩
        · exact absurd low (UInt64.not_lt.mpr (within askPrice asked))
        · cases other
    | ok success =>
        obtain ⟨next, receipt⟩ := success
        refine ⟨fun _ => by simp [bidOutcome], fun _ => by simp [bidOutcome], ?_⟩
        intro other succeeded
        obtain rfl : receipt = other := by simpa [bidOutcome] using succeeded
        obtain ⟨askPrice, tokensRequired, paid, trades⟩ := buySol_eq_ok.mp bought
        obtain ⟨cost, bounded⟩ := cost_le_bid trades
        exact ⟨quote, _, parsed, trades.events_eq, rfl, cost.trans bounded⟩

/-- In slot 200 the quote is 1.891, and in slot 250 nobody who bids it pays more. -/
theorem quote_honoured_local :
    ∃ text, parseTokenValue nearestLibrary text = .ok 189100000 ∧
      let bid := placeBid Local.platform buyerTool (toNearest 53) (Local.context 250 Local.ledger)
        (runProgram Local.platform Local.initial Local.betweenInputs) text quotedResponse
      (∀ events, bid.1 ≠ .error (.rejected (.program ⟨.custom .bidTooLow, events⟩))) ∧
        ∀ receipt, bid.1 = .ok receipt → ∃ event, receipt.events = [.trade event] ∧
          event.tokenAmount.toNat * 10 ^ 9 ≤ event.solAmount.toNat * 189100000 := by
  have quoted : getConversionRate Local.platform (Local.context 200 Local.ledger) Local.initial
      Local.price = .ok 189100000 := by
    decide +kernel
  obtain ⟨data, built⟩ := Option.ne_none_iff_exists'.mp fun missing =>
    (@getPrice_eq_none ⟨200000000, 1700000000, Local.price.signature⟩ buyerTool.hash).mp missing
      (by decide +kernel)
  obtain ⟨text, parsed, queried⟩ := queryPrice_of_quote distinguishes_nameHash
    nearestLibrary_lawful fetched_local built quoted
  have shown : (queryPrice Local.platform buyerTool (toNearest 53)
      (Local.context 200 Local.ledger) (fun attempt => decide (attempt = 2)) Local.initial
      quotedResponse).1 = .ok text := by
    rw [queried]
    rfl
  have ordered : (Local.context 200 Local.ledger).clock.slot ≤
      (Local.context 250 Local.ledger).clock.slot := by
    decide
  have same_rate : ∀ oraclePriceData laterPriceData,
      fetchOraclePrice (toNearest 53) quotedResponse = some oraclePriceData →
      fetchOraclePrice (toNearest 53) quotedResponse = some laterPriceData →
        laterPriceData.swapRate ≤ oraclePriceData.swapRate := by
    intro oraclePriceData laterPriceData fetched later_fetched
    obtain rfl := Option.some.inj (fetched.symm.trans later_fetched)
    exact UInt64.le_refl _
  obtain ⟨not_low, -, pays⟩ := quote_honoured nearestArithmetic_lawful
    Local.platform_tokenErrorsForeign buyerTool nearestLibrary_lawful distinguishes_nameHash
    (toNearest 53) Local.initial_reachable shown Local.betweenInputs_untraded ⟨rfl, rfl, rfl⟩
    ordered same_rate
  refine ⟨text, parsed, not_low, fun receipt succeeded => ?_⟩
  obtain ⟨quote, event, parsed_again, events_eq, -, cost⟩ := pays receipt succeeded
  obtain rfl := Except.ok.inj (parsed.symm.trans parsed_again)
  exact ⟨event, events_eq, cost⟩

end SolConversion.Cli
