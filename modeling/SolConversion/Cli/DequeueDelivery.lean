import Mathlib.Data.List.Forall2
import SolConversion.Cli.RemoteCall
import SolConversion.OnChain.FillsHistory

/-!
# Reports of dequeues

`dequeue_fills` reads an amount of SOL, has the program dequeue at most that much and shows what the
program returned.  Over a session, whatever else happens to the program, the reports show results of
the history in order and none twice.  If nobody else dequeues and a node always knows the
transaction in time, nothing is missing, so what was reported and what is pending is everything ever
bought.
-/

namespace SolConversion.Cli

open Borsh Fallible OnChain Transactional

/-- What is shown of a dequeue. -/
structure DequeueReport where
  solAmount : String
  token2zAmount : UInt64
  fillsConsumed : UInt64
  deriving DecidableEq

variable (platform : Platform) (tool : Tool)

/-- `dequeue_fills`: what is shown, and the state of the program behind the command. -/
def requestDequeue (context : Context) (knows : ℕ → Bool) (state : ConverterState)
    (maxSolValue : String) : Except CommandFailure DequeueReport × ConverterState :=
  match parseSolValue tool.library maxSolValue with
  | .error failure => (.error (.amount failure), state)
  | .ok maxSolAmount =>
      let sent := sendInstructionWithReturnData dequeueFillsReturnData tool.programId knows state
        (entry platform tool.hash tool.accounts context state
          (dequeueFills tool.hash maxSolAmount))
      (do
        let resultBps ← sent.1
        let solQuantity ← mapFailure .amount (convertSolValue tool.library resultBps.solDequeued)
        return ⟨tool.library.display solQuantity, resultBps.token2zDequeued,
          resultBps.fillsConsumed⟩, sent.2)

/-- A session of the tool: other instructions and commands, with whether a node knows the
transaction by attempt. -/
inductive Action
  | other (context : Context) (instruction : Instruction)
  | dequeue (context : Context) (knows : ℕ → Bool) (maxSolValue : String)

/-- The instructions the program executes. -/
def Action.inputs : Action → List (Context × Instruction)
  | .other context instruction => [(context, instruction)]
  | .dequeue context _ maxSolValue =>
      match parseSolValue tool.library maxSolValue with
      | .ok maxSolAmount => [(context, .dequeueFills tool.accounts.signer maxSolAmount)]
      | .error _ => []

/-- The reports of one action and the state behind it. -/
def act (state : ConverterState) : Action → List DequeueReport × ConverterState
  | .other context instruction =>
      ([], commit (processInstruction platform) state (context, instruction))
  | .dequeue context knows maxSolValue =>
      let requested := requestDequeue platform tool context knows state maxSolValue
      (requested.1.toOption.toList, requested.2)

/-- The reports of a session and the state behind it. -/
def runSession : ConverterState → List Action → List DequeueReport × ConverterState
  | state, [] => ([], state)
  | state, action :: actions =>
      let acted := act platform tool state action
      let later := runSession acted.2 actions
      (acted.1 ++ later.1, later.2)

/-- The report shows the result: the SOL reads back as the amount. -/
structure DequeueReport.Shows (report : DequeueReport) (result : OnChain.DequeueFillsResult) :
    Prop where
  sol : parseSolValue tool.library report.solAmount = .ok result.solDequeued
  tokens : report.token2zAmount = result.token2zDequeued
  fills : report.fillsConsumed = result.fillsConsumed

/-- Nobody else dequeues, and every transaction of the tool is known in time. -/
def Exclusive : Action → Prop
  | .other _ instruction => ∀ signer maxSolAmount, instruction ≠ .dequeueFills signer maxSolAmount
  | .dequeue _ knows _ => KnownInTime knows

/-- The SOL of the reports. -/
def reportedSol (reports : List DequeueReport) : ℕ :=
  (reports.map fun report =>
    (parseSolValue tool.library report.solAmount).toOption.elim 0 UInt64.toNat).sum

def reportedTokens (reports : List DequeueReport) : ℕ :=
  (reports.map fun report => report.token2zAmount.toNat).sum

def reportedFills (reports : List DequeueReport) : ℕ :=
  (reports.map fun report => report.fillsConsumed.toNat).sum

section Command

variable {platform : Platform} {tool : Tool} {rounding : DecimalFormat.Rounding}
  {context : Context} {knows : ℕ → Bool} {state next : ConverterState} {maxSolValue : String}
  {maxSolAmount : UInt64}

theorem entry_of_dequeueFills (distinct : Distinguishes tool.hash) :
    entry platform tool.hash tool.accounts context state (dequeueFills tool.hash maxSolAmount) =
      mapFailure .program (processInstruction platform state
        (context, .dequeueFills tool.accounts.signer maxSolAmount)) :=
  entry_of_data distinct tool.accounts context state
    (show (Command.dequeueFills maxSolAmount).arguments = some _ from rfl) rfl

private theorem requestDequeue_of_failure (distinct : Distinguishes tool.hash) {failure : Failure}
    (parsed : parseSolValue tool.library maxSolValue = .ok maxSolAmount)
    (failed : processInstruction platform state
      (context, .dequeueFills tool.accounts.signer maxSolAmount) = .error failure) :
    requestDequeue platform tool context knows state maxSolValue =
      (.error (.rejected (.program failure)), state) := by
  simp only [requestDequeue, parsed, entry_of_dequeueFills distinct, failed]
  rfl

private theorem requestDequeue_of_ok (distinct : Distinguishes tool.hash)
    (lawful : tool.library.Lawful rounding) {receipt : Receipt}
    {result : OnChain.DequeueFillsResult}
    (parsed : parseSolValue tool.library maxSolValue = .ok maxSolAmount)
    (succeeded : processInstruction platform state
      (context, .dequeueFills tool.accounts.signer maxSolAmount) = .ok (next, receipt))
    (returned : receipt.returned = .dequeueFills result) :
    ∃ report : DequeueReport, report.Shows tool result ∧
      requestDequeue platform tool context knows state maxSolValue =
        (if KnownInTime knows then .ok report
          else .error (.returned (.message "Deserialization error")), next) := by
  obtain ⟨value, converted, read⟩ :
      ∃ value, convertSolValue tool.library result.solDequeued = .ok value ∧
        parseSolValue tool.library (tool.library.display value) = .ok result.solDequeued :=
    parseValue_display lawful lamportsPerSol_toNat (by norm_num) _ _ result.solDequeued
  obtain ⟨bytes, written⟩ : ∃ bytes, receipt.returned.toVec = some bytes := by
    rw [returned]
    exact ⟨_, rfl⟩
  have decoded : dequeueFillsReturnData bytes = some (.ofProgram result) :=
    dequeueFillsReturnData_toVec (returned ▸ written)
  refine ⟨⟨tool.library.display value, result.token2zDequeued, result.fillsConsumed⟩,
    ⟨read, rfl, rfl⟩, ?_⟩
  simp only [requestDequeue, parsed, entry_of_dequeueFills distinct, succeeded, mapFailure,
    sendInstructionWithReturnData_ok written decoded]
  by_cases known : KnownInTime knows
  · rw [if_pos known, if_pos known, ok_bind]
    change (do let solQuantity ← mapFailure _ (convertSolValue tool.library result.solDequeued)
               return _, next) = _
    rw [converted]
    rfl
  · rw [if_neg known, if_neg known]
    rfl

end Command

section Sessions

variable {platform : Platform} {tool : Tool} {rounding : DecimalFormat.Rounding}
  {state : ConverterState}

/-- The reports show results in order, none of them twice. -/
def ReportsOf (tool : Tool) (complete : Prop) (reports : List DequeueReport)
    (results : List OnChain.DequeueFillsResult) : Prop :=
  ∃ seen, List.Forall₂ (DequeueReport.Shows tool) reports seen ∧ seen.Sublist results ∧
    (complete → seen = results)

theorem reportsOf_nil {complete : Prop} {results : List OnChain.DequeueFillsResult}
    (nothing : complete → results = []) : ReportsOf tool complete [] results :=
  ⟨[], .nil, List.nil_sublist _, fun holds => (nothing holds).symm⟩

theorem ReportsOf.append {complete later : Prop} {reports others : List DequeueReport}
    {results more : List OnChain.DequeueFillsResult}
    (first : ReportsOf tool complete reports results) (second : ReportsOf tool later others more) :
    ReportsOf tool (complete ∧ later) (reports ++ others) (results ++ more) := by
  obtain ⟨seen, shows, sublist, all⟩ := first
  obtain ⟨seen', shows', sublist', all'⟩ := second
  refine ⟨seen ++ seen', List.rel_append shows shows', sublist.append sublist', ?_⟩
  rintro ⟨holds, holds'⟩
  rw [all holds, all' holds']

/-- An action executes its inputs, and its reports show what came of them. -/
theorem act_reports (distinct : Distinguishes tool.hash) (lawful : tool.library.Lawful rounding)
    (state : ConverterState) (action : Action) :
    (act platform tool state action).2 = runProgram platform state (action.inputs tool) ∧
      ReportsOf tool (Exclusive action) (act platform tool state action).1
        (dequeueResults (programHistory platform state (action.inputs tool))) := by
  cases action with
  | other context instruction =>
      refine ⟨rfl, reportsOf_nil fun exclusive => ?_⟩
      cases instruction with
      | dequeueFills signer maxSolAmount => exact absurd rfl (exclusive signer maxSolAmount)
      | _ => rfl
  | dequeue context knows maxSolValue =>
      cases parsed : parseSolValue tool.library maxSolValue with
      | error failure =>
          have inputs_eq : (Action.dequeue context knows maxSolValue).inputs tool = [] := by
            simp only [Action.inputs, parsed]
          have requested : requestDequeue platform tool context knows state maxSolValue =
              (.error (.amount failure), state) := by
            simp only [requestDequeue, parsed]
          rw [inputs_eq, act, requested]
          exact ⟨rfl, reportsOf_nil fun _ => rfl⟩
      | ok maxSolAmount =>
          have inputs_eq : (Action.dequeue context knows maxSolValue).inputs tool =
              [(context, .dequeueFills tool.accounts.signer maxSolAmount)] := by
            simp only [Action.inputs, parsed]
          rw [inputs_eq, act, runProgram, run_cons, run_nil, programHistory, history]
          cases executed : processInstruction platform state
              (context, .dequeueFills tool.accounts.signer maxSolAmount) with
          | error failure =>
              rw [requestDequeue_of_failure distinct parsed executed, commit_error _ executed]
              exact ⟨rfl, reportsOf_nil fun _ => rfl⟩
          | ok success =>
              obtain ⟨next, receipt⟩ := success
              obtain ⟨-, -, fillsRegistry, result, -, rfl, returned, -⟩ :=
                dequeueFills_eq_ok executed
              obtain ⟨report, shows, requested⟩ := requestDequeue_of_ok distinct lawful parsed
                executed returned
              have results_eq : dequeueResult ⟨state, (context, .dequeueFills tool.accounts.signer
                  maxSolAmount), .ok ({ state with fillsRegistry }, receipt)⟩ = [result] := by
                change receipt.returned.dequeued.toList = [result]
                rw [returned]
                rfl
              rw [requested, commit_ok _ executed, history, dequeueResults, List.flatMap_cons,
                results_eq, List.flatMap_nil, List.append_nil]
              refine ⟨rfl, ?_⟩
              by_cases known : KnownInTime knows
              · rw [if_pos known]
                exact ⟨[result], .cons shows .nil, .refl _, fun _ => rfl⟩
              · rw [if_neg known]
                exact ⟨[], .nil, List.nil_sublist _, fun exclusive => absurd exclusive known⟩

private theorem runSession_reports (distinct : Distinguishes tool.hash)
    (lawful : tool.library.Lawful rounding) (state : ConverterState) (actions : List Action) :
    (runSession platform tool state actions).2 =
        runProgram platform state (actions.flatMap (Action.inputs tool)) ∧
      ReportsOf tool (∀ action ∈ actions, Exclusive action)
        (runSession platform tool state actions).1
        (dequeueResults (programHistory platform state
          (actions.flatMap (Action.inputs tool)))) := by
  induction actions generalizing state with
  | nil => exact ⟨rfl, reportsOf_nil fun _ => rfl⟩
  | cons action actions ih =>
      obtain ⟨state_eq, reports⟩ := @act_reports platform _ _ distinct lawful state action
      obtain ⟨later_eq, later⟩ := ih (act platform tool state action).2
      rw [List.flatMap_cons, runProgram, run_append, programHistory, history_append, dequeueResults,
        List.flatMap_append, List.forall_mem_cons, runSession]
      rw [state_eq] at later_eq later ⊢
      exact ⟨later_eq, reports.append later⟩

/-- What reports show adds up to what was returned. -/
theorem sums_of_shows {reports : List DequeueReport} {seen : List OnChain.DequeueFillsResult}
    (shows : List.Forall₂ (DequeueReport.Shows tool) reports seen) :
    reportedSol tool reports = (seen.map fun result => result.solDequeued.toNat).sum ∧
      reportedTokens reports = (seen.map fun result => result.token2zDequeued.toNat).sum ∧
      reportedFills reports = (seen.map fun result => result.fillsConsumed.toNat).sum := by
  induction shows with
  | nil => exact ⟨rfl, rfl, rfl⟩
  | @cons report result reports seen shows _ ih =>
      obtain ⟨sol_eq, tokens_eq, fills_eq⟩ := ih
      simp only [reportedSol, reportedTokens, reportedFills, List.map_cons, List.sum_cons,
        shows.sol, shows.tokens, shows.fills] at sol_eq tokens_eq fills_eq ⊢
      rw [sol_eq, tokens_eq, fills_eq]
      exact ⟨rfl, rfl, rfl⟩

private theorem sum_le_of_sublist {α : Type} {seen results : List α}
    (sublist : seen.Sublist results)
    (amount : α → ℕ) : (seen.map amount).sum ≤ (results.map amount).sum :=
  (sublist.map amount).sum_le_sum fun _ _ => Nat.zero_le _

end Sessions

/-- In every session after initialization the reports show results of dequeues in order, so reported
and pending SOL is at most what was bought.  If nobody else dequeues and every transaction is known
in time, then all that was bought, in SOL, in tokens and in fills, is reported or pending. -/
theorem dequeues_reported {platform : Platform} (tool : Tool)
    {rounding : DecimalFormat.Rounding} (lawful : tool.library.Lawful rounding)
    (distinct : Distinguishes tool.hash) {context : Context} {arguments : InitializeSystem}
    {initial : ConverterState} {receipt : Receipt}
    (initialized : initializeSystem context arguments = .ok (initial, receipt))
    (actions : List Action) :
    let reports := (runSession platform tool initial actions).1
    let registry := (runSession platform tool initial actions).2.fillsRegistry
    let past := programHistory platform initial (actions.flatMap (Action.inputs tool))
    (∃ seen, List.Forall₂ (DequeueReport.Shows tool) reports seen ∧
      seen.Sublist (dequeueResults past)) ∧
      reportedSol tool reports + registry.totalSolPending.toNat ≤ recordedSol past ∧
      ((∀ action ∈ actions, Exclusive action) →
        recordedSol past = reportedSol tool reports + registry.totalSolPending.toNat ∧
        recordedTokens past = reportedTokens reports + registry.total2zPending.toNat ∧
        (recordedFills past).length = reportedFills reports + registry.count.toNat) := by
  intro reports registry past
  obtain ⟨state_eq, seen, shows, sublist, all⟩ :=
    @runSession_reports platform tool _ distinct lawful initial actions
  have accounted : Accounted past (runSession platform tool initial actions).2 := by
    rw [state_eq]
    exact accounted_history initialized _
  obtain ⟨sol_eq, tokens_eq, fills_eq⟩ := sums_of_shows shows
  refine ⟨⟨seen, shows, sublist⟩, ?_, fun exclusive => ?_⟩
  · rw [accounted.sol, sol_eq]
    exact Nat.add_le_add_right (sum_le_of_sublist sublist _) _
  · obtain rfl := all exclusive
    rw [accounted.sol, accounted.tokens, accounted.fills, sol_eq, tokens_eq, fills_eq]
    exact ⟨rfl, rfl, rfl⟩

/-- The tool of the admin, who is the consumer of fills. -/
def consumerTool : Tool :=
  { buyerTool with accounts := { buyerTool.accounts with signer := Local.admin } }

/-- A trade, the choice of a fills consumer, a dequeue of seven lamports and an amount that is no
number. -/
def consumerSession : List Action :=
  [.other (Local.context 200 Local.ledger) (.buySol Local.buyAccounts 200000000 Local.price),
    .other (Local.context 201 Local.ledger) (.setFillsConsumer Local.admin Local.admin),
    .dequeue (Local.context 202 Local.ledger) (fun attempt => decide (attempt = 1)) "0.000000007",
    .dequeue (Local.context 203 Local.ledger) (fun _ => true) "seven"]

private theorem exclusive_consumerSession : ∀ action ∈ consumerSession, Exclusive action := by
  intro action member
  simp only [consumerSession, List.mem_cons, List.not_mem_nil, or_false] at member
  obtain rfl | rfl | rfl | rfl := member
  · rintro signer maxSolAmount ⟨⟩
  · rintro signer maxSolAmount ⟨⟩
  · exact ⟨1, by decide, rfl⟩
  · exact ⟨0, by decide, rfl⟩

theorem dequeues_reported_local :
    let session := runSession Local.platform consumerTool Local.initial consumerSession
    (session.1.map fun report => (report.solAmount, report.token2zAmount, report.fillsConsumed)) =
        [("0.000000007", 1, 0)] ∧
      recordedSol (programHistory Local.platform Local.initial
        (consumerSession.flatMap (Action.inputs consumerTool))) =
          reportedSol consumerTool session.1 + session.2.fillsRegistry.totalSolPending.toNat :=
  ⟨by decide +kernel, ((dequeues_reported consumerTool DecimalFormat.nearestLibrary_lawful
    distinguishes_nameHash Local.initializeSystem_ok consumerSession).2.2
      exclusive_consumerSession).1⟩

end SolConversion.Cli
