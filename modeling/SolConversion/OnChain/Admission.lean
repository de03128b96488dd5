import SolConversion.OnChain.LocalDeployment

/-!
# Admission of trades

Whether a purchase is admitted depends on the history of other instructions: the last toggle, the
last change of the deny list for the buyer, and the slots of all earlier purchases.  The state
remembers exactly what the history says.
-/

namespace SolConversion.OnChain

open Transactional

/-- An executed instruction with its surroundings. -/
abbrev ProgramInput := Context × Instruction

/-- The halt flag an instruction sets. -/
def Instruction.toggle : Instruction → Option Bool
  | .toggleSystemState _ setTo => some setTo
  | _ => none

/-- Whether an instruction adds an address to the deny list or removes it. -/
def Instruction.denyListChange (address : Pubkey) : Instruction → Option Bool
  | .addToDenyList _ added => if added = address then some true else none
  | .removeFromDenyList _ removed => if removed = address then some false else none
  | _ => none

/-- The slot of a purchase. -/
def tradeSlot : ProgramInput → Option UInt64
  | (context, .buySol ..) => some context.clock.slot
  | _ => none

/-- The halt flags set by successful toggles. -/
def toggles (done : List ProgramInput) : List Bool :=
  done.filterMap fun input => input.2.toggle

/-- The successful changes of an address's entry in the deny list. -/
def denyListChanges (address : Pubkey) (done : List ProgramInput) : List Bool :=
  done.filterMap fun input => input.2.denyListChange address

/-- The slots of the successful purchases. -/
def tradeSlots (done : List ProgramInput) : List UInt64 := done.filterMap tradeSlot

/-- The halt flag is the one last set. -/
def HaltRemembered (done : List ProgramInput) (state : ConverterState) : Prop :=
  (toggles done).getLast?.getD false = state.programState.isHalted

/-- The deny list holds, once each, the addresses last changed by an addition. -/
structure DenyListRemembered (done : List ProgramInput) (state : ConverterState) : Prop where
  denied : ∀ address, address ∈ state.denyListRegistry.deniedAddresses ↔
    (denyListChanges address done).getLast? = some true
  nodup : state.denyListRegistry.deniedAddresses.Nodup

/-- The slots of the purchases increase from the initial slot to the remembered one. -/
structure SlotsRemembered (initialSlot : UInt64) (done : List ProgramInput)
    (state : ConverterState) : Prop where
  increase : (initialSlot :: tradeSlots done).Pairwise (· < ·)
  last : (initialSlot :: tradeSlots done).getLast? = some state.programState.lastTradeSlot

theorem filterMap_snoc {α β : Type} (select : α → Option β) (done : List α) (input : α) :
    (done ++ [input]).filterMap select = done.filterMap select ++ (select input).toList := by
  rw [List.filterMap_append]
  cases selected : select input <;> simp [selected]

private theorem toggles_snoc (done : List ProgramInput) (input : ProgramInput) :
    toggles (done ++ [input]) = toggles done ++ input.2.toggle.toList := filterMap_snoc _ done input

theorem denyListChanges_snoc (address : Pubkey) (done : List ProgramInput)
    (input : ProgramInput) :
    denyListChanges address (done ++ [input]) =
      denyListChanges address done ++ (input.2.denyListChange address).toList :=
  filterMap_snoc _ done input

theorem tradeSlots_snoc (done : List ProgramInput) (input : ProgramInput) :
    tradeSlots (done ++ [input]) = tradeSlots done ++ (tradeSlot input).toList :=
  filterMap_snoc _ done input

section Steps

variable {platform : Platform} {context : Context} {state next : ConverterState}
  {instruction : Instruction} {receipt : Receipt} {done : List ProgramInput}

private theorem haltRemembered_of_executes (remembered : HaltRemembered done state)
    (executes : Executes platform context state instruction next receipt) :
    HaltRemembered (done ++ [(context, instruction)]) next := by
  rw [HaltRemembered] at remembered ⊢
  rw [toggles_snoc]
  cases executes with
  | toggled => simp [Instruction.toggle]
  | traded trades =>
      rw [trades.programState_eq]
      simpa [Instruction.toggle] using remembered
  | _ => simpa [Instruction.toggle] using remembered

theorem denyListRemembered_of_unchanged (remembered : DenyListRemembered done state)
    (unchanged : ∀ address, instruction.denyListChange address = none)
    (same : next.denyListRegistry = state.denyListRegistry) :
    DenyListRemembered (done ++ [(context, instruction)]) next := by
  obtain ⟨denied, nodup⟩ := remembered
  constructor
  · intro address
    rw [same, denied, denyListChanges_snoc, unchanged, Option.toList_none, List.append_nil]
  · rwa [same]

private theorem denyListRemembered_of_executes (remembered : DenyListRemembered done state)
    (executes : Executes platform context state instruction next receipt) :
    DenyListRemembered (done ++ [(context, instruction)]) next := by
  cases executes with
  | @denied admin added denyListRegistry _ fresh list_eq =>
      obtain ⟨denied, nodup⟩ := remembered
      constructor
      · intro address
        rw [denyListChanges_snoc, list_eq, List.mem_append, denied, List.mem_singleton]
        rcases eq_or_ne added address with rfl | other
        · simp [Instruction.denyListChange]
        · simp [Instruction.denyListChange, other, other.symm]
      · rw [list_eq, ← List.concat_eq_append]
        exact nodup.concat fresh
  | @allowed admin removed denyListRegistry _ list_eq =>
      obtain ⟨denied, nodup⟩ := remembered
      constructor
      · intro address
        rw [denyListChanges_snoc, list_eq, nodup.mem_erase_iff, denied]
        rcases eq_or_ne removed address with rfl | other
        · simp [Instruction.denyListChange]
        · simp [Instruction.denyListChange, other, other.symm]
      · rw [list_eq]
        exact nodup.erase removed
  | traded trades =>
      exact denyListRemembered_of_unchanged remembered (fun _ => rfl) trades.denyListRegistry_eq
  | _ => exact denyListRemembered_of_unchanged remembered (fun _ => rfl) rfl

theorem pairwise_snoc {slots : List UInt64} {last slot : UInt64}
    (increase : slots.Pairwise (· < ·)) (last_eq : slots.getLast? = some last)
    (later : last < slot) : (slots ++ [slot]).Pairwise (· < ·) := by
  obtain ⟨earlier, rfl⟩ := List.getLast?_eq_some_iff.mp last_eq
  rw [List.pairwise_append]
  refine ⟨increase, List.pairwise_singleton _ _, fun other member final final_eq => ?_⟩
  rw [List.mem_singleton.mp final_eq]
  rcases List.mem_append.mp member with before | same
  · exact UInt64.lt_trans
      ((List.pairwise_append.mp increase).2.2 other before last List.mem_cons_self) later
  · rwa [List.mem_singleton.mp same]

private theorem slotsRemembered_of_executes {initialSlot : UInt64}
    (remembered : SlotsRemembered initialSlot done state)
    (executes : Executes platform context state instruction next receipt) :
    SlotsRemembered initialSlot (done ++ [(context, instruction)]) next := by
  obtain ⟨increase, last⟩ := remembered
  cases executes with
  | traded trades =>
      constructor
      · rw [tradeSlots_snoc]
        exact pairwise_snoc increase last trades.later
      · rw [tradeSlots_snoc, ← List.cons_append, trades.programState_eq]
        exact List.getLast?_concat
  | _ =>
      constructor
      · rw [tradeSlots_snoc]
        simpa [tradeSlot] using increase
      · rw [tradeSlots_snoc]
        simpa [tradeSlot] using last

end Steps

section Runs

variable (platform : Platform) {context : Context} {arguments : InitializeSystem}
  {initial : ConverterState} {receipt : Receipt}

private theorem haltRemembered_run
    (initialized : initializeSystem context arguments = .ok (initial, receipt))
    (inputs : List ProgramInput) :
    HaltRemembered (accepted (programHistory platform initial inputs))
      (runProgram platform initial inputs) := by
  obtain ⟨-, running, -⟩ := initializeSystem_eq_ok initialized
  refine accepted_invariant _ running.symm ?_ inputs
  rintro done state ⟨context, instruction⟩ next receipt remembered success
  exact haltRemembered_of_executes remembered (executes_of_ok success)

private theorem denyListRemembered_run
    (initialized : initializeSystem context arguments = .ok (initial, receipt))
    (inputs : List ProgramInput) :
    DenyListRemembered (accepted (programHistory platform initial inputs))
      (runProgram platform initial inputs) := by
  obtain ⟨-, -, -, no_denied, -⟩ := initializeSystem_eq_ok initialized
  have initially : DenyListRemembered [] initial := by
    constructor
    · intro address
      simp [no_denied, denyListChanges]
    · simp [no_denied]
  refine accepted_invariant _ initially ?_ inputs
  rintro done state ⟨context, instruction⟩ next receipt remembered success
  exact denyListRemembered_of_executes remembered (executes_of_ok success)

theorem slotsRemembered_run
    (initialized : initializeSystem context arguments = .ok (initial, receipt))
    (inputs : List ProgramInput) :
    SlotsRemembered context.clock.slot (accepted (programHistory platform initial inputs))
      (runProgram platform initial inputs) := by
  obtain ⟨-, -, slot_eq, -⟩ := initializeSystem_eq_ok initialized
  have initially : SlotsRemembered context.clock.slot [] initial := by
    constructor
    · exact List.pairwise_singleton _ _
    · rw [slot_eq]
      rfl
  refine accepted_invariant _ initially ?_ inputs
  rintro done state ⟨context, instruction⟩ next receipt remembered success
  exact slotsRemembered_of_executes remembered (executes_of_ok success)

/-- Every successful purchase of a run met the admission conditions set by the history before it,
the slots of the purchases increase from the initialization on, and a failed purchase does not
touch the remembered slot. -/
theorem purchases_admitted
    (initialized : initializeSystem context arguments = .ok (initial, receipt))
    (inputs : List ProgramInput) :
    (∀ past future entry tradeContext accounts bidPrice oraclePriceData next tradeReceipt,
        programHistory platform initial inputs = past ++ entry :: future →
        entry.input = (tradeContext, .buySol accounts bidPrice oraclePriceData) →
        entry.result = .ok (next, tradeReceipt) →
        (∀ setTo, (toggles (accepted past)).getLast? = some setTo → setTo = false) ∧
          (∀ added, (denyListChanges accounts.signer (accepted past)).getLast? = some added →
            added = false) ∧
          Attested platform entry.before.configurationRegistry.oraclePubkey
            entry.before.configurationRegistry.priceMaximumAge tradeContext.clock
            oraclePriceData ∧
          context.clock.slot < tradeContext.clock.slot ∧
          ∀ slot ∈ tradeSlots (accepted past), slot < tradeContext.clock.slot) ∧
      (tradeSlots (accepted (programHistory platform initial inputs))).Pairwise (· < ·) ∧
      ∀ state tradeContext accounts bidPrice oraclePriceData failure,
        buySol platform tradeContext state accounts bidPrice oraclePriceData = .error failure →
        (commit (processInstruction platform) state
          (tradeContext, .buySol accounts bidPrice oraclePriceData)).programState.lastTradeSlot =
            state.programState.lastTradeSlot := by
  refine ⟨?_, ?_, ?_⟩
  · intro past future entry tradeContext accounts bidPrice oraclePriceData next tradeReceipt split
      input_eq result_eq
    obtain ⟨front, back, -, rfl, before_eq, executed⟩ := history_split _ split
    rw [result_eq, input_eq] at executed
    obtain ⟨askPrice, tokensRequired, paid, trades⟩ := buySol_eq_ok.mp executed.symm
    have halt := haltRemembered_run platform initialized front
    have deny := denyListRemembered_run platform initialized front
    obtain ⟨increase, last⟩ := slotsRemembered_run platform initialized front
    have slots := pairwise_snoc increase last trades.later
    rw [List.cons_append, List.pairwise_cons, List.pairwise_append] at slots
    obtain ⟨after_initial, -, -, after_trades⟩ := slots
    refine ⟨?_, ?_, ?_, ?_, ?_⟩
    · intro setTo toggled
      rw [HaltRemembered, toggled] at halt
      exact halt.trans trades.running
    · intro added changed
      cases added with
      | false => rfl
      | true => exact absurd ((deny.denied _).mpr changed) trades.admitted
    · rw [before_eq]
      exact attested_of_verifyAttestation trades.verified
    · exact after_initial _ (List.mem_append_right _ List.mem_cons_self)
    · exact fun slot member => after_trades slot member _ List.mem_cons_self
  · obtain ⟨increase, -⟩ := slotsRemembered_run platform initialized inputs
    exact (List.pairwise_cons.mp increase).2
  · intro state tradeContext accounts bidPrice oraclePriceData failure failed
    have rejected : processInstruction platform state
        (tradeContext, .buySol accounts bidPrice oraclePriceData) = .error failure := failed
    rw [commit_error _ rejected]

end Runs

namespace Local

/-- The system is halted and running again, the buyer denied and allowed again, and trades once. -/
def admittingInputs : List ProgramInput :=
  [(context 150 ledger, .toggleSystemState admin true),
    (context 151 ledger, .toggleSystemState admin false),
    (context 152 ledger, .addToDenyList admin buyer),
    (context 153 ledger, .removeFromDenyList admin buyer),
    (context 200 ledger, .buySol buyAccounts 200000000 price)]

end Local

/-- A second trade is admitted behind a toggle, a removal from the deny list and the first trade. -/
theorem purchases_admitted_local :
    let past := programHistory Local.platform Local.initial Local.admittingInputs
    let state := runProgram Local.platform Local.initial Local.admittingInputs
    ∃ next receipt,
      buySol Local.platform (Local.context 300 Local.ledger) state Local.buyAccounts 200000000
        Local.price = .ok (next, receipt) ∧
      (toggles (accepted past)).getLast? = some false ∧
      (denyListChanges Local.buyer (accepted past)).getLast? = some false ∧
      Attested Local.platform state.configurationRegistry.oraclePubkey
        state.configurationRegistry.priceMaximumAge ⟨300, 3, 1700000100⟩ Local.price ∧
      tradeSlots (accepted past) = [200] ∧ ∀ slot ∈ tradeSlots (accepted past), slot < 300 := by
  intro past state
  have succeeds : (buySol Local.platform (Local.context 300 Local.ledger) state Local.buyAccounts
      200000000 Local.price).isOk = true := by
    decide +kernel
  have toggled : toggles (accepted past) = [true, false] := by decide +kernel
  have changed : denyListChanges Local.buyer (accepted past) = [true, false] := by decide +kernel
  have traded : tradeSlots (accepted past) = [200] := by decide +kernel
  cases success : buySol Local.platform (Local.context 300 Local.ledger) state Local.buyAccounts
    200000000 Local.price with
  | error failure =>
      rw [success] at succeeds
      contradiction
  | ok outcome =>
      obtain ⟨next, receipt⟩ := outcome
      obtain ⟨admitted, -⟩ := purchases_admitted Local.platform Local.initializeSystem_ok
        (Local.admittingInputs ++ [(Local.context 300 Local.ledger,
          .buySol Local.buyAccounts 200000000 Local.price)])
      obtain ⟨-, -, attested, -, later⟩ := admitted past [] _ (Local.context 300 Local.ledger)
        Local.buyAccounts 200000000 Local.price next receipt (history_snoc _ _ _ _) rfl success
      refine ⟨next, receipt, rfl, ?_, ?_, attested, traded, later⟩
      · rw [toggled]
        rfl
      · rw [changed]
        rfl

end SolConversion.OnChain
