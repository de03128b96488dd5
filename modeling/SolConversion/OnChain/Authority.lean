import SolConversion.OnChain.FillsContract
import SolConversion.OnChain.SplitDequeue

/-!
# Authority

Who may change what.  The accounts without the trading data form an administration that evolves on
its own: trades and dequeues do not touch it, and every other instruction changes it as the holder
of its role asks.  Signers without a role therefore have no influence on it in any run.
-/

namespace SolConversion.OnChain

open Fallible Transactional

/-- The accounts without the last trade slot and the fills registry. -/
structure Administration where
  configurationRegistry : ConfigurationRegistry
  admin : Pubkey
  fillsRegistryAddress : Pubkey
  isHalted : Bool
  bumpRegistry : BumpRegistry
  denyListAuthority : Pubkey
  denyListRegistry : DenyListRegistry
  deriving DecidableEq

def ConverterState.administration (state : ConverterState) : Administration where
  configurationRegistry := state.configurationRegistry
  admin := state.programState.admin
  fillsRegistryAddress := state.programState.fillsRegistryAddress
  isHalted := state.programState.isHalted
  bumpRegistry := state.programState.bumpRegistry
  denyListAuthority := state.programState.denyListAuthority
  denyListRegistry := state.denyListRegistry

@[simp]
theorem administration_configurationRegistry (state : ConverterState) :
    state.administration.configurationRegistry = state.configurationRegistry := rfl

@[simp]
theorem administration_admin (state : ConverterState) :
    state.administration.admin = state.programState.admin := rfl

@[simp]
theorem administration_isHalted (state : ConverterState) :
    state.administration.isHalted = state.programState.isHalted := rfl

@[simp]
theorem administration_denyListAuthority (state : ConverterState) :
    state.administration.denyListAuthority = state.programState.denyListAuthority := rfl

@[simp]
theorem administration_denyListRegistry (state : ConverterState) :
    state.administration.denyListRegistry = state.denyListRegistry := rfl

namespace Administration

/-- A counted change of the deny list; the count may not overflow. -/
def record (administration : Administration) (clock : Clock) (deniedAddresses : List Pubkey) :
    Administration :=
  match FixedWidth.addU64 administration.denyListRegistry.updateCount 1 with
  | some updateCount =>
      { administration with
        denyListRegistry := ⟨deniedAddresses, clock.unixTimestamp, updateCount⟩ }
  | none => administration

open Classical in
/-- What an instruction makes of the administration: the holder of its role decides. -/
noncomputable def step (clock : Clock) (upgradeAuthority : Option Pubkey)
    (administration : Administration) : Instruction → Administration
  | .updateConfigurationRegistry admin input =>
      if admin = administration.admin ∧ input.Accepted administration.configurationRegistry then
        { administration with
          configurationRegistry := input.override administration.configurationRegistry }
      else administration
  | .setFillsConsumer admin newConsumer =>
      if admin = administration.admin then
        { administration with configurationRegistry :=
          { administration.configurationRegistry with fillsConsumer := newConsumer } }
      else administration
  | .addToDenyList admin address =>
      if admin = administration.denyListAuthority ∧
          address ∉ administration.denyListRegistry.deniedAddresses ∧
          administration.denyListRegistry.deniedAddresses.length < maxDenyListSize then
        administration.record clock (administration.denyListRegistry.deniedAddresses ++ [address])
      else administration
  | .removeFromDenyList admin address =>
      if admin = administration.denyListAuthority ∧
          address ∈ administration.denyListRegistry.deniedAddresses then
        administration.record clock (administration.denyListRegistry.deniedAddresses.erase address)
      else administration
  | .setAdmin admin newAdmin =>
      if upgradeAuthority = some admin then { administration with admin := newAdmin }
      else administration
  | .setDenyListAuthority admin newAuthority =>
      if upgradeAuthority = some admin then
        { administration with denyListAuthority := newAuthority }
      else administration
  | .toggleSystemState admin setTo =>
      if admin = administration.admin ∧ setTo ≠ administration.isHalted then
        { administration with isHalted := setTo }
      else administration
  | .initializeSystem _ | .buySol _ _ _ | .getConversionRate _ | .dequeueFills _ _ =>
      administration

end Administration

section Simulation

variable {platform : Platform} {context : Context} {state : ConverterState}

private theorem administration_update (admin : Pubkey) (input : ConfigurationRegistryInput) :
    (commit (processInstruction platform) state
        (context, .updateConfigurationRegistry admin input)).administration =
      state.administration.step context.clock context.upgradeAuthority
        (.updateConfigurationRegistry admin input) := by
  simp only [Administration.step, commit, processInstruction]
  split_ifs with allowed <;>
    rw [administration_admin, administration_configurationRegistry] at allowed
  · obtain ⟨rfl, accepted⟩ := allowed
    obtain ⟨next, receipt, success⟩ := @processUpdate_of_accepted context _ _ accepted
    rw [success, (processUpdate_eq_ok success).2.2]
    rfl
  · cases success : processUpdate context state admin input with
    | error failure => rfl
    | ok next =>
        obtain ⟨authorized, accepted, -⟩ := processUpdate_eq_ok success
        exact absurd ⟨authorized, accepted⟩ allowed

private theorem administration_setFillsConsumer (admin newConsumer : Pubkey) :
    (commit (processInstruction platform) state
        (context, .setFillsConsumer admin newConsumer)).administration =
      state.administration.step context.clock context.upgradeAuthority
        (.setFillsConsumer admin newConsumer) := by
  simp only [Administration.step, commit, processInstruction, setFillsConsumer, require]
  split_ifs <;> first | rfl | contradiction

private theorem administration_setAdmin (admin newAdmin : Pubkey) :
    (commit (processInstruction platform) state
        (context, .setAdmin admin newAdmin)).administration =
      state.administration.step context.clock context.upgradeAuthority
        (.setAdmin admin newAdmin) := by
  simp only [Administration.step, commit, processInstruction, setAdmin, requireUpgradeAuthority,
    require]
  split_ifs
  · rfl
  · rfl

private theorem administration_setDenyListAuthority (admin newAuthority : Pubkey) :
    (commit (processInstruction platform) state
        (context, .setDenyListAuthority admin newAuthority)).administration =
      state.administration.step context.clock context.upgradeAuthority
        (.setDenyListAuthority admin newAuthority) := by
  simp only [Administration.step, commit, processInstruction, setDenyListAuthority,
    requireUpgradeAuthority, require]
  split_ifs
  · rfl
  · rfl

private theorem administration_toggleSystemState (admin : Pubkey) (setTo : Bool) :
    (commit (processInstruction platform) state
        (context, .toggleSystemState admin setTo)).administration =
      state.administration.step context.clock context.upgradeAuthority
        (.toggleSystemState admin setTo) := by
  simp only [Administration.step, commit, processInstruction, toggleSystemState, require]
  by_cases authorized : admin = state.programState.admin
  · cases halted : state.programState.isHalted <;> cases setTo <;>
      simp [authorized, halted, ConverterState.administration, ok_bind]
  · simp [authorized, ConverterState.administration, error_bind]

theorem administration_record {instruction : Instruction} {deniedAddresses : List Pubkey}
    (receipt : DenyListRegistry → Receipt)
    (executed : processInstruction platform state (context, instruction) = (do
      let denyListRegistry ← state.denyListRegistry.record context.clock deniedAddresses
      return ({ state with denyListRegistry }, receipt denyListRegistry))) :
    (commit (processInstruction platform) state (context, instruction)).administration =
      state.administration.record context.clock deniedAddresses := by
  rw [commit, executed, DenyListRegistry.record, Administration.record,
    administration_denyListRegistry]
  cases FixedWidth.addU64 state.denyListRegistry.updateCount 1 with
  | none => rfl
  | some updateCount => rfl

private theorem administration_addToDenyList (admin address : Pubkey) :
    (commit (processInstruction platform) state
        (context, .addToDenyList admin address)).administration =
      state.administration.step context.clock context.upgradeAuthority
        (.addToDenyList admin address) := by
  rw [Administration.step]
  split_ifs with allowed <;>
    rw [administration_denyListAuthority, administration_denyListRegistry] at allowed
  · obtain ⟨authorized, fresh, room⟩ := allowed
    refine administration_record (fun registry => context.receipt
      [.denyListAddressAdded admin address registry.lastUpdated registry.updateCount]) ?_
    rw [processInstruction, addToDenyList, require, if_pos authorized, ok_bind, require,
      if_pos fresh, ok_bind, require, if_pos room, ok_bind]
    rfl
  · cases success : addToDenyList context state admin address with
    | error failure => rw [commit_error _ success]
    | ok next =>
        simp only [addToDenyList, bind_eq_ok, require_eq_ok] at success
        obtain ⟨-, authorized, -, fresh, -, room, -⟩ := success
        exact absurd ⟨authorized, fresh, room⟩ allowed

private theorem administration_removeFromDenyList (admin address : Pubkey) :
    (commit (processInstruction platform) state
        (context, .removeFromDenyList admin address)).administration =
      state.administration.step context.clock context.upgradeAuthority
        (.removeFromDenyList admin address) := by
  rw [Administration.step]
  split_ifs with allowed <;>
    rw [administration_denyListAuthority, administration_denyListRegistry] at allowed
  · obtain ⟨authorized, denied⟩ := allowed
    obtain ⟨pos, found⟩ : ∃ pos, state.denyListRegistry.deniedAddresses.idxOf? address =
        some pos := Option.isSome_iff_exists.mp (by rwa [List.isSome_idxOf?])
    rw [administration_denyListRegistry, List.erase_eq_eraseIdx, found]
    refine administration_record (fun registry => context.receipt
      [.denyListAddressRemoved admin address registry.lastUpdated registry.updateCount]) ?_
    rw [processInstruction, removeFromDenyList, require, if_pos authorized, ok_bind, found,
      orFail_some, ok_bind]
  · cases success : removeFromDenyList context state admin address with
    | error failure => rw [commit_error _ success]
    | ok next =>
        simp only [removeFromDenyList, bind_eq_ok, require_eq_ok, orFail_eq_ok] at success
        obtain ⟨-, authorized, pos, found, -⟩ := success
        have denied : address ∈ state.denyListRegistry.deniedAddresses := by
          by_contra absent
          rw [List.idxOf?_eq_none_iff.mpr absent] at found
          contradiction
        exact absurd ⟨authorized, denied⟩ allowed

private theorem administration_of_trades {accounts : BuySolAccounts} {bidPrice : UInt64}
    {oraclePriceData : OraclePriceData} {askPrice tokensRequired : UInt64} {paid : Ledger}
    {next : ConverterState} {receipt : Receipt}
    (trades : Trades platform context state accounts bidPrice oraclePriceData askPrice
      tokensRequired paid next receipt) : next.administration = state.administration := by
  rw [ConverterState.administration, trades.configurationRegistry_eq, trades.programState_eq,
    trades.denyListRegistry_eq]
  rfl

/-- Every instruction, successful or not, leaves the administration as its step says. -/
theorem administration_commit (platform : Platform) (context : Context) (state : ConverterState)
    (instruction : Instruction) :
    (commit (processInstruction platform) state (context, instruction)).administration =
      state.administration.step context.clock context.upgradeAuthority instruction := by
  cases instruction with
  | initializeSystem arguments => rfl
  | updateConfigurationRegistry admin input => exact administration_update admin input
  | setFillsConsumer admin newConsumer => exact administration_setFillsConsumer admin newConsumer
  | addToDenyList admin address => exact administration_addToDenyList admin address
  | removeFromDenyList admin address => exact administration_removeFromDenyList admin address
  | setAdmin admin newAdmin => exact administration_setAdmin admin newAdmin
  | setDenyListAuthority admin newAuthority =>
      exact administration_setDenyListAuthority admin newAuthority
  | toggleSystemState admin setTo => exact administration_toggleSystemState admin setTo
  | buySol accounts bidPrice oraclePriceData =>
      cases success : buySol platform context state accounts bidPrice oraclePriceData with
      | error failure => rw [commit_error _ success, Administration.step]
      | ok next =>
          obtain ⟨askPrice, tokensRequired, paid, trades⟩ := buySol_eq_ok.mp success
          rw [commit_ok _ success, administration_of_trades trades, Administration.step]
  | getConversionRate oraclePriceData =>
      simp only [commit, processInstruction, Administration.step]
      cases getConversionRate platform context state oraclePriceData with
      | error failure => rfl
      | ok rate => rfl
  | dequeueFills signer maxSolAmount =>
      cases success : dequeueFills context state signer maxSolAmount with
      | error failure => rw [commit_error _ success, Administration.step]
      | ok next =>
          obtain ⟨-, -, fillsRegistry, result, -, next_eq, -⟩ := dequeueFills_eq_ok success
          rw [commit_ok _ success, next_eq, Administration.step]
          rfl

end Simulation

/-! ## Roles -/

/-- The signer of an instruction; anyone may ask for a quote. -/
def Instruction.signer : Instruction → Option Pubkey
  | .initializeSystem arguments => some arguments.authority
  | .updateConfigurationRegistry admin _ => some admin
  | .setFillsConsumer admin _ => some admin
  | .addToDenyList admin _ => some admin
  | .removeFromDenyList admin _ => some admin
  | .setAdmin admin _ => some admin
  | .setDenyListAuthority admin _ => some admin
  | .toggleSystemState admin _ => some admin
  | .buySol accounts _ _ => some accounts.signer
  | .getConversionRate _ => none
  | .dequeueFills signer _ => some signer

/-- The upgrade authority of the program signed. -/
def Instruction.SignedByUpgradeAuthority (instruction : Instruction)
    (upgradeAuthority : Option Pubkey) : Prop :=
  ∃ authority, upgradeAuthority = some authority ∧ instruction.signer = some authority

namespace Administration

variable {upgradeAuthority : Option Pubkey} {administration next : Administration}
  {instruction : Instruction}

/-- Every way the administration can change, with the signature it takes. -/
inductive Changes (upgradeAuthority : Option Pubkey) (administration : Administration)
    (instruction : Instruction) : Administration → Prop
  | unchanged : Changes upgradeAuthority administration instruction administration
  | configured {configurationRegistry : ConfigurationRegistry} :
      instruction.signer = some administration.admin →
      Changes upgradeAuthority administration instruction
        { administration with configurationRegistry }
  | toggled {isHalted : Bool} :
      instruction.signer = some administration.admin →
      Changes upgradeAuthority administration instruction { administration with isHalted }
  | denyListRecorded {denyListRegistry : DenyListRegistry} :
      instruction.signer = some administration.denyListAuthority →
      Changes upgradeAuthority administration instruction { administration with denyListRegistry }
  | adminSet {admin : Pubkey} :
      instruction.SignedByUpgradeAuthority upgradeAuthority →
      Changes upgradeAuthority administration instruction { administration with admin }
  | authoritySet {denyListAuthority : Pubkey} :
      instruction.SignedByUpgradeAuthority upgradeAuthority →
      Changes upgradeAuthority administration instruction { administration with denyListAuthority }

theorem changes_record {clock : Clock} {deniedAddresses : List Pubkey}
    (signed : instruction.signer = some administration.denyListAuthority) :
    Changes upgradeAuthority administration instruction
      (administration.record clock deniedAddresses) := by
  rw [record]
  split
  · exact .denyListRecorded signed
  · exact .unchanged

/-- A step changes the administration in one of these ways. -/
theorem step_changes (clock : Clock) (upgradeAuthority : Option Pubkey)
    (administration : Administration) (instruction : Instruction) :
    Changes upgradeAuthority administration instruction
      (administration.step clock upgradeAuthority instruction) := by
  cases instruction with
  | updateConfigurationRegistry admin input =>
      rw [step]
      split_ifs with allowed
      · exact .configured (congrArg some allowed.1)
      · exact .unchanged
  | setFillsConsumer admin newConsumer =>
      rw [step]
      split_ifs with authorized
      · exact .configured (congrArg some authorized)
      · exact .unchanged
  | addToDenyList admin address =>
      rw [step]
      split_ifs with allowed
      · exact changes_record (congrArg some allowed.1)
      · exact .unchanged
  | removeFromDenyList admin address =>
      rw [step]
      split_ifs with allowed
      · exact changes_record (congrArg some allowed.1)
      · exact .unchanged
  | setAdmin admin newAdmin =>
      rw [step]
      split_ifs with authorized
      · exact .adminSet ⟨admin, authorized, rfl⟩
      · exact .unchanged
  | setDenyListAuthority admin newAuthority =>
      rw [step]
      split_ifs with authorized
      · exact .authoritySet ⟨admin, authorized, rfl⟩
      · exact .unchanged
  | toggleSystemState admin setTo =>
      rw [step]
      split_ifs with allowed
      · exact .toggled (congrArg some allowed.1)
      · exact .unchanged
  | _ => exact .unchanged

theorem Changes.admin (changes : Changes upgradeAuthority administration instruction next)
    (moved : next.admin ≠ administration.admin) :
    instruction.SignedByUpgradeAuthority upgradeAuthority := by
  cases changes with
  | adminSet signed => exact signed
  | _ => exact absurd rfl moved

theorem Changes.denyListAuthority
    (changes : Changes upgradeAuthority administration instruction next)
    (moved : next.denyListAuthority ≠ administration.denyListAuthority) :
    instruction.SignedByUpgradeAuthority upgradeAuthority := by
  cases changes with
  | authoritySet signed => exact signed
  | _ => exact absurd rfl moved

theorem Changes.configurationRegistry
    (changes : Changes upgradeAuthority administration instruction next)
    (moved : next.configurationRegistry ≠ administration.configurationRegistry) :
    instruction.signer = some administration.admin := by
  cases changes with
  | configured signed => exact signed
  | _ => exact absurd rfl moved

theorem Changes.isHalted (changes : Changes upgradeAuthority administration instruction next)
    (moved : next.isHalted ≠ administration.isHalted) :
    instruction.signer = some administration.admin := by
  cases changes with
  | toggled signed => exact signed
  | _ => exact absurd rfl moved

theorem Changes.denyListRegistry
    (changes : Changes upgradeAuthority administration instruction next)
    (moved : next.denyListRegistry ≠ administration.denyListRegistry) :
    instruction.signer = some administration.denyListAuthority := by
  cases changes with
  | denyListRecorded signed => exact signed
  | _ => exact absurd rfl moved

/-- The fills registry address and the bumps are never changed. -/
theorem Changes.addresses (changes : Changes upgradeAuthority administration instruction next) :
    next.fillsRegistryAddress = administration.fillsRegistryAddress ∧
      next.bumpRegistry = administration.bumpRegistry := by
  cases changes <;> exact ⟨rfl, rfl⟩

end Administration

/-- The fills of `after` are those of `before` without some of the first. -/
def KeepsBack (before after : List Fill) : Prop :=
  ∃ front back, before = front ++ back ∧ ShrinksHead back after

/-- What a successful instruction may change, and under whose signature. -/
structure Permitted (context : Context) (state next : ConverterState)
    (instruction : Instruction) : Prop where
  admin : next.programState.admin ≠ state.programState.admin →
    instruction.SignedByUpgradeAuthority context.upgradeAuthority
  denyListAuthority :
    next.programState.denyListAuthority ≠ state.programState.denyListAuthority →
      instruction.SignedByUpgradeAuthority context.upgradeAuthority
  configurationRegistry : next.configurationRegistry ≠ state.configurationRegistry →
    instruction.signer = some state.programState.admin
  isHalted : next.programState.isHalted ≠ state.programState.isHalted →
    instruction.signer = some state.programState.admin
  toggles : ∀ admin setTo, instruction = .toggleSystemState admin setTo →
    next.programState.isHalted = !state.programState.isHalted
  deniedAddresses :
    next.denyListRegistry.deniedAddresses ≠ state.denyListRegistry.deniedAddresses →
      instruction.signer = some state.programState.denyListAuthority
  /-- Without the fills consumer's signature every fill stays in its place. -/
  fills : instruction.signer ≠ some state.configurationRegistry.fillsConsumer →
    viewFillsRegistry state.fillsRegistry <+: viewFillsRegistry next.fillsRegistry
  lastTradeSlot : next.programState.lastTradeSlot ≠ state.programState.lastTradeSlot →
    ∃ accounts bidPrice price, instruction = .buySol accounts bidPrice price
  back : (∀ accounts bidPrice price, instruction ≠ .buySol accounts bidPrice price) →
    next.fillsRegistry.tail = state.fillsRegistry.tail ∧
      KeepsBack (viewFillsRegistry state.fillsRegistry) (viewFillsRegistry next.fillsRegistry)
  fillsRegistryAddress_eq :
    next.programState.fillsRegistryAddress = state.programState.fillsRegistryAddress
  bumpRegistry_eq : next.programState.bumpRegistry = state.programState.bumpRegistry
  quotes : ∀ price, instruction = .getConversionRate price → next = state

section Step

variable {platform : Platform} {context : Context} {state next : ConverterState}
  {instruction : Instruction} {receipt : Receipt}

private theorem toggleSystemState_flips {admin : Pubkey} {setTo : Bool}
    (success : toggleSystemState context state admin setTo = .ok (next, receipt)) :
    next.programState.isHalted = !state.programState.isHalted := by
  simp only [toggleSystemState, bind_eq_ok, require_eq_ok] at success
  obtain ⟨-, -, toggled⟩ := success
  split_ifs at toggled with halts resumes
  · obtain ⟨rfl, -⟩ := Prod.mk.inj (Except.ok.inj toggled)
    rw [Bool.eq_false_iff.mpr halts.2]
    rfl
  · obtain ⟨rfl, -⟩ := Prod.mk.inj (Except.ok.inj toggled)
    rw [resumes.2]
    rfl

private theorem prefix_of_executes (ring : state.fillsRegistry.Ring)
    (executes : Executes platform context state instruction next receipt)
    (unsigned : instruction.signer ≠ some state.configurationRegistry.fillsConsumer) :
    viewFillsRegistry state.fillsRegistry <+: viewFillsRegistry next.fillsRegistry := by
  cases executes with
  | traded trades =>
      rw [viewFillsRegistry_insert ring trades.inserted]
      exact List.prefix_append ..
  | dequeued authorized => exact absurd (congrArg some authorized) unsigned
  | _ => exact List.prefix_refl _

private theorem keepsBack_of_executes (consistent : state.fillsRegistry.Consistent)
    (executes : Executes platform context state instruction next receipt)
    (other : ∀ accounts bidPrice price, instruction ≠ .buySol accounts bidPrice price) :
    next.fillsRegistry.tail = state.fillsRegistry.tail ∧
      KeepsBack (viewFillsRegistry state.fillsRegistry) (viewFillsRegistry next.fillsRegistry) := by
  cases executes with
  | traded trades => exact absurd rfl (other _ _ _)
  | dequeued _ _ dequeued _ =>
      obtain ⟨front, back, view_eq, shrinks, -⟩ :=
        suffix_of_drains (drains_of_dequeue consistent dequeued)
      exact ⟨dequeue_tail dequeued, front, back, view_eq, shrinks⟩
  | _ => exact ⟨rfl, [], _, rfl, .inl rfl⟩

private theorem trade_of_lastTradeSlot
    (executes : Executes platform context state instruction next receipt)
    (moved : next.programState.lastTradeSlot ≠ state.programState.lastTradeSlot) :
    ∃ accounts bidPrice price, instruction = .buySol accounts bidPrice price := by
  cases executes with
  | traded trades => exact ⟨_, _, _, rfl⟩
  | _ => exact absurd rfl moved

/-- A successful instruction changes what its signer may change. -/
theorem permitted_of_success (consistent : state.fillsRegistry.Consistent)
    (success : processInstruction platform state (context, instruction) = .ok (next, receipt)) :
    Permitted context state next instruction := by
  have executes := executes_of_ok success
  have changes := state.administration.step_changes context.clock context.upgradeAuthority
    instruction
  rw [← administration_commit platform, commit_ok _ success] at changes
  exact
    { admin := changes.admin
      denyListAuthority := changes.denyListAuthority
      configurationRegistry := changes.configurationRegistry
      isHalted := changes.isHalted
      toggles := by
        rintro admin setTo rfl
        exact toggleSystemState_flips success
      deniedAddresses := fun moved => changes.denyListRegistry fun same => moved
        (congrArg DenyListRegistry.deniedAddresses same)
      fills := prefix_of_executes consistent.toRing executes
      lastTradeSlot := trade_of_lastTradeSlot executes
      back := keepsBack_of_executes consistent executes
      fillsRegistryAddress_eq := changes.addresses.1
      bumpRegistry_eq := changes.addresses.2
      quotes := by
        rintro price rfl
        cases executes
        rfl }

end Step

/-- The signer of the instruction holds none of the roles. -/
def Outsider (state : ConverterState) : Context × Instruction → Prop
  | (context, instruction) => ∀ key ∈ instruction.signer,
      key ≠ state.programState.admin ∧ key ≠ state.programState.denyListAuthority ∧
        key ≠ state.configurationRegistry.fillsConsumer ∧ context.upgradeAuthority ≠ some key

/-- The same instruction at the same time under the same upgrade authority; the ledger may differ,
since balances depend on every trade. -/
def SameOccasion (left right : Context × Instruction) : Prop :=
  left.2 = right.2 ∧ left.1.clock = right.1.clock ∧
    left.1.upgradeAuthority = right.1.upgradeAuthority

/-- Two runs that differ in instructions of outsiders only. -/
abbrev DifferByOutsiders (platform : Platform) :=
  Differ (processInstruction platform) Outsider SameOccasion

private theorem administration_of_outsider {platform : Platform} {state : ConverterState}
    {input : Context × Instruction} (outsider : Outsider state input) :
    (commit (processInstruction platform) state input).administration = state.administration := by
  obtain ⟨context, instruction⟩ := input
  rw [administration_commit]
  have changes := state.administration.step_changes context.clock context.upgradeAuthority
    instruction
  have unsigned {key : Pubkey} (signed : instruction.signer = some key) := outsider key signed
  generalize state.administration.step context.clock context.upgradeAuthority instruction = next
    at changes
  cases changes with
  | unchanged => rfl
  | configured signed => exact absurd rfl (unsigned signed).1
  | toggled signed => exact absurd rfl (unsigned signed).1
  | denyListRecorded signed => exact absurd rfl (unsigned signed).2.1
  | adminSet signed =>
      obtain ⟨authority, authorized, signed⟩ := signed
      exact absurd authorized (unsigned signed).2.2.2
  | authoritySet signed =>
      obtain ⟨authority, authorized, signed⟩ := signed
      exact absurd authorized (unsigned signed).2.2.2

private theorem administration_of_sameOccasion {platform : Platform} {state state' : ConverterState}
    {input input' : Context × Instruction}
    (same : state.administration = state'.administration) (alike : SameOccasion input input') :
    (commit (processInstruction platform) state input).administration =
      (commit (processInstruction platform) state' input').administration := by
  obtain ⟨context, instruction⟩ := input
  obtain ⟨context', instruction'⟩ := input'
  obtain ⟨instruction_eq, clock_eq, authority_eq⟩ := alike
  simp only at instruction_eq clock_eq authority_eq
  rw [administration_commit, administration_commit, same, instruction_eq, clock_eq, authority_eq]

private theorem addresses_of_run (platform : Platform) (state : ConverterState)
    (inputs : List (Context × Instruction)) :
    (runProgram platform state inputs).programState.fillsRegistryAddress =
        state.programState.fillsRegistryAddress ∧
      (runProgram platform state inputs).programState.bumpRegistry =
        state.programState.bumpRegistry := by
  induction inputs generalizing state with
  | nil => exact ⟨rfl, rfl⟩
  | cons input inputs ih =>
      obtain ⟨context, instruction⟩ := input
      have changes := state.administration.step_changes context.clock context.upgradeAuthority
        instruction
      rw [← administration_commit platform] at changes
      obtain ⟨address_eq, bumps_eq⟩ := ih (commit (processInstruction platform) state
        (context, instruction))
      exact ⟨address_eq.trans changes.addresses.1, bumps_eq.trans changes.addresses.2⟩

/-- In every reachable state a successful instruction changes only what its signer's role allows,
addresses stay fixed, and whatever signers without a role do, everything but the last trade slot and
the fills registry comes out the same. -/
theorem authority_separated {platform : Platform} {state : ConverterState}
    (reachable : Reachable platform state) :
    (∀ context instruction next receipt,
        processInstruction platform state (context, instruction) = .ok (next, receipt) →
        Permitted context state next instruction) ∧
      (∀ inputs,
        (runProgram platform state inputs).programState.fillsRegistryAddress =
            state.programState.fillsRegistryAddress ∧
          (runProgram platform state inputs).programState.bumpRegistry =
            state.programState.bumpRegistry) ∧
      ∀ inputs inputs', DifferByOutsiders platform state inputs state inputs' →
        (runProgram platform state inputs).administration =
          (runProgram platform state inputs').administration := by
  refine ⟨fun context instruction next receipt success => ?_, addresses_of_run platform state,
    fun inputs inputs' differ => ?_⟩
  · exact permitted_of_success (consistent_of_reachable reachable) success
  · exact differ.observe_eq (fun _ _ => administration_of_outsider)
      (fun _ _ _ _ => administration_of_sameOccasion) rfl

/-- A trade before the halt makes no difference to the administration. -/
theorem authority_separated_local :
    (runProgram Local.platform Local.initial
        [(Local.context 200 Local.ledger, .buySol Local.buyAccounts 200000000 Local.price),
          (Local.context 300 Local.ledger, .toggleSystemState Local.admin true)]).administration =
      (runProgram Local.platform Local.initial
        [(Local.context 300 Local.ledger,
          .toggleSystemState Local.admin true)]).administration := by
  refine (authority_separated Local.initial_reachable).2.2 _ _
    (.left ?_ (.both ⟨rfl, rfl, rfl⟩ .done))
  intro key signed
  obtain rfl := Option.some.inj signed
  decide

end SolConversion.OnChain
