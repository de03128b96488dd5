import SolConversion.Foundation.FixedWidth
import SolConversion.OnChain.AskPrice

/-!
# Administration

Initialization, configuration updates, the deny list, the halt switch and the authorities.  Each
instruction has one lemma that lists everything a successful execution checked and changed.
-/

namespace SolConversion.OnChain

open FixedWidth Fallible

/-- A receipt with events and nothing else. -/
def Context.receipt (context : Context) (events : List Event) : Receipt :=
  ⟨events, .none, context.ledger⟩

/-- The check shared by the instructions of the upgrade authority. -/
def requireUpgradeAuthority (context : Context) (admin : Pubkey) : Except Failure Unit :=
  require (context.upgradeAuthority = some admin) (abortWith (.anchor .constraintRaw))

/-- The arguments of `initialize_system`, with the bumps the runtime derives. -/
structure InitializeSystem where
  authority : Pubkey
  fillsRegistryAddress : Pubkey
  oraclePubkey : Pubkey
  solQuantity : UInt64
  priceMaximumAge : Int64
  coefficient : UInt64
  maxDiscountRate : UInt64
  minDiscountRate : UInt64
  bumpRegistry : BumpRegistry
  deriving DecidableEq

/-- The registry of a freshly created account. -/
def FillsRegistry.zeroed : FillsRegistry where
  totalSolPending := 0
  total2zPending := 0
  fills := Vector.replicate maxFillsQueueSize ⟨0, 0⟩
  head := 0
  tail := 0
  count := 0

def initializeSystem (context : Context) (arguments : InitializeSystem) :
    Except Failure (ConverterState × Receipt) := do
  requireUpgradeAuthority context arguments.authority
  require (arguments.maxDiscountRate ≤ 10000) (failWith .invalidMaxDiscountRate)
  require (arguments.coefficient ≤ 100000000) (failWith .invalidCoefficient)
  require (arguments.minDiscountRate < arguments.maxDiscountRate)
    (failWith .invalidMinDiscountRate)
  require (arguments.priceMaximumAge > 0) (failWith .invalidPriceMaximumAge)
  return (
    { configurationRegistry :=
        { oraclePubkey := arguments.oraclePubkey
          solQuantity := arguments.solQuantity
          priceMaximumAge := arguments.priceMaximumAge
          fillsConsumer := 0
          coefficient := arguments.coefficient
          maxDiscountRate := arguments.maxDiscountRate
          minDiscountRate := arguments.minDiscountRate }
      programState :=
        { admin := arguments.authority
          fillsRegistryAddress := arguments.fillsRegistryAddress
          isHalted := false
          bumpRegistry := arguments.bumpRegistry
          lastTradeSlot := context.clock.slot
          denyListAuthority := arguments.authority }
      denyListRegistry := ⟨[], 0, 0⟩
      fillsRegistry := .zeroed },
    context.receipt [.systemInitialized])

theorem initializeSystem_eq_ok {context : Context} {arguments : InitializeSystem}
    {state : ConverterState} {receipt : Receipt}
    (success : initializeSystem context arguments = .ok (state, receipt)) :
    state.configurationRegistry.Valid ∧ state.programState.isHalted = false ∧
      state.programState.lastTradeSlot = context.clock.slot ∧
      state.denyListRegistry.deniedAddresses = [] ∧ state.fillsRegistry = .zeroed := by
  simp only [initializeSystem, bind_eq_ok, require_eq_ok, pure_eq_ok, Prod.mk.injEq] at success
  obtain ⟨-, -, -, max_le, -, coefficient_le, -, min_lt, -, age_pos, rfl, -⟩ := success
  refine ⟨⟨?_, ?_, ?_, ?_⟩, rfl, rfl, rfl, rfl⟩
  · exact Int64.lt_iff_toInt_lt.mp age_pos
  · exact UInt64.le_iff_toNat_le.mp coefficient_le
  · exact UInt64.lt_iff_toNat_lt.mp min_lt
  · exact UInt64.le_iff_toNat_le.mp max_le

/-- The optional new values of a configuration. -/
structure ConfigurationRegistryInput where
  oraclePubkey : Option Pubkey
  solQuantity : Option UInt64
  priceMaximumAge : Option Int64
  coefficient : Option UInt64
  maxDiscountRate : Option UInt64
  minDiscountRate : Option UInt64
  deriving DecidableEq

/-- Check a present value and let it replace the stored one. -/
def updateField {α : Type} (present : Option α) (stored : α) (check : α → Except Failure Unit) :
    Except Failure α :=
  match present with
  | some value => do
      check value
      return value
  | none => .ok stored

def processUpdate (context : Context) (state : ConverterState) (admin : Pubkey)
    (input : ConfigurationRegistryInput) : Except Failure (ConverterState × Receipt) := do
  require (admin = state.programState.admin) (failWith .unauthorizedAdmin)
  let stored := state.configurationRegistry
  let oraclePubkey := input.oraclePubkey.getD stored.oraclePubkey
  let solQuantity := input.solQuantity.getD stored.solQuantity
  let priceMaximumAge ← updateField input.priceMaximumAge stored.priceMaximumAge
    fun priceMaximumAge => require (priceMaximumAge > 0) (failWith .invalidPriceMaximumAge)
  let coefficient ← updateField input.coefficient stored.coefficient
    fun coefficient => require (coefficient ≤ 100000000) (failWith .invalidCoefficient)
  let maxDiscountRate ← updateField input.maxDiscountRate stored.maxDiscountRate
    fun maxDiscountRate => do
      require (maxDiscountRate ≤ 10000) (failWith .invalidMaxDiscountRate)
      let minRate := input.minDiscountRate.getD stored.minDiscountRate
      require (maxDiscountRate > minRate) (failWith .invalidMaxDiscountRate)
  let minDiscountRate ← updateField input.minDiscountRate stored.minDiscountRate
    fun minDiscountRate => do
      let maxRate := input.maxDiscountRate.getD maxDiscountRate
      require (minDiscountRate < maxRate) (failWith .invalidMinDiscountRate)
  let configurationRegistry := { stored with
    oraclePubkey, solQuantity, priceMaximumAge, coefficient, maxDiscountRate, minDiscountRate }
  return ({ state with configurationRegistry },
    context.receipt [.configChanged
      { changedBy := admin
        oraclePubkey, solQuantity, priceMaximumAge, coefficient, maxDiscountRate
        minDiscountRate }])

/-- The configuration with the present fields overridden. -/
def ConfigurationRegistryInput.override (input : ConfigurationRegistryInput)
    (stored : ConfigurationRegistry) : ConfigurationRegistry where
  oraclePubkey := input.oraclePubkey.getD stored.oraclePubkey
  solQuantity := input.solQuantity.getD stored.solQuantity
  priceMaximumAge := input.priceMaximumAge.getD stored.priceMaximumAge
  fillsConsumer := stored.fillsConsumer
  coefficient := input.coefficient.getD stored.coefficient
  maxDiscountRate := input.maxDiscountRate.getD stored.maxDiscountRate
  minDiscountRate := input.minDiscountRate.getD stored.minDiscountRate

theorem updateField_eq_ok {α : Type} {present : Option α} {stored value : α}
    {check : α → Except Failure Unit} :
    updateField present stored check = .ok value ↔
      value = present.getD stored ∧ ∀ update ∈ present, check update = .ok () := by
  cases present with
  | none => simp [updateField, eq_comm]
  | some update =>
      simp only [updateField, bind_eq_ok, pure_eq_ok, Option.getD_some, Option.mem_def,
        Option.some.injEq, forall_eq']
      constructor
      · rintro ⟨⟨⟩, passed, rfl⟩
        exact ⟨rfl, passed⟩
      · rintro ⟨rfl, passed⟩
        exact ⟨(), passed, rfl⟩

/-- The checks an update makes on its present fields. -/
structure ConfigurationRegistryInput.Accepted (input : ConfigurationRegistryInput)
    (stored : ConfigurationRegistry) : Prop where
  priceMaximumAge : ∀ update ∈ input.priceMaximumAge, update > 0
  coefficient : ∀ update ∈ input.coefficient, update ≤ 100000000
  maxDiscountRate : ∀ update ∈ input.maxDiscountRate,
    update ≤ 10000 ∧ update > input.minDiscountRate.getD stored.minDiscountRate
  minDiscountRate : ∀ update ∈ input.minDiscountRate,
    update < input.maxDiscountRate.getD stored.maxDiscountRate

/-- An update that succeeds passed its checks and replaced the configuration by the override. -/
theorem processUpdate_eq_ok {context : Context} {state next : ConverterState} {admin : Pubkey}
    {input : ConfigurationRegistryInput} {receipt : Receipt}
    (success : processUpdate context state admin input = .ok (next, receipt)) :
    admin = state.programState.admin ∧ input.Accepted state.configurationRegistry ∧
      next = { state with
        configurationRegistry := input.override state.configurationRegistry } := by
  simp only [processUpdate, bind_eq_ok, require_eq_ok, updateField_eq_ok, pure_eq_ok,
    Prod.mk.injEq] at success
  obtain ⟨-, authorized, age, ⟨rfl, age_ok⟩, coefficient, ⟨rfl, coefficient_ok⟩, greatest,
    ⟨rfl, greatest_ok⟩, least, ⟨rfl, least_ok⟩, rfl, -⟩ := success
  refine ⟨authorized, ⟨age_ok, coefficient_ok, ?_, ?_⟩, rfl⟩
  · intro update present
    obtain ⟨-, bounded, above⟩ := greatest_ok update present
    exact ⟨bounded, above⟩
  · intro update present
    have below := least_ok update present
    cases greatest_eq : input.maxDiscountRate <;> simpa [greatest_eq] using below

/-- An update by the admin that passes its checks succeeds. -/
theorem processUpdate_of_accepted {context : Context} {state : ConverterState}
    {input : ConfigurationRegistryInput}
    (accepted : input.Accepted state.configurationRegistry) :
    ∃ next receipt,
      processUpdate context state state.programState.admin input = .ok (next, receipt) := by
  simp only [processUpdate, bind_eq_ok, require_eq_ok, updateField_eq_ok, pure_eq_ok,
    Prod.mk.injEq]
  refine ⟨_, _, (), trivial, _, ⟨rfl, accepted.priceMaximumAge⟩, _, ⟨rfl, accepted.coefficient⟩, _,
    ⟨rfl, fun update present => ?_⟩, _, ⟨rfl, fun update present => ?_⟩, rfl, rfl⟩
  · obtain ⟨bounded, above⟩ := accepted.maxDiscountRate update present
    exact ⟨(), bounded, above⟩
  · have below := accepted.minDiscountRate update present
    cases greatest_eq : input.maxDiscountRate <;> simpa [greatest_eq] using below

theorem getD_of_forall {α : Type} (bound : α → Prop) {present : Option α} {stored : α}
    (updated : ∀ update ∈ present, bound update) (kept : bound stored) :
    bound (present.getD stored) := by
  cases present with
  | none => exact kept
  | some update => exact updated update rfl

private theorem override_discounts_lt {stored : ConfigurationRegistry} (valid : stored.Valid)
    {input : ConfigurationRegistryInput} (accepted : input.Accepted stored) :
    (input.override stored).minDiscountRate < (input.override stored).maxDiscountRate := by
  simp only [ConfigurationRegistryInput.override]
  -- a present bound was compared with the override of the other one
  cases greatest : input.maxDiscountRate with
  | some update => exact (accepted.maxDiscountRate update greatest).2
  | none =>
      cases least : input.minDiscountRate with
      | some update =>
          have below := accepted.minDiscountRate update least
          rwa [greatest] at below
      | none => exact valid.discounts_lt

/-- Over a valid configuration the checks accept exactly the valid overrides. -/
theorem accepted_iff_valid {stored : ConfigurationRegistry} (valid : stored.Valid)
    (input : ConfigurationRegistryInput) :
    input.Accepted stored ↔ (input.override stored).Valid := by
  constructor
  · intro accepted
    refine ⟨?_, ?_, override_discounts_lt valid accepted, ?_⟩
    · exact getD_of_forall (fun age : Int64 => 0 < age.toInt)
        (fun update present => Int64.lt_iff_toInt_lt.mp (accepted.priceMaximumAge update present))
        valid.priceMaximumAge_pos
    · exact getD_of_forall (fun rate : UInt64 => rate.toNat ≤ 100000000) accepted.coefficient
        valid.coefficient_le
    · exact getD_of_forall (fun rate : UInt64 => rate.toNat ≤ 10000)
        (fun update present => (accepted.maxDiscountRate update present).1)
        valid.maxDiscountRate_le
  · rintro ⟨age_pos, coefficient_le, discounts_lt, greatest_le⟩
    simp only [ConfigurationRegistryInput.override]
      at age_pos coefficient_le discounts_lt greatest_le
    constructor
    · intro update present
      rw [Option.mem_def.mp present] at age_pos
      exact Int64.lt_iff_toInt_lt.mpr age_pos
    · intro update present
      rw [Option.mem_def.mp present] at coefficient_le
      exact coefficient_le
    · intro update present
      rw [Option.mem_def.mp present] at greatest_le discounts_lt
      exact ⟨greatest_le, discounts_lt⟩
    · intro update present
      rw [Option.mem_def.mp present] at discounts_lt
      exact discounts_lt

def setFillsConsumer (context : Context) (state : ConverterState) (admin newConsumer : Pubkey) :
    Except Failure (ConverterState × Receipt) := do
  require (admin = state.programState.admin) (failWith .unauthorizedAdmin)
  return ({ state with configurationRegistry :=
      { state.configurationRegistry with fillsConsumer := newConsumer } },
    context.receipt [.fillsConsumerChanged admin newConsumer])

theorem setFillsConsumer_eq_ok {context : Context} {state next : ConverterState}
    {admin newConsumer : Pubkey} {receipt : Receipt}
    (success : setFillsConsumer context state admin newConsumer = .ok (next, receipt)) :
    next = { state with configurationRegistry :=
      { state.configurationRegistry with fillsConsumer := newConsumer } } := by
  simp only [setFillsConsumer, bind_eq_ok, require_eq_ok, pure_eq_ok, Prod.mk.injEq] at success
  obtain ⟨-, -, rfl, -⟩ := success
  rfl

/-- Store a changed deny list and count the change. -/
def DenyListRegistry.record (denyListRegistry : DenyListRegistry) (clock : Clock)
    (deniedAddresses : List Pubkey) : Except Failure DenyListRegistry := do
  let updateCount ← checked (addU64 denyListRegistry.updateCount 1)
  return ⟨deniedAddresses, clock.unixTimestamp, updateCount⟩

def addToDenyList (context : Context) (state : ConverterState) (admin address : Pubkey) :
    Except Failure (ConverterState × Receipt) := do
  require (admin = state.programState.denyListAuthority)
    (failWith .unauthorizedDenyListAuthority)
  require (address ∉ state.denyListRegistry.deniedAddresses) (failWith .alreadyExistsInDenyList)
  require (state.denyListRegistry.deniedAddresses.length < maxDenyListSize)
    (failWith .denyListFull)
  let denyListRegistry ← state.denyListRegistry.record context.clock
    (state.denyListRegistry.deniedAddresses ++ [address])
  return ({ state with denyListRegistry },
    context.receipt [.denyListAddressAdded admin address denyListRegistry.lastUpdated
      denyListRegistry.updateCount])

def removeFromDenyList (context : Context) (state : ConverterState) (admin address : Pubkey) :
    Except Failure (ConverterState × Receipt) := do
  require (admin = state.programState.denyListAuthority)
    (failWith .unauthorizedDenyListAuthority)
  let pos ← orFail (failWith .addressNotInDenyList)
    (state.denyListRegistry.deniedAddresses.idxOf? address)
  let denyListRegistry ← state.denyListRegistry.record context.clock
    (state.denyListRegistry.deniedAddresses.eraseIdx pos)
  return ({ state with denyListRegistry },
    context.receipt [.denyListAddressRemoved admin address denyListRegistry.lastUpdated
      denyListRegistry.updateCount])

@[simp]
theorem record_eq_ok {denyListRegistry next : DenyListRegistry} {clock : Clock}
    {deniedAddresses : List Pubkey}
    (success : denyListRegistry.record clock deniedAddresses = .ok next) :
    next.deniedAddresses = deniedAddresses := by
  simp only [DenyListRegistry.record, bind_eq_ok, pure_eq_ok] at success
  obtain ⟨updateCount, -, rfl⟩ := success
  rfl

theorem addToDenyList_eq_ok {context : Context} {state next : ConverterState}
    {admin address : Pubkey} {receipt : Receipt}
    (success : addToDenyList context state admin address = .ok (next, receipt)) :
    address ∉ state.denyListRegistry.deniedAddresses ∧ ∃ denyListRegistry,
      next = { state with denyListRegistry } ∧ denyListRegistry.deniedAddresses =
        state.denyListRegistry.deniedAddresses ++ [address] := by
  simp only [addToDenyList, bind_eq_ok, require_eq_ok, pure_eq_ok, Prod.mk.injEq] at success
  obtain ⟨-, -, -, fresh, -, -, denyListRegistry, recorded, rfl, -⟩ := success
  exact ⟨fresh, denyListRegistry, rfl, record_eq_ok recorded⟩

theorem removeFromDenyList_eq_ok {context : Context} {state next : ConverterState}
    {admin address : Pubkey} {receipt : Receipt}
    (success : removeFromDenyList context state admin address = .ok (next, receipt)) :
    ∃ denyListRegistry, next = { state with denyListRegistry } ∧
      denyListRegistry.deniedAddresses =
        state.denyListRegistry.deniedAddresses.erase address := by
  simp only [removeFromDenyList, bind_eq_ok, require_eq_ok, orFail_eq_ok, pure_eq_ok,
    Prod.mk.injEq] at success
  obtain ⟨-, -, pos, found, denyListRegistry, recorded, rfl, -⟩ := success
  refine ⟨denyListRegistry, rfl, ?_⟩
  rw [record_eq_ok recorded, List.erase_eq_eraseIdx, found]

def toggleSystemState (context : Context) (state : ConverterState) (admin : Pubkey)
    (setTo : Bool) : Except Failure (ConverterState × Receipt) := do
  require (admin = state.programState.admin) (failWith .unauthorizedAdmin)
  if setTo ∧ ¬state.programState.isHalted then
    return ({ state with programState := { state.programState with isHalted := true } },
      context.receipt [.systemHalted admin])
  else if ¬setTo ∧ state.programState.isHalted then
    return ({ state with programState := { state.programState with isHalted := false } },
      context.receipt [.systemUnhalted admin])
  else
    .error (failWith .invalidSystemState)

theorem toggleSystemState_eq_ok {context : Context} {state next : ConverterState}
    {admin : Pubkey} {setTo : Bool} {receipt : Receipt}
    (success : toggleSystemState context state admin setTo = .ok (next, receipt)) :
    next = { state with programState := { state.programState with isHalted := setTo } } := by
  simp only [toggleSystemState, bind_eq_ok, require_eq_ok] at success
  obtain ⟨-, -, toggled⟩ := success
  split at toggled
  · rename_i halts
    simp only [pure_eq_ok, Prod.mk.injEq] at toggled
    obtain ⟨rfl, -⟩ := toggled
    rw [halts.1]
  · split at toggled
    · rename_i resumes
      simp only [pure_eq_ok, Prod.mk.injEq] at toggled
      obtain ⟨rfl, -⟩ := toggled
      rw [Bool.eq_false_iff.mpr resumes.1]
    · contradiction

def setAdmin (context : Context) (state : ConverterState) (admin newAdmin : Pubkey) :
    Except Failure (ConverterState × Receipt) := do
  requireUpgradeAuthority context admin
  return ({ state with programState := { state.programState with admin := newAdmin } },
    context.receipt [.adminChanged newAdmin admin])

theorem setAdmin_eq_ok {context : Context} {state next : ConverterState}
    {admin newAdmin : Pubkey} {receipt : Receipt}
    (success : setAdmin context state admin newAdmin = .ok (next, receipt)) :
    next = { state with programState := { state.programState with admin := newAdmin } } := by
  simp only [setAdmin, bind_eq_ok, pure_eq_ok, Prod.mk.injEq] at success
  obtain ⟨-, -, rfl, -⟩ := success
  rfl

def setDenyListAuthority (context : Context) (state : ConverterState)
    (admin newAuthority : Pubkey) : Except Failure (ConverterState × Receipt) := do
  requireUpgradeAuthority context admin
  return ({ state with programState :=
      { state.programState with denyListAuthority := newAuthority } },
    context.receipt [.denyListAuthoritySet newAuthority admin])

theorem setDenyListAuthority_eq_ok {context : Context} {state next : ConverterState}
    {admin newAuthority : Pubkey} {receipt : Receipt}
    (success : setDenyListAuthority context state admin newAuthority = .ok (next, receipt)) :
    next = { state with programState :=
      { state.programState with denyListAuthority := newAuthority } } := by
  simp only [setDenyListAuthority, bind_eq_ok, pure_eq_ok, Prod.mk.injEq] at success
  obtain ⟨-, -, rfl, -⟩ := success
  rfl

end SolConversion.OnChain
