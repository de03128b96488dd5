import Mathlib.Data.BitVec
import Mathlib.Data.UInt
import SolConversion.Foundation.DecimalFormat
import SolConversion.Foundation.Fallible

/-!
# Accounts, errors and events of the converter program

The data the program stores, the errors it returns and the events it emits, field by field.  An
account whose address is fixed by seeds, by an `address` constraint or by a program id is the
unique account at that address, since the runtime rejects every other one; such accounts are fields
of the state and not arguments of the instructions.
-/

namespace SolConversion.OnChain

open Fallible

/-- A 32-byte address. -/
abbrev Pubkey := BitVec 256

instance instDecidableMemPubkey (key : Pubkey) (keys : List Pubkey) : Decidable (key ∈ keys) :=
  inferInstance

/-- `MAX_DENY_LIST_SIZE` -/
def maxDenyListSize : ℕ := 310

/-- `MAX_FILLS_QUEUE_SIZE` -/
def maxFillsQueueSize : ℕ := 650000

/-- Basis points of one percent. -/
def bps : UInt16 := 100

def tokenDecimals : UInt8 := 8

/-- `10u64.pow(TOKEN_DECIMALS)` -/
def tokenUnits : UInt64 := 100000000

def lamportsPerSol : ℕ := 1000000000

instance : NeZero maxFillsQueueSize := ⟨by unfold maxFillsQueueSize; decide⟩

/-- The error codes of the program. -/
inductive DoubleZeroError
  | userInsideDenyList
  | unauthorizedAdmin
  | invalidAttestation
  | invalidOraclePublicKey
  | attestationVerificationError
  | invalidDiscountRate
  | invalidSolQuantity
  | invalidAskPrice
  | invalidMaxDiscountRate
  | invalidMinDiscountRate
  | invalidTradeSlot
  | invalidCoefficient
  | discountCalculationError
  | invalidOracleSwapRate
  | invalidTimestamp
  | bidTooLow
  | stalePrice
  | denyListFull
  | alreadyExistsInDenyList
  | invalidSystemState
  | invalidConversionRate
  | addressNotInDenyList
  | systemIsHalted
  | arithmeticError
  | unauthorizedFillConsumer
  | unauthorizedDenyListAuthority
  | registryFull
  | emptyFillsRegistry
  | invalidMaxSolAmount
  | singleTradePerSlot
  | askPriceCalculationError
  | invalidPriceMaximumAge
  deriving DecidableEq

/-- Account checks made before an instruction body runs. -/
inductive AnchorError
  | accountNotInitialized
  | invalidProgramId
  | constraintTokenMint
  | constraintRaw
  deriving DecidableEq

/-- Why an instruction fails. -/
inductive ProgramError
  | custom (code : DoubleZeroError)
  | anchor (code : AnchorError)
  /-- The token program rejects a transfer. -/
  | tokenProgram
  | invalidPda
  | missingRequiredSignature
  | insufficientFunds
  | accountAlreadyInUse
  /-- Overflow, an index out of bounds or an unwrapped `None`. -/
  | panic
  deriving DecidableEq

structure TradeEvent where
  solAmount : UInt64
  tokenAmount : UInt64
  bidPrice : UInt64
  timestamp : Int64
  buyer : Pubkey
  epoch : UInt64
  deriving DecidableEq

structure BidTooLowEvent where
  solAmount : UInt64
  bidPrice : UInt64
  askPrice : UInt64
  timestamp : Int64
  buyer : Pubkey
  epoch : UInt64
  deriving DecidableEq

structure FillsDequeued where
  requester : Pubkey
  solDequeued : UInt64
  token2zDequeued : UInt64
  fillsConsumed : UInt64
  timestamp : Int64
  deriving DecidableEq

structure ConfigChanged where
  changedBy : Pubkey
  oraclePubkey : Pubkey
  solQuantity : UInt64
  priceMaximumAge : Int64
  coefficient : UInt64
  maxDiscountRate : UInt64
  minDiscountRate : UInt64
  deriving DecidableEq

/-- Everything the program logs as an event. -/
inductive Event
  | systemInitialized
  | configChanged (change : ConfigChanged)
  | fillsConsumerChanged (changedBy newConsumer : Pubkey)
  | denyListAddressAdded (addedBy address : Pubkey) (timestamp : Int64) (updateCount : UInt64)
  | denyListAddressRemoved (removedBy address : Pubkey) (timestamp : Int64) (updateCount : UInt64)
  | adminChanged (newAdmin changedBy : Pubkey)
  | denyListAuthoritySet (newAuthority changedBy : Pubkey)
  | systemHalted (haltedBy : Pubkey)
  | systemUnhalted (unhaltedBy : Pubkey)
  | trade (event : TradeEvent)
  | bidTooLow (event : BidTooLowEvent)
  | fillsDequeued (event : FillsDequeued)
  deriving DecidableEq

/-- A failed instruction: its error and what it had logged. -/
structure Failure where
  error : ProgramError
  events : List Event
  deriving DecidableEq

/-- Failure with an error code of the program. -/
def failWith (code : DoubleZeroError) : Failure := ⟨.custom code, []⟩

/-- Failure by a check outside the instruction body, or by a panic. -/
def abortWith (error : ProgramError) : Failure := ⟨error, []⟩

/-- A checked operation of the compiled program: overflow aborts the instruction. -/
def checked {α : Type} : Option α → Except Failure α := orFail (abortWith .panic)

@[simp]
theorem checked_eq_ok {α : Type} {source : Option α} {value : α} :
    checked source = .ok value ↔ source = some value := orFail_eq_ok

@[simp]
theorem checked_some {α : Type} {value : α} : checked (some value) = .ok value := rfl

structure ConfigurationRegistry where
  /-- Public key of the swap oracle service. -/
  oraclePubkey : Pubkey
  solQuantity : UInt64
  /-- Maximum acceptable age for oracle price data. -/
  priceMaximumAge : Int64
  fillsConsumer : Pubkey
  coefficient : UInt64
  maxDiscountRate : UInt64
  minDiscountRate : UInt64
  deriving DecidableEq

structure BumpRegistry where
  configurationRegistryBump : UInt8
  programStateBump : UInt8
  denyListRegistryBump : UInt8
  withdrawAuthorityBump : UInt8
  deriving DecidableEq

structure ProgramStateAccount where
  admin : Pubkey
  fillsRegistryAddress : Pubkey
  /-- Indicates whether the system accepts conversion requests. -/
  isHalted : Bool
  bumpRegistry : BumpRegistry
  lastTradeSlot : UInt64
  denyListAuthority : Pubkey
  deriving DecidableEq

structure DenyListRegistry where
  deniedAddresses : List Pubkey
  lastUpdated : Int64
  updateCount : UInt64
  deriving DecidableEq

structure Fill where
  solIn : UInt64
  token2zOut : UInt64
  deriving DecidableEq

structure FillsRegistry where
  /-- Total SOL in fills not dequeued. -/
  totalSolPending : UInt64
  /-- Total 2Z in fills not dequeued. -/
  total2zPending : UInt64
  fills : Vector Fill maxFillsQueueSize
  /-- Index of the oldest element. -/
  head : UInt64
  /-- Index to insert the next element. -/
  tail : UInt64
  /-- Number of valid elements. -/
  count : UInt64

structure DequeueFillsResult where
  solDequeued : UInt64
  token2zDequeued : UInt64
  fillsConsumed : UInt64
  deriving DecidableEq

/-- The accounts the program owns once initialized. -/
structure ConverterState where
  configurationRegistry : ConfigurationRegistry
  programState : ProgramStateAccount
  denyListRegistry : DenyListRegistry
  fillsRegistry : FillsRegistry

/-- The price an oracle signed. -/
structure OraclePriceData where
  swapRate : UInt64
  timestamp : Int64
  signature : String
  deriving DecidableEq

/-- The clock sysvar. -/
structure Clock where
  slot : UInt64
  epoch : UInt64
  unixTimestamp : Int64
  deriving DecidableEq

/-- A token account of one of the token programs. -/
structure TokenAccount where
  mint : Pubkey
  owner : Pubkey
  amount : UInt64
  deriving DecidableEq

/-- Token accounts, mints and lamport balances outside the program. -/
structure Ledger where
  tokenAccounts : Pubkey → Option TokenAccount
  mints : Pubkey → Bool
  lamports : Pubkey → UInt64

/-- The arguments of a checked token transfer. -/
structure TransferChecked where
  tokenProgram : Pubkey
  mint : Pubkey
  source : Pubkey
  destination : Pubkey
  authority : Pubkey
  amount : UInt64
  decimals : UInt8

/-- What the program calls but does not define. -/
structure Platform where
  /-- Decimal arithmetic. -/
  decimal : DecimalFormat.Arithmetic
  /-- Standard base64 decoding. -/
  base64Decode : String → Option (List UInt8)
  /-- Ed25519 verification of a signature over a message under a public key. -/
  sigVerify : Pubkey → List UInt8 → List UInt8 → Bool
  /-- The token program's `transfer_checked`. -/
  transferChecked : Ledger → TransferChecked → Except ProgramError Ledger
  /-- The address derived from a seed by the revenue distribution program. -/
  findProgramAddress : String → Pubkey
  /-- The withdraw authority derived by the converter program. -/
  withdrawSolAuthority : Pubkey
  /-- The ids of the programs implementing the token interface. -/
  tokenPrograms : List Pubkey

/-- The amount held by a token account of the given mint. -/
def Ledger.balance (ledger : Ledger) (mint account : Pubkey) : ℕ :=
  match ledger.tokenAccounts account with
  | some holding => if holding.mint = mint then holding.amount.toNat else 0
  | none => 0

/-- What surrounds one instruction: the clock, the ledger and the program's upgrade authority. -/
structure Context where
  clock : Clock
  ledger : Ledger
  upgradeAuthority : Option Pubkey

/-- The value an instruction returns to its caller. -/
inductive ReturnData
  | none
  | conversionRate (rate : UInt64)
  | dequeueFills (result : DequeueFillsResult)
  deriving DecidableEq

/-- What a successful instruction leaves outside the program's accounts. -/
structure Receipt where
  events : List Event
  returned : ReturnData
  ledger : Ledger

end SolConversion.OnChain
