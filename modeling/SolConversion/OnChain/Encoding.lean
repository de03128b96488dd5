import SolConversion.Foundation.Borsh
import SolConversion.OnChain.Program

/-!
# The data of accounts and instructions

How the program lays out its accounts, what it decodes instruction data to, and what it returns to
its caller.
-/

namespace SolConversion.OnChain

open Borsh

/-- The 32 bytes of an address. -/
def pubkey : Format Pubkey := word 32

theorem canonical_pubkey : pubkey.Canonical := canonical_word 32

@[simp]
theorem pubkey_encode (key : Pubkey) : pubkey.encode key = some (littleEndian 32 key.toNat) := rfl

/-- The eight bytes in front of an account. -/
abbrev Discriminator := Vector UInt8 8

def ConfigurationRegistry.fields (registry : ConfigurationRegistry) : Option Bytes :=
  concat [pubkey.encode registry.oraclePubkey, u64.encode registry.solQuantity,
    i64.encode registry.priceMaximumAge, pubkey.encode registry.fillsConsumer,
    u64.encode registry.coefficient, u64.encode registry.maxDiscountRate,
    u64.encode registry.minDiscountRate]

def BumpRegistry.fields (registry : BumpRegistry) : Option Bytes :=
  concat [u8.encode registry.configurationRegistryBump, u8.encode registry.programStateBump,
    u8.encode registry.denyListRegistryBump, u8.encode registry.withdrawAuthorityBump]

def ProgramStateAccount.fields (account : ProgramStateAccount) : Option Bytes :=
  concat [pubkey.encode account.admin, pubkey.encode account.fillsRegistryAddress,
    bool.encode account.isHalted, account.bumpRegistry.fields, u64.encode account.lastTradeSlot,
    pubkey.encode account.denyListAuthority]

def DenyListRegistry.fields (registry : DenyListRegistry) : Option Bytes :=
  concat [(vec pubkey).encode registry.deniedAddresses, i64.encode registry.lastUpdated,
    u64.encode registry.updateCount]

/-- The account data holds the fields after its discriminator, and anything after them: an account
is allocated for its largest value. -/
def Stores (data : Bytes) (fields : Option Bytes) : Prop :=
  ∃ (discriminator : Discriminator) (bytes trailing : Bytes),
    fields = some bytes ∧ data = discriminator.toList ++ (bytes ++ trailing)

def OraclePriceData.deserialize : Reader OraclePriceData := do
  let swapRate ← u64.decode
  let timestamp ← i64.decode
  let signature ← string.decode
  return { swapRate, timestamp, signature }

def ConfigurationRegistryInput.deserialize : Reader ConfigurationRegistryInput := do
  let oraclePubkey ← (option pubkey).decode
  let solQuantity ← (option u64).decode
  let priceMaximumAge ← (option i64).decode
  let coefficient ← (option u64).decode
  let maxDiscountRate ← (option u64).decode
  let minDiscountRate ← (option u64).decode
  return { oraclePubkey, solQuantity, priceMaximumAge, coefficient, maxDiscountRate,
           minDiscountRate }

/-- The instructions of the program by name. -/
inductive Method
  | initializeSystem
  | updateConfigurationRegistry
  | setFillsConsumer
  | addToDenyList
  | removeFromDenyList
  | setAdmin
  | setDenyListAuthority
  | toggleSystemState
  | buySol
  | getConversionRate
  | dequeueFills
  deriving DecidableEq

/-- The name that the discriminator of an instruction is derived from. -/
def Method.name : Method → String
  | .initializeSystem => "global:initialize_system"
  | .updateConfigurationRegistry => "global:update_configuration_registry"
  | .setFillsConsumer => "global:set_fills_consumer"
  | .addToDenyList => "global:add_to_deny_list"
  | .removeFromDenyList => "global:remove_from_deny_list"
  | .setAdmin => "global:set_admin"
  | .setDenyListAuthority => "global:set_deny_list_authority"
  | .toggleSystemState => "global:toggle_system_state"
  | .buySol => "global:buy_sol"
  | .getConversionRate => "global:get_conversion_rate"
  | .dequeueFills => "global:dequeue_fills"

/-- The arguments of an instruction. -/
inductive Arguments
  | initializeSystem (oraclePubkey : Pubkey) (solQuantity : UInt64) (priceMaximumAge : Int64)
      (coefficient maxDiscountRate minDiscountRate : UInt64)
  | updateConfigurationRegistry (input : ConfigurationRegistryInput)
  | setFillsConsumer (newConsumer : Pubkey)
  | addToDenyList (address : Pubkey)
  | removeFromDenyList (address : Pubkey)
  | setAdmin (newAdmin : Pubkey)
  | setDenyListAuthority (newAuthority : Pubkey)
  | toggleSystemState (setTo : Bool)
  | buySol (bidPrice : UInt64) (oraclePriceData : OraclePriceData)
  | getConversionRate (oraclePriceData : OraclePriceData)
  | dequeueFills (maxSolAmount : UInt64)
  deriving DecidableEq

/-- The argument decoder of an instruction. -/
def Method.deserialize : Method → Reader Arguments
  | .initializeSystem => do
      let oraclePubkey ← pubkey.decode
      let solQuantity ← u64.decode
      let priceMaximumAge ← i64.decode
      let coefficient ← u64.decode
      let maxDiscountRate ← u64.decode
      let minDiscountRate ← u64.decode
      return .initializeSystem oraclePubkey solQuantity priceMaximumAge coefficient
        maxDiscountRate minDiscountRate
  | .updateConfigurationRegistry => do
      let input ← ConfigurationRegistryInput.deserialize
      return .updateConfigurationRegistry input
  | .setFillsConsumer => do
      let newConsumer ← pubkey.decode
      return .setFillsConsumer newConsumer
  | .addToDenyList => do
      let address ← pubkey.decode
      return .addToDenyList address
  | .removeFromDenyList => do
      let address ← pubkey.decode
      return .removeFromDenyList address
  | .setAdmin => do
      let newAdmin ← pubkey.decode
      return .setAdmin newAdmin
  | .setDenyListAuthority => do
      let newAuthority ← pubkey.decode
      return .setDenyListAuthority newAuthority
  | .toggleSystemState => do
      let setTo ← bool.decode
      return .toggleSystemState setTo
  | .buySol => do
      let bidPrice ← u64.decode
      let oraclePriceData ← OraclePriceData.deserialize
      return .buySol bidPrice oraclePriceData
  | .getConversionRate => do
      let oraclePriceData ← OraclePriceData.deserialize
      return .getConversionRate oraclePriceData
  | .dequeueFills => do
      let maxSolAmount ← u64.decode
      return .dequeueFills maxSolAmount

/-- The arguments in instruction data, which start after the eight bytes of the discriminator, and
what is left of the data. -/
def decodeArguments (method : Method) (data : Bytes) : Option (Arguments × Bytes) :=
  method.deserialize (data.drop 8)

def DequeueFillsResult.fields (result : DequeueFillsResult) : Option Bytes :=
  concat [u64.encode result.solDequeued, u64.encode result.token2zDequeued,
    u64.encode result.fillsConsumed]

/-- The return data an instruction sets. -/
def ReturnData.toVec : ReturnData → Option Bytes
  | .none => Option.none
  | .conversionRate rate => u64.encode rate
  | .dequeueFills result => result.fields

end SolConversion.OnChain
