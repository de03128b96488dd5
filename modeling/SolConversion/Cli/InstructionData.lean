import SolConversion.OnChain.Encoding
import SolConversion.OnChain.LocalDeployment

/-!
# Instruction data

The command line tools build instruction data by hand, field after field, or with structures of
their own, and read return data the same way.  The decoders of the program take back exactly the
arguments that were put in.
-/

namespace SolConversion.Cli

open Borsh OnChain

/-- `hash`, which maps a byte string to 32 bytes. -/
abbrev Hash := Bytes → Vector UInt8 32

def initializeSystemInstruction : String := "global:initialize_system"

def setFillsConsumerInstruction : String := "global:set_fills_consumer"

def addToDenyListInstruction : String := "global:add_to_deny_list"

def removeFromDenyListInstruction : String := "global:remove_from_deny_list"

def updateConfigurationRegistryInstruction : String := "global:update_configuration_registry"

def setAdminInstruction : String := "global:set_admin"

def toggleSystemStateInstruction : String := "global:toggle_system_state"

def setDenyListAuthorityInstruction : String := "global:set_deny_list_authority"

def buySolInstruction : String := "global:buy_sol"

def getPriceInstruction : String := "global:get_conversion_rate"

def dequeueFillsInstruction : String := "global:dequeue_fills"

/-- What `init` and `update_config` take from the configuration file. -/
structure AdminConfig where
  oraclePubkey : Pubkey
  solQuantity : UInt64
  priceMaximumAge : Int64
  coefficient : UInt64
  maxDiscountRate : UInt64
  minDiscountRate : UInt64
  deriving DecidableEq

structure ConfigurationRegistryInput where
  oraclePubkey : Option Pubkey
  solQuantity : Option UInt64
  priceMaximumAge : Option Int64
  coefficient : Option UInt64
  maxDiscountRate : Option UInt64
  minDiscountRate : Option UInt64
  deriving DecidableEq

/-- The answer of the price oracle. -/
structure OraclePriceData where
  swapRate : UInt64
  timestamp : Int64
  signature : String
  deriving DecidableEq

structure DequeueFillsResult where
  solDequeued : UInt64
  token2zDequeued : UInt64
  fillsConsumed : UInt64
  deriving DecidableEq

def ConfigurationRegistryInput.tryToVec (input : ConfigurationRegistryInput) : Option Bytes :=
  concat [(option pubkey).encode input.oraclePubkey, (option u64).encode input.solQuantity,
    (option i64).encode input.priceMaximumAge, (option u64).encode input.coefficient,
    (option u64).encode input.maxDiscountRate, (option u64).encode input.minDiscountRate]

def OraclePriceData.tryToVec (price : OraclePriceData) : Option Bytes :=
  concat [u64.encode price.swapRate, i64.encode price.timestamp, string.encode price.signature]

/-- `u64::to_le_bytes` -/
def u64LeBytes (value : UInt64) : Bytes := littleEndian 8 value.toNat

/-- `i64::to_le_bytes` -/
def i64LeBytes (value : Int64) : Bytes := littleEndian 8 value.toUInt64.toNat

/-- `Pubkey::to_bytes` -/
def pubkeyBytes (key : Pubkey) : Bytes := littleEndian 32 key.toNat

/-- The first eight bytes of a hash. -/
def discriminator (hash : Hash) (name : String) : Bytes := (hash (utf8 name)).toList.take 8

/-- `validate_and_extract_user_input` -/
def validateAndExtractUserInput (activate pause : Bool) : Option Bool :=
  if activate && pause then none
  else if activate then some false
  else if pause then some true
  else none

/-- `init` -/
def init (hash : Hash) (config : AdminConfig) : Bytes :=
  [discriminator hash initializeSystemInstruction, pubkeyBytes config.oraclePubkey,
    u64LeBytes config.solQuantity, i64LeBytes config.priceMaximumAge,
    u64LeBytes config.coefficient, u64LeBytes config.maxDiscountRate,
    u64LeBytes config.minDiscountRate].flatten

/-- The data of `update_config` for any input. -/
def updateConfigurationRegistry (hash : Hash) (input : ConfigurationRegistryInput) :
    Option Bytes := do
  let arguments ← input.tryToVec
  return [discriminator hash updateConfigurationRegistryInstruction, arguments].flatten

/-- The input of `update_config` carries every value of the configuration file. -/
def AdminConfig.input (config : AdminConfig) : ConfigurationRegistryInput where
  oraclePubkey := some config.oraclePubkey
  solQuantity := some config.solQuantity
  priceMaximumAge := some config.priceMaximumAge
  coefficient := some config.coefficient
  maxDiscountRate := some config.maxDiscountRate
  minDiscountRate := some config.minDiscountRate

/-- `update_config` -/
def updateConfig (hash : Hash) (config : AdminConfig) : Option Bytes :=
  updateConfigurationRegistry hash config.input

/-- `change_fills_consumer` -/
def changeFillsConsumer (hash : Hash) (fillsConsumer : Pubkey) : Bytes :=
  discriminator hash setFillsConsumerInstruction ++ pubkeyBytes fillsConsumer

/-- `add_to_deny_list` -/
def addToDenyList (hash : Hash) (address : Pubkey) : Bytes :=
  discriminator hash addToDenyListInstruction ++ pubkeyBytes address

/-- `remove_from_deny_list` -/
def removeFromDenyList (hash : Hash) (address : Pubkey) : Bytes :=
  discriminator hash removeFromDenyListInstruction ++ pubkeyBytes address

/-- `set_admin` -/
def setAdmin (hash : Hash) (admin : Pubkey) : Bytes :=
  [discriminator hash setAdminInstruction, pubkeyBytes admin].flatten

/-- `set_deny_authority` -/
def setDenyAuthority (hash : Hash) (authority : Pubkey) : Bytes :=
  [discriminator hash setDenyListAuthorityInstruction, pubkeyBytes authority].flatten

/-- `toggle_system_state` -/
def toggleSystemState (hash : Hash) (activate pause : Bool) : Option Bytes := do
  let setTo ← validateAndExtractUserInput activate pause
  return [discriminator hash toggleSystemStateInstruction, [setTo.toUInt8]].flatten

/-- `buy_sol` -/
def buySol (hash : Hash) (bidPrice : UInt64) (oraclePriceData : OraclePriceData) :
    Option Bytes := do
  let price ← oraclePriceData.tryToVec
  return [discriminator hash buySolInstruction, u64LeBytes bidPrice, price].flatten

/-- `get_price` -/
def getPrice (hash : Hash) (oraclePriceData : OraclePriceData) : Option Bytes := do
  let price ← oraclePriceData.tryToVec
  return [discriminator hash getPriceInstruction, price].flatten

/-- `dequeue_fills` -/
def dequeueFills (hash : Hash) (maxSolValue : UInt64) : Bytes :=
  [discriminator hash dequeueFillsInstruction, u64LeBytes maxSolValue].flatten

/-- `ReturnData` of `u64`: the slice has to be eight bytes long. -/
def u64ReturnData (data : Bytes) : Option UInt64 :=
  if data.length = 8 then some (UInt64.ofNat (ofLittleEndian data)) else none

def DequeueFillsResult.deserialize : Reader DequeueFillsResult := do
  let solDequeued ← u64.decode
  let token2zDequeued ← u64.decode
  let fillsConsumed ← u64.decode
  return { solDequeued, token2zDequeued, fillsConsumed }

/-- `ReturnData` of `DequeueFillsResult` -/
def dequeueFillsReturnData (data : Bytes) : Option DequeueFillsResult :=
  (DequeueFillsResult.deserialize data).map Prod.fst

def ConfigurationRegistryInput.toProgram (input : ConfigurationRegistryInput) :
    OnChain.ConfigurationRegistryInput where
  oraclePubkey := input.oraclePubkey
  solQuantity := input.solQuantity
  priceMaximumAge := input.priceMaximumAge
  coefficient := input.coefficient
  maxDiscountRate := input.maxDiscountRate
  minDiscountRate := input.minDiscountRate

def OraclePriceData.toProgram (price : OraclePriceData) : OnChain.OraclePriceData where
  swapRate := price.swapRate
  timestamp := price.timestamp
  signature := price.signature

def DequeueFillsResult.ofProgram (result : OnChain.DequeueFillsResult) : DequeueFillsResult where
  solDequeued := result.solDequeued
  token2zDequeued := result.token2zDequeued
  fillsConsumed := result.fillsConsumed

/-- The commands that send an instruction, with what they were given, and the update of any
parameters. -/
inductive Command
  | init (config : AdminConfig)
  | updateConfig (config : AdminConfig)
  | updateConfigurationRegistry (input : ConfigurationRegistryInput)
  | changeFillsConsumer (fillsConsumer : Pubkey)
  | addToDenyList (address : Pubkey)
  | removeFromDenyList (address : Pubkey)
  | setAdmin (admin : Pubkey)
  | setDenyAuthority (authority : Pubkey)
  | toggleSystemState (activate pause : Bool)
  | buySol (bidPrice : UInt64) (oraclePriceData : OraclePriceData)
  | getPrice (oraclePriceData : OraclePriceData)
  | dequeueFills (maxSolValue : UInt64)

namespace Command

/-- The instruction data of a command. -/
def data (hash : Hash) : Command → Option Bytes
  | .init config => some (Cli.init hash config)
  | .updateConfig config => Cli.updateConfig hash config
  | .updateConfigurationRegistry input => Cli.updateConfigurationRegistry hash input
  | .changeFillsConsumer fillsConsumer => some (Cli.changeFillsConsumer hash fillsConsumer)
  | .addToDenyList address => some (Cli.addToDenyList hash address)
  | .removeFromDenyList address => some (Cli.removeFromDenyList hash address)
  | .setAdmin admin => some (Cli.setAdmin hash admin)
  | .setDenyAuthority authority => some (Cli.setDenyAuthority hash authority)
  | .toggleSystemState activate pause => Cli.toggleSystemState hash activate pause
  | .buySol bidPrice oraclePriceData => Cli.buySol hash bidPrice oraclePriceData
  | .getPrice oraclePriceData => Cli.getPrice hash oraclePriceData
  | .dequeueFills maxSolValue => some (Cli.dequeueFills hash maxSolValue)

/-- The instruction a command is for. -/
def method : Command → Method
  | .init _ => .initializeSystem
  | .updateConfig _ => .updateConfigurationRegistry
  | .updateConfigurationRegistry _ => .updateConfigurationRegistry
  | .changeFillsConsumer _ => .setFillsConsumer
  | .addToDenyList _ => .addToDenyList
  | .removeFromDenyList _ => .removeFromDenyList
  | .setAdmin _ => .setAdmin
  | .setDenyAuthority _ => .setDenyListAuthority
  | .toggleSystemState _ _ => .toggleSystemState
  | .buySol _ _ => .buySol
  | .getPrice _ => .getConversionRate
  | .dequeueFills _ => .dequeueFills

/-- The arguments the program should receive.  Toggling takes exactly one of its two flags. -/
def arguments : Command → Option Arguments
  | .init config => some <| .initializeSystem config.oraclePubkey config.solQuantity
      config.priceMaximumAge config.coefficient config.maxDiscountRate config.minDiscountRate
  | .updateConfig config => some (.updateConfigurationRegistry config.input.toProgram)
  | .updateConfigurationRegistry input => some (.updateConfigurationRegistry input.toProgram)
  | .changeFillsConsumer fillsConsumer => some (.setFillsConsumer fillsConsumer)
  | .addToDenyList address => some (.addToDenyList address)
  | .removeFromDenyList address => some (.removeFromDenyList address)
  | .setAdmin admin => some (.setAdmin admin)
  | .setDenyAuthority authority => some (.setDenyListAuthority authority)
  | .toggleSystemState true false => some (.toggleSystemState false)
  | .toggleSystemState false true => some (.toggleSystemState true)
  | .toggleSystemState _ _ => none
  | .buySol bidPrice oraclePriceData => some (.buySol bidPrice oraclePriceData.toProgram)
  | .getPrice oraclePriceData => some (.getConversionRate oraclePriceData.toProgram)
  | .dequeueFills maxSolValue => some (.dequeueFills maxSolValue)

/-- The text of the signature is short enough for its length field. -/
def Fits : Command → Prop
  | .buySol _ oraclePriceData => (utf8 oraclePriceData.signature).length < 2 ^ 32
  | .getPrice oraclePriceData => (utf8 oraclePriceData.signature).length < 2 ^ 32
  | _ => True

end Command

/-! ## Decoding -/

/-- The program recognizes its instruction and takes the arguments back, with nothing left. -/
structure Decodes (hash : Hash) (method : Method) (data : Bytes) (arguments : Arguments) :
    Prop where
  recognized : data.take 8 = discriminator hash method.name
  decoded : decodeArguments method data = some (arguments, [])

@[simp]
theorem length_discriminator (hash : Hash) (name : String) :
    (discriminator hash name).length = 8 := by
  rw [discriminator, List.length_take, Vector.length_toList]
  rfl

/-- Data is decoded if the bytes after the discriminator are read. -/
theorem decodes_of_reads {hash : Hash} {method : Method} {bytes : Bytes} {arguments : Arguments}
    (reads : Reads method.deserialize bytes arguments) :
    Decodes hash method (discriminator hash method.name ++ bytes) arguments := by
  refine ⟨List.take_left' (length_discriminator ..), ?_⟩
  unfold decodeArguments
  rw [List.drop_left' (length_discriminator ..)]
  exact reads.all

theorem pubkeyBytes_reads (key : Pubkey) : Reads pubkey.decode (pubkeyBytes key) key :=
  pubkey.reads _ _ (pubkey_encode key)

theorem u64LeBytes_reads (value : UInt64) : Reads u64.decode (u64LeBytes value) value :=
  u64.reads _ _ (u64_encode value)

private theorem i64LeBytes_reads (value : Int64) : Reads i64.decode (i64LeBytes value) value :=
  i64.reads _ _ (i64_encode value)

private theorem input_reads {input : ConfigurationRegistryInput} {bytes : Bytes}
    (written : input.tryToVec = some bytes) :
    Reads OnChain.ConfigurationRegistryInput.deserialize bytes input.toProgram :=
  .field written fun _ written => .field written fun _ written => .field written
    fun _ written => .field written fun _ written => .field written fun _ written =>
      .field written fun _ written => .done written

theorem price_reads {price : OraclePriceData} {bytes : Bytes}
    (written : price.tryToVec = some bytes) :
    Reads OnChain.OraclePriceData.deserialize bytes price.toProgram :=
  .field written fun _ written => .field written fun _ written => .field written
    fun _ written => .done written

private theorem init_decodes (hash : Hash) (config : AdminConfig) :
    Decodes hash .initializeSystem (init hash config) (.initializeSystem config.oraclePubkey
      config.solQuantity config.priceMaximumAge config.coefficient config.maxDiscountRate
      config.minDiscountRate) := by
  refine decodes_of_reads ?_
  refine (pubkeyBytes_reads _).bind ((u64LeBytes_reads _).bind ((i64LeBytes_reads _).bind ?_))
  exact (u64LeBytes_reads _).bind ((u64LeBytes_reads _).bind ((u64LeBytes_reads _).bind
    (Reads.pure _)))

theorem update_decodes {hash : Hash} {input : ConfigurationRegistryInput} {data : Bytes}
    (built : updateConfigurationRegistry hash input = some data) :
    Decodes hash .updateConfigurationRegistry data
      (.updateConfigurationRegistry input.toProgram) := by
  obtain ⟨bytes, written, built⟩ := Option.bind_eq_some_iff.mp built
  obtain rfl := Option.some.inj built
  exact decodes_of_reads ((input_reads written).bind (Reads.pure _))

private theorem toggle_decodes {hash : Hash} {activate pause : Bool} {data : Bytes}
    (built : toggleSystemState hash activate pause = some data) :
    ∃ arguments, (Command.toggleSystemState activate pause).arguments = some arguments ∧
      Decodes hash .toggleSystemState data arguments := by
  cases activate <;> cases pause
  · contradiction
  · obtain rfl := Option.some.inj built
    exact ⟨_, rfl, decodes_of_reads ((bool.reads true _ rfl).bind (Reads.pure _))⟩
  · obtain rfl := Option.some.inj built
    exact ⟨_, rfl, decodes_of_reads ((bool.reads false _ rfl).bind (Reads.pure _))⟩
  · contradiction

theorem data_decodes {hash : Hash} {command : Command} {data : Bytes}
    (built : command.data hash = some data) :
    ∃ arguments, command.arguments = some arguments ∧
      Decodes hash command.method data arguments := by
  cases command with
  | init config =>
      obtain rfl := Option.some.inj built
      exact ⟨_, rfl, init_decodes hash config⟩
  | updateConfig config => exact ⟨_, rfl, update_decodes built⟩
  | updateConfigurationRegistry input => exact ⟨_, rfl, update_decodes built⟩
  | changeFillsConsumer fillsConsumer =>
      obtain rfl := Option.some.inj built
      exact ⟨_, rfl, decodes_of_reads ((pubkeyBytes_reads _).last (Reads.pure _))⟩
  | addToDenyList address =>
      obtain rfl := Option.some.inj built
      exact ⟨_, rfl, decodes_of_reads ((pubkeyBytes_reads _).last (Reads.pure _))⟩
  | removeFromDenyList address =>
      obtain rfl := Option.some.inj built
      exact ⟨_, rfl, decodes_of_reads ((pubkeyBytes_reads _).last (Reads.pure _))⟩
  | setAdmin admin =>
      obtain rfl := Option.some.inj built
      exact ⟨_, rfl, decodes_of_reads ((pubkeyBytes_reads _).bind (Reads.pure _))⟩
  | setDenyAuthority authority =>
      obtain rfl := Option.some.inj built
      exact ⟨_, rfl, decodes_of_reads ((pubkeyBytes_reads _).bind (Reads.pure _))⟩
  | toggleSystemState activate pause => exact toggle_decodes built
  | buySol bidPrice oraclePriceData =>
      obtain ⟨bytes, written, built⟩ := Option.bind_eq_some_iff.mp built
      obtain rfl := Option.some.inj built
      refine ⟨_, rfl, decodes_of_reads ?_⟩
      exact (u64LeBytes_reads _).bind ((price_reads written).bind (Reads.pure _))
  | getPrice oraclePriceData =>
      obtain ⟨bytes, written, built⟩ := Option.bind_eq_some_iff.mp built
      obtain rfl := Option.some.inj built
      exact ⟨_, rfl, decodes_of_reads ((price_reads written).bind (Reads.pure _))⟩
  | dequeueFills maxSolValue =>
      obtain rfl := Option.some.inj built
      exact ⟨_, rfl, decodes_of_reads ((u64LeBytes_reads _).bind (Reads.pure _))⟩

theorem isSome_price {price : OraclePriceData} :
    price.tryToVec.isSome ↔ (utf8 price.signature).length < 2 ^ 32 := by
  rw [OraclePriceData.tryToVec, isSome_concat, ← isSome_string]
  simp

private theorem isSome_input (input : ConfigurationRegistryInput) : input.tryToVec.isSome := by
  refine isSome_concat.mpr ?_
  simp only [List.forall_mem_cons, List.not_mem_nil, IsEmpty.forall_iff, implies_true, and_true]
  refine ⟨?_, ?_, ?_, ?_, ?_, ?_⟩ <;> exact isSome_option _ (fun _ => rfl) _

theorem update_built (hash : Hash) (input : ConfigurationRegistryInput) :
    ∃ data, updateConfigurationRegistry hash input = some data := by
  obtain ⟨bytes, written⟩ := Option.isSome_iff_exists.mp (isSome_input input)
  exact ⟨_, by rw [updateConfigurationRegistry, written]; rfl⟩

/-- A command that was given arguments builds data, unless the signature is too long. -/
theorem data_built (hash : Hash) {command : Command} {arguments : Arguments}
    (given : command.arguments = some arguments) (fits : command.Fits) :
    ∃ data, command.data hash = some data := by
  cases command with
  | updateConfig config => exact update_built hash config.input
  | updateConfigurationRegistry input => exact update_built hash input
  | toggleSystemState activate pause =>
      cases activate <;> cases pause
      · contradiction
      · exact ⟨_, rfl⟩
      · exact ⟨_, rfl⟩
      · contradiction
  | buySol bidPrice oraclePriceData =>
      obtain ⟨bytes, written⟩ := Option.isSome_iff_exists.mp (isSome_price.mpr fits)
      exact ⟨_, by rw [Command.data, Cli.buySol, written]; rfl⟩
  | getPrice oraclePriceData =>
      obtain ⟨bytes, written⟩ := Option.isSome_iff_exists.mp (isSome_price.mpr fits)
      exact ⟨_, by rw [Command.data, Cli.getPrice, written]; rfl⟩
  | _ => exact ⟨_, rfl⟩

theorem u64ReturnData_toVec {rate : UInt64} {bytes : Bytes}
    (returned : (ReturnData.conversionRate rate).toVec = some bytes) :
    u64ReturnData bytes = some rate := by
  obtain rfl := Option.some.inj returned
  unfold u64ReturnData
  rw [if_pos (length_littleEndian ..), ofLittleEndian_littleEndian rate.toNat_lt]
  exact congrArg some UInt64.ofNat_toNat

theorem dequeueFillsReturnData_toVec {result : OnChain.DequeueFillsResult} {bytes : Bytes}
    (returned : (ReturnData.dequeueFills result).toVec = some bytes) :
    dequeueFillsReturnData bytes = some (.ofProgram result) := by
  have reads : Reads DequeueFillsResult.deserialize bytes (.ofProgram result) :=
    .field returned fun _ written => .field written fun _ written => .field written
      fun _ written => .done written
  rw [dequeueFillsReturnData, reads.all, Option.map_some]

/-- Every command's instruction data is decoded by the program to the command's arguments with no
byte left, and the return data of the program is decoded to the value it returned. -/
theorem instruction_data_round_trips (hash : Hash) :
    (∀ command data, Command.data hash command = some data →
        ∃ arguments, command.arguments = some arguments ∧
          data.take 8 = (hash (utf8 command.method.name)).toList.take 8 ∧
          decodeArguments command.method data = some (arguments, [])) ∧
      (∀ command arguments, Command.arguments command = some arguments → command.Fits →
        ∃ data, command.data hash = some data) ∧
      (∀ rate, ∃ bytes, (ReturnData.conversionRate rate).toVec = some bytes ∧
        u64ReturnData bytes = some rate) ∧
      ∀ result, ∃ bytes, (ReturnData.dequeueFills result).toVec = some bytes ∧
        dequeueFillsReturnData bytes = some (.ofProgram result) := by
  refine ⟨fun command data built => ?_, fun _ _ => data_built hash, fun rate => ?_,
    fun result => ?_⟩
  · obtain ⟨arguments, given, decodes⟩ := data_decodes built
    exact ⟨arguments, given, decodes.recognized, decodes.decoded⟩
  · exact ⟨_, rfl, u64ReturnData_toVec rfl⟩
  · exact ⟨_, rfl, dequeueFillsReturnData_toVec rfl⟩

end SolConversion.Cli
