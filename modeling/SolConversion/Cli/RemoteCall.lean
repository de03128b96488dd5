import SolConversion.Cli.FixedPoint
import SolConversion.Cli.InstructionData
import SolConversion.Foundation.Base64

/-!
# Calling the program

A tool sends the data of one instruction.  The program finds the instruction by its discriminator,
decodes the arguments and executes it.  The tool then asks a node for the confirmed transaction,
several times if need be, and decodes what the program returned.
-/

namespace SolConversion.Cli

open Borsh Fallible OnChain

/-- The accounts an instruction is sent with. -/
structure CallAccounts extends BuySolAccounts where
  fillsRegistryAddress : Pubkey
  bumpRegistry : OnChain.BumpRegistry

/-- The instruction for some arguments, signed by the one signer. -/
def CallAccounts.instruction (accounts : CallAccounts) : Arguments → Instruction
  | .initializeSystem oraclePubkey solQuantity priceMaximumAge coefficient maxDiscountRate
      minDiscountRate =>
      .initializeSystem
        { authority := accounts.signer
          fillsRegistryAddress := accounts.fillsRegistryAddress
          oraclePubkey, solQuantity, priceMaximumAge, coefficient, maxDiscountRate, minDiscountRate
          bumpRegistry := accounts.bumpRegistry }
  | .updateConfigurationRegistry input => .updateConfigurationRegistry accounts.signer input
  | .setFillsConsumer newConsumer => .setFillsConsumer accounts.signer newConsumer
  | .addToDenyList address => .addToDenyList accounts.signer address
  | .removeFromDenyList address => .removeFromDenyList accounts.signer address
  | .setAdmin newAdmin => .setAdmin accounts.signer newAdmin
  | .setDenyListAuthority newAuthority => .setDenyListAuthority accounts.signer newAuthority
  | .toggleSystemState setTo => .toggleSystemState accounts.signer setTo
  | .buySol bidPrice oraclePriceData =>
      .buySol accounts.toBuySolAccounts bidPrice oraclePriceData
  | .getConversionRate oraclePriceData => .getConversionRate oraclePriceData
  | .dequeueFills maxSolAmount => .dequeueFills accounts.signer maxSolAmount

/-- The instructions in the order in which the program tries them. -/
def methods : List Method :=
  [.initializeSystem, .updateConfigurationRegistry, .setFillsConsumer, .addToDenyList,
    .removeFromDenyList, .setAdmin, .setDenyListAuthority, .toggleSystemState, .buySol,
    .getConversionRate, .dequeueFills]

def dispatch (hash : Hash) (data : Bytes) : Option Method :=
  methods.find? fun method => data.take 8 = discriminator hash method.name

/-- Why data is not executed. -/
inductive EntryFailure
  | instructionFallbackNotFound
  | instructionDidNotDeserialize
  | program (failure : Failure)
  deriving DecidableEq

/-- The program as it is called with some data. -/
def entry (platform : Platform) (hash : Hash) (accounts : CallAccounts) (context : Context)
    (state : ConverterState) (data : Bytes) : Except EntryFailure (ConverterState × Receipt) := do
  let method ← orFail .instructionFallbackNotFound (dispatch hash data)
  let decoded ← orFail .instructionDidNotDeserialize (decodeArguments method data)
  mapFailure .program
    (processInstruction platform state (context, accounts.instruction decoded.1))

/-- The hash tells the names of the instructions apart by its first eight bytes. -/
def Distinguishes (hash : Hash) : Prop :=
  ∀ method other : Method, discriminator hash method.name = discriminator hash other.name →
    method = other

theorem mem_methods (method : Method) : method ∈ methods := by
  cases method <;> decide

/-- Data is dispatched to the instruction it was built for. -/
theorem dispatch_eq_some {hash : Hash} (distinct : Distinguishes hash) {data : Bytes}
    {method : Method} (recognized : data.take 8 = discriminator hash method.name) :
    dispatch hash data = some method := by
  rw [dispatch, List.find?_eq_some_iff_append]
  obtain ⟨earlier, later, methods_eq⟩ := List.append_of_mem (mem_methods method)
  have once : methods.Nodup := by decide
  refine ⟨decide_eq_true recognized, earlier, later, methods_eq, fun other member => ?_⟩
  rw [methods_eq, List.nodup_append] at once
  have different : other ≠ method := once.2.2 other member method List.mem_cons_self
  rw [Bool.not_eq_true', decide_eq_false_iff_not, recognized]
  exact fun same => different (distinct method other same).symm

theorem entry_of_data {platform : Platform} {hash : Hash} (distinct : Distinguishes hash)
    (accounts : CallAccounts) (context : Context) (state : ConverterState) {command : Command}
    {arguments : Arguments} {data : Bytes} (given : command.arguments = some arguments)
    (built : command.data hash = some data) :
    entry platform hash accounts context state data =
      mapFailure .program
        (processInstruction platform state (context, accounts.instruction arguments)) := by
  obtain ⟨sent, sent_eq, decodes⟩ := data_decodes built
  obtain rfl := Option.some.inj (given.symm.trans sent_eq)
  rw [entry, dispatch_eq_some distinct decodes.recognized, orFail_some]
  change (orFail _ (decodeArguments command.method data) >>= _) = _
  rw [decodes.decoded]
  rfl

/-- `RETRY_COUNT` -/
def retryCount : ℕ := 5

/-- The return data in the status of a transaction: the program that set it, and the data in
base64. -/
structure ReturnedData where
  programId : String
  data : String
  deriving DecidableEq

structure StatusMeta where
  returnData : Option ReturnedData
  deriving DecidableEq

/-- What a node answers about a confirmed transaction. -/
structure TransactionStatus where
  statusMeta : Option StatusMeta
  deriving DecidableEq

/-- Why nothing can be shown although the transaction is confirmed. -/
inductive ReturnFailure
  | message (text : String)
  /-- The error of a decoder. -/
  | undecodable
  deriving DecidableEq

section Reading

variable {α : Type} (tryDeserialize : Bytes → Option α) (programId : String)

/-- `extract_return_data` -/
def extractReturnData (txStatus : TransactionStatus) : Except ReturnFailure Bytes :=
  match txStatus.statusMeta with
  | some statusMeta =>
      match statusMeta.returnData with
      | some data =>
          if data.programId = programId then orFail .undecodable (Base64.decode data.data)
          else .error (.message "Deserialization error")
      | none => .error (.message "Deserialization error")
  | none => .error (.message "Deserialization error")

/-- The status of a transaction as the tool reads it. -/
def readStatus (txStatus : TransactionStatus) : Except ReturnFailure α := do
  let returnData ← extractReturnData programId txStatus
  orFail .undecodable (tryDeserialize returnData)

/-- The attempts to get the transaction from `attempt` on: the first answer decides. -/
def awaitReturnData (responses : ℕ → Option TransactionStatus) :
    ℕ → ℕ → Except ReturnFailure α
  | 0, _ => .error (.message "Deserialization error")
  | left + 1, attempt =>
      match responses attempt with
      | some txStatus => readStatus tryDeserialize programId txStatus
      | none => awaitReturnData responses left (attempt + 1)

/-- The status of a transaction whose one instruction returned something. -/
def landedStatus (returned : ReturnData) : TransactionStatus :=
  ⟨some ⟨returned.toVec.map fun data => ⟨programId, Base64.encode data⟩⟩⟩

/-- A node answers once it knows the transaction. -/
def nodeResponses (knows : ℕ → Bool) (txStatus : TransactionStatus) (attempt : ℕ) :
    Option TransactionStatus :=
  if knows attempt then some txStatus else none

variable {tryDeserialize programId}

private theorem readStatus_landed {returned : ReturnData} {bytes : Bytes} {value : α}
    (written : returned.toVec = some bytes) (decoded : tryDeserialize bytes = some value) :
    readStatus tryDeserialize programId (landedStatus programId returned) = .ok value := by
  simp [readStatus, extractReturnData, landedStatus, written, Base64.decode_encode, decoded]

private theorem known_later {knows : ℕ → Bool} {left attempt : ℕ} (silent : ¬knows attempt) :
    (∃ later < left + 1, knows (attempt + later)) ↔
      ∃ later < left, knows (attempt + 1 + later) := by
  constructor
  · rintro ⟨later, later_lt, known⟩
    cases later with
    | zero => exact absurd known silent
    | succ later =>
        rw [← Nat.add_assoc, Nat.add_right_comm] at known
        exact ⟨later, Nat.lt_of_succ_lt_succ later_lt, known⟩
  · rintro ⟨later, later_lt, known⟩
    rw [Nat.add_right_comm, Nat.add_assoc] at known
    exact ⟨later + 1, Nat.succ_lt_succ later_lt, known⟩

private theorem awaitReturnData_eq (knows : ℕ → Bool) (txStatus : TransactionStatus)
    (left attempt : ℕ) :
    awaitReturnData tryDeserialize programId (nodeResponses knows txStatus) left attempt =
      if ∃ later < left, knows (attempt + later) then
        readStatus tryDeserialize programId txStatus
      else .error (.message "Deserialization error") := by
  induction left generalizing attempt with
  | zero =>
      rw [if_neg (by simp)]
      rfl
  | succ left ih =>
      rw [awaitReturnData, nodeResponses]
      by_cases known : knows attempt
      · rw [if_pos known, if_pos ⟨0, Nat.succ_pos left, known⟩]
      · rw [if_neg known]
        simp only [ih, known_later known]

end Reading

/-- Why a command shows nothing. -/
inductive CommandFailure
  /-- The document of the oracle is not read, or no data is built from it. -/
  | unreadable
  | amount (failure : AmountFailure)
  /-- The transaction fails. -/
  | rejected (failure : EntryFailure)
  | returned (failure : ReturnFailure)
  deriving DecidableEq

/-- A tool with what it is configured with. -/
structure Tool where
  library : DecimalFormat.Library
  hash : Hash
  programId : String
  accounts : CallAccounts

/-- The transaction is known at one of the attempts. -/
def KnownInTime (knows : ℕ → Bool) : Prop := ∃ attempt < retryCount, knows attempt

instance (knows : ℕ → Bool) : Decidable (KnownInTime knows) :=
  inferInstanceAs (Decidable (∃ attempt < retryCount, knows attempt))

/-- `send_instruction_with_return_data`: what the tool reads, and the state behind the transaction,
which stays as it is if the transaction fails. -/
def sendInstructionWithReturnData {α : Type} (tryDeserialize : Bytes → Option α)
    (programId : String) (knows : ℕ → Bool) (state : ConverterState)
    (executed : Except EntryFailure (ConverterState × Receipt)) :
    Except CommandFailure α × ConverterState :=
  match executed with
  | .error failure => (.error (.rejected failure), state)
  | .ok (next, receipt) =>
      (mapFailure .returned (awaitReturnData tryDeserialize programId
        (nodeResponses knows (landedStatus programId receipt.returned)) retryCount 0), next)

/-- A confirmed transaction is read if it is known in time, and an error is shown otherwise. -/
theorem sendInstructionWithReturnData_ok {α : Type} {tryDeserialize : Bytes → Option α}
    {programId : String} {knows : ℕ → Bool} {state next : ConverterState} {receipt : Receipt}
    {bytes : Bytes} {value : α} (written : receipt.returned.toVec = some bytes)
    (decoded : tryDeserialize bytes = some value) :
    sendInstructionWithReturnData tryDeserialize programId knows state (.ok (next, receipt)) =
      (if KnownInTime knows then .ok value
        else .error (.returned (.message "Deserialization error")), next) := by
  simp only [sendInstructionWithReturnData, awaitReturnData_eq, readStatus_landed written decoded,
    Nat.zero_add]
  change (mapFailure _ (if KnownInTime knows then _ else _), next) = _
  by_cases known : KnownInTime knows
  · rw [if_pos known, if_pos known]
    rfl
  · rw [if_neg known, if_neg known]
    rfl

/-- The SHA-256 digests of the names, as numbers with the first byte in the lowest place. -/
def nameDigest : Method → ℕ
  | .initializeSystem => 0x4615ec2fd95ed2c4db854cb3706d5f10e13f8e3afdfe0c7968d23ca8cf8ad32
  | .updateConfigurationRegistry =>
      0x9a5bafe0ae3ebc162f9d61845d96db61686869dd47f0a724df9977ec368583e0
  | .setFillsConsumer => 0x15f96b6e0bd1cbfe842800efb7dd21944958db6750078cc5de2378ce366a5491
  | .addToDenyList => 0x9cc36d1223c2667778f44deed0c7fd3ffe9b1d5b782aff9220c69be23cb219ba
  | .removeFromDenyList => 0x9e61520dcc8c04c56da9f81b517f539a0cb176076bb314ec1beab5d969b18365
  | .setAdmin => 0x70fef3ffa00ff3c51dedf5fff5ebd59b1b51fadb8d2876225cbbc25b3400a3fb
  | .setDenyListAuthority => 0x3e814b249c20ba3a9b0521a5716356dffee926c25875c045684f6d48270df8bb
  | .toggleSystemState => 0x6ce365dad1f169d561d285bac1143f47c28cd4cb381147dd97b2b0a826532899
  | .buySol => 0x5a6da2606fe0286567ce255427fd3f1162659969a8bd39ca316ff8ca1e7d3bce
  | .getConversionRate => 0xaff8362c7a88df72c299988b4ff1ff5aa4da2c1800f6e3cfb0460fd05530f03c
  | .dequeueFills => 0x3fbec8a31998274ae16d3ca1d499b787a836c13f679f48233d885fae0c064592

/-- SHA-256 on the names of the instructions. -/
def nameHash : Hash := fun text =>
  let digest := (methods.find? fun method => utf8 method.name = text).elim 0 nameDigest
  ⟨(littleEndian 32 digest).toArray, length_littleEndian ..⟩

theorem distinguishes_nameHash : Distinguishes nameHash := by
  have distinct : ∀ method ∈ methods, ∀ other ∈ methods,
      discriminator nameHash method.name = discriminator nameHash other.name → method = other := by
    decide +kernel
  exact fun method other => distinct method (mem_methods method) other (mem_methods other)

/-- A tool of the buyer. -/
def buyerTool : Tool where
  library := DecimalFormat.nearestLibrary
  hash := nameHash
  programId := "YrQk4TE5Bi6Hsi4u2LbBNwjZUWEaSUaCDJdapJbCE4z"
  accounts :=
    { Local.buyAccounts with
      fillsRegistryAddress := 0x46#256
      bumpRegistry := ⟨255, 253, 255, 255⟩ }

end SolConversion.Cli
