import SolConversion.OnChain.Encoding
import SolConversion.OnChain.LocalDeployment

/-!
# The account mirrors

The command line tools decode the accounts of the program with structures of their own.  The mirror
of the bump registry lacks the last bump, so what follows it in the program state is read one byte
early.
-/

namespace SolConversion.Cli

open Borsh OnChain

structure ConfigurationRegistry where
  oraclePubkey : Pubkey
  solQuantity : UInt64
  priceMaximumAge : Int64
  fillsConsumer : Pubkey
  coefficient : UInt64
  maxDiscountRate : UInt64
  minDiscountRate : UInt64
  deriving DecidableEq

structure BumpRegistry where
  configurationRegistryBump : UInt8
  programStateBump : UInt8
  denyListRegistryBump : UInt8
  deriving DecidableEq

structure ProgramStateAccount where
  admin : Pubkey
  fillsRegistryAddress : Pubkey
  /-- Indicates whether the system accepts conversion requests. -/
  isHalted : Bool
  bumpRegistry : BumpRegistry
  lastTradeSlot : UInt64
  denyListAuthority : Pubkey
  deriving DecidableEq

def ConfigurationRegistry.deserialize : Reader ConfigurationRegistry := do
  let oraclePubkey ← pubkey.decode
  let solQuantity ← u64.decode
  let priceMaximumAge ← i64.decode
  let fillsConsumer ← pubkey.decode
  let coefficient ← u64.decode
  let maxDiscountRate ← u64.decode
  let minDiscountRate ← u64.decode
  return { oraclePubkey, solQuantity, priceMaximumAge, fillsConsumer, coefficient,
           maxDiscountRate, minDiscountRate }

def BumpRegistry.deserialize : Reader BumpRegistry := do
  let configurationRegistryBump ← u8.decode
  let programStateBump ← u8.decode
  let denyListRegistryBump ← u8.decode
  return { configurationRegistryBump, programStateBump, denyListRegistryBump }

def ProgramStateAccount.deserialize : Reader ProgramStateAccount := do
  let admin ← pubkey.decode
  let fillsRegistryAddress ← pubkey.decode
  let isHalted ← bool.decode
  let bumpRegistry ← BumpRegistry.deserialize
  let lastTradeSlot ← u64.decode
  let denyListAuthority ← pubkey.decode
  return { admin, fillsRegistryAddress, isHalted, bumpRegistry, lastTradeSlot,
           denyListAuthority }

/-- `get_account_data`, once the data is there: `try_deserialize` slices the discriminator off,
which panics if there is less, and ignores what follows the fields. -/
def getAccountData {α : Type} (deserialize : Reader α) (data : Bytes) : Option α :=
  if data.length < 8 then none
  else (deserialize (data.drop 8)).map Prod.fst

/-- What `view_deny_list` shows of an account. -/
inductive DenyListView
  /-- `Account data too small, registry may not be initialized properly` -/
  | tooSmall
  /-- `Invalid account data format` -/
  | invalidFormat
  /-- The addresses, and whether `[Data truncated]` stands after them. -/
  | addresses (listed : List Pubkey) (truncated : Bool)
  deriving DecidableEq

/-- The loop over the entries from an offset on. -/
def denyListEntries (data : Bytes) : ℕ → ℕ → List Pubkey × Bool
  | 0, _ => ([], false)
  | remaining + 1, offset =>
      if offset + 32 ≤ data.length then
        let pubkeyBytes := (data.drop offset).take 32
        let pubkey := BitVec.ofNat 256 (ofLittleEndian pubkeyBytes)
        let (later, truncated) := denyListEntries data remaining (offset + 32)
        (pubkey :: later, truncated)
      else ([], true)

/-- `view_deny_list` -/
def viewDenyList (accountData : Bytes) : DenyListView :=
  if accountData.length < 16 then .tooSmall
  else
    let data := accountData.drop 8
    if data.length < 4 then .invalidFormat
    else
      let vecLen := ofLittleEndian (data.take 4)
      let (listed, truncated) := denyListEntries data vecLen 4
      .addresses listed truncated

def ConfigurationRegistry.ofProgram (registry : OnChain.ConfigurationRegistry) :
    ConfigurationRegistry where
  oraclePubkey := registry.oraclePubkey
  solQuantity := registry.solQuantity
  priceMaximumAge := registry.priceMaximumAge
  fillsConsumer := registry.fillsConsumer
  coefficient := registry.coefficient
  maxDiscountRate := registry.maxDiscountRate
  minDiscountRate := registry.minDiscountRate

def BumpRegistry.ofProgram (registry : OnChain.BumpRegistry) : BumpRegistry where
  configurationRegistryBump := registry.configurationRegistryBump
  programStateBump := registry.programStateBump
  denyListRegistryBump := registry.denyListRegistryBump

def ProgramStateAccount.ofProgram (account : OnChain.ProgramStateAccount) :
    ProgramStateAccount where
  admin := account.admin
  fillsRegistryAddress := account.fillsRegistryAddress
  isHalted := account.isHalted
  bumpRegistry := .ofProgram account.bumpRegistry
  lastTradeSlot := account.lastTradeSlot
  denyListAuthority := account.denyListAuthority

theorem getAccountData_eq_some {α : Type} {deserialize : Reader α} {value : α}
    {discriminator : Discriminator} {fields : Bytes} :
    getAccountData deserialize (discriminator.toList ++ fields) = some value ↔
      ∃ rest, deserialize fields = some (value, rest) := by
  have length : discriminator.toList.length = 8 := discriminator.length_toList
  unfold getAccountData
  rw [if_neg (by rw [List.length_append, length]; omega), List.drop_left' length,
    Option.map_eq_some_iff]
  constructor
  · rintro ⟨⟨value, rest⟩, decoded, rfl⟩
    exact ⟨rest, decoded⟩
  · rintro ⟨rest, decoded⟩
    exact ⟨_, decoded, rfl⟩

private theorem configurationRegistry_mirrored {registry : OnChain.ConfigurationRegistry}
    {data : Bytes}
    (stored : Stores data registry.fields) :
    getAccountData ConfigurationRegistry.deserialize data = some (.ofProgram registry) := by
  obtain ⟨discriminator, bytes, trailing, written, rfl⟩ := stored
  refine getAccountData_eq_some.mpr ⟨trailing, ?_⟩
  have reads : Reads ConfigurationRegistry.deserialize bytes (.ofProgram registry) :=
    .field written fun _ written => .field written fun _ written => .field written
      fun _ written => .field written fun _ written => .field written fun _ written =>
        .field written fun _ written => .field written fun _ written => .done written
  exact reads trailing

private theorem denyListEntries_eq {keys : List Pubkey} {bytes data trailing : Bytes} {offset : ℕ}
    (written : encodeAll pubkey keys = some bytes) (entries : data.drop offset = bytes ++ trailing)
    (inside : offset ≤ data.length) :
    denyListEntries data keys.length offset = (keys, false) := by
  induction keys generalizing bytes offset with
  | nil => rfl
  | cons key keys ih =>
      obtain ⟨head, tail, headWritten, tailWritten, rfl⟩ := append_eq_some.mp written
      obtain rfl := Option.some.inj headWritten
      have length_eq := congrArg List.length entries
      simp only [List.length_drop, List.length_append, length_littleEndian] at length_eq
      have room : offset + 32 ≤ data.length := by omega
      have entry : (data.drop offset).take 32 = littleEndian 32 key.toNat := by
        rw [entries, List.append_assoc, List.take_left' (length_littleEndian ..)]
      have others : data.drop (offset + 32) = tail ++ trailing := by
        rw [← List.drop_drop, entries, List.append_assoc,
          List.drop_left' (length_littleEndian ..)]
      have fits : key.toNat < 256 ^ 32 := by
        rw [show 256 ^ 32 = 2 ^ 256 by norm_num]
        exact key.isLt
      have key_eq : BitVec.ofNat 256 (ofLittleEndian (littleEndian 32 key.toNat)) = key := by
        rw [ofLittleEndian_littleEndian fits, BitVec.ofNat_toNat, BitVec.setWidth_eq]
      rw [List.length_cons, denyListEntries, if_pos room, ih tailWritten others room, entry]
      simp only [key_eq]

private theorem denyList_viewed {registry : DenyListRegistry} {data : Bytes}
    (stored : Stores data registry.fields) :
    viewDenyList data = .addresses registry.deniedAddresses false := by
  obtain ⟨discriminator, bytes, trailing, written, rfl⟩ := stored
  obtain ⟨list, others, listWritten, othersWritten, rfl⟩ := append_eq_some.mp written
  obtain ⟨length, entries, lengthWritten, entriesWritten, rfl⟩ := append_eq_some.mp listWritten
  unfold encodeLength at lengthWritten
  split_ifs at lengthWritten with fits
  obtain rfl := Option.some.inj lengthWritten
  set count := registry.deniedAddresses.length
  set data := littleEndian 4 count ++ entries ++ others ++ trailing with data_eq
  have size : 20 ≤ data.length := by
    simp only [concat_cons, concat_nil, i64_encode, u64_encode, append_some] at othersWritten
    obtain rfl := Option.some.inj othersWritten
    simp only [data_eq, List.length_append, length_littleEndian]
    omega
  have listed : denyListEntries data count 4 = (registry.deniedAddresses, false) := by
    have dropped : data.drop 4 = entries ++ (others ++ trailing) := by
      rw [data_eq, List.append_assoc, List.append_assoc, List.drop_left' (length_littleEndian ..)]
    exact denyListEntries_eq entriesWritten dropped (by omega)
  have vecLen : ofLittleEndian (data.take 4) = count := by
    rw [data_eq, List.append_assoc, List.append_assoc, List.take_left' (length_littleEndian ..),
      ofLittleEndian_littleEndian (by rwa [show 256 ^ 4 = 2 ^ 32 by norm_num])]
  unfold viewDenyList
  rw [if_neg (by rw [List.length_append, discriminator.length_toList]; omega),
    List.drop_left' discriminator.length_toList]
  simp only [if_neg (show ¬data.length < 4 by omega), vecLen, listed]

/-- Bytes that come one byte early repeat that byte. -/
theorem early_iff {bytes trailing : Bytes} {byte : UInt8} :
    (∃ rest, byte :: (bytes ++ trailing) = bytes ++ rest) ↔ ∀ other ∈ bytes, other = byte := by
  induction bytes generalizing byte with
  | nil => simp
  | cons next bytes ih =>
      simp only [List.cons_append, List.cons.injEq, exists_and_left, List.forall_mem_cons, ih,
        eq_comm (a := byte)]
      exact and_congr_right fun same => by rw [same]

/-- The bytes in front of the bump that the mirror lacks. -/
def firstFields (account : OnChain.ProgramStateAccount) : Bytes :=
  littleEndian 32 account.admin.toNat ++
    (littleEndian 32 account.fillsRegistryAddress.toNat ++
      ([if account.isHalted then 1 else 0] ++
        [account.bumpRegistry.configurationRegistryBump, account.bumpRegistry.programStateBump,
          account.bumpRegistry.denyListRegistryBump]))

/-- The bytes of the last two fields of the program state. -/
def lastFields (account : OnChain.ProgramStateAccount) : Bytes :=
  littleEndian 8 account.lastTradeSlot.toNat ++ littleEndian 32 account.denyListAuthority.toNat

/-- The bump that the mirror lacks stands between the fields. -/
theorem programState_fields (account : OnChain.ProgramStateAccount) :
    account.fields = some (firstFields account ++
      (account.bumpRegistry.withdrawAuthorityBump :: lastFields account)) := by
  simp [ProgramStateAccount.fields, OnChain.BumpRegistry.fields, firstFields, lastFields]

/-- What the mirror reads after the bumps it knows. -/
def ProgramStateAccount.deserializeLast (account : OnChain.ProgramStateAccount) :
    Reader ProgramStateAccount := do
  let lastTradeSlot ← u64.decode
  let denyListAuthority ← pubkey.decode
  return { ProgramStateAccount.ofProgram account with lastTradeSlot, denyListAuthority }

theorem deserialize_firstFields (account : OnChain.ProgramStateAccount) (rest : Bytes) :
    ProgramStateAccount.deserialize (firstFields account ++ rest) =
      ProgramStateAccount.deserializeLast account rest := by
  have bumps : Reads BumpRegistry.deserialize [account.bumpRegistry.configurationRegistryBump,
      account.bumpRegistry.programStateBump, account.bumpRegistry.denyListRegistryBump]
      (.ofProgram account.bumpRegistry) :=
    (u8_reads _).bind ((u8_reads _).bind ((u8_reads _).last (Reads.pure _)))
  unfold ProgramStateAccount.deserialize firstFields
  rw [List.append_assoc, List.append_assoc, List.append_assoc,
    (pubkey.reads _ _ (pubkey_encode _)).bind_apply,
    (pubkey.reads _ _ (pubkey_encode _)).bind_apply,
    (bool.reads _ _ (bool_encode _)).bind_apply, bumps.bind_apply]
  rfl

/-- The last fields are read as they were stored if and only if their bytes come next. -/
theorem deserializeLast_eq_some {account : OnChain.ProgramStateAccount} {input rest : Bytes} :
    ProgramStateAccount.deserializeLast account input =
        some (ProgramStateAccount.ofProgram account, rest) ↔
      input = lastFields account ++ rest := by
  constructor
  · intro decoded
    obtain ⟨⟨lastTradeSlot, left⟩, slotDecoded, decoded⟩ := Option.bind_eq_some_iff.mp decoded
    obtain ⟨⟨denyListAuthority, left'⟩, authorityDecoded, decoded⟩ :=
      Option.bind_eq_some_iff.mp decoded
    obtain ⟨same, rfl⟩ := Prod.mk.inj (Option.some.inj decoded)
    obtain ⟨-, -, -, -, rfl, rfl⟩ := ProgramStateAccount.mk.inj same
    obtain ⟨slotBytes, slotWritten, rfl⟩ := canonical_u64 _ _ _ slotDecoded
    obtain ⟨authorityBytes, authorityWritten, rfl⟩ := canonical_pubkey _ _ _ authorityDecoded
    obtain rfl := Option.some.inj slotWritten
    obtain rfl := Option.some.inj authorityWritten
    exact (List.append_assoc ..).symm
  · rintro rfl
    unfold ProgramStateAccount.deserializeLast lastFields
    rw [List.append_assoc, (u64.reads _ _ (u64_encode _)).bind_apply,
      (pubkey.reads _ _ (pubkey_encode _)).bind_apply]
    rfl

/-- The mirror of the program state shows what the program stored if and only if all bytes of the
last two fields equal the bump that the mirror lacks. -/
theorem programState_mirrored_iff {account : OnChain.ProgramStateAccount} {data : Bytes}
    (stored : Stores data account.fields) :
    getAccountData ProgramStateAccount.deserialize data = some (.ofProgram account) ↔
      ∀ byte ∈ lastFields account, byte = account.bumpRegistry.withdrawAuthorityBump := by
  obtain ⟨discriminator, bytes, trailing, written, rfl⟩ := stored
  rw [programState_fields] at written
  obtain rfl := Option.some.inj written
  simp only [getAccountData_eq_some, List.append_assoc, List.cons_append, deserialize_firstFields,
    deserializeLast_eq_some]
  exact early_iff

/-- The mirrors of the configuration registry and of the deny list always show what the program
stored.  The mirror of the program state does so if and only if every byte of the last trade slot
and of the deny list authority equals the withdraw authority bump. -/
theorem accounts_mirrored_iff {account : OnChain.ProgramStateAccount}
    {configuration : OnChain.ConfigurationRegistry} {denyList : DenyListRegistry}
    {accountData configurationData denyListData : Bytes}
    (accountStored : Stores accountData account.fields)
    (configurationStored : Stores configurationData configuration.fields)
    (denyListStored : Stores denyListData denyList.fields) :
    (getAccountData ProgramStateAccount.deserialize accountData = some (.ofProgram account) ∧
        getAccountData ConfigurationRegistry.deserialize configurationData =
          some (.ofProgram configuration) ∧
        viewDenyList denyListData = .addresses denyList.deniedAddresses false) ↔
      ∀ byte ∈ littleEndian 8 account.lastTradeSlot.toNat ++
          littleEndian 32 account.denyListAuthority.toNat,
        byte = account.bumpRegistry.withdrawAuthorityBump := by
  rw [programState_mirrored_iff accountStored, lastFields]
  exact and_iff_left
    ⟨configurationRegistry_mirrored configurationStored, denyList_viewed denyListStored⟩

/-- Account data with a discriminator of zeros and nothing after the fields. -/
def dataOf (fields : Option Bytes) : Bytes := List.replicate 8 0 ++ fields.getD []

theorem stores_dataOf {fields : Option Bytes} {bytes : Bytes} (written : fields = some bytes) :
    Stores (dataOf fields) fields := by
  refine ⟨Vector.replicate 8 0, bytes, [], written, ?_⟩
  rw [written, List.append_nil]
  rfl

/-- A program state whose last fields hold nothing but the byte of the missing bump. -/
def uniformState : OnChain.ProgramStateAccount where
  admin := Local.admin
  fillsRegistryAddress := 0x46#256
  isHalted := true
  bumpRegistry := ⟨255, 253, 255, 255⟩
  lastTradeSlot := 0xffffffffffffffff
  denyListAuthority := BitVec.allOnes 256

/-- A deny list with two entries. -/
def twoDenied : DenyListRegistry where
  deniedAddresses := [Local.buyer, Local.admin]
  lastUpdated := 1700000100
  updateCount := 2

theorem accounts_mirrored_uniform :
    getAccountData ProgramStateAccount.deserialize (dataOf uniformState.fields) =
        some (.ofProgram uniformState) ∧
      getAccountData ConfigurationRegistry.deserialize
          (dataOf Local.initial.configurationRegistry.fields) =
        some (.ofProgram Local.initial.configurationRegistry) ∧
      viewDenyList (dataOf twoDenied.fields) = .addresses [Local.buyer, Local.admin] false := by
  refine (accounts_mirrored_iff (stores_dataOf (programState_fields _)) (stores_dataOf rfl)
    (stores_dataOf rfl)).mpr ?_
  have uniform : littleEndian 8 uniformState.lastTradeSlot.toNat ++
      littleEndian 32 uniformState.denyListAuthority.toNat = List.replicate 40 255 := by decide
  rw [uniform]
  intro byte member
  exact List.eq_of_mem_replicate member

/-- The state after initialization in slot 100 is shown with slot 25855 and another authority. -/
theorem initial_state_misread :
    Stores (dataOf Local.initial.programState.fields) Local.initial.programState.fields ∧
      Local.initial.programState.lastTradeSlot = 100 ∧
      (getAccountData ProgramStateAccount.deserialize
        (dataOf Local.initial.programState.fields)).map (·.lastTradeSlot) = some 25855 ∧
      (getAccountData ProgramStateAccount.deserialize
          (dataOf Local.initial.programState.fields)).map (·.denyListAuthority) ≠
        some Local.initial.programState.denyListAuthority := by
  refine ⟨stores_dataOf (programState_fields _), rfl, ?_, ?_⟩
  · decide
  · decide

end SolConversion.Cli
