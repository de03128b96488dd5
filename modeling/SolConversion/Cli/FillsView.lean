import SolConversion.Cli.AccountMirrors
import SolConversion.Cli.FixedPoint
import SolConversion.Foundation.WordArray
import SolConversion.OnChain.EventLog

/-!
# The view of the fills registry

The fills registry is not serialized: its account holds the memory of the structure, and the tools
map that memory onto a structure of their own.  Whatever run has led to the stored registry, the
view prints the fills that the events of the run leave pending.
-/

namespace SolConversion.OnChain

/-- The fills registry in memory, word by word. -/
def FillsRegistry.words (fillsRegistry : FillsRegistry) : List UInt64 :=
  [fillsRegistry.totalSolPending, fillsRegistry.total2zPending] ++
    WordArray.pairs Fill.solIn Fill.token2zOut fillsRegistry.fills.toList ++
    [fillsRegistry.head, fillsRegistry.tail, fillsRegistry.count]

end SolConversion.OnChain

namespace SolConversion.Cli

open Borsh DecimalFormat Fallible LotQueue OnChain WordArray

/-- `MAX_FILLS_QUEUE_SIZE` -/
def maxFillsQueueSize : ℕ := 650000

instance : NeZero maxFillsQueueSize := ⟨by unfold maxFillsQueueSize; decide⟩

structure Fill where
  solIn : UInt64
  token2zOut : UInt64
  deriving DecidableEq

structure FillsRegistry where
  totalSolPending : UInt64
  total2zPending : UInt64
  fills : Vector Fill maxFillsQueueSize
  head : UInt64
  tail : UInt64
  count : UInt64

/-- `size_of::<FillsRegistry>()` -/
def sizeOfFillsRegistry : ℕ := 8 * (2 + 2 * maxFillsQueueSize + 3)

/-- `bytemuck::from_bytes`: the fields stand in the order of their declaration, without padding. -/
def FillsRegistry.fromBytes (fillsRegistryBytes : Bytes) : FillsRegistry where
  totalSolPending := wordAt fillsRegistryBytes 0
  total2zPending := wordAt fillsRegistryBytes 1
  fills := Vector.ofFn fun index => {
    solIn := wordAt fillsRegistryBytes (2 + 2 * index)
    token2zOut := wordAt fillsRegistryBytes (2 + (2 * index + 1)) }
  head := wordAt fillsRegistryBytes (2 + 2 * maxFillsQueueSize)
  tail := wordAt fillsRegistryBytes (2 + 2 * maxFillsQueueSize + 1)
  count := wordAt fillsRegistryBytes (2 + 2 * maxFillsQueueSize + 2)

/-- `Fill {}: sol_in:{} token_2z_out:{}` -/
structure FillLine where
  index : ℕ
  solIn : String
  token2zOut : UInt64
  deriving DecidableEq

/-- The values the view prints, in the order of its lines. -/
structure FillsReport where
  fillsRegistryAddress : Pubkey
  totalUnprocessedFills : UInt64
  head : UInt64
  tail : UInt64
  solVolume : String
  solVolumeInLamports : UInt64
  tokenVolume : String
  tokenVolumeWithDecimals : UInt64
  pendingFills : List FillLine
  deriving DecidableEq

/-- Why nothing is printed to the end. -/
inductive ViewFailure
  /-- An account is missing or its data ends too early. -/
  | unreadable
  | amount (failure : AmountFailure)
  deriving DecidableEq

/-- `get_fills_registry_address` -/
def getFillsRegistryAddress (getData : Pubkey → Option Bytes) (programStatePda : Pubkey) :
    Option Pubkey := do
  let data ← getData programStatePda
  let programStateAccount ← getAccountData ProgramStateAccount.deserialize data
  return programStateAccount.fillsRegistryAddress

/-- One pass of the loop over the pending fills. -/
def fillLine (library : Library) (fillsRegistry : FillsRegistry) (i : ℕ) :
    Except ViewFailure FillLine := do
  -- circular queue indexing
  let fill := fillsRegistry.fills.get (Fin.ofNat maxFillsQueueSize (fillsRegistry.head.toNat + i))
  let fillQuantity ← mapFailure .amount (convertSolValue library fill.solIn)
  return ⟨i, library.display fillQuantity, fill.token2zOut⟩

/-- The pending fills; there is no loop where none is left. -/
def pendingLines (library : Library) (fillsRegistry : FillsRegistry) :
    Except ViewFailure (List FillLine) :=
  if fillsRegistry.count = 0 then .ok []
  else (List.range fillsRegistry.count.toNat).mapM (fillLine library fillsRegistry)

/-- `view_fills_registry` -/
def viewFills (library : Library) (getData : Pubkey → Option Bytes) (programStatePda : Pubkey) :
    Except ViewFailure FillsReport := do
  let fillsRegistryAddress ← orFail .unreadable (getFillsRegistryAddress getData programStatePda)
  let accountData ← orFail .unreadable (getData fillsRegistryAddress)
  require (8 ≤ accountData.length) .unreadable
  let accountDataSlice := accountData.drop 8
  require (sizeOfFillsRegistry ≤ accountDataSlice.length) .unreadable
  let fillsRegistry := FillsRegistry.fromBytes (accountDataSlice.take sizeOfFillsRegistry)
  let solVolume ← mapFailure .amount (convertSolValue library fillsRegistry.totalSolPending)
  let tokenVolume ← mapFailure .amount (convertTokenValue library fillsRegistry.total2zPending)
  let pendingFills ← pendingLines library fillsRegistry
  return {
    fillsRegistryAddress
    totalUnprocessedFills := fillsRegistry.count
    head := fillsRegistry.head
    tail := fillsRegistry.tail
    solVolume := library.display solVolume
    solVolumeInLamports := fillsRegistry.totalSolPending
    tokenVolume := library.display tokenVolume
    tokenVolumeWithDecimals := fillsRegistry.total2zPending
    pendingFills }

def Fill.ofProgram (fill : OnChain.Fill) : Fill := ⟨fill.solIn, fill.token2zOut⟩

theorem sizes_agree : OnChain.maxFillsQueueSize = maxFillsQueueSize := rfl

def FillsRegistry.ofProgram (fillsRegistry : OnChain.FillsRegistry) : FillsRegistry where
  totalSolPending := fillsRegistry.totalSolPending
  total2zPending := fillsRegistry.total2zPending
  fills := (fillsRegistry.fills.map Fill.ofProgram).cast sizes_agree
  head := fillsRegistry.head
  tail := fillsRegistry.tail
  count := fillsRegistry.count

/-- The account holds the memory of the registry after its discriminator. -/
def HoldsRegistry (data : Bytes) (fillsRegistry : OnChain.FillsRegistry) : Prop :=
  ∃ (discriminator : Discriminator) (trailing : Bytes),
    data = discriminator.toList ++ (bytes fillsRegistry.words ++ trailing)

theorem length_pairs_fills (fillsRegistry : OnChain.FillsRegistry) :
    (pairs OnChain.Fill.solIn OnChain.Fill.token2zOut fillsRegistry.fills.toList).length =
      2 * maxFillsQueueSize := by
  rw [length_pairs, Vector.length_toList]
  rfl

theorem length_memory (fillsRegistry : OnChain.FillsRegistry) :
    (bytes fillsRegistry.words).length = sizeOfFillsRegistry := by
  rw [length_bytes, OnChain.FillsRegistry.words, List.length_append, List.length_append,
    length_pairs_fills]
  rfl

/-- The words in front of the fills and behind them. -/
theorem words_outer (fillsRegistry : OnChain.FillsRegistry) :
    fillsRegistry.words[0]? = some fillsRegistry.totalSolPending ∧
      fillsRegistry.words[1]? = some fillsRegistry.total2zPending ∧
      fillsRegistry.words[2 + 2 * maxFillsQueueSize]? = some fillsRegistry.head ∧
      fillsRegistry.words[2 + 2 * maxFillsQueueSize + 1]? = some fillsRegistry.tail ∧
      fillsRegistry.words[2 + 2 * maxFillsQueueSize + 2]? = some fillsRegistry.count := by
  have front : ([fillsRegistry.totalSolPending, fillsRegistry.total2zPending] ++
      pairs OnChain.Fill.solIn OnChain.Fill.token2zOut fillsRegistry.fills.toList).length =
        2 + 2 * maxFillsQueueSize := by
    rw [List.length_append, length_pairs_fills]
    rfl
  have behind : ∀ offset,
      fillsRegistry.words[2 + 2 * maxFillsQueueSize + offset]? =
        [fillsRegistry.head, fillsRegistry.tail, fillsRegistry.count][offset]? := by
    intro offset
    rw [OnChain.FillsRegistry.words, List.getElem?_append_right (by omega), front,
      Nat.add_sub_cancel_left]
  exact ⟨rfl, rfl, behind 0, behind 1, behind 2⟩

private theorem words_fill (fillsRegistry : OnChain.FillsRegistry) {index : ℕ}
    (inside : index < OnChain.maxFillsQueueSize) :
    fillsRegistry.words[2 + 2 * index]? = some fillsRegistry.fills[index].solIn ∧
      fillsRegistry.words[2 + (2 * index + 1)]? = some fillsRegistry.fills[index].token2zOut := by
  have length := length_pairs_fills fillsRegistry
  rw [← sizes_agree] at length
  have among : ∀ offset < 2 * OnChain.maxFillsQueueSize, fillsRegistry.words[2 + offset]? =
      (pairs OnChain.Fill.solIn OnChain.Fill.token2zOut fillsRegistry.fills.toList)[offset]? := by
    intro offset offset_lt
    rw [OnChain.FillsRegistry.words, List.getElem?_append_left (by simp [length]; omega),
      List.getElem?_append_right (by simp)]
    simp
  have stored : fillsRegistry.fills.toList[index]? = some fillsRegistry.fills[index] := by
    rw [Vector.getElem?_toList, Vector.getElem?_eq_getElem inside]
  obtain ⟨sol, token⟩ := getElem?_pairs stored
  rw [among _ (by omega), among _ (by omega)]
  exact ⟨sol, token⟩

/-- The tools see the registry that the program stored. -/
theorem fromBytes_words (fillsRegistry : OnChain.FillsRegistry) :
    FillsRegistry.fromBytes (bytes fillsRegistry.words) = .ofProgram fillsRegistry := by
  have reads : ∀ {index : ℕ} {word : UInt64}, fillsRegistry.words[index]? = some word →
      wordAt (bytes fillsRegistry.words) index = word := by
    intro index word stored
    rw [← List.append_nil (bytes fillsRegistry.words)]
    exact wordAt_bytes stored []
  obtain ⟨totalSol, totalTokens, head, tail, count⟩ := words_outer fillsRegistry
  have fills : (Vector.ofFn fun index : Fin maxFillsQueueSize =>
      Fill.mk (wordAt (bytes fillsRegistry.words) (2 + 2 * index.val))
        (wordAt (bytes fillsRegistry.words) (2 + (2 * index.val + 1)))) =
        (fillsRegistry.fills.map Fill.ofProgram).cast sizes_agree := by
    apply Vector.ext
    intro index inside
    obtain ⟨sol, token⟩ := words_fill fillsRegistry (sizes_agree ▸ inside)
    rw [Vector.getElem_ofFn, Vector.getElem_cast, Vector.getElem_map, reads sol, reads token]
    rfl
  rw [FillsRegistry.fromBytes, reads totalSol, reads totalTokens, reads head, reads tail,
    reads count, fills, FillsRegistry.ofProgram]

/-- A line shows a lot at a position of the queue. -/
structure FillLine.Shows (library : Library) (line : FillLine) (position : ℕ) (lot : Lot) : Prop
    where
  index_eq : line.index = position
  solIn_eq : ∃ word, parseSolValue library line.solIn = .ok word ∧ word.toNat = lot.quantity
  token2zOut_eq : line.token2zOut.toNat = lot.value

section Printed

variable {library : Library} {rounding : Rounding}

private theorem fillLine_shows (lawful : library.Lawful rounding)
    (fillsRegistry : OnChain.FillsRegistry)
    (i : ℕ) :
    ∃ line, fillLine library (.ofProgram fillsRegistry) i = .ok line ∧
      line.Shows library i (fillsRegistry.fills.get
        (RingBuffer.slot OnChain.maxFillsQueueSize fillsRegistry.head.toNat i)).lot := by
  set fill := fillsRegistry.fills.get
    (RingBuffer.slot OnChain.maxFillsQueueSize fillsRegistry.head.toNat i) with fill_eq
  obtain ⟨value, converted, parsed⟩ := parseValue_display lawful lamportsPerSol_toNat
    (by norm_num) "Invalid sol value" "Sol value overflow or conversion failed" fill.solIn
  have mirrored : (FillsRegistry.ofProgram fillsRegistry).fills.get (Fin.ofNat maxFillsQueueSize
      ((FillsRegistry.ofProgram fillsRegistry).head.toNat + i)) = Fill.ofProgram fill := by
    have inside : (fillsRegistry.head.toNat + i) % maxFillsQueueSize < maxFillsQueueSize :=
      Nat.mod_lt _ (NeZero.pos maxFillsQueueSize)
    change ((fillsRegistry.fills.map Fill.ofProgram).cast sizes_agree)[
      (fillsRegistry.head.toNat + i) % maxFillsQueueSize] = _
    rw [Vector.getElem_cast, Vector.getElem_map]
    rfl
  refine ⟨⟨i, library.display value, fill.token2zOut⟩, ?_, rfl, ⟨fill.solIn, parsed, rfl⟩, rfl⟩
  simp only [fillLine, bind_eq_ok, mapFailure_eq_ok, pure_eq_ok]
  exact ⟨value, by rw [mirrored]; exact converted, by rw [mirrored]; rfl⟩

/-- The report on a registry: its numbers, and its pending fills in their order. -/
structure FillsReport.Shows (library : Library) (report : FillsReport) (pending : List Lot) :
    Prop where
  totalUnprocessedFills_eq : report.totalUnprocessedFills.toNat = pending.length
  solVolumeInLamports_eq : report.solVolumeInLamports.toNat = quantity pending
  solVolume_eq : parseSolValue library report.solVolume = .ok report.solVolumeInLamports
  tokenVolumeWithDecimals_eq : report.tokenVolumeWithDecimals.toNat = value pending
  tokenVolume_eq : parseTokenValue library report.tokenVolume = .ok report.tokenVolumeWithDecimals
  length_eq : report.pendingFills.length = pending.length
  lines : ∀ (position : ℕ) (lot : Lot), pending[position]? = some lot →
    ∃ line, report.pendingFills[position]? = some line ∧ line.Shows library position lot

private theorem getFillsRegistryAddress_eq {getData : Pubkey → Option Bytes}
    {programStatePda : Pubkey}
    {account : OnChain.ProgramStateAccount} {data : Bytes}
    (fetched : getData programStatePda = some data) (stored : Stores data account.fields) :
    getFillsRegistryAddress getData programStatePda = some account.fillsRegistryAddress := by
  obtain ⟨discriminator, fields, trailing, written, rfl⟩ := stored
  rw [programState_fields] at written
  obtain rfl := Option.some.inj written
  set last := account.bumpRegistry.withdrawAuthorityBump :: lastFields account ++ trailing
    with last_eq
  have enough : 40 ≤ last.length := by
    simp only [last_eq, lastFields, List.length_append, List.length_cons, length_littleEndian]
    omega
  obtain ⟨lastTradeSlot, slot_eq⟩ := total_u64 last (by omega)
  obtain ⟨denyListAuthority, authority_eq⟩ := total_word 32 (last.drop 8)
    (by rw [List.length_drop]; omega)
  have read : ProgramStateAccount.deserializeLast account last = some
      ({ ProgramStateAccount.ofProgram account with lastTradeSlot, denyListAuthority },
        (last.drop 8).drop 32) := by
    change (u64.decode last >>= fun slot => pubkey.decode slot.2 >>= fun authority =>
      some ({ ProgramStateAccount.ofProgram account with
        lastTradeSlot := slot.1, denyListAuthority := authority.1 }, authority.2)) = _
    rw [slot_eq]
    change (pubkey.decode (last.drop 8) >>= fun authority => _) = _
    rw [pubkey, authority_eq]
    rfl
  have shown : getAccountData ProgramStateAccount.deserialize
      (discriminator.toList ++ (firstFields account ++ last)) =
        some { ProgramStateAccount.ofProgram account with lastTradeSlot, denyListAuthority } := by
    refine getAccountData_eq_some.mpr ⟨(last.drop 8).drop 32, ?_⟩
    rw [deserialize_firstFields, read]
  rw [getFillsRegistryAddress, fetched]
  change (getAccountData ProgramStateAccount.deserialize (discriminator.toList ++
    (firstFields account ++ (account.bumpRegistry.withdrawAuthorityBump :: lastFields account) ++
      trailing)) >>= fun mirror => some mirror.fillsRegistryAddress) = _
  rw [List.append_assoc, shown]
  rfl

/-- The view succeeds on every stored registry and prints its pending fills. -/
theorem viewFills_shows (lawful : library.Lawful rounding)
    {getData : Pubkey → Option Bytes} {programStatePda : Pubkey}
    {account : OnChain.ProgramStateAccount} {fillsRegistry : OnChain.FillsRegistry}
    {stateData registryData : Bytes} (consistent : fillsRegistry.Consistent)
    (fetched : getData programStatePda = some stateData)
    (stored : Stores stateData account.fields)
    (fetchedRegistry : getData account.fillsRegistryAddress = some registryData)
    (held : HoldsRegistry registryData fillsRegistry) :
    ∃ report, viewFills library getData programStatePda = .ok report ∧
      report.Shows library fillsRegistry.lots := by
  obtain ⟨discriminator, trailing, rfl⟩ := held
  have discriminator_length : discriminator.toList.length = 8 := discriminator.length_toList
  obtain ⟨solVolume, sol_converted, sol_parsed⟩ := parseValue_display lawful lamportsPerSol_toNat
    (by norm_num) "Invalid sol value" "Sol value overflow or conversion failed"
    fillsRegistry.totalSolPending
  obtain ⟨tokenVolume, token_converted, token_parsed⟩ := parseValue_display lawful
    tokenUnits_toNat (by norm_num) "Invalid token value"
    "Token value overflow or conversion failed" fillsRegistry.total2zPending
  choose line printed shows using fillLine_shows lawful fillsRegistry
  set lines := (List.range fillsRegistry.count.toNat).map line with lines_eq
  have looped : pendingLines library (.ofProgram fillsRegistry) = .ok lines := by
    rw [pendingLines]
    split
    · rename_i empty
      rw [lines_eq, show fillsRegistry.count = 0 from empty]
      rfl
    · exact mapM_eq_ok fun i _ => printed i
  refine ⟨{
    fillsRegistryAddress := account.fillsRegistryAddress
    totalUnprocessedFills := fillsRegistry.count
    head := fillsRegistry.head
    tail := fillsRegistry.tail
    solVolume := library.display solVolume
    solVolumeInLamports := fillsRegistry.totalSolPending
    tokenVolume := library.display tokenVolume
    tokenVolumeWithDecimals := fillsRegistry.total2zPending
    pendingFills := lines }, ?_, ?_⟩
  · have sliced : ((discriminator.toList ++ (bytes fillsRegistry.words ++ trailing)).drop 8).take
        sizeOfFillsRegistry = bytes fillsRegistry.words := by
      rw [List.drop_left' discriminator_length, List.take_left' (length_memory fillsRegistry)]
    have room : 8 ≤ (discriminator.toList ++ (bytes fillsRegistry.words ++ trailing)).length := by
      rw [List.length_append, discriminator_length]
      omega
    have size : sizeOfFillsRegistry ≤
        ((discriminator.toList ++ (bytes fillsRegistry.words ++ trailing)).drop 8).length := by
      rw [List.drop_left' discriminator_length, List.length_append, length_memory]
      omega
    simp only [viewFills, bind_eq_ok, orFail_eq_ok, require_eq_ok, mapFailure_eq_ok, pure_eq_ok]
    refine ⟨account.fillsRegistryAddress, getFillsRegistryAddress_eq fetched stored, _,
      fetchedRegistry, (), room, (), size, ?_⟩
    rw [sliced, fromBytes_words]
    exact ⟨solVolume, sol_converted, tokenVolume, token_converted, lines, looped, rfl⟩
  · refine ⟨(length_lots fillsRegistry).symm, consistent.totalSolPending_eq, sol_parsed,
      consistent.total2zPending_eq, token_parsed, ?_, ?_⟩
    · rw [lines_eq, List.length_map, List.length_range, length_lots]
    · intro position lot among
      have inside : position < fillsRegistry.count.toNat := by
        rw [← length_lots]
        exact (List.getElem?_eq_some_iff.mp among).1
      rw [OnChain.FillsRegistry.lots, viewFillsRegistry, List.getElem?_map, List.getElem?_map,
        List.getElem?_range inside] at among
      obtain rfl := Option.some.inj among
      refine ⟨line position, ?_, shows position⟩
      rw [lines_eq, List.getElem?_map, List.getElem?_range inside]
      rfl

end Printed

/-- After any run from a reachable state the view of the stored registry prints what replaying the
events of the run leaves pending: the numbers, and the fills in their order. -/
theorem fills_viewed {library : Library} {rounding : Rounding} (lawful : library.Lawful rounding)
    {platform : Platform} {state : ConverterState} (reachable : Reachable platform state)
    (inputs : List (Context × Instruction)) {getData : Pubkey → Option Bytes}
    {programStatePda : Pubkey} {stateData registryData : Bytes} :
    let known := (eventLog (programHistory platform state inputs)).foldl PublishedState.replay
      state.published
    let later := runProgram platform state inputs
    getData programStatePda = some stateData → Stores stateData later.programState.fields →
      getData later.programState.fillsRegistryAddress = some registryData →
      HoldsRegistry registryData later.fillsRegistry →
      ∃ report, viewFills library getData programStatePda = .ok report ∧
        report.Shows library known.pendingFills := by
  intro known later fetched stored fetchedRegistry held
  have pending_eq : known.pendingFills = later.fillsRegistry.lots :=
    (congrArg PublishedState.pendingFills (published_run reachable inputs)).symm
  have consistent := consistent_of_reachable (reachable_run reachable inputs)
  rw [pending_eq]
  exact viewFills_shows lawful consistent fetched stored fetchedRegistry held

section Local

/-- The state after the local trade and the dequeue of seven lamports. -/
def dequeuedState : ConverterState := runProgram Local.platform Local.initial Local.inputs

/-- The accounts of that state, the program state at the address zero. -/
def storedData (address : Pubkey) : Option Bytes :=
  if address = 0 then some (dataOf dequeuedState.programState.fields)
  else if address = dequeuedState.programState.fillsRegistryAddress then
    some (List.replicate 8 0 ++ (bytes dequeuedState.fillsRegistry.words ++ []))
  else none

/-- The one pending fill is printed as 24.999999993 SOL for 47.27499999 tokens. -/
theorem fills_viewed_local :
    ∃ report, viewFills nearestLibrary storedData 0 = .ok report ∧
      report.Shows nearestLibrary [⟨24999999993, 4727499999⟩] := by
  have address_eq : dequeuedState.programState.fillsRegistryAddress = 0x46#256 := by
    decide +kernel
  have fetchedRegistry : storedData dequeuedState.programState.fillsRegistryAddress =
      some (List.replicate 8 0 ++ (bytes dequeuedState.fillsRegistry.words ++ [])) := by
    rw [storedData, address_eq]
    rfl
  have held : HoldsRegistry (List.replicate 8 0 ++ (bytes dequeuedState.fillsRegistry.words ++ []))
      dequeuedState.fillsRegistry := ⟨Vector.replicate 8 0, [], rfl⟩
  have known_eq : ((eventLog (programHistory Local.platform Local.initial Local.inputs)).foldl
      PublishedState.replay Local.initial.published).pendingFills =
        [⟨24999999993, 4727499999⟩] := by decide +kernel
  have fetched : storedData 0 = some (dataOf dequeuedState.programState.fields) := rfl
  obtain ⟨report, viewed, shows⟩ := fills_viewed nearestLibrary_lawful Local.initial_reachable
    Local.inputs fetched (stores_dataOf (programState_fields _)) fetchedRegistry held
  rw [known_eq] at shows
  exact ⟨report, viewed, shows⟩

end Local

end SolConversion.Cli
