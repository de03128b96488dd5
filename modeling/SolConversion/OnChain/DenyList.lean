import SolConversion.Foundation.ChangeLog
import SolConversion.OnChain.Admission
import SolConversion.OnChain.Encoding

/-!
# The deny list

The deny list is a bounded set with an audit count.  Its entries are those its history of changes
leaves, in the order they were added, and its encoding fits the account it was allocated.  The count
is a machine word, so after `2 ^ 64 - 1` changes the list cannot change any more.
-/

namespace SolConversion.OnChain

open Borsh ChangeLog Fallible FixedWidth Transactional

section Instructions

variable {context : Context} {state next : ConverterState} {admin address : Pubkey}
  {receipt : Receipt}

theorem addToDenyList_eq_ok_iff :
    addToDenyList context state admin address = .ok (next, receipt) ↔
      admin = state.programState.denyListAuthority ∧
      address ∉ state.denyListRegistry.deniedAddresses ∧
      state.denyListRegistry.deniedAddresses.length < maxDenyListSize ∧
      ∃ updateCount, addU64 state.denyListRegistry.updateCount 1 = some updateCount ∧
        next = { state with denyListRegistry :=
          ⟨state.denyListRegistry.deniedAddresses ++ [address], context.clock.unixTimestamp,
            updateCount⟩ } ∧
        receipt = context.receipt [.denyListAddressAdded admin address context.clock.unixTimestamp
          updateCount] := by
  simp only [addToDenyList, DenyListRegistry.record, bind_eq_ok, require_eq_ok, checked_eq_ok,
    pure_eq_ok, Prod.mk.injEq]
  constructor
  · rintro ⟨-, authorized, -, fresh, -, room, -, ⟨updateCount, counted, rfl⟩, rfl, rfl⟩
    exact ⟨authorized, fresh, room, updateCount, counted, rfl, rfl⟩
  · rintro ⟨authorized, fresh, room, updateCount, counted, rfl, rfl⟩
    exact ⟨(), authorized, (), fresh, (), room, _, ⟨updateCount, counted, rfl⟩, rfl, rfl⟩

theorem removeFromDenyList_eq_ok_iff :
    removeFromDenyList context state admin address = .ok (next, receipt) ↔
      admin = state.programState.denyListAuthority ∧
      address ∈ state.denyListRegistry.deniedAddresses ∧
      ∃ updateCount, addU64 state.denyListRegistry.updateCount 1 = some updateCount ∧
        next = { state with denyListRegistry :=
          ⟨state.denyListRegistry.deniedAddresses.erase address, context.clock.unixTimestamp,
            updateCount⟩ } ∧
        receipt = context.receipt [.denyListAddressRemoved admin address
          context.clock.unixTimestamp updateCount] := by
  simp only [removeFromDenyList, DenyListRegistry.record, bind_eq_ok, require_eq_ok, orFail_eq_ok,
    checked_eq_ok, pure_eq_ok, Prod.mk.injEq]
  constructor
  · rintro ⟨-, authorized, pos, found, -, ⟨updateCount, counted, rfl⟩, rfl, rfl⟩
    have present : address ∈ state.denyListRegistry.deniedAddresses := by
      rw [← List.isSome_idxOf?, found]
      rfl
    refine ⟨authorized, present, updateCount, counted, ?_, rfl⟩
    rw [List.erase_eq_eraseIdx, found]
  · rintro ⟨authorized, present, updateCount, counted, rfl, rfl⟩
    obtain ⟨pos, found⟩ := Option.isSome_iff_exists.mp (List.isSome_idxOf?.mpr present)
    refine ⟨(), authorized, pos, found, _, ⟨updateCount, counted, rfl⟩, ?_, rfl⟩
    rw [List.erase_eq_eraseIdx, found]

theorem exists_addU64_one {count : UInt64} :
    (∃ raised, addU64 count 1 = some raised) ↔ count.toNat < 2 ^ 64 - 1 := by
  constructor
  · rintro ⟨raised, raised_eq⟩
    have raised_lt := u64_lt raised
    rw [addU64_eq_some, UInt64.toNat_one] at raised_eq
    omega
  · intro below
    obtain ⟨raised, raised_eq, -⟩ := addU64_of_lt
      (show count.toNat + (1 : UInt64).toNat < 2 ^ 64 by
        rw [UInt64.toNat_one]
        omega)
    exact ⟨raised, raised_eq⟩

theorem addToDenyList_succeeds_iff :
    (∃ success, addToDenyList context state admin address = .ok success) ↔
      admin = state.programState.denyListAuthority ∧
      address ∉ state.denyListRegistry.deniedAddresses ∧
      state.denyListRegistry.deniedAddresses.length < maxDenyListSize ∧
      state.denyListRegistry.updateCount.toNat < 2 ^ 64 - 1 := by
  simp only [Prod.exists, addToDenyList_eq_ok_iff, ← exists_addU64_one]
  constructor
  · rintro ⟨next, receipt, authorized, fresh, room, updateCount, counted, -⟩
    exact ⟨authorized, fresh, room, updateCount, counted⟩
  · rintro ⟨authorized, fresh, room, updateCount, counted⟩
    exact ⟨_, _, authorized, fresh, room, updateCount, counted, rfl, rfl⟩

theorem removeFromDenyList_succeeds_iff :
    (∃ success, removeFromDenyList context state admin address = .ok success) ↔
      admin = state.programState.denyListAuthority ∧
      address ∈ state.denyListRegistry.deniedAddresses ∧
      state.denyListRegistry.updateCount.toNat < 2 ^ 64 - 1 := by
  simp only [Prod.exists, removeFromDenyList_eq_ok_iff, ← exists_addU64_one]
  constructor
  · rintro ⟨next, receipt, authorized, present, updateCount, counted, -⟩
    exact ⟨authorized, present, updateCount, counted⟩
  · rintro ⟨authorized, present, updateCount, counted⟩
    exact ⟨_, _, authorized, present, updateCount, counted, rfl, rfl⟩

/-- An addition by the authority fails exactly for a present address, on a full list or with an
exhausted count. -/
theorem addToDenyList_fails_iff :
    (∃ failure, addToDenyList context state state.programState.denyListAuthority address =
        .error failure) ↔
      address ∈ state.denyListRegistry.deniedAddresses ∨
        maxDenyListSize ≤ state.denyListRegistry.deniedAddresses.length ∨
        state.denyListRegistry.updateCount.toNat = 2 ^ 64 - 1 := by
  have counts := u64_lt state.denyListRegistry.updateCount
  rw [exists_error_iff, addToDenyList_succeeds_iff]
  constructor
  · intro fails
    by_contra neither
    rw [not_or, not_or, not_le] at neither
    exact fails ⟨rfl, neither.1, neither.2.1, by omega⟩
  · rintro reason ⟨-, fresh, room, below⟩
    rcases reason with present | full | exhausted
    · exact fresh present
    · omega
    · omega

/-- A removal by the authority fails exactly for an absent address or with an exhausted count. -/
theorem removeFromDenyList_fails_iff :
    (∃ failure, removeFromDenyList context state state.programState.denyListAuthority address =
        .error failure) ↔
      address ∉ state.denyListRegistry.deniedAddresses ∨
        state.denyListRegistry.updateCount.toNat = 2 ^ 64 - 1 := by
  have counts := u64_lt state.denyListRegistry.updateCount
  rw [exists_error_iff, removeFromDenyList_succeeds_iff]
  constructor
  · intro fails
    by_contra neither
    rw [not_or, not_not] at neither
    exact fails ⟨rfl, neither.1, by omega⟩
  · rintro reason ⟨-, present, below⟩
    rcases reason with absent | exhausted
    · exact absent present
    · omega

end Instructions

/-- `DISCRIMINATOR_SIZE` -/
def discriminatorSize : ℕ := 8

/-- `DenyListRegistry::INIT_SPACE`: a vector of addresses of the greatest length and two words. -/
def DenyListRegistry.initSpace : ℕ := 4 + maxDenyListSize * 32 + 8 + 8

/-- The space `InitializeSystem` allocates for the deny list. -/
def denyListSpace : ℕ := discriminatorSize + DenyListRegistry.initSpace

private theorem encodeAll_pubkeys (keys : List Pubkey) :
    ∃ bytes, encodeAll pubkey keys = some bytes ∧ bytes.length = keys.length * 32 := by
  induction keys with
  | nil => exact ⟨[], rfl, rfl⟩
  | cons key keys ih =>
      obtain ⟨bytes, encoded, length_eq⟩ := ih
      refine ⟨littleEndian 32 key.toNat ++ bytes, ?_, ?_⟩
      · rw [encodeAll, encoded]
        rfl
      · rw [List.length_append, length_littleEndian, length_eq, List.length_cons]
        omega

private theorem denyList_fits {registry : DenyListRegistry}
    (bounded : registry.deniedAddresses.length ≤ maxDenyListSize) :
    ∃ bytes, registry.fields = some bytes ∧ discriminatorSize + bytes.length ≤ denyListSpace := by
  obtain ⟨keys, encoded, length_eq⟩ := encodeAll_pubkeys registry.deniedAddresses
  have short : registry.deniedAddresses.length < 2 ^ 32 := by
    rw [maxDenyListSize] at bounded
    omega
  refine ⟨littleEndian 4 registry.deniedAddresses.length ++ keys ++
    (littleEndian 8 registry.lastUpdated.toUInt64.toNat ++
      littleEndian 8 registry.updateCount.toNat), ?_, ?_⟩
  · have vec_eq : (vec pubkey).encode registry.deniedAddresses =
        some (littleEndian 4 registry.deniedAddresses.length ++ keys) := by
      change append (encodeLength _) (encodeAll pubkey _) = _
      rw [encodeLength, if_pos short, encoded, append_some]
    simp [DenyListRegistry.fields, vec_eq]
  · simp only [List.length_append, length_littleEndian, length_eq, denyListSpace,
      DenyListRegistry.initSpace]
    omega

/-- The change of the deny list an instruction makes. -/
def Instruction.change : Instruction → Option (Change Pubkey)
  | .addToDenyList _ address => some (.insert address)
  | .removeFromDenyList _ address => some (.remove address)
  | _ => none

/-- The successful changes of the deny list, oldest first. -/
def denyListLog (done : List ProgramInput) : List (Change Pubkey) :=
  done.filterMap fun input => input.2.change

theorem denyListLog_snoc (done : List ProgramInput) (input : ProgramInput) :
    denyListLog (done ++ [input]) = denyListLog done ++ input.2.change.toList :=
  filterMap_snoc _ done input

/-- The deny list is what its log leaves, and counts the changes. -/
structure DenyListLogged (done : List ProgramInput) (state : ConverterState) : Prop where
  entries : state.denyListRegistry.deniedAddresses = survivors (denyListLog done)
  bounded : state.denyListRegistry.deniedAddresses.length ≤ maxDenyListSize
  counted : state.denyListRegistry.updateCount.toNat = (denyListLog done).length

section Histories

variable {platform : Platform} {context : Context} {state next : ConverterState}
  {instruction : Instruction} {receipt : Receipt} {done : List ProgramInput}

theorem DenyListLogged.nodup (logged : DenyListLogged done state) :
    state.denyListRegistry.deniedAddresses.Nodup := by
  rw [logged.entries]
  exact nodup_survivors _

private theorem denyListRegistry_of_executes (unchanging : instruction.change = none)
    (executes : Executes platform context state instruction next receipt) :
    next.denyListRegistry = state.denyListRegistry := by
  cases executes with
  | denied => cases unchanging
  | allowed => cases unchanging
  | traded trades => exact trades.denyListRegistry_eq
  | _ => rfl

private theorem denyListLogged_of_add {admin address : Pubkey} (logged : DenyListLogged done state)
    (success : addToDenyList context state admin address = .ok (next, receipt)) :
    DenyListLogged (done ++ [(context, .addToDenyList admin address)]) next := by
  obtain ⟨-, fresh, room, updateCount, counted, rfl, -⟩ := addToDenyList_eq_ok_iff.mp success
  have log_eq : denyListLog (done ++ [(context, .addToDenyList admin address)]) =
      denyListLog done ++ [.insert address] := denyListLog_snoc _ _
  have others : (survivors (denyListLog done)).filter (· ≠ address) =
      survivors (denyListLog done) := by
    rw [← logged.entries, List.filter_eq_self]
    intro other member
    exact decide_eq_true (ne_of_mem_of_not_mem member fresh)
  constructor
  · rw [log_eq, survivors_snoc_insert, others, ← logged.entries]
  · rw [List.length_append, List.length_singleton]
    exact room
  · rw [addU64_eq_some, UInt64.toNat_one, logged.counted] at counted
    rw [log_eq, List.length_append, List.length_singleton, counted]

private theorem denyListLogged_of_remove {admin address : Pubkey}
    (logged : DenyListLogged done state)
    (success : removeFromDenyList context state admin address = .ok (next, receipt)) :
    DenyListLogged (done ++ [(context, .removeFromDenyList admin address)]) next := by
  obtain ⟨-, present, updateCount, counted, rfl, -⟩ := removeFromDenyList_eq_ok_iff.mp success
  have log_eq : denyListLog (done ++ [(context, .removeFromDenyList admin address)]) =
      denyListLog done ++ [.remove address] := denyListLog_snoc _ _
  constructor
  · rw [log_eq, survivors_snoc_remove, ← logged.entries, logged.nodup.erase_eq_filter]
    apply List.filter_congr
    intro other _
    rw [Bool.eq_iff_iff, bne_iff_ne, decide_eq_true_iff]
  · exact List.length_erase_le.trans logged.bounded
  · rw [addU64_eq_some, UInt64.toNat_one, logged.counted] at counted
    rw [log_eq, List.length_append, List.length_singleton, counted]

private theorem denyListLogged_of_ok (logged : DenyListLogged done state)
    (success : processInstruction platform state (context, instruction) = .ok (next, receipt)) :
    DenyListLogged (done ++ [(context, instruction)]) next := by
  cases change_eq : instruction.change with
  | some change =>
      cases instruction with
      | addToDenyList admin address => exact denyListLogged_of_add logged success
      | removeFromDenyList admin address => exact denyListLogged_of_remove logged success
      | _ => cases change_eq
  | none =>
      have same := denyListRegistry_of_executes change_eq (executes_of_ok success)
      have log_eq : denyListLog (done ++ [(context, instruction)]) = denyListLog done := by
        rw [denyListLog_snoc, change_eq, Option.toList_none, List.append_nil]
      constructor
      · rw [same, log_eq, logged.entries]
      · rw [same]
        exact logged.bounded
      · rw [same, log_eq, logged.counted]

end Histories

private theorem denyListRegistry_of_initializeSystem {context : Context}
    {arguments : InitializeSystem}
    {initial : ConverterState} {receipt : Receipt}
    (initialized : initializeSystem context arguments = .ok (initial, receipt)) :
    initial.denyListRegistry = ⟨[], 0, 0⟩ := by
  simp only [initializeSystem, bind_eq_ok, pure_eq_ok, Prod.mk.injEq] at initialized
  obtain ⟨-, -, -, -, -, -, -, -, -, -, rfl, -⟩ := initialized
  rfl

/-- After every run the deny list is what its log leaves. -/
theorem denyListLogged_run (platform : Platform) {context : Context}
    {arguments : InitializeSystem} {initial : ConverterState} {receipt : Receipt}
    (initialized : initializeSystem context arguments = .ok (initial, receipt))
    (inputs : List ProgramInput) :
    DenyListLogged (accepted (programHistory platform initial inputs))
      (runProgram platform initial inputs) := by
  have empty := denyListRegistry_of_initializeSystem initialized
  have initially : DenyListLogged [] initial := by
    constructor
    · rw [empty]
      rfl
    · rw [empty]
      exact Nat.zero_le _
    · rw [empty]
      rfl
  refine accepted_invariant _ initially ?_ inputs
  rintro done state ⟨context, instruction⟩ next receipt logged success
  exact denyListLogged_of_ok logged success

/-- The deny list after any run: a bounded set of the addresses last added, in the order of their
additions, with the number of changes, within its space; and the authority's next change fails
exactly when the set refuses it or the count is exhausted. -/
theorem denyList_audited (platform : Platform) {context : Context} {arguments : InitializeSystem}
    {initial : ConverterState} {receipt : Receipt}
    (initialized : initializeSystem context arguments = .ok (initial, receipt))
    (inputs : List ProgramInput) :
    let log := denyListLog (accepted (programHistory platform initial inputs))
    let state := runProgram platform initial inputs
    let deniedAddresses := state.denyListRegistry.deniedAddresses
    let authority := state.programState.denyListAuthority
    deniedAddresses.Nodup ∧ deniedAddresses.length ≤ maxDenyListSize ∧
      (∀ address, address ∈ deniedAddresses ↔
        (changesOf address log).getLast? = some (.insert address)) ∧
      deniedAddresses = survivors log ∧
      state.denyListRegistry.updateCount.toNat = log.length ∧
      (∃ bytes, state.denyListRegistry.fields = some bytes ∧
        discriminatorSize + bytes.length ≤ denyListSpace) ∧
      (∀ now address, (∃ failure, addToDenyList now state authority address = .error failure) ↔
        address ∈ deniedAddresses ∨ maxDenyListSize ≤ deniedAddresses.length ∨
          state.denyListRegistry.updateCount.toNat = 2 ^ 64 - 1) ∧
      ∀ now address, (∃ failure, removeFromDenyList now state authority address =
          .error failure) ↔
        address ∉ deniedAddresses ∨ state.denyListRegistry.updateCount.toNat = 2 ^ 64 - 1 := by
  intro log state deniedAddresses authority
  have logged := denyListLogged_run platform initialized inputs
  refine ⟨logged.nodup, logged.bounded, ?_, logged.entries, logged.counted,
    denyList_fits logged.bounded, ?_, ?_⟩
  · intro address
    rw [← mem_survivors_iff, ← logged.entries]
  · exact fun now address => addToDenyList_fails_iff
  · exact fun now address => removeFromDenyList_fails_iff

namespace Local

/-- Two additions and a removal, and between them three changes that are refused: of an address that
is present, by someone else, and of one that is absent. -/
def denyListInputs : List ProgramInput :=
  [(context 300 ledger, .addToDenyList admin buyer),
    (context 301 ledger, .addToDenyList admin journal),
    (context 302 ledger, .addToDenyList admin buyer),
    (context 303 ledger, .removeFromDenyList admin buyer),
    (context 304 ledger, .addToDenyList buyer programConfig),
    (context 305 ledger, .removeFromDenyList admin buyer)]

end Local

/-- Of the six changes three are made, and the second addition survives. -/
theorem denyList_audited_local :
    let log := denyListLog
      (accepted (programHistory Local.platform Local.initial Local.denyListInputs))
    let state := runProgram Local.platform Local.initial Local.denyListInputs
    log = [.insert Local.buyer, .insert Local.journal, .remove Local.buyer] ∧
      state.denyListRegistry.deniedAddresses = survivors log ∧ survivors log = [Local.journal] ∧
      Local.journal ∈ state.denyListRegistry.deniedAddresses ∧
      Local.buyer ∉ state.denyListRegistry.deniedAddresses ∧
      state.denyListRegistry.updateCount.toNat = 3 ∧
      (∃ failure, addToDenyList (Local.context 306 Local.ledger) state
        state.programState.denyListAuthority Local.journal = .error failure) ∧
      ∃ failure, removeFromDenyList (Local.context 306 Local.ledger) state
        state.programState.denyListAuthority Local.buyer = .error failure := by
  intro log state
  obtain ⟨-, -, member_iff, entries, counted, -, adds, removes⟩ :=
    denyList_audited Local.platform Local.initializeSystem_ok Local.denyListInputs
  have log_eq : log = [.insert Local.buyer, .insert Local.journal, .remove Local.buyer] := by
    decide +kernel
  have present : Local.journal ∈ state.denyListRegistry.deniedAddresses := by
    refine (member_iff Local.journal).mpr ?_
    change (changesOf Local.journal log).getLast? = _
    rw [log_eq]
    decide +kernel
  have absent : Local.buyer ∉ state.denyListRegistry.deniedAddresses := by
    refine fun member => absurd ((member_iff Local.buyer).mp member) ?_
    change (changesOf Local.buyer log).getLast? ≠ _
    rw [log_eq]
    decide +kernel
  refine ⟨log_eq, entries, by rw [log_eq]; decide +kernel, present, absent, ?_,
    (adds _ _).mpr (.inl present), (removes _ _).mpr (.inl absent)⟩
  change _ = log.length at counted
  rw [counted, log_eq]
  rfl

namespace Local

/-- An address added to the deny list and removed from it, again and again. -/
def denyListCycles (cycles : ℕ) : List ProgramInput :=
  (List.replicate cycles
    [(context 300 ledger, .addToDenyList admin buyer),
      (context 300 ledger, .removeFromDenyList admin buyer)]).flatten

/-- So many cycles that one addition more exhausts the count. -/
def exhaustingInputs : List ProgramInput :=
  denyListCycles (2 ^ 63 - 1) ++ [(context 300 ledger, .addToDenyList admin buyer)]

/-- The authority's deny list before a change, with its count. -/
structure Counts (state : ConverterState) (deniedAddresses : List Pubkey) (count : ℕ) : Prop where
  authority : state.programState.denyListAuthority = admin
  denied : state.denyListRegistry.deniedAddresses = deniedAddresses
  counted : state.denyListRegistry.updateCount.toNat = count

theorem counts_add {state : ConverterState} {count : ℕ} (counts : Counts state [] count)
    (below : count < 2 ^ 64 - 1) :
    Counts (commit (processInstruction platform) state
      (context 300 ledger, .addToDenyList admin buyer)) [buyer] (count + 1) := by
  obtain ⟨authority, denied, counted⟩ := counts
  have succeeds :
      ∃ success, addToDenyList (context 300 ledger) state admin buyer = .ok success := by
    rw [addToDenyList_succeeds_iff, denied, counted]
    exact ⟨authority.symm, List.not_mem_nil, Nat.zero_lt_succ _, below⟩
  obtain ⟨⟨next, receipt⟩, success⟩ := succeeds
  have executed : processInstruction platform state
      (context 300 ledger, .addToDenyList admin buyer) = .ok (next, receipt) := success
  obtain ⟨-, -, -, updateCount, raised, rfl, -⟩ := addToDenyList_eq_ok_iff.mp success
  rw [addU64_eq_some, UInt64.toNat_one, counted] at raised
  rw [commit_ok _ executed]
  exact ⟨authority, by rw [denied, List.nil_append], raised.symm⟩

private theorem counts_remove {state : ConverterState} {count : ℕ}
    (counts : Counts state [buyer] count)
    (below : count < 2 ^ 64 - 1) :
    Counts (commit (processInstruction platform) state
      (context 300 ledger, .removeFromDenyList admin buyer)) [] (count + 1) := by
  obtain ⟨authority, denied, counted⟩ := counts
  have succeeds : ∃ success, removeFromDenyList (context 300 ledger) state admin buyer =
      .ok success := by
    rw [removeFromDenyList_succeeds_iff, denied, counted]
    exact ⟨authority.symm, List.mem_cons_self, below⟩
  obtain ⟨⟨next, receipt⟩, success⟩ := succeeds
  have executed : processInstruction platform state
      (context 300 ledger, .removeFromDenyList admin buyer) = .ok (next, receipt) := success
  obtain ⟨-, -, updateCount, raised, rfl, -⟩ := removeFromDenyList_eq_ok_iff.mp success
  rw [addU64_eq_some, UInt64.toNat_one, counted] at raised
  rw [commit_ok _ executed]
  exact ⟨authority, by rw [denied, List.erase_cons_head], raised.symm⟩

private theorem counts_denyListCycles (cycles : ℕ) {state : ConverterState} {count : ℕ}
    (counts : Counts state [] count) (below : count + 2 * cycles < 2 ^ 64) :
    Counts (runProgram platform state (denyListCycles cycles)) [] (count + 2 * cycles) := by
  induction cycles generalizing state count with
  | zero => exact counts
  | succ cycles ih =>
      have added := counts_add counts (by omega)
      have removed := counts_remove added (by omega)
      have later := ih removed (by omega)
      rw [denyListCycles, List.replicate_succ, List.flatten_cons, runProgram, run_append, run_cons,
        run_cons, run_nil]
      rw [show count + 2 * (cycles + 1) = count + 1 + 1 + 2 * cycles by omega]
      exact later

private theorem isSome_change_of_mem_cycles {cycles : ℕ} {input : ProgramInput}
    (member : input ∈ denyListCycles cycles) : input.2.change.isSome := by
  rw [denyListCycles, List.mem_flatten] at member
  obtain ⟨cycle, repeated, within⟩ := member
  obtain rfl := List.eq_of_mem_replicate repeated
  rcases List.mem_pair.mp within with rfl | rfl
  · rfl
  · rfl

private theorem counts_exhausted :
    Counts (runProgram platform initial exhaustingInputs) [buyer] (2 ^ 64 - 1) := by
  have initially : Counts initial [] 0 := ⟨rfl, rfl, rfl⟩
  have cycled := counts_denyListCycles (2 ^ 63 - 1) initially (by norm_num)
  have added := counts_add cycled (by norm_num)
  rw [exhaustingInputs, runProgram, run_snoc]
  exact added

private theorem refuses_of_exhausted {state : ConverterState}
    (counts : Counts state [buyer] (2 ^ 64 - 1)) :
    journal ∉ state.denyListRegistry.deniedAddresses ∧
      state.denyListRegistry.deniedAddresses.length < maxDenyListSize ∧
      ∃ failure, addToDenyList (context 300 ledger) state state.programState.denyListAuthority
        journal = .error failure := by
  obtain ⟨-, denied, counted⟩ := counts
  refine ⟨?_, ?_, addToDenyList_fails_iff.mpr (.inr (.inr counted))⟩
  · rw [denied, List.mem_singleton]
    decide
  · rw [denied]
    norm_num [maxDenyListSize]

end Local

/-- After `2 ^ 64 - 1` changes the authority cannot add an absent address to a list of one. -/
theorem denyList_count_exhausts :
    let state := runProgram Local.platform Local.initial Local.exhaustingInputs
    (∀ input ∈ Local.exhaustingInputs, input.2.change.isSome) ∧
      Local.journal ∉ state.denyListRegistry.deniedAddresses ∧
      state.denyListRegistry.deniedAddresses.length < maxDenyListSize ∧
      ∃ failure, addToDenyList (Local.context 300 Local.ledger) state
        state.programState.denyListAuthority Local.journal = .error failure := by
  refine ⟨?_, Local.refuses_of_exhausted Local.counts_exhausted⟩
  intro input member
  rcases List.mem_append.mp member with cycled | last
  · exact Local.isSome_change_of_mem_cycles cycled
  · rw [List.mem_singleton.mp last]
    rfl

end SolConversion.OnChain
