import SolConversion.Foundation.LotQueue

/-!
# Accounts of released lots

Every lot opened at the back of a queue keeps an account of the amounts released from it.  Releases
are credited to the oldest account still open.  The accounts then balance with the queue: a closed
account has paid out exactly its lot, and an open one has paid out its lot less the lot still
queued, at no more than the opening rate and at less than one unit of value per release below it.
-/

namespace LotQueue

/-- The amounts released so far from one opened lot. -/
structure Account where
  opened : Lot
  releases : List Lot
  closed : Bool
  deriving DecidableEq

/-- A new account without releases. -/
def Account.fresh (lot : Lot) : Account := ⟨lot, [], false⟩

/-- Record a release in an account. -/
def Account.post (account : Account) (release : Release) : Account :=
  { account with
    releases := account.releases ++ [release.lot]
    closed := release.closes }

/-- Credit a release to the oldest open account. -/
def credit (accounts : List Account) (release : Release) : List Account :=
  match accounts with
  | [] => []
  | account :: later =>
      if account.closed then account :: credit later release
      else account.post release :: later

/-- Credit releases one after another. -/
def creditAll (releases : List Release) (accounts : List Account) : List Account :=
  releases.foldl credit accounts

/-- The account has paid out its lot in full. -/
structure Account.Settled (account : Account) : Prop where
  closed : account.closed = true
  quantity_paid : quantity account.releases = account.opened.quantity
  value_paid : value account.releases = account.opened.value

/-- The account is open and `lot` is what it still has to pay out. -/
structure Account.Owes (account : Account) (lot : Lot) : Prop where
  open_account : account.closed = false
  quantity_balance : lot.quantity + quantity account.releases = account.opened.quantity
  value_balance : lot.value + value account.releases = account.opened.value
  quantity_left : 0 < account.opened.quantity → 0 < lot.quantity
  /-- The remainder is worth at least the opening rate. -/
  rate : account.opened.value * lot.quantity ≤ lot.value * account.opened.quantity
  /-- Each release withholds less than one unit of value. -/
  slack : 0 < account.releases.length →
    lot.value * account.opened.quantity <
      account.opened.value * lot.quantity + account.releases.length * account.opened.quantity

/-- The accounts of a queue: settled ones first, then one for every queued lot. -/
def Tracks (accounts : List Account) (queue : List Lot) : Prop :=
  ∃ settled live, accounts = settled ++ live ∧ (∀ account ∈ settled, account.Settled) ∧
    List.Forall₂ Account.Owes live queue

@[simp] theorem creditAll_nil (accounts : List Account) : creditAll [] accounts = accounts := rfl

@[simp] theorem creditAll_cons (release : Release) (releases : List Release)
    (accounts : List Account) :
    creditAll (release :: releases) accounts = creditAll releases (credit accounts release) := rfl

private theorem map_opened_credit (accounts : List Account) (release : Release) :
    (credit accounts release).map Account.opened = accounts.map Account.opened := by
  induction accounts with
  | nil => rfl
  | cons account later ih =>
      rw [credit]
      split
      · rw [List.map_cons, List.map_cons, ih]
      · rfl

theorem map_opened_creditAll (releases : List Release) (accounts : List Account) :
    (creditAll releases accounts).map Account.opened = accounts.map Account.opened := by
  induction releases generalizing accounts with
  | nil => rfl
  | cons release releases ih => rw [creditAll_cons, ih, map_opened_credit]

theorem tracks_nil : Tracks [] [] := ⟨[], [], rfl, by simp, .nil⟩

theorem credit_append {settled : List Account} (all_settled : ∀ account ∈ settled, account.Settled)
    {account : Account} (open_account : account.closed = false) (later : List Account)
    (release : Release) :
    credit (settled ++ account :: later) release =
      settled ++ account.post release :: later := by
  induction settled with
  | nil => simp [credit, open_account]
  | cons first settled ih =>
      have first_closed := (all_settled first List.mem_cons_self).closed
      have rest := ih fun other member => all_settled other (List.mem_cons_of_mem first member)
      simp [credit, first_closed, rest]

private theorem owes_fresh (lot : Lot) : (Account.fresh lot).Owes lot where
  open_account := rfl
  quantity_balance := rfl
  value_balance := rfl
  quantity_left := id
  rate := le_rfl
  slack := by simp [Account.fresh]

private theorem Account.Owes.close {account : Account} {lot : Lot} (owes : account.Owes lot) :
    (account.post ⟨lot, true⟩).Settled where
  closed := rfl
  quantity_paid := by
    have balance := owes.quantity_balance
    simp [Account.post]
    omega
  value_paid := by
    have balance := owes.value_balance
    simp [Account.post]
    omega

private theorem rate_after_part {openedQuantity openedValue taken left paid kept : ℕ}
    (taken_positive : 0 < taken)
    (rounded_down : paid * left ≤ kept * taken)
    (rate : openedValue * (taken + left) ≤ (paid + kept) * openedQuantity) :
    openedValue * left ≤ kept * openedQuantity := by
  have remainder : (paid + kept) * left ≤ kept * (taken + left) := by
    rw [Nat.add_mul, Nat.mul_add]
    omega
  have scaled : openedValue * left * (taken + left) ≤ kept * openedQuantity * (taken + left) :=
    calc
      openedValue * left * (taken + left) = openedValue * (taken + left) * left := by ring
      _ ≤ (paid + kept) * openedQuantity * left := Nat.mul_le_mul_right left rate
      _ = openedQuantity * ((paid + kept) * left) := by ring
      _ ≤ openedQuantity * (kept * (taken + left)) := Nat.mul_le_mul_left openedQuantity remainder
      _ = kept * openedQuantity * (taken + left) := by ring
  exact Nat.le_of_mul_le_mul_right scaled (by omega)

/-- A release withholds less than one unit of value more than its predecessors did. -/
theorem slack_after_part {openedQuantity openedValue taken left paid kept count : ℕ}
    (opened_positive : 0 < openedQuantity)
    (rounded : kept * taken < paid * left + (taken + left))
    (slack : (paid + kept) * openedQuantity ≤
      openedValue * (taken + left) + count * openedQuantity) :
    kept * openedQuantity < openedValue * left + (count + 1) * openedQuantity := by
  have remainder : kept * (taken + left) < (paid + kept) * left + (taken + left) := by
    rw [Nat.add_mul, Nat.mul_add]
    omega
  have scaled : kept * openedQuantity * (taken + left) <
      (openedValue * left + (count + 1) * openedQuantity) * (taken + left) :=
    calc
      kept * openedQuantity * (taken + left) = openedQuantity * (kept * (taken + left)) := by ring
      _ < openedQuantity * ((paid + kept) * left + (taken + left)) :=
          Nat.mul_lt_mul_of_pos_left remainder opened_positive
      _ = (paid + kept) * openedQuantity * left + openedQuantity * (taken + left) := by ring
      _ ≤ (openedValue * (taken + left) + count * openedQuantity) * left +
            openedQuantity * (taken + left) :=
          Nat.add_le_add_right (Nat.mul_le_mul_right left slack) _
      _ = (openedValue * left + openedQuantity) * (taken + left) +
            count * openedQuantity * left := by ring
      _ ≤ (openedValue * left + openedQuantity) * (taken + left) +
            count * openedQuantity * (taken + left) :=
          Nat.add_le_add_left (Nat.mul_le_mul_left _ (Nat.le_add_left left taken)) _
      _ = (openedValue * left + (count + 1) * openedQuantity) * (taken + left) := by ring
  exact Nat.lt_of_mul_lt_mul_right scaled

/-- The rounding bounds of one split, stated on the two parts. -/
theorem part_bounds {lot : Lot} {taken : ℕ} (short : taken < lot.quantity) :
    (lot.part taken).value * (lot.rest taken).quantity ≤ (lot.rest taken).value * taken ∧
      (lot.rest taken).value * taken <
        (lot.part taken).value * (lot.rest taken).quantity +
          (taken + (lot.rest taken).quantity) := by
  have quantity_split : taken + (lot.rest taken).quantity = lot.quantity :=
    part_add_rest_quantity (Nat.le_of_lt short)
  have value_split := part_add_rest_value (Nat.le_of_lt short)
  have quantity_positive : 0 < lot.quantity := by omega
  have floor_le : (lot.part taken).value * lot.quantity ≤ lot.value * taken :=
    Nat.div_mul_le_self (lot.value * taken) lot.quantity
  have lt_floor : lot.value * taken < (lot.part taken).value * lot.quantity + lot.quantity :=
    Nat.lt_div_mul_add quantity_positive
  rw [← quantity_split, ← value_split, Nat.mul_add, Nat.add_mul] at floor_le lt_floor
  constructor <;> omega

/-- A split release leaves the account owing the rest of the lot. -/
theorem Account.Owes.part {account : Account} {lot : Lot} {taken : ℕ} (owes : account.Owes lot)
    (positive : 0 < taken) (short : taken < lot.quantity) :
    (account.post ⟨lot.part taken, false⟩).Owes (lot.rest taken) := by
  have quantity_split : taken + (lot.rest taken).quantity = lot.quantity :=
    part_add_rest_quantity (Nat.le_of_lt short)
  have value_split := part_add_rest_value (Nat.le_of_lt short)
  obtain ⟨rounded_down, rounded⟩ := part_bounds short
  have quantity_balance := owes.quantity_balance
  have value_balance := owes.value_balance
  have rate := owes.rate
  rw [← quantity_split, ← value_split] at rate
  have slack : lot.value * account.opened.quantity ≤
      account.opened.value * lot.quantity +
        account.releases.length * account.opened.quantity := by
    obtain none | some := Nat.eq_zero_or_pos account.releases.length
    · have no_releases : account.releases = [] := List.length_eq_zero_iff.mp none
      simp only [no_releases, quantity_nil, value_nil,
        Nat.add_zero] at quantity_balance value_balance
      rw [quantity_balance, value_balance]
      exact Nat.le_add_right _ _
    · exact Nat.le_of_lt (owes.slack some)
  rw [← quantity_split, ← value_split] at slack
  exact
    { open_account := rfl
      quantity_balance := by
        simp [Account.post, Lot.part]
        omega
      value_balance := by
        simp [Account.post]
        omega
      quantity_left := fun _ => by omega
      rate := rate_after_part positive rounded_down rate
      slack := fun _ => by
        simpa [Account.post] using
          slack_after_part (by omega : 0 < account.opened.quantity) rounded slack }

/-- Opening a lot at the back of the queue opens an account behind the others. -/
theorem Tracks.open {accounts : List Account} {queue : List Lot} (tracks : Tracks accounts queue)
    (lot : Lot) : Tracks (accounts ++ [Account.fresh lot]) (queue ++ [lot]) := by
  obtain ⟨settled, live, rfl, all_settled, owing⟩ := tracks
  refine ⟨settled, live ++ [Account.fresh lot], by simp, all_settled, ?_⟩
  exact List.rel_append owing (.cons (owes_fresh lot) .nil)

/-- Crediting the releases of a demand keeps the accounts in balance with the queue. -/
theorem Tracks.drain {accounts : List Account} {queue : List Lot} (tracks : Tracks accounts queue)
    (demand : ℕ) :
    Tracks (creditAll (released demand queue) accounts) (remaining demand queue) := by
  induction demand, queue using drain_induction generalizing accounts with
  | empty demand => simpa using tracks
  | served queue => simpa using tracks
  | whole demand lot queue positive fits ih =>
      obtain ⟨settled, live, rfl, all_settled, owing⟩ := tracks
      cases owing with
      | @cons account _ live _ owes owing =>
        rw [released_whole positive fits, remaining_whole positive fits, creditAll_cons,
          credit_append all_settled owes.open_account]
        apply ih
        refine ⟨settled ++ [account.post ⟨lot, true⟩], live, by simp, ?_, owing⟩
        intro other member
        obtain old | new := List.mem_append.mp member
        · exact all_settled other old
        · rw [List.mem_singleton.mp new]
          exact owes.close
  | split demand lot queue positive short =>
      obtain ⟨settled, live, rfl, all_settled, owing⟩ := tracks
      cases owing with
      | @cons account _ live _ owes owing =>
        rw [released_split positive short, remaining_split positive short, creditAll_cons,
          credit_append all_settled owes.open_account, creditAll_nil]
        exact ⟨settled, account.post ⟨lot.part demand, false⟩ :: live, rfl, all_settled,
          .cons (owes.part positive short) owing⟩

/-- What an open account still holds and has paid out make up the opened value at the opened
rate. -/
theorem Account.Owes.total {account : Account} {lot : Lot} (owes : account.Owes lot) :
    lot.value * account.opened.quantity + value account.releases * account.opened.quantity =
      account.opened.value * lot.quantity + account.opened.value * quantity account.releases := by
  rw [← Nat.add_mul, ← Nat.mul_add, owes.value_balance, owes.quantity_balance]

/-- An open account has paid out at most its share of the opened value. -/
theorem Account.Owes.paid_le {account : Account} {lot : Lot} (owes : account.Owes lot) :
    value account.releases * account.opened.quantity ≤
      account.opened.value * quantity account.releases := by
  have rate := owes.rate
  have total := owes.total
  omega

/-- An open account is less than one unit of value per release behind its share. -/
theorem Account.Owes.lt_paid {account : Account} {lot : Lot} (owes : account.Owes lot)
    (released : 0 < account.releases.length) :
    account.opened.value * quantity account.releases <
      (value account.releases + account.releases.length) * account.opened.quantity := by
  have slack := owes.slack released
  have total := owes.total
  rw [Nat.add_mul]
  omega

/-- What the accounts paid out and what is still queued is what was opened. -/
theorem Tracks.balance {accounts : List Account} {queue : List Lot}
    (tracks : Tracks accounts queue) :
    quantity (accounts.flatMap Account.releases) + quantity queue =
        quantity (accounts.map Account.opened) ∧
      value (accounts.flatMap Account.releases) + value queue =
        value (accounts.map Account.opened) := by
  obtain ⟨settled, live, rfl, all_settled, owing⟩ := tracks
  induction settled with
  | nil =>
      induction owing with
      | nil => exact ⟨rfl, rfl⟩
      | @cons account lot live queue owes _ ih =>
          have quantity_balance := owes.quantity_balance
          have value_balance := owes.value_balance
          obtain ⟨quantity_later, value_later⟩ := ih
          simp only [List.nil_append, List.flatMap_cons, List.map_cons, quantity_append,
            value_append, quantity_cons, value_cons] at quantity_later value_later ⊢
          omega
  | cons account settled ih =>
      obtain ⟨-, quantity_paid, value_paid⟩ := all_settled account List.mem_cons_self
      obtain ⟨quantity_later, value_later⟩ :=
        ih fun other member => all_settled other (List.mem_cons_of_mem account member)
      simp only [List.cons_append, List.flatMap_cons, List.map_cons, quantity_append,
        value_append, quantity_cons, value_cons] at quantity_later value_later ⊢
      omega

private theorem owes_at_index {live : List Account} {queue : List Lot}
    (owing : List.Forall₂ Account.Owes live queue) {position : ℕ} {account : Account}
    (found : live[position]? = some account) :
    ∃ lot, queue[position]? = some lot ∧ account.Owes lot := by
  induction owing generalizing position with
  | nil => simp at found
  | @cons first lot live queue owes _ ih =>
      cases position with
      | zero =>
          cases found
          exact ⟨lot, rfl, owes⟩
      | succ position => exact ih found

/-- The settled accounts come first; behind them the accounts owe the queued lots in order. -/
theorem Tracks.at_index {accounts : List Account} {queue : List Lot} {account : Account}
    {index closedCount : ℕ} (tracks : Tracks accounts queue)
    (found : accounts[index]? = some account)
    (closed_eq : closedCount + queue.length = accounts.length) :
    (index < closedCount ∧ account.Settled) ∨
      ∃ lot, closedCount ≤ index ∧ queue[index - closedCount]? = some lot ∧ account.Owes lot := by
  obtain ⟨settled, live, rfl, all_settled, owing⟩ := tracks
  have length_eq := owing.length_eq
  have settled_eq : settled.length = closedCount := by
    rw [List.length_append] at closed_eq
    omega
  subst settled_eq
  rcases Nat.lt_or_ge index settled.length with early | late
  · rw [List.getElem?_append_left early] at found
    exact .inl ⟨early, all_settled account (List.mem_of_getElem? found)⟩
  · rw [List.getElem?_append_right late] at found
    obtain ⟨lot, queued, owes⟩ := owes_at_index owing found
    exact .inr ⟨lot, late, queued, owes⟩

end LotQueue
