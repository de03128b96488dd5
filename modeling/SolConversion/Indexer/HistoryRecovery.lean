import SolConversion.Foundation.LabelledRun
import SolConversion.Indexer.PromisePool
import SolConversion.Indexer.Service

/-!
# History recovery

One call of `recoverHistory` next to the live subscription.  Transactions land at any time, the node
answers each request with a page of its own size, and the calls of `processTx` for a page settle in
any order.  The pages are consecutive stretches of the ledger from its end at the first request down
to the cursor, so every signature in between is processed once.
-/

namespace SolConversion.Indexer

open LabelledRun

variable {Event : Type}

/-- Where `recoverHistory` stands. -/
inductive RecoverHistory
  | getLastSignature
  /-- `getSignaturesForAddress` has been asked for a page. -/
  | getSignatures (lastSig : Signature) (before : Option Signature)
  /-- `promisePool` works on a page whose last signature is `before`. -/
  | promisePool (lastSig before : Signature) (pool : Pool Signature)
  | returned
  | threw

/-- The ledger, the stored cursor, the process and what the call has done so far. -/
structure RecoverySystem (Event : Type) where
  ledger : List (Transaction Event)
  /-- The stored cursor. -/
  lastProcessedSignature : Option Signature
  recovering : Bool
  position : RecoverHistory
  /-- The signatures given to `processTx` for the pages before the current one. -/
  earlier : List Signature
  /-- Some call of `processTx` has failed. -/
  failed : Bool
  endRecoveryCalls : ℕ
  /-- The length of the ledger when the first page was answered. -/
  firstPageAt : Option ℕ

/-- The service has just started with a stored cursor. -/
def RecoverySystem.start (ledger : List (Transaction Event)) (cursor : Option Signature) :
    RecoverySystem Event where
  ledger
  lastProcessedSignature := cursor
  recovering := true
  position := .getLastSignature
  earlier := []
  failed := false
  endRecoveryCalls := 0
  firstPageAt := none

/-- `endRecovery`, after which the call returns. -/
def RecoverySystem.endRecovery (system : RecoverySystem Event) : RecoverySystem Event :=
  { system with
    recovering := false
    position := .returned
    endRecoveryCalls := system.endRecoveryCalls + 1 }

/-- After `getLastSignature`: without a cursor there is nothing to recover. -/
def RecoverySystem.cursorRead (system : RecoverySystem Event) : RecoverySystem Event :=
  match system.lastProcessedSignature with
  | none => system.endRecovery
  | some lastSig => { system with position := .getSignatures lastSig none }

/-- After a page: an empty page is the last one. -/
def RecoverySystem.pageReceived (concurrency : ℤ) (system : RecoverySystem Event)
    (lastSig : Signature) (page : List Signature) : RecoverySystem Event :=
  match page.getLast? with
  | none => system.endRecovery
  | some before =>
      { system with
        position := .promisePool lastSig before (Indexer.promisePool concurrency page) }

/-- The end of a live run of `processTx` saves its signature, unless recovery goes on. -/
def RecoverySystem.tailed (system : RecoverySystem Event) (sig : Signature) :
    RecoverySystem Event :=
  if system.recovering then system else { system with lastProcessedSignature := some sig }

/-- The calls of the mapper so far, in order. -/
def RecoverHistory.called : RecoverHistory → List Signature
  | .promisePool _ _ pool => pool.calls.map Call.item
  | _ => []

/-- The signatures `processTx` has been called with, in order. -/
def RecoverySystem.processed (system : RecoverySystem Event) : List Signature :=
  system.earlier ++ system.position.called

/-- What can happen next. -/
inductive RecoveryAction (Event : Type)
  /-- The program takes part in a further transaction. -/
  | land (transaction : Transaction Event)
  /-- A live run of `processTx` returns. -/
  | tailed (sig : Signature)
  | cursorRead
  /-- The node answers with at most `size` signatures. -/
  | pageReceived (size : ℕ)
  | pool (action : PoolAction)
  | poolResolved
  | poolRejected

/-- Whether an action is a step of the call. -/
def RecoveryAction.own : RecoveryAction Event → Bool
  | .land _ => false
  | .tailed _ => false
  | _ => true

/-- One step under a concurrency limit. -/
inductive RecoveryStep (concurrency : ℤ) (system : RecoverySystem Event) :
    RecoveryAction Event → RecoverySystem Event → Prop
  | land (transaction : Transaction Event) :
      RecoveryStep concurrency system (.land transaction)
        { system with ledger := system.ledger ++ [transaction] }
  | tailed {sig : Signature} (landed : sig < system.ledger.length) :
      RecoveryStep concurrency system (.tailed sig) (system.tailed sig)
  | cursorRead (awaited : system.position = .getLastSignature) :
      RecoveryStep concurrency system .cursorRead system.cursorRead
  | pageReceived {lastSig : Signature} {before : Option Signature} {size : ℕ}
      (awaited : system.position = .getSignatures lastSig before)
      (sized : 0 < size ∧ size ≤ pageLimit) :
      RecoveryStep concurrency system (.pageReceived size)
        (RecoverySystem.pageReceived concurrency
          { system with firstPageAt := some (system.firstPageAt.getD system.ledger.length) }
          lastSig (getSignaturesForAddress system.ledger before size lastSig))
  | pool {lastSig before : Signature} {pool next : Pool Signature} {action : PoolAction}
      (awaited : system.position = .promisePool lastSig before pool)
      (step : PoolStep concurrency pool action next) :
      RecoveryStep concurrency system (.pool action)
        { system with
          position := .promisePool lastSig before next
          failed := system.failed || action.fails }
  | poolResolved {lastSig before : Signature} {pool : Pool Signature}
      (awaited : system.position = .promisePool lastSig before pool)
      (resolved : pool.position = .resolved) :
      RecoveryStep concurrency system .poolResolved
        { system with
          position := .getSignatures lastSig (some before)
          earlier := system.processed }
  | poolRejected {lastSig before : Signature} {pool : Pool Signature}
      (awaited : system.position = .promisePool lastSig before pool)
      (rejected : pool.position = .rejected) :
      RecoveryStep concurrency system .poolRejected
        { system with
          position := .threw
          earlier := system.processed }

theorem page_cases (ledger : List (Transaction Event)) (before : Option Signature) {size : ℕ}
    (positive : 0 < size) (lastSig : Signature) :
    ((getSignaturesForAddress ledger before size lastSig).getLast? = none ∧
        before.getD ledger.length ≤ lastSig + 1) ∨
      ∃ oldest, (getSignaturesForAddress ledger before size lastSig).getLast? = some oldest ∧
        lastSig < oldest ∧ oldest < before.getD ledger.length ∧
        getSignaturesForAddress ledger before size lastSig =
          (List.Ico oldest (before.getD ledger.length)).reverse := by
  have page_eq := getSignaturesForAddress_eq ledger before size lastSig
  rw [page_eq, List.getLast?_reverse]
  generalize before.getD ledger.length = upper
  rcases Nat.lt_or_ge (max (lastSig + 1) (upper - size)) upper with within | beyond
  · refine .inr ⟨max (lastSig + 1) (upper - size), ?_, ?_, within, rfl⟩
    · rw [List.Ico.eq_cons within, List.head?_cons]
    · exact Nat.lt_of_succ_le (Nat.le_max_left _ _)
  · refine .inl ⟨by rw [List.Ico.eq_nil_of_le beyond, List.head?_nil], ?_⟩
    rcases Nat.le_total (lastSig + 1) (upper - size) with first | second
    · rw [Nat.max_eq_right first] at beyond
      omega
    · rw [Nat.max_eq_left second] at beyond
      exact beyond

private theorem reverse_ico_append {oldest middle upper : ℕ} (below : oldest ≤ middle)
    (above : middle ≤ upper) :
    (List.Ico middle upper).reverse ++ (List.Ico oldest middle).reverse =
      (List.Ico oldest upper).reverse := by
  rw [← List.reverse_append, List.Ico.append_consecutive below above]

/-- While the call goes on, nothing has been recovered and no cursor is saved. -/
structure RecoverySystem.Underway (lastSig : Signature) (system : RecoverySystem Event) : Prop where
  recovering : system.recovering = true
  not_ended : system.endRecoveryCalls = 0
  cursor_eq : system.lastProcessedSignature = some lastSig

/-- What a call that started with a cursor has covered: everything from the first page down to the
last signature of the previous one. -/
inductive Covers (lastSig : Signature) (system : RecoverySystem Event) : Prop
  | started (position_eq : system.position = .getLastSignature) (underway : system.Underway lastSig)
      (earlier_eq : system.earlier = []) (intact : system.failed = false)
      (unanswered : system.firstPageAt = none)
  | asked (position_eq : system.position = .getSignatures lastSig none)
      (underway : system.Underway lastSig) (earlier_eq : system.earlier = [])
      (intact : system.failed = false) (unanswered : system.firstPageAt = none)
  | paging {before upper : Signature}
      (position_eq : system.position = .getSignatures lastSig (some before))
      (underway : system.Underway lastSig) (intact : system.failed = false)
      (answered : system.firstPageAt = some upper) (newer : lastSig < before)
      (within : before ≤ upper) (earlier_eq : system.earlier = (List.Ico before upper).reverse)
  | pooling {before above upper : Signature} {pool : Pool Signature}
      (position_eq : system.position = .promisePool lastSig before pool)
      (underway : system.Underway lastSig) (failed_iff : system.failed = true ↔ pool.Failed)
      (answered : system.firstPageAt = some upper) (newer : lastSig < before)
      (below : before < above) (within : above ≤ upper)
      (earlier_eq : system.earlier = (List.Ico above upper).reverse)
      (sound : pool.Sound (List.Ico before above).reverse)
  | returned {upper : Signature} (position_eq : system.position = .returned)
      (ended : system.endRecoveryCalls = 1) (intact : system.failed = false)
      (answered : system.firstPageAt = some upper)
      (earlier_eq : system.earlier = (List.Ico (lastSig + 1) upper).reverse)
  | threw {upper : Signature} (position_eq : system.position = .threw)
      (underway : system.Underway lastSig) (failed : system.failed = true)
      (answered : system.firstPageAt = some upper)

/-- What is covered while a call stands at a position. -/
def CoveredAt (lastSig : Signature) (system : RecoverySystem Event) : RecoverHistory → Prop
  | .getLastSignature =>
      system.Underway lastSig ∧ system.earlier = [] ∧ system.failed = false ∧
        system.firstPageAt = none
  | .getSignatures asked none =>
      asked = lastSig ∧ system.Underway lastSig ∧ system.earlier = [] ∧ system.failed = false ∧
        system.firstPageAt = none
  | .getSignatures asked (some before) =>
      asked = lastSig ∧ system.Underway lastSig ∧ system.failed = false ∧ lastSig < before ∧
        ∃ upper, before ≤ upper ∧ system.firstPageAt = some upper ∧
          system.earlier = (List.Ico before upper).reverse
  | .promisePool asked before pool =>
      asked = lastSig ∧ system.Underway lastSig ∧ (system.failed = true ↔ pool.Failed) ∧
        lastSig < before ∧ ∃ above upper, before < above ∧ above ≤ upper ∧
          system.firstPageAt = some upper ∧ system.earlier = (List.Ico above upper).reverse ∧
          pool.Sound (List.Ico before above).reverse
  | .returned =>
      system.endRecoveryCalls = 1 ∧ system.failed = false ∧
        ∃ upper, system.firstPageAt = some upper ∧
          system.earlier = (List.Ico (lastSig + 1) upper).reverse
  | .threw =>
      system.Underway lastSig ∧ system.failed = true ∧ ∃ upper, system.firstPageAt = some upper

section Steps

variable {concurrency : ℤ} {lastSig : Signature} {system next : RecoverySystem Event}
  {action : RecoveryAction Event}

private theorem covers_start (ledger : List (Transaction Event)) (lastSig : Signature) :
    Covers lastSig (.start ledger (some lastSig)) :=
  .started rfl ⟨rfl, rfl, rfl⟩ rfl rfl rfl

private theorem covers_land (covers : Covers lastSig system) (ledger : List (Transaction Event)) :
    Covers lastSig { system with ledger } := by
  cases covers with
  | started position_eq underway earlier_eq intact unanswered =>
      exact .started position_eq ⟨underway.1, underway.2, underway.3⟩ earlier_eq intact unanswered
  | asked position_eq underway earlier_eq intact unanswered =>
      exact .asked position_eq ⟨underway.1, underway.2, underway.3⟩ earlier_eq intact unanswered
  | paging position_eq underway intact answered newer within earlier_eq =>
      exact .paging position_eq ⟨underway.1, underway.2, underway.3⟩ intact answered newer within
        earlier_eq
  | pooling position_eq underway failed_iff answered newer below within earlier_eq sound =>
      exact .pooling position_eq ⟨underway.1, underway.2, underway.3⟩ failed_iff answered newer
        below within earlier_eq sound
  | returned position_eq ended intact answered earlier_eq =>
      exact .returned position_eq ended intact answered earlier_eq
  | threw position_eq underway failed answered =>
      exact .threw position_eq ⟨underway.1, underway.2, underway.3⟩ failed answered

theorem Covers.coveredAt (covers : Covers lastSig system) {position : RecoverHistory}
    (awaited : system.position = position) : CoveredAt lastSig system position := by
  subst awaited
  cases covers with
  | started position_eq underway earlier_eq intact unanswered =>
      rw [position_eq]
      exact ⟨underway, earlier_eq, intact, unanswered⟩
  | asked position_eq underway earlier_eq intact unanswered =>
      rw [position_eq]
      exact ⟨rfl, underway, earlier_eq, intact, unanswered⟩
  | paging position_eq underway intact answered newer within earlier_eq =>
      rw [position_eq]
      exact ⟨rfl, underway, intact, newer, _, within, answered, earlier_eq⟩
  | pooling position_eq underway failed_iff answered newer below within earlier_eq sound =>
      rw [position_eq]
      exact ⟨rfl, underway, failed_iff, newer, _, _, below, within, answered, earlier_eq, sound⟩
  | returned position_eq ended intact answered earlier_eq =>
      rw [position_eq]
      exact ⟨ended, intact, _, answered, earlier_eq⟩
  | threw position_eq underway failed answered =>
      rw [position_eq]
      exact ⟨underway, failed, _, answered⟩

/-- A call that has not returned is under way. -/
theorem Covers.underway (covers : Covers lastSig system)
    (unreturned : system.position ≠ .returned) : system.Underway lastSig := by
  cases covers with
  | returned position_eq => exact absurd position_eq unreturned
  | started _ underway => exact underway
  | asked _ underway => exact underway
  | paging _ underway => exact underway
  | pooling _ underway => exact underway
  | threw _ underway => exact underway

theorem Covers.not_threw (covers : Covers lastSig system) (intact : system.failed = false) :
    system.position ≠ .threw := by
  intro position_eq
  obtain ⟨-, failed, -⟩ := covers.coveredAt position_eq
  exact Bool.noConfusion (intact.symm.trans failed)

private theorem Covers.not_returned (covers : Covers lastSig system)
    (failed : system.failed = true) :
    system.position ≠ .returned := by
  intro position_eq
  obtain ⟨-, intact, -⟩ := covers.coveredAt position_eq
  exact Bool.noConfusion (intact.symm.trans failed)

private theorem covers_tailed (covers : Covers lastSig system) (sig : Signature) :
    Covers lastSig (system.tailed sig) := by
  rw [RecoverySystem.tailed]
  split
  · exact covers
  · rename_i ended
    cases covers with
    | returned position_eq ended intact answered earlier_eq =>
        exact .returned position_eq ended intact answered earlier_eq
    | started _ underway => exact absurd underway.recovering ended
    | asked _ underway => exact absurd underway.recovering ended
    | paging _ underway => exact absurd underway.recovering ended
    | pooling _ underway => exact absurd underway.recovering ended
    | threw _ underway => exact absurd underway.recovering ended

theorem cursorRead_eq (cursor_eq : system.lastProcessedSignature = some lastSig) :
    system.cursorRead = { system with position := .getSignatures lastSig none } := by
  cases system
  cases cursor_eq
  rfl

private theorem covers_cursorRead (covers : Covers lastSig system)
    (awaited : system.position = .getLastSignature) : Covers lastSig system.cursorRead := by
  obtain ⟨underway, earlier_eq, intact, unanswered⟩ := covers.coveredAt awaited
  rw [cursorRead_eq underway.cursor_eq]
  exact .asked rfl ⟨underway.1, underway.2, underway.3⟩ earlier_eq intact unanswered

theorem covers_page {before : Option Signature} {size upper : ℕ} (positive : 0 < size)
    (underway : system.Underway lastSig) (intact : system.failed = false)
    (answered : system.firstPageAt = some upper) (within : before.getD system.ledger.length ≤ upper)
    (newer : lastSig < before.getD system.ledger.length ∨
      before.getD system.ledger.length = upper)
    (earlier_eq : system.earlier =
      (List.Ico (before.getD system.ledger.length) upper).reverse) :
    Covers lastSig (system.pageReceived concurrency lastSig
      (getSignaturesForAddress system.ledger before size lastSig)) := by
  rw [RecoverySystem.pageReceived]
  rcases page_cases system.ledger before positive lastSig with
    ⟨last_eq, reached⟩ | ⟨oldest, last_eq, after_cursor, below, page_eq⟩
  · rw [last_eq]
    have ended : system.endRecoveryCalls + 1 = 1 := by
      rw [underway.not_ended]
    refine .returned rfl ended intact answered ?_
    rcases newer with after_cursor | first
    · have reached_eq : before.getD system.ledger.length = lastSig + 1 :=
        Nat.le_antisymm reached after_cursor
      rw [← reached_eq]
      exact earlier_eq
    · rw [first] at earlier_eq reached
      rw [List.Ico.eq_nil_of_le reached]
      rw [List.Ico.self_empty] at earlier_eq
      exact earlier_eq
  · rw [last_eq]
    refine .pooling rfl ⟨underway.1, underway.2, underway.3⟩ ?_ answered after_cursor below within
      earlier_eq ?_
    · have fresh := not_failed_promisePool concurrency
        (getSignaturesForAddress system.ledger before size lastSig)
      simp only [intact, Bool.false_eq_true, fresh]
    · rw [← page_eq]
      exact sound_promisePool concurrency _

private theorem covers_answer {before : Option Signature} {size : ℕ} {asked : Signature}
    (covers : Covers lastSig system) (awaited : system.position = .getSignatures asked before)
    (positive : 0 < size) :
    Covers lastSig (RecoverySystem.pageReceived concurrency
      { system with firstPageAt := some (system.firstPageAt.getD system.ledger.length) } asked
      (getSignaturesForAddress system.ledger before size asked)) := by
  cases before with
  | none =>
      obtain ⟨rfl, underway, earlier_eq, intact, unanswered⟩ := covers.coveredAt awaited
      have first : some (system.firstPageAt.getD system.ledger.length) =
          some system.ledger.length := by
        rw [unanswered, Option.getD_none]
      refine covers_page positive ⟨underway.1, underway.2, underway.3⟩ intact first le_rfl
        (.inr rfl) ?_
      rw [Option.getD_none, List.Ico.self_empty]
      exact earlier_eq
  | some before =>
      obtain ⟨rfl, underway, intact, newer, upper, within, answered, earlier_eq⟩ :=
        covers.coveredAt awaited
      have still : some (system.firstPageAt.getD system.ledger.length) = system.firstPageAt := by
        rw [answered, Option.getD_some]
      exact covers_page positive ⟨underway.1, underway.2, underway.3⟩ intact
        (still.trans answered) within (.inl newer) earlier_eq

/-- Every step keeps what the call has covered. -/
theorem covers_step (covers : Covers lastSig system)
    (step : RecoveryStep concurrency system action next) : Covers lastSig next := by
  cases step with
  | land transaction => exact covers_land covers _
  | tailed _ => exact covers_tailed covers _
  | cursorRead awaited => exact covers_cursorRead covers awaited
  | pageReceived awaited sized => exact covers_answer covers awaited sized.1
  | pool awaited step =>
      obtain ⟨rfl, underway, failed_iff, newer, above, upper, below, within, answered, earlier_eq,
        sound⟩ := covers.coveredAt awaited
      refine .pooling rfl ⟨underway.1, underway.2, underway.3⟩ ?_ answered newer below within
        earlier_eq (sound_step sound step)
      rw [Bool.or_eq_true, failed_iff, failed_step step]
  | poolResolved awaited resolved =>
      obtain ⟨rfl, underway, failed_iff, newer, above, upper, below, within, answered, earlier_eq,
        sound⟩ := covers.coveredAt awaited
      have intact : system.failed = false := by
        rw [← Bool.not_eq_true, failed_iff]
        exact not_failed_of_resolved sound resolved
      refine .paging rfl ⟨underway.1, underway.2, underway.3⟩ intact answered newer
        (below.le.trans within) ?_
      change system.earlier ++ system.position.called = _
      rw [awaited, earlier_eq, RecoverHistory.called, (fulfilled_of_resolved sound resolved).1,
        reverse_ico_append below.le within]
  | poolRejected awaited rejected =>
      obtain ⟨rfl, underway, failed_iff, -, above, upper, -, -, answered, -, sound⟩ :=
        covers.coveredAt awaited
      exact .threw rfl ⟨underway.1, underway.2, underway.3⟩
        (failed_iff.mpr (failed_of_rejected sound rejected)) answered

end Steps

/-! ## How many steps the call takes -/

/-- The steps a position has ahead of it after the first page: six for every signature left. -/
def RecoverHistory.work (lastSig : Signature) : RecoverHistory → ℕ
  | .getSignatures _ (some before) => 6 * (before - (lastSig + 1)) + 1
  | .promisePool _ before pool => 6 * (before - (lastSig + 1)) + 2 + pool.work
  | _ => 0

/-- The steps taken so far, and after the first page those still ahead, stay within the budget. -/
def Spends (lastSig : Signature) (spent : ℕ) (system : RecoverySystem Event) : Prop :=
  match system.position with
  | .getLastSignature => spent = 0
  | .getSignatures _ none => spent = 1
  | position => ∃ upper, system.firstPageAt = some upper ∧
      spent + position.work lastSig ≤ 2 + 6 * (upper - (lastSig + 1))

section Spending

variable {concurrency : ℤ} {lastSig : Signature} {system next : RecoverySystem Event}
  {action : RecoveryAction Event} {spent : ℕ}

theorem spends_page {before : Option Signature} {size upper : ℕ} (positive : 0 < size)
    (answered : system.firstPageAt = some upper)
    (within : spent + 1 + 6 * (before.getD system.ledger.length - (lastSig + 1)) ≤
      2 + 6 * (upper - (lastSig + 1))) :
    Spends lastSig (spent + 1) (system.pageReceived concurrency lastSig
      (getSignaturesForAddress system.ledger before size lastSig)) := by
  rw [RecoverySystem.pageReceived]
  rcases page_cases system.ledger before positive lastSig with
    ⟨last_eq, -⟩ | ⟨oldest, last_eq, after_cursor, below, page_eq⟩
  · rw [last_eq]
    exact ⟨upper, answered, Nat.le_trans (Nat.le_add_right _ _) within⟩
  · have pool_work := work_promisePool_le concurrency
      (getSignaturesForAddress system.ledger before size lastSig)
    have page_length : (getSignaturesForAddress system.ledger before size lastSig).length =
        before.getD system.ledger.length - oldest := by
      rw [page_eq, List.length_reverse, List.Ico.length]
    rw [last_eq]
    refine ⟨upper, answered, ?_⟩
    rw [RecoverHistory.work]
    have after_next := Nat.succ_le_of_lt after_cursor
    have gap := Nat.succ_le_of_lt below
    omega

/-- Every step of the call is paid for, and no other step costs anything. -/
theorem spends_step (covers : Covers lastSig system) (spends : Spends lastSig spent system)
    (step : RecoveryStep concurrency system action next) :
    Spends lastSig (spent + if action.own then 1 else 0) next := by
  cases step with
  | land transaction => exact spends
  | tailed landed =>
      change Spends lastSig spent (system.tailed _)
      rw [RecoverySystem.tailed]
      split
      · exact spends
      · exact spends
  | cursorRead awaited =>
      have underway := covers.underway (by rw [awaited]; exact RecoverHistory.noConfusion)
      rw [Spends, awaited] at spends
      rw [cursorRead_eq underway.cursor_eq, spends]
      rfl
  | @pageReceived asked before size awaited sized =>
      change Spends lastSig (spent + 1) _
      rw [Spends, awaited] at spends
      cases before with
      | none =>
          obtain ⟨rfl, -, -, -, unanswered⟩ := covers.coveredAt awaited
          have first : some (system.firstPageAt.getD system.ledger.length) =
              some system.ledger.length := by
            rw [unanswered, Option.getD_none]
          apply spends_page sized.1 first
          rw [show spent = 1 from spends]
          exact Nat.le_refl _
      | some before =>
          obtain ⟨rfl, -⟩ := covers.coveredAt awaited
          obtain ⟨upper, still, within⟩ := spends
          have same : some (system.firstPageAt.getD system.ledger.length) = some upper := by
            rw [still, Option.getD_some]
          apply spends_page sized.1 same
          rw [RecoverHistory.work] at within
          simp only [Option.getD_some]
          omega
  | pool awaited step =>
      obtain ⟨rfl, -, -, -, -⟩ := covers.coveredAt awaited
      have less := work_step step
      rw [Spends, awaited] at spends
      obtain ⟨upper, answered, within⟩ := spends
      refine ⟨upper, answered, ?_⟩
      simp only [RecoverHistory.work, RecoveryAction.own, if_true] at within ⊢
      omega
  | poolResolved awaited _ | poolRejected awaited _ =>
      rw [Spends, awaited] at spends
      obtain ⟨upper, answered, within⟩ := spends
      refine ⟨upper, answered, ?_⟩
      simp only [RecoverHistory.work, RecoveryAction.own, if_true] at within ⊢
      omega

theorem spent_le_of_spends (spends : Spends lastSig spent system) :
    spent ≤ 2 + 6 * (system.firstPageAt.getD 0 - (lastSig + 1)) := by
  rw [Spends] at spends
  split at spends
  · omega
  · omega
  · obtain ⟨upper, answered, within⟩ := spends
    rw [answered, Option.getD_some]
    omega

private theorem firstPageAt_step {upper : ℕ} (answered : system.firstPageAt = some upper)
    (step : RecoveryStep concurrency system action next) : next.firstPageAt = some upper := by
  cases step with
  | tailed _ =>
      rw [RecoverySystem.tailed]
      split <;> exact answered
  | cursorRead _ =>
      rw [RecoverySystem.cursorRead]
      split <;> exact answered
  | pageReceived _ _ =>
      have same : some (system.firstPageAt.getD system.ledger.length) = some upper := by
        rw [answered, Option.getD_some]
      rw [RecoverySystem.pageReceived]
      split <;> exact same
  | _ => exact answered

end Spending

section Runs

variable {concurrency : ℤ} {ledger : List (Transaction Event)} {lastSig : Signature}
  {actions : List (RecoveryAction Event)} {system : RecoverySystem Event}

/-- What a call has covered and spent after any run. -/
theorem covers_run
    (run : LabelledRun.Run (RecoveryStep concurrency) (.start ledger (some lastSig)) actions
      system) :
    Covers lastSig system ∧ Spends lastSig (actions.countP RecoveryAction.own) system := by
  apply run.history_invariant
  · exact ⟨covers_start ledger lastSig, rfl⟩
  · rintro past middle action next ⟨covers, spends⟩ step
    refine ⟨covers_step covers step, ?_⟩
    rw [List.countP_append, List.countP_singleton]
    exact spends_step covers spends step

private theorem exists_own_step (concurrency : ℤ) (covers : Covers lastSig system)
    (running : system.position ≠ .returned ∧ system.position ≠ .threw) :
    ∃ action next, action.own = true ∧ RecoveryStep concurrency system action next := by
  have one_allowed : 0 < 1 ∧ 1 ≤ pageLimit := by simp [pageLimit]
  cases covers with
  | started position_eq => exact ⟨_, _, rfl, .cursorRead position_eq⟩
  | asked position_eq => exact ⟨_, _, rfl, .pageReceived position_eq one_allowed⟩
  | paging position_eq => exact ⟨_, _, rfl, .pageReceived position_eq one_allowed⟩
  | @pooling _ _ _ pool position_eq _ _ _ _ _ _ _ sound =>
      by_cases ended : pool.position ≠ .resolved ∧ pool.position ≠ .rejected
      · obtain ⟨action, next, step⟩ := exists_step concurrency sound ended
        exact ⟨_, _, rfl, .pool position_eq step⟩
      · rcases not_and_or.mp ended with resolved | rejected
        · exact ⟨_, _, rfl, .poolResolved position_eq (not_not.mp resolved)⟩
        · exact ⟨_, _, rfl, .poolRejected position_eq (not_not.mp rejected)⟩
  | returned position_eq => exact absurd position_eq running.1
  | threw position_eq => exact absurd position_eq running.2

private theorem count_reverse_ico (lower upper sig : ℕ) :
    (List.Ico lower upper).reverse.count sig = if lower ≤ sig ∧ sig < upper then 1 else 0 := by
  rw [List.count_reverse, (List.Ico.nodup lower upper).count]
  simp only [List.Ico.mem]

/-- The own steps of an infinite run stay within a budget. -/
theorem exists_budget (trace : Trace (@RecoveryStep Event concurrency))
    (starts : trace.state 0 = .start ledger (some lastSig)) :
    ∃ budget, ∀ time, (trace.actions time).countP RecoveryAction.own ≤ budget := by
  have spends (time : ℕ) := (covers_run (starts ▸ trace.run time)).2
  by_cases answers : ∃ time upper, (trace.state time).firstPageAt = some upper
  · obtain ⟨first, upper, answered⟩ := answers
    have still : ∀ later, first ≤ later → (trace.state later).firstPageAt = some upper := by
      intro later waited
      induction waited with
      | refl => exact answered
      | step _ ih => exact firstPageAt_step ih (trace.taken _)
    refine ⟨2 + 6 * (upper - (lastSig + 1)), fun time => ?_⟩
    have counted := trace.countP_mono RecoveryAction.own (Nat.le_max_left time first)
    have bounded := spent_le_of_spends (spends (max time first))
    rw [still _ (Nat.le_max_right time first), Option.getD_some] at bounded
    exact counted.trans bounded
  · refine ⟨2, fun time => ?_⟩
    have unanswered : (trace.state time).firstPageAt = none := by
      cases answered : (trace.state time).firstPageAt with
      | none => rfl
      | some upper => exact absurd ⟨time, upper, answered⟩ answers
    have bounded := spent_le_of_spends (spends time)
    rw [unanswered, Option.getD_none, Nat.zero_sub] at bounded
    exact bounded

end Runs

/-- Recovery covers the gap: it goes on until it ends and takes a bounded number of steps; unless a
call of `processTx` fails it returns, having processed each signature newer than the cursor and
older than the first page's end once, and then ends recovery once; after a failure recovery is not
ended and the cursor stays. -/
theorem recoverHistory_covers_gap (concurrency : ℤ) (ledger : List (Transaction Event))
    (lastSig : Signature) :
    (∀ actions (system : RecoverySystem Event),
      LabelledRun.Run (RecoveryStep concurrency) (.start ledger (some lastSig)) actions system →
        (system.position ≠ .returned ∧ system.position ≠ .threw →
          ∃ action next, action.own = true ∧ RecoveryStep concurrency system action next) ∧
        actions.countP RecoveryAction.own ≤
          2 + 6 * (system.firstPageAt.getD 0 - (lastSig + 1)) ∧
        (system.failed = false → system.position ≠ .threw) ∧
        (system.position ≠ .returned → system.endRecoveryCalls = 0) ∧
        (system.position = .returned → system.endRecoveryCalls = 1 ∧
          ∃ upper, system.firstPageAt = some upper ∧
            ∀ sig, system.processed.count sig = if lastSig < sig ∧ sig < upper then 1 else 0) ∧
        (system.failed = true → system.endRecoveryCalls = 0 ∧
          system.lastProcessedSignature = some lastSig)) ∧
      ∀ trace : Trace (@RecoveryStep Event concurrency),
        trace.state 0 = .start ledger (some lastSig) →
        (∀ time, (trace.state time).failed = false) →
        (∀ time, (trace.state time).position ≠ .returned ∧
            (trace.state time).position ≠ .threw →
          ∃ later, time ≤ later ∧ (trace.action later).own = true) →
        ∃ time, (trace.state time).position = .returned := by
  constructor
  · intro actions system run
    obtain ⟨covers, spends⟩ := covers_run run
    refine ⟨exists_own_step concurrency covers, spent_le_of_spends spends, ?_, ?_, ?_, ?_⟩
    · exact covers.not_threw
    · exact fun unreturned => (covers.underway unreturned).not_ended
    · intro position_eq
      obtain ⟨ended, -, upper, answered, earlier_eq⟩ := covers.coveredAt position_eq
      refine ⟨ended, upper, answered, fun sig => ?_⟩
      have nothing_left : RecoverHistory.called .returned = [] := rfl
      rw [RecoverySystem.processed, position_eq, nothing_left, List.append_nil, earlier_eq,
        count_reverse_ico]
      rfl
    · intro failed
      have underway := covers.underway (covers.not_returned failed)
      exact ⟨underway.not_ended, underway.cursor_eq⟩
  · intro trace starts intact fair
    obtain ⟨budget, within⟩ := exists_budget trace starts
    obtain ⟨time, returned | threw⟩ := @Trace.ends _ _ _ trace _
      (fun system => system.position = .returned ∨ system.position = .threw) _ within
      fun time unended => fair time (not_or.mp unended)
    · exact ⟨time, returned⟩
    · have covers := (covers_run (starts ▸ trace.run time)).1
      exact absurd threw (covers.not_threw (intact time))

/-- A ledger of five transactions. -/
def fiveLanded : List (Transaction Unit) := List.replicate 5 ⟨false, []⟩

/-- Two pages and an empty one.  Two transactions land meanwhile, the live run of one of them ends,
and the two calls of the first page settle the other way round. -/
def growingRecovery : List (RecoveryAction Unit) :=
  [.cursorRead, .pageReceived 2, .pool (.settled 1 .fulfilled), .land ⟨false, []⟩,
    .pool (.completed 1), .pool .resumed, .tailed 5, .pool (.settled 0 .fulfilled),
    .pool (.completed 0), .pool .resumed, .poolResolved, .land ⟨false, []⟩, .pageReceived 1000,
    .pool (.settled 0 .fulfilled), .pool (.completed 0), .pool .resumed, .poolResolved,
    .pageReceived 1]

private theorem growingRecovery_returns : ∃ system,
    LabelledRun.Run (RecoveryStep 2) (.start fiveLanded (some 1)) growingRecovery system ∧
      system.position = .returned ∧ system.firstPageAt = some 5 ∧ system.ledger.length = 7 := by
  have sized : 0 < 2 ∧ 2 ≤ pageLimit := by simp [pageLimit]
  have largest : 0 < 1000 ∧ 1000 ≤ pageLimit := by simp [pageLimit]
  have smallest : 0 < 1 ∧ 1 ≤ pageLimit := by simp [pageLimit]
  have read : LabelledRun.Run (RecoveryStep 2) (.start fiveLanded (some 1)) _ _ :=
    .tail .refl (.cursorRead rfl)
  have first := read.tail (.pageReceived rfl sized)
  have settled := first.tail (.pool rfl (@PoolStep.settled _ _ _ 1 .fulfilled rfl))
  have landed := settled.tail (.land ⟨false, []⟩)
  have completed := landed.tail (.pool rfl (@PoolStep.completed _ _ _ 1 _ rfl))
  have raced := completed.tail (.pool rfl (.raceResolved rfl))
  have tailed := raced.tail (@RecoveryStep.tailed _ _ _ 5 (by decide))
  have settled := tailed.tail (.pool rfl (@PoolStep.settled _ _ _ 0 .fulfilled rfl))
  have completed := settled.tail (.pool rfl (@PoolStep.completed _ _ _ 0 _ rfl))
  have resolved := completed.tail (.pool rfl (.allResolved rfl (by decide)))
  have paged := resolved.tail (.poolResolved rfl rfl)
  have landed := paged.tail (.land ⟨false, []⟩)
  have second := landed.tail (.pageReceived rfl largest)
  have settled := second.tail (.pool rfl (@PoolStep.settled _ _ _ 0 .fulfilled rfl))
  have completed := settled.tail (.pool rfl (@PoolStep.completed _ _ _ 0 _ rfl))
  have resolved := completed.tail (.pool rfl (.allResolved rfl (by decide)))
  have paged := resolved.tail (.poolResolved rfl rfl)
  have ended := paged.tail (.pageReceived rfl smallest)
  exact ⟨_, ended, rfl, rfl, rfl⟩

/-- The first call of `processTx` fails while the other one is in flight. -/
def failingRecovery : List (RecoveryAction Unit) :=
  [.cursorRead, .pageReceived 2, .pool (.settled 0 .rejected), .pool (.completed 0),
    .pool .resumed, .poolRejected]

private theorem failingRecovery_throws : ∃ system,
    LabelledRun.Run (RecoveryStep 2) (.start fiveLanded (some 1)) failingRecovery system ∧
      system.position = .threw ∧ system.failed = true := by
  have sized : 0 < 2 ∧ 2 ≤ pageLimit := by simp [pageLimit]
  have read : LabelledRun.Run (RecoveryStep 2) (.start fiveLanded (some 1)) _ _ :=
    .tail .refl (.cursorRead rfl)
  have first := read.tail (.pageReceived rfl sized)
  have settled := first.tail (.pool rfl (@PoolStep.settled _ _ _ 0 .rejected rfl))
  have completed := settled.tail (.pool rfl (@PoolStep.completed _ _ _ 0 _ rfl))
  have raced := completed.tail (.pool rfl (.raceRejected rfl))
  have thrown := raced.tail (.poolRejected rfl rfl)
  exact ⟨_, thrown, rfl, rfl⟩

/-- Transactions go on landing. -/
def landing (system : RecoverySystem Unit) : Trace (@RecoveryStep Unit 2) where
  state time := { system with ledger := system.ledger ++ List.replicate time ⟨false, []⟩ }
  action _ := .land ⟨false, []⟩
  taken time := by
    rw [List.replicate_succ', ← List.append_assoc]
    exact .land ⟨false, []⟩

private theorem failed_of_step {concurrency : ℤ} {system next : RecoverySystem Event}
    {action : RecoveryAction Event} (step : RecoveryStep concurrency system action next)
    (failed : system.failed = true) : next.failed = true := by
  cases step with
  | pool => exact Bool.or_eq_true_iff.mpr (.inl failed)
  | tailed =>
      rw [RecoverySystem.tailed]
      split <;> exact failed
  | cursorRead =>
      rw [RecoverySystem.cursorRead]
      split <;> exact failed
  | pageReceived =>
      rw [RecoverySystem.pageReceived]
      split <;> exact failed
  | _ => exact failed

/-- The recovery that returns goes on as a fair infinite run without a failure. -/
theorem growingRecovery_goes_on : ∃ trace : Trace (@RecoveryStep Unit 2),
    trace.state 0 = .start fiveLanded (some 1) ∧ trace.actions 18 = growingRecovery ∧
      (∀ time, (trace.state time).failed = false) ∧
      ∀ time, (trace.state time).position ≠ .returned ∧ (trace.state time).position ≠ .threw →
        ∃ later, time ≤ later ∧ (trace.action later).own = true := by
  obtain ⟨system, run, returned, -, -⟩ := growingRecovery_returns
  obtain ⟨trace, starts, labels, follows⟩ :=
    run.exists_trace (landing system) (by simp [landing])
  have eighteen : growingRecovery.length = 18 := rfl
  rw [eighteen] at labels follows
  have ended (time : ℕ) : (trace.state (18 + time)).position = .returned := by
    rw [(follows time).1]
    exact returned
  refine ⟨trace, starts, labels, fun time => ?_, fun time unended => ?_⟩
  · by_contra failure
    have still (waited : ℕ) : (trace.state (time + waited)).failed = true := by
      induction waited with
      | zero => exact Bool.eq_true_of_not_eq_false failure
      | succ waited ih => exact failed_of_step (trace.taken _) ih
    have covers := (covers_run (starts ▸ trace.run (time + 18))).1
    refine covers.not_returned (still 18) ?_
    rw [Nat.add_comm]
    exact ended time
  · have early : time ≤ 17 := by
      by_contra late
      obtain ⟨waited, rfl⟩ := Nat.exists_eq_add_of_le (Nat.lt_of_not_le late)
      exact unended.1 (ended waited)
    refine ⟨17, early, ?_⟩
    have last : (trace.actions 18)[17]? = growingRecovery[17]? := by rw [labels]
    rw [Trace.actions, List.getElem?_map] at last
    have at_last : trace.action 17 = .pageReceived 1 := Option.some.inj last
    rw [at_last]
    rfl

theorem recoverHistory_covers_gap_local :
    (∃ system,
      LabelledRun.Run (RecoveryStep 2) (.start fiveLanded (some 1)) growingRecovery system ∧
        system.endRecoveryCalls = 1 ∧ system.ledger.length = 7 ∧
        ∀ sig, system.processed.count sig = if 1 < sig ∧ sig < 5 then 1 else 0) ∧
      (∃ system,
        LabelledRun.Run (RecoveryStep 2) (.start fiveLanded (some 1)) failingRecovery system ∧
          system.position = .threw ∧ system.endRecoveryCalls = 0 ∧
          system.lastProcessedSignature = some 1) ∧
      ∃ trace : Trace (@RecoveryStep Unit 2),
        trace.actions 18 = growingRecovery ∧ ∃ time, (trace.state time).position = .returned := by
  obtain ⟨contract, terminates⟩ := recoverHistory_covers_gap 2 fiveLanded 1
  refine ⟨?_, ?_, ?_⟩
  · obtain ⟨system, run, returned, answered, grown⟩ := growingRecovery_returns
    obtain ⟨-, -, -, -, covered, -⟩ := contract growingRecovery system run
    obtain ⟨ended, upper, answered_eq, counts⟩ := covered returned
    obtain rfl : 5 = upper := Option.some.inj (answered.symm.trans answered_eq)
    exact ⟨system, run, ended, grown, counts⟩
  · obtain ⟨system, run, threw, failed⟩ := failingRecovery_throws
    obtain ⟨-, -, -, -, -, spared⟩ := contract failingRecovery system run
    exact ⟨system, run, threw, spared failed⟩
  · obtain ⟨trace, starts, labels, intact, fair⟩ := growingRecovery_goes_on
    exact ⟨trace, labels, terminates trace starts intact fair⟩

end SolConversion.Indexer
