import Mathlib.Data.Finset.Card
import Mathlib.Data.List.Sort
import Mathlib.Order.Lattice
import SolConversion.Foundation.WhileLoop

/-!
# Reading a table page by page

A reader asks for page after page, each time behind the last key of the page before, until a page
names no last key.  The server sets the size of every page, and the table may change between two
pages.  The keys of the pages follow each other, so a row that is there all the time is read exactly
once, no key is read twice, and the reader comes to an end.
-/

namespace PagedRead

open Fallible

universe u v w

variable {κ : Type u} {α : Type v} {ε : Type (max u v)}

/-- One answer of the server. -/
structure Page (κ : Type u) (α : Type v) where
  items : Option (List α)
  lastEvaluatedKey : Option κ

/-- What has been read, the key to go on behind, and the number of requests so far. -/
structure Reading (κ : Type u) (α : Type v) where
  items : List α
  lastEvaluatedKey : Option κ
  requests : ℕ

/-- The server, request by request. -/
abbrev Server (κ : Type u) (α : Type v) (ε : Type (max u v)) := ℕ → Option κ → Except ε (Page κ α)

/-- One pass of the loop: ask behind the last key and keep the items. -/
def readPage (send : Server κ α ε) (reading : Reading κ α) : Except ε (Reading κ α) := do
  let result ← send reading.requests reading.lastEvaluatedKey
  return ⟨reading.items ++ result.items.getD [], result.lastEvaluatedKey, reading.requests + 1⟩

/-- `do … while (lastEvaluatedKey)` -/
def readPages (send : Server κ α ε) (fuel : ℕ) : Except ε (Reading κ α) :=
  readPage send ⟨[], none, 0⟩ >>=
    WhileLoop.run (fun reading => reading.lastEvaluatedKey.isSome) (readPage send) fuel

/-- All items of all pages. -/
def readAll (send : Server κ α ε) (fuel : ℕ) : Except ε (List α) :=
  (readPages send fuel).map Reading.items

/-- The readings behind which the loop asks for a page. -/
def Asks (send : Server κ α ε) (reading : Reading κ α) : Prop :=
  reading = ⟨[], none, 0⟩ ∨ ∃ first, readPage send ⟨[], none, 0⟩ = .ok first ∧
    WhileLoop.Enters (fun reading => reading.lastEvaluatedKey.isSome) (readPage send) first reading

/-- A page that the loop asks for is answered with a failure. -/
def FailsWith (send : Server κ α ε) (failure : ε) : Prop :=
  ∃ reading, Asks send reading ∧
    send reading.requests reading.lastEvaluatedKey = .error failure

theorem readPage_eq_error {send : Server κ α ε} {reading : Reading κ α} {failure : ε} :
    readPage send reading = .error failure ↔
      send reading.requests reading.lastEvaluatedKey = .error failure := by
  rw [readPage, bind_eq_error]
  constructor
  · rintro (failed | ⟨result, -, failed⟩)
    · exact failed
    · contradiction
  · exact .inl

/-- A read fails with the failure of one of its requests. -/
theorem failsWith_of_readPages {send : Server κ α ε} {fuel : ℕ} {failure : ε}
    (failed : readPages send fuel = .error failure) : FailsWith send failure := by
  obtain failed | ⟨first, first_page, rest⟩ := bind_eq_error.mp failed
  · exact ⟨_, .inl rfl, readPage_eq_error.mp failed⟩
  · obtain ⟨reached, entered, failed⟩ := WhileLoop.exists_failed_pass rest
    exact ⟨reached, .inr ⟨first, first_page, entered⟩, readPage_eq_error.mp failed⟩

section Contract

variable [LinearOrder κ]

/-- The key lies behind the start, which is in front of every key if there is none. -/
def behind (start : Option κ) (key : κ) : Bool := start.all (· < key)

/-- The key lies up to the stop, which is behind every key if there is none. -/
def upTo (stop : Option κ) (key : κ) : Bool := stop.all (key ≤ ·)

/-- What a server documents: a page holds the matching rows behind the start key and up to the last
key it names, in the order of their keys, as the table is shown at that time; and a last key lies
behind the start, among the keys the table ever has. -/
structure Answers (send : Server κ α ε) (key : α → κ) (matching : α → Bool) (table : ℕ → List α)
    (keys : Finset κ) : Prop where
  sorted : ∀ time, (table time).Pairwise fun row later => key row < key later
  items : ∀ time start result, send time start = .ok result →
    result.items.getD [] = (table time).filter fun row =>
      behind start (key row) && upTo result.lastEvaluatedKey (key row) && matching row
  progress : ∀ time start result stop, send time start = .ok result →
    result.lastEvaluatedKey = some stop → stop ∈ keys ∧ behind start stop = true

/-- The items read are those of the keys covered: what matched all the time, and nothing that never
matched, in the order of the keys. -/
structure Covers (key : α → κ) (matching : α → Bool) (table : ℕ → List α) (covered : κ → Bool)
    (requests : ℕ) (items : List α) : Prop where
  increasing : items.Pairwise fun row later => key row < key later
  sound : ∀ row ∈ items, matching row = true ∧ covered (key row) = true ∧
    ∃ time < requests, row ∈ table time
  complete : ∀ row, matching row = true → covered (key row) = true →
    (∀ time < requests, row ∈ table time) → row ∈ items

variable {send : Server κ α ε} {key : α → κ} {matching : α → Bool} {table : ℕ → List α}
  {keys : Finset κ} {requests : ℕ} {items : List α}

theorem behind_some {start key : κ} : behind (some start) key = true ↔ start < key := by
  simp [behind]

theorem upTo_some {stop key : κ} : upTo (some stop) key = true ↔ key ≤ stop := by
  simp [upTo]

/-- What is not behind a key is covered up to it. -/
theorem not_behind_some (start : κ) :
    (fun key => !behind (some start) key) = upTo (some start) := by
  funext key
  rw [Bool.eq_iff_iff, Bool.not_eq_true', ← Bool.not_eq_true, behind_some, upTo_some, not_lt]

private theorem covers_nil : Covers key matching table (fun key => !behind none key) 0 [] where
  increasing := .nil
  sound _ member := absurd member List.not_mem_nil
  complete _ _ covered := absurd covered Bool.false_ne_true

/-- A page covers the keys from its start key up to its last key. -/
theorem Covers.page (answers : Answers send key matching table keys) {start : Option κ}
    (covers : Covers key matching table (fun key => !behind start key) requests items)
    {result : Page κ α} (sent : send requests start = .ok result) :
    Covers key matching table (upTo result.lastEvaluatedKey) (requests + 1)
      (items ++ result.items.getD []) := by
  obtain ⟨increasing, sound, complete⟩ := covers
  have in_page : ∀ row, row ∈ result.items.getD [] ↔ row ∈ table requests ∧
      (behind start (key row) = true ∧ upTo result.lastEvaluatedKey (key row) = true) ∧
        matching row = true := by
    intro row
    rw [answers.items requests start result sent, List.mem_filter, Bool.and_eq_true,
      Bool.and_eq_true]
  have reached : ∀ other, behind start other = false →
      upTo result.lastEvaluatedKey other = true := by
    intro other before
    cases stop_eq : result.lastEvaluatedKey with
    | none => rfl
    | some stop =>
        obtain ⟨-, further⟩ := answers.progress requests start result stop sent stop_eq
        cases start with
        | none => contradiction
        | some first =>
            rw [← Bool.not_eq_true, behind_some, not_lt] at before
            exact upTo_some.mpr (before.trans (behind_some.mp further).le)
  constructor
  · rw [List.pairwise_append]
    refine ⟨increasing, ?_, fun row member later later_member => ?_⟩
    · rw [answers.items requests start result sent]
      exact (answers.sorted requests).filter _
    · obtain ⟨-, not_behind, -⟩ := sound row member
      obtain ⟨-, ⟨later_behind, -⟩, -⟩ := (in_page later).mp later_member
      cases start with
      | none => contradiction
      | some first =>
          rw [Bool.not_eq_true', ← Bool.not_eq_true, behind_some, not_lt] at not_behind
          exact lt_of_le_of_lt not_behind (behind_some.mp later_behind)
  · intro row member
    rcases List.mem_append.mp member with earlier | now
    · obtain ⟨matches_row, not_behind, time, before, present⟩ := sound row earlier
      exact ⟨matches_row, reached _ (by simpa using not_behind), time, by omega, present⟩
    · obtain ⟨present, ⟨-, covered⟩, matches_row⟩ := (in_page row).mp now
      exact ⟨matches_row, covered, requests, Nat.lt_succ_self _, present⟩
  · intro row matches_row covered present
    cases side : behind start (key row) with
    | false =>
        exact List.mem_append_left _ (complete row matches_row (by rw [side]; rfl)
          fun time before => present time (by omega))
    | true =>
        apply List.mem_append_right
        exact (in_page row).mpr ⟨present requests (Nat.lt_succ_self _), ⟨side, covered⟩,
          matches_row⟩

/-- The keys still to come, and one for the request that finds none. -/
def left (keys : Finset κ) (reading : Reading κ α) : ℕ :=
  match reading.lastEvaluatedKey with
  | some last => (keys.filter (last < ·)).card + 1
  | none => 0

theorem left_le (keys : Finset κ) (reading : Reading κ α) : left keys reading ≤ keys.card + 1 := by
  rw [left]
  split
  · exact Nat.succ_le_succ (Finset.card_filter_le _ _)
  · exact Nat.zero_le _

theorem left_pos (keys : Finset κ) (reading : Reading κ α)
    (goes_on : reading.lastEvaluatedKey.isSome = true) : 0 < left keys reading := by
  obtain ⟨last, last_eq⟩ := Option.isSome_iff_exists.mp goes_on
  rw [left, last_eq]
  exact Nat.succ_pos _

/-- Every page leaves fewer keys to come. -/
theorem left_decreases (answers : Answers send key matching table keys) :
    WhileLoop.Decreases (fun reading : Reading κ α => reading.lastEvaluatedKey.isSome)
      (readPage send) (left keys) := by
  intro reading next goes_on page
  obtain ⟨last, last_eq⟩ := Option.isSome_iff_exists.mp goes_on
  simp only [readPage, bind_eq_ok, pure_eq_ok] at page
  obtain ⟨result, sent, rfl⟩ := page
  rw [left, left, last_eq]
  cases stop_eq : result.lastEvaluatedKey with
  | none => exact Nat.succ_pos _
  | some stop =>
      rw [last_eq] at sent
      obtain ⟨within, further⟩ := answers.progress _ _ result stop sent stop_eq
      apply Nat.succ_lt_succ
      apply Finset.card_lt_card
      rw [Finset.ssubset_iff_of_subset]
      · refine ⟨stop, Finset.mem_filter.mpr ⟨within, behind_some.mp further⟩, fun member => ?_⟩
        exact lt_irrefl stop (Finset.mem_filter.mp member).2
      · intro other member
        obtain ⟨inside, above⟩ := Finset.mem_filter.mp member
        exact Finset.mem_filter.mpr ⟨inside, (behind_some.mp further).trans above⟩

/-- With enough requests a read fails exactly if one of them does. -/
theorem readPages_eq_error_iff (answers : Answers send key matching table keys) {fuel : ℕ}
    (enough : keys.card + 1 ≤ fuel) {failure : ε} :
    readPages send fuel = .error failure ↔ FailsWith send failure := by
  refine ⟨failsWith_of_readPages, ?_⟩
  rintro ⟨reading, rfl | ⟨first, first_page, entered⟩, failed⟩
  · rw [readPages, readPage_eq_error.mpr failed, error_bind]
  · rw [readPages, first_page, ok_bind]
    exact WhileLoop.run_of_failed_pass (left_decreases answers) (left_pos keys)
      ((left_le keys first).trans enough) entered (readPage_eq_error.mpr failed)

/-- With a request for every key and one more the loop ends by itself, and has covered every key. -/
theorem readPages_covers (answers : Answers send key matching table keys) {fuel : ℕ}
    (enough : keys.card + 1 ≤ fuel) {reading : Reading κ α}
    (finished : readPages send fuel = .ok reading) :
    reading.lastEvaluatedKey = none ∧
      Covers key matching table (fun _ => true) reading.requests reading.items := by
  rw [readPages, bind_eq_ok] at finished
  obtain ⟨first, first_page, finished⟩ := finished
  have stopped := WhileLoop.stopped_of_measure_le (left_decreases answers) (left_pos keys)
    ((left_le keys first).trans enough) finished
  have ended : reading.lastEvaluatedKey = none :=
    Option.not_isSome_iff_eq_none.mp (by simp [stopped])
  refine ⟨ended, ?_⟩
  have initially : Covers key matching table (upTo first.lastEvaluatedKey) first.requests
      first.items := by
    simp only [readPage, bind_eq_ok, pure_eq_ok] at first_page
    obtain ⟨result, sent, rfl⟩ := first_page
    exact covers_nil.page answers sent
  have kept : ∀ current next : Reading κ α, current.lastEvaluatedKey.isSome = true →
      Covers key matching table (upTo current.lastEvaluatedKey) current.requests current.items →
      readPage send current = .ok next →
      Covers key matching table (upTo next.lastEvaluatedKey) next.requests next.items := by
    intro current next goes_on covers page
    obtain ⟨last, last_eq⟩ := Option.isSome_iff_exists.mp goes_on
    simp only [readPage, bind_eq_ok, pure_eq_ok] at page
    obtain ⟨result, sent, rfl⟩ := page
    rw [last_eq] at sent
    rw [last_eq, ← not_behind_some] at covers
    exact covers.page answers sent
  have covered := WhileLoop.guarded_invariant kept initially finished
  rw [ended] at covered
  exact covered

/-- Of a table that nobody writes exactly the matching rows are read, in the order of their keys. -/
theorem readAll_of_rest {rows : List α} (answers : Answers send key matching (fun _ => rows) keys)
    {fuel : ℕ} (enough : keys.card + 1 ≤ fuel) {items : List α}
    (read : readAll send fuel = .ok items) : items = rows.filter matching := by
  obtain ⟨reading, finished, rfl⟩ := map_eq_ok.mp read
  obtain ⟨-, increasing, sound, complete⟩ := readPages_covers answers enough finished
  refine increasing.eq_of_mem_iff ((answers.sorted 0).filter matching) fun row => ?_
  rw [List.mem_filter]
  constructor
  · intro member
    obtain ⟨matches_row, -, time, -, present⟩ := sound row member
    exact ⟨present, matches_row⟩
  · rintro ⟨present, matches_row⟩
    exact complete row matches_row rfl fun _ _ => present

/-- The last key that is named when a page is cut off behind `size + 1` rows. -/
def lastKey (key : α → κ) (size : ℕ) (ahead : List α) : Option κ :=
  if size < ahead.length then (ahead.take (size + 1)).getLast?.map key else none

/-- A server of a table that changes between requests, with pages of at most `size + 1` rows. -/
def serve (key : α → κ) (matching : α → Bool) (table : ℕ → List α) (size : ℕ) : Server κ α ε :=
  fun time start =>
    let ahead := (table time).filter fun row => behind start (key row)
    .ok ⟨some ((ahead.take (size + 1)).filter matching), lastKey key size ahead⟩

omit [LinearOrder κ] in
theorem exists_last_of_lastKey {size : ℕ} {ahead : List α} {stop : κ}
    (stop_eq : lastKey key size ahead = some stop) :
    ∃ last, (ahead.take (size + 1)).getLast? = some last ∧ key last = stop := by
  rw [lastKey] at stop_eq
  split at stop_eq
  · exact Option.map_eq_some_iff.mp stop_eq
  · contradiction

/-- The first rows of a sorted table are those up to the last of them. -/
theorem filter_upTo_lastKey {ahead : List α}
    (sorted : ahead.Pairwise fun row later => key row < key later) (size : ℕ) :
    (ahead.filter fun row => upTo (lastKey key size ahead) (key row)) = ahead.take (size + 1) := by
  cases stop_eq : lastKey key size ahead with
  | none =>
      have short : ahead.length ≤ size := by
        by_contra long
        have some_row : ahead.take (size + 1) ≠ [] := by
          rw [Ne, List.take_eq_nil_iff, ← List.length_eq_zero_iff]
          omega
        rw [lastKey, if_pos (not_le.mp long), Option.map_eq_none_iff,
          List.getLast?_eq_none_iff] at stop_eq
        exact some_row stop_eq
      rw [List.take_of_length_le (by omega), List.filter_eq_self]
      exact fun _ _ => rfl
  | some stop =>
      obtain ⟨last, last_eq, rfl⟩ := exists_last_of_lastKey stop_eq
      obtain ⟨front, front_eq⟩ := List.getLast?_eq_some_iff.mp last_eq
      rw [← List.take_append_drop (size + 1) ahead, List.pairwise_append] at sorted
      obtain ⟨page_sorted, -, before_rest⟩ := sorted
      conv_lhs => rw [← List.take_append_drop (size + 1) ahead]
      rw [List.filter_append, List.filter_eq_self.mpr, List.filter_eq_nil_iff.mpr, List.append_nil]
      · intro row member
        rw [upTo_some, not_le]
        exact before_rest last (by simp [front_eq]) row member
      · intro row member
        rw [front_eq, List.pairwise_append] at page_sorted
        rw [front_eq, List.mem_append, List.mem_singleton] at member
        rw [upTo_some]
        rcases member with earlier | rfl
        · exact (page_sorted.2.2 row earlier last (List.mem_singleton_self last)).le
        · exact le_refl _

theorem answers_serve {keys : Finset κ}
    (sorted : ∀ time, (table time).Pairwise fun row later => key row < key later)
    (keyed : ∀ time, ∀ row ∈ table time, key row ∈ keys) (size : ℕ) :
    Answers (serve key matching table size : Server κ α ε) key matching table keys where
  sorted := sorted
  items time start result sent := by
    obtain rfl := Except.ok.inj sent
    simp only [Option.getD_some, ← filter_upTo_lastKey ((sorted time).filter _),
      List.filter_filter]
    apply List.filter_congr
    intro row _
    rw [Bool.and_comm, Bool.and_comm (upTo _ _)]
  progress time start result stop sent stop_eq := by
    obtain rfl := Except.ok.inj sent
    obtain ⟨last, last_eq, rfl⟩ := exists_last_of_lastKey stop_eq
    obtain ⟨inside, ahead⟩ :=
      List.mem_filter.mp (List.mem_of_mem_take (List.mem_of_getLast? last_eq))
    exact ⟨keyed time last inside, ahead⟩

theorem not_failsWith_serve {failure : ε} {size : ℕ} :
    ¬FailsWith (serve key matching table size : Server κ α ε) failure := by
  rintro ⟨reading, -, failed⟩
  contradiction

end Contract

end PagedRead
