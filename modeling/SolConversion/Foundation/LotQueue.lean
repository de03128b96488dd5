import Mathlib.Algebra.BigOperators.Group.List.Basic
import Mathlib.Algebra.Order.Ring.Nat
import Mathlib.Tactic.Linarith
import Mathlib.Tactic.Ring

/-!
# First-in first-out lots with pro-rata release

A lot is a quantity that carries a value.  A queue of lots is drained by quantity: whole lots leave
from the front, and the last one reached is split, its value following the quantity pro rata and
rounded down.  The rounding stays with the remaining lot, so no value is lost, and the accounts kept
for every lot ever opened bound what each release could have taken.
-/

namespace LotQueue

/-- A quantity and the value it carries. -/
structure Lot where
  quantity : ℕ
  value : ℕ
  deriving DecidableEq

/-- The part of a lot released for `taken` units of its quantity. -/
def Lot.part (lot : Lot) (taken : ℕ) : Lot :=
  ⟨taken, lot.value * taken / lot.quantity⟩

/-- What a release of `taken` units leaves behind. -/
def Lot.rest (lot : Lot) (taken : ℕ) : Lot :=
  ⟨lot.quantity - taken, lot.value - lot.value * taken / lot.quantity⟩

/-- An amount taken from the front lot, and whether it took the whole lot. -/
structure Release where
  lot : Lot
  closes : Bool
  deriving DecidableEq

/-- The releases that serve a demand, in order. -/
def released : ℕ → List Lot → List Release
  | _, [] => []
  | demand, lot :: queue =>
      if demand = 0 then []
      else if lot.quantity ≤ demand then ⟨lot, true⟩ :: released (demand - lot.quantity) queue
      else [⟨lot.part demand, false⟩]

/-- The queue left after a demand is served. -/
def remaining : ℕ → List Lot → List Lot
  | _, [] => []
  | demand, lot :: queue =>
      if demand = 0 then lot :: queue
      else if lot.quantity ≤ demand then remaining (demand - lot.quantity) queue
      else lot.rest demand :: queue

/-- Total quantity of a list of lots. -/
def quantity (lots : List Lot) : ℕ := (lots.map Lot.quantity).sum

/-- Total value of a list of lots. -/
def value (lots : List Lot) : ℕ := (lots.map Lot.value).sum

/-- The amounts of a list of releases. -/
def amounts (releases : List Release) : List Lot := releases.map Release.lot

/-- The number of lots closed by a list of releases. -/
def closings (releases : List Release) : ℕ := releases.countP Release.closes

@[simp] theorem quantity_nil : quantity [] = 0 := rfl

@[simp] theorem quantity_cons (lot : Lot) (lots : List Lot) :
    quantity (lot :: lots) = lot.quantity + quantity lots := by
  simp [quantity]

@[simp] theorem quantity_append (left right : List Lot) :
    quantity (left ++ right) = quantity left + quantity right := by
  simp [quantity]

@[simp] theorem value_nil : value [] = 0 := rfl

@[simp] theorem value_cons (lot : Lot) (lots : List Lot) :
    value (lot :: lots) = lot.value + value lots := by
  simp [value]

@[simp] theorem value_append (left right : List Lot) :
    value (left ++ right) = value left + value right := by
  simp [value]

@[simp] theorem amounts_nil : amounts [] = [] := rfl

@[simp] theorem amounts_cons (release : Release) (releases : List Release) :
    amounts (release :: releases) = release.lot :: amounts releases := rfl

@[simp] theorem amounts_append (first second : List Release) :
    amounts (first ++ second) = amounts first ++ amounts second := List.map_append

@[simp] theorem closings_nil : closings [] = 0 := rfl

@[simp] theorem closings_cons (release : Release) (releases : List Release) :
    closings (release :: releases) = closings releases + if release.closes then 1 else 0 := by
  simp [closings, List.countP_cons]

@[simp] theorem closings_append (first second : List Release) :
    closings (first ++ second) = closings first + closings second := List.countP_append

@[simp] theorem released_nil (demand : ℕ) : released demand [] = [] := rfl

@[simp] theorem remaining_nil (demand : ℕ) : remaining demand [] = [] := rfl

@[simp] theorem released_zero (queue : List Lot) : released 0 queue = [] := by
  cases queue <;> simp [released]

@[simp] theorem remaining_zero (queue : List Lot) : remaining 0 queue = queue := by
  cases queue <;> simp [remaining]

theorem released_whole {demand : ℕ} {lot : Lot} (positive : 0 < demand)
    (whole : lot.quantity ≤ demand) (queue : List Lot) :
    released demand (lot :: queue) = ⟨lot, true⟩ :: released (demand - lot.quantity) queue := by
  simp [released, whole, Nat.ne_of_gt positive]

theorem remaining_whole {demand : ℕ} {lot : Lot} (positive : 0 < demand)
    (whole : lot.quantity ≤ demand) (queue : List Lot) :
    remaining demand (lot :: queue) = remaining (demand - lot.quantity) queue := by
  simp [remaining, whole, Nat.ne_of_gt positive]

theorem released_split {demand : ℕ} {lot : Lot} (positive : 0 < demand)
    (short : demand < lot.quantity) (queue : List Lot) :
    released demand (lot :: queue) = [⟨lot.part demand, false⟩] := by
  simp [released, Nat.ne_of_gt positive, Nat.not_le.mpr short]

theorem remaining_split {demand : ℕ} {lot : Lot} (positive : 0 < demand)
    (short : demand < lot.quantity) (queue : List Lot) :
    remaining demand (lot :: queue) = lot.rest demand :: queue := by
  simp [remaining, Nat.ne_of_gt positive, Nat.not_le.mpr short]

theorem part_value_le {lot : Lot} {taken : ℕ} (short : taken ≤ lot.quantity) :
    (lot.part taken).value ≤ lot.value := by
  apply Nat.div_le_of_le_mul
  rw [Nat.mul_comm lot.quantity]
  exact Nat.mul_le_mul_left lot.value short

theorem part_add_rest_quantity {lot : Lot} {taken : ℕ} (short : taken ≤ lot.quantity) :
    (lot.part taken).quantity + (lot.rest taken).quantity = lot.quantity :=
  Nat.add_sub_cancel' short

theorem part_add_rest_value {lot : Lot} {taken : ℕ} (short : taken ≤ lot.quantity) :
    (lot.part taken).value + (lot.rest taken).value = lot.value :=
  Nat.add_sub_cancel' (part_value_le short)

/-- Induction over the passes that serve a demand: nothing left to do, a whole lot, or a split. -/
theorem drain_induction {motive : ℕ → List Lot → Prop}
    (empty : ∀ demand, motive demand [])
    (served : ∀ queue, motive 0 queue)
    (whole : ∀ demand lot queue, 0 < demand → lot.quantity ≤ demand →
      motive (demand - lot.quantity) queue → motive demand (lot :: queue))
    (split : ∀ demand lot queue, 0 < demand → demand < lot.quantity → motive demand (lot :: queue))
    (demand : ℕ) (queue : List Lot) : motive demand queue := by
  induction queue generalizing demand with
  | nil => exact empty demand
  | cons lot queue ih =>
      obtain rfl | positive := Nat.eq_zero_or_pos demand
      · exact served (lot :: queue)
      · obtain fits | short := Nat.lt_or_ge demand lot.quantity
        · exact split demand lot queue positive fits
        · exact whole demand lot queue positive short (ih (demand - lot.quantity))

/-- No quantity is lost or duplicated by a release. -/
theorem quantity_conserved (demand : ℕ) (queue : List Lot) :
    quantity (amounts (released demand queue)) + quantity (remaining demand queue) =
      quantity queue := by
  induction demand, queue using drain_induction with
  | empty demand => simp
  | served queue => simp
  | whole demand lot queue positive fits ih =>
      rw [released_whole positive fits, remaining_whole positive fits]
      simp only [amounts_cons, quantity_cons]
      omega
  | split demand lot queue positive short =>
      rw [released_split positive short, remaining_split positive short]
      have conserved := part_add_rest_quantity (Nat.le_of_lt short)
      simp only [amounts_cons, amounts_nil, quantity_cons, quantity_nil]
      omega

/-- No value is lost or duplicated by a release, whatever the rounding. -/
theorem value_conserved (demand : ℕ) (queue : List Lot) :
    value (amounts (released demand queue)) + value (remaining demand queue) = value queue := by
  induction demand, queue using drain_induction with
  | empty demand => simp
  | served queue => simp
  | whole demand lot queue positive fits ih =>
      rw [released_whole positive fits, remaining_whole positive fits]
      simp only [amounts_cons, value_cons]
      omega
  | split demand lot queue positive short =>
      rw [released_split positive short, remaining_split positive short]
      have conserved := part_add_rest_value (Nat.le_of_lt short)
      simp only [amounts_cons, amounts_nil, value_cons, value_nil]
      omega

/-- Every lot is either closed by a release or still in the queue. -/
theorem lots_conserved (demand : ℕ) (queue : List Lot) :
    closings (released demand queue) + (remaining demand queue).length = queue.length := by
  induction demand, queue using drain_induction with
  | empty demand => simp
  | served queue => simp
  | whole demand lot queue positive fits ih =>
      rw [released_whole positive fits, remaining_whole positive fits]
      simp only [closings_cons, if_true, List.length_cons]
      omega
  | split demand lot queue positive short =>
      rw [released_split positive short, remaining_split positive short]
      simp

/-- A demand is served in full unless the queue runs out. -/
theorem released_quantity (demand : ℕ) (queue : List Lot) :
    quantity (amounts (released demand queue)) = min demand (quantity queue) := by
  induction demand, queue using drain_induction with
  | empty demand => simp
  | served queue => simp
  | whole demand lot queue positive fits ih =>
      rw [released_whole positive fits]
      simp only [amounts_cons, quantity_cons, ih]
      omega
  | split demand lot queue positive short =>
      rw [released_split positive short]
      simp only [amounts_cons, amounts_nil, quantity_cons, quantity_nil, Lot.part]
      omega

/-- `after` is `before` or differs from it in one smaller front lot. -/
def Shrinks (before after : List Lot) : Prop :=
  after = before ∨
    ∃ lot taken back, 0 < taken ∧ taken < lot.quantity ∧
      before = lot :: back ∧ after = lot.rest taken :: back

/-- A release removes a prefix of the queue and shrinks at most the lot behind it. -/
theorem remaining_suffix (demand : ℕ) (queue : List Lot) :
    ∃ front back, queue = front ++ back ∧ Shrinks back (remaining demand queue) ∧
      front.length = closings (released demand queue) := by
  induction demand, queue using drain_induction with
  | empty demand => exact ⟨[], [], rfl, .inl rfl, rfl⟩
  | served queue => exact ⟨[], queue, rfl, .inl (remaining_zero queue), by simp⟩
  | whole demand lot queue positive fits ih =>
      obtain ⟨front, back, split, shrinks, closed⟩ := ih
      refine ⟨lot :: front, back, by rw [split, List.cons_append], ?_, ?_⟩
      · rwa [remaining_whole positive fits]
      · rw [released_whole positive fits]
        simp [closed]
  | split demand lot queue positive short =>
      refine ⟨[], lot :: queue, rfl, .inr ⟨lot, demand, queue, positive, short, rfl, ?_⟩, ?_⟩
      · exact remaining_split positive short queue
      · simp [released_split positive short]

/-- A demand ends inside a lot: the lot at the front afterwards held more before. -/
def StopsInside (demand : ℕ) (queue : List Lot) : Prop :=
  ∃ stored left, queue[closings (released demand queue)]? = some stored ∧
    (remaining demand queue).head? = some left ∧ left.quantity < stored.quantity

private theorem stopsInside_whole {demand : ℕ} {lot : Lot} {queue : List Lot}
    (positive : 0 < demand)
    (whole : lot.quantity ≤ demand) :
    StopsInside demand (lot :: queue) ↔ StopsInside (demand - lot.quantity) queue := by
  simp [StopsInside, released_whole positive whole, remaining_whole positive whole]

theorem stopsInside_split {demand : ℕ} {lot : Lot} {queue : List Lot} (positive : 0 < demand)
    (short : demand < lot.quantity) : StopsInside demand (lot :: queue) := by
  refine ⟨lot, lot.rest demand, ?_, ?_, ?_⟩
  · simp [released_split positive short]
  · simp [remaining_split positive short]
  · simp only [Lot.rest]
    omega

private theorem rest_value_scaled {lot : Lot} {taken : ℕ} (short : taken ≤ lot.quantity) :
    lot.quantity * (lot.rest taken).value =
      lot.value * (lot.rest taken).quantity + lot.value * taken % lot.quantity := by
  have divided := Nat.div_add_mod (lot.value * taken) lot.quantity
  have conserved := part_add_rest_value short
  obtain ⟨behind, quantity_eq⟩ := Nat.exists_eq_add_of_le short
  simp only [Lot.part, Lot.rest] at conserved ⊢
  rw [quantity_eq] at divided conserved ⊢
  rw [Nat.add_sub_cancel_left]
  have scaled : (taken + behind) * (lot.value * taken / (taken + behind)) +
      (taken + behind) * (lot.value - lot.value * taken / (taken + behind)) =
        lot.value * taken + lot.value * behind := by
    rw [← Nat.mul_add, conserved]
    ring
  omega

private theorem part_rest_part_value {lot : Lot} {first second : ℕ}
    (short : first + second < lot.quantity) :
    (lot.part first).value + ((lot.rest first).part second).value ≤
        (lot.part (first + second)).value ∧
      (lot.part (first + second)).value ≤
        (lot.part first).value + ((lot.rest first).part second).value + 1 := by
  have scaled := rest_value_scaled (show first ≤ lot.quantity by omega)
  have behind_gt : second < (lot.rest first).quantity := Nat.lt_sub_iff_add_lt'.mpr short
  have positive : 0 < lot.quantity := Nat.zero_lt_of_lt short
  have divided : lot.quantity * (lot.part first).value + lot.value * first % lot.quantity =
      lot.value * first := Nat.div_add_mod (lot.value * first) lot.quantity
  have remainder_lt := Nat.mod_lt (lot.value * first) positive
  have later_le : ((lot.rest first).part second).value * (lot.rest first).quantity ≤
      (lot.rest first).value * second := Nat.div_mul_le_self ..
  have later_gt : (lot.rest first).value * second <
      (((lot.rest first).part second).value + 1) * (lot.rest first).quantity :=
    Nat.lt_mul_of_div_lt (Nat.lt_succ_self _) (Nat.zero_lt_of_lt behind_gt)
  generalize (lot.rest first).quantity = behind at *
  generalize (lot.rest first).value = left at *
  generalize ((lot.rest first).part second).value = later at *
  generalize (lot.part first).value = earlier at *
  generalize lot.value * first % lot.quantity = remainder at *
  have cross : lot.quantity * (left * second) =
      behind * (lot.value * second) + remainder * second := by
    rw [← Nat.mul_assoc, scaled]
    ring
  constructor
  · -- the second floor is taken of a value that lacks the remainder of the first
    have bounded : behind * (lot.quantity * later) ≤
        behind * (lot.value * second + remainder) := by
      calc behind * (lot.quantity * later) = lot.quantity * (later * behind) := by ring
        _ ≤ lot.quantity * (left * second) := Nat.mul_le_mul_left _ later_le
        _ = behind * (lot.value * second) + remainder * second := cross
        _ ≤ behind * (lot.value * second) + remainder * behind :=
          Nat.add_le_add_left (Nat.mul_le_mul_left _ behind_gt.le) _
        _ = behind * (lot.value * second + remainder) := by ring
    have cancelled := Nat.le_of_mul_le_mul_left bounded (Nat.zero_lt_of_lt behind_gt)
    simp only [Lot.part]
    rw [Nat.le_div_iff_mul_le positive, Nat.add_mul, Nat.mul_add, Nat.mul_comm earlier,
      Nat.mul_comm later]
    omega
  · have bounded : behind * (lot.value * second) <
        behind * (lot.quantity * (later + 1)) := by
      calc behind * (lot.value * second) ≤ lot.quantity * (left * second) := by omega
        _ < lot.quantity * ((later + 1) * behind) := Nat.mul_lt_mul_of_pos_left later_gt positive
        _ = behind * (lot.quantity * (later + 1)) := by ring
    have cancelled := Nat.lt_of_mul_lt_mul_left bounded
    simp only [Lot.part]
    apply Nat.lt_succ_iff.mp
    rw [Nat.div_lt_iff_lt_mul positive, Nat.mul_add lot.value,
      show (earlier + later + 1 + 1) * lot.quantity =
        lot.quantity * earlier + lot.quantity * (later + 1) + lot.quantity by ring]
    omega

/-- What two demands served in turn share with their sum served at once. -/
structure SplitAgrees (first second : ℕ) (queue : List Lot) : Prop where
  quantities : (remaining second (remaining first queue)).map Lot.quantity =
    (remaining (first + second) queue).map Lot.quantity
  closings_eq : closings (released first queue) +
      closings (released second (remaining first queue)) =
    closings (released (first + second) queue)
  value_le : value (amounts (released first queue)) +
      value (amounts (released second (remaining first queue))) ≤
    value (amounts (released (first + second) queue))
  le_value : value (amounts (released (first + second) queue)) ≤
    value (amounts (released first queue)) +
      value (amounts (released second (remaining first queue))) + 1
  /-- Value is held back only when both demands end inside the same lot. -/
  value_eq : value (amounts (released first queue)) +
        value (amounts (released second (remaining first queue))) =
      value (amounts (released (first + second) queue)) ∨
    StopsInside first queue ∧ StopsInside second (remaining first queue) ∧
      closings (released second (remaining first queue)) = 0

private theorem splitAgrees_whole {first second : ℕ} {lot : Lot} {queue : List Lot}
    (positive : 0 < first) (fits : lot.quantity ≤ first)
    (agrees : SplitAgrees (first - lot.quantity) second queue) :
    SplitAgrees first second (lot :: queue) := by
  have fits_sum : lot.quantity ≤ first + second := Nat.le_add_right_of_le fits
  have sum_positive : 0 < first + second := Nat.add_pos_left positive second
  have rest_eq : first + second - lot.quantity = first - lot.quantity + second :=
    Nat.sub_add_comm fits
  obtain ⟨quantities, closings_eq, value_le, le_value, value_eq⟩ := agrees
  constructor
  · rwa [remaining_whole positive fits, remaining_whole sum_positive fits_sum, rest_eq]
  · rw [released_whole positive fits, released_whole sum_positive fits_sum,
      remaining_whole positive fits, rest_eq]
    simp only [closings_cons, if_true]
    omega
  · rw [released_whole positive fits, released_whole sum_positive fits_sum,
      remaining_whole positive fits, rest_eq]
    simp only [amounts_cons, value_cons]
    omega
  · rw [released_whole positive fits, released_whole sum_positive fits_sum,
      remaining_whole positive fits, rest_eq]
    simp only [amounts_cons, value_cons]
    omega
  · rw [released_whole positive fits, released_whole sum_positive fits_sum,
      remaining_whole positive fits, rest_eq, stopsInside_whole positive fits]
    simp only [amounts_cons, value_cons]
    rcases value_eq with equal | inside
    · left
      omega
    · exact .inr inside

private theorem splitAgrees_rest {first second : ℕ} {lot : Lot} (queue : List Lot)
    (positive : 0 < first)
    (short : first < lot.quantity) (reached : lot.quantity ≤ first + second) :
    SplitAgrees first second (lot :: queue) := by
  have rest_fits : (lot.rest first).quantity ≤ second := Nat.sub_le_iff_le_add'.mpr reached
  have second_positive : 0 < second := by omega
  have sum_positive : 0 < first + second := Nat.add_pos_left positive second
  have rest_eq : second - (lot.rest first).quantity = first + second - lot.quantity := by
    simp only [Lot.rest]
    omega
  have conserved := part_add_rest_value (Nat.le_of_lt short)
  have released_eq : value (amounts (released first (lot :: queue))) +
      value (amounts (released second (remaining first (lot :: queue)))) =
        value (amounts (released (first + second) (lot :: queue))) := by
    rw [released_split positive short, remaining_split positive short,
      released_whole second_positive rest_fits, released_whole sum_positive reached, rest_eq]
    simp only [amounts_cons, amounts_nil, value_cons, value_nil]
    omega
  refine ⟨?_, ?_, released_eq.le, by omega, .inl released_eq⟩
  · rw [remaining_split positive short, remaining_whole second_positive rest_fits,
      remaining_whole sum_positive reached, rest_eq]
  · rw [released_split positive short, remaining_split positive short,
      released_whole second_positive rest_fits, released_whole sum_positive reached, rest_eq]
    simp

/-- Two demands that end inside one lot. -/
theorem splitAgrees_inside {first second : ℕ} {lot : Lot} (queue : List Lot)
    (positive : 0 < first) (second_positive : 0 < second)
    (short : first + second < lot.quantity) : SplitAgrees first second (lot :: queue) := by
  have first_short : first < lot.quantity := by omega
  have rest_short : second < (lot.rest first).quantity := Nat.lt_sub_iff_add_lt'.mpr short
  have sum_positive : 0 < first + second := Nat.add_pos_left positive second
  have rounded := part_rest_part_value short
  have stops : StopsInside first (lot :: queue) := stopsInside_split positive first_short
  have stops_again : StopsInside second (lot.rest first :: queue) :=
    stopsInside_split second_positive rest_short
  constructor
  · rw [remaining_split positive first_short, remaining_split second_positive rest_short,
      remaining_split sum_positive short]
    simp only [List.map_cons, Lot.rest, Nat.sub_sub]
  · rw [released_split positive first_short, remaining_split positive first_short,
      released_split second_positive rest_short, released_split sum_positive short]
    simp
  · rw [released_split positive first_short, remaining_split positive first_short,
      released_split second_positive rest_short, released_split sum_positive short]
    simpa using rounded.1
  · rw [released_split positive first_short, remaining_split positive first_short,
      released_split second_positive rest_short, released_split sum_positive short]
    simpa using rounded.2
  · right
    rw [remaining_split positive first_short]
    exact ⟨stops, stops_again, by simp [released_split second_positive rest_short]⟩

/-- Two demands leave the quantities their sum leaves and release its value up to one unit. -/
theorem splitAgrees (first second : ℕ) (queue : List Lot) : SplitAgrees first second queue := by
  induction first, queue using drain_induction with
  | empty first => constructor <;> simp
  | served queue => constructor <;> simp
  | whole first lot queue positive fits ih => exact splitAgrees_whole positive fits ih
  | split first lot queue positive short =>
      obtain rfl | second_positive := Nat.eq_zero_or_pos second
      · constructor <;> simp
      · obtain inside | reached := Nat.lt_or_ge (first + second) lot.quantity
        · exact splitAgrees_inside queue positive second_positive inside
        · exact splitAgrees_rest queue positive short reached

end LotQueue
