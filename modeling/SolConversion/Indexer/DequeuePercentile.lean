import SolConversion.Foundation.NearestRank
import SolConversion.Indexer.DailyBuckets

/-!
# The percentile of dequeued amounts

The reported percentile of a day is the amount of the nearest rank, of which there is only one.  So
it depends neither on the order in which the events are read nor on how equal amounts are sorted.
-/

namespace SolConversion.Indexer

open Calendar NearestRank ScriptNumber

/-- An amount that is a number. -/
def numeric (amount : ℚ) : Value := .number (.finite amount)

/-- The rank of the percentile among so many amounts. -/
def p95Rank (count : ℕ) : ℕ := ⌈(19 * count / 20 : ℚ)⌉₊

theorem p95Rank_bounds {count : ℕ} (positive : 0 < count) :
    0 < p95Rank count ∧ p95Rank count ≤ count := by
  have count_pos : (0 : ℚ) < count := Nat.cast_pos.mpr positive
  constructor
  · exact Nat.ceil_pos.mpr (by positivity)
  · apply Nat.ceil_le.mpr
    linarith

private theorem p95Index_exact (count : ℕ) : p95Index .exact count = (p95Rank count : ℤ) - 1 := by
  have product : (count : ℚ) * (95 / 100) = 19 * count / 20 := by ring
  have nonneg : (0 : ℚ) ≤ 19 * count / 20 := by positivity
  have ceil_eq : ⌈(19 * count / 20 : ℚ)⌉ = (p95Rank count : ℤ) :=
    (Int.natCast_ceil_eq_ceil nonneg).symm
  rw [← ceil_eq, ← product]
  rfl

private theorem sortedAmounts_numeric (amounts : List ℚ) :
    sortedAmounts .exact (amounts.map numeric) =
      (amounts.mergeSort fun a b => a ≤ b).map numeric := by
  symm
  apply List.map_mergeSort
  intro a _ b _
  have difference : inOrder .exact (numeric a) (numeric b) = !decide (0 < a + -b) := rfl
  rw [difference, ← decide_not, decide_eq_decide, not_lt, ← sub_eq_add_neg, sub_nonpos]

/-- The chosen amount exists and has the rank of the percentile. -/
theorem dayP95_numeric {amounts : List ℚ} (nonempty : amounts ≠ []) :
    (max 0 (p95Index .exact (amounts.map numeric).length)).toNat < amounts.length ∧
      ∃ p95, dayP95 .exact (amounts.map numeric) = some (numeric p95) ∧
        HasRank (p95Rank amounts.length) amounts p95 := by
  obtain ⟨rank_pos, rank_le⟩ := p95Rank_bounds (List.length_pos_iff.mpr nonempty)
  have index_eq : (max 0 (p95Index .exact (amounts.map numeric).length)).toNat =
      p95Rank amounts.length - 1 := by
    rw [p95Index_exact, List.length_map]
    omega
  have inside : p95Rank amounts.length - 1 < (amounts.mergeSort fun a b => a ≤ b).length := by
    rw [List.length_mergeSort]
    omega
  refine ⟨by omega, (amounts.mergeSort fun a b => a ≤ b)[p95Rank amounts.length - 1], ?_, ?_⟩
  · rw [dayP95, index_eq, sortedAmounts_numeric, List.getElem?_map,
      List.getElem?_eq_getElem inside, Option.map_some]
  · have ranked := hasRank_of_mergeSort (List.getElem?_eq_getElem inside)
    rwa [Nat.sub_add_cancel rank_pos] at ranked

private theorem dayP95_perm {amounts other : List ℚ} (nonempty : amounts ≠ [])
    (same : other.Perm amounts) :
    dayP95 .exact (other.map numeric) = dayP95 .exact (amounts.map numeric) := by
  have other_nonempty : other ≠ [] := by
    rintro rfl
    exact nonempty same.nil_eq.symm
  obtain ⟨-, p95, chosen, ranked⟩ := dayP95_numeric nonempty
  obtain ⟨-, otherP95, other_chosen, other_ranked⟩ := dayP95_numeric other_nonempty
  rw [same.length_eq] at other_ranked
  have within := (p95Rank_bounds (List.length_pos_iff.mpr nonempty)).2
  rw [chosen, other_chosen, (other_ranked.perm same).unique within ranked]

/-- The number an amount is, if it is one. -/
def amountOf : Value → ℚ
  | .number (.finite amount) => amount
  | _ => 0

def amountsOn (dequeueEvents : List DequeueEventData) (day : ℤ) : List ℚ :=
  (eventsOn DequeueEventData.timestamp dequeueEvents day).map fun event =>
    amountOf event.solDequeued

section Day

variable {fromDate toDate : Date} {day : ℤ} {dequeueEvents : List DequeueEventData}

theorem map_numeric_amountsOn (numeric_amounts : ∀ event ∈ dequeueEvents,
    dayOf event.timestamp = day → ∃ amount, event.solDequeued = numeric amount) :
    (eventsOn DequeueEventData.timestamp dequeueEvents day).map DequeueEventData.solDequeued =
      (amountsOn dequeueEvents day).map numeric := by
  rw [amountsOn, List.map_map]
  apply List.map_congr_left
  intro event member
  obtain ⟨listed, on_day⟩ := List.mem_filter.mp member
  obtain ⟨amount, amount_eq⟩ := numeric_amounts event listed (of_decide_eq_true on_day)
  rw [Function.comp_apply, amount_eq]
  rfl

/-- The bucket of a day shows the amount that has the rank of the percentile. -/
theorem dequeue_p95_nearest_rank (from_four : FourDigits fromDate) (to_four : FourDigits toDate)
    (inside : day ∈ daysBetween fromDate.toDay toDate.toDay)
    (numeric_amounts : ∀ event ∈ dequeueEvents, dayOf event.timestamp = day →
      ∃ amount, event.solDequeued = numeric amount)
    (nonempty : eventsOn DequeueEventData.timestamp dequeueEvents day ≠ []) :
    ∃ response bucket p95,
      handleDequeuesMetrics .exact dequeueEvents (requestFor fromDate toDate) = .ok response ∧
      bucket ∈ response.data ∧ bucket.dateBucket = bucketOf day ∧
      bucket.solDequeuedP95 = solText .exact (.finite p95) ∧
      (max 0 (p95Index .exact (amountsOn dequeueEvents day).length)).toNat <
        (amountsOn dequeueEvents day).length ∧
      HasRank (p95Rank (amountsOn dequeueEvents day).length) (amountsOn dequeueEvents day) p95 ∧
      ∀ otherEvents : List DequeueEventData, otherEvents.Perm dequeueEvents →
        dayP95 .exact ((eventsOn DequeueEventData.timestamp otherEvents day).map
          DequeueEventData.solDequeued) = some (numeric p95) := by
  have amounts_nonempty : amountsOn dequeueEvents day ≠ [] := by
    intro empty
    exact nonempty (List.map_eq_nil_iff.mp empty)
  obtain ⟨in_bounds, p95, chosen, ranked⟩ := dayP95_numeric amounts_nonempty
  rw [List.length_map] at in_bounds
  refine ⟨_, _, p95, handleDequeuesMetrics_eq from_four to_four .exact dequeueEvents,
    List.mem_map_of_mem inside, (count_dequeuesBucket ..).2, ?_, in_bounds, ranked, ?_⟩
  · rw [dequeuesBucket_of_ne_nil _ _ nonempty, map_numeric_amountsOn numeric_amounts, chosen]
    rfl
  · intro otherEvents same
    have other_numeric : ∀ event ∈ otherEvents, dayOf event.timestamp = day →
        ∃ amount, event.solDequeued = numeric amount := fun event member =>
      numeric_amounts event (same.mem_iff.mp member)
    have permuted : (amountsOn otherEvents day).Perm (amountsOn dequeueEvents day) :=
      (same.filter _).map _
    rw [map_numeric_amountsOn other_numeric, dayP95_perm amounts_nonempty permuted, chosen]

end Day

/-- Two events on the leap day. -/
def leapDayDequeues : List DequeueEventData :=
  [⟨1709164800, numeric 7⟩, ⟨1709164801, numeric 3⟩]

theorem dequeue_p95_nearest_rank_two : ∃ response bucket p95,
    handleDequeuesMetrics .exact leapDayDequeues (requestFor leapDay leapDay) = .ok response ∧
    bucket ∈ response.data ∧ bucket.dateBucket = bucketOf leapDay.toDay ∧
    bucket.solDequeuedP95 = solText .exact (.finite p95) ∧
    (max 0 (p95Index .exact (amountsOn leapDayDequeues leapDay.toDay).length)).toNat <
      (amountsOn leapDayDequeues leapDay.toDay).length ∧
    HasRank (p95Rank (amountsOn leapDayDequeues leapDay.toDay).length)
      (amountsOn leapDayDequeues leapDay.toDay) p95 ∧
    ∀ otherEvents : List DequeueEventData, otherEvents.Perm leapDayDequeues →
      dayP95 .exact ((eventsOn DequeueEventData.timestamp otherEvents leapDay.toDay).map
        DequeueEventData.solDequeued) = some (numeric p95) :=
  dequeue_p95_nearest_rank fourDigits_leapDay fourDigits_leapDay
    (mem_daysBetween.mpr ⟨le_refl _, le_refl _⟩)
    (by
      intro event member _
      rcases List.mem_pair.mp member with rfl | rfl
      · exact ⟨7, rfl⟩
      · exact ⟨3, rfl⟩)
    (List.cons_ne_nil _ _)

end SolConversion.Indexer
