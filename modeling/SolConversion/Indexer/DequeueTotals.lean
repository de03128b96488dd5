import Mathlib.Algebra.Order.BigOperators.Group.List
import Mathlib.Tactic.GCongr
import Mathlib.Tactic.Ring
import Std.Data.String.ToNat
import SolConversion.Indexer.DailyBuckets
import SolConversion.Indexer.EventTables

/-!
# Totals of dequeued amounts

An amount is stored as a number if it has at most 53 bits and as a text of digits otherwise.  The
reader adds the amounts of a day, and from the first text on it writes digits behind digits.  So a
total is right only if such a text meets zeros before it and nothing behind it, and if no amount
was lost: the table keeps one record of all the events under a key.
-/

namespace SolConversion.Indexer

open Calendar KeyedStore ScriptNumber

/-- An emitted event, with the transaction it belongs to. -/
structure FillsDequeued where
  sig : String
  slot : ℕ
  timestamp : ℤ
  data : List (String × JsValue)
  solDequeued : UInt64
  amount_eq : data.lookup "sol_dequeued" = some (.bn solDequeued.toNat)

/-- The record of an event. -/
def FillsDequeued.item (toBase58 : BitVec 256 → String) (event : FillsDequeued) : Item :=
  eventItem toBase58 event.sig event.slot event.timestamp ⟨fillsDequeuedName, event.data⟩

/-- The put of an event. -/
def FillsDequeued.record (toBase58 : BitVec 256 → String) (event : FillsDequeued) :
    RecordKey × Item :=
  ((event.item toBase58).key, event.item toBase58)

/-- The table after the puts of some events. -/
def dequeueTable (toBase58 : BitVec 256 → String) (events : List FillsDequeued) : Database :=
  putAll ∅ (events.map (FillsDequeued.record toBase58))

def Item.isDequeue : Item → Bool
  | .fillDequeue .. => true
  | _ => false

/-- An attribute of a record as the reader gets it. -/
def readAmount : JsValue → Option Value
  | .number value => some (.number (.finite value))
  | .string text => some (.text text)
  | _ => none

def readDequeue : Item → Option DequeueEventData
  | .fillDequeue _ timestamp _ _ solDequeued _ _ _ =>
      (readAmount solDequeued).map fun amount => ⟨timestamp, amount⟩
  | _ => none

/-- The records of a scan as the reader gets them. -/
def readBack (records : List (RecordKey × Item)) : List DequeueEventData :=
  records.filterMap fun record => readDequeue record.2

/-- The amounts of a day, as the reader gets them. -/
def dayAmounts (records : List (RecordKey × Item)) (day : ℤ) : List Value :=
  (eventsOn DequeueEventData.timestamp (readBack records) day).map DequeueEventData.solDequeued

/-- The number the total of a day stands for. -/
def totalOn (records : List (RecordKey × Item)) (day : ℤ) : Number :=
  (dayTotal .exact (dayAmounts records day)).toNumber id

/-- The amounts emitted on a day. -/
def lamportsOn (events : List FillsDequeued) (day : ℤ) : List ℕ :=
  (eventsOn FillsDequeued.timestamp events day).map fun event => event.solDequeued.toNat

/-- The answer shows the sum of the emitted amounts for every day. -/
def TotalsExact (fromDate toDate : Date) (events : List FillsDequeued)
    (records : List (RecordKey × Item)) : Prop :=
  ∃ response,
    handleDequeuesMetrics .exact (readBack records) (requestFor fromDate toDate) = .ok response ∧
    ∀ (place : ℕ) (day : ℤ), (daysBetween fromDate.toDay toDate.toDay)[place]? = some day →
      ∃ bucket, response.data[place]? = some bucket ∧
        bucket.solDequeuedTotal = solText .exact (totalOn records day) ∧
        totalOn records day = .finite (lamportsOn events day).sum

/-- The number an attribute stands for: small ones are stored as numbers, large ones as texts. -/
def JsValue.whole? : JsValue → Option ℕ
  | .number value => some value.num.toNat
  | .string text => text.toNat?
  | _ => none

/-- The lamports in a record. -/
def Item.lamports : Item → ℕ
  | .fillDequeue _ _ _ _ solDequeued _ _ _ => solDequeued.whole?.getD 0
  | _ => 0

/-- The lamports in the records of a day. -/
def recordedOn (records : List (RecordKey × Item)) (day : ℤ) : List ℕ :=
  (records.filter fun record => dayOf record.2.timestamp = day).map fun record =>
    record.2.lamports

/-- The lamports of a day whose records are replaced by later ones under the same key. -/
def replacedOn (toBase58 : BitVec 256 → String) (events : List FillsDequeued) (day : ℤ) : List ℕ :=
  recordedOn (replacedWrites (events.map (FillsDequeued.record toBase58))) day

/-- An amount of more than 53 bits comes behind zeros only, and nothing comes behind it. -/
def AddsUp (amounts : List ℕ) : Prop :=
  ∀ before large after, amounts = before ++ large :: after → 2 ^ 53 ≤ large →
    (∀ amount ∈ before, amount = 0) ∧ after = []

/-- The digits of numbers, one behind the other. -/
def joinedDigits (amounts : List ℕ) : List Char := amounts.flatMap (Nat.toDigits 10)

/-- What an exponent grows by if digits are joined behind it. -/
def addedExponent (exponent : ℕ) (amounts : List ℕ) : ℕ :=
  Nat.ofDigitChars 10 (Nat.toDigits 10 exponent ++ joinedDigits amounts) 0 - exponent

/-- What a number and the digits joined behind it spell.  With more than twenty-one digits a
number is written with an exponent, and the digits go behind the exponent. -/
def spelled (number : ℕ) (amounts : List ℕ) : ℕ :=
  if number < 10 ^ 21 then
    Nat.ofDigitChars 10 (Nat.toDigits 10 number ++ joinedDigits amounts) 0
  else number * 10 ^ addedExponent ((Nat.toDigits 10 number).length - 1) amounts

/-- By chance the replaced amounts are what the joined digits of the others add. -/
def MakesUp (amounts : List ℕ) (replaced : ℕ) : Prop :=
  ∃ large after, amounts.dropWhile (· < 2 ^ 53) = large :: after ∧ 0 < replaced ∧
    amounts.sum + replaced = spelled (amounts.takeWhile (· < 2 ^ 53)).sum (large :: after)

/-- A number of at most 53 bits, or the digits of a larger one. -/
def storedAmount (amount : ℕ) : Value :=
  if amount < 2 ^ 53 then .number (.finite amount) else .text (toString amount)

private theorem lookup_serializeFields (toBase58 : BitVec 256 → String) (key : String)
    (fields : List (String × JsValue)) :
    (serializeFields toBase58 fields).lookup key =
      (fields.lookup key).map (serializeForDynamo toBase58) := by
  induction fields with
  | nil => rfl
  | cons field fields ih =>
      obtain ⟨name, value⟩ := field
      rw [serializeFields, List.lookup_cons, List.lookup_cons, ih]
      cases key == name with
      | true => rfl
      | false => rfl

theorem get_serialize {toBase58 : BitVec 256 → String} (fields : List (String × JsValue))
    (key : String) : (serializeForDynamo toBase58 (.object fields)).get key =
      ((fields.lookup key).map (serializeForDynamo toBase58)).getD .undefined := by
  rw [serializeForDynamo, JsValue.get, lookup_serializeFields]

/-- Whatever the size of a number, it is read as it was emitted. -/
theorem whole?_serialize {toBase58 : BitVec 256 → String} (number : ℕ) :
    (serializeForDynamo toBase58 (.bn number)).whole? = some number := by
  rw [serializeForDynamo, toNumber?, Int.natAbs_natCast]
  by_cases small : number < 2 ^ 53
  · rw [if_pos small]
    simp [JsValue.whole?]
  · rw [if_neg small]
    exact Nat.toNat?_repr number

private theorem readAmount_serialize (toBase58 : BitVec 256 → String) (amount : ℕ) :
    readAmount (serializeForDynamo toBase58 (.bn amount)) = some (storedAmount amount) := by
  rw [serializeForDynamo, toNumber?, storedAmount, Int.natAbs_natCast]
  by_cases small : amount < 2 ^ 53
  · rw [if_pos small, if_pos small]
    rfl
  · rw [if_neg small, if_neg small]
    rfl

section Events

variable {toBase58 : BitVec 256 → String}

theorem item_eq (event : FillsDequeued) : ∃ actionId requester token2zDequeued fillsConsumed,
    event.item toBase58 = .fillDequeue event.sig event.timestamp actionId requester
      (serializeForDynamo toBase58 (.bn event.solDequeued.toNat)) token2zDequeued fillsConsumed
      event.slot := by
  have stored : ((serializeForDynamo toBase58 (.object event.data)).get "sol_dequeued") =
      serializeForDynamo toBase58 (.bn event.solDequeued.toNat) := by
    rw [get_serialize, event.amount_eq]
    rfl
  rw [FillsDequeued.item, eventItem, if_pos rfl, stored]
  exact ⟨_, _, _, _, rfl⟩

theorem timestamp_item (event : FillsDequeued) :
    (event.item toBase58).timestamp = event.timestamp := by
  obtain ⟨_, _, _, _, record⟩ := @item_eq toBase58 event
  rw [record]
  rfl

theorem lamports_item (event : FillsDequeued) :
    (event.item toBase58).lamports = event.solDequeued.toNat := by
  obtain ⟨_, _, _, _, record⟩ := @item_eq toBase58 event
  rw [record, Item.lamports, whole?_serialize]
  rfl

private theorem readDequeue_item (event : FillsDequeued) : readDequeue (event.item toBase58) =
    some ⟨event.timestamp, storedAmount event.solDequeued.toNat⟩ := by
  obtain ⟨_, _, _, _, record⟩ := @item_eq toBase58 event
  rw [record, readDequeue, readAmount_serialize]
  rfl

private theorem isDequeue_item (event : FillsDequeued) :
    (event.item toBase58).isDequeue = true := by
  obtain ⟨_, _, _, _, record⟩ := @item_eq toBase58 event
  rw [record]
  rfl

end Events

private theorem recordedOn_append (records others : List (RecordKey × Item)) (day : ℤ) :
    recordedOn (records ++ others) day = recordedOn records day ++ recordedOn others day := by
  rw [recordedOn, List.filter_append, List.map_append]
  rfl

private theorem perm_recordedOn {records others : List (RecordKey × Item)}
    (perm : records.Perm others)
    (day : ℤ) : (recordedOn records day).Perm (recordedOn others day) := (perm.filter _).map _

section Tables

variable {toBase58 : BitVec 256 → String} {events : List FillsDequeued}
  {records : List (RecordKey × Item)}

theorem lamportsOn_eq (events : List FillsDequeued) (day : ℤ) :
    lamportsOn events day = recordedOn (events.map (FillsDequeued.record toBase58)) day := by
  rw [recordedOn, List.filter_map, List.map_map, lamportsOn, eventsOn]
  have same_day : ((fun record : RecordKey × Item => decide (dayOf record.2.timestamp = day)) ∘
      FillsDequeued.record toBase58) = fun event => decide (dayOf event.timestamp = day) := by
    funext event
    rw [Function.comp_apply, FillsDequeued.record, timestamp_item]
  rw [same_day]
  refine List.map_congr_left fun event _ => ?_
  rw [Function.comp_apply, FillsDequeued.record, lamports_item]

variable (scanned : Enumerates (dequeueTable toBase58 events) Item.isDequeue records)

include scanned

theorem exists_event {record : RecordKey × Item} (member : record ∈ records) :
    ∃ event ∈ events, record = event.record toBase58 := by
  obtain ⟨stored, -⟩ := (scanned.complete record.1 record.2).mp member
  rw [dequeueTable, lookup_putAll, Finmap.lookup_empty, Option.or_none] at stored
  obtain ⟨event, inside, same⟩ := List.mem_map.mp (mem_of_lastWrite stored)
  exact ⟨event, inside, same.symm⟩

private theorem dayAmounts_eq (day : ℤ) :
    dayAmounts records day = (recordedOn records day).map storedAmount := by
  have read_eq : readBack records = records.map fun record =>
      ⟨record.2.timestamp, storedAmount record.2.lamports⟩ := by
    rw [readBack, ← List.filterMap_eq_map]
    refine List.filterMap_congr fun record member => ?_
    obtain ⟨event, -, rfl⟩ := exists_event scanned member
    rw [Function.comp_apply, FillsDequeued.record, readDequeue_item, timestamp_item,
      lamports_item]
  rw [dayAmounts, read_eq, eventsOn, List.filter_map, List.map_map, recordedOn, List.map_map]
  rfl

/-- What is emitted on a day is recorded or replaced. -/
theorem perm_recorded_replaced (day : ℤ) :
    (recordedOn records day ++ replacedOn toBase58 events day).Perm (lamportsOn events day) := by
  have kept_eq : (keptWrites (events.map (FillsDequeued.record toBase58))).filter
      (fun write => write.2.isDequeue) =
        keptWrites (events.map (FillsDequeued.record toBase58)) := by
    rw [List.filter_eq_self]
    intro write kept
    obtain ⟨event, -, same⟩ := List.mem_map.mp (mem_of_lastWrite (mem_keptWrites.mp kept))
    rw [← (Prod.mk.inj same).2]
    exact isDequeue_item event
  have kept := scanned.perm (enumerates_keptWrites _ _)
  rw [kept_eq] at kept
  rw [@lamportsOn_eq toBase58, replacedOn, ← recordedOn_append]
  exact perm_recordedOn ((kept.append_right _).trans (perm_kept_replaced _)) day

private theorem recordedOn_lt (day : ℤ) : ∀ amount ∈ recordedOn records day, amount < 2 ^ 64 := by
  intro amount member
  obtain ⟨record, inside, rfl⟩ := List.mem_map.mp member
  obtain ⟨event, -, rfl⟩ := exists_event scanned (List.mem_filter.mp inside).1
  rw [FillsDequeued.record, lamports_item]
  exact event.solDequeued.toNat_lt

end Tables

theorem foldl_plus_small {amounts : List ℕ} (small : ∀ amount ∈ amounts, amount < 2 ^ 53)
    (start : ℕ) :
    (amounts.map storedAmount).foldl (Value.plus .exact) (.number (.finite start)) =
      .number (.finite ((start + amounts.sum : ℕ) : ℚ)) := by
  induction amounts generalizing start with
  | nil => rfl
  | cons amount amounts ih =>
      have first : storedAmount amount = .number (.finite amount) :=
        if_pos (small amount List.mem_cons_self)
      have added : Value.plus .exact (.number (.finite start)) (storedAmount amount) =
          .number (.finite ((start + amount : ℕ) : ℚ)) := by
        rw [first, Nat.cast_add]
        rfl
      rw [List.map_cons, List.foldl_cons, added,
        ih (fun other member => small other (List.mem_cons_of_mem _ member)), List.sum_cons,
        Nat.add_assoc]

theorem text_exact {number : ℕ} (few : number < 10 ^ 21) :
    (Number.finite number).text id = toString number := by
  rcases Nat.eq_zero_or_pos number with rfl | positive
  · rfl
  · exact text_natCast (fun other => Nat.cast_inj) positive few

private theorem toText_storedAmount (amount : ℕ) :
    (storedAmount amount).toText id = toString amount := by
  by_cases small : amount < 2 ^ 53
  · rw [storedAmount, if_pos small]
    exact text_exact (small.trans (by norm_num))
  · rw [storedAmount, if_neg small]
    rfl

private theorem foldl_plus_text (amounts : List ℕ) (chars : List Char) :
    (amounts.map storedAmount).foldl (Value.plus .exact) (.text (String.ofList chars)) =
      .text (String.ofList (chars ++ joinedDigits amounts)) := by
  induction amounts generalizing chars with
  | nil => simp [joinedDigits]
  | cons amount amounts ih =>
      have joined : String.ofList chars ++ toString amount =
          String.ofList (chars ++ Nat.toDigits 10 amount) := by
        rw [Nat.toString_eq_ofList_toDigits, String.ofList_append]
      rw [List.map_cons, List.foldl_cons, Value.plus_text,
        show Arithmetic.exact.round = id from rfl, toText_storedAmount, joined, ih,
        List.append_assoc]
      rfl

private theorem dayTotal_of_large {before after : List ℕ} {large : ℕ}
    (small : ∀ amount ∈ before, amount < 2 ^ 53) (not_small : 2 ^ 53 ≤ large) :
    dayTotal .exact ((before ++ large :: after).map storedAmount) =
      .text (String.ofList (((Number.finite before.sum).text id).toList ++
        joinedDigits (large :: after))) := by
  have start := foldl_plus_small small 0
  rw [Nat.zero_add] at start
  have stored : storedAmount large = .text (toString large) := if_neg (Nat.not_lt.mpr not_small)
  have joined : Value.plus .exact (.number (.finite before.sum)) (storedAmount large) =
      .text (String.ofList (((Number.finite before.sum).text id).toList ++
        Nat.toDigits 10 large)) := by
    rw [stored, String.ofList_append, String.ofList_toList, ← Nat.toString_eq_ofList_toDigits]
    rfl
  rw [dayTotal, List.map_append, List.foldl_append, List.map_cons, List.foldl_cons,
    show (Value.number (.finite 0)) = .number (.finite ((0 : ℕ) : ℚ)) by rw [Nat.cast_zero],
    start, joined, foldl_plus_text, List.append_assoc]
  rfl

/-! ## What joined digits spell -/

theorem joinedDigits_cons (amount : ℕ) (amounts : List ℕ) :
    joinedDigits (amount :: amounts) = Nat.toDigits 10 amount ++ joinedDigits amounts := rfl

theorem isDigit_of_mem_joinedDigits {amounts : List ℕ} {char : Char}
    (member : char ∈ joinedDigits amounts) : char.isDigit = true := by
  obtain ⟨amount, -, digit⟩ := List.mem_flatMap.mp member
  exact DecimalText.isDigit_of_mem_toDigits digit

theorem length_le_joinedDigits (amounts : List ℕ) :
    amounts.length ≤ (joinedDigits amounts).length := by
  induction amounts with
  | nil => exact Nat.le_refl _
  | cons amount amounts ih =>
      have digits : 0 < (Nat.toDigits 10 amount).length :=
        List.length_pos_iff.mpr Nat.toDigits_ne_nil
      rw [joinedDigits_cons, List.length_append, List.length_cons]
      omega

theorem spelled_cons (amount : ℕ) (amounts : List ℕ) :
    Nat.ofDigitChars 10 (joinedDigits (amount :: amounts)) 0 =
      amount * 10 ^ (joinedDigits amounts).length +
        Nat.ofDigitChars 10 (joinedDigits amounts) 0 := by
  rw [joinedDigits_cons, Nat.ofDigitChars_append, Nat.ofDigitChars_ten_toDigits,
    Nat.ofDigitChars_eq_ofDigitChars_zero, Nat.mul_comm]

theorem sum_le_spelled (amounts : List ℕ) :
    amounts.sum ≤ Nat.ofDigitChars 10 (joinedDigits amounts) 0 := by
  induction amounts with
  | nil => exact Nat.zero_le _
  | cons amount amounts ih =>
      have scaled : amount ≤ amount * 10 ^ (joinedDigits amounts).length :=
        Nat.le_mul_of_pos_right _ (by positivity)
      rw [List.sum_cons, spelled_cons]
      omega

private theorem sum_lt_spelled {large : ℕ} {after : List ℕ} (positive : 0 < large)
    (nonempty : after ≠ []) :
    (large :: after).sum < Nat.ofDigitChars 10 (joinedDigits (large :: after)) 0 := by
  have behind : 0 < (joinedDigits after).length :=
    Nat.lt_of_lt_of_le (List.length_pos_iff.mpr nonempty) (length_le_joinedDigits after)
  have scaled : large * 2 ≤ large * 10 ^ (joinedDigits after).length :=
    Nat.mul_le_mul_left _ (Nat.le_trans (by norm_num) (Nat.pow_le_pow_right (by norm_num) behind))
  have rest := sum_le_spelled after
  rw [List.sum_cons, spelled_cons]
  omega

section Large

variable {before after : List ℕ} {large : ℕ}

/-- An exponent of two digits grows by more than the number of digits behind it. -/
theorem longer_exponent {exponent : ℕ} (long : 21 ≤ exponent) :
    (joinedDigits (large :: after)).length < addedExponent exponent (large :: after) := by
  have digits := Nat.lt_of_lt_of_le (Nat.succ_pos after.length)
    (length_le_joinedDigits (large :: after))
  have grows : exponent * ((joinedDigits (large :: after)).length + 1) ≤
      exponent * 10 ^ (joinedDigits (large :: after)).length :=
    Nat.mul_le_mul_left _ (Nat.lt_pow_self (by norm_num))
  have scaled : 21 * (joinedDigits (large :: after)).length ≤
      exponent * (joinedDigits (large :: after)).length := Nat.mul_le_mul_right _ long
  rw [Nat.mul_succ] at grows
  rw [addedExponent, ← joinedDigits_cons, spelled_cons]
  omega

private theorem ofText_joined : Number.ofText id (String.ofList
    (((Number.finite before.sum).text id).toList ++ joinedDigits (large :: after))) =
      .finite (spelled before.sum (large :: after)) := by
  rw [spelled]
  split
  · have digits : ∀ char ∈ joinedDigits (before.sum :: large :: after), char.isDigit = true :=
      fun _ member => isDigit_of_mem_joinedDigits member
    have some_digit : joinedDigits (before.sum :: large :: after) ≠ [] :=
      List.append_ne_nil_of_left_ne_nil Nat.toDigits_ne_nil _
    rw [text_exact ‹_›, DecimalText.toList_toString, ← joinedDigits_cons,
      ofText_digits some_digit digits]
    rfl
  · rename_i few
    have many : 10 ^ 21 ≤ before.sum := Nat.not_lt.mp few
    obtain ⟨significand, zeros, sum_eq, text_eq⟩ :=
      @text_eq_positional id before.sum (fun other => Nat.cast_inj) (by omega)
    obtain ⟨first, rest, digits_eq, long, positional_eq⟩ := positional_of_large many sum_eq
    have exponent_eq : (Nat.toDigits 10 before.sum).length - 1 = rest.length + zeros := by
      have positive : 0 < significand := by
        by_contra zero
        rw [Nat.eq_zero_of_not_pos zero, Nat.zero_mul] at sum_eq
        omega
      rw [← sum_eq, toDigits_mul_pow positive, digits_eq, List.length_append,
        List.length_replicate, List.length_cons]
      omega
    have significand_digits : ∀ char ∈ first :: rest, char.isDigit = true := by
      rw [← digits_eq]
      exact fun _ member => DecimalText.isDigit_of_mem_toDigits member
    have exponent_digits : ∀ char ∈ Nat.toDigits 10 (rest.length + zeros) ++
        joinedDigits (large :: after), char.isDigit = true := by
      intro char member
      rcases List.mem_append.mp member with own | joined
      · exact DecimalText.isDigit_of_mem_toDigits own
      · exact isDigit_of_mem_joinedDigits joined
    have some_exponent : Nat.toDigits 10 (rest.length + zeros) ++
        joinedDigits (large :: after) ≠ [] :=
      List.append_ne_nil_of_left_ne_nil Nat.toDigits_ne_nil _
    have added := @longer_exponent after large _ long
    have grown : Nat.ofDigitChars 10 (Nat.toDigits 10 (rest.length + zeros) ++
        joinedDigits (large :: after)) 0 =
        rest.length + zeros + addedExponent (rest.length + zeros) (large :: after) := by
      rw [addedExponent] at added ⊢
      omega
    have text_list : ((Number.finite before.sum).text id).toList ++
        joinedDigits (large :: after) =
        first :: ((if rest = [] then [] else '.' :: rest) ++ 'e' :: '+' ::
          (Nat.toDigits 10 (rest.length + zeros) ++ joinedDigits (large :: after))) := by
      rw [text_eq, positional_eq, String.toList_ofList]
      simp
    rw [text_list, ofText_exponent significand_digits some_exponent exponent_digits,
      ← digits_eq, Nat.ofDigitChars_ten_toDigits, exponent_eq, grown]
    have scale : (((rest.length + zeros + addedExponent (rest.length + zeros) (large :: after) :
        ℕ) : ℤ) - rest.length) =
        (zeros + addedExponent (rest.length + zeros) (large :: after) : ℕ) := by
      push_cast
      ring
    rw [scale, zpow_natCast, ← sum_eq]
    congr 1
    push_cast
    rw [id_eq]
    ring

private theorem sum_lt_spelled_of_many (many : 10 ^ 21 ≤ before.sum)
    (bounded : ∀ amount ∈ large :: after, amount < 2 ^ 64) :
    (before ++ large :: after).sum < spelled before.sum (large :: after) := by
  rw [spelled, if_neg (Nat.not_lt.mpr many)]
  have long : 21 ≤ (Nat.toDigits 10 before.sum).length - 1 := by
    have count : ¬(Nat.toDigits 10 before.sum).length ≤ 21 := by
      rw [Nat.length_toDigits_le_iff (by norm_num) (by norm_num)]
      omega
    omega
  have more := @longer_exponent after large _ long
  have behind : (large :: after).sum ≤ (large :: after).length * 2 ^ 64 :=
    List.sum_le_card_nsmul _ _ fun amount member => (bounded amount member).le
  have digits := length_le_joinedDigits (large :: after)
  calc (before ++ large :: after).sum
      ≤ before.sum + (large :: after).length * 2 ^ 64 := by
        rw [List.sum_append]
        exact Nat.add_le_add_left behind _
    _ ≤ before.sum + (joinedDigits (large :: after)).length * before.sum := by
        gcongr
        exact Nat.le_trans (by norm_num) many
    _ = before.sum * ((joinedDigits (large :: after)).length + 1) := by ring
    _ ≤ before.sum * _ := Nat.mul_le_mul_left _ more
    _ < before.sum * 10 ^ _ :=
        Nat.mul_lt_mul_of_pos_left (Nat.lt_pow_self (by norm_num)) (by omega)

/-- Digits joined behind a sum spell at least what is added, and no more only behind zeros and with
nothing behind them. -/
theorem sum_le_spelled_joined (positive : 0 < large)
    (bounded : ∀ amount ∈ large :: after, amount < 2 ^ 64) :
    (before ++ large :: after).sum ≤ spelled before.sum (large :: after) ∧
      ((before ++ large :: after).sum = spelled before.sum (large :: after) ↔
        before.sum = 0 ∧ after = []) := by
  rcases Nat.lt_or_ge before.sum (10 ^ 21) with few | many
  · rw [spelled, if_pos few, ← joinedDigits_cons, spelled_cons, List.sum_append]
    have digits : 0 < (joinedDigits (large :: after)).length :=
      Nat.lt_of_lt_of_le (Nat.succ_pos _) (length_le_joinedDigits (large :: after))
    have at_least := sum_le_spelled (large :: after)
    have scaled : before.sum * 2 ≤ before.sum * 10 ^ (joinedDigits (large :: after)).length :=
      Nat.mul_le_mul_left _ (Nat.le_trans (by norm_num)
        (Nat.pow_le_pow_right (by norm_num) digits))
    refine ⟨by omega, ?_, ?_⟩
    · intro same
      have zero : before.sum = 0 := by omega
      refine ⟨zero, ?_⟩
      by_contra nonempty
      have more := sum_lt_spelled positive nonempty
      omega
    · rintro ⟨zero, rfl⟩
      rw [zero, Nat.zero_mul, spelled_cons]
      simp [joinedDigits, Nat.ofDigitChars_nil]
  · have more := @sum_lt_spelled_of_many before after large many bounded
    refine ⟨more.le, ?_⟩
    constructor
    · intro same
      exact absurd same more.ne
    · rintro ⟨zero, -⟩
      omega

end Large

/-- The first amount of more than 53 bits, if there is one. -/
theorem exists_first_large (amounts : List ℕ) :
    (∀ amount ∈ amounts, amount < 2 ^ 53) ∨
      ∃ before large after, amounts = before ++ large :: after ∧ 2 ^ 53 ≤ large ∧
        ∀ amount ∈ before, amount < 2 ^ 53 := by
  induction amounts with
  | nil => exact .inl nofun
  | cons first amounts ih =>
      rcases Nat.lt_or_ge first (2 ^ 53) with small | large
      · rcases ih with all_small | ⟨before, large, after, rfl, not_small, before_small⟩
        · exact .inl (List.forall_mem_cons.mpr ⟨small, all_small⟩)
        · exact .inr ⟨first :: before, large, after, rfl, not_small,
            List.forall_mem_cons.mpr ⟨small, before_small⟩⟩
      · exact .inr ⟨[], first, amounts, rfl, large, nofun⟩

private theorem addsUp_of_small {amounts : List ℕ} (small : ∀ amount ∈ amounts, amount < 2 ^ 53) :
    AddsUp amounts := by
  rintro before large after rfl not_small
  exact absurd (small large (by simp)) (Nat.not_lt.mpr not_small)

theorem addsUp_of_last {before : List ℕ} {last : ℕ} (zeros : ∀ amount ∈ before, amount = 0) :
    AddsUp (before ++ [last]) := by
  intro earlier large after split not_small
  have last_empty : after = [] := by
    by_contra nonempty
    have dropped := congrArg List.dropLast split
    rw [List.dropLast_concat, List.dropLast_append_of_ne_nil (List.cons_ne_nil _ _),
      List.dropLast_cons_of_ne_nil nonempty] at dropped
    have zero := zeros large (by simp [dropped])
    omega
  subst last_empty
  obtain ⟨rfl, -⟩ := List.append_inj' split rfl
  exact ⟨zeros, rfl⟩

private theorem addsUp_iff {before after : List ℕ} {large : ℕ} (not_small : 2 ^ 53 ≤ large) :
    AddsUp (before ++ large :: after) ↔ before.sum = 0 ∧ after = [] := by
  constructor
  · intro adds_up
    obtain ⟨zeros, nothing⟩ := adds_up before large after rfl not_small
    exact ⟨List.sum_eq_zero_iff.mpr zeros, nothing⟩
  · rintro ⟨zero, rfl⟩
    exact addsUp_of_last fun amount member => List.sum_eq_zero_iff.mp zero amount member

private theorem makesUp_iff {before after : List ℕ} {large replaced : ℕ}
    (not_small : 2 ^ 53 ≤ large)
    (small : ∀ amount ∈ before, amount < 2 ^ 53) :
    MakesUp (before ++ large :: after) replaced ↔ 0 < replaced ∧
      (before ++ large :: after).sum + replaced = spelled before.sum (large :: after) := by
  have all_small : ∀ amount ∈ before, decide (amount < 2 ^ 53) = true := fun amount member =>
    decide_eq_true (small amount member)
  have taken : List.takeWhile (fun amount => decide (amount < 2 ^ 53)) (large :: after) = [] :=
    List.takeWhile_cons_of_neg (by simpa using not_small)
  have dropped : List.dropWhile (fun amount => decide (amount < 2 ^ 53)) (large :: after) =
      large :: after := List.dropWhile_cons_of_neg (by simpa using not_small)
  rw [MakesUp, List.takeWhile_append_of_pos all_small, List.dropWhile_append_of_pos all_small,
    taken, dropped, List.append_nil]
  constructor
  · rintro ⟨_, _, same, replaced_pos, makes_up⟩
    obtain ⟨rfl, rfl⟩ := List.cons.inj same
    exact ⟨replaced_pos, makes_up⟩
  · rintro ⟨replaced_pos, makes_up⟩
    exact ⟨large, after, rfl, replaced_pos, makes_up⟩

private theorem not_makesUp_of_small {amounts : List ℕ} {replaced : ℕ}
    (small : ∀ amount ∈ amounts, amount < 2 ^ 53) : ¬MakesUp amounts replaced := by
  rintro ⟨large, after, split, -⟩
  have nothing : amounts.dropWhile (fun amount => decide (amount < 2 ^ 53)) = [] := by
    rw [List.dropWhile_eq_nil_iff]
    exact fun amount member => decide_eq_true (small amount member)
  rw [nothing] at split
  contradiction

/-- The total of a day is what was recorded and replaced exactly if the recorded amounts add up and
nothing but zeros was replaced, or if the one makes up for the other. -/
theorem dayTotal_exact_iff {amounts : List ℕ} (bounded : ∀ amount ∈ amounts, amount < 2 ^ 64)
    (replaced : ℕ) :
    (dayTotal .exact (amounts.map storedAmount)).toNumber id =
        .finite ((amounts.sum + replaced : ℕ) : ℚ) ↔
      AddsUp amounts ∧ replaced = 0 ∨ MakesUp amounts replaced := by
  rcases exists_first_large amounts with small | ⟨before, large, after, rfl, not_small, small⟩
  · have total := foldl_plus_small small 0
    rw [Nat.zero_add, Nat.cast_zero] at total
    rw [dayTotal, total, Value.toNumber, Number.finite.injEq, Nat.cast_inj,
      or_iff_left (not_makesUp_of_small small), and_iff_right (addsUp_of_small small)]
    exact Nat.left_eq_add
  · obtain ⟨at_least, exact_iff⟩ := @sum_le_spelled_joined before after large (by omega)
      fun amount member => bounded amount (List.mem_append_right _ member)
    rw [dayTotal_of_large small not_small, Value.toNumber, ofText_joined, Number.finite.injEq,
      Nat.cast_inj, addsUp_iff not_small, makesUp_iff not_small small, ← exact_iff]
    omega

private theorem solText_zero : solText .exact (.finite 0) = "0.000000000" := by
  have units : ⌊|(0 : ℚ)| * 10 ^ 9 + 1 / 2⌋₊ = 0 := by
    rw [Nat.floor_eq_zero, abs_zero]
    norm_num
  have quotient : (Number.finite 0).div .exact (.finite 1000000000) = .finite 0 := by
    simp [Number.div, Number.operand, Arithmetic.exact]
  rw [solText, quotient, Number.toFixed, units, if_pos (by norm_num), if_neg (by norm_num)]
  rfl

/-- The answer shows the emitted sum of every day exactly if on every day the amounts recorded add
up and nothing but zeros was replaced, or if by chance the one makes up for the other. -/
theorem dequeue_totals_exact_iff (toBase58 : BitVec 256 → String) {fromDate toDate : Date}
    (from_four : FourDigits fromDate) (to_four : FourDigits toDate)
    (events : List FillsDequeued) {records : List (RecordKey × Item)}
    (scanned : Enumerates (dequeueTable toBase58 events) Item.isDequeue records) :
    TotalsExact fromDate toDate events records ↔
      ∀ day ∈ daysBetween fromDate.toDay toDate.toDay,
        AddsUp (recordedOn records day) ∧ (∀ amount ∈ replacedOn toBase58 events day, amount = 0) ∨
          MakesUp (recordedOn records day) (replacedOn toBase58 events day).sum := by
  have exact_iff (day : ℤ) : totalOn records day = .finite (lamportsOn events day).sum ↔
      AddsUp (recordedOn records day) ∧ (∀ amount ∈ replacedOn toBase58 events day, amount = 0) ∨
        MakesUp (recordedOn records day) (replacedOn toBase58 events day).sum := by
    rw [totalOn, dayAmounts_eq scanned, ← (perm_recorded_replaced scanned day).sum_eq,
      List.sum_append, dayTotal_exact_iff (recordedOn_lt scanned day), List.sum_eq_zero_iff]
  have shown (day : ℤ) : (dequeuesBucket .exact (bucketOf day)
      (dayDataOf (eventsOn DequeueEventData.timestamp (readBack records)
        day))).solDequeuedTotal = solText .exact (totalOn records day) := by
    by_cases empty : eventsOn DequeueEventData.timestamp (readBack records) day = []
    · rw [totalOn, dayAmounts, empty]
      exact solText_zero.symm
    · rw [dequeuesBucket_of_ne_nil _ _ empty]
      rfl
  rw [TotalsExact, handleDequeuesMetrics_eq from_four to_four]
  constructor
  · rintro ⟨response, answered, totals⟩ day inside
    obtain ⟨place, at_place⟩ := List.getElem?_of_mem inside
    obtain ⟨_, -, -, exact_total⟩ := totals place day at_place
    exact (exact_iff day).mp exact_total
  · intro adds_up
    refine ⟨_, rfl, fun place day at_place => ⟨_, ?_, shown day, ?_⟩⟩
    · rw [List.getElem?_map, at_place]
      rfl
    · exact (exact_iff day).mpr (adds_up day (List.mem_of_getElem? at_place))

/-- An event on the leap day. -/
def dequeuedOnLeapDay (sig : String) (solDequeued : UInt64) : FillsDequeued where
  sig := sig
  slot := 1
  timestamp := 1709164800
  data := [("sol_dequeued", .bn solDequeued.toNat)]
  solDequeued := solDequeued
  amount_eq := rfl

/-- Two dequeues of different transactions, the first of more than 53 bits. -/
def largeFirst : List FillsDequeued :=
  [dequeuedOnLeapDay "first" 9007199254740992, dequeuedOnLeapDay "second" 1]

theorem dequeue_totals_inexact : ∃ records,
    Enumerates (dequeueTable (fun _ => "") largeFirst) Item.isDequeue records ∧
      ¬TotalsExact leapDay leapDay largeFirst records := by
  refine ⟨_, enumerates_keptWrites _ _, ?_⟩
  rintro ⟨response, -, totals⟩
  obtain ⟨_, -, -, total⟩ := totals 0 leapDay.toDay rfl
  have spelled := (@dayTotal_exact_iff [9007199254740992, 1] (by decide) 0).mp total
  obtain ⟨adds_up, -⟩ | ⟨_, _, -, positive, -⟩ := spelled
  · have nothing := (adds_up [] 9007199254740992 [1] rfl (by decide)).2
    contradiction
  · exact absurd positive (lt_irrefl 0)

/-- Two dequeues of one transaction, of which the first brought nothing, behind another transaction
that brought nothing. -/
def largeLast : List FillsDequeued :=
  [dequeuedOnLeapDay "first" 0, dequeuedOnLeapDay "second" 0,
    dequeuedOnLeapDay "second" 9007199254740992]

theorem dequeue_totals_exact_iff_last : ∃ records,
    Enumerates (dequeueTable (fun _ => "") largeLast) Item.isDequeue records ∧
      records.length = 2 ∧ TotalsExact leapDay leapDay largeLast records := by
  refine ⟨_, enumerates_keptWrites _ _, rfl,
    (dequeue_totals_exact_iff (fun _ => "") fourDigits_leapDay fourDigits_leapDay _
      (enumerates_keptWrites _ _)).mpr fun day inside => .inl ⟨?_, ?_⟩⟩
  all_goals
    obtain rfl : day = leapDay.toDay := by
      rw [mem_daysBetween] at inside
      omega
  · have kept : (keptWrites (largeLast.map (FillsDequeued.record fun _ => ""))).filter
        (fun write => write.2.isDequeue) = [dequeuedOnLeapDay "first" 0,
          dequeuedOnLeapDay "second" 9007199254740992].map (FillsDequeued.record fun _ => "") := rfl
    rw [kept, ← lamportsOn_eq]
    exact @addsUp_of_last [0] 9007199254740992 (by decide)
  · have replaced : replacedWrites (largeLast.map (FillsDequeued.record fun _ => "")) =
        [dequeuedOnLeapDay "second" 0].map (FillsDequeued.record fun _ => "") := rfl
    rw [replacedOn, replaced, ← lamportsOn_eq]
    decide

end SolConversion.Indexer
