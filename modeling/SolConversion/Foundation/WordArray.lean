import SolConversion.Foundation.Borsh

/-!
# Arrays of words

Memory made of little-endian words of eight bytes, without tags or lengths.  A word is found by its
index, and a word that was written is read back, whatever stands behind the array.
-/

namespace WordArray

open Borsh

/-- The bytes of words, one after the other. -/
def bytes (words : List UInt64) : Bytes := words.flatMap fun word => littleEndian 8 word.toNat

/-- The word at an index. -/
def wordAt (memory : Bytes) (index : ℕ) : UInt64 :=
  UInt64.ofNat (ofLittleEndian ((memory.drop (8 * index)).take 8))

theorem bytes_cons (word : UInt64) (words : List UInt64) :
    bytes (word :: words) = littleEndian 8 word.toNat ++ bytes words := rfl

theorem length_bytes (words : List UInt64) : (bytes words).length = 8 * words.length := by
  induction words with
  | nil => rfl
  | cons word words ih =>
      rw [bytes_cons, List.length_append, length_littleEndian, ih, List.length_cons]
      omega

theorem wordAt_bytes {words : List UInt64} {index : ℕ} {word : UInt64}
    (stored : words[index]? = some word) (trailing : Bytes) :
    wordAt (bytes words ++ trailing) index = word := by
  induction words generalizing index with
  | nil => cases stored
  | cons first words ih =>
      cases index with
      | zero =>
          obtain rfl : first = word := Option.some.inj stored
          have fits : first.toNat < 256 ^ 8 := first.toNat_lt.trans_eq (by norm_num)
          rw [wordAt, bytes_cons, List.append_assoc, Nat.mul_zero, List.drop_zero,
            List.take_left' (length_littleEndian ..), ofLittleEndian_littleEndian fits,
            UInt64.ofNat_toNat]
      | succ index =>
          have skipped : (bytes (first :: words) ++ trailing).drop (8 * (index + 1)) =
              (bytes words ++ trailing).drop (8 * index) := by
            rw [bytes_cons, List.append_assoc, Nat.mul_succ, Nat.add_comm, ← List.drop_drop,
              List.drop_left' (length_littleEndian ..)]
          have found : wordAt (bytes words ++ trailing) index = word := ih stored
          rwa [wordAt, ← skipped] at found

section Pairs

variable {α : Type*} {first second : α → UInt64}

/-- The words of records that consist of two words. -/
def pairs (first second : α → UInt64) (records : List α) : List UInt64 :=
  records.flatMap fun record => [first record, second record]

theorem length_pairs (records : List α) :
    (pairs first second records).length = 2 * records.length := by
  induction records with
  | nil => rfl
  | cons record records ih =>
      rw [pairs, List.flatMap_cons, List.length_append, ← pairs, ih, List.length_cons]
      simp only [List.length_cons, List.length_nil]
      omega

/-- The two words of a record stand at twice its index. -/
theorem getElem?_pairs {records : List α} {index : ℕ} {record : α}
    (stored : records[index]? = some record) :
    (pairs first second records)[2 * index]? = some (first record) ∧
      (pairs first second records)[2 * index + 1]? = some (second record) := by
  induction records generalizing index with
  | nil => cases stored
  | cons head records ih =>
      cases index with
      | zero =>
          obtain rfl : head = record := Option.some.inj stored
          exact ⟨rfl, rfl⟩
      | succ index => exact ih stored

end Pairs

end WordArray
