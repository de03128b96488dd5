import Mathlib.Data.Int.Notation
import Mathlib.Data.List.Basic
import Mathlib.Tactic.NormNum
import Std.Data.String.ToInt

/-!
# Decimal text

Numbers written in decimal and separated by a character that is no digit can be read back.  Texts
are compared by their characters and by their bytes in UTF-8.
-/

namespace DecimalText

private theorem toList_loop_eq (bytes : ByteArray) (start : ℕ) (read : List UInt8) :
    ByteArray.toList.loop bytes start read = read.reverse ++ bytes.data.toList.drop start := by
  fun_induction ByteArray.toList.loop bytes start read with
  | case1 start read inside ih =>
      have inside' : start < bytes.data.toList.length := by simpa using inside
      rw [ih, List.drop_eq_getElem_cons inside']
      simp [ByteArray.get!, getElem!_pos bytes.data start (by simpa using inside)]
  | case2 start read outside =>
      have outside' : bytes.data.toList.length ≤ start := by simpa using outside
      rw [List.drop_eq_nil_of_le outside', List.append_nil]

theorem toList_eq (bytes : ByteArray) : bytes.toList = bytes.data.toList := by
  rw [ByteArray.toList, toList_loop_eq]
  rfl

theorem toUTF8_toList_inj {left right : String} :
    left.toUTF8.toList = right.toUTF8.toList ↔ left = right := by
  rw [toList_eq, toList_eq, Array.toList_inj, ← ByteArray.ext_iff, String.toUTF8_eq_toByteArray,
    String.toUTF8_eq_toByteArray, String.toByteArray_inj]

/-- A separator that occurs in neither left part marks where both end. -/
theorem append_separator_inj {α : Type} {separator : α} {left left' right right' : List α}
    (fresh : separator ∉ left) (fresh' : separator ∉ left')
    (same : left ++ separator :: right = left' ++ separator :: right') :
    left = left' ∧ right = right' := by
  induction left generalizing left' with
  | nil =>
      cases left' with
      | nil => exact ⟨rfl, (List.cons.inj same).2⟩
      | cons first rest =>
          obtain ⟨rfl, -⟩ := List.cons.inj same
          exact absurd List.mem_cons_self fresh'
  | cons first left ih =>
      cases left' with
      | nil =>
          obtain ⟨rfl, -⟩ := List.cons.inj same
          exact absurd List.mem_cons_self fresh
      | cons first' left' =>
          obtain ⟨rfl, behind⟩ := List.cons.inj same
          obtain ⟨rfl, rfl⟩ := ih (fun member => fresh (List.mem_cons_of_mem _ member))
            (fun member => fresh' (List.mem_cons_of_mem _ member)) behind
          exact ⟨rfl, rfl⟩

theorem isDigit_of_mem_toDigits {number : ℕ} {char : Char}
    (member : char ∈ Nat.toDigits 10 number) : char.isDigit = true :=
  Nat.isDigit_of_mem_toDigits (by norm_num) le_rfl member

theorem toList_toString (number : ℕ) : (toString number).toList = Nat.toDigits 10 number := by
  rw [Nat.toString_eq_repr, Nat.toList_repr]

/-- A positive number in decimal does not begin with a zero. -/
theorem head_toDigits_ne_zero {number : ℕ} (positive : 0 < number) :
    (Nat.toDigits 10 number).head? ≠ some '0' := by
  induction number using Nat.strongRecOn with
  | ind number ih =>
      obtain small | large := Nat.lt_or_ge number 10
      · rw [Nat.toDigits_of_lt_base small, List.head?_singleton, ne_eq, Option.some_inj,
          Nat.digitChar_eq_zero]
        omega
      · rw [Nat.toDigits_of_base_le (by norm_num) large, List.head?_append,
          List.head?_eq_some_head Nat.toDigits_ne_nil, Option.some_or,
          ← List.head?_eq_some_head Nat.toDigits_ne_nil]
        exact ih (number / 10) (by omega) (by omega)

/-- A natural number and an integer can be read back around a separator. -/
theorem toString_separated_inj {separator : String} {char : Char}
    (separator_eq : separator.toList = [char]) (no_digit : char.isDigit = false)
    {natural natural' : ℕ} {integer integer' : ℤ}
    (same : toString natural ++ separator ++ toString integer =
      toString natural' ++ separator ++ toString integer') :
    natural = natural' ∧ integer = integer' := by
  have fresh : ∀ number : ℕ, char ∉ (toString number).toList := by
    intro number member
    rw [toList_toString] at member
    rw [isDigit_of_mem_toDigits member] at no_digit
    contradiction
  have characters : (toString natural).toList ++ char :: (toString integer).toList =
      (toString natural').toList ++ char :: (toString integer').toList := by
    simpa [separator_eq] using congrArg String.toList same
  obtain ⟨natural_eq, integer_eq⟩ :=
    append_separator_inj (fresh natural) (fresh natural') characters
  rw [String.toList_inj, Nat.toString_eq_repr, Nat.toString_eq_repr] at natural_eq
  rw [String.toList_inj, Int.toString_eq_repr, Int.toString_eq_repr] at integer_eq
  exact ⟨Nat.repr_injective natural_eq, Int.repr_injective integer_eq⟩

end DecimalText
