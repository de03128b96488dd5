import SolConversion.Foundation.ScriptNumber

/-!
# Numbers and texts of a scripting language

One sign adds numbers and joins texts: it joins as soon as one of its operands is a text.  All other
operations make a number of a text first, which has to be a number from its beginning to its end.
-/

namespace ScriptNumber

/-- White space in front and behind is taken off. -/
def trimmed (chars : List Char) : List Char :=
  ((chars.dropWhile isWhite).reverse.dropWhile isWhite).reverse

/-- An exponent that ends the text. -/
def exponentLiteral : List Char → Option ℤ
  | [] => some 0
  | first :: rest =>
      if first = 'e' ∨ first = 'E' then
        let (negative, digits) := takeSign rest
        if digits ≠ [] ∧ digits.all Char.isDigit then
          let exponent : ℤ := Nat.ofDigitChars 10 digits 0
          some (if negative then -exponent else exponent)
        else none
      else none

def decimalLiteral (round : ℚ → ℚ) (chars : List Char) : Number :=
  let (negative, body) := takeSign chars
  if body = "Infinity".toList then .infinite negative
  else
    let whole := body.takeWhile Char.isDigit
    let (fraction, rest) := takeFraction (body.dropWhile Char.isDigit)
    if whole ++ fraction = [] then .nan
    else
      match exponentLiteral rest with
      | some exponent => .finite (round (signed negative
          (Nat.ofDigitChars 10 (whole ++ fraction) 0 * 10 ^ (exponent - fraction.length))))
      | none => .nan

/-- The radix a literal asks for. -/
def radixPrefix : List Char → Option (ℕ × List Char)
  | '0' :: 'x' :: rest => some (16, rest)
  | '0' :: 'X' :: rest => some (16, rest)
  | '0' :: 'o' :: rest => some (8, rest)
  | '0' :: 'O' :: rest => some (8, rest)
  | '0' :: 'b' :: rest => some (2, rest)
  | '0' :: 'B' :: rest => some (2, rest)
  | _ => none

def radixLiteral (round : ℚ → ℚ) (radix : ℕ) (chars : List Char) : Number :=
  let digits := leadingDigits radix chars
  if digits ≠ [] ∧ digits.length = chars.length then
    .finite (round (digits.foldl (fun value digit => radix * value + digit) 0 : ℕ))
  else .nan

/-- The number that a whole text spells; an empty text spells zero. -/
def Number.ofText (round : ℚ → ℚ) (text : String) : Number :=
  let chars := trimmed text.toList
  if chars = [] then .finite 0
  else
    match radixPrefix chars with
    | some (radix, rest) => radixLiteral round radix rest
    | none => decimalLiteral round chars

namespace Number

def neg : Number → Number
  | .finite value => .finite (-value)
  | .infinite negative => .infinite !negative
  | .nan => .nan
  | .null => .finite 0

def sub (arithmetic : Arithmetic) (left right : Number) : Number := left.add arithmetic right.neg

end Number

inductive Value
  | number (value : Number)
  | text (content : String)
  deriving DecidableEq

namespace Value

def toText (round : ℚ → ℚ) : Value → String
  | .number value => value.text round
  | .text content => content

def toNumber (round : ℚ → ℚ) : Value → Number
  | .number value => value
  | .text content => Number.ofText round content

/-- The sum of two numbers, or two texts one behind the other. -/
def plus (arithmetic : Arithmetic) : Value → Value → Value
  | .number left, .number right => .number (left.add arithmetic right)
  | left, right => .text (left.toText arithmetic.round ++ right.toText arithmetic.round)

theorem plus_text (arithmetic : Arithmetic) (content : String) (value : Value) :
    plus arithmetic (.text content) value = .text (content ++ value.toText arithmetic.round) := by
  cases value with
  | number value => rfl
  | text other => rfl

end Value

variable {round : ℚ → ℚ}

theorem trimmed_eq_self {chars : List Char} (no_white : ∀ char ∈ chars, isWhite char = false) :
    trimmed chars = chars := by
  have nothing_dropped {chars : List Char} (no_white : ∀ char ∈ chars, isWhite char = false) :
      chars.dropWhile isWhite = chars := by
    cases chars with
    | nil => rfl
    | cons first rest =>
        rw [List.dropWhile_cons, no_white first List.mem_cons_self]
        rfl
  rw [trimmed, nothing_dropped no_white, nothing_dropped, List.reverse_reverse]
  intro char member
  exact no_white char (List.mem_reverse.mp member)

theorem radixPrefix_eq_none {first second : Char} {rest : List Char}
    (no_letter : second ∉ ['x', 'X', 'o', 'O', 'b', 'B']) :
    radixPrefix (first :: second :: rest) = none := by
  simp only [List.mem_cons, List.not_mem_nil, or_false, not_or] at no_letter
  unfold radixPrefix
  split <;> simp_all

private theorem radixPrefix_of_digits {chars : List Char}
    (digits : ∀ char ∈ chars, char.isDigit = true) : radixPrefix chars = none := by
  rcases chars with _ | ⟨first, _ | ⟨second, rest⟩⟩
  · rfl
  · unfold radixPrefix
    split <;> simp_all
  · apply radixPrefix_eq_none
    have second_digit := digits second (by simp)
    intro letter
    simp only [List.mem_cons, List.not_mem_nil, or_false] at letter
    rcases letter with rfl | rfl | rfl | rfl | rfl | rfl <;> contradiction

theorem ofText_digits {chars : List Char} (nonempty : chars ≠ [])
    (digits : ∀ char ∈ chars, char.isDigit = true) :
    Number.ofText round (String.ofList chars) =
      .finite (round (Nat.ofDigitChars 10 chars 0 : ℕ)) := by
  have no_white : trimmed chars = chars :=
    trimmed_eq_self fun char member => isWhite_of_isDigit (digits char member)
  obtain ⟨first, rest, rfl⟩ := List.exists_cons_of_ne_nil nonempty
  have no_sign : takeSign (first :: rest) = (false, first :: rest) :=
    takeSign_of_isDigit (digits first List.mem_cons_self)
  have no_infinity : first :: rest ≠ "Infinity".toList := by
    intro infinity
    have first_digit := digits first List.mem_cons_self
    rw [(List.cons.inj infinity).1] at first_digit
    contradiction
  have whole := List.takeWhile_eq_self_iff.mpr digits
  have nothing := List.dropWhile_eq_nil_iff.mpr digits
  simp only [Number.ofText, String.toList_ofList, no_white, nonempty, if_false,
    radixPrefix_of_digits digits, decimalLiteral, no_sign, if_neg no_infinity, whole, nothing,
    takeFraction, List.append_nil, exponentLiteral]
  simp [signed]

private theorem exponentLiteral_plus {exponent : List Char} (nonempty : exponent ≠ [])
    (digits : ∀ char ∈ exponent, char.isDigit = true) :
    exponentLiteral ('e' :: '+' :: exponent) = some (Nat.ofDigitChars 10 exponent 0 : ℤ) := by
  have all_digits : exponent.all Char.isDigit = true := List.all_eq_true.mpr digits
  simp [exponentLiteral, takeSign, nonempty, all_digits]

/-- A digit with a fraction and an exponent of digits spells the number with all the digits, scaled
by what the exponent leaves of the fraction. -/
theorem ofText_exponent {first : Char} {rest exponent : List Char}
    (digits : ∀ char ∈ first :: rest, char.isDigit = true) (some_exponent : exponent ≠ [])
    (exponent_digits : ∀ char ∈ exponent, char.isDigit = true) :
    Number.ofText round (String.ofList (first :: ((if rest = [] then [] else '.' :: rest) ++
        'e' :: '+' :: exponent))) =
      .finite (round ((Nat.ofDigitChars 10 (first :: rest) 0 : ℕ) *
        10 ^ ((Nat.ofDigitChars 10 exponent 0 : ℤ) - rest.length))) := by
  have first_digit := digits first List.mem_cons_self
  have rest_digits : ∀ char ∈ rest, char.isDigit = true := fun char member =>
    digits char (List.mem_cons_of_mem _ member)
  have no_white : ∀ char ∈ first :: ((if rest = [] then [] else '.' :: rest) ++
      'e' :: '+' :: exponent), isWhite char = false := by
    intro char member
    by_cases digit : char.isDigit = true
    · exact isWhite_of_isDigit digit
    · have other : char = '.' ∨ char = 'e' ∨ char = '+' := by
        by_cases whole : rest = []
        · simp only [whole, if_true, List.nil_append, List.mem_cons] at member
          grind
        · simp only [whole, if_false, List.cons_append, List.mem_cons, List.mem_append] at member
          grind
      rcases other with rfl | rfl | rfl <;> rfl
  have no_sign (more : List Char) : takeSign (first :: more) = (false, first :: more) :=
    takeSign_of_isDigit first_digit
  have exponent_read := exponentLiteral_plus some_exponent exponent_digits
  rw [Number.ofText, String.toList_ofList, trimmed_eq_self no_white]
  cases rest with
  | nil =>
      have no_radix : radixPrefix (first :: 'e' :: '+' :: exponent) = none :=
        radixPrefix_eq_none (by decide)
      simp [no_radix, decimalLiteral, no_sign, first_digit, takeFraction, exponent_read, signed]
  | cons second rest =>
      have no_radix : radixPrefix (first :: '.' :: second :: (rest ++ 'e' :: '+' :: exponent)) =
        none := radixPrefix_eq_none (by decide)
      have fraction : takeFraction ('.' :: second :: (rest ++ 'e' :: '+' :: exponent)) =
          (second :: rest, 'e' :: '+' :: exponent) := by
        rw [takeFraction, ← List.cons_append, List.takeWhile_append_of_pos rest_digits,
          List.dropWhile_append_of_pos rest_digits]
        simp
      simp [no_radix, decimalLiteral, no_sign, first_digit, fraction, exponent_read, signed]

end ScriptNumber
