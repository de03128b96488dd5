import Mathlib.Data.List.TakeWhile
import SolConversion.Foundation.BinaryFloat
import SolConversion.Foundation.DecimalText

/-!
# Numbers of a scripting language

The numbers are the rationals together with infinities and an undefined number; every operation
rounds its exact result.  A number is written with the fewest decimal digits that are rounded back
to it, or with a fixed number of them behind the point.
-/

namespace ScriptNumber

open BinaryFloat

/-- A number, or the `null` that stands in a document for a number it cannot hold. -/
inductive Number
  | finite (value : ℚ)
  | infinite (negative : Bool)
  | nan
  | null
  deriving DecidableEq

/-- Rounding, and the powers of ten, which are only approximated. -/
structure Arithmetic where
  round : ℚ → ℚ
  powerOfTen : ℤ → Number

/-- Arithmetic that rounds nothing. -/
def Arithmetic.exact : Arithmetic := ⟨id, fun exponent => .finite (10 ^ exponent)⟩

namespace Number

/-- The number an operation works on. -/
def operand : Number → Number
  | .null => .finite 0
  | number => number

variable (arithmetic : Arithmetic)

def mul (left right : Number) : Number :=
  match left.operand, right.operand with
  | .finite left, .finite right => .finite (arithmetic.round (left * right))
  | .finite left, .infinite negative =>
      if left = 0 then .nan else .infinite (negative ^^ decide (left < 0))
  | .infinite negative, .finite right =>
      if right = 0 then .nan else .infinite (negative ^^ decide (right < 0))
  | .infinite negative, .infinite negative' => .infinite (negative ^^ negative')
  | _, _ => .nan

def div (left right : Number) : Number :=
  match left.operand, right.operand with
  | .finite left, .finite right =>
      if right ≠ 0 then .finite (arithmetic.round (left / right))
      else if left = 0 then .nan
      else .infinite (decide (left < 0))
  | .finite _, .infinite _ => .finite 0
  | .infinite negative, .finite right => .infinite (negative ^^ decide (right < 0))
  | _, _ => .nan

def add (left right : Number) : Number :=
  match left.operand, right.operand with
  | .finite left, .finite right => .finite (arithmetic.round (left + right))
  | .finite _, .infinite negative => .infinite negative
  | .infinite negative, .finite _ => .infinite negative
  | .infinite negative, .infinite negative' =>
      if negative = negative' then .infinite negative else .nan
  | _, _ => .nan

/-- Comparison, which an undefined number never passes. -/
def greater (left right : Number) : Bool :=
  match left.operand, right.operand with
  | .finite left, .finite right => decide (right < left)
  | .finite _, .infinite negative => negative
  | .infinite negative, .finite _ => !negative
  | .infinite negative, .infinite negative' => !negative && negative'
  | _, _ => false

/-- The number read back from a document it is written into. -/
def throughJson : Number → Number
  | .finite value => .finite value
  | _ => .null

end Number

/-- The digits of a number with zeros in front of them. -/
def padded (width number : ℕ) : List Char :=
  List.replicate (width - (Nat.toDigits 10 number).length) '0' ++ Nat.toDigits 10 number

/-- `units / 10 ^ digits` with that many digits behind the point. -/
def fixedText (digits units : ℕ) : String :=
  if digits = 0 then toString units
  else toString (units / 10 ^ digits) ++ "." ++
    String.ofList (padded digits (units % 10 ^ digits))

/-- The decimal with so many digits that is rounded to a value, the nearest one if there are
several. -/
def withDigits (round : ℚ → ℚ) (value : ℚ) (count : ℕ) : Option (ℕ × ℤ) :=
  let unit := Int.log 10 value + 1 - count
  let quotient := value / 10 ^ unit
  let candidates := [(roundHalfEven quotient).toNat, ⌊quotient⌋₊, ⌊quotient⌋₊ + 1]
  let found := candidates.find? fun significand : ℕ => round (significand * 10 ^ unit) = value
  found.map fun significand =>
    if significand = 10 ^ count then (1, unit + count) else (significand, unit)

/-- The shortest decimal that is rounded to a value.  Seventeen digits tell all numbers with 53
binary digits apart. -/
def shortest (round : ℚ → ℚ) (value : ℚ) : ℕ × ℤ :=
  ((List.range' 1 17).findSome? (withDigits round value)).getD (⌊value⌋₊, 0)

/-- A decimal written out, or with an exponent if it has too many digits before or zeros behind the
point. -/
def positional (significand : ℕ) (exponent : ℤ) : String :=
  let digits := Nat.toDigits 10 significand
  let point := digits.length + exponent
  if 0 ≤ exponent ∧ point ≤ 21 then String.ofList (digits ++ List.replicate exponent.toNat '0')
  else if 0 < point ∧ point ≤ 21 then
    String.ofList (digits.take point.toNat ++ '.' :: digits.drop point.toNat)
  else if -6 < point ∧ point ≤ 0 then
    "0." ++ String.ofList (List.replicate (-point).toNat '0' ++ digits)
  else
    let fraction := if digits.length = 1 then [] else '.' :: digits.tail
    String.ofList (digits.take 1 ++ fraction) ++ "e" ++ (if point - 1 < 0 then "-" else "+") ++
      toString (point - 1).natAbs

/-- The text of a number. -/
def Number.text (round : ℚ → ℚ) : Number → String
  | .finite value =>
      if value = 0 then "0"
      else
        let (significand, exponent) := shortest round |value|
        (if value < 0 then "-" else "") ++ positional significand exponent
  | .infinite negative => if negative then "-Infinity" else "Infinity"
  | .nan => "NaN"
  | .null => "null"

/-- The text with so many digits behind the point. -/
def Number.toFixed (round : ℚ → ℚ) (digits : ℕ) : Number → String
  | .finite value =>
      if |value| < 10 ^ 21 then
        (if value < 0 then "-" else "") ++ fixedText digits ⌊|value| * 10 ^ digits + 1 / 2⌋₊
      else (Number.finite value).text round
  | number => number.text round

/-- White space and line ends. -/
def isWhite (char : Char) : Bool :=
  decide (9 ≤ char.toNat ∧ char.toNat ≤ 13) ||
    decide (0x2000 ≤ char.toNat ∧ char.toNat ≤ 0x200a) ||
    char.toNat ∈ [0x20, 0xa0, 0x1680, 0x2028, 0x2029, 0x202f, 0x205f, 0x3000, 0xfeff]

/-- A sign is taken off. -/
def takeSign : List Char → Bool × List Char
  | '-' :: rest => (true, rest)
  | '+' :: rest => (false, rest)
  | chars => (false, chars)

def takeFraction : List Char → List Char × List Char
  | '.' :: rest => (rest.takeWhile Char.isDigit, rest.dropWhile Char.isDigit)
  | chars => ([], chars)

/-- The exponent in front of a text, zero if there is none. -/
def readExponent (chars : List Char) : ℤ :=
  match chars with
  | first :: rest =>
      if first = 'e' ∨ first = 'E' then
        let (negative, digits) := takeSign rest
        let exponent : ℤ := Nat.ofDigitChars 10 (digits.takeWhile Char.isDigit) 0
        if negative then -exponent else exponent
      else 0
  | [] => 0

def signed (negative : Bool) (magnitude : ℚ) : ℚ := if negative then -magnitude else magnitude

/-- The number in front of a text. -/
def parseFloat (round : ℚ → ℚ) (text : String) : Number :=
  let (negative, body) := takeSign (text.toList.dropWhile isWhite)
  if "Infinity".toList.isPrefixOf body then .infinite negative
  else
    let whole := body.takeWhile Char.isDigit
    let (fraction, rest) := takeFraction (body.dropWhile Char.isDigit)
    if whole ++ fraction = [] then .nan
    else .finite (round (signed negative
      (Nat.ofDigitChars 10 (whole ++ fraction) 0 * 10 ^ (readExponent rest - fraction.length))))

/-- The value of a digit that may be a letter. -/
def digitValue (char : Char) : Option ℕ :=
  if char.isDigit then some (char.toNat - '0'.toNat)
  else if 'a' ≤ char ∧ char ≤ 'f' then some (char.toNat - 'a'.toNat + 10)
  else if 'A' ≤ char ∧ char ≤ 'F' then some (char.toNat - 'A'.toNat + 10)
  else none

/-- The radix a text asks for. -/
def takeRadix : List Char → ℕ × List Char
  | '0' :: 'x' :: rest => (16, rest)
  | '0' :: 'X' :: rest => (16, rest)
  | chars => (10, chars)

/-- The digits in front of a text, up to the first that is none in the radix. -/
def leadingDigits (radix : ℕ) : List Char → List ℕ
  | [] => []
  | char :: rest =>
      match digitValue char with
      | some digit => if digit < radix then digit :: leadingDigits radix rest else []
      | none => []

/-- The integer in front of a text. -/
def parseInt (round : ℚ → ℚ) (text : String) : Number :=
  let (negative, body) := takeSign (text.toList.dropWhile isWhite)
  let (radix, chars) := takeRadix body
  let digits := leadingDigits radix chars
  if digits = [] then .nan
  else .finite (round (signed negative
    (digits.foldl (fun value digit => radix * value + digit) 0 : ℕ)))

/-! ## Reading what was written -/

theorem isWhite_of_isDigit {char : Char} (digit : char.isDigit = true) :
    isWhite char = false := by
  have bounds := Char.isDigit_iff_toNat.mp digit
  simp at bounds
  simp only [isWhite, Bool.or_eq_false_iff, decide_eq_false_iff_not, List.mem_cons,
    List.not_mem_nil, or_false]
  omega

theorem ne_of_isDigit {char other : Char} (digit : char.isDigit = true)
    (no_digit : other.isDigit = false) : char ≠ other := by
  rintro rfl
  rw [digit] at no_digit
  contradiction

theorem takeSign_of_isDigit {char : Char} {rest : List Char} (digit : char.isDigit = true) :
    takeSign (char :: rest) = (false, char :: rest) := by
  have no_minus : char ≠ '-' := ne_of_isDigit digit (by decide)
  have no_plus : char ≠ '+' := ne_of_isDigit digit (by decide)
  unfold takeSign
  split
  · exact absurd (List.cons.inj ‹_›).1 no_minus
  · exact absurd (List.cons.inj ‹_›).1 no_plus
  · rfl

theorem length_padded {width number : ℕ} (positive : 0 < width) (small : number < 10 ^ width) :
    (padded width number).length = width := by
  have short := (Nat.length_toDigits_le_iff (b := 10) (by norm_num) positive).mpr small
  rw [padded, List.length_append, List.length_replicate, Nat.sub_add_cancel short]

theorem isDigit_of_mem_padded {width number : ℕ} {char : Char}
    (member : char ∈ padded width number) : char.isDigit = true := by
  rcases List.mem_append.mp member with zero | digit
  · rw [List.eq_of_mem_replicate zero]
    rfl
  · exact DecimalText.isDigit_of_mem_toDigits digit

theorem ofDigitChars_padded (width number : ℕ) :
    Nat.ofDigitChars 10 (padded width number) 0 = number := by
  rw [padded, Nat.ofDigitChars_append, Nat.ofDigitChars_replicate_zero, Nat.mul_zero,
    Nat.ofDigitChars_ten_toDigits]

theorem toNat_of_isDigit {char : Char} (digit : char.isDigit = true) :
    '0'.toNat ≤ char.toNat ∧ char.toNat < '0'.toNat + 10 := by
  obtain ⟨first, last⟩ := Char.isDigit_iff_toNat.mp digit
  exact ⟨first, Nat.lt_succ_of_le last⟩

private theorem ofDigitChars_inj {chars others : List Char} {start other : ℕ}
    (digits : ∀ char ∈ chars, char.isDigit = true)
    (other_digits : ∀ char ∈ others, char.isDigit = true)
    (length_eq : chars.length = others.length)
    (same : Nat.ofDigitChars 10 chars start = Nat.ofDigitChars 10 others other) :
    start = other ∧ chars = others := by
  induction chars generalizing others start other with
  | nil =>
      obtain rfl := List.eq_nil_of_length_eq_zero length_eq.symm
      exact ⟨same, rfl⟩
  | cons char chars ih =>
      cases others with
      | nil => cases length_eq
      | cons first others =>
          rw [List.forall_mem_cons] at digits other_digits
          rw [Nat.ofDigitChars_cons, Nat.ofDigitChars_cons] at same
          obtain ⟨value_eq, rfl⟩ :=
            ih digits.2 other_digits.2 (Nat.succ.inj length_eq) same
          have bounds := toNat_of_isDigit digits.1
          have other_bounds := toNat_of_isDigit other_digits.1
          have char_eq : char.toNat = first.toNat := by omega
          exact ⟨by omega, by rw [Char.toNat_inj.mp char_eq]⟩

theorem ofDigitChars_lt {chars : List Char} (digits : ∀ char ∈ chars, char.isDigit = true) :
    Nat.ofDigitChars 10 chars 0 < 10 ^ chars.length := by
  induction chars with
  | nil => exact Nat.one_pos
  | cons char chars ih =>
      rw [List.forall_mem_cons] at digits
      have later := ih digits.2
      have bounds := toNat_of_isDigit digits.1
      rw [Nat.ofDigitChars_cons, Nat.ofDigitChars_eq_ofDigitChars_zero, List.length_cons, pow_succ,
        Nat.mul_zero, Nat.zero_add]
      have leading : char.toNat - '0'.toNat ≤ 9 := by omega
      calc
        10 ^ chars.length * (char.toNat - '0'.toNat) + Nat.ofDigitChars 10 chars 0
            < 10 ^ chars.length * (char.toNat - '0'.toNat) + 10 ^ chars.length := by omega
        _ = 10 ^ chars.length * (char.toNat - '0'.toNat + 1) := by rw [Nat.mul_succ]
        _ ≤ 10 ^ chars.length * 10 := Nat.mul_le_mul_left _ (Nat.succ_le_succ leading)

theorem padded_ofDigitChars {width : ℕ} {chars : List Char} (positive : 0 < width)
    (digits : ∀ char ∈ chars, char.isDigit = true) (length_eq : chars.length = width) :
    padded width (Nat.ofDigitChars 10 chars 0) = chars := by
  have small : Nat.ofDigitChars 10 chars 0 < 10 ^ width := length_eq ▸ ofDigitChars_lt digits
  exact (ofDigitChars_inj (fun _ => isDigit_of_mem_padded) digits
    ((length_padded positive small).trans length_eq.symm) (ofDigitChars_padded width _)).2

theorem toDigits_ofDigitChars {chars : List Char} (nonempty : chars ≠ [])
    (digits : ∀ char ∈ chars, char.isDigit = true)
    (no_zero : chars.head? = some '0' → chars.length = 1) :
    Nat.toDigits 10 (Nat.ofDigitChars 10 chars 0) = chars := by
  have refilled := padded_ofDigitChars (List.length_pos_iff.mpr nonempty) digits rfl
  rw [padded] at refilled
  set written := Nat.toDigits 10 (Nat.ofDigitChars 10 chars 0) with written_eq
  cases missing : chars.length - written.length with
  | zero => rwa [missing, List.replicate_zero, List.nil_append] at refilled
  | succ zeros =>
      -- a zero would be in front, which leaves room for no other digit
      have length_eq : chars.length = 1 := no_zero (by rw [← refilled, missing]; rfl)
      have written_pos : 0 < written.length := Nat.length_toDigits_pos
      omega

/-- The digits on both sides of the point are those of the number of units. -/
theorem ofDigitChars_fixed {digits : ℕ} (positive : 0 < digits) (units : ℕ) :
    Nat.ofDigitChars 10
      (Nat.toDigits 10 (units / 10 ^ digits) ++ padded digits (units % 10 ^ digits)) 0 = units := by
  have small : units % 10 ^ digits < 10 ^ digits := Nat.mod_lt _ (by positivity)
  rw [Nat.ofDigitChars_append, Nat.ofDigitChars_ten_toDigits,
    Nat.ofDigitChars_eq_ofDigitChars_zero, length_padded positive small, ofDigitChars_padded,
    Nat.div_add_mod]

private theorem parseFloat_digits {round : ℚ → ℚ} {text : String} {whole fraction : List Char}
    (text_eq : text.toList = whole ++ '.' :: fraction) (nonempty : whole ≠ [])
    (whole_digits : ∀ char ∈ whole, char.isDigit = true)
    (fraction_digits : ∀ char ∈ fraction, char.isDigit = true) :
    parseFloat round text = .finite (round
      (Nat.ofDigitChars 10 (whole ++ fraction) 0 * 10 ^ (-(fraction.length : ℤ)))) := by
  obtain ⟨first, others, rfl⟩ := List.exists_cons_of_ne_nil nonempty
  have first_digit := whole_digits first List.mem_cons_self
  have unspaced : text.toList.dropWhile isWhite = first :: others ++ '.' :: fraction := by
    rw [text_eq, List.cons_append, List.dropWhile_cons_of_neg]
    rw [isWhite_of_isDigit first_digit]
    decide
  have bounded : "Infinity".toList.isPrefixOf (first :: others ++ '.' :: fraction) = false := by
    have no_letter : 'I' ≠ first := (ne_of_isDigit first_digit (by decide)).symm
    simp [List.isPrefixOf, no_letter]
  have front : (first :: others ++ '.' :: fraction).takeWhile Char.isDigit = first :: others := by
    rw [List.takeWhile_append_of_pos whole_digits]
    simp
  have behind : (first :: others ++ '.' :: fraction).dropWhile Char.isDigit = '.' :: fraction := by
    rw [List.dropWhile_append_of_pos whole_digits]
    simp
  have fraction_front : fraction.takeWhile Char.isDigit = fraction :=
    List.takeWhile_eq_self_iff.mpr fraction_digits
  have fraction_behind : fraction.dropWhile Char.isDigit = [] :=
    List.dropWhile_eq_nil_iff.mpr fraction_digits
  have sign : takeSign (first :: others ++ '.' :: fraction) =
      (false, first :: others ++ '.' :: fraction) := takeSign_of_isDigit first_digit
  simp only [parseFloat, unspaced, sign, bounded, front, behind, takeFraction, fraction_front,
    fraction_behind]
  simp [readExponent, signed]

/-- A text with a fixed number of digits behind the point is read as the number it shows. -/
theorem parseFloat_fixedText {round : ℚ → ℚ} {digits : ℕ} (positive : 0 < digits) (units : ℕ) :
    parseFloat round (fixedText digits units) = .finite (round (units / 10 ^ digits)) := by
  have small : units % 10 ^ digits < 10 ^ digits := Nat.mod_lt _ (by positivity)
  have text_eq : (fixedText digits units).toList =
      Nat.toDigits 10 (units / 10 ^ digits) ++ '.' :: padded digits (units % 10 ^ digits) := by
    simp [fixedText, positive.ne']
  rw [parseFloat_digits text_eq Nat.toDigits_ne_nil
    (fun char => DecimalText.isDigit_of_mem_toDigits)
    (fun char => isDigit_of_mem_padded), ofDigitChars_fixed positive, length_padded positive small,
    zpow_neg, zpow_natCast, div_eq_mul_inv]

/-- A number that is not negative is read back as the nearest one with so many digits behind the
point. -/
theorem parseFloat_toFixed {round : ℚ → ℚ} {digits : ℕ} {value : ℚ} (positive : 0 < digits)
    (nonneg : 0 ≤ value) (small : value < 10 ^ 21) :
    parseFloat round ((Number.finite value).toFixed round digits) =
      .finite (round (⌊value * 10 ^ digits + 1 / 2⌋₊ / 10 ^ digits)) := by
  rw [Number.toFixed, abs_of_nonneg nonneg, if_pos small, if_neg (not_lt.mpr nonneg),
    String.empty_append, parseFloat_fixedText positive]

theorem toDigits_mul_pow {significand : ℕ} (positive : 0 < significand) (zeros : ℕ) :
    Nat.toDigits 10 (significand * 10 ^ zeros) =
      Nat.toDigits 10 significand ++ List.replicate zeros '0' := by
  induction zeros with
  | zero => simp
  | succ zeros ih =>
      have step := Nat.toDigits_append_toDigits (b := 10) (d := 0) (by norm_num)
        (show 0 < significand * 10 ^ zeros by positivity) (by norm_num)
      rw [show significand * 10 ^ (zeros + 1) = 10 * (significand * 10 ^ zeros) + 0 by ring, ← step,
        ih, List.append_assoc, List.replicate_succ']
      rfl

private theorem positional_natCast {significand zeros number : ℕ} (positive : 0 < number)
    (few : number < 10 ^ 21) (number_eq : significand * 10 ^ zeros = number) :
    positional significand zeros = toString number := by
  have significand_pos : 0 < significand := by
    by_contra zero
    rw [Nat.eq_zero_of_not_pos zero, Nat.zero_mul] at number_eq
    omega
  have digits_eq := toDigits_mul_pow significand_pos zeros
  rw [number_eq] at digits_eq
  have count : (Nat.toDigits 10 number).length ≤ 21 :=
    (Nat.length_toDigits_le_iff (b := 10) (by norm_num) (by norm_num)).mpr few
  rw [digits_eq, List.length_append, List.length_replicate] at count
  have inside : (0 : ℤ) ≤ zeros ∧ ((Nat.toDigits 10 significand).length + zeros : ℤ) ≤ 21 := by
    omega
  simp only [positional, inside, and_self, if_true, Int.toNat_natCast, ← digits_eq]
  rw [Nat.toString_eq_ofList_toDigits]

/-- A whole number of more digits is written with an exponent. -/
theorem positional_of_large {significand zeros number : ℕ} (many : 10 ^ 21 ≤ number)
    (number_eq : significand * 10 ^ zeros = number) :
    ∃ (first : Char) (rest : List Char), Nat.toDigits 10 significand = first :: rest ∧
      21 ≤ rest.length + zeros ∧
      positional significand zeros = String.ofList (first ::
        ((if rest = [] then [] else '.' :: rest) ++
          'e' :: '+' :: Nat.toDigits 10 (rest.length + zeros))) := by
  have significand_pos : 0 < significand := by
    by_contra zero
    rw [Nat.eq_zero_of_not_pos zero, Nat.zero_mul] at number_eq
    omega
  obtain ⟨first, rest, digits_eq⟩ := List.exists_cons_of_ne_nil
    (show Nat.toDigits 10 significand ≠ [] from Nat.toDigits_ne_nil)
  have count : ¬(Nat.toDigits 10 number).length ≤ 21 := by
    rw [Nat.length_toDigits_le_iff (by norm_num) (by norm_num)]
    omega
  rw [← number_eq, toDigits_mul_pow significand_pos, digits_eq, List.length_append,
    List.length_replicate, List.length_cons] at count
  have long : 21 ≤ rest.length + zeros := by omega
  refine ⟨first, rest, digits_eq, long, ?_⟩
  have point : ((rest.length + 1 : ℕ) + (zeros : ℤ)) - 1 = (rest.length + zeros : ℕ) := by
    push_cast
    ring
  have positive : ¬((rest.length + zeros : ℕ) : ℤ) < 0 := by omega
  have outside : ¬(0 ≤ (zeros : ℤ) ∧ ((rest.length + 1 : ℕ) + (zeros : ℤ)) ≤ 21) := by omega
  have outside' : ¬(0 < ((rest.length + 1 : ℕ) + (zeros : ℤ)) ∧
      ((rest.length + 1 : ℕ) + (zeros : ℤ)) ≤ 21) := by omega
  have outside'' : ¬(-6 < ((rest.length + 1 : ℕ) + (zeros : ℤ)) ∧
      ((rest.length + 1 : ℕ) + (zeros : ℤ)) ≤ 0) := by omega
  simp only [positional, digits_eq, List.length_cons, if_neg outside, if_neg outside',
    if_neg outside'', point, if_neg positive, Int.natAbs_natCast]
  apply String.toList_injective
  cases rest with
  | nil => simp
  | cons second rest => simp

section Whole

variable {round : ℚ → ℚ} {number : ℕ}

private theorem withDigits_natCast {count significand : ℕ} {exponent : ℤ}
    (only : ∀ other : ℕ, round other = number ↔ other = number)
    (few : count ≤ Nat.log 10 number + 1)
    (found : withDigits round number count = some (significand, exponent)) :
    ∃ zeros : ℕ, exponent = zeros ∧ significand * 10 ^ zeros = number := by
  obtain ⟨unit, unit_eq⟩ : ∃ unit : ℕ, Int.log 10 (number : ℚ) + 1 - count = unit :=
    ⟨Nat.log 10 number + 1 - count, by rw [Int.log_natCast]; omega⟩
  simp only [withDigits, unit_eq, Option.map_eq_some_iff] at found
  obtain ⟨candidate, chosen, normalized⟩ := found
  have rounded := List.find?_some chosen
  have candidate_eq : candidate * 10 ^ unit = number := by
    rw [decide_eq_true_iff] at rounded
    rw [← only, ← rounded]
    push_cast
    rw [zpow_natCast]
  split at normalized
  · rename_i carry
    obtain ⟨rfl, rfl⟩ := Prod.mk.inj normalized
    refine ⟨unit + count, by push_cast; rfl, ?_⟩
    rw [one_mul, ← candidate_eq, carry, ← pow_add, Nat.add_comm]
  · obtain ⟨rfl, rfl⟩ := Prod.mk.inj normalized
    exact ⟨unit, rfl, candidate_eq⟩

private theorem withDigits_log (only : ∀ other : ℕ, round other = number ↔ other = number) :
    (withDigits round number (Nat.log 10 number + 1)).isSome = true := by
  have whole : (roundHalfEven (number : ℚ)).toNat = number := by
    have := roundHalfEven_intCast number
    rw [Int.cast_natCast] at this
    rw [this, Int.toNat_natCast]
  have rounded : round number = number := (only number).mpr rfl
  simp [withDigits, whole, rounded]

/-- The shortest decimal of a whole number is the number itself. -/
theorem shortest_natCast (only : ∀ other : ℕ, round other = number ↔ other = number) :
    ∃ significand zeros : ℕ, shortest round number = (significand, (zeros : ℤ)) ∧
      significand * 10 ^ zeros = number := by
  cases result : (List.range' 1 17).findSome? (withDigits round number) with
  | none =>
      refine ⟨number, 0, ?_, by rw [pow_zero, Nat.mul_one]⟩
      rw [shortest, result, Option.getD_none, Nat.floor_natCast, Nat.cast_zero]
  | some found =>
      obtain ⟨significand, exponent⟩ := found
      obtain ⟨fewer, count, more, split, written, none_fewer⟩ :=
        List.findSome?_eq_some_iff.mp result
      -- the fewest digits that work are no more than all of them
      have count_le : count ≤ Nat.log 10 number + 1 := by
        have ordered : (List.range' 1 17).Pairwise (· < ·) := List.pairwise_lt_range'
        have member : count ∈ List.range' 1 17 := by simp [split]
        rw [List.mem_range'_1] at member
        by_contra more_digits
        have enough : Nat.log 10 number + 1 ∈ List.range' 1 17 := by
          rw [List.mem_range'_1]
          omega
        rw [split, List.pairwise_append, List.pairwise_cons] at ordered
        rw [split, List.mem_append, List.mem_cons] at enough
        rcases enough with earlier | same | later
        · have some_earlier := withDigits_log only
          rw [none_fewer _ earlier] at some_earlier
          contradiction
        · omega
        · have := ordered.2.1.1 _ later
          omega
      obtain ⟨zeros, rfl, number_eq⟩ := withDigits_natCast only count_le written
      refine ⟨significand, zeros, ?_, number_eq⟩
      rw [shortest, result, Option.getD_some]

theorem text_eq_positional (only : ∀ other : ℕ, round other = number ↔ other = number)
    (positive : 0 < number) :
    ∃ significand zeros : ℕ, significand * 10 ^ zeros = number ∧
      (Number.finite number).text round = positional significand zeros := by
  obtain ⟨significand, zeros, shortest_eq, number_eq⟩ := shortest_natCast only
  have positive' : (0 : ℚ) < number := by exact_mod_cast positive
  refine ⟨significand, zeros, number_eq, ?_⟩
  simp only [Number.text, positive'.ne', if_false, abs_of_pos positive', shortest_eq,
    not_lt.mpr positive'.le, String.empty_append]

/-- A whole number no other is rounded to is written out. -/
theorem text_natCast (only : ∀ other : ℕ, round other = number ↔ other = number)
    (positive : 0 < number) (few : number < 10 ^ 21) :
    (Number.finite number).text round = toString number := by
  obtain ⟨significand, zeros, number_eq, text_eq⟩ := text_eq_positional only positive
  rw [text_eq]
  exact positional_natCast positive few number_eq

end Whole

/-- Up to the precision the whole numbers are rounded to themselves only. -/
theorem toNearest_natCast_eq_iff {precision number : ℕ} (digits : 0 < precision)
    (few : number < 2 ^ precision) (other : ℕ) :
    toNearest precision other = number ↔ other = number := by
  constructor
  · intro rounded
    obtain small | large := Nat.lt_or_ge other (2 ^ precision)
    · rw [toNearest_natCast small] at rounded
      exact_mod_cast rounded
    · have passed : (2 : ℚ) ^ (precision : ℤ) ≤ toNearest precision other :=
        le_toNearest digits (by exact_mod_cast large)
      rw [rounded] at passed
      have : 2 ^ precision ≤ number := by exact_mod_cast passed
      omega
  · rintro rfl
    exact toNearest_natCast few

end ScriptNumber
