import Mathlib.Data.List.Basic
import Mathlib.Data.Nat.Notation

/-!
# Bytes as text

Standard base64 with padding: three bytes are four characters of six bits each.  The decoder takes
canonical texts only, and it takes back whatever was encoded.
-/

namespace Base64

/-- The characters in the order of their values. -/
def alphabet : List Char :=
  "ABCDEFGHIJKLMNOPQRSTUVWXYZabcdefghijklmnopqrstuvwxyz0123456789+/".toList

def character (value : ℕ) : Char := alphabet.getD value '='

def value (char : Char) : Option ℕ := alphabet.idxOf? char

/-- A last group of one or two bytes is padded. -/
def encodeBytes : List UInt8 → List Char
  | [] => []
  | [first] =>
      [character (first.toNat / 4), character (first.toNat % 4 * 16), '=', '=']
  | [first, second] =>
      [character (first.toNat / 4), character (first.toNat % 4 * 16 + second.toNat / 16),
        character (second.toNat % 16 * 4), '=']
  | first :: second :: third :: others =>
      character (first.toNat / 4) :: character (first.toNat % 4 * 16 + second.toNat / 16) ::
        character (second.toNat % 16 * 4 + third.toNat / 64) ::
        character (third.toNat % 64) :: encodeBytes others

/-- The bits that a padded group does not use have to be zero. -/
def decodeChars : List Char → Option (List UInt8)
  | [] => some []
  | char₁ :: char₂ :: char₃ :: char₄ :: others => do
      let value₁ ← value char₁
      let value₂ ← value char₂
      let first := UInt8.ofNat (value₁ * 4 + value₂ / 16)
      if others = [] ∧ char₄ = '=' then
        if char₃ = '=' then
          if value₂ % 16 = 0 then some [first] else none
        else do
          let value₃ ← value char₃
          if value₃ % 4 = 0 then
            some [first, UInt8.ofNat (value₂ % 16 * 16 + value₃ / 4)]
          else none
      else do
        let value₃ ← value char₃
        let value₄ ← value char₄
        let bytes ← decodeChars others
        return first :: UInt8.ofNat (value₂ % 16 * 16 + value₃ / 4) ::
          UInt8.ofNat (value₃ % 4 * 64 + value₄) :: bytes
  | _ => none

def encode (bytes : List UInt8) : String := String.ofList (encodeBytes bytes)

def decode (text : String) : Option (List UInt8) := decodeChars text.toList

theorem characters_read : ∀ digit < 64,
    value (character digit) = some digit ∧ character digit ≠ '=' := by
  decide

theorem value_character {digit : ℕ} (small : digit < 64) :
    value (character digit) = some digit := (characters_read digit small).1

theorem character_ne_padding {digit : ℕ} (small : digit < 64) : character digit ≠ '=' :=
  (characters_read digit small).2

theorem ofNat_of_eq {byte : UInt8} {number : ℕ} (number_eq : number = byte.toNat) :
    UInt8.ofNat number = byte := by
  rw [number_eq, UInt8.ofNat_toNat]

theorem first_read (first : UInt8) {low : ℕ} (low_lt : low < 16) :
    UInt8.ofNat (first.toNat / 4 * 4 + (first.toNat % 4 * 16 + low) / 16) = first :=
  ofNat_of_eq (by omega)

theorem second_read {high : ℕ} (second : UInt8) {low : ℕ} (low_lt : low < 4) :
    UInt8.ofNat ((high * 16 + second.toNat / 16) % 16 * 16 + (second.toNat % 16 * 4 + low) / 4) =
      second := by
  have second_lt := second.toNat_lt
  exact ofNat_of_eq (by omega)

private theorem third_read {high : ℕ} (third : UInt8) :
    UInt8.ofNat ((high * 4 + third.toNat / 64) % 4 * 64 + third.toNat % 64) = third := by
  have third_lt := third.toNat_lt
  exact ofNat_of_eq (by omega)

private theorem decodeChars_encodeBytes (bytes : List UInt8) :
    decodeChars (encodeBytes bytes) = some bytes := by
  induction bytes using encodeBytes.induct with
  | case1 => rfl
  | case2 first =>
      have first_lt := first.toNat_lt
      have first_eq := first_read first (show 0 < 16 by decide)
      rw [Nat.add_zero] at first_eq
      simp only [encodeBytes, decodeChars]
      rw [value_character (by omega), value_character (by omega)]
      simp only [Option.bind_eq_bind, Option.bind_some, first_eq, Nat.mul_mod_left, and_self,
        ↓reduceIte]
  | case3 first second =>
      have first_lt := first.toNat_lt
      have second_lt := second.toNat_lt
      have first_eq := first_read first (show second.toNat / 16 < 16 by omega)
      have second_eq := @second_read (first.toNat % 4) second _ (show 0 < 4 by decide)
      rw [Nat.add_zero] at second_eq
      simp only [encodeBytes, decodeChars]
      rw [value_character (by omega), value_character (by omega), value_character (by omega)]
      simp only [Option.bind_eq_bind, Option.bind_some, first_eq, second_eq, and_self,
        ↓reduceIte]
      rw [if_neg (character_ne_padding (by omega)), if_pos (by omega)]
  | case4 first second third others ih =>
      have first_lt := first.toNat_lt
      have second_lt := second.toNat_lt
      have third_lt := third.toNat_lt
      have first_eq := first_read first (show second.toNat / 16 < 16 by omega)
      have second_eq := @second_read (first.toNat % 4) second _
        (show third.toNat / 64 < 4 by omega)
      have third_eq := @third_read (second.toNat % 16) third
      have unpadded : ¬(encodeBytes others = [] ∧ character (third.toNat % 64) = '=') :=
        fun padded => character_ne_padding (by omega) padded.2
      simp only [encodeBytes, decodeChars]
      rw [value_character (by omega), value_character (by omega), value_character (by omega),
        value_character (by omega), ih]
      simp only [Option.bind_eq_bind, Option.bind_some]
      rw [if_neg unpadded, first_eq, second_eq, third_eq]
      rfl

/-- Encoded bytes are decoded to themselves. -/
theorem decode_encode (bytes : List UInt8) : decode (encode bytes) = some bytes := by
  rw [decode, encode, String.toList_ofList]
  exact decodeChars_encodeBytes bytes

end Base64
