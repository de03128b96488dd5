import Mathlib.Data.Nat.Digits.Defs
import Mathlib.Data.List.Basic
import Mathlib.Data.UInt

/-!
# Borsh

The binary object format: fixed-width words are stored little-endian, an optional value after a tag,
and strings and vectors after a length of four bytes.  A format carries the proof that its reader
takes back what its writer wrote, wherever the written bytes are followed by others.
-/

namespace Borsh

/-- A byte string. -/
abbrev Bytes := List UInt8

/-- The low bytes of a number, the least significant first. -/
def littleEndian : ℕ → ℕ → Bytes
  | 0, _ => []
  | width + 1, value => UInt8.ofNat value :: littleEndian width (value / 256)

/-- The number that bytes spell, the least significant first. -/
def ofLittleEndian (bytes : Bytes) : ℕ :=
  Nat.ofDigits 256 (bytes.map UInt8.toNat)

@[simp]
theorem length_littleEndian (width value : ℕ) : (littleEndian width value).length = width := by
  induction width generalizing value with
  | zero => rfl
  | succ width ih => rw [littleEndian, List.length_cons, ih]

@[simp]
theorem ofLittleEndian_nil : ofLittleEndian [] = 0 := rfl

@[simp]
theorem ofLittleEndian_cons (byte : UInt8) (bytes : Bytes) :
    ofLittleEndian (byte :: bytes) = byte.toNat + 256 * ofLittleEndian bytes :=
  Nat.ofDigits_cons

private theorem ofLittleEndian_lt (bytes : Bytes) : ofLittleEndian bytes < 256 ^ bytes.length := by
  have digits : ∀ digit ∈ bytes.map UInt8.toNat, digit < 256 := by
    intro digit inside
    obtain ⟨byte, -, rfl⟩ := List.mem_map.mp inside
    exact byte.toNat_lt
  have bound := Nat.ofDigits_lt_base_pow_length (by norm_num) digits
  rwa [List.length_map] at bound

/-- A number that fits is read back. -/
theorem ofLittleEndian_littleEndian {width value : ℕ} (fits : value < 256 ^ width) :
    ofLittleEndian (littleEndian width value) = value := by
  induction width generalizing value with
  | zero => rw [littleEndian, ofLittleEndian_nil, Nat.lt_one_iff.mp fits]
  | succ width ih =>
      have fits' : value / 256 < 256 ^ width := Nat.div_lt_of_lt_mul (by rwa [← pow_succ'])
      rw [littleEndian, ofLittleEndian_cons, ih fits', UInt8.toNat_ofNat']
      exact Nat.mod_add_div value 256

private theorem littleEndian_ofLittleEndian (bytes : Bytes) :
    littleEndian bytes.length (ofLittleEndian bytes) = bytes := by
  induction bytes with
  | nil => rfl
  | cons byte bytes ih =>
      have low : UInt8.ofNat (byte.toNat + 256 * ofLittleEndian bytes) = byte := by
        rw [← UInt8.toNat_inj, UInt8.toNat_ofNat', Nat.add_mul_mod_self_left]
        exact Nat.mod_eq_of_lt byte.toNat_lt
      have high : (byte.toNat + 256 * ofLittleEndian bytes) / 256 = ofLittleEndian bytes := by
        rw [Nat.add_mul_div_left _ _ (by norm_num), Nat.div_eq_of_lt byte.toNat_lt, Nat.zero_add]
      rw [List.length_cons, ofLittleEndian_cons, littleEndian, low, high, ih]

/-- What takes a value from the front of the input. -/
abbrev Reader (α : Type) := StateT Bytes Option α

/-- The reader takes exactly these bytes, whatever follows, and returns the value. -/
def Reads {α : Type} (reader : Reader α) (bytes : Bytes) (value : α) : Prop :=
  ∀ rest, reader (bytes ++ rest) = some (value, rest)

section Reads

variable {α : Type} {β : Type} {reader : Reader α} {bytes : Bytes} {value : α}

theorem Reads.all (reads : Reads reader bytes value) : reader bytes = some (value, []) := by
  have exact_input := reads []
  rwa [List.append_nil] at exact_input

theorem Reads.pure (value : α) : Reads (Pure.pure value) [] value := fun _ => rfl

/-- What follows a reader starts where the reader stopped. -/
theorem Reads.bind_apply {next : α → Reader β} (reads : Reads reader bytes value) (rest : Bytes) :
    (reader >>= next) (bytes ++ rest) = next value rest := by
  change (reader (bytes ++ rest) >>= fun output => next output.1 output.2) = _
  rw [reads rest]
  rfl

theorem Reads.bind {next : α → Reader β} {later : Bytes} {result : β}
    (reads : Reads reader bytes value) (readsNext : Reads (next value) later result) :
    Reads (reader >>= next) (bytes ++ later) result := by
  intro rest
  rw [List.append_assoc, reads.bind_apply]
  exact readsNext rest

theorem Reads.map {next : α → β} (reads : Reads reader bytes value) :
    Reads (next <$> reader) bytes (next value) := by
  intro rest
  change (reader (bytes ++ rest) >>= fun output => Option.some (next output.1, output.2)) = _
  rw [reads rest]
  rfl

theorem Reads.last {next : α → Reader β} {result : β} (reads : Reads reader bytes value)
    (readsNext : Reads (next value) [] result) : Reads (reader >>= next) bytes result := by
  have sequence := reads.bind readsNext
  rwa [List.append_nil] at sequence

end Reads

/-- Take a number of bytes. -/
def take (count : ℕ) : Reader Bytes := fun input =>
  if count ≤ input.length then some (input.take count, input.drop count) else none

theorem take_reads {count : ℕ} {bytes : Bytes} (length : bytes.length = count) :
    Reads (take count) bytes bytes := by
  subst length
  intro rest
  unfold take
  rw [if_pos (by simp), List.take_left, List.drop_left]

/-- Read a value a number of times. -/
def many {α : Type} (reader : Reader α) : ℕ → Reader (List α)
  | 0 => pure []
  | count + 1 => do
      let value ← reader
      let values ← many reader count
      return value :: values

/-! ## Formats -/

/-- How values of a type are written and read. -/
structure Format (α : Type) where
  /-- `try_to_vec`, which fails on what is too long for its length field. -/
  encode : α → Option Bytes
  /-- `deserialize` -/
  decode : Reader α
  reads : ∀ value bytes, encode value = some bytes → Reads decode bytes value

/-- The words of a number of bytes. -/
def encodeWord (width : ℕ) (value : BitVec (8 * width)) : Option Bytes :=
  some (littleEndian width value.toNat)

def decodeWord (width : ℕ) : Reader (BitVec (8 * width)) := do
  let bytes ← take width
  return BitVec.ofNat _ (ofLittleEndian bytes)

private theorem reads_word (width : ℕ) (value : BitVec (8 * width)) (bytes : Bytes)
    (written : encodeWord width value = some bytes) : Reads (decodeWord width) bytes value := by
  obtain rfl := Option.some.inj written
  have fits : value.toNat < 256 ^ width := by
    rw [show 256 = 2 ^ 8 from rfl, ← pow_mul]
    exact value.isLt
  refine (take_reads (length_littleEndian ..)).last fun rest => ?_
  rw [ofLittleEndian_littleEndian fits, BitVec.ofNat_toNat, BitVec.setWidth_eq]
  rfl

/-- Fixed-width words. -/
def word (width : ℕ) : Format (BitVec (8 * width)) where
  encode := encodeWord width
  decode := decodeWord width
  reads := reads_word width

/-- Every input that is read as a value starts with the bytes of that value. -/
def Format.Canonical {α : Type} (format : Format α) : Prop :=
  ∀ input value rest, format.decode input = some (value, rest) →
    ∃ bytes, format.encode value = some bytes ∧ input = bytes ++ rest

theorem canonical_word (width : ℕ) : (word width).Canonical := by
  intro input value rest decoded
  refine ⟨littleEndian width value.toNat, rfl, ?_⟩
  change (take width input >>= fun output =>
    some (BitVec.ofNat (8 * width) (ofLittleEndian output.1), output.2)) = _ at decoded
  unfold take at decoded
  split_ifs at decoded with enough
  · obtain ⟨rfl, rfl⟩ := Prod.mk.inj (Option.some.inj decoded)
    have length : (input.take width).length = width := List.length_take_of_le enough
    have bound := ofLittleEndian_lt (input.take width)
    rw [length, show 256 = 2 ^ 8 from rfl, ← pow_mul] at bound
    have written := littleEndian_ofLittleEndian (input.take width)
    rw [length] at written
    rw [BitVec.toNat_ofNat, Nat.mod_eq_of_lt bound, written, List.take_append_drop]
  · contradiction

/-- Every input with enough bytes is read as a value of that many bytes. -/
def Format.Total {α : Type} (format : Format α) (width : ℕ) : Prop :=
  ∀ input, width ≤ input.length → ∃ value, format.decode input = some (value, input.drop width)

theorem total_word (width : ℕ) : (word width).Total width := by
  intro input enough
  refine ⟨BitVec.ofNat _ (ofLittleEndian (input.take width)), ?_⟩
  change (take width input >>= fun output =>
    some (BitVec.ofNat (8 * width) (ofLittleEndian output.1), output.2)) = _
  rw [take, if_pos enough]
  rfl

section Isomorphism

variable {α : Type} {β : Type} (format : Format α) (wrap : α → β) (unwrap : β → α)

private theorem reads_iso (inverse : ∀ value, wrap (unwrap value) = value) (value : β)
    (bytes : Bytes)
    (written : format.encode (unwrap value) = some bytes) :
    Reads (wrap <$> format.decode) bytes value := by
  rw [← inverse value]
  exact (format.reads _ _ written).map

/-- The format of a type whose values are stored as those of another. -/
def Format.iso (inverse : ∀ value, wrap (unwrap value) = value) : Format β where
  encode value := format.encode (unwrap value)
  decode := wrap <$> format.decode
  reads := reads_iso format wrap unwrap inverse

private theorem canonical_iso (inverse : ∀ value, wrap (unwrap value) = value)
    (inverse' : ∀ value, unwrap (wrap value) = value) (canonical : format.Canonical) :
    (format.iso wrap unwrap inverse).Canonical := by
  intro input value rest decoded
  change (format.decode input >>= fun output => some (wrap output.1, output.2)) = _ at decoded
  obtain ⟨⟨inner, left⟩, innerDecoded, output⟩ := Option.bind_eq_some_iff.mp decoded
  obtain ⟨rfl, rfl⟩ := Prod.mk.inj (Option.some.inj output)
  obtain ⟨bytes, written, input_eq⟩ := canonical input inner left innerDecoded
  refine ⟨bytes, ?_, input_eq⟩
  change format.encode (unwrap (wrap inner)) = _
  rw [inverse', written]

private theorem total_iso (inverse : ∀ value, wrap (unwrap value) = value) {width : ℕ}
    (total : format.Total width) : (format.iso wrap unwrap inverse).Total width := by
  intro input enough
  obtain ⟨inner, decoded⟩ := total input enough
  refine ⟨wrap inner, ?_⟩
  change (format.decode input >>= fun output => some (wrap output.1, output.2)) = _
  rw [decoded]
  rfl

end Isomorphism

/-- `u8` -/
def u8 : Format UInt8 := (word 1).iso UInt8.ofBitVec UInt8.toBitVec UInt8.ofBitVec_toBitVec

/-- `u32` -/
def u32 : Format UInt32 := (word 4).iso UInt32.ofBitVec UInt32.toBitVec UInt32.ofBitVec_toBitVec

/-- `u64` -/
def u64 : Format UInt64 := (word 8).iso UInt64.ofBitVec UInt64.toBitVec UInt64.ofBitVec_toBitVec

/-- `i64`, in two's complement. -/
def i64 : Format Int64 := u64.iso UInt64.toInt64 Int64.toUInt64 Int64.toInt64_toUInt64

@[simp]
theorem u8_encode (value : UInt8) : u8.encode value = some [value] := by
  change some [UInt8.ofNat value.toNat] = _
  rw [UInt8.ofNat_toNat]

@[simp]
theorem u32_encode (value : UInt32) : u32.encode value = some (littleEndian 4 value.toNat) := rfl

@[simp]
theorem u64_encode (value : UInt64) : u64.encode value = some (littleEndian 8 value.toNat) := rfl

@[simp]
theorem i64_encode (value : Int64) :
    i64.encode value = some (littleEndian 8 value.toUInt64.toNat) := rfl

@[simp]
theorem word_encode (width : ℕ) (value : BitVec (8 * width)) :
    (word width).encode value = some (littleEndian width value.toNat) := rfl

theorem canonical_u64 : u64.Canonical :=
  canonical_iso (word 8) _ _ UInt64.ofBitVec_toBitVec UInt64.toBitVec_ofBitVec (canonical_word 8)

theorem total_u64 : u64.Total 8 :=
  total_iso (word 8) _ _ UInt64.ofBitVec_toBitVec (total_word 8)

theorem u8_reads (value : UInt8) : Reads u8.decode [value] value :=
  u8.reads value [value] (u8_encode value)

/-- One part after the other, unless one of them cannot be written. -/
def append (first second : Option Bytes) : Option Bytes := do
  let head ← first
  let tail ← second
  return head ++ tail

@[simp]
theorem append_some (head tail : Bytes) : append (some head) (some tail) = some (head ++ tail) :=
  rfl

theorem append_eq_some {first second : Option Bytes} {bytes : Bytes} :
    append first second = some bytes ↔
      ∃ head tail, first = some head ∧ second = some tail ∧ head ++ tail = bytes := by
  unfold append
  cases first <;> cases second <;> simp

@[simp]
theorem isSome_append {first second : Option Bytes} :
    (append first second).isSome ↔ first.isSome ∧ second.isSome := by
  unfold append
  cases first <;> cases second <;> simp

def encodeBool (value : Bool) : Option Bytes :=
  some [if value then 1 else 0]

def decodeBool : Reader Bool := do
  let tag ← u8.decode
  if tag = 0 then return false
  else if tag = 1 then return true
  else failure

private theorem reads_bool (value : Bool) (bytes : Bytes)
    (written : encodeBool value = some bytes) :
    Reads decodeBool bytes value := by
  obtain rfl := Option.some.inj written
  cases value with
  | false => exact (u8_reads 0).last (Reads.pure false)
  | true => exact (u8_reads 1).last (Reads.pure true)

/-- `bool` -/
def bool : Format Bool where
  encode := encodeBool
  decode := decodeBool
  reads := reads_bool

@[simp]
theorem bool_encode (value : Bool) : bool.encode value = some [if value then 1 else 0] := rfl

section Option

variable {α : Type} (format : Format α)

def encodeOption : Option α → Option Bytes
  | none => some [0]
  | some value => append (some [1]) (format.encode value)

def decodeOption : Reader (Option α) := do
  let tag ← u8.decode
  if tag = 0 then return none
  else if tag = 1 then
    let value ← format.decode
    return some value
  else failure

private theorem reads_option (value : Option α) (bytes : Bytes)
    (written : encodeOption format value = some bytes) :
    Reads (decodeOption format) bytes value := by
  cases value with
  | none =>
      obtain rfl := Option.some.inj written
      exact (u8_reads 0).last (Reads.pure none)
  | some value =>
      obtain ⟨tag, inner, tagWritten, innerWritten, rfl⟩ := append_eq_some.mp written
      obtain rfl := Option.some.inj tagWritten
      exact (u8_reads 1).bind ((format.reads value inner innerWritten).last (Reads.pure _))

/-- `Option` -/
def option : Format (Option α) where
  encode := encodeOption format
  decode := decodeOption format
  reads := reads_option format

theorem isSome_option (total : ∀ value, (format.encode value).isSome) (value : Option α) :
    ((option format).encode value).isSome := by
  cases value with
  | none => rfl
  | some value => exact isSome_append.mpr ⟨rfl, total value⟩

end Option

/-- The length field in front of a sequence. -/
def encodeLength (length : ℕ) : Option Bytes :=
  if length < 2 ^ 32 then some (littleEndian 4 length) else none

theorem reads_length {length : ℕ} {bytes : Bytes} (written : encodeLength length = some bytes) :
    ∃ field : UInt32, field.toNat = length ∧ Reads u32.decode bytes field := by
  unfold encodeLength at written
  split_ifs at written with fits
  obtain rfl := Option.some.inj written
  have length_eq : (UInt32.ofNat length).toNat = length := UInt32.toNat_ofNat_of_lt fits
  refine ⟨UInt32.ofNat length, length_eq, u32.reads _ _ ?_⟩
  rw [u32_encode, length_eq]

section Vector

variable {α : Type} (format : Format α)

/-- The elements of a vector, one after the other. -/
def encodeAll : List α → Option Bytes
  | [] => some []
  | value :: values => append (format.encode value) (encodeAll values)

def encodeVec (values : List α) : Option Bytes :=
  append (encodeLength values.length) (encodeAll format values)

def decodeVec : Reader (List α) := do
  let length ← u32.decode
  many format.decode length.toNat

private theorem reads_all {values : List α} {bytes : Bytes}
    (written : encodeAll format values = some bytes) :
    Reads (many format.decode values.length) bytes values := by
  induction values generalizing bytes with
  | nil =>
      obtain rfl := Option.some.inj written
      exact Reads.pure []
  | cons value values ih =>
      obtain ⟨head, tail, headWritten, tailWritten, rfl⟩ := append_eq_some.mp written
      exact (format.reads value head headWritten).bind ((ih tailWritten).last (Reads.pure _))

private theorem reads_vec (values : List α) (bytes : Bytes)
    (written : encodeVec format values = some bytes) :
    Reads (decodeVec format) bytes values := by
  obtain ⟨length, elements, lengthWritten, elementsWritten, rfl⟩ := append_eq_some.mp written
  obtain ⟨field, field_eq, reads⟩ := reads_length lengthWritten
  refine reads.bind ?_
  rw [field_eq]
  exact reads_all format elementsWritten

/-- `Vec` -/
def vec : Format (List α) where
  encode := encodeVec format
  decode := decodeVec format
  reads := reads_vec format

end Vector

/-- The UTF-8 bytes of a string. -/
def utf8 (text : String) : Bytes := text.toUTF8.data.toList

/-- `String::from_utf8` -/
def fromUtf8 (bytes : Bytes) : Option String := String.fromUTF8? ⟨bytes.toArray⟩

@[simp]
theorem fromUtf8_utf8 (text : String) : fromUtf8 (utf8 text) = some text := by
  unfold fromUtf8 utf8 String.fromUTF8?
  exact dif_pos text.isValidUTF8

def encodeString (text : String) : Option Bytes :=
  append (encodeLength (utf8 text).length) (some (utf8 text))

def decodeString : Reader String := do
  let length ← u32.decode
  let bytes ← take length.toNat
  match fromUtf8 bytes with
  | some text => return text
  | none => failure

private theorem reads_string (text : String) (bytes : Bytes)
    (written : encodeString text = some bytes) :
    Reads decodeString bytes text := by
  obtain ⟨length, content, lengthWritten, contentWritten, rfl⟩ := append_eq_some.mp written
  obtain rfl := Option.some.inj contentWritten
  obtain ⟨field, field_eq, reads⟩ := reads_length lengthWritten
  refine reads.bind ((take_reads field_eq.symm).last ?_)
  rw [fromUtf8_utf8]
  exact Reads.pure text

/-- `String` -/
def string : Format String where
  encode := encodeString
  decode := decodeString
  reads := reads_string

theorem isSome_string {text : String} :
    (string.encode text).isSome ↔ (utf8 text).length < 2 ^ 32 := by
  change (append (encodeLength _) (some _)).isSome ↔ _
  rw [isSome_append, encodeLength]
  split_ifs with fits
  · exact iff_of_true ⟨rfl, rfl⟩ fits
  · exact iff_of_false (fun written => Bool.noConfusion written.1) fits

/-- The fields of a structure, one after the other. -/
def concat : List (Option Bytes) → Option Bytes
  | [] => some []
  | field :: fields => append field (concat fields)

@[simp]
theorem concat_nil : concat [] = some [] := rfl

@[simp]
theorem concat_cons (field : Option Bytes) (fields : List (Option Bytes)) :
    concat (field :: fields) = append field (concat fields) := rfl

theorem isSome_concat {fields : List (Option Bytes)} :
    (concat fields).isSome ↔ ∀ field ∈ fields, field.isSome := by
  induction fields with
  | nil => simp
  | cons field fields ih => rw [concat_cons, isSome_append, ih, List.forall_mem_cons]

section Fields

variable {α β : Type} {bytes : Bytes}

theorem Reads.field {format : Format α} {value : α} {fields : List (Option Bytes)}
    {next : α → Reader β} {result : β}
    (written : concat (format.encode value :: fields) = some bytes)
    (others : ∀ later, concat fields = some later → Reads (next value) later result) :
    Reads (format.decode >>= next) bytes result := by
  obtain ⟨head, later, headWritten, laterWritten, rfl⟩ := append_eq_some.mp written
  exact (format.reads value head headWritten).bind (others later laterWritten)

theorem Reads.done {result : β} (written : concat [] = some bytes) :
    Reads (Pure.pure result) bytes result := by
  obtain rfl := Option.some.inj written
  exact Reads.pure result

end Fields

end Borsh
