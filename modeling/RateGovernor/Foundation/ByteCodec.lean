import Mathlib.Tactic.IntervalCases
import Mathlib.Tactic.Linarith

namespace RateGovernor.Foundation.ByteCodec

abbrev Bytes := List UInt8

/-- The given number of low-order bytes of a natural, least significant first. -/
def littleEndian : ℕ → ℕ → Bytes
  | 0, _ => []
  | width + 1, value => UInt8.ofNat value :: littleEndian width (value / 256)

def fromLittleEndian : Bytes → ℕ
  | [] => 0
  | b :: bytes => b.toNat + 256 * fromLittleEndian bytes

@[simp] theorem littleEndian_length (width value : ℕ) :
    (littleEndian width value).length = width := by
  induction width generalizing value with
  | zero => rfl
  | succ width ih => simp only [littleEndian, List.length_cons, ih]

theorem fromLittleEndian_littleEndian {width value : ℕ} (h : value < 256 ^ width) :
    fromLittleEndian (littleEndian width value) = value := by
  induction width generalizing value with
  | zero => simp only [Nat.pow_zero, Nat.lt_one_iff] at h; simp [littleEndian, fromLittleEndian, h]
  | succ width ih =>
    have hdiv : value / 256 < 256 ^ width := by
      rw [Nat.div_lt_iff_lt_mul (by decide)]
      simpa only [Nat.pow_succ] using h
    simp only [littleEndian, fromLittleEndian, ih hdiv, UInt8.toNat_ofNat']
    omega

/-- A reader consumes a prefix of its input, or fails. -/
abbrev Reader (α : Type) := StateT Bytes Option α

/-- Takes the next bytes, failing when fewer are left. -/
def raw (count : ℕ) : Reader Bytes := fun bytes ↦
  if bytes.length < count then none else some (bytes.take count, bytes.drop count)

def check (p : Bool) : Reader Unit := fun bytes ↦ if p then some ((), bytes) else none

/-- The reader recovers the value from its encoding and leaves what follows untouched. -/
def Decodes {α : Type} (reader : Reader α) (bytes : Bytes) (value : α) : Prop :=
  ∀ rest, reader (bytes ++ rest) = some (value, rest)

section Rules

variable {α β : Type} {reader : Reader α} {next : α → Reader β} {bytes more : Bytes} {x : α} {y : β}

theorem Decodes.pure (x : α) : Decodes (Pure.pure x) [] x := fun _ ↦ rfl

theorem Decodes.done {x y : α} (h : x = y) : Decodes (Pure.pure x) [] y := by
  rw [← h]
  exact .pure x

theorem Decodes.bind (h : Decodes reader bytes x) (h' : Decodes (next x) more y) :
    Decodes (reader >>= next) (bytes ++ more) y := by
  intro rest
  have hrun : (reader >>= next) ((bytes ++ more) ++ rest) =
      (reader ((bytes ++ more) ++ rest)).bind fun p ↦ next p.1 p.2 := rfl
  rw [hrun, List.append_assoc, h]
  exact h' rest

theorem Decodes.last (h : Decodes reader bytes x) (h' : Decodes (next x) [] y) :
    Decodes (reader >>= next) bytes y := by
  simpa only [List.append_nil] using h.bind h'

theorem Decodes.check {p : Bool} {next : Unit → Reader β} (hp : p = true)
    (h : Decodes (next ()) bytes y) : Decodes (ByteCodec.check p >>= next) bytes y := by
  have hcheck : Decodes (ByteCodec.check p) [] () := by
    intro rest
    simp only [ByteCodec.check, hp, if_true, List.nil_append]
  exact hcheck.bind h

/-- One field of a record whose encoding lists its fields in order. -/
theorem Decodes.field {fields : List Bytes} (h : Decodes reader bytes x)
    (h' : Decodes (next x) fields.flatten y) :
    Decodes (reader >>= next) (bytes :: fields).flatten y :=
  h.bind h'

theorem Decodes.only (h : Decodes reader bytes x) : Decodes reader [bytes].flatten x := by
  simpa only [List.flatten_cons, List.flatten_nil, List.append_nil] using h

theorem decodes_raw (bytes : Bytes) : Decodes (raw bytes.length) bytes bytes := by
  intro rest
  have h : ¬(bytes ++ rest).length < bytes.length := by simp only [List.length_append]; omega
  simp only [raw, h, if_false, List.take_left, List.drop_left]

end Rules

/-- A reader that succeeds on some bytes reads the same when more follow, and leaves those. -/
def Extends {α : Type} (reader : Reader α) : Prop :=
  ∀ bytes x left rest, reader bytes = some (x, left) →
    reader (bytes ++ rest) = some (x, left ++ rest)

section Extension

variable {α β : Type} {reader : Reader α} {next : α → Reader β}

theorem Extends.pure (x : α) : Extends (Pure.pure x : Reader α) := by
  rintro bytes y left rest h
  cases h
  rfl

theorem Extends.bind (h : Extends reader) (h' : ∀ x, Extends (next x)) :
    Extends (reader >>= next) := by
  intro bytes y left rest hrun
  obtain ⟨⟨x, middle⟩, hx, hy⟩ := Option.bind_eq_some_iff.1 hrun
  exact Option.bind_eq_some_iff.2 ⟨(x, middle ++ rest), h _ _ _ _ hx, h' x _ _ _ _ hy⟩

theorem extends_raw (count : ℕ) : Extends (raw count) := by
  intro bytes x left rest h
  unfold raw at h ⊢
  split at h
  · cases h
  · next hlength =>
    cases h
    have hlong : ¬(bytes ++ rest).length < count := by
      rw [List.length_append]
      omega
    rw [if_neg hlong, List.take_append_of_le_length (by omega),
      List.drop_append_of_le_length (by omega)]

end Extension

def u8 : Reader UInt8 := do
  let bytes ← raw 1
  return UInt8.ofNat (fromLittleEndian bytes)

def u16 : Reader UInt16 := do
  let bytes ← raw 2
  return UInt16.ofNat (fromLittleEndian bytes)

def u32 : Reader UInt32 := do
  let bytes ← raw 4
  return UInt32.ofNat (fromLittleEndian bytes)

def u64 : Reader UInt64 := do
  let bytes ← raw 8
  return UInt64.ofNat (fromLittleEndian bytes)

def putU8 (value : UInt8) : Bytes := littleEndian 1 value.toNat
def putU16 (value : UInt16) : Bytes := littleEndian 2 value.toNat
def putU32 (value : UInt32) : Bytes := littleEndian 4 value.toNat
def putU64 (value : UInt64) : Bytes := littleEndian 8 value.toNat

private theorem decodes_word {α : Type} (width : ℕ) (ofNat : ℕ → α) (value : ℕ)
    (h : value < 256 ^ width) :
    Decodes (do let bytes ← raw width; return ofNat (fromLittleEndian bytes))
      (littleEndian width value) (ofNat value) := by
  have hraw : Decodes (raw width) (littleEndian width value) (littleEndian width value) := by
    simpa only [littleEndian_length] using decodes_raw (littleEndian width value)
  refine hraw.last ?_
  rw [fromLittleEndian_littleEndian h]
  exact Decodes.pure _

theorem decodes_u8 (value : UInt8) : Decodes u8 (putU8 value) value := by
  simpa only [u8, putU8, UInt8.ofNat_toNat] using
    decodes_word 1 UInt8.ofNat value.toNat value.toNat_lt

theorem decodes_u16 (value : UInt16) : Decodes u16 (putU16 value) value := by
  simpa only [u16, putU16, UInt16.ofNat_toNat] using
    decodes_word 2 UInt16.ofNat value.toNat value.toNat_lt

theorem decodes_u32 (value : UInt32) : Decodes u32 (putU32 value) value := by
  simpa only [u32, putU32, UInt32.ofNat_toNat] using
    decodes_word 4 UInt32.ofNat value.toNat value.toNat_lt

theorem decodes_u64 (value : UInt64) : Decodes u64 (putU64 value) value := by
  simpa only [u64, putU64, UInt64.ofNat_toNat] using
    decodes_word 8 UInt64.ofNat value.toNat value.toNat_lt

@[simp] theorem putU8_length (value : UInt8) : (putU8 value).length = 1 := littleEndian_length _ _
@[simp] theorem putU16_length (value : UInt16) : (putU16 value).length = 2 := littleEndian_length _ _
@[simp] theorem putU32_length (value : UInt32) : (putU32 value).length = 4 := littleEndian_length _ _
@[simp] theorem putU64_length (value : UInt64) : (putU64 value).length = 8 := littleEndian_length _ _

theorem extends_u16 : Extends u16 := (extends_raw 2).bind fun _ ↦ .pure _

theorem extends_u32 : Extends u32 := (extends_raw 4).bind fun _ ↦ .pure _

theorem extends_u64 : Extends u64 := (extends_raw 8).bind fun _ ↦ .pure _

/-- An enumeration stored as its underlying byte. Every byte is a value of the type. -/
class ByteEnum (α : Type) where
  toByte : α → UInt8
  ofByte : UInt8 → α
  ofByte_toByte : ∀ x, ofByte (toByte x) = x
  toByte_ofByte : ∀ b, toByte (ofByte b) = b

section Enumerations

variable {α : Type} [ByteEnum α]

def enum : Reader α := do
  let code ← u8
  return ByteEnum.ofByte code

def putEnum (value : α) : Bytes := putU8 (ByteEnum.toByte value)

theorem decodes_enum (value : α) : Decodes enum (putEnum value) value := by
  refine (decodes_u8 _).last ?_
  rw [ByteEnum.ofByte_toByte]
  exact Decodes.pure _

@[simp] theorem putEnum_length (value : α) : (putEnum value).length = 1 := putU8_length _

end Enumerations

/-- A flag is stored as one byte, which the readers require to be zero or one. -/
def flagByte (value : Bool) : UInt8 := if value then 1 else 0

@[simp] theorem flagByte_le_one (value : Bool) : flagByte value ≤ 1 := by
  cases value <;> decide

@[simp] theorem flagByte_eq_one (value : Bool) : flagByte value = 1 ↔ value = true := by
  cases value <;> decide

def putBool (value : Bool) : Bytes := putU8 (flagByte value)

theorem decodes_flag (value : Bool) : Decodes u8 (putBool value) (flagByte value) := decodes_u8 _

@[simp] theorem putBool_length (value : Bool) : (putBool value).length = 1 := putU8_length _

end RateGovernor.Foundation.ByteCodec
