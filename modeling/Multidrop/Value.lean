import Multidrop.Basic
import Multidrop.Floating
import Multidrop.Text

/-!
# Values

What registers hold: values of four kinds as bytes and as text, conversions between kinds, and runs
of values of one kind.
-/
namespace Multidrop

/-! ## Register values

A register value travels as a signed integer of one, two or four bytes or as a 32-bit float. A
float is kept as its word, so that every bit of it survives and two values are equal exactly when
their bits are. -/

/-- Registers are numbered with 32 bits. -/
abbrev Register := UInt32

/-- The representation in which a value travels. -/
inductive Kind where
  | int8
  | int16
  | int32
  | float
  deriving Repr, DecidableEq

namespace Kind

/-- All kinds, in the order of their indices. -/
def all : List Kind := [.int8, .int16, .int32, .float]

/-- The index by which subframe tags name a kind. -/
def index : Kind → Nat
  | .int8 => 0
  | .int16 => 1
  | .int32 => 2
  | .float => 3

/-- The kind with an index. -/
def ofIndex? : Nat → Option Kind
  | 0 => some .int8
  | 1 => some .int16
  | 2 => some .int32
  | 3 => some .float
  | _ => none

/-- Bytes that a value of the kind occupies. -/
def size : Kind → Nat
  | .int8 => 1
  | .int16 => 2
  | .int32 | .float => 4

/-- A kind as text. -/
def name : Kind → String
  | .int8 => "int8"
  | .int16 => "int16"
  | .int32 => "int32"
  | .float => "float"

/-- The kind that a text names. -/
def ofName? (text : String) : Option Kind := all.find? fun kind => kind.name = text

/-- No value is empty. -/
theorem size_pos (kind : Kind) : 0 < kind.size := by cases kind <;> decide

/-- No value takes more than four bytes. -/
theorem size_le (kind : Kind) : kind.size ≤ 4 := by cases kind <;> decide

/-- A kind is found under its index. -/
theorem ofIndex?_index (kind : Kind) : ofIndex? kind.index = some kind := by cases kind <;> rfl

end Kind

/-- A register value in one of its representations. -/
inductive Value where
  | int8 (value : Int8)
  | int16 (value : Int16)
  | int32 (value : Int32)
  /-- A 32-bit float, given by its word. -/
  | float (word : UInt32)
  deriving Repr, DecidableEq

namespace Value

/-- The representation of a value. -/
def kind : Value → Kind
  | .int8 _ => .int8
  | .int16 _ => .int16
  | .int32 _ => .int32
  | .float _ => .float

/-- The bytes of a value, least significant first. -/
def encode : Value → List UInt8
  | .int8 value => [value.toUInt8]
  | .int16 value => Word.bytes16 value.toUInt16
  | .int32 value => Word.bytes32 value.toUInt32
  | .float word => Word.bytes32 word

/-- Read a value of a kind from the front, returning the bytes after it. -/
def read : Kind → List UInt8 → Option (Value × List UInt8)
  | .int8, first :: rest => some (.int8 first.toInt8, rest)
  | .int16, first :: second :: rest => some (.int16 (Word.of16 first second).toInt16, rest)
  | .int32, first :: second :: third :: fourth :: rest =>
    some (.int32 (Word.of32 first second third fourth).toInt32, rest)
  | .float, first :: second :: third :: fourth :: rest =>
    some (.float (Word.of32 first second third fourth), rest)
  | _, _ => none

/-- The value of a kind at the front, if there are enough bytes. -/
def decode? (kind : Kind) (bytes : List UInt8) : Option Value := (read kind bytes).map Prod.fst

/-- A value occupies the bytes of its kind. -/
@[simp]
theorem length_encode (value : Value) : value.encode.length = value.kind.size := by
  cases value <;> rfl

/-- Reading takes the bytes of the kind from the front. -/
theorem read_eq_some {kind : Kind} {bytes rest : List UInt8} {value : Value}
    (h : read kind bytes = some (value, rest)) :
    value.kind = kind ∧ kind.size ≤ bytes.length ∧ rest = bytes.drop kind.size := by
  unfold read at h
  split at h <;> cases h <;> simp [Value.kind, Kind.size]

/-- There is a value wherever there are enough bytes. -/
theorem exists_read_of_le {kind : Kind} {bytes : List UInt8} (h : kind.size ≤ bytes.length) :
    ∃ value, read kind bytes = some (value, bytes.drop kind.size) := by
  rcases kind with _ | _ | _ | _ <;>
    rcases bytes with _ | ⟨first, _ | ⟨second, _ | ⟨third, _ | ⟨fourth, rest⟩⟩⟩⟩ <;>
    simp [read, Kind.size] at h ⊢

end Value

/-! ## Packed values

Values of one kind back to back, as they travel in one subframe. The bytes always make up a whole
number of values. -/

/-- A run of values of one kind, in their encoded form. -/
structure Packed where
  /-- The kind of every value. -/
  kind : Kind
  /-- The encoded values in order. -/
  bytes : List UInt8
  /-- No value is cut off. -/
  whole : bytes.length % kind.size = 0
  deriving Repr, DecidableEq

namespace Packed

/-- Bytes as values of a kind, if they make up a whole number of them. -/
def ofBytes? (kind : Kind) (bytes : List UInt8) : Option Packed :=
  if whole : bytes.length % kind.size = 0 then some ⟨kind, bytes, whole⟩ else none

/-- One value on its own. -/
def single (value : Value) : Packed := ⟨value.kind, value.encode, by simp⟩

/-- Add a value of the same kind behind the others. -/
def push (packed : Packed) (value : Value) (same : value.kind = packed.kind) : Packed where
  kind := packed.kind
  bytes := packed.bytes ++ value.encode
  whole := by
    rw [List.length_append, Value.length_encode, same, Nat.add_mod_right]
    exact packed.whole

/-- The number of values. -/
def count (packed : Packed) : Nat := packed.bytes.length / packed.kind.size

/-- The values of a kind at the front of bytes. -/
def unpack (kind : Kind) (bytes : List UInt8) : List Value :=
  match h : Value.read kind bytes with
  | none => []
  | some (value, rest) =>
    have : rest.length < bytes.length := by
      obtain ⟨_, enough, rfl⟩ := Value.read_eq_some h
      have := kind.size_pos
      simp only [List.length_drop]
      omega
    value :: unpack kind rest
termination_by bytes.length

/-- The values in order. -/
def values (packed : Packed) : List Value := unpack packed.kind packed.bytes

/-- Read a number of values of a kind from the front, returning the bytes after them. -/
def read (kind : Kind) (count : Nat) (bytes : List UInt8) : Option (Packed × List UInt8) :=
  if enough : count * kind.size ≤ bytes.length then
    some (⟨kind, bytes.take (count * kind.size), by simp [List.length_take, enough]⟩,
      bytes.drop (count * kind.size))
  else none

end Packed

/-! ## Conversions between kinds

Every value converts to every kind. Integers saturate at the range of the kind asked for. Floats
are truncated toward zero, and what is not a number becomes zero. The way leads through a signed
64-bit integer, which itself saturates. -/

/-- The nearest whole number within a closed range. -/
def clamp (low high value : Int) : Int :=
  if value < low then low else if high < value then high else value

/-- The least signed integer of a number of bytes. -/
def least (size : Nat) : Int := -(Word.bound (8 * size - 1) : Int)

/-- The greatest signed integer of a number of bytes. -/
def greatest (size : Nat) : Int := (Word.bound (8 * size - 1) : Int) - 1

/-- The nearest signed integer of a number of bytes. -/
def saturate (size : Nat) (value : Int) : Int := clamp (least size) (greatest size) value

/-- A datum truncated toward zero and saturated at 64 bits. -/
def Floating.Datum.toWide (format : Format) : Datum → Int
  | .nan => 0
  | .infinite negative => if negative then least 8 else greatest 8
  | .finite negative units =>
    let magnitude : Int := (units / format.one : Nat)
    saturate 8 (if negative then -magnitude else magnitude)

namespace Value

open Floating

/-- The value as a signed 64-bit integer. -/
def toWide : Value → Int
  | .int8 value => value.toInt
  | .int16 value => value.toInt
  | .int32 value => value.toInt
  | .float word => (binary32.decode word.toNat).toWide binary32

/-- The float word nearest to a whole number. -/
def floatOfInt (value : Int) : UInt32 :=
  .ofNat (binary32.signed (value < 0) (binary32.nearest value.natAbs 1))

/-- The value as a float word. -/
def toFloat : Value → UInt32
  | .int8 value => floatOfInt value.toInt
  | .int16 value => floatOfInt value.toInt
  | .int32 value => floatOfInt value.toInt
  | .float word => word

/-- The value in another kind. -/
def toKind (kind : Kind) (value : Value) : Value :=
  match kind with
  | .int8 => .int8 (.ofInt (saturate 1 value.toWide))
  | .int16 => .int16 (.ofInt (saturate 2 value.toWide))
  | .int32 => .int32 (.ofInt (saturate 4 value.toWide))
  | .float => .float value.toFloat

end Value

end Multidrop

/-! ## Values in text

Integers are written in decimal, and floats as the shortest positional decimal that reads back as
the same word. Reading ignores blank characters around a value and refuses what is outside the
range of its kind. -/

namespace Multidrop

/-- The value of a kind that a text stands for. -/
def Kind.parseValue? (kind : Kind) (text : List Char) : Option Value :=
  let text := Text.trim text
  let number := Text.integer? (least kind.size) (greatest kind.size) text
  match kind with
  | .int8 => number.map fun value => .int8 (.ofInt value)
  | .int16 => number.map fun value => .int16 (.ofInt value)
  | .int32 => number.map fun value => .int32 (.ofInt value)
  | .float => (Floating.binary32.read text).map fun word => .float (.ofNat word)

/-- A whole number in decimal, with a minus sign if it is negative. -/
def Text.integer (value : Int) : String :=
  (if value < 0 then "-" else "") ++ String.ofList (Nat.toDigits 10 value.natAbs)

/-- The text of a value. -/
def Value.text : Value → String
  | .int8 value => Text.integer value.toInt
  | .int16 value => Text.integer value.toInt
  | .int32 value => Text.integer value.toInt
  | .float word => Floating.binary32.positional word.toNat

end Multidrop
