import Multidrop.Proofs.Text.Numeral
import Multidrop.Value

/-!
# Values that are whole numbers

A value of an integer kind is a whole number in the range of its kind, and is known by its kind and
that number (`Value.eq_of_integer?`). Each whole number in the range of an integer kind is a value
of it (`Kind.integer?_ofInteger`), its text is a decimal numeral that stands for it, and the value
is read from all numerals that do (`Kind.parseValue?_eq_some_iff`).
-/
namespace Multidrop

/-- The value of a kind for a whole number. -/
def Kind.ofInteger (number : ℤ) : Kind → Value
  | .int8 => .int8 (.ofInt number)
  | .int16 => .int16 (.ofInt number)
  | .int32 => .int32 (.ofInt number)
  | .float => .float (Value.floatOfInt number)

/-- The whole number that a value of an integer kind is. -/
def Value.integer? : Value → Option ℤ
  | .int8 value => some value.toInt
  | .int16 value => some value.toInt
  | .int32 value => some value.toInt
  | .float _ => none

/-! ## Ranges -/

/-- The least integer of a number of bytes, as a power. -/
theorem least_eq (size : ℕ) : least size = -2 ^ (8 * size - 1) := by
  simp [least, Word.bound]

/-- The greatest integer of a number of bytes, as a power. -/
theorem greatest_eq (size : ℕ) : greatest size = 2 ^ (8 * size - 1) - 1 := by
  simp [greatest, Word.bound]

namespace Kind

variable {kind : Kind} {number : ℤ}

/-- The range of an integer kind holds zero and lies in that of 64 bits. -/
theorem range_of_integral (integral : kind ≠ .float) :
    least 8 ≤ least kind.size ∧ least kind.size ≤ 0 ∧ 0 ≤ greatest kind.size ∧
      greatest kind.size ≤ greatest 8 := by
  cases kind with
  | int8 | int16 | int32 => decide
  | float => exact absurd rfl integral

/-- The range of a smaller kind lies in that of a larger one. -/
theorem range_mono {small large : Kind} (order : small.size ≤ large.size) :
    least large.size ≤ least small.size ∧ greatest small.size ≤ greatest large.size := by
  revert order
  cases small <;> cases large <;> decide

/-- A whole number in the range of an integer kind is a value of the kind. -/
theorem integer?_ofInteger (integral : kind ≠ .float) (below : least kind.size ≤ number)
    (above : number ≤ greatest kind.size) :
    (kind.ofInteger number).kind = kind ∧ (kind.ofInteger number).integer? = some number := by
  rw [least_eq] at below
  rw [greatest_eq] at above
  cases kind with
  | int8 =>
    exact ⟨rfl, congrArg some (Int8.toInt_ofInt_of_le below (Int.lt_of_le_sub_one above))⟩
  | int16 =>
    exact ⟨rfl, congrArg some (Int16.toInt_ofInt_of_le below (Int.lt_of_le_sub_one above))⟩
  | int32 =>
    exact ⟨rfl, congrArg some (Int32.toInt_ofInt_of_le below (Int.lt_of_le_sub_one above))⟩
  | float => exact absurd rfl integral

end Kind

namespace Value

variable {value : Value} {number : ℤ}

/-- The whole number of a value lies in the range of its kind. -/
theorem range_of_integer? (whole : value.integer? = some number) :
    least value.kind.size ≤ number ∧ number ≤ greatest value.kind.size := by
  rw [least_eq, greatest_eq]
  cases value with
  | int8 value =>
    cases whole
    exact ⟨value.le_toInt, Int.le_sub_one_of_lt value.toInt_lt⟩
  | int16 value =>
    cases whole
    exact ⟨value.le_toInt, Int.le_sub_one_of_lt value.toInt_lt⟩
  | int32 value =>
    cases whole
    exact ⟨value.le_toInt, Int.le_sub_one_of_lt value.toInt_lt⟩
  | float word => cases whole

/-- The values of the integer kinds are whole numbers, and no others are. -/
theorem exists_integer?_iff (value : Value) :
    (∃ number, value.integer? = some number) ↔ value.kind ≠ .float := by
  cases value with
  | int8 | int16 | int32 => exact ⟨fun _ => nofun, fun _ => ⟨_, rfl⟩⟩
  | float word => exact ⟨nofun, fun integral => absurd rfl integral⟩

/-- Values of one kind that are the same whole number are the same. -/
theorem eq_of_integer? {other : Value} (same : value.kind = other.kind)
    (whole : value.integer? = some number) (wholes : other.integer? = some number) :
    value = other := by
  cases value <;> cases other <;> cases same <;> cases whole
  case int8 => exact congrArg int8 (Int8.toInt_inj.1 (Option.some.inj wholes)).symm
  case int16 => exact congrArg int16 (Int16.toInt_inj.1 (Option.some.inj wholes)).symm
  case int32 => exact congrArg int32 (Int32.toInt_inj.1 (Option.some.inj wholes)).symm

/-! ## Text -/

/-- The text of a whole number is a decimal numeral that stands for it. -/
theorem signed_integer (number : ℤ) : Text.Signed (Text.integer number).toList number := by
  have numeral := Text.numeral_toDigits (by decide : 1 < 10) number.natAbs
  rw [Text.integer, String.toList_append, String.toList_ofList]
  by_cases negative : number < 0
  · rw [if_pos negative]
    have signed := Text.Signed.minus numeral
    rw [Int.ofNat_natAbs_of_nonpos negative.le, neg_neg] at signed
    exact signed
  · rw [if_neg negative]
    have signed := Text.Signed.plain numeral
    rw [Int.natAbs_of_nonneg (not_lt.1 negative)] at signed
    exact signed

/-- The text of a value that is a whole number is a decimal numeral that stands for that. -/
theorem signed_text (whole : value.integer? = some number) :
    Text.Signed value.text.toList number := by
  cases value with
  | int8 | int16 | int32 =>
    cases whole
    exact signed_integer _
  | float word => cases whole

end Value

namespace Kind

variable {kind : Kind} {text : List Char} {value : Value}

/-- A value of an integer kind is read from the numerals of its number. -/
theorem parseValue?_eq_some_iff (integral : kind ≠ .float) :
    kind.parseValue? text = some value ↔ value.kind = kind ∧
      ∃ number, value.integer? = some number ∧ Text.Signed (Text.trim text) number := by
  have read : kind.parseValue? text = Option.map kind.ofInteger
      (Text.integer? (least kind.size) (greatest kind.size) (Text.trim text)) := by
    cases kind with
    | int8 | int16 | int32 => rfl
    | float => exact absurd rfl integral
  rw [read, Option.map_eq_some_iff]
  constructor
  · rintro ⟨number, found, rfl⟩
    obtain ⟨signed, below, above⟩ := Text.integer?_eq_some_iff.1 found
    obtain ⟨own, whole⟩ := integer?_ofInteger integral below above
    exact ⟨own, number, whole, signed⟩
  · rintro ⟨rfl, number, whole, signed⟩
    obtain ⟨below, above⟩ := Value.range_of_integer? whole
    obtain ⟨own, same⟩ := integer?_ofInteger integral below above
    exact ⟨number, Text.integer?_eq_some_iff.2 ⟨signed, below, above⟩,
      Value.eq_of_integer? own same whole⟩

/-- A value that is read in a kind is of that kind. -/
theorem kind_of_parseValue? (read : kind.parseValue? text = some value) : value.kind = kind := by
  by_cases float : kind = .float
  · subst float
    obtain ⟨word, _, rfl⟩ := Option.map_eq_some_iff.1 read
    rfl
  · exact ((parseValue?_eq_some_iff float).1 read).1

end Kind

end Multidrop
