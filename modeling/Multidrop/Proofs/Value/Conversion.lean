import Mathlib.Data.Rat.Floor
import Mathlib.Tactic.NormNum
import Mathlib.Tactic.Positivity
import Mathlib.Tactic.Ring
import Multidrop.Proofs.Value.Integer

/-!
# Conversions are exact

What a value stands for is a rational number or an end of the number line, unless it is not a number
at all (`Value.quantity?`). Converting to an integer kind truncates that quantity toward zero and
moves it into the range of the kind, all at once: the 64-bit integer on the way, which saturates
too, cannot be seen in the result (`Value.toKind_exact`).
-/
namespace Multidrop

/-! ## What values stand for -/

/-- A place on the number line with its two ends. -/
inductive Quantity where
  | lowest
  | number (value : ℚ)
  | highest

/-- The order of the number line. -/
inductive Quantity.Le : Quantity → Quantity → Prop
  | lowest (large : Quantity) : Le .lowest large
  | number {small large : ℚ} (order : small ≤ large) : Le (.number small) (.number large)
  | highest (small : Quantity) : Le small .highest

instance : LE Quantity := ⟨Quantity.Le⟩

/-- A rational number truncated toward zero. -/
def truncate (number : ℚ) : ℤ := if 0 ≤ number then ⌊number⌋ else ⌈number⌉

/-- A quantity truncated toward zero, or the nearest end of a range where that lies outside. -/
def Quantity.within (low high : ℤ) : Quantity → ℤ
  | .lowest => low
  | .number value => max low (min high (truncate value))
  | .highest => high

/-- The quantity that the bits of a 32-bit float stand for: a sign, eight bits of exponent and 23
bits of fraction. -/
def floatQuantity? (word : UInt32) : Option Quantity :=
  let negative : Prop := 2 ^ 31 ≤ word.toNat
  let exponent : ℕ := word.toNat / 2 ^ 23 % 2 ^ 8
  let fraction : ℕ := word.toNat % 2 ^ 23
  let sign : ℚ := if negative then -1 else 1
  -- All bits of the exponent are set in the infinities and in what is not a number; none is in the
  -- numbers without a leading one.
  if exponent = 255 then
    if fraction = 0 then some (if negative then .lowest else .highest) else none
  else if exponent = 0 then
    some (.number (sign * ((fraction : ℚ) / 2 ^ 23 * 2 ^ (-126 : ℤ))))
  else
    some (.number (sign * ((1 + (fraction : ℚ) / 2 ^ 23) * 2 ^ ((exponent : ℤ) - 127))))

namespace Value

/-- The quantity that a value stands for, unless it is not a number. -/
def quantity? : Value → Option Quantity
  | .int8 value => some (.number value.toInt)
  | .int16 value => some (.number value.toInt)
  | .int32 value => some (.number value.toInt)
  | .float word => floatQuantity? word

end Value

/-! ## Truncating and keeping within a range -/

/-- A whole number is truncated to itself. -/
theorem truncate_intCast (number : ℤ) : truncate number = number := by
  unfold truncate
  split
  · exact Int.floor_intCast number
  · exact Int.ceil_intCast number

/-- Truncation does the same on both sides of zero. -/
theorem truncate_neg (number : ℚ) : truncate (-number) = -truncate number := by
  unfold truncate
  rcases lt_trichotomy number 0 with below | rfl | above
  · have not : ¬0 ≤ number := not_le.2 below
    have side : 0 ≤ -number := (neg_pos.2 below).le
    rw [if_pos side, if_neg not, Int.floor_neg]
  · simp
  · have not : ¬0 ≤ -number := not_le.2 (neg_lt_zero.2 above)
    rw [if_neg not, if_pos above.le, Int.ceil_neg]

/-- A quotient of natural numbers is truncated by dividing with remainder. -/
theorem truncate_div (numerator denominator : ℕ) :
    truncate ((numerator : ℚ) / denominator) = (numerator / denominator : ℕ) := by
  have side : 0 ≤ (numerator : ℚ) / denominator := by positivity
  rw [truncate, if_pos side, Int.floor_div_natCast, Int.floor_natCast, Int.natCast_div]

/-- Truncation keeps the order. -/
theorem truncate_mono {small large : ℚ} (order : small ≤ large) :
    truncate small ≤ truncate large := by
  unfold truncate
  by_cases above : 0 ≤ small
  · rw [if_pos above, if_pos (above.trans order)]
    exact Int.floor_mono order
  · rw [if_neg above]
    by_cases crosses : 0 ≤ large
    · rw [if_pos crosses]
      have low : ⌈small⌉ ≤ 0 := Int.ceil_le.2 (by exact_mod_cast (not_le.1 above).le)
      exact low.trans (Int.floor_nonneg.2 crosses)
    · rw [if_neg crosses]
      exact Int.ceil_mono order

namespace Quantity

variable {low high : ℤ}

/-- What is moved into a range lies in it. -/
theorem within_range (range : low ≤ high) (quantity : Quantity) :
    low ≤ quantity.within low high ∧ quantity.within low high ≤ high := by
  cases quantity with
  | lowest => exact ⟨le_refl low, range⟩
  | number value => exact ⟨le_max_left _ _, max_le range (min_le_left _ _)⟩
  | highest => exact ⟨range, le_refl high⟩

/-- A whole number within a range stays as it is. -/
theorem within_of_mem {number : ℤ} (below : low ≤ number) (above : number ≤ high) :
    within low high (.number number) = number := by
  rw [within, truncate_intCast, min_eq_right above, max_eq_right below]

/-- Moving quantities into a range keeps their order. -/
theorem within_mono (range : low ≤ high) {small large : Quantity} (order : small ≤ large) :
    small.within low high ≤ large.within low high := by
  cases order with
  | lowest large => exact (within_range range large).1
  | number order => exact max_le_max_left low (min_le_min_left high (truncate_mono order))
  | highest small => exact (within_range range small).2

/-- A range inside another one hides that a quantity was moved into the other one first. -/
theorem clamp_within {widerLow widerHigh : ℤ} (below : widerLow ≤ low) (range : low ≤ high)
    (above : high ≤ widerHigh) (quantity : Quantity) :
    clamp low high (quantity.within widerLow widerHigh) = quantity.within low high := by
  cases quantity with
  | lowest | number | highest =>
    simp only [within, clamp]
    split_ifs <;> omega

end Quantity

/-! ## Floats -/

open Floating

/-- The magnitude of a word in units is the number that its exponent and fraction stand for. -/
theorem units_binary32 (word : ℕ) :
    (binary32.units (word % 2 ^ 31) : ℚ) / 2 ^ 149 =
      if word / 2 ^ 23 % 2 ^ 8 = 0 then ((word % 2 ^ 23 : ℕ) : ℚ) / 2 ^ 23 * 2 ^ (-126 : ℤ)
      else (1 + ((word % 2 ^ 23 : ℕ) : ℚ) / 2 ^ 23) *
        2 ^ (((word / 2 ^ 23 % 2 ^ 8 : ℕ) : ℤ) - 127) := by
  have exponent : binary32.exponentField (word % 2 ^ 31) = word / 2 ^ 23 % 2 ^ 8 := by
    show word % 2 ^ 31 / 2 ^ 23 = _
    omega
  have fraction : binary32.fractionField (word % 2 ^ 31) = word % 2 ^ 23 := by
    show word % 2 ^ 31 % 2 ^ 23 = _
    omega
  have hidden : Word.bound binary32.fractionBits = 2 ^ 23 := rfl
  simp only [Format.units, Format.spacing, exponent, fraction, hidden]
  generalize word / 2 ^ 23 % 2 ^ 8 = e
  generalize word % 2 ^ 23 = f
  cases e with
  | zero =>
    have place : (2 : ℚ) ^ (-126 : ℤ) = 1 / 2 ^ 126 := by norm_num
    rw [place]
    simp only [if_true, Nat.zero_add, Nat.zero_sub, Nat.mul_one, Nat.pow_eq, Nat.pow_zero]
    ring
  | succ e =>
    have place : (2 : ℚ) ^ (((e + 1 : ℕ) : ℤ) - 127) = 2 ^ e / 2 ^ 126 := by
      rw [show ((e + 1 : ℕ) : ℤ) - 127 = (e : ℤ) - (126 : ℕ) by omega,
        zpow_sub₀ (by norm_num), zpow_natCast, zpow_natCast]
    rw [place, if_neg (Nat.succ_ne_zero e), if_neg (Nat.succ_ne_zero e)]
    simp only [Nat.add_sub_cancel, Nat.pow_eq]
    push_cast
    ring

/-- The quantity that a datum of a format stands for. -/
def Floating.Datum.quantity? (format : Format) : Datum → Option Quantity
  | .nan => none
  | .infinite negative => some (if negative then .lowest else .highest)
  | .finite negative units =>
    some (.number ((if negative then -1 else 1) * ((units : ℚ) / format.one)))

/-- Decoding a word gives the datum of what its bits stand for. -/
theorem quantity?_decode (word : UInt32) :
    (binary32.decode word.toNat).quantity? binary32 = floatQuantity? word := by
  have bounded : word.toNat < 2 ^ 32 := word.toNat_lt
  have sign : binary32.signWord = 2 ^ 31 := rfl
  have infinity : binary32.infinityWord = 255 * 2 ^ 23 := rfl
  have one : (binary32.one : ℚ) = 2 ^ 149 := by
    rw [show binary32.one = 2 ^ 149 from rfl, Nat.cast_pow, Nat.cast_ofNat]
  have units := units_binary32 word.toNat
  simp only [Format.decode, floatQuantity?, sign, infinity]
  by_cases special : word.toNat / 2 ^ 23 % 2 ^ 8 = 255
  · have large : ¬word.toNat % 2 ^ 31 < 255 * 2 ^ 23 := by omega
    rw [if_neg large, if_pos special]
    by_cases fraction : word.toNat % 2 ^ 23 = 0
    · have infinite : word.toNat % 2 ^ 31 = 255 * 2 ^ 23 := by omega
      rw [if_pos infinite, if_pos fraction]
      simp only [Datum.quantity?, decide_eq_true_eq]
    · have nan : word.toNat % 2 ^ 31 ≠ 255 * 2 ^ 23 := by omega
      rw [if_neg nan, if_neg fraction]
      rfl
  · have finite : word.toNat % 2 ^ 31 < 255 * 2 ^ 23 := by omega
    rw [if_pos finite, if_neg special]
    simp only [Datum.quantity?, decide_eq_true_eq, one, units]
    by_cases subnormal : word.toNat / 2 ^ 23 % 2 ^ 8 = 0
    · rw [if_pos subnormal, if_pos subnormal]
    · rw [if_neg subnormal, if_neg subnormal]

/-- The nearest number of a range, by comparing with its ends. -/
theorem clamp_eq {low high : ℤ} (range : low ≤ high) (number : ℤ) :
    clamp low high number = max low (min high number) := by
  unfold clamp
  split_ifs <;> omega

/-- The 64-bit integer of a datum is the quantity it stands for, moved into the range of 64 bits. -/
theorem toWide_eq (format : Format) (datum : Datum) :
    datum.toWide format =
      (datum.quantity? format).elim 0 (Quantity.within (least 8) (greatest 8)) := by
  cases datum with
  | nan => rfl
  | infinite negative => cases negative <;> rfl
  | finite negative units =>
    have range : least 8 ≤ greatest 8 := by decide
    have magnitude := truncate_div units format.one
    simp only [Datum.toWide, Datum.quantity?, Option.elim_some, Quantity.within, saturate,
      clamp_eq range]
    cases negative with
    | false => simp only [Bool.false_eq_true, if_false, one_mul, magnitude]
    | true => simp only [if_true, neg_one_mul, truncate_neg, magnitude]

/-! ## Converting -/

namespace Value

variable {value : Value} {number : ℤ}

/-- A value that is a whole number stands for it, and is it as a 64-bit integer too. -/
theorem quantity?_of_integer? (whole : value.integer? = some number) :
    value.quantity? = some (.number number) ∧ value.toWide = number := by
  cases value with
  | int8 | int16 | int32 =>
    cases whole
    exact ⟨rfl, rfl⟩
  | float word => cases whole

/-- The 64-bit integer of a value is what it stands for, moved into the range of 64 bits. -/
theorem toWide_quantity (value : Value) :
    value.toWide = value.quantity?.elim 0 (Quantity.within (least 8) (greatest 8)) := by
  by_cases integral : value.kind = .float
  · cases value with
    | int8 | int16 | int32 => cases integral
    | float word =>
      rw [toWide, toWide_eq, quantity?_decode]
      rfl
  · obtain ⟨number, whole⟩ := value.exists_integer?_iff.2 integral
    obtain ⟨stands, wide⟩ := quantity?_of_integer? whole
    obtain ⟨below, above⟩ := range_of_integer? whole
    obtain ⟨low, _, _, high⟩ := Kind.range_of_integral integral
    rw [stands, wide, Option.elim_some, Quantity.within_of_mem (low.trans below) (above.trans high)]

variable {kind : Kind} (integral : kind ≠ .float)

include integral

/-- Saturating the 64-bit integer truncates what a value stands for and moves it into the range of
the kind. -/
theorem saturate_toWide (value : Value) :
    saturate kind.size value.toWide =
      value.quantity?.elim 0 (Quantity.within (least kind.size) (greatest kind.size)) := by
  obtain ⟨below, low, high, above⟩ := Kind.range_of_integral integral
  rw [toWide_quantity, saturate]
  cases value.quantity? with
  | none =>
    rw [Option.elim_none, Option.elim_none, clamp_eq (low.trans high)]
    omega
  | some quantity => exact Quantity.clamp_within below (low.trans high) above quantity

/-- Converting to an integer kind truncates what a value stands for and moves it into the range of
the kind. -/
theorem integer?_toKind (value : Value) :
    (value.toKind kind).kind = kind ∧ (value.toKind kind).integer? =
      some (value.quantity?.elim 0 (Quantity.within (least kind.size) (greatest kind.size))) := by
  obtain ⟨_, low, high, _⟩ := Kind.range_of_integral integral
  have made : value.toKind kind = kind.ofInteger (saturate kind.size value.toWide) := by
    cases kind with
    | int8 | int16 | int32 => rfl
    | float => exact absurd rfl integral
  rw [made, ← saturate_toWide integral value]
  apply Kind.integer?_ofInteger integral
  · rw [saturate, clamp_eq (low.trans high)]
    exact le_max_left _ _
  · rw [saturate, clamp_eq (low.trans high)]
    exact max_le (low.trans high) (min_le_left _ _)

/-- A whole number that lies in the range of a kind is kept by converting to it. -/
theorem integer?_toKind_of_range (whole : value.integer? = some number)
    (below : least kind.size ≤ number) (above : number ≤ greatest kind.size) :
    (value.toKind kind).integer? = some number := by
  rw [(integer?_toKind integral value).2, (quantity?_of_integer? whole).1, Option.elim_some,
    Quantity.within_of_mem below above]

/-- Converting to an integer kind that is as large and back gives the same value. -/
theorem toKind_toKind (own : value.kind ≠ .float) (order : value.kind.size ≤ kind.size) :
    (value.toKind kind).toKind value.kind = value := by
  obtain ⟨number, whole⟩ := value.exists_integer?_iff.2 own
  obtain ⟨below, above⟩ := range_of_integer? whole
  obtain ⟨low, high⟩ := Kind.range_mono order
  have there := integer?_toKind_of_range integral whole (low.trans below) (above.trans high)
  have back := integer?_toKind_of_range own there below above
  exact eq_of_integer? (integer?_toKind own _).1 back whole

omit integral

/-- Converting to an integer kind truncates the quantity toward zero and moves it into the range of
the kind, keeps the order, and loses nothing on the way through a kind as large. -/
theorem toKind_exact (kind : Kind) (integral : kind ≠ .float) :
    let low : ℤ := -2 ^ (8 * kind.size - 1)
    let high : ℤ := 2 ^ (8 * kind.size - 1) - 1
    (∀ value : Value, (value.toKind kind).kind = kind ∧
      (value.toKind kind).integer? = some (value.quantity?.elim 0 (Quantity.within low high))) ∧
    (∀ (value : Value) (number : ℤ), value.integer? = some number →
      (value.toKind kind).integer? = some (max low (min high number))) ∧
    (∀ (small large : Value) (less more : Quantity), small.quantity? = some less →
      large.quantity? = some more → less ≤ more →
      ∃ first second, (small.toKind kind).integer? = some first ∧
        (large.toKind kind).integer? = some second ∧ first ≤ second) ∧
    ∀ value : Value, value.kind ≠ .float → value.kind.size ≤ kind.size →
      (value.toKind kind).toKind value.kind = value := by
  intro low high
  have result (value : Value) : (value.toKind kind).kind = kind ∧ (value.toKind kind).integer? =
      some (value.quantity?.elim 0 (Quantity.within low high)) := by
    have converted := integer?_toKind integral value
    rw [least_eq, greatest_eq] at converted
    exact converted
  refine ⟨result, ?_, ?_, fun value own order => toKind_toKind integral own order⟩
  · intro value number whole
    rw [(result value).2, (quantity?_of_integer? whole).1, Option.elim_some, Quantity.within,
      truncate_intCast]
  · intro small large less more smaller larger order
    have range : low ≤ high := by
      obtain ⟨_, below, above, _⟩ := Kind.range_of_integral integral
      rw [least_eq] at below
      rw [greatest_eq] at above
      exact below.trans above
    refine ⟨_, _, (result small).2, (result large).2, ?_⟩
    rw [smaller, larger]
    exact Quantity.within_mono range order

/-- As a value of one byte, a thousand is 127, minus two and a half is minus two and what is not a
number is zero; minus seven comes back from two bytes. -/
theorem toKind_exact_of_four :
    ((int32 1000).toKind .int8).integer? = some 127 ∧
      ((float 0xc0200000).toKind .int8).integer? = some (-2) ∧
      ((float 0xffc00001).toKind .int8).integer? = some 0 ∧
      ((int8 (-7)).toKind .int16).toKind .int8 = int8 (-7) := by
  obtain ⟨stands, whole, _, _⟩ := toKind_exact .int8 (by decide)
  obtain ⟨_, _, _, back⟩ := toKind_exact .int16 (by decide)
  have half : (float 0xc0200000).quantity? = some (.number (-(5 / 2))) := by
    have bits : (0xc0200000 : UInt32).toNat = 0xc0200000 := rfl
    norm_num [quantity?, floatQuantity?, bits]
  have nothing : (float 0xffc00001).quantity? = none := by
    have bits : (0xffc00001 : UInt32).toNat = 0xffc00001 := rfl
    norm_num [quantity?, floatQuantity?, bits]
  refine ⟨whole _ 1000 rfl, ?_, ?_, back (int8 (-7)) (by decide) (by decide)⟩
  · rw [(stands _).2, half, Option.elim_some, Quantity.within, truncate_neg]
    have floor : truncate (5 / 2) = 2 := truncate_div 5 2
    rw [floor]
    rfl
  · rw [(stands _).2, nothing]
    rfl

end Value

end Multidrop
