import Multidrop.Basic

/-!
# The checksum as a remainder

A word is a polynomial over the field of two elements, and `shift` multiplies it by the
indeterminate modulo the generator `x^16 + x^12 + x^5 + 1`. Shifting is linear, so the sum of some
shifts of a word (`combine`) commutes with every other, and a word is the sum of the powers of the
indeterminate at its ones (`combine_places`).

A sum of powers vanishes when the generator divides it. It does not when the powers are odd in
number (`combine_ne_zero_of_odd`: the generator has the factor `x + 1`), when they are distinct and
within 16 of each other (`combine_ne_zero_of_window`), or when there are two of them below the order
of the indeterminate, which is 32767 (`combine_ne_zero_of_pair`).
-/
namespace Multidrop.Checksum

variable {word other : UInt16} {place : Nat} {exponents : List Nat}

/-! ## The coefficients of a word -/

/-- The coefficient of a word at a place. -/
def bit (word : UInt16) (place : Nat) : Bool := word.toBitVec.getLsbD place

/-- Sums are taken coefficient by coefficient. -/
theorem bit_xor : bit (word ^^^ other) place = (bit word place ^^ bit other place) :=
  BitVec.getLsbD_xor

/-- The zero word has no ones. -/
theorem bit_zero : bit 0 place = false := BitVec.getLsbD_zero

/-- A word is known by its coefficients. -/
theorem eq_of_bit (same : ∀ place < 16, bit word place = bit other place) : word = other :=
  UInt16.toBitVec_inj.1 (BitVec.eq_of_getLsbD_eq same)

/-- The mask of the state looks at the leading coefficient. -/
theorem and_eq_zero_iff : word &&& 0x8000 = 0 ↔ bit word 15 = false := by
  have mask : ∀ place < 16, bit 0x8000 place = decide (place = 15) := by decide
  have masked : ∀ place, bit (word &&& 0x8000) place = (bit word place && bit 0x8000 place) :=
    fun _ => BitVec.getLsbD_and
  constructor
  · intro clear
    have leading := masked 15
    rw [clear, bit_zero, mask 15 (by decide)] at leading
    simpa using leading.symm
  · intro clear
    refine eq_of_bit fun place inside => ?_
    rw [masked, mask place inside, bit_zero]
    by_cases leading : place = 15
    · rw [leading, clear, Bool.false_and]
    · rw [decide_eq_false leading, Bool.and_false]

/-! ## Shifting is linear -/

/-- A shift moves the word up, and takes off the generator for a leading one. -/
theorem shift_eq (word : UInt16) :
    shift word = (word <<< 1) ^^^ (if bit word 15 then polynomial else 0) := by
  unfold shift
  by_cases leading : bit word 15
  · rw [if_neg (fun clear => by rw [and_eq_zero_iff.1 clear] at leading; cases leading),
      if_pos leading]
  · rw [if_pos (and_eq_zero_iff.2 (Bool.not_eq_true _ ▸ leading)), if_neg leading,
      UInt16.xor_zero]

/-- The shift of a sum is the sum of the shifts. -/
theorem shift_xor (word other : UInt16) : shift (word ^^^ other) = shift word ^^^ shift other := by
  have both : word <<< 1 ^^^ polynomial ^^^ (other <<< 1 ^^^ polynomial) =
      word <<< 1 ^^^ other <<< 1 := by
    calc word <<< 1 ^^^ polynomial ^^^ (other <<< 1 ^^^ polynomial)
        = word <<< 1 ^^^ other <<< 1 ^^^ (polynomial ^^^ polynomial) := by ac_rfl
      _ = word <<< 1 ^^^ other <<< 1 := by rw [UInt16.xor_self, UInt16.xor_zero]
  rw [shift_eq, shift_eq, shift_eq, UInt16.shiftLeft_xor, bit_xor]
  cases bit word 15 <;> cases bit other 15
  case true.true => exact UInt16.xor_zero.trans both.symm
  case false.false => simp only [Bool.xor_false, Bool.false_eq_true, if_false, UInt16.xor_zero]
  all_goals
    simp only [Bool.xor_false, Bool.xor_true, Bool.not_false, if_true, Bool.false_eq_true, if_false,
      UInt16.xor_zero]
    ac_rfl

/-- So are several shifts. -/
theorem shifts_xor (count : Nat) (word other : UInt16) :
    shifts count (word ^^^ other) = shifts count word ^^^ shifts count other := by
  induction count generalizing word other with
  | zero => rfl
  | succ count hypothesis => rw [shifts, shift_xor, hypothesis, shifts, shifts]

/-- Zero stays zero. -/
theorem shifts_zero (count : Nat) : shifts count 0 = 0 := by
  induction count with
  | zero => rfl
  | succ count hypothesis => exact hypothesis

/-- Some shifts and then others are as many shifts together. -/
theorem shifts_add (first second : Nat) (word : UInt16) :
    shifts (first + second) word = shifts second (shifts first word) := by
  induction first generalizing word with
  | zero => rw [Nat.zero_add, shifts]
  | succ first hypothesis => rw [Nat.succ_add, shifts, hypothesis, shifts]

/-! ## Sums of shifts -/

/-- The sum of the shifts of a word by each of some exponents. -/
def combine (exponents : List Nat) (word : UInt16) : UInt16 :=
  exponents.foldr (fun exponent sum => shifts exponent word ^^^ sum) 0

/-- The sum for one more exponent. -/
theorem combine_cons (exponent : Nat) (exponents : List Nat) (word : UInt16) :
    combine (exponent :: exponents) word = shifts exponent word ^^^ combine exponents word := rfl

/-- A sum of shifts of zero is zero. -/
theorem combine_zero (exponents : List Nat) : combine exponents 0 = 0 := by
  induction exponents with
  | nil => rfl
  | cons exponent exponents hypothesis => rw [combine_cons, hypothesis, shifts_zero]; rfl

/-- A sum of shifts is linear. -/
theorem combine_xor (exponents : List Nat) (word other : UInt16) :
    combine exponents (word ^^^ other) = combine exponents word ^^^ combine exponents other := by
  induction exponents with
  | nil => exact UInt16.xor_zero.symm
  | cons exponent exponents hypothesis =>
    rw [combine_cons, combine_cons, combine_cons, hypothesis, shifts_xor]
    ac_rfl

/-- The shifts can be taken before the sum or after it. -/
theorem combine_shifts (exponents : List Nat) (count : Nat) (word : UInt16) :
    combine exponents (shifts count word) = shifts count (combine exponents word) := by
  induction exponents with
  | nil => exact (shifts_zero count).symm
  | cons exponent exponents hypothesis =>
    rw [combine_cons, combine_cons, hypothesis, shifts_xor, ← shifts_add, ← shifts_add,
      Nat.add_comm]

/-- Two sums of shifts commute. -/
theorem combine_comm (exponents others : List Nat) (word : UInt16) :
    combine exponents (combine others word) = combine others (combine exponents word) := by
  induction others with
  | nil => exact combine_zero exponents
  | cons other others hypothesis =>
    rw [combine_cons, combine_cons, combine_xor, combine_shifts, hypothesis]

/-! ## Words as sums of powers -/

/-- Low powers of the indeterminate have a single one. -/
theorem bit_shifts_one : ∀ exponent < 16, ∀ place < 16,
    bit (shifts exponent 1) place = decide (place = exponent) := by
  decide +kernel

/-- The ones of a sum of distinct low powers are at their exponents. -/
theorem bit_combine_one (distinct : exponents.Nodup) (low : ∀ exponent ∈ exponents, exponent < 16)
    (inside : place < 16) : bit (combine exponents 1) place = decide (place ∈ exponents) := by
  induction exponents with
  | nil => exact bit_zero
  | cons exponent exponents hypothesis =>
    obtain ⟨fresh, distinct⟩ := List.nodup_cons.1 distinct
    obtain ⟨first, low⟩ := List.forall_mem_cons.1 low
    rw [combine_cons, bit_xor, hypothesis distinct low, bit_shifts_one exponent first place inside]
    by_cases same : place = exponent
    · simp [same, fresh]
    · simp [same]

/-- The places of the ones of a word. -/
def places (word : UInt16) : List Nat := (List.range 16).filter (bit word)

/-- A word is the sum of the powers at its ones. -/
theorem combine_places (word : UInt16) : combine (places word) 1 = word := by
  have distinct : (places word).Nodup := List.nodup_range.sublist List.filter_sublist
  have low : ∀ exponent ∈ places word, exponent < 16 := fun exponent member =>
    List.mem_range.1 (List.mem_filter.1 member).1
  refine eq_of_bit fun place inside => ?_
  rw [bit_combine_one distinct low inside]
  simp [places, inside]

/-- Shifting a word is adding up the shifts of a power by the ones of the word. -/
theorem shifts_eq_combine (count : Nat) (word : UInt16) :
    shifts count word = combine (places word) (shifts count 1) := by
  rw [combine_shifts, combine_places]

/-! ## The order of the indeterminate -/

/-- The number that binary digits write, the highest first. -/
def number (digits : List Bool) : Nat :=
  digits.foldl (fun value digit => value + value + digit.toNat) 0

/-- The power with the number of binary digits as its exponent: a square for each digit, and a shift
for each one among them. -/
def power (digits : List Bool) : UInt16 :=
  digits.foldl (fun value digit => shifts digit.toNat (combine (places value) value)) 1

/-- Repeated squaring makes the power that as many shifts make. -/
theorem shifts_number (digits : List Bool) : shifts (number digits) 1 = power digits := by
  have run : ∀ (digits : List Bool) (count : Nat),
      shifts (digits.foldl (fun value digit => value + value + digit.toNat) count) 1 =
        digits.foldl (fun value digit => shifts digit.toNat (combine (places value) value))
          (shifts count 1) := by
    intro digits
    induction digits with
    | nil => exact fun _ => rfl
    | cons digit digits hypothesis =>
      intro count
      rw [List.foldl_cons, List.foldl_cons, hypothesis, shifts_add, shifts_add,
        shifts_eq_combine count (shifts count 1)]
  exact run digits 0

/-- The powers of the indeterminate come round after 32767 shifts. -/
theorem shifts_period (word : UInt16) : shifts 32767 word = word := by
  have one : shifts 32767 1 = 1 :=
    (shifts_number (List.replicate 15 true)).trans (by decide +kernel)
  rw [shifts_eq_combine, one, combine_places]

/-- Shifting loses nothing. -/
theorem eq_zero_of_shift (zero : shift word = 0) : word = 0 := by
  calc word = shifts (1 + 32766) word := (shifts_period word).symm
    _ = shifts 32766 (shift word) := shifts_add 1 32766 word
    _ = 0 := by rw [zero, shifts_zero]

/-- Neither do several shifts. -/
theorem eq_zero_of_shifts {count : Nat} (zero : shifts count word = 0) : word = 0 := by
  induction count generalizing word with
  | zero => exact zero
  | succ count hypothesis => exact eq_zero_of_shift (hypothesis zero)

/-- Where shifts keep one, so does every multiple of them. -/
theorem shifts_mul_eq_one {count : Nat} (kept : shifts count 1 = 1) (times : Nat) :
    shifts (count * times) 1 = 1 := by
  induction times with
  | zero => rfl
  | succ times hypothesis => rw [Nat.mul_succ, shifts_add, hypothesis, kept]

/-- Where two numbers of shifts keep one, so does their greatest common divisor. -/
theorem shifts_gcd_eq_one {first second : Nat} (one : shifts first 1 = 1)
    (other : shifts second 1 = 1) : shifts (Nat.gcd first second) 1 = 1 := by
  induction first, second using Nat.gcd.induction with
  | H0 second => rwa [Nat.gcd_zero_left]
  | H1 first second positive hypothesis =>
    rw [Nat.gcd_rec]
    refine hypothesis ?_ one
    calc shifts (second % first) 1
        = shifts (first * (second / first) + second % first) 1 := by
          rw [shifts_add, shifts_mul_eq_one one]
      _ = 1 := by rw [Nat.div_add_mod, other]

/-- A number that divides 32767, other than itself, leaves out one of its factors 7, 31, 151. -/
theorem dvd_of_dvd_period {divisor : Nat} (divides : divisor ∣ 32767) (proper : divisor ≠ 32767) :
    divisor ∣ 4681 ∨ divisor ∣ 1057 ∨ divisor ∣ 217 := by
  have small : ∀ divisor < 182, divisor ∣ 32767 →
      divisor ∣ 4681 ∨ divisor ∣ 1057 ∨ divisor ∣ 217 := by decide +kernel
  have factors : ∀ quotient < 182, quotient ∣ 32767 →
      quotient = 1 ∨ 7 ∣ quotient ∨ 31 ∣ quotient ∨ 151 ∣ quotient := by decide +kernel
  by_cases low : divisor < 182
  · exact small divisor low divides
  obtain ⟨quotient, product⟩ := divides
  -- The two numbers are not both above the root of 32767.
  have short : quotient < 182 := by
    refine Nat.lt_of_not_le fun long => ?_
    have large := Nat.mul_le_mul (Nat.le_of_not_lt low) long
    omega
  obtain rfl | ⟨part, rfl⟩ | ⟨part, rfl⟩ | ⟨part, rfl⟩ :=
    factors quotient short ⟨divisor, by rw [product, Nat.mul_comm]⟩
  · omega
  · exact .inl ⟨part, by rw [Nat.mul_left_comm] at product; omega⟩
  · exact .inr (.inl ⟨part, by rw [Nat.mul_left_comm] at product; omega⟩)
  · exact .inr (.inr ⟨part, by rw [Nat.mul_left_comm] at product; omega⟩)

/-- No fewer than 32767 shifts bring one back. -/
theorem shifts_one_ne_one {count : Nat} (positive : 0 < count) (short : count < 32767) :
    shifts count 1 ≠ 1 := by
  intro kept
  -- The order would divide 32767 and, being less, leave out a prime factor of it.
  have common := shifts_gcd_eq_one kept (shifts_period 1)
  have bound : Nat.gcd count 32767 ≤ count := Nat.gcd_le_left _ positive
  have multiple : ∀ {large : Nat}, Nat.gcd count 32767 ∣ large → shifts large 1 = 1 := by
    rintro _ ⟨times, rfl⟩
    exact shifts_mul_eq_one common times
  have seventh : shifts 4681 1 = 0x2c42 :=
    (shifts_number [true, false, false, true, false, false, true, false, false, true, false, false,
      true]).trans (by decide +kernel)
  have thirtyFirst : shifts 1057 1 = 0xf2af :=
    (shifts_number [true, false, false, false, false, true, false, false, false, false,
      true]).trans (by decide +kernel)
  have last : shifts 217 1 = 0x48e3 :=
    (shifts_number [true, true, false, true, true, false, false, true]).trans (by decide +kernel)
  obtain divides | divides | divides :=
    dvd_of_dvd_period (Nat.gcd_dvd_right count 32767) (by omega)
  · exact absurd (seventh.symm.trans (multiple divides)) (by decide)
  · exact absurd (thirtyFirst.symm.trans (multiple divides)) (by decide)
  · exact absurd (last.symm.trans (multiple divides)) (by decide)

/-! ## Sums of powers that do not vanish -/

/-- The generator over its factor `x + 1`. -/
def cofactor : UInt16 := 0xf01f

/-- Shifts keep the cofactor, so a sum of them is the cofactor or zero by their number. -/
theorem combine_cofactor (exponents : List Nat) :
    combine exponents cofactor = if exponents.length % 2 = 1 then cofactor else 0 := by
  have kept : ∀ count, shifts count cofactor = cofactor := by
    intro count
    induction count with
    | zero => rfl
    | succ count hypothesis => exact hypothesis
  induction exponents with
  | nil => rfl
  | cons exponent exponents hypothesis =>
    rw [combine_cons, kept, hypothesis, List.length_cons]
    by_cases odd : exponents.length % 2 = 1
    · rw [if_pos odd, if_neg (by omega), UInt16.xor_self]
    · rw [if_neg odd, if_pos (by omega), UInt16.xor_zero]

/-- An odd number of powers does not vanish. -/
theorem combine_ne_zero_of_odd (odd : exponents.length % 2 = 1) : combine exponents 1 ≠ 0 := by
  intro zero
  have vanished : combine exponents cofactor = 0 := by
    rw [← combine_places cofactor, combine_comm, zero, combine_zero]
  rw [combine_cofactor, if_pos odd] at vanished
  exact absurd vanished (by decide)

/-- A sum of powers is a multiple of any that is not above them. -/
theorem combine_eq_shifts {low : Nat} (above : ∀ exponent ∈ exponents, low ≤ exponent)
    (word : UInt16) :
    combine exponents word = shifts low (combine (exponents.map (· - low)) word) := by
  induction exponents with
  | nil => exact (shifts_zero low).symm
  | cons exponent exponents hypothesis =>
    obtain ⟨first, above⟩ := List.forall_mem_cons.1 above
    rw [List.map_cons, combine_cons, combine_cons, shifts_xor, ← hypothesis above, ← shifts_add,
      Nat.sub_add_cancel first]

/-- Distinct powers within 16 of each other do not vanish. -/
theorem combine_ne_zero_of_window {low : Nat} (some : exponents ≠ [])
    (distinct : exponents.Nodup) (above : ∀ exponent ∈ exponents, low ≤ exponent)
    (below : ∀ exponent ∈ exponents, exponent < low + 16) : combine exponents 1 ≠ 0 := by
  intro zero
  have lowered : (exponents.map (· - low)).Nodup := by
    refine List.pairwise_map.2 (distinct.imp_of_mem fun left right different => ?_)
    have := above _ left
    have := above _ right
    omega
  have narrow : ∀ exponent ∈ exponents.map (· - low), exponent < 16 := by
    intro exponent member
    obtain ⟨raised, before, rfl⟩ := List.mem_map.1 member
    have := below raised before
    have := above raised before
    omega
  rw [combine_eq_shifts above] at zero
  have vanished := eq_zero_of_shifts zero
  obtain ⟨exponent, within⟩ := List.exists_mem_of_ne_nil _ some
  have member : exponent - low ∈ exponents.map (· - low) := List.mem_map.2 ⟨_, within, rfl⟩
  have one := bit_combine_one lowered narrow (narrow _ member)
  rw [vanished, bit_zero, decide_eq_true member] at one
  cases one

/-- Powers below the order are different. -/
theorem shifts_one_ne_of_lt {first second : Nat} (less : first < second) (short : second < 32767) :
    shifts first 1 ≠ shifts second 1 := by
  intro same
  have zero : shifts first (1 ^^^ shifts (second - first) 1) = 0 := by
    rw [shifts_xor, ← shifts_add, Nat.sub_add_cancel (Nat.le_of_lt less), same, UInt16.xor_self]
  exact shifts_one_ne_one (by omega) (by omega)
    (UInt16.xor_eq_zero_iff.1 (eq_zero_of_shifts zero)).symm

/-- Two different powers below the order do not vanish. -/
theorem combine_ne_zero_of_pair {first second : Nat} (different : first ≠ second)
    (low : first < 32767) (high : second < 32767) : combine [first, second] 1 ≠ 0 := by
  intro zero
  have same : shifts first 1 = shifts second 1 :=
    (UInt16.xor_eq_zero_iff.1 zero).trans UInt16.xor_zero
  obtain less | less := Nat.lt_or_gt_of_ne different
  · exact shifts_one_ne_of_lt less high same
  · exact shifts_one_ne_of_lt less low same.symm

/-! ## Changed bytes -/

/-- A change of the state is shifted by the byte that is taken in. -/
theorem absorb_xor (state change : UInt16) (byte : UInt8) :
    absorb (state ^^^ change) byte = absorb state byte ^^^ shifts 8 change := by
  rw [absorb, absorb, ← shifts_xor]
  exact congrArg (shifts 8) (by ac_rfl)

/-- The first byte is taken in before the others. -/
theorem absorbAll_cons (state : UInt16) (byte : UInt8) (bytes : List UInt8) :
    absorbAll state (byte :: bytes) = absorbAll (absorb state byte) bytes := rfl

/-- The two zero bytes are taken in after the body. -/
theorem ofBody_eq (body : List UInt8) : ofBody body = absorbAll (ofBytes body) [0, 0] :=
  List.foldl_append

/-- A change of the state is shifted by all bytes that are taken in. -/
theorem absorbAll_xor (state change : UInt16) (bytes : List UInt8) :
    absorbAll (state ^^^ change) bytes =
      absorbAll state bytes ^^^ shifts (8 * bytes.length) change := by
  induction bytes generalizing state change with
  | nil => rfl
  | cons byte bytes hypothesis =>
    rw [absorbAll_cons, absorb_xor, hypothesis, ← shifts_add, absorbAll_cons, List.length_cons,
      Nat.mul_succ, Nat.add_comm 8]

/-- A change of a byte is a change of the state before it. -/
theorem absorb_flipped (state : UInt16) (byte mask : UInt8) :
    absorb state (byte ^^^ mask) = absorb state byte ^^^ shifts 8 (mask.toUInt16 <<< 8) := by
  rw [← absorb_xor, absorb, absorb, UInt8.toUInt16_xor, UInt16.shiftLeft_xor]
  exact congrArg (shifts 8) (by ac_rfl)

/-- A change of one byte is shifted by it and all bytes behind it. -/
theorem absorbAll_modify (state : UInt16) {bytes : List UInt8} {index : Nat}
    (inside : index < bytes.length) (mask : UInt8) :
    absorbAll state (bytes.modify index (· ^^^ mask)) =
      absorbAll state bytes ^^^ shifts (8 * (bytes.length - index)) (mask.toUInt16 <<< 8) := by
  induction bytes generalizing state index with
  | nil => cases inside
  | cons byte bytes hypothesis =>
    cases index with
    | zero =>
      rw [List.modify_zero_cons, absorbAll_cons, absorb_flipped, absorbAll_xor, ← shifts_add,
        absorbAll_cons, List.length_cons, Nat.sub_zero, Nat.mul_succ, Nat.add_comm 8]
    | succ index =>
      rw [List.modify_succ_cons, List.length_cons, Nat.add_sub_add_right]
      exact hypothesis (absorb state byte) (Nat.lt_of_succ_lt_succ inside)

/-- A change of one byte of a body is shifted by the two zero bytes too. -/
theorem ofBody_modify {body : List UInt8} {index : Nat} (inside : index < body.length)
    (mask : UInt8) :
    ofBody (body.modify index (· ^^^ mask)) =
      ofBody body ^^^ shifts (8 * (body.length - index) + 16) (mask.toUInt16 <<< 8) := by
  rw [ofBody_eq, ofBytes, absorbAll_modify initial inside, absorbAll_xor, ← shifts_add, ofBody_eq,
    ofBytes, List.length_cons, List.length_singleton]

end Multidrop.Checksum
