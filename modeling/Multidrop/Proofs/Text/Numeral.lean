import Mathlib.Data.List.Forall2
import Mathlib.Data.Nat.Digits.Defs
import Mathlib.Tactic.Ring
import Multidrop.Text

/-!
# What digits stand for

A numeral is one or more digits of a base, and stands for the number that has these digits
(`Numeral`). Reading numbers finds exactly the numerals with an optional sign, and refuses the ones
whose number is out of range (`natural?_eq_some_iff`, `integer?_eq_some_iff`).
-/
namespace Multidrop.Text

/-- A character that is a digit of a base. Letters may be of either case. -/
def IsDigit (base : ℕ) (character : Char) (value : ℕ) : Prop :=
  value < base ∧ (character = value.digitChar ∨ character = value.digitChar.toUpper)

/-- One or more digits of a base, the most significant one first, that stand for a number. -/
def Numeral (base : ℕ) (text : List Char) (number : ℕ) : Prop :=
  ∃ values : List ℕ, values ≠ [] ∧ List.Forall₂ (IsDigit base) text values ∧
    number = Nat.ofDigits base values.reverse

/-- A numeral with an optional plus sign. -/
inductive Unsigned (base : ℕ) : List Char → ℕ → Prop
  | plain {text : List Char} {number : ℕ} (numeral : Numeral base text number) :
      Unsigned base text number
  | plus {text : List Char} {number : ℕ} (numeral : Numeral base text number) :
      Unsigned base ('+' :: text) number

/-- A decimal numeral with an optional sign. -/
inductive Signed : List Char → ℤ → Prop
  | plain {text : List Char} {number : ℕ} (numeral : Numeral 10 text number) : Signed text number
  | plus {text : List Char} {number : ℕ} (numeral : Numeral 10 text number) :
      Signed ('+' :: text) number
  | minus {text : List Char} {number : ℕ} (numeral : Numeral 10 text number) :
      Signed ('-' :: text) (-number)

variable {base : ℕ} {text : List Char} {number : ℕ}

/-! ## Digits -/

/-- The codes of the digits. -/
theorem toNat_digitChar :
    (∀ value < 10, value.digitChar.toNat = value + 48) ∧
      ∀ value < 16, 10 ≤ value → value.digitChar.toNat = value + 87 ∧
        value.digitChar.toUpper.toNat = value + 55 := by
  decide

/-- The value of a digit is found exactly where the character is that digit in one of its letter
cases. -/
theorem digitValue?_eq_some_iff {character : Char} {value : ℕ} :
    digitValue? character = some value ↔ IsDigit 16 character value := by
  obtain ⟨codes, letters⟩ := toNat_digitChar
  constructor
  · intro found
    unfold digitValue? at found
    split at found
    · rename_i range
      have range : 48 ≤ character.toNat ∧ character.toNat ≤ 57 := range
      have same : character.toNat - 48 = value := Option.some.inj found
      have code := codes value (by omega)
      exact ⟨by omega, .inl (Char.toNat_inj.1 (by omega))⟩
    · split at found
      · rename_i range
        have range : 97 ≤ character.toNat ∧ character.toNat ≤ 102 := range
        have same : character.toNat - 97 + 10 = value := Option.some.inj found
        have code := letters value (by omega) (by omega)
        exact ⟨by omega, .inl (Char.toNat_inj.1 (by omega))⟩
      · split at found
        · rename_i range
          have range : 65 ≤ character.toNat ∧ character.toNat ≤ 70 := range
          have same : character.toNat - 65 + 10 = value := Option.some.inj found
          have code := letters value (by omega) (by omega)
          exact ⟨by omega, .inr (Char.toNat_inj.1 (by omega))⟩
        · cases found
  · rintro ⟨small, same⟩
    have each : ∀ value < 16, digitValue? value.digitChar = some value ∧
        digitValue? value.digitChar.toUpper = some value := by
      decide
    rcases same with rfl | rfl
    · exact (each value small).1
    · exact (each value small).2

/-- The value of a digit of a base is found exactly where the character is such a digit. -/
theorem digitOf?_eq_some_iff (small : base ≤ 16) {character : Char} {value : ℕ} :
    digitOf? base character = some value ↔ IsDigit base character value := by
  rw [digitOf?, Option.filter_eq_some_iff, digitValue?_eq_some_iff, decide_eq_true_eq]
  constructor
  · rintro ⟨⟨_, same⟩, less⟩
    exact ⟨less, same⟩
  · rintro ⟨less, same⟩
    exact ⟨⟨less.trans_le small, same⟩, less⟩

/-- A sign is no digit. -/
theorem digitOf?_sign (base : ℕ) : digitOf? base '+' = none ∧ digitOf? base '-' = none :=
  ⟨rfl, rfl⟩

/-- A character that is neither blank nor one of the separators of definitions. -/
def Visible (character : Char) : Prop :=
  isBlank character = false ∧ character ≠ '=' ∧ character ≠ ':'

instance (character : Char) : Decidable (Visible character) :=
  inferInstanceAs (Decidable (_ ∧ _))

/-- Digits are visible. -/
theorem IsDigit.visible (small : base ≤ 16) {character : Char} {value : ℕ}
    (digit : IsDigit base character value) : Visible character := by
  have each : ∀ value < 16, Visible value.digitChar ∧ Visible value.digitChar.toUpper := by
    decide
  obtain ⟨less, rfl | rfl⟩ := digit
  · exact (each value (less.trans_le small)).1
  · exact (each value (less.trans_le small)).2

/-- A digit is the same digit in the other letter case. -/
theorem IsDigit.toUpper (small : base ≤ 16) {letter : Char} {value : ℕ}
    (digit : IsDigit base letter value) : IsDigit base letter.toUpper value := by
  have each : ∀ value < 16, value.digitChar.toUpper.toUpper = value.digitChar.toUpper := by
    decide
  obtain ⟨less, rfl | rfl⟩ := digit
  · exact ⟨less, .inr rfl⟩
  · exact ⟨less, .inr (each value (less.trans_le small))⟩

/-! ## Numerals -/

/-- Reading digits behind a number puts them at its end. -/
theorem digitsFrom?_eq_some_iff (small : base ≤ 16) {sum : ℕ} :
    digitsFrom? base sum text = some number ↔
      ∃ values : List ℕ, List.Forall₂ (IsDigit base) text values ∧
        number = base ^ values.length * sum + Nat.ofDigits base values.reverse := by
  induction text generalizing sum with
  | nil => simp [digitsFrom?, eq_comm]
  | cons character text ih =>
    have place (value : ℕ) (values : List ℕ) :
        base ^ values.length * (base * sum + value) + Nat.ofDigits base values.reverse =
          base ^ (value :: values).length * sum + Nat.ofDigits base (value :: values).reverse := by
      rw [Nat.ofDigits_reverse_cons, List.length_cons]
      ring
    have step : digitsFrom? base sum (character :: text) = some number ↔
        ∃ value, IsDigit base character value ∧
          digitsFrom? base (base * sum + value) text = some number := by
      simp only [digitsFrom?, Option.bind_eq_bind, Option.bind_eq_some_iff,
        digitOf?_eq_some_iff small]
    rw [step]
    constructor
    · rintro ⟨value, digit, rest⟩
      obtain ⟨values, digits, same⟩ := ih.1 rest
      exact ⟨value :: values, .cons digit digits, same.trans (place value values)⟩
    · rintro ⟨values, digits, same⟩
      cases digits with
      | @cons _ value _ values digit digits =>
        exact ⟨value, digit, ih.2 ⟨values, digits, same.trans (place value values).symm⟩⟩

/-- Reading digits finds the number that they stand for, and reads nothing else. -/
theorem digits?_eq_some_iff (small : base ≤ 16) :
    digits? base text = some number ↔ Numeral base text number := by
  cases text with
  | nil =>
    refine ⟨nofun, ?_⟩
    rintro ⟨values, some, digits, _⟩
    cases digits
    exact absurd rfl some
  | cons character text =>
    have start : digits? base (character :: text) = digitsFrom? base 0 (character :: text) := rfl
    rw [start, digitsFrom?_eq_some_iff small, Numeral]
    simp only [Nat.mul_zero, Nat.zero_add]
    constructor
    · rintro ⟨values, digits, same⟩
      refine ⟨values, ?_, digits, same⟩
      rintro rfl
      cases digits
    · rintro ⟨values, _, digits, same⟩
      exact ⟨values, digits, same⟩

/-- No numeral begins with a sign. -/
theorem not_numeral_sign (small : base ≤ 16) :
    ¬Numeral base ('+' :: text) number ∧ ¬Numeral base ('-' :: text) number := by
  obtain ⟨plus, minus⟩ := digitOf?_sign base
  rw [← digits?_eq_some_iff small, ← digits?_eq_some_iff small]
  simp [digits?, digitsFrom?, plus, minus]

/-- A digit may be put behind a numeral. -/
theorem Numeral.snoc {character : Char} {value : ℕ} (numeral : Numeral base text number)
    (digit : IsDigit base character value) :
    Numeral base (text ++ [character]) (base * number + value) := by
  obtain ⟨values, _, digits, rfl⟩ := numeral
  refine ⟨values ++ [value], by simp, List.rel_append digits (.cons digit .nil), ?_⟩
  rw [List.reverse_append, List.reverse_singleton, List.singleton_append, Nat.ofDigits_cons,
    Nat.add_comm]

/-- The digits of a number stand for it. -/
theorem numeral_toDigits (several : 1 < base) (number : ℕ) :
    Numeral base (Nat.toDigits base number) number := by
  induction number using Nat.strong_induction_on with
  | _ number ih =>
    by_cases single : number < base
    · rw [Nat.toDigits_of_lt_base single]
      exact ⟨[number], by simp, .cons ⟨single, .inl rfl⟩ .nil, by simp⟩
    · have large : base ≤ number := Nat.le_of_not_lt single
      have front := ih (number / base) (Nat.div_lt_self (by omega) several)
      have last : IsDigit base (number % base).digitChar (number % base) :=
        ⟨Nat.mod_lt _ (by omega), .inl rfl⟩
      have whole := front.snoc last
      rw [Nat.div_add_mod] at whole
      rw [Nat.toDigits_of_base_le several large]
      exact whole

/-- A text with some of its letters in upper case. -/
def Raises (text lower : List Char) : Prop :=
  List.Forall₂ (fun character letter => character = letter ∨ character = letter.toUpper) text lower

/-- A numeral stands for the same number with some of its letters in upper case. -/
theorem Numeral.raises (small : base ≤ 16) {lower : List Char}
    (numeral : Numeral base lower number) (raises : Raises text lower) :
    Numeral base text number := by
  obtain ⟨values, some, digits, same⟩ := numeral
  refine ⟨values, some, ?_, same⟩
  clear some same
  induction raises generalizing values with
  | nil =>
    cases digits
    exact .nil
  | cons letter _ ih =>
    cases digits with
    | cons digit digits =>
      refine .cons ?_ (ih _ digits)
      rcases letter with rfl | rfl
      · exact digit
      · exact digit.toUpper small

/-- The digits of a numeral are visible. -/
theorem Numeral.visible (small : base ≤ 16) (numeral : Numeral base text number) :
    ∀ character ∈ text, Visible character := by
  obtain ⟨values, _, digits, _⟩ := numeral
  have seen : List.Forall₂ (fun character value => Visible character ∧ IsDigit base character value)
      text values := digits.imp fun _ _ digit => ⟨digit.visible small, digit⟩
  exact ((List.forall₂_and_left text values).1 seen).1

/-! ## Signs -/

/-- Reading a number without a minus sign finds the numerals with an optional plus sign whose number
is below the bound, and reads nothing else. -/
theorem natural?_eq_some_iff (small : base ≤ 16) {bound : ℕ} :
    natural? base bound text = some number ↔ Unsigned base text number ∧ number < bound := by
  unfold natural?
  rw [Option.filter_eq_some_iff, decide_eq_true_eq]
  refine and_congr_left fun _ => ?_
  split
  · rw [digits?_eq_some_iff small]
    refine ⟨.plus, ?_⟩
    rintro (numeral | numeral)
    · exact absurd numeral (not_numeral_sign small).1
    · exact numeral
  · rename_i other
    rw [digits?_eq_some_iff small]
    refine ⟨.plain, ?_⟩
    rintro (numeral | numeral)
    · exact numeral
    · exact absurd rfl (other _)

/-- Reading a decimal number finds the numerals with an optional sign whose number is in the range,
and reads nothing else. -/
theorem integer?_eq_some_iff {low high value : ℤ} :
    integer? low high text = some value ↔ Signed text value ∧ low ≤ value ∧ value ≤ high := by
  have small : 10 ≤ 16 := by decide
  unfold integer?
  rw [Option.filter_eq_some_iff, Bool.and_eq_true, decide_eq_true_eq, decide_eq_true_eq]
  refine and_congr_left fun _ => ?_
  split
  · simp only [Option.map_eq_some_iff, digits?_eq_some_iff small]
    constructor
    · rintro ⟨number, numeral, rfl⟩
      exact .plus numeral
    · rintro (numeral | numeral)
      · exact absurd numeral (not_numeral_sign small).1
      · exact ⟨_, numeral, rfl⟩
  · simp only [Option.map_eq_some_iff, Option.bind_eq_bind, Option.bind_eq_some_iff,
      Option.pure_def, Option.some.injEq, digits?_eq_some_iff small]
    constructor
    · rintro ⟨_, ⟨number, numeral, rfl⟩, rfl⟩
      exact .minus numeral
    · rintro (numeral | _ | numeral)
      · exact absurd numeral (not_numeral_sign small).2
      · exact ⟨_, ⟨_, numeral, rfl⟩, rfl⟩
  · rename_i noPlus noMinus
    simp only [Option.map_eq_some_iff, digits?_eq_some_iff small]
    constructor
    · rintro ⟨number, numeral, rfl⟩
      exact .plain numeral
    · rintro (numeral | numeral | numeral)
      · exact ⟨_, numeral, rfl⟩
      · exact absurd rfl (noPlus _)
      · exact absurd rfl (noMinus _)

/-- A numeral with an optional plus sign stands for one number. -/
theorem Unsigned.unique (small : base ≤ 16) {other : ℕ} (unsigned : Unsigned base text number)
    (same : Unsigned base text other) : number = other := by
  have first := (natural?_eq_some_iff small).2 ⟨unsigned, Nat.lt_succ_of_le (le_max_left _ other)⟩
  have second := (natural?_eq_some_iff small).2 ⟨same, Nat.lt_succ_of_le (le_max_right number _)⟩
  exact Option.some.inj (first.symm.trans second)

/-- A numeral with an optional sign stands for one number. -/
theorem Signed.unique {value other : ℤ} (signed : Signed text value) (same : Signed text other) :
    value = other := by
  have first := integer?_eq_some_iff.2 ⟨signed, min_le_left _ other, le_max_left _ other⟩
  have second := integer?_eq_some_iff.2 ⟨same, min_le_right value _, le_max_right value _⟩
  exact Option.some.inj (first.symm.trans second)

/-- What stands in a numeral with an optional plus sign is visible. -/
theorem Unsigned.visible (small : base ≤ 16) (unsigned : Unsigned base text number) :
    ∀ character ∈ text, Visible character := by
  cases unsigned with
  | plain numeral => exact numeral.visible small
  | plus numeral => exact List.forall_mem_cons.2 ⟨by decide, numeral.visible small⟩

/-- What stands in a numeral with an optional sign is visible. -/
theorem Signed.visible {value : ℤ} (signed : Signed text value) :
    ∀ character ∈ text, Visible character := by
  have small : 10 ≤ 16 := by decide
  cases signed with
  | plain numeral => exact numeral.visible small
  | plus numeral => exact List.forall_mem_cons.2 ⟨by decide, numeral.visible small⟩
  | minus numeral => exact List.forall_mem_cons.2 ⟨by decide, numeral.visible small⟩

end Multidrop.Text
