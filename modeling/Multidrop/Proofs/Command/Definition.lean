import Multidrop.Command.Basic
import Multidrop.Proofs.Text.Numeral
import Multidrop.Proofs.Text.Parts
import Multidrop.Proofs.Value.Integer

/-!
# What register definitions say

A definition is a register, an equals sign, the name of a kind, a colon and a value, each of the
three parts with blank characters around it that do not count (`Defines`). None of the parts has one
of the separators in it, so a definition of an integer kind says one register and one number. It is
accepted as these exactly if both are in range, and nothing else is accepted with an integer kind
(`parseDefinition_defines`).
-/
namespace Multidrop

open Text

namespace Kind

variable {kind : Kind}

/-- A kind is found under its name, and under no other text. -/
theorem ofName?_eq_some_iff {name : String} : ofName? name = some kind ↔ name = kind.name := by
  constructor
  · intro found
    have same := List.find?_some found
    exact (of_decide_eq_true same).symm
  · rintro rfl
    cases kind <;> rfl

/-- What stands in the name of a kind is visible. -/
theorem visible_name (kind : Kind) : ∀ character ∈ kind.name.toList, Visible character := by
  cases kind <;> simp [name, Visible, isBlank, blankRanges]

end Kind

namespace Command

/-- The texts of a number of a register: decimal digits, or hexadecimal ones behind a mark, in both
cases with an optional plus sign. -/
inductive Numbers : List Char → ℕ → Prop
  | decimal {text : List Char} {number : ℕ} (numeral : Unsigned 10 text number) :
      Numbers text number
  | hexadecimal {mark : Char} {text : List Char} {number : ℕ} (known : mark = 'x' ∨ mark = 'X')
      (numeral : Unsigned 16 text number) : Numbers ('0' :: mark :: text) number

/-- The texts that define a register of some number as a number in some kind: the three parts, with
any blank characters around each. -/
inductive Defines : List Char → ℕ → Kind → ℤ → Prop
  | parts {left register middle right digits : List Char} {index : ℕ} {kind : Kind} {number : ℤ}
      (place : Pads left register) (numbers : Numbers register index)
      (named : Pads middle kind.name.toList)
      (value : Pads right digits) (signed : Signed digits number) :
      Defines (left ++ '=' :: (middle ++ ':' :: right)) index kind number

/-- The plain texts of a register: its decimal digits, or its hexadecimal digits behind a mark, with
any of the letters in upper case. -/
inductive Spells (register : Register) : List Char → Prop
  | decimal : Spells register (Nat.toDigits 10 register.toNat)
  | hexadecimal {mark : Char} {digits : List Char} (known : mark = 'x' ∨ mark = 'X')
      (raises : Raises digits (Nat.toDigits 16 register.toNat)) :
      Spells register ('0' :: mark :: digits)

/-! ## Registers -/

variable {text : List Char} {register : Register} {number : ℕ}

/-- The digits behind a mark are found exactly where there is one. -/
theorem afterHexMark?_eq_some_iff {digits : List Char} : afterHexMark? text = some digits ↔
    ∃ mark, (mark = 'x' ∨ mark = 'X') ∧ text = '0' :: mark :: digits := by
  have lower := @afterFront?_eq_some_iff ['0', 'x'] text
  have upper := @afterFront?_eq_some_iff ['0', 'X'] text
  unfold afterHexMark?
  constructor
  · intro found
    cases small : afterFront? ['0', 'x'] text with
    | some rest =>
      rw [small] at found
      cases found
      exact ⟨'x', .inl rfl, lower.1 small⟩
    | none =>
      rw [small] at found
      exact ⟨'X', .inr rfl, upper.1 found⟩
  · rintro ⟨mark, rfl | rfl, rfl⟩ <;> rfl

/-- Decimal digits have no mark. -/
theorem not_decimal_of_mark {mark : Char} (known : mark = 'x' ∨ mark = 'X') :
    ¬Unsigned 10 ('0' :: mark :: text) number := by
  rintro (numeral | _)
  rw [← digits?_eq_some_iff (by decide)] at numeral
  rcases known with rfl | rfl <;> cases numeral

/-- A register is found in the texts of its number. -/
theorem registerOf?_eq_some_iff :
    registerOf? text = some register ↔ Numbers text register.toNat := by
  have ten : 10 ≤ 16 := by decide
  unfold registerOf?
  rw [Option.map_eq_some_iff]
  constructor
  · rintro ⟨number, found, rfl⟩
    have read : Numbers text number ∧ number < Word.bound 32 := by
      cases marked : afterHexMark? text with
      | some digits =>
        obtain ⟨mark, known, rfl⟩ := afterHexMark?_eq_some_iff.1 marked
        simp only [marked] at found
        obtain ⟨numeral, small⟩ := (natural?_eq_some_iff le_rfl).1 found
        exact ⟨.hexadecimal known numeral, small⟩
      | none =>
        simp only [marked] at found
        obtain ⟨numeral, small⟩ := (natural?_eq_some_iff ten).1 found
        exact ⟨.decimal numeral, small⟩
    rw [UInt32.toNat_ofNat_of_lt' read.2]
    exact read.1
  · intro numbers
    have small : register.toNat < Word.bound 32 := register.toNat_lt
    refine ⟨register.toNat, ?_, UInt32.ofNat_toNat⟩
    cases numbers with
    | decimal numeral =>
      have plain : afterHexMark? text = none := by
        rw [Option.eq_none_iff_forall_ne_some]
        intro digits marked
        obtain ⟨mark, known, rfl⟩ := afterHexMark?_eq_some_iff.1 marked
        exact not_decimal_of_mark known numeral
      rw [plain]
      exact (natural?_eq_some_iff ten).2 ⟨numeral, small⟩
    | hexadecimal known numeral =>
      rw [afterHexMark?_eq_some_iff.2 ⟨_, known, rfl⟩]
      exact (natural?_eq_some_iff le_rfl).2 ⟨numeral, small⟩

/-- The text of a number of a register stands for one number. -/
theorem Numbers.unique {other : ℕ} (numbers : Numbers text number) (same : Numbers text other) :
    number = other := by
  cases numbers with
  | decimal numeral =>
    cases same with
    | decimal digits => exact numeral.unique (by decide) digits
    | hexadecimal known _ => exact absurd numeral (not_decimal_of_mark known)
  | hexadecimal known numeral =>
    cases same with
    | decimal digits => exact absurd digits (not_decimal_of_mark known)
    | hexadecimal _ digits => exact numeral.unique le_rfl digits

/-- What stands in the text of a number of a register is visible. -/
theorem Numbers.visible (numbers : Numbers text number) :
    ∀ character ∈ text, Visible character := by
  cases numbers with
  | decimal numeral => exact numeral.visible (by decide)
  | @hexadecimal mark _ _ known numeral =>
    have seen : Visible mark := by rcases known with rfl | rfl <;> decide
    exact List.forall_mem_cons.2 ⟨by decide, List.forall_mem_cons.2 ⟨seen, numeral.visible le_rfl⟩⟩

/-- The plain texts of a register are texts of its number. -/
theorem Spells.numbers (spells : Spells register text) : Numbers text register.toNat := by
  cases spells with
  | decimal => exact .decimal (.plain (numeral_toDigits (by decide) _))
  | hexadecimal known raises =>
    have numeral := numeral_toDigits (by decide : 1 < 16) register.toNat
    exact .hexadecimal known (.plain (numeral.raises le_rfl raises))

/-! ## Parts -/

/-- A visible text is what is left where blank characters stand around it. -/
theorem trim_of_visible {whole : List Char} (pads : Pads whole text)
    (visible : ∀ character ∈ text, Visible character) : trim whole = text :=
  trim_eq_iff.2 ⟨pads, bare_of_visible fun character there => (visible character there).1⟩

/-- A kind is found where blank characters stand around its name. -/
theorem kindOf?_eq_some_iff {kind : Kind} :
    kindOf? text = some kind ↔ Pads text kind.name.toList := by
  rw [kindOf?, Kind.ofName?_eq_some_iff, ← String.toList_inj, String.toList_ofList]
  constructor
  · intro same
    rw [← same]
    exact pads_trim text
  · intro pads
    exact trim_of_visible pads kind.visible_name

/-! ## Definitions -/

variable {value : Value} {left middle right : List Char}

/-- A definition is read from its parts where these have no separators in them. -/
theorem definitionOf?_parts (separate : '=' ∉ left) (apart : ':' ∉ middle) :
    definitionOf? (left ++ '=' :: (middle ++ ':' :: right)) = some (register, value) ↔
      registerOf? (trim left) = some register ∧ kindOf? middle = some value.kind ∧
        value.kind.parseValue? right = some value := by
  have first : splitFirst '=' (left ++ '=' :: (middle ++ ':' :: right)) = _ :=
    splitFirst_eq_some_iff.2 ⟨rfl, separate⟩
  have second : splitFirst ':' (middle ++ ':' :: right) = _ :=
    splitFirst_eq_some_iff.2 ⟨rfl, apart⟩
  simp only [definitionOf?, first, second, Option.bind_eq_bind, Option.bind_some,
    Option.bind_eq_some_iff, Option.some.injEq, Prod.mk.injEq]
  constructor
  · rintro ⟨_, known, kind, named, _, read, rfl, rfl⟩
    obtain rfl := Kind.kind_of_parseValue? read
    exact ⟨known, named, read⟩
  · rintro ⟨known, named, read⟩
    exact ⟨_, known, _, named, _, read, rfl, rfl⟩

/-- A text that a definition is read from has three parts. -/
theorem exists_parts (found : definitionOf? text = some (register, value)) :
    ∃ left middle right, text = left ++ '=' :: (middle ++ ':' :: right) ∧ '=' ∉ left ∧
      ':' ∉ middle := by
  simp only [definitionOf?, Option.bind_eq_bind, Option.bind_eq_some_iff, Prod.exists] at found
  obtain ⟨left, typed, first, middle, right, second, _⟩ := found
  obtain ⟨rfl, separate⟩ := splitFirst_eq_some_iff.1 first
  obtain ⟨rfl, apart⟩ := splitFirst_eq_some_iff.1 second
  exact ⟨left, middle, right, rfl, separate, apart⟩

/-- What is read from a text in an integer kind is what the text defines. -/
theorem defines_of_definitionOf? (found : definitionOf? text = some (register, value))
    (integral : value.kind ≠ .float) :
    ∃ number, value.integer? = some number ∧ Defines text register.toNat value.kind number := by
  obtain ⟨left, middle, right, rfl, separate, apart⟩ := exists_parts found
  obtain ⟨known, named, read⟩ := (definitionOf?_parts separate apart).1 found
  obtain ⟨_, number, whole, signed⟩ := (Kind.parseValue?_eq_some_iff integral).1 read
  exact ⟨number, whole, .parts (pads_trim left) (registerOf?_eq_some_iff.1 known)
    (kindOf?_eq_some_iff.1 named) (pads_trim right) signed⟩

/-- What a text defines in an integer kind is all that can be read from it. -/
theorem Defines.definitionOf?_eq_some_iff {index : ℕ} {kind : Kind} {number : ℤ}
    (defines : Defines text index kind number) (integral : kind ≠ .float) :
    definitionOf? text = some (register, value) ↔
      register.toNat = index ∧ value.kind = kind ∧ value.integer? = some number := by
  cases defines with
  | @parts left spelling middle right digits _ _ _ place numbers named pads signed =>
    have separate : '=' ∉ left :=
      place.notMem (by decide) fun there => (numbers.visible _ there).2.1 rfl
    have apart : ':' ∉ middle :=
      named.notMem (by decide) fun there => (kind.visible_name _ there).2.2 rfl
    have known := kindOf?_eq_some_iff.2 named
    rw [definitionOf?_parts separate apart, trim_of_visible place numbers.visible, known,
      registerOf?_eq_some_iff, Option.some.injEq]
    constructor
    · rintro ⟨found, rfl, read⟩
      obtain ⟨_, other, whole, spelt⟩ := (Kind.parseValue?_eq_some_iff integral).1 read
      rw [trim_of_visible pads signed.visible] at spelt
      rw [spelt.unique signed] at whole
      exact ⟨found.unique numbers, rfl, whole⟩
    · rintro ⟨rfl, rfl, whole⟩
      refine ⟨numbers, rfl, (Kind.parseValue?_eq_some_iff integral).2 ⟨rfl, number, whole, ?_⟩⟩
      rw [trim_of_visible pads signed.visible]
      exact signed

/-- A definition is accepted as the register and value that are found in it. -/
theorem parseDefinition_eq_ok_iff {text : String} : parseDefinition text = .ok (register, value) ↔
    definitionOf? text.toList = some (register, value) := by
  unfold parseDefinition
  cases definitionOf? text.toList <;> simp

/-- A text is accepted as a register and a value of an integer kind exactly if it defines them, with
any blanks around each, and never with a number out of range. -/
theorem parseDefinition_defines (text : String) :
    (∀ register value left middle right spelling, value.kind ≠ .float →
      text.toList = left ++ '=' :: (middle ++ ':' :: right) → Spells register spelling →
      Pads left spelling → Pads middle value.kind.name.toList → Pads right value.text.toList →
        parseDefinition text = .ok (register, value)) ∧
    (∀ register value, value.kind ≠ .float → (parseDefinition text = .ok (register, value) ↔
      ∃ number, value.integer? = some number ∧
        Defines text.toList register.toNat value.kind number)) ∧
    ∀ index kind number, kind ≠ .float → Defines text.toList index kind number →
      2 ^ 32 ≤ index ∨ number < -2 ^ (8 * kind.size - 1) ∨ 2 ^ (8 * kind.size - 1) ≤ number →
        parseDefinition text = .error ⟨.usage, "invalid register definition: " ++ text⟩ := by
  refine ⟨?_, ?_, ?_⟩
  · intro register value left middle right spelling integral same spells place named pads
    obtain ⟨number, whole⟩ := (Value.exists_integer?_iff value).2 integral
    have defines := Defines.parts place spells.numbers named pads (Value.signed_text whole)
    rw [← same] at defines
    exact parseDefinition_eq_ok_iff.2
      ((defines.definitionOf?_eq_some_iff integral).2 ⟨rfl, rfl, whole⟩)
  · intro register value integral
    rw [parseDefinition_eq_ok_iff]
    constructor
    · intro found
      exact defines_of_definitionOf? found integral
    · rintro ⟨number, whole, defines⟩
      exact (defines.definitionOf?_eq_some_iff integral).2 ⟨rfl, rfl, whole⟩
  · intro index kind number integral defines outside
    have none : definitionOf? text.toList = none := by
      rw [Option.eq_none_iff_forall_ne_some]
      rintro ⟨register, value⟩ found
      obtain ⟨rfl, rfl, whole⟩ := (defines.definitionOf?_eq_some_iff integral).1 found
      have bound := register.toNat_lt
      obtain ⟨below, above⟩ := Value.range_of_integer? whole
      rw [least_eq] at below
      rw [greatest_eq] at above
      omega
    rw [parseDefinition, none]

/-- A hexadecimal register is read in either letter case and a value with its sign, and a value that
is out of range is refused. -/
theorem parseDefinition_defines_of_two :
    parseDefinition "0X1F =int16: -7" = .ok (31, .int16 (-7)) ∧
      parseDefinition "5=int8:300" =
        .error ⟨.usage, "invalid register definition: " ++ "5=int8:300"⟩ := by
  have blank : isBlank ' ' = true := by decide
  constructor
  · obtain ⟨accepts, _⟩ := parseDefinition_defines "0X1F =int16: -7"
    have spells : Spells 31 ['0', 'X', '1', 'F'] :=
      .hexadecimal (.inr rfl) (.cons (.inl rfl) (.cons (.inr rfl) .nil))
    have place : Pads ['0', 'X', '1', 'F', ' '] ['0', 'X', '1', 'F'] :=
      ⟨[], [' '], rfl, by simp, by simpa using blank⟩
    have pads : Pads [' ', '-', '7'] (Value.int16 (-7)).text.toList :=
      ⟨[' '], [], by simp [Value.text, integer, Nat.toDigits_of_lt_base], by simpa using blank,
        by simp⟩
    have same : "0X1F =int16: -7".toList =
        ['0', 'X', '1', 'F', ' '] ++ '=' :: (Kind.int16.name.toList ++ ':' :: [' ', '-', '7']) := by
      simp [Kind.name]
    exact accepts 31 (.int16 (-7)) _ _ _ _ (by decide) same spells place (.refl _) pads
  · obtain ⟨_, _, refuses⟩ := parseDefinition_defines "5=int8:300"
    have five : Numbers ['5'] 5 := .decimal (.plain (numeral_toDigits (by decide) 5))
    have value : Signed ['3', '0', '0'] 300 := .plain (numeral_toDigits (by decide) 300)
    have defines : Defines "5=int8:300".toList 5 .int8 300 := by
      have parts := Defines.parts (.refl _) five (.refl Kind.int8.name.toList) (.refl _) value
      simpa [Kind.name] using parts
    exact refuses 5 .int8 300 (by decide) defines (.inr (.inr (by decide)))

end Command

end Multidrop
