import Multidrop.Basic
import Multidrop.Text

/-!
# Floating-point words

Words of a binary floating-point format as exact rationals, and their texts: a word is read as the
nearest one to a decimal, and written with the fewest digits that are read back.
-/
namespace Multidrop.Floating

/-! ## Binary floating-point formats

Words of a binary interchange format, taken apart and rounded to with exact natural-number
arithmetic. Every finite magnitude of a format is a whole number of units, the unit being the
smallest positive number of the format, so no negative exponent ever occurs. -/

/-- A binary interchange format: a sign bit, an exponent field and a fraction field. -/
structure Format where
  /-- Width of the exponent field. -/
  exponentBits : Nat
  /-- Width of the fraction field. -/
  fractionBits : Nat
  deriving Repr, DecidableEq

/-- The format of 32-bit words. -/
def binary32 : Format := ⟨8, 23⟩

/-- The format of 64-bit words. -/
def binary64 : Format := ⟨11, 52⟩

/-- What a word stands for. -/
inductive Datum where
  /-- A number: its sign, and its magnitude in units. -/
  | finite (negative : Bool) (units : Nat)
  /-- An infinity with its sign. -/
  | infinite (negative : Bool)
  /-- Not a number. -/
  | nan
  deriving Repr, DecidableEq

namespace Format

/-- The magnitude word of the infinities: all exponent bits set, no fraction. -/
def infinityWord (format : Format) : Nat :=
  (Word.bound format.exponentBits - 1) * Word.bound format.fractionBits

/-- The sign bit of a word. -/
def signWord (format : Format) : Nat := Nat.pow 2 (format.exponentBits + format.fractionBits)

/-- The exponent of two by which one exceeds the unit. -/
def unitExponent (format : Format) : Nat :=
  Nat.pow 2 (format.exponentBits - 1) - 2 + format.fractionBits

/-- Units in the number one. -/
def one (format : Format) : Nat := Nat.pow 2 format.unitExponent

/-- The exponent field of a magnitude word. -/
def exponentField (format : Format) (magnitude : Nat) : Nat :=
  magnitude / Word.bound format.fractionBits

/-- The fraction field of a magnitude word. -/
def fractionField (format : Format) (magnitude : Nat) : Nat :=
  magnitude % Word.bound format.fractionBits

/-- The distance, as an exponent of two, between neighbouring numbers at a magnitude word. -/
def spacing (format : Format) (magnitude : Nat) : Nat := format.exponentField magnitude - 1

/-- The units of a finite magnitude word. -/
def units (format : Format) (magnitude : Nat) : Nat :=
  let hidden := if format.exponentField magnitude = 0 then 0 else Word.bound format.fractionBits
  (hidden + format.fractionField magnitude) * Nat.pow 2 (format.spacing magnitude)

/-- What a word stands for. -/
def decode (format : Format) (word : Nat) : Datum :=
  let negative := format.signWord ≤ word
  let magnitude := word % format.signWord
  if magnitude < format.infinityWord then .finite negative (format.units magnitude)
  else if magnitude = format.infinityWord then .infinite negative
  else .nan

/-- A word with the given sign and magnitude. -/
def signed (format : Format) (negative : Bool) (magnitude : Nat) : Nat :=
  if negative then format.signWord + magnitude else magnitude

/-- The quotient of two numbers, rounded to the nearest whole number, a tie to the even one. -/
def roundedQuotient (numerator denominator : Nat) : Nat :=
  let quotient := numerator / denominator
  let twice := 2 * (numerator % denominator)
  if denominator < twice ∨ twice = denominator ∧ quotient % 2 = 1 then quotient + 1 else quotient

/-- The magnitude word nearest to a nonnegative rational, a tie to the even fraction; what rounds
beyond the largest number becomes infinite. -/
def nearest (format : Format) (numerator denominator : Nat) : Nat :=
  let scaled := numerator * format.one
  -- One bit more than the fraction field is left of the significand. A carry out of rounding it
  -- moves on into the exponent field by itself.
  let excess := (scaled / denominator).log2 - format.fractionBits
  let significand := roundedQuotient scaled (denominator * Nat.pow 2 excess)
  min (excess * Word.bound format.fractionBits + significand) format.infinityWord

end Format

/-! ## Decimals and binary formats

A finite word is written with the fewest decimal digits that read back as the same word, and of
those decimals as the one nearest to its value. A decimal is read as the word nearest to it. -/

/-- The number `digits * 10 ^ exponent`. -/
structure Decimal where
  /-- The digits as one whole number. -/
  digits : Nat
  /-- The power of ten that scales it. -/
  exponent : Int
  deriving Repr, DecidableEq

/-- Which of two equally near decimals is taken. -/
inductive Tie where
  /-- The larger one. -/
  | up
  /-- The one whose last digit is even. -/
  | even
  deriving Repr, DecidableEq

/-- Split trailing zeros off a positive whole number, at most the given count. -/
def Decimal.trim : Nat → Decimal → Decimal
  | 0, decimal => decimal
  | count + 1, decimal =>
    if decimal.digits % 10 = 0 then trim count ⟨decimal.digits / 10, decimal.exponent + 1⟩
    else decimal

/-- A quotient scaled by a power of ten, as numerator and denominator. -/
def scaleByTen (numerator denominator : Nat) (exponent : Int) : Nat × Nat :=
  if 0 ≤ exponent then (numerator * Nat.pow 10 exponent.toNat, denominator)
  else (numerator, denominator * Nat.pow 10 (-exponent).toNat)

/-- Multiply by ten until the quotient reaches one: how often that takes, at most the fuel. -/
def zerosBelow (denominator : Nat) : (fuel : Nat) → (numerator : Nat) → Nat
  | 0, _ => 0
  | fuel + 1, numerator =>
    if denominator ≤ numerator then 0 else zerosBelow denominator fuel (10 * numerator) + 1

/-- The exponent of the leading decimal digit of a positive quotient. -/
def leadingExponent (numerator denominator : Nat) : Int :=
  if denominator ≤ numerator then ((Nat.toDigits 10 (numerator / denominator)).length : Int) - 1
  else -(zerosBelow denominator denominator.log2.succ numerator : Int)

namespace Format

/-- The numbers that read back as one word, over a common denominator. -/
structure Basin where
  /-- The lower end. -/
  low : Nat
  /-- The word's own value. -/
  value : Nat
  /-- The upper end. -/
  high : Nat
  /-- What all three are divided by. -/
  denominator : Nat
  /-- Whether the ends read back as the word too. -/
  closed : Bool

/-- The basin of a finite positive magnitude word. It reaches half way to each neighbour, and the
neighbour below a power of two is only half as far away as the one above. -/
def basin (format : Format) (magnitude : Nat) : Basin :=
  let step := Nat.pow 2 (format.spacing magnitude)
  let value := 4 * format.units magnitude
  let narrow := format.fractionField magnitude = 0 ∧ 1 < format.exponentField magnitude
  { low := value - (if narrow then step else 2 * step)
    value := value
    high := value + 2 * step
    denominator := 4 * format.one
    closed := format.fractionField magnitude % 2 = 0 }

/-- Whether a decimal on the grid of a power of ten lies in a basin scaled to that grid. -/
def Basin.holds (basin : Basin) (point : Nat) : Bool :=
  let scaled := point * basin.denominator
  if basin.closed then basin.low ≤ scaled && scaled ≤ basin.high
  else basin.low < scaled && scaled < basin.high

/-- A basin in multiples of a power of ten. -/
def Basin.scale (basin : Basin) (exponent : Int) : Basin :=
  let (factor, denominator) := scaleByTen 1 basin.denominator (-exponent)
  { basin with
    low := basin.low * factor
    value := basin.value * factor
    high := basin.high * factor
    denominator := denominator }

/-- The grid point nearest to the value of a basin, if the basin holds one. Of the two points
around the value the nearer one is taken, and `tie` decides between equally near ones. -/
def Basin.nearestPoint (tie : Tie) (basin : Basin) : Option Nat :=
  let below := basin.value / basin.denominator
  let twice := 2 * (basin.value % basin.denominator)
  let upper := basin.denominator < twice ∨ twice = basin.denominator ∧
    (tie = .up ∨ below % 2 = 1)
  match basin.holds below, basin.holds (below + 1) with
  | true, true => some (if upper then below + 1 else below)
  | true, false => some below
  | false, true => some (below + 1)
  | false, false => none

/-- The first grid, from coarse to fine, on which a basin holds a point. -/
def Basin.search (tie : Tie) (basin : Basin) : (fuel : Nat) → (exponent : Int) → Decimal
  | 0, exponent => ⟨basin.value, exponent⟩
  | fuel + 1, exponent =>
    match (basin.scale exponent).nearestPoint tie with
    | some point => Decimal.trim fuel ⟨point, exponent⟩
    | none => search tie basin fuel (exponent - 1)

/-- The shortest decimal that reads back as a finite positive magnitude word. -/
def shortest (format : Format) (tie : Tie) (magnitude : Nat) : Decimal :=
  let basin := format.basin magnitude
  basin.search tie (format.fractionBits + 2) (leadingExponent basin.value basin.denominator)

/-- The magnitude word nearest to a decimal. Decimals far beyond either end of the format are
settled by the place of their leading digit. -/
def ofDecimal (format : Format) (decimal : Decimal) : Nat :=
  if decimal.digits = 0 then 0
  else
    let places := decimal.exponent + ((Nat.toDigits 10 decimal.digits).length : Int)
    if (Word.bound format.exponentBits : Int) < places then format.infinityWord
    else if places < -(format.unitExponent : Int) then 0
    else
      let (numerator, denominator) := scaleByTen decimal.digits 1 decimal.exponent
      format.nearest numerator denominator

end Format

/-- Zeros. -/
def zeros (count : Nat) : List Char := List.replicate count '0'

/-- A decimal in positional notation, without an exponent and without a needless point. -/
def Decimal.positional (decimal : Decimal) : List Char :=
  let digits := Nat.toDigits 10 decimal.digits
  let before := (digits.length : Int) + decimal.exponent
  if 0 ≤ decimal.exponent then digits ++ zeros decimal.exponent.toNat
  else if 0 < before then digits.take before.toNat ++ '.' :: digits.drop before.toNat
  else '0' :: '.' :: (zeros (-before).toNat ++ digits)

/-! ## Reading floating-point text

An optional sign, and then either a name of an infinity or of the value that is not a number, in
any letter case, or digits with an optional point and an optional exponent. At least one digit
stands before or after the point, and at least one in an exponent. -/

/-- Decimal digits at the front of text, and the text after them. -/
def spanDigits (text : List Char) : List Char × List Char := text.span Char.isDigit

/-- The number that decimal digits stand for; none stand for zero. -/
def digitsValue (text : List Char) : Nat := (Text.digits? 10 text).getD 0

/-- The exponent behind a significand. No text at all is the exponent zero. -/
def readExponent : List Char → Option Int
  | [] => some 0
  | mark :: text =>
    if mark ≠ 'e' ∧ mark ≠ 'E' then none
    else
      match text with
      | '-' :: rest => (Text.digits? 10 rest).map fun magnitude => -(magnitude : Int)
      | '+' :: rest => (Text.digits? 10 rest).map Int.ofNat
      | _ => (Text.digits? 10 text).map Int.ofNat

/-- A decimal without a sign. -/
def readDecimal (text : List Char) : Option Decimal := do
  let (whole, rest) := spanDigits text
  let (fraction, rest) :=
    match rest with
    | '.' :: rest => spanDigits rest
    | _ => ([], rest)
  if whole = [] ∧ fraction = [] then none
  else
    let exponent ← readExponent rest
    some ⟨digitsValue (whole ++ fraction), exponent - fraction.length⟩

/-- The magnitude word that text without a sign stands for. The value that is not a number has
only the first bit of its fraction set. -/
def readMagnitude (format : Format) (text : List Char) : Option Nat :=
  let lower := text.map Char.toLower
  if lower = "inf".toList ∨ lower = "infinity".toList then some format.infinityWord
  else if lower = "nan".toList then
    some (format.infinityWord + Nat.pow 2 (format.fractionBits - 1))
  else (readDecimal text).map format.ofDecimal

/-- The word that text stands for. -/
def Format.read (format : Format) : List Char → Option Nat
  | '-' :: text => (readMagnitude format text).map (format.signed true)
  | '+' :: text => readMagnitude format text
  | text => readMagnitude format text

/-! ## Writing floating-point text

Two texts of a word: the positional one that people read, and the one of a data interchange
document, which may carry an exponent and always shows that the number is no integer. -/

/-- The positional text of a word: its shortest decimal without an exponent. A tie between two
shortest decimals goes up. -/
def Format.positional (format : Format) (word : Nat) : String :=
  match format.decode word with
  | .nan => "NaN"
  | .infinite negative => if negative then "-inf" else "inf"
  | .finite negative units =>
    let sign := if negative then "-" else ""
    if units = 0 then sign ++ "0"
    else
      sign ++ String.ofList (format.shortest .up (word % format.signWord)).positional

/-- The text of an exponent: its sign and at least two digits. -/
def exponentText (exponent : Int) : List Char :=
  let digits := Nat.toDigits 10 exponent.natAbs
  (if exponent < 0 then '-' else '+') :: (zeros (2 - digits.length) ++ digits)

/-- The text of a positive decimal in an interchange document. Leading digits at the places from
`10 ^ -5` to `10 ^ 15` are written positionally, and a whole number ends in `.0`. -/
def Decimal.interchange (decimal : Decimal) : List Char :=
  let digits := Nat.toDigits 10 decimal.digits
  let leading := (digits.length : Int) + decimal.exponent - 1
  if -5 ≤ leading ∧ leading ≤ 15 then
    if 0 ≤ decimal.exponent then decimal.positional ++ ".0".toList else decimal.positional
  else
    match digits with
    | [] => []
    | [digit] => digit :: 'e' :: exponentText leading
    | digit :: rest => digit :: '.' :: (rest ++ 'e' :: exponentText leading)

/-- The text of a word in an interchange document, which has no text for what is not a finite
number. A tie between two shortest decimals goes to the even one. -/
def Format.interchange? (format : Format) (word : Nat) : Option String :=
  match format.decode word with
  | .nan | .infinite _ => none
  | .finite negative units =>
    let sign := if negative then "-" else ""
    if units = 0 then some (sign ++ "0.0")
    else
      some (sign ++ String.ofList (format.shortest .even (word % format.signWord)).interchange)

end Multidrop.Floating
