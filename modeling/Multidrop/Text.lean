/-!
# Text

Characters and numbers in text, and taking text apart. Nothing here knows what a text is about.
-/
namespace Multidrop.Text

/-! ## Blank characters

The characters of the Unicode property `White_Space`, and text without them at its ends. -/

/-- The ranges of the property, each with its first and last code point. -/
def blankRanges : List (Nat × Nat) :=
  [(0x09, 0x0d), (0x20, 0x20), (0x85, 0x85), (0xa0, 0xa0), (0x1680, 0x1680), (0x2000, 0x200a),
    (0x2028, 0x2029), (0x202f, 0x202f), (0x205f, 0x205f), (0x3000, 0x3000)]

/-- Whether a character is blank. -/
def isBlank (character : Char) : Bool :=
  blankRanges.any fun (first, last) => first ≤ character.toNat && character.toNat ≤ last

/-- Text without blank characters in front. -/
def trimStart (text : List Char) : List Char := text.dropWhile isBlank

/-- Text without blank characters at either end. -/
def trim (text : List Char) : List Char := (trimStart (trimStart text).reverse).reverse

/-! ## Taking text apart

Fronts and ends of text, and its two parts around a separator. -/

/-- The text after a given front, if it has that front. -/
def afterFront? : (front text : List Char) → Option (List Char)
  | [], text => some text
  | _ :: _, [] => none
  | first :: front, character :: text =>
    if first = character then afterFront? front text else none

/-- The text before a given end, if it has that end. -/
def beforeEnd? (ending text : List Char) : Option (List Char) :=
  (afterFront? ending.reverse text.reverse).map List.reverse

/-- The parts before and after the first separator. -/
def splitFirst (separator : Char) : List Char → Option (List Char × List Char)
  | [] => none
  | character :: text =>
    if character = separator then some ([], text)
    else (splitFirst separator text).map fun (before, after) => (character :: before, after)

/-- The parts before and after the last separator. -/
def splitLast (separator : Char) (text : List Char) : Option (List Char × List Char) :=
  (splitFirst separator text.reverse).map fun (after, before) => (before.reverse, after.reverse)

/-- Whether a piece stands somewhere in a text. -/
def contains (piece : List Char) : List Char → Bool
  | [] => piece.isEmpty
  | character :: text => piece.isPrefixOf (character :: text) || contains piece text

/-! ## Whole numbers in text

Digits of a base with an optional sign. A number outside the range that is asked for is refused,
never wrapped. -/

/-- The value of a digit of any base up to sixteen, in either letter case. -/
def digitValue? (character : Char) : Option Nat :=
  if '0' ≤ character ∧ character ≤ '9' then some (character.toNat - '0'.toNat)
  else if 'a' ≤ character ∧ character ≤ 'f' then some (character.toNat - 'a'.toNat + 10)
  else if 'A' ≤ character ∧ character ≤ 'F' then some (character.toNat - 'A'.toNat + 10)
  else none

/-- The value of a digit of a base. -/
def digitOf? (base : Nat) (character : Char) : Option Nat :=
  (digitValue? character).filter (· < base)

/-- The number that digits stand for behind digits already read. -/
def digitsFrom? (base : Nat) : (sum : Nat) → List Char → Option Nat
  | sum, [] => some sum
  | sum, character :: text => do
    let digit ← digitOf? base character
    digitsFrom? base (base * sum + digit) text

/-- The number that one or more digits stand for. -/
def digits? (base : Nat) : List Char → Option Nat
  | [] => none
  | text => digitsFrom? base 0 text

/-- A number without a minus sign, below a bound. -/
def natural? (base bound : Nat) (text : List Char) : Option Nat :=
  let magnitude :=
    match text with
    | '+' :: rest => digits? base rest
    | _ => digits? base text
  magnitude.filter (· < bound)

/-- A decimal number with an optional sign, within a closed range. -/
def integer? (low high : Int) (text : List Char) : Option Int :=
  let value :=
    match text with
    | '+' :: rest => (digits? 10 rest).map Int.ofNat
    | '-' :: rest => (digits? 10 rest).map fun magnitude => -(magnitude : Int)
    | _ => (digits? 10 text).map Int.ofNat
  value.filter fun number => low ≤ number && number ≤ high

/-! ## Hexadecimal text

Numbers written in base sixteen with lowercase digits. -/

/-- The lowercase digits of a number, padded with zeros to a least width. -/
def hexDigits (width value : Nat) : String :=
  let digits := Nat.toDigits 16 value
  String.ofList (List.replicate (width - digits.length) '0' ++ digits)

/-- A number after the mark of base sixteen, with at least the given digits. -/
def hex (width value : Nat) : String := "0x" ++ hexDigits width value

/-! ## Spans of time in text

Spans below a second are written in milliseconds, longer ones in seconds with as many decimal
places as they need. -/

/-- The places of a part of a second, without the zeros behind its last digit. -/
def secondPlaces (milliseconds : Nat) : List Char :=
  let digits := Nat.toDigits 10 milliseconds
  let places := List.replicate (3 - digits.length) '0' ++ digits
  (places.reverse.dropWhile (· = '0')).reverse

/-- The text of a span given in milliseconds. -/
def duration (milliseconds : Nat) : String :=
  if milliseconds = 0 then "0ns"
  else if milliseconds < 1000 then s!"{milliseconds}ms"
  else
    let places := secondPlaces (milliseconds % 1000)
    let fraction := if places = [] then [] else '.' :: places
    toString (milliseconds / 1000) ++ String.ofList fraction ++ "s"

end Multidrop.Text
