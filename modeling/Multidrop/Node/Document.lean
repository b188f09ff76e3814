import Multidrop.Node.Config
import Multidrop.Text

/-!
# Configuration documents

A node's configuration is kept as a JSON document. The document is taken apart into tokens, and what
is not asked for in it is passed over.
-/
namespace Multidrop.Json

/-! ## Tokens of JSON documents

A JSON document taken apart into brackets, separators, strings, numbers and words. A string keeps
its escapes, since a code unit that is half of a pair is no fault where the string is passed over.
-/

/-- The two sorts of brackets. -/
inductive Bracket where
  | list
  | object
  deriving Repr, DecidableEq

/-- One piece of a string. -/
inductive Piece where
  /-- A character, written as itself or with a short escape. -/
  | plain (character : Char)
  /-- An escaped code unit of sixteen bits. -/
  | unit (code : Nat)
  deriving Repr, DecidableEq

/-- One token. -/
inductive Token where
  | opening (bracket : Bracket)
  | closing (bracket : Bracket)
  | comma
  | colon
  | string (pieces : List Piece)
  /-- A number, with its value if it is written as a whole number without a sign. -/
  | number (natural : Option Nat)
  /-- One of the words for truth values and for nothing. -/
  | word
  deriving Repr, DecidableEq

/-- The blank characters between tokens. -/
def isBlank (character : Char) : Bool :=
  character = ' ' || character = '\t' || character = '\n' || character = '\r'

/-- The character of a short escape. -/
def shortEscape? : Char → Option Char
  | '"' => some '"'
  | '\\' => some '\\'
  | '/' => some '/'
  | 'b' => some '\x08'
  | 'f' => some '\x0c'
  | 'n' => some '\n'
  | 'r' => some '\r'
  | 't' => some '\t'
  | _ => none

/-- The pieces of a string up to its closing quote, and the text after it. -/
def pieces : List Char → Except DocumentError (List Piece × List Char)
  | [] => .error .unfinished
  | '"' :: rest => .ok ([], rest)
  | '\\' :: 'u' :: first :: second :: third :: fourth :: rest => do
    match Text.digitsFrom? 16 0 [first, second, third, fourth] with
    | none => .error (.unexpected 'u')
    | some code =>
      let (more, after) ← pieces rest
      .ok (.unit code :: more, after)
  | '\\' :: escape :: rest => do
    match shortEscape? escape with
    | none => .error (.unexpected escape)
    | some character =>
      let (more, after) ← pieces rest
      .ok (.plain character :: more, after)
  | character :: rest => do
    if character = '\\' then .error .unfinished
    else if character.toNat < 0x20 then .error (.unexpected character)
    else
      let (more, after) ← pieces rest
      .ok (.plain character :: more, after)

/-- One or more digits, and the text after them. -/
def digits (text : List Char) : Except DocumentError (List Char × List Char) :=
  match text.span Char.isDigit with
  | ([], rest) => .error (rest.head?.elim .unfinished .unexpected)
  | found => .ok found

/-- The text after the decimal places of a number, if it has any. -/
def afterPlaces : List Char → Except DocumentError (List Char)
  | '.' :: rest => (digits rest).map Prod.snd
  | text => .ok text

/-- The text after the exponent of a number, if it has one. -/
def afterExponent : List Char → Except DocumentError (List Char)
  | 'e' :: rest | 'E' :: rest =>
    match rest with
    | '+' :: more | '-' :: more => (digits more).map Prod.snd
    | _ => (digits rest).map Prod.snd
  | text => .ok text

/-- A number without a sign in front, and the text after it. Only a lone zero starts with zero. -/
def unsigned (text : List Char) : Except DocumentError (Option Nat × List Char) := do
  let (whole, rest) ← digits text
  if whole.head? = some '0' ∧ whole ≠ ['0'] then .error (.unexpected '0')
  else
    let after ← afterExponent (← afterPlaces rest)
    let natural := if after.length = rest.length then Text.digits? 10 whole else none
    .ok (natural, after)

/-- The words of JSON. -/
def words : List (List Char) := ["null", "true", "false"].map String.toList

/-- The token in front of text that is not blank there, and the text after it. -/
def token (character : Char) (rest : List Char) : Except DocumentError (Token × List Char) :=
  match character with
  | '[' => .ok (.opening .list, rest)
  | ']' => .ok (.closing .list, rest)
  | '{' => .ok (.opening .object, rest)
  | '}' => .ok (.closing .object, rest)
  | ',' => .ok (.comma, rest)
  | ':' => .ok (.colon, rest)
  | '"' => (pieces rest).map fun (found, after) => (.string found, after)
  | '-' => (unsigned rest).map fun (_, after) => (.number none, after)
  | _ =>
    if character.isDigit then
      (unsigned (character :: rest)).map fun (natural, after) => (.number natural, after)
    else
      match words.find? fun word => word.isPrefixOf (character :: rest) with
      | some word => .ok (.word, rest.drop (word.length - 1))
      | none => .error (.unexpected character)

/-- The tokens of text of at most a given length. -/
def tokensWithin : (length : Nat) → List Char → Except DocumentError (List Token)
  | 0, _ | _, [] => .ok []
  | length + 1, character :: rest => do
    if isBlank character then tokensWithin length rest
    else
      let (found, after) ← token character rest
      .ok (found :: (← tokensWithin length after))

/-- The tokens of text. Every token takes a character, so there are no more than characters. -/
def tokens (text : List Char) : Except DocumentError (List Token) := tokensWithin text.length text

/-- The text of a string, unless it has a code unit that is half of a pair. -/
def text? : List Piece → Option (List Char)
  | [] => some []
  | .plain character :: rest => (text? rest).map (character :: ·)
  | .unit code :: rest =>
    if 0xdc00 ≤ code ∧ code ≤ 0xdfff then none
    else if 0xd800 ≤ code ∧ code ≤ 0xdbff then
      match rest with
      | .unit second :: more =>
        if 0xdc00 ≤ second ∧ second ≤ 0xdfff then
          let scalar := 0x10000 + (code - 0xd800) * 0x400 + (second - 0xdc00)
          (text? more).map (Char.ofNat scalar :: ·)
        else none
      | _ => none
    else (text? rest).map (Char.ofNat code :: ·)

/-! ## Passing over JSON values

A value whose content does not matter still has to be well formed. It is walked token by token
with the brackets that are open, so values of any depth can be passed over. -/

/-- What may come next in a value that is passed over. -/
inductive Due where
  /-- A value. -/
  | value
  /-- The first item of a list, or its end. -/
  | firstItem
  /-- The name of a field. -/
  | name
  /-- The first name of an object, or its end. -/
  | firstName
  /-- The colon after a name. -/
  | colon
  /-- A comma, or the end of what is open. -/
  | separator
  deriving Repr, DecidableEq

/-- How far a value is. -/
inductive Progress where
  /-- It is complete. -/
  | complete
  /-- This may come next, with these brackets open. -/
  | going (due : Due) (brackets : List Bracket)
  deriving Repr, DecidableEq

namespace Progress

/-- A value inside the open brackets is complete. -/
def afterValue (brackets : List Bracket) : Progress :=
  if brackets.isEmpty then complete else going .separator brackets

/-- A bracket opens. -/
def opened (bracket : Bracket) (brackets : List Bracket) : Progress :=
  match bracket with
  | .list => going .firstItem (bracket :: brackets)
  | .object => going .firstName (bracket :: brackets)

/-- A bracket closes, if it is the innermost. -/
def closed? (bracket : Bracket) (brackets : List Bracket) : Option Progress :=
  if brackets.head? = some bracket then some (afterValue brackets.tail) else none

end Progress

/-- How a token moves on, if it may stand where it does. -/
def Due.step? (due : Due) (brackets : List Bracket) (token : Token) : Option Progress :=
  match due, token with
  | .value, .string _ | .value, .number _ | .value, .word
  | .firstItem, .string _ | .firstItem, .number _ | .firstItem, .word =>
    some (.afterValue brackets)
  | .value, .opening bracket | .firstItem, .opening bracket => some (.opened bracket brackets)
  | .firstItem, .closing bracket | .firstName, .closing bracket
  | .separator, .closing bracket => Progress.closed? bracket brackets
  | .name, .string _ | .firstName, .string _ => some (.going .colon brackets)
  | .colon, .colon => some (.going .value brackets)
  | .separator, .comma =>
    some (.going (if brackets.head? = some .object then .name else .value) brackets)
  | _, _ => none

/-- The tokens after a value that has come so far. -/
def passFrom (due : Due) (brackets : List Bracket) :
    List Token → Except DocumentError (List Token)
  | [] => .error .unfinished
  | token :: rest =>
    match due.step? brackets token with
    | none => .error .misplaced
    | some .complete => .ok rest
    | some (.going due brackets) => passFrom due brackets rest

/-- The tokens after the value in front. -/
def pass (tokens : List Token) : Except DocumentError (List Token) := passFrom .value [] tokens

/-- A value has at least one token. -/
theorem length_passFrom_lt {due : Due} {brackets : List Bracket} {tokens rest : List Token}
    (h : passFrom due brackets tokens = .ok rest) : rest.length < tokens.length := by
  fun_induction passFrom due brackets tokens with
  | case1 => cases h
  | case2 => cases h
  | case3 =>
    cases h
    simp
  | case4 _ _ _ _ _ _ _ ih =>
    have := ih h
    simp only [List.length_cons]
    omega

end Multidrop.Json

/-! ## Configurations in documents

A node's configuration as a JSON document: an object whose field `id` is the node's id, or a list
of at most that number. A document without an id stands for the identity of a node that has none.
Fields of other names are passed over. -/

namespace Multidrop.NodeConfig

open Json

/-- The id that a token is. -/
def idOf : Token → Except DocumentError UInt8
  | .number (some value) => if value < 256 then .ok (.ofNat value) else .error .notAnId
  | _ => .error .notAnId

/-- The id among the fields from a name on, after one that may have been found, and the tokens
after the object. -/
def readFields (found : Option UInt8) (tokens : List Token) :
    Except DocumentError (Option UInt8 × List Token) :=
  match tokens with
  | .string pieces :: .colon :: value =>
    match text? pieces with
    | none => .error .misplaced
    | some name =>
      if name = ['i', 'd'] then
        if found.isSome then .error (.repeated "id")
        else
          match value with
          | [] => .error .unfinished
          | token :: after =>
            match idOf token, after with
            | .error error, _ => .error error
            | .ok id, .closing .object :: rest => .ok (some id, rest)
            | .ok id, .comma :: more => readFields (some id) more
            | .ok _, _ => .error .misplaced
      else
        match h : pass value with
        | .error error => .error error
        | .ok (.closing .object :: rest) => .ok (found, rest)
        | .ok (.comma :: more) =>
          have shorter := length_passFrom_lt h
          have : more.length + 1 < value.length := shorter
          readFields found more
        | .ok _ => .error .misplaced
  | _ => .error .misplaced
termination_by tokens.length

/-- The id in a document, if it has one, and the tokens after it. -/
def readDocument : List Token → Except DocumentError (Option UInt8 × List Token)
  | [] => .error .unfinished
  | .opening .object :: .closing .object :: rest => .ok (none, rest)
  | .opening .object :: fields => readFields none fields
  | .opening .list :: .closing .list :: rest => .ok (none, rest)
  | .opening .list :: item :: .closing .list :: rest => do
    .ok (some (← idOf item), rest)
  | _ => .error .wrongShape

/-- The configuration in the text of a document. -/
def ofText (text : String) : Except DocumentError NodeConfig := do
  match ← readDocument (← tokens text.toList) with
  | (id, []) => .ok (id.elim default NodeConfig.mk)
  | _ => .error .trailing

/-- The document of a configuration. -/
def toText (config : NodeConfig) : String :=
  "\x7b\n  \"id\": " ++ toString config.id.toNat ++ "\n\x7d\n"

end Multidrop.NodeConfig
