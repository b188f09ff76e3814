import Multidrop.Command.Basic
import Multidrop.Text

/-!
# Command lines

The arguments of a command, as any program reads them and as the order that they make up.
-/
namespace Multidrop.Command

/-! ## Grammars of arguments

Arguments are options, their values and words. An option is written in full after two dashes or,
where it has one, as a letter after one dash. Its value is the next argument, or stands behind an
equals sign or directly behind the letter. Two dashes alone end the options. The last word of an
open-ended grammar may be followed by any number of others; once the first of them has come,
everything is a word, and before that an argument with dashes that is no option is one too. -/

/-- How often an option may occur and whether it has a value. -/
inductive Shape where
  /-- It has no value. -/
  | flag
  /-- It has a value. -/
  | valued
  /-- It has a value and may be repeated. -/
  | repeatable
  /-- It ends the reading of arguments at once. -/
  | final (stop : Bool)
  deriving Repr, DecidableEq

/-- An option of a grammar. -/
structure Rule where
  /-- Its name. -/
  name : String
  /-- What it takes. -/
  shape : Shape := .valued
  /-- Its letter. -/
  letter : Option Char := none
  deriving Repr, DecidableEq

/-- What a command admits as arguments. -/
structure Grammar where
  /-- Its options. -/
  rules : List Rule
  /-- How many words it needs. -/
  words : Nat := 0
  /-- Whether more words may follow the last. -/
  openEnded : Bool := false
  deriving Repr, DecidableEq

/-- Why arguments give no order. -/
inductive Interruption where
  /-- They do not fit the grammar. -/
  | misuse
  /-- The version is asked for. -/
  | version
  /-- Help is asked for. -/
  | help
  deriving Repr, DecidableEq

/-- Arguments read so far. -/
structure Scan where
  /-- Options and their values, in order. -/
  given : List (String × String) := []
  /-- Words, in order. -/
  words : List String := []
  /-- The option whose value comes next. -/
  waiting : Option Rule := none
  /-- Whether the options have ended. -/
  escaped : Bool := false
  deriving Repr, DecidableEq

namespace Scan

/-- The value given to an option. -/
def value? (name : String) (scan : Scan) : Option String := scan.given.lookup name

/-- All values given to an option. -/
def values (name : String) (scan : Scan) : List String :=
  scan.given.filterMap fun (other, value) => if other = name then some value else none

/-- Whether a flag was given. -/
def has (name : String) (scan : Scan) : Bool := (scan.value? name).isSome

/-- Note an option with its value. Only some may be repeated. -/
def note (rule : Rule) (value : String) (scan : Scan) : Except Interruption Scan :=
  if scan.has rule.name && rule.shape ≠ .repeatable then .error .misuse
  else .ok { scan with given := scan.given ++ [(rule.name, value)], waiting := none }

/-- Note a word. -/
def word (grammar : Grammar) (text : String) (scan : Scan) : Except Interruption Scan :=
  if scan.words.length < grammar.words || grammar.openEnded then
    .ok { scan with words := scan.words ++ [text] }
  else .error .misuse

/-- An argument that is no option: the value that is waited for, or a word. -/
def plain (grammar : Grammar) (text : String) (scan : Scan) : Except Interruption Scan :=
  match scan.waiting with
  | some rule => scan.note rule text
  | none => scan.word grammar text

/-- An option with what stands behind it, if anything does. -/
def option (rule : Rule) (attached : Option String) (scan : Scan) : Except Interruption Scan :=
  if scan.waiting.isSome then .error .misuse
  else
    match rule.shape, attached with
    | .valued, some value | .repeatable, some value => scan.note rule value
    | .valued, none | .repeatable, none => .ok { scan with waiting := some rule }
    | .flag, none => scan.note rule ""
    | .final stop, none => .error (if stop then .version else .help)
    | .flag, some _ | .final _, some _ => .error .misuse

/-- Whether the next word is the last that the grammar needs, or comes after it. -/
def atTail (grammar : Grammar) (scan : Scan) : Bool :=
  grammar.openEnded && grammar.words ≤ scan.words.length + 1

/-- An argument after two dashes. -/
def long (grammar : Grammar) (text : String) (body : List Char) (scan : Scan) :
    Except Interruption Scan :=
  let (name, attached) :=
    match Text.splitFirst '=' body with
    | some (name, value) => (name, some (String.ofList value))
    | none => (body, none)
  match grammar.rules.find? fun rule => rule.name = String.ofList name with
  | some rule => scan.option rule attached
  | none => if scan.atTail grammar then scan.plain grammar text else .error .misuse

/-- The option of a letter. -/
def ruleOf? (grammar : Grammar) (letter : Char) : Option Rule :=
  grammar.rules.find? fun rule => rule.letter = some letter

/-- An argument after one dash. -/
def short (grammar : Grammar) (text : String) (letter : Char) (behind : List Char)
    (scan : Scan) : Except Interruption Scan :=
  if scan.atTail grammar && (letter :: behind).any fun other => (ruleOf? grammar other).isNone then
    scan.plain grammar text
  else
    match ruleOf? grammar letter, behind with
    | none, _ => .error .misuse
    | some rule, [] => scan.option rule none
    | some rule, '=' :: value => scan.option rule (some (String.ofList value))
    | some rule, value =>
      match rule.shape with
      | .final _ => scan.option rule none
      | .flag | .valued | .repeatable => scan.option rule (some (String.ofList value))

/-- The next argument. -/
def step (grammar : Grammar) (text : String) (scan : Scan) : Except Interruption Scan :=
  if scan.escaped || grammar.openEnded && grammar.words ≤ scan.words.length then
    scan.word grammar text
  else
    match text.toList with
    | ['-', '-'] =>
      if scan.waiting.isSome then .error .misuse else .ok { scan with escaped := true }
    | '-' :: '-' :: body => scan.long grammar text body
    | '-' :: letter :: behind => scan.short grammar text letter behind
    | _ => scan.plain grammar text

/-- All arguments of a command. None may be missing at the end. -/
def all (grammar : Grammar) (arguments : List String) : Except Interruption Scan := do
  let scan ← arguments.foldlM (fun scan text => scan.step grammar text) {}
  if scan.waiting.isSome || scan.words.length < grammar.words then .error .misuse else .ok scan

/-- The options in front of the first word, that word, and the arguments after it. -/
def untilWord (grammar : Grammar) (scan : Scan) :
    List String → Except Interruption (Scan × String × List String)
  | [] => .error .misuse
  | text :: rest => do
    let after ← scan.step { grammar with words := 1 } text
    match after.words with
    | [] => untilWord grammar after rest
    | word :: _ => if after.escaped then .error .misuse else .ok (scan, word, rest)

end Scan

/-! ## Reading the command line

The grammar of every command, and the order that its arguments give. Options that all commands
have may stand in front of the command's name too; one given behind the name counts more. -/

/-- What a command line gives: an order and how its results are written. -/
structure Invocation where
  /-- The order. -/
  order : Order
  /-- The format, if one is asked for. -/
  format : Option OutputFormat := none
  deriving Repr, DecidableEq

/-- A text read from an argument, or misuse. -/
def orMisuse {α : Type} : Option α → Except Interruption α
  | some value => .ok value
  | none => .error .misuse

/-- The output format of a name. -/
def OutputFormat.ofName? : String → Option OutputFormat
  | "json" => some .json
  | "table" => some .table
  | "pretty" => some .pretty
  | "raw" => some .raw
  | _ => none

/-- The names of log formats. -/
def logFormats : List String := ["text", "json"]

/-- The names of log levels. -/
def logLevels : List String := ["off", "error", "warn", "info", "debug", "trace"]

/-- The options that all commands have. -/
def sharedRules : List Rule :=
  [⟨"format", .valued, none⟩, ⟨"log-format", .valued, none⟩, ⟨"log-level", .valued, none⟩,
    ⟨"help", .final false, some 'h'⟩]

/-- What may stand in front of the name of a command. -/
def rootGrammar : Grammar := { rules := ⟨"version", .final true, some 'V'⟩ :: sharedRules }

/-- The options of orders that talk to a node. -/
def linkRules : List Rule :=
  [⟨"node", .valued, some 'n'⟩, ⟨"timeout", .valued, none⟩, ⟨"source-id", .valued, none⟩,
    ⟨"retries", .valued, none⟩] ++ sharedRules

/-- What the read command admits. -/
def readGrammar : Grammar :=
  { rules := ⟨"count", .valued, some 'c'⟩ :: ⟨"kind", .valued, some 'k'⟩ :: linkRules, words := 2 }

/-- What the write command admits. -/
def writeGrammar : Grammar :=
  { rules := ⟨"kind", .valued, some 'k'⟩ :: linkRules, words := 3, openEnded := true }

/-- What the tunnel command admits. -/
def tunnelGrammar : Grammar :=
  { rules := [⟨"channel", .valued, none⟩, ⟨"data", .valued, none⟩, ⟨"file", .valued, none⟩,
      ⟨"polls", .valued, none⟩, ⟨"interval", .valued, none⟩] ++ linkRules, words := 1 }

/-- What the serve command admits. -/
def serveGrammar : Grammar :=
  { rules := [⟨"id", .valued, none⟩, ⟨"config", .valued, none⟩, ⟨"buffer-size", .valued, none⟩,
      ⟨"tunnels", .valued, none⟩, ⟨"tunnel-echo", .flag, none⟩, ⟨"define", .repeatable, none⟩,
      ⟨"read-only", .repeatable, none⟩, ⟨"stats-interval", .valued, none⟩,
      ⟨"once", .flag, none⟩] ++ sharedRules, words := 1 }

/-- What the version command admits. -/
def versionGrammar : Grammar := { rules := ⟨"extended", .flag, none⟩ :: sharedRules }

namespace Scan

/-- A whole number below a bound. A sign in front is admitted if the number is in range. -/
def below (bound : Nat) (text : String) : Except Interruption Nat :=
  let half : Int := Word.bound 63
  orMisuse <| (Text.integer? (-half) (half - 1) text.toList).bind fun value =>
    if 0 ≤ value ∧ value < bound then some value.toNat else none

/-- The value of an option, read in some way, or the one it has where it is left out. -/
def read {α : Type} (name : String) (fallback : α) (parse : String → Except Interruption α)
    (scan : Scan) : Except Interruption α :=
  match scan.value? name with
  | some text => parse text
  | none => .ok fallback

/-- The value of an option of eight bits. -/
def byte (text : String) : Except Interruption UInt8 := (below (Word.bound 8) text).map UInt8.ofNat

/-- The value of an option of 32 bits. -/
def count (text : String) : Except Interruption UInt32 := (below (Word.bound 32) text).map UInt32.ofNat

/-- The value of an option that says how much room there is. -/
def size (text : String) : Except Interruption Nat :=
  orMisuse (Text.natural? 10 (Word.bound 64) text.toList)

/-- The value of an option that names a kind. -/
def kind (text : String) : Except Interruption Kind := orMisuse (Kind.ofName? text)

/-- The value of an option that is a path. -/
def path (text : String) : Except Interruption (Option String) :=
  if text.isEmpty then .error .misuse else .ok (some text)

/-- The format asked for. -/
def format (scan : Scan) : Except Interruption (Option OutputFormat) := do
  let known (name : String) (names : List String) : Except Interruption Unit :=
    scan.read name () fun text => if text ∈ names then .ok () else .error .misuse
  known "log-format" logFormats
  known "log-level" logLevels
  scan.read "format" none fun text => do return some (← orMisuse (OutputFormat.ofName? text))

/-- How a node is reached. -/
def link (endpoint : String) (scan : Scan) : Except Interruption Link := do
  return {
    endpoint
    node := ← scan.read "node" 1 byte
    timeout := ← scan.read "timeout" "5s" .ok
    source := ← scan.read "source-id" 0 byte
    retries := ← scan.read "retries" 0 count }

/-- The first register of an order. -/
def register (text : String) : Except Interruption Register :=
  (parseRegister text.toList).mapError fun _ => .misuse

/-- What a tunnel order sends. Characters and a file exclude each other. -/
def sending (scan : Scan) : Except Interruption Sending := do
  match scan.value? "data", scan.value? "file" with
  | none, none => return .nothing
  | some data, none => return .text data
  | none, some file =>
    match ← path file with
    | some file => return .file file
    | none => return .nothing
  | some _, some _ => .error .misuse

/-- The order of a read command. -/
def readOrder (scan : Scan) : Except Interruption Order := do
  match scan.words with
  | [endpoint, start] =>
    return .read {
      link := ← scan.link endpoint
      start := ← register start
      count := ← scan.read "count" 1 count
      kind := ← scan.read "kind" .int32 kind }
  | _ => .error .misuse

/-- The order of a write command. -/
def writeOrder (scan : Scan) : Except Interruption Order := do
  match scan.words with
  | endpoint :: start :: values =>
    return .write {
      link := ← scan.link endpoint
      start := ← register start
      values
      kind := ← scan.read "kind" .int32 kind }
  | _ => .error .misuse

/-- The order of a tunnel command. -/
def tunnelOrder (scan : Scan) : Except Interruption Order := do
  match scan.words with
  | [endpoint] =>
    return .tunnel {
      link := ← scan.link endpoint
      channel := ← scan.read "channel" 0 count
      sending := ← scan.sending
      polls := ← scan.read "polls" 1 count
      interval := ← scan.read "interval" "50ms" .ok }
  | _ => .error .misuse

/-- The order of a serve command. -/
def serveOrder (scan : Scan) : Except Interruption Order := do
  match scan.words with
  | [endpoint] =>
    return .serve {
      endpoint
      id := ← scan.read "id" none fun text => do return some (← byte text)
      config := ← scan.read "config" none path
      bufferSize := ← scan.read "buffer-size" 256 size
      tunnels := ← scan.read "tunnels" 1 size
      echo := scan.has "tunnel-echo"
      writable := scan.values "define"
      readOnly := scan.values "read-only"
      statsInterval := scan.value? "stats-interval"
      once := scan.has "once" }
  | _ => .error .misuse

/-- The order of a version command. -/
def versionOrder (scan : Scan) : Except Interruption Order :=
  .ok (.version (scan.has "extended"))

end Scan

/-- The grammar of a command, and the order that its arguments give. -/
def command? : String → Option (Grammar × (Scan → Except Interruption Order))
  | "read" => some (readGrammar, Scan.readOrder)
  | "write" => some (writeGrammar, Scan.writeOrder)
  | "tunnel" => some (tunnelGrammar, Scan.tunnelOrder)
  | "serve" => some (serveGrammar, Scan.serveOrder)
  | "version" => some (versionGrammar, Scan.versionOrder)
  | _ => none

/-- What arguments after the word help come to: help, if they name at most one command. -/
def helpOn : List String → Interruption
  | [] => .help
  | [name] => if (command? name).isSome then .help else .misuse
  | _ => .misuse

/-- What a command line gives. -/
def parse (arguments : List String) : Except Interruption Invocation := do
  let (root, name, rest) ← Scan.untilWord rootGrammar {} arguments
  let general ← root.format
  if name = "help" then .error (helpOn rest)
  let (grammar, order) ← orMisuse (command? name)
  let scan ← Scan.all grammar rest
  let format ← scan.format
  return { order := ← order scan, format := format <|> general }

end Multidrop.Command
