import Multidrop.Endpoint
import Multidrop.Master.Options
import Multidrop.Node.Config
import Multidrop.Value

/-!
# Orders

What a command line asks for, how the values in it are read, and with which status a command ends.
-/
namespace Multidrop.Command

/-! ## Orders and their options

What a command line asks for, with the values that its options have where they are left out. -/

/-- How results are written. -/
inductive OutputFormat where
  /-- One document per result. -/
  | json
  /-- A table with borders. -/
  | table
  /-- Lines of named values. -/
  | pretty
  /-- Nothing but the values. -/
  | raw
  deriving Repr, DecidableEq

/-- How a node is reached, for the orders that talk to one. -/
structure Link where
  /-- The endpoint of the bus. -/
  endpoint : String
  /-- The node asked. -/
  node : UInt8 := 1
  /-- How long to wait for each reply. -/
  timeout : String := "5s"
  /-- The id asked from. -/
  source : UInt8 := 0
  /-- Attempts after the first. -/
  retries : UInt32 := 0
  deriving Repr, DecidableEq

/-- Read consecutive registers. -/
structure ReadOrder where
  /-- How the node is reached. -/
  link : Link
  /-- The first register. -/
  start : Register
  /-- How many registers. -/
  count : UInt32 := 1
  /-- The kind they are read in. -/
  kind : Kind := .int32
  deriving Repr, DecidableEq

/-- Write consecutive registers. -/
structure WriteOrder where
  /-- How the node is reached. -/
  link : Link
  /-- The first register. -/
  start : Register
  /-- The values as they are written. -/
  values : List String
  /-- The kind of the values. -/
  kind : Kind := .int32
  deriving Repr, DecidableEq

/-- What a tunnel order sends. -/
inductive Sending where
  | nothing
  /-- These characters. -/
  | text (data : String)
  /-- What is in a file. -/
  | file (path : String)
  deriving Repr, DecidableEq

/-- Exchange bytes over a tunnel channel. -/
structure TunnelOrder where
  /-- How the node is reached. -/
  link : Link
  /-- The channel. -/
  channel : UInt32 := 0
  /-- What is sent. -/
  sending : Sending := .nothing
  /-- How many times the node is asked for more afterwards. -/
  polls : UInt32 := 1
  /-- How long to wait before asking for more. -/
  interval : String := "50ms"
  deriving Repr, DecidableEq

/-- Be a node. -/
structure ServeOrder where
  /-- The endpoint to listen on. -/
  endpoint : String
  /-- The id to take. -/
  id : Option UInt8 := none
  /-- The configuration file. -/
  config : Option String := none
  /-- The largest payload. -/
  bufferSize : Nat := 256
  /-- The number of tunnel slots. -/
  tunnels : Nat := 1
  /-- Whether tunnel bytes are sent back. -/
  echo : Bool := false
  /-- Definitions of registers that the bus may write. -/
  writable : List String := []
  /-- Definitions of registers that the bus may only read. -/
  readOnly : List String := []
  /-- How often counters are logged. -/
  statsInterval : Option String := none
  /-- Whether to stop after the first connection. -/
  once : Bool := false
  deriving Repr, DecidableEq

/-- What a command line asks for. -/
inductive Order where
  | serve (order : ServeOrder)
  | read (order : ReadOrder)
  | write (order : WriteOrder)
  | tunnel (order : TunnelOrder)
  /-- The version, and where it comes from if `extended`. -/
  | version (extended : Bool)
  deriving Repr, DecidableEq

/-! ## Failures of commands

The exit status of a command that fails, and the text that it fails with. The status tells causes
apart for scripts: a fault of a line or a file by its kind, a refusal by the node, bad data, and
wrong usage. -/

/-- The exit statuses. -/
inductive Status where
  | success
  | failure
  /-- The command line is not understood. -/
  | misuse
  /-- Nothing answers at the endpoint, or a file is missing. -/
  | unreachable
  /-- The node refused a part of the request. -/
  | refused
  | permissionDenied
  | invalidData
  /-- An argument has a wrong value. -/
  | usage
  | timedOut
  | internal
  deriving Repr, DecidableEq

/-- The number of a status. -/
def Status.code : Status → Nat
  | .success => 0
  | .failure => 1
  | .misuse => 2
  | .unreachable => 3
  | .refused => 4
  | .permissionDenied => 50
  | .invalidData => 60
  | .usage => 64
  | .timedOut => 124
  | .internal => 125

/-- Why a command fails. -/
structure Failure where
  /-- The exit status. -/
  status : Status
  /-- The text shown. -/
  message : String
  deriving Repr, DecidableEq

namespace Failure

/-- A failure while doing something. -/
def during (context : String) (status : Status) (message : String) : Failure :=
  ⟨status, context ++ ": " ++ message⟩

/-- The status of a fault of a line or a file. -/
def statusOfKind : Fault.Kind → Status
  | .permissionDenied => .permissionDenied
  | .timedOut | .wouldBlock => .timedOut
  | .connectionRefused | .notFound => .unreachable
  | _ => .internal

/-- A fault of a line or a file. -/
def ofFault (context : String) (fault : Fault) : Failure :=
  during context (statusOfKind fault.kind) fault.message

/-- A fault of a transport. Where a fault of the line is behind it, that one is shown alone. -/
def ofTransport (context : String) (error : TransportError) : Failure :=
  match error with
  | .bind _ fault | .connect _ fault | .accept fault | .line fault => ofFault context fault
  | .invalidEndpoint _ => during context .usage error.message
  | .pathTooLong .. | .unsupported _ => during context .unreachable error.message

/-- A fault of a frame. -/
def ofFrame (context : String) (error : Frame.Error) : Failure :=
  match error with
  | .line fault => ofFault context fault
  | .closed => during context .failure error.message
  | .payloadTooLarge .. | .invalidId _ => during context .invalidData error.message
  | .receiveOverrun .. | .checksumMismatch .. | .malformedLength _ | .invalidHeader
  | .tooShort _ | .lengthMismatch .. => during context .invalidData error.message

/-- A fault of a node. -/
def ofNode (context : String) (error : NodeError) : Failure :=
  match error with
  | .transport cause => ofTransport context cause
  | .frame cause => ofFrame context cause
  | .storage _ fault => ofFault context fault
  | .invalidId _ => during context .usage error.message
  | .document _ => during context .invalidData error.message
  | .disconnected _ => during context .failure error.message

/-- A fault of a master. -/
def ofMaster (context : String) (error : MasterError) : Failure :=
  match error with
  | .transport cause => ofTransport context cause
  | .frame cause => ofFrame context cause
  | .timeout _ => during context .timedOut error.message
  | .readFailed .. | .writeFailed .. => during context .refused error.message
  | .reply _ | .missingRegister _ | .missingTunnel _ => during context .invalidData error.message
  | .invalidId _ => during context .usage error.message
  | .disconnected _ => during context .failure error.message
  | .outstanding _ | .nothingOutstanding => during context .internal error.message

end Failure

/-! ## Values on the command line

Registers, register definitions, spans of time and endpoints as they are written in arguments.
Blank characters around a value, and around each part of a definition, do not count. -/

/-- The text of a register in base sixteen, without its mark, if it has one. -/
def afterHexMark? (text : List Char) : Option (List Char) :=
  Text.afterFront? ['0', 'x'] text <|> Text.afterFront? ['0', 'X'] text

/-- The register that trimmed text names, in base ten or, after a mark, in base sixteen. -/
def registerOf? (text : List Char) : Option Register :=
  let number :=
    match afterHexMark? text with
    | some digits => Text.natural? 16 (Word.bound 32) digits
    | none => Text.natural? 10 (Word.bound 32) text
  number.map UInt32.ofNat

/-- The register that text names. -/
def parseRegister (text : List Char) : Except String Register :=
  let trimmed := Text.trim text
  match registerOf? trimmed with
  | some register => .ok register
  | none => .error ("invalid register: " ++ String.ofList trimmed)

/-- The kind of a name. -/
def kindOf? (name : List Char) : Option Kind := Kind.ofName? (String.ofList (Text.trim name))

/-- The register and value of a definition: a register, a kind and a value. -/
def definitionOf? (text : List Char) : Option (Register × Value) := do
  let (register, typed) ← Text.splitFirst '=' text
  let (kind, value) ← Text.splitFirst ':' typed
  let register ← registerOf? (Text.trim register)
  let kind ← kindOf? kind
  let value ← kind.parseValue? value
  some (register, value)

/-- The register and value of a definition. -/
def parseDefinition (text : String) : Except Failure (Register × Value) :=
  match definitionOf? text.toList with
  | some definition => .ok definition
  | none => .error ⟨.usage, "invalid register definition: " ++ text⟩

/-- The milliseconds of one unit that trimmed text is written in, and the number before it. Text
without a unit is in seconds. -/
def splitUnit (text : List Char) : Nat × List Char :=
  match Text.beforeEnd? ['m', 's'] text with
  | some number => (1, number)
  | none => (1000, (Text.beforeEnd? ['s'] text).getD text)

/-- The milliseconds of a span of time. -/
def parseDuration (text : String) : Except Failure Nat :=
  let trimmed := Text.trim text.toList
  if trimmed.isEmpty then .error ⟨.usage, "duration must not be empty"⟩
  else
    let (unit, number) := splitUnit trimmed
    match Text.natural? 10 (Word.bound 64) number with
    | none => .error ⟨.usage, "invalid duration value: " ++ String.ofList trimmed⟩
    | some 0 => .error ⟨.usage, "duration must be greater than zero"⟩
    | some count => .ok (unit * count)

/-- The endpoint that text names. -/
def parseEndpoint (text : String) : Except Failure Endpoint :=
  (Endpoint.parse text).mapError (Failure.ofTransport "invalid endpoint")

end Multidrop.Command
