import Multidrop.Endpoint
import Multidrop.Frame.Basic
import Multidrop.Node.Config
import Multidrop.Register
import Multidrop.Reply
import Multidrop.Subframe.Basic
import Multidrop.Text

/-!
# Requests and masters

What masters ask for, what they have in common whichever line they use, and why a request fails.
-/
namespace Multidrop

/-! ## Faults of masters

Why a request was not sent, not answered, or answered with something else than was asked for. -/

/-- Why a request failed. -/
inductive MasterError where
  /-- No line could be had. -/
  | transport (cause : TransportError)
  /-- A frame could not be moved. -/
  | frame (cause : Frame.Error)
  /-- A reply to an earlier request is still expected. -/
  | outstanding (destination : UInt8)
  /-- No reply is expected. -/
  | nothingOutstanding
  /-- No reply came within a number of milliseconds. -/
  | timeout (span : Nat)
  /-- The line ended. -/
  | disconnected (reason : String)
  /-- The reply payload cannot be taken apart. -/
  | reply (cause : Subframe.Error)
  /-- The node refused to read a register. -/
  | readFailed (register : Register) (refusal : Refusal)
  /-- The node refused to write a register. -/
  | writeFailed (register : Register) (refusal : Refusal)
  /-- The reply does not mention a register that was asked for. -/
  | missingRegister (register : Register)
  /-- The reply does not mention the channel that was polled. -/
  | missingTunnel (channel : UInt32)
  /-- A node id that does not fit in seven bits. -/
  | invalidId (id : UInt8)
  deriving Repr, DecidableEq

namespace MasterError

/-- The text of a refused register operation. -/
def refusedText (verb : String) (register : Register) (refusal : Refusal) : String :=
  "node refused to " ++ verb ++ " register " ++ Text.hex 1 register.toNat ++
    s!" (code {refusal.code.toNat})"

/-- The text of a failed request. -/
def message : MasterError → String
  | .transport cause => "transport error: " ++ cause.message
  | .frame cause => "frame error: " ++ cause.message
  | .outstanding destination => s!"request to node {destination.toNat} is still awaiting a reply"
  | .nothingOutstanding => "no request is awaiting a reply"
  | .timeout span => "no reply after " ++ Text.duration span
  | .disconnected reason => "bus disconnected: " ++ reason
  | .reply cause => "bad reply: " ++ cause.message
  | .readFailed register refusal => refusedText "read" register refusal
  | .writeFailed register refusal => refusedText "write" register refusal
  | .missingRegister register => "reply is missing register " ++ Text.hex 1 register.toNat
  | .missingTunnel channel => s!"reply is missing tunnel channel {channel.toNat}"
  | .invalidId id => s!"invalid node id {id.toNat} (max 127)"

/-- Whether sending the same request again could help. -/
def isTransient : MasterError → Bool
  | .timeout _ => true
  | .frame cause => cause.isWireFault
  | _ => false

end MasterError

/-! ## Composing requests

A request payload is built step by step, and with it the list of what its reply has to answer. -/

/-- A request payload and the answers it asks for. -/
structure Request where
  /-- The subframes so far. -/
  payload : List UInt8 := []
  /-- The registers to be read, in the order asked for. -/
  reads : List Span := []
  /-- The channel of the last tunnel poll. -/
  tunnel : Option UInt32 := none
  deriving Repr, DecidableEq

namespace Request

/-- A request without subframes. -/
def empty : Request := {}

/-- Whether a request has no subframes. -/
def isEmpty (request : Request) : Bool := request.payload.isEmpty

/-- Add a subframe. -/
def push (subframe : Subframe) (request : Request) : Request :=
  { request with payload := request.payload ++ subframe.encode }

/-- Write one register. -/
def writeSingle (register : Register) (value : Value) (request : Request) : Request :=
  request.push (.writeSingle register value)

/-- Values as runs of one kind, each as long as possible. -/
def runs : List Value → List Packed
  | [] => []
  | value :: rest =>
    match runs rest with
    | [] => [.single value]
    | run :: later =>
      if same : run.kind = value.kind then
        ⟨value.kind, value.encode ++ run.bytes, by
          have whole := run.whole
          rw [List.length_append, Value.length_encode, Nat.add_mod_left, ← same]
          exact whole⟩ :: later
      else .single value :: run :: later

/-- Write runs of values, each behind the registers of those before it. -/
def writeRuns (start : Register) : List Packed → Request → Request
  | [], request => request
  | run :: rest, request =>
    writeRuns (start + .ofNat run.count) rest (request.push (.writeMultiple start run))

/-- Write consecutive registers. Neighbouring values of one kind share a subframe. -/
def writeMultiple (start : Register) (values : List Value) (request : Request) : Request :=
  writeRuns start (runs values) request

/-- Read one register in a kind. -/
def readSingle (register : Register) (kind : Kind) (request : Request) : Request :=
  { request.push (.readSingle register kind) with reads := request.reads ++ [⟨register, 1⟩] }

/-- Read consecutive registers in a kind. -/
def readMultiple (start : Register) (count : UInt32) (kind : Kind) (request : Request) :
    Request :=
  { request.push (.readMultiple start count kind) with
    reads := request.reads ++ [⟨start, count.toNat⟩] }

/-- Poll a tunnel channel, delivering bytes. A poll must be the only subframe of its request. -/
def pollTunnel (channel : UInt32) (data : List UInt8) (request : Request) : Request :=
  { request.push (.clientToServer channel data) with tunnel := some channel }

/-- Every register that the request reads, in order. -/
def readRegisters (request : Request) : List Register :=
  request.reads.flatMap Span.registers

end Request

/-! ## What masters have in common

The limits of a master, the rule by which it repeats a request, and the check that a reply answers
everything that was asked for. -/

/-- Limits of a master. -/
structure MasterOptions where
  /-- The id it sends from; replies are addressed to it. -/
  source : UInt8 := 0
  /-- The largest payload sent or accepted. -/
  bufferSize : Nat := 256
  /-- How many milliseconds it waits for a reply. -/
  timeout : Nat := 5000
  deriving Repr, DecidableEq

namespace MasterOptions

/-- Whether a payload may be sent to a destination. The destination is looked at first. -/
def check (options : MasterOptions) (destination : UInt8) (payload : List UInt8) :
    Except MasterError Unit :=
  if Frame.maxId < destination then .error (.invalidId destination)
  else if options.bufferSize < payload.length then
    .error (.frame (.payloadTooLarge payload.length options.bufferSize))
  else .ok ()

/-- Whether a frame is a reply of a node to this master. -/
def isReply (options : MasterOptions) (destination : UInt8) (frame : Frame) : Bool :=
  frame.source = destination && frame.destination = options.source

end MasterOptions

/-- When a failed request is sent again. -/
inductive Retry where
  /-- Never. -/
  | never
  /-- After transient faults, up to a number of attempts in all. -/
  | attempts (count : Nat)
  deriving Repr, DecidableEq

namespace Retry

/-- The number of attempts after which there is none. -/
def bound : Retry → Nat
  | .never => 0
  | .attempts count => count

/-- Whether there is another attempt after one that failed; the first has number one. -/
def again (retry : Retry) (attempt : Nat) (error : MasterError) : Bool :=
  attempt < retry.bound && error.isTransient

end Retry

namespace Request

/-- The first register asked for that a reply does not mention. -/
def missingRegister? (request : Request) (reply : Reply) : Option Register :=
  request.reads.findSome? (Span.find? fun register => (reply.readResult? register).isNone)

/-- The channel polled, if a reply does not mention it. -/
def missingTunnel? (request : Request) (reply : Reply) : Option UInt32 :=
  request.tunnel.filter fun channel => (reply.tunnelData? channel).isNone

/-- Count a reply that lacks an answer. -/
def countMissing (stats : Stats) : Stats :=
  { stats with missingSubframe := bump stats.missingSubframe }

/-- Take a reply payload apart and check that it answers every read and the poll of a request. -/
def validate (request : Request) (payload : List UInt8) (stats : Stats) :
    Except MasterError Reply × Stats :=
  match Reply.parse payload with
  | .error error => (.error (.reply error), stats)
  | .ok reply =>
    match request.missingRegister? reply with
    | some register => (.error (.missingRegister register), countMissing stats)
    | none =>
      match request.missingTunnel? reply with
      | some channel => (.error (.missingTunnel channel), countMissing stats)
      | none => (.ok reply, stats)

end Request

namespace Reply

/-- The value of a register in a reply, or why there is none. -/
def valueOf (reply : Reply) (register : Register) : Except MasterError Value :=
  match reply.readResult? register with
  | some (.ok value) => .ok value
  | some (.error refusal) => .error (.readFailed register refusal)
  | none => .error (.missingRegister register)

/-- No write was refused. -/
def confirmWrites (reply : Reply) : Except MasterError Unit :=
  match reply.writeErrors with
  | [] => .ok ()
  | (register, refusal) :: _ => .error (.writeFailed register refusal)

/-- The bytes of a channel in a reply. -/
def tunnelOf (reply : Reply) (channel : UInt32) : Except MasterError (List UInt8) :=
  match reply.tunnelData? channel with
  | some data => .ok data
  | none => .error (.missingTunnel channel)

end Reply

namespace Request

/-- The request that reads consecutive registers. -/
def toRead (start : Register) (count : UInt32) (kind : Kind) : Request :=
  if count = 1 then empty.readSingle start kind else empty.readMultiple start count kind

/-- The request that writes consecutive registers. -/
def toWrite (start : Register) (values : List Value) : Request :=
  match values with
  | [value] => empty.writeSingle start value
  | _ => empty.writeMultiple start values

/-- The request that polls a tunnel channel. -/
def toPoll (channel : UInt32) (data : List UInt8) : Request := empty.pollTunnel channel data

end Request

end Multidrop
