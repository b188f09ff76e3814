import Multidrop.Basic
import Multidrop.Register
import Multidrop.Subframe.Basic
import Multidrop.Subframe.Walk

/-!
# Replies

Reply payloads from both sides: what a master takes one apart into, and how a node composes one
within a limit.
-/
namespace Multidrop

/-! ## Reading replies

What a reply payload says, one item for each register or channel. A register may be mentioned more
than once; its first mention counts. -/

/-- One piece of information in a reply. -/
inductive Reply.Item where
  | value (register : Register) (value : Value)
  | readError (register : Register) (code : UInt32)
  | writeError (register : Register) (code : UInt32)
  | tunnel (channel : UInt32) (data : List UInt8)
  deriving Repr, DecidableEq

/-- A parsed reply payload. -/
structure Reply where
  /-- The items in order. -/
  items : List Reply.Item
  deriving Repr, DecidableEq

namespace Reply

/-- The items of values of consecutive registers. -/
def valueItems (start : Register) (values : List Value) : List Item :=
  values.mapIdx fun place value => .value (start + .ofNat place) value

/-- The items of a subframe; requests have none. -/
def itemsOf : Subframe → Option (List Item)
  | .replySingle register value => some [.value register value]
  | .replyMultiple start values => some (valueItems start values.values)
  | .readError register code => some [.readError register code]
  | .writeError register code => some [.writeError register code]
  | .serverToClient channel data => some [.tunnel channel data]
  | .writeSingle .. | .writeMultiple .. | .readSingle .. | .readMultiple ..
  | .clientToServer .. => none

/-- The items of subframes in order. Requests are not valid in a reply. -/
def gather : List Subframe → Except Subframe.Error (List Item)
  | [] => .ok []
  | subframe :: rest =>
    match itemsOf subframe with
    | none => .error (.malformed 0 .requestInReply)
    | some items => do
      let more ← gather rest
      .ok (items ++ more)

/-- Take a reply payload apart. -/
def parse (payload : List UInt8) : Except Subframe.Error Reply := do
  let contents := Subframe.Contents.ofPayload payload
  let items ← gather contents.subframes
  match contents.stop with
  | some error => .error error
  | none => .ok ⟨items⟩

/-- Whether a reply says nothing. -/
def isEmpty (reply : Reply) : Bool := reply.items.isEmpty

/-- What an item says about reading a register. -/
def Item.readResult? (register : Register) : Item → Option (Except Refusal Value)
  | .value other found => if other = register then some (.ok found) else none
  | .readError other code => if other = register then some (.error ⟨code⟩) else none
  | .writeError .. | .tunnel .. => none

/-- The outcome of reading a register, if the reply mentions it. -/
def readResult? (reply : Reply) (register : Register) : Option (Except Refusal Value) :=
  reply.items.findSome? (Item.readResult? register)

/-- The refused writes in order. -/
def writeErrors (reply : Reply) : List (Register × Refusal) :=
  reply.items.filterMap fun
    | .writeError register code => some (register, ⟨code⟩)
    | _ => none

/-- The bytes returned on a channel, if the reply mentions it. -/
def tunnelData? (reply : Reply) (channel : UInt32) : Option (List UInt8) :=
  reply.items.findSome? fun
    | .tunnel other data => if other = channel then some data else none
    | _ => none

end Reply

end Multidrop

/-! ## Writing replies

A reply payload has a limit. Subframes that would pass it are left out and counted. Values of
consecutive registers in one kind are gathered into a run, which is written as one subframe once
something else follows or the run would outgrow the room that is left. -/

namespace Multidrop.Reply

/-- Values of consecutive registers that have not been written yet. -/
structure Run where
  /-- The register of the first value. -/
  start : Register
  /-- The values. -/
  values : Packed
  deriving DecidableEq

/-- The subframe of a run. A run of one value is a single reply. -/
def Run.subframe (run : Run) : Subframe :=
  match run.values.values with
  | [value] => .replySingle run.start value
  | _ => .replyMultiple run.start run.values

/-- A payload in the making. -/
structure Writer where
  /-- The most bytes that the payload may have. -/
  limit : Nat
  /-- The subframes written so far. -/
  payload : List UInt8 := []
  /-- The run that follows them. -/
  run : Option Run := none
  /-- How many subframes were left out. -/
  omitted : Nat := 0
  deriving DecidableEq

namespace Writer

/-- Bytes that the payload may still grow by. -/
def remaining (writer : Writer) : Nat := writer.limit - writer.payload.length

@[simp]
theorem remaining_empty (limit : Nat) : ({ limit } : Writer).remaining = limit := rfl

/-- Write a subframe if it fits. -/
def append (subframe : Subframe) (writer : Writer) : Writer :=
  if writer.limit < writer.payload.length + subframe.size then
    { writer with omitted := writer.omitted + 1 }
  else { writer with payload := writer.payload ++ subframe.encode }

/-- Write the run, if there is one. -/
def flush (writer : Writer) : Writer :=
  match writer.run with
  | none => writer
  | some run => { writer with run := none }.append run.subframe

@[simp]
theorem flush_empty (limit : Nat) : ({ limit } : Writer).flush = { limit } := rfl

/-- Write a subframe behind the run. -/
def push (subframe : Subframe) (writer : Writer) : Writer := writer.flush.append subframe

/-- Whether a run with one more value still fits into the room that is left. -/
def hasRoom (writer : Writer) (run : Run) (kind : Kind) : Bool :=
  1 + Varuint.size run.start + Subframe.countSize (run.values.count + 1) +
    run.values.bytes.length + kind.size ≤ writer.remaining

/-- Add the value of a register, to the run where it continues it and to a new one elsewhere. -/
def pushValue (register : Register) (value : Value) (writer : Writer) : Writer :=
  let fresh := { writer.flush with run := some ⟨register, .single value⟩ }
  match writer.run with
  | none => fresh
  | some run =>
    if same : value.kind = run.values.kind then
      if run.start.toNat + run.values.count = register.toNat ∧ writer.hasRoom run value.kind then
        { writer with run := some { run with values := run.values.push value same } }
      else fresh
    else fresh

/-- Add a refused read. -/
def pushReadError (register : Register) (refusal : Refusal) (writer : Writer) : Writer :=
  writer.push (.readError register refusal.code)

/-- Add a refused write. -/
def pushWriteError (register : Register) (refusal : Refusal) (writer : Writer) : Writer :=
  writer.push (.writeError register refusal.code)

/-- Tunnel bytes of a channel that fit behind their header. The header is sized for the largest
count that the room admits. -/
def tunnelCapacity (channel : UInt32) (writer : Writer) : Nat :=
  let room := writer.remaining
  room - (1 + Varuint.size channel + Varuint.size (.ofNat (min room (Word.bound 32 - 1))))

/-- Whether a tunnel subframe with a number of bytes fits. -/
def tunnelFits (channel : UInt32) (size : Nat) (writer : Writer) : Bool :=
  1 + Varuint.size channel + Subframe.countSize size + size ≤ writer.remaining

/-- The payload with the run written. -/
def finish (writer : Writer) : Writer := writer.flush

end Writer

end Multidrop.Reply
