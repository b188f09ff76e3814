import Multidrop.Basic
import Multidrop.Text
import Multidrop.Value

/-!
# Subframes

The records inside a frame payload and their bytes, and what can be wrong with a payload.
-/
namespace Multidrop.Subframe

/-! ## Faults of payloads

Why the subframes of a payload cannot be told apart, or cannot stand together. -/

/-- What is wrong with a known subframe or with the payload around it. -/
inductive Flaw where
  | tag
  | register
  | registerCount
  | registerRange
  | valueTruncated
  | valuesTruncated
  | errorCode
  | channel
  | byteCount
  | dataTruncated
  /-- A reply holds a subframe that only requests have. -/
  | requestInReply
  /-- A request holds a subframe that only replies have. -/
  | replyInRequest
  /-- The values asked for need more room than a reply has. -/
  | replyTooSmall
  /-- A tunnel subframe shares its frame with others. -/
  | tunnelNotAlone
  deriving Repr, DecidableEq

/-- The text of a flaw. -/
def Flaw.message : Flaw → String
  | .tag => "bad type tag"
  | .register => "bad register"
  | .registerCount => "bad register count"
  | .registerRange => "register range overflows"
  | .valueTruncated => "value truncated"
  | .valuesTruncated => "values truncated"
  | .errorCode => "bad error code"
  | .channel => "bad channel"
  | .byteCount => "bad byte count"
  | .dataTruncated => "tunnel data truncated"
  | .requestInReply => "request subframe in reply"
  | .replyInRequest => "reply subframe in request"
  | .replyTooSmall => "read results cannot fit in one reply"
  | .tunnelNotAlone => "tunnel subframe must be alone in its frame"

/-- Why a payload cannot be taken apart or acted on. -/
inductive Error where
  /-- A tag that names no form; everything before its offset is sound. -/
  | unknown (tag : UInt32) (offset : Nat)
  /-- A known subframe that is truncated or inconsistent, or one that may not stand there. -/
  | malformed (offset : Nat) (flaw : Flaw)
  deriving Repr, DecidableEq

/-- The text of a payload fault. -/
def Error.message : Error → String
  | .unknown tag offset =>
    "unknown subframe type " ++ Text.hex 2 tag.toNat ++ s!" at offset {offset}"
  | .malformed offset flaw => s!"malformed subframe at offset {offset}: " ++ flaw.message

end Multidrop.Subframe

/-! ## The records of a payload

The typed records packed back to back inside a frame payload. Each begins with a tag that names its
form; the tags of the register forms come in groups of four, one for each kind of value. Requests
travel from a master to a node, replies the other way. -/

namespace Multidrop

/-- What a tag names: a form of subframe, with the kind of its values where it has one. -/
inductive Form where
  | writeSingle (kind : Kind)
  | writeMultiple (kind : Kind)
  | readSingle (kind : Kind)
  | readMultiple (kind : Kind)
  | replySingle (kind : Kind)
  | replyMultiple (kind : Kind)
  | writeError
  | readError
  | clientToServer
  | serverToClient
  deriving Repr, DecidableEq

namespace Form

/-- The number of a form on the wire. -/
def number : Form → Nat
  | .writeSingle kind => 0x10 + kind.index
  | .writeMultiple kind => 0x14 + kind.index
  | .readSingle kind => 0x18 + kind.index
  | .readMultiple kind => 0x1c + kind.index
  | .replySingle kind => 0x20 + kind.index
  | .replyMultiple kind => 0x24 + kind.index
  | .writeError => 0x28
  | .readError => 0x29
  | .clientToServer => 0x40
  | .serverToClient => 0x41

/-- The tag of a form. -/
def tag (form : Form) : UInt32 := .ofNat form.number

/-- The form that a number names. -/
def ofNumber? (number : Nat) : Option Form :=
  match number / 4, number % 4 with
  | 4, place => (Kind.ofIndex? place).map writeSingle
  | 5, place => (Kind.ofIndex? place).map writeMultiple
  | 6, place => (Kind.ofIndex? place).map readSingle
  | 7, place => (Kind.ofIndex? place).map readMultiple
  | 8, place => (Kind.ofIndex? place).map replySingle
  | 9, place => (Kind.ofIndex? place).map replyMultiple
  | 10, 0 => some writeError
  | 10, 1 => some readError
  | 16, 0 => some clientToServer
  | 16, 1 => some serverToClient
  | _, _ => none

/-- The form that a tag names. -/
def ofTag? (tag : UInt32) : Option Form := ofNumber? tag.toNat

end Form

/-- One record of a payload. -/
inductive Subframe where
  /-- Set one register. -/
  | writeSingle (register : Register) (value : Value)
  /-- Set consecutive registers. -/
  | writeMultiple (start : Register) (values : Packed)
  /-- Ask for one register in a kind. -/
  | readSingle (register : Register) (kind : Kind)
  /-- Ask for consecutive registers in a kind. -/
  | readMultiple (start : Register) (count : UInt32) (kind : Kind)
  /-- The value of one register. -/
  | replySingle (register : Register) (value : Value)
  /-- The values of consecutive registers. -/
  | replyMultiple (start : Register) (values : Packed)
  /-- A register that could not be set, and why. -/
  | writeError (register : Register) (code : UInt32)
  /-- A register that could not be read, and why. -/
  | readError (register : Register) (code : UInt32)
  /-- Bytes for a tunnel channel, and a request for the channel's own. -/
  | clientToServer (channel : UInt32) (data : List UInt8)
  /-- The bytes that a tunnel channel had queued. -/
  | serverToClient (channel : UInt32) (data : List UInt8)
  deriving Repr, DecidableEq

namespace Subframe

/-- The form of a subframe. -/
def form : Subframe → Form
  | .writeSingle _ value => .writeSingle value.kind
  | .writeMultiple _ values => .writeMultiple values.kind
  | .readSingle _ kind => .readSingle kind
  | .readMultiple _ _ kind => .readMultiple kind
  | .replySingle _ value => .replySingle value.kind
  | .replyMultiple _ values => .replyMultiple values.kind
  | .writeError .. => .writeError
  | .readError .. => .readError
  | .clientToServer .. => .clientToServer
  | .serverToClient .. => .serverToClient

/-- The tag that a subframe begins with. -/
def tag (subframe : Subframe) : UInt32 := subframe.form.tag

/-- Whether a subframe asks a node to read or write registers. -/
def isRegisterRequest : Subframe → Bool
  | .writeSingle .. | .writeMultiple .. | .readSingle .. | .readMultiple .. => true
  | _ => false

/-- Whether a subframe asks a node to read registers. -/
def isRead : Subframe → Bool
  | .readSingle .. | .readMultiple .. => true
  | _ => false

/-- Whether a subframe carries tunnel bytes in either direction. -/
def isTunnel : Subframe → Bool
  | .clientToServer .. | .serverToClient .. => true
  | _ => false

/-- A count as it stands in a subframe. -/
def countField (count : Nat) : List UInt8 := Varuint.encode (.ofNat count)

/-- Bytes of a count in a subframe. -/
def countSize (count : Nat) : Nat := Varuint.size (.ofNat count)

/-- What follows the tag. -/
def body : Subframe → List UInt8
  | .writeSingle register value | .replySingle register value =>
    Varuint.encode register ++ value.encode
  | .writeMultiple start values | .replyMultiple start values =>
    Varuint.encode start ++ countField values.count ++ values.bytes
  | .readSingle register _ => Varuint.encode register
  | .readMultiple start count _ => Varuint.encode start ++ Varuint.encode count
  | .writeError register code | .readError register code =>
    Varuint.encode register ++ Varuint.encode code
  | .clientToServer channel data | .serverToClient channel data =>
    Varuint.encode channel ++ countField data.length ++ data

/-- A subframe as it stands in a payload. -/
def encode (subframe : Subframe) : List UInt8 := Varuint.encode subframe.tag ++ subframe.body

/-- Bytes of what follows the tag. -/
def bodySize : Subframe → Nat
  | .writeSingle register value | .replySingle register value =>
    Varuint.size register + value.kind.size
  | .writeMultiple start values | .replyMultiple start values =>
    Varuint.size start + countSize values.count + values.bytes.length
  | .readSingle register _ => Varuint.size register
  | .readMultiple start count _ => Varuint.size start + Varuint.size count
  | .writeError register code | .readError register code =>
    Varuint.size register + Varuint.size code
  | .clientToServer channel data | .serverToClient channel data =>
    Varuint.size channel + countSize data.length + data.length

/-- Bytes that a subframe occupies in a payload. -/
def size (subframe : Subframe) : Nat := Varuint.size subframe.tag + subframe.bodySize

end Subframe

end Multidrop
