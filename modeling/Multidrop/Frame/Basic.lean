import Multidrop.Basic
import Multidrop.Line
import Multidrop.Text

/-!
# Frames

Frames and their bytes, and what can be wrong with either.
-/
namespace Multidrop.Frame

/-! ## Faults of frames

Causes for which a frame is not written, not read or not accepted. Wire faults are those that bad
bytes cause; a receiver drops the bytes and goes on. -/

/-- Why a frame could not be sent, received or parsed. -/
inductive Error where
  /-- A node id that does not fit in seven bits. -/
  | invalidId (id : UInt8)
  /-- An outgoing payload above the configured limit. -/
  | payloadTooLarge (size limit : Nat)
  /-- An incoming frame that declares a payload above the receive limit. -/
  | receiveOverrun (size limit : Nat)
  /-- The checksum carried by a frame is not the one computed. -/
  | checksumMismatch (carried computed : UInt16)
  /-- The length field is not a number. -/
  | malformedLength (cause : Varuint.Error)
  /-- The first two bytes are not the header. -/
  | invalidHeader
  /-- Fewer bytes than the smallest frame has. -/
  | tooShort (size : Nat)
  /-- The length field disagrees with the bytes that are there. -/
  | lengthMismatch (declared actual : Nat)
  /-- The line failed. -/
  | line (fault : Fault)
  /-- The line ended before a frame was complete. -/
  | closed
  deriving Repr, DecidableEq

/-- The text of a frame fault. -/
def Error.message : Error → String
  | .invalidId id => s!"invalid node id {id.toNat} (max 127)"
  | .payloadTooLarge size limit => s!"payload too large ({size} bytes, max {limit})"
  | .receiveOverrun size limit => s!"receive overrun ({size} byte payload, max {limit})"
  | .checksumMismatch carried computed =>
    "checksum mismatch (frame carries " ++ Text.hex 4 carried.toNat ++ ", computed " ++
      Text.hex 4 computed.toNat ++ ")"
  | .malformedLength cause => "malformed varuint: " ++ cause.message
  | .invalidHeader => "invalid frame header (expected 0xab54)"
  | .tooShort size => s!"frame too short ({size} bytes)"
  | .lengthMismatch declared actual =>
    s!"payload length mismatch (declared {declared}, actual {actual})"
  | .line fault => "frame I/O error: " ++ fault.message
  | .closed => "connection closed (incomplete frame)"

/-- True for faults that bad bytes on the wire cause, rather than the line itself. -/
def Error.isWireFault : Error → Bool
  | .receiveOverrun .. | .checksumMismatch .. | .malformedLength _ | .invalidHeader
  | .tooShort _ | .lengthMismatch .. => true
  | .invalidId _ | .payloadTooLarge .. | .line _ | .closed => false

end Multidrop.Frame

/-! ## The layout of a frame

One addressed unit of bus traffic. On the wire a frame is the header `54 ab`, a source byte whose
high bit asks for a reply, a destination byte, the payload length as a varuint, the payload, and
the little-endian checksum of everything before it. -/

namespace Multidrop

/-- One addressed unit of bus traffic. -/
structure Frame where
  /-- The id of the sender. -/
  source : UInt8
  /-- Whether the sender asks for a reply. -/
  responseRequested : Bool := false
  /-- The id of the addressed node. -/
  destination : UInt8
  /-- Zero or more subframes. -/
  payload : List UInt8
  deriving Repr, DecidableEq

namespace Frame

/-- First byte of a frame. -/
def headerFirst : UInt8 := 0x54

/-- Second byte of a frame. -/
def headerSecond : UInt8 := 0xab

/-- Bytes before the length field: header, source and destination. -/
def headerSize : Nat := 4

/-- Bytes of the checksum field. -/
def checksumSize : Nat := 2

/-- The highest node id; ids have seven bits. -/
def maxId : UInt8 := 0x7f

/-- The bit of the source byte that asks for a reply. -/
def replyBit : UInt8 := 0x80

/-- The payload limit of a line that sets none. -/
def defaultLimit : Nat := 256

/-- The smallest frame: header, one length byte, no payload, checksum. -/
def minSize : Nat := headerSize + 1 + checksumSize

/-- The largest frame that carries a payload of the given size. -/
def maxSize (payload : Nat) : Nat := headerSize + Varuint.maxSize + payload + checksumSize

/-- Bytes that the frame occupies on the wire. -/
def wireSize (frame : Frame) : Nat :=
  headerSize + Varuint.size (.ofNat frame.payload.length) + frame.payload.length + checksumSize

/-- The frame up to its checksum. -/
def body (frame : Frame) : List UInt8 :=
  [headerFirst, headerSecond,
    if frame.responseRequested then frame.source ||| replyBit else frame.source,
    frame.destination] ++
  Varuint.encode (.ofNat frame.payload.length) ++ frame.payload

/-- A body followed by its checksum. -/
def withChecksum (body : List UInt8) : List UInt8 := body ++ Word.bytes16 (Checksum.ofBody body)

/-- The frame as it appears on the wire. Sources have seven bits, and the length field has 32. -/
def encode (frame : Frame) : Except Error (List UInt8) :=
  if maxId < frame.source then .error (.invalidId frame.source)
  else if Word.bound 32 ≤ frame.payload.length then
    .error (.payloadTooLarge frame.payload.length (Word.bound 32 - 1))
  else .ok (withChecksum frame.body)

/-- Append a frame to the bytes of a buffer. -/
def encodeOnto (buffer : List UInt8) (frame : Frame) : Except Error (List UInt8) := do
  let bytes ← frame.encode
  .ok (buffer ++ bytes)

/-- The frame as it appears on a line with a payload limit. The limit is looked at first. -/
def encodeWithin (limit : Nat) (frame : Frame) : Except Error (List UInt8) :=
  if limit < frame.payload.length then .error (.payloadTooLarge frame.payload.length limit)
  else frame.encode

/-- The frame with the given source byte, destination and payload. -/
def ofFields (source destination : UInt8) (payload : List UInt8) : Frame where
  source := source &&& maxId
  responseRequested := source &&& replyBit ≠ 0
  destination := destination
  payload := payload

/-- The word in the last two bytes. -/
def carried (trailer : List UInt8) : UInt16 :=
  match trailer with
  | [low, high] => Word.of16 low high
  | _ => 0

/-- Parse one complete, already delimited frame. The checksum is verified before any field is
looked at, so damage anywhere is reported as a mismatch. -/
def parse (bytes : List UInt8) : Except Error Frame := do
  if bytes.length < minSize then .error (.tooShort bytes.length)
  let content := bytes.take (bytes.length - checksumSize)
  let carried := carried (bytes.drop (bytes.length - checksumSize))
  let computed := Checksum.ofBody content
  if carried ≠ computed then .error (.checksumMismatch carried computed)
  match content with
  | first :: second :: source :: destination :: rest =>
    if first ≠ headerFirst ∨ second ≠ headerSecond then .error .invalidHeader
    match Varuint.read rest with
    | .error cause => .error (.malformedLength cause)
    | .ok (declared, payload) =>
      if declared.toNat ≠ payload.length then
        .error (.lengthMismatch declared.toNat payload.length)
      .ok (ofFields source destination payload)
  | _ => .error .invalidHeader

end Frame

end Multidrop
