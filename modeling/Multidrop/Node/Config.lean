import Multidrop.Basic
import Multidrop.Endpoint
import Multidrop.Frame.Basic

/-!
# Identity, counters and ends of a node

What a node keeps across restarts, what it counts, and why it fails or stops.
-/
namespace Multidrop

/-! ## Faults of nodes

Why a node could not be set up, or stopped serving its line. -/

/-- What is wrong with a configuration document. -/
inductive DocumentError where
  /-- The text ends too early. -/
  | unfinished
  /-- A character that may not stand at its place. -/
  | unexpected (character : Char)
  /-- A part that may not stand at its place. -/
  | misplaced
  /-- A field occurs twice. -/
  | repeated (field : String)
  /-- A field does not hold a number of eight bits. -/
  | notAnId
  /-- The document is neither an object nor a list of at most one element. -/
  | wrongShape
  /-- Text follows the document. -/
  | trailing
  deriving Repr, DecidableEq

/-- The text of a document fault. -/
def DocumentError.message : DocumentError → String
  | .unfinished => "unexpected end of the document"
  | .unexpected character => s!"unexpected character '{character}'"
  | .misplaced => "misplaced part of the document"
  | .repeated field => "duplicate field '" ++ field ++ "'"
  | .notAnId => "expected a number from 0 to 255"
  | .wrongShape => "expected a node configuration"
  | .trailing => "trailing characters"

/-- Why a node could not be set up or stopped. -/
inductive NodeError where
  /-- No line could be had. -/
  | transport (cause : TransportError)
  /-- A frame could not be moved. -/
  | frame (cause : Frame.Error)
  /-- An id that does not fit in seven bits. -/
  | invalidId (id : UInt8)
  /-- The configuration file could not be read or written. -/
  | storage (path : String) (fault : Fault)
  /-- The configuration file does not hold a configuration. -/
  | document (cause : DocumentError)
  /-- The line ended. -/
  | disconnected (reason : String)
  deriving Repr, DecidableEq

/-- The text of a node fault. -/
def NodeError.message : NodeError → String
  | .transport cause => "transport error: " ++ cause.message
  | .frame cause => "frame error: " ++ cause.message
  | .invalidId id => s!"invalid node id {id.toNat} (max 127)"
  | .storage path fault => "config file " ++ path ++ ": " ++ fault.message
  | .document cause => "json error: " ++ cause.message
  | .disconnected reason => "bus disconnected: " ++ reason

/-! ## Node configurations

What a node keeps across restarts, and the stores that keep it. -/

/-- The identity of a node on the bus. -/
structure NodeConfig where
  /-- The bus id. -/
  id : UInt8
  deriving Repr, DecidableEq

namespace NodeConfig

/-- The identity of a node that has none. -/
def default : NodeConfig := ⟨1⟩

/-- Admit a configuration whose id has seven bits. -/
def validate (config : NodeConfig) : Except NodeError NodeConfig :=
  if Frame.maxId < config.id then .error (.invalidId config.id) else .ok config

/-- The configuration with an id. -/
def ofId (id : UInt8) : Except NodeError NodeConfig := validate ⟨id⟩

end NodeConfig

/-- A store that keeps a configuration, and may fail to. -/
class ConfigStore (ω : Type) where
  /-- What is kept, if something is. -/
  load : ω → Except NodeError (Option NodeConfig) × ω
  /-- Keep a configuration. -/
  save : ω → NodeConfig → Except NodeError Unit × ω

/-- A store in memory. -/
structure MemoryStore where
  /-- What is kept. -/
  saved : Option NodeConfig := none
  deriving Repr, DecidableEq

instance : ConfigStore MemoryStore where
  load store := (.ok store.saved, store)
  save _ config := (.ok (), ⟨some config⟩)

/-! ## Counters

What a node or a master counts while it works. Counters stop at their largest value instead of
starting again. -/

/-- One more, unless the counter is full. -/
def bump (counter : UInt32) : UInt32 :=
  if counter.toNat + 1 < Word.bound 32 then counter + 1 else counter

/-- Counted faults. -/
structure Stats where
  /-- Frames for another node. -/
  wrongId : UInt32 := 0
  /-- Frames dropped for their checksum. -/
  checksumMismatch : UInt32 := 0
  /-- Frames that declared more than the receive limit. -/
  receiveOverrun : UInt32 := 0
  /-- Payloads with a subframe of an unknown form. -/
  unknownSubframe : UInt32 := 0
  /-- Replies without an answer that was asked for; counted by masters only. -/
  missingSubframe : UInt32 := 0
  /-- Payloads that were refused as a whole. -/
  malformedSubframe : UInt32 := 0
  /-- Replies with subframes left out. -/
  replyOverflow : UInt32 := 0
  deriving Repr, DecidableEq

namespace Stats

/-- The counters with their names, in order. -/
def rows (stats : Stats) : List (String × UInt32) :=
  [("wrong_id", stats.wrongId), ("checksum_mismatch", stats.checksumMismatch),
    ("receive_overrun", stats.receiveOverrun), ("unknown_subframe", stats.unknownSubframe),
    ("missing_subframe", stats.missingSubframe), ("malformed_subframe", stats.malformedSubframe),
    ("reply_overflow", stats.replyOverflow)]

/-- The sum of all counters. -/
def total (stats : Stats) : Nat := Multidrop.total (fun row => row.2.toNat) stats.rows

end Stats

/-! ## Ends of service

How a node that serves a line comes to stop. -/

/-- How serving a line ended. -/
inductive Ended where
  /-- The line was closed. -/
  | closed
  /-- The application asked to stop. -/
  | stopped
  /-- Nothing more arrives, but the line is not closed either. -/
  | waiting
  /-- The line failed. -/
  | failed (error : NodeError)
  deriving Repr, DecidableEq

/-- Serving ends well unless the line failed. -/
def Ended.result : Ended → Except NodeError Unit
  | .closed | .stopped | .waiting => .ok ()
  | .failed error => .error error

/-- The reason given when a line ends. -/
def endOfStream : String := "end of stream"

end Multidrop
