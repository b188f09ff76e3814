import Multidrop.Frame.Duplex
import Multidrop.Master.Options

/-!
# Masters on duplex streams

The asking side of the bus on a duplex stream. A request owns the master until it is answered or
has waited for as long as the master waits, so none is ever outstanding between two calls. Where
nothing more has arrived, the rest of the wait passes at once.
-/
namespace Multidrop

/-- A master on a duplex stream. -/
structure StreamingMaster (π : Type) where
  /-- The stream. -/
  duplex : Frame.Duplex π
  /-- Its limits. -/
  options : MasterOptions
  /-- Whether a reply may still come for a request that was given up on. -/
  stale : Bool := false
  /-- Replies that lacked an answer. -/
  stats : Stats := {}

namespace StreamingMaster

variable {π : Type}

/-- A master that has sent nothing. -/
def ofLine (line : Line π) (options : MasterOptions) : StreamingMaster π where
  duplex := .ofLine options.bufferSize line
  options := options

/-- Write a frame. -/
def post [Peer π] (frame : Frame) (master : StreamingMaster π) :
    Except MasterError Unit × StreamingMaster π :=
  let (sent, duplex) := master.duplex.send frame
  (sent.mapError .frame, { master with duplex })

/-- Send one frame that asks for no reply. -/
def send [Peer π] (destination : UInt8) (payload : List UInt8) (master : StreamingMaster π) :
    Except MasterError Unit × StreamingMaster π :=
  match master.options.check destination payload with
  | .error error => (.error error, master)
  | .ok () => master.post { source := master.options.source, destination, payload }

/-- Drop what has arrived already, failed reads included. -/
def dropLate (duplex : Frame.Duplex π) : Frame.Duplex π :=
  match h : duplex.next with
  | (.item _, after) | (.failed _, after) =>
    have := Frame.Duplex.weight_next_lt h rfl
    dropLate after
  | (.ended, after) | (.pending, after) => after
termination_by duplex.weight

/-- Drop late frames where there may be some. -/
def freshen (master : StreamingMaster π) : StreamingMaster π :=
  if master.stale then { master with duplex := dropLate master.duplex, stale := false }
  else master

/-- Wait for the reply of a node. Frames of other nodes and for other masters are skipped, and so
are damaged frames and noise. -/
def await (destination : UInt8) (master : StreamingMaster π) :
    Except MasterError Frame × StreamingMaster π :=
  match h : master.duplex.next with
  | (.pending, duplex) =>
    (.error (.timeout master.options.timeout), { master with duplex, stale := true })
  | (.ended, duplex) => (.error (.disconnected "end of stream"), { master with duplex })
  | (.failed kind, duplex) => (.error (.frame (.line ⟨kind, none⟩)), { master with duplex })
  | (.item item, duplex) =>
    have := Frame.Duplex.weight_next_lt h rfl
    match item with
    | .frame frame =>
      if master.options.isReply destination frame then (.ok frame, { master with duplex })
      else await destination { master with duplex }
    | .rejected _ | .discarded _ => await destination { master with duplex }
termination_by master.duplex.weight

/-- Send a request and wait for its reply. -/
def request [Peer π] (destination : UInt8) (payload : List UInt8) (master : StreamingMaster π) :
    Except MasterError Frame × StreamingMaster π :=
  match master.options.check destination payload with
  | .error error => (.error error, master)
  | .ok () =>
    let frame : Frame :=
      { source := master.options.source, responseRequested := true, destination, payload }
    match master.freshen.post frame with
    | (.error error, master) => (.error error, master)
    | (.ok (), master) => master.await destination

/-- Send a composed request and check that the reply answers all of it. -/
def query [Peer π] (destination : UInt8) (request : Request) (master : StreamingMaster π) :
    Except MasterError Reply × StreamingMaster π :=
  match master.request destination request.payload with
  | (.error error, master) => (.error error, master)
  | (.ok frame, master) =>
    let (reply, stats) := request.validate frame.payload master.stats
    (reply, { master with stats })

end StreamingMaster

end Multidrop
