import Multidrop.Frame.Reader
import Multidrop.Frame.Writer
import Multidrop.Line
import Multidrop.Node.Basic
import Multidrop.Node.Config

/-!
# Stations

A node at work with its registers and its receive buffer, by itself and on a line.
-/
namespace Multidrop

/-! ## Received bytes

A node together with its application's registers and the bytes it has received. Received bytes are
turned into handled frames one at a time. -/

/-- A node at work. -/
structure Station (σ : Type) where
  /-- The node. -/
  node : Node
  /-- The application's registers. -/
  registers : σ
  /-- Bytes received that no frame has consumed. -/
  buffer : List UInt8 := []

/-- What came of looking for one frame. -/
inductive Received where
  /-- No complete frame yet. -/
  | incomplete
  /-- A frame, or a damaged one, was consumed and needs no answer. -/
  | handled
  /-- A frame was consumed; these bytes are its answer. -/
  | reply (bytes : List UInt8)
  deriving Repr, DecidableEq

/-- The bytes that an answer has. -/
def Received.reply? : Received → Option (List UInt8)
  | .reply bytes => some bytes
  | .incomplete | .handled => none

namespace Station

variable {σ : Type}

/-- Add received bytes. -/
def feed (bytes : List UInt8) (station : Station σ) : Station σ :=
  { station with buffer := station.buffer ++ bytes }

/-- Handle one frame of those received, or find that more bytes are needed. -/
def receive (service : RegisterService σ) (station : Station σ) : Received × Station σ :=
  let pass := Frame.pass station.node.options.bufferSize station.buffer
  let node := { station.node with phase := .accumulating }.capture pass.skipped
  match pass.outcome with
  | .incomplete =>
    let phase := if pass.rest = [] then .idle else .accumulating
    (.incomplete, { station with node := { node with phase }, buffer := pass.rest })
  | .fault error =>
    (.handled, { station with node := node.recordFault error, buffer := pass.rest })
  | .frame frame =>
    let handled := node.process service frame station.registers
    (handled.reply.elim .handled .reply,
      { node := handled.node, registers := handled.registers, buffer := pass.rest })

/-- Note that the last reply has been written. -/
def replySent (station : Station σ) : Station σ :=
  { station with node := station.node.replySent }

/-- Looking for a frame keeps or takes bytes of the buffer. -/
theorem buffer_receive (service : RegisterService σ) (station : Station σ) :
    (station.receive service).2.buffer =
      (Frame.pass station.node.options.bufferSize station.buffer).rest := by
  unfold receive
  dsimp only
  split <;> rfl

/-- A handled frame takes at least one byte. -/
theorem length_buffer_receive_lt {service : RegisterService σ} {station : Station σ}
    (h : (station.receive service).1 ≠ .incomplete) :
    (station.receive service).2.buffer.length < station.buffer.length := by
  rw [buffer_receive]
  apply Frame.length_pass_rest_lt
  intro incomplete
  apply h
  unfold receive
  dsimp only
  rw [incomplete]

/-- Handle everything received so far, noting each reply as written and letting the application
do its upkeep after each frame. Returns what came of each. -/
def settle (service : RegisterService σ) (upkeep : Node → Node) (station : Station σ) :
    List Received × Station σ :=
  match h : station.receive service with
  | (.incomplete, after) => ([], after)
  | (received, after) =>
    if found : received = .incomplete then ([], after)
    else
      have : after.buffer.length < station.buffer.length := by
        have := @length_buffer_receive_lt _ service station
        rw [h] at this
        exact this found
      let after := after.replySent
      let (more, last) := settle service upkeep { after with node := upkeep after.node }
      (received :: more, last)
termination_by station.buffer.length

end Station

/-- A station at the far end of a line. It handles every frame as soon as its bytes are there. -/
structure Attended (σ : Type) where
  /-- What the registers do. -/
  service : RegisterService σ
  /-- What the application does after each frame. -/
  upkeep : Node → Node := id
  /-- The station. -/
  station : Station σ

instance {σ : Type} : Peer (Attended σ) where
  answer attended bytes :=
    let (received, station) :=
      (attended.station.feed bytes).settle attended.service attended.upkeep
    ((received.filterMap Received.reply?).map Arrival.data, { attended with station := station })

end Multidrop

/-! ## Stations on a line

A station that reads its bytes from a line and writes its answers to it. Bytes left over when the
line ends are dropped. A read that timed out loses nothing: the station goes on where it was. -/

namespace Multidrop

/-- A station attached to a line. -/
structure Linked (σ : Type) where
  /-- The station. -/
  station : Station σ
  /-- Its line. -/
  line : Line Script

/-- Whether a fault only says that nothing arrived in time. -/
def NodeError.isIdle : NodeError → Bool
  | .frame (.line fault) => fault.kind.isIdle
  | _ => false

namespace Linked

variable {σ τ : Type}

/-- Send bytes as they are. -/
def sendRaw (bytes : List UInt8) (linked : Linked σ) : Except NodeError Unit × Linked σ :=
  let writer : Frame.Writer Script :=
    { limit := linked.station.node.options.bufferSize, line := linked.line }
  let (sent, writer) := writer.sendRaw bytes
  (sent.mapError .frame, { linked with line := writer.line })

/-- Handle one frame, or one damaged frame, reading as much as that takes. -/
def poll (service : RegisterService σ) (linked : Linked σ) : Except NodeError Unit × Linked σ :=
  match linked.station.receive service with
  | (.reply bytes, station) =>
    let (sent, linked) := { linked with station }.sendRaw bytes
    (sent, { linked with station := linked.station.replySent })
  | (.handled, station) => (.ok (), { linked with station })
  | (.incomplete, station) =>
    match h : linked.line.read Frame.readSize with
    | (.ok [], line) =>
      (.error (.disconnected endOfStream), { station := { station with buffer := [] }, line })
    | (.ok (byte :: more), line) =>
      have := Line.weight_read_of_ok h
      poll service { station := station.feed (byte :: more), line }
    | (.error .interrupted, line) =>
      have := Line.weight_read_of_interrupted h
      poll service { station, line }
    | (.error kind, line) => (.error (.frame (.line ⟨kind, none⟩)), { station, line })
termination_by linked.line.weight
decreasing_by
  · simp only [List.length_cons] at this
    omega
  · assumption

/-- Bound on the polls that find something. -/
def weight (linked : Linked σ) : Nat :=
  linked.line.weight + total Arrival.weight linked.line.peer.answers.flatten +
    linked.station.buffer.length

/-- Serve until the line ends or the application asks to stop. The application has its turn after
every handled frame and every read that timed out. A poll that uses up nothing has met a line on
which nothing more arrives. -/
def runUntil (service : RegisterService σ)
    (keepGoing : τ → Node → σ → Bool × τ × Node × σ) (memory : τ) (linked : Linked σ) :
    Ended × τ × Linked σ :=
  let (result, after) := linked.poll service
  let turn (after : Linked σ) : Ended × τ × Linked σ :=
    let (going, memory, node, registers) :=
      keepGoing memory after.station.node after.station.registers
    let last := { after with station := { after.station with node, registers } }
    if going then
      if last.weight < linked.weight then runUntil service keepGoing memory last
      else (.waiting, memory, last)
    else (.stopped, memory, last)
  match result with
  | .ok () => turn after
  | .error (.disconnected _) => (.closed, memory, after)
  | .error error => if error.isIdle then turn after else (.failed error, memory, after)
termination_by linked.weight

/-- Serve until the line ends. -/
def run (service : RegisterService σ) (linked : Linked σ) : Ended × Linked σ :=
  let (ended, _, linked) :=
    linked.runUntil service (fun () node registers => (true, (), node, registers)) ()
  (ended, linked)

end Linked

end Multidrop
