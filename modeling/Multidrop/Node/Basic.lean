import Multidrop.Dispatch
import Multidrop.Frame.Decoder
import Multidrop.Node.Config

/-!
# Nodes

A node turns received frames into register operations, tunnel traffic and reply frames. It acts on
frames for its own id and on broadcasts, and answers only the former. Bytes that belong to no frame
of its own are captured as far as there is room. No step does any input or output.
-/
namespace Multidrop

/-- Limits that a node is set up with. -/
structure NodeOptions where
  /-- The largest payload accepted or sent, and the room of each tunnel ring and of the capture. -/
  bufferSize : Nat := 256
  /-- The number of tunnel slots. -/
  maxTunnels : Nat := 1
  /-- The id of a node whose store keeps none. -/
  defaultId : UInt8 := NodeConfig.default.id
  /-- The destination that every node acts on and none answers. -/
  broadcastId : Option UInt8 := none
  deriving Repr, DecidableEq

/-- How far a node is with the current frame. -/
inductive Phase where
  | idle
  | accumulating
  | validating
  | dispatching
  | composing
  /-- A reply was handed out and has not been confirmed as written. -/
  | sending
  deriving Repr, DecidableEq

/-- A node of the bus. -/
structure Node where
  /-- The limits it was set up with. -/
  options : NodeOptions
  /-- Its bus id. -/
  id : UInt8
  /-- How far it is with the current frame. -/
  phase : Phase := .idle
  /-- Faults counted so far. -/
  stats : Stats := {}
  /-- Its tunnels. -/
  tunnels : Tunnels
  /-- Captured bytes that belong to no frame of its own. -/
  unknown : Ring

/-- A handled frame. -/
structure Handled (σ : Type) where
  /-- The encoded reply frame, if there is one. -/
  reply : Option (List UInt8)
  /-- The application's registers afterwards. -/
  registers : σ
  /-- The node afterwards. -/
  node : Node

namespace Node

variable {σ ω : Type}

/-- A node with a configuration. -/
def ofConfig (options : NodeOptions) (config : NodeConfig) : Node where
  options := options
  id := config.id
  tunnels := .ofSlots options.maxTunnels options.bufferSize
  unknown := .ofCapacity options.bufferSize

/-- A node whose id is not kept anywhere. -/
def new (options : NodeOptions) : Except NodeError Node := do
  let config ← NodeConfig.ofId options.defaultId
  .ok (ofConfig options config)

/-- A node with the id that a store keeps. -/
def ofStore [ConfigStore ω] (options : NodeOptions) (store : ω) : Except NodeError Node × ω :=
  let (loaded, store) := ConfigStore.load store
  let node := do
    let kept ← loaded
    let config ← (kept.getD ⟨options.defaultId⟩).validate
    .ok (ofConfig options config)
  (node, store)

/-- Change the id, keeping it first where there is a store. A failed change leaves the id alone. -/
def setId [ConfigStore ω] (id : UInt8) (store : Option ω) (node : Node) :
    Except NodeError Unit × Option ω × Node :=
  match NodeConfig.ofId id with
  | .error error => (.error error, store, node)
  | .ok config =>
    match store with
    | none => (.ok (), none, { node with id := config.id })
    | some store =>
      match ConfigStore.save store config with
      | (.ok (), store) => (.ok (), some store, { node with id := config.id })
      | (.error error, store) => (.error error, some store, node)

/-- Capture bytes as far as there is room. -/
def capture (bytes : List UInt8) (node : Node) : Node :=
  { node with unknown := (node.unknown.push bytes).2 }

/-- Capture a frame for another node in its encoded form. -/
def captureFrame (frame : Frame) (node : Node) : Node :=
  if node.unknown.capacity = 0 then node
  else
    match frame.encode with
    | .ok bytes => node.capture bytes
    | .error _ => node

/-- Take captured bytes, at most the given number. -/
def readUnknown (count : Nat) (node : Node) : List UInt8 × Node :=
  let (bytes, unknown) := node.unknown.pop count
  (bytes, { node with unknown := unknown })

/-- Capture bytes that a decoder outside the node skipped. -/
def recordDiscarded (bytes : List UInt8) (node : Node) : Node := node.capture bytes

/-- Count a framing fault. -/
def recordFault (error : Frame.Error) (node : Node) : Node :=
  let stats :=
    match error with
    | .checksumMismatch .. =>
      { node.stats with checksumMismatch := bump node.stats.checksumMismatch }
    | .receiveOverrun .. | .malformedLength _ =>
      { node.stats with receiveOverrun := bump node.stats.receiveOverrun }
    | _ => node.stats
  { node with stats, phase := .idle }

/-- Whether a frame is for every node, this one included. -/
def isBroadcast (node : Node) (frame : Frame) : Bool :=
  node.options.broadcastId = some frame.destination && frame.destination ≠ node.id

/-- Whether a frame is for this node. -/
def accepts (node : Node) (frame : Frame) : Bool :=
  frame.destination = node.id || node.isBroadcast frame

/-- Count and capture a frame for another node. -/
def passOver (frame : Frame) (node : Node) : Node :=
  { node.captureFrame frame with
    stats := { node.stats with wrongId := bump node.stats.wrongId }
    phase := .idle }

/-- Count a request that is refused as a whole. -/
def refuse (node : Node) : Node :=
  { node with
    stats := { node.stats with malformedSubframe := bump node.stats.malformedSubframe }
    phase := .idle }

/-- Count an unknown subframe of a plan. -/
def noteUnknown (plan : Dispatch.Plan) (node : Node) : Node :=
  if plan.unknownTag.isSome then
    { node with
      stats := { node.stats with unknownSubframe := bump node.stats.unknownSubframe } }
  else node

/-- Count a reply that leaves something out. -/
def noteOverflow (reply : Reply.Writer) (node : Node) : Node :=
  if 0 < reply.omitted then
    { node with stats := { node.stats with replyOverflow := bump node.stats.replyOverflow } }
  else node

/-- Carry out a planned request: the finished reply payload, the registers and the node. -/
def perform (service : RegisterService σ) (plan : Dispatch.Plan) (payload : List UInt8)
    (registers : σ) (node : Node) : Reply.Writer × σ × Node :=
  let scene := Dispatch.execute service plan payload
    { registers, tunnels := node.tunnels, reply := { limit := node.options.bufferSize } }
  (scene.reply.finish, scene.registers,
    { node with tunnels := scene.tunnels, phase := .composing })

/-- Hand out the reply to a frame, if it gets one. Broadcasts get none; other frames get one if
they ask for it or for data. -/
def compose (frame : Frame) (plan : Dispatch.Plan) (payload : List UInt8) (node : Node) :
    Option (List UInt8) × Node :=
  if node.isBroadcast frame || !(frame.responseRequested || plan.needsReply) then
    (none, { node with phase := .idle })
  else
    match Frame.encode { source := node.id, destination := frame.source, payload } with
    | .error _ => (none, { node with phase := .idle })
    | .ok bytes => (some bytes, { node with phase := .sending })

/-- Handle one frame. -/
def process (service : RegisterService σ) (frame : Frame) (registers : σ) (node : Node) :
    Handled σ :=
  let node := { node with phase := .validating }
  if node.accepts frame then
    match Dispatch.plan node.options.bufferSize frame.payload with
    | .error _ => ⟨none, registers, node.refuse⟩
    | .ok plan =>
      let node := { node.noteUnknown plan with phase := .dispatching }
      let (reply, registers, node) := node.perform service plan frame.payload registers
      let (answer, node) := (node.noteOverflow reply).compose frame plan reply.payload
      ⟨answer, registers, node⟩
  else ⟨none, registers, node.passOver frame⟩

/-- Note that the last reply has been written. -/
def replySent (node : Node) : Node :=
  if node.phase = .sending then { node with phase := .idle } else node

/-! ## Tunnels -/

/-- Bind a channel ahead of the first poll. -/
def openTunnel (channel : UInt32) (node : Node) : Option Handle × Node :=
  let (handle, tunnels) := node.tunnels.bind channel
  (handle, { node with tunnels })

end Node

end Multidrop
