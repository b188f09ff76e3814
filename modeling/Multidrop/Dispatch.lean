import Multidrop.Reply
import Multidrop.Subframe.Walk
import Multidrop.Tunnel

/-!
# Dispatching requests

A request payload is planned as a whole first and carried out afterwards, so a payload that is
refused has changed nothing.
-/
namespace Multidrop.Dispatch

/-! ## Planning a request

A request payload is looked through before anything is done. Either it is refused as a whole, or
the part in front of the first unknown subframe is carried out. Reads whose results cannot fit in
one reply are refused, which also bounds the work that one frame can cause. -/

open Subframe (Located Contents Flaw)

/-- What is known about a payload before it is carried out. -/
structure Plan where
  /-- Bytes of the part that is carried out. -/
  executable : Nat
  /-- The first tag that names no form. -/
  unknownTag : Option UInt32 := none
  /-- Subframes that read or write registers. -/
  registers : Nat := 0
  /-- Subframes that read registers. -/
  reads : Nat := 0
  /-- Subframes that poll a tunnel. -/
  tunnels : Nat := 0
  /-- Least bytes of a reply to the reads. -/
  replyFloor : Nat := 0
  deriving Repr, DecidableEq

/-- Whether the payload asks for data, whatever its frame says about a reply. -/
def Plan.needsReply (plan : Plan) : Bool := 0 < plan.reads || 0 < plan.tunnels

/-- Least reply bytes for one value: its own within a run, or a refusal of at least three. -/
def resultFloor (kind : Kind) : Nat := min kind.size 3

/-- Least reply bytes for the values that a subframe asks for. -/
def readFloor? : Subframe → Option Nat
  | .readSingle _ kind => some (resultFloor kind)
  | .readMultiple _ count kind => some (count.toNat * resultFloor kind)
  | _ => none

/-- Take one subframe into a plan. The reply to any read has at least one subframe header. -/
def Plan.add (limit : Nat) (plan : Plan) (located : Located) : Except Subframe.Error Plan :=
  if located.subframe.isRegisterRequest then
    let plan := { plan with registers := plan.registers + 1 }
    match readFloor? located.subframe with
    | none => .ok plan
    | some cost =>
      let floor := max plan.replyFloor 2 + cost
      if limit < floor then .error (.malformed located.offset .replyTooSmall)
      else .ok { plan with reads := plan.reads + 1, replyFloor := floor }
  else
    match located.subframe with
    | .clientToServer .. => .ok { plan with tunnels := plan.tunnels + 1 }
    | _ => .error (.malformed located.offset .replyInRequest)

/-- Take the end of a walk into a plan: an unknown tag ends the part that is carried out. -/
def Plan.close (plan : Plan) : Option Subframe.Error → Except Subframe.Error Plan
  | none => .ok plan
  | some (.unknown tag offset) => .ok { plan with executable := offset, unknownTag := some tag }
  | some (.malformed offset flaw) => .error (.malformed offset flaw)

/-- Whether a tunnel poll, if there is one, is alone in its payload. -/
def Plan.tunnelAlone (plan : Plan) : Bool :=
  plan.tunnels = 0 ||
    plan.tunnels = 1 && plan.registers = 0 && plan.unknownTag.isNone

/-- Plan a payload for a node whose replies have a payload limit. -/
def plan (limit : Nat) (payload : List UInt8) : Except Subframe.Error Plan := do
  let contents := Contents.ofPayload payload
  let plan ← contents.located.foldlM (Plan.add limit) { executable := payload.length }
  let plan ← plan.close contents.stop
  if plan.tunnelAlone then .ok plan else .error (.malformed 0 .tunnelNotAlone)

end Multidrop.Dispatch

/-! ## Carrying out a request

The subframes of a planned payload act in order on the application's registers and on the node's
tunnels, and what they return goes into the reply. A read therefore sees every earlier write of the
same frame. -/

namespace Multidrop.Dispatch

open Subframe (Contents)

variable {σ : Type}

/-- What a request acts on. -/
structure Scene (σ : Type) where
  /-- The state of the application's registers. -/
  registers : σ
  /-- The node's tunnels. -/
  tunnels : Tunnels
  /-- The reply so far. -/
  reply : Reply.Writer

/-- Write one register; a refusal goes into the reply. -/
def writeOne (service : RegisterService σ) (scene : Scene σ) (cell : Register × Value) : Scene σ :=
  match service.write scene.registers cell.1 cell.2 with
  | (.ok (), registers) => { scene with registers }
  | (.error refusal, registers) =>
    { scene with registers, reply := scene.reply.pushWriteError cell.1 refusal }

/-- Read one register; the value or the refusal goes into the reply. -/
def readOne (service : RegisterService σ) (kind : Kind) (scene : Scene σ) (register : Register) :
    Scene σ :=
  match service.read scene.registers register kind with
  | (.ok value, registers) =>
    { scene with registers, reply := scene.reply.pushValue register value }
  | (.error refusal, registers) =>
    { scene with registers, reply := scene.reply.pushReadError register refusal }

/-- Values together with the consecutive registers that they are for. -/
def cells (start : Register) (values : List Value) : List (Register × Value) :=
  values.mapIdx fun place value => (start + .ofNat place, value)

/-- Hand bytes to a channel and answer with what the channel has queued, possibly nothing. Bytes
leave the queue only if the answer fits. -/
def poll (scene : Scene σ) (channel : UInt32) (data : List UInt8) : Scene σ :=
  let (handle, tunnels) := scene.tunnels.deliver channel data
  let reply := scene.reply.flush
  let size := handle.elim 0 fun handle =>
    min (tunnels.pending handle) (reply.tunnelCapacity channel)
  if reply.tunnelFits channel size then
    let (queued, tunnels) := handle.elim ([], tunnels) (tunnels.drain · size)
    { scene with
      tunnels
      reply :=
        { reply with payload := reply.payload ++ (Subframe.serverToClient channel queued).encode } }
  else { scene with tunnels, reply := { reply with omitted := reply.omitted + 1 } }

/-- Carry out one subframe. Those that only replies have do nothing. -/
def act (service : RegisterService σ) (scene : Scene σ) : Subframe → Scene σ
  | .writeSingle register value => writeOne service scene (register, value)
  | .writeMultiple start values => (cells start values.values).foldl (writeOne service) scene
  | .readSingle register kind => readOne service kind scene register
  | .readMultiple start count kind =>
    (Span.mk start count.toNat).registers.foldl (readOne service kind) scene
  | .clientToServer channel data => poll scene channel data
  | .replySingle .. | .replyMultiple .. | .writeError .. | .readError .. | .serverToClient .. =>
    scene

/-- Carry out the planned part of a payload. -/
def execute (service : RegisterService σ) (plan : Plan) (payload : List UInt8)
    (scene : Scene σ) : Scene σ :=
  (Contents.ofPayload (payload.take plan.executable)).subframes.foldl (act service) scene

end Multidrop.Dispatch
