import Multidrop.Node.Basic
import Multidrop.Node.Config
import Multidrop.Proofs.Tunnel.Ring

/-!
# Counting and handling

How counters add up, and what handling a frame does in each of the ways it can go.
-/
namespace Multidrop

/-! ## Counters that stop at their largest value

Counting several times is adding with saturation, so the order in which faults are counted does not
matter. -/

/-- A counter after a number of further counts. It stops at its largest value. -/
def raise (count : Nat) (counter : UInt32) : UInt32 :=
  .ofNat (min (counter.toNat + count) (Word.bound 32 - 1))

/-- A raised counter is the sum, cut at the largest value. -/
theorem toNat_raise (count : Nat) (counter : UInt32) :
    (raise count counter).toNat = min (counter.toNat + count) (Word.bound 32 - 1) := by
  have small : min (counter.toNat + count) (Word.bound 32 - 1) < 4294967296 :=
    Nat.lt_of_le_of_lt (Nat.min_le_right _ _) (by decide)
  rw [raise, UInt32.toNat_ofNat']
  exact Nat.mod_eq_of_lt small

/-- One count raises a counter by one. -/
theorem bump_eq_raise (counter : UInt32) : bump counter = raise 1 counter := by
  apply UInt32.toNat_inj.mp
  have word : counter.toNat < 4294967296 := counter.toNat_lt
  have bound : Word.bound 32 = 4294967296 := rfl
  rw [toNat_raise, bump, bound]
  by_cases room : counter.toNat + 1 < 4294967296
  · rw [if_pos room, UInt32.toNat_add]
    simp only [UInt32.reduceToNat]
    omega
  · rw [if_neg room]
    omega

/-- No count changes nothing. -/
theorem raise_zero (counter : UInt32) : raise 0 counter = counter := by
  apply UInt32.toNat_inj.mp
  have word : counter.toNat < 4294967296 := counter.toNat_lt
  have bound : Word.bound 32 = 4294967296 := rfl
  rw [toNat_raise, bound]
  omega

/-- Counts add up. -/
theorem raise_raise (first second : Nat) (counter : UInt32) :
    raise second (raise first counter) = raise (first + second) counter := by
  apply UInt32.toNat_inj.mp
  rw [toNat_raise, toNat_raise, toNat_raise]
  omega

/-- A count may come before or after others. -/
theorem bump_raise (count : Nat) (counter : UInt32) :
    bump (raise count counter) = raise count (bump counter) := by
  rw [bump_eq_raise, bump_eq_raise, raise_raise, raise_raise, Nat.add_comm]

/-- Counters after a number of frames for other nodes and of requests refused as a whole. -/
def Stats.raise (foreign refused : Nat) (stats : Stats) : Stats :=
  { stats with
    wrongId := Multidrop.raise foreign stats.wrongId
    malformedSubframe := Multidrop.raise refused stats.malformedSubframe }

/-! ## What handling a frame does

Handling a frame has three ways to go, told apart before anything is done: the frame is for another
node (`process_of_foreign`), its payload is refused as a whole (`process_of_refused`), or it is
carried out (`process_of_planned`). Each of the three equations gives the whole result, so what
handling keeps and changes is read off it. -/

/-- Counters after a request was carried out: one more for an unknown subframe, and one more for a
reply that leaves something out. -/
def Stats.note (plan : Dispatch.Plan) (writer : Reply.Writer) (stats : Stats) : Stats :=
  { stats with
    unknownSubframe :=
      if plan.unknownTag.isSome then bump stats.unknownSubframe else stats.unknownSubframe
    replyOverflow :=
      if 0 < writer.omitted then bump stats.replyOverflow else stats.replyOverflow }

namespace Node

variable {σ : Type}

/-- A frame for another node: neither for this one nor for all. -/
def Foreign (node : Node) (frame : Frame) : Prop :=
  frame.destination ≠ node.id ∧ node.options.broadcastId ≠ some frame.destination

instance (node : Node) (frame : Frame) : Decidable (node.Foreign frame) :=
  inferInstanceAs (Decidable (_ ∧ _))

/-- What a request is carried out on. -/
def scene (node : Node) (registers : σ) : Dispatch.Scene σ :=
  { registers, tunnels := node.tunnels, reply := { limit := node.options.bufferSize } }

/-- The encoded reply frame with a payload, where a frame gets one. -/
def answer (frame : Frame) (plan : Dispatch.Plan) (payload : List UInt8) (node : Node) :
    Option (List UInt8) :=
  if node.isBroadcast frame || !(frame.responseRequested || plan.needsReply) then none
  else
    match Frame.encode { source := node.id, destination := frame.source, payload } with
    | .error _ => none
    | .ok bytes => some bytes

/-- A frame is accepted exactly when it is not foreign. -/
theorem accepts_iff (node : Node) (frame : Frame) :
    node.accepts frame = true ↔ ¬node.Foreign frame := by
  unfold accepts isBroadcast Foreign
  by_cases own : frame.destination = node.id <;>
    by_cases all : node.options.broadcastId = some frame.destination <;> simp [own, all]

/-- Capturing a frame changes nothing but the capture. -/
theorem captureFrame_eq (frame : Frame) (node : Node) :
    node.captureFrame frame = { node with unknown := (node.captureFrame frame).unknown } := by
  unfold captureFrame
  by_cases closed : node.unknown.capacity = 0
  · rw [if_pos closed]
  · rw [if_neg closed]
    cases frame.encode <;> rfl

/-- Capturing a frame does not depend on how far the node is. -/
theorem captureFrame_phase (frame : Frame) (phase : Phase) (node : Node) :
    { node with phase }.captureFrame frame = { node.captureFrame frame with phase } := by
  unfold captureFrame
  by_cases closed : node.unknown.capacity = 0
  · rw [if_pos closed, if_pos closed]
  · rw [if_neg closed, if_neg closed]
    cases frame.encode <;> rfl

/-- Counting an unknown subframe changes its counter at most. -/
theorem noteUnknown_eq (plan : Dispatch.Plan) (node : Node) :
    node.noteUnknown plan =
      { node with
        stats :=
          { node.stats with
            unknownSubframe :=
              if plan.unknownTag.isSome then bump node.stats.unknownSubframe
              else node.stats.unknownSubframe } } := by
  unfold noteUnknown
  by_cases unknown : plan.unknownTag.isSome = true
  · rw [if_pos unknown, if_pos unknown]
  · rw [if_neg unknown, if_neg unknown]

/-- Counting a reply that leaves something out changes its counter at most. -/
theorem noteOverflow_eq (writer : Reply.Writer) (node : Node) :
    node.noteOverflow writer =
      { node with
        stats :=
          { node.stats with
            replyOverflow :=
              if 0 < writer.omitted then bump node.stats.replyOverflow
              else node.stats.replyOverflow } } := by
  unfold noteOverflow
  by_cases overflow : 0 < writer.omitted
  · rw [if_pos overflow, if_pos overflow]
  · rw [if_neg overflow, if_neg overflow]

/-- Handing out a reply changes only how far the node is. -/
theorem compose_eq (frame : Frame) (plan : Dispatch.Plan) (payload : List UInt8) (node : Node) :
    node.compose frame plan payload =
      (node.answer frame plan payload,
        { node with
          phase := if (node.answer frame plan payload).isSome then .sending else .idle }) := by
  unfold compose answer
  split
  · rfl
  · generalize Frame.encode _ = encoded
    cases encoded <;> rfl

variable {service : RegisterService σ} {frame : Frame} {registers : σ} {node : Node}

/-- A frame for another node is counted and captured. -/
theorem process_of_foreign (foreign : node.Foreign frame) :
    node.process service frame registers = ⟨none, registers, node.passOver frame⟩ := by
  have refused : ({ node with phase := .validating } : Node).accepts frame = false := by
    rw [Bool.eq_false_iff]
    exact fun accepted => (accepts_iff node frame).1 accepted foreign
  unfold process
  dsimp only
  rw [refused, if_neg Bool.false_ne_true, passOver, captureFrame_phase]
  rfl

/-- A request that is refused as a whole is counted. -/
theorem process_of_refused {error : Subframe.Error} (own : ¬node.Foreign frame)
    (refused : Dispatch.plan node.options.bufferSize frame.payload = .error error) :
    node.process service frame registers = ⟨none, registers, node.refuse⟩ := by
  have accepted : ({ node with phase := .validating } : Node).accepts frame = true :=
    (accepts_iff node frame).2 own
  unfold process
  dsimp only
  rw [accepted, if_pos rfl, refused]
  rfl

/-- A request that is planned is carried out on the registers, the tunnels and an empty reply. -/
theorem process_of_planned {plan : Dispatch.Plan} (own : ¬node.Foreign frame)
    (planned : Dispatch.plan node.options.bufferSize frame.payload = .ok plan) :
    node.process service frame registers =
      let scene := Dispatch.execute service plan frame.payload (node.scene registers)
      let reply := node.answer frame plan scene.reply.finish.payload
      ⟨reply, scene.registers,
        { node with
          tunnels := scene.tunnels
          stats := node.stats.note plan scene.reply.finish
          phase := if reply.isSome then .sending else .idle }⟩ := by
  have accepted : ({ node with phase := .validating } : Node).accepts frame = true :=
    (accepts_iff node frame).2 own
  unfold process
  dsimp only
  rw [accepted, if_pos rfl, planned]
  simp only [perform, noteUnknown_eq, noteOverflow_eq, compose_eq]
  rfl

/-! ### What every frame keeps -/

/-- Handling a frame keeps the limits of a node. -/
theorem options_process :
    (node.process service frame registers).node.options = node.options := by
  by_cases foreign : node.Foreign frame
  · rw [process_of_foreign foreign, passOver, captureFrame_eq]
  · cases planned : Dispatch.plan node.options.bufferSize frame.payload with
    | error error =>
      rw [process_of_refused foreign planned]
      rfl
    | ok plan => rw [process_of_planned foreign planned]

/-- Handling a frame keeps the id of a node. -/
theorem id_process : (node.process service frame registers).node.id = node.id := by
  by_cases foreign : node.Foreign frame
  · rw [process_of_foreign foreign, passOver, captureFrame_eq]
  · cases planned : Dispatch.plan node.options.bufferSize frame.payload with
    | error error =>
      rw [process_of_refused foreign planned]
      rfl
    | ok plan => rw [process_of_planned foreign planned]

/-- After a frame the node sends its reply if there is one, and is idle otherwise. -/
theorem phase_process :
    (node.process service frame registers).node.phase =
      if (node.process service frame registers).reply.isSome then .sending else .idle := by
  by_cases foreign : node.Foreign frame
  · rw [process_of_foreign foreign]
    rfl
  · cases planned : Dispatch.plan node.options.bufferSize frame.payload with
    | error error =>
      rw [process_of_refused foreign planned]
      rfl
    | ok plan => rw [process_of_planned foreign planned]

end Node

end Multidrop
