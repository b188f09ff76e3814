import Multidrop.Frame.Duplex
import Multidrop.Frame.Writer
import Multidrop.Node.Basic
import Multidrop.Node.Config

/-!
# Nodes on duplex streams

Serving a stream comes to an end because what can still come in is bounded from the start.
-/
namespace Multidrop.Line

/-! ## Reserves of scripted lines

What can still arrive on a line whose far end follows a script: the arrivals that are there and
the answers that are left. Sending moves answers to the arrivals and never adds to the sum. -/

/-- Bound on the reads that the arrivals and the answers to come can serve. -/
def reserve (line : Line Script) : Nat :=
  line.weight + total Arrival.weight line.peer.answers.flatten

/-- Delivered bytes are answered from the reserve. -/
theorem reserve_deliver (bytes : List UInt8) (line : Line Script) :
    (line.deliver bytes).reserve = line.reserve := by
  unfold deliver
  split
  · rfl
  · simp only [reserve, weight, Peer.answer]
    split
    · simp
    · rename_i answers
      simp [answers]
      omega

/-- A write adds nothing to the reserve. -/
theorem reserve_write {line after : Line Script} {bytes : List UInt8}
    {result : Except Fault.Kind Nat} (h : line.write bytes = (result, after)) :
    after.reserve = line.reserve := by
  unfold write at h
  split at h <;> cases h
  · exact reserve_deliver _ _
  · rw [reserve_deliver]
    rfl
  · rfl

/-- Offering bytes adds nothing to the reserve. -/
theorem reserve_offer (retry : Fault.Kind → Bool) (bytes : List UInt8) (line : Line Script) :
    (line.offer retry bytes).2.2.reserve = line.reserve := by
  fun_induction offer retry bytes line with
  | case1 => rfl
  | case2 _ _ _ _ wrote => exact reserve_write wrote
  | case3 _ _ _ _ _ wrote ih => exact ih.trans (reserve_write wrote)
  | case4 _ _ _ _ _ wrote _ ih => exact ih.trans (reserve_write wrote)
  | case5 _ _ _ _ _ wrote _ => exact reserve_write wrote

/-- Flushing adds nothing to the reserve. -/
theorem reserve_flush (line : Line Script) : line.flush.2.reserve = line.reserve := by
  unfold flush
  dsimp only
  split <;> rfl

end Multidrop.Line

/-! ## Serving a stream

A node that takes its frames from a duplex stream, and serves it for as long as it yields items.
-/

namespace Multidrop

namespace Frame.Duplex

/-- Bound on the items and faults that can still come in, also in answer to what is sent. -/
def reserve (duplex : Duplex Script) : Nat := duplex.line.reserve + duplex.items.weight

/-- Flushing brings in nothing new. -/
theorem reserve_flush (duplex : Duplex Script) : duplex.flush.2.reserve = duplex.reserve := by
  have offered := Line.reserve_offer (fun _ => false) duplex.unsent duplex.line
  unfold flush
  split
  · rename_i stalled
    rw [stalled] at offered
    simp only [reserve, offered]
  · rename_i failed
    rw [failed] at offered
    simp only [reserve, offered]
  · rename_i unsent line complete
    rw [complete] at offered
    have flushed := Line.reserve_flush line
    split <;> rename_i after <;> rw [after] at flushed <;>
      simp only [reserve, ← offered, ← flushed]

/-- Sending brings in nothing new. -/
theorem reserve_sendRaw (bytes : List UInt8) (duplex : Duplex Script) :
    (duplex.sendRaw bytes).2.reserve = duplex.reserve := by
  have room : duplex.makeRoom.2.reserve = duplex.reserve := by
    unfold makeRoom
    split
    · exact reserve_flush duplex
    · rfl
  unfold sendRaw
  split <;> rename_i made <;> rw [made] at room
  · exact room
  · exact (reserve_flush _).trans room

/-- An item takes from the reserve. -/
theorem reserve_next_lt {duplex after : Duplex Script} {item : Item}
    (h : duplex.next = (.item item, after)) : after.reserve < duplex.reserve := by
  have less := weight_next_lt h rfl
  have peer := peer_next duplex
  rw [h] at peer
  dsimp only at peer
  simp only [reserve, Line.reserve, peer, weight] at less ⊢
  omega

end Frame.Duplex

/-- A node attached to a duplex stream. -/
structure Streaming (σ : Type) where
  /-- The node. -/
  node : Node
  /-- The application's registers. -/
  registers : σ
  /-- The stream. -/
  duplex : Frame.Duplex Script

namespace Streaming

variable {σ : Type}

/-- A node with its registers on a line. -/
def ofLine (node : Node) (registers : σ) (line : Line Script) : Streaming σ :=
  { node, registers, duplex := .ofLine node.options.bufferSize line }

/-- Handle one item, answering it where it gets an answer. A reply counts as sent also where
sending it failed. -/
def handle (service : RegisterService σ) (item : Frame.Item) (streaming : Streaming σ) :
    Except NodeError Unit × Streaming σ :=
  match item with
  | .rejected error => (.ok (), { streaming with node := streaming.node.recordFault error })
  | .discarded bytes => (.ok (), { streaming with node := streaming.node.recordDiscarded bytes })
  | .frame frame =>
    let handled := streaming.node.process service frame streaming.registers
    match handled.reply with
    | none =>
      (.ok (), { streaming with node := handled.node, registers := handled.registers })
    | some bytes =>
      let (sent, duplex) := streaming.duplex.sendRaw bytes
      (sent.mapError .frame,
        { node := handled.node.replySent, registers := handled.registers, duplex })

/-- Handling an item brings in nothing new. -/
theorem reserve_handle (service : RegisterService σ) (item : Frame.Item)
    (streaming : Streaming σ) :
    (streaming.handle service item).2.duplex.reserve = streaming.duplex.reserve := by
  unfold handle
  split
  · rfl
  · rfl
  · dsimp only
    split
    · rfl
    · exact Frame.Duplex.reserve_sendRaw _ _

/-- Serve until the stream ends, fails or has nothing more. -/
def run (service : RegisterService σ) (streaming : Streaming σ) : Ended × Streaming σ :=
  match h : streaming.duplex.next with
  | (.pending, duplex) => (.waiting, { streaming with duplex })
  | (.ended, duplex) => (.closed, { streaming with duplex })
  | (.failed kind, duplex) => (.failed (.frame (.line ⟨kind, none⟩)), { streaming with duplex })
  | (.item item, duplex) =>
    match handled : { streaming with duplex }.handle service item with
    | (.error error, streaming) => (.failed error, streaming)
    | (.ok (), after) =>
      have : after.duplex.reserve < streaming.duplex.reserve := by
        have kept := reserve_handle service item { streaming with duplex }
        rw [handled] at kept
        exact kept ▸ Frame.Duplex.reserve_next_lt h
      run service after
termination_by streaming.duplex.reserve

end Streaming

end Multidrop
