import Multidrop.Proofs.Dispatch.Poll
import Multidrop.Proofs.Node.Replies

/-!
# Polls are answered

A poll for a node's own id is answered with one subframe for the polled channel that holds the front
of its queue (`process_poll`). An empty answer takes no more room than the poll did, and a channel
that gets no slot is answered with no bytes. What alone can be in the way is the length of a payload,
which has 32 bits: the bytes of a longer answer have left the queue, and it is not sent
(`poll_unanswered`).
-/
namespace Multidrop.Node

open Subframe (Contents)

variable {σ ω : Type}

/-- A node whose answers to polls are short enough for a frame: payloads have a length of 32
bits. -/
def Framable (node : Node) : Prop :=
  node.options.bufferSize < Word.bound 32 ∨
    ∀ slot ∈ node.tunnels.slots, slot.outbound.size + 11 < Word.bound 32

variable {service : RegisterService σ} {registers : σ} {node : Node} {frame : Frame}
  {channel : UInt32} {data : List UInt8}

/-- The answer to a poll takes a tag, the channel, the number of its bytes and the bytes. -/
theorem length_answered (limit : Nat) (channel : UInt32) (sent : List UInt8) :
    (Dispatch.answered limit channel sent).payload.length =
      1 + Varuint.size channel + Subframe.countSize sent.length + sent.length := by
  have tag : Varuint.size (Subframe.serverToClient channel sent).tag = 1 := rfl
  rw [Dispatch.answered, Subframe.length_encode]
  simp only [Subframe.size, tag, Subframe.bodySize]
  omega

/-- An answer to a poll is within the limit. -/
theorem length_le_of_polled {limit : Nat} {tunnels after : Tunnels} {reply : Reply.Writer}
    (polled : Dispatch.Polled limit channel data tunnels after reply) :
    reply.payload.length ≤ limit := by
  cases polled with
  | cramped _ => exact Nat.zero_le _
  | full least none =>
    have count : Subframe.countSize 0 = 1 := rfl
    rw [length_answered, List.length_nil, count]
    omega
  | @seated handle slot least seat there =>
    have within : (slot.outbound.pop (Dispatch.polledCount limit channel slot)).1.length ≤
        Reply.Writer.tunnelCapacity channel { limit } := by
      rw [Ring.length_pop]
      exact Nat.le_trans (Nat.min_le_left _ _) (Nat.min_le_right _ _)
    have fits := of_decide_eq_true (Reply.Writer.tunnelFits_of_le least within)
    rw [Reply.Writer.remaining_empty] at fits
    rw [length_answered]
    exact fits

/-- The answers of a framable node to polls have a length of 32 bits. -/
theorem Framable.length_lt (framable : node.Framable) {tunnels : Tunnels} {reply : Reply.Writer}
    (polled : Dispatch.Polled node.options.bufferSize channel data node.tunnels tunnels reply) :
    reply.payload.length < Word.bound 32 := by
  rcases framable with short | few
  · exact Nat.lt_of_le_of_lt (length_le_of_polled polled) short
  · have channelSize := Varuint.size_le channel
    rw [Varuint.maxSize] at channelSize
    cases polled with
    | cramped _ => exact show 0 < Word.bound 32 by decide
    | full _ _ =>
      have count : Subframe.countSize 0 = 1 := rfl
      have bound : 7 < Word.bound 32 := by decide
      rw [length_answered, List.length_nil, count]
      omega
    | @seated handle slot _ _ there =>
      have own := few slot (List.mem_of_getElem? there)
      have queued := slot.outbound.length_pop
        (Dispatch.polledCount node.options.bufferSize channel slot)
      rw [length_answered, queued]
      have countSize := Varuint.size_le (.ofNat
        (min (Dispatch.polledCount node.options.bufferSize channel slot) slot.outbound.size))
      rw [Varuint.maxSize] at countSize
      rw [Subframe.countSize]
      omega

/-- A poll for the node or for all goes in one of the ways that a poll can go. -/
theorem process_of_polls (service : RegisterService σ) (registers : σ)
    (near : ¬node.Foreign frame) (polls : Dispatch.Polls frame.payload channel data) :
    ∃ tunnels reply,
      Dispatch.Polled node.options.bufferSize channel data node.tunnels tunnels reply ∧
      node.process service frame registers =
        let answer := node.answer frame (Dispatch.pollPlan frame.payload) reply.payload
        ⟨answer, registers,
          { node with
            tunnels
            stats := node.stats.note (Dispatch.pollPlan frame.payload) reply
            phase := if answer.isSome then .sending else .idle }⟩ := by
  obtain ⟨tunnels, reply, polled, done⟩ :=
    @Dispatch.polled_poll _ _ channel data (node.scene registers) rfl
  have finish : reply.finish = reply := by cases polled <;> rfl
  refine ⟨tunnels, reply, polled, ?_⟩
  rw [process_of_planned near (polls.plan _), polls.execute, done]
  dsimp only
  rw [finish]
  rfl

/-- A frame for the node's own id that polls a channel is answered with any payload whose length has
32 bits. -/
theorem answer_of_polls {payload : List UInt8} (small : node.id ≤ Frame.maxId)
    (own : frame.destination = node.id) (short : payload.length < Word.bound 32) :
    ∃ bytes, node.answer frame (Dispatch.pollPlan frame.payload) payload = some bytes ∧
      Frame.parse bytes = .ok (node.replyFrame frame payload) := by
  have encoded : (node.replyFrame frame payload).encode =
      .ok (Frame.withChecksum (node.replyFrame frame payload).body) :=
    Frame.encode_eq_ok.2 ⟨small, short, rfl⟩
  refine ⟨_, ?_, Frame.parse_encode encoded⟩
  rw [answer_eq_some _ encoded, if_pos ⟨isBroadcast_of_own own, .inr rfl⟩]

/-- An answer that is short enough is taken apart into its one subframe. -/
theorem contents_answered {sent : List UInt8}
    (short : (Subframe.serverToClient channel sent).encode.length < Word.bound 32) :
    (Contents.ofPayload (Subframe.serverToClient channel sent).encode).subframes =
        [.serverToClient channel sent] ∧
      (Contents.ofPayload (Subframe.serverToClient channel sent).encode).stop = none := by
  have fits : (Subframe.serverToClient channel sent).Fits := by
    rw [Subframe.length_encode] at short
    simp only [Subframe.size, Subframe.bodySize] at short
    show sent.length < Word.bound 32
    omega
  have whole := Contents.ofPayload_flatMap fun subframe there => (List.mem_singleton.1 there) ▸ fits
  rw [List.flatMap_singleton] at whole
  exact whole

/-- An answer that is short enough is parsed into the bytes of its channel. -/
theorem parse_answered {sent : List UInt8}
    (short : (Subframe.serverToClient channel sent).encode.length < Word.bound 32) :
    Reply.parse (Subframe.serverToClient channel sent).encode = .ok ⟨[.tunnel channel sent]⟩ := by
  obtain ⟨alone, stop⟩ := contents_answered short
  rw [Reply.parse, alone, stop]
  rfl

/-- A poll for the node's own id is answered with one subframe, which has the front of the channel's
queue, if a frame can have the answer. -/
theorem process_poll [ConfigStore ω] {store : Option ω} (service : RegisterService σ)
    (registers : σ) (reachable : Reachable store node) (own : frame.destination = node.id)
    (short : frame.payload.length ≤ node.options.bufferSize)
    (polls : Dispatch.Polls frame.payload channel data) :
    let handled := node.process service frame registers
    let limit := node.options.bufferSize
    ∃ sent,
      let content := (Subframe.serverToClient channel sent).encode
      content.length ≤ limit ∧
      (content.length < Word.bound 32 → ∃ bytes, handled.reply = some bytes ∧
        Frame.parse bytes = .ok (node.replyFrame frame content) ∧
        (Contents.ofPayload content).subframes = [.serverToClient channel sent] ∧
        (Contents.ofPayload content).stop = none) ∧
      (Word.bound 32 ≤ content.length → handled.reply = none) ∧
      handled.registers = registers ∧ handled.node.stats = node.stats ∧
      match node.tunnels.seat? channel with
      | none => sent = [] ∧ handled.node.tunnels = node.tunnels
      | some handle => ∃ slot after, node.tunnels.slot? handle = some slot ∧
        handled.node.tunnels = node.tunnels.setSlot handle after ∧
        after.channel = some channel ∧
        sent = slot.outbound.toList.take
          (min slot.outbound.size (Reply.Writer.tunnelCapacity channel { limit })) ∧
        after.outbound.toList = slot.outbound.toList.drop sent.length ∧
        after.inbound.toList = (slot.inbound.toList ++ data).take slot.inbound.capacity ∧
        (slot.outbound.toList ≠ [] → 2 + Varuint.size channel +
          Varuint.size (.ofNat (min limit (Word.bound 32 - 1))) ≤ limit → sent ≠ []) := by
  intro handled limit
  have near : ¬node.Foreign frame := fun foreign => foreign.1 own
  have least := Nat.le_trans polls.least short
  obtain ⟨tunnels, reply, polled, done⟩ := process_of_polls service registers near polls
  have within := length_le_of_polled polled
  have handledEq : handled = _ := done
  rw [handledEq]
  cases polled with
  | cramped tight => omega
  | full _ none =>
    refine ⟨[], within, fun size => ?_, answer_of_long _, rfl, rfl, ?_⟩
    · obtain ⟨bytes, answered, parsed⟩ := answer_of_polls reachable.id_le own size
      exact ⟨bytes, answered, parsed, contents_answered size⟩
    · rw [none]
      exact ⟨rfl, rfl⟩
  | @seated handle slot _ seat there =>
    refine ⟨_, within, fun size => ?_, answer_of_long _, rfl, rfl, ?_⟩
    · obtain ⟨bytes, answered, parsed⟩ := answer_of_polls reachable.id_le own size
      exact ⟨bytes, answered, parsed, contents_answered size⟩
    have queued : Dispatch.polledCount limit channel slot ≤ slot.outbound.size :=
      Nat.min_le_left _ _
    obtain ⟨front, back⟩ := slot.outbound.pop_eq (Dispatch.polledCount limit channel slot)
    have count := slot.outbound.length_pop (Dispatch.polledCount limit channel slot)
    rw [Nat.min_eq_left queued] at count
    rw [seat]
    refine ⟨slot, _, there, rfl, rfl, front, ?_, Ring.toList_push _ _, ?_⟩
    · rw [count]
      exact back
    · intro some room none
      have waiting : 0 < slot.outbound.size := by
        rw [← slot.outbound.length_toList]
        exact List.length_pos_iff.2 some
      rw [none, List.length_nil, Dispatch.polledCount, Reply.Writer.tunnelCapacity,
        Reply.Writer.remaining_empty] at count
      omega

/-- A node whose application has written two bytes answers a poll in longer numbers than need be
with these bytes. -/
theorem process_poll_of_padded :
    let service : RegisterService Unit :=
      { read := fun state _ _ => (.ok (.int8 1), state), write := fun state _ _ => (.ok (), state) }
    let fresh : Node := .ofConfig { bufferSize := 16 } .default
    let bound := (fresh.openTunnel 5).2
    let node := { bound with tunnels := (bound.tunnels.write ⟨0⟩ [7, 8]).2 }
    let frame : Frame := { source := 2, destination := 1, payload := [0x40, 0x85, 0, 1, 9] }
    ∃ bytes sent, (node.process service frame ()).reply = some bytes ∧
      Frame.parse bytes = .ok (node.replyFrame frame (Subframe.serverToClient 5 sent).encode) ∧
      sent ≠ [] := by
  intro service fresh bound node frame
  have made : ofStore { bufferSize := 16 } (⟨none⟩ : MemoryStore) = (.ok fresh, ⟨none⟩) := rfl
  have reachable := ((Reachable.ofStore made).openTunnel 5).writeTunnel ⟨0⟩ [7, 8]
  have polls : Dispatch.Polls frame.payload 5 [9] := by
    show Dispatch.Polls [0x40, 0x85, 0, 1, 9] 5 [9]
    decide +kernel
  have seat : node.tunnels.seat? 5 = some ⟨0⟩ := by decide +kernel
  obtain ⟨sent, within, answers, _, _, _, moved⟩ :=
    process_poll service () reachable rfl (by decide) polls
  obtain ⟨bytes, answered, parsed, _⟩ := answers (Nat.lt_of_le_of_lt within (by decide))
  rw [seat] at moved
  obtain ⟨slot, _, there, _, _, _, _, _, moves⟩ := moved
  have waiting : (node.tunnels.slot? ⟨0⟩).map (·.outbound.toList) = some [7, 8] := by
    decide +kernel
  rw [there, Option.map_some, Option.some.injEq] at waiting
  refine ⟨bytes, sent, answered, parsed, moves ?_ (by decide)⟩
  rw [waiting]
  exact List.cons_ne_nil _ _

/-- A queue that is too long for a frame leaves the node, and nothing is answered. -/
theorem process_of_long (service : RegisterService σ) (registers : σ)
    (near : ¬node.Foreign frame) (polls : Dispatch.Polls frame.payload channel data)
    {handle : Handle} {slot : Slot} (seat : node.tunnels.seat? channel = some handle)
    (there : node.tunnels.slot? handle = some slot) (long : Word.bound 32 ≤ slot.outbound.size)
    (room : slot.outbound.size + 11 ≤ node.options.bufferSize) :
    (node.process service frame registers).reply = none ∧
      (node.process service frame registers).node.tunnels.pending handle = 0 := by
  have number := Varuint.size_le channel
  have largest := Varuint.size_le
    (.ofNat (min node.options.bufferSize (Word.bound 32 - 1)))
  rw [Varuint.maxSize] at number largest
  have all : slot.outbound.size ≤
      Dispatch.polledCount node.options.bufferSize channel slot := by
    rw [Dispatch.polledCount, Reply.Writer.tunnelCapacity, Reply.Writer.remaining_empty]
    omega
  obtain ⟨sent, rest⟩ := Ring.pop_all all
  obtain ⟨tunnels, reply, polled, done⟩ := process_of_polls service registers near polls
  rw [done]
  cases polled with
  | cramped tight => omega
  | full _ none =>
    rw [seat] at none
    cases none
  | seated _ seated found =>
    rw [seat] at seated
    cases seated
    rw [there] at found
    cases found
    refine ⟨answer_of_long _ ?_, ?_⟩
    · rw [length_answered, sent, Ring.length_toList]
      omega
    · have after := Tunnels.slot?_setSlot there
        (slot.polled channel data (Dispatch.polledCount node.options.bufferSize channel slot))
        handle
      rw [if_pos rfl] at after
      rw [Tunnels.pending, after, Option.elim_some, Slot.polled, ← Ring.length_toList, rest]
      rfl

/-- What an application writes on a channel of a new node waits in its slot, and a poll takes it
from there without an answer if it is too long for a frame. -/
theorem unanswered_of_written (service : RegisterService σ) (registers : σ) {bufferSize : Nat}
    {bytes : List UInt8} (long : Word.bound 32 ≤ bytes.length)
    (room : bytes.length + 11 ≤ bufferSize) (own : frame.destination = NodeConfig.default.id)
    (polls : Dispatch.Polls frame.payload channel data) :
    let bound := ((ofConfig { bufferSize } .default).openTunnel channel).2
    let node := { bound with tunnels := (bound.tunnels.write ⟨0⟩ bytes).2 }
    node.tunnels.pending ⟨0⟩ = bytes.length ∧
      (node.process service frame registers).reply = none ∧
      (node.process service frame registers).node.tunnels.pending ⟨0⟩ = 0 := by
  intro bound node
  let fresh : Slot := { inbound := .ofCapacity bufferSize, outbound := .ofCapacity bufferSize }
  let opened : Slot := { fresh with channel := some channel }
  let waiting : Slot := { opened with outbound := (opened.outbound.push bytes).2 }
  have capacity : opened.outbound.capacity = bufferSize := Array.size_replicate
  have empty : opened.outbound.size = 0 := rfl
  have opens : bound.tunnels = ⟨[opened]⟩ := rfl
  have written : node.tunnels = ⟨[waiting]⟩ := by
    have some : bytes ≠ [] := by
      rintro rfl
      exact absurd long (by decide)
    show (bound.tunnels.write ⟨0⟩ bytes).2 = _
    rw [opens, @Tunnels.write_of_room ⟨[opened]⟩ ⟨0⟩ opened bytes rfl some (by omega)]
    rfl
  have queued : waiting.outbound.size = bytes.length := by
    rw [← Ring.length_toList, (Ring.toList_push_of_room (by omega)).2]
    rfl
  have there : node.tunnels.slot? ⟨0⟩ = some waiting := by
    rw [written]
    rfl
  have seat : node.tunnels.seat? channel = some ⟨0⟩ := by
    rw [written]
    simp [Tunnels.seat?, Tunnels.lookup, waiting, opened]
  refine ⟨?_, process_of_long service registers (fun foreign => foreign.1 own) polls seat there
    (queued.symm ▸ long) (queued.symm ▸ room)⟩
  rw [Tunnels.pending, there]
  exact queued

/-- Bytes that no frame can have leave the queue in answer to a poll, and the poll is not answered.
Bytes that were written to a slot before it had a channel leave in answer to the first poll of
any. -/
theorem poll_unanswered :
    let service : RegisterService Unit :=
      { read := fun state _ _ => (.ok (.int8 1), state), write := fun state _ _ => (.ok (), state) }
    (let fresh : Node := .ofConfig { bufferSize := 2 * Word.bound 32 } .default
      let bound := (fresh.openTunnel 0).2
      let node := { bound with
        tunnels := (bound.tunnels.write ⟨0⟩ (List.replicate (Word.bound 32) 7)).2 }
      let frame : Frame := { source := 2, destination := 1, payload := [0x40, 0, 0] }
      Reachable (none : Option MemoryStore) node ∧ frame.destination = node.id ∧
        Dispatch.Polls frame.payload 0 [] ∧
        node.tunnels.pending ⟨0⟩ = Word.bound 32 ∧
        (node.process service frame ()).reply = none ∧
        (node.process service frame ()).node.tunnels.pending ⟨0⟩ = 0) ∧
    (let fresh : Node := .ofConfig { bufferSize := 16 } .default
      let node := { fresh with tunnels := (fresh.tunnels.write ⟨0⟩ [7]).2 }
      let frame : Frame := { source := 2, destination := 1, payload := [0x40, 3, 0] }
      Reachable (none : Option MemoryStore) node ∧ frame.destination = node.id ∧
        Dispatch.Polls frame.payload 3 [] ∧
        node.tunnels.lookup 3 = none ∧
        (node.process service frame ()).reply =
          (node.replyFrame frame (Subframe.serverToClient 3 [7]).encode).encode.toOption ∧
        (node.process service frame ()).reply.isSome = true) := by
  intro service
  constructor
  · intro fresh bound node frame
    have made : Node.new { bufferSize := 2 * Word.bound 32 } = .ok fresh := rfl
    have reachable : Reachable (none : Option MemoryStore) node :=
      ((Reachable.new made).openTunnel 0).writeTunnel ⟨0⟩ _
    have polls : Dispatch.Polls frame.payload 0 [] := by
      show Dispatch.Polls [0x40, 0, 0] 0 []
      decide +kernel
    have many : 11 ≤ Word.bound 32 := by decide
    have length : (List.replicate (Word.bound 32) (7 : UInt8)).length = Word.bound 32 :=
      List.length_replicate
    obtain ⟨queued, gone⟩ := @unanswered_of_written Unit frame 0 [] service () (2 * Word.bound 32)
      (List.replicate (Word.bound 32) 7) (Nat.le_of_eq length.symm) (by omega) rfl polls
    exact ⟨reachable, rfl, polls, queued.trans length, gone⟩
  · intro fresh node frame
    have made : Node.new { bufferSize := 16 } = .ok fresh := rfl
    have reachable : Reachable (none : Option MemoryStore) node :=
      (Reachable.new made).writeTunnel ⟨0⟩ _
    refine ⟨reachable, rfl, ?_, by decide +kernel, by decide +kernel, by decide +kernel⟩
    show Dispatch.Polls [0x40, 3, 0] 3 []
    decide +kernel

end Multidrop.Node
