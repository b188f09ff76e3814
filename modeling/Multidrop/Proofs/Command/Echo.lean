import Multidrop.Command.Client
import Multidrop.Proofs.Node.Attended
import Multidrop.Proofs.Node.Polls

/-!
# Tunnel bytes that are sent back

An application that sends tunnel bytes back does so after every frame, as long as nothing waits to
be fetched. Where polls of a single channel bring at most 248 bytes, an answer has room for all that
waits (`tunnelCapacity_ge`). So a poll fetches what the poll before it brought, and once it is
handled, what it brought itself waits to be fetched and nothing else is left in the node
(`Attended.served_of_echoing`).
-/
namespace Multidrop

open Subframe (Contents)

/-- A slot that has no other channel, in which bytes wait to be fetched and none to be sent back. -/
structure Slot.Echoing (channel : UInt32) (waiting : List UInt8) (slot : Slot) : Prop where
  /-- The channel, or none yet. -/
  channel : slot.channel = none ∨ slot.channel = some channel
  /-- Everything has been sent back. -/
  inbound : slot.inbound.toList = []
  /-- It waits to be fetched. -/
  outbound : slot.outbound.toList = waiting
  /-- Room for the bytes of a poll. -/
  room : 256 ≤ slot.inbound.capacity
  /-- Room for sending them back. -/
  roomBack : 256 ≤ slot.outbound.capacity

/-- A slot that no channel has used. -/
structure Slot.Unused (slot : Slot) : Prop where
  /-- No channel is bound. -/
  channel : slot.channel = none
  /-- Nothing waits to be fetched. -/
  outbound : slot.outbound.size = 0

/-- Tunnels that only one channel has used, where bytes wait to be fetched and none to be sent
back. -/
def Tunnels.Echoing (channel : UInt32) (waiting : List UInt8) (tunnels : Tunnels) : Prop :=
  ∃ slot others, tunnels = ⟨slot :: others⟩ ∧ slot.Echoing channel waiting ∧
    ∀ other ∈ others, other.Unused

/-- A node with room for polls of 256 bytes, at which bytes wait to be fetched on a channel and none
to be sent back. -/
structure Node.Echoing (channel : UInt32) (waiting : List UInt8) (node : Node) : Prop where
  /-- The id has seven bits. -/
  id : node.id ≤ Frame.maxId
  /-- The payload limit. -/
  bufferSize : 256 ≤ node.options.bufferSize
  /-- What waits, on the one channel that has been used. -/
  tunnels : node.tunnels.Echoing channel waiting

/-- At a fresh node with a tunnel slot nothing waits. -/
theorem Node.echoing_ofConfig {options : NodeOptions} {config : NodeConfig}
    (id : config.id ≤ Frame.maxId) (bufferSize : 256 ≤ options.bufferSize)
    (some : 0 < options.maxTunnels) (channel : UInt32) :
    (Node.ofConfig options config).Echoing channel [] := by
  obtain ⟨count, same⟩ := Nat.exists_eq_add_one.2 some
  have capacity : (Ring.ofCapacity options.bufferSize).capacity = options.bufferSize :=
    Array.size_replicate
  let fresh : Slot :=
    { inbound := .ofCapacity options.bufferSize, outbound := .ofCapacity options.bufferSize }
  refine ⟨id, bufferSize, fresh, List.replicate count fresh, ?_,
    ⟨.inl rfl, rfl, rfl, capacity ▸ bufferSize, capacity ▸ bufferSize⟩, fun other there => ?_⟩
  · show Tunnels.ofSlots options.maxTunnels options.bufferSize = _
    rw [Tunnels.ofSlots, same, List.replicate_succ]
  · rw [List.eq_of_mem_replicate there]
    exact ⟨rfl, rfl⟩

/-! ## Sending back -/

namespace Tunnels

variable {tunnels : Tunnels} {channel : UInt32} {slot : Slot} {others : List Slot}

/-- The only channel has its seat in the first slot. -/
theorem seat?_first (own : slot.channel = none ∨ slot.channel = some channel)
    (unused : ∀ other ∈ others, other.Unused) :
    (⟨slot :: others⟩ : Tunnels).seat? channel = some ⟨0⟩ := by
  unfold seat? lookup free?
  obtain free | bound := own
  · have nowhere : others.findIdx? (fun other => other.channel = some channel) = none :=
      List.findIdx?_eq_none_iff.2 fun other there => by simp [(unused other there).channel]
    simp [List.findIdx?_cons, free, nowhere]
  · simp [List.findIdx?_cons, bound]

/-- The only channel is found in the first slot once it is bound. -/
theorem lookup_first (bound : slot.channel = some channel) :
    (⟨slot :: others⟩ : Tunnels).lookup channel = some ⟨0⟩ := by
  simp [lookup, List.findIdx?_cons, bound]

/-- No other channel is bound. -/
theorem channels_first (bound : slot.channel = some channel)
    (unused : ∀ other ∈ others, other.Unused) :
    (⟨slot :: others⟩ : Tunnels).channels = [channel] := by
  have none : others.filterMap Slot.channel = [] :=
    List.filterMap_eq_nil_iff.2 fun other there => (unused other there).channel
  rw [channels, List.filterMap_cons, bound, none]

end Tunnels

namespace Command

variable {tunnels : Tunnels} {handle : Handle} {channel : UInt32} {slot : Slot}

/-- What the application can read on a channel is sent back, if nothing waits to be fetched and
there is room for it. -/
theorem echoChannel_of_slot {chunk : Nat} (bound : tunnels.lookup channel = some handle)
    (there : tunnels.slot? handle = some slot) (quiet : slot.outbound.toList = [])
    (positive : 0 < chunk) (few : slot.inbound.size ≤ chunk)
    (room : slot.inbound.size ≤ slot.outbound.capacity) :
    ∃ after, echoChannel chunk tunnels channel = tunnels.setSlot handle after ∧
      after.channel = slot.channel ∧ after.inbound.toList = [] ∧
      after.outbound.toList = slot.inbound.toList ∧
      after.inbound.capacity = slot.inbound.capacity ∧
      after.outbound.capacity = slot.outbound.capacity := by
  have nothing : slot.outbound.size = 0 := by rw [← Ring.length_toList, quiet, List.length_nil]
  have pending : ¬0 < tunnels.pending handle := by
    rw [Tunnels.pending, there, Option.elim_some, nothing]
    exact Nat.lt_irrefl 0
  rw [echoChannel, bound]
  dsimp only
  rw [if_neg pending]
  by_cases none : slot.inbound.size = 0
  · have empty : slot.inbound.toList = [] :=
      List.length_eq_zero_iff.1 (slot.inbound.length_toList.trans none)
    rw [Tunnels.read_of_empty there none positive]
    exact ⟨slot, (Tunnels.setSlot_self there).symm, rfl, empty, quiet.trans empty.symm, rfl, rfl⟩
  · have read := Tunnels.slot?_setSlot there
      { slot with inbound := (slot.inbound.pop chunk).2 } handle
    rw [if_pos rfl] at read
    have fits : slot.outbound.size + slot.inbound.toList.length ≤ slot.outbound.capacity := by
      rw [Ring.length_toList]
      omega
    rw [Tunnels.read_of_slot there none few]
    dsimp only
    rw [Tunnels.writeAll_of_room read fits, Tunnels.setSlot_setSlot]
    refine ⟨_, rfl, rfl, (Ring.pop_all few).2, ?_, Ring.capacity_pop _ _, Ring.capacity_push _ _⟩
    have pushed := (Ring.toList_push_of_room fits).2
    rwa [quiet, List.nil_append] at pushed

/-- What a node's application can read on the only channel is sent back. -/
theorem echoTunnels_of_first {node : Node} {others : List Slot}
    (tunnels : node.tunnels = ⟨slot :: others⟩) (bound : slot.channel = some channel)
    (unused : ∀ other ∈ others, other.Unused) (quiet : slot.outbound.toList = [])
    (few : slot.inbound.size ≤ 256) (limit : 256 ≤ node.options.bufferSize)
    (room : 256 ≤ slot.inbound.capacity) (roomBack : 256 ≤ slot.outbound.capacity) :
    ∃ after, echoTunnels node = { node with tunnels := after } ∧
      after.Echoing channel slot.inbound.toList := by
  have chunk : max 1 (min node.options.bufferSize 256) = 256 := by omega
  obtain ⟨after, echoed, own, inbound, outbound, capacity, capacityBack⟩ :=
    @echoChannel_of_slot ⟨slot :: others⟩ ⟨0⟩ channel slot 256 (Tunnels.lookup_first bound) rfl
      quiet (by decide) few (by omega)
  refine ⟨⟨after :: others⟩, ?_, after, others, rfl,
    ⟨.inr (own.trans bound), inbound, outbound, capacity ▸ room, capacityBack ▸ roomBack⟩, unused⟩
  rw [echoTunnels, chunk, tunnels, Tunnels.channels_first bound unused, List.foldl_cons,
    List.foldl_nil, echoed]
  rfl

end Command

/-! ## Polls -/

/-- Bytes up to 248 fit behind the numbers of a tunnel subframe into 256. -/
theorem Subframe.length_tunnel_le {data : List UInt8} (few : data.length ≤ 248)
    (channel : UInt32) :
    (Subframe.clientToServer channel data).encode.length ≤ 256 ∧
      (Subframe.serverToClient channel data).encode.length ≤ 256 := by
  have number := Varuint.size_le channel
  have count : countSize data.length ≤ 2 := by
    refine Varuint.size_le_of_lt (by decide) ?_
    rw [toNat_count (Nat.lt_of_le_of_lt few (by decide))]
    exact Nat.lt_of_le_of_lt few (by decide)
  rw [Varuint.maxSize] at number
  have tag : Varuint.size (Subframe.clientToServer channel data).tag = 1 ∧
      Varuint.size (Subframe.serverToClient channel data).tag = 1 := ⟨rfl, rfl⟩
  simp only [length_encode, size, tag, bodySize]
  omega

/-- An answer within 256 bytes or more has room for 248 bytes of a tunnel. -/
theorem Reply.Writer.tunnelCapacity_ge {limit : Nat} (room : 256 ≤ limit) (channel : UInt32) :
    248 ≤ tunnelCapacity channel { limit } := by
  have number := Varuint.size_le channel
  have largest := Varuint.size_le (.ofNat (min limit (Word.bound 32 - 1)))
  rw [Varuint.maxSize] at number largest
  rw [tunnelCapacity, remaining_empty]
  by_cases wide : 259 ≤ limit
  · omega
  · -- A count of so few bytes takes two of them.
    have small : min limit (Word.bound 32 - 1) = limit :=
      Nat.min_eq_left (Nat.le_trans (Nat.le_of_not_le wide) (by decide))
    have count : Varuint.size (.ofNat limit) ≤ 2 := by
      refine Varuint.size_le_of_lt (by decide) ?_
      rw [Subframe.toNat_count (Nat.lt_of_lt_of_le (Nat.lt_of_not_le wide) (by decide))]
      exact Nat.lt_of_lt_of_le (Nat.lt_of_not_le wide) (by decide)
    rw [small]
    omega

variable {σ : Type} {node : Node} {frame : Frame} {channel : UInt32} {waiting data : List UInt8}

/-- Nothing that waits at such a node is too long for a frame. -/
theorem Node.Echoing.framable (echoing : node.Echoing channel waiting)
    (few : waiting.length ≤ 248) : node.Framable := by
  obtain ⟨slot, others, same, first, unused⟩ := echoing.tunnels
  refine .inr fun other there => ?_
  rw [same] at there
  have bound : 248 + 11 < Word.bound 32 := by decide
  obtain rfl | there := List.mem_cons.1 there
  · rw [← Ring.length_toList, first.outbound]
    omega
  · rw [(unused other there).outbound]
    omega

/-- A poll fetches all that waits. What it brings is there for the application then. -/
theorem Node.Echoing.process (echoing : node.Echoing channel waiting)
    (service : RegisterService σ) (registers : σ) (few : waiting.length ≤ 248)
    (short : data.length ≤ 248) (own : frame.destination = node.id)
    (polls : Dispatch.Polls frame.payload channel data) :
    ∃ bytes slot others stats,
      node.process service frame registers =
        ⟨some bytes, registers,
          { node with tunnels := ⟨slot :: others⟩, stats, phase := .sending }⟩ ∧
      (node.replyFrame frame (Subframe.serverToClient channel waiting).encode).encode =
        .ok bytes ∧
      slot.channel = some channel ∧ slot.inbound.toList = data ∧ slot.outbound.toList = [] ∧
      256 ≤ slot.inbound.capacity ∧ 256 ≤ slot.outbound.capacity ∧
      ∀ other ∈ others, other.Unused := by
  obtain ⟨slot, others, same, first, unused⟩ := echoing.tunnels
  have near : ¬node.Foreign frame := fun foreign => foreign.1 own
  have seat : node.tunnels.seat? channel = some ⟨0⟩ :=
    same ▸ Tunnels.seat?_first first.channel unused
  obtain ⟨tunnels, reply, polled, done⟩ := process_of_polls service registers near polls
  have size := (echoing.framable few).length_lt polled
  cases polled with
  | cramped tight =>
    have number := Varuint.size_le channel
    have limit := echoing.bufferSize
    rw [Varuint.maxSize] at number
    omega
  | full _ none =>
    rw [seat] at none
    cases none
  | seated _ seated there =>
    rw [seat] at seated
    cases seated
    rw [same] at there
    cases there
    have queued : slot.outbound.size = waiting.length := by
      rw [← Ring.length_toList, first.outbound]
    have all : slot.outbound.size ≤ Dispatch.polledCount node.options.bufferSize channel slot :=
      Nat.le_min.2 ⟨Nat.le_refl _, Nat.le_trans (queued ▸ few)
        (Reply.Writer.tunnelCapacity_ge echoing.bufferSize channel)⟩
    obtain ⟨sent, rest⟩ := Ring.pop_all all
    rw [first.outbound] at sent
    rw [Dispatch.answered, sent] at size done
    have encoded : (node.replyFrame frame (Subframe.serverToClient channel waiting).encode).encode =
        .ok (Frame.withChecksum (node.replyFrame frame
          (Subframe.serverToClient channel waiting).encode).body) :=
      Frame.encode_eq_ok.2 ⟨echoing.id, size, rfl⟩
    have answers := answer_eq_some (Dispatch.pollPlan frame.payload) encoded
    rw [if_pos ⟨isBroadcast_of_own own, .inr rfl⟩] at answers
    rw [answers, same] at done
    have empty : slot.inbound.size = 0 := by rw [← Ring.length_toList, first.inbound]; rfl
    have pushed := (@Ring.toList_push_of_room slot.inbound data (by
      have := first.room
      omega)).2
    rw [first.inbound, List.nil_append] at pushed
    exact ⟨_, _, others, _, done, encoded, rfl, pushed, rest,
      (slot.inbound.capacity_push data).symm ▸ first.room,
      (slot.outbound.capacity_pop _).symm ▸ first.roomBack, unused⟩

/-- A station whose application sends tunnel bytes back answers a poll with all that waits, and then
what the poll brought waits. -/
theorem Attended.served_of_echoing (service : RegisterService σ) (registers : σ)
    (echoing : node.Echoing channel waiting) (few : waiting.length ≤ 248)
    (short : data.length ≤ 248) (own : frame.destination = node.id)
    (polls : Dispatch.Polls frame.payload channel data) :
    let attended : Attended σ :=
      { service, upkeep := Command.echoTunnels, station := { node, registers } }
    ∃ bytes after, attended.reply frame = some bytes ∧
      (node.replyFrame frame (Subframe.serverToClient channel waiting).encode).encode =
        .ok bytes ∧
      attended.served frame =
        { service, upkeep := Command.echoTunnels, station := { node := after, registers } } ∧
      after.id = node.id ∧ after.Echoing channel data := by
  intro attended
  obtain ⟨bytes, slot, others, stats, done, encoded, bound, inbound, outbound, room, roomBack,
    unused⟩ := echoing.process service registers few short own polls
  have available : slot.inbound.size ≤ 256 := by
    rw [← Ring.length_toList, inbound]
    omega
  obtain ⟨tunnels, echoed, after⟩ :=
    @Command.echoTunnels_of_first channel slot
      ({ node with tunnels := ⟨slot :: others⟩, stats, phase := .idle } : Node) others rfl bound
      unused outbound available echoing.bufferSize room roomBack
  rw [inbound] at after
  refine ⟨bytes, { node with tunnels, stats, phase := .idle }, ?_, encoded, ?_, rfl,
    ⟨echoing.id, echoing.bufferSize, after⟩⟩
  · show (node.process service frame registers).reply = some bytes
    rw [done]
  · have sent : ({ node with tunnels := ⟨slot :: others⟩, stats, phase := .sending } :
        Node).replySent = { node with tunnels := ⟨slot :: others⟩, stats, phase := .idle } := rfl
    simp only [attended, served]
    rw [done]
    dsimp only
    rw [sent, echoed]

end Multidrop
