import Multidrop.Proofs.Dispatch.Execute
import Multidrop.Proofs.Dispatch.Plan
import Multidrop.Proofs.Reply.Limit
import Multidrop.Proofs.Subframe.Shortest
import Multidrop.Proofs.Tunnel.Slots

/-!
# Polls of a tunnel

A payload that is carried out either polls no tunnel or is one poll and nothing else
(`quiet_or_polls`). The poll itself proves that its empty answer fits (`Polls.least`), and the bytes
that leave the queue are sized such that the answer with them fits as well, so none of them gets
lost on its way into the reply (`execute_of_seat`).
-/
namespace Multidrop

/-- A slot after a poll of its channel: the bytes of the poll are queued for the application, and a
number of bytes for the master have left. -/
def Slot.polled (channel : UInt32) (data : List UInt8) (count : Nat) (slot : Slot) : Slot where
  channel := some channel
  inbound := (slot.inbound.push data).2
  outbound := (slot.outbound.pop count).2

namespace Dispatch

open Subframe (Contents Located)

/-- A payload that is one poll of a channel and nothing else. -/
def Polls (payload : List UInt8) (channel : UInt32) (data : List UInt8) : Prop :=
  (Contents.ofPayload payload).subframes = [.clientToServer channel data] ∧
    (Contents.ofPayload payload).stop = none

instance (payload : List UInt8) (channel : UInt32) (data : List UInt8) :
    Decidable (Polls payload channel data) := inferInstanceAs (Decidable (_ ∧ _))

variable {limit : Nat} {payload : List UInt8} {channel : UInt32} {data : List UInt8}

/-- The plan of a poll. -/
def pollPlan (payload : List UInt8) : Plan := { executable := payload.length, tunnels := 1 }

/-! ## Plans -/

/-- A poll is always planned. -/
theorem Polls.plan (polls : Polls payload channel data) (limit : Nat) :
    Dispatch.plan limit payload = .ok (pollPlan payload) := by
  obtain ⟨same, stop⟩ := polls
  obtain ⟨⟨offset, subframe⟩, alone, rfl⟩ := List.map_eq_singleton_iff.1 same
  rw [Dispatch.plan, alone, stop]
  rfl

/-- Taking a subframe into a plan counts it as a poll or as one that reads or writes registers, and
it is one of these. -/
theorem counts_add {plan after : Plan} {located : Located}
    (taken : plan.add limit located = .ok after) :
    (after.tunnels = plan.tunnels + if located.subframe.isTunnel then 1 else 0) ∧
      (after.registers = plan.registers + if located.subframe.isTunnel then 0 else 1) ∧
      (located.subframe.isTunnel = true →
        ∃ channel data, located.subframe = .clientToServer channel data) := by
  unfold Plan.add at taken
  cases form : located.subframe with
  | writeSingle | writeMultiple =>
    rw [form] at taken
    cases taken
    exact ⟨rfl, rfl, fun tunnel => Bool.noConfusion tunnel⟩
  | readSingle | readMultiple =>
    rw [form] at taken
    simp only [Subframe.isRegisterRequest, if_pos, readFloor?] at taken
    split at taken <;> cases taken
    exact ⟨rfl, rfl, fun tunnel => Bool.noConfusion tunnel⟩
  | clientToServer channel data =>
    rw [form] at taken
    cases taken
    exact ⟨rfl, rfl, fun _ => ⟨channel, data, rfl⟩⟩
  | replySingle | replyMultiple | writeError | readError | serverToClient =>
    rw [form] at taken
    cases taken

/-- Taking subframes into a plan counts the polls and the others. -/
theorem counts_foldlM {located : List Located} {plan after : Plan}
    (taken : located.foldlM (Plan.add limit) plan = .ok after) :
    after.tunnels = plan.tunnels + located.countP (·.subframe.isTunnel) ∧
      after.registers = plan.registers + located.countP (¬·.subframe.isTunnel) ∧
      ∀ item ∈ located, item.subframe.isTunnel = true →
        ∃ channel data, item.subframe = .clientToServer channel data := by
  induction located generalizing plan with
  | nil =>
    cases taken
    exact ⟨rfl, rfl, fun _ there => absurd there List.not_mem_nil⟩
  | cons first rest ih =>
    rw [List.foldlM_cons, bind_eq_ok] at taken
    obtain ⟨between, one, others⟩ := taken
    obtain ⟨tunnels, registers, polls⟩ := ih others
    obtain ⟨tunnel, register, poll⟩ := counts_add one
    refine ⟨?_, ?_, List.forall_mem_cons.2 ⟨poll, polls⟩⟩
    · rw [tunnels, tunnel, List.countP_cons]
      omega
    · rw [registers, register, List.countP_cons]
      cases first.subframe.isTunnel <;> simp
      omega

/-- A payload that is planned polls no tunnel, or it is one poll and nothing else. -/
theorem quiet_or_polls {planned : Plan} (plans : plan limit payload = .ok planned) :
    (∀ subframe ∈ (Contents.ofPayload payload).subframes, subframe.isTunnel = false) ∨
      ∃ channel data, Polls payload channel data := by
  simp only [plan, bind_eq_ok] at plans
  obtain ⟨gathered, taken, closed, close, alone⟩ := plans
  obtain ⟨tunnels, registers, polls⟩ := counts_foldlM taken
  have kept : closed.tunnels = gathered.tunnels ∧ closed.registers = gathered.registers ∧
      (closed.unknownTag.isNone = true → (Contents.ofPayload payload).stop = none) := by
    unfold Plan.close at close
    split at close <;> cases close
    · rename_i whole
      exact ⟨rfl, rfl, fun _ => whole⟩
    · exact ⟨rfl, rfl, fun whole => Bool.noConfusion whole⟩
  have fine : closed.tunnelAlone = true := by
    cases fine : closed.tunnelAlone with
    | true => rfl
    | false =>
      rw [fine, if_neg Bool.false_ne_true] at alone
      cases alone
  simp only [Plan.tunnelAlone, Bool.or_eq_true, Bool.and_eq_true, decide_eq_true_eq] at fine
  rw [kept.1, kept.2.1, tunnels, registers, Nat.zero_add, Nat.zero_add] at fine
  rcases fine with none | ⟨⟨one, others⟩, whole⟩
  · left
    intro subframe there
    obtain ⟨item, inside, rfl⟩ := List.mem_map.1 there
    exact Bool.eq_false_iff.2 (List.countP_eq_zero.1 none item inside)
  · right
    have single : (Contents.ofPayload payload).located.length = 1 := by
      rw [List.length_eq_countP_add_countP (fun item : Located => item.subframe.isTunnel), one]
      exact congrArg (1 + ·) others
    obtain ⟨item, same⟩ := List.length_eq_one_iff.1 single
    rw [same] at one polls
    have tunnel : item.subframe.isTunnel = true :=
      List.countP_eq_length.1 one item (List.mem_singleton_self item)
    obtain ⟨channel, data, poll⟩ := polls item (List.mem_singleton_self item) tunnel
    refine ⟨channel, data, ?_, kept.2.2 whole⟩
    rw [Contents.subframes, same, List.map_singleton, poll]

/-! ## Answers -/

/-- An empty answer to a poll takes no more room than the poll. -/
theorem Polls.least (polls : Polls payload channel data) :
    2 + Varuint.size channel ≤ payload.length := by
  obtain ⟨same, _⟩ := polls
  by_cases empty : payload = []
  · rw [empty, Contents.ofPayload, Contents.subframes, Subframe.Walk.contents_nil] at same
    cases same
  · cases found : Subframe.read 0 payload with
    | error error =>
      rw [Contents.ofPayload, Contents.subframes,
        Subframe.Walk.contents_of_error empty found] at same
      cases same
    | ok pair =>
      obtain ⟨subframe, rest⟩ := pair
      rw [Contents.ofPayload, Contents.subframes, Subframe.Walk.contents_of_read found] at same
      injection same with first
      subst first
      have size := (Subframe.read_shortens found).2.le
      rw [Subframe.length_encode] at size
      have tag : Varuint.size (Subframe.clientToServer channel data).tag = 1 := rfl
      have count := Varuint.size_pos (.ofNat data.length)
      simp only [Subframe.size, tag, Subframe.bodySize, Subframe.countSize] at size
      omega

end Dispatch

namespace Reply.Writer

/-- Bytes up to the capacity of a channel fit behind their header into an empty reply, as long as
one fits that has none. -/
theorem tunnelFits_of_le {limit size : Nat} {channel : UInt32}
    (least : 2 + Varuint.size channel ≤ limit)
    (within : size ≤ tunnelCapacity channel { limit }) :
    tunnelFits channel size { limit } = true := by
  rw [tunnelCapacity, remaining_empty] at within
  rw [tunnelFits, remaining_empty, decide_eq_true_eq]
  by_cases none : size = 0
  · have one : Subframe.countSize 0 = 1 := rfl
    rw [none, one]
    omega
  · have header : Subframe.countSize size ≤
        Varuint.size (.ofNat (min limit (Word.bound 32 - 1))) := by
      by_cases small : size < Word.bound 32
      · apply Varuint.size_mono
        rw [UInt32.le_iff_toNat_le, Subframe.toNat_count small, Subframe.toNat_count (by omega)]
        omega
      · -- The room for so many bytes takes a number of the largest size.
        have most : min limit (Word.bound 32 - 1) = Word.bound 32 - 1 := by omega
        rw [most]
        exact Varuint.size_le _
    omega

end Reply.Writer

namespace Dispatch

variable {σ : Type} {service : RegisterService σ} {limit : Nat} {payload : List UInt8}
  {channel : UInt32} {data : List UInt8} {scene : Scene σ}

/-- Carrying out a poll is nothing but the poll. -/
theorem Polls.execute (polls : Polls payload channel data) :
    execute service (pollPlan payload) payload scene = poll scene channel data := by
  rw [Dispatch.execute, subframes_executable (polls.plan 0), polls.1]
  rfl

/-- Bytes that leave the queue of a slot in the answer to a poll of its channel. -/
def polledCount (limit : Nat) (channel : UInt32) (slot : Slot) : Nat :=
  min slot.outbound.size (Reply.Writer.tunnelCapacity channel { limit })

/-- A reply that is an answer to a poll and nothing else. -/
def answered (limit : Nat) (channel : UInt32) (data : List UInt8) : Reply.Writer where
  limit := limit
  payload := (Subframe.serverToClient channel data).encode

/-- What a poll does to the tunnels, and the reply that it makes. -/
inductive Polled (limit : Nat) (channel : UInt32) (data : List UInt8) (tunnels : Tunnels) :
    Tunnels → Reply.Writer → Prop
  /-- Not even an empty answer fits. Nothing leaves the node. -/
  | cramped (tight : limit < 2 + Varuint.size channel) :
      Polled limit channel data tunnels (tunnels.deliver channel data).2 { limit, omitted := 1 }
  /-- All slots have other channels. -/
  | full (least : 2 + Varuint.size channel ≤ limit) (none : tunnels.seat? channel = none) :
      Polled limit channel data tunnels tunnels (answered limit channel [])
  /-- The front of the channel's queue leaves it, and the bytes of the poll are queued. -/
  | seated {handle : Handle} {slot : Slot} (least : 2 + Varuint.size channel ≤ limit)
      (seat : tunnels.seat? channel = some handle) (there : tunnels.slot? handle = some slot) :
      Polled limit channel data tunnels
        (tunnels.setSlot handle (slot.polled channel data (polledCount limit channel slot)))
        (answered limit channel (slot.outbound.pop (polledCount limit channel slot)).1)

/-- A poll of a channel without a seat is answered without bytes. -/
theorem poll_of_full (empty : scene.reply = { limit })
    (least : 2 + Varuint.size channel ≤ limit) (full : scene.tunnels.seat? channel = none) :
    poll scene channel data = { scene with reply := answered limit channel [] } := by
  have fits := Reply.Writer.tunnelFits_of_le least (Nat.zero_le _)
  rw [poll, empty, Reply.Writer.flush_empty, Tunnels.deliver_of_full data full]
  simp only [Option.elim_none, fits, if_true, List.nil_append]
  rfl

/-- A poll of a channel with a seat is answered with the front of its queue, which leaves the
queue. -/
theorem poll_of_seat {handle : Handle} {slot : Slot} (empty : scene.reply = { limit })
    (least : 2 + Varuint.size channel ≤ limit) (seat : scene.tunnels.seat? channel = some handle)
    (there : scene.tunnels.slot? handle = some slot) :
    poll scene channel data =
      { scene with
        tunnels :=
          scene.tunnels.setSlot handle (slot.polled channel data (polledCount limit channel slot))
        reply :=
          answered limit channel (slot.outbound.pop (polledCount limit channel slot)).1 } := by
  have fits := Reply.Writer.tunnelFits_of_le least
    (Nat.min_le_right slot.outbound.size (Reply.Writer.tunnelCapacity channel { limit }))
  have bound : ∀ after : Slot, (scene.tunnels.setSlot handle after).slot? handle = some after := by
    intro after
    rw [Tunnels.slot?_setSlot there, if_pos rfl]
  have drained := fun after count => Tunnels.drain_of_slot count (bound after)
  rw [polledCount]
  rw [poll, empty, Reply.Writer.flush_empty, Tunnels.deliver_of_seat data seat there]
  simp only [Option.elim_some, Tunnels.pending, bound, fits, if_true, drained,
    Tunnels.setSlot_setSlot, List.nil_append]
  rfl

/-- A poll whose empty answer does not fit takes nothing from the queue. -/
theorem poll_of_cramped (empty : scene.reply = { limit })
    (tight : limit < 2 + Varuint.size channel) :
    poll scene channel data =
      { scene with
        tunnels := (scene.tunnels.deliver channel data).2
        reply := { limit, omitted := 1 } } := by
  have outside : ∀ size, Reply.Writer.tunnelFits channel size { limit } = false := by
    intro size
    have count := Varuint.size_pos (.ofNat size)
    rw [Reply.Writer.tunnelFits, Reply.Writer.remaining_empty, decide_eq_false_iff_not,
      Subframe.countSize]
    omega
  rw [poll, empty, Reply.Writer.flush_empty]
  simp only [outside, Bool.false_eq_true, if_false]

/-- A poll goes in one of these ways. -/
theorem polled_poll (empty : scene.reply = { limit }) :
    ∃ tunnels reply, Polled limit channel data scene.tunnels tunnels reply ∧
      poll scene channel data = { scene with tunnels, reply } := by
  by_cases least : 2 + Varuint.size channel ≤ limit
  · cases seat : scene.tunnels.seat? channel with
    | none => exact ⟨_, _, .full least seat, poll_of_full empty least seat⟩
    | some handle =>
      obtain ⟨slot, there, _⟩ := Tunnels.slot?_seat seat
      exact ⟨_, _, .seated least seat there,
        poll_of_seat empty least seat there⟩
  · have tight := Nat.lt_of_not_le least
    exact ⟨_, _, .cramped tight, poll_of_cramped empty tight⟩

end Dispatch

end Multidrop
