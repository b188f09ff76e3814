import Multidrop.Frame.Writer
import Multidrop.Node.Linked
import Multidrop.Proofs.Frame.Lossless
import Multidrop.Proofs.Node.Replies

/-!
# Stations at the far end of a line

A frame that is written to a station in any pieces is handled when its last byte is there, and only
then: what arrives in answer is the reply to it, if it gets one (`Line.offer_frame`). Until then the
station keeps the bytes and stays as it is (`Attended.Hears`). A station may also be behind a far
end that breaks its answers into other pieces (`Attended.Relays`).
-/
namespace Multidrop

variable {σ : Type}

namespace Station

variable {service : RegisterService σ} {upkeep : Node → Node} {station after : Station σ}
  {frame : Frame} {bytes : List UInt8}

/-- Nothing is handled before a frame is complete. -/
theorem settle_of_incomplete (looked : station.receive service = (.incomplete, after)) :
    station.settle service upkeep = ([], after) := by
  rw [settle]
  split <;> rename_i found <;> rw [looked] at found <;> cases found
  · rfl
  · rw [dif_pos rfl]

/-- What was handled is followed by what the rest comes to. -/
theorem settle_of_handled {received : Received}
    (looked : station.receive service = (received, after)) (handled : received ≠ .incomplete) :
    station.settle service upkeep =
      let rest := ({ after.replySent with node := upkeep after.replySent.node } : Station σ).settle
        service upkeep
      (received :: rest.1, rest.2) := by
  rw [settle]
  split <;> rename_i found <;> rw [looked] at found <;> cases found
  · exact absurd rfl handled
  · rw [dif_neg handled]

/-- Where a pass leaves the buffer as it is, only the phase changes. -/
theorem receive_of_kept (kept : Frame.pass station.node.options.bufferSize station.buffer =
      { skipped := [], outcome := .incomplete, consumed := [], rest := station.buffer }) :
    station.receive service =
      (.incomplete,
        { station with
          node :=
            { station.node with phase := if station.buffer = [] then .idle else .accumulating } }) := by
  unfold receive
  rw [kept]
  dsimp only
  rw [Node.capture, Ring.push_nil]

/-- A whole frame is handled. -/
theorem receive_frame (encoded : frame.encode = .ok bytes)
    (fits : frame.payload.length ≤ station.node.options.bufferSize)
    (buffer : station.buffer = bytes) :
    station.receive service =
      let handled := ({ station.node with phase := .accumulating } : Node).process service frame
        station.registers
      (handled.reply.elim .handled .reply,
        { node := handled.node, registers := handled.registers, buffer := [] }) := by
  have whole := Frame.pass_encode encoded fits []
  rw [List.append_nil] at whole
  unfold receive
  rw [buffer, whole]
  dsimp only
  rw [Node.capture, Ring.push_nil]

/-- What a frame is answered with is a frame, and so not empty. -/
theorem ne_nil_of_receive (looked : station.receive service = (.reply bytes, after)) :
    bytes ≠ [] := by
  unfold receive at looked
  dsimp only at looked
  split at looked
  · cases looked
  · cases looked
  · rename_i frame _
    cases given : (Node.process service frame station.registers
        (({ station.node with phase := .accumulating } : Node).capture
          (Frame.pass station.node.options.bufferSize station.buffer).skipped)).reply with
    | none =>
      rw [given] at looked
      cases looked
    | some answer =>
      rw [given] at looked
      cases looked
      obtain ⟨_, encoded, _⟩ := Node.encode_of_answered given
      exact Frame.encode_ne_nil encoded

end Station

namespace Attended

variable {attended between : Attended σ} {frame : Frame} {limit : Nat}
  {front back piece : List UInt8}

/-- What a station answers a frame with. -/
def reply (frame : Frame) (attended : Attended σ) : Option (List UInt8) :=
  (attended.station.node.process attended.service frame attended.station.registers).reply

/-- A station that has handled a frame and written the reply to it. -/
def served (frame : Frame) (attended : Attended σ) : Attended σ :=
  let handled :=
    attended.station.node.process attended.service frame attended.station.registers
  { attended with
    station :=
      { node := { attended.upkeep handled.node.replySent with phase := .idle }
        registers := handled.registers } }

/-- A station with a payload limit that stays, ready for a frame. -/
structure Attentive (limit : Nat) (attended : Attended σ) : Prop where
  /-- The application leaves the limits alone. -/
  upkeep : ∀ node, (attended.upkeep node).options = node.options
  /-- The payload limit. -/
  bufferSize : attended.station.node.options.bufferSize = limit
  /-- No part of a frame is kept. -/
  buffer : attended.station.buffer = []

/-- A station with a payload limit that stays, whose node takes no broadcasts. -/
structure Steady (limit : Nat) (attended : Attended σ) : Prop where
  /-- The application leaves the limits alone. -/
  upkeep : ∀ node, (attended.upkeep node).options = node.options
  /-- The payload limit. -/
  bufferSize : attended.station.node.options.bufferSize = limit
  /-- No broadcast is taken. -/
  single : attended.station.node.options.broadcastId = none
  /-- No part of a frame is kept. -/
  buffer : attended.station.buffer = []

/-- Noting a reply as written keeps the limits of a node. -/
theorem options_replySent (node : Node) : node.replySent.options = node.options := by
  unfold Node.replySent
  split <;> rfl

/-- Where the application leaves the limits alone, handling a frame does so. -/
theorem options_served (upkeep : ∀ node, (attended.upkeep node).options = node.options)
    (frame : Frame) :
    (attended.served frame).station.node.options = attended.station.node.options := by
  show (attended.upkeep _).options = _
  rw [upkeep, options_replySent, Node.options_process]

/-- A station that has handled a frame is ready for the next one. -/
theorem Attentive.served (attentive : attended.Attentive limit) (frame : Frame) :
    (attended.served frame).Attentive limit :=
  ⟨attentive.upkeep,
    (congrArg _ (options_served attentive.upkeep frame)).trans attentive.bufferSize, rfl⟩

/-- A steady station is ready for a frame. -/
theorem Steady.attentive (steady : attended.Steady limit) : attended.Attentive limit :=
  ⟨steady.upkeep, steady.bufferSize, steady.buffer⟩

/-- A steady station stays so. -/
theorem Steady.served (steady : attended.Steady limit) (frame : Frame) :
    (attended.served frame).Steady limit := by
  obtain ⟨upkeep, bufferSize, buffer⟩ := steady.attentive.served frame
  exact ⟨upkeep, bufferSize,
    (congrArg _ (options_served steady.upkeep frame)).trans steady.single, buffer⟩

/-- A station that has received a part of a frame and has done nothing about it. -/
def Hears (attended : Attended σ) (front : List UInt8) (between : Attended σ) : Prop :=
  ∃ phase, between =
    { attended with
      station :=
        { attended.station with
          node := { attended.station.node with phase }
          buffer := front } }

/-- A station that has received nothing. -/
theorem Attentive.hears (attentive : attended.Attentive limit) : attended.Hears [] attended :=
  ⟨attended.station.node.phase, by rw [← attentive.buffer]⟩

/-- A piece of a frame that is not the last is not answered. -/
theorem answer_front (attentive : attended.Attentive limit) (hears : attended.Hears front between)
    (encoded : frame.encode = .ok (front ++ piece ++ back)) (fits : frame.payload.length ≤ limit)
    (part : back ≠ []) :
    ∃ after, Peer.answer between piece = ([], after) ∧ attended.Hears (front ++ piece) after := by
  obtain ⟨phase, rfl⟩ := hears
  rw [← attentive.bufferSize] at fits
  simp only [Peer.answer, Station.feed]
  have looked := @Station.receive_of_kept _ attended.service
    { attended.station with
      node := { attended.station.node with phase }
      buffer := front ++ piece } (Frame.pass_front encoded fits part)
  rw [Station.settle_of_incomplete looked]
  exact ⟨_, rfl, _, rfl⟩

/-- The last piece of a frame is answered with the reply to the frame. -/
theorem answer_back (attentive : attended.Attentive limit) (hears : attended.Hears front between)
    (encoded : frame.encode = .ok (front ++ piece)) (fits : frame.payload.length ≤ limit) :
    Peer.answer between piece =
      ((attended.reply frame).toList.map Arrival.data, attended.served frame) := by
  obtain ⟨phase, rfl⟩ := hears
  rw [← attentive.bufferSize] at fits
  have looked := @Station.receive_frame _ attended.service
    { attended.station with
      node := { attended.station.node with phase }
      buffer := front ++ piece } frame (front ++ piece) encoded fits rfl
  have same : ({ attended.station.node with phase := .accumulating } : Node).process
      attended.service frame attended.station.registers =
        attended.station.node.process attended.service frame attended.station.registers := rfl
  dsimp only at looked
  rw [same] at looked
  simp only [Peer.answer, Station.feed, reply, served]
  generalize attended.station.node.process attended.service frame attended.station.registers =
    handled at looked
  have found : handled.reply.elim Received.handled Received.reply ≠ .incomplete := by
    cases handled.reply <;> nofun
  rw [Station.settle_of_handled looked found]
  have quiet := @Station.receive_of_kept _ attended.service
    { node := attended.upkeep handled.node.replySent, registers := handled.registers, buffer := [] }
    rfl
  dsimp only [Station.replySent]
  rw [Station.settle_of_incomplete quiet]
  refine Prod.ext ?_ rfl
  cases handled.reply <;> rfl

/-! ## Far ends that pass everything on -/

/-- A far end that passes all bytes on to a station, and all bytes of its answers back, in whatever
pieces. -/
structure Relays {π : Type} [Peer π] (station : π → Attended σ) : Prop where
  /-- The station gets the bytes. -/
  onward : ∀ (peer : π) bytes,
    station (Peer.answer peer bytes).2 = (Peer.answer (station peer) bytes).2
  /-- Only bytes come back. -/
  pieces : ∀ (peer : π) bytes, ∀ arrival ∈ (Peer.answer peer bytes).1,
    ∃ piece, piece ≠ [] ∧ arrival = .data piece
  /-- They are those of the station. -/
  back : ∀ (peer : π) bytes, (Peer.answer peer bytes).1.flatMap Arrival.bytes =
    (Peer.answer (station peer) bytes).1.flatMap Arrival.bytes

/-- What a station answers with is not empty. -/
theorem ne_nil_of_settle {service : RegisterService σ} {upkeep : Node → Node}
    (station : Station σ) :
    ∀ bytes ∈ (station.settle service upkeep).1.filterMap Received.reply?, bytes ≠ [] := by
  induction left : station.buffer.length using Nat.strongRecOn generalizing station with
  | ind size ih =>
    cases looked : station.receive service with
    | mk received after =>
      by_cases found : received = .incomplete
      · subst found
        rw [Station.settle_of_incomplete looked]
        exact fun _ there => absurd there List.not_mem_nil
      · have shorter := @Station.length_buffer_receive_lt _ service station
          (by rw [looked]; exact found)
        rw [looked, left] at shorter
        have later := ih _ shorter
          { after.replySent with node := upkeep after.replySent.node } rfl
        rw [Station.settle_of_handled looked found]
        intro bytes there
        rw [List.filterMap_cons] at there
        cases received with
        | incomplete => exact absurd rfl found
        | handled => exact later bytes there
        | reply answer =>
          rcases List.mem_cons.1 there with rfl | there
          · exact Station.ne_nil_of_receive looked
          · exact later bytes there

/-- A station at the far end itself passes everything on. -/
theorem relays_id : Relays (id : Attended σ → Attended σ) where
  onward _ _ := rfl
  pieces peer bytes := by
    intro arrival there
    obtain ⟨piece, inside, rfl⟩ := List.mem_map.1 there
    exact ⟨piece, ne_nil_of_settle _ piece inside, rfl⟩
  back _ _ := rfl

end Attended

namespace Line

/-- A write that takes something, or is only interrupted. -/
def Patient (take : Take) : Prop := (∃ limit, take = .accept (limit + 1)) ∨ take = .fault .interrupted

/-- A line that takes everything it is offered in the end. -/
structure Accepting {π : Type} (line : Line π) : Prop where
  /-- Every write takes something or is interrupted. -/
  takes : ∀ take ∈ line.takes, Patient take
  /-- Every flush succeeds. -/
  flushFaults : line.flushFaults = []

/-- A write to an accepting line delivers a piece of the bytes, or is only interrupted. -/
theorem Accepting.write {π : Type} [Peer π] {line after : Line π} {bytes : List UInt8}
    {result : Except Fault.Kind Nat} (accepting : line.Accepting) (nonempty : bytes ≠ [])
    (wrote : line.write bytes = (result, after)) :
    ∃ takes, ({ line with takes } : Line π).Accepting ∧
      ((∃ count, result = .ok (count + 1) ∧
          after = { line with takes }.deliver (bytes.take (count + 1))) ∨
        result = .error .interrupted ∧ after = { line with takes }) := by
  have some := List.length_pos_iff.2 nonempty
  unfold Line.write at wrote
  cases script : line.takes with
  | nil =>
    rw [script] at wrote
    cases wrote
    have all : bytes.length - 1 + 1 = bytes.length := Nat.sub_add_cancel some
    refine ⟨line.takes, accepting, .inl ⟨bytes.length - 1, by rw [all], ?_⟩⟩
    rw [all, List.take_length]
  | cons take takes =>
    have others : ({ line with takes } : Line π).Accepting :=
      ⟨fun take there => accepting.takes take (script ▸ List.mem_cons_of_mem _ there),
        accepting.flushFaults⟩
    rw [script] at wrote
    rcases accepting.takes take (script ▸ List.mem_cons_self) with ⟨limit, rfl⟩ | rfl
    · cases wrote
      have part : min (limit + 1) bytes.length - 1 + 1 = min (limit + 1) bytes.length :=
        Nat.sub_add_cancel (by omega)
      refine ⟨takes, others, .inl ⟨min (limit + 1) bytes.length - 1, by rw [part], ?_⟩⟩
      rw [part, ← List.take_eq_take_min]
    · cases wrote
      exact ⟨takes, others, .inr ⟨rfl, rfl⟩⟩

variable {π : Type} [Peer π] {station : π → Attended σ} {line : Line π} {attended : Attended σ}
  {frame : Frame} {limit : Nat} {front back : List UInt8}

/-- A piece of a frame that is not the last one brings nothing. -/
theorem deliver_front {piece rest : List UInt8} (relays : Attended.Relays station)
    (attentive : attended.Attentive limit) (hears : attended.Hears front (station line.peer))
    (encoded : frame.encode = .ok (front ++ (piece ++ rest)))
    (fits : frame.payload.length ≤ limit) (some : piece ≠ []) (part : rest ≠ []) :
    ∃ peer, line.deliver piece = { line with peer, written := line.written ++ piece } ∧
      attended.Hears (front ++ piece) (station peer) := by
  rw [← List.append_assoc] at encoded
  obtain ⟨after, answered, later⟩ := Attended.answer_front attentive hears encoded fits part
  have onward := relays.onward line.peer piece
  have back := relays.back line.peer piece
  rw [answered] at onward back
  have silent := Arrival.eq_nil_of_bytes (relays.pieces line.peer piece) back
  refine ⟨(Peer.answer line.peer piece).2, ?_, ?_⟩
  · rw [deliver, if_neg some]
    dsimp only
    rw [silent, List.append_nil]
  · rw [onward]
    exact later

/-- The last piece of a frame brings the reply. -/
theorem deliver_back (relays : Attended.Relays station) (attentive : attended.Attentive limit)
    (hears : attended.Hears front (station line.peer))
    (encoded : frame.encode = .ok (front ++ back)) (fits : frame.payload.length ≤ limit)
    (part : back ≠ []) :
    ∃ peer more,
      line.deliver back =
        { line with peer, written := line.written ++ back, arrivals := line.arrivals ++ more } ∧
      station peer = attended.served frame ∧
      (∀ arrival ∈ more, ∃ piece, piece ≠ [] ∧ arrival = .data piece) ∧
      more.flatMap Arrival.bytes = (attended.reply frame).getD [] := by
  have answered := Attended.answer_back attentive hears encoded fits
  have onward := relays.onward line.peer back
  have reply := relays.back line.peer back
  rw [answered] at onward reply
  refine ⟨(Peer.answer line.peer back).2, (Peer.answer line.peer back).1, ?_, onward,
    relays.pieces line.peer back, ?_⟩
  · rw [deliver, if_neg part]
  · rw [reply]
    cases attended.reply frame with
    | none => rfl
    | some bytes => exact List.append_nil bytes

/-- The rest of a frame is taken in any pieces. When all of it is there, what arrives in answer is
the reply to the frame. -/
theorem offer_frame (relays : Attended.Relays station) (accepting : line.Accepting)
    (attentive : attended.Attentive limit) (hears : attended.Hears front (station line.peer))
    (encoded : frame.encode = .ok (front ++ back)) (fits : frame.payload.length ≤ limit)
    (part : back ≠ []) :
    ∃ after more, line.offer (· = .interrupted) back = (.complete, [], after) ∧ after.Accepting ∧
      station after.peer = attended.served frame ∧ after.idle = line.idle ∧
      after.arrivals = line.arrivals ++ more ∧
      (∀ arrival ∈ more, ∃ piece, piece ≠ [] ∧ arrival = .data piece) ∧
      more.flatMap Arrival.bytes = (attended.reply frame).getD [] := by
  fun_induction offer (· = Fault.Kind.interrupted) back line generalizing front with
  | case1 line => exact absurd rfl part
  | case2 bytes line nonempty after wrote =>
    obtain ⟨_, _, ⟨_, impossible, _⟩ | ⟨impossible, _⟩⟩ := accepting.write nonempty wrote <;>
      cases impossible
  | case3 bytes line nonempty count after wrote ih =>
    obtain ⟨takes, others, ⟨_, same, rfl⟩ | ⟨impossible, _⟩⟩ := accepting.write nonempty wrote
    · cases same
      by_cases last : bytes.drop (count + 1) = []
      · have whole : bytes.take (count + 1) = bytes :=
          List.take_of_length_le (List.drop_eq_nil_iff.1 last)
        obtain ⟨peer, more, delivered, served, pieces, reply⟩ :=
          @deliver_back _ _ _ _ { line with takes } _ _ _ _ _ relays attentive hears encoded fits
            nonempty
        rw [whole, last, delivered, offer, if_pos rfl]
        exact ⟨_, more, rfl, ⟨others.takes, others.flushFaults⟩, served, rfl, rfl, pieces, reply⟩
      · have piece : bytes.take (count + 1) ≠ [] := by
          intro none
          rcases List.take_eq_nil_iff.1 none with zero | empty
          · cases zero
          · exact nonempty empty
        rw [← List.take_append_drop (count + 1) bytes] at encoded
        obtain ⟨peer, delivered, later⟩ :=
          @deliver_front _ _ _ _ { line with takes } _ _ _ _ _ _ relays attentive hears encoded fits
            piece last
        rw [delivered] at ih ⊢
        rw [← List.append_assoc] at encoded
        exact ih ⟨others.takes, others.flushFaults⟩ later encoded last
    · cases impossible
  | case4 bytes line nonempty kind after wrote again ih =>
    obtain ⟨takes, others, ⟨_, impossible, _⟩ | ⟨_, rfl⟩⟩ := accepting.write nonempty wrote
    · cases impossible
    · exact ih others hears encoded part
  | case5 bytes line nonempty kind after wrote final =>
    obtain ⟨takes, others, ⟨_, impossible, _⟩ | ⟨same, _⟩⟩ := accepting.write nonempty wrote
    · cases impossible
    · cases same
      exact absurd (by decide) final

end Line

end Multidrop
