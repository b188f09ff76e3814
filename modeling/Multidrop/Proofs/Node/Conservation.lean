import Multidrop.Proofs.Node.Polls
import Multidrop.Proofs.Reply.Partial
import Multidrop.Proofs.Tunnel.Ledger

/-!
# Tunnel bytes are not lost

Bytes that an application has written to a channel wait in the node until a reply carries them off.
Over a run of a node, whatever is done to it, the bytes of a channel in its replies and the bytes
that still wait there are the bytes that the application's writes accepted, in order
(`Runs.conserved`). The one way around this is a poll of the channel that gets no reply: a broadcast
poll takes bytes from the queue all the same, and they are lost (`bytes_lost_of_broadcast`).
-/
namespace Multidrop

/-- The bytes of a channel in an item of a reply. -/
def Reply.Item.dataOn (channel : UInt32) : Item → List UInt8
  | .tunnel other data => if other = channel then data else []
  | .value .. | .readError .. | .writeError .. => []

namespace Node

/-- The bytes of a channel in an encoded reply frame. -/
def carriedBy (channel : UInt32) (bytes : List UInt8) : List UInt8 :=
  match Frame.parse bytes with
  | .error _ => []
  | .ok frame =>
    match Reply.parse frame.payload with
    | .error _ => []
    | .ok reply => reply.items.flatMap (Reply.Item.dataOn channel)

/-! ## Runs -/

/-- Something that is done to a node. The application's registers may be others every time. -/
inductive Deed : Type 1 where
  /-- Handle a frame. -/
  | process {σ : Type} (service : RegisterService σ) (frame : Frame) (registers : σ)
  /-- Look for a frame among received bytes and handle it. -/
  | receive {σ : Type} (service : RegisterService σ) (registers : σ) (buffer : List UInt8)
  | replySent
  | recordFault (error : Frame.Error)
  | recordDiscarded (bytes : List UInt8)
  | readUnknown (count : Nat)
  | openTunnel (channel : UInt32)
  | readTunnel (handle : Handle) (count : Nat)
  | writeTunnel (handle : Handle) (bytes : List UInt8)
  | setId {ω : Type} [ConfigStore ω] (id : UInt8) (store : Option ω)

namespace Deed

/-- The node afterwards. -/
def after : Deed → Node → Node
  | .process service frame registers, node => (node.process service frame registers).node
  | .receive service registers buffer, node =>
    (Station.receive service { node, registers, buffer }).2.node
  | .replySent, node => node.replySent
  | .recordFault error, node => node.recordFault error
  | .recordDiscarded bytes, node => node.recordDiscarded bytes
  | .readUnknown count, node => (node.readUnknown count).2
  | .openTunnel channel, node => (node.openTunnel channel).2
  | .readTunnel handle count, node =>
    { node with tunnels := (node.tunnels.read handle count).2 }
  | .writeTunnel handle bytes, node =>
    { node with tunnels := (node.tunnels.write handle bytes).2 }
  | @setId _ _ id store, node => (node.setId id store).2.2

/-- The reply that is returned, if there is one. -/
def reply? : Deed → Node → Option (List UInt8)
  | .process service frame registers, node => (node.process service frame registers).reply
  | .receive service registers buffer, node =>
    (Station.receive service { node, registers, buffer }).1.reply?
  | .replySent, _ | .recordFault _, _ | .recordDiscarded _, _ | .readUnknown _, _
  | .openTunnel _, _ | .readTunnel .., _ | .writeTunnel .., _ | @setId .., _ => none

/-- The frame that is handled, if there is one. -/
def frame? : Deed → Node → Option Frame
  | .process _ frame _, _ => some frame
  | .receive _ _ buffer, node =>
    match (Frame.pass node.options.bufferSize buffer).outcome with
    | .frame frame => some frame
    | .incomplete | .fault _ => none
  | .replySent, _ | .recordFault _, _ | .recordDiscarded _, _ | .readUnknown _, _
  | .openTunnel _, _ | .readTunnel .., _ | .writeTunnel .., _ | @setId .., _ => none

/-- The bytes that a write through a handle accepts. -/
def accepted (handle : Handle) : Deed → Node → List UInt8
  | .writeTunnel own bytes, node => if handle = own then node.tunnels.taken own bytes else []
  | .process .., _ | .receive .., _ | .replySent, _ | .recordFault _, _ | .recordDiscarded _, _
  | .readUnknown _, _ | .openTunnel _, _ | .readTunnel .., _ | @setId .., _ => []

end Deed

/-- Something that was done to a node. -/
structure Event where
  /-- The node before. -/
  before : Node
  /-- What was done. -/
  deed : Deed

/-- What is done to a node one after another, and the node that it leads to. -/
inductive Runs (start : Node) : List Event → Node → Prop
  /-- Nothing has been done. -/
  | start : Runs start [] start
  /-- Something more is done. -/
  | deed {events : List Event} {node : Node} (runs : Runs start events node) (deed : Deed) :
      Runs start (events ++ [⟨node, deed⟩]) (deed.after node)

/-- The bytes of a channel in the replies of a run. -/
def carried (channel : UInt32) (events : List Event) : List UInt8 :=
  events.flatMap fun event => (event.deed.reply? event.before).elim [] (carriedBy channel)

/-- The bytes that the writes of a run through a handle accepted. -/
def accepted (handle : Handle) (events : List Event) : List UInt8 :=
  events.flatMap fun event => event.deed.accepted handle event.before

/-- Whether a poll of a channel gets no reply, because it is for all nodes. -/
def Event.Withholds (channel : UInt32) (event : Event) : Prop :=
  ∃ frame data, event.deed.frame? event.before = some frame ∧
    event.before.isBroadcast frame = true ∧ Dispatch.Polls frame.payload channel data

/-! ## Replies -/

variable {σ : Type} {service : RegisterService σ} {registers : σ} {node : Node} {frame : Frame}
  {channel other : UInt32} {data : List UInt8}

/-- The bytes of a channel in a reply with a payload are those in the items of the payload. -/
theorem carriedBy_of_encode {payload bytes : List UInt8} {reply : Reply}
    (encoded : (node.replyFrame frame payload).encode = .ok bytes)
    (parsed : Reply.parse payload = .ok reply) :
    carriedBy channel bytes = reply.items.flatMap (Reply.Item.dataOn channel) := by
  have payloadEq : (node.replyFrame frame payload).payload = payload := rfl
  rw [carriedBy, Frame.parse_encode encoded]
  dsimp only
  rw [payloadEq, parsed]

/-- An answer, if there is one, is a written reply frame. -/
theorem encode_of_answer {plan : Dispatch.Plan} {payload bytes : List UInt8}
    (given : node.answer frame plan payload = some bytes) :
    (node.replyFrame frame payload).encode = .ok bytes := by
  unfold answer at given
  split at given
  · cases given
  · split at given
    · cases given
    · rename_i encoded
      cases given
      exact encoded

/-- A frame that polls no tunnel is answered without bytes of a channel. -/
theorem carriedBy_of_quiet {plan : Dispatch.Plan} {bytes : List UInt8}
    (planned : Dispatch.plan node.options.bufferSize frame.payload = .ok plan)
    (quiet : ∀ subframe ∈ (Subframe.Contents.ofPayload frame.payload).subframes,
      subframe.isTunnel = false)
    (given : node.answer frame plan
      (Dispatch.execute service plan frame.payload
        (node.scene registers)).reply.finish.payload = some bytes) :
    carriedBy channel bytes = [] := by
  have encoded := encode_of_answer given
  have short := (Frame.encode_eq_ok.1 encoded).2.1
  have done : Dispatch.execute service plan frame.payload (node.scene registers) =
      (node.scene registers).after (service.answerAll registers
        ((Subframe.Contents.ofPayload frame.payload).subframes.flatMap Subframe.calls)) := by
    rw [Dispatch.execute, Dispatch.subframes_executable planned]
    exact Dispatch.foldl_act _ quiet
  have empty : ∀ run ∈ ({ limit := node.options.bufferSize } : Reply.Writer).run, run.Proper := by
    intro run there
    cases there
  have follows := Reply.Writer.Follows.foldl empty (service.answerAll registers
      ((Subframe.Contents.ofPayload frame.payload).subframes.flatMap Subframe.calls)).1
  rw [done] at encoded short
  obtain ⟨kept, parsed, some, _⟩ := Reply.Writer.parse_of_follows follows short
  rw [carriedBy_of_encode encoded parsed, List.flatMap_eq_nil_iff]
  intro item there
  cases item with
  | tunnel other data =>
    exact absurd (some.subset there) (service.tunnel_notMem_answerAll _ _ other data)
  | value | readError | writeError => rfl

/-- The answer to a poll of any channel carries what its one subframe has for the channel, if it is
one of the channel's own. -/
theorem carriedBy_of_sent {limit : Nat} {sent : List UInt8} (small : node.id ≤ Frame.maxId)
    (heard : other = channel → frame.destination = node.id)
    (short : (Dispatch.answered limit other sent).payload.length < Word.bound 32) :
    (node.answer frame (Dispatch.pollPlan frame.payload)
        (Dispatch.answered limit other sent).payload).elim [] (carriedBy channel) =
      if other = channel then sent else [] := by
  have payload : (Dispatch.answered limit other sent).payload =
      (Subframe.serverToClient other sent).encode := rfl
  rw [payload] at short ⊢
  have parsed := parse_answered short
  by_cases mine : other = channel
  · obtain ⟨bytes, given, _⟩ := answer_of_polls small (heard mine) short
    rw [given, Option.elim_some, carriedBy_of_encode (encode_of_answer given) parsed]
    exact List.append_nil _
  · cases given : node.answer frame (Dispatch.pollPlan frame.payload)
        (Subframe.serverToClient other sent).encode with
    | none => rw [Option.elim_none, if_neg mine]
    | some bytes =>
      rw [Option.elim_some, carriedBy_of_encode (encode_of_answer given) parsed]
      exact List.append_nil _

/-- An answer without subframes carries nothing. -/
theorem carriedBy_of_nothing (plan : Dispatch.Plan) :
    (node.answer frame plan []).elim [] (carriedBy channel) = [] := by
  cases given : node.answer frame plan [] with
  | none => rfl
  | some bytes =>
    have parsed : Reply.parse [] = .ok ⟨[]⟩ := by
      rw [Reply.parse, Subframe.Contents.ofPayload, Subframe.Contents.subframes,
        Subframe.Walk.contents_nil]
      rfl
    rw [Option.elim_some, carriedBy_of_encode (encode_of_answer given) parsed]
    rfl

/-! ## The account -/

variable {carriedSoFar : List UInt8} {acceptedSoFar : Handle → List UInt8}

/-- A poll keeps the account, if it is answered where it is one of the channel. -/
theorem ledger_of_polls
    (ledger : node.tunnels.Ledger channel carriedSoFar acceptedSoFar)
    (small : node.id ≤ Frame.maxId) (framable : node.Framable) (near : ¬node.Foreign frame)
    (polls : Dispatch.Polls frame.payload other data)
    (heard : other = channel → frame.destination = node.id) :
    (node.process service frame registers).node.tunnels.Ledger channel
      (carriedSoFar ++
        (node.process service frame registers).reply.elim [] (carriedBy channel))
      acceptedSoFar := by
  obtain ⟨tunnels, reply, polled, done⟩ := process_of_polls service registers near polls
  have short := framable.length_lt polled
  rw [done]
  dsimp only
  cases polled with
  | cramped _ =>
    rw [carriedBy_of_nothing, List.append_nil]
    exact ledger.deliver other data
  | full _ _ =>
    rw [carriedBy_of_sent small heard short, ite_self, List.append_nil]
    exact ledger
  | @seated handle slot _ seat there =>
    rw [carriedBy_of_sent small heard short]
    by_cases mine : other = channel
    · subst mine
      rw [if_pos rfl]
      obtain ⟨front, back⟩ :=
        slot.outbound.pop_eq (Dispatch.polledCount node.options.bufferSize other slot)
      refine ledger.own seat there rfl ?_
      rw [front, List.append_assoc]
      show carriedSoFar ++ (_ ++ (slot.outbound.pop _).2.toList) = _
      rw [back, List.take_append_drop]
      exact ledger.seat seat there
    · rw [if_neg mine, List.append_nil]
      exact ledger.elsewhere seat there mine rfl

/-- Handling a frame keeps the account, unless the frame is a broadcast poll of the channel. -/
theorem ledger_process (service : RegisterService σ) (registers : σ)
    (ledger : node.tunnels.Ledger channel carriedSoFar acceptedSoFar)
    (small : node.id ≤ Frame.maxId) (framable : node.Framable)
    (heard : ∀ data, node.isBroadcast frame = true →
      ¬Dispatch.Polls frame.payload channel data) :
    (node.process service frame registers).node.tunnels.Ledger channel
      (carriedSoFar ++
        (node.process service frame registers).reply.elim [] (carriedBy channel))
      acceptedSoFar := by
  by_cases foreign : node.Foreign frame
  · rw [process_of_foreign foreign, passOver, captureFrame_eq, Option.elim_none, List.append_nil]
    exact ledger
  · cases planned : Dispatch.plan node.options.bufferSize frame.payload with
    | error error =>
      rw [process_of_refused foreign planned, Option.elim_none, List.append_nil]
      exact ledger
    | ok plan =>
      rcases Dispatch.quiet_or_polls planned with quiet | ⟨other, data, polls⟩
      · have tunnels : (Dispatch.execute service plan frame.payload
            (node.scene registers)).tunnels = node.tunnels := by
          rw [Dispatch.execute, Dispatch.subframes_executable planned,
            Dispatch.foldl_act _ quiet]
          rfl
        rw [process_of_planned foreign planned]
        dsimp only
        rw [tunnels]
        cases given : node.answer frame plan (Dispatch.execute service plan frame.payload
            (node.scene registers)).reply.finish.payload with
        | none =>
          rw [Option.elim_none, List.append_nil]
          exact ledger
        | some bytes =>
          rw [Option.elim_some, carriedBy_of_quiet planned quiet given, List.append_nil]
          exact ledger
      · refine ledger_of_polls ledger small framable foreign polls ?_
        rintro rfl
        exact own_of_not_foreign foreign
          (Bool.eq_false_iff.2 fun all => heard data all polls)

/-- A reply is what it was made an outcome of. -/
theorem reply?_elim (reply : Option (List UInt8)) :
    (reply.elim .handled .reply : Received).reply? = reply := by
  cases reply <;> rfl

/-- Handling a frame among received bytes keeps the account like handling the frame alone. -/
theorem ledger_receive (service : RegisterService σ) (registers : σ) (buffer : List UInt8)
    (ledger : node.tunnels.Ledger channel carriedSoFar acceptedSoFar)
    (small : node.id ≤ Frame.maxId) (framable : node.Framable)
    (heard : ∀ frame data,
      (Deed.receive service registers buffer).frame? node = some frame →
      node.isBroadcast frame = true → ¬Dispatch.Polls frame.payload channel data) :
    (Station.receive service { node, registers, buffer }).2.node.tunnels.Ledger channel
      (carriedSoFar ++
        (Station.receive service { node, registers, buffer }).1.reply?.elim []
          (carriedBy channel))
      acceptedSoFar := by
  unfold Station.receive
  dsimp only
  rw [Deed.frame?] at heard
  cases outcome : (Frame.pass node.options.bufferSize buffer).outcome with
  | incomplete =>
    rw [Received.reply?, Option.elim_none, List.append_nil]
    exact ledger
  | fault error =>
    rw [Received.reply?, Option.elim_none, List.append_nil]
    exact ledger
  | frame frame =>
    rw [outcome] at heard
    dsimp only
    rw [reply?_elim]
    exact ledger_process service registers ledger small framable fun data =>
      heard frame data rfl

/-- Whatever is done to a node keeps the account, unless it is a broadcast poll of the channel. -/
theorem Deed.ledger_after (deed : Deed)
    (ledger : node.tunnels.Ledger channel carriedSoFar acceptedSoFar)
    (small : node.id ≤ Frame.maxId) (framable : node.Framable)
    (heard : ¬(Event.mk node deed).Withholds channel) :
    (deed.after node).tunnels.Ledger channel
      (carriedSoFar ++ (deed.reply? node).elim [] (carriedBy channel))
      fun handle => acceptedSoFar handle ++ deed.accepted handle node := by
  have single : ∀ frame data, deed.frame? node = some frame → node.isBroadcast frame = true →
      ¬Dispatch.Polls frame.payload channel data := fun frame data handles all polls =>
    heard ⟨frame, data, handles, all, polls⟩
  cases deed with
  | process service frame registers =>
    simp only [Deed.accepted, List.append_nil]
    exact ledger_process service registers ledger small framable fun data => single frame data rfl
  | receive service registers buffer =>
    simp only [Deed.accepted, List.append_nil]
    exact ledger_receive service registers buffer ledger small framable single
  | writeTunnel handle bytes =>
    simp only [Deed.reply?, Option.elim_none, List.append_nil]
    exact ledger.write handle bytes
  | openTunnel other =>
    simp only [Deed.reply?, Option.elim_none, Deed.accepted, List.append_nil]
    exact ledger.bind other
  | readTunnel handle count =>
    simp only [Deed.reply?, Option.elim_none, Deed.accepted, List.append_nil]
    exact ledger.read handle count
  | recordFault | recordDiscarded | readUnknown =>
    simp only [Deed.reply?, Option.elim_none, Deed.accepted, List.append_nil]
    exact ledger
  | replySent =>
    have same : node.replySent.tunnels = node.tunnels := by
      unfold Node.replySent
      split <;> rfl
    simp only [Deed.reply?, Option.elim_none, Deed.accepted, Deed.after, List.append_nil, same]
    exact ledger
  | setId id store =>
    have same : (node.setId id store).2.2.tunnels = node.tunnels := by
      rcases setId_cases id store node with ⟨_, same⟩ | ⟨_, _, same⟩ <;> rw [same]
    simp only [Deed.reply?, Option.elim_none, Deed.accepted, Deed.after, List.append_nil, same]
    exact ledger

/-- Whatever is done to a node, its id has seven bits. -/
theorem Deed.id_after (deed : Deed) (small : node.id ≤ Frame.maxId) :
    (deed.after node).id ≤ Frame.maxId := by
  cases deed with
  | process service frame registers =>
    rw [after, id_process]
    exact small
  | receive service registers buffer =>
    rw [after, id_receive]
    exact small
  | recordFault | recordDiscarded | readUnknown | openTunnel | readTunnel | writeTunnel =>
    exact small
  | replySent =>
    rw [after]
    unfold Node.replySent
    split <;> exact small
  | setId id store =>
    rcases setId_cases id store node with ⟨_, same⟩ | ⟨few, _, same⟩
    · rw [after, same]
      exact small
    · rw [after, same]
      exact few

/-- A run from a new node keeps the account of a channel, as long as no broadcast polls it. -/
theorem Runs.ledger {options : NodeOptions} {config : NodeConfig} {events : List Event}
    (admitted : config.id ≤ Frame.maxId) (runs : Runs (.ofConfig options config) events node)
    (framable : ∀ event ∈ events, event.before.Framable)
    (heard : ∀ event ∈ events, ¬event.Withholds channel) :
    node.tunnels.Ledger channel (carried channel events) (accepted · events) ∧
      node.id ≤ Frame.maxId := by
  induction runs with
  | start => exact ⟨Tunnels.ledger_ofSlots channel _ _, admitted⟩
  | @deed events node runs deed ih =>
    obtain ⟨framables, framed⟩ := List.forall_mem_append.1 framable
    obtain ⟨hearing, heeds⟩ := List.forall_mem_append.1 heard
    obtain ⟨ledger, small⟩ := ih framables hearing
    have last := List.mem_singleton_self (Event.mk node deed)
    refine ⟨?_, deed.id_after small⟩
    have next := deed.ledger_after ledger small (framed _ last) (heeds _ last)
    simp only [carried, accepted, List.flatMap_append, List.flatMap_singleton]
    exact next

/-- What the replies of a run carried of a channel and what still waits is what its handle accepted,
in order, where every poll of the channel can be answered. -/
theorem Runs.conserved {options : NodeOptions} {config : NodeConfig} {events : List Event}
    (admitted : config.id ≤ Frame.maxId) (runs : Runs (.ofConfig options config) events node)
    (channel : UInt32) (framable : ∀ event ∈ events, event.before.Framable)
    (heard : ∀ event ∈ events, ¬event.Withholds channel) :
    match node.tunnels.lookup channel with
    | none => carried channel events = []
    | some handle => ∃ slot, node.tunnels.slot? handle = some slot ∧
      carried channel events ++ slot.outbound.toList = accepted handle events := by
  obtain ⟨ledger, _⟩ := runs.ledger admitted framable heard
  cases bound : node.tunnels.lookup channel with
  | none => exact ledger.unbound fun _ _ there => Tunnels.channel_ne_of_lookup bound there
  | some handle =>
    obtain ⟨slot, there, has⟩ := Tunnels.slot?_lookup bound
    exact ⟨slot, there, ledger.bound there has⟩

/-- A node without an id for broadcasts answers every poll for it. -/
theorem not_withholds_of_single {event : Event}
    (single : event.before.options.broadcastId = none) : ¬event.Withholds channel := by
  rintro ⟨frame, data, _, all, _⟩
  rw [isBroadcast, single] at all
  cases all

/-- A service of one register that is always one. -/
def steadyService : RegisterService Unit where
  read state _ _ := (.ok (.int8 1), state)
  write state _ _ := (.ok (), state)

/-- An empty poll of channel zero in a frame to a destination. -/
def emptyPoll (destination : UInt8) : Deed :=
  .process steadyService { source := 2, destination, payload := [0x40, 0, 0] } ()

/-- Of three bytes of an application, two leave its node with polls that have room for one byte
each, and one stays. -/
theorem Runs.conserved_of_polls :
    ∃ events node, Runs (.ofConfig { bufferSize := 4 } .default) events node ∧
      carried 0 events = [7, 8] ∧ accepted ⟨0⟩ events = [7, 8, 9] ∧
      match node.tunnels.lookup 0 with
      | none => carried 0 events = []
      | some handle => ∃ slot, node.tunnels.slot? handle = some slot ∧
        carried 0 events ++ slot.outbound.toList = accepted handle events := by
  have fresh : Runs (.ofConfig { bufferSize := 4 } .default) [] _ := .start
  have runs := ((((fresh.deed (.openTunnel 0)).deed (.writeTunnel ⟨0⟩ [7, 8])).deed
    (emptyPoll 1)).deed (.writeTunnel ⟨0⟩ [9])).deed (emptyPoll 1)
  have conserved := runs.conserved (by decide) 0 ?framable ?heard
  case framable =>
    intro event there
    left
    revert event
    decide +kernel
  case heard =>
    intro event there
    apply not_withholds_of_single
    revert event
    decide +kernel
  exact ⟨_, _, runs, by decide +kernel, by decide +kernel, conserved⟩

/-- A broadcast poll takes the byte that waits from the queue without a reply, so that the next poll
finds nothing: the byte that was accepted is neither in a reply nor in the node. -/
theorem bytes_lost_of_broadcast :
    ∃ events node,
      Runs (.ofConfig { bufferSize := 16, broadcastId := some 127 } .default) events node ∧
      node.tunnels.lookup 0 = some ⟨0⟩ ∧
      carried 0 events = [] ∧ (node.tunnels.slot? ⟨0⟩).map (·.outbound.toList) = some [] ∧
      accepted ⟨0⟩ events = [7] := by
  have fresh : Runs (.ofConfig { bufferSize := 16, broadcastId := some 127 } .default) [] _ :=
    .start
  have runs := (((fresh.deed (.openTunnel 0)).deed (.writeTunnel ⟨0⟩ [7])).deed
    (emptyPoll 127)).deed (emptyPoll 1)
  refine ⟨_, _, runs, ?_, ?_, ?_, ?_⟩
  all_goals decide +kernel

end Node

end Multidrop
