import Multidrop.Node.Linked
import Multidrop.Proofs.Dispatch.Plan
import Multidrop.Proofs.Frame.RoundTrip
import Multidrop.Proofs.Node.Process
import Multidrop.Proofs.Reply.Limit

/-!
# Which frames are answered, and with what

Whatever a node has been through, its id has seven bits (`Reachable.id_le`), so a reply can always
be written. A node therefore answers exactly the frames for its own id whose payload it plans and
that ask for a reply or for data, and the answer is a frame that any receiver with the same limit
accepts (`answers`). A broadcast is carried out like a frame for the node's own id, and not answered.
-/
namespace Multidrop

/-- One operation asked of a service, and what became of it. -/
inductive Dealing where
  | read (register : Register) (kind : Kind) (outcome : Except Refusal Value)
  | write (register : Register) (value : Value) (outcome : Except Refusal Unit)

/-- The same service, keeping the calls made so far and their outcomes. -/
def RegisterService.recorded {σ : Type} (service : RegisterService σ) :
    RegisterService (σ × List Dealing) where
  read := fun (state, dealings) register kind =>
    let (outcome, state) := service.read state register kind
    (outcome, state, dealings ++ [.read register kind outcome])
  write := fun (state, dealings) register value =>
    let (outcome, state) := service.write state register value
    (outcome, state, dealings ++ [.write register value outcome])

/-- Only configurations whose id has seven bits are admitted. -/
theorem NodeConfig.validate_eq_ok {config admitted : NodeConfig}
    (valid : config.validate = .ok admitted) : admitted = config ∧ config.id ≤ Frame.maxId := by
  unfold validate at valid
  by_cases large : Frame.maxId < config.id
  · rw [if_pos large] at valid
    cases valid
  · rw [if_neg large] at valid
    cases valid
    exact ⟨rfl, UInt8.not_lt.1 large⟩

namespace Node

variable {σ ω : Type}

/-! ## What a node can go through -/

/-- A node that was set up and has gone through some operations, with the store that it keeps its id
in, if it has one. The application's registers may be others at every operation. -/
inductive Reachable [ConfigStore ω] : Option ω → Node → Prop
  | new {options : NodeOptions} {node : Node} (made : new options = .ok node) :
      Reachable none node
  | ofStore {options : NodeOptions} {store kept : ω} {node : Node}
      (made : ofStore options store = (.ok node, kept)) : Reachable (some kept) node
  | receive {store : Option ω} {σ : Type} (service : RegisterService σ) (station : Station σ)
      (before : Reachable store station.node) : Reachable store (station.receive service).2.node
  | process {store : Option ω} {node : Node} {σ : Type} (service : RegisterService σ)
      (frame : Frame) (registers : σ) (before : Reachable store node) :
      Reachable store (node.process service frame registers).node
  | replySent {store : Option ω} {node : Node} (before : Reachable store node) :
      Reachable store node.replySent
  | recordFault {store : Option ω} {node : Node} (error : Frame.Error)
      (before : Reachable store node) : Reachable store (node.recordFault error)
  | recordDiscarded {store : Option ω} {node : Node} (bytes : List UInt8)
      (before : Reachable store node) : Reachable store (node.recordDiscarded bytes)
  | readUnknown {store : Option ω} {node : Node} (count : Nat) (before : Reachable store node) :
      Reachable store (node.readUnknown count).2
  | openTunnel {store : Option ω} {node : Node} (channel : UInt32)
      (before : Reachable store node) : Reachable store (node.openTunnel channel).2
  | readTunnel {store : Option ω} {node : Node} (handle : Handle) (count : Nat)
      (before : Reachable store node) :
      Reachable store { node with tunnels := (node.tunnels.read handle count).2 }
  | writeTunnel {store : Option ω} {node : Node} (handle : Handle) (bytes : List UInt8)
      (before : Reachable store node) :
      Reachable store { node with tunnels := (node.tunnels.write handle bytes).2 }
  | writeAllTunnel {store : Option ω} {node : Node} (handle : Handle) (bytes : List UInt8)
      (before : Reachable store node) :
      Reachable store { node with tunnels := (node.tunnels.writeAll handle bytes).2 }
  /-- The store may fail to keep the id. -/
  | setId {store : Option ω} {node : Node} (id : UInt8) (before : Reachable store node) :
      Reachable (node.setId id store).2.1 (node.setId id store).2.2

/-- Looking for a frame keeps the id of a node. -/
theorem id_receive (service : RegisterService σ) (station : Station σ) :
    (station.receive service).2.node.id = station.node.id := by
  unfold Station.receive
  dsimp only
  cases (Frame.pass station.node.options.bufferSize station.buffer).outcome with
  | incomplete => rfl
  | fault error => rfl
  | frame frame => exact id_process

/-- A change of the id that fails changes nothing; one that succeeds sets an id of seven bits. -/
theorem setId_cases [ConfigStore ω] (id : UInt8) (store : Option ω) (node : Node) :
    ((∃ error, (node.setId id store).1 = .error error) ∧ (node.setId id store).2.2 = node) ∨
      id ≤ Frame.maxId ∧ (node.setId id store).1 = .ok () ∧
        (node.setId id store).2.2 = { node with id } := by
  unfold setId
  cases admitted : NodeConfig.ofId id with
  | error error => exact .inl ⟨⟨error, rfl⟩, rfl⟩
  | ok config =>
    obtain ⟨rfl, small⟩ := NodeConfig.validate_eq_ok admitted
    cases store with
    | none => exact .inr ⟨small, rfl, rfl⟩
    | some store =>
      dsimp only
      obtain ⟨result, after⟩ := ConfigStore.save store ⟨id⟩
      cases result with
      | error error => exact .inl ⟨⟨error, rfl⟩, rfl⟩
      | ok _ => exact .inr ⟨small, rfl, rfl⟩

/-- Whatever a node has been through, its id has seven bits. -/
theorem Reachable.id_le [ConfigStore ω] {store : Option ω} {node : Node}
    (reachable : Reachable store node) : node.id ≤ Frame.maxId := by
  induction reachable with
  | new made =>
    simp only [Node.new, bind_eq_ok] at made
    obtain ⟨config, admitted, same⟩ := made
    cases same
    obtain ⟨rfl, small⟩ := NodeConfig.validate_eq_ok admitted
    exact small
  | ofStore made =>
    rw [Node.ofStore] at made
    simp only [Prod.mk.injEq, bind_eq_ok] at made
    obtain ⟨⟨kept, _, config, admitted, same⟩, _⟩ := made
    cases same
    obtain ⟨rfl, small⟩ := NodeConfig.validate_eq_ok admitted
    exact small
  | receive service station _ ih =>
    rw [id_receive]
    exact ih
  | process _ _ _ _ ih =>
    rw [id_process]
    exact ih
  | @replySent _ node _ ih =>
    unfold Node.replySent
    split <;> exact ih
  | recordFault | recordDiscarded | readUnknown | openTunnel | readTunnel | writeTunnel
  | writeAllTunnel =>
    assumption
  | @setId store node id _ ih =>
    rcases setId_cases id store node with ⟨_, same⟩ | ⟨small, _, same⟩
    · rw [same]
      exact ih
    · rw [same]
      exact small

/-! ## The reply to one frame -/

variable {node : Node} {frame : Frame}

/-- The reply frame with a payload. -/
def replyFrame (frame : Frame) (payload : List UInt8) (node : Node) : Frame where
  source := node.id
  destination := frame.source
  payload := payload

/-- A reply that can be written is given exactly to a frame that is no broadcast and asks for a
reply or for data. -/
theorem answer_eq_some (plan : Dispatch.Plan) {payload bytes : List UInt8}
    (written : (node.replyFrame frame payload).encode = .ok bytes) :
    node.answer frame plan payload =
      if node.isBroadcast frame = false ∧ (frame.responseRequested ∨ plan.needsReply) then
        some bytes
      else none := by
  rw [replyFrame] at written
  unfold answer
  rw [written]
  cases node.isBroadcast frame <;> cases frame.responseRequested <;> cases plan.needsReply <;> rfl

/-- A payload that is too long for a frame is no answer. -/
theorem answer_of_long (plan : Dispatch.Plan) {payload : List UInt8}
    (long : Word.bound 32 ≤ payload.length) : node.answer frame plan payload = none := by
  unfold answer
  split
  · rfl
  · cases encoded : Frame.encode { source := node.id, destination := frame.source, payload } with
    | error error => rfl
    | ok bytes => exact absurd (Frame.encode_eq_ok.1 encoded).2.1 (Nat.not_lt.2 long)

/-- A frame is a broadcast to a node only if it is not for its own id. -/
theorem isBroadcast_of_own (own : frame.destination = node.id) : node.isBroadcast frame = false := by
  simp [isBroadcast, own]

/-- A frame that is neither foreign nor a broadcast is for the node's own id. -/
theorem own_of_not_foreign (near : ¬node.Foreign frame) (single : node.isBroadcast frame = false) :
    frame.destination = node.id := by
  by_cases own : frame.destination = node.id
  · exact own
  · have all : node.options.broadcastId = some frame.destination := by
      by_cases all : node.options.broadcastId = some frame.destination
      · exact all
      · exact absurd ⟨own, all⟩ near
    simp [isBroadcast, own, all] at single

/-- A planned frame has a sound reply payload, which is written unless the id is too large. -/
theorem written_of_planned (service : RegisterService σ) (registers : σ) {plan : Dispatch.Plan}
    (small : node.id ≤ Frame.maxId) (short : node.options.bufferSize < Word.bound 32)
    (near : ¬node.Foreign frame)
    (planned : Dispatch.plan node.options.bufferSize frame.payload = .ok plan) :
    ∃ writer : Reply.Writer, ∃ bytes, writer.Sound node.options.bufferSize ∧
      (node.replyFrame frame writer.payload).encode = .ok bytes ∧
      (node.process service frame registers).reply =
        if node.isBroadcast frame = false ∧ (frame.responseRequested ∨ plan.needsReply) then
          some bytes
        else none := by
  have done := @process_of_planned _ service frame registers node plan near planned
  have empty := Reply.Writer.sound_empty node.options.bufferSize
  have sound := (@Dispatch.sound_execute _ service _ (node.scene registers) empty short plan
    frame.payload).flush short
  have within := sound.within
  generalize written : (Dispatch.execute service plan frame.payload
    (node.scene registers)).reply.flush = writer at sound within
  have encoded : (node.replyFrame frame writer.payload).encode =
      .ok (Frame.withChecksum (node.replyFrame frame writer.payload).body) :=
    Frame.encode_eq_ok.2 ⟨small, Nat.lt_of_le_of_lt within short, rfl⟩
  refine ⟨writer, _, sound, encoded, ?_⟩
  rw [done, ← answer_eq_some plan encoded, ← written]
  rfl

/-- The reply that a planned frame would be answered with. -/
def composed (service : RegisterService σ) (plan : Dispatch.Plan) (frame : Frame) (registers : σ)
    (node : Node) : Reply.Writer :=
  (Dispatch.execute service plan frame.payload (node.scene registers)).reply.finish

/-- A frame that is answered is carried out, and its answer has the payload that was composed. -/
theorem composed_of_answered {service : RegisterService σ} {registers : σ} {bytes : List UInt8}
    (answered : (node.process service frame registers).reply = some bytes) :
    ∃ plan, ¬node.Foreign frame ∧
      Dispatch.plan node.options.bufferSize frame.payload = .ok plan ∧
      (node.replyFrame frame (node.composed service plan frame registers).payload).encode =
        .ok bytes := by
  by_cases foreign : node.Foreign frame
  · rw [process_of_foreign foreign] at answered
    cases answered
  · cases planned : Dispatch.plan node.options.bufferSize frame.payload with
    | error error =>
      rw [process_of_refused foreign planned] at answered
      cases answered
    | ok plan =>
      refine ⟨plan, foreign, rfl, ?_⟩
      rw [process_of_planned foreign planned] at answered
      dsimp only [answer] at answered
      split at answered
      · cases answered
      · split at answered
        · cases answered
        · rename_i encoded
          cases answered
          exact encoded

/-- What a node answers with is a reply frame that was written, with a payload within the limit. -/
theorem encode_of_answered {service : RegisterService σ} {registers : σ} {bytes : List UInt8}
    (answered : (node.process service frame registers).reply = some bytes) :
    ∃ payload, (node.replyFrame frame payload).encode = .ok bytes ∧
      payload.length ≤ node.options.bufferSize := by
  obtain ⟨plan, _, _, encoded⟩ := composed_of_answered answered
  refine ⟨_, encoded, ?_⟩
  by_cases short : node.options.bufferSize < Word.bound 32
  · have empty := Reply.Writer.sound_empty node.options.bufferSize
    have sound := @Dispatch.sound_execute _ service _ (node.scene registers) empty short plan
      frame.payload
    exact (sound.flush short).within
  · -- A payload that can be written at all is shorter than such a limit.
    have size := (Frame.encode_eq_ok.1 encoded).2.1
    exact Nat.le_of_lt (Nat.lt_of_lt_of_le size (Nat.le_of_not_lt short))

/-- A node answers exactly the frames for its own id that it plans and that ask for a reply or for
data. -/
theorem reply_isSome_iff (service : RegisterService σ) (registers : σ)
    (small : node.id ≤ Frame.maxId) (short : node.options.bufferSize < Word.bound 32) :
    (node.process service frame registers).reply.isSome = true ↔
      frame.destination = node.id ∧
        (∃ plan, Dispatch.plan node.options.bufferSize frame.payload = .ok plan) ∧
        (frame.responseRequested = true ∨
          ∃ subframe ∈ (Subframe.Contents.ofPayload frame.payload).subframes,
            subframe.isRead = true ∨ subframe.isTunnel = true) := by
  by_cases foreign : node.Foreign frame
  · rw [process_of_foreign foreign]
    exact ⟨nofun, fun answered => absurd answered.1 foreign.1⟩
  · cases planned : Dispatch.plan node.options.bufferSize frame.payload with
    | error error =>
      rw [process_of_refused foreign planned]
      exact ⟨nofun, fun answered => nomatch answered.2.1⟩
    | ok plan =>
      obtain ⟨writer, bytes, _, _, reply⟩ :=
        written_of_planned service registers small short foreign planned
      rw [reply, ← Dispatch.needsReply_iff planned]
      constructor
      · intro answered
        by_cases asks : node.isBroadcast frame = false ∧
            (frame.responseRequested = true ∨ plan.needsReply = true)
        · exact ⟨own_of_not_foreign foreign asks.1, ⟨plan, rfl⟩, asks.2⟩
        · rw [if_neg asks] at answered
          cases answered
      · rintro ⟨own, _, asks⟩
        rw [if_pos ⟨isBroadcast_of_own own, asks⟩]
        rfl

/-- The bytes that a node answers with are a frame from its id to the requester, with a payload
within the limit that consists of subframes of replies. -/
theorem parse_reply (service : RegisterService σ) (registers : σ) {bytes : List UInt8}
    (small : node.id ≤ Frame.maxId) (short : node.options.bufferSize < Word.bound 32)
    (answered : (node.process service frame registers).reply = some bytes) :
    ∃ payload, Frame.parse bytes = .ok (node.replyFrame frame payload) ∧
      payload.length ≤ node.options.bufferSize ∧
      bytes.length ≤ Frame.maxSize node.options.bufferSize ∧
      (Subframe.Contents.ofPayload payload).stop = none ∧
      ∀ subframe ∈ (Subframe.Contents.ofPayload payload).subframes, subframe.isReply = true := by
  by_cases foreign : node.Foreign frame
  · rw [process_of_foreign foreign] at answered
    cases answered
  · cases planned : Dispatch.plan node.options.bufferSize frame.payload with
    | error error =>
      rw [process_of_refused foreign planned] at answered
      cases answered
    | ok plan =>
      obtain ⟨writer, written, sound, encoded, reply⟩ :=
        written_of_planned service registers small short foreign planned
      rw [reply] at answered
      split at answered
      · cases answered
        have size := Frame.length_encode_le encoded
        have within : (node.replyFrame frame writer.payload).payload.length ≤
            node.options.bufferSize := sound.within
        refine ⟨writer.payload, Frame.parse_encode encoded, sound.within, ?_, sound.contents⟩
        simp only [Frame.maxSize] at size ⊢
        omega
      · cases answered

/-- A broadcast does to the registers what a frame with the same payload for the node's own id
does. -/
theorem registers_of_broadcast (service : RegisterService σ) (registers : σ)
    (all : node.isBroadcast frame = true) :
    (node.process service frame registers).registers =
      (node.process service { frame with destination := node.id } registers).registers := by
  have near : ¬node.Foreign frame := by
    rintro ⟨_, none⟩
    simp [isBroadcast, none] at all
  have own : ¬node.Foreign { frame with destination := node.id } := fun foreign => foreign.1 rfl
  cases planned : Dispatch.plan node.options.bufferSize frame.payload with
  | error error => rw [process_of_refused near planned, process_of_refused own planned]
  | ok plan => rw [process_of_planned near planned, process_of_planned own planned]

/-- A node answers exactly the frames for its own id that it plans and that ask for something,
within its limit. A broadcast is carried out alike and not answered. -/
theorem answers [ConfigStore ω] (service : RegisterService σ) {store : Option ω} {node : Node}
    (reachable : Reachable store node) (short : node.options.bufferSize < Word.bound 32)
    (frame : Frame) (registers : σ) (dealings : List Dealing) :
    let reply := (node.process service frame registers).reply
    (reply.isSome = true ↔ frame.destination = node.id ∧
      (∃ plan, Dispatch.plan node.options.bufferSize frame.payload = .ok plan) ∧
      (frame.responseRequested = true ∨
        ∃ subframe ∈ (Subframe.Contents.ofPayload frame.payload).subframes,
          subframe.isRead = true ∨ subframe.isTunnel = true)) ∧
    (∀ bytes, reply = some bytes → ∃ payload,
      Frame.parse bytes = .ok
        { source := node.id, responseRequested := false, destination := frame.source, payload } ∧
      node.id ≤ Frame.maxId ∧
      payload.length ≤ node.options.bufferSize ∧
      bytes.length ≤ Frame.maxSize node.options.bufferSize ∧
      (Subframe.Contents.ofPayload payload).stop = none ∧
      ∀ subframe ∈ (Subframe.Contents.ofPayload payload).subframes, subframe.isReply = true) ∧
    (node.isBroadcast frame = true → reply = none ∧
      (node.process service.recorded frame (registers, dealings)).registers =
        (node.process service.recorded { frame with destination := node.id }
          (registers, dealings)).registers) ∧
    ∀ id error, (node.setId id store).1 = .error error → (node.setId id store).2.2 = node := by
  intro reply
  have small := reachable.id_le
  have answered := @reply_isSome_iff _ node frame service registers small short
  refine ⟨answered, ?_, ?_, ?_⟩
  · intro bytes some
    obtain ⟨payload, parsed, within, size, stop, replies⟩ :=
      parse_reply service registers small short some
    exact ⟨payload, parsed, small, within, size, stop, replies⟩
  · intro all
    refine ⟨?_, registers_of_broadcast service.recorded (registers, dealings) all⟩
    cases given : reply with
    | none => rfl
    | some bytes =>
      have own := (answered.1 (Option.isSome_iff_exists.2 ⟨bytes, given⟩)).1
      rw [isBroadcast_of_own own] at all
      cases all
  · intro id error failed
    rcases setId_cases id store node with ⟨_, same⟩ | ⟨_, done, _⟩
    · exact same
    · rw [done] at failed
      cases failed

/-- A node whose id was set to five answers a read that carries no reply request, and does not
answer the same read as a broadcast. -/
theorem answers_of_read :
    let service : RegisterService Unit :=
      { read := fun state _ _ => (.ok (.int8 1), state), write := fun state _ _ => (.ok (), state) }
    let fresh : Node := .ofConfig { broadcastId := some 127 } .default
    let node := (fresh.setId 5 (some (⟨none⟩ : MemoryStore))).2.2
    let frame : Frame := { source := 2, destination := 5, payload := [0x18, 0] }
    (node.process service frame ()).reply.isSome = true ∧
      (node.process service { frame with destination := 127 } ()).reply = none := by
  intro service fresh node frame
  have made : ofStore { broadcastId := some 127 } (⟨none⟩ : MemoryStore) = (.ok fresh, ⟨none⟩) :=
    rfl
  have reachable := (Reachable.ofStore made).setId 5
  have short : node.options.bufferSize < Word.bound 32 := by decide
  have planned : Dispatch.plan node.options.bufferSize frame.payload =
      .ok { executable := 2, registers := 1, reads := 1, replyFloor := 3 } := by
    show Dispatch.plan 256 [0x18, 0] = _
    with_unfolding_all rfl
  have asks : ∃ subframe ∈ (Subframe.Contents.ofPayload frame.payload).subframes,
      subframe.isRead = true ∨ subframe.isTunnel = true := by
    show ∃ subframe ∈ (Subframe.Contents.ofPayload [0x18, 0]).subframes, _
    decide +kernel
  have own := answers service reachable short frame () []
  have all := answers service reachable short { frame with destination := 127 } () []
  exact ⟨own.1.2 ⟨rfl, ⟨_, planned⟩, .inr asks⟩, (all.2.2.1 rfl).1⟩

end Node

end Multidrop
