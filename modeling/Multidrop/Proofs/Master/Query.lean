import Multidrop.Proofs.Master.Exchange
import Multidrop.Proofs.Node.Requests
import Multidrop.Proofs.Reply.Partial

/-!
# Queries of a node

What a master gets for a request that reads and writes registers of a node, on a line that loses
nothing: the answers to the calls of its subframes, as far as the reply has room for them
(`query_of_planned`). A request that is refused as a whole leaves the registers alone
(`Attended.served_of_refused`). The length of a payload has 32 bits, which is no limit to requests
that are `Request.Framable`.
-/
namespace Multidrop

open Subframe (Contents)

variable {σ : Type} {service : RegisterService σ} {node : Node} {registers : σ} {frame : Frame}

/-- The error of a result, which can be computed, decides that there is one. -/
theorem eq_error_of_match {ε α : Type} {result : Except ε α} {error : ε}
    (failed : (match result with | .ok _ => none | .error cause => some cause) = some error) :
    result = .error error := by
  cases result with
  | ok value => cases failed
  | error cause => rw [Option.some.inj failed]

/-- The length of a request for so many registers has 32 bits, and so has that of the reply. -/
def Request.Framable (limit count : Nat) : Prop :=
  limit < Word.bound 32 ∨ 15 * count < Word.bound 32

namespace RegisterService

/-- Each call has one answer at most. -/
theorem length_answerAll_le (service : RegisterService σ) (registers : σ) (calls : List Call) :
    (service.answerAll registers calls).1.length ≤ calls.length := by
  induction calls generalizing registers with
  | nil => exact Nat.le_refl _
  | cons call rest ih =>
    have first : (service.answer registers call).1.length ≤ 1 := by
      unfold answer
      cases call with
      | read register kind => dsimp only; split <;> simp
      | write register value => dsimp only; split <;> simp
    have later := ih (service.answer registers call).2
    rw [answerAll, List.length_append, List.length_cons]
    omega

/-- An answer to a call takes no more than its numbers and its value can. -/
theorem size_answer_le {calls : List Call} {item : Reply.Item}
    (there : item ∈ (service.answerAll registers calls).1) : item.subframe.size ≤ 15 := by
  have number (word : UInt32) : Varuint.size word ≤ 5 := Varuint.size_le word
  cases item with
  | value register value =>
    have kind := value.kind.size_le
    have place := number register
    simp only [Reply.Item.subframe, Subframe.size, Subframe.tag, Form.size_tag, Subframe.bodySize]
    omega
  | readError register code | writeError register code =>
    have place := number register
    have cause := number code
    simp only [Reply.Item.subframe, Subframe.size, Subframe.tag, Form.size_tag, Subframe.bodySize]
    omega
  | tunnel channel data => exact absurd there (service.tunnel_notMem_answerAll _ _ _ _)

/-- The length of a finished reply to so many calls has 32 bits. -/
theorem length_lt_of_framable {limit : Nat} {calls : List Call}
    (framable : Request.Framable limit calls.length) :
    ((service.answerAll registers calls).1.foldl Reply.Writer.add
      { limit }).finish.payload.length < Word.bound 32 := by
  rcases framable with short | few
  · have sound : Reply.Writer.Sound limit
        ((service.answerAll registers calls).1.foldl Reply.Writer.add { limit }) :=
      List.foldlRecOn _ _ (Reply.Writer.sound_empty limit)
        fun writer sound item _ => sound.add short item
    exact Nat.lt_of_le_of_lt (sound.flush short).within short
  · have whole := Reply.Writer.length_finish_le limit
      (fun item (there : item ∈ (service.answerAll registers calls).1) => size_answer_le there)
    have count := service.length_answerAll_le registers calls
    omega

end RegisterService

namespace Attended

/-- Noting a reply as written changes only how far the node is. -/
theorem replySent_idle (node : Node) :
    { node.replySent with phase := .idle } = { node with phase := .idle } := by
  unfold Node.replySent
  split <;> rfl

/-- A request that is refused as a whole is counted by the station, and nothing else. -/
theorem served_of_refused {error : Subframe.Error} (own : frame.destination = node.id)
    (refused : Dispatch.plan node.options.bufferSize frame.payload = .error error) :
    ({ service, station := { node, registers } } : Attended σ).reply frame = none ∧
      ({ service, station := { node, registers } } : Attended σ).served frame =
        { service, station := { node := node.refuse, registers } } := by
  have near : ¬node.Foreign frame := fun foreign => foreign.1 own
  unfold reply served
  dsimp only [id]
  rw [Node.process_of_refused near refused]
  exact ⟨rfl, rfl⟩

/-- A station that carries out a request without a poll makes its calls, and answers them if the
answers make a frame. -/
theorem served_of_planned {plan : Dispatch.Plan} {subframes : List Subframe}
    (own : frame.destination = node.id)
    (planned : Dispatch.plan node.options.bufferSize frame.payload = .ok plan)
    (same : (Contents.ofPayload frame.payload).subframes = subframes)
    (quiet : ∀ subframe ∈ subframes, subframe.isTunnel = false) :
    let attended : Attended σ := { service, station := { node, registers } }
    let answered := service.answerAll registers (subframes.flatMap Subframe.calls)
    let written := (answered.1.foldl Reply.Writer.add { limit := node.options.bufferSize }).finish
    attended.reply frame = node.answer frame plan written.payload ∧
      attended.served frame =
        { service
          station :=
            { node := { node with stats := node.stats.note plan written, phase := .idle }
              registers := answered.2 } } := by
  have near : ¬node.Foreign frame := fun foreign => foreign.1 own
  subst same
  intro attended answered written
  simp only [attended, reply, served, id]
  rw [Node.process_of_quiet registers near planned quiet]
  refine ⟨rfl, ?_⟩
  rw [replySent_idle]

end Attended

namespace Master

variable {π : Type} [Peer π] {station : π → Attended σ} {limit : Nat} {master : Master π}
  {request : Request} {subframes : List Subframe}

/-- Subframes that only read and write registers are the contents of a request, without a poll. -/
theorem contents_of_calls (payload : request.payload = subframes.flatMap Subframe.encode)
    (sound : ∀ subframe ∈ subframes, subframe.Fits ∧ subframe.isRegisterRequest = true) :
    (Contents.ofPayload request.payload).subframes = subframes ∧
      (Contents.ofPayload request.payload).stop = none ∧
      ∀ subframe ∈ subframes, subframe.isTunnel = false := by
  obtain ⟨same, stop⟩ :=
    Contents.ofPayload_flatMap fun subframe there => (sound subframe there).1
  rw [payload]
  refine ⟨same, stop, fun subframe there => ?_⟩
  have request := (sound subframe there).2
  cases subframe with
  | clientToServer | serverToClient => cases request
  | _ => rfl

/-- A planned request of calls is answered with the answers to the calls, as far as there is room
for them, and the reply is checked against the request. -/
theorem query_of_planned (relays : Attended.Relays station) (idle : master.Idle station limit)
    (serves : station master.reader.line.peer = { service, station := { node, registers } })
    (small : node.id ≤ Frame.maxId)
    (payload : request.payload = subframes.flatMap Subframe.encode)
    (sound : ∀ subframe ∈ subframes, subframe.Fits ∧ subframe.isRegisterRequest = true)
    (fits : request.payload.length ≤ limit) (few : request.payload.length < Word.bound 32)
    {plan : Dispatch.Plan} (planned : Dispatch.plan limit request.payload = .ok plan) :
    let answered := service.answerAll registers (subframes.flatMap Subframe.calls)
    let written := (answered.1.foldl Reply.Writer.add { limit }).finish
    written.payload.length < Word.bound 32 →
      ∃ after : Master π, after.Idle station limit ∧
        master.query node.id request =
          ((request.validate written.payload master.stats).1, after) ∧
        station after.reader.line.peer = (station master.reader.line.peer).served
          (master.frameOf node.id request.payload true) := by
  intro answered written short
  obtain ⟨same, _, quiet⟩ := contents_of_calls payload sound
  have own : (station master.reader.line.peer).station.node.id = node.id := by rw [serves]
  have bufferSize := idle.bufferSize serves
  subst bufferSize
  obtain ⟨reply, _⟩ :=
    @Attended.served_of_planned _ service node registers
      (master.frameOf node.id request.payload true) plan subframes rfl planned same quiet
  have encoded : (node.replyFrame (master.frameOf node.id request.payload true)
      written.payload).encode = .ok (Frame.withChecksum (node.replyFrame
        (master.frameOf node.id request.payload true) written.payload).body) :=
    Frame.encode_eq_ok.2 ⟨small, short, rfl⟩
  have answers := Node.answer_eq_some plan encoded
  rw [if_pos ⟨Node.isBroadcast_of_own rfl, .inl rfl⟩] at answers
  have replied := reply.trans answers
  rw [← serves] at replied
  obtain ⟨reader, answer, done, same, rested, peer⟩ :=
    request_of_answered relays idle own small fits few replied
  have told : answer.payload = written.payload := by
    have parsed := (Frame.parse_encode encoded).symm.trans (Frame.parse_encode same)
    cases parsed
    rfl
  refine ⟨{ master with
      reader
      pending := none
      stale := false
      stats := (request.validate written.payload master.stats).2 },
    ⟨rfl, rested.source, rested.options, rested.attached, rested.buffer, rested.silent⟩, ?_, peer⟩
  rw [query, done]
  dsimp only
  rw [told]

/-- A request that the station does not reply to, in whatever state it is, ends because the time is
over. -/
theorem query_of_unanswered (relays : Attended.Relays station) (idle : master.Idle station limit)
    {destination : UInt8} (small : destination ≤ Frame.maxId)
    (fits : request.payload.length ≤ limit) (few : request.payload.length < Word.bound 32)
    (state : Attended σ → Prop) (first : state (station master.reader.line.peer))
    (unanswered : ∀ attended, state attended →
      attended.reply (master.frameOf destination request.payload true) = none ∧
        state (attended.served (master.frameOf destination request.payload true))) :
    ∃ (after : Master π) (before : Attended σ), after.Idle station limit ∧
      master.query destination request = (.error (.timeout master.options.timeout), after) ∧
      state before ∧ station after.reader.line.peer =
        before.served (master.frameOf destination request.payload true) := by
  obtain ⟨reader, before, done, rested, held, peer⟩ :=
    requestFrom_of_unanswered relays master.retry 1 idle small fits few state first unanswered
  refine ⟨_, before, rested, ?_, held, peer⟩
  rw [query, Master.request, done]

/-- A request that is too long for a frame is refused before any of it is written. -/
theorem query_of_unframed (idle : master.Idle station limit) {destination : UInt8}
    (small : destination ≤ Frame.maxId) (fits : request.payload.length ≤ limit)
    (long : Word.bound 32 ≤ request.payload.length) :
    ∃ after : Master π, after.Idle station limit ∧
      master.query destination request =
        (.error (.frame (.payloadTooLarge request.payload.length (Word.bound 32 - 1))), after) ∧
      after.reader.line.peer = master.reader.line.peer := by
  obtain ⟨reader, sent, facing, empty, silent, peer⟩ := idle.resting.send small fits
  have unframed : (master.frameOf destination request.payload true).encode =
      .error (.payloadTooLarge request.payload.length (Word.bound 32 - 1)) := by
    unfold Frame.encode
    exact (if_neg (UInt8.not_lt.2 idle.source)).trans (if_pos long)
  have rested : ({ master with reader, pending := none, stale := false } : Master π).Resting
      station limit limit :=
    ⟨rfl, idle.source, idle.options, facing, fun _ => empty,
      facing.lossless.arrivals_eq_nil silent⟩
  have once : master.retry.again 1
      (.frame (.payloadTooLarge request.payload.length (Word.bound 32 - 1))) = false :=
    Bool.and_false _
  refine ⟨_, rested.idle, ?_, peer⟩
  rw [query, Master.request, requestFrom, attempt, sent, post, unframed]
  dsimp only
  rw [dif_neg (Bool.eq_false_iff.1 once)]

end Master

end Multidrop
