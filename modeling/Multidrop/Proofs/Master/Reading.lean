import Multidrop.Proofs.Dispatch.Capacity
import Multidrop.Proofs.Master.Query
import Multidrop.Proofs.Node.Process
import Multidrop.Proofs.Register
import Multidrop.Proofs.Request.Compose

/-!
# Reading the registers of a bank

Values that a master reads off a bank over a line that loses nothing are the stored ones, and a read
that fails names the first register that is not defined (`readRegisters_of_idle`). If a part of the
reply was left out, or the request was refused as a whole, the node has counted it, and the master
returns neither. A reply that is too long for a frame is not sent, which nobody counts
(`readRegisters_without_reply`).
-/
namespace Multidrop

/-- The reply of a bank to a read of registers. -/
def Bank.readReply (bank : Bank) (kind : Kind) (registers : List Register) (limit : Nat) :
    Reply.Writer :=
  ((registers.map (bank.readItem kind)).foldl Reply.Writer.add { limit }).finish

/-- A node that serves a bank, some requests after it was another: it has refused so many of them
and cut so many replies short, and only its counters and how far it is have changed. -/
def Attended.Serving (node : Node) (bank : Bank) (refused short : Nat)
    (attended : Attended Bank) : Prop :=
  ∃ stats phase,
    attended =
      { service := Bank.service
        station := { node := { node with stats, phase }, registers := bank } } ∧
    stats.malformedSubframe = raise refused node.stats.malformedSubframe ∧
    stats.replyOverflow = raise short node.stats.replyOverflow

namespace Attended.Serving

variable {node : Node} {bank : Bank} {refused short : Nat} {attended : Attended Bank}

/-- A node that has done nothing since. -/
theorem start (node : Node) (bank : Bank) :
    Serving node bank 0 0 { service := Bank.service, station := { node, registers := bank } } :=
  ⟨node.stats, node.phase, rfl, (raise_zero _).symm, (raise_zero _).symm⟩

variable {frame : Frame}

/-- A request that is refused as a whole is one more. -/
theorem refuse {error : Subframe.Error} (serving : Serving node bank refused short attended)
    (own : frame.destination = node.id)
    (rejected : Dispatch.plan node.options.bufferSize frame.payload = .error error) :
    attended.reply frame = none ∧
      Serving node bank (refused + 1) short (attended.served frame) := by
  obtain ⟨stats, phase, rfl, counted, cut⟩ := serving
  obtain ⟨none, served⟩ := @served_of_refused _ Bank.service { node with stats, phase } bank frame
    error own rejected
  refine ⟨none, ?_⟩
  rw [served]
  refine ⟨_, _, rfl, ?_, cut⟩
  show bump stats.malformedSubframe = _
  rw [counted, bump_eq_raise, raise_raise]

/-- A request that reads is answered as far as there is room, which is counted if it is too
little. -/
theorem read {plan : Dispatch.Plan} {subframe : Subframe} {registers : List Register} {kind : Kind}
    (serving : Serving node bank refused short attended) (own : frame.destination = node.id)
    (planned : Dispatch.plan node.options.bufferSize frame.payload = .ok plan)
    (alone : (Subframe.Contents.ofPayload frame.payload).subframes = [subframe])
    (quiet : subframe.isTunnel = false)
    (calls : subframe.calls = registers.map fun register => .read register kind) :
    let written := bank.readReply kind registers node.options.bufferSize
    attended.reply frame = node.answer frame plan written.payload ∧
      Serving node bank refused (if 0 < written.omitted then short + 1 else short)
        (attended.served frame) := by
  intro written
  obtain ⟨stats, phase, rfl, counted, cut⟩ := serving
  have carried := @served_of_planned _ Bank.service { node with stats, phase } bank frame plan
    [subframe] own planned alone fun other there => List.mem_singleton.1 there ▸ quiet
  rw [List.flatMap_singleton, calls, Bank.answerAll_reads] at carried
  obtain ⟨reply, served⟩ := carried
  refine ⟨reply, ?_⟩
  rw [served]
  refine ⟨_, _, rfl, counted, ?_⟩
  show (if 0 < written.omitted then bump stats.replyOverflow else stats.replyOverflow) = _
  by_cases overflow : 0 < written.omitted
  · rw [if_pos overflow, if_pos overflow, cut, bump_eq_raise, raise_raise]
  · rw [if_neg overflow, if_neg overflow, cut]

end Attended.Serving

/-! ## Replies to reads -/

/-- A reply to a read passes the check if it mentions every register; otherwise it is counted. -/
theorem Request.validate_of_read {request : Request} {span : Span} (reads : request.reads = [span])
    (tunnel : request.tunnel = none) {payload : List UInt8} {reply : Reply}
    (parsed : Reply.parse payload = .ok reply) (stats : Stats) :
    request.validate payload stats =
      match span.registers.find? fun register => (reply.readResult? register).isNone with
      | some register => (.error (.missingRegister register), countMissing stats)
      | none => (.ok reply, stats) := by
  have missing : request.missingRegister? reply =
      span.registers.find? fun register => (reply.readResult? register).isNone := by
    rw [missingRegister?, reads, List.findSome?_singleton, Span.find?_eq]
  have polled : request.missingTunnel? reply = none := by
    rw [missingTunnel?, tunnel]
    rfl
  unfold validate
  rw [parsed]
  cases found : span.registers.find? fun register => (reply.readResult? register).isNone with
  | some register => simp only [missing, found]
  | none => simp only [missing, found, polled]

/-- Whether what is said about a register is that it cannot be read. -/
def Reply.isRefusal : Option (Except Refusal Value) → Bool
  | some (.error _) => true
  | some (.ok _) | none => false

/-- Registers that are all mentioned have values, or the first whose mention is a refusal fails. -/
theorem Reply.mapM_valueOf_of_mentioned {reply : Reply} {registers : List Register}
    (mentioned : ∀ register ∈ registers, (reply.readResult? register).isNone = false) :
    (∃ values, registers.mapM reply.valueOf = .ok values ∧
      registers.map reply.readResult? = values.map fun value => some (.ok value)) ∨
    ∃ register refusal, registers.mapM reply.valueOf = .error (.readFailed register refusal) ∧
      registers.find? (fun register => isRefusal (reply.readResult? register)) = some register ∧
      reply.readResult? register = some (.error refusal) := by
  induction registers with
  | nil => exact .inl ⟨[], rfl, rfl⟩
  | cons register rest ih =>
    obtain ⟨first, others⟩ := List.forall_mem_cons.1 mentioned
    cases said : reply.readResult? register with
    | none =>
      rw [said] at first
      cases first
    | some result =>
      cases result with
      | error refusal =>
        have failed : reply.valueOf register = .error (.readFailed register refusal) := by
          rw [valueOf, said]
        refine .inr ⟨register, refusal, ?_, ?_, said⟩
        · rw [List.mapM_cons, failed]
          rfl
        · rw [List.find?_cons, said]
          rfl
      | ok value =>
        have given : reply.valueOf register = .ok value := by
          rw [valueOf, said]
        rcases ih others with ⟨values, read, same⟩ | ⟨other, refusal, failed, found, why⟩
        · refine .inl ⟨value :: values, ?_, ?_⟩
          · rw [List.mapM_cons, given, read]
            rfl
          · rw [List.map_cons, said, same]
            rfl
        · refine .inr ⟨other, refusal, ?_, ?_, why⟩
          · rw [List.mapM_cons, given, failed]
            rfl
          · rw [List.find?_cons, said]
            exact found

/-- Reading a register of a bank gives its value in the kind asked for. -/
theorem Bank.toOption_read (bank : Bank) (register : Register) (kind : Kind) :
    (bank.read register kind).toOption = (bank.get? register).map (·.toKind kind) := by
  rw [read, get?]
  cases bank.cell? register <;> rfl

/-- Reading a register of a bank fails if it is not defined, and for no other reason. -/
theorem Bank.isRefusal_read (bank : Bank) (register : Register) (kind : Kind) :
    Reply.isRefusal (some (bank.read register kind)) = (bank.get? register).isNone ∧
      ∀ refusal, bank.read register kind = .error refusal → refusal = unknownRegister := by
  rw [read, get?]
  cases bank.cell? register with
  | none => exact ⟨rfl, fun refusal same => (Except.error.inj same).symm⟩
  | some cell => exact ⟨rfl, nofun⟩

/-- A reply that says of every register what its read has come to gives the converted values, or the
first register that is not defined. -/
theorem Reply.mapM_valueOf {bank : Bank} {kind : Kind} {reply : Reply} {registers : List Register}
    (said : ∀ register ∈ registers,
      reply.readResult? register = some (bank.read register kind)) :
    (∃ values, registers.mapM reply.valueOf = .ok values ∧
      registers.map (fun register => (bank.get? register).map (·.toKind kind)) =
        values.map some) ∨
    ∃ register, registers.mapM reply.valueOf =
        .error (.readFailed register Bank.unknownRegister) ∧
      registers.find? (fun register => (bank.get? register).isNone) = some register := by
  have mentioned : ∀ register ∈ registers, (reply.readResult? register).isNone = false := by
    intro register there
    rw [said register there]
    rfl
  rcases mapM_valueOf_of_mentioned mentioned with
    ⟨values, read, same⟩ | ⟨register, refusal, failed, first, why⟩
  · refine .inl ⟨values, read, ?_⟩
    have kept := congrArg (List.map fun result => result.bind Except.toOption) same
    rw [List.map_map, List.map_map] at kept
    refine Eq.trans (List.map_congr_left fun register there => ?_) kept
    rw [Function.comp_apply, said register there, ← bank.toOption_read]
    rfl
  · have stored := said register (List.mem_of_find?_eq_some first)
    have cause : refusal = Bank.unknownRegister :=
      (bank.isRefusal_read register kind).2 refusal (Option.some.inj (stored.symm.trans why))
    refine .inr ⟨register, cause ▸ failed, ?_⟩
    have test : ∀ other ∈ registers,
        isRefusal (reply.readResult? other) = (bank.get? other).isNone := by
      intro other there
      rw [said other there]
      exact (bank.isRefusal_read other kind).1
    obtain ⟨hit, front, back, split, before⟩ := List.find?_eq_some_iff_append.1 first
    refine List.find?_eq_some_iff_append.2 ⟨?_, front, back, split, fun other there => ?_⟩
    · rw [← test register (List.mem_of_find?_eq_some first)]
      exact hit
    · rw [← test other (split ▸ List.mem_append_left _ there)]
      exact before other there

/-- What a finished reply to reads says is true, and nothing is missing if nothing was left out. -/
theorem Reply.reads_of_written (bank : Bank) (kind : Kind) (registers : List Register) (limit : Nat) :
    let written := bank.readReply kind registers limit
    written.payload.length < Word.bound 32 →
      ∃ reply, parse written.payload = .ok reply ∧
        (∀ register result, reply.readResult? register = some result →
          result = bank.read register kind) ∧
        (written.omitted = 0 → ∀ register ∈ registers,
          (reply.readResult? register).isNone = false) := by
  intro written short
  obtain ⟨kept, parsed, some, all⟩ :=
    Writer.parse_of_follows
      (@Writer.Follows.foldl { limit } nofun (registers.map (bank.readItem kind))) short
  refine ⟨⟨kept⟩, parsed, fun register result said => ?_, fun complete register there => ?_⟩
  · exact Bank.readResult?_of_subset some.subset said
  · rw [all complete]
    exact Bank.readResult?_of_mem there

/-- The length of a finished reply to so many reads has 32 bits. -/
theorem Reply.length_reads_lt (bank : Bank) (kind : Kind) {limit : Nat} {registers : List Register}
    (framable : Request.Framable limit registers.length) :
    (bank.readReply kind registers limit).payload.length < Word.bound 32 := by
  have number : (registers.map fun register => Call.read register kind).length =
      registers.length := List.length_map _
  rw [← number] at framable
  have short := @RegisterService.length_lt_of_framable _ Bank.service bank _ _ framable
  rw [Bank.answerAll_reads] at short
  exact short

/-- A reply to reads leaves nothing out where there is room for the longest answers. -/
theorem Bank.omitted_readReply (bank : Bank) (kind : Kind) {limit : Nat}
    {registers : List Register} (room : registers.length * 15 ≤ limit) :
    (bank.readReply kind registers limit).omitted = 0 := by
  have each : ∀ item ∈ registers.map (bank.readItem kind), item.subframe.size ≤ 15 := by
    intro item there
    refine @RegisterService.size_answer_le _ service bank
      (registers.map fun register => .read register kind) item ?_
    rw [answerAll_reads]
    exact there
  have most := total_le each
  rw [List.length_map] at most
  exact Reply.Writer.omitted_of_room (Nat.le_trans most room)

/-- A reply that refuses to read registers takes three bytes for each, where there is room. -/
theorem Bank.le_length_readReply {bank : Bank} (kind : Kind) {limit : Nat}
    {registers : List Register} (room : registers.length * 15 ≤ limit)
    (undefined : ∀ register ∈ registers, bank.cell? register = none) :
    registers.length * 3 ≤ (bank.readReply kind registers limit).payload.length := by
  have cost : ∀ item ∈ registers.map (bank.readItem kind), item.readCost = 3 := by
    intro item there
    obtain ⟨register, inside, rfl⟩ := List.mem_map.1 there
    rw [readItem, read, undefined register inside]
    rfl
  have least := Reply.total_readCost_le (registers.map (bank.readItem kind))
  have payload : (bank.readReply kind registers limit).payload =
      Reply.complete (registers.map (bank.readItem kind)) :=
    Reply.Writer.payload_finish (bank.omitted_readReply kind room)
  rw [payload, ← List.length_map (bank.readItem kind), ← total_of_const cost]
  exact least

/-- How reading registers of a bank ends, with the number of requests that the node has refused on
the way and the number of replies that it has cut short. -/
inductive Bank.ReadEnds (bank : Bank) (kind : Kind) (registers : List Register) (limit : Nat) :
    Nat → Nat → Except MasterError (List Value) → Prop
  /-- All registers are defined. -/
  | values {short : Nat} {values : List Value}
      (framed : (bank.readReply kind registers limit).payload.length < Word.bound 32)
      (stored : registers.map (fun register => (bank.get? register).map (·.toKind kind)) =
        values.map some) : ReadEnds bank kind registers limit 0 short (.ok values)
  /-- A register is not defined. -/
  | undefined {short : Nat} {register : Register}
      (framed : (bank.readReply kind registers limit).payload.length < Word.bound 32)
      (first : registers.find? (fun register => (bank.get? register).isNone) = some register) :
      ReadEnds bank kind registers limit 0 short
        (.error (.readFailed register Bank.unknownRegister))
  /-- An answer has been left out of the reply. -/
  | missing {short : Nat} {register : Register}
      (framed : (bank.readReply kind registers limit).payload.length < Word.bound 32)
      (cut : 0 < short) :
      ReadEnds bank kind registers limit 0 short (.error (.missingRegister register))
  /-- There is no reply, since the request is refused as a whole or the reply makes no frame. -/
  | late {refused short span : Nat}
      (silent : 0 < refused ∨
        Word.bound 32 ≤ (bank.readReply kind registers limit).payload.length) :
      ReadEnds bank kind registers limit refused short (.error (.timeout span))

namespace Master

variable {π : Type} [Peer π] {station : π → Attended Bank} {limit : Nat} {master : Master π}
  {node : Node} {bank : Bank} {start : Register} {count : UInt32}

/-- A read fails where its request does. -/
theorem readRegisters_of_error {destination : UInt8} {kind : Kind} {error : MasterError}
    {after : Master π}
    (queried : master.query destination (Request.toRead start count kind) = (.error error, after)) :
    master.readRegisters destination start count kind = (.error error, after) := by
  rw [readRegisters, queried]

/-- A reply to a read that makes a frame gives the stored values, or says which register is not
defined, or something was left out of it. -/
theorem readEnds_of_answered {kind : Kind} {after : Master π} {short : Nat}
    (reach : start.toNat + count.toNat < Word.bound 32) :
    let registers := (Span.mk start count.toNat).registers
    let written := bank.readReply kind registers limit
    let request := Request.toRead start count kind
    let result := master.readRegisters node.id start count kind
    written.payload.length < Word.bound 32 → (0 < written.omitted → 0 < short) →
    master.query node.id request = ((request.validate written.payload master.stats).1, after) →
      result.2 = after ∧ bank.ReadEnds kind registers limit 0 short result.1 := by
  intro registers written request result framed cut queried
  obtain ⟨reads, tunnel, _⟩ := Request.payload_toRead kind reach
  obtain ⟨reply, parsed, sound, whole⟩ := Reply.reads_of_written bank kind registers limit framed
  have valid := Request.validate_of_read reads tunnel parsed master.stats
  have asked : request.readRegisters = registers := by
    rw [Request.readRegisters, reads, List.flatMap_singleton]
  cases missing : registers.find? fun register => (reply.readResult? register).isNone with
  | some register =>
    rw [missing] at valid
    rw [valid] at queried
    have done : result = (.error (.missingRegister register), after) :=
      readRegisters_of_error queried
    rw [done]
    refine ⟨rfl, .missing framed (cut (Nat.pos_of_ne_zero fun complete => ?_))⟩
    have said := whole complete register (List.mem_of_find?_eq_some missing)
    have unsaid := List.find?_some missing
    rw [said] at unsaid
    cases unsaid
  | none =>
    rw [missing] at valid
    rw [valid] at queried
    have done : result = (registers.mapM reply.valueOf, after) := by
      show master.readRegisters node.id start count kind = _
      rw [readRegisters, queried]
      dsimp only
      rw [asked]
    have said : ∀ register ∈ registers,
        reply.readResult? register = some (bank.read register kind) := by
      intro register there
      have mentioned := List.find?_eq_none.1 missing register there
      cases found : reply.readResult? register with
      | none =>
        rw [found] at mentioned
        exact absurd rfl mentioned
      | some result => rw [sound register result found]
    rw [done]
    refine ⟨rfl, ?_⟩
    rcases Reply.mapM_valueOf said with ⟨values, read, stored⟩ | ⟨register, failed, first⟩
    · rw [read]
      exact .values framed stored
    · rw [failed]
      exact .undefined framed first

/-- A read that is not answered ends because the time is over. -/
theorem readEnds_of_unanswered {kind : Kind} (relays : Attended.Relays station)
    (idle : master.Idle station limit) (small : node.id ≤ Frame.maxId)
    (fits : (Request.toRead start count kind).payload.length ≤ limit)
    (few : (Request.toRead start count kind).payload.length < Word.bound 32)
    (state : Attended Bank → Prop) (first : state (station master.reader.line.peer))
    (unanswered : ∀ attended, state attended →
      attended.reply (master.frameOf node.id (Request.toRead start count kind).payload true) =
          none ∧
        state (attended.served
          (master.frameOf node.id (Request.toRead start count kind).payload true))) :
    let result := master.readRegisters node.id start count kind
    ∃ span before, result.1 = .error (.timeout span) ∧ result.2.Idle station limit ∧
      state before ∧
      station result.2.reader.line.peer =
        before.served (master.frameOf node.id (Request.toRead start count kind).payload true) := by
  intro result
  obtain ⟨after, before, rested, queried, held, peer⟩ :=
    query_of_unanswered relays idle small fits few state first unanswered
  have done : result = (.error (.timeout master.options.timeout), after) :=
    readRegisters_of_error queried
  rw [done]
  exact ⟨_, before, rfl, rested, held, peer⟩

/-- A read of a bank has ended, and the master can ask again. -/
structure Ended (station : π → Attended Bank) (limit : Nat) (node : Node) (bank : Bank)
    (kind : Kind) (registers : List Register) (refused short : Nat)
    (result : Except MasterError (List Value) × Master π) : Prop where
  /-- The master awaits nothing. -/
  idle : result.2.Idle station limit
  /-- What the node has counted. -/
  serving : Attended.Serving node bank refused short (station result.2.reader.line.peer)
  /-- How the read ends. -/
  ends : bank.ReadEnds kind registers limit refused short result.1

/-- A read that is refused as a whole is so at each attempt. -/
theorem ended_of_refused {kind : Kind} {error : Subframe.Error} {registers : List Register}
    (relays : Attended.Relays station) (idle : master.Idle station limit)
    (serving : Attended.Serving node bank 0 0 (station master.reader.line.peer))
    (small : node.id ≤ Frame.maxId)
    (fits : (Request.toRead start count kind).payload.length ≤ limit)
    (few : (Request.toRead start count kind).payload.length < Word.bound 32)
    (rejected : Dispatch.plan node.options.bufferSize (Request.toRead start count kind).payload =
      .error error) :
    ∃ refused, Ended station limit node bank kind registers refused 0
      (master.readRegisters node.id start count kind) := by
  obtain ⟨span, before, late, rested, ⟨refused, held⟩, peer⟩ :=
    readEnds_of_unanswered relays idle small fits few
      (fun attended => ∃ refused, Attended.Serving node bank refused 0 attended) ⟨0, serving⟩
      fun attended ⟨_, held⟩ => (held.refuse rfl rejected).imp_right fun counted => ⟨_, counted⟩
  refine ⟨refused + 1, rested, ?_, ?_⟩
  · rw [peer]
    exact (held.refuse rfl rejected).2
  · rw [late]
    exact .late (.inl (Nat.succ_pos _))

/-! ## Reads that are carried out -/

section Planned

variable {kind : Kind} {plan : Dispatch.Plan} {subframe : Subframe}
  (relays : Attended.Relays station) (idle : master.Idle station limit)
  (serves : station master.reader.line.peer =
    { service := Bank.service, station := { node, registers := bank } })
  (small : node.id ≤ Frame.maxId)
  (payload : (Request.toRead start count kind).payload = subframe.encode)
  (sound : subframe.Fits ∧ subframe.isRegisterRequest = true)
  (calls : subframe.calls =
    (Span.mk start count.toNat).registers.map fun register => .read register kind)
  (fits : (Request.toRead start count kind).payload.length ≤ limit)
  (few : (Request.toRead start count kind).payload.length < Word.bound 32)
  (planned : Dispatch.plan limit (Request.toRead start count kind).payload = .ok plan)

/-- The payload of a read is its one subframe. -/
theorem contents_of_read
    (payload : (Request.toRead start count kind).payload = subframe.encode)
    (sound : subframe.Fits ∧ subframe.isRegisterRequest = true) :
    (Request.toRead start count kind).payload = [subframe].flatMap Subframe.encode ∧
      ∀ other ∈ [subframe], other.Fits ∧ other.isRegisterRequest = true :=
  ⟨by rw [payload, List.flatMap_singleton],
    fun other there => List.mem_singleton.1 there ▸ sound⟩

omit [Peer π] in
variable (master) in
include payload sound calls planned in
/-- A node that carries out a read of a bank answers it, and counts a reply with something left
out. -/
theorem serving_read (bufferSize : node.options.bufferSize = limit) {short : Nat}
    {attended : Attended Bank} (serving : Attended.Serving node bank 0 short attended) :
    let frame := master.frameOf node.id (Request.toRead start count kind).payload true
    let written := bank.readReply kind (Span.mk start count.toNat).registers limit
    attended.reply frame = node.answer frame plan written.payload ∧
      Attended.Serving node bank 0 (if 0 < written.omitted then short + 1 else short)
        (attended.served frame) := by
  subst bufferSize
  obtain ⟨encoded, all⟩ := contents_of_read payload sound
  obtain ⟨alone, _, quiet⟩ := contents_of_calls encoded all
  exact serving.read rfl planned alone (quiet subframe (List.mem_singleton_self _)) calls

include relays idle serves small payload sound calls fits few planned

/-- A read whose reply is too long for a frame ends because the time is over. What the node counts is
replies with something left out. -/
theorem late_of_long
    (long : Word.bound 32 ≤
      (bank.readReply kind (Span.mk start count.toNat).registers limit).payload.length) :
    let result := master.readRegisters node.id start count kind
    ∃ span short, result.1 = .error (.timeout span) ∧ result.2.Idle station limit ∧
      Attended.Serving node bank 0 short (station result.2.reader.line.peer) ∧
      ((bank.readReply kind (Span.mk start count.toNat).registers limit).omitted = 0 →
        short = 0) := by
  intro result
  have begun := Attended.Serving.start node bank
  rw [← serves] at begun
  have bufferSize := idle.bufferSize serves
  have next {short : Nat} {attended : Attended Bank}
      (serving : Attended.Serving node bank 0 short attended) :=
    serving_read master payload sound calls planned bufferSize serving
  obtain ⟨span, before, late, rested, ⟨short, serving, whole⟩, peer⟩ :=
    readEnds_of_unanswered relays idle small fits few
      (fun attended => ∃ short, Attended.Serving node bank 0 short attended ∧
        ((bank.readReply kind (Span.mk start count.toNat).registers limit).omitted = 0 →
          short = 0))
      ⟨0, begun, fun _ => rfl⟩ fun attended ⟨short, serving, whole⟩ =>
        ⟨(next serving).1.trans (Node.answer_of_long plan long), _, (next serving).2,
          fun complete => by rw [complete, if_neg (Nat.lt_irrefl 0), whole complete]⟩
  refine ⟨span, _, late, rested, peer ▸ (next serving).2, fun complete => ?_⟩
  rw [complete, if_neg (Nat.lt_irrefl 0), whole complete]

/-- A read that the node carries out ends with its reply, or with none if that makes no frame. -/
theorem ended_of_planned (reach : start.toNat + count.toNat < Word.bound 32) :
    ∃ short, Ended station limit node bank kind (Span.mk start count.toNat).registers 0 short
      (master.readRegisters node.id start count kind) := by
  by_cases framed : (bank.readReply kind (Span.mk start count.toNat).registers
      limit).payload.length < Word.bound 32
  · have begun := Attended.Serving.start node bank
    rw [← serves] at begun
    obtain ⟨encoded, all⟩ := contents_of_read payload sound
    have answered : Bank.service.answerAll bank ([subframe].flatMap Subframe.calls) =
        ((Span.mk start count.toNat).registers.map (bank.readItem kind), bank) := by
      rw [List.flatMap_singleton, calls, Bank.answerAll_reads]
    have queried := query_of_planned relays idle serves small encoded all fits few planned
    simp only [answered] at queried
    obtain ⟨after, rested, asked, peer⟩ := queried framed
    have serving :=
      (serving_read master payload sound calls planned (idle.bufferSize serves)
        begun).2
    rw [← peer] at serving
    obtain ⟨last, ends⟩ := readEnds_of_answered reach framed
      (fun cut => Nat.lt_of_lt_of_eq Nat.one_pos (if_pos cut).symm) asked
    exact ⟨_, last ▸ rested, last ▸ serving, ends⟩
  · have long := Nat.le_of_not_lt framed
    obtain ⟨span, short, late, rested, serving, _⟩ :=
      late_of_long relays idle serves small payload sound calls fits few planned long
    refine ⟨short, rested, serving, ?_⟩
    rw [late]
    exact .late (.inr long)

end Planned

/-- Reading consecutive registers of a bank ends in one of these ways. -/
theorem ended_readRegisters (relays : Attended.Relays station)
    (idle : master.Idle station limit)
    (serves : station master.reader.line.peer =
      { service := Bank.service, station := { node, registers := bank } })
    (small : node.id ≤ Frame.maxId) (kind : Kind)
    (reach : start.toNat + count.toNat < Word.bound 32)
    (fits : (Request.toRead start count kind).payload.length ≤ limit) :
    ∃ refused short, Ended station limit node bank kind (Span.mk start count.toNat).registers
      refused short (master.readRegisters node.id start count kind) := by
  obtain ⟨_, _, subframe, payload, whole, calling, size, calls⟩ :=
    Request.payload_toRead kind reach
  have few : (Request.toRead start count kind).payload.length < Word.bound 32 := by
    have bound : 15 < Word.bound 32 := by decide
    rw [payload, Subframe.length_encode]
    omega
  have bufferSize := idle.bufferSize serves
  cases planned : Dispatch.plan limit (Request.toRead start count kind).payload with
  | error error =>
    have begun := Attended.Serving.start node bank
    rw [← serves] at begun
    rw [← bufferSize] at planned
    obtain ⟨refused, ended⟩ := ended_of_refused relays idle begun small fits few planned
    exact ⟨refused, 0, ended⟩
  | ok plan =>
    obtain ⟨short, ended⟩ :=
      ended_of_planned relays idle serves small payload ⟨whole, calling⟩ calls fits few planned reach
    exact ⟨0, short, ended⟩

/-- A read of consecutive registers of a bank, on a line that loses nothing: what is returned is what
is stored, and what is missing was counted by the node, or no frame can have the reply. -/
theorem readRegisters_of_idle (relays : Attended.Relays station)
    (idle : master.Idle station limit)
    (serves : station master.reader.line.peer =
      { service := Bank.service, station := { node, registers := bank } })
    (small : node.id ≤ Frame.maxId) (kind : Kind)
    (reach : start.toNat + count.toNat ≤ Word.bound 32 - 2)
    (fits : (Request.toRead start count kind).payload.length ≤ limit) :
    let registers := (Span.mk start count.toNat).registers
    let written := bank.readReply kind registers limit
    let result := master.readRegisters node.id start count kind
    let served := (station result.2.reader.line.peer).station
    (∀ values, result.1 = .ok values →
      registers.map (fun register => (bank.get? register).map (·.toKind kind)) =
        values.map some) ∧
    (∀ register refusal, result.1 = .error (.readFailed register refusal) →
      registers.find? (fun register => (bank.get? register).isNone) = some register ∧
        refusal = Bank.unknownRegister) ∧
    (∃ refused short,
      served.node.stats.malformedSubframe = raise refused node.stats.malformedSubframe ∧
      served.node.stats.replyOverflow = raise short node.stats.replyOverflow ∧
      (∀ register, result.1 = .error (.missingRegister register) → 0 < short) ∧
      (written.payload.length < Word.bound 32 → refused = 0 → short = 0 →
        (∃ values, result.1 = .ok values) ∨
          ∃ register refusal, result.1 = .error (.readFailed register refusal))) ∧
    (Word.bound 32 ≤ written.payload.length → ∃ span, result.1 = .error (.timeout span)) ∧
    (Request.Framable limit count.toNat → written.payload.length < Word.bound 32) ∧
    served.registers = bank ∧ served.node.tunnels = node.tunnels ∧
    result.2.Idle station limit := by
  intro registers written result served
  have positive : 2 ≤ Word.bound 32 := by decide
  obtain ⟨refused, short, rested, ⟨stats, phase, same, counted, cut⟩, ends⟩ :=
    ended_readRegisters relays idle serves small kind (by omega) fits
  have station_ : served = { node := { node with stats, phase }, registers := bank } :=
    congrArg Attended.station same
  have length : registers.length = count.toNat := Span.length_registers _
  rw [station_]
  refine ⟨fun values done => ?_, fun register refusal done => ?_, ⟨refused, short, counted, cut,
    fun register done => ?_, fun framed calm whole => ?_⟩, fun long => ?_, fun framable => ?_, rfl,
    rfl, rested⟩
  case refine_6 => exact Reply.length_reads_lt bank kind (length ▸ framable)
  all_goals
    change Bank.ReadEnds bank kind registers limit refused short result.1 at ends
    generalize result.1 = returned at *
  · cases done
    cases ends with
    | values _ stored => exact stored
  · cases done
    cases ends with
    | undefined _ first => exact ⟨first, rfl⟩
  · cases done
    cases ends with
    | missing _ cut => exact cut
  · cases ends with
    | values _ stored => exact .inl ⟨_, rfl⟩
    | undefined _ first => exact .inr ⟨_, _, rfl⟩
    | missing _ some => omega
    | late silent =>
      rcases silent with some | long
      · omega
      · exact absurd framed (Nat.not_lt.2 long)
  · cases ends with
    | values framed | undefined framed | missing framed =>
      exact absurd framed (Nat.not_lt.2 long)
    | late _ => exact ⟨_, rfl⟩

/-- Two registers that are stored in different kinds are read in one kind. -/
theorem readRegisters_of_two :
    let bank := (Bank.empty.define 7 (.int16 5)).define 8 (.int8 6)
    let attended : Attended Bank :=
      { service := Bank.service, station := { node := .ofConfig {} ⟨3⟩, registers := bank } }
    let line : Line (Attended Bank) := { peer := attended, idle := .silent 1 (by decide) }
    let master := ofLine line {} .never
    (master.readRegisters 3 7 2 .int16).1.toOption = some [.int16 5, .int16 6] ∧
      [7, 8].map (fun register => (bank.get? register).map (·.toKind .int16)) =
        [some (.int16 5), some (.int16 6)] := by
  intro bank attended line master
  have idle : master.Idle id 256 :=
    @idle_ofLine _ _ attended 1 {} ⟨fun _ => rfl, rfl, rfl⟩ (by decide) (by decide) rfl .never
  have read : (master.readRegisters 3 7 2 .int16).1.toOption = some [.int16 5, .int16 6] := by
    decide +kernel
  obtain ⟨stored, _⟩ := readRegisters_of_idle Attended.relays_id idle rfl (by decide) .int16
    (show (7 : Register).toNat + (2 : UInt32).toNat ≤ Word.bound 32 - 2 by decide)
    (by decide +kernel)
  refine ⟨read, ?_⟩
  cases result : (master.readRegisters 3 7 2 .int16).1 with
  | error error =>
    rw [result] at read
    cases read
  | ok values =>
    rw [result] at read
    cases read
    exact stored _ result

/-- A read of so many registers, none of which is defined, that the refusals are too long for a
frame: it is carried out without anything left out of the reply, and ends because the time is
over. -/
theorem late_of_undefined (relays : Attended.Relays station) (idle : master.Idle station limit)
    (serves : station master.reader.line.peer =
      { service := Bank.service, station := { node, registers := bank } })
    (small : node.id ≤ Frame.maxId) (kind : Kind)
    (reach : start.toNat + count.toNat < Word.bound 32)
    (undefined : ∀ register, bank.cell? register = none)
    (many : Word.bound 32 ≤ count.toNat * 3) (room : count.toNat * 15 ≤ limit) :
    let result := master.readRegisters node.id start count kind
    (∃ span, result.1 = .error (.timeout span)) ∧
      Attended.Serving node bank 0 0 (station result.2.reader.line.peer) := by
  intro result
  obtain ⟨_, _, subframe, payload, whole, calling, size, calls⟩ :=
    Request.payload_toRead kind reach
  have bound : 15 < Word.bound 32 := by decide
  have length : (Request.toRead start count kind).payload.length ≤ 15 := by
    rw [payload, Subframe.length_encode]
    exact size
  have number : (Span.mk start count.toNat).registers.length = count.toNat :=
    Span.length_registers _
  have enough : (Span.mk start count.toNat).registers.length * 15 ≤ limit := by
    rw [number]
    exact room
  obtain ⟨encoded, all⟩ := contents_of_read payload ⟨whole, calling⟩
  obtain ⟨alone, stop, _⟩ := contents_of_calls encoded all
  have cost : subframe.readCost ≤ count.toNat * 3 := by
    have each : ∀ call ∈ subframe.calls, call.readCost ≤ 3 := by
      intro call there
      rw [calls] at there
      obtain ⟨register, _, rfl⟩ := List.mem_map.1 there
      exact Nat.min_le_right _ _
    have most := total_le each
    rw [subframe.total_readCost_calls, calls, List.length_map, number] at most
    exact most
  have planned := @Dispatch.plan_of_room limit (Request.toRead start count kind).payload stop
    (by rw [alone]; exact fun other there => (all other there).2) (.inr (by
      rw [alone, total_cons, total_nil]
      omega))
  have long := bank.le_length_readReply kind enough fun register _ => undefined register
  rw [number] at long
  obtain ⟨span, short, late, _, serving, none⟩ :=
    late_of_long relays idle serves small payload ⟨whole, calling⟩ calls (by omega) (by omega)
      planned (Nat.le_trans many long)
  rw [none (bank.omitted_readReply kind enough)] at serving
  exact ⟨⟨span, late⟩, serving⟩

/-- A new master that reads too many registers of an empty bank for a frame with the refusals waits
for a reply in vain, and the node counts nothing. -/
theorem late_of_empty {count : UInt32} (many : Word.bound 32 ≤ count.toNat * 3)
    (room : count.toNat * 15 ≤ limit) :
    let node : Node := .ofConfig { bufferSize := limit } ⟨3⟩
    let attended : Attended Bank :=
      { service := Bank.service, station := { node, registers := .empty } }
    let line : Line (Attended Bank) := { peer := attended, idle := .silent 1 (by decide) }
    let master := ofLine line { bufferSize := limit } .never
    let result := master.readRegisters node.id 0 count .int8
    let stats := result.2.reader.line.peer.station.node.stats
    master.Idle id limit ∧ (∃ span, result.1 = .error (.timeout span)) ∧
      stats.malformedSubframe = 0 ∧ stats.replyOverflow = 0 := by
  intro node attended line master result stats
  have idle : master.Idle id limit :=
    @idle_ofLine _ _ attended 1 { bufferSize := limit } ⟨fun _ => rfl, rfl, rfl⟩ (by decide)
      (show (0 : UInt8) ≤ Frame.maxId by decide) rfl .never
  have small : node.id ≤ Frame.maxId := show (3 : UInt8) ≤ Frame.maxId by decide
  have reach : (0 : Register).toNat + count.toNat < Word.bound 32 := by
    rw [UInt32.toNat_zero, Nat.zero_add]
    exact count.toNat_lt
  obtain ⟨late, counted, phase, same, malformed, overflow⟩ :=
    @late_of_undefined _ _ _ _ _ node .empty 0 count Attended.relays_id idle rfl small .int8
      reach (fun _ => rfl) many room
  have after : stats = counted :=
    congrArg (fun after : Attended Bank => after.station.node.stats) same
  rw [after, malformed, overflow, raise_zero, raise_zero]
  exact ⟨idle, late, rfl, rfl⟩

/-- Where a bank refuses half of all registers, the refusals are too long for a frame, and no counter
tells it. Where the first read of a line fails and there is no time for another, the values come too
late. -/
theorem readRegisters_without_reply :
    (let limit := 15 * Word.bound 32
      let node : Node := .ofConfig { bufferSize := limit } ⟨3⟩
      let attended : Attended Bank :=
        { service := Bank.service, station := { node, registers := .empty } }
      let line : Line (Attended Bank) := { peer := attended, idle := .silent 1 (by decide) }
      let master := ofLine line { bufferSize := limit } .never
      let result := master.readRegisters node.id 0 0x80000000 .int8
      let stats := result.2.reader.line.peer.station.node.stats
      (Request.toRead 0 0x80000000 .int8).payload.length ≤ limit ∧ master.Idle id limit ∧
        (∃ span, result.1 = .error (.timeout span)) ∧
        stats.malformedSubframe = 0 ∧ stats.replyOverflow = 0) ∧
    (let attended : Attended Bank :=
        { service := Bank.service
          station := { node := .ofConfig {} ⟨3⟩, registers := Bank.empty.define 7 (.int16 5) } }
      let line : Line (Attended Bank) :=
        { peer := attended, arrivals := [.fault .timedOut], idle := .silent 1 (by decide) }
      let result := (ofLine line { timeout := 0 } .never).readRegisters 3 7 1 .int16
      let stats := result.2.reader.line.peer.station.node.stats
      result.1 = .error (.timeout 0) ∧
        stats.malformedSubframe = 0 ∧ stats.replyOverflow = 0 ∧
        result.2.reader.line.arrivals =
          [.data [0x54, 0xab, 3, 0, 4, 0x21, 7, 5, 0, 0xa6, 0xf5]]) := by
  constructor
  · exact ⟨by decide +kernel, late_of_empty (by decide) (by decide)⟩
  · intro attended line result stats
    exact ⟨eq_error_of_match (by decide +kernel), by decide +kernel, by decide +kernel,
      by decide +kernel⟩

end Master

end Multidrop
