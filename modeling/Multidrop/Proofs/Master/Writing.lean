import Multidrop.Proofs.Master.Query
import Multidrop.Proofs.Register
import Multidrop.Proofs.Request.Compose

/-!
# Writing the registers of a bank

A master that writes registers of a bank over a line that loses nothing learns of the first write
that is refused, however many are (`writeRegisters_of_idle`). Writes that succeed are not mentioned
in the reply, so this takes that the first refusal always has room: the request was no shorter
(`Request.refusal_le_toWrite`). A request that is too long for a frame is not sent, and a reply that
is too long leaves the registers written (`Bank.Written`) and the master without an answer
(`writeRegisters_unconfirmed`).
-/
namespace Multidrop

open Reply (Item)

/-- The reply of a bank to writes of registers. -/
def Bank.writeReply (bank : Bank) (registers : List Register) (limit : Nat) : Reply.Writer :=
  ((bank.writeItems registers).foldl Reply.Writer.add { limit }).finish

/-- The reply to writes says nothing if all succeed; if there is room for any refusal, it says the
first. -/
theorem Reply.confirmWrites_of_written {bank : Bank} {registers : List Register} {limit : Nat}
    (room : ∀ register ∈ registers, ∀ refusal, bank.refusal? register = some refusal →
      (Subframe.writeError register refusal.code).size ≤ limit)
    (short : (bank.writeReply registers limit).payload.length < Word.bound 32) :
    ∃ reply, parse (bank.writeReply registers limit).payload = .ok reply ∧
      ((∀ register ∈ registers, bank.refusal? register = none) → reply.confirmWrites = .ok ()) ∧
      ∀ front register back refusal, registers = front ++ register :: back →
        (∀ other ∈ front, bank.refusal? other = none) → bank.refusal? register = some refusal →
        reply.confirmWrites = .error (.writeFailed register refusal) := by
  rw [Bank.writeReply] at short ⊢
  cases said : bank.writeItems registers with
  | nil =>
    rw [said] at short
    obtain ⟨kept, parsed, some, _⟩ :=
      Writer.parse_of_follows (@Writer.Follows.refl { limit } nofun) short
    rw [List.sublist_nil] at some
    subst some
    refine ⟨⟨[]⟩, parsed, fun _ => rfl, ?_⟩
    rintro front register back refusal rfl before refused
    rw [Bank.writeItems_of_refused before refused] at said
    cases said
  | cons item items =>
    obtain ⟨named, inside, cause, refused, rfl⟩ :=
      Bank.exists_refusal_of_mem_writeItems (said ▸ List.mem_cons_self : item ∈ _)
    rw [said] at short
    obtain ⟨kept, _, parsed⟩ := Writer.parse_of_refused (room named inside cause refused) short
    refine ⟨⟨.writeError named cause.code :: kept⟩, parsed, fun open_ => ?_, ?_⟩
    · rw [Bank.writeItems_eq_nil open_] at said
      cases said
    · rintro front register back refusal rfl before here
      rw [Bank.writeItems_of_refused before here] at said
      obtain ⟨rfl, code⟩ := Item.writeError.inj (List.cons.inj said).1
      have same : refusal = cause := congrArg Refusal.mk code
      rw [same]
      rfl

/-- A reply to a request that asks for no answers passes the check. -/
theorem Request.validate_of_write {request : Request} (reads : request.reads = [])
    (tunnel : request.tunnel = none) {payload : List UInt8} {reply : Reply}
    (parsed : Reply.parse payload = .ok reply) (stats : Stats) :
    (request.validate payload stats).1 = .ok reply := by
  have missing : request.missingRegister? reply = none := by
    rw [missingRegister?, reads]
    rfl
  have polled : request.missingTunnel? reply = none := by
    rw [missingTunnel?, tunnel]
    rfl
  unfold validate
  rw [parsed]
  dsimp only
  rw [missing, polled]

/-- A node that serves a bank and is another one only in its counters and how far it is. -/
def Attended.Holding (node : Node) (bank : Bank) (attended : Attended Bank) : Prop :=
  ∃ stats phase, attended =
    { service := Bank.service
      station := { node := { node with stats, phase }, registers := bank } }

/-- A request that writes is carried out, and the refusals are the answer. -/
theorem Attended.Holding.write {node : Node} {bank : Bank} {attended : Attended Bank}
    {frame : Frame} {plan : Dispatch.Plan} {subframes : List Subframe}
    {cells : List (Register × Value)} (holding : Attended.Holding node bank attended)
    (own : frame.destination = node.id)
    (planned : Dispatch.plan node.options.bufferSize frame.payload = .ok plan)
    (same : (Subframe.Contents.ofPayload frame.payload).subframes = subframes)
    (quiet : ∀ subframe ∈ subframes, subframe.isTunnel = false)
    (calls : subframes.flatMap Subframe.calls = cells.map fun cell => .write cell.1 cell.2) :
    attended.reply frame = node.answer frame plan
        (bank.writeReply (cells.map Prod.fst) node.options.bufferSize).payload ∧
      Attended.Holding node (bank.writeAll cells) (attended.served frame) := by
  obtain ⟨stats, phase, rfl⟩ := holding
  obtain ⟨reply, served⟩ := @served_of_planned _ Bank.service { node with stats, phase } bank frame
    plan subframes own planned same quiet
  rw [calls, Bank.answerAll_writes] at reply served
  exact ⟨reply, _, _, served⟩

namespace Master

variable {π : Type} [Peer π] {station : π → Attended Bank} {limit : Nat} {master : Master π}
  {node : Node} {bank : Bank} {start : Register} {values : List Value}

/-- A write fails where its request does. -/
theorem writeRegisters_of_error {destination : UInt8} {error : MasterError} {after : Master π}
    (queried : master.query destination (Request.toWrite start values) = (.error error, after)) :
    master.writeRegisters destination start values = (.error error, after) := by
  rw [writeRegisters, queried]
  rfl

/-- A write of consecutive registers of a bank is carried out. Its reply is checked if a frame can
have it, and awaited in vain otherwise. -/
theorem query_of_write (relays : Attended.Relays station) (idle : master.Idle station limit)
    (serves : station master.reader.line.peer =
      { service := Bank.service, station := { node, registers := bank } })
    (small : node.id ≤ Frame.maxId) (reach : start.toNat + values.length < Word.bound 32)
    (fits : (Request.toWrite start values).payload.length ≤ limit)
    (few : (Request.toWrite start values).payload.length < Word.bound 32) :
    let request := Request.toWrite start values
    let written := bank.writeReply (Span.mk start values.length).registers limit
    ∃ result after kept, master.query node.id request = (result, after) ∧
      after.Idle station limit ∧ bank.Written (Dispatch.cells start values) kept ∧
      Attended.Holding node kept (station after.reader.line.peer) ∧
      (written.payload.length < Word.bound 32 →
        result = (request.validate written.payload master.stats).1) ∧
      (Word.bound 32 ≤ written.payload.length →
        result = .error (.timeout master.options.timeout)) := by
  intro request written
  obtain ⟨_, _, subframes, payload, writes, calls⟩ := Request.payload_toWrite reach
  have sound : ∀ subframe ∈ subframes, subframe.Fits ∧ subframe.isRegisterRequest = true :=
    fun subframe there => ⟨(writes subframe there).1, (writes subframe there).2.1⟩
  obtain ⟨same, stop, quiet⟩ := contents_of_calls payload sound
  have bufferSize := idle.bufferSize serves
  subst bufferSize
  have planned := @Dispatch.plan_of_writes node.options.bufferSize request.payload stop (by
    rw [same]
    exact fun subframe there => (writes subframe there).2)
  have named : (Dispatch.cells start values).map Prod.fst =
      (Span.mk start values.length).registers := Request.map_fst_cells start values
  have distinct : ((Dispatch.cells start values).map Prod.fst).Nodup := by
    rw [named]
    exact Span.nodup_registers (show values.length ≤ Word.bound 32 by omega)
  have writes {before : Bank} {attended : Attended Bank}
      (holding : Attended.Holding node before attended) :=
    @Attended.Holding.write _ _ _ (master.frameOf node.id request.payload true) _ _ _ holding rfl
      planned same quiet calls
  have begun : Attended.Holding node bank (station master.reader.line.peer) :=
    ⟨node.stats, node.phase, serves⟩
  by_cases framed : written.payload.length < Word.bound 32
  · have answered : Bank.service.answerAll bank (subframes.flatMap Subframe.calls) =
        (bank.writeItems (Span.mk start values.length).registers,
          bank.writeAll (Dispatch.cells start values)) := by
      rw [calls, Bank.answerAll_writes, named]
    have queried := query_of_planned relays idle serves small payload sound fits few planned
    simp only [answered] at queried
    obtain ⟨after, rested, asked, peer⟩ := queried framed
    refine ⟨_, after, _, asked, rested, bank.written_writeAll distinct, ?_, fun _ => rfl,
      fun long => absurd framed (Nat.not_lt.2 long)⟩
    rw [peer]
    exact (writes begun).2
  · -- Every attempt writes the registers once more, and meets the same refusals.
    have long := Nat.le_of_not_lt framed
    obtain ⟨after, before, rested, asked, ⟨last, holding, kept⟩, peer⟩ :=
      query_of_unanswered relays idle small fits few
        (fun attended => ∃ last, Attended.Holding node last attended ∧
          (last = bank ∨ bank.Written (Dispatch.cells start values) last))
        ⟨bank, begun, .inl rfl⟩ fun attended ⟨last, holding, kept⟩ => by
          have again := last.written_writeAll distinct
          have refused : last.writeItems (Span.mk start values.length).registers =
              bank.writeItems (Span.mk start values.length).registers := by
            rcases kept with rfl | kept
            · rfl
            · exact kept.writeItems_eq _
          obtain ⟨reply, after⟩ := writes holding
          rw [named, Bank.writeReply, refused] at reply
          refine ⟨reply.trans (Node.answer_of_long _ long), _, after, .inr ?_⟩
          rcases kept with rfl | kept
          · exact again
          · exact kept.trans again
    have again := last.written_writeAll distinct
    refine ⟨_, after, _, asked, rested, ?_, peer ▸ (writes holding).2,
      fun short => absurd short framed, fun _ => rfl⟩
    rcases kept with rfl | kept
    · exact again
    · exact kept.trans again

/-- The refusals of writes, and the request for them, have lengths of 32 bits where the limit or the
number of registers has. -/
theorem length_lt_of_framable (fits : (Request.toWrite start values).payload.length ≤ limit)
    (framable : Request.Framable limit values.length) :
    (Request.toWrite start values).payload.length < Word.bound 32 ∧
      (bank.writeReply (Span.mk start values.length).registers limit).payload.length <
        Word.bound 32 := by
  constructor
  · have most := Request.length_toWrite_le start values
    rcases framable with short | short
    · exact Nat.lt_of_le_of_lt fits short
    · exact Nat.lt_of_le_of_lt most (Nat.mul_comm _ _ ▸ short)
  · have number : ((Dispatch.cells start values).map fun cell =>
        Call.write cell.1 cell.2).length = values.length := by
      rw [List.length_map, Dispatch.cells, List.length_mapIdx]
    rw [← number] at framable
    have short := @RegisterService.length_lt_of_framable _ Bank.service bank _ _ framable
    rw [Bank.answerAll_writes, Request.map_fst_cells] at short
    exact short

/-- A write of consecutive registers of a bank, on a line that loses nothing, succeeds exactly if
all of them may be written, and fails with the first one that may not. -/
theorem writeRegisters_of_idle (relays : Attended.Relays station)
    (idle : master.Idle station limit)
    (serves : station master.reader.line.peer =
      { service := Bank.service, station := { node, registers := bank } })
    (small : node.id ≤ Frame.maxId)
    (reach : start.toNat + values.length ≤ Word.bound 32 - 2)
    (fits : (Request.toWrite start values).payload.length ≤ limit) :
    let registers := (Span.mk start values.length).registers
    let request := Request.toWrite start values
    let written := bank.writeReply registers limit
    let result := master.writeRegisters node.id start values
    let served := (station result.2.reader.line.peer).station
    (request.payload.length < Word.bound 32 → written.payload.length < Word.bound 32 →
      (result.1 = .ok () ↔
        ∀ register ∈ registers, ∃ cell, bank.cell? register = some cell ∧ cell.readOnly = false) ∧
      (∀ front register back refusal, registers = front ++ register :: back →
        (∀ other ∈ front, bank.refusal? other = none) → bank.refusal? register = some refusal →
        result.1 = .error (.writeFailed register refusal))) ∧
    (request.payload.length < Word.bound 32 →
      (∀ place value cell, values[place]? = some value →
        bank.cell? (start + .ofNat place) = some cell → cell.readOnly = false →
        served.registers.cell? (start + .ofNat place) = some { cell with value }) ∧
      (∀ register, register ∉ registers ∨ bank.refusal? register ≠ none →
        served.registers.cell? register = bank.cell? register) ∧
      (Word.bound 32 ≤ written.payload.length → ∃ span, result.1 = .error (.timeout span))) ∧
    (Word.bound 32 ≤ request.payload.length →
      result.1 = .error (.frame (.payloadTooLarge request.payload.length (Word.bound 32 - 1))) ∧
        served = { node, registers := bank }) ∧
    (Request.Framable limit values.length →
      request.payload.length < Word.bound 32 ∧ written.payload.length < Word.bound 32) ∧
    result.2.Idle station limit := by
  intro registers request written result served
  have positive : 2 ≤ Word.bound 32 := by decide
  have framable := @length_lt_of_framable limit bank start values fits
  by_cases few : request.payload.length < Word.bound 32
  case neg =>
    have long := Nat.le_of_not_lt few
    obtain ⟨after, rested, refused, peer⟩ := query_of_unframed idle small fits long
    have done : result =
        (.error (.frame (.payloadTooLarge request.payload.length (Word.bound 32 - 1))), after) :=
      writeRegisters_of_error refused
    have station_ : served = { node, registers := bank } := by
      show (station result.2.reader.line.peer).station = _
      rw [done]
      dsimp only
      rw [peer, serves]
    rw [done]
    exact ⟨fun short => absurd short few, fun short => absurd short few,
      fun _ => ⟨rfl, station_⟩, framable, rested⟩
  obtain ⟨reads, tunnel, _⟩ := @Request.payload_toWrite start values (by omega)
  obtain ⟨answer, after, kept, queried, rested, stored, ⟨stats, phase, same⟩, checked, late⟩ :=
    query_of_write relays idle serves small (by omega) fits few
  have done : result = ((do (← answer).confirmWrites), after) := by
    show master.writeRegisters node.id start values = _
    rw [writeRegisters, queried]
  have left : served.registers = kept := by
    show (station result.2.reader.line.peer).station.registers = _
    rw [done, same]
  rw [left, done]
  refine ⟨fun _ framed => ?_, fun _ => ⟨?_, ?_, fun long => ?_⟩,
    fun long => absurd few (Nat.not_lt.2 long), framable, rested⟩
  · -- A request is no shorter than any of the refusals it can meet, so there is room for each.
    have room : ∀ register ∈ registers, ∀ refusal, bank.refusal? register = some refusal →
        (Subframe.writeError register refusal.code).size ≤ limit := by
      intro register inside refusal refused
      obtain ⟨place, within, rfl⟩ := List.mem_map.1 inside
      exact Nat.le_trans (Request.refusal_le_toWrite (List.mem_range.1 within)
        (Bank.code_lt_of_refusal? refused)) fits
    obtain ⟨reply, parsed, confirmed, refused⟩ := Reply.confirmWrites_of_written room framed
    have given : (do (← answer).confirmWrites) = reply.confirmWrites := by
      rw [checked framed, Request.validate_of_write reads tunnel parsed]
      rfl
    rw [given]
    refine ⟨⟨fun fine => ?_, fun free => ?_⟩, refused⟩
    · rcases bank.all_open_or_refused registers with
        open_ | ⟨front, register, back, refusal, whole, before, here⟩
      · exact fun register inside => Bank.refusal?_eq_none_iff.1 (open_ register inside)
      · rw [refused front register back refusal whole before here] at fine
        cases fine
    · exact confirmed fun register inside => Bank.refusal?_eq_none_iff.2 (free register inside)
  · intro place value cell given held free
    obtain ⟨within, rfl⟩ := List.getElem?_eq_some_iff.1 given
    exact stored.stored _ _ cell (List.mem_mapIdx.2 ⟨place, within, rfl⟩) held free
  · intro register untouched
    refine stored.kept register (untouched.imp_left fun outside cell there same => outside ?_)
    show register ∈ (Span.mk start values.length).registers
    rw [← Request.map_fst_cells start values, ← same]
    exact List.mem_map_of_mem there
  · rw [late long]
    exact ⟨_, rfl⟩

/-- Of two registers only the first may be written: the write fails with the other one, and the first
has its value. -/
theorem writeRegisters_of_second_refused :
    let bank := (Bank.empty.define 7 (.int16 5)).defineReadOnly 8 (.int8 6)
    let attended : Attended Bank :=
      { service := Bank.service, station := { node := .ofConfig {} ⟨3⟩, registers := bank } }
    let line : Line (Attended Bank) := { peer := attended, idle := .silent 1 (by decide) }
    let result := (ofLine line {} .never).writeRegisters 3 7 [.int8 9, .int32 1]
    let registers := result.2.reader.line.peer.station.registers
    result.1 = .error (.writeFailed 8 Bank.readOnly) ∧
      registers.cell? 7 = some { value := .int8 9 } ∧ registers.cell? 8 = bank.cell? 8 := by
  intro bank attended line result registers
  have idle : (ofLine line {} .never).Idle id 256 :=
    @idle_ofLine _ _ attended 1 {} ⟨fun _ => rfl, rfl, rfl⟩ (by decide) (by decide) rfl .never
  have refused : bank.refusal? 8 = some Bank.readOnly := rfl
  obtain ⟨confirms, writes, _, framable, _⟩ :=
    @writeRegisters_of_idle _ _ _ _ _ _ _ 7 [.int8 9, .int32 1] Attended.relays_id idle rfl
      (by decide) (by decide) (by decide +kernel)
  obtain ⟨few, framed⟩ := framable (.inl (by decide))
  obtain ⟨_, failed⟩ := confirms few framed
  obtain ⟨stored, others, _⟩ := writes few
  refine ⟨failed [7] 8 [] Bank.readOnly rfl ?_ refused, stored 0 _ _ rfl rfl rfl, others 8 (.inr ?_)⟩
  · intro other there
    rw [List.mem_singleton.1 there]
    rfl
  · rw [refused]
    exact Option.some_ne_none _

/-- A new master that writes too many registers for a frame is refused. -/
theorem unsent_of_many (some : values ≠ []) (many : Word.bound 32 ≤ 2 + values.length)
    (room : values.length * 15 ≤ limit) :
    let node : Node := .ofConfig { bufferSize := limit } ⟨3⟩
    let attended : Attended Bank :=
      { service := Bank.service, station := { node, registers := .empty } }
    let line : Line (Attended Bank) := { peer := attended, idle := .silent 1 (by decide) }
    let master := ofLine line { bufferSize := limit } .never
    let request := Request.toWrite 0 values
    request.payload.length ≤ limit ∧ master.Idle id limit ∧
      (master.writeRegisters node.id 0 values).1 =
        .error (.frame (.payloadTooLarge request.payload.length (Word.bound 32 - 1))) := by
  intro node attended line master request
  have idle : master.Idle id limit :=
    @idle_ofLine _ _ attended 1 { bufferSize := limit } ⟨fun _ => rfl, rfl, rfl⟩ (by decide)
      (show (0 : UInt8) ≤ Frame.maxId by decide) rfl .never
  have small : node.id ≤ Frame.maxId := show (3 : UInt8) ≤ Frame.maxId by decide
  have fits : request.payload.length ≤ limit :=
    Nat.le_trans (Request.length_toWrite_le 0 values) room
  have long := Nat.le_trans many (Request.le_length_toWrite 0 some)
  obtain ⟨after, _, refused, _⟩ := query_of_unframed idle small fits long
  exact ⟨fits, idle, congrArg Prod.fst (writeRegisters_of_error refused)⟩

/-- A write that no frame can have is not sent, and neither is one from an id of eight bits; and one
that is carried out is not confirmed where reading fails. -/
theorem writeRegisters_unconfirmed :
    (let values : List Value := List.replicate (Word.bound 32 - 2) (.int8 0)
      let limit := 15 * Word.bound 32
      let node : Node := .ofConfig { bufferSize := limit } ⟨3⟩
      let attended : Attended Bank :=
        { service := Bank.service, station := { node, registers := .empty } }
      let line : Line (Attended Bank) := { peer := attended, idle := .silent 1 (by decide) }
      let master := ofLine line { bufferSize := limit } .never
      let request := Request.toWrite 0 values
      (0 : Register).toNat + values.length ≤ Word.bound 32 - 2 ∧
        request.payload.length ≤ limit ∧ master.Idle id limit ∧
        (master.writeRegisters node.id 0 values).1 =
          .error (.frame (.payloadTooLarge request.payload.length (Word.bound 32 - 1)))) ∧
    (let attended : Attended Bank :=
        { service := Bank.service
          station := { node := .ofConfig {} ⟨3⟩, registers := Bank.empty.define 7 (.int16 5) } }
      let line : Line (Attended Bank) :=
        { peer := attended, arrivals := [.fault .timedOut], idle := .silent 1 (by decide) }
      let result := (ofLine line { timeout := 0 } .never).writeRegisters 3 7 [.int16 6]
      let registers := result.2.reader.line.peer.station.registers
      result.1 = .error (.timeout 0) ∧ registers.cell? 7 = some { value := .int16 6 }) ∧
    (let attended : Attended Bank :=
        { service := Bank.service
          station := { node := .ofConfig {} ⟨3⟩, registers := Bank.empty.define 7 (.int16 5) } }
      let line : Line (Attended Bank) := { peer := attended, idle := .silent 1 (by decide) }
      let master := ofLine line { source := 200 } .never
      (master.writeRegisters 3 7 [.int16 6]).1 = .error (.frame (.invalidId 200))) := by
  refine ⟨?_, ?_, eq_error_of_match (by decide +kernel)⟩
  · intro values limit
    have bound : 2 < Word.bound 32 := by decide
    have length : values.length = Word.bound 32 - 2 := List.length_replicate
    have some : values ≠ [] := by
      rw [← List.length_pos_iff]
      omega
    refine ⟨?_, unsent_of_many some (by omega) ?_⟩
    · have start : (0 : Register).toNat = 0 := UInt32.toNat_zero
      omega
    · show values.length * 15 ≤ 15 * Word.bound 32
      omega
  · intro attended line result registers
    exact ⟨eq_error_of_match (by decide +kernel), by decide +kernel⟩

end Master

end Multidrop
