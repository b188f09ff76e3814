import Multidrop.Proofs.Dispatch.Execute
import Multidrop.Proofs.Dispatch.Plan
import Multidrop.Proofs.Node.Process

/-!
# Requests and their replies

What a node makes of a request it accepts, from the bytes of the request to the bytes of the reply:
the registers see the calls that the subframes ask for, one by one and in order, and the reply has
one item for each answer.
-/
namespace Multidrop.Node

open Subframe (Contents)

variable {σ : Type}

/-- A planned request without a poll is carried out as register calls whose answers are added to the
reply as far as there is room. It leaves the tunnels alone. -/
theorem process_of_quiet {service : RegisterService σ} {node : Node} {frame : Frame}
    {plan : Dispatch.Plan} (registers : σ) (own : ¬node.Foreign frame)
    (planned : Dispatch.plan node.options.bufferSize frame.payload = .ok plan)
    (quiet : ∀ subframe ∈ (Contents.ofPayload frame.payload).subframes,
      subframe.isTunnel = false) :
    node.process service frame registers =
      let answered := service.answerAll registers
        ((Contents.ofPayload frame.payload).subframes.flatMap Subframe.calls)
      let written :=
        (answered.1.foldl Reply.Writer.add { limit := node.options.bufferSize }).finish
      let reply := node.answer frame plan written.payload
      ⟨reply, answered.2,
        { node with
          stats := node.stats.note plan written
          phase := if reply.isSome then .sending else .idle }⟩ := by
  rw [process_of_planned own planned, Dispatch.execute, Dispatch.subframes_executable planned,
    Dispatch.foldl_act _ quiet]
  rfl

/-- A planned request is carried out as the register calls in front of its first unknown tag, in
order, and a complete reply is taken apart into the answers to them. -/
theorem process_calls (service : RegisterService σ) {node : Node} {frame : Frame}
    {plan : Dispatch.Plan} (registers : σ) (log : List Call) (accepted : node.accepts frame = true)
    (planned : Dispatch.plan node.options.bufferSize frame.payload = .ok plan) :
    let contents := Contents.ofPayload frame.payload
    let calls := contents.subframes.flatMap Subframe.calls
    let answered := service.answerAll registers calls
    let handled := node.process service.logged frame (registers, log)
    let scene := node.scene (registers, log)
    let written := (Dispatch.execute service.logged plan frame.payload scene).reply.finish
    (contents.stop = none ∨ ∃ tag, contents.stop = some (.unknown tag plan.executable)) ∧
      handled.registers = (answered.2, log ++ calls) ∧
      handled.reply = node.answer frame plan written.payload ∧
      ((∀ subframe ∈ contents.subframes, subframe.isTunnel = false) → written.omitted = 0 →
        written.payload = (Reply.coalesce answered.1).flatMap Subframe.encode ∧
          ((∀ start values, .replyMultiple start values ∈ Reply.coalesce answered.1 →
              start.toNat + values.count ≤ Word.bound 32 - 2) →
            Reply.parse written.payload = .ok ⟨answered.1⟩)) := by
  intro contents calls answered handled scene written
  have own : ¬node.Foreign frame := (accepts_iff node frame).1 accepted
  have done := @process_of_planned _ service.logged frame (registers, log) node plan own planned
  have same := Dispatch.subframes_executable planned
  have logged := service.answerAll_logged registers log calls
  refine ⟨?_, ?_, ?_, ?_⟩
  · rcases Dispatch.plan_eq_ok planned with ⟨whole, _⟩ | unknown
    · exact .inl whole
    · exact .inr unknown
  · show (node.process service.logged frame (registers, log)).registers = _
    rw [done]
    dsimp only
    rw [Dispatch.execute, same, Dispatch.registers_foldl_act]
    show (service.logged.answerAll (registers, log) calls).2 = _
    rw [logged]
  · show (node.process service.logged frame (registers, log)).reply = _
    rw [done]
  · intro quiet complete
    have reply : written = (answered.1.foldl Reply.Writer.add
        { limit := node.options.bufferSize }).finish := by
      show (Dispatch.execute service.logged plan frame.payload
        (node.scene (registers, log))).reply.finish = _
      rw [Dispatch.execute, same, Dispatch.foldl_act _ quiet]
      show ((service.logged.answerAll (registers, log) calls).1.foldl Reply.Writer.add _).finish = _
      rw [logged]
      rfl
    rw [reply] at complete ⊢
    have payload := Reply.Writer.payload_finish complete
    refine ⟨payload, fun reach => ?_⟩
    rw [payload]
    refine Reply.parse_coalesce reach ?_
    intro channel data there
    exact absurd there (service.tunnel_notMem_answerAll registers calls channel data)

/-- A write and a read of two registers in one frame: the read finds what was written, and the
reply says so for both registers. -/
theorem process_calls_of_write_and_read :
    let service : RegisterService Int8 :=
      { read := fun stored _ _ => (.ok (.int8 stored), stored)
        write := fun stored _ value =>
          match value with
          | .int8 written => (.ok (), written)
          | _ => (.error ⟨7⟩, stored) }
    let node : Node := .ofConfig { bufferSize := 16 } .default
    let frame : Frame := { source := 2, destination := 1, payload := [0x10, 0, 5, 0x1c, 0, 2] }
    (node.process service.logged frame (0, [])).registers =
        (5, [.write 0 (.int8 5), .read 0 .int8, .read 1 .int8]) ∧
      Reply.parse [0x24, 0, 2, 5, 5] = .ok ⟨[.value 0 (.int8 5), .value 1 (.int8 5)]⟩ := by
  intro service node frame
  have accepted : node.accepts frame = true := by decide
  have planned : Dispatch.plan node.options.bufferSize frame.payload =
      .ok { executable := 6, registers := 2, reads := 1, replyFloor := 4 } := by
    show Dispatch.plan 16 [0x10, 0, 5, 0x1c, 0, 2] = _
    with_unfolding_all rfl
  have subframes : (Contents.ofPayload frame.payload).subframes =
      [.writeSingle 0 (.int8 5), .readMultiple 0 2 .int8] := by
    show (Contents.ofPayload [0x10, 0, 5, 0x1c, 0, 2]).subframes = _
    decide +kernel
  obtain ⟨_, registers, _, reply⟩ := process_calls service 0 [] accepted planned
  rw [subframes] at registers reply
  have quiet : ∀ subframe ∈ [Subframe.writeSingle 0 (.int8 5), .readMultiple 0 2 .int8],
      subframe.isTunnel = false := by decide
  have written : (Dispatch.execute service.logged
      { executable := 6, registers := 2, reads := 1, replyFloor := 4 } frame.payload
      (node.scene (0, []))).reply.finish =
        { limit := 16, payload := [0x24, 0, 2, 5, 5] } := by
    decide +kernel
  have runs : Reply.coalesce [.value 0 (.int8 5), .value 1 (.int8 5)] =
      [.replyMultiple 0 ⟨.int8, [5, 5], rfl⟩] := by
    decide +kernel
  have answered : service.answerAll 0 (([Subframe.writeSingle 0 (.int8 5),
      .readMultiple 0 2 .int8] : List Subframe).flatMap Subframe.calls) =
        ([.value 0 (.int8 5), .value 1 (.int8 5)], 5) := by
    decide +kernel
  rw [written, answered] at reply
  rw [answered] at registers
  refine ⟨registers, (reply quiet rfl).2 ?_⟩
  intro start values there
  rw [runs] at there
  cases List.mem_singleton.1 there
  decide

end Multidrop.Node
