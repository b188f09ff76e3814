import Multidrop.Proofs.Dispatch.Execute
import Multidrop.Proofs.Dispatch.Plan
import Multidrop.Proofs.Node.Accounting
import Multidrop.Proofs.Register

/-!
# What reaches a register bank from the bus

Whatever bytes a station listens to, its bank keeps its registers, and those that the bus may only
read keep their values. Every other register has the value that it began with, or one that a frame
for the node carried for this very register (`Station.Listens.safe`). Where values come from is kept
track of by a relation (`Bank.Stems`) that every write with a known origin keeps.
-/
namespace Multidrop

open Subframe (Contents)

/-- A subframe writes a value to a register. -/
inductive Subframe.Sets : Subframe → Register → Value → Prop
  /-- The register is the only one. -/
  | single (register : Register) (value : Value) : Sets (.writeSingle register value) register value
  /-- The register has a place in a run, and the value is the one at that place. -/
  | multiple {start : Register} {values : Packed} {place : Nat} {value : Value}
      (there : values.values[place]? = some value) :
      Sets (.writeMultiple start values) (start + .ofNat place) value

/-- A frame is for a node, which does not refuse it, and writes a value to a register. -/
structure Node.Orders (node : Node) (frame : Frame) (register : Register) (value : Value) :
    Prop where
  /-- It is for the node or for all. -/
  near : frame.destination = node.id ∨ node.options.broadcastId = some frame.destination
  /-- The node carries it out. -/
  accepted : ∃ plan, Dispatch.plan node.options.bufferSize frame.payload = .ok plan
  /-- One of its subframes writes the value. -/
  carried : ∃ subframe ∈ (Contents.ofPayload frame.payload).subframes, subframe.Sets register value

/-- The calls of a subframe write what the subframe does. -/
theorem Subframe.sets_of_mem_calls {subframe : Subframe} {register : Register} {value : Value}
    (there : .write register value ∈ subframe.calls) : subframe.Sets register value := by
  cases subframe with
  | writeSingle own stored =>
    cases List.mem_singleton.1 there
    exact .single register value
  | writeMultiple start values =>
    obtain ⟨cell, inside, same⟩ := List.mem_map.1 there
    obtain ⟨place, low, rfl⟩ := List.mem_mapIdx.1 inside
    cases same
    exact .multiple (List.getElem?_eq_getElem low)
  | readMultiple start count kind =>
    obtain ⟨_, _, same⟩ := List.mem_map.1 there
    cases same
  | readSingle => cases List.mem_singleton.1 there
  | replySingle | replyMultiple | writeError | readError | clientToServer | serverToClient =>
    cases there

namespace Bank

variable {start bank : Bank} {origin other : Register → Value → Prop}

/-- A bank has come from another with the same registers: those that may only be read have kept
their values, and the others have kept theirs or got one with an origin. -/
def Stems (start : Bank) (origin : Register → Value → Prop) (bank : Bank) : Prop :=
  ∀ register,
    match start.cell? register with
    | none => bank.cell? register = none
    | some cell => ∃ value, bank.cell? register = some { cell with value } ∧
        (value = cell.value ∨ cell.readOnly = false ∧ origin register value)

namespace Stems

/-- A bank comes from itself. -/
theorem refl (bank : Bank) (origin : Register → Value → Prop) : bank.Stems origin bank := by
  intro register
  cases bank.cell? register with
  | none => rfl
  | some cell => exact ⟨cell.value, rfl, .inl rfl⟩

/-- More origins may become known. -/
theorem mono (stems : start.Stems origin bank)
    (wider : ∀ register value, origin register value → other register value) :
    start.Stems other bank := by
  intro register
  have one := stems register
  cases held : start.cell? register with
  | none =>
    rw [held] at one
    exact one
  | some cell =>
    rw [held] at one
    obtain ⟨value, now, source⟩ := one
    exact ⟨value, now, source.imp_right fun known => ⟨known.1, wider register value known.2⟩⟩

/-- A write from the bus whose value has an origin leaves a bank that comes from the same one. -/
theorem write (stems : start.Stems origin bank) {register : Register} {value : Value}
    (known : origin register value) : start.Stems origin (bank.write register value).2 := by
  intro place
  have one := stems place
  rw [cell?_write]
  by_cases mine : place = register ∧ bank.refusal? register = none
  · obtain ⟨rfl, free⟩ := mine
    rw [if_pos ⟨rfl, free⟩]
    obtain ⟨cell, there, open_⟩ := refusal?_eq_none_iff.1 free
    cases held : start.cell? place with
    | none =>
      rw [held] at one
      rw [one]
      rfl
    | some first =>
      rw [held] at one
      obtain ⟨before, now, _⟩ := one
      rw [now] at there ⊢
      cases there
      exact ⟨value, rfl, .inr ⟨open_, known⟩⟩
  · rw [if_neg mine]
    exact one

/-- So do calls of which every write has an origin. -/
theorem answerAll (stems : start.Stems origin bank) {calls : List Call}
    (known : ∀ register value, .write register value ∈ calls → origin register value) :
    start.Stems origin (service.answerAll bank calls).2 := by
  induction calls generalizing bank with
  | nil => exact stems
  | cons call rest ih =>
    refine ih ?_ fun register value there => known register value (List.mem_cons_of_mem call there)
    cases call with
    | read register kind =>
      have kept : (service.answer bank (.read register kind)).2 = bank := by
        unfold RegisterService.answer service
        dsimp only
        cases bank.read register kind <;> rfl
      rw [kept]
      exact stems
    | write register value =>
      have written : (service.answer bank (.write register value)).2 =
          (bank.write register value).2 := by
        unfold RegisterService.answer service
        dsimp only
        obtain ⟨result, after⟩ := bank.write register value
        cases result <;> rfl
      rw [written]
      exact stems.write (known register value List.mem_cons_self)

end Stems

end Bank

/-! ## Stations -/

/-- Handling a frame leaves a bank that comes from the same one, if what the frame writes has an
origin. -/
theorem Node.stems_process {start bank : Bank} {origin : Register → Value → Prop} {node : Node}
    {frame : Frame} (stems : start.Stems origin bank)
    (known : ∀ register value, node.Orders frame register value → origin register value) :
    start.Stems origin (node.process Bank.service frame bank).registers := by
  by_cases foreign : node.Foreign frame
  · rw [process_of_foreign foreign]
    exact stems
  · cases planned : Dispatch.plan node.options.bufferSize frame.payload with
    | error error =>
      rw [process_of_refused foreign planned]
      exact stems
    | ok plan =>
      rw [process_of_planned foreign planned]
      dsimp only
      rw [Dispatch.execute, Dispatch.subframes_executable planned, Dispatch.registers_foldl_act]
      refine stems.answerAll fun register value there => known register value ?_
      obtain ⟨subframe, inside, asked⟩ := List.mem_flatMap.1 there
      refine ⟨?_, ⟨plan, planned⟩, subframe, inside, Subframe.sets_of_mem_calls asked⟩
      by_cases own : frame.destination = node.id
      · exact .inl own
      · exact .inr (Decidable.of_not_not fun other => foreign ⟨own, other⟩)

namespace Station

variable {start station : Station Bank} {log : Log}

/-- Looking for a frame leaves a bank that comes from the same one, if what the frame writes has an
origin. -/
theorem stems_receive {bank : Bank} {origin : Register → Value → Prop}
    (stems : bank.Stems origin station.registers)
    (known : ∀ frame register value, .frame frame ∈
        (Frame.pass station.node.options.bufferSize station.buffer).outcome.found →
      station.node.Orders frame register value → origin register value) :
    bank.Stems origin (station.receive Bank.service).2.registers := by
  unfold receive
  dsimp only
  cases outcome : (Frame.pass station.node.options.bufferSize station.buffer).outcome with
  | incomplete | fault => exact stems
  | frame frame =>
    rw [outcome] at known
    refine Node.stems_process stems fun register value orders => ?_
    exact known frame register value List.mem_cons_self
      ⟨orders.near, orders.accepted, orders.carried⟩

/-- A station's bank comes from the one that it began with, by writes of frames that were found. -/
theorem Listens.stems (listens : Listens Bank.service start log station) :
    start.registers.Stems
      (fun register value => ∃ frame, .frame frame ∈ log.found ∧
        start.node.Orders frame register value) station.registers := by
  induction listens with
  | start => exact .refl _ _
  | feed _ _ ih | replySent _ ih | use _ _ _ ih => exact ih
  | @receive log station listens ih =>
    have options := listens.accounts.options
    have id := listens.accounts.id
    refine stems_receive (ih.mono ?_) ?_
    · rintro register value ⟨frame, there, orders⟩
      exact ⟨frame, List.mem_append_left _ there, orders⟩
    · rintro frame register value there ⟨near, accepted, carried⟩
      rw [options] at near accepted
      rw [id] at near
      exact ⟨frame, List.mem_append_right _ there, near, accepted, carried⟩

/-- Whatever a station listens to, its bank keeps its registers, and a value changes only to one
that a frame for the node, with the right checksum, carried for this register. -/
theorem Listens.safe (listens : Listens Bank.service start log station) :
    start.registers.Stems
      (fun register value => ∃ bytes frame, bytes <:+: start.buffer ++ log.fed ∧
        Frame.parse bytes = .ok frame ∧ start.node.Orders frame register value)
      station.registers := by
  have ahead := listens.ahead []
  rw [List.append_nil, List.append_nil] at ahead
  refine listens.stems.mono ?_
  rintro register value ⟨frame, found, orders⟩
  have there : .frame frame ∈
      Frame.outcomes start.node.options.bufferSize (start.buffer ++ log.fed) := by
    rw [ahead]
    exact List.mem_append_left _ found
  obtain ⟨bytes, within, parsed⟩ := Frame.exists_parse_of_mem_outcomes there
  exact ⟨bytes, frame, within, parsed, orders⟩

/-- A broadcast in two pieces behind noise writes to a register and to one that the bus may only
read: the first has the new value, which the broadcast carried, and the second has its own. -/
theorem Listens.safe_of_broadcast :
    let start : Station Bank :=
      { node := .ofConfig { broadcastId := some 127 } .default
        registers := (Bank.empty.define 5 (.int8 0)).defineReadOnly 6 (.int8 1) }
    ∃ log station, Listens Bank.service start log station ∧
      station.registers.cell? 5 = some { value := .int8 7 } ∧
      station.registers.cell? 6 = some { value := .int8 1, readOnly := true } ∧
      ∃ bytes frame, bytes <:+: log.fed ∧ Frame.parse bytes = .ok frame ∧
        start.node.Orders frame 5 (.int8 7) := by
  intro start
  let frame : Frame := { source := 2, destination := 127, payload := [0x10, 5, 7, 0x10, 6, 8] }
  have begun : Listens Bank.service start {} start := .start
  have heard := ((begun.feed ([0x54, 1] ++ frame.body)).receive.feed
    (Word.bytes16 (Checksum.ofBody frame.body))).receive
  obtain ⟨log, station, listens, five, six⟩ :
      ∃ log station, Listens Bank.service start log station ∧
        station.registers.cell? 5 = some { value := .int8 7 } ∧
        station.registers.cell? 6 = some { value := .int8 1, readOnly := true } :=
    ⟨_, _, heard, by decide +kernel, by decide +kernel⟩
  refine ⟨log, station, listens, five, six, ?_⟩
  obtain ⟨value, now, source⟩ := listens.safe 5
  rw [five] at now
  cases now
  rcases source with same | ⟨_, carried⟩
  · cases same
  · exact carried

end Station

end Multidrop
