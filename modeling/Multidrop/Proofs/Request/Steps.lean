import Mathlib.Data.List.SplitBy
import Multidrop.Proofs.Dispatch.Admission
import Multidrop.Proofs.Reply.Writer
import Multidrop.Proofs.Request.Compose

/-!
# Requests composed step by step

However many steps a request is composed of, its payload asks for what the steps ask for, operation
by operation and in their order, and for nothing else (`composes_ofSteps`). Values for consecutive
registers are written in as few subframes as their kinds allow (`map_values_runs`). The registers
that a reply has to answer are kept beside the payload; they are those that the payload reads. A
node plans the payload if the least reply to it is within the limit, or if all of it is one poll.
The number of bytes of a poll is written modulo 2 ^ 32, so a longer poll is read as a shorter one and
whatever its other bytes happen to be (`ofSteps_of_long_poll`).
-/
namespace Multidrop

open Subframe (Contents)

/-- One thing that a request asks a node for. -/
inductive Operation where
  /-- Read or write a register. -/
  | call (call : Call)
  /-- Deliver bytes on a tunnel channel and answer with what it has queued. -/
  | poll (channel : UInt32) (data : List UInt8)
  deriving Repr, DecidableEq

/-- The register that an operation reads, if it reads one. -/
def Operation.readRegister? : Operation → Option Register
  | .call (.read register _) => some register
  | .call (.write ..) | .poll .. => none

/-- The operations that a subframe asks for, register by register. -/
def Subframe.operations : Subframe → List Operation
  | .clientToServer channel data => [.poll channel data]
  | subframe => subframe.calls.map .call

namespace Request

/-! ## Steps -/

/-- A step of composing a request. -/
inductive Step where
  | writeSingle (register : Register) (value : Value)
  | writeMultiple (start : Register) (values : List Value)
  | readSingle (register : Register) (kind : Kind)
  | readMultiple (start : Register) (count : UInt32) (kind : Kind)
  | poll (channel : UInt32) (data : List UInt8)
  deriving Repr, DecidableEq

namespace Step

/-- The request that a step makes of another. -/
def take (request : Request) : Step → Request
  | .writeSingle register value => request.writeSingle register value
  | .writeMultiple start values => request.writeMultiple start values
  | .readSingle register kind => request.readSingle register kind
  | .readMultiple start count kind => request.readMultiple start count kind
  | .poll channel data => request.pollTunnel channel data

/-- The operations that a step stands for, in order. -/
def operations : Step → List Operation
  | .writeSingle register value => [.call (.write register value)]
  | .writeMultiple start values =>
    values.mapIdx fun place value => .call (.write (start + .ofNat place) value)
  | .readSingle register kind => [.call (.read register kind)]
  | .readMultiple start count kind =>
    (List.range count.toNat).map fun place => .call (.read (start + .ofNat place) kind)
  | .poll channel data => [.poll channel data]

/-- The subframes that a step adds: one for each run of values, and one for anything else. -/
def subframes : Step → List Subframe
  | .writeSingle register value => [.writeSingle register value]
  | .writeMultiple start values => writes start (runs values)
  | .readSingle register kind => [.readSingle register kind]
  | .readMultiple start count kind => [.readMultiple start count kind]
  | .poll channel data => [.clientToServer channel data]

/-- The registers of a step do not run past the last one. -/
def InReach : Step → Prop
  | .writeMultiple start values => start.toNat + values.length < Word.bound 32
  | .readMultiple start count _ => start.toNat + count.toNat < Word.bound 32
  | .writeSingle .. | .readSingle .. | .poll .. => True

instance (step : Step) : Decidable step.InReach :=
  match step with
  | .writeMultiple start values =>
    inferInstanceAs (Decidable (start.toNat + values.length < Word.bound 32))
  | .readMultiple start count _ =>
    inferInstanceAs (Decidable (start.toNat + count.toNat < Word.bound 32))
  | .writeSingle .. | .readSingle .. | .poll .. => .isTrue trivial

/-- The number of bytes that a step delivers on a tunnel channel has 32 bits. -/
def Counted : Step → Prop
  | .poll _ data => data.length < Word.bound 32
  | .writeSingle .. | .writeMultiple .. | .readSingle .. | .readMultiple .. => True

instance (step : Step) : Decidable step.Counted :=
  match step with
  | .poll _ data => inferInstanceAs (Decidable (data.length < Word.bound 32))
  | .writeSingle .. | .writeMultiple .. | .readSingle .. | .readMultiple .. => .isTrue trivial

/-- Whether a step reads registers. -/
def isRead : Step → Bool
  | .readSingle .. | .readMultiple .. => true
  | .writeSingle .. | .writeMultiple .. | .poll .. => false

/-- Whether a step polls a tunnel channel. -/
def isPoll : Step → Bool
  | .poll .. => true
  | .writeSingle .. | .writeMultiple .. | .readSingle .. | .readMultiple .. => false

/-- Least reply bytes for what a step reads: for each register its value, or three bytes where these
are fewer. -/
def readCost : Step → Nat
  | .readSingle _ kind => min kind.size 3
  | .readMultiple _ count kind => count.toNat * min kind.size 3
  | .writeSingle .. | .writeMultiple .. | .poll .. => 0

end Step

/-- The request that steps make, one after another. -/
def ofSteps (steps : List Step) : Request := steps.foldl Step.take empty

/-- Least bytes of a reply to steps. Any reply to a read has a header of two bytes. -/
def readFloor (steps : List Step) : Nat :=
  if steps.any Step.isRead then 2 + total Step.readCost steps else 0

/-! ## Runs of one kind -/

/-- Neighbouring runs have different kinds. -/
theorem isChain_runs (values : List Value) :
    (runs values).IsChain fun left right => left.kind ≠ right.kind := by
  induction values with
  | nil => exact List.isChain_nil
  | cons value rest ih =>
    rw [runs]
    cases more : runs rest with
    | nil => exact List.isChain_singleton _
    | cons next others =>
      rw [more] at ih
      dsimp only
      by_cases same : next.kind = value.kind
      · rw [dif_pos same]
        refine List.isChain_cons.2 ⟨fun other there => ?_, ih.tail⟩
        exact fun equal => ih.rel_head? there (same.trans equal)
      · rw [dif_neg same]
        exact List.isChain_cons_cons.2 ⟨fun equal => same equal.symm, ih⟩

/-- No run is without values. -/
theorem values_ne_nil {values : List Value} {run : Packed} (there : run ∈ runs values) :
    run.values ≠ [] := by
  have some := count_pos_of_mem_runs run there
  rw [← Packed.length_values] at some
  exact List.length_pos_iff.1 some

/-- The values of the runs are the values cut wherever the kind changes, and nowhere else. -/
theorem map_values_runs (values : List Value) :
    (runs values).map Packed.values =
      values.splitBy fun left right => left.kind = right.kind := by
  -- A list is cut in one way only into parts that are not empty, related inside and unrelated where
  -- they meet.
  refine (List.splitBy_eq_iff.2 ⟨?_, ?_, ?_, ?_⟩).symm
  · rw [← List.flatMap_def, values_runs]
  · intro empty
    obtain ⟨run, there, none⟩ := List.mem_map.1 empty
    exact values_ne_nil there none
  · intro part there
    obtain ⟨run, _, rfl⟩ := List.mem_map.1 there
    refine List.Pairwise.isChain (List.pairwise_iff_forall_sublist.2 ?_)
    intro left right both
    have kinds : left.kind = right.kind := by
      have one := Packed.kind_of_mem (both.subset List.mem_cons_self)
      have other := Packed.kind_of_mem (both.subset (List.mem_cons_of_mem _ List.mem_cons_self))
      exact one.trans other.symm
    exact decide_eq_true kinds
  · refine (List.isChain_map _).2 ((isChain_runs values).imp_of_mem_imp ?_)
    intro left right first second differ
    refine ⟨values_ne_nil first, values_ne_nil second, decide_eq_false fun same => differ ?_⟩
    have last := Packed.kind_of_mem (List.getLast_mem (values_ne_nil first))
    have head := Packed.kind_of_mem (List.head_mem (values_ne_nil second))
    exact last.symm.trans (same.trans head)

/-! ## One step -/

/-- A step adds its subframes. -/
theorem Step.payload_take (request : Request) (step : Step) :
    (step.take request).payload = request.payload ++ step.subframes.flatMap Subframe.encode := by
  cases step with
  | writeMultiple start values =>
    rw [take, Request.writeMultiple, writeRuns_eq]
    rfl
  | writeSingle | readSingle | readMultiple | poll =>
    rw [subframes, List.flatMap_singleton]
    rfl

/-- A step adds the registers that it reads. -/
theorem Step.readRegisters_take (request : Request) (step : Step) :
    (step.take request).readRegisters =
      request.readRegisters ++ step.operations.filterMap Operation.readRegister? := by
  cases step with
  | writeSingle | poll => exact (List.append_nil _).symm
  | writeMultiple start values =>
    have none : (Step.writeMultiple start values).operations.filterMap
        Operation.readRegister? = [] := by
      rw [List.filterMap_eq_nil_iff]
      intro operation there
      obtain ⟨place, inside, rfl⟩ := List.mem_mapIdx.1 there
      rfl
    rw [none, List.append_nil, take, Request.writeMultiple, writeRuns_eq]
    rfl
  | readSingle register kind =>
    rw [take, Request.readSingle, readRegisters, List.flatMap_append, List.flatMap_singleton,
      Span.registers_one]
    rfl
  | readMultiple start count kind =>
    have all : (Step.readMultiple start count kind).operations.filterMap
        Operation.readRegister? = (Span.mk start count.toNat).registers := by
      rw [operations, List.filterMap_map, Span.registers, ← List.filterMap_eq_map]
      rfl
    rw [all, take, Request.readMultiple, readRegisters, List.flatMap_append,
      List.flatMap_singleton]
    rfl

/-- The subframes of a step ask for its operations. -/
theorem Step.operations_subframes (step : Step) :
    step.subframes.flatMap Subframe.operations = step.operations := by
  cases step with
  | writeMultiple start values =>
    have calls (runs : List Packed) (start : Register) :
        (writes start runs).flatMap Subframe.operations =
          ((writes start runs).flatMap Subframe.calls).map .call := by
      induction runs generalizing start with
      | nil => rfl
      | cons run rest ih =>
        rw [writes, List.flatMap_cons, List.flatMap_cons, List.map_append, ih]
        rfl
    rw [subframes, calls, calls_writes, values_runs, operations, Dispatch.cells]
    apply List.ext_getElem
    · simp
    · intro place _ _
      simp
  | readMultiple start count kind =>
    have reads : (Subframe.readMultiple start count kind).operations =
        (Subframe.readMultiple start count kind).calls.map .call := rfl
    rw [subframes, List.flatMap_singleton, operations, reads, Subframe.calls, Span.registers,
      List.map_map, List.map_map]
    rfl
  | writeSingle | readSingle | poll => rfl

/-- Runs of values are written by subframes that write several registers. -/
theorem eq_of_mem_writes {start : Register} {runs : List Packed} {subframe : Subframe}
    (there : subframe ∈ writes start runs) :
    ∃ register run, subframe = .writeMultiple register run := by
  induction runs generalizing start with
  | nil => cases there
  | cons run rest ih =>
    rcases List.mem_cons.1 there with first | later
    · exact ⟨start, run, first⟩
    · exact ih later

/-- The subframes of a step in reach can be held by their encodings. -/
theorem Step.fits_subframes {step : Step} (reach : step.InReach) (counted : step.Counted) :
    ∀ subframe ∈ step.subframes, subframe.Fits := by
  cases step with
  | writeMultiple start values =>
    have within : start.toNat + ((runs values).flatMap Packed.values).length < Word.bound 32 := by
      rw [values_runs]
      exact reach
    exact fun subframe there => (fits_writes within subframe there).1
  | readMultiple start count kind =>
    have within : start.toNat + count.toNat < Word.bound 32 := reach
    exact List.forall_mem_singleton.2 (Subframe.inRange_of_le (Nat.le_of_lt within))
  | writeSingle | readSingle => exact List.forall_mem_singleton.2 trivial
  | poll => exact List.forall_mem_singleton.2 counted

/-- The subframes of a step are requests, and do what the step does. -/
theorem Step.sorts_subframes (step : Step) :
    ∀ subframe ∈ step.subframes, subframe.isReply = false ∧ subframe.isRead = step.isRead ∧
      subframe.isPoll = step.isPoll := by
  cases step with
  | writeMultiple start values =>
    intro subframe there
    obtain ⟨register, run, rfl⟩ := eq_of_mem_writes there
    exact ⟨rfl, rfl, rfl⟩
  | writeSingle | readSingle | readMultiple | poll =>
    exact List.forall_mem_singleton.2 ⟨rfl, rfl, rfl⟩

/-- The subframes of a step cost what the step costs. -/
theorem Step.total_readCost_subframes (step : Step) :
    total Subframe.readCost step.subframes = step.readCost := by
  cases step with
  | writeMultiple start values =>
    apply Subframe.total_readCost_of_unread
    rw [List.any_eq_false]
    intro subframe there
    rw [((Step.writeMultiple start values).sorts_subframes subframe there).2.1]
    exact Bool.false_ne_true
  | writeSingle | readSingle | readMultiple | poll => rfl

/-! ## Any number of steps -/

/-- Steps add their subframes and the registers that they read, one after another. -/
theorem foldl_take (request : Request) (steps : List Step) :
    (steps.foldl Step.take request).payload =
        request.payload ++ (steps.flatMap Step.subframes).flatMap Subframe.encode ∧
      (steps.foldl Step.take request).readRegisters = request.readRegisters ++
        (steps.flatMap Step.operations).filterMap Operation.readRegister? := by
  induction steps generalizing request with
  | nil => exact ⟨(List.append_nil _).symm, (List.append_nil _).symm⟩
  | cons step rest ih =>
    obtain ⟨payload, registers⟩ := ih (step.take request)
    rw [List.foldl_cons, List.flatMap_cons, List.flatMap_cons, List.flatMap_append,
      List.filterMap_append, ← List.append_assoc, ← List.append_assoc, ← step.payload_take,
      ← step.readRegisters_take]
    exact ⟨payload, registers⟩

/-- Steps that poll nothing may be planned if the least reply to them is within the limit. -/
theorem admits_of_steps {steps : List Step} {limit : Nat} (room : readFloor steps ≤ limit) :
    Dispatch.Admits limit 0 (steps.flatMap Step.subframes) := by
  refine (Dispatch.admits_iff _).2 ⟨fun subframe there => ?_, ?_⟩
  · obtain ⟨step, _, inside⟩ := List.mem_flatMap.1 there
    exact (step.sorts_subframes subframe inside).1
  · have costs : total Subframe.readCost (steps.flatMap Step.subframes) =
        total Step.readCost steps := by
      rw [total_flatMap, funext Step.total_readCost_subframes]
    by_cases reads : steps.any Step.isRead = true
    · rw [readFloor, if_pos reads] at room
      rw [costs]
      exact .inr room
    · refine .inl fun subframe there => ?_
      obtain ⟨step, member, inside⟩ := List.mem_flatMap.1 there
      rw [(step.sorts_subframes subframe inside).2.1]
      exact Bool.eq_false_iff.2 fun read => reads (List.any_eq_true.2 ⟨step, member, read⟩)

/-- A request that asks for what its steps ask for, and for nothing else. -/
structure Composes (steps : List Step) (request : Request) : Prop where
  /-- The walk over its payload meets no error. -/
  stop : (Contents.ofPayload request.payload).stop = none
  /-- It meets the subframes of the steps, in order. -/
  subframes : (Contents.ofPayload request.payload).subframes = steps.flatMap Step.subframes
  /-- These are requests. -/
  requests : ∀ subframe ∈ (Contents.ofPayload request.payload).subframes, subframe.isReply = false
  /-- They ask for the operations that the steps stand for, in order. -/
  operations : (Contents.ofPayload request.payload).subframes.flatMap Subframe.operations =
    steps.flatMap Step.operations
  /-- Values are cut into runs wherever the kind changes, and nowhere else. -/
  runs : ∀ start values, .writeMultiple start values ∈ steps →
    (Request.runs values).map Packed.values =
      values.splitBy fun left right => left.kind = right.kind
  /-- The registers that a reply has to answer are those that the subframes read, in order and as
  often. -/
  registers : request.readRegisters =
    ((Contents.ofPayload request.payload).subframes.flatMap Subframe.operations).filterMap
      Operation.readRegister?
  /-- Without polls it is planned if the least reply to it is within the limit. -/
  planned : ∀ limit, (∀ step ∈ steps, step.isPoll = false) → readFloor steps ≤ limit →
    ∃ plan, Dispatch.plan limit request.payload = .ok plan
  /-- If all of it is one poll, it is planned. -/
  polled : ∀ limit channel data, steps = [.poll channel data] →
    ∃ plan, Dispatch.plan limit request.payload = .ok plan

/-- The subframes of steps can be held by their encodings. -/
theorem fits_of_steps {steps : List Step} (reach : ∀ step ∈ steps, step.InReach)
    (counted : ∀ step ∈ steps, step.Counted) :
    ∀ subframe ∈ steps.flatMap Step.subframes, subframe.Fits := by
  intro subframe there
  obtain ⟨step, member, inside⟩ := List.mem_flatMap.1 there
  exact Step.fits_subframes (reach step member) (counted step member) subframe inside

/-- A request of steps whose polls are short asks for what the steps ask for, and for nothing
else. -/
theorem composes_of_counted {steps : List Step} (reach : ∀ step ∈ steps, step.InReach)
    (counted : ∀ step ∈ steps, step.Counted) : Composes steps (ofSteps steps) := by
  obtain ⟨payload, registers⟩ := foldl_take empty steps
  have encoded : (ofSteps steps).payload =
      (steps.flatMap Step.subframes).flatMap Subframe.encode := payload
  have walk := Contents.ofPayload_flatMap (fits_of_steps reach counted)
  rw [← encoded] at walk
  obtain ⟨same, stop⟩ := walk
  have operations : (Contents.ofPayload (ofSteps steps).payload).subframes.flatMap
      Subframe.operations = steps.flatMap Step.operations := by
    rw [same, List.flatMap_assoc, funext Step.operations_subframes]
  -- The walk meets no error and requests only, so a plan can lack room or have a poll too many, and
  -- nothing else.
  have plans (limit : Nat) (room : readFloor steps ≤ limit)
      (alone : (∀ subframe ∈ steps.flatMap Step.subframes, subframe.isPoll = false) ∨
        ∃ channel data, Dispatch.Polls (ofSteps steps).payload channel data) :
      ∃ plan, Dispatch.plan limit (ofSteps steps).payload = .ok plan := by
    refine ⟨_, Dispatch.plan_eq_ok_iff.2 ⟨⟨?_, ?_, ?_⟩, rfl⟩⟩
    · rw [stop]
      exact fun _ _ => nofun
    · rw [same]
      exact admits_of_steps room
    · rw [same]
      exact alone
  exact {
    stop
    subframes := same
    requests := by
      rw [same]
      exact (admits_of_steps (Nat.le_refl _)).requests
    operations
    runs := fun _ values _ => map_values_runs values
    registers := by
      rw [operations]
      exact registers
    planned := by
      refine fun limit quiet room => plans limit room (.inl fun subframe there => ?_)
      obtain ⟨step, member, inside⟩ := List.mem_flatMap.1 there
      rw [(step.sorts_subframes subframe inside).2.2]
      exact quiet step member
    polled := by
      rintro limit channel data rfl
      exact plans limit (Nat.zero_le _) (.inr ⟨channel, data, same, stop⟩) }

/-! ## Polls that are too long -/

/-- A poll of any length is written like one with a number of bytes that has 32 bits, and the bytes
that are too many follow it. -/
theorem encode_poll (channel : UInt32) (data : List UInt8) :
    let count := data.length % Word.bound 32
    (Subframe.clientToServer channel data).encode =
      (Subframe.clientToServer channel (data.take count)).encode ++ data.drop count := by
  intro count
  have length : (data.take count).length = count :=
    List.length_take_of_le (Nat.mod_le _ _)
  have same : UInt32.ofNat count = .ofNat data.length := by
    rw [← UInt32.toNat_inj, UInt32.toNat_ofNat', UInt32.toNat_ofNat']
    exact Nat.mod_mod _ _
  simp only [Subframe.encode, Subframe.body, Subframe.countField, length, same, List.append_assoc,
    List.take_append_drop]
  rfl

/-- Where a poll is too long, the walk meets the steps in front of it, the poll with the bytes that
its number counts, and then whatever the other bytes come to. -/
theorem contents_of_long {front back : List Step} {channel : UInt32} {data : List UInt8}
    (reach : ∀ step ∈ front, step.InReach) (counted : ∀ step ∈ front, step.Counted) :
    let payload := (ofSteps (front ++ .poll channel data :: back)).payload
    let count := data.length % Word.bound 32
    let rest := data.drop count ++ (back.flatMap Step.subframes).flatMap Subframe.encode
    let later := Subframe.Walk.contents { offset := payload.length - rest.length, rest }
    (Contents.ofPayload payload).subframes = front.flatMap Step.subframes ++
        .clientToServer channel (data.take count) :: later.subframes ∧
      (Contents.ofPayload payload).stop = later.stop := by
  intro payload count rest later
  have few : count < Word.bound 32 := Nat.mod_lt _ (by decide)
  have length : (data.take count).length = count :=
    List.length_take_of_le (Nat.mod_le _ _)
  let met := front.flatMap Step.subframes ++ [.clientToServer channel (data.take count)]
  have fits : ∀ subframe ∈ met, subframe.Fits := by
    intro subframe there
    rcases List.mem_append.1 there with inside | last
    · exact fits_of_steps reach counted subframe inside
    · rw [List.mem_singleton.1 last]
      show (data.take count).length < Word.bound 32
      rw [length]
      exact few
  have split : payload = met.flatMap Subframe.encode ++ rest := by
    have whole : payload = ((front ++ .poll channel data :: back).flatMap
        Step.subframes).flatMap Subframe.encode := (foldl_take empty _).1
    rw [whole, List.flatMap_append, List.flatMap_append, List.flatMap_cons, List.flatMap_append,
      Step.subframes, List.flatMap_singleton, encode_poll, List.flatMap_append,
      List.flatMap_singleton, List.append_assoc, List.append_assoc]
  have place : payload.length - rest.length = (met.flatMap Subframe.encode).length := by
    rw [split, List.length_append, Nat.add_sub_cancel]
  obtain ⟨same, stop⟩ := Subframe.Walk.contents_flatMap_append fits 0 rest
  rw [Nat.zero_add, ← place, ← split] at same stop
  exact ⟨same.trans (List.append_assoc _ _ _), stop⟩

/-- A request that is composed of steps in reach asks for what the steps ask for, and for nothing
else, up to the first poll whose number of bytes has more than 32 bits. -/
theorem composes_ofSteps {steps : List Step} (reach : ∀ step ∈ steps, step.InReach) :
    ((∀ step ∈ steps, step.Counted) → Composes steps (ofSteps steps)) ∧
    (ofSteps steps).readRegisters =
      (steps.flatMap Step.operations).filterMap Operation.readRegister? ∧
    ∀ front channel data back, steps = front ++ .poll channel data :: back →
      (∀ step ∈ front, step.Counted) → Word.bound 32 ≤ data.length →
      let contents := Contents.ofPayload (ofSteps steps).payload
      let count := data.length % Word.bound 32
      let rest := data.drop count ++ (back.flatMap Step.subframes).flatMap Subframe.encode
      let later := Subframe.Walk.contents
        { offset := (ofSteps steps).payload.length - rest.length, rest }
      contents.subframes = front.flatMap Step.subframes ++
          .clientToServer channel (data.take count) :: later.subframes ∧
        contents.stop = later.stop := by
  refine ⟨composes_of_counted reach, (foldl_take empty steps).2, ?_⟩
  rintro front channel data back rfl counted -
  exact contents_of_long (fun step there => reach step (List.mem_append_left _ there)) counted

/-- Three values of two kinds are written to the registers from the fifth on, and two registers are
read back. -/
theorem composes_ofSteps_of_readBack :
    let steps : List Step :=
      [.writeMultiple 5 [.int8 1, .int8 2, .int16 3], .readMultiple 5 2 .int8]
    (∀ step ∈ steps, step.InReach) ∧ (ofSteps steps).readRegisters = [5, 6] ∧
      (Contents.ofPayload (ofSteps steps).payload).subframes.flatMap Subframe.operations =
        [.call (.write 5 (.int8 1)), .call (.write 6 (.int8 2)), .call (.write 7 (.int16 3)),
          .call (.read 5 .int8), .call (.read 6 .int8)] ∧
      ∃ plan, Dispatch.plan 4 (ofSteps steps).payload = .ok plan := by
  intro steps
  have reach : ∀ step ∈ steps, step.InReach := by decide
  have composes := (composes_ofSteps reach).1 (by decide)
  have operations := composes.operations
  have registers := composes.registers
  rw [operations] at registers
  exact ⟨reach, registers, operations, composes.planned 4 (by decide) (by decide)⟩

/-- Zeros that are too many for a poll by themselves are met as an unknown tag behind a poll without
bytes. -/
theorem contents_of_zeros {many : Nat} (count : many % Word.bound 32 = 0) (some : many ≠ 0) :
    let payload := (ofSteps [.poll 0 (List.replicate many 0)]).payload
    (Contents.ofPayload payload).subframes = [.clientToServer 0 []] ∧
      (Contents.ofPayload payload).stop = .some (.unknown 0 3) := by
  intro payload
  obtain ⟨left, rfl⟩ := Nat.exists_eq_succ_of_ne_zero some
  have split : payload =
      [Subframe.clientToServer 0 []].flatMap Subframe.encode ++ List.replicate (left + 1) 0 := by
    have whole := encode_poll 0 (List.replicate (left + 1) 0)
    dsimp only at whole
    rw [List.length_replicate, count, List.take_zero, List.drop_zero] at whole
    have payload_eq : payload =
        (Subframe.clientToServer 0 (List.replicate (left + 1) 0)).encode := List.nil_append _
    rw [payload_eq, whole, List.flatMap_singleton]
  have fits : ∀ subframe ∈ [Subframe.clientToServer 0 []], subframe.Fits :=
    List.forall_mem_singleton.2 (show 0 < Word.bound 32 by decide)
  have unknown : Subframe.read 3 (List.replicate (left + 1) 0) = .error (.unknown 0 3) := rfl
  have zeros : List.replicate (left + 1) (0 : UInt8) ≠ [] := List.cons_ne_nil _ _
  have ends := Subframe.Walk.contents_of_error zeros unknown
  obtain ⟨same, stop⟩ := Subframe.Walk.contents_flatMap_append fits 0 (List.replicate (left + 1) 0)
  have place : 0 + ([Subframe.clientToServer 0 []].flatMap Subframe.encode).length = 3 := by
    decide +kernel
  rw [place, ends, ← split] at same stop
  exact ⟨same, stop⟩

/-- A poll of one zero byte more than 32 bits can count is read as a poll without bytes and an
unknown tag; and a read is not planned without room for a header. -/
theorem ofSteps_of_long_poll :
    (let steps : List Step := [.poll 0 (List.replicate (Word.bound 32) 0)]
      let payload := (ofSteps steps).payload
      (∀ step ∈ steps, step.InReach) ∧
        (Contents.ofPayload payload).subframes = [.clientToServer 0 []] ∧
        (Contents.ofPayload payload).stop = some (.unknown 0 3) ∧
        ∀ limit plan, Dispatch.plan limit payload ≠ .ok plan) ∧
    (let steps : List Step := [.readSingle 0 .int32]
      let payload := (ofSteps steps).payload
      (∀ step ∈ steps, step.InReach) ∧ total Step.readCost steps = 3 ∧
        ∀ plan, Dispatch.plan 3 payload ≠ .ok plan) := by
  constructor
  · intro steps payload
    obtain ⟨met, stop⟩ := @contents_of_zeros (Word.bound 32) (Nat.mod_self _) (by decide)
    refine ⟨List.forall_mem_singleton.2 trivial, met, stop, fun limit plan plans => ?_⟩
    obtain ⟨_, _, alone | ⟨channel, data, _, whole⟩⟩ := (Dispatch.plan_eq_ok_iff.1 plans).1
    · have poll := alone (.clientToServer 0 []) (met ▸ List.mem_singleton_self _)
      cases poll
    · rw [stop] at whole
      cases whole
  · intro steps payload
    refine ⟨by decide, rfl, fun plan plans => ?_⟩
    have refused : Dispatch.plan 3 payload = .error (.malformed 0 .replyTooSmall) := by
      with_unfolding_all rfl
    rw [refused] at plans
    cases plans

end Request

end Multidrop
