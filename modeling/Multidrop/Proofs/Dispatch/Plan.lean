import Multidrop.Dispatch
import Multidrop.Proofs.Subframe.Locality
import Multidrop.Proofs.Subframe.Walk

/-!
# Plans and passes

What a plan takes in of a payload, and that the pass that carries it out meets the same subframes.
-/
namespace Multidrop.Dispatch

/-! ## What a plan carries out

The part of a payload that a plan carries out holds exactly the subframes in front of the first
unknown tag (`subframes_executable`). A reply is needed exactly when one of them asks for data
(`needsReply_iff`). A payload that only writes is always carried out (`plan_of_writes`). -/

open Subframe (Contents Located)

variable {limit : Nat}

/-- Taking a subframe into a plan does not change where the plan ends. -/
theorem executable_add {plan after : Plan} {located : Located}
    (taken : plan.add limit located = .ok after) : after.executable = plan.executable := by
  unfold Plan.add at taken
  split at taken
  · dsimp only at taken
    split at taken
    · cases taken
      rfl
    · split at taken <;> cases taken
      rfl
  · split at taken <;> cases taken
    rfl

/-- Taking subframes into a plan does not change where the plan ends. -/
theorem executable_foldlM {located : List Located} {plan after : Plan}
    (taken : located.foldlM (Plan.add limit) plan = .ok after) :
    after.executable = plan.executable := by
  induction located generalizing plan with
  | nil =>
    cases taken
    rfl
  | cons first rest ih =>
    rw [List.foldlM_cons, bind_eq_ok] at taken
    obtain ⟨between, one, others⟩ := taken
    rw [ih others, executable_add one]

/-- A plan ends at the end of its payload or at the first unknown tag. -/
theorem plan_eq_ok {payload : List UInt8} {planned : Plan}
    (plans : plan limit payload = .ok planned) :
    ((Contents.ofPayload payload).stop = none ∧ planned.executable = payload.length) ∨
      ∃ tag, (Contents.ofPayload payload).stop = some (.unknown tag planned.executable) := by
  simp only [plan, bind_eq_ok] at plans
  obtain ⟨gathered, taken, closed, close, alone⟩ := plans
  have same : closed = planned := by
    split at alone <;> cases alone
    rfl
  subst same
  cases stop : (Contents.ofPayload payload).stop with
  | none =>
    rw [stop] at close
    cases close
    exact .inl ⟨rfl, executable_foldlM taken⟩
  | some error =>
    rw [stop] at close
    cases error with
    | malformed place flaw => cases close
    | unknown tag place =>
      cases close
      exact .inr ⟨tag, rfl⟩

/-- The part that is carried out holds the subframes of the payload. -/
theorem subframes_executable {payload : List UInt8} {planned : Plan}
    (plans : plan limit payload = .ok planned) :
    (Contents.ofPayload (payload.take planned.executable)).subframes =
      (Contents.ofPayload payload).subframes := by
  rcases plan_eq_ok plans with ⟨_, whole⟩ | ⟨tag, stop⟩
  · rw [whole, List.take_length]
  · have front := (Subframe.Walk.contents_take stop).2
    rw [Nat.sub_zero] at front
    rw [Contents.subframes, Contents.ofPayload, front]
    rfl

/-! ### Data asked for -/

/-- Taking a subframe into a plan counts it, if it asks for data. -/
theorem asks_add {plan after : Plan} {located : Located}
    (taken : plan.add limit located = .ok after) :
    after.reads + after.tunnels = plan.reads + plan.tunnels +
      if located.subframe.isRead || located.subframe.isTunnel then 1 else 0 := by
  unfold Plan.add at taken
  cases form : located.subframe with
  | writeSingle | writeMultiple =>
    rw [form] at taken
    cases taken
    rfl
  | readSingle | readMultiple =>
    rw [form] at taken
    simp only [Subframe.isRegisterRequest, if_pos, readFloor?] at taken
    split at taken <;> cases taken
    exact Nat.add_right_comm _ _ _
  | clientToServer =>
    rw [form] at taken
    cases taken
    exact (Nat.add_assoc _ _ _).symm
  | replySingle | replyMultiple | writeError | readError | serverToClient =>
    rw [form] at taken
    cases taken

/-- Taking subframes into a plan counts those that ask for data. -/
theorem asks_foldlM {located : List Located} {plan after : Plan}
    (taken : located.foldlM (Plan.add limit) plan = .ok after) :
    after.reads + after.tunnels = plan.reads + plan.tunnels +
      located.countP fun item => item.subframe.isRead || item.subframe.isTunnel := by
  induction located generalizing plan with
  | nil =>
    cases taken
    rfl
  | cons first rest ih =>
    rw [List.foldlM_cons, bind_eq_ok] at taken
    obtain ⟨between, one, others⟩ := taken
    rw [ih others, asks_add one, List.countP_cons]
    omega

/-- A plan needs a reply exactly when a subframe in front of the first unknown tag reads registers
or polls a tunnel. -/
theorem needsReply_iff {payload : List UInt8} {planned : Plan}
    (plans : plan limit payload = .ok planned) :
    planned.needsReply = true ↔ ∃ subframe ∈ (Contents.ofPayload payload).subframes,
      subframe.isRead = true ∨ subframe.isTunnel = true := by
  simp only [plan, bind_eq_ok] at plans
  obtain ⟨gathered, taken, closed, close, alone⟩ := plans
  have same : closed = planned := by
    split at alone <;> cases alone
    rfl
  subst same
  have kept : closed.reads = gathered.reads ∧ closed.tunnels = gathered.tunnels := by
    unfold Plan.close at close
    split at close <;> cases close <;> exact ⟨rfl, rfl⟩
  have counted := asks_foldlM taken
  rw [← kept.1, ← kept.2] at counted
  dsimp only at counted
  calc closed.needsReply = true ↔ 0 < closed.reads + closed.tunnels := by
        simp only [Plan.needsReply, Bool.or_eq_true, decide_eq_true_eq]
        omega
    _ ↔ _ := by
        rw [counted, Nat.add_zero, Nat.zero_add, List.countP_pos_iff]
        simp only [Bool.or_eq_true, Contents.subframes]
        constructor
        · rintro ⟨item, there, asks⟩
          exact ⟨item.subframe, List.mem_map_of_mem there, asks⟩
        · rintro ⟨subframe, there, asks⟩
          obtain ⟨item, inside, rfl⟩ := List.mem_map.1 there
          exact ⟨item, inside, asks⟩

/-! ### Writes -/

/-- Taking writes into a plan counts them. -/
theorem foldlM_of_writes {located : List Located} (plan : Plan)
    (writes : ∀ item ∈ located,
      item.subframe.isRegisterRequest = true ∧ item.subframe.isRead = false) :
    located.foldlM (Plan.add limit) plan =
      .ok { plan with registers := plan.registers + located.length } := by
  induction located generalizing plan with
  | nil => rfl
  | cons item rest ih =>
    obtain ⟨⟨request, unread⟩, others⟩ := List.forall_mem_cons.1 writes
    have one : plan.add limit item = .ok { plan with registers := plan.registers + 1 } := by
      have free : readFloor? item.subframe = none := by
        cases form : item.subframe with
        | readSingle | readMultiple =>
          rw [form] at unread
          cases unread
        | _ => rfl
      rw [Plan.add, if_pos request]
      dsimp only
      rw [free]
    rw [List.foldlM_cons, one]
    show rest.foldlM (Plan.add limit) _ = _
    rw [ih _ others, List.length_cons, Nat.add_right_comm, Nat.add_assoc]

/-- A payload of writes is carried out as a whole. -/
theorem plan_of_writes {payload : List UInt8} (stop : (Contents.ofPayload payload).stop = none)
    (writes : ∀ subframe ∈ (Contents.ofPayload payload).subframes,
      subframe.isRegisterRequest = true ∧ subframe.isRead = false) :
    plan limit payload =
      .ok { executable := payload.length
            registers := (Contents.ofPayload payload).located.length } := by
  have taken := @foldlM_of_writes limit (Contents.ofPayload payload).located
    { executable := payload.length } fun item there => writes _ (List.mem_map_of_mem there)
  unfold plan
  dsimp only
  rw [taken, stop, Nat.zero_add]
  rfl

end Multidrop.Dispatch

/-! ## Two passes over a payload

A payload is walked once to plan it and once more to carry out the planned part of it. The second walk
goes over fewer bytes than the first one where the payload has an unknown tag. Because a subframe is
read from its own bytes, it meets the subframes that were taken into the plan, at the same places, and
ends without an error (`passes_agree`). -/

namespace Multidrop.Dispatch

open Subframe (Contents Cut Part)

variable {limit : Nat} {payload rest : List UInt8} {planned : Plan} {parts : List Part}
  {stop : Option Subframe.Error}

/-- The part of a payload that is carried out is made up of the parts that are read. -/
theorem take_executable (cut : Cut payload parts stop rest)
    (plans : plan limit payload = .ok planned) :
    payload.take planned.executable = Part.bytes parts := by
  have same : (Contents.ofPayload payload).stop = stop := congrArg Contents.stop cut.contents
  have place : planned.executable = (Part.bytes parts).length := by
    rcases plan_eq_ok plans with ⟨none, whole⟩ | ⟨tag, unknown⟩
    · rw [whole, cut.whole, cut.ended (same.symm.trans none), List.append_nil]
    · exact (cut.unknown tag _ (same.symm.trans unknown)).1
  rw [place, cut.whole, List.take_left]

/-- The subframes that are read were all taken into the plan. -/
theorem taken_of_plan (cut : Cut payload parts stop rest)
    (plans : plan limit payload = .ok planned) :
    ∃ gathered, (parts.map Prod.snd).foldlM (Plan.add limit) { executable := payload.length } =
      .ok gathered := by
  simp only [plan, bind_eq_ok] at plans
  obtain ⟨gathered, taken, _⟩ := plans
  rw [cut.contents] at taken
  exact ⟨gathered, taken⟩

/-- All passes cut a payload alike: what the plan takes in is what the walk meets, and is carried
out in this order. -/
theorem passes_agree (limit : Nat) (payload : List UInt8) :
    ∃ parts stop rest, Cut payload parts stop rest ∧
      ∀ planned, plan limit payload = .ok planned →
        (∃ gathered, (parts.map Prod.snd).foldlM (Plan.add limit)
          { executable := payload.length } = .ok gathered) ∧
        Cut (payload.take planned.executable) parts none [] ∧
        ∀ (σ : Type) (service : RegisterService σ) (scene : Scene σ),
          execute service planned payload scene =
            (parts.map fun part => part.2.subframe).foldl (act service) scene := by
  obtain ⟨parts, rest, cut⟩ := Subframe.exists_cut payload
  refine ⟨parts, _, rest, cut, fun planned plans => ⟨taken_of_plan cut plans, ?_, ?_⟩⟩
  · rw [take_executable cut plans]
    exact cut.bytes_parts
  · intro σ service scene
    rw [execute, take_executable cut plans, Contents.subframes, cut.bytes_parts.contents,
      List.map_map]
    rfl

/-- A read with a padded tag, a write and an unknown tag: the first two are carried out, and the
unknown tag is reported behind them. -/
theorem passes_agree_of_padded :
    let payload : List UInt8 := [0x98, 0x00, 0x01, 0x11, 0x80, 0x04, 0x34, 0x12, 0x33, 0x00]
    ∃ planned parts stop rest, plan 3 payload = .ok planned ∧ planned.executable = 8 ∧
      Cut payload parts stop rest ∧ stop = some (.unknown 0x33 8) ∧
      Cut (payload.take 8) parts none [] ∧
      parts.map Prod.snd = [⟨0, .readSingle 1 .int8⟩, ⟨3, .writeSingle 0x200 (.int16 0x1234)⟩] := by
  intro payload
  have planned : plan 3 payload =
      .ok { executable := 8, unknownTag := some 0x33, registers := 2, reads := 1,
            replyFloor := 3 } := by
    show plan 3 [0x98, 0x00, 0x01, 0x11, 0x80, 0x04, 0x34, 0x12, 0x33, 0x00] = _
    with_unfolding_all rfl
  have contents : Contents.ofPayload payload =
      ⟨[⟨0, .readSingle 1 .int8⟩, ⟨3, .writeSingle 0x200 (.int16 0x1234)⟩],
        some (.unknown 0x33 8)⟩ := by
    show Contents.ofPayload [0x98, 0x00, 0x01, 0x11, 0x80, 0x04, 0x34, 0x12, 0x33, 0x00] = _
    with_unfolding_all rfl
  obtain ⟨parts, stop, rest, cut, agree⟩ := passes_agree 3 payload
  have both := cut.contents.symm.trans contents
  exact ⟨_, parts, stop, rest, planned, rfl, cut, congrArg Contents.stop both,
    (agree _ planned).2.1, congrArg Contents.located both⟩

end Multidrop.Dispatch
