import Multidrop.Proofs.Node.Process

/-!
# Frames without effect

A frame for another node, or one whose payload is refused as a whole, is inert: it reaches neither
the registers nor the tunnels and gets no reply, and one counter tells of it. Two runs of a node
that differ by inert frames only shadow each other (`Node.Shadows`), so inert frames may be deleted
from a list of frames without a trace in anything but their own counters.
-/
namespace Multidrop.Node

variable {σ : Type}

/-- A frame that a node refuses as a whole. -/
def Refuses (node : Node) (frame : Frame) : Prop :=
  ∃ error, Dispatch.plan node.options.bufferSize frame.payload = .error error

/-- A frame that is for another node or refused as a whole. -/
def Inert (node : Node) (frame : Frame) : Prop := node.Foreign frame ∨ node.Refuses frame

/-- The counters after an inert frame: one more in one of them. -/
def countInert (frame : Frame) (node : Node) : Stats :=
  if node.Foreign frame then { node.stats with wrongId := bump node.stats.wrongId }
  else { node.stats with malformedSubframe := bump node.stats.malformedSubframe }

/-- Handle frames one after another: the replies in order, the registers and the node. -/
def processAll (service : RegisterService σ) :
    List Frame → σ → Node → List (Option (List UInt8)) × σ × Node
  | [], registers, node => ([], registers, node)
  | frame :: rest, registers, node =>
    let handled := node.process service frame registers
    let later := processAll service rest handled.registers handled.node
    (handled.reply :: later.1, later.2)

/-- The items that no mark strikes out. -/
def kept {α : Type} (marks : List Bool) : List α → List α
  | [] => []
  | item :: rest =>
    if marks.headD false then kept marks.tail rest else item :: kept marks.tail rest

/-- The items that a mark strikes out. -/
def struck {α : Type} (marks : List Bool) : List α → List α
  | [] => []
  | item :: rest =>
    if marks.headD false then item :: struck marks.tail rest else struck marks.tail rest

/-! ## One frame -/

/-- An inert frame is handled without the registers, and changes one counter and the capture at
most. -/
theorem process_of_inert {node : Node} {frame : Frame} (service : RegisterService σ)
    (registers : σ) (inert : node.Inert frame) :
    ∃ unknown, node.process service frame registers =
      ⟨none, registers, { node with unknown, stats := node.countInert frame, phase := .idle }⟩ := by
  by_cases foreign : node.Foreign frame
  · refine ⟨(node.captureFrame frame).unknown, ?_⟩
    rw [process_of_foreign foreign, passOver, captureFrame_eq, countInert, if_pos foreign]
  · obtain ⟨error, refused⟩ := inert.resolve_left foreign
    refine ⟨node.unknown, ?_⟩
    rw [process_of_refused foreign refused, refuse, countInert, if_neg foreign]

/-! ## Runs that differ by inert frames -/

/-- One node is as far as another that has seen fewer inert frames. -/
structure Shadows (node other : Node) (foreign refused : Nat) : Prop where
  /-- They have the same limits. -/
  options : node.options = other.options
  /-- They have the same id. -/
  id : node.id = other.id
  /-- They have the same tunnels. -/
  tunnels : node.tunnels = other.tunnels
  /-- They have the same counters, but for the inert frames. -/
  stats : node.stats = other.stats.raise foreign refused

namespace Shadows

variable {node other : Node} {foreign refused : Nat} {frame : Frame}

/-- A node shadows itself. -/
theorem refl (node : Node) : Shadows node node 0 0 where
  options := rfl
  id := rfl
  tunnels := rfl
  stats := by rw [Stats.raise, raise_zero, raise_zero]

/-- Both nodes take the same frames for those of others. -/
theorem foreign_iff (shadows : Shadows node other foreign refused) :
    node.Foreign frame ↔ other.Foreign frame := by
  rw [Foreign, Foreign, shadows.id, shadows.options]

/-- An inert frame more keeps a node a shadow. -/
theorem process_inert (shadows : Shadows node other foreign refused)
    (service : RegisterService σ) (registers : σ) (inert : node.Inert frame) :
    Shadows (node.process service frame registers).node other
      (foreign + if node.Foreign frame then 1 else 0)
      (refused + if node.Foreign frame then 0 else 1) := by
  obtain ⟨unknown, same⟩ := process_of_inert service registers inert
  have counted : node.countInert frame = other.stats.raise
      (foreign + if node.Foreign frame then 1 else 0)
      (refused + if node.Foreign frame then 0 else 1) := by
    rw [countInert, shadows.stats]
    by_cases elsewhere : node.Foreign frame
    · rw [if_pos elsewhere, if_pos elsewhere, if_pos elsewhere, Stats.raise, Stats.raise,
        bump_eq_raise, raise_raise]
      rfl
    · rw [if_neg elsewhere, if_neg elsewhere, if_neg elsewhere, Stats.raise, Stats.raise,
        bump_eq_raise, raise_raise]
      rfl
  rw [same]
  exact ⟨shadows.options, shadows.id, shadows.tunnels, counted⟩

/-- The same frame is handled alike, and keeps a node a shadow. -/
theorem process_both (shadows : Shadows node other foreign refused)
    (service : RegisterService σ) (registers : σ) (frame : Frame) :
    (node.process service frame registers).reply = (other.process service frame registers).reply ∧
      (node.process service frame registers).registers =
        (other.process service frame registers).registers ∧
      Shadows (node.process service frame registers).node
        (other.process service frame registers).node foreign refused := by
  by_cases elsewhere : node.Foreign frame
  · have both := shadows.foreign_iff.1 elsewhere
    rw [process_of_foreign elsewhere, process_of_foreign both, passOver, passOver,
      captureFrame_eq, captureFrame_eq frame other]
    refine ⟨rfl, rfl, shadows.options, shadows.id, shadows.tunnels, ?_⟩
    simp only [shadows.stats, Stats.raise, bump_raise]
  · have both := mt shadows.foreign_iff.2 elsewhere
    cases planned : Dispatch.plan node.options.bufferSize frame.payload with
    | error error =>
      have same := planned
      rw [shadows.options] at same
      rw [process_of_refused elsewhere planned, process_of_refused both same]
      refine ⟨rfl, rfl, shadows.options, shadows.id, shadows.tunnels, ?_⟩
      simp only [refuse, shadows.stats, Stats.raise, bump_raise]
    | ok plan =>
      have same := planned
      rw [shadows.options] at same
      have scenes : node.scene registers = other.scene registers := by
        rw [scene, scene, shadows.options, shadows.tunnels]
      have answers : ∀ payload,
          node.answer frame plan payload = other.answer frame plan payload := by
        intro payload
        rw [answer, answer, isBroadcast, isBroadcast, shadows.options, shadows.id]
      rw [process_of_planned elsewhere planned, process_of_planned both same, scenes]
      refine ⟨answers _, rfl, shadows.options, shadows.id, rfl, ?_⟩
      simp only [shadows.stats, Stats.raise, Stats.note]

end Shadows

/-- Which frames are for other nodes does not depend on what was handled before. -/
theorem foreign_process (node : Node) (service : RegisterService σ) (registers : σ)
    (earlier frame : Frame) :
    (node.process service earlier registers).node.Foreign frame ↔ node.Foreign frame := by
  rw [Foreign, Foreign, options_process, id_process]

/-- Which frames are inert does not depend on what was handled before. -/
theorem inert_process (node : Node) (service : RegisterService σ) (registers : σ)
    (earlier frame : Frame) :
    (node.process service earlier registers).node.Inert frame ↔ node.Inert frame := by
  rw [Inert, Inert, foreign_process, Refuses, Refuses, options_process]

/-- Struck frames have no part in a run: the replies to the others and the registers are those of
the run without them, and the node shadows the node of that run. -/
theorem processAll_kept (service : RegisterService σ) (marks : List Bool) (frames : List Frame)
    (registers : σ) {node other : Node} {foreign refused : Nat}
    (shadows : Shadows node other foreign refused)
    (inert : ∀ frame ∈ struck marks frames, node.Inert frame) :
    let all := processAll service frames registers node
    let less := processAll service (kept marks frames) registers other
    kept marks all.1 = less.1 ∧ all.2.1 = less.2.1 ∧
      Shadows all.2.2 less.2.2
        (foreign + (struck marks frames).countP fun frame => node.Foreign frame)
        (refused + (struck marks frames).countP fun frame => ¬node.Foreign frame) := by
  dsimp only
  induction frames generalizing marks registers node other foreign refused with
  | nil => exact ⟨rfl, rfl, shadows⟩
  | cons frame rest ih =>
    by_cases mark : marks.headD false = true
    · rw [struck, if_pos mark] at inert
      obtain ⟨first, others⟩ := List.forall_mem_cons.1 inert
      obtain ⟨unknown, same⟩ := process_of_inert service registers first
      have next := ih marks.tail registers (shadows.process_inert service registers first)
        (fun later there =>
          (inert_process node service registers frame later).2 (others later there))
      simp only [foreign_process] at next
      have untouched : (node.process service frame registers).registers = registers := by rw [same]
      simp only [processAll, kept, struck, if_pos mark, List.countP_cons, untouched]
      have counts : ∀ start first others : Nat,
          start + first + others = start + (others + first) := by
        intro start first others
        rw [Nat.add_assoc, Nat.add_comm first]
      simp only [counts] at next
      simp only [decide_eq_true_eq, ite_not]
      exact next
    · rw [struck, if_neg mark] at inert
      obtain ⟨replies, registersEq, both⟩ := shadows.process_both service registers frame
      have next := ih marks.tail (node.process service frame registers).registers both
        (fun later there =>
          (inert_process node service registers frame later).2 (inert later there))
      simp only [foreign_process] at next
      simp only [processAll, kept, struck, if_neg mark, ← replies, ← registersEq]
      exact ⟨congrArg (_ :: ·) next.1, next.2⟩

/-- An inert frame is counted once and leaves no other trace, and striking out inert frames from a
run changes no reply to a frame that stays. -/
theorem inert_without_trace (service : RegisterService σ) (node : Node) :
    (∀ frame registers calls, node.Inert frame →
      let handled := node.process service.logged frame (registers, calls)
      handled.reply = none ∧ handled.registers = (registers, calls) ∧
        handled.node.tunnels = node.tunnels ∧ handled.node.id = node.id ∧
        handled.node.options = node.options ∧ handled.node.phase = .idle ∧
        handled.node.stats = node.countInert frame) ∧
    ∀ marks frames registers, (∀ frame ∈ struck marks frames, node.Inert frame) →
      let all := processAll service frames registers node
      let less := processAll service (kept marks frames) registers node
      kept marks all.1 = less.1 ∧ all.2.1 = less.2.1 ∧ all.2.2.tunnels = less.2.2.tunnels ∧
        all.2.2.stats = less.2.2.stats.raise
          ((struck marks frames).countP fun frame => node.Foreign frame)
          ((struck marks frames).countP fun frame => ¬node.Foreign frame) := by
  constructor
  · intro frame registers calls inert
    obtain ⟨unknown, same⟩ := process_of_inert service.logged (registers, calls) inert
    rw [same]
    exact ⟨rfl, rfl, rfl, rfl, rfl, rfl, rfl⟩
  · intro marks frames registers inert
    obtain ⟨replies, state, shadows⟩ :=
      processAll_kept service marks frames registers (Shadows.refl node) inert
    rw [Nat.zero_add, Nat.zero_add] at shadows
    exact ⟨replies, state, shadows.tunnels, shadows.stats⟩

/-- A write for another node and a write with a piece of a subframe behind it are inert; a run with
both of them around a proper write ends as the write alone. -/
theorem inert_without_trace_of_writes :
    let service : RegisterService Nat :=
      { read := fun count _ _ => (.ok (.int8 1), count)
        write := fun count _ _ => (.ok (), count + 1) }
    let node : Node := .ofConfig {} .default
    let elsewhere : Frame := { source := 2, destination := 7, payload := [0x10, 0, 5] }
    let damaged : Frame := { source := 2, destination := 1, payload := [0x10, 0, 5, 0x10] }
    let proper : Frame := { source := 2, destination := 1, payload := [0x10, 0, 5] }
    (node.process service.logged damaged (0, [])).registers = (0, []) ∧
      (processAll service [elsewhere, proper, damaged] 0 node).2.1 =
        (processAll service [proper] 0 node).2.1 := by
  intro service node elsewhere damaged proper
  have foreign : node.Inert elsewhere := .inl (by decide)
  have refused : node.Inert damaged := by
    right
    refine ⟨.malformed 3 .register, ?_⟩
    show Dispatch.plan 256 [0x10, 0, 5, 0x10] = .error (.malformed 3 .register)
    cbv
  have trace := inert_without_trace service node
  refine ⟨(trace.1 damaged 0 [] refused).2.1, ?_⟩
  refine (trace.2 [true, false, true] [elsewhere, proper, damaged] 0 ?_).2.1
  intro frame there
  rcases List.mem_cons.1 there with rfl | there
  · exact foreign
  · rw [List.mem_singleton.1 there]
    exact refused

end Multidrop.Node
