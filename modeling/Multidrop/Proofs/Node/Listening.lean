import Multidrop.Node.Linked
import Multidrop.Proofs.Frame.Outcomes
import Multidrop.Proofs.Frame.Reader
import Multidrop.Proofs.Node.Process

/-!
# Stations that listen

A station gets bytes in any pieces and looks for frames in them whenever it likes, while its
application uses the tunnels and the captured bytes (`Station.Listens`). What its looks have found
so far is what passes find first in all bytes that it was fed, and the rest of it is still in the
buffer (`Station.Listens.ahead`). Each look that finds something says so
(`Station.Listens.handled`).
-/
namespace Multidrop

/-- Noting a reply as written changes only how far a node is. -/
theorem Node.replySent_eq (node : Node) :
    node.replySent = { node with phase := node.replySent.phase } := by
  unfold replySent
  split <;> rfl

namespace Station

/-- What has happened to a station. -/
structure Log where
  /-- The bytes that it was fed. -/
  fed : List UInt8 := []
  /-- What its looks have found. -/
  found : List Frame.Outcome := []
  /-- What came of each look. -/
  results : List Received := []

variable {σ : Type}

/-- A station is fed and looks for frames, and its application uses what it has received. -/
inductive Listens (service : RegisterService σ) (start : Station σ) : Log → Station σ → Prop
  /-- Nothing has happened. -/
  | start : Listens service start {} start
  /-- Some bytes arrive. -/
  | feed {log : Log} {station : Station σ} (listens : Listens service start log station)
      (bytes : List UInt8) :
      Listens service start { log with fed := log.fed ++ bytes } (station.feed bytes)
  /-- One frame is looked for. -/
  | receive {log : Log} {station : Station σ} (listens : Listens service start log station) :
      Listens service start
        { log with
          found := log.found ++
            (Frame.pass station.node.options.bufferSize station.buffer).outcome.found
          results := log.results ++ [(station.receive service).1] }
        (station.receive service).2
  /-- A reply has been written. -/
  | replySent {log : Log} {station : Station σ} (listens : Listens service start log station) :
      Listens service start log station.replySent
  /-- The application uses its tunnels and the captured bytes. -/
  | use {log : Log} {station : Station σ} (listens : Listens service start log station)
      (tunnels : Tunnels) (unknown : Ring) :
      Listens service start log { station with node := { station.node with tunnels, unknown } }

variable {service : RegisterService σ} {start station : Station σ} {log : Log}

/-! ## What does not change -/

/-- Looking for a frame keeps the limits of a node. -/
theorem options_receive (service : RegisterService σ) (station : Station σ) :
    (station.receive service).2.node.options = station.node.options := by
  unfold receive
  dsimp only
  cases (Frame.pass station.node.options.bufferSize station.buffer).outcome with
  | incomplete => rfl
  | fault error => rfl
  | frame frame => exact Node.options_process

/-- A station that listens keeps the limits of its node. -/
theorem Listens.options (listens : Listens service start log station) :
    station.node.options = start.node.options := by
  induction listens with
  | start => rfl
  | feed _ _ ih | use _ _ _ ih => exact ih
  | receive _ ih => rw [options_receive, ih]
  | @replySent _ station _ ih =>
    rw [Station.replySent, Node.replySent_eq]
    exact ih

/-! ## What is found -/

/-- What the looks have found comes first in the bytes that were fed, whatever follows, and what
comes after it is found in the buffer. -/
theorem Listens.ahead (listens : Listens service start log station) (more : List UInt8) :
    Frame.outcomes start.node.options.bufferSize (start.buffer ++ log.fed ++ more) =
      log.found ++ Frame.outcomes start.node.options.bufferSize (station.buffer ++ more) := by
  induction listens generalizing more with
  | start => rw [List.append_nil, List.nil_append]
  | feed _ bytes ih =>
    have later := ih (bytes ++ more)
    rw [Station.feed]
    simp only [List.append_assoc] at later ⊢
    exact later
  | @receive log station listens ih =>
    rw [ih, Frame.outcomes_append, buffer_receive, listens.options, List.append_assoc]
  | replySent _ ih | use _ _ _ ih => exact ih more

/-- A look needs more bytes exactly where a pass does. -/
theorem receive_eq_incomplete_iff :
    (station.receive service).1 = .incomplete ↔
      (Frame.pass station.node.options.bufferSize station.buffer).outcome = .incomplete := by
  unfold receive
  dsimp only
  cases outcome : (Frame.pass station.node.options.bufferSize station.buffer).outcome with
  | incomplete => exact ⟨fun _ => rfl, fun _ => rfl⟩
  | fault error => exact ⟨nofun, nofun⟩
  | frame frame =>
    dsimp only
    cases (Node.process _ _ _ _).reply <;> exact ⟨nofun, nofun⟩

/-- Every look that does not need more bytes has found a fault or a frame. -/
theorem Listens.handled (listens : Listens service start log station) :
    log.results.countP (· ≠ .incomplete) =
      (log.found.filterMap Frame.Outcome.fault?).length +
        (log.found.filterMap Frame.Outcome.frame?).length := by
  induction listens with
  | start => rfl
  | feed _ _ ih | replySent _ ih | use _ _ _ ih => exact ih
  | @receive log station _ ih =>
    generalize found : (Frame.pass station.node.options.bufferSize station.buffer).outcome = outcome
    have one : [(station.receive service).1].countP (· ≠ .incomplete) =
        (outcome.found.filterMap Frame.Outcome.fault?).length +
          (outcome.found.filterMap Frame.Outcome.frame?).length := by
      have same := @receive_eq_incomplete_iff _ service station
      rw [found] at same
      rw [List.countP_singleton]
      cases outcome with
      | incomplete => simp [same, Frame.Outcome.found]
      | fault | frame =>
        simp [same, Frame.Outcome.found, Frame.Outcome.fault?, Frame.Outcome.frame?]
    rw [List.countP_append, List.filterMap_append, List.filterMap_append, List.length_append,
      List.length_append, ih, one]
    omega

end Station

end Multidrop
