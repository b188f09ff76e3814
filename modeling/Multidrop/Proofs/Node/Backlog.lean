import Multidrop.Proofs.Frame.Backlog
import Multidrop.Proofs.Frame.Stepwise
import Multidrop.Proofs.Node.Listening
import Multidrop.Proofs.Node.Segmentation

/-!
# How much is received and not yet used

The receive buffers of the bus stay small, whatever arrives: a call of the decoder that needs more
bytes leaves fewer than the largest frame has, and neither a station on a line nor a reader ever
holds more than the largest frame and one read together (`backlog_bounded`).
-/
namespace Multidrop

open Multidrop.Frame (Backlog Collects Reader)

variable {σ : Type} {service : RegisterService σ}

namespace Linked

/-- Looking for a frame leaves the bytes that a pass leaves, and the limits of the node. -/
theorem kept_of_receive {station after : Station σ} {received : Received}
    (looked : station.receive service = (received, after)) :
    after.buffer = (Frame.pass station.node.options.bufferSize station.buffer).rest ∧
      after.node.options = station.node.options := by
  have rest := Station.buffer_receive service station
  have options := Station.options_receive service station
  rw [looked] at rest options
  exact ⟨rest, options⟩

/-- Looking for a frame needs more bytes exactly where a pass does. -/
theorem incomplete_iff {station after : Station σ} {received : Received}
    (looked : station.receive service = (received, after)) :
    received = .incomplete ↔
      (Frame.pass station.node.options.bufferSize station.buffer).outcome = .incomplete := by
  have same := @Station.receive_eq_incomplete_iff σ service station
  rw [looked] at same
  exact same

/-- A poll collects bytes, and drops them in the end or keeps them. It keeps the limits of the
node. -/
theorem collects_poll (service : RegisterService σ) (linked : Linked σ) :
    ∃ held last line,
      Collects linked.station.node.options.bufferSize linked.station.buffer linked.line
        held last line ∧
      ((linked.poll service).2.station.buffer = last ∨
        (linked.poll service).2.station.buffer = []) ∧
      (linked.poll service).2.station.node.options = linked.station.node.options := by
  fun_induction poll service linked with
  | case1 linked reply station looked result after answered =>
    obtain ⟨rest, options⟩ := kept_of_receive looked
    have found := mt (incomplete_iff looked).2 (by simp)
    have same : after.station = station := by
      have sent := congrArg (fun pair => pair.2.station) answered
      exact sent.symm
    refine ⟨_, _, _, .found found, .inl ?_, ?_⟩
    · rw [same, ← rest]
      rfl
    · rw [same, Station.replySent, Node.replySent_eq]
      exact options
  | case2 linked station looked =>
    obtain ⟨rest, options⟩ := kept_of_receive looked
    have found := mt (incomplete_iff looked).2 (by simp)
    exact ⟨_, _, _, .found found, .inl rest, options⟩
  | case3 linked station looked line read =>
    obtain ⟨rest, options⟩ := kept_of_receive looked
    have needs := (incomplete_iff looked).1 rfl
    exact ⟨_, _, _, .ended needs read (.inl rfl), .inr rfl, options⟩
  | case4 linked station looked byte more line read taken ih =>
    obtain ⟨rest, options⟩ := kept_of_receive looked
    have needs := (incomplete_iff looked).1 rfl
    obtain ⟨held, last, after, later, buffer, limits⟩ := ih
    rw [Station.feed, options, rest] at later
    exact ⟨_, _, _, .filled needs read later, buffer, limits.trans options⟩
  | case5 linked station looked line read taken ih =>
    obtain ⟨rest, options⟩ := kept_of_receive looked
    have needs := (incomplete_iff looked).1 rfl
    obtain ⟨held, last, after, later, buffer, limits⟩ := ih
    rw [options, rest] at later
    exact ⟨_, _, _, .interrupted needs read later, buffer, limits.trans options⟩
  | case6 linked station looked kind line uninterrupted read =>
    obtain ⟨rest, options⟩ := kept_of_receive looked
    have needs := (incomplete_iff looked).1 rfl
    have ended := Collects.ended needs read (.inr ⟨kind, uninterrupted, rfl⟩)
    exact ⟨_, _, _, ended, .inl rest, options⟩

/-- A station is polled, its application has its turns, and its line may change meanwhile: what its
buffer holds from the beginning on, and the station on its line that this leads to. -/
inductive Runs (service : RegisterService σ) (start : Linked σ) :
    List (List UInt8) → Linked σ → Prop
  /-- Nothing has been done. -/
  | start : Runs service start [start.station.buffer] start
  /-- The station is polled. -/
  | poll {held seen : List (List UInt8)} {linked : Linked σ} {last : List UInt8}
      {line : Line Script} (runs : Runs service start held linked)
      (collects : Collects linked.station.node.options.bufferSize linked.station.buffer linked.line
        seen last line) :
      Runs service start (held ++ seen ++ [(linked.poll service).2.station.buffer])
        (linked.poll service).2
  /-- The application changes the node, but not its limits, and its registers. -/
  | turn {held : List (List UInt8)} {linked : Linked σ} {node : Node}
      (runs : Runs service start held linked)
      (same : node.options = linked.station.node.options) (registers : σ) :
      Runs service start held
        { linked with station := { linked.station with node, registers } }
  /-- Something happens on the line. -/
  | meanwhile {held : List (List UInt8)} {linked : Linked σ}
      (runs : Runs service start held linked) (line : Line Script) :
      Runs service start held { linked with line }

/-- A station whose buffer is empty at first holds what a receive buffer can hold. -/
theorem Runs.backlog {start linked : Linked σ} {held : List (List UInt8)}
    (runs : Runs service start held linked) (empty : start.station.buffer = []) :
    linked.station.node.options = start.station.node.options ∧
      Backlog start.station.node.options.bufferSize linked.station.buffer ∧
      ∀ content ∈ held, Backlog start.station.node.options.bufferSize content := by
  induction runs with
  | start =>
    rw [empty]
    simp only [List.mem_singleton, forall_eq]
    exact ⟨trivial, .empty, .empty⟩
  | @poll held seen linked last line _ collects ih =>
    obtain ⟨options, backlog, before⟩ := ih
    obtain ⟨_, final, _, polled, buffer, limits⟩ := linked.collects_poll service
    rw [options] at collects polled
    have after : Backlog start.station.node.options.bufferSize
        (linked.poll service).2.station.buffer := by
      rcases buffer with kept | dropped
      · rw [kept]
        exact (polled.backlog backlog).2
      · rw [dropped]
        exact .empty
    refine ⟨limits.trans options, after, ?_⟩
    simp only [List.forall_mem_append, List.forall_mem_singleton]
    exact ⟨⟨before, (collects.backlog backlog).1⟩, after⟩
  | turn _ same _ ih => exact ⟨same.trans ih.1, ih.2⟩
  | meanwhile _ _ ih => exact ih

end Linked

/-- A decoder that needs more bytes holds fewer than the largest frame has; a station or a reader on
any line never holds more than that and one read together. -/
theorem backlog_bounded (limit : Nat) :
    (∀ (α : Type) (onDiscard : List UInt8 → α → α) (buffer : List UInt8) (state : α),
      (Frame.decodeWith limit onDiscard buffer state).1 = .ok none →
        (Frame.decodeWith limit onDiscard buffer state).2.1.length < Frame.maxSize limit) ∧
    (∀ (σ : Type) (service : RegisterService σ) (start linked : Linked σ)
        (held : List (List UInt8)), start.station.node.options.bufferSize = limit →
      start.station.buffer = [] → Linked.Runs service start held linked →
        (∀ content ∈ held, content.length ≤ Frame.maxSize limit + Frame.readSize) ∧
        ∃ seen last line, Collects limit linked.station.buffer linked.line seen last line ∧
          ((linked.poll service).2.station.buffer = last ∨
            (linked.poll service).2.station.buffer = [])) ∧
    (∀ (π : Type) (start reader : Reader π) (held : List (List UInt8)), start.limit = limit →
      start.buffer = [] → Reader.Runs start held reader →
        (∀ content ∈ held, content.length ≤ Frame.maxSize limit + Frame.readSize) ∧
        ∃ seen, Collects limit reader.buffer reader.line seen
          reader.next.2.buffer reader.next.2.line) := by
  refine ⟨?_, ?_, ?_⟩
  · intro α onDiscard buffer state needs
    rw [Frame.decodeWith_eq] at needs ⊢
    exact Frame.length_rest_of_incomplete (Frame.Outcome.result_eq_none.1 needs)
  · rintro σ service start linked held rfl empty runs
    obtain ⟨options, _, all⟩ := runs.backlog empty
    obtain ⟨seen, last, line, collects, buffer, _⟩ := linked.collects_poll service
    rw [options] at collects
    exact ⟨fun content there => Nat.le_of_lt (all content there).length_lt,
      seen, last, line, collects, buffer⟩
  · rintro π start reader held rfl empty runs
    obtain ⟨limit, _, all⟩ := runs.backlog empty
    obtain ⟨seen, collects⟩ := reader.collects_next
    rw [limit] at collects
    exact ⟨fun content there => Nat.le_of_lt (all content there).length_lt, seen, collects⟩

/-- The longest bytes that need one more are followed by as many as a read brings: for a station and
for a reader alike, the buffer holds one byte less than it may. -/
theorem backlog_bounded_of_full :
    let needy : List UInt8 := [0x54, 0xab, 1, 2, 0x81, 0x80, 0x80, 0x80, 0x00, 7, 0]
    let noise : List UInt8 := List.replicate Frame.readSize 0
    let line : Line Script := { arrivals := [.data needy, .data noise], peer := {} }
    let service : RegisterService Unit :=
      { read := fun state _ _ => (.ok (.int8 1), state), write := fun state _ _ => (.ok (), state) }
    let linked : Linked Unit :=
      { station := { node := .ofConfig { bufferSize := 1 } .default, registers := () }, line }
    let reader : Reader Script := { limit := 1, line }
    (Frame.decodeWith 1 (fun _ count => count + 1) needy 0).2.1.length + 1 = Frame.maxSize 1 ∧
    (needy ++ noise).length + 1 = Frame.maxSize 1 + Frame.readSize ∧
    (∃ held, Linked.Runs service linked held (linked.poll service).2 ∧ needy ++ noise ∈ held ∧
      ∀ content ∈ held, content.length ≤ Frame.maxSize 1 + Frame.readSize) ∧
    ∃ held, Reader.Runs reader held reader.next.2 ∧ needy ++ noise ∈ held ∧
      ∀ content ∈ held, content.length ≤ Frame.maxSize 1 + Frame.readSize := by
  intro needy noise line service linked reader
  obtain ⟨_, stations, readers⟩ := backlog_bounded 1
  have start : (Frame.pass 1 []).outcome = .incomplete := rfl
  have middle : (Frame.pass 1 needy).outcome = .incomplete ∧ (Frame.pass 1 needy).rest = needy := by
    decide +kernel
  have last : (Frame.pass 1 (needy ++ noise)).outcome ≠ .incomplete := by decide +kernel
  have few : noise.length = Frame.readSize := List.length_replicate
  have size : (needy ++ noise).length + 1 = Frame.maxSize 1 + Frame.readSize := by decide +kernel
  clear_value noise
  have brought : ({ line with arrivals := [.data noise] } : Line Script).read Frame.readSize =
      (.ok noise, { line with arrivals := [] }) := by
    simp [Line.read, ← few]
  have collects :
      ∃ held rest after, Collects 1 [] line held rest after ∧ needy ++ noise ∈ held := by
    rw [← middle.2] at last
    have second := Collects.filled middle.1 brought (.found last)
    have first := @Collects.filled _ 1 [] _ needy line _ _ _ start rfl second
    exact ⟨_, _, _, first, by simp [middle.2]⟩
  obtain ⟨seen, rest, after, collects, there⟩ := collects
  refine ⟨by decide +kernel, size, ?_, ?_⟩
  · have runs : Linked.Runs service linked _ (linked.poll service).2 := .poll .start collects
    exact ⟨_, runs, by simp [there], (stations Unit service linked _ _ rfl rfl runs).1⟩
  · have runs : Reader.Runs reader _ reader.next.2 := .next .start collects
    exact ⟨_, runs, by simp [there], (readers Script reader _ _ rfl rfl runs).1⟩

end Multidrop
