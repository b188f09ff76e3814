import Multidrop.Proofs.Node.Conservation

/-!
# How far a node is between two deeds

Handling a frame goes through several phases, and each of its ways out has to leave the node in the
right one. What can be seen after a deed is only ever that the node is idle, that it waits for the
rest of a frame, or that it has a reply to be written. Which of these it is can be told from what
the last deeds of a run returned (`Runs.phase_of_latest`).
-/
namespace Multidrop.Node

/-- Whether a deed looks for a frame, handles one, or counts a fault. Any of these ends what the
node was at before. -/
def Deed.restarts : Deed → Bool
  | .process .. | .receive .. | .recordFault _ => true
  | .replySent | .recordDiscarded _ | .readUnknown _ | .openTunnel _ | .readTunnel ..
  | .writeTunnel .. | @setId .. => false

/-- Whether a deed ends the sending of a reply: it restarts the node, or notes the reply as
written. -/
def Deed.endsSending : Deed → Bool
  | .process .. | .receive .. | .recordFault _ | .replySent => true
  | .recordDiscarded _ | .readUnknown _ | .openTunnel _ | .readTunnel .. | .writeTunnel ..
  | @setId .. => false

/-- The latest event of a run whose deed is of some sort. -/
def latest (sort : Deed → Bool) (events : List Event) : Option Event :=
  events.reverse.find? fun event => sort event.deed

namespace Event

/-- A reply was returned. -/
def Answers (event : Event) : Prop := (event.deed.reply? event.before).isSome = true

/-- A look for a frame found that more bytes are needed, and left bytes in its buffer. -/
def Waits (event : Event) : Prop :=
  match event.deed with
  | .receive service registers buffer =>
    let look := Station.receive service { node := event.before, registers, buffer }
    look.1 = .incomplete ∧ look.2.buffer ≠ []
  | .process .. | .replySent | .recordFault _ | .recordDiscarded _ | .readUnknown _
  | .openTunnel _ | .readTunnel .. | .writeTunnel .. | @Deed.setId .. => False

end Event

/-! ## One deed -/

variable {σ : Type} {node : Node} {events : List Event}

/-- What came of a handled frame is not that more bytes are needed. -/
theorem handled_ne_incomplete (reply : Option (List UInt8)) :
    (reply.elim .handled .reply : Received) ≠ .incomplete := by
  cases reply <;> nofun

/-- A look leaves the node with its reply to be sent, with the rest of a frame to come, or idle. -/
theorem phase_receive (service : RegisterService σ) (station : Station σ) :
    let look := station.receive service
    look.2.node.phase =
      if look.1.reply?.isSome then .sending
      else if look.1 = .incomplete ∧ look.2.buffer ≠ [] then .accumulating else .idle := by
  unfold Station.receive
  dsimp only
  cases (Frame.pass station.node.options.bufferSize station.buffer).outcome with
  | incomplete =>
    by_cases empty : (Frame.pass station.node.options.bufferSize station.buffer).rest = [] <;>
      simp [Received.reply?, empty]
  | fault error => rfl
  | frame frame =>
    dsimp only
    rw [phase_process, reply?_elim]
    split
    · rfl
    · exact (if_neg fun look => handled_ne_incomplete _ look.1).symm

/-- A deed that restarts the node leaves it in a phase that can be read off what it returned. -/
theorem Deed.phase_of_restarts {deed : Deed} (restarts : deed.restarts = true) :
    ((deed.after node).phase = .sending ↔ (Event.mk node deed).Answers) ∧
      ((deed.after node).phase = .accumulating ↔ (Event.mk node deed).Waits) ∧
      ((deed.after node).phase = .idle ∨ (deed.after node).phase = .accumulating ∨
        (deed.after node).phase = .sending) := by
  cases deed with
  | process service frame registers =>
    have phase := @phase_process _ service frame registers node
    simp only [Deed.after, Event.Answers, Event.Waits, Deed.reply?]
    cases reply : (node.process service frame registers).reply <;> simp [phase, reply]
  | receive service registers buffer =>
    have phase := phase_receive service { node, registers, buffer }
    simp only [Deed.after, Event.Answers, Event.Waits, Deed.reply?]
    cases came : (Station.receive service { node, registers, buffer }).1 with
    | incomplete =>
      by_cases empty : (Station.receive service { node, registers, buffer }).2.buffer = [] <;>
        simp [phase, came, empty, Received.reply?]
    | handled | reply bytes => simp [phase, came, Received.reply?]
  | recordFault error =>
    have phase : (Deed.after (.recordFault error) node).phase = .idle := rfl
    simp [phase, Event.Answers, Event.Waits, Deed.reply?]
  | replySent | recordDiscarded | readUnknown | openTunnel | readTunnel | writeTunnel | setId =>
    cases restarts

/-- A deed restarts the node, notes its reply as written, or does neither. -/
theorem Deed.sorts (deed : Deed) :
    (deed.restarts = true ∧ deed.endsSending = true) ∨ deed = .replySent ∨
      (deed.restarts = false ∧ deed.endsSending = false) := by
  cases deed with
  | process | receive | recordFault => exact .inl ⟨rfl, rfl⟩
  | replySent => exact .inr (.inl rfl)
  | recordDiscarded | readUnknown | openTunnel | readTunnel | writeTunnel | setId =>
    exact .inr (.inr ⟨rfl, rfl⟩)

/-- Noting a reply as written ends the sending and nothing else. -/
theorem phase_replySent :
    node.replySent.phase ≠ .sending ∧
      (node.replySent.phase = .accumulating ↔ node.phase = .accumulating) ∧
      (node.phase = .idle ∨ node.phase = .accumulating ∨ node.phase = .sending →
        node.replySent.phase = .idle ∨ node.replySent.phase = .accumulating) := by
  unfold replySent
  by_cases sending : node.phase = .sending
  · simp [sending]
  · simp [sending]

/-- All other deeds leave the phase alone. -/
theorem Deed.phase_after {deed : Deed} (other : deed.endsSending = false) :
    (deed.after node).phase = node.phase := by
  cases deed with
  | process | receive | recordFault | replySent => cases other
  | recordDiscarded | readUnknown | openTunnel | readTunnel | writeTunnel => rfl
  | setId id store =>
    rw [after]
    rcases setId_cases id store node with ⟨_, same⟩ | ⟨_, _, same⟩ <;> rw [same]

/-! ## A run -/

/-- The latest event of a run that has gone on by one event. -/
theorem latest_snoc (sort : Deed → Bool) (events : List Event) (event : Event) :
    latest sort (events ++ [event]) =
      if sort event.deed then some event else latest sort events := by
  rw [latest, List.reverse_append, List.reverse_singleton, List.singleton_append,
    List.find?_cons]
  cases sort event.deed <;> rfl

/-- A node has a reply to be written exactly when the latest deed of its run returned one, and waits
exactly when that was a look that left bytes in its buffer. -/
theorem Runs.phase_of_latest {options : NodeOptions} {config : NodeConfig}
    (runs : Runs (.ofConfig options config) events node) :
    (node.phase = .idle ∨ node.phase = .accumulating ∨ node.phase = .sending) ∧
      (node.phase = .sending ↔
        ∃ event, latest Deed.endsSending events = some event ∧ event.Answers) ∧
      (node.phase = .accumulating ↔
        ∃ event, latest Deed.restarts events = some event ∧ event.Waits) := by
  induction runs with
  | start =>
    have idle : (ofConfig options config).phase = .idle := rfl
    simp [idle, latest]
  | @deed events node runs deed ih =>
    obtain ⟨seen, sends, waits⟩ := ih
    rw [latest_snoc, latest_snoc]
    rcases deed.sorts with ⟨restarts, ends⟩ | rfl | ⟨restarts, ends⟩
    · -- The deed is the latest of both sorts, so what it returned decides.
      obtain ⟨answered, waiting, phases⟩ := @Deed.phase_of_restarts node deed restarts
      simp only [restarts, ends, if_true, Option.some.injEq, exists_eq_left']
      exact ⟨phases, answered, waiting⟩
    · obtain ⟨quiet, kept, phases⟩ := @phase_replySent node
      have ends : Deed.replySent.endsSending = true := rfl
      have restarts : Deed.replySent.restarts = false := rfl
      have silent : ¬(Event.mk node .replySent).Answers := nofun
      simp only [ends, restarts, if_true, Bool.false_eq_true, if_false, Option.some.injEq,
        exists_eq_left']
      refine ⟨?_, iff_of_false quiet silent, kept.trans waits⟩
      rcases phases seen with idle | waiting
      · exact .inl idle
      · exact .inr (.inl waiting)
    · simp only [Deed.phase_after ends, ends, restarts, Bool.false_eq_true, if_false]
      exact ⟨seen, sends, waits⟩

/-- A node that got the front of a frame goes on waiting while skipped bytes are recorded and no
reply is there to be noted as written. A poll of a tunnel then has it send the answer. -/
theorem Runs.phase_of_latest_of_poll :
    ∃ events node, Runs (.ofConfig {} .default) events node ∧
      (∃ event, latest Deed.restarts events = some event ∧ event.Waits) ∧
      ∃ event, latest Deed.endsSending (events ++ [⟨node, emptyPoll 1⟩]) = some event ∧
        event.Answers := by
  have fresh : Runs (.ofConfig {} .default) [] _ := .start
  have waiting := ((fresh.deed (.receive steadyService () [9, 0x54, 0xab, 2])).deed
    (.recordDiscarded [9])).deed .replySent
  have sending := waiting.deed (emptyPoll 1)
  refine ⟨_, _, waiting, ?_, ?_⟩
  · exact waiting.phase_of_latest.2.2.1 (by decide +kernel)
  · exact sending.phase_of_latest.2.1.1 (by decide +kernel)

end Multidrop.Node
