import Multidrop.Proofs.Master.Calls

/-!
# Runs of a master

A run is any sequence of calls of one master, with anything happening on the line in between that a
given relation allows (`Master.Runs`). Each call is kept with the master it was made of, so what it
returned and what it left behind can be told. A run can be cut at any call (`Runs.split`).
-/
namespace Multidrop

/-- What a list with an element at its end can be split into around some element. -/
theorem snoc_eq_append_cons {α : Type} {front earlier later : List α} {last middle : α}
    (same : front ++ [last] = earlier ++ middle :: later) :
    (later = [] ∧ earlier = front ∧ middle = last) ∨
      ∃ between, later = between ++ [last] ∧ front = earlier ++ middle :: between := by
  rcases later.eq_nil_or_concat with rfl | ⟨between, element, rfl⟩
  · obtain ⟨fronts, lasts⟩ := List.append_inj' same rfl
    exact .inl ⟨rfl, fronts.symm, (List.singleton_inj.1 lasts).symm⟩
  · rw [List.concat_eq_append, ← List.cons_append, ← List.append_assoc] at same
    obtain ⟨fronts, lasts⟩ := List.append_inj' same rfl
    cases lasts
    exact .inr ⟨between, List.concat_eq_append, fronts⟩

namespace Master

variable {π : Type}

/-- A call of a master. -/
inductive Deed where
  /-- Send a request. -/
  | send (destination : UInt8) (payload : List UInt8) (responseRequested : Bool)
  /-- Wait for the reply. -/
  | receive
  /-- Give up on the reply. -/
  | cancel

/-- What a call returns. -/
inductive Returned where
  | sent (result : Except MasterError Unit)
  | received (result : Except MasterError Frame)
  | cancelled

variable [Peer π]

/-- Make a call. -/
def perform (deed : Deed) (master : Master π) : Returned × Master π :=
  match deed with
  | .send destination payload responseRequested =>
    let (result, after) := master.send destination payload responseRequested
    (.sent result, after)
  | .receive =>
    let (result, after) := master.receive
    (.received result, after)
  | .cancel => (.cancelled, master.cancel)

/-- A call that was made. -/
structure Event (π : Type) where
  /-- The master it was made of. -/
  before : Master π
  /-- The call. -/
  deed : Deed

/-- What the call returned. -/
def Event.returned (event : Event π) : Returned := (event.before.perform event.deed).1

/-- The master that the call left. -/
def Event.after (event : Event π) : Master π := (event.before.perform event.deed).2

section Events

variable {event : Event π} {destination : UInt8} {payload : List UInt8} {responseRequested : Bool}

/-- The master that a call to send a request left. -/
theorem Event.after_of_send (sent : event.deed = .send destination payload responseRequested) :
    event.after = (event.before.send destination payload responseRequested).2 := by
  rw [after, sent]
  rfl

/-- What a call to send a request returned. -/
theorem Event.returned_of_send (sent : event.deed = .send destination payload responseRequested) :
    event.returned = .sent (event.before.send destination payload responseRequested).1 := by
  rw [returned, sent]
  rfl

/-- The master that a wait left. -/
theorem Event.after_of_receive (waited : event.deed = .receive) :
    event.after = event.before.receive.2 := by
  rw [after, waited]
  rfl

/-- What a wait returned. -/
theorem Event.returned_of_receive (waited : event.deed = .receive) :
    event.returned = .received event.before.receive.1 := by
  rw [returned, waited]
  rfl

/-- The master that giving up left. -/
theorem Event.after_of_cancel (gave : event.deed = .cancel) :
    event.after = event.before.cancel := by
  rw [after, gave]
  rfl

end Events

/-- The calls made of a master one after another, and the master they lead to. In between the line
may change as a relation allows. -/
inductive Runs (changes : Line π → Line π → Prop) (start : Master π) :
    List (Event π) → Master π → Prop
  /-- No call has been made. -/
  | start : Runs changes start [] start
  /-- A call is made. -/
  | call {events : List (Event π)} {master : Master π} (runs : Runs changes start events master)
      (deed : Deed) : Runs changes start (events ++ [⟨master, deed⟩]) (master.perform deed).2
  /-- The line changes. -/
  | meanwhile {events : List (Event π)} {master : Master π} {line : Line π}
      (runs : Runs changes start events master) (change : changes master.reader.line line) :
      Runs changes start events { master with reader := { master.reader with line } }

variable {changes : Line π → Line π → Prop} {start master : Master π} {events : List (Event π)}

/-- A run up to a call, and the run that goes on after it. -/
theorem Runs.split {earlier later : List (Event π)} {event : Event π}
    (runs : Runs changes start (earlier ++ event :: later) master) :
    Runs changes start earlier event.before ∧ Runs changes event.after later master := by
  generalize whole : earlier ++ event :: later = events at runs
  induction runs generalizing later with
  | start => simp at whole
  | call runs deed ih =>
    rcases snoc_eq_append_cons whole.symm with ⟨rfl, rfl, rfl⟩ | ⟨between, rfl, front⟩
    · exact ⟨runs, .start⟩
    · obtain ⟨before, after⟩ := ih front.symm
      exact ⟨before, after.call deed⟩
  | meanwhile runs change ih =>
    obtain ⟨before, after⟩ := ih whole
    exact ⟨before, after.meanwhile change⟩

/-! ## What no call changes -/

/-- Limits that no call changes. -/
def SameLimits (master after : Master π) : Prop :=
  after.options = master.options ∧ after.reader.limit = master.reader.limit

omit [Peer π] in
/-- Writing a request keeps the limits. -/
theorem Posts.sameLimits {frame : Frame} {result : Except MasterError Unit × Master π}
    (posts : Posts frame master result) : master.SameLimits result.2 := by
  cases posts <;> exact ⟨rfl, rfl⟩

omit [Peer π] in
/-- Sending keeps the limits. -/
theorem Sends.sameLimits {destination : UInt8} {payload : List UInt8} {responseRequested : Bool}
    {result : Except MasterError Unit × Master π}
    (sends : Sends destination payload responseRequested master result) :
    master.SameLimits result.2 := by
  cases sends with
  | outstanding | refused => exact ⟨rfl, rfl⟩
  | broken _ _ _ freshens =>
    obtain ⟨_, _, reads⟩ := freshens.reads
    exact ⟨rfl, reads.limit⟩
  | freshened _ _ _ freshens _ posts =>
    obtain ⟨_, _, reads⟩ := freshens.reads
    exact ⟨posts.sameLimits.1, posts.sameLimits.2.trans reads.limit⟩
  | posted _ _ _ posts => exact posts.sameLimits

omit [Peer π] in
/-- Waiting keeps the limits. -/
theorem Awaits.sameLimits {pending : Pending} {result : Except MasterError Frame × Master π}
    (awaits : Awaits pending master result) : master.SameLimits result.2 := by
  obtain ⟨_, _, reads⟩ := awaits.reads
  refine ⟨?_, reads.limit⟩
  cases awaits <;> rfl

/-- A call keeps the limits. -/
theorem sameLimits_perform (deed : Deed) (master : Master π) :
    master.SameLimits (master.perform deed).2 := by
  cases deed with
  | send destination payload responseRequested =>
    exact (sends_send destination payload responseRequested master).sameLimits
  | receive =>
    show master.SameLimits master.receive.2
    cases busy : master.pending with
    | none =>
      rw [receive_of_free busy]
      exact ⟨rfl, rfl⟩
    | some pending =>
      rw [receive_of_pending busy]
      exact (awaits_await pending master).sameLimits
  | cancel =>
    show master.SameLimits master.cancel
    unfold cancel
    split <;> exact ⟨rfl, rfl⟩

/-- A run keeps the limits. -/
theorem Runs.sameLimits (runs : Runs changes start events master) : start.SameLimits master := by
  induction runs with
  | start => exact ⟨rfl, rfl⟩
  | @call _ master _ deed ih =>
    have step := master.sameLimits_perform deed
    exact ⟨step.1.trans ih.1, step.2.trans ih.2⟩
  | meanwhile _ _ ih => exact ih

/-! ## What is awaited -/

/-- A request that asked for a reply was sent to a node. -/
def Event.Asks (event : Event π) (destination : UInt8) : Prop :=
  ∃ payload, event.deed = .send destination payload true ∧ event.returned = .sent (.ok ())

/-- The call ends any wait for a reply. -/
def Event.Settles (event : Event π) : Prop := event.deed = .receive ∨ event.deed = .cancel

/-- The last request that asked for a reply went to a node, and neither a wait nor giving up has
followed it. -/
def Awaited (events : List (Event π)) (destination : UInt8) : Prop :=
  ∃ earlier asked later, events = earlier ++ asked :: later ∧ asked.Asks destination ∧
    ∀ event ∈ later, ¬event.Settles ∧ ∀ other, ¬event.Asks other

variable {event : Event π} {destination other : UInt8}

/-- A request that has just been sent is awaited. -/
theorem awaited_of_asks (asks : event.Asks destination) :
    Awaited (events ++ [event]) destination :=
  ⟨events, event, [], rfl, asks, nofun⟩

/-- Only one node's reply is awaited. -/
theorem eq_of_awaited (asks : event.Asks destination) (awaited : Awaited (events ++ [event]) other) :
    other = destination := by
  obtain ⟨earlier, asked, later, whole, asked, quiet⟩ := awaited
  rcases snoc_eq_append_cons whole with ⟨rfl, rfl, rfl⟩ | ⟨between, rfl, _⟩
  · obtain ⟨_, one, _⟩ := asks
    obtain ⟨_, two, _⟩ := asked
    rw [one] at two
    cases two
    rfl
  · exact absurd asks ((quiet event List.mem_concat_self).2 destination)

/-- After a wait or after giving up, no reply is awaited. -/
theorem not_awaited_of_settles (settles : event.Settles) :
    ¬Awaited (events ++ [event]) destination := by
  rintro ⟨earlier, asked, later, whole, asks, quiet⟩
  rcases snoc_eq_append_cons whole with ⟨rfl, rfl, rfl⟩ | ⟨between, rfl, _⟩
  · obtain ⟨_, sent, _⟩ := asks
    rcases settles with same | same <;> rw [sent] at same <;> cases same
  · exact (quiet event List.mem_concat_self).1 settles

/-- Other calls change nothing about what is awaited. -/
theorem awaited_snoc_iff (calm : ¬event.Settles) (silent : ∀ other, ¬event.Asks other) :
    Awaited (events ++ [event]) destination ↔ Awaited events destination := by
  constructor
  · rintro ⟨earlier, asked, later, whole, asks, quiet⟩
    rcases snoc_eq_append_cons whole with ⟨rfl, rfl, rfl⟩ | ⟨between, rfl, front⟩
    · exact absurd asks (silent destination)
    · exact ⟨earlier, asked, between, front, asks,
        fun event there => quiet event (List.mem_append_left _ there)⟩
  · rintro ⟨earlier, asked, later, rfl, asks, quiet⟩
    refine ⟨earlier, asked, later ++ [event], by simp, asks, fun one there => ?_⟩
    rcases List.mem_append.1 there with before | last
    · exact quiet one before
    · rw [List.mem_singleton.1 last]
      exact ⟨calm, silent⟩

end Master

end Multidrop
