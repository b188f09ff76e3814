import Multidrop.Frame.Decoder
import Multidrop.Proofs.Frame.Decoder

/-!
# Items as a scan

A sequence of items gives a receiver the same as a scan of the bytes, however far apart the items
come: what is still to be seen (`Items.outlook`) is the queued item followed by a scan of the
buffer and the bytes to come, and an item that is yielded and handled leaves it as it is. At the
end of the line the bytes of an incomplete frame count as a gap (`Sink.conclude`).
-/
namespace Multidrop.Frame

variable {α : Type}

/-- Handle an item. -/
def Sink.take (sink : Sink α) (state : α) : Item → α
  | .frame received => sink.find (.frame received) state
  | .rejected error => sink.find (.fault error) state
  | .discarded bytes => sink.skip bytes state

/-- Take the bytes that a scan leaves for a gap. -/
def Sink.conclude (sink : Sink α) (scanned : α × List UInt8) : α := sink.skip scanned.2 scanned.1

/-- The item of an outcome is handled like the outcome. -/
theorem Sink.take_item {sink : Sink α} {state : α} {outcome : Outcome} {item : Item}
    (has : outcome.item = some item) : sink.take state item = sink.find outcome state := by
  cases outcome with
  | incomplete => cases has
  | frame received => cases has; rfl
  | fault error => cases has; rfl

/-- Only the need for more bytes is not an item. -/
theorem Outcome.item_eq_none {outcome : Outcome} : outcome.item = none ↔ outcome = .incomplete := by
  cases outcome <;> simp [Outcome.item]

/-- Where there is an item, something was found. -/
theorem Outcome.ne_incomplete {outcome : Outcome} {item : Item} (has : outcome.item = some item) :
    outcome ≠ .incomplete := by
  intro needs
  rw [item_eq_none.2 needs] at has
  cases has

namespace Items

/-- What a receiver ends up with after the queued item, the buffer and some bytes to come, and the
bytes that this leaves. -/
def outlook (sink : Sink α) (items : Items) (state : α) (more : List UInt8) : α × List UInt8 :=
  scan sink items.limit (items.queued.elim state (sink.take state)) (items.buffer ++ more)

variable (sink : Sink α) {items after : Items}

/-- Received bytes are no longer to come. -/
theorem outlook_feed (items : Items) (bytes more : List UInt8) (state : α) :
    (items.feed bytes).outlook sink state more = items.outlook sink state (bytes ++ more) := by
  rw [outlook, outlook, feed, List.append_assoc]

/-- A queued item, or one found in a pass, leaves the outlook as it is once it is handled. -/
theorem outlook_next {item : Item} (state : α) (more : List UInt8)
    (yielded : items.next = (some item, after)) :
    after.limit = items.limit ∧
      after.outlook sink (sink.take state item) more = items.outlook sink state more := by
  unfold next at yielded
  cases queue : items.queued with
  | some waiting =>
    rw [queue] at yielded
    cases yielded
    exact ⟨rfl, by rw [outlook, outlook, queue]; rfl⟩
  | none =>
    rw [queue] at yielded
    dsimp only at yielded
    by_cases solid : (pass items.limit items.buffer).skipped = []
    · rw [if_pos solid] at yielded
      obtain ⟨has, rfl⟩ := Prod.mk.inj yielded
      refine ⟨rfl, ?_⟩
      rw [outlook, outlook, queue, Option.elim_none, Option.elim_none,
        scan_of_found state more (Outcome.ne_incomplete has), solid, sink.skip_nil, Sink.take_item has]
    · rw [if_neg solid] at yielded
      obtain ⟨gap, rfl⟩ := Prod.mk.inj yielded
      cases gap
      refine ⟨rfl, ?_⟩
      rw [outlook, outlook, queue, Option.elim_none]
      cases has : (pass items.limit items.buffer).outcome.item with
      | none =>
        have needs := Outcome.item_eq_none.1 has
        rw [Option.elim_none, scan_append sink items.limit state,
          scan_of_incomplete state needs]
        rfl
      | some waiting =>
        rw [Option.elim_some, scan_of_found state more (Outcome.ne_incomplete has),
          Sink.take_item has]
        rfl

/-- Where no item is found, none is queued and the buffer needs more bytes. -/
theorem next_eq_none (none : items.next = (none, after)) :
    after = items ∧ items.queued = .none ∧
      ∀ state, scan sink items.limit state items.buffer = (state, items.buffer) := by
  unfold next at none
  cases queue : items.queued with
  | some waiting =>
    rw [queue] at none
    cases none
  | none =>
    rw [queue] at none
    dsimp only at none
    by_cases solid : (pass items.limit items.buffer).skipped = []
    · rw [if_pos solid] at none
      obtain ⟨has, rfl⟩ := Prod.mk.inj none
      have needs := Outcome.item_eq_none.1 has
      have rest : (pass items.limit items.buffer).rest = items.buffer := by
        have whole := splitGap_append items.buffer
        rw [pass_rest_of_incomplete needs]
        rw [show (splitGap items.buffer).1 = [] from solid, List.nil_append] at whole
        exact whole
      refine ⟨by rw [rest, ← queue], rfl, ?_⟩
      intro state
      rw [scan_of_incomplete state needs, solid, sink.skip_nil, rest]
    · rw [if_neg solid] at none
      cases none

/-- At the end of the line, an item leaves what the receiver ends up with as it is once it is
handled. -/
theorem conclude_nextAtEnd {item : Item} (state : α)
    (yielded : items.nextAtEnd = (some item, after)) :
    after.limit = items.limit ∧
      sink.conclude (after.outlook sink (sink.take state item) []) =
        sink.conclude (items.outlook sink state []) := by
  unfold nextAtEnd at yielded
  cases looked : items.next with
  | mk found between =>
    rw [looked] at yielded
    cases found with
    | some first =>
      cases yielded
      obtain ⟨limit, same⟩ := outlook_next sink state [] looked
      exact ⟨limit, by rw [same]⟩
    | none =>
      obtain ⟨rfl, queue, needs⟩ := next_eq_none sink looked
      dsimp only at yielded
      by_cases empty : between.buffer = []
      · rw [if_pos empty] at yielded
        cases yielded
      · rw [if_neg empty] at yielded
        cases yielded
        refine ⟨rfl, ?_⟩
        rw [outlook, outlook, queue, Option.elim_none, Option.elim_none, List.append_nil,
          List.append_nil, needs, scan_nil, Sink.conclude, Sink.conclude, sink.skip_nil]
        rfl

/-- At the end of the line, a receiver that finds no item has what it ends up with. -/
theorem conclude_nextAtEnd_none (state : α) (none : items.nextAtEnd = (none, after)) :
    sink.conclude (items.outlook sink state []) = state := by
  unfold nextAtEnd at none
  cases looked : items.next with
  | mk found between =>
    rw [looked] at none
    cases found with
    | some first => cases none
    | none =>
      obtain ⟨rfl, queue, _⟩ := next_eq_none sink looked
      dsimp only at none
      by_cases empty : between.buffer = []
      · rw [outlook, queue, Option.elim_none, List.append_nil, empty, scan_nil, Sink.conclude,
          sink.skip_nil]
      · rw [if_neg empty] at none
        cases none

end Items

end Multidrop.Frame
