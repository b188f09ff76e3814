import Multidrop.Proofs.Frame.Items
import Multidrop.Proofs.Line.Delivery

/-!
# Duplex streams over a line that delivers

A stream over a line that delivers bytes yields items until it has yielded all that the bytes hold,
the bytes of an incomplete frame included, and then ends. Every item that is yielded and handled
leaves what the receiver ends up with as it is (`Proceeds`), so it does not matter how the line cuts
the bytes. Sending does not disturb this.
-/
namespace Multidrop.Frame.Duplex

variable {α : Type}

/-- A stream in working order over a line that still delivers some bytes. -/
structure Flows (duplex : Duplex Script) (bytes : List UInt8) : Prop where
  /-- The line delivers the bytes. -/
  carries : duplex.line.Carries (fun _ => false) bytes
  /-- No read has failed. -/
  failed : duplex.failed = false
  /-- Nothing waits to be sent. -/
  unsent : duplex.unsent = []
  /-- After the end of the line no bytes are to come, but items may be. -/
  ended : duplex.ended = true → duplex.readable = true ∧ bytes = []

/-- What looking for an item comes to: an item that leaves what the receiver ends up with as it is,
or the end, where the receiver has what it ends up with. -/
inductive Proceeds (sink : Sink α) (state : α) (duplex : Duplex Script) (bytes : List UInt8) :
    Polled × Duplex Script → Prop
  /-- An item is yielded. -/
  | item {item : Item} {after : Duplex Script} {later : List UInt8} (flows : after.Flows later)
      (written : after.line.written = duplex.line.written)
      (limit : after.items.limit = duplex.items.limit)
      (same : sink.conclude (after.items.outlook sink (sink.take state item) later) =
        sink.conclude (duplex.items.outlook sink state bytes)) :
      Proceeds sink state duplex bytes (.item item, after)
  /-- The stream ends. -/
  | ended {after : Duplex Script} (written : after.line.written = duplex.line.written)
      (complete : sink.conclude (duplex.items.outlook sink state bytes) = state) :
      Proceeds sink state duplex bytes (.ended, after)

variable (sink : Sink α) {duplex : Duplex Script} {bytes : List UInt8}

/-- A stream that has only moved bytes from the line to its buffer proceeds like before. -/
theorem Proceeds.of_moved {sink : Sink α} {between : Duplex Script} {later : List UInt8} {state : α}
    {result : Polled × Duplex Script} (proceeds : Proceeds sink state between later result)
    (written : between.line.written = duplex.line.written)
    (limit : between.items.limit = duplex.items.limit)
    (same : between.items.outlook sink state later = duplex.items.outlook sink state bytes) :
    Proceeds sink state duplex bytes result := by
  cases proceeds with
  | item flows sent kept outlook =>
    exact .item flows (sent.trans written) (kept.trans limit) (by rw [outlook, same])
  | ended sent complete => exact .ended (sent.trans written) (by rw [← same, complete])

/-- After the end of the line, the bytes that are left are items. -/
theorem proceeds_drain (state : α) (flows : duplex.Flows []) :
    Proceeds sink state duplex [] duplex.drain := by
  unfold drain
  cases looked : duplex.items.nextAtEnd with
  | mk found items =>
    cases found with
    | none => exact .ended rfl (Items.conclude_nextAtEnd_none sink state looked)
    | some item =>
      obtain ⟨limit, same⟩ := Items.conclude_nextAtEnd sink state looked
      exact .item ⟨flows.carries, flows.failed, flows.unsent, flows.ended⟩ rfl limit same

/-- Reading goes on until there is an item or the line ends. -/
theorem proceeds_receive (state : α) (flows : duplex.Flows bytes) (going : duplex.ended = false) :
    Proceeds sink state duplex bytes duplex.receive := by
  have offers := flows.carries.offers
  have unended : ∀ {proposition : Prop}, false = true → proposition := fun impossible =>
    absurd impossible Bool.false_ne_true
  fun_induction receive duplex generalizing bytes with
  | case1 duplex line ready =>
    rw [ready] at offers
    cases offers
  | case2 duplex kind line ready =>
    rw [ready] at offers
    cases offers
  | case3 duplex line ready again =>
    rw [going] at again
    cases again
  | case4 duplex line ready again =>
    rw [ready] at offers
    cases offers with
    | closed =>
      have last : Flows { duplex with ended := true, readable := true } [] :=
        ⟨flows.carries, flows.failed, flows.unsent, fun _ => ⟨rfl, rfl⟩⟩
      exact (proceeds_drain sink state last).of_moved rfl rfl rfl
  | case5 duplex byte more line ready less shorter receiving item items =>
    rename_i found
    rw [ready] at offers
    cases offers with
    | @piece _ _ later _ carries written =>
      obtain ⟨limit, outlook⟩ := Items.outlook_next sink state later found
      rw [Items.outlook_feed] at outlook
      exact .item ⟨carries, flows.failed, flows.unsent, unended⟩ written limit (by rw [outlook])
  | case6 duplex byte more line ready less shorter receiving items found =>
    rename_i ih
    rw [ready] at offers
    cases offers with
    | @piece _ _ later _ carries written =>
      obtain ⟨rfl, _⟩ := Items.next_eq_none sink found
      have outlook := Items.outlook_feed sink duplex.items (byte :: more) later state
      have goes := ih ⟨carries, flows.failed, flows.unsent, unended⟩ rfl carries.offers
      exact goes.of_moved written rfl outlook

/-- A stream over a line that delivers bytes proceeds. -/
theorem proceeds_next (state : α) (flows : duplex.Flows bytes) :
    Proceeds sink state duplex bytes duplex.next := by
  unfold next
  rw [if_neg (Bool.eq_false_iff.1 flows.failed)]
  by_cases readable : duplex.readable = true
  · rw [if_pos readable]
    by_cases ended : duplex.ended = true
    · rw [if_pos ended]
      obtain ⟨_, rfl⟩ := flows.ended ended
      exact proceeds_drain sink state flows
    · rw [if_neg ended]
      cases looked : duplex.items.next with
      | mk found items =>
        cases found with
        | some item =>
          obtain ⟨limit, same⟩ := Items.outlook_next sink state bytes looked
          exact .item ⟨flows.carries, flows.failed, flows.unsent, flows.ended⟩ rfl limit
            (by rw [same])
        | none =>
          obtain ⟨rfl, _⟩ := Items.next_eq_none sink looked
          have reading : Flows { duplex with readable := false } bytes :=
            ⟨flows.carries, flows.failed, flows.unsent, fun still => absurd still ended⟩
          have going : duplex.ended = false := Bool.eq_false_iff.2 ended
          exact (proceeds_receive sink state reading going).of_moved rfl rfl rfl
  · rw [if_neg readable]
    apply proceeds_receive sink state flows
    rw [Bool.eq_false_iff]
    intro ended
    exact readable (flows.ended ended).1

/-- Sending over a stream in working order succeeds and disturbs nothing. -/
theorem flows_sendRaw (flows : duplex.Flows bytes) (reply : List UInt8) :
    ∃ after, duplex.sendRaw reply = (.ok (), after) ∧ after.Flows bytes ∧
      after.items = duplex.items ∧ after.line.written = duplex.line.written ++ reply := by
  obtain ⟨line, offered, sent⟩ := Line.sent_offer (fun _ => false) flows.carries.willing reply
  have flushed := sent.flushed
  refine ⟨{ duplex with line := { line with flushes := line.flushes + 1 }, unsent := [] }, ?_,
    ⟨flushed.carries flows.carries, flows.failed, rfl, flows.ended⟩, rfl, flushed.written⟩
  have short : ¬Line.chunkSize ≤ duplex.unsent.length := by
    rw [flows.unsent]
    decide
  unfold sendRaw makeRoom
  rw [if_neg short]
  simp only [flush, flows.unsent, List.nil_append, offered, Line.flush_of_willing sent.willing]

end Multidrop.Frame.Duplex
