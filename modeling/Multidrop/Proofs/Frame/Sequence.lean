import Multidrop.Proofs.Frame.Items
import Multidrop.Proofs.Frame.Stepwise

/-!
# Items and the calls behind them

A sequence of items is decoded from a buffer that grows between the calls (`Items.decode`). A call
that finds an item in the queue does not look at the buffer; any other decodes the buffer once,
hands out the skipped bytes first and keeps the find for the next call. The items that are handed
out, and the one in the queue, are those of the decoder calls that were made, in order
(`Items.follows_run`). Read as a transcript, with skipped bytes counted to the find behind them,
they say what decoding all bytes at once says, and at the end of the line nothing is missing but the
bytes of a frame that is not complete (`Items.items_of_steps`).
-/
namespace Multidrop.Frame

variable {α : Type} {limit : Nat} {buffer rest : List UInt8}

/-! ## Items of a call -/

/-- The items of a call: what it skips, and behind it what it finds. -/
def Call.items (call : Call) : List Item :=
  (if call.skipped = [] then [] else [.discarded call.skipped]) ++ call.outcome.item.toList

/-- A call that skips nothing has what it finds for its items. -/
theorem Call.items_of_solid {call : Call} (solid : call.skipped = []) :
    call.items = call.outcome.item.toList := by
  rw [items, if_pos solid, List.nil_append]

/-- A call that skips bytes has these for its first item. -/
theorem Call.items_of_gap {call : Call} (gap : call.skipped ≠ []) :
    call.items = .discarded call.skipped :: call.outcome.item.toList := by
  rw [items, if_neg gap, List.singleton_append]

/-- What items say of the bytes, where the bytes of a gap count to the find behind them. -/
def transcribe (items : List Item) : Transcript := items.foldl Transcript.sink.take {}

/-- What a receiver makes of the items of a call. -/
theorem Call.foldl_items (sink : Sink α) (state : α) (call : Call) :
    call.items.foldl sink.take state =
      call.outcome.item.elim (sink.skip call.skipped state)
        (sink.take (sink.skip call.skipped state)) := by
  by_cases solid : call.skipped = []
  · rw [items_of_solid solid, solid, sink.skip_nil]
    cases call.outcome.item <;> rfl
  · rw [items_of_gap solid]
    cases call.outcome.item <;> rfl

/-- A call has the items of the pass that it is. -/
theorem Decodes.items_eq {call : Call} (decodes : Decodes limit buffer call rest) :
    call.items = (pass limit buffer).call.items := by
  obtain ⟨skipped, outcome, _⟩ := decodes.eq_pass
  rw [Call.items, Call.items, skipped, outcome]
  rfl

/-- A scan goes on behind the items of a call. -/
theorem Decodes.scan_eq {call : Call} (decodes : Decodes limit buffer call rest) (sink : Sink α)
    (state : α) (more : List UInt8) :
    scan sink limit state (buffer ++ more) =
      scan sink limit (call.items.foldl sink.take state) (rest ++ more) := by
  obtain ⟨skipped, outcome, rfl⟩ := decodes.eq_pass
  rw [Call.foldl_items, skipped, outcome]
  cases has : (pass limit buffer).outcome.item with
  | none =>
    rw [scan_append, scan_of_incomplete state (Outcome.item_eq_none.1 has)]
    rfl
  | some item =>
    rw [scan_of_found state more (Outcome.ne_incomplete has), ← Sink.take_item has]
    rfl

/-- Calls that are made until more bytes are needed are a scan. -/
theorem Drains.scan_eq {calls : List Call} (drains : Drains limit buffer calls rest)
    (sink : Sink α) (state : α) :
    scan sink limit state buffer = ((calls.flatMap Call.items).foldl sink.take state, rest) := by
  induction drains generalizing state with
  | @last buffer rest call decodes needs =>
    obtain ⟨skipped, outcome, rfl⟩ := decodes.eq_pass
    have incomplete := Outcome.result_eq_none.1 needs
    rw [scan_of_incomplete state (outcome ▸ incomplete), List.flatMap_singleton, Call.foldl_items,
      incomplete, skipped]
    rfl
  | @more buffer between rest call calls decodes found later ih =>
    have first := decodes.scan_eq sink state []
    rw [List.append_nil, List.append_nil] at first
    rw [first, ih, List.flatMap_cons, List.foldl_append]

namespace Items

/-! ## Steps -/

/-- Hand out what one call has found, or first what it has skipped. -/
def handOut (items : Items) (discarded : List UInt8) (found : Option Item) : Option Item × Items :=
  if discarded = [] then (found, items)
  else (some (.discarded discarded), { items with queued := found })

/-- Decode the next item in place. Only what is no wire fault is an error. -/
def decode (items : Items) : Except Error (Option Item) × Items :=
  match items.queued with
  | some item => (.ok (some item), { items with queued := none })
  | none =>
    let (result, buffer, discarded) :=
      decodeWith items.limit (fun skipped discarded => discarded ++ skipped) items.buffer []
    let items := { items with buffer }
    match result with
    | .ok frame => (items.handOut discarded (frame.map .frame)).map .ok id
    | .error error =>
      if error.isWireFault then (items.handOut discarded (some (.rejected error))).map .ok id
      else (.error error, items)

/-- Decode the next item when nothing more will arrive. A partial frame is noise. -/
def decodeAtEnd (items : Items) : Except Error (Option Item) × Items :=
  match items.decode with
  | (.ok none, after) =>
    if after.buffer = [] then (.ok none, after)
    else (.ok (some (.discarded after.buffer)), { after with buffer := [] })
  | (answer, after) => (answer, after)

/-- What happens to a sequence of items. -/
inductive Step where
  /-- Bytes are received. -/
  | feed (bytes : List UInt8)
  /-- The next item is asked for. -/
  | decode
  deriving Repr, DecidableEq

/-- The bytes that a step brings. -/
def Step.bytes : Step → List UInt8
  | .feed bytes => bytes
  | .decode => []

/-- Take steps one after another. Returns the answers to those that ask. -/
def run : List Step → Items → List (Except Error (Option Item)) × Items
  | [], items => ([], items)
  | .feed bytes :: steps, items => run steps (items.feed bytes)
  | .decode :: steps, items =>
    let (answer, between) := items.decode
    let (answers, after) := run steps between
    (answer :: answers, after)

/-- The calls of a decoder that receives the same bytes and is called in some of the steps. -/
inductive Follows (limit : Nat) : List UInt8 → List Step → List Call → List UInt8 → Prop
  /-- No step is left. -/
  | done {buffer : List UInt8} : Follows limit buffer [] [] buffer
  /-- Bytes are received. -/
  | feed {buffer bytes rest : List UInt8} {steps : List Step} {calls : List Call}
      (later : Follows limit (buffer ++ bytes) steps calls rest) :
      Follows limit buffer (.feed bytes :: steps) calls rest
  /-- Nothing is decoded. -/
  | queued {buffer rest : List UInt8} {steps : List Step} {calls : List Call}
      (later : Follows limit buffer steps calls rest) :
      Follows limit buffer (.decode :: steps) calls rest
  /-- The buffer is decoded. -/
  | call {buffer between rest : List UInt8} {steps : List Step} {call : Call} {calls : List Call}
      (decodes : Decodes limit buffer call between)
      (later : Follows limit between steps calls rest) :
      Follows limit buffer (.decode :: steps) (call :: calls) rest

/-- Items are asked for at the end of the line until there is none. -/
inductive Ends : Items → List Item → Items → Prop
  /-- There is none. -/
  | done {items after : Items} (finished : items.decodeAtEnd = (.ok none, after)) :
      Ends items [] after
  /-- An item comes first. -/
  | more {items between after : Items} {item : Item} {others : List Item}
      (yielded : items.decodeAtEnd = (.ok (some item), between))
      (later : Ends between others after) : Ends items (item :: others) after

/-! ## One step -/

/-- Decoding in place is looking for the next item, and never an error. -/
theorem decode_eq (items : Items) : items.decode = (.ok items.next.1, items.next.2) := by
  unfold decode next
  cases items.queued with
  | some item => rfl
  | none =>
    dsimp only
    rw [decodeWith_eq, List.nil_append]
    have kept : (if (pass items.limit items.buffer).skipped = [] then []
        else (pass items.limit items.buffer).skipped) = (pass items.limit items.buffer).skipped :=
      ite_eq_right_iff.2 Eq.symm
    rw [kept]
    cases found : (pass items.limit items.buffer).outcome with
    | incomplete | frame =>
      simp only [Outcome.result, Outcome.item, handOut]
      split <;> rfl
    | fault error =>
      simp only [Outcome.result, Outcome.item, handOut, isWireFault_of_pass found, if_true]
      split <;> rfl

/-- So is decoding at the end of the line. -/
theorem decodeAtEnd_eq (items : Items) :
    items.decodeAtEnd = (.ok items.nextAtEnd.1, items.nextAtEnd.2) := by
  unfold decodeAtEnd nextAtEnd
  rw [decode_eq]
  cases items.next with
  | mk found after =>
    cases found with
    | some item => rfl
    | none =>
      dsimp only
      split <;> rfl

/-- Without an item in the queue, the buffer is decoded once, and the items of the call come out or
wait in the queue. -/
theorem next_of_empty {items : Items} (empty : items.queued = none) :
    items.next.1.toList ++ items.next.2.queued.toList = (pass items.limit items.buffer).call.items ∧
      items.next.2.buffer = (pass items.limit items.buffer).rest ∧
      items.next.2.limit = items.limit := by
  unfold next
  rw [empty]
  dsimp only
  by_cases solid : (pass items.limit items.buffer).skipped = []
  · rw [if_pos solid, Call.items_of_solid solid]
    exact ⟨List.append_nil _, rfl, rfl⟩
  · rw [if_neg solid, Call.items_of_gap solid]
    exact ⟨rfl, rfl, rfl⟩

/-! ## Runs -/

/-- Whatever is received in between, no answer is an error, and the items that come out or wait in
the queue are those that waited there before and those of the calls that were made. -/
theorem follows_run (steps : List Step) (items : Items) :
    ∃ (returned : List (Option Item)) (calls : List Call),
      (items.run steps).1 = returned.map .ok ∧
      Follows items.limit items.buffer steps calls (items.run steps).2.buffer ∧
      (items.run steps).2.limit = items.limit ∧
      returned.filterMap id ++ (items.run steps).2.queued.toList =
        items.queued.toList ++ calls.flatMap Call.items := by
  induction steps generalizing items with
  | nil => exact ⟨[], [], rfl, .done, rfl, (List.append_nil _).symm⟩
  | cons step steps ih =>
    cases step with
    | feed bytes =>
      obtain ⟨returned, calls, answers, follows, limit, same⟩ := ih (items.feed bytes)
      exact ⟨returned, calls, answers, .feed follows, limit, same⟩
    | decode =>
      obtain ⟨returned, calls, answers, follows, limit, same⟩ := ih items.next.2
      have first : items.run (.decode :: steps) =
          (.ok items.next.1 :: (items.next.2.run steps).1, (items.next.2.run steps).2) := by
        rw [run, decode_eq]
      rw [first]
      refine ⟨items.next.1 :: returned, ?_⟩
      have front : (items.next.1 :: returned).filterMap id =
          items.next.1.toList ++ returned.filterMap id := by
        cases items.next.1 <;> rfl
      rw [front, List.append_assoc, same, answers, ← List.append_assoc]
      cases queue : items.queued with
      | some item =>
        have taken : items.next = (some item, { items with queued := none }) := by
          rw [next, queue]
        rw [taken] at follows limit ⊢
        exact ⟨calls, rfl, .queued follows, limit, rfl⟩
      | none =>
        obtain ⟨found, left, kept⟩ := next_of_empty queue
        rw [left, kept] at follows
        rw [found]
        refine ⟨_ :: calls, rfl, .call (decodes_pass _ _) follows, limit.trans kept, ?_⟩
        rw [List.flatMap_cons]
        rfl

/-- A scan of everything that is received goes on behind the items of the calls. -/
theorem Follows.scan_eq {steps : List Step} {calls : List Call}
    (follows : Follows limit buffer steps calls rest) (sink : Sink α) (state : α) :
    scan sink limit state (buffer ++ steps.flatMap Step.bytes) =
      scan sink limit ((calls.flatMap Call.items).foldl sink.take state) rest := by
  induction follows generalizing state with
  | done => rw [List.flatMap_nil, List.append_nil]; rfl
  | feed _ ih => rw [List.flatMap_cons, ← List.append_assoc]; exact ih state
  | queued _ ih => exact ih state
  | call decodes _ ih =>
    rw [List.flatMap_cons, Step.bytes, List.nil_append, decodes.scan_eq, ih, List.flatMap_cons,
      List.foldl_append]

/-! ## The end of the line -/

/-- The items that are left at the end of the line: those of the calls that are still made, and the
bytes that no call takes. -/
def remaining (calls : List Call) (rest : List UInt8) : List Item :=
  calls.flatMap Call.items ++ if rest = [] then [] else [.discarded rest]

/-- At the end of the line, an item that is found comes out like before. -/
theorem Ends.of_next {items between after : Items} {item : Item} {others : List Item}
    (found : items.next = (some item, between)) (later : Ends between others after) :
    Ends items (item :: others) after := by
  refine .more ?_ later
  rw [decodeAtEnd_eq, nextAtEnd, found]

/-- The item in the queue comes out first. -/
theorem Ends.of_queued {items after : Items} {others : List Item}
    (later : Ends { items with queued := none } others after) :
    Ends items (items.queued.toList ++ others) after := by
  cases queue : items.queued with
  | some item =>
    refine .of_next ?_ later
    rw [next, queue]
  | none =>
    have same : { items with queued := none } = items := by rw [← queue]
    rwa [same] at later

/-- The items of a call come out before those of the bytes that it leaves. -/
theorem Ends.of_call {call : Call} {others : List Item} {after : Items}
    (decodes : Decodes limit buffer call rest)
    (later : Ends { limit, buffer := rest } others after) :
    Ends { limit, buffer } (call.items ++ others) after := by
  obtain ⟨skipped, outcome, rfl⟩ := decodes.eq_pass
  by_cases solid : call.skipped = []
  · rw [Call.items_of_solid solid, outcome]
    have looked : next { limit, buffer } =
        ((pass limit buffer).outcome.item, { limit, buffer := (pass limit buffer).rest }) :=
      if_pos (skipped ▸ solid)
    cases has : (pass limit buffer).outcome.item with
    | some item =>
      rw [has] at looked
      exact .of_next looked later
    | none =>
      rw [has] at looked
      obtain ⟨same, -⟩ := next_eq_none Transcript.sink looked
      rwa [same] at later
  · rw [Call.items_of_gap solid, outcome, skipped, List.cons_append]
    have looked : next { limit, buffer } =
        (some (.discarded (pass limit buffer).skipped),
          { limit
            queued := (pass limit buffer).outcome.item
            buffer := (pass limit buffer).rest }) :=
      if_neg (skipped ▸ solid)
    refine .of_next looked (@Ends.of_queued ⟨limit, (pass limit buffer).outcome.item, _⟩ _ _ later)

/-- What no call takes comes out as one last item of skipped bytes. -/
theorem ends_rest (needs : (pass limit buffer).outcome = .incomplete) :
    Ends { limit, buffer := (pass limit buffer).rest }
      (if (pass limit buffer).rest = [] then [] else [.discarded (pass limit buffer).rest])
      { limit } := by
  obtain ⟨solid, outcome, same⟩ := pass_again needs
  have nothing : next { limit, buffer := (pass limit buffer).rest } =
      (none, { limit, buffer := (pass limit buffer).rest }) := by
    rw [next]
    dsimp only
    rw [if_pos solid, outcome, same]
    rfl
  by_cases empty : (pass limit buffer).rest = []
  · rw [if_pos empty]
    refine .done ?_
    rw [decodeAtEnd_eq, nextAtEnd, nothing, empty]
    rfl
  · rw [if_neg empty]
    have last : nextAtEnd { limit, buffer := (pass limit buffer).rest } =
        (some (.discarded (pass limit buffer).rest), { limit }) := by
      rw [nextAtEnd, nothing]
      exact if_neg empty
    have nothing : decodeAtEnd { limit } = (.ok none, { limit }) := by
      rw [decodeAtEnd_eq]
      rfl
    refine .more ?_ (.done nothing)
    rw [decodeAtEnd_eq, last]

/-- Asking at the end of the line comes to an end, and yields the items of the calls that are still
to be made and then what they leave. -/
theorem ends_of_drains {calls : List Call} (drains : Drains limit buffer calls rest) :
    Ends { limit, buffer } (remaining calls rest) { limit } := by
  induction drains with
  | @last buffer rest call decodes needs =>
    obtain ⟨_, outcome, left⟩ := decodes.eq_pass
    have final := ends_rest (outcome ▸ Outcome.result_eq_none.1 needs)
    rw [← left] at final
    have whole := Ends.of_call decodes final
    rwa [← List.flatMap_singleton Call.items call] at whole
  | more decodes found later ih =>
    have whole := Ends.of_call decodes ih
    rwa [remaining, ← List.append_assoc, ← List.flatMap_cons] at whole

/-- Where no item is found, none is left but the bytes that no call takes. -/
theorem items_of_drains {items : Items} {calls : List Call} (finished : items.decode.1 = .ok none)
    (drains : Drains items.limit items.buffer calls rest) :
    items.queued = none ∧ calls.flatMap Call.items = [] ∧ rest = items.buffer := by
  rw [decode_eq, Except.ok.injEq] at finished
  have looked : items.next = (none, items.next.2) := by rw [← finished]
  obtain ⟨same, empty, _⟩ := next_eq_none Transcript.sink looked
  obtain ⟨found, left, _⟩ := next_of_empty empty
  rw [same] at found left
  rw [finished, empty] at found
  have solid : (pass items.limit items.buffer).call.items = [] := found.symm
  cases drains with
  | last decodes needs =>
    rw [List.flatMap_singleton, decodes.items_eq]
    exact ⟨empty, solid, decodes.eq_pass.2.2.trans left.symm⟩
  | more decodes something _ =>
    obtain ⟨_, outcome, _⟩ := decodes.eq_pass
    have none := (List.append_eq_nil_iff.1 solid).2
    rw [Option.toList_eq_nil_iff, Outcome.item_eq_none] at none
    exact absurd (Outcome.result_eq_none.2 (outcome.trans none)) something

/-- However receiving bytes and asking for items alternate, the items that come out are those of one
decoder over all the bytes, and the end of the line yields what is left. -/
theorem items_of_steps (limit : Nat) (buffer : List UInt8) (steps : List Step) :
    let items : Items := { limit, buffer }
    let after := (items.run steps).2
    ∃ (returned : List (Option Item)) (calls all later : List Call) (rest : List UInt8),
      (items.run steps).1 = returned.map .ok ∧
      Follows limit buffer steps calls after.buffer ∧
      returned.filterMap id ++ after.queued.toList = calls.flatMap Call.items ∧
      Drains limit (buffer ++ steps.flatMap Step.bytes) all rest ∧
      Drains limit after.buffer later rest ∧
      transcribe (calls.flatMap Call.items ++ later.flatMap Call.items) =
        transcribe (all.flatMap Call.items) ∧
      (after.decode.1 = .ok none →
        after.queued = none ∧ later.flatMap Call.items = [] ∧ rest = after.buffer) ∧
      Ends after (after.queued.toList ++ remaining later rest) { limit } := by
  intro items after
  obtain ⟨returned, calls, answers, follows, same, found⟩ := items.follows_run steps
  obtain ⟨all, rest, whole, -, -⟩ := exists_drains limit (buffer ++ steps.flatMap Step.bytes)
  obtain ⟨later, left, drains, -, -⟩ := exists_drains limit after.buffer
  -- Both ways of decoding give a receiver the same, and leave the same bytes.
  have scanned := whole.scan_eq Transcript.sink {}
  rw [follows.scan_eq, show items.limit = limit from rfl, drains.scan_eq, ← List.foldl_append,
    Prod.mk.injEq] at scanned
  obtain ⟨transcripts, rfl⟩ := scanned
  refine ⟨returned, calls, all, later, left, answers, follows, found, whole, drains, transcripts,
    fun finished => items_of_drains finished (same ▸ drains), ?_⟩
  refine Ends.of_queued ?_
  rw [show after.limit = limit from same]
  exact ends_of_drains drains

/-- A frame that waits in the queue while the first byte of a header is received comes out at the
end of the line, and then that byte. -/
theorem items_of_steps_of_queued :
    let frame : Frame := { source := 1, destination := 2, payload := [0x30] }
    ∃ bytes, frame.encode = .ok bytes ∧
      let items : Items := { limit := 1, buffer := 0 :: bytes }
      let steps := [Step.decode, .feed [headerFirst]]
      (items.run steps).1 = [.ok (some (.discarded [0]))] ∧
        Ends (items.run steps).2 [.frame frame, .discarded [headerFirst]] { limit := 1 } := by
  intro frame
  have written : frame.encode = .ok (withChecksum frame.body) :=
    encode_eq_ok.2 ⟨by decide, by decide, rfl⟩
  refine ⟨_, written, ?_⟩
  intro items steps
  have looked : items.next =
      (some (.discarded [0]), { limit := 1, queued := some (.frame frame) }) := by
    have headless : Headless [0] := by decide
    have gap := pass_of_headless headless written (by decide : _ ≤ 1) []
    rw [List.append_nil] at gap
    have passed : pass items.limit items.buffer = _ := gap
    rw [next]
    dsimp only
    rw [passed]
    rfl
  have ran : items.run steps = ([.ok (some (.discarded [0]))],
      { limit := 1, queued := some (.frame frame), buffer := [headerFirst] }) := by
    rw [run, decode_eq, looked]
    rfl
  obtain ⟨_, _, _, later, rest, _, _, _, _, drains, _, _, ends⟩ :=
    items_of_steps 1 items.buffer steps
  rw [show run steps { limit := 1, buffer := items.buffer } = _ from ran] at drains ends
  obtain ⟨_, none, rfl⟩ :=
    @items_of_drains _ { limit := 1, buffer := [headerFirst] } _ rfl drains
  rw [remaining, none] at ends
  rw [ran]
  exact ⟨rfl, ends⟩

end Items

end Multidrop.Frame
