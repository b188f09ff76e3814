import Multidrop.Basic
import Multidrop.Proofs.Reply.Limit

/-!
# Replies that leave something out

Whatever a reply has no room for, what it says stays true: its items are some of the items added to
it, in order (`Writer.Follows`), and all of them if nothing is counted as left out. The receiver
reads exactly these items off a payload that a frame can carry (`Writer.parse_of_follows`). The
first item is not left out if there is room for it at all (`Writer.parse_of_refused`).
-/
namespace Multidrop.Reply

/-- The items of subframes come before those of the subframes behind them. -/
theorem gather_append {front back : List Subframe} {items more : List Item}
    (first : gather front = .ok items) (others : gather back = .ok more) :
    gather (front ++ back) = .ok (items ++ more) := by
  induction front generalizing items with
  | nil =>
    cases first
    exact others
  | cons subframe rest ih =>
    rw [gather] at first
    cases has : itemsOf subframe with
    | none =>
      rw [has] at first
      cases first
    | some own =>
      rw [has] at first
      obtain ⟨between, later, same⟩ := bind_eq_ok.1 first
      cases same
      rw [List.cons_append, gather_cons has (ih later), List.append_assoc]

namespace Writer

/-- The items of the pending run. -/
def pending (writer : Writer) : List Item := writer.run.elim [] Run.items

/-- A writer that comes from another one by adding items, some of which may be left out. -/
structure Follows (before : Writer) (items : List Item) (after : Writer) : Prop where
  /-- What is written more says some of the items, in order, and all of them if nothing is left
  out. -/
  written : ∃ subframes kept, after.payload = before.payload ++ subframes.flatMap Subframe.encode ∧
    gather subframes = .ok kept ∧
    (∀ subframe ∈ subframes, subframe.size < Word.bound 32 → subframe.Fits) ∧
    (kept ++ after.pending).Sublist (before.pending ++ items) ∧
    (after.omitted = before.omitted → kept ++ after.pending = before.pending ++ items)
  /-- What was left out stays so. -/
  counted : before.omitted ≤ after.omitted
  /-- The pending run is proper. -/
  proper : ∀ run ∈ after.run, run.Proper

variable {writer before between after : Writer} {items more : List Item}

/-- A writer that leaves nothing out and writes nothing more has the items in its run. -/
theorem Follows.of_pending (payload : after.payload = before.payload)
    (all : after.pending = before.pending ++ items) (same : after.omitted = before.omitted)
    (proper : ∀ run ∈ after.run, run.Proper) : before.Follows items after := by
  refine ⟨⟨[], [], ?_, rfl, nofun, ?_, fun _ => all⟩, Nat.le_of_eq same.symm, proper⟩
  · rw [payload, List.flatMap_nil, List.append_nil]
  · simp only [List.nil_append, all, List.Sublist.refl]

/-- A writer follows itself. -/
theorem Follows.refl (proper : ∀ run ∈ writer.run, run.Proper) : writer.Follows [] writer :=
  .of_pending rfl (List.append_nil _).symm rfl proper

/-- Items that are added later come behind those that were added before. -/
theorem Follows.trans (first : before.Follows items between) (last : between.Follows more after) :
    before.Follows (items ++ more) after := by
  obtain ⟨⟨front, earlier, payload, gathered, fit, some, all⟩, counted, _⟩ := first
  obtain ⟨⟨back, later, payload', gathered', fit', some', all'⟩, counted', proper⟩ := last
  refine ⟨⟨front ++ back, earlier ++ later, ?_, gather_append gathered gathered', ?_, ?_,
    fun same => ?_⟩, Nat.le_trans counted counted', proper⟩
  · rw [payload', payload, List.flatMap_append, List.append_assoc]
  · intro subframe there
    rcases List.mem_append.1 there with inFront | inBack
    · exact fit subframe inFront
    · exact fit' subframe inBack
  · have tail := some'.append_left earlier
    have head := some.append_right more
    rw [List.append_assoc] at head ⊢
    rw [List.append_assoc] at head
    exact tail.trans head
  · rw [List.append_assoc, all' (by omega), ← List.append_assoc, all (by omega), List.append_assoc]

/-- A subframe that is written where no run is pending adds its items, or none. -/
theorem Follows.append {subframe : Subframe} (cleared : writer.run = none)
    (has : itemsOf subframe = some items)
    (fits : subframe.size < Word.bound 32 → subframe.Fits) :
    writer.Follows items (writer.append subframe) := by
  have nothing : writer.pending = [] := by
    rw [pending, cleared]
    rfl
  rcases append_cases subframe writer with ⟨_, same⟩ | ⟨_, same⟩
  · rw [same]
    refine ⟨⟨[], [], ?_, rfl, nofun, ?_, fun full => ?_⟩, Nat.le_succ _, ?_⟩
    · rw [List.flatMap_nil, List.append_nil]
    · show writer.pending.Sublist _
      rw [nothing]
      exact List.nil_sublist _
    · exact absurd full (Nat.succ_ne_self _)
    · rw [cleared]
      exact nofun
  · rw [same]
    refine ⟨⟨[subframe], items, ?_, gather_singleton has, ?_, ?_, fun _ => ?_⟩, Nat.le_refl _, ?_⟩
    · rw [List.flatMap_singleton]
    · intro other there
      rw [List.mem_singleton.1 there]
      exact fits
    · show (items ++ writer.pending).Sublist _
      simp only [nothing, List.append_nil, List.nil_append, List.Sublist.refl]
    · show items ++ writer.pending = _
      rw [nothing, List.append_nil, List.nil_append]
    · rw [cleared]
      exact nofun

/-- Writing the run adds nothing. -/
theorem Follows.flush (proper : ∀ run ∈ writer.run, run.Proper) :
    writer.Follows [] writer.flush := by
  unfold Writer.flush
  cases waiting : writer.run with
  | none =>
    rw [waiting] at proper
    exact .refl (waiting ▸ proper)
  | some run =>
    have whole := proper run waiting
    have cleared : ({ writer with run := none } : Writer).run = none := rfl
    obtain ⟨written, counted, proper⟩ :=
      Follows.append cleared run.itemsOf_subframe whole.fits_subframe
    refine ⟨?_, counted, proper⟩
    have own : writer.pending = run.items := by
      rw [pending, waiting]
      rfl
    rw [own, List.append_nil]
    exact written

/-- A value begins a run where none is pending. -/
theorem Follows.begin (cleared : writer.run = none) (register : Register) (value : Value) :
    writer.Follows [.value register value]
      { writer with run := some (.ofValue register value) } := by
  have alone : ({ writer with run := some (.ofValue register value) } : Writer).pending =
      [.value register value] := by
    simp [pending, Run.items, Run.ofValue, valueItems]
  have nothing : writer.pending = [] := by
    rw [pending, cleared]
    rfl
  refine .of_pending rfl ?_ rfl ?_
  · rw [alone, nothing, List.nil_append]
  · intro other there
    cases there
    exact Run.proper_ofValue register value

/-- No run is pending once it is written. -/
theorem run_flush (writer : Writer) : writer.flush.run = none := by
  unfold Writer.flush
  cases waiting : writer.run with
  | none => exact waiting
  | some run =>
    dsimp only
    rcases append_cases run.subframe { writer with run := none } with ⟨_, same⟩ | ⟨_, same⟩ <;>
      rw [same]

/-- Adding an item adds the item or leaves it out. -/
theorem Follows.add (proper : ∀ run ∈ writer.run, run.Proper) (item : Item) :
    writer.Follows [item] (writer.add item) := by
  have flushed := Follows.flush proper
  have pushed : ∀ item : Item, writer.Follows [item] (writer.push item.subframe) := fun item =>
    flushed.trans (.append (run_flush writer) item.itemsOf_subframe Item.fits_of_size)
  cases item with
  | value register value =>
    have fresh : writer.Follows [.value register value]
        { writer.flush with run := some (.ofValue register value) } :=
      flushed.trans (.begin (run_flush writer) register value)
    have takes := takes_pushValue register value writer
    rw [Writer.add]
    generalize writer.pushValue register value = after at takes
    cases takes with
    | @longer run longer waiting continues _ =>
      have whole := proper run waiting
      have own : writer.pending = run.items := by
        rw [pending, waiting]
        rfl
      have grown : ({ writer with run := some longer } : Writer).pending =
          run.items ++ [.value register value] := Run.items_extend whole continues
      refine .of_pending rfl ?_ rfl ?_
      · rw [grown, own]
      · intro other there
        cases there
        exact whole.extend continues
    | cut _ _ _ => exact fresh
    | apart _ => exact fresh
  | readError register code => exact pushed (.readError register code)
  | writeError register code => exact pushed (.writeError register code)
  | tunnel channel data => exact pushed (.tunnel channel data)

/-- Adding items one after another adds some of them, in order. -/
theorem Follows.foldl (proper : ∀ run ∈ writer.run, run.Proper) (items : List Item) :
    writer.Follows items (items.foldl Writer.add writer) := by
  induction items generalizing writer with
  | nil => exact .refl proper
  | cons item rest ih =>
    have first := Follows.add proper item
    exact first.trans (ih first.proper)

/-- A finished reply that a frame can carry is taken apart into what was written before and some of
the items added to it, in order, and into all of them if no more is left out. -/
theorem parse_of_written {front : List Subframe} {said : List Item}
    (written : before.payload = front.flatMap Subframe.encode) (cleared : before.run = none)
    (gathered : gather front = .ok said) (whole : ∀ subframe ∈ front, subframe.Fits)
    (follows : before.Follows items after) (short : after.finish.payload.length < Word.bound 32) :
    ∃ kept, parse after.finish.payload = .ok ⟨said ++ kept⟩ ∧ kept.Sublist items ∧
      (after.finish.omitted = before.omitted → kept = items) := by
  have finished := follows.trans (Follows.flush follows.proper)
  rw [List.append_nil] at finished
  obtain ⟨subframes, kept, payload, others, fit, some, all⟩ := finished.written
  have nothing : after.flush.pending = [] := by
    rw [pending, run_flush]
    rfl
  have none : before.pending = [] := by
    rw [pending, cleared]
    rfl
  rw [nothing, none, List.append_nil, List.nil_append] at some all
  rw [written, ← List.flatMap_append] at payload
  rw [finish] at short ⊢
  have fits : ∀ subframe ∈ front ++ subframes, subframe.Fits := by
    intro subframe there
    rcases List.mem_append.1 there with earlier | later
    · exact whole subframe earlier
    · rw [payload] at short
      exact fit subframe later (Nat.lt_of_le_of_lt (Subframe.size_le_of_mem there) short)
  refine ⟨kept, ?_, some, all⟩
  rw [payload]
  exact parse_flatMap (gather_append gathered others) fits

/-- A finished reply that a frame can carry is taken apart into some of the items added to it, in
order, and into all of them if none is left out. -/
theorem parse_of_follows {limit : Nat} (follows : Follows { limit } items after)
    (short : after.finish.payload.length < Word.bound 32) :
    ∃ kept, parse after.finish.payload = .ok ⟨kept⟩ ∧ kept.Sublist items ∧
      (after.finish.omitted = 0 → kept = items) :=
  @parse_of_written _ _ _ [] [] rfl rfl rfl (fun _ there => absurd there List.not_mem_nil) follows
    short

/-- A refusal that has room for itself is the first item of the reply that it begins. -/
theorem parse_of_refused {limit : Nat} {register : Register} {code : UInt32}
    (room : (Subframe.writeError register code).size ≤ limit)
    (short : ((Item.writeError register code :: items).foldl add { limit }).finish.payload.length <
      Word.bound 32) :
    ∃ kept, kept.Sublist items ∧
      parse ((Item.writeError register code :: items).foldl add { limit }).finish.payload =
        .ok ⟨.writeError register code :: kept⟩ := by
  have first : add { limit } (.writeError register code) =
      { limit, payload := (Subframe.writeError register code).encode } := by
    rcases append_cases (.writeError register code) { limit } with ⟨full, _⟩ | ⟨_, same⟩
    · rw [List.length_nil, Nat.zero_add] at full
      exact absurd room (Nat.not_le_of_lt full)
    · exact same
  have proper : ∀ run ∈ ({ limit, payload := (Subframe.writeError register code).encode } :
      Writer).run, run.Proper := nofun
  rw [List.foldl_cons, first] at short ⊢
  obtain ⟨kept, parsed, some, _⟩ :=
    @parse_of_written _ _ _ [.writeError register code] [.writeError register code]
      (List.flatMap_singleton _ _).symm rfl rfl
      (fun subframe there => by rw [List.mem_singleton.1 there]; trivial) (.foldl proper items) short
  exact ⟨kept, some, parsed⟩

/-! ## Lengths -/

/-- Bytes of a reply once its run is written. -/
def extent (writer : Writer) : Nat :=
  writer.payload.length + writer.run.elim 0 fun run => run.subframe.size

@[simp]
theorem extent_empty (limit : Nat) : extent { limit } = 0 := rfl

/-- A subframe adds no more than its bytes. -/
theorem length_append_le (subframe : Subframe) (writer : Writer) :
    (writer.append subframe).payload.length ≤ writer.payload.length + subframe.size := by
  rcases append_cases subframe writer with ⟨_, same⟩ | ⟨_, same⟩
  · rw [same]
    exact Nat.le_add_right _ _
  · rw [same, ← Subframe.length_encode]
    exact Nat.le_of_eq List.length_append

/-- Writing the run adds no more than its bytes. -/
theorem length_flush_le (writer : Writer) : writer.flush.payload.length ≤ writer.extent := by
  unfold Writer.flush extent
  cases writer.run with
  | none => exact Nat.le_refl _
  | some run => exact length_append_le run.subframe { writer with run := none }

/-- An item adds no more than it takes on its own. -/
theorem extent_add_le (proper : ∀ run ∈ writer.run, run.Proper) (item : Item) :
    (writer.add item).extent ≤ writer.extent + item.subframe.size := by
  have flushed := length_flush_le writer
  have pushed (subframe : Subframe) :
      (writer.push subframe).extent ≤ writer.extent + subframe.size := by
    have cleared : (writer.push subframe).run = none := by
      rcases append_cases subframe writer.flush with ⟨_, same⟩ | ⟨_, same⟩ <;>
        rw [Writer.push, same] <;> exact run_flush writer
    have longer := length_append_le subframe writer.flush
    rw [extent, cleared, Writer.push]
    show _ + 0 ≤ _
    omega
  cases item with
  | value register value =>
    have single : (Run.ofValue register value).subframe.size =
        (Item.value register value).subframe.size := by
      simp [Run.subframe, Run.ofValue, Item.subframe]
    have fresh : ({ writer.flush with run := some (.ofValue register value) } : Writer).extent ≤
        writer.extent + (Item.value register value).subframe.size := by
      rw [extent, Option.elim_some, single]
      exact Nat.add_le_add_right flushed _
    have takes := takes_pushValue register value writer
    rw [Writer.add]
    generalize writer.pushValue register value = after at takes
    cases takes with
    | @longer run longer waiting continues _ =>
      have whole := proper run waiting
      have before := Run.size_subframe whole
      have after := Run.size_subframe (whole.extend continues)
      obtain ⟨same, _, rfl⟩ := Run.extend?_eq_some continues
      have step := Subframe.countSize_succ_le run.values.count
      have two : Subframe.countSize (1 + 1) = 1 := rfl
      have start := Varuint.size_pos register
      have bytes : (run.values.push value same).bytes.length =
          run.values.bytes.length + value.kind.size := by
        rw [Packed.push, List.length_append, Value.length_encode]
      have positive := whole.positive
      rw [bytes, Packed.count_push, if_neg (by omega)] at after
      simp only [extent, waiting, Option.elim_some, Item.subframe, Subframe.size, Subframe.tag,
        Form.size_tag, Subframe.bodySize] at before after ⊢
      by_cases one : run.values.count = 1
      · rw [if_pos one] at before
        rw [one, two] at after
        omega
      · rw [if_neg one] at before
        omega
    | cut _ _ _ => exact fresh
    | apart _ => exact fresh
  | readError register code => exact pushed (.readError register code)
  | writeError register code => exact pushed (.writeError register code)
  | tunnel channel data => exact pushed (.serverToClient channel data)

/-- Items add no more than they take one by one. -/
theorem extent_foldl_le (proper : ∀ run ∈ writer.run, run.Proper) (items : List Item) :
    (items.foldl add writer).extent ≤
      writer.extent + total (fun item => item.subframe.size) items := by
  induction items generalizing writer with
  | nil => exact Nat.le_add_right _ _
  | cons item rest ih =>
    have first := extent_add_le proper item
    have later := ih (Follows.add proper item).proper
    rw [List.foldl_cons, total_cons]
    omega

/-- A finished reply is no longer than its items are one by one. -/
theorem length_finish_le_total (limit : Nat) (items : List Item) :
    (items.foldl add { limit }).finish.payload.length ≤
      total (fun item => item.subframe.size) items := by
  have empty := extent_empty limit
  have whole := @extent_foldl_le { limit } nofun items
  have last := length_flush_le (items.foldl add { limit })
  rw [finish]
  omega

/-- A finished reply is no longer than as many of its longest items. -/
theorem length_finish_le (limit : Nat) {items : List Item} {most : Nat}
    (each : ∀ item ∈ items, item.subframe.size ≤ most) :
    (items.foldl add { limit }).finish.payload.length ≤ items.length * most :=
  Nat.le_trans (length_finish_le_total limit items) (total_le each)

end Writer

end Multidrop.Reply
