import Multidrop.Proofs.Reply.Partial

/-!
# What a reply leaves out

Results that find no room in a reply are left out one by one, and each of them is counted. So a
finished reply is within its limit, says some of the results added to it, in order, and lacks as
many as it counts (`Writer.finish_tallies`). A pending run of several values is always written
(`Writer.Tallies.flush_of_several`): it was made longer only where there was room for the longer
one, and nothing is written in front of it.
-/
namespace Multidrop.Reply

/-- No run of several values among items reaches the last two registers. -/
def InReach (items : List Item) : Prop :=
  ∀ run : Run, run.Proper → 1 < run.values.count → run.items <:+: items →
    run.start.toNat + run.values.count ≤ Word.bound 32 - 2

variable {items : List Item}

/-- Items that stand together among items in reach are in reach. -/
theorem InReach.of_infix {more : List Item} (reach : InReach more) (within : items <:+: more) :
    InReach items :=
  fun run proper several there => reach run proper several (there.trans within)

/-- A proper run has an item for each of its values. -/
theorem Run.Proper.length_items {run : Run} (proper : run.Proper) :
    run.items.length = run.values.count := by
  rw [Run.items, valueItems, List.length_mapIdx, proper.length]

/-- Items are in reach if their registers are low enough for a run as long as all of them. -/
theorem inReach_of_low
    (low : ∀ register value, .value register value ∈ items →
      register.toNat + items.length ≤ Word.bound 32 - 2) : InReach items := by
  intro run proper several there
  have count := proper.length_items
  have short := there.length_le
  obtain ⟨value, rest, values⟩ : ∃ value rest, run.values.values = value :: rest := by
    rw [← List.ne_nil_iff_exists_cons, ← List.length_pos_iff, proper.length]
    exact proper.positive
  have first : .value run.start value ∈ run.items := by
    rw [Run.items, valueItems, values, List.mapIdx_cons]
    simp
  have reach := low run.start value (there.subset first)
  omega

/-- A proper run among items in reach has a subframe that its encoding can hold. -/
theorem Run.Proper.fits_of_inReach {run : Run} (proper : run.Proper) (reach : InReach items)
    (there : run.items <:+: items) : run.subframe.Fits := by
  apply Run.fits_subframe
  intro start values same
  by_cases several : 1 < run.values.count
  · have inside := reach run proper several there
    unfold subframe at same
    split at same <;> cases same
    exact inside
  · have positive := proper.positive
    obtain ⟨value, alone⟩ : ∃ value, run.values.values = [value] := by
      rw [← List.length_eq_one_iff, proper.length]
      omega
    rw [subframe, alone] at same
    cases same

namespace Writer

/-- A payload within the limit, of whole subframes that say certain items. -/
structure Tells (writer : Writer) (said : List Item) : Prop where
  /-- What is written is within the limit. -/
  within : writer.payload.length ≤ writer.limit
  /-- What is written are subframes with the items. -/
  written : ∃ subframes, writer.payload = subframes.flatMap Subframe.encode ∧
    gather subframes = .ok said ∧ ∀ subframe ∈ subframes, subframe.Fits

/-- A writer after items were added to it. What is written and the pending run say some of the
items, in order, and the others are counted. -/
structure Tallies (limit : Nat) (items : List Item) (writer : Writer) : Prop where
  /-- The limit is the writer's. -/
  same : writer.limit = limit
  /-- Items are either said, or pending, or counted as left out. -/
  said : ∃ said, writer.Tells said ∧ (said ++ writer.pending).Sublist items ∧
    said.length + writer.pending.length + writer.omitted = items.length
  /-- What is pending was added last. -/
  last : writer.pending <:+ items
  /-- The pending run is proper. -/
  proper : ∀ run ∈ writer.run, run.Proper
  /-- There is room for a pending run of several values. -/
  room : ∀ run ∈ writer.run, 1 < run.values.count →
    writer.payload.length + run.subframe.size ≤ limit

variable {writer : Writer} {said : List Item} {limit : Nat}

/-- What is said is what the payload is taken apart into. -/
theorem Tells.parse (tells : writer.Tells said) : Reply.parse writer.payload = .ok ⟨said⟩ := by
  obtain ⟨subframes, payload, gathered, fit⟩ := tells.written
  rw [payload]
  exact parse_flatMap gathered fit

/-- A subframe that is written is said behind what was said before. -/
theorem Tells.write (tells : writer.Tells said) {subframe : Subframe} {own : List Item}
    (has : itemsOf subframe = some own) (fits : subframe.Fits)
    (room : writer.payload.length + subframe.size ≤ writer.limit) :
    Tells { writer with payload := writer.payload ++ subframe.encode } (said ++ own) := by
  obtain ⟨subframes, payload, gathered, fit⟩ := tells.written
  refine ⟨?_, subframes ++ [subframe], ?_, ?_, ?_⟩
  · rw [List.length_append, Subframe.length_encode]
    exact room
  · rw [List.flatMap_append, List.flatMap_singleton, ← payload]
  · exact gather_append gathered (gather_singleton has)
  · intro other there
    rcases List.mem_append.1 there with earlier | here
    · exact fit other earlier
    · rw [List.mem_singleton.1 here]
      exact fits

/-- A writer without items has left nothing out. -/
theorem tallies_empty (limit : Nat) : Tallies limit [] { limit } where
  same := rfl
  said := ⟨[], ⟨Nat.zero_le _, [], rfl, rfl, nofun⟩, .refl _, rfl⟩
  last := List.suffix_refl _
  proper := nofun
  room := nofun

/-- A pending run of several values is written when its turn comes. -/
theorem Tallies.flush_of_several (tallies : writer.Tallies limit items) {run : Run}
    (waiting : writer.run = some run) (several : 1 < run.values.count) :
    writer.flush =
      { writer with run := none, payload := writer.payload ++ run.subframe.encode } := by
  have room := tallies.room run waiting several
  unfold Writer.flush
  rw [waiting]
  rcases append_cases run.subframe { writer with run := none } with ⟨full, _⟩ | ⟨_, same⟩
  · rw [tallies.same] at full
    exact absurd room (Nat.not_le_of_lt full)
  · exact same

/-- A subframe behind what is said is said as well, or is left out and counted. Only a single result
is left out. -/
theorem tallies_append (tells : writer.Tells said) (same : writer.limit = limit)
    (cleared : writer.run = none) {subframe : Subframe} {own : List Item}
    (has : itemsOf subframe = some own) (fits : subframe.Fits)
    (some : (said ++ own).Sublist items)
    (count : said.length + own.length + writer.omitted = items.length)
    (single : limit < writer.payload.length + subframe.size → own.length = 1) :
    (writer.append subframe).Tallies limit items := by
  have nothing : writer.pending = [] := by
    rw [pending, cleared]
    rfl
  have still {holds : Run → Prop} : ∀ run ∈ writer.run, holds run := by
    intro run there
    rw [cleared] at there
    cases there
  rcases append_cases subframe writer with ⟨full, out⟩ | ⟨room, written⟩
  · have one := single (same ▸ full)
    rw [out]
    refine ⟨same, ⟨said, ⟨tells.within, tells.written⟩, ?_, ?_⟩, ?_, still, still⟩
    · show (said ++ writer.pending).Sublist items
      rw [nothing, List.append_nil]
      exact (List.sublist_append_left said own).trans some
    · show said.length + writer.pending.length + (writer.omitted + 1) = items.length
      rw [nothing, List.length_nil]
      omega
    · show writer.pending <:+ items
      rw [nothing]
      exact List.nil_suffix
  · rw [written]
    refine ⟨same, ⟨said ++ own, tells.write has fits room, ?_, ?_⟩, ?_, still, still⟩
    · show (said ++ own ++ writer.pending).Sublist items
      rw [nothing, List.append_nil]
      exact some
    · show (said ++ own).length + writer.pending.length + writer.omitted = items.length
      rw [nothing, List.length_append, List.length_nil]
      omega
    · show writer.pending <:+ items
      rw [nothing]
      exact List.nil_suffix

/-- Writing the pending run loses no count: a run that finds no room has one value. -/
theorem Tallies.flush (tallies : writer.Tallies limit items) (reach : InReach items) :
    writer.flush.Tallies limit items := by
  unfold Writer.flush
  cases waiting : writer.run with
  | none => exact tallies
  | some run =>
    have proper := tallies.proper run waiting
    have own : writer.pending = run.items := by
      rw [pending, waiting]
      rfl
    obtain ⟨said, tells, some, count⟩ := tallies.said
    have last := tallies.last
    rw [own] at some count last
    have fits := proper.fits_of_inReach reach last.isInfix
    have idle : Tells { writer with run := none } said := ⟨tells.within, tells.written⟩
    refine tallies_append idle tallies.same rfl run.itemsOf_subframe fits some count fun full => ?_
    dsimp only at full
    have room := tallies.room run waiting
    have positive := proper.positive
    rw [proper.length_items]
    omega

/-- Nothing is pending once the run is written. -/
theorem pending_flush (writer : Writer) : writer.flush.pending = [] := by
  rw [pending, run_flush]
  rfl

/-- A subframe of its own, behind the pending run, is said or counted. -/
theorem Tallies.push (tallies : writer.Tallies limit items) (reach : InReach items) {item : Item}
    (fits : item.subframe.Fits) : (writer.push item.subframe).Tallies limit (items ++ [item]) := by
  have flushed := tallies.flush reach
  obtain ⟨said, tells, some, count⟩ := flushed.said
  rw [pending_flush, List.append_nil] at some
  rw [pending_flush, List.length_nil] at count
  refine tallies_append tells flushed.same (run_flush writer) item.itemsOf_subframe fits
    (some.append_right [item]) ?_ fun _ => rfl
  rw [List.length_append]
  simp only [List.length_singleton]
  omega

/-- A value that begins a run is pending behind what was said before. -/
theorem Tallies.begin (tallies : writer.Tallies limit items) (cleared : writer.run = none)
    (register : Register) (value : Value) :
    Tallies limit (items ++ [.value register value])
      { writer with run := some (.ofValue register value) } := by
  have alone : ({ writer with run := some (.ofValue register value) } : Writer).pending =
      [.value register value] := by
    simp [pending, Run.items, Run.ofValue, valueItems]
  have nothing : writer.pending = [] := by
    rw [pending, cleared]
    rfl
  obtain ⟨said, tells, some, count⟩ := tallies.said
  rw [nothing, List.append_nil] at some
  rw [nothing, List.length_nil] at count
  refine ⟨tallies.same, ⟨said, ⟨tells.within, tells.written⟩, ?_, ?_⟩, ?_, ?_, ?_⟩
  · rw [alone]
    exact some.append_right _
  · show said.length + _ + writer.omitted = _
    rw [alone, List.length_append]
    simp only [List.length_singleton]
    omega
  · rw [alone]
    exact List.suffix_append _ _
  · intro run there
    cases there
    exact Run.proper_ofValue register value
  · intro run there several
    cases there
    rw [Run.ofValue, Packed.count_single] at several
    omega

/-- A value that continues the pending run is pending with it, and there is room for both. -/
theorem Tallies.continue (tallies : writer.Tallies limit items) {run longer : Run}
    {register : Register} {value : Value} (waiting : writer.run = some run)
    (continues : run.extend? register value = some longer)
    (room : writer.hasRoom run value.kind = true) :
    Tallies limit (items ++ [.value register value]) { writer with run := some longer } := by
  have proper := tallies.proper run waiting
  have whole := proper.extend continues
  have own : writer.pending = run.items := by
    rw [pending, waiting]
    rfl
  have grown : ({ writer with run := some longer } : Writer).pending =
      run.items ++ [.value register value] := Run.items_extend proper continues
  obtain ⟨said, tells, some, count⟩ := tallies.said
  have last := tallies.last
  rw [own] at some count last
  refine ⟨tallies.same, ⟨said, ⟨tells.within, tells.written⟩, ?_, ?_⟩, ?_, ?_, ?_⟩
  · rw [grown, ← List.append_assoc]
    exact some.append_right _
  · show said.length + _ + writer.omitted = _
    rw [grown, List.length_append, List.length_append]
    omega
  · rw [grown]
    obtain ⟨front, rfl⟩ := last
    exact ⟨front, (List.append_assoc ..).symm⟩
  · intro other there
    cases there
    exact whole
  · intro other there several
    cases there
    have size := Run.size_subframe whole
    have enough := of_decide_eq_true room
    have within := tells.within
    rw [if_neg (by omega)] at size
    obtain ⟨same, _, rfl⟩ := Run.extend?_eq_some continues
    have bytes : (run.values.push value same).bytes.length =
        run.values.bytes.length + value.kind.size := by
      rw [Packed.push, List.length_append, Value.length_encode]
    rw [remaining, tallies.same] at enough
    rw [tallies.same] at within
    simp only [bytes, Packed.count_push] at size ⊢
    omega

/-- Adding a result adds it to what is said or pending, or to the count. -/
theorem Tallies.add (tallies : writer.Tallies limit items) (reach : InReach items) {item : Item}
    (result : ∀ channel data, item ≠ .tunnel channel data) :
    (writer.add item).Tallies limit (items ++ [item]) := by
  cases item with
  | value register value =>
    have fresh : Tallies limit (items ++ [.value register value])
        { writer.flush with run := some (.ofValue register value) } :=
      (tallies.flush reach).begin (run_flush writer) register value
    have takes := takes_pushValue register value writer
    rw [Writer.add]
    generalize writer.pushValue register value = after at takes
    cases takes with
    | longer waiting continues room => exact tallies.continue waiting continues room
    | cut _ _ _ => exact fresh
    | apart _ => exact fresh
  | readError register code =>
    have fits : (Item.readError register code).subframe.Fits := trivial
    exact tallies.push reach fits
  | writeError register code =>
    have fits : (Item.writeError register code).subframe.Fits := trivial
    exact tallies.push reach fits
  | tunnel channel data => exact absurd rfl (result channel data)

/-- Adding results one after another loses no count. -/
theorem Tallies.foldl {rest : List Item} (tallies : writer.Tallies limit items)
    (results : ∀ channel data, .tunnel channel data ∉ rest) (reach : InReach (items ++ rest)) :
    (rest.foldl Writer.add writer).Tallies limit (items ++ rest) := by
  induction rest generalizing items writer with
  | nil =>
    rw [List.append_nil]
    exact tallies
  | cons item later ih =>
    have here : InReach items := reach.of_infix (List.prefix_append items _).isInfix
    have added := tallies.add here fun channel data same =>
      results channel data (same ▸ List.mem_cons_self)
    rw [List.append_cons] at reach ⊢
    exact ih added (fun channel data there => results channel data (List.mem_cons_of_mem _ there))
      reach

/-- A finished reply is within its limit and is taken apart into some of the results, in order;
those that are missing are as many as were counted as left out. -/
theorem finish_tallies (limit : Nat) (results : ∀ channel data, .tunnel channel data ∉ items)
    (reach : InReach items) :
    let writer := items.foldl Writer.add { limit }
    writer.finish.payload.length ≤ limit ∧
      (∃ said, Reply.parse writer.finish.payload = .ok ⟨said⟩ ∧ said.Sublist items ∧
        said.length + writer.finish.omitted = items.length) ∧
      ∀ run ∈ writer.run, 1 < run.values.count →
        writer.flush.payload = writer.payload ++ run.subframe.encode ∧
          writer.flush.omitted = writer.omitted := by
  intro writer
  have tallies : writer.Tallies limit items := (tallies_empty limit).foldl results reach
  have finished := tallies.flush reach
  obtain ⟨said, tells, some, count⟩ := finished.said
  rw [pending_flush, List.append_nil] at some
  rw [pending_flush, List.length_nil, Nat.add_zero] at count
  refine ⟨finished.same ▸ tells.within, ⟨said, tells.parse, some, count⟩, ?_⟩
  intro run waiting several
  rw [tallies.flush_of_several waiting several]
  exact ⟨rfl, rfl⟩

/-- A reply has room for the run of two values and for the refusal behind it, but not for the value
of another kind between them, which it counts. -/
theorem finish_tallies_of_cramped :
    let items : List Item :=
      [.value 0 (.int16 1), .value 1 (.int16 2), .value 2 (.int32 3), .readError 9 1]
    let writer := items.foldl Writer.add { limit := 11 }
    InReach items ∧ writer.finish.omitted = 1 ∧
      ∃ said, Reply.parse writer.finish.payload = .ok ⟨said⟩ ∧ said.Sublist items ∧
        said.length = 3 := by
  intro items writer
  have reach : InReach items := inReach_of_low fun register value there => by
    have low : register = 0 ∨ register = 1 ∨ register = 2 := by
      simp only [items, List.mem_cons, Item.value.injEq, List.not_mem_nil] at there
      grind
    rcases low with rfl | rfl | rfl <;> decide
  have omitted : writer.finish.omitted = 1 := by decide +kernel
  obtain ⟨_, ⟨said, parsed, some, count⟩, _⟩ := finish_tallies 11 (by simp [items]) reach
  rw [show (items.foldl Writer.add { limit := 11 }).finish.omitted = 1 from omitted] at count
  exact ⟨reach, omitted, said, parsed, some, Nat.succ.inj count⟩

end Writer

end Multidrop.Reply
