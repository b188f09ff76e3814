import Multidrop.Proofs.Reply.Coalesce

/-!
# Writers with a limit

A writer that has left nothing out holds exactly the items added to it, as the subframes of their
runs and the run that is still pending (`Writer.Holds`). It splits a run only where the room ends,
and then it cannot but leave something out (`Writer.Lost`). So a finished reply that leaves nothing
out is the one that `coalesce` describes (`payload_finish`).
-/
namespace Multidrop

/-- No tag takes more than one byte. -/
theorem Form.size_tag (form : Form) : Varuint.size form.tag = 1 := by
  cases form with
  | writeSingle kind | writeMultiple kind | readSingle kind | readMultiple kind
  | replySingle kind | replyMultiple kind => cases kind <;> decide
  | writeError | readError | clientToServer | serverToClient => decide

/-- One more counts for one more byte at most. -/
theorem Subframe.countSize_succ_le (count : Nat) : countSize (count + 1) ≤ countSize count + 1 := by
  have next : (UInt32.ofNat (count + 1)).toNat = 0 ∨
      (UInt32.ofNat (count + 1)).toNat = (UInt32.ofNat count).toNat + 1 := by
    rw [UInt32.toNat_ofNat', UInt32.toNat_ofNat']
    omega
  simp only [countSize, Varuint.size, UInt32.lt_iff_toNat_lt, UInt32.reduceToNat]
  rcases next with zero | more
  · rw [zero]
    repeat' split
    all_goals omega
  · rw [more]
    repeat' split
    all_goals omega

/-- Every value of a run has the kind of the run. -/
theorem Packed.kind_of_mem {packed : Packed} {value : Value} (there : value ∈ packed.values) :
    value.kind = packed.kind := by
  have all : ∀ bytes, ∀ value ∈ unpack packed.kind bytes, value.kind = packed.kind := by
    intro bytes
    fun_induction unpack packed.kind bytes with
    | case1 => exact nofun
    | case2 bytes first rest found less ih =>
      intro value there
      rcases List.mem_cons.1 there with rfl | later
      · exact (Value.read_eq_some found).1
      · exact ih value later
  exact all packed.bytes value there

namespace Reply

/-- A run takes a tag, its start, its values and, where it has several, their count. -/
theorem Run.size_subframe {run : Run} (proper : run.Proper) :
    run.subframe.size = 1 + Varuint.size run.start + run.values.bytes.length +
      if run.values.count = 1 then 0 else Subframe.countSize run.values.count := by
  have whole : run.values.count * run.values.kind.size = run.values.bytes.length :=
    Nat.div_mul_cancel (Nat.dvd_of_mod_eq_zero run.values.whole)
  unfold subframe
  split
  · rename_i value alone
    have one : run.values.count = 1 := by
      rw [← proper.length, alone]
      rfl
    have kind : value.kind = run.values.kind := Packed.kind_of_mem (by
      rw [alone]
      exact List.mem_singleton_self value)
    rw [one, Nat.one_mul] at whole
    rw [if_pos one, ← whole, ← kind]
    simp only [Subframe.size, Subframe.tag, Form.size_tag, Subframe.bodySize]
    omega
  · rename_i several
    have more : run.values.count ≠ 1 := by
      intro one
      rw [← proper.length, List.length_eq_one_iff] at one
      obtain ⟨value, alone⟩ := one
      exact several value alone
    rw [if_neg more]
    simp only [Subframe.size, Subframe.tag, Form.size_tag, Subframe.bodySize]
    omega

namespace Writer

/-- Add an item to a reply. -/
def add (writer : Writer) : Item → Writer
  | .value register value => writer.pushValue register value
  | .readError register code => writer.push (.readError register code)
  | .writeError register code => writer.push (.writeError register code)
  | .tunnel channel data => writer.push (.serverToClient channel data)

/-- A writer that holds exactly the items added to it, in subframes and a pending run. -/
structure Holds (writer : Writer) (items : List Item) : Prop where
  /-- Whatever is added, what is written is the front of what has to be written. -/
  written : ∃ subframes, writer.payload = subframes.flatMap Subframe.encode ∧
    ∀ rest, subframes ++ coalesceFrom writer.run rest = coalesce (items ++ rest)
  /-- The pending run is proper. -/
  proper : ∀ run ∈ writer.run, run.Proper

/-- A writer that has left something out, or has no room for the run it has begun. -/
def Lost (writer : Writer) : Prop :=
  0 < writer.omitted ∨ ∃ register value,
    writer.run = some (.ofValue register value) ∧ writer.remaining < 2 + value.kind.size

variable {writer : Writer} {items : List Item}

/-! ## Writing subframes -/

/-- A subframe is either written or left out. -/
theorem append_cases (subframe : Subframe) (writer : Writer) :
    (writer.limit < writer.payload.length + subframe.size ∧
      writer.append subframe = { writer with omitted := writer.omitted + 1 }) ∨
    (writer.payload.length + subframe.size ≤ writer.limit ∧
      writer.append subframe = { writer with payload := writer.payload ++ subframe.encode }) := by
  unfold append
  by_cases full : writer.limit < writer.payload.length + subframe.size
  · left
    exact ⟨full, by rw [if_pos full]⟩
  · right
    exact ⟨Nat.le_of_not_lt full, by rw [if_neg full]⟩

/-- What was left out stays so. -/
theorem omitted_le_append (subframe : Subframe) (writer : Writer) :
    writer.omitted ≤ (writer.append subframe).omitted := by
  rcases append_cases subframe writer with ⟨_, same⟩ | ⟨_, same⟩
  · rw [same]
    exact Nat.le_succ _
  · exact Nat.le_of_eq (congrArg Writer.omitted same).symm

/-- The pending run is either written or left out. -/
theorem flush_cases (writer : Writer) :
    0 < writer.flush.omitted ∨
      writer.flush = { writer with
        run := none
        payload :=
          writer.payload ++ (writer.run.toList.map Run.subframe).flatMap Subframe.encode } := by
  unfold flush
  cases pending : writer.run with
  | none =>
    right
    rw [Option.toList_none, List.map_nil, List.flatMap_nil, List.append_nil]
    cases writer
    cases pending
    rfl
  | some run =>
    dsimp only
    rcases append_cases run.subframe { writer with run := none } with ⟨_, same⟩ | ⟨_, same⟩
    · left
      rw [same]
      exact Nat.succ_pos _
    · right
      rw [same, Option.toList_some, List.map_singleton, List.flatMap_singleton]

/-- What was left out stays so. -/
theorem omitted_le_flush (writer : Writer) : writer.omitted ≤ writer.flush.omitted := by
  unfold flush
  cases writer.run with
  | none => exact Nat.le_refl _
  | some run => exact omitted_le_append run.subframe { writer with run := none }

/-- A writer that has lost something leaves it out at the latest when the run is written. -/
theorem Lost.omitted_flush (lost : writer.Lost) : 0 < writer.flush.omitted := by
  rcases lost with out | ⟨register, value, pending, full⟩
  · exact Nat.lt_of_lt_of_le out (omitted_le_flush writer)
  · have size := Run.size_subframe (Run.proper_ofValue register value)
    have start := Varuint.size_pos register
    have room : writer.remaining = writer.limit - writer.payload.length := rfl
    have bytes : (Run.ofValue register value).values.bytes.length = value.kind.size :=
      value.length_encode
    rw [bytes] at size
    unfold flush
    rw [pending]
    dsimp only
    rcases append_cases (Run.ofValue register value).subframe { writer with run := none } with
      ⟨_, same⟩ | ⟨fits, _⟩
    · rw [same]
      exact Nat.succ_pos _
    · simp only [Run.ofValue] at size fits
      omega

/-! ## Adding items -/

/-- How a value is added to a writer. -/
inductive Takes (writer : Writer) (register : Register) (value : Value) : Writer → Prop
  /-- It continues the pending run. -/
  | longer {run longer : Run} (pending : writer.run = some run)
      (continues : run.extend? register value = some longer)
      (room : writer.hasRoom run value.kind = true) :
      Takes writer register value { writer with run := some longer }
  /-- It continues the pending run, but begins a new one for lack of room. -/
  | cut {run longer : Run} (pending : writer.run = some run)
      (continues : run.extend? register value = some longer)
      (full : ¬writer.hasRoom run value.kind = true) :
      Takes writer register value { writer.flush with run := some (.ofValue register value) }
  /-- It begins a new run because it continues none. -/
  | apart (begins : (writer.run.bind fun run => run.extend? register value) = none) :
      Takes writer register value { writer.flush with run := some (.ofValue register value) }

/-- A value continues the pending run where it can. -/
theorem takes_pushValue (register : Register) (value : Value) (writer : Writer) :
    Takes writer register value (writer.pushValue register value) := by
  unfold pushValue
  cases pending : writer.run with
  | none =>
    apply Takes.apart
    rw [pending]
    rfl
  | some run =>
    dsimp only
    by_cases same : value.kind = run.values.kind
    · rw [dif_pos same]
      by_cases next : run.start.toNat + run.values.count = register.toNat
      · have continues : run.extend? register value =
            some { run with values := run.values.push value same } := by
          rw [Run.extend?, dif_pos same, if_pos next]
        by_cases room : writer.hasRoom run value.kind = true
        · rw [if_pos ⟨next, room⟩]
          exact .longer pending continues room
        · rw [if_neg (fun both => room both.2)]
          exact .cut pending continues room
      · rw [if_neg (fun both => next both.1)]
        apply Takes.apart
        rw [pending, Option.bind_some, Run.extend?, dif_pos same, if_neg next]
    · rw [dif_neg same]
      apply Takes.apart
      rw [pending, Option.bind_some, Run.extend?, dif_neg same]

/-- A run that is cut for lack of room leaves too little of it for another one. -/
theorem remaining_of_no_room {run longer : Run} {register : Register} {value : Value}
    (proper : run.Proper) (continues : run.extend? register value = some longer)
    (full : ¬writer.hasRoom run value.kind) :
    writer.limit - (writer.payload.length + run.subframe.size) < 2 + value.kind.size := by
  obtain ⟨same, _, _⟩ := Run.extend?_eq_some continues
  have size := Run.size_subframe proper
  have step := Subframe.countSize_succ_le run.values.count
  have two : Subframe.countSize (1 + 1) = 1 := rfl
  have room : ¬1 + Varuint.size run.start + Subframe.countSize (run.values.count + 1) +
      run.values.bytes.length + value.kind.size ≤ writer.limit - writer.payload.length := by
    intro enough
    exact full (decide_eq_true enough)
  by_cases one : run.values.count = 1
  · rw [if_pos one] at size
    rw [one, two] at room
    omega
  · rw [if_neg one] at size
    omega

/-- A writer that has lost something stays so. -/
theorem Lost.add (lost : writer.Lost) (item : Item) : (writer.add item).Lost := by
  have pushed : ∀ subframe, 0 < (writer.push subframe).omitted := fun subframe =>
    Nat.lt_of_lt_of_le lost.omitted_flush (omitted_le_append subframe writer.flush)
  left
  cases item with
  | value register value =>
    have takes := takes_pushValue register value writer
    rw [Writer.add]
    generalize writer.pushValue register value = after at takes
    cases takes with
    | cut _ _ _ => exact lost.omitted_flush
    | apart _ => exact lost.omitted_flush
    | @longer run longer pending continues room =>
      rcases lost with out | ⟨first, begun, alone, full⟩
      · exact out
      · -- A run that does not fit is not made longer.
        rw [alone] at pending
        cases pending
        obtain ⟨kind, _, _⟩ := Run.extend?_eq_some continues
        have start := Varuint.size_pos first
        have bytes : (Run.ofValue first begun).values.bytes.length = begun.kind.size :=
          begun.length_encode
        have enough := of_decide_eq_true room
        rw [bytes] at enough
        simp only [Run.ofValue] at enough
        omega
  | readError register code => exact pushed _
  | writeError register code => exact pushed _
  | tunnel channel data => exact pushed _

/-- A subframe behind the items of a writer is written behind them, or something is lost. -/
theorem Holds.push (holds : writer.Holds items) {item : Item} {subframe : Subframe}
    (closes : ∀ pending rest, coalesceFrom pending (item :: rest) =
      pending.toList.map Run.subframe ++ subframe :: coalesceFrom none rest) :
    (writer.push subframe).Holds (items ++ [item]) ∨ (writer.push subframe).Lost := by
  obtain ⟨subframes, payload, written⟩ := holds.written
  unfold Writer.push
  rcases flush_cases writer with out | flushed
  · right
    exact .inl (Nat.lt_of_lt_of_le out (omitted_le_append subframe writer.flush))
  · rcases append_cases subframe writer.flush with ⟨_, same⟩ | ⟨_, same⟩
    · right
      left
      rw [same]
      exact Nat.succ_pos _
    · left
      rw [same, flushed]
      refine ⟨⟨subframes ++ writer.run.toList.map Run.subframe ++ [subframe], ?_, ?_⟩, nofun⟩
      · rw [List.flatMap_append, List.flatMap_append, List.flatMap_singleton, ← payload]
      · intro rest
        rw [List.append_assoc items, List.singleton_append, ← written, closes]
        simp only [List.append_assoc, List.singleton_append]

/-- A writer that holds the items added to it holds one more, or something is lost. -/
theorem Holds.add (holds : writer.Holds items) (item : Item) :
    (writer.add item).Holds (items ++ [item]) ∨ (writer.add item).Lost := by
  cases item with
  | value register value =>
    obtain ⟨subframes, payload, written⟩ := holds.written
    have shift : ∀ rest, coalesce (items ++ [.value register value] ++ rest) =
        subframes ++ coalesceFrom writer.run (.value register value :: rest) := by
      intro rest
      rw [written, List.append_assoc, List.singleton_append]
    have takes := takes_pushValue register value writer
    rw [Writer.add]
    generalize writer.pushValue register value = after at takes
    cases takes with
    | @longer run longer pending continues room =>
      left
      refine ⟨⟨subframes, payload, fun rest => ?_⟩, ?_⟩
      · rw [shift, coalesceFrom, pending, Option.bind_some, continues]
      · intro other there
        cases there
        exact (holds.proper run pending).extend continues
    | @cut run longer pending continues full =>
      right
      rcases flush_cases writer with out | flushed
      · exact .inl out
      · right
        refine ⟨register, value, rfl, ?_⟩
        have short := remaining_of_no_room (holds.proper run pending) continues full
        rw [flushed, pending, Option.toList_some, List.map_singleton, List.flatMap_singleton]
        show writer.limit - (writer.payload ++ run.subframe.encode).length < _
        rw [List.length_append, Subframe.length_encode]
        exact short
    | apart begins =>
      rcases flush_cases writer with out | flushed
      · exact .inr (.inl out)
      · left
        rw [flushed]
        refine ⟨⟨subframes ++ writer.run.toList.map Run.subframe, ?_, fun rest => ?_⟩, ?_⟩
        · rw [List.flatMap_append, ← payload]
        · rw [shift, coalesceFrom, begins, List.append_assoc]
        · intro other there
          cases there
          exact Run.proper_ofValue register value
  | readError register code => exact holds.push fun _ _ => rfl
  | writeError register code => exact holds.push fun _ _ => rfl
  | tunnel channel data => exact holds.push fun _ _ => rfl

/-- Items that are added one after another are held, or something is lost. -/
theorem holds_or_lost (limit : Nat) (items : List Item) :
    (items.foldl add { limit }).Holds items ∨ (items.foldl add { limit }).Lost := by
  have go : ∀ (rest done : List Item) (writer : Writer), writer.Holds done ∨ writer.Lost →
      (rest.foldl add writer).Holds (done ++ rest) ∨ (rest.foldl add writer).Lost := by
    intro rest
    induction rest with
    | nil =>
      intro done writer state
      rw [List.append_nil]
      exact state
    | cons item rest ih =>
      intro done writer state
      have next : (writer.add item).Holds (done ++ [item]) ∨ (writer.add item).Lost := by
        rcases state with holds | lost
        · exact holds.add item
        · exact .inr (lost.add item)
      have last := ih (done ++ [item]) (writer.add item) next
      rw [List.append_assoc, List.singleton_append] at last
      exact last
  exact go items [] { limit } (.inl ⟨⟨[], rfl, fun _ => rfl⟩, nofun⟩)

/-- A finished reply that leaves nothing out consists of the runs of the items added to it. -/
theorem payload_finish {limit : Nat} {items : List Item}
    (complete : (items.foldl add { limit }).finish.omitted = 0) :
    (items.foldl add { limit }).finish.payload = (coalesce items).flatMap Subframe.encode := by
  unfold finish at complete ⊢
  rcases holds_or_lost limit items with holds | lost
  · obtain ⟨subframes, payload, written⟩ := holds.written
    have all := written []
    rw [List.append_nil, coalesceFrom] at all
    rcases flush_cases (items.foldl add { limit }) with out | flushed
    · rw [complete] at out
      cases out
    · rw [flushed, ← all, List.flatMap_append, ← payload]
  · have out := lost.omitted_flush
    rw [complete] at out
    cases out

end Writer

/-- The runs of items are taken apart into the items again, as long as they stay in reach and no
tunnel has too many bytes. -/
theorem parse_coalesce {items : List Item}
    (reach : ∀ start values, .replyMultiple start values ∈ coalesce items →
      start.toNat + values.count ≤ Word.bound 32 - 2)
    (tunnels : ∀ channel data, .tunnel channel data ∈ items → data.length < Word.bound 32) :
    parse ((coalesce items).flatMap Subframe.encode) = .ok ⟨items⟩ := by
  have fit : ∀ subframe ∈ coalesce items, subframe.Fits := by
    intro subframe there
    refine fits_of_mem_coalesceFrom there (fun start values same => ?_) tunnels
    exact reach start values (same ▸ there)
  exact parse_flatMap (gather_coalesce items) fit

end Reply

end Multidrop
