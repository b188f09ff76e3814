import Multidrop.Basic
import Multidrop.Proofs.Reply.Partial

/-!
# Complete replies

A writer with room for its items one by one leaves none of them out (`Writer.omitted_foldl`), so its
reply consists of the runs of the items (`Writer.payload_of_room`). These runs take at least the bytes
that the read results in them cost (`total_readCost_le`), and a header more once the reply says
anything other than refused reads (`header_le_complete`). Gathering values into runs never costs room: where the
subframes of the items one by one are within the limit, so are the runs, and they are no longer
(`Writer.finish_of_plain`).
-/
namespace Multidrop.Reply

/-- The reply that says all of some items. -/
def complete (items : List Item) : List UInt8 := (coalesce items).flatMap Subframe.encode

/-- The items with a subframe for each. -/
def plain (items : List Item) : List UInt8 := items.flatMap fun item => item.subframe.encode

/-- Least bytes of an item that answers a read: the value without a header, or a refusal with its
own. -/
def Item.readCost : Item → Nat
  | .value _ found => found.kind.size
  | .readError .. => 3
  | .writeError .. | .tunnel .. => 0

/-- A complete reply takes the bytes of its subframes. -/
theorem length_complete (items : List Item) :
    (complete items).length = total Subframe.size (coalesce items) := by
  rw [complete, ← total_length]
  exact congrArg (total · _) (funext Subframe.length_encode)

/-- Items one by one take the bytes of their subframes. -/
theorem length_plain (items : List Item) :
    (plain items).length = total (fun item => item.subframe.size) items := by
  rw [plain, ← total_length]
  exact congrArg (total · _) (funext fun item => Subframe.length_encode item.subframe)

/-! ## Writers with room -/

namespace Writer

variable {writer : Writer} {items : List Item}

/-- A subframe with room for it is not left out. -/
theorem append_of_room {subframe : Subframe}
    (room : writer.payload.length + subframe.size ≤ writer.limit) :
    writer.append subframe = { writer with payload := writer.payload ++ subframe.encode } := by
  rcases append_cases subframe writer with ⟨full, _⟩ | ⟨_, same⟩
  · exact absurd room (Nat.not_le_of_lt full)
  · exact same

/-- Writing the run changes no limit. -/
theorem limit_flush (writer : Writer) : writer.flush.limit = writer.limit := by
  unfold Writer.flush
  cases writer.run with
  | none => rfl
  | some run =>
    dsimp only
    rcases append_cases run.subframe { writer with run := none } with ⟨_, same⟩ | ⟨_, same⟩ <;>
      rw [same]

/-- A pending run with room for it is not left out. -/
theorem omitted_flush_of_room (room : writer.extent ≤ writer.limit) :
    writer.flush.omitted = writer.omitted := by
  unfold Writer.flush
  unfold extent at room
  cases waiting : writer.run with
  | none => rfl
  | some run =>
    rw [waiting] at room
    dsimp only
    have written := @append_of_room { writer with run := none } run.subframe room
    rw [written]

/-- An item with room for it behind everything else is not left out. -/
theorem omitted_add (item : Item) (room : writer.extent + item.subframe.size ≤ writer.limit) :
    (writer.add item).omitted = writer.omitted ∧ (writer.add item).limit = writer.limit := by
  have flushed := omitted_flush_of_room (Nat.le_trans (Nat.le_add_right _ _) room)
  have same := limit_flush writer
  have pushed : (writer.push item.subframe).omitted = writer.omitted ∧
      (writer.push item.subframe).limit = writer.limit := by
    have longer := length_flush_le writer
    rw [Writer.push, append_of_room (by omega)]
    exact ⟨flushed, same⟩
  cases item with
  | value register value =>
    have takes := takes_pushValue register value writer
    rw [Writer.add]
    generalize writer.pushValue register value = after at takes
    cases takes with
    | longer _ _ _ => exact ⟨rfl, rfl⟩
    | cut _ _ _ => exact ⟨flushed, same⟩
    | apart _ => exact ⟨flushed, same⟩
  | readError register code => exact pushed
  | writeError register code => exact pushed
  | tunnel channel data => exact pushed

/-- Items with room for them one by one are not left out. -/
theorem omitted_foldl (proper : ∀ run ∈ writer.run, run.Proper)
    (room : writer.extent + total (fun item => item.subframe.size) items ≤ writer.limit) :
    (items.foldl add writer).finish.omitted = writer.omitted := by
  induction items generalizing writer with
  | nil => exact omitted_flush_of_room room
  | cons item rest ih =>
    rw [total_cons] at room
    obtain ⟨kept, same⟩ := @omitted_add writer item (by omega)
    have longer := extent_add_le proper item
    rw [List.foldl_cons, ih (Follows.add proper item).proper (by omega), kept]

/-- A reply with room for its items one by one leaves none of them out. -/
theorem omitted_of_room {limit : Nat}
    (room : total (fun item => item.subframe.size) items ≤ limit) :
    (items.foldl add { limit }).finish.omitted = 0 :=
  omitted_foldl nofun (by rw [extent_empty, Nat.zero_add]; exact room)

/-- Gathering values into runs never costs room: items that are within the limit one by one are all
said by the finished reply, in order and in no more bytes. -/
theorem finish_of_plain {limit : Nat} {items : List Item} (room : (plain items).length ≤ limit) :
    let writer := (items.foldl add { limit }).finish
    writer.omitted = 0 ∧ writer.payload.length ≤ (plain items).length ∧
      ∃ subframes, writer.payload = subframes.flatMap Subframe.encode ∧
        gather subframes = .ok items := by
  have size := length_plain items
  have omitted : (items.foldl add { limit }).finish.omitted = 0 :=
    omitted_of_room (size ▸ room)
  have shorter := length_finish_le_total limit items
  rw [← size] at shorter
  exact ⟨omitted, shorter, coalesce items, payload_finish omitted, gather_coalesce items⟩

/-- Two values, a refused read and a refused write take sixteen bytes one by one, and a reply with
this limit says them all in fourteen. -/
theorem finish_of_plain_of_four :
    let items : List Item :=
      [.value 127 (.int16 1), .value 128 (.int16 2), .readError 5 1, .writeError 9 300]
    let writer := (items.foldl add { limit := 16 }).finish
    (plain items).length = 16 ∧ writer.omitted = 0 ∧
      writer.payload = [0x25, 127, 2, 1, 0, 2, 0, 0x29, 5, 1, 0x28, 9, 0xac, 2] := by
  intro items writer
  have room : (plain items).length = 16 := by decide +kernel
  obtain ⟨omitted, -, -⟩ := finish_of_plain (Nat.le_of_eq room)
  exact ⟨room, omitted, by decide +kernel⟩

end Writer

/-! ## Least sizes -/

/-- A run takes a header of two bytes and its values. -/
theorem Run.Proper.le_size {run : Run} (proper : run.Proper) :
    2 + run.values.bytes.length ≤ run.subframe.size := by
  have size := Run.size_subframe proper
  have start := Varuint.size_pos run.start
  omega

/-- An item on its own takes what it costs, and a header of two bytes unless it is a refused read. -/
theorem Item.le_size (item : Item) : item.readCost ≤ item.subframe.size ∧
    ((∀ register code, item ≠ .readError register code) →
      2 + item.readCost ≤ item.subframe.size) := by
  cases item with
  | value register value =>
    have start := Varuint.size_pos register
    simp only [readCost, subframe, Subframe.size, Subframe.tag, Form.size_tag, Subframe.bodySize]
    omega
  | readError register code =>
    have start := Varuint.size_pos register
    have last := Varuint.size_pos code
    refine ⟨?_, fun other => absurd rfl (other register code)⟩
    simp only [readCost, subframe, Subframe.size, Subframe.tag, Form.size_tag, Subframe.bodySize]
    omega
  | writeError register code | tunnel register code =>
    have start := Varuint.size_pos register
    simp only [readCost, subframe, Subframe.size, Subframe.tag, Form.size_tag, Subframe.bodySize]
    omega

/-- A pending run takes a header and its values. -/
theorem le_size_pending {pending : Option Run} (proper : ∀ run ∈ pending, run.Proper) :
    (pending.elim 0 fun run => 2 + run.values.bytes.length) ≤
      total Subframe.size (pending.toList.map Run.subframe) := by
  cases pending with
  | none => exact Nat.zero_le _
  | some run => exact (proper run rfl).le_size

/-- The subframes of items take what the items cost, and a run before them its header and its
values. -/
theorem le_size_coalesceFrom (pending : Option Run) (proper : ∀ run ∈ pending, run.Proper)
    (items : List Item) :
    (pending.elim 0 fun run => 2 + run.values.bytes.length) + total Item.readCost items ≤
      total Subframe.size (coalesceFrom pending items) := by
  induction items generalizing pending with
  | nil => exact le_size_pending proper
  | cons item rest ih =>
    have waiting := le_size_pending proper
    have proceeds := proceeds_coalesceFrom pending item rest
    generalize coalesceFrom pending (item :: rest) = subframes at proceeds
    cases proceeds with
    | @longer register value run longer there extends_ =>
      have whole := (proper run there).extend extends_
      have later := ih (some longer) fun other same => by
        cases same
        exact whole
      obtain ⟨same, _, rfl⟩ := Run.extend?_eq_some extends_
      have bytes : (run.values.push value same).bytes.length =
          run.values.bytes.length + value.kind.size := by
        rw [Packed.push, List.length_append, Value.length_encode]
      rw [there, Option.elim_some, total_cons, Item.readCost]
      rw [Option.elim_some, bytes] at later
      omega
    | fresh register value =>
      have later := ih (some (.ofValue register value)) fun other same => by
        cases same
        exact Run.proper_ofValue register value
      have bytes : (Run.ofValue register value).values.bytes.length = value.kind.size :=
        value.length_encode
      rw [total_append, total_cons, Item.readCost]
      rw [Option.elim_some, bytes] at later
      omega
    | alone item =>
      have later := ih none (by simp)
      have own := item.le_size.1
      rw [total_append, total_cons, total_cons]
      rw [Option.elim_none] at later
      omega

/-- A complete reply takes at least what its items cost. -/
theorem total_readCost_le (items : List Item) :
    total Item.readCost items ≤ (complete items).length := by
  have least := le_size_coalesceFrom none nofun items
  rw [Option.elim_none, Nat.zero_add] at least
  rw [length_complete]
  exact least

end Multidrop.Reply
