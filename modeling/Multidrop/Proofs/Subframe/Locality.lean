import Multidrop.Proofs.Subframe.Walk

/-!
# What reading a subframe depends on

A subframe is read from its own bytes, wherever they stand and whatever follows them (`read_local`,
`placeless_read`). A walk over a payload therefore cuts it into parts that lie one behind the other
(`Tiles`): the calls of `Walk.next` give the subframes of the parts in order, then the error that is
met behind them, if one is, and then nothing (`Tiles.calls`, `Ends.calls`), and what comes later in
the payload changes none of this. `exists_cut` says so of every payload.
-/
namespace Multidrop.Subframe

/-! ## Places -/

/-- A reader is told a place, which matters to its errors alone. -/
def Placeless {α : Type} (reader : Nat → Except Error α) : Prop :=
  ∀ one other value, reader one = .ok value → reader other = .ok value

namespace Placeless

variable {α β : Type}

/-- A result is the same at every place. -/
theorem ok (value : α) : Placeless fun _ => .ok value := fun _ _ _ same => same

/-- There is no result at a flaw. -/
theorem flaw (flaw : Flaw) :
    Placeless fun place => (.error (.malformed place flaw) : Except Error α) := nofun

/-- Nor is there one at an unknown tag. -/
theorem unknown (tag : UInt32) :
    Placeless fun place => (.error (.unknown tag place) : Except Error α) := nofun

/-- Steps to which the place does not matter are together a step to which it does not. -/
theorem bind {first : Nat → Except Error α} {second : Nat → α → Except Error β}
    (one : Placeless first) (two : ∀ value, Placeless (second · value)) :
    Placeless fun place => first place >>= second place := by
  intro place other value found
  obtain ⟨middle, begun, ended⟩ := bind_eq_ok.1 found
  exact bind_eq_ok.2 ⟨middle, one place other middle begun, two middle place other value ended⟩

end Placeless

/-- The place does not matter to a number. -/
theorem placeless_readField (flaw : Flaw) (bytes : List UInt8) :
    Placeless (readField flaw · bytes) := by
  unfold readField
  cases Varuint.read bytes with
  | error error => exact .flaw _
  | ok found => exact .ok _

/-- Nor to a range. -/
theorem placeless_readRange (bytes : List UInt8) : Placeless (readRange · bytes) := by
  refine .bind (placeless_readField _ _) fun first => .bind (placeless_readField _ _) fun second => ?_
  dsimp only
  split
  · exact .ok _
  · exact .flaw _

/-- Nor to a register and its value. -/
theorem placeless_readCell (kind : Kind) (bytes : List UInt8) :
    Placeless (readCell · kind bytes) := by
  refine .bind (placeless_readField _ _) fun first => ?_
  dsimp only
  split
  · exact .ok _
  · exact .flaw _

/-- Nor to registers and their values. -/
theorem placeless_readCells (kind : Kind) (bytes : List UInt8) :
    Placeless (readCells · kind bytes) := by
  refine .bind (placeless_readRange _) fun first => ?_
  dsimp only
  split
  · exact .ok _
  · exact .flaw _

/-- Nor to a refusal. -/
theorem placeless_readRefusal (bytes : List UInt8) : Placeless (readRefusal · bytes) :=
  .bind (placeless_readField _ _) fun _ => .bind (placeless_readField _ _) fun _ => .ok _

/-- Nor to a channel and its bytes. -/
theorem placeless_readTunnel (bytes : List UInt8) : Placeless (readTunnel · bytes) := by
  refine .bind (placeless_readField _ _) fun first => .bind (placeless_readField _ _) fun second => ?_
  dsimp only
  split
  · exact .ok _
  · exact .flaw _

/-- Nor to what follows a tag. -/
theorem placeless_readBody (bytes : List UInt8) (form : Form) :
    Placeless (readBody · bytes form) := by
  cases form with
  | writeSingle kind | replySingle kind => exact .bind (placeless_readCell _ _) fun _ => .ok _
  | writeMultiple kind | replyMultiple kind => exact .bind (placeless_readCells _ _) fun _ => .ok _
  | readSingle kind => exact .bind (placeless_readField _ _) fun _ => .ok _
  | readMultiple kind => exact .bind (placeless_readRange _) fun _ => .ok _
  | writeError | readError => exact .bind (placeless_readRefusal _) fun _ => .ok _
  | clientToServer | serverToClient => exact .bind (placeless_readTunnel _) fun _ => .ok _

/-- Nor to a subframe. -/
theorem placeless_read (bytes : List UInt8) : Placeless (read · bytes) := by
  refine .bind (placeless_readField _ _) fun first => ?_
  dsimp only
  split
  · exact .unknown _
  · exact placeless_readBody _ _

/-- A subframe that is read takes two bytes at least: its tag, and one that says what it is about. -/
theorem length_read_le {offset : Nat} {bytes rest : List UInt8} {subframe : Subframe}
    (found : read offset bytes = .ok (subframe, rest)) : rest.length + 2 ≤ bytes.length := by
  simp only [read, bind_eq_ok] at found
  obtain ⟨⟨tag, between⟩, first, found⟩ := found
  have front := length_readField_lt first
  dsimp only at found
  cases named : Form.ofTag? tag with
  | none =>
    rw [named] at found
    cases found
  | some form =>
    rw [named] at found
    have body := length_readBody_lt found
    omega

/-! ## Parts of a payload -/

/-- Bytes with the subframe that they are read as, and where it begins. -/
abbrev Part : Type := List UInt8 × Located

/-- The bytes of parts, one behind the other. -/
def Part.bytes (parts : List Part) : List UInt8 := parts.flatMap Prod.fst

/-- Bytes are read as a subframe, wherever they stand and whatever follows them. -/
def Reads (bytes : List UInt8) (subframe : Subframe) : Prop :=
  ∀ place other, read place (bytes ++ other) = .ok (subframe, other)

/-- Parts lie one behind the other from an offset on, and each is read as its subframe. -/
inductive Tiles : Nat → List Part → Prop
  /-- There are no parts. -/
  | done {offset : Nat} : Tiles offset []
  /-- A part, and others that begin where it ends. -/
  | part {offset : Nat} {bytes : List UInt8} {subframe : Subframe} {parts : List Part}
      (reads : Reads bytes subframe) (behind : Tiles (offset + bytes.length) parts) :
      Tiles offset ((bytes, ⟨offset, subframe⟩) :: parts)

/-- How a walk ends. -/
inductive Ends (offset : Nat) : List UInt8 → Option Error → Prop
  /-- There are no more bytes. -/
  | exhausted : Ends offset [] none
  /-- What is left is read as an error. -/
  | stopped {rest : List UInt8} {error : Error} (some : rest ≠ [])
      (found : read offset rest = .error error) : Ends offset rest (.some error)

namespace Walk

/-- The calls of `next` in a row: where the walk stands before each, and what it gives. -/
def calls : Nat → Walk → List (Nat × Option (Except Error Subframe))
  | 0, _ => []
  | count + 1, walk => (walk.offset, walk.next.1) :: calls count walk.next.2

/-- A walk that is over gives nothing any more. -/
theorem calls_of_over {walk : Walk} (ended : walk.failed = true ∨ walk.rest = []) (count : Nat) :
    calls count walk = List.replicate count (walk.offset, none) := by
  have still : walk.next = (none, walk) := if_pos ended
  induction count with
  | zero => rfl
  | succ count ih => rw [calls, still, ih, List.replicate_succ]

end Walk

/-- What the call gives that meets a part. -/
def Part.call (part : Part) : Nat × Option (Except Error Subframe) :=
  (part.2.offset, some (.ok part.2.subframe))

variable {offset : Nat} {parts front back : List Part} {payload rest : List UInt8}
  {stop : Option Error}

namespace Tiles

/-- Every part is read as its subframe. -/
theorem reads (tiles : Tiles offset parts) : ∀ part ∈ parts, Reads part.1 part.2.subframe := by
  induction tiles with
  | done => nofun
  | part reads behind ih => exact List.forall_mem_cons.2 ⟨reads, ih⟩

/-- The first of some parts lie one behind the other as well. -/
theorem of_append (tiles : Tiles offset (front ++ back)) : Tiles offset front := by
  induction front generalizing offset with
  | nil => exact .done
  | cons part front ih =>
    cases tiles with
    | part reads behind => exact .part reads (ih behind)

/-- A part begins where those in front of it end. -/
theorem offset_eq {part : Part} (tiles : Tiles offset (front ++ part :: back)) :
    part.2.offset = offset + (Part.bytes front).length := by
  induction front generalizing offset with
  | nil =>
    cases tiles with
    | part reads behind => rfl
  | cons first front ih =>
    cases tiles with
    | part reads behind =>
      rw [ih behind, Part.bytes, Part.bytes, List.flatMap_cons, List.length_append, Nat.add_assoc]

/-- A walk meets the subframes of the parts, whatever follows them, and goes on behind them. -/
theorem contents (tiles : Tiles offset parts) (rest : List UInt8) :
    Walk.contents { offset, rest := Part.bytes parts ++ rest } =
      let tail := Walk.contents { offset := offset + (Part.bytes parts).length, rest }
      ⟨parts.map Prod.snd ++ tail.located, tail.stop⟩ := by
  induction tiles with
  | done => rfl
  | @part offset bytes subframe parts reads behind ih =>
    rw [Part.bytes, List.flatMap_cons, List.append_assoc, Walk.contents_of_read (reads offset _),
      List.length_append, Nat.add_sub_cancel, List.length_append, ← Nat.add_assoc]
    rw [Part.bytes] at ih
    rw [ih]
    rfl

/-- The calls of a walk give the subframes of the parts in order, whatever follows them, and then what
is behind them. -/
theorem calls (tiles : Tiles offset parts) (rest : List UInt8) (more : Nat) :
    Walk.calls (parts.length + more) { offset, rest := Part.bytes parts ++ rest } =
      parts.map Part.call ++
        Walk.calls more { offset := offset + (Part.bytes parts).length, rest } := by
  induction tiles with
  | done => rw [List.length_nil, Nat.zero_add]; rfl
  | @part offset bytes subframe parts reads behind ih =>
    rw [Part.bytes, List.flatMap_cons, List.append_assoc, List.length_cons, Nat.add_right_comm,
      Walk.calls, Walk.next_of_read (reads offset _), List.length_append, Nat.add_sub_cancel,
      List.length_append, ← Nat.add_assoc]
    exact congrArg _ ih

/-- The parts are those of a walk that meets their subframes, if each is read as its own. -/
theorem of_located
    (located : (Walk.contents { offset, rest := Part.bytes parts ++ rest }).located =
      parts.map Prod.snd)
    (spelt : ∀ part ∈ parts, part.2.Spelt part.1) : Tiles offset parts := by
  induction parts generalizing offset with
  | nil => exact .done
  | cons part parts ih =>
    obtain ⟨bytes, place, subframe⟩ := part
    obtain ⟨first, others⟩ := List.forall_mem_cons.1 spelt
    have reads : Reads bytes subframe :=
      fun elsewhere other => placeless_read _ place elsewhere _ (first other)
    rw [Part.bytes, List.flatMap_cons, List.append_assoc, Walk.contents_of_read (reads offset _),
      List.length_append, Nat.add_sub_cancel, List.map_cons] at located
    obtain ⟨same, tail⟩ := List.cons.inj located
    cases same
    exact .part reads (ih tail others)

end Tiles

/-- A walk cuts its bytes into parts, one behind the other, and a rest at which it ends. -/
theorem exists_tiles (offset : Nat) (bytes : List UInt8) :
    ∃ parts rest, bytes = Part.bytes parts ++ rest ∧ Tiles offset parts ∧
      Ends (offset + (Part.bytes parts).length) rest
        (Walk.contents { offset, rest := bytes }).stop := by
  obtain ⟨parts, rest, located, rfl, spelt, whole, stop⟩ := Walk.exists_parts offset bytes
  refine ⟨parts, rest, rfl, .of_located located spelt, ?_⟩
  cases met : (Walk.contents { offset, rest := parts.flatMap Prod.fst ++ rest }).stop with
  | none =>
    rw [whole met]
    exact .exhausted
  | some error => exact .stopped (stop error met).1 (stop error met).2

/-- What ends a walk ends its contents. -/
theorem Ends.contents (ends : Ends offset rest stop) :
    Walk.contents { offset, rest } = ⟨[], stop⟩ := by
  cases ends with
  | exhausted => exact Walk.contents_nil offset
  | stopped some found => exact Walk.contents_of_error some found

/-- At its end a walk gives the error there, if there is one, and nothing after it. -/
theorem Ends.calls (ends : Ends offset rest stop) (more : Nat) :
    Walk.calls (stop.toList.length + more) { offset, rest } =
      stop.toList.map (fun error => (offset, some (.error error))) ++
        List.replicate more (offset, none) := by
  cases ends with
  | exhausted =>
    rw [Option.toList_none, List.length_nil, Nat.zero_add]
    exact Walk.calls_of_over (.inr rfl) more
  | stopped some found =>
    rw [Option.toList_some, List.length_singleton, Nat.add_comm, Walk.calls,
      Walk.next_of_error some found, Walk.calls_of_over (.inl rfl)]
    rfl

/-! ## Cuts of a payload -/

/-- How a walk takes a payload apart, subframe by subframe. -/
structure Cut (payload : List UInt8) (parts : List Part) (stop : Option Error)
    (rest : List UInt8) : Prop where
  /-- The walk meets the subframes of the parts, and ends as said. -/
  contents : Contents.ofPayload payload = ⟨parts.map Prod.snd, stop⟩
  /-- The parts and the rest are the payload. -/
  whole : payload = Part.bytes parts ++ rest
  /-- There is a rest only where the walk stops at an error. -/
  ended : stop = none → rest = []
  /-- A subframe takes two bytes at least. -/
  two : ∀ part ∈ parts, 2 ≤ part.1.length
  /-- A subframe begins where the one in front of it ends. -/
  behind : ∀ front part back, parts = front ++ part :: back →
    part.2.offset = (Part.bytes front).length
  /-- A subframe is read from its own bytes, wherever they stand and whatever follows them. -/
  alone : ∀ part ∈ parts, Reads part.1 part.2.subframe
  /-- Whatever follows the first of the subframes, the first calls give these. -/
  kept : ∀ front back other, parts = front ++ back →
    Walk.calls front.length { rest := Part.bytes front ++ other } = front.map Part.call
  /-- The calls give the subframes in order, then the error, if there is one, and then nothing. -/
  calls : ∀ more, Walk.calls (parts.length + (stop.toList.length + more)) { rest := payload } =
    parts.map Part.call ++
      (stop.toList.map (fun error => ((Part.bytes parts).length, some (.error error))) ++
        List.replicate more ((Part.bytes parts).length, none))
  /-- An unknown tag is reported where its subframe begins. -/
  unknown : ∀ tag place, stop = some (.unknown tag place) → place = (Part.bytes parts).length ∧
    ∃ after, Varuint.read rest = .ok (tag, after) ∧ Form.ofTag? tag = none

/-- Parts that lie one behind the other, and what ends a walk behind them, are a cut. -/
theorem Tiles.cut (tiles : Tiles 0 parts) (ends : Ends (Part.bytes parts).length rest stop) :
    Cut (Part.bytes parts ++ rest) parts stop rest where
  contents := by
    rw [Contents.ofPayload, tiles.contents, Nat.zero_add, ends.contents]
    dsimp only
    rw [List.append_nil]
  whole := rfl
  ended none := by
    cases ends with
    | exhausted => rfl
    | stopped => cases none
  two part there := by
    have least := length_read_le (tiles.reads part there 0 [])
    rwa [List.length_nil, Nat.zero_add, List.append_nil] at least
  behind front part back same := by
    subst same
    rw [tiles.offset_eq, Nat.zero_add]
  alone := tiles.reads
  kept front back other same := by
    subst same
    have first := tiles.of_append.calls other 0
    rwa [Nat.add_zero, Walk.calls, List.append_nil] at first
  calls more := by rw [tiles.calls, Nat.zero_add, ends.calls]
  unknown tag place same := by
    subst same
    cases ends with
    | stopped some found => exact read_eq_unknown found

/-- Every payload is cut in this way. -/
theorem exists_cut (payload : List UInt8) :
    ∃ parts rest, Cut payload parts (Contents.ofPayload payload).stop rest := by
  obtain ⟨parts, rest, whole, tiles, ends⟩ := exists_tiles 0 payload
  rw [Nat.zero_add] at ends
  refine ⟨parts, rest, ?_⟩
  have cut := tiles.cut ends
  rwa [← whole] at cut

/-- The parts of a payload without the rest are cut into the same parts, without an error. -/
theorem Cut.bytes_parts (cut : Cut payload parts stop rest) :
    Cut (Part.bytes parts) parts none [] := by
  have tiles : Tiles 0 parts := by
    apply Tiles.of_located
    · have located := congrArg Contents.located cut.contents
      rw [cut.whole] at located
      exact located
    · exact fun part there other => cut.alone part there _ other
  have same := tiles.cut .exhausted
  rwa [List.append_nil] at same

end Multidrop.Subframe
