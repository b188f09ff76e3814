import Multidrop.Proofs.Value.Packed
import Multidrop.Proofs.Varuint
import Multidrop.Subframe.Walk

/-!
# Reading one subframe

Reading a subframe looks at the bytes of the subframe alone (`read_local`), an error names the place
where the subframe begins (`place_of_unknown`), and a subframe that its encoding can hold (`Fits`)
is read back as it was (`read_encode`).
-/
namespace Multidrop

/-- A form is found under its tag. -/
theorem Form.ofTag?_tag (form : Form) : ofTag? form.tag = some form := by
  cases form with
  | writeSingle kind | writeMultiple kind | readSingle kind | readMultiple kind
  | replySingle kind | replyMultiple kind => cases kind <;> rfl
  | writeError | readError | clientToServer | serverToClient => rfl

namespace Subframe

/-- A reader takes a front off some bytes, up to a rest, and takes the same front off when other
bytes follow. What it gives depends on these as stated. -/
def Splits {α : Type} (reader : List UInt8 → Except Error α) (result : List UInt8 → α)
    (bytes rest : List UInt8) : Prop :=
  ∃ front, bytes = front ++ rest ∧ ∀ other, reader (front ++ other) = .ok (result other)

variable {offset : Nat} {bytes rest : List UInt8}

/-! ## Bytes that follow -/

namespace Splits

variable {α β : Type} {between : List UInt8}

/-- A reader that takes nothing splits nothing off. -/
theorem done {reader : List UInt8 → Except Error α} {result : List UInt8 → α}
    (gives : ∀ other, reader other = .ok (result other)) : Splits reader result rest rest :=
  ⟨[], rfl, gives⟩

/-- Two readers in a row split off their fronts in a row. -/
theorem bind {first : List UInt8 → Except Error α} {middle : List UInt8 → α}
    {second : α → Except Error β} {result : List UInt8 → β}
    (one : Splits first middle bytes between)
    (two : Splits (fun other => second (middle other)) result between rest) :
    Splits (fun other => first other >>= second) result bytes rest := by
  obtain ⟨front, rfl, readFront⟩ := one
  obtain ⟨back, rfl, readBack⟩ := two
  refine ⟨front ++ back, (List.append_assoc _ _ _).symm, ?_⟩
  intro other
  rw [List.append_assoc]
  dsimp only
  rw [readFront]
  exact readBack other

end Splits

/-- A number is split off its bytes. -/
theorem readField_local {flaw : Flaw} {value : UInt32}
    (found : readField flaw offset bytes = .ok (value, rest)) :
    Splits (readField flaw offset) (value, ·) bytes rest := by
  unfold readField at found
  cases number : Varuint.read bytes with
  | error error =>
    rw [number] at found
    cases found
  | ok read =>
    rw [number] at found
    cases found
    obtain ⟨front, split, elsewhere⟩ := Varuint.read_local number
    refine ⟨front, split, ?_⟩
    intro other
    rw [readField, elsewhere]

/-- A range is split off its bytes. -/
theorem readRange_local {start : Register} {count : UInt32}
    (found : readRange offset bytes = .ok (start, count, rest)) :
    Splits (readRange offset) (start, count, ·) bytes rest := by
  simp only [readRange, bind_eq_ok] at found
  obtain ⟨⟨base, between⟩, first, ⟨size, last⟩, second, found⟩ := found
  dsimp only at second found
  by_cases inside : inRange base size = true
  · rw [if_pos inside] at found
    cases found
    apply (readField_local first).bind
    apply (readField_local second).bind
    exact .done fun other => if_pos inside
  · rw [if_neg inside] at found
    cases found

/-- A register and its value are split off their bytes. -/
theorem readCell_local {kind : Kind} {register : Register} {value : Value}
    (found : readCell offset kind bytes = .ok (register, value, rest)) :
    Splits (readCell offset kind) (register, value, ·) bytes rest := by
  simp only [readCell, bind_eq_ok] at found
  obtain ⟨⟨_, between⟩, first, found⟩ := found
  dsimp only at found
  cases second : Value.read kind between with
  | none =>
    rw [second] at found
    cases found
  | some pair =>
    rw [second] at found
    cases found
    apply (readField_local first).bind
    obtain ⟨front, split, elsewhere⟩ := Value.read_local second
    refine ⟨front, split, ?_⟩
    intro other
    dsimp only
    rw [elsewhere]

/-- Consecutive registers and their values are split off their bytes. -/
theorem readCells_local {kind : Kind} {start : Register} {values : Packed}
    (found : readCells offset kind bytes = .ok (start, values, rest)) :
    Splits (readCells offset kind) (start, values, ·) bytes rest := by
  simp only [readCells, bind_eq_ok] at found
  obtain ⟨⟨_, count, between⟩, first, found⟩ := found
  dsimp only at found
  cases second : Packed.read kind count.toNat between with
  | none =>
    rw [second] at found
    cases found
  | some pair =>
    rw [second] at found
    cases found
    apply (readRange_local first).bind
    obtain ⟨front, split, elsewhere⟩ := Packed.read_local second
    refine ⟨front, split, ?_⟩
    intro other
    dsimp only
    rw [elsewhere]

/-- A register and an error code are split off their bytes. -/
theorem readRefusal_local {register : Register} {code : UInt32}
    (found : readRefusal offset bytes = .ok (register, code, rest)) :
    Splits (readRefusal offset) (register, code, ·) bytes rest := by
  simp only [readRefusal, bind_eq_ok] at found
  obtain ⟨⟨_, between⟩, first, ⟨_, last⟩, second, found⟩ := found
  cases found
  apply (readField_local first).bind
  apply (readField_local second).bind
  exact .done fun other => rfl

/-- A channel and its bytes are split off their bytes. -/
theorem readTunnel_local {channel : UInt32} {data : List UInt8}
    (found : readTunnel offset bytes = .ok (channel, data, rest)) :
    Splits (readTunnel offset) (channel, data, ·) bytes rest := by
  simp only [readTunnel, bind_eq_ok] at found
  obtain ⟨⟨_, between⟩, first, ⟨count, last⟩, second, found⟩ := found
  dsimp only at second found
  by_cases enough : count.toNat ≤ last.length
  · rw [if_pos enough] at found
    cases found
    have size : (last.take count.toNat).length = count.toNat := List.length_take_of_le enough
    apply (readField_local first).bind
    apply (readField_local second).bind
    refine ⟨last.take count.toNat, (List.take_append_drop _ _).symm, ?_⟩
    intro other
    have fits : count.toNat ≤ (last.take count.toNat ++ other).length := by
      rw [List.length_append, size]
      exact Nat.le_add_right _ _
    dsimp only
    rw [if_pos fits, List.take_left' size, List.drop_left' size]
  · rw [if_neg enough] at found
    cases found

/-- The body of a form is split off its bytes. -/
theorem readBody_local {form : Form} {subframe : Subframe}
    (found : readBody offset bytes form = .ok (subframe, rest)) :
    Splits (readBody offset · form) (subframe, ·) bytes rest := by
  cases form with
  | writeSingle kind | replySingle kind =>
    obtain ⟨⟨_, _, _⟩, cell, same⟩ := bind_eq_ok.1 found
    cases same
    exact (readCell_local cell).bind (.done fun other => rfl)
  | writeMultiple kind | replyMultiple kind =>
    obtain ⟨⟨_, _, _⟩, cells, same⟩ := bind_eq_ok.1 found
    cases same
    exact (readCells_local cells).bind (.done fun other => rfl)
  | readSingle kind =>
    obtain ⟨⟨_, _⟩, field, same⟩ := bind_eq_ok.1 found
    cases same
    exact (readField_local field).bind (.done fun other => rfl)
  | readMultiple kind =>
    obtain ⟨⟨_, _, _⟩, range, same⟩ := bind_eq_ok.1 found
    cases same
    exact (readRange_local range).bind (.done fun other => rfl)
  | writeError | readError =>
    obtain ⟨⟨_, _, _⟩, refusal, same⟩ := bind_eq_ok.1 found
    cases same
    exact (readRefusal_local refusal).bind (.done fun other => rfl)
  | clientToServer | serverToClient =>
    obtain ⟨⟨_, _, _⟩, tunnel, same⟩ := bind_eq_ok.1 found
    cases same
    exact (readTunnel_local tunnel).bind (.done fun other => rfl)

/-- A subframe is split off its bytes, and is read as well in front of others. -/
theorem read_local {subframe : Subframe} (found : read offset bytes = .ok (subframe, rest)) :
    Splits (read offset) (subframe, ·) bytes rest := by
  simp only [read, bind_eq_ok] at found
  obtain ⟨⟨tag, between⟩, first, found⟩ := found
  dsimp only at found
  apply (readField_local first).bind
  cases named : Form.ofTag? tag with
  | none =>
    rw [named] at found
    cases found
  | some form =>
    rw [named] at found
    dsimp only
    rw [named]
    exact readBody_local found

/-! ## Places of errors -/

/-- Every error of a reader is a flaw at one place. -/
def Blames {α : Type} (offset : Nat) (result : Except Error α) : Prop :=
  ∀ error, result = .error error → ∃ flaw, error = .malformed offset flaw

namespace Blames

variable {α β : Type}

/-- A result is no error. -/
theorem ok (value : α) : Blames offset (.ok value) := nofun

/-- A flaw at the place is one. -/
theorem flaw (flaw : Flaw) : Blames offset (.error (.malformed offset flaw) : Except Error α) := by
  intro error same
  cases same
  exact ⟨flaw, rfl⟩

/-- Steps that blame a place do so together. -/
theorem bind {first : Except Error α} {second : α → Except Error β} (one : Blames offset first)
    (other : ∀ value, Blames offset (second value)) : Blames offset (first >>= second) := by
  intro error same
  cases first with
  | error found =>
    cases same
    exact one error rfl
  | ok value => exact other value error same

end Blames

/-- A missing number is a flaw at the place. -/
theorem blames_readField (flaw : Flaw) (offset : Nat) (bytes : List UInt8) :
    Blames offset (readField flaw offset bytes) := by
  unfold readField
  split
  · exact .ok _
  · exact .flaw _

/-- A missing range is a flaw at the place. -/
theorem blames_readRange (offset : Nat) (bytes : List UInt8) :
    Blames offset (readRange offset bytes) := by
  refine .bind (blames_readField _ _ _) fun first => .bind (blames_readField _ _ _) fun second => ?_
  dsimp only
  split
  · exact .ok _
  · exact .flaw _

/-- A missing register or value is a flaw at the place. -/
theorem blames_readCell (offset : Nat) (kind : Kind) (bytes : List UInt8) :
    Blames offset (readCell offset kind bytes) := by
  refine .bind (blames_readField _ _ _) fun first => ?_
  dsimp only
  split
  · exact .ok _
  · exact .flaw _

/-- Missing registers or values are a flaw at the place. -/
theorem blames_readCells (offset : Nat) (kind : Kind) (bytes : List UInt8) :
    Blames offset (readCells offset kind bytes) := by
  refine .bind (blames_readRange _ _) fun first => ?_
  dsimp only
  split
  · exact .ok _
  · exact .flaw _

/-- A missing refusal is a flaw at the place. -/
theorem blames_readRefusal (offset : Nat) (bytes : List UInt8) :
    Blames offset (readRefusal offset bytes) :=
  .bind (blames_readField _ _ _) fun _ => .bind (blames_readField _ _ _) fun _ => .ok _

/-- A missing channel or missing bytes are a flaw at the place. -/
theorem blames_readTunnel (offset : Nat) (bytes : List UInt8) :
    Blames offset (readTunnel offset bytes) := by
  refine .bind (blames_readField _ _ _) fun first => .bind (blames_readField _ _ _) fun second => ?_
  dsimp only
  split
  · exact .ok _
  · exact .flaw _

/-- What a body lacks is a flaw at the place. -/
theorem blames_readBody (offset : Nat) (bytes : List UInt8) (form : Form) :
    Blames offset (readBody offset bytes form) := by
  cases form with
  | writeSingle kind | replySingle kind => exact .bind (blames_readCell _ _ _) fun _ => .ok _
  | writeMultiple kind | replyMultiple kind => exact .bind (blames_readCells _ _ _) fun _ => .ok _
  | readSingle kind => exact .bind (blames_readField _ _ _) fun _ => .ok _
  | readMultiple kind => exact .bind (blames_readRange _ _) fun _ => .ok _
  | writeError | readError => exact .bind (blames_readRefusal _ _) fun _ => .ok _
  | clientToServer | serverToClient => exact .bind (blames_readTunnel _ _) fun _ => .ok _

/-- A tag is reported as unknown where its subframe begins, if it is read there and names no form. -/
theorem read_eq_unknown {tag : UInt32} {place : Nat}
    (unknown : read offset bytes = .error (.unknown tag place)) :
    place = offset ∧ ∃ after, Varuint.read bytes = .ok (tag, after) ∧ Form.ofTag? tag = none := by
  unfold read at unknown
  cases first : readField .tag offset bytes with
  | error error =>
    obtain ⟨flaw, rfl⟩ := blames_readField .tag offset bytes error first
    rw [first] at unknown
    cases unknown
  | ok found =>
    rw [first] at unknown
    simp only [bind, Except.bind] at unknown
    cases named : Form.ofTag? found.1 with
    | none =>
      rw [named] at unknown
      cases unknown
      refine ⟨rfl, found.2, ?_, named⟩
      unfold readField at first
      cases number : Varuint.read bytes with
      | error error =>
        rw [number] at first
        cases first
      | ok read =>
        rw [number] at first
        cases first
        rfl
    | some form =>
      rw [named] at unknown
      obtain ⟨_, impossible⟩ := blames_readBody offset _ form _ unknown
      cases impossible

/-- An unknown tag is reported where its subframe begins. -/
theorem place_of_unknown {tag : UInt32} {place : Nat}
    (unknown : read offset bytes = .error (.unknown tag place)) : place = offset :=
  (read_eq_unknown unknown).1

/-! ## Written subframes -/

/-- What the encoding of a subframe can hold: counts that fit their field, and registers that do
not run past the last one. -/
def Fits : Subframe → Prop
  | .writeMultiple start values | .replyMultiple start values =>
    values.count < Word.bound 32 ∧ inRange start (.ofNat values.count)
  | .readMultiple start count _ => inRange start count
  | .clientToServer _ data | .serverToClient _ data => data.length < Word.bound 32
  | _ => True

/-- A written count that fits its field is read back. -/
theorem toNat_count {count : Nat} (fits : count < Word.bound 32) :
    (UInt32.ofNat count).toNat = count := by
  rw [UInt32.toNat_ofNat']
  exact Nat.mod_eq_of_lt fits

/-- Registers that end with the last one at most are in range. -/
theorem inRange_of_le {start : Register} {count : UInt32}
    (reach : start.toNat + count.toNat ≤ Word.bound 32) : inRange start count = true := by
  have word : start.toNat < Word.bound 32 := start.toNat_lt
  rw [inRange, Bool.or_eq_true, decide_eq_true_eq, decide_eq_true_eq]
  right
  omega

/-- So are as many registers as a count says that fits its field. -/
theorem inRange_ofNat {start : Register} {count : Nat} (fits : count < Word.bound 32)
    (reach : start.toNat + count ≤ Word.bound 32) : inRange start (.ofNat count) = true := by
  apply inRange_of_le
  rw [toNat_count fits]
  exact reach

/-- A written number is read back as a field. -/
theorem readField_encode (flaw : Flaw) (offset : Nat) (value : UInt32) (rest : List UInt8) :
    readField flaw offset (Varuint.encode value ++ rest) = .ok (value, rest) := by
  rw [readField, Varuint.read_encode]

/-- A written range is read back. -/
theorem readRange_encode (offset : Nat) (rest : List UInt8) {start : Register} {count : UInt32}
    (inside : inRange start count) :
    readRange offset (Varuint.encode start ++ (Varuint.encode count ++ rest)) =
      .ok (start, count, rest) := by
  simp only [readRange, readField_encode, bind, Except.bind]
  rw [if_pos inside]

/-- A written register with its value is read back. -/
theorem readCell_encode (offset : Nat) (register : Register) (value : Value) (rest : List UInt8) :
    readCell offset value.kind (Varuint.encode register ++ (value.encode ++ rest)) =
      .ok (register, value, rest) := by
  simp only [readCell, readField_encode, Value.read_encode, bind, Except.bind]

/-- A written run is read back. -/
theorem readCells_encode (offset : Nat) (rest : List UInt8) {start : Register} {values : Packed}
    (few : values.count < Word.bound 32) (inside : inRange start (.ofNat values.count)) :
    readCells offset values.kind
        (Varuint.encode start ++ (countField values.count ++ (values.bytes ++ rest))) =
      .ok (start, values, rest) := by
  simp only [readCells, countField, readRange_encode _ _ inside, toNat_count few,
    Packed.read_bytes, bind, Except.bind]

/-- A written refusal is read back. -/
theorem readRefusal_encode (offset : Nat) (register : Register) (code : UInt32)
    (rest : List UInt8) :
    readRefusal offset (Varuint.encode register ++ (Varuint.encode code ++ rest)) =
      .ok (register, code, rest) := by
  simp only [readRefusal, readField_encode, bind, Except.bind]

/-- Written tunnel bytes are read back. -/
theorem readTunnel_encode (offset : Nat) (channel : UInt32) (rest : List UInt8)
    {data : List UInt8} (few : data.length < Word.bound 32) :
    readTunnel offset
        (Varuint.encode channel ++ (countField data.length ++ (data ++ rest))) =
      .ok (channel, data, rest) := by
  have enough : data.length ≤ (data ++ rest).length := by
    rw [List.length_append]
    exact Nat.le_add_right _ _
  simp only [readTunnel, countField, readField_encode, toNat_count few, bind, Except.bind]
  rw [if_pos enough, List.take_left, List.drop_left]

/-- What follows the tag is read back. -/
theorem readBody_encode (offset : Nat) {subframe : Subframe} (fits : subframe.Fits)
    (rest : List UInt8) :
    readBody offset (subframe.body ++ rest) subframe.form = .ok (subframe, rest) := by
  cases subframe with
  | writeSingle register value | replySingle register value =>
    simp only [form, body, readBody, List.append_assoc, readCell_encode, bind, Except.bind]
  | writeMultiple start values | replyMultiple start values =>
    simp only [form, body, readBody, List.append_assoc, readCells_encode _ _ fits.1 fits.2, bind,
      Except.bind]
  | readSingle register kind =>
    simp only [form, body, readBody, readField_encode, bind, Except.bind]
  | readMultiple start count kind =>
    simp only [form, body, readBody, List.append_assoc, readRange_encode _ _ fits, bind,
      Except.bind]
  | writeError register code | readError register code =>
    simp only [form, body, readBody, List.append_assoc, readRefusal_encode, bind, Except.bind]
  | clientToServer channel data | serverToClient channel data =>
    simp only [form, body, readBody, List.append_assoc, readTunnel_encode _ _ _ fits, bind,
      Except.bind]

/-- A written subframe is read back, with the bytes that follow it. -/
theorem read_encode (offset : Nat) {subframe : Subframe} (fits : subframe.Fits)
    (rest : List UInt8) : read offset (subframe.encode ++ rest) = .ok (subframe, rest) := by
  simp only [read, encode, tag, List.append_assoc, readField_encode, Form.ofTag?_tag,
    readBody_encode _ fits, bind, Except.bind]

/-- A subframe occupies the bytes that are counted for it. -/
theorem length_encode (subframe : Subframe) : subframe.encode.length = subframe.size := by
  cases subframe <;>
    simp only [encode, body, size, bodySize, countField, countSize, List.length_append,
      Varuint.length_encode, Value.length_encode]

end Subframe

end Multidrop
