import Multidrop.Proofs.Subframe.Walk

/-!
# Subframes in their shortest form

Numbers in a payload may be padded, so a payload is not the only one with its subframes. Written
again, its subframes take no more bytes, are read back as they were, and make up the payload itself
if they take no fewer (`written_and_read`). Everything else in a subframe is written in one way only,
so a subframe is as long as its shortest form exactly when none of its numbers is padded
(`read_shortens`).
-/
namespace Multidrop

/-- A form that is found under a number has that number. -/
theorem Form.number_of_ofNumber? {number : Nat} {form : Form}
    (found : ofNumber? number = some form) : form.number = number := by
  have index {place : Nat} {kind : Kind} (known : Kind.ofIndex? place = some kind) :
      kind.index = place := by
    unfold Kind.ofIndex? at known
    split at known <;> cases known <;> rfl
  have whole := Nat.div_add_mod number 4
  unfold ofNumber? at found
  split at found
  case h_11 => cases found
  case h_1 | h_2 | h_3 | h_4 | h_5 | h_6 =>
    rename_i group
    obtain ⟨kind, known, rfl⟩ := Option.map_eq_some_iff.1 found
    have place := index known
    simp only [Form.number]
    omega
  all_goals
    cases found
    simp only [Form.number]
    omega

/-- A form that is found under a tag has that tag. -/
theorem Form.tag_of_ofTag? {tag : UInt32} {form : Form} (found : ofTag? tag = some form) :
    form.tag = tag := by
  rw [Form.tag, number_of_ofNumber? found, UInt32.ofNat_toNat]

namespace Subframe

variable {offset : Nat} {bytes rest : List UInt8}

/-- What is written for a field that was read takes no more room. -/
theorem readField_shortens {flaw : Flaw} {value : UInt32}
    (found : readField flaw offset bytes = .ok (value, rest)) :
    Shortens (Varuint.encode value) bytes rest := by
  unfold readField at found
  cases number : Varuint.read bytes with
  | error error =>
    rw [number] at found
    cases found
  | ok pair =>
    rw [number] at found
    cases found
    exact Varuint.shortens_of_read number

/-- A range that was read stays within the register numbers, and what is written for it takes no
more room. -/
theorem readRange_shortens {start : Register} {count : UInt32}
    (found : readRange offset bytes = .ok (start, count, rest)) :
    inRange start count ∧
      Shortens (Varuint.encode start ++ Varuint.encode count) bytes rest := by
  simp only [readRange, bind_eq_ok] at found
  obtain ⟨⟨base, between⟩, first, ⟨size, last⟩, second, found⟩ := found
  dsimp only at second found
  by_cases inside : inRange base size = true
  · rw [if_pos inside] at found
    cases found
    exact ⟨inside, (readField_shortens first).append (readField_shortens second)⟩
  · rw [if_neg inside] at found
    cases found

/-- What is written for a register and its value takes no more room, and the value has the kind that
was asked for. -/
theorem readCell_shortens {kind : Kind} {register : Register} {value : Value}
    (found : readCell offset kind bytes = .ok (register, value, rest)) :
    value.kind = kind ∧ Shortens (Varuint.encode register ++ value.encode) bytes rest := by
  simp only [readCell, bind_eq_ok] at found
  obtain ⟨⟨_, between⟩, first, found⟩ := found
  dsimp only at found
  cases second : Value.read kind between with
  | none =>
    rw [second] at found
    cases found
  | some pair =>
    rw [second] at found
    cases found
    exact ⟨(Value.read_eq_some second).1,
      (readField_shortens first).append (.of_eq (Value.eq_encode_of_read second))⟩

/-- What is written for a run of registers takes no more room; the run has the kind that was asked
for, and its subframe can hold it. -/
theorem readCells_shortens {kind : Kind} {start : Register} {values : Packed}
    (found : readCells offset kind bytes = .ok (start, values, rest)) :
    values.kind = kind ∧
      (values.count < Word.bound 32 ∧ inRange start (.ofNat values.count)) ∧
      Shortens (Varuint.encode start ++ countField values.count ++ values.bytes) bytes rest := by
  simp only [readCells, bind_eq_ok] at found
  obtain ⟨⟨_, count, between⟩, first, found⟩ := found
  dsimp only at found
  cases second : Packed.read kind count.toNat between with
  | none =>
    rw [second] at found
    cases found
  | some pair =>
    rw [second] at found
    cases found
    obtain ⟨inside, range⟩ := readRange_shortens first
    obtain ⟨same, counted, split⟩ := Packed.eq_bytes_of_read second
    rw [countField, counted, UInt32.ofNat_toNat]
    exact ⟨same, ⟨count.toNat_lt, inside⟩, range.append (.of_eq split)⟩

/-- What is written for a refusal takes no more room. -/
theorem readRefusal_shortens {register : Register} {code : UInt32}
    (found : readRefusal offset bytes = .ok (register, code, rest)) :
    Shortens (Varuint.encode register ++ Varuint.encode code) bytes rest := by
  simp only [readRefusal, bind_eq_ok] at found
  obtain ⟨⟨_, between⟩, first, ⟨_, last⟩, second, found⟩ := found
  cases found
  exact (readField_shortens first).append (readField_shortens second)

/-- What is written for tunnel bytes takes no more room, and their count fits its field. -/
theorem readTunnel_shortens {channel : UInt32} {data : List UInt8}
    (found : readTunnel offset bytes = .ok (channel, data, rest)) :
    data.length < Word.bound 32 ∧
      Shortens (Varuint.encode channel ++ countField data.length ++ data) bytes rest := by
  simp only [readTunnel, bind_eq_ok] at found
  obtain ⟨⟨_, between⟩, first, ⟨count, last⟩, second, found⟩ := found
  dsimp only at second found
  by_cases enough : count.toNat ≤ last.length
  · rw [if_pos enough] at found
    cases found
    rw [countField, List.length_take_of_le enough, UInt32.ofNat_toNat]
    exact ⟨count.toNat_lt, ((readField_shortens first).append (readField_shortens second)).append
      (.of_eq (List.take_append_drop _ _).symm)⟩
  · rw [if_neg enough] at found
    cases found

/-- A subframe that was read from the body of a form has that form, its encoding can hold it, and
its body takes no more room. -/
theorem readBody_shortens {form : Form} {subframe : Subframe}
    (found : readBody offset bytes form = .ok (subframe, rest)) :
    subframe.form = form ∧ subframe.Fits ∧ Shortens subframe.body bytes rest := by
  cases form with
  | writeSingle kind | replySingle kind =>
    obtain ⟨⟨_, _, _⟩, cell, same⟩ := bind_eq_ok.1 found
    cases same
    obtain ⟨rfl, written⟩ := readCell_shortens cell
    exact ⟨rfl, trivial, written⟩
  | writeMultiple kind | replyMultiple kind =>
    obtain ⟨⟨_, _, _⟩, cells, same⟩ := bind_eq_ok.1 found
    cases same
    obtain ⟨rfl, fits, written⟩ := readCells_shortens cells
    exact ⟨rfl, fits, written⟩
  | readSingle kind =>
    obtain ⟨⟨_, _⟩, field, same⟩ := bind_eq_ok.1 found
    cases same
    exact ⟨rfl, trivial, readField_shortens field⟩
  | readMultiple kind =>
    obtain ⟨⟨_, _, _⟩, range, same⟩ := bind_eq_ok.1 found
    cases same
    obtain ⟨inside, written⟩ := readRange_shortens range
    exact ⟨rfl, inside, written⟩
  | writeError | readError =>
    obtain ⟨⟨_, _, _⟩, refusal, same⟩ := bind_eq_ok.1 found
    cases same
    exact ⟨rfl, trivial, readRefusal_shortens refusal⟩
  | clientToServer | serverToClient =>
    obtain ⟨⟨_, _, _⟩, tunnel, same⟩ := bind_eq_ok.1 found
    cases same
    obtain ⟨fits, written⟩ := readTunnel_shortens tunnel
    exact ⟨rfl, fits, written⟩

/-- The encoding of a subframe that was read can hold it, and takes no more room. -/
theorem read_shortens {subframe : Subframe} (found : read offset bytes = .ok (subframe, rest)) :
    subframe.Fits ∧ Shortens subframe.encode bytes rest := by
  simp only [read, bind_eq_ok] at found
  obtain ⟨⟨tag, between⟩, first, found⟩ := found
  dsimp only at found
  cases named : Form.ofTag? tag with
  | none =>
    rw [named] at found
    cases found
  | some form =>
    rw [named] at found
    obtain ⟨same, fits, body⟩ := readBody_shortens found
    refine ⟨fits, ?_⟩
    rw [encode, Subframe.tag, same, Form.tag_of_ofTag? named]
    exact (readField_shortens first).append body

/-- The encodings of the subframes that a walk meets, if it meets nothing else, can hold them, and
together take no more room. -/
theorem Walk.contents_shortens (offset : Nat) (bytes : List UInt8)
    (whole : (contents { offset, rest := bytes }).stop = none) :
    (∀ subframe ∈ (contents { offset, rest := bytes }).subframes, subframe.Fits) ∧
      Shortens ((contents { offset, rest := bytes }).subframes.flatMap encode) bytes [] := by
  induction left : bytes.length using Nat.strongRecOn generalizing offset bytes with
  | ind count ih =>
    by_cases none : bytes = []
    · rw [none, contents_nil]
      exact ⟨fun _ there => absurd there List.not_mem_nil, .of_eq rfl⟩
    · cases found : read offset bytes with
      | error error =>
        rw [contents_of_error none found] at whole
        cases whole
      | ok pair =>
        obtain ⟨subframe, rest⟩ := pair
        rw [contents_of_read found] at whole ⊢
        obtain ⟨fits, first⟩ := read_shortens found
        obtain ⟨others, more⟩ :=
          ih rest.length (left ▸ length_read_lt found) _ rest whole rfl
        exact ⟨List.forall_mem_cons.2 ⟨fits, others⟩, first.append more⟩

/-- The encodings of the subframes of a payload can hold them, and together take no more room than the
payload, wherever the walk over it ends. -/
theorem Contents.total_size_le (payload : List UInt8) :
    (∀ subframe ∈ (ofPayload payload).subframes, subframe.Fits) ∧
      total size (ofPayload payload).subframes ≤ payload.length := by
  obtain ⟨parts, rest, located, split, spelt, _⟩ := Walk.exists_parts 0 payload
  have subframes : (ofPayload payload).subframes = parts.map fun part => part.2.subframe := by
    rw [Contents.subframes, ofPayload, located, List.map_map]
    rfl
  have each : ∀ part ∈ parts, part.2.subframe.Fits ∧ part.2.subframe.size ≤ part.1.length := by
    intro part there
    obtain ⟨fits, shorter⟩ := read_shortens (spelt part there [])
    have room := shorter.le
    rw [length_encode, List.append_nil, List.length_nil] at room
    exact ⟨fits, room⟩
  rw [subframes]
  constructor
  · intro subframe there
    obtain ⟨part, inside, rfl⟩ := List.mem_map.1 there
    exact (each part inside).1
  · calc total size (parts.map fun part => part.2.subframe)
        = total (fun part => part.2.subframe.size) parts := total_map _ _ _
      _ ≤ total (fun part => part.1.length) parts :=
        total_mono fun part there => (each part there).2
      _ ≤ payload.length := by
        rw [total_length]
        conv => rhs; rw [split, List.length_append]
        exact Nat.le_add_right _ _

/-- The subframes of a payload that consists of subframes are written again in no more bytes, in the
same bytes if in as many, and are read back as they were. -/
theorem Contents.rewritten {payload : List UInt8} (whole : (ofPayload payload).stop = none) :
    let again := (ofPayload payload).subframes.flatMap encode
    again.length ≤ payload.length ∧ (again.length = payload.length → again = payload) ∧
      (ofPayload again).subframes = (ofPayload payload).subframes ∧
      (ofPayload again).stop = none := by
  intro again
  obtain ⟨fit, le, eq⟩ := Walk.contents_shortens 0 payload whole
  rw [List.length_nil, Nat.add_zero] at le eq
  rw [List.append_nil] at eq
  exact ⟨le, fun length => (eq length).symm, ofPayload_flatMap fit⟩

/-- Subframes are read back from the bytes that are counted for them, and those that any payload is
read as are written again in no more bytes. -/
theorem written_and_read :
    (∀ subframes : List Subframe, (∀ subframe ∈ subframes, subframe.Fits) →
      (∀ subframe ∈ subframes, subframe.encode.length = subframe.size) ∧
        (Contents.ofPayload (subframes.flatMap encode)).subframes = subframes ∧
        (Contents.ofPayload (subframes.flatMap encode)).stop = none) ∧
    ∀ payload : List UInt8, (Contents.ofPayload payload).stop = none →
      let again := (Contents.ofPayload payload).subframes.flatMap encode
      again.length ≤ payload.length ∧ (again.length = payload.length → again = payload) ∧
        (Contents.ofPayload again).subframes = (Contents.ofPayload payload).subframes ∧
        (Contents.ofPayload again).stop = none :=
  ⟨fun _ fit => ⟨fun subframe _ => subframe.length_encode, Contents.ofPayload_flatMap fit⟩,
    fun _ whole => Contents.rewritten whole⟩

/-- A run up to the last register and tunnel bytes are read back, and a read of a register in longer
numbers than need be is written again in fewer bytes. -/
theorem written_and_read_of_padded :
    let run : Packed := ⟨.int16, [1, 0, 2, 0], rfl⟩
    let subframes : List Subframe := [.replyMultiple 0xfffffffe run, .clientToServer 300 [7]]
    let padded : List UInt8 := [0x98, 0x00, 0x85, 0x80, 0x00]
    (Contents.ofPayload (subframes.flatMap encode)).subframes = subframes ∧
      (Contents.ofPayload padded).subframes.flatMap encode = [0x18, 0x05] ∧
      (Contents.ofPayload [0x18, 0x05]).subframes = (Contents.ofPayload padded).subframes := by
  intro run subframes padded
  have fit : ∀ subframe ∈ subframes, subframe.Fits :=
    List.forall_mem_cons.2 ⟨⟨by decide +kernel, by decide +kernel⟩,
      List.forall_mem_singleton.2 (show [7].length < Word.bound 32 by decide)⟩
  have shortest : (Contents.ofPayload padded).subframes.flatMap encode = [0x18, 0x05] := by
    decide +kernel
  obtain ⟨_, same, _⟩ := written_and_read.1 subframes fit
  obtain ⟨_, _, again, _⟩ := written_and_read.2 padded (by decide +kernel)
  rw [shortest] at again
  exact ⟨same, shortest, again⟩

end Subframe

end Multidrop
