import Multidrop.Proofs.Frame.RoundTrip
import Multidrop.Proofs.Varuint.Spelling

/-!
# The layout of a frame

The bytes of a frame are the header `54 ab`, the source byte, the destination, a spelling of the
payload's length, the payload and the checksum of all of these (`Layout`). Parsing accepts exactly
these bytes (`parse_eq_ok_iff`). Writing a frame behind the bytes of a buffer one field at a time
(`writeInto`) leaves these bytes as they are, whatever happens, and lays the frame out with the
shortest spelling of its length (`wire_form`).
-/
namespace Multidrop.Frame

/-- Bytes lay out a frame, with a given field for the length of its payload. -/
structure Layout (bytes field : List UInt8) (frame : Frame) : Prop where
  /-- The fields follow each other, and the checksum covers them all. The source byte is the source,
  raised by 128 if a reply is asked for. -/
  fields : ∃ source : UInt8,
    source.toNat = frame.source.toNat + (if frame.responseRequested then 128 else 0) ∧
      bytes = withChecksum ([0x54, 0xab, source, frame.destination] ++ field ++ frame.payload)
  /-- The source is a node id. -/
  id : frame.source.toNat < 128
  /-- The field spells the length of the payload. -/
  length : Varuint.Spells field frame.payload.length

/-- Write a frame behind the bytes of a buffer, one field at a time. The checksum covers what was
written of this frame. -/
def writeInto (buffer : List UInt8) (frame : Frame) : Except Error Unit × List UInt8 :=
  if maxId < frame.source then (.error (.invalidId frame.source), buffer)
  else if Word.bound 32 ≤ frame.payload.length then
    (.error (.payloadTooLarge frame.payload.length (Word.bound 32 - 1)), buffer)
  else
    let start := buffer.length
    let buffer := buffer ++ [headerFirst, headerSecond]
    let buffer := buffer ++ [if frame.responseRequested then frame.source ||| replyBit
      else frame.source]
    let buffer := buffer ++ [frame.destination]
    let buffer := buffer ++ Varuint.encode (.ofNat frame.payload.length)
    let buffer := buffer ++ frame.payload
    (.ok (), buffer ++ Word.bytes16 (Checksum.ofBody (buffer.drop start)))

variable {frame : Frame} {bytes field : List UInt8}

/-! ## The source byte -/

/-- A source byte holds a node id, raised by 128 if a reply is asked for. -/
theorem toNat_ofFields (source destination : UInt8) (payload : List UInt8) :
    (ofFields source destination payload).source.toNat < 128 ∧
      source.toNat = (ofFields source destination payload).source.toNat +
        (if (ofFields source destination payload).responseRequested then 128 else 0) := by
  have every : ∀ source : Fin 256, (UInt8.ofNat source.val &&& maxId).toNat < 128 ∧
      source.val = (UInt8.ofNat source.val &&& maxId).toNat +
        (if UInt8.ofNat source.val &&& replyBit ≠ 0 then 128 else 0) := by
    decide +kernel
  have bits := every ⟨source.toNat, source.toNat_lt⟩
  simp only [UInt8.ofNat_toNat] at bits
  simpa only [ofFields, decide_eq_true_eq] using bits

/-- The source byte that is written for a frame. -/
theorem toNat_sourceByte (small : frame.source ≤ maxId) :
    frame.sourceByte.toNat =
      frame.source.toNat + (if frame.responseRequested then 128 else 0) := by
  have sums := (toNat_ofFields frame.sourceByte frame.destination frame.payload).2
  rwa [ofFields_sourceByte small] at sums

/-! ## Parsing -/

/-- A layout has the bytes that are written, but for the field that spells the length. -/
theorem Layout.bytes_eq (layout : Layout bytes field frame) :
    bytes = withChecksum (headerFirst :: headerSecond :: frame.sourceByte :: frame.destination ::
      (field ++ frame.payload)) := by
  obtain ⟨source, sum, rfl⟩ := layout.fields
  have small : frame.source ≤ maxId := Nat.le_of_lt_succ layout.id
  have same : source = frame.sourceByte :=
    UInt8.toNat_inj.1 (sum.trans (toNat_sourceByte small).symm)
  rw [same, List.append_assoc]
  rfl

/-- Bytes are parsed as a frame exactly when they lay it out, with any spelling of the length. -/
theorem parse_eq_ok_iff : parse bytes = .ok frame ↔ ∃ field, Layout bytes field frame := by
  constructor
  · intro accepted
    obtain ⟨source, destination, rest, declared, payload, rfl, read, fits, rfl⟩ :=
      parts_of_parse accepted
    obtain ⟨field, rfl, spelled⟩ := Varuint.read_eq_ok_iff.1 read
    obtain ⟨small, sum⟩ := toNat_ofFields source destination payload
    refine ⟨field, ⟨source, sum, ?_⟩, small, fits ▸ spelled⟩
    rw [List.append_assoc]
    rfl
  · rintro ⟨field, layout⟩
    have small : frame.source ≤ maxId := Nat.le_of_lt_succ layout.id
    have word : (UInt32.ofNat frame.payload.length).toNat = frame.payload.length :=
      toNat_length layout.length.lt_bound
    have read : Varuint.read (field ++ frame.payload) =
        .ok (.ofNat frame.payload.length, frame.payload) :=
      Varuint.read_eq_ok_iff.2 ⟨field, rfl, word.symm ▸ layout.length⟩
    have parsed := @parse_of_body frame.sourceByte frame.destination _ _ _ _ rfl
      (carried_bytes16 _) read word
    rw [ofFields_sourceByte small] at parsed
    rw [layout.bytes_eq]
    exact parsed

/-! ## Writing -/

/-- Writing field by field appends the bytes of the frame, or leaves the buffer as it is. -/
theorem writeInto_eq (buffer : List UInt8) (frame : Frame) :
    writeInto buffer frame =
      match encodeOnto buffer frame with
      | .ok whole => (.ok (), whole)
      | .error error => (.error error, buffer) := by
  unfold writeInto encodeOnto encode
  by_cases large : maxId < frame.source
  · simp only [if_pos large, bind, Except.bind]
  by_cases long : Word.bound 32 ≤ frame.payload.length
  · simp only [if_neg large, if_pos long, bind, Except.bind]
  · simp only [if_neg large, if_neg long, bind, Except.bind, withChecksum, body, List.append_assoc,
      List.cons_append, List.nil_append, List.drop_left]

/-- A frame that can be written is appended to the buffer. -/
theorem writeInto_of_encode (buffer : List UInt8) (written : frame.encode = .ok bytes) :
    writeInto buffer frame = (.ok (), buffer ++ bytes) := by
  rw [writeInto_eq, encodeOnto, written]
  rfl

/-- A frame that is laid out can be written. -/
theorem Layout.encode_eq (layout : Layout bytes field frame) :
    frame.encode = .ok (withChecksum frame.body) :=
  encode_eq_ok.2 ⟨Nat.le_of_lt_succ layout.id, layout.length.lt_bound, rfl⟩

/-- A laid out frame is written as it is laid out exactly when its length is spelled in the shortest
way. -/
theorem Layout.written_iff (layout : Layout bytes field frame) :
    withChecksum frame.body = bytes ↔ Varuint.Shortest field := by
  have word : (UInt32.ofNat frame.payload.length).toNat = frame.payload.length :=
    toNat_length layout.length.lt_bound
  rw [Varuint.shortest_iff (word.symm ▸ layout.length), layout.bytes_eq]
  constructor
  · intro same
    have bodies := List.append_inj_left' same rfl
    simp only [body_eq, Frame.field, List.cons.injEq, true_and, List.append_left_inj] at bodies
    exact bodies.symm
  · rintro rfl
    rfl

/-- A frame is parsed from exactly the bytes that lay it out, is written into any buffer and parsed
back, and is written as it was just if its length was spelled shortest. -/
theorem wire_form (frame : Frame) (buffer bytes : List UInt8) :
    (parse bytes = .ok frame ↔ ∃ field, Layout bytes field frame) ∧
    (frame.source.toNat < 128 → frame.payload.length < Word.bound 32 →
      ∃ written, writeInto buffer frame = (.ok (), buffer ++ written) ∧
        written.length = frame.wireSize ∧ written.length ≤ maxSize frame.payload.length ∧
        parse written = .ok frame) ∧
    (∀ field, Layout bytes field frame →
      (writeInto buffer frame = (.ok (), buffer ++ bytes) ↔ Varuint.Shortest field)) ∧
    (128 ≤ frame.source.toNat →
      writeInto buffer frame = (.error (.invalidId frame.source), buffer)) := by
  refine ⟨parse_eq_ok_iff, fun small short => ?_, fun field layout => ?_, fun large => ?_⟩
  · have written : frame.encode = .ok (withChecksum frame.body) :=
      encode_eq_ok.2 ⟨Nat.le_of_lt_succ small, short, rfl⟩
    refine ⟨_, writeInto_of_encode buffer written, ?_, length_encode_le written,
      parse_encode written⟩
    rw [withChecksum, List.length_append, length_body]
    rfl
  · rw [writeInto_of_encode buffer layout.encode_eq, ← layout.written_iff, Prod.mk.injEq,
      List.append_right_inj]
    exact and_iff_right rfl
  · rw [writeInto, if_pos (show maxId < frame.source from large)]

/-- A frame whose length is spelled in two bytes where one is enough is parsed, and is written in
one; from a source of eight bits it is not written at all. -/
theorem wire_form_of_padded :
    let frame : Frame := ⟨1, true, 2, [0x30]⟩
    let padded := withChecksum [0x54, 0xab, 0x81, 0x02, 0x81, 0x00, 0x30]
    parse padded = .ok frame ∧ writeInto [0x07] frame ≠ (.ok (), [0x07] ++ padded) ∧
      (∃ written, writeInto [0x07] frame = (.ok (), [0x07] ++ written) ∧ written.length = 8 ∧
        parse written = .ok frame) ∧
      writeInto [0x07] { frame with source := 200 } = (.error (.invalidId 200), [0x07]) := by
  intro frame padded
  have spelled : Varuint.Spells [0x81, 0x00] 1 :=
    ⟨⟨[0x81], 0x00, rfl, List.forall_mem_singleton.2 (by decide), by decide⟩, by decide, nofun,
      by decide⟩
  have shorter : Varuint.Spells [0x01] 1 :=
    ⟨⟨[], 0x01, rfl, nofun, by decide⟩, by decide, nofun, by decide⟩
  have layout : Layout padded [0x81, 0x00] frame := ⟨⟨0x81, by decide, rfl⟩, by decide, spelled⟩
  obtain ⟨parsed, appended, again, -⟩ := wire_form frame [0x07] padded
  obtain ⟨written, whole, size, -, back⟩ := appended (by decide) (by decide)
  refine ⟨parsed.2 ⟨_, layout⟩, fun same => ?_, ⟨written, whole, size, back⟩,
    (wire_form { frame with source := 200 } [0x07] padded).2.2.2 (by decide)⟩
  exact absurd ((again _ layout).1 same [0x01] 1 spelled shorter) (by decide)

end Multidrop.Frame
