import Multidrop.Proofs.Frame.Decoder
import Multidrop.Proofs.Word

/-!
# Written frames are read back

A frame that can be written is the one that parsing its bytes returns (`parse_encode`). A frame that
parsing accepts is the one that a pass finds at the front of a buffer that begins with its bytes
(`pass_of_parse`, `pass_encode`). A buffer that holds only a part of them is left as it is
(`pass_front`).
-/
namespace Multidrop.Frame

variable {frame : Frame} {bytes : List UInt8}

/-- The source byte of a written frame. -/
def sourceByte (frame : Frame) : UInt8 :=
  if frame.responseRequested then frame.source ||| replyBit else frame.source

/-- The length field of a written frame and what follows it in the body. -/
def field (frame : Frame) : List UInt8 :=
  Varuint.encode (.ofNat frame.payload.length) ++ frame.payload

/-! ## The fields of a frame -/

/-- A frame is written exactly when its source has seven bits and its length field 32. -/
theorem encode_eq_ok : frame.encode = .ok bytes ↔
    frame.source ≤ maxId ∧ frame.payload.length < Word.bound 32 ∧
      bytes = withChecksum frame.body := by
  unfold encode
  by_cases large : maxId < frame.source
  · rw [if_pos large]
    constructor
    · nofun
    · rintro ⟨small, _⟩
      exact absurd large (UInt8.not_lt.2 small)
  · rw [if_neg large]
    by_cases long : Word.bound 32 ≤ frame.payload.length
    · rw [if_pos long]
      constructor
      · nofun
      · rintro ⟨_, short, _⟩
        exact absurd long (Nat.not_le_of_lt short)
    · rw [if_neg long, Except.ok.injEq]
      exact ⟨fun same => ⟨UInt8.not_lt.1 large, Nat.lt_of_not_le long, same.symm⟩,
        fun written => written.2.2.symm⟩

/-- A written frame has bytes. -/
theorem encode_ne_nil (written : frame.encode = .ok bytes) : bytes ≠ [] := by
  obtain ⟨_, _, rfl⟩ := encode_eq_ok.1 written
  exact List.cons_ne_nil _ _

/-- The source byte of a frame holds its source and its flag. -/
theorem ofFields_sourceByte (small : frame.source ≤ maxId) :
    ofFields frame.sourceByte frame.destination frame.payload = frame := by
  have every : ∀ source : Fin 256, source.val ≤ 127 →
      (UInt8.ofNat source.val ||| replyBit) &&& maxId = UInt8.ofNat source.val ∧
        (UInt8.ofNat source.val ||| replyBit) &&& replyBit ≠ 0 ∧
        UInt8.ofNat source.val &&& maxId = UInt8.ofNat source.val ∧
        UInt8.ofNat source.val &&& replyBit = 0 := by
    decide +kernel
  have bits := every ⟨frame.source.toNat, frame.source.toNat_lt⟩ small
  simp only [UInt8.ofNat_toNat] at bits
  obtain ⟨flagged, raised, plain, lowered⟩ := bits
  obtain ⟨source, responseRequested, destination, payload⟩ := frame
  cases responseRequested with
  | true => simp [ofFields, sourceByte, flagged, raised]
  | false => simp [ofFields, sourceByte, plain, lowered]

/-- The body of a frame begins with the header and the addresses. -/
theorem body_eq (frame : Frame) :
    frame.body =
      headerFirst :: headerSecond :: frame.sourceByte :: frame.destination :: frame.field := rfl

/-- The bytes of a checksum are those of the word they carry. -/
theorem carried_bytes16 (word : UInt16) : carried (Word.bytes16 word) = word :=
  Word.of16_bytes word

/-- The body takes what is counted for its parts. -/
theorem length_body (frame : Frame) :
    frame.body.length =
      headerSize + Varuint.size (.ofNat frame.payload.length) + frame.payload.length := by
  rw [body_eq]
  simp only [field, List.length_cons, List.length_append, Varuint.length_encode, headerSize]
  omega

/-- A written frame takes no more than the largest frame with a payload of its size. -/
theorem length_encode_le (written : frame.encode = .ok bytes) :
    bytes.length ≤ maxSize frame.payload.length := by
  obtain ⟨_, _, rfl⟩ := encode_eq_ok.1 written
  have size := Varuint.size_le (.ofNat frame.payload.length)
  rw [withChecksum, List.length_append, length_body]
  simp only [maxSize, Word.bytes16, List.length_cons, List.length_nil, checksumSize]
  omega

/-- The length of a payload that a frame can hold is read back. -/
theorem toNat_length (short : frame.payload.length < Word.bound 32) :
    (UInt32.ofNat frame.payload.length).toNat = frame.payload.length := by
  rw [UInt32.toNat_ofNat']
  exact Nat.mod_eq_of_lt short

/-! ## Reading a written frame -/

/-- Bytes of a body with its checksum behind them are parsed if the body's length field fits. -/
theorem parse_of_body {source destination : UInt8} {field payload trailer : List UInt8}
    {declared : UInt32} (pair : trailer.length = checksumSize)
    (sound : carried trailer =
      Checksum.ofBody (headerFirst :: headerSecond :: source :: destination :: field))
    (length : Varuint.read field = .ok (declared, payload))
    (fits : declared.toNat = payload.length) :
    parse ((headerFirst :: headerSecond :: source :: destination :: field) ++ trailer) =
      .ok (ofFields source destination payload) := by
  generalize content : headerFirst :: headerSecond :: source :: destination :: field = body
    at sound ⊢
  have some := Varuint.length_read_lt length
  have size : (body ++ trailer).length - checksumSize = body.length := by
    rw [List.length_append, pair, Nat.add_sub_cancel]
  have enough : ¬(body ++ trailer).length < minSize := by
    rw [List.length_append, pair, ← content]
    simp only [List.length_cons, minSize, headerSize, checksumSize]
    omega
  unfold parse
  rw [if_neg enough, size, List.take_left, List.drop_left]
  simp only [if_neg (not_not_intro sound)]
  rw [← content]
  simp only [ne_eq, not_true_eq_false, or_self, if_false, length, fits]

/-- A checksum that is not the one computed is reported before anything else is looked at. -/
theorem parse_of_mismatch (long : minSize ≤ bytes.length)
    (wrong : carried (bytes.drop (bytes.length - checksumSize)) ≠
      Checksum.ofBody (bytes.take (bytes.length - checksumSize))) :
    parse bytes = .error (.checksumMismatch (carried (bytes.drop (bytes.length - checksumSize)))
      (Checksum.ofBody (bytes.take (bytes.length - checksumSize)))) := by
  unfold parse
  rw [if_neg (Nat.not_lt_of_le long)]
  simp only [if_pos wrong]
  rfl

/-- A written frame is parsed back. -/
theorem parse_encode (written : frame.encode = .ok bytes) : parse bytes = .ok frame := by
  obtain ⟨small, short, rfl⟩ := encode_eq_ok.1 written
  have parsed := parse_of_body rfl (carried_bytes16 (Checksum.ofBody frame.body))
    (Varuint.read_encode _ _) (toNat_length short)
  rw [withChecksum]
  exact parsed.trans (congrArg Except.ok (ofFields_sourceByte small))

/-- Two bytes are those of the word they carry. -/
theorem bytes16_carried {trailer : List UInt8} (pair : trailer.length = checksumSize) :
    Word.bytes16 (carried trailer) = trailer :=
  match trailer, pair with
  | [low, high], _ => Word.bytes16_of16 low high

/-- What parsing a frame has found out about its bytes. -/
theorem parts_of_parse (accepted : parse bytes = .ok frame) :
    ∃ source destination rest declared payload,
      bytes = withChecksum (headerFirst :: headerSecond :: source :: destination :: rest) ∧
      Varuint.read rest = .ok (declared, payload) ∧ declared.toNat = payload.length ∧
      frame = ofFields source destination payload := by
  unfold parse at accepted
  by_cases short : bytes.length < minSize
  · rw [if_pos short] at accepted
    cases accepted
  rw [if_neg short] at accepted
  by_cases sound : carried (bytes.drop (bytes.length - checksumSize)) =
      Checksum.ofBody (bytes.take (bytes.length - checksumSize))
  case neg => simp [bind, Except.bind, sound] at accepted
  have whole : bytes = withChecksum (bytes.take (bytes.length - checksumSize)) := by
    have pair : (bytes.drop (bytes.length - checksumSize)).length = checksumSize := by
      simp only [minSize, headerSize, checksumSize] at short ⊢
      rw [List.length_drop]
      omega
    rw [withChecksum, ← sound, bytes16_carried pair, List.take_append_drop]
  generalize bytes.take (bytes.length - checksumSize) = content at accepted sound whole
  simp only [sound, ne_eq, not_true_eq_false, if_false] at accepted
  split at accepted
  case h_2 => cases accepted
  case h_1 first second source destination rest =>
    by_cases header : first ≠ headerFirst ∨ second ≠ headerSecond
    · simp [bind, Except.bind, header] at accepted
    obtain ⟨rfl, rfl⟩ : first = headerFirst ∧ second = headerSecond := by
      simpa only [not_or, ne_eq, Decidable.not_not] using header
    simp only [not_true_eq_false, or_self, if_false] at accepted
    cases length : Varuint.read rest with
    | error error =>
      rw [length] at accepted
      cases accepted
    | ok pair =>
      obtain ⟨declared, payload⟩ := pair
      rw [length] at accepted
      dsimp only at accepted
      by_cases fits : declared.toNat = payload.length
      case neg => simp [bind, Except.bind, fits] at accepted
      simp only [fits, not_true_eq_false, if_false] at accepted
      cases accepted
      exact ⟨source, destination, rest, declared, payload, whole, length, fits, rfl⟩

/-! ## Frames at the front of a buffer -/

/-- Bytes that are parsed as a frame are what stands at their front. -/
theorem recognize_of_parse {limit : Nat} (accepted : parse bytes = .ok frame)
    (fits : frame.payload.length ≤ limit) :
    recognize limit bytes = (.frame frame, bytes.length) := by
  obtain ⟨source, destination, rest, declared, payload, rfl, read, length, rfl⟩ :=
    parts_of_parse accepted
  let body := headerFirst :: headerSecond :: source :: destination :: rest
  let trailer := Word.bytes16 (Checksum.ofBody body)
  obtain ⟨used, decoded, inside, split⟩ := Varuint.decode_of_read trailer read
  have whole : withChecksum body =
      headerFirst :: headerSecond :: source :: destination :: (rest ++ trailer) := rfl
  have rest_length : rest.length = used + payload.length := by
    have dropped := congrArg List.length split
    rw [List.length_drop] at dropped
    omega
  have size : headerSize + used + declared.toNat = body.length := by
    simp only [body, List.length_cons, rest_length, length, headerSize]
    omega
  have total : (withChecksum body).length = body.length + checksumSize := by
    simp [withChecksum, Word.bytes16, checksumSize]
  have content : (withChecksum body).take body.length = body := List.take_left
  have behind : (withChecksum body).drop body.length = trailer := List.drop_left
  have stands : ((rest ++ trailer).drop used).take payload.length = payload := by
    rw [List.drop_append_of_le_length inside, split, List.take_left]
  have small : ¬limit < declared.toNat := by
    rw [length]
    exact Nat.not_lt.2 fits
  have complete : ¬(withChecksum body).length < body.length + checksumSize := by
    rw [total]
    exact Nat.lt_irrefl _
  have pair : trailer.take checksumSize = trailer := rfl
  have sound : ¬carried trailer ≠ Checksum.ofBody body := not_not_intro (carried_bytes16 _)
  unfold recognize
  rw [whole]
  dsimp only
  rw [decoded]
  dsimp only
  rw [← whole, size, if_neg small, if_neg complete, behind, content, pair, if_neg sound, length,
    stands, total]

/-- A pass finds a frame at the front of its buffer wherever parsing accepts the front. -/
theorem pass_of_parse {limit : Nat} (accepted : parse bytes = .ok frame)
    (fits : frame.payload.length ≤ limit) (more : List UInt8) :
    pass limit (bytes ++ more) =
      { skipped := [], outcome := .frame frame, consumed := bytes, rest := more } := by
  have found := recognize_of_parse accepted fits
  obtain ⟨_, _, _, _, _, same, _⟩ := parts_of_parse accepted
  have gap : splitGap (bytes ++ more) = ([], bytes ++ more) := by
    rw [same]
    exact splitGap_header _
  have settled : recognize limit (bytes ++ more) = (.frame frame, bytes.length) := by
    rw [recognize_append more (by rw [found]; nofun), found]
  simp only [pass, gap, settled, List.take_left, List.drop_left]

/-- A pass finds a written frame at the front of its buffer. -/
theorem pass_encode {limit : Nat} (written : frame.encode = .ok bytes)
    (fits : frame.payload.length ≤ limit) (more : List UInt8) :
    pass limit (bytes ++ more) =
      { skipped := [], outcome := .frame frame, consumed := bytes, rest := more } :=
  pass_of_parse (parse_encode written) fits more

/-- A part of a written frame is kept, and more bytes are needed. -/
theorem pass_front {limit : Nat} {front back : List UInt8}
    (written : frame.encode = .ok (front ++ back)) (fits : frame.payload.length ≤ limit)
    (part : back ≠ []) :
    pass limit front =
      { skipped := [], outcome := .incomplete, consumed := [], rest := front } := by
  have whole := pass_encode written fits []
  rw [List.append_nil] at whole
  have needs : (pass limit front).outcome = .incomplete := by
    by_cases found : (pass limit front).outcome = .incomplete
    · exact found
    · -- What is found in the part is found in the whole, which leaves nothing over.
      have same := pass_append_of_found back found
      rw [whole] at same
      have rest := congrArg Pass.rest same
      exact absurd (List.append_eq_nil_iff.1 rest.symm).2 part
  have skipped : (pass limit front).skipped = [] := by
    have same := congrArg Pass.skipped (pass_append_of_incomplete back needs)
    rw [whole] at same
    exact (List.append_eq_nil_iff.1 same.symm).1
  have consumed : (pass limit front).consumed = [] := by
    have size := @recognize_size_of_incomplete limit (splitGap front).2 needs
    simp only [pass, size, List.take_zero]
  have rest : (pass limit front).rest = front := by
    have kept := pass_append limit front
    rw [skipped, consumed] at kept
    exact kept
  calc pass limit front = ⟨(pass limit front).skipped, (pass limit front).outcome,
        (pass limit front).consumed, (pass limit front).rest⟩ := rfl
    _ = _ := by rw [skipped, needs, consumed, rest]

end Multidrop.Frame
