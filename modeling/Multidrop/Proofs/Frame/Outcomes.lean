import Multidrop.Proofs.Frame.RoundTrip

/-!
# What passes find in a byte string

Passes over a byte string find frames and faults one after another until they need more bytes
(`outcomes`). Bytes may be added at any time without changing what is found first
(`outcomes_append`). What a pass consumes is what its outcome speaks of: a frame that parsing
accepts, bytes that it refuses for their checksum, or the first byte of a header (`takes_pass`). So
every frame that is found stands somewhere in the byte string as a whole, with the right checksum
(`exists_parse_of_mem_outcomes`).
-/
namespace Multidrop.Frame

/-- What a pass has found, if anything. -/
def Outcome.found : Outcome → List Outcome
  | .incomplete => []
  | outcome => [outcome]

/-- The fault that an outcome is, if it is one. -/
def Outcome.fault? : Outcome → Option Error
  | .fault error => some error
  | .incomplete | .frame _ => none

/-- What passes find in a byte string, in order, until they need more bytes. -/
def outcomes (limit : Nat) (bytes : List UInt8) : List Outcome :=
  if _ : (pass limit bytes).outcome = .incomplete then []
  else (pass limit bytes).outcome :: outcomes limit (pass limit bytes).rest
termination_by bytes.length
decreasing_by exact length_pass_rest_lt ‹_›

/-- What is found in some bytes is found in a rest of them, behind what is found in front of it,
whatever follows. -/
def Behind {α : Type} (find : List UInt8 → List α) (found : List α) (whole rest : List UInt8) :
    Prop :=
  ∀ more, find (whole ++ more) = found ++ find (rest ++ more)

section Behind

variable {α : Type} {find : List UInt8 → List α} {found others : List α}
  {whole between rest : List UInt8}

/-- Bytes may be added to both. -/
theorem Behind.append (behind : Behind find found whole rest) (bytes : List UInt8) :
    Behind find found (whole ++ bytes) (rest ++ bytes) := by
  intro more
  rw [List.append_assoc, List.append_assoc]
  exact behind (bytes ++ more)

/-- A rest of a rest is behind what is found in front of either. -/
theorem Behind.trans (first : Behind find found whole between)
    (second : Behind find others between rest) : Behind find (found ++ others) whole rest := by
  intro more
  rw [first more, second more, List.append_assoc]

/-- Nothing need follow. -/
theorem Behind.find_eq (behind : Behind find found whole rest) :
    find whole = found ++ find rest := by
  have same := behind []
  rwa [List.append_nil, List.append_nil] at same

end Behind

variable {limit : Nat} {bytes : List UInt8} {frame : Frame}

/-! ## One pass -/

/-- Something has been found unless more bytes are needed. -/
theorem Outcome.found_eq {outcome : Outcome} (found : outcome ≠ .incomplete) :
    outcome.found = [outcome] := by
  cases outcome with
  | incomplete => exact absurd rfl found
  | fault | frame => rfl

/-- What a pass finds comes first, whatever follows, and then what is found in the rest. -/
theorem outcomes_append (limit : Nat) (bytes more : List UInt8) :
    outcomes limit (bytes ++ more) =
      (pass limit bytes).outcome.found ++ outcomes limit ((pass limit bytes).rest ++ more) := by
  by_cases needs : (pass limit bytes).outcome = .incomplete
  · rw [needs, outcomes, pass_append_of_incomplete more needs]
    exact (outcomes.eq_def ..).symm
  · rw [Outcome.found_eq needs, outcomes, pass_append_of_found more needs, dif_neg needs]
    rfl

/-- What a pass leaves is behind what it finds. -/
theorem behind_pass (limit : Nat) (buffer : List UInt8) :
    Behind (outcomes limit) (pass limit buffer).outcome.found buffer (pass limit buffer).rest :=
  outcomes_append limit buffer

/-! ## Frames that are found -/

/-- What an outcome says of the bytes that it takes. -/
inductive Takes (limit : Nat) : Outcome → List UInt8 → Prop
  /-- Where more bytes are needed, none is taken. -/
  | incomplete : Takes limit .incomplete []
  /-- A frame is parsed from the bytes it takes, and its payload is within the limit. -/
  | frame {frame : Frame} {bytes : List UInt8} (parsed : parse bytes = .ok frame)
      (fits : frame.payload.length ≤ limit) : Takes limit (.frame frame) bytes
  /-- A wrong checksum is the one that parsing the bytes reports. -/
  | mismatch {bytes : List UInt8} {carried computed : UInt16}
      (parsed : parse bytes = .error (.checksumMismatch carried computed)) :
      Takes limit (.fault (.checksumMismatch carried computed)) bytes
  /-- A payload above the limit costs the first byte of its header. -/
  | overrun {size : Nat} (large : limit < size) :
      Takes limit (.fault (.receiveOverrun size limit)) [headerFirst]
  /-- A length that is no number costs the first byte of its header. -/
  | malformed {cause : Varuint.Error} : Takes limit (.fault (.malformedLength cause)) [headerFirst]

/-- The bytes of a candidate whose declared length is there are parsed up to their checksum. -/
theorem parse_candidate {source destination : UInt8} {field : List UInt8} {declared : UInt32}
    {used total : Nat} (length : Varuint.decode field = .ok (declared, used))
    (whole : total = headerSize + used + declared.toNat + checksumSize)
    (enough : total ≤ (headerFirst :: headerSecond :: source :: destination :: field).length) :
    let candidate := headerFirst :: headerSecond :: source :: destination :: field
    let body := candidate.take (headerSize + used + declared.toNat)
    let trailer := (candidate.drop (headerSize + used + declared.toNat)).take checksumSize
    parse (candidate.take total) =
      if carried trailer ≠ Checksum.ofBody body then
        .error (.checksumMismatch (carried trailer) (Checksum.ofBody body))
      else .ok (ofFields source destination ((field.drop used).take declared.toNat)) := by
  intro candidate body trailer
  obtain ⟨some, _, alone⟩ := Varuint.read_of_decode length
  have split : candidate.take total = body ++ trailer := by
    rw [whole, List.take_add]
  have size : (candidate.take total).length = total := List.length_take_of_le enough
  have front : (candidate.take total).take (total - checksumSize) = body := by
    rw [List.take_take, whole, Nat.add_sub_cancel, Nat.min_eq_left (Nat.le_add_right _ _)]
  have back : (candidate.take total).drop (total - checksumSize) = trailer := by
    rw [List.drop_take, whole, Nat.add_sub_cancel, Nat.add_sub_cancel_left]
  by_cases wrong : carried trailer ≠ Checksum.ofBody body
  · have long : minSize ≤ (candidate.take total).length := by
      simp only [size, minSize, headerSize, checksumSize] at whole ⊢
      omega
    have reported := @parse_of_mismatch (candidate.take total) long
    rw [size, front, back] at reported
    rw [if_pos wrong, reported wrong]
  · -- The body is its first bytes, the length field and the payload, without what follows them.
    have fields : body = headerFirst :: headerSecond :: source :: destination ::
        (field.take used ++ (field.drop used).take declared.toNat) := by
      change candidate.take (headerSize + used + declared.toNat) = _
      rw [← List.take_add, headerSize, Nat.add_assoc, Nat.add_comm]
      rfl
    have pair : trailer.length = checksumSize := by
      have behind : headerSize + used + declared.toNat + checksumSize ≤ candidate.length :=
        whole ▸ enough
      simp only [trailer, List.length_take, List.length_drop]
      omega
    have payload : declared.toNat = ((field.drop used).take declared.toNat).length := by
      rw [List.length_take, List.length_drop]
      simp only [List.length_cons, headerSize, checksumSize] at whole enough
      omega
    rw [if_neg wrong, split, fields]
    exact parse_of_body pair (fields ▸ Decidable.of_not_not wrong) (alone _) payload

/-- What stands behind a header takes the bytes that its outcome speaks of. -/
theorem takes_recognize (limit : Nat)
    (header : ∃ rest, bytes = headerFirst :: headerSecond :: rest) :
    Takes limit (recognize limit bytes).1 (bytes.take (recognize limit bytes).2) := by
  obtain ⟨rest, rfl⟩ := header
  unfold recognize
  split
  case h_2 => exact .incomplete
  rename_i first second source destination field front
  cases front
  cases length : Varuint.decode field with
  | error error =>
    cases error with
    | truncated => exact .incomplete
    | overlong => exact .malformed
  | ok pair =>
    obtain ⟨declared, used⟩ := pair
    dsimp only
    by_cases large : limit < declared.toNat
    · rw [if_pos large]
      exact .overrun large
    rw [if_neg large]
    by_cases short : (headerFirst :: headerSecond :: source :: destination :: field).length <
        headerSize + used + declared.toNat + checksumSize
    · rw [if_pos short]
      exact .incomplete
    rw [if_neg short]
    have parsed := @parse_candidate source destination _ _ _ _ length rfl (Nat.le_of_not_lt short)
    split
    · rename_i wrong
      exact .mismatch (parsed.trans (if_pos wrong))
    · rename_i sound
      refine .frame (parsed.trans (if_neg sound)) ?_
      exact Nat.le_trans (List.length_take_le _ _) (Nat.le_of_not_lt large)

/-- A pass consumes the bytes that its outcome speaks of. -/
theorem takes_pass (limit : Nat) (buffer : List UInt8) :
    Takes limit (pass limit buffer).outcome (pass limit buffer).consumed := by
  by_cases needs : (pass limit buffer).outcome = .incomplete
  · have size := @recognize_size_of_incomplete limit (splitGap buffer).2 needs
    have none : (pass limit buffer).consumed = [] := by
      simp only [pass, size, List.take_zero]
    rw [needs, none]
    exact .incomplete
  · exact takes_recognize limit (candidate_of_found needs)

/-- A frame that a pass finds is parsed from the bytes that the pass consumes. -/
theorem parse_of_pass (found : (pass limit bytes).outcome = .frame frame) :
    parse (pass limit bytes).consumed = .ok frame := by
  have takes := takes_pass limit bytes
  rw [found] at takes
  cases takes with
  | frame parsed fits => exact parsed

/-- What a pass drops is dropped for a wire fault. -/
theorem isWireFault_of_pass {error : Error} (dropped : (pass limit bytes).outcome = .fault error) :
    error.isWireFault = true := by
  have takes := takes_pass limit bytes
  rw [dropped] at takes
  generalize (pass limit bytes).consumed = consumed at takes
  cases takes <;> rfl

/-- Where a pass needs more bytes, nothing is found. -/
theorem outcomes_of_incomplete (needs : (pass limit bytes).outcome = .incomplete) :
    outcomes limit bytes = [] := by
  rw [outcomes, dif_pos needs]

/-- Nothing is found in no bytes. -/
theorem outcomes_nil (limit : Nat) : outcomes limit [] = [] := outcomes_of_incomplete rfl

/-- What a pass that needs more bytes leaves holds nothing to be found. -/
theorem outcomes_rest_of_incomplete (needs : (pass limit bytes).outcome = .incomplete) :
    outcomes limit (pass limit bytes).rest = [] :=
  outcomes_of_incomplete (pass_again needs).2.1

/-- A written frame is found, and then what is found behind it. -/
theorem outcomes_encode (written : frame.encode = .ok bytes) (fits : frame.payload.length ≤ limit)
    (more : List UInt8) : outcomes limit (bytes ++ more) = .frame frame :: outcomes limit more := by
  have found := pass_encode written fits []
  rw [outcomes_append, ← List.append_nil bytes, found]
  rfl

/-- A frame that is found in a byte string stands there, with the right checksum. -/
theorem exists_parse_of_mem_outcomes (there : .frame frame ∈ outcomes limit bytes) :
    ∃ piece, piece <:+: bytes ∧ parse piece = .ok frame := by
  fun_induction outcomes limit bytes with
  | case1 => exact absurd there List.not_mem_nil
  | case2 bytes found ih =>
    have whole := pass_append limit bytes
    rcases List.mem_cons.1 there with here | later
    · exact ⟨_, ⟨_, _, whole⟩, parse_of_pass here.symm⟩
    · obtain ⟨piece, within, parsed⟩ := ih later
      have suffix : (pass limit bytes).rest <:+ bytes := ⟨_, whole⟩
      exact ⟨piece, within.trans suffix.isInfix, parsed⟩

end Multidrop.Frame
