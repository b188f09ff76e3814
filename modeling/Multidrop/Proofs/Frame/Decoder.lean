import Multidrop.Frame.Decoder
import Multidrop.Proofs.Varuint

/-!
# Passes and scans

What one pass finds, and what passes made until more bytes are needed find, however the bytes are
cut.
-/
namespace Multidrop.Frame

/-! ## Passes over a growing buffer

What a pass decides stays decided when more bytes arrive. An outcome that has been found is found
again in front of any further bytes (`pass_append_of_found`). A pass that needs more bytes has only
dropped bytes that no frame can begin with, so the next pass goes on where it stopped
(`pass_append_of_incomplete`). Every place where the search may stop is covered: a lone first
header byte, a field that is cut off, a payload or a checksum that is not complete yet. -/

/-! ### Gaps -/

/-- What the search for a header leaves is empty, a lone first header byte, or begins with a
header. -/
theorem splitGap_candidate (bytes : List UInt8) :
    (splitGap bytes).2 = [] ∨ (splitGap bytes).2 = [headerFirst] ∨
      ∃ rest, (splitGap bytes).2 = headerFirst :: headerSecond :: rest := by
  fun_induction splitGap bytes with
  | case1 => exact .inl rfl
  | case2 => exact .inr (.inl rfl)
  | case3 => exact .inl rfl
  | case4 first second rest header =>
    obtain ⟨rfl, rfl⟩ := header
    exact .inr (.inr ⟨rest, rfl⟩)
  | case5 first second rest _ gap tail split ih =>
    rw [split] at ih
    exact ih

/-- A header stays where it is, whatever follows it. -/
theorem splitGap_header (rest : List UInt8) :
    splitGap (headerFirst :: headerSecond :: rest) = ([], headerFirst :: headerSecond :: rest) := by
  rw [splitGap, if_pos ⟨rfl, rfl⟩]

/-- The search for a header goes on where it stopped when more bytes arrive. -/
theorem splitGap_append_right (bytes more : List UInt8) :
    splitGap (bytes ++ more) =
      ((splitGap bytes).1 ++ (splitGap ((splitGap bytes).2 ++ more)).1,
        (splitGap ((splitGap bytes).2 ++ more)).2) := by
  fun_induction splitGap bytes with
  | case1 => rfl
  | case2 => rfl
  | case3 byte other =>
    cases more with
    | nil => simp [splitGap, other]
    | cons next later =>
      have apart : ¬(byte = headerFirst ∧ next = headerSecond) := fun header => other header.1
      rw [List.singleton_append, splitGap, if_neg apart]
      rfl
  | case4 => rfl
  | case5 first second rest apart gap tail split ih =>
    rw [split] at ih
    rw [List.cons_append, List.cons_append, splitGap, if_neg apart, ← List.cons_append, ih]
    rfl

/-! ### Outcomes -/

/-- An outcome takes bytes that are there. -/
theorem recognize_size_le (limit : Nat) (bytes : List UInt8) :
    (recognize limit bytes).2 ≤ bytes.length := by
  unfold recognize
  split
  · dsimp only
    split
    · exact Nat.zero_le _
    · simp
    · split
      · simp
      · split
        · exact Nat.zero_le _
        · rename_i enough
          split <;> exact Nat.le_of_not_lt enough
  · exact Nat.zero_le _

/-- Where more bytes are needed, none is taken. -/
theorem recognize_size_of_incomplete {limit : Nat} {bytes : List UInt8}
    (needs : (recognize limit bytes).1 = .incomplete) : (recognize limit bytes).2 = 0 := by
  revert needs
  unfold recognize
  dsimp only
  repeat' split
  all_goals simp

/-- An outcome that has been found is found as well when more bytes follow. -/
theorem recognize_append {limit : Nat} {bytes : List UInt8} (more : List UInt8)
    (found : (recognize limit bytes).1 ≠ .incomplete) :
    recognize limit (bytes ++ more) = recognize limit bytes := by
  match bytes, found with
  | [], found | [_], found | [_, _], found | [_, _, _], found => exact absurd rfl found
  | first :: second :: source :: destination :: field, found =>
    simp only [recognize, List.cons_append] at found ⊢
    have settled : Varuint.decode field ≠ .error .truncated := by
      intro truncated
      rw [truncated] at found
      exact found rfl
    rw [Varuint.decode_append more settled]
    cases length : Varuint.decode field with
    | error error => cases error <;> rfl
    | ok declared =>
      obtain ⟨size, used⟩ := declared
      rw [length] at found
      dsimp only at found ⊢
      by_cases large : limit < size.toNat
      · rw [if_pos large, if_pos large]
      · rw [if_neg large] at found
        rw [if_neg large, if_neg large]
        have enough : ¬(first :: second :: source :: destination :: field).length <
            headerSize + used + size.toNat + checksumSize := by
          intro short
          rw [if_pos short] at found
          exact found rfl
        have longer : ¬(first :: second :: source :: destination :: (field ++ more)).length <
            headerSize + used + size.toNat + checksumSize := by
          simp only [List.length_cons, List.length_append] at enough ⊢
          omega
        rw [if_neg enough, if_neg longer]
        -- The body, the checksum and the payload lie inside the bytes that were there before.
        have whole : first :: second :: source :: destination :: (field ++ more) =
            (first :: second :: source :: destination :: field) ++ more := rfl
        have body : headerSize + used + size.toNat ≤
            (first :: second :: source :: destination :: field).length := by
          omega
        have trailer : checksumSize ≤ ((first :: second :: source :: destination :: field).drop
            (headerSize + used + size.toNat)).length := by
          rw [List.length_drop]
          omega
        have payload : size.toNat ≤ (field.drop used).length := by
          simp only [List.length_cons, headerSize, checksumSize, List.length_drop] at enough ⊢
          omega
        have start : used ≤ field.length := by
          simp only [List.length_cons, headerSize, checksumSize] at enough
          omega
        rw [whole, List.drop_append_of_le_length body, List.take_append_of_le_length trailer,
          List.take_append_of_le_length body, List.drop_append_of_le_length start,
          List.take_append_of_le_length payload]

/-! ### Passes -/

/-- Where something stands behind a gap, a header does. -/
theorem candidate_of_found {limit : Nat} {buffer : List UInt8}
    (found : (pass limit buffer).outcome ≠ .incomplete) :
    ∃ rest, (splitGap buffer).2 = headerFirst :: headerSecond :: rest := by
  have recognized : (recognize limit (splitGap buffer).2).1 ≠ .incomplete := found
  rcases splitGap_candidate buffer with none | lone | header
  · rw [none] at recognized
    exact absurd rfl recognized
  · rw [lone] at recognized
    exact absurd rfl recognized
  · exact header

/-- Further bytes do not change a pass that has found something; they stay behind the rest. -/
theorem pass_append_of_found {limit : Nat} {buffer : List UInt8} (more : List UInt8)
    (found : (pass limit buffer).outcome ≠ .incomplete) :
    pass limit (buffer ++ more) =
      { pass limit buffer with rest := (pass limit buffer).rest ++ more } := by
  obtain ⟨rest, header⟩ := candidate_of_found found
  have stays : splitGap ((splitGap buffer).2 ++ more) = ([], (splitGap buffer).2 ++ more) := by
    rw [header]
    exact splitGap_header _
  have size := recognize_size_le limit (splitGap buffer).2
  have same := recognize_append more (show (recognize limit (splitGap buffer).2).1 ≠ _ from found)
  simp only [pass, splitGap_append_right, stays, same, List.append_nil]
  rw [List.take_append_of_le_length size, List.drop_append_of_le_length size]

/-- A pass that needs more bytes keeps everything behind the gap. -/
theorem pass_rest_of_incomplete {limit : Nat} {buffer : List UInt8}
    (needs : (pass limit buffer).outcome = .incomplete) :
    (pass limit buffer).rest = (splitGap buffer).2 := by
  have size := @recognize_size_of_incomplete limit (splitGap buffer).2 needs
  simp only [pass, size, List.drop_zero]

/-- After a pass that needs more bytes, the next one goes on with what it left. -/
theorem pass_append_of_incomplete {limit : Nat} {buffer : List UInt8} (more : List UInt8)
    (needs : (pass limit buffer).outcome = .incomplete) :
    pass limit (buffer ++ more) =
      { pass limit ((pass limit buffer).rest ++ more) with
        skipped := (pass limit buffer).skipped ++
          (pass limit ((pass limit buffer).rest ++ more)).skipped } := by
  rw [pass_rest_of_incomplete needs]
  simp only [pass, splitGap_append_right buffer more]

/-- A pass over what such a pass leaves skips nothing, and needs more bytes as well. -/
theorem pass_again {limit : Nat} {buffer : List UInt8}
    (needs : (pass limit buffer).outcome = .incomplete) :
    (pass limit (pass limit buffer).rest).skipped = [] ∧
      (pass limit (pass limit buffer).rest).outcome = .incomplete ∧
      (pass limit (pass limit buffer).rest).rest = (pass limit buffer).rest := by
  have again := pass_append_of_incomplete [] needs
  rw [List.append_nil, List.append_nil] at again
  have skipped := congrArg Pass.skipped again
  have outcome := congrArg Pass.outcome again
  have rest := congrArg Pass.rest again
  exact ⟨List.self_eq_append_right.1 skipped, outcome.symm.trans needs, rest.symm⟩

/-! ## Scanning a byte stream

A receiver makes passes over its buffer until more bytes are needed, hands on what it finds and
what it skips, and goes on when more bytes arrive. `scan` is this loop for any receiver that does
not care whether the bytes of a gap come together or in pieces (`Sink`). What a receiver ends up
with, and the bytes left in the buffer, do not depend on how the stream is cut (`scan_append`,
`scan_chunks`). The receiver that only writes down what it is given (`Transcript`) turns this into
a statement about the sequence of frames and faults and the gaps between them. -/

/-- A receiver of what passes find. The bytes of a gap may come in pieces. -/
structure Sink (α : Type) where
  /-- Take bytes that belong to no frame. -/
  skip : List UInt8 → α → α
  /-- Take a frame or a fault. -/
  find : Outcome → α → α
  /-- No bytes change nothing. -/
  skip_nil : ∀ state, skip [] state = state
  /-- Pieces of a gap count as the whole gap. -/
  skip_append : ∀ front back state, skip (front ++ back) state = skip back (skip front state)

section Scan

variable {α : Type} (sink : Sink α) (limit : Nat)

/-- Make passes over a buffer until more bytes are needed: what the receiver makes of them, and
the bytes left in the buffer. -/
def scan (state : α) (buffer : List UInt8) : α × List UInt8 :=
  if _ : (pass limit buffer).outcome = .incomplete then
    (sink.skip (pass limit buffer).skipped state, (pass limit buffer).rest)
  else
    scan (sink.find (pass limit buffer).outcome (sink.skip (pass limit buffer).skipped state))
      (pass limit buffer).rest
termination_by buffer.length
decreasing_by exact length_pass_rest_lt ‹_›

variable {sink limit}

/-- A scan ends with a pass that needs more bytes. -/
theorem scan_of_incomplete {buffer : List UInt8} (state : α)
    (needs : (pass limit buffer).outcome = .incomplete) :
    scan sink limit state buffer =
      (sink.skip (pass limit buffer).skipped state, (pass limit buffer).rest) := by
  rw [scan, dif_pos needs]

/-- A pass that finds something is followed by a scan of the rest, also with more bytes behind
it. -/
theorem scan_of_found {buffer : List UInt8} (state : α) (more : List UInt8)
    (found : (pass limit buffer).outcome ≠ .incomplete) :
    scan sink limit state (buffer ++ more) =
      scan sink limit
        (sink.find (pass limit buffer).outcome (sink.skip (pass limit buffer).skipped state))
        ((pass limit buffer).rest ++ more) := by
  have same := pass_append_of_found more found
  rw [scan, same, dif_neg found]

variable (sink limit)

/-- An empty buffer gives nothing. -/
theorem scan_nil (state : α) : scan sink limit state [] = (state, []) := by
  rw [scan_of_incomplete state rfl]
  exact congrArg (·, []) (sink.skip_nil state)

/-- A scan of more bytes is a scan of the first ones, followed by a scan of what they leave and
the others. -/
theorem scan_append (state : α) (buffer more : List UInt8) :
    scan sink limit state (buffer ++ more) =
      scan sink limit (scan sink limit state buffer).1
        ((scan sink limit state buffer).2 ++ more) := by
  fun_induction scan sink limit state buffer with
  | case1 state buffer needs =>
    have later := pass_append_of_incomplete more needs
    have pieces := sink.skip_append (pass limit buffer).skipped
      (pass limit ((pass limit buffer).rest ++ more)).skipped state
    rw [scan, later]
    dsimp only
    rw [pieces]
    conv => rhs; rw [scan]
  | case2 state buffer found ih => rw [scan_of_found state more found, ih]

/-- Scanning after each of some chunks is scanning once after all of them. -/
theorem scan_chunks (state : α) (buffer : List UInt8) (chunks : List (List UInt8)) :
    chunks.foldl (fun reached chunk => scan sink limit reached.1 (reached.2 ++ chunk))
        (scan sink limit state buffer) =
      scan sink limit state (buffer ++ chunks.flatten) := by
  induction chunks generalizing buffer with
  | nil => rw [List.foldl_nil, List.flatten_nil, List.append_nil]
  | cons chunk rest ih =>
    rw [List.foldl_cons, ← scan_append, ih (buffer ++ chunk), List.flatten_cons, List.append_assoc]

end Scan

/-! ### Transcripts -/

/-- What a receiver is given, in order. -/
structure Transcript where
  /-- The frames and faults, each with all bytes skipped since the one before it. -/
  found : List (List UInt8 × Outcome) := []
  /-- The bytes skipped since the last of them. -/
  gap : List UInt8 := []
  deriving Repr, DecidableEq

namespace Transcript

/-- The receiver that writes down what it is given. -/
def sink : Sink Transcript where
  skip bytes transcript := { transcript with gap := transcript.gap ++ bytes }
  find outcome transcript := { found := transcript.found ++ [(transcript.gap, outcome)] }
  skip_nil transcript := by rw [List.append_nil]
  skip_append front back transcript := by rw [List.append_assoc]

/-- Append chunks to an empty buffer one after another, making passes after each until more bytes
are needed. Returns what was given out and the bytes left in the buffer. -/
def ofChunks (limit : Nat) (chunks : List (List UInt8)) : Transcript × List UInt8 :=
  chunks.foldl (fun reached chunk => scan sink limit reached.1 (reached.2 ++ chunk)) ({}, [])

/-- However a byte string is cut into chunks, the same frames and faults come out in the same
order, with the same bytes skipped between them, and the same bytes stay in the buffer. -/
theorem ofChunks_eq_flatten (limit : Nat) (chunks : List (List UInt8)) :
    ofChunks limit chunks = ofChunks limit [chunks.flatten] := by
  have cut := scan_chunks sink limit {} [] chunks
  have whole := scan_chunks sink limit {} [] [chunks.flatten]
  rw [scan_nil] at cut whole
  rw [ofChunks, ofChunks, cut, whole, List.flatten_singleton]

end Transcript

end Multidrop.Frame
