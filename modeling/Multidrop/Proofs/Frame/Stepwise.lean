import Multidrop.Proofs.Frame.Outcomes
import Multidrop.Proofs.Frame.Stream

/-!
# Decoding step by step

A receiver decodes its buffer in place: it looks for a header, hands on what stands in front of
it, and then takes a frame or a damaged candidate off the front, or waits for more bytes
(`decodeWith`). One such call is one pass (`decodeWith_eq`). It splits the buffer into the bytes it
hands on, the bytes that its result speaks of and the bytes it leaves, and what parsing accepts at
the front of a buffer is what it returns. Calls that are made until more bytes are needed come to
an end, and use every byte once (`decode_splits`).
-/
namespace Multidrop.Frame

/-! ## One call -/

/-- Where the first header stands. A lone first header byte at the end counts as well, since its
partner may still be on the way. -/
def headerOffset (bytes : List UInt8) : Nat :=
  match (bytes.zip bytes.tail).findIdx? (· == (headerFirst, headerSecond)) with
  | some offset => offset
  | none => if bytes.getLast? = some headerFirst then bytes.length - 1 else bytes.length

/-- Take what stands at the front of a buffer off it. -/
def takeFront (limit : Nat) (buffer : List UInt8) : Except Error (Option Frame) × List UInt8 :=
  if buffer.length < headerSize + 1 then (.ok none, buffer)
  else
    match Varuint.decode (buffer.drop headerSize) with
    | .error .truncated => (.ok none, buffer)
    | .error cause => (.error (.malformedLength cause), buffer.drop 1)
    | .ok (declared, used) =>
      let payloadSize := declared.toNat
      if limit < payloadSize then (.error (.receiveOverrun payloadSize limit), buffer.drop 1)
      else
        let bodySize := headerSize + used + payloadSize
        let total := bodySize + checksumSize
        if buffer.length < total then (.ok none, buffer)
        else
          let expected := Word.of16 (buffer.getD bodySize 0) (buffer.getD (bodySize + 1) 0)
          let actual := Checksum.ofBody (buffer.take bodySize)
          if expected ≠ actual then (.error (.checksumMismatch expected actual), buffer.drop total)
          else
            let raw := ((buffer.take total).drop (headerSize + used)).take payloadSize
            (.ok (some (ofFields (buffer.getD 2 0) (buffer.getD 3 0) raw)), buffer.drop total)

/-- Decode a buffer in place, handing on the bytes skipped in front of the first header. Returns the
result, the bytes left in the buffer and what the receiver of the skipped bytes makes of them. -/
def decodeWith {σ : Type} (limit : Nat) (onDiscard : List UInt8 → σ → σ) (buffer : List UInt8)
    (state : σ) : Except Error (Option Frame) × List UInt8 × σ :=
  let offset := headerOffset buffer
  let (buffer, state) :=
    if 0 < offset then (buffer.drop offset, onDiscard (buffer.take offset) state)
    else (buffer, state)
  let (result, buffer) := takeFront limit buffer
  (result, buffer, state)

/-- What a call returns for an outcome. -/
def Outcome.result : Outcome → Except Error (Option Frame)
  | .incomplete => .ok none
  | .frame found => .ok (some found)
  | .fault error => .error error

variable {buffer : List UInt8}

/-- The gap is what stands in front of the first header. -/
theorem splitGap_eq (bytes : List UInt8) :
    splitGap bytes = (bytes.take (headerOffset bytes), bytes.drop (headerOffset bytes)) := by
  fun_induction splitGap bytes with
  | case1 => rfl
  | case2 => rfl
  | case3 byte other =>
    have offset : headerOffset [byte] = 1 := by simp [headerOffset, other]
    rw [offset]
    rfl
  | case4 first second rest header =>
    obtain ⟨rfl, rfl⟩ := header
    rfl
  | case5 first second rest apart gap tail split ih =>
    have offset : headerOffset (first :: second :: rest) = headerOffset (second :: rest) + 1 := by
      have other : ((first, second) == (headerFirst, headerSecond)) = false := by simpa using apart
      unfold headerOffset
      simp only [List.tail_cons, List.zip_cons_cons, List.findIdx?_cons, other,
        List.getLast?_cons_cons, List.length_cons]
      cases (List.zip (second :: rest) rest).findIdx? (· == (headerFirst, headerSecond)) with
      | some place => rfl
      | none =>
        by_cases lone : (second :: rest).getLast? = some headerFirst
        · simp [lone]
        · simp [lone]
    rw [split] at ih
    rw [offset, List.take_succ_cons, List.drop_succ_cons]
    injection ih with gap tail
    rw [gap, tail]

/-- The two bytes at a place are read as the word that the bytes from there on carry. -/
theorem of16_getD {place : Nat} (inside : place + checksumSize ≤ buffer.length) :
    Word.of16 (buffer.getD place 0) (buffer.getD (place + 1) 0) =
      carried ((buffer.drop place).take checksumSize) := by
  rw [checksumSize] at inside
  have low : place < buffer.length := by omega
  have high : place + 1 < buffer.length := by omega
  rw [List.getD_eq_getElem?_getD, List.getD_eq_getElem?_getD, List.getElem?_eq_getElem low,
    List.getElem?_eq_getElem high, List.drop_eq_getElem_cons low, List.drop_eq_getElem_cons high]
  rfl

/-- What is taken off the front of a buffer is what stands there. -/
theorem takeFront_eq (limit : Nat) (buffer : List UInt8) :
    takeFront limit buffer =
      ((recognize limit buffer).1.result, buffer.drop (recognize limit buffer).2) := by
  match buffer with
  | [] | [_] | [_, _] | [_, _, _] => rfl
  | first :: second :: source :: destination :: [] => rfl
  | first :: second :: source :: destination :: length :: others =>
    have enough : ¬(first :: second :: source :: destination :: length :: others).length <
        headerSize + 1 := by
      simp only [List.length_cons, headerSize]
      omega
    have field : (first :: second :: source :: destination :: length :: others).drop headerSize =
        length :: others := rfl
    unfold takeFront recognize
    rw [if_neg enough, field]
    dsimp only
    cases decoded : Varuint.decode (length :: others) with
    | error error => cases error <;> rfl
    | ok pair =>
      obtain ⟨declared, used⟩ := pair
      generalize whole : first :: second :: source :: destination :: length :: others = buffer
      dsimp only
      by_cases large : limit < declared.toNat
      · rw [if_pos large, if_pos large]
        rfl
      rw [if_neg large, if_neg large]
      by_cases short : buffer.length < headerSize + used + declared.toNat + checksumSize
      · rw [if_pos short, if_pos short]
        rfl
      rw [if_neg short, if_neg short, of16_getD (Nat.le_of_not_lt short)]
      have payload : ((buffer.take (headerSize + used + declared.toNat + checksumSize)).drop
          (headerSize + used)).take declared.toNat =
            ((length :: others).drop used).take declared.toNat := by
        have room : declared.toNat ≤
            headerSize + used + declared.toNat + checksumSize - (headerSize + used) := by
          omega
        rw [List.drop_take, List.take_take, Nat.min_eq_left room, ← field, List.drop_drop, whole]
      rw [payload]
      subst whole
      split <;> rfl

/-- One call is one pass. What it skips is handed on at once, if it is anything. -/
theorem decodeWith_eq {σ : Type} (limit : Nat) (onDiscard : List UInt8 → σ → σ)
    (buffer : List UInt8) (state : σ) :
    decodeWith limit onDiscard buffer state =
      ((pass limit buffer).outcome.result, (pass limit buffer).rest,
        if (pass limit buffer).skipped = [] then state
        else onDiscard (pass limit buffer).skipped state) := by
  have gap : (pass limit buffer).skipped = buffer.take (headerOffset buffer) := by
    rw [pass, splitGap_eq]
  have found : (pass limit buffer).outcome =
      (recognize limit (buffer.drop (headerOffset buffer))).1 := by
    rw [pass, splitGap_eq]
  have rest : (pass limit buffer).rest = (buffer.drop (headerOffset buffer)).drop
      (recognize limit (buffer.drop (headerOffset buffer))).2 := by
    rw [pass, splitGap_eq]
  rw [gap, found, rest]
  unfold decodeWith
  by_cases none : headerOffset buffer = 0
  · simp only [none, Nat.lt_irrefl, if_false, takeFront_eq, List.take_zero, List.drop_zero, if_true]
  · have some : buffer ≠ [] := by
      rintro rfl
      exact none rfl
    have skips : buffer.take (headerOffset buffer) ≠ [] := by
      rw [ne_eq, List.take_eq_nil_iff, not_or]
      exact ⟨none, some⟩
    simp only [Nat.pos_of_ne_zero none, if_true, takeFront_eq, if_neg skips]

/-! ## Calls -/

/-- What a call on a buffer comes to: the bytes it hands on, what it finds, and the bytes that the
find takes. -/
structure Call where
  /-- The bytes in front of the first header. -/
  skipped : List UInt8
  /-- What is found behind them. -/
  outcome : Outcome
  /-- The bytes that are dropped for it, or make it up. -/
  consumed : List UInt8
  deriving Repr, DecidableEq

/-- Decoding a buffer comes to a call and leaves these bytes, whoever is handed the skipped bytes:
he is called once, or not at all where nothing is skipped. -/
def Decodes (limit : Nat) (buffer : List UInt8) (call : Call) (rest : List UInt8) : Prop :=
  ∀ (σ : Type) (onDiscard : List UInt8 → σ → σ) (state : σ),
    decodeWith limit onDiscard buffer state =
      (call.outcome.result, rest, if call.skipped = [] then state else onDiscard call.skipped state)

/-- Calls are made on a buffer until more bytes are needed, and leave these bytes. -/
inductive Drains (limit : Nat) : List UInt8 → List Call → List UInt8 → Prop
  /-- The last call needs more bytes. -/
  | last {buffer rest : List UInt8} {call : Call} (decodes : Decodes limit buffer call rest)
      (needs : call.outcome.result = .ok none) : Drains limit buffer [call] rest
  /-- A call finds something, and others follow. -/
  | more {buffer between rest : List UInt8} {call : Call} {calls : List Call}
      (decodes : Decodes limit buffer call between) (found : call.outcome.result ≠ .ok none)
      (later : Drains limit between calls rest) : Drains limit buffer (call :: calls) rest

/-- The call that a pass is. -/
def Pass.call (pass : Pass) : Call := ⟨pass.skipped, pass.outcome, pass.consumed⟩

/-- A call is the one that the pass over its buffer is. -/
theorem decodes_pass (limit : Nat) (buffer : List UInt8) :
    Decodes limit buffer (pass limit buffer).call (pass limit buffer).rest :=
  fun _ onDiscard state => decodeWith_eq limit onDiscard buffer state

/-- Only the need for more bytes is returned as no frame. -/
theorem Outcome.result_eq_none {outcome : Outcome} :
    outcome.result = .ok none ↔ outcome = .incomplete := by
  cases outcome <;> simp [result]

/-- What is returned tells the outcome. -/
theorem Outcome.result_inj {outcome other : Outcome} (same : outcome.result = other.result) :
    outcome = other := by
  cases outcome <;> cases other <;> cases same <;> rfl

/-- A call skips, finds and leaves what a pass does. -/
theorem Decodes.eq_pass {limit : Nat} {call : Call} {rest : List UInt8}
    (decodes : Decodes limit buffer call rest) :
    call.skipped = (pass limit buffer).skipped ∧ call.outcome = (pass limit buffer).outcome ∧
      rest = (pass limit buffer).rest := by
  -- A receiver that keeps the last piece tells the pieces apart.
  have same := (decodes (List UInt8) (fun piece _ => piece) []).symm.trans
    (decodes_pass limit buffer (List UInt8) (fun piece _ => piece) [])
  have kept (skipped : List UInt8) : (if skipped = [] then [] else skipped) = skipped :=
    ite_eq_right_iff.2 Eq.symm
  rw [kept, kept, Prod.mk.injEq, Prod.mk.injEq] at same
  obtain ⟨result, left, skipped⟩ := same
  exact ⟨skipped, Outcome.result_inj result, left⟩

/-- No header stands in bytes that are skipped. -/
theorem headless_splitGap (bytes : List UInt8) : Headless (splitGap bytes).1 := by
  fun_induction splitGap bytes with
  | case1 | case2 | case4 => exact fun header => absurd header.length_le (by simp)
  | case3 byte other =>
    exact fun header => absurd header.length_le (by simp)
  | case5 first second rest apart gap tail split ih =>
    rw [split] at ih
    intro header
    rcases List.infix_cons_iff.1 header with front | later
    · -- The gap goes on with the byte that follows the first one.
      obtain ⟨behind, same⟩ := front
      have whole := splitGap_append (second :: rest)
      rw [split] at whole
      injection same with same next
      rw [← next] at whole
      injection whole with follows
      exact apart ⟨same.symm, follows.symm⟩
    · exact ih later

/-- Calls that are made until more bytes are needed come to an end, and use every byte once. -/
theorem exists_drains (limit : Nat) (buffer : List UInt8) :
    ∃ calls rest, Drains limit buffer calls rest ∧ calls.length ≤ buffer.length + 1 ∧
      calls.flatMap (fun call => call.skipped ++ call.consumed) ++ rest = buffer := by
  induction size : buffer.length using Nat.strongRecOn generalizing buffer with
  | ind size ih =>
    have decodes := decodes_pass limit buffer
    have whole := pass_append limit buffer
    by_cases needs : (pass limit buffer).outcome = .incomplete
    · refine ⟨_, _, .last decodes (Outcome.result_eq_none.2 needs), ?_, ?_⟩
      · exact Nat.le_add_left 1 _
      · rw [List.flatMap_singleton]
        exact whole
    · have shorter := length_pass_rest_lt needs
      obtain ⟨calls, rest, later, count, all⟩ := ih _ (size ▸ shorter) (pass limit buffer).rest rfl
      refine ⟨_, rest, .more decodes (mt Outcome.result_eq_none.1 needs) later, ?_, ?_⟩
      · rw [List.length_cons]
        omega
      · rw [List.flatMap_cons, List.append_assoc, all]
        exact whole

/-- A call splits its buffer into skipped bytes without a header, the bytes of what it finds and
those that it leaves; calls come to an end and use every byte once. -/
theorem decode_splits (limit : Nat) (buffer : List UInt8) :
    (∃ call rest, Decodes limit buffer call rest ∧
      call.skipped ++ call.consumed ++ rest = buffer ∧ Headless call.skipped ∧
      Takes limit call.outcome call.consumed) ∧
    (∀ front back frame, buffer = front ++ back → parse front = .ok frame →
      frame.payload.length ≤ limit → Decodes limit buffer ⟨[], .frame frame, front⟩ back) ∧
    ∃ calls rest, Drains limit buffer calls rest ∧ calls.length ≤ buffer.length + 1 ∧
      calls.flatMap (fun call => call.skipped ++ call.consumed) ++ rest = buffer := by
  refine ⟨⟨_, _, decodes_pass limit buffer, pass_append limit buffer, headless_splitGap buffer,
    takes_pass limit buffer⟩, ?_, exists_drains limit buffer⟩
  rintro front back frame rfl accepted fits
  have decodes := decodes_pass limit (front ++ back)
  rw [pass_of_parse accepted fits back] at decodes
  exact decodes

/-- A frame whose length is padded is returned from the front of a buffer, and the header behind it
stays. -/
theorem decode_splits_of_padded :
    let frame : Frame := ⟨1, true, 2, [0x30]⟩
    let front := withChecksum [0x54, 0xab, 0x81, 0x02, 0x81, 0x00, 0x30]
    let back : List UInt8 := [0x54, 0xab, 0x01]
    parse front = .ok frame ∧ frame.payload.length ≤ 1 ∧
      Decodes 1 (front ++ back) ⟨[], .frame frame, front⟩ back := by
  intro frame front back
  have read : Varuint.read [0x81, 0x00, 0x30] = .ok (1, [0x30]) := rfl
  have accepted : parse front = .ok frame := parse_of_body rfl (carried_bytes16 _) read (by decide)
  have fits : frame.payload.length ≤ 1 := by decide
  exact ⟨accepted, fits,
    (decode_splits 1 (front ++ back)).2.1 front back frame rfl accepted fits⟩

end Multidrop.Frame
