import Multidrop.Frame.Basic
import Multidrop.Line

/-!
# Decoding

What a receiver makes of a stream of bytes: frames, faults and the bytes between them, one pass at a
time or as one sequence of items.
-/
namespace Multidrop.Frame

/-! ## Finding frames in a byte stream

A receive buffer collects bytes in whatever pieces the line delivers. One pass over the buffer
skips what cannot begin a frame and then finds a frame, a wire fault, or that more bytes are
needed. A pass splits its buffer into the bytes skipped, the bytes consumed and the rest, so no
byte is lost or used twice. A frame that declares too much or whose length is no number costs one
byte only: the search resumes inside it. -/

/-- What a pass finds behind the bytes it skips. -/
inductive Outcome where
  /-- More bytes are needed. -/
  | incomplete
  /-- A complete frame with the right checksum. -/
  | frame (frame : Frame)
  /-- Bytes that are dropped, and why. -/
  | fault (error : Error)
  deriving Repr, DecidableEq

/-- One pass over a receive buffer. -/
structure Pass where
  /-- Bytes in front of the first possible header. -/
  skipped : List UInt8
  /-- What follows them. -/
  outcome : Outcome
  /-- Bytes that the outcome takes. -/
  consumed : List UInt8
  /-- Bytes that stay in the buffer. -/
  rest : List UInt8
  deriving Repr, DecidableEq

/-- Split bytes in front of the first possible header. A lone first header byte at the end stays,
since its partner may still be on the way. -/
def splitGap : List UInt8 → List UInt8 × List UInt8
  | [] => ([], [])
  | [byte] => if byte = headerFirst then ([], [byte]) else ([byte], [])
  | first :: second :: rest =>
    if first = headerFirst ∧ second = headerSecond then ([], first :: second :: rest)
    else
      let (gap, tail) := splitGap (second :: rest)
      (first :: gap, tail)

/-- What stands at the front of bytes that begin with a header, and how many bytes it takes. -/
def recognize (limit : Nat) (bytes : List UInt8) : Outcome × Nat :=
  match bytes with
  | _ :: _ :: source :: destination :: field =>
    match Varuint.decode field with
    | .error .truncated => (.incomplete, 0)
    | .error .overlong => (.fault (.malformedLength .overlong), 1)
    | .ok (declared, used) =>
      let size := declared.toNat
      if limit < size then (.fault (.receiveOverrun size limit), 1)
      else
        let bodySize := headerSize + used + size
        let total := bodySize + checksumSize
        if bytes.length < total then (.incomplete, 0)
        else
          let carried := carried ((bytes.drop bodySize).take checksumSize)
          let computed := Checksum.ofBody (bytes.take bodySize)
          if carried ≠ computed then (.fault (.checksumMismatch carried computed), total)
          else (.frame (ofFields source destination ((field.drop used).take size)), total)
  | _ => (.incomplete, 0)

/-- One pass over a receive buffer with a payload limit. -/
def pass (limit : Nat) (buffer : List UInt8) : Pass :=
  let (skipped, candidate) := splitGap buffer
  let (outcome, size) := recognize limit candidate
  { skipped, outcome, consumed := candidate.take size, rest := candidate.drop size }

/-- Splitting off the gap keeps every byte. -/
theorem splitGap_append (bytes : List UInt8) :
    (splitGap bytes).1 ++ (splitGap bytes).2 = bytes := by
  fun_induction splitGap bytes <;> simp_all

/-- A pass keeps every byte. -/
theorem pass_append (limit : Nat) (buffer : List UInt8) :
    (pass limit buffer).skipped ++ (pass limit buffer).consumed ++ (pass limit buffer).rest =
      buffer := by
  simp [pass, splitGap_append, List.append_assoc]

/-- An outcome other than `incomplete` takes at least one byte. -/
theorem recognize_pos {limit : Nat} {bytes : List UInt8}
    (found : (recognize limit bytes).1 ≠ .incomplete) : 0 < (recognize limit bytes).2 := by
  revert found
  unfold recognize
  dsimp only
  repeat' split
  all_goals simp [checksumSize]

/-- An outcome stands at bytes that are there. -/
theorem ne_nil_of_recognize {limit : Nat} {bytes : List UInt8}
    (found : (recognize limit bytes).1 ≠ .incomplete) : bytes ≠ [] := by
  rintro rfl
  simp [recognize] at found

/-- A pass never lets the buffer grow. -/
theorem length_pass_rest_le (limit : Nat) (buffer : List UInt8) :
    (pass limit buffer).rest.length ≤ buffer.length := by
  have whole := congrArg List.length (pass_append limit buffer)
  simp only [List.length_append] at whole
  omega

/-- A pass that finds something takes at least one byte from the buffer. -/
theorem length_pass_rest_lt {limit : Nat} {buffer : List UInt8}
    (found : (pass limit buffer).outcome ≠ .incomplete) :
    (pass limit buffer).rest.length < buffer.length := by
  have taken := @recognize_pos limit (splitGap buffer).2 found
  have nonempty := List.length_pos_iff.2 (@ne_nil_of_recognize limit (splitGap buffer).2 found)
  have whole := congrArg List.length (splitGap_append buffer)
  simp only [List.length_append] at whole
  simp only [pass, List.length_drop]
  omega

/-! ## A stream of received items

Everything a line delivers, as one sequence: frames, wire faults, and the bytes between them.
Faults are items like any other, so a damaged frame does not end the sequence. When one pass both
skips bytes and finds something, the skipped bytes come first and the find waits in a queue of one.
-/

/-- One thing that a line delivered. -/
inductive Item where
  /-- A frame with the right checksum. -/
  | frame (frame : Frame)
  /-- Dropped bytes of a damaged frame. -/
  | rejected (error : Error)
  /-- Bytes that belong to no frame. -/
  | discarded (bytes : List UInt8)
  deriving Repr, DecidableEq

/-- The item of an outcome, if it has one. -/
def Outcome.item : Outcome → Option Item
  | .incomplete => none
  | .frame received => some (.frame received)
  | .fault error => some (.rejected error)

/-- Received bytes on their way to become items. -/
structure Items where
  /-- The largest payload accepted. -/
  limit : Nat := defaultLimit
  /-- An item found in the same pass as bytes that were skipped. -/
  queued : Option Item := none
  /-- Bytes received that no item has taken. -/
  buffer : List UInt8 := []
  deriving Repr, DecidableEq

namespace Items

/-- Bound on the items that can still come out. -/
def weight (items : Items) : Nat := 2 * items.buffer.length + items.queued.toList.length

/-- Add received bytes. -/
def feed (bytes : List UInt8) (items : Items) : Items :=
  { items with buffer := items.buffer ++ bytes }

/-- The next item, if the bytes received so far hold one. -/
def next (items : Items) : Option Item × Items :=
  match items.queued with
  | some item => (some item, { items with queued := none })
  | none =>
    let pass := pass items.limit items.buffer
    if pass.skipped = [] then (pass.outcome.item, { items with buffer := pass.rest })
    else
      (some (.discarded pass.skipped),
        { items with queued := pass.outcome.item, buffer := pass.rest })

/-- The next item when nothing more will arrive: an incomplete frame is noise. -/
def nextAtEnd (items : Items) : Option Item × Items :=
  match items.next with
  | (some item, after) => (some item, after)
  | (none, after) =>
    if after.buffer = [] then (none, after)
    else (some (.discarded after.buffer), { after with buffer := [] })

/-- An item takes bytes or leaves the queue. -/
theorem weight_next_lt {items after : Items} {item : Item} (h : items.next = (some item, after)) :
    after.weight < items.weight := by
  unfold next at h
  split at h
  · rename_i queued
    cases h
    simp [weight, queued]
  · rename_i queued
    dsimp only at h
    have whole := congrArg List.length (pass_append items.limit items.buffer)
    simp only [List.length_append] at whole
    split at h
    · rename_i skipped
      simp only [Prod.mk.injEq] at h
      obtain ⟨found, rfl⟩ := h
      have shorter := @length_pass_rest_lt items.limit items.buffer (by
        intro incomplete
        rw [incomplete] at found
        cases found)
      simp only [weight, queued, Option.toList_none, List.length_nil]
      omega
    · rename_i skipped
      simp only [Prod.mk.injEq] at h
      obtain ⟨_, rfl⟩ := h
      have pos := List.length_pos_iff.2 skipped
      have short : (pass items.limit items.buffer).outcome.item.toList.length ≤ 1 := by
        cases (pass items.limit items.buffer).outcome.item <;> simp
      simp only [weight, queued, Option.toList_none, List.length_nil]
      omega

/-- Finding nothing takes nothing but skipped bytes. -/
theorem weight_next_le {items after : Items} {result : Option Item}
    (h : items.next = (result, after)) : after.weight ≤ items.weight := by
  cases result with
  | some item => exact Nat.le_of_lt (weight_next_lt h)
  | none =>
    unfold next at h
    split at h
    · cases h
    · rename_i queued
      dsimp only at h
      split at h
      · simp only [Prod.mk.injEq] at h
        obtain ⟨_, rfl⟩ := h
        have := length_pass_rest_le items.limit items.buffer
        simp only [weight, queued, Option.toList_none, List.length_nil]
        omega
      · simp at h

/-- At the end too, an item takes bytes or leaves the queue. -/
theorem weight_nextAtEnd_lt {items after : Items} {item : Item}
    (h : items.nextAtEnd = (some item, after)) : after.weight < items.weight := by
  unfold nextAtEnd at h
  split at h
  · rename_i found
    cases h
    exact weight_next_lt found
  · rename_i between found
    have le := weight_next_le found
    split at h
    · cases h
    · rename_i nonempty
      cases h
      have pos := List.length_pos_iff.2 nonempty
      simp only [weight] at le ⊢
      simp only [List.length_nil]
      omega

end Items

/-! ## Played-back replies

A far end that answers the frames it receives with prepared bytes, one entry for each frame. An
empty entry closes the line. Past the last entry it stays silent. -/

/-- A far end with prepared replies. -/
structure Playback where
  /-- The replies that are left. -/
  replies : List (List UInt8) := []
  /-- Received bytes on their way to become items. -/
  items : Items := {}
  /-- The frames received, in order. -/
  heard : List Frame := []
  deriving Repr, DecidableEq

namespace Playback

/-- What arrives in answer to one frame. -/
def respond (frame : Frame) (playback : Playback) : List Arrival × Playback :=
  let playback := { playback with heard := playback.heard ++ [frame] }
  match playback.replies with
  | [] => ([], playback)
  | [] :: rest => ([.closed], { playback with replies := rest })
  | bytes :: rest => ([.data bytes], { playback with replies := rest })

/-- What arrives in answer to all frames received so far. -/
def respondAll (playback : Playback) : List Arrival × Playback :=
  match h : playback.items.next with
  | (none, items) => ([], { playback with items })
  | (some item, items) =>
    have := Items.weight_next_lt h
    match item with
    | .frame frame =>
      let (first, answered) := respond frame { playback with items }
      let (more, last) := respondAll { answered with items }
      (first ++ more, last)
    | .rejected _ | .discarded _ => respondAll { playback with items }
termination_by playback.items.weight

end Playback

instance : Peer Playback where
  answer playback bytes :=
    Playback.respondAll { playback with items := playback.items.feed bytes }

end Multidrop.Frame
