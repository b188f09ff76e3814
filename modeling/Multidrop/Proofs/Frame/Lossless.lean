import Multidrop.Proofs.Frame.Reader
import Multidrop.Proofs.Frame.RoundTrip

/-!
# Readers over lines that lose nothing

Over a line that brings bytes in pieces and is silent otherwise, a reader loses nothing: what it has
in its buffer and what is still to come hold certain frames, whatever follows them
(`Reader.Holds`), and reading returns these in order (`Reader.Reads.holds`). A reading ends with a
frame, with a wire fault, or because everything that has come is in the buffer
(`Reader.heard_of_lossless`).
-/
namespace Multidrop

/-- The bytes that an arrival brings. -/
def Arrival.bytes : Arrival → List UInt8
  | .data bytes => bytes
  | .fault _ | .closed => []

/-- Pieces of no bytes are none. -/
theorem Arrival.eq_nil_of_bytes {arrivals : List Arrival}
    (pieces : ∀ arrival ∈ arrivals, ∃ piece, piece ≠ [] ∧ arrival = .data piece)
    (none : arrivals.flatMap Arrival.bytes = []) : arrivals = [] := by
  cases arrivals with
  | nil => rfl
  | cons first rest =>
    obtain ⟨piece, some, rfl⟩ := pieces first List.mem_cons_self
    rw [List.flatMap_cons, List.append_eq_nil_iff] at none
    exact absurd none.1 some

namespace Line

variable {π : Type} {line after : Line π} {bytes : List UInt8}

/-- A line that brings bytes in pieces and is silent otherwise. -/
structure Lossless (line : Line π) : Prop where
  /-- Only bytes arrive. -/
  arrivals : ∀ arrival ∈ line.arrivals, ∃ piece, piece ≠ [] ∧ arrival = .data piece
  /-- Without arrivals, reads time out. -/
  idle : ∃ hold positive, line.idle = .silent hold positive

/-- The bytes that are on their way. -/
def coming (line : Line π) : List UInt8 := line.arrivals.flatMap Arrival.bytes

/-- Where no byte is on its way, nothing is. -/
theorem Lossless.arrivals_eq_nil (lossless : line.Lossless) (silent : line.coming = []) :
    line.arrivals = [] :=
  Arrival.eq_nil_of_bytes lossless.arrivals silent

/-- What a read brings was on its way. -/
theorem coming_read {room : Nat} {result : Except Fault.Kind (List UInt8)}
    (read : line.read room = (result, after)) :
    line.coming = brought result ++ after.coming := by
  have meets := meets_read read
  unfold coming
  generalize line.arrivals = arrivals at meets ⊢
  generalize after.arrivals = left at meets ⊢
  cases meets with
  | ended | silent | data | fault | closed => rfl
  | part => rw [List.flatMap_cons, List.flatMap_cons, ← List.append_assoc]; rfl

/-- What is read off a line are the first bytes on their way. -/
theorem Yields.coming_eq (yields : line.Yields bytes after) :
    line.coming = bytes ++ after.coming := by
  induction yields with
  | nothing => rfl
  | bytes read _ ih => rw [coming_read read, brought, ih, List.append_assoc]
  | fault read _ ih => exact (coming_read read).trans ih
  | look _ ih => exact ih

/-- A read does not change what a silent line does. -/
theorem idle_read {room : Nat} {result : Except Fault.Kind (List UInt8)}
    (read : line.read room = (result, after)) : after.idle = line.idle := by
  have kept := congrArg Line.idle (read_kept room line)
  rwa [read] at kept

/-- A read that succeeds takes bytes off those that are on their way. -/
theorem Lossless.read_ok (lossless : line.Lossless) {room : Nat} (positive : 0 < room)
    (read : line.read room = (.ok bytes, after)) :
    bytes ≠ [] ∧ after.Lossless ∧ line.coming = bytes ++ after.coming := by
  obtain ⟨hold, lasting, silent⟩ := lossless.idle
  have pieces := lossless.arrivals
  have meets := meets_read read
  suffices bytes ≠ [] ∧ ∀ arrival ∈ after.arrivals, ∃ piece, piece ≠ [] ∧ arrival = .data piece from
    ⟨this.1, ⟨this.2, hold, lasting, (idle_read read).trans silent⟩, coming_read read⟩
  generalize line.arrivals = arrivals at meets pieces
  generalize after.arrivals = left at meets ⊢
  rw [silent] at meets
  cases meets with
  | ended closed => cases closed
  | data short =>
    obtain ⟨⟨piece, nonempty, same⟩, others⟩ := List.forall_mem_cons.1 pieces
    cases same
    exact ⟨nonempty, others⟩
  | part full more =>
    obtain ⟨_, others⟩ := List.forall_mem_cons.1 pieces
    have some : bytes ≠ [] := List.length_pos_iff.1 (full.symm ▸ positive)
    exact ⟨some, List.forall_mem_cons.2 ⟨⟨_, more, rfl⟩, others⟩⟩
  | closed =>
    obtain ⟨⟨piece, _, same⟩, _⟩ := List.forall_mem_cons.1 pieces
    cases same

/-- A read that fails has timed out, since nothing is on its way. -/
theorem Lossless.read_error (lossless : line.Lossless) {room : Nat} {kind : Fault.Kind}
    (read : line.read room = (.error kind, after)) :
    kind = .timedOut ∧ after.arrivals = [] ∧ after.Lossless ∧ line.coming = after.coming := by
  obtain ⟨hold, lasting, silent⟩ := lossless.idle
  have pieces := lossless.arrivals
  have meets := meets_read read
  suffices kind = .timedOut ∧ after.arrivals = [] from
    ⟨this.1, this.2, ⟨by rw [this.2]; nofun, hold, lasting, (idle_read read).trans silent⟩,
      coming_read read⟩
  generalize line.arrivals = arrivals at meets pieces
  generalize after.arrivals = left at meets ⊢
  cases meets with
  | silent => exact ⟨rfl, rfl⟩
  | fault =>
    obtain ⟨⟨piece, _, same⟩, _⟩ := List.forall_mem_cons.1 pieces
    cases same

/-- What is read off a line that loses nothing are the first bytes on their way. -/
theorem Yields.coming (yields : line.Yields bytes after) (lossless : line.Lossless) :
    after.Lossless ∧ line.coming = bytes ++ after.coming := by
  refine ⟨?_, yields.coming_eq⟩
  induction yields with
  | nothing => exact lossless
  | bytes read _ ih => exact ih (lossless.read_ok (show 0 < Frame.readSize by decide) read).2.1
  | fault read _ ih => exact ih (lossless.read_error read).2.2.1
  | look _ ih => exact ih ⟨lossless.arrivals, lossless.idle⟩

end Line

namespace Frame

/-- A wire fault is heard as noise. -/
theorem Reading.heard_of_isWireFault {error : Error} (fault : error.isWireFault = true)
    (skipped : List (List UInt8)) :
    (Reading.mk (.error error) skipped).heard = .noise := by
  cases error with
  | closed | line => cases fault
  | _ => simp only [Reading.heard, fault, if_true]

namespace Reader

variable {π : Type} {before after : Reader π} {bytes : List UInt8} {found held : List Frame}

/-- A reader's buffer and what is on its way hold these frames, whatever follows them. -/
def Holds (reader : Reader π) (held : List Frame) : Prop :=
  ∀ more, frames reader.limit (reader.buffer ++ reader.line.coming ++ more) =
    held ++ frames reader.limit more

/-- Reading returns frames that are held, and leaves the others. -/
theorem Reads.holds (reads : before.Reads bytes found after) (lossless : before.line.Lossless)
    (holds : before.Holds held) :
    after.line.Lossless ∧ ∃ rest, held = found ++ rest ∧ after.Holds rest := by
  obtain ⟨sound, whole⟩ := reads.yields.coming lossless
  have same (more : List UInt8) :
      found ++ Frame.frames before.limit (after.buffer ++ after.line.coming ++ more) =
        held ++ Frame.frames before.limit more := by
    have read := reads.frames (after.line.coming ++ more)
    have kept := holds more
    rw [whole] at kept
    simp only [List.append_assoc] at read kept ⊢
    rw [← read, kept]
  have all : held = found ++ Frame.frames before.limit (after.buffer ++ after.line.coming) := by
    have none : Frame.frames before.limit [] = [] := frames_eq_nil rfl
    have all := same []
    rw [List.append_nil, none, List.append_nil] at all
    exact all.symm
  refine ⟨sound, _, all, fun more => ?_⟩
  have rest := (same more).trans (by rw [all, List.append_assoc])
  rw [reads.limit]
  exact List.append_cancel_left rest

/-- A reader that holds no byte, and to which none is on its way, holds no frame. -/
theorem holds_nil {reader : Reader π} (empty : reader.buffer = [])
    (silent : reader.line.arrivals = []) : reader.Holds [] := by
  intro more
  rw [empty, Line.coming, silent]
  rfl

/-- A reading over a line that loses nothing ends with a frame or a wire fault, or nothing is on its
way any more. -/
theorem next_of_lossless (reader : Reader π) (lossless : reader.line.Lossless) :
    (∃ frame, reader.next.1.heard = .frame frame) ∨ reader.next.1.heard = .noise ∨
      reader.next.1.heard = .quiet ∧ reader.next.2.line.arrivals = [] := by
  fun_induction next reader with
  | case1 reader pass piece frame found => exact .inl ⟨frame, rfl⟩
  | case2 reader pass piece error found =>
    exact .inr (.inl (Reading.heard_of_isWireFault (isWireFault_of_pass found) piece))
  | case3 reader pass piece needs line read =>
    exact absurd rfl (lossless.read_ok (show 0 < readSize by decide) read).1
  | case4 reader pass piece needs byte rest line read taken reading after next ih =>
    obtain ⟨_, sound, _⟩ := lossless.read_ok (show 0 < readSize by decide) read
    have going := ih sound
    rw [next] at going
    exact going
  | case5 reader pass piece needs line read taken reading after next ih =>
    cases (lossless.read_error read).1
  | case6 reader pass piece needs kind line uninterrupted read =>
    obtain ⟨rfl, none, _, _⟩ := lossless.read_error read
    exact .inr (.inr ⟨rfl, none⟩)

/-- What a reading over a line that loses nothing is heard as. -/
theorem heard_of_lossless {reader after : Reader π} {reading : Reading}
    (lossless : reader.line.Lossless) (next : reader.next = (reading, after)) :
    (∃ frame, reading.heard = .frame frame) ∨ reading.heard = .noise ∨
      reading.heard = .quiet ∧ after.line.arrivals = [] := by
  have heard := reader.next_of_lossless lossless
  rw [next] at heard
  exact heard

/-- A frame of which a part is in the buffer and the rest is on its way is read, and then neither
has anything more. -/
theorem next_of_frame {frame : Frame} (reader : Reader π) (lossless : reader.line.Lossless)
    (encoded : frame.encode = .ok (reader.buffer ++ reader.line.coming))
    (fits : frame.payload.length ≤ reader.limit) :
    reader.next.1.heard = .frame frame ∧ reader.next.2.buffer = [] ∧
      reader.next.2.line.arrivals = [] := by
  -- What a pass makes of the buffer depends on whether the frame is all there.
  have passes (reader : Reader π) (encoded : frame.encode = .ok (reader.buffer ++ reader.line.coming))
      (fits : frame.payload.length ≤ reader.limit) :
      (reader.line.coming ≠ [] ∧ pass reader.limit reader.buffer =
        { skipped := [], outcome := .incomplete, consumed := [], rest := reader.buffer }) ∨
      (reader.line.coming = [] ∧ pass reader.limit reader.buffer =
        { skipped := [], outcome := .frame frame, consumed := reader.buffer, rest := [] }) := by
    by_cases coming : reader.line.coming = []
    · rw [coming, List.append_nil] at encoded
      have whole := pass_encode encoded fits []
      rw [List.append_nil] at whole
      exact .inr ⟨coming, whole⟩
    · exact .inl ⟨coming, pass_front encoded fits coming⟩
  fun_induction next reader with
  | case1 reader pass piece other found =>
    rcases passes reader encoded fits with ⟨_, part⟩ | ⟨silent, whole⟩
    · rw [show pass = _ from part] at found
      cases found
    · rw [show pass = _ from whole] at found ⊢
      cases found
      exact ⟨rfl, rfl, lossless.arrivals_eq_nil silent⟩
  | case2 reader pass piece error found =>
    rcases passes reader encoded fits with ⟨_, part⟩ | ⟨_, whole⟩
    · rw [show pass = _ from part] at found
      cases found
    · rw [show pass = _ from whole] at found
      cases found
  | case3 reader pass piece needs line read =>
    exact absurd rfl (lossless.read_ok (show 0 < readSize by decide) read).1
  | case4 reader pass piece needs byte rest line read taken reading after next ih =>
    obtain ⟨_, sound, coming⟩ := lossless.read_ok (show 0 < readSize by decide) read
    rcases passes reader encoded fits with ⟨_, part⟩ | ⟨_, whole⟩
    · rw [show pass = _ from part] at next ih
      rw [coming, ← List.append_assoc] at encoded
      have later := ih sound encoded fits
      rw [next] at later
      exact later
    · rw [show pass = _ from whole] at needs
      cases needs
  | case5 reader pass piece needs line read taken reading after next ih =>
    cases (lossless.read_error read).1
  | case6 reader pass piece needs kind line uninterrupted read =>
    obtain ⟨rfl, none, _, same⟩ := lossless.read_error read
    rcases passes reader encoded fits with ⟨some, _⟩ | ⟨_, whole⟩
    · rw [same, Line.coming, none] at some
      exact absurd rfl some
    · rw [show pass = _ from whole] at needs
      cases needs

end Reader

end Frame

end Multidrop
