import Multidrop.Frame.Decoder
import Multidrop.Line

/-!
# Reading frames from a line

A reader keeps the bytes it has received until they make up frames. Its caller sees whole,
checksum-verified frames, wire faults after whose bytes are dropped, and failures of the line. No
failure loses a buffered byte, so reading goes on with the interrupted frame.
-/
namespace Multidrop.Frame

/-- Most bytes that one read of the line asks for. -/
def readSize : Nat := 256

/-- A receive buffer over a line. -/
structure Reader (π : Type) where
  /-- The largest payload accepted. -/
  limit : Nat := defaultLimit
  /-- Bytes received that no frame has consumed. -/
  buffer : List UInt8 := []
  /-- The line read from. -/
  line : Line π

/-- What reading the next frame returns. -/
structure Reading where
  /-- The frame, or why there is none. -/
  result : Except Error Frame
  /-- The pieces skipped on the way, in order. -/
  skipped : List (List UInt8) := []

/-- What a reading means to somebody who waits for frames. -/
inductive Heard where
  /-- A frame. -/
  | frame (frame : Frame)
  /-- A damaged frame. -/
  | noise
  /-- Nothing arrived in time. -/
  | quiet
  /-- The line ended. -/
  | closed
  /-- The line failed. -/
  | broken (error : Error)

/-- What a reading means. -/
def Reading.heard (reading : Reading) : Heard :=
  match reading.result with
  | .ok frame => .frame frame
  | .error .closed => .closed
  | .error (.line fault) => if fault.kind.isIdle then .quiet else .broken (.line fault)
  | .error error => if error.isWireFault then .noise else .broken error

namespace Reader

variable {π : Type}

/-- Bound on what a reader can still return. -/
def weight (reader : Reader π) : Nat := reader.line.weight + reader.buffer.length

/-- Read the next frame, collecting the pieces skipped before it. -/
def next (reader : Reader π) : Reading × Reader π :=
  let pass := pass reader.limit reader.buffer
  let piece := if pass.skipped = [] then [] else [pass.skipped]
  match pass.outcome with
  | .frame frame => (⟨.ok frame, piece⟩, { reader with buffer := pass.rest })
  | .fault error => (⟨.error error, piece⟩, { reader with buffer := pass.rest })
  | .incomplete =>
    match h : reader.line.read readSize with
    | (.ok [], line) => (⟨.error .closed, piece⟩, { reader with buffer := pass.rest, line })
    | (.ok (byte :: more), line) =>
      have := Line.weight_read_of_ok h
      let (reading, after) :=
        next { reader with buffer := pass.rest ++ byte :: more, line }
      ({ reading with skipped := piece ++ reading.skipped }, after)
    | (.error .interrupted, line) =>
      have := Line.weight_read_of_interrupted h
      let (reading, after) := next { reader with buffer := pass.rest, line }
      ({ reading with skipped := piece ++ reading.skipped }, after)
    | (.error kind, line) =>
      (⟨.error (.line ⟨kind, none⟩), piece⟩, { reader with buffer := pass.rest, line })
termination_by reader.line.weight
decreasing_by
  · simp only [List.length_cons] at this
    omega
  · assumption

/-- What holds of a reader before and after one frame was read. -/
structure Progress (before after : Reader π) (result : Except Error Frame) : Prop where
  /-- No bytes come from nowhere. -/
  weight_le : after.weight ≤ before.weight
  /-- Time does not run back. -/
  now_le : before.line.clock.now ≤ after.line.clock.now
  /-- The line is closed, or something was taken, or time passed on a silent line. -/
  moves : result = .error .closed ∨ after.weight < before.weight ∨
    result = .error (.line ⟨.timedOut, none⟩) ∧ before.line.clock.now < after.line.clock.now

/-- Reading a frame makes progress. -/
theorem next_progress (reader : Reader π) :
    Progress reader reader.next.2 reader.next.1.result := by
  fun_induction next reader with
  | case1 reader pass piece frame found =>
    have lt : pass.rest.length < reader.buffer.length :=
      length_pass_rest_lt (by rw [show (Frame.pass _ _).outcome = _ from found]; simp)
    exact ⟨by simp only [weight]; omega, Nat.le_refl _, .inr (.inl (by simp only [weight]; omega))⟩
  | case2 reader pass piece error found =>
    have lt : pass.rest.length < reader.buffer.length :=
      length_pass_rest_lt (by rw [show (Frame.pass _ _).outcome = _ from found]; simp)
    exact ⟨by simp only [weight]; omega, Nat.le_refl _, .inr (.inl (by simp only [weight]; omega))⟩
  | case3 reader pass piece found line read =>
    have le : pass.rest.length ≤ reader.buffer.length := length_pass_rest_le _ _
    have := Line.weight_read_le read
    exact ⟨by simp only [weight]; omega, Line.now_read_le read, .inl rfl⟩
  | case4 reader pass piece found byte more line read taken reading after next ih =>
    have le : pass.rest.length ≤ reader.buffer.length := length_pass_rest_le _ _
    have now := Line.now_read_le read
    have weight_le := ih.weight_le
    have now_le := ih.now_le
    rw [next] at weight_le now_le
    simp only [weight, List.length_append, List.length_cons] at taken weight_le
    exact ⟨by simp only [weight]; omega, by dsimp only at now_le ⊢; omega,
      .inr (.inl (by simp only [weight]; omega))⟩
  | case5 reader pass piece found line read taken reading after next ih =>
    have le : pass.rest.length ≤ reader.buffer.length := length_pass_rest_le _ _
    have now := Line.now_read_le read
    have weight_le := ih.weight_le
    have now_le := ih.now_le
    rw [next] at weight_le now_le
    simp only [weight] at weight_le
    exact ⟨by simp only [weight]; omega, by dsimp only at now_le ⊢; omega,
      .inr (.inl (by simp only [weight]; omega))⟩
  | case6 reader pass piece found kind line other read =>
    have le : pass.rest.length ≤ reader.buffer.length := length_pass_rest_le _ _
    have := Line.weight_read_le read
    refine ⟨by simp only [weight]; omega, Line.now_read_le read, .inr ?_⟩
    rcases Line.weight_read_of_error read with lt | ⟨rfl, _, _, passed⟩
    · exact .inl (by simp only [weight]; omega)
    · exact .inr ⟨rfl, passed⟩

/-- Hearing a frame or noise takes bytes. -/
theorem weight_next_lt {reader after : Reader π} {reading : Reading}
    (h : reader.next = (reading, after))
    (heard : reading.heard = .noise ∨ ∃ frame, reading.heard = .frame frame) :
    after.weight < reader.weight := by
  have moves := (next_progress reader).moves
  rw [h] at moves
  rcases moves with closed | lt | ⟨timedOut, _⟩
  · dsimp only at closed
    simp [Reading.heard, closed] at heard
  · exact lt
  · dsimp only at timedOut
    simp [Reading.heard, timedOut, Fault.Kind.isIdle] at heard

/-- Hearing nothing takes an arrival or time. -/
theorem weight_next_or_now {reader after : Reader π} {reading : Reading}
    (h : reader.next = (reading, after)) (heard : reading.heard ≠ .closed) :
    after.weight < reader.weight ∨
      after.weight ≤ reader.weight ∧ reader.line.clock.now < after.line.clock.now := by
  have progress := next_progress reader
  rw [h] at progress
  rcases progress.moves with closed | lt | ⟨_, passed⟩
  · dsimp only at closed
    simp [Reading.heard, closed] at heard
  · exact .inl lt
  · exact .inr ⟨progress.weight_le, passed⟩

/-- Look at the line's clock. -/
def look (reader : Reader π) : Nat × Reader π :=
  (reader.line.look.1, { reader with line := reader.line.look.2 })

/-- A look takes no bytes. -/
@[simp]
theorem weight_look (reader : Reader π) : reader.look.2.weight = reader.weight := rfl

/-- A look shows the time the line is left with. -/
theorem look_fst (reader : Reader π) : reader.look.1 = reader.look.2.line.clock.now :=
  Clock.look_fst _

/-- A look never takes time back. -/
theorem now_le_look (reader : Reader π) :
    reader.line.clock.now ≤ reader.look.2.line.clock.now := Clock.now_le_look _

/-- Drop any partly received frame. -/
def discard (reader : Reader π) : Reader π := { reader with buffer := [] }

end Reader

end Multidrop.Frame
