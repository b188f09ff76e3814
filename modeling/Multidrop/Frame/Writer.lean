import Multidrop.Frame.Basic
import Multidrop.Line

/-!
# Writing to lines

Offering bytes to a line until it has taken all of them, and a writer of frames that does so.
-/
namespace Multidrop

/-! ## Writing everything

A write may take only a part of what it is offered, so a writer offers the rest again until all
is taken. Which faults are worth another attempt is the writer's choice. -/

/-- How offering bytes until all are taken ends. -/
inductive Offered where
  /-- Every byte was taken. -/
  | complete
  /-- A write took nothing. -/
  | stalled
  /-- A write failed. -/
  | failed (kind : Fault.Kind)
  deriving Repr, DecidableEq

namespace Line

variable {π : Type}

/-- Offer bytes until all are taken, trying again after the faults that `retry` names. Returns how
it ended and the bytes that were not taken. -/
def offer [Peer π] (retry : Fault.Kind → Bool) (bytes : List UInt8) (line : Line π) :
    Offered × List UInt8 × Line π :=
  if bytes = [] then (.complete, [], line)
  else
    match h : line.write bytes with
    | (.ok 0, after) => (.stalled, bytes, after)
    | (.ok (count + 1), after) => offer retry (bytes.drop (count + 1)) after
    | (.error kind, after) =>
      if retry kind then offer retry bytes after else (.failed kind, bytes, after)
termination_by line.takes.length + bytes.length
decreasing_by
  · rename_i nonempty
    have pos := List.length_pos_iff.2 nonempty
    rcases takes_write h with lt | ⟨same, _⟩
    · simp only [List.length_drop]
      omega
    · rw [same, List.length_drop]
      omega
  · rcases takes_write h with lt | ⟨_, taken⟩
    · omega
    · cases taken

/-- A failed flush uses up a fault of the script. -/
theorem flushFaults_flush {line after : Line π} {kind : Fault.Kind}
    (h : line.flush = (some kind, after)) :
    after.flushFaults.length < line.flushFaults.length := by
  unfold flush at h
  dsimp only at h
  split at h
  · cases h
  · rename_i heq
    cases h
    rw [heq]
    simp

/-- Flush until it succeeds, trying again after the faults that `retry` names. -/
def settle (retry : Fault.Kind → Bool) (line : Line π) : Option Fault.Kind × Line π :=
  match h : line.flush with
  | (none, after) => (none, after)
  | (some kind, after) =>
    have := flushFaults_flush h
    if retry kind then settle retry after else (some kind, after)
termination_by line.flushFaults.length

end Line

end Multidrop

/-! ## Writing frames to a line

A writer encodes each frame afresh and offers it until the line has taken all of it, then flushes.
Interrupted and blocked attempts are made again; a write that takes nothing means that the line is
closed. -/

namespace Multidrop.Frame

/-- A line with a limit on the payloads sent over it. -/
structure Writer (π : Type) where
  /-- The largest payload sent. -/
  limit : Nat := defaultLimit
  /-- The line written to. -/
  line : Line π

/-- Faults after which a writer tries again. -/
def isRetried : Fault.Kind → Bool
  | .interrupted | .wouldBlock => true
  | _ => false

namespace Writer

variable {π : Type}

/-- Flush the line. -/
def flush (writer : Writer π) : Except Error Unit × Writer π :=
  match writer.line.settle isRetried with
  | (none, line) => (.ok (), { writer with line })
  | (some kind, line) => (.error (.line ⟨kind, none⟩), { writer with line })

/-- Send bytes as they are, outside of framing. -/
def sendRaw [Peer π] (bytes : List UInt8) (writer : Writer π) :
    Except Error Unit × Writer π :=
  match writer.line.offer isRetried bytes with
  | (.complete, _, line) => { writer with line }.flush
  | (.stalled, _, line) => (.error .closed, { writer with line })
  | (.failed kind, _, line) => (.error (.line ⟨kind, none⟩), { writer with line })

/-- Send one frame. A frame that cannot be encoded leaves the line alone. -/
def send [Peer π] (frame : Frame) (writer : Writer π) : Except Error Unit × Writer π :=
  match frame.encodeWithin writer.limit with
  | .error error => (.error error, writer)
  | .ok bytes => writer.sendRaw bytes

end Writer

end Multidrop.Frame
