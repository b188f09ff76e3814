import Multidrop.Basic

/-!
# Lines

Byte lines with everything that they will do written down in advance: what a read meets, what a
write takes, which faults there are and how much time passes.
-/
namespace Multidrop

/-! ## Clocks

Time in milliseconds as a line's user sees it: it is known only where somebody looks, and between
two looks any amount may pass. -/

/-- The time, and how much passes before each of the next looks. -/
structure Clock where
  /-- Milliseconds since the clock was started. -/
  now : Nat := 0
  /-- Time that passes before each of the next looks; none once the list is used up. -/
  lapses : List Nat := []
  deriving Repr, DecidableEq

namespace Clock

/-- Let time pass. -/
def advance (clock : Clock) (span : Nat) : Clock := { clock with now := clock.now + span }

/-- Look at the clock. -/
def look (clock : Clock) : Nat × Clock :=
  match clock.lapses with
  | [] => (clock.now, clock)
  | lapse :: rest => (clock.now + lapse, { now := clock.now + lapse, lapses := rest })

/-- A look shows the time the clock is left with. -/
theorem look_fst (clock : Clock) : clock.look.1 = clock.look.2.now := by
  unfold look
  split <;> rfl

/-- Time never runs back. -/
theorem now_le_look (clock : Clock) : clock.now ≤ clock.look.2.now := by
  unfold look
  split <;> simp

end Clock

/-! ## Faults of a byte line

What can go wrong when bytes are moved, apart from what the bytes say. -/

/-- The kinds of failure that reading, writing and files report. -/
inductive Fault.Kind where
  | interrupted
  | wouldBlock
  | timedOut
  | connectionReset
  | connectionRefused
  | brokenPipe
  | permissionDenied
  | unexpectedEof
  | notFound
  | writeZero
  | alreadyExists
  | invalidData
  | isADirectory
  | other
  deriving Repr, DecidableEq

/-- Every kind of failure. -/
def Fault.Kind.all : List Fault.Kind :=
  [.interrupted, .wouldBlock, .timedOut, .connectionReset, .connectionRefused, .brokenPipe,
    .permissionDenied, .unexpectedEof, .notFound, .writeZero, .alreadyExists, .invalidData,
    .isADirectory, .other]

/-- No kind of failure is left out. -/
theorem Fault.Kind.mem_all (kind : Fault.Kind) : kind ∈ Fault.Kind.all := by
  cases kind <;> decide

/-- The text of a kind. -/
def Fault.Kind.message : Fault.Kind → String
  | .interrupted => "operation interrupted"
  | .wouldBlock => "operation would block"
  | .timedOut => "timed out"
  | .connectionReset => "connection reset"
  | .connectionRefused => "connection refused"
  | .brokenPipe => "broken pipe"
  | .permissionDenied => "permission denied"
  | .unexpectedEof => "unexpected end of file"
  | .notFound => "entity not found"
  | .writeZero => "write zero"
  | .alreadyExists => "entity already exists"
  | .invalidData => "invalid data"
  | .isADirectory => "is a directory"
  | .other => "other error"

/-- True for the kinds that only say that nothing could be moved in time. -/
def Fault.Kind.isIdle : Fault.Kind → Bool
  | .wouldBlock | .timedOut => true
  | _ => false

/-- One failure: its kind, and a text of its own where the kind says too little. -/
structure Fault where
  /-- What sort of failure it is. -/
  kind : Fault.Kind
  /-- The text shown in place of the kind's. -/
  detail : Option String := none
  deriving Repr, DecidableEq

/-- The text of a failure. -/
def Fault.message (fault : Fault) : String := fault.detail.getD fault.kind.message

/-! ## Byte lines

A line carries bytes in both directions. What it will do is data: the arrivals that reading meets
one after another, how much each write takes, and the faults that flushing meets. Whoever is on
the other end is a `Peer`, which may answer bytes that a write takes with further arrivals. -/

/-- One thing that reading a line meets. -/
inductive Arrival where
  /-- Bytes that are there. -/
  | data (bytes : List UInt8)
  /-- A failed read. -/
  | fault (kind : Fault.Kind)
  /-- The other end has stopped sending. -/
  | closed
  deriving Repr, DecidableEq

/-- What becomes of one write. -/
inductive Take where
  /-- At most this many bytes are taken. -/
  | accept (limit : Nat)
  /-- The write fails. -/
  | fault (kind : Fault.Kind)
  deriving Repr, DecidableEq

/-- What a read meets when nothing has arrived. -/
inductive Idle where
  /-- The line counts as closed. -/
  | closed
  /-- The read holds for some milliseconds and then times out. -/
  | silent (hold : Nat) (positive : 0 < hold)
  deriving Repr, DecidableEq

/-- The far end of a line. -/
class Peer (π : Type) where
  /-- What arrives in answer to bytes that a write took. -/
  answer : π → List UInt8 → List Arrival × π

/-- A far end that answers each write with the next list of arrivals, whatever was written. -/
structure Script where
  /-- The lists that are left. -/
  answers : List (List Arrival) := []
  deriving Repr, DecidableEq

instance : Peer Script where
  answer script _ :=
    match script.answers with
    | [] => ([], script)
    | first :: rest => (first, ⟨rest⟩)

/-- A line with a peer at its far end. -/
structure Line (π : Type) where
  /-- What the next reads meet. -/
  arrivals : List Arrival := []
  /-- What becomes of the next writes; all bytes are taken once the list is used up. -/
  takes : List Take := []
  /-- Faults of the next flushes; flushing succeeds once the list is used up. -/
  flushFaults : List Fault.Kind := []
  /-- The far end. -/
  peer : π
  /-- What a read meets when nothing has arrived. -/
  idle : Idle := .closed
  /-- The time at this end. -/
  clock : Clock := {}
  /-- All bytes taken so far. -/
  written : List UInt8 := []
  /-- Flushes so far. -/
  flushes : Nat := 0

/-- Bound on the reads that an arrival can serve, counting each of its bytes twice. -/
def Arrival.weight : Arrival → Nat
  | .data bytes => 1 + 2 * bytes.length
  | .fault _ | .closed => 1

namespace Line

variable {π : Type}

/-- Bound on the reads that the arrivals can serve. -/
def weight (line : Line π) : Nat := total Arrival.weight line.arrivals

/-- Read at most the given number of bytes. No bytes at all means that the line is closed. Data
beyond the room stays in front for the next read. -/
def read (room : Nat) (line : Line π) : Except Fault.Kind (List UInt8) × Line π :=
  match line.arrivals with
  | [] =>
    match line.idle with
    | .closed => (.ok [], line)
    | .silent hold _ => (.error .timedOut, { line with clock := line.clock.advance hold })
  | .data bytes :: rest =>
    (.ok (bytes.take room),
      { line with
        arrivals := if room < bytes.length then .data (bytes.drop room) :: rest else rest })
  | .fault kind :: rest => (.error kind, { line with arrivals := rest })
  | .closed :: rest => (.ok [], { line with arrivals := rest })

/-- Count bytes as taken and let the peer answer them. -/
def deliver [Peer π] (bytes : List UInt8) (line : Line π) : Line π :=
  if bytes = [] then line
  else
    let (arrivals, peer) := Peer.answer line.peer bytes
    { line with
      arrivals := line.arrivals ++ arrivals
      peer := peer
      written := line.written ++ bytes }

/-- Offer bytes once: how many of them are taken. -/
def write [Peer π] (bytes : List UInt8) (line : Line π) : Except Fault.Kind Nat × Line π :=
  match line.takes with
  | [] => (.ok bytes.length, line.deliver bytes)
  | .accept limit :: rest =>
    (.ok (min limit bytes.length), { line with takes := rest }.deliver (bytes.take limit))
  | .fault kind :: rest => (.error kind, { line with takes := rest })

/-- Flush once: the fault, if there is one. -/
def flush (line : Line π) : Option Fault.Kind × Line π :=
  let line := { line with flushes := line.flushes + 1 }
  match line.flushFaults with
  | [] => (none, line)
  | kind :: rest => (some kind, { line with flushFaults := rest })

/-- Look at the clock. -/
def look (line : Line π) : Nat × Line π :=
  let (now, clock) := line.clock.look
  (now, { line with clock := clock })

/-- Add arrivals behind those that are there. -/
def inject (arrivals : List Arrival) (line : Line π) : Line π :=
  { line with arrivals := line.arrivals ++ arrivals }

/-- Reading does not reach the peer. -/
theorem peer_read (room : Nat) (line : Line π) : (line.read room).2.peer = line.peer := by
  unfold read
  split
  · split <;> rfl
  all_goals rfl

/-- Bytes that are read leave the arrivals. -/
theorem weight_read_of_ok {room : Nat} {line after : Line π} {bytes : List UInt8}
    (h : line.read room = (.ok bytes, after)) :
    after.weight + 2 * bytes.length ≤ line.weight := by
  unfold read at h
  split at h
  · split at h
    · cases h
      simp
    · cases h
  · rename_i arrived rest heq
    cases h
    have whole : line.weight = 1 + 2 * arrived.length + total Arrival.weight rest := by
      simp [weight, heq, Arrival.weight]
    rw [whole]
    by_cases more : room < arrived.length
    · simp [weight, more, Arrival.weight, List.length_take]
      omega
    · simp [weight, more, List.length_take]
      omega
  · cases h
  · rename_i rest heq
    cases h
    simp [weight, heq]

/-- A failed read is an arrival of its own, or nothing has arrived. -/
theorem weight_read_of_error {room : Nat} {line after : Line π} {kind : Fault.Kind}
    (h : line.read room = (.error kind, after)) :
    after.weight < line.weight ∨
      kind = .timedOut ∧ line.arrivals = [] ∧ after.arrivals = [] ∧
        line.clock.now < after.clock.now := by
  unfold read at h
  split at h
  · rename_i heq
    split at h
    · cases h
    · rename_i hold positive _
      cases h
      exact .inr ⟨rfl, heq, heq, by simp [Clock.advance]; omega⟩
  · cases h
  · rename_i rest heq
    cases h
    left
    simp [weight, heq, Arrival.weight]
  · cases h

/-- A read brings no arrivals. -/
theorem weight_read_le {room : Nat} {line after : Line π}
    {result : Except Fault.Kind (List UInt8)} (h : line.read room = (result, after)) :
    after.weight ≤ line.weight := by
  cases result with
  | ok bytes =>
    have := weight_read_of_ok h
    omega
  | error kind =>
    rcases weight_read_of_error h with lt | ⟨_, none, still, _⟩
    · omega
    · simp [weight, none, still]

/-- A read never takes time back. -/
theorem now_read_le {room : Nat} {line after : Line π}
    {result : Except Fault.Kind (List UInt8)} (h : line.read room = (result, after)) :
    line.clock.now ≤ after.clock.now := by
  unfold read at h
  split at h
  · split at h <;> cases h <;> simp [Clock.advance]
  all_goals
    cases h
    exact Nat.le_refl _

/-- Only an arrival interrupts a read. -/
theorem weight_read_of_interrupted {room : Nat} {line after : Line π}
    (h : line.read room = (.error .interrupted, after)) : after.weight < line.weight := by
  rcases weight_read_of_error h with lt | ⟨kind, _⟩
  · exact lt
  · cases kind

/-- A write uses up an entry of the script or takes every byte. -/
theorem takes_write [Peer π] {line after : Line π} {bytes : List UInt8}
    {result : Except Fault.Kind Nat} (h : line.write bytes = (result, after)) :
    after.takes.length < line.takes.length ∨
      after.takes = line.takes ∧ result = .ok bytes.length := by
  have deliver_takes (sent : List UInt8) (line : Line π) :
      (line.deliver sent).takes = line.takes := by
    unfold deliver
    split <;> rfl
  unfold write at h
  split at h
  · cases h
    exact .inr ⟨deliver_takes _ _, rfl⟩
  · rename_i heq
    cases h
    left
    rw [deliver_takes, heq]
    simp
  · rename_i heq
    cases h
    left
    simp [heq]

end Line

end Multidrop
