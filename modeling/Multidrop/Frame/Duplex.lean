import Multidrop.Frame.Decoder
import Multidrop.Frame.Writer

/-!
# Duplex frame streams

Both directions of a line for a user that never waits. The receiving side is a stream of items
that is pending where nothing has arrived, yields a failed read once and then ends once before it
reads on. The sending side keeps what a failed write left over and sends it in front of the next
frame.
-/
namespace Multidrop

/-- What a line has to offer at once. -/
inductive Line.Ready where
  /-- Nothing has arrived. -/
  | pending
  /-- These bytes have; none means that the line is closed. -/
  | bytes (bytes : List UInt8)
  /-- A read failed. -/
  | fault (kind : Fault.Kind)
  deriving Repr, DecidableEq

namespace Line

variable {π : Type}

/-- The most bytes that one read takes. -/
def chunkSize : Nat := 8192

/-- Read what has arrived, without waiting. A line that is closed stays so. -/
def ready (line : Line π) : Ready × Line π :=
  match line.arrivals with
  | [] => (.pending, line)
  | .closed :: _ => (.bytes [], line)
  | .data _ :: _ | .fault _ :: _ =>
    match line.read chunkSize with
    | (.ok bytes, after) => (.bytes bytes, after)
    | (.error kind, after) => (.fault kind, after)

/-- Bytes that are read leave the arrivals. -/
theorem weight_ready_bytes {line after : Line π} {bytes : List UInt8}
    (h : line.ready = (.bytes bytes, after)) :
    after.weight + 2 * bytes.length ≤ line.weight := by
  unfold ready at h
  split at h
  · cases h
  · cases h
    simp
  all_goals
    split at h
    · rename_i read
      cases h
      exact weight_read_of_ok read
    · cases h

/-- Reading does not reach the peer. -/
theorem peer_ready (line : Line π) : line.ready.2.peer = line.peer := by
  unfold ready
  split
  · rfl
  · rfl
  all_goals
    have := peer_read chunkSize line
    split <;> rename_i read <;> rw [read] at this <;> exact this

/-- A failed read uses up an arrival. -/
theorem weight_ready_fault {line after : Line π} {kind : Fault.Kind}
    (h : line.ready = (.fault kind, after)) : after.weight < line.weight := by
  unfold ready at h
  split at h
  · cases h
  · cases h
  all_goals
    rename_i arrived
    split at h
    · cases h
    · rename_i read
      cases h
      rcases weight_read_of_error read with lt | ⟨_, none, _⟩
      · exact lt
      · rw [arrived] at none
        cases none

end Line

namespace Frame

/-- A line with the bytes that wait on either side of it. -/
structure Duplex (π : Type) where
  /-- Received bytes on their way to become items. -/
  items : Items
  /-- The line. -/
  line : Line π
  /-- Whether the received bytes may still hold an item. -/
  readable : Bool := false
  /-- Whether the last read met the end of the line. -/
  ended : Bool := false
  /-- Whether a failed read was yielded last. -/
  failed : Bool := false
  /-- Bytes to be sent that the line has not taken. -/
  unsent : List UInt8 := []

/-- What looking for the next item finds. -/
inductive Polled where
  /-- An item. -/
  | item (item : Item)
  /-- The line failed. -/
  | failed (kind : Fault.Kind)
  /-- The stream ends here. -/
  | ended
  /-- Nothing yet. -/
  | pending
  deriving Repr, DecidableEq

namespace Duplex

variable {π : Type}

/-- A stream over a line, with a receive limit. -/
def ofLine (limit : Nat) (line : Line π) : Duplex π := { items := { limit }, line }

/-- Bound on the items and faults that can still come out. -/
def weight (duplex : Duplex π) : Nat := duplex.line.weight + duplex.items.weight

/-- The next item of a line that has ended. -/
def drain (duplex : Duplex π) : Polled × Duplex π :=
  match duplex.items.nextAtEnd with
  | (some item, items) => (.item item, { duplex with items })
  | (none, items) => (.ended, { duplex with items, readable := false })

/-- Read until there is an item, the line has nothing more or ends. -/
def receive (duplex : Duplex π) : Polled × Duplex π :=
  match h : duplex.line.ready with
  | (.pending, line) => (.pending, { duplex with line })
  | (.fault kind, line) => (.failed kind, { duplex with line, failed := true })
  | (.bytes [], line) =>
    if duplex.ended then (.ended, { duplex with line })
    else { duplex with line, ended := true, readable := true }.drain
  | (.bytes (byte :: more), line) =>
    have read := Line.weight_ready_bytes h
    have : line.weight < duplex.line.weight := by
      simp only [List.length_cons] at read
      omega
    let duplex := { duplex with line, ended := false }
    match (duplex.items.feed (byte :: more)).next with
    | (some item, items) => (.item item, { duplex with items, readable := true })
    | (none, items) => receive { duplex with items, readable := false }
termination_by duplex.line.weight

/-- The next item, if there is one already. -/
def next (duplex : Duplex π) : Polled × Duplex π :=
  if duplex.failed then (.ended, { duplex with readable := false, failed := false })
  else if duplex.readable then
    if duplex.ended then duplex.drain
    else
      match duplex.items.next with
      | (some item, items) => (.item item, { duplex with items })
      | (none, items) => { duplex with items, readable := false }.receive
  else duplex.receive

/-- Items and faults are used up; so the others bring nothing. -/
def Polled.advances : Polled → Bool
  | .item _ | .failed _ => true
  | .ended | .pending => false

/-- An item of an ended line takes bytes. -/
theorem weight_drain_lt {duplex : Duplex π} (h : Polled.advances duplex.drain.1) :
    duplex.drain.2.weight < duplex.weight := by
  unfold drain at *
  split at h <;> rename_i found
  · have := Items.weight_nextAtEnd_lt found
    simp only [weight]
    omega
  · simp [Polled.advances] at h

/-- Feeding adds twice the bytes. -/
theorem weight_feed (bytes : List UInt8) (items : Items) :
    (items.feed bytes).weight = items.weight + 2 * bytes.length := by
  simp only [Items.feed, Items.weight, List.length_append]
  omega

/-- What reading brings takes something that has arrived. -/
theorem weight_receive_lt {duplex : Duplex π} (h : Polled.advances duplex.receive.1) :
    duplex.receive.2.weight < duplex.weight := by
  fun_induction receive duplex with
  | case1 => simp [Polled.advances] at h
  | case2 duplex kind line ready =>
    have := Line.weight_ready_fault ready
    simp only [weight]
    omega
  | case3 => simp [Polled.advances] at h
  | case4 duplex line ready open_ =>
    have := Line.weight_ready_bytes ready
    have := weight_drain_lt h
    simp only [weight, List.length_nil] at *
    omega
  | case5 duplex byte more line ready read less receiving item items found =>
    have taken := Items.weight_next_lt found
    rw [weight_feed] at taken
    simp only [weight, receiving] at *
    omega
  | case6 duplex byte more line ready read less receiving items found ih =>
    have kept := Items.weight_next_le found
    rw [weight_feed] at kept
    have := ih h
    simp only [weight, receiving] at *
    omega

/-- An item or a fault takes something that has arrived. -/
theorem weight_next_lt {duplex after : Duplex π} {polled : Polled}
    (h : duplex.next = (polled, after)) (advances : Polled.advances polled) :
    after.weight < duplex.weight := by
  unfold next at h
  split at h
  · cases h
    simp [Polled.advances] at advances
  · split at h
    · split at h
      · have := @weight_drain_lt _ duplex
        rw [h] at this
        exact this advances
      · split at h <;> rename_i items found
        · cases h
          have := Items.weight_next_lt found
          simp only [weight]
          omega
        · have read := @weight_receive_lt _ { duplex with items, readable := false }
          rw [h] at read
          have := read advances
          have := Items.weight_next_le found
          simp only [weight] at *
          omega
    · have := @weight_receive_lt _ duplex
      rw [h] at this
      exact this advances

/-- Looking for an item does not reach the peer. -/
theorem peer_next (duplex : Duplex π) : duplex.next.2.line.peer = duplex.line.peer := by
  have drained (duplex : Duplex π) : duplex.drain.2.line.peer = duplex.line.peer := by
    unfold drain
    split <;> rfl
  have received (duplex : Duplex π) : duplex.receive.2.line.peer = duplex.line.peer := by
    fun_induction receive duplex with
    | case1 duplex _ ready | case2 duplex _ _ ready | case3 duplex _ ready =>
      have := Line.peer_ready duplex.line
      rwa [ready] at this
    | case4 duplex _ ready =>
      have := Line.peer_ready duplex.line
      rw [ready] at this
      exact (drained _).trans this
    | case5 duplex _ _ _ ready =>
      have := Line.peer_ready duplex.line
      rwa [ready] at this
    | case6 duplex _ _ _ ready _ _ _ _ _ ih =>
      have := Line.peer_ready duplex.line
      rw [ready] at this
      exact ih.trans this
  unfold next
  split
  · rfl
  · split
    · split
      · exact drained _
      · split
        · rfl
        · exact received _
    · exact received _

/-! ## Sending -/

/-- The text of a write that takes nothing. -/
def stalledText : String := "failed to write frame to transport"

/-- Write what waits to be sent, and flush. -/
def flush [Peer π] (duplex : Duplex π) : Except Error Unit × Duplex π :=
  match duplex.line.offer (fun _ => false) duplex.unsent with
  | (.stalled, unsent, line) =>
    (.error (.line ⟨.writeZero, some stalledText⟩), { duplex with line, unsent })
  | (.failed kind, unsent, line) => (.error (.line ⟨kind, none⟩), { duplex with line, unsent })
  | (.complete, unsent, line) =>
    match line.flush with
    | (some kind, line) => (.error (.line ⟨kind, none⟩), { duplex with line, unsent })
    | (none, line) => (.ok (), { duplex with line, unsent })

/-- Wait for room where too much waits to be sent already. -/
def makeRoom [Peer π] (duplex : Duplex π) : Except Error Unit × Duplex π :=
  if Line.chunkSize ≤ duplex.unsent.length then duplex.flush else (.ok (), duplex)

/-- Send encoded bytes as they are. -/
def sendRaw [Peer π] (bytes : List UInt8) (duplex : Duplex π) : Except Error Unit × Duplex π :=
  match duplex.makeRoom with
  | (.error error, duplex) => (.error error, duplex)
  | (.ok (), duplex) => { duplex with unsent := duplex.unsent ++ bytes }.flush

/-- Send a frame. -/
def send [Peer π] (frame : Frame) (duplex : Duplex π) : Except Error Unit × Duplex π :=
  match duplex.makeRoom with
  | (.error error, duplex) => (.error error, duplex)
  | (.ok (), duplex) =>
    match frame.encodeWithin duplex.items.limit with
    | .error error => (.error error, duplex)
    | .ok bytes => { duplex with unsent := duplex.unsent ++ bytes }.flush

end Duplex

end Frame

end Multidrop
