import Multidrop.Proofs.Tunnel.Accesses

/-!
# Rings as bounded queues

A queue of a capacity takes the longest front of what it is given that fits, and gives its oldest
bytes away, as many as are asked for or all it has (`Fifo.Serves`). Whatever is done to a ring in
whatever order, it answers as the queue does whose bytes are `Ring.toList`, and no access to its
storage fails on the way (`Ring.refines_fifo`).
-/
namespace Multidrop

/-! ## Queues -/

/-- One use of a queue of bytes. -/
inductive Fifo.Use
  /-- Append bytes. -/
  | push (bytes : List UInt8)
  /-- Move bytes into a buffer, as many as it has places. -/
  | pop (buffer : List UInt8)
  /-- Move bytes onto the end of others, at most a number of them. -/
  | popOnto (target : List UInt8) (most : Nat)

/-- What a use gives back. -/
structure Fifo.Answer where
  /-- How many bytes were moved. -/
  count : Nat
  /-- The buffer, or the other bytes, as they are now. A push has none. -/
  bytes : List UInt8 := []

/-- What a queue of a capacity answers to a use, and the queue after it. -/
inductive Fifo.Serves (capacity : Nat) : List UInt8 → Use → Answer → List UInt8 → Prop
  /-- What is appended is a front of the bytes that fits, and no longer front fits. -/
  | push {queue bytes taken : List UInt8} (front : taken <+: bytes)
      (fits : (queue ++ taken).length ≤ capacity)
      (longest : ∀ more, more <+: bytes → (queue ++ more).length ≤ capacity →
        more.length ≤ taken.length) :
      Serves capacity queue (.push bytes) { count := taken.length } (queue ++ taken)
  /-- The oldest bytes stand in the first places of the buffer, the others keep what they had. -/
  | pop {oldest rest buffer : List UInt8}
      (count : oldest.length = min buffer.length (oldest ++ rest).length) :
      Serves capacity (oldest ++ rest) (.pop buffer)
        ⟨oldest.length, oldest ++ buffer.drop oldest.length⟩ rest
  /-- The oldest bytes follow those that were there. -/
  | popOnto {oldest rest target : List UInt8} {most : Nat}
      (count : oldest.length = min most (oldest ++ rest).length) :
      Serves capacity (oldest ++ rest) (.popOnto target most) ⟨oldest.length, target ++ oldest⟩ rest

/-- What a queue of a capacity answers to uses in a row, and the queue after them. -/
inductive Fifo.Runs (capacity : Nat) :
    List UInt8 → List Use → List Answer → List UInt8 → Prop
  /-- Nothing is done. -/
  | done {queue : List UInt8} : Runs capacity queue [] [] queue
  /-- One use, and others after it. -/
  | step {queue between after : List UInt8} {use : Use} {uses : List Use} {answer : Answer}
      {answers : List Answer} (first : Serves capacity queue use answer between)
      (others : Runs capacity between uses answers after) :
      Runs capacity queue (use :: uses) (answer :: answers) after

open Fifo (Use Answer Serves Runs)

namespace Ring

/-! ## Uses of a ring -/

/-- What a ring answers to a use, and the ring after it. -/
def serve (ring : Ring) : Use → Answer × Ring
  | .push bytes => ({ count := (ring.push bytes).1 }, (ring.push bytes).2)
  | .pop buffer =>
    let (bytes, left) := ring.pop buffer.length
    (⟨bytes.length, bytes ++ buffer.drop bytes.length⟩, left)
  | .popOnto target most =>
    let (bytes, left) := ring.pop most
    (⟨bytes.length, target ++ bytes⟩, left)

/-- What a ring answers to uses in a row, and the ring after them. -/
def serveAll (ring : Ring) : List Use → List Answer × Ring
  | [] => ([], ring)
  | use :: uses =>
    let (answer, between) := ring.serve use
    let (answers, after) := between.serveAll uses
    (answer :: answers, after)

/-- What the parts of a ring answer to a use, and the parts after it, unless an access fails. -/
def Parts.serve? (parts : Parts) : Use → Option (Answer × Parts)
  | .push bytes => (parts.push? bytes).map fun done => ({ count := done.1 }, done.2)
  | .pop buffer => (parts.pop? buffer).map fun done => (⟨done.1.1, done.1.2⟩, done.2)
  | .popOnto target most =>
    (parts.popOnto? target most).map fun done => (⟨done.1.1, done.1.2⟩, done.2)

/-- What the parts of a ring answer to uses in a row, and the parts after them, unless an access
fails. -/
def Parts.serveAll? (parts : Parts) : List Use → Option (List Answer × Parts)
  | [] => some ([], parts)
  | use :: uses => do
    let (answer, between) ← parts.serve? use
    let (answers, after) ← between.serveAll? uses
    some (answer :: answers, after)

/-! ## One use -/

variable (ring : Ring)

/-- No access fails when the parts of a ring serve a use, and they serve it as the ring does. -/
theorem serve?_parts (use : Use) :
    ring.parts.serve? use = some ((ring.serve use).1, (ring.serve use).2.parts) := by
  cases use with
  | push bytes => rw [Parts.serve?, push?_parts]; rfl
  | pop buffer =>
    rw [Parts.serve?, pop?_parts, ← length_pop]
    rfl
  | popOnto target most =>
    rw [Parts.serve?, popOnto?_parts, ← length_pop]
    rfl

/-- A use keeps the room of a ring. -/
@[simp]
theorem capacity_serve (use : Use) : (ring.serve use).2.capacity = ring.capacity := by
  cases use with
  | push bytes => exact ring.capacity_push bytes
  | pop buffer => exact ring.capacity_pop buffer.length
  | popOnto target most => exact ring.capacity_pop most

/-- A push takes the longest front of its bytes that fits. -/
theorem serves_push (bytes : List UInt8) :
    Serves ring.capacity ring.toList (.push bytes) { count := (ring.push bytes).1 }
      (ring.push bytes).2.toList := by
  have room : (ring.push bytes).1 = min bytes.length (ring.capacity - ring.size) := rfl
  have size := ring.size_le_capacity
  have count : (bytes.take (ring.push bytes).1).length = (ring.push bytes).1 :=
    List.length_take_of_le (by omega)
  have served := @Serves.push ring.capacity ring.toList bytes (bytes.take (ring.push bytes).1)
    (List.take_prefix _ _)
    (by rw [List.length_append, length_toList, count]; omega)
    (by
      intro more front fits
      have inside := front.length_le
      rw [List.length_append, length_toList] at fits
      omega)
  rwa [count, ← toList_push_append] at served

/-- A pop takes the oldest bytes off the queue. -/
theorem exists_oldest (most : Nat) :
    ∃ oldest rest, ring.toList = oldest ++ rest ∧ (ring.pop most).1 = oldest ∧
      (ring.pop most).2.toList = rest ∧ oldest.length = min most (oldest ++ rest).length := by
  obtain ⟨front, back⟩ := ring.pop_eq most
  refine ⟨_, _, (List.take_append_drop most ring.toList).symm, front, back, ?_⟩
  rw [List.take_append_drop, List.length_take]

/-- A ring serves a use as its queue does. -/
theorem serves_serve (use : Use) :
    Serves ring.capacity ring.toList use (ring.serve use).1 (ring.serve use).2.toList := by
  cases use with
  | push bytes => exact ring.serves_push bytes
  | pop buffer =>
    obtain ⟨oldest, rest, queue, taken, left, count⟩ := ring.exists_oldest buffer.length
    simp only [serve]
    rw [queue, taken, left]
    exact .pop count
  | popOnto target most =>
    obtain ⟨oldest, rest, queue, taken, left, count⟩ := ring.exists_oldest most
    simp only [serve]
    rw [queue, taken, left]
    exact .popOnto count

/-! ## Uses in a row -/

/-- No access fails when the parts of a ring serve uses in a row, and they serve them as the ring
does. -/
theorem serveAll?_parts (uses : List Use) :
    ring.parts.serveAll? uses = some ((ring.serveAll uses).1, (ring.serveAll uses).2.parts) := by
  induction uses generalizing ring with
  | nil => rfl
  | cons use uses ih =>
    rw [Parts.serveAll?, serve?_parts, Option.bind_eq_bind, Option.bind_some]
    dsimp only
    rw [ih]
    rfl

/-- Uses in a row keep the room of a ring. -/
theorem capacity_serveAll (uses : List Use) : (ring.serveAll uses).2.capacity = ring.capacity := by
  induction uses generalizing ring with
  | nil => rfl
  | cons use uses ih => exact (ih _).trans (ring.capacity_serve use)

/-- A ring serves uses in a row as its queue does. -/
theorem runs_serveAll (uses : List Use) :
    Runs ring.capacity ring.toList uses (ring.serveAll uses).1 (ring.serveAll uses).2.toList := by
  induction uses generalizing ring with
  | nil => exact .done
  | cons use uses ih =>
    have others := ih (ring.serve use).2
    rw [capacity_serve] at others
    exact .step (ring.serves_serve use) others

/-- Whatever is done to a new ring of any capacity, it asks for nothing outside its storage and
answers as the queue of this capacity does. -/
theorem refines_fifo (capacity : Nat) (uses : List Use) :
    ∃ answers ring,
      (ofCapacity capacity).serveAll uses = (answers, ring) ∧
      Parts.serveAll? ⟨Array.replicate capacity 0, 0, 0⟩ uses = some (answers, ring.parts) ∧
      ring.head < max capacity 1 ∧ ring.size ≤ capacity ∧ ring.storage.size = capacity ∧
      ring.toList.length = ring.size ∧ Runs capacity [] uses answers ring.toList := by
  have room : (ofCapacity capacity).capacity = capacity := Array.size_replicate
  have kept : ((ofCapacity capacity).serveAll uses).2.storage.size = capacity :=
    ((ofCapacity capacity).capacity_serveAll uses).trans room
  have queue := (ofCapacity capacity).runs_serveAll uses
  rw [room] at queue
  refine ⟨_, _, rfl, serveAll?_parts (ofCapacity capacity) uses, ?_, ?_, kept, length_toList _,
    queue⟩
  · exact Nat.lt_of_lt_of_eq (Ring.head_lt _) (congrArg (max · 1) kept)
  · exact Nat.le_trans (Ring.size_le _) (Nat.le_of_eq kept)

end Ring

end Multidrop
