import Multidrop.Proofs.Tunnel.Ring

/-!
# Accesses to the storage of a ring

A ring can be handled by its parts alone (`Ring.Parts`), without knowing that its head lies in the
storage or that its bytes fit. Then every access may fail: at a place outside the storage, for a piece
that is not in it, with a difference below zero or a remainder by zero. On the parts of a ring no
access fails, and what is done to them is what `Ring.push` and `Ring.pop` do (`push?_parts`,
`pop?_parts`, `popOnto?_parts`).
-/
namespace Multidrop.Ring

/-- The parts of a ring, which need not fit together. -/
structure Parts where
  /-- Room for the bytes. -/
  storage : Array UInt8
  /-- Where the oldest byte lies. -/
  head : Nat
  /-- How many bytes there are. -/
  size : Nat

/-- The parts of a ring. -/
def parts (ring : Ring) : Parts := ⟨ring.storage, ring.head, ring.size⟩

namespace Parts

/-! ## Accesses that may fail -/

/-- A difference that does not fall below zero. -/
def minus? (number less : Nat) : Option Nat :=
  if less ≤ number then some (number - less) else none

/-- A remainder by a number other than zero. -/
def modulo? (number modulus : Nat) : Option Nat :=
  if modulus = 0 then none else some (number % modulus)

/-- Store a byte at a place of the storage. -/
def put? (storage : Array UInt8) (place : Nat) (byte : UInt8) : Option (Array UInt8) :=
  if place < storage.size then some (storage.setIfInBounds place byte) else none

/-- The piece of the storage from a place up to another. -/
def piece? (storage : Array UInt8) (start stop : Nat) : Option (List UInt8) :=
  if start ≤ stop ∧ stop ≤ storage.size then some (storage.extract start stop).toList else none

/-- Put bytes in the place of as many bytes of a buffer, from one place up to another. -/
def overwrite? (start stop : Nat) (bytes buffer : List UInt8) : Option (List UInt8) :=
  if start ≤ stop ∧ stop ≤ buffer.length ∧ bytes.length = stop - start then
    some (buffer.take start ++ bytes ++ buffer.drop stop)
  else none

/-! ## Operations -/

/-- Store bytes from a place on, going on at the beginning after the end. -/
def store? (storage : Array UInt8) (tail : Nat) : List UInt8 → Option (Array UInt8)
  | [] => some storage
  | byte :: rest => do
    let stored ← put? storage tail byte
    let tail ← modulo? (tail + 1) storage.size
    store? stored tail rest

/-- Append as many of the bytes as fit: how many that are, and the parts with them. -/
def push? (bytes : List UInt8) (parts : Parts) : Option (Nat × Parts) := do
  let free ← minus? parts.storage.size parts.size
  let taken := min bytes.length free
  let tail ← modulo? (parts.head + parts.size) (max parts.storage.size 1)
  let storage ← store? parts.storage tail (bytes.take taken)
  some (taken, { parts with storage, size := parts.size + taken })

/-- The oldest bytes, as the piece up to the end of the storage and the piece from its beginning. -/
def front? (count : Nat) (parts : Parts) : Option (List UInt8 × List UInt8) := do
  let ahead ← minus? parts.storage.size parts.head
  let first := min count ahead
  let front ← piece? parts.storage parts.head (parts.head + first)
  let second ← minus? count first
  let back ← piece? parts.storage 0 second
  some (front, back)

/-- Forget the oldest bytes. Parts without bytes start again at the beginning of the storage. -/
def drop? (count : Nat) (parts : Parts) : Option Parts := do
  let size ← minus? parts.size count
  let head ← if size = 0 then some 0 else modulo? (parts.head + count) parts.storage.size
  some { parts with head, size }

/-- Move the oldest bytes into a buffer, as many as it has places: how many that are, and the buffer
with them. -/
def pop? (buffer : List UInt8) (parts : Parts) : Option ((Nat × List UInt8) × Parts) := do
  let count := min buffer.length parts.size
  let (front, back) ← parts.front? count
  let buffer ← overwrite? 0 front.length front buffer
  let buffer ← overwrite? front.length count back buffer
  let left ← parts.drop? count
  some ((count, buffer), left)

/-- Move the oldest bytes, at most a number of them, onto the end of others: how many that are, and
the bytes with them. -/
def popOnto? (target : List UInt8) (most : Nat) (parts : Parts) :
    Option ((Nat × List UInt8) × Parts) := do
  let count := min most parts.size
  let (front, back) ← parts.front? count
  let left ← parts.drop? count
  some ((count, target ++ front ++ back), left)

/-! ## Accesses that do not fail -/

/-- There is a difference to a number that is not larger. -/
theorem minus?_of_le {number less : Nat} (le : less ≤ number) :
    minus? number less = some (number - less) := if_pos le

/-- There is a remainder by a number other than zero. -/
theorem modulo?_of_pos (number : Nat) {modulus : Nat} (some : 0 < modulus) :
    modulo? number modulus = .some (number % modulus) := if_neg (Nat.ne_of_gt some)

/-- There is a piece between places of the storage. -/
theorem piece?_of_le {storage : Array UInt8} {start stop : Nat} (order : start ≤ stop)
    (inside : stop ≤ storage.size) :
    piece? storage start stop = some (storage.extract start stop).toList := if_pos ⟨order, inside⟩

/-- Storing succeeds from a place in the storage on, or where there is nothing to store. -/
theorem store?_eq {storage : Array UInt8} {tail : Nat} {bytes : List UInt8}
    (inside : bytes = [] ∨ tail < storage.size) :
    store? storage tail bytes = some (store storage tail bytes) := by
  induction bytes generalizing storage tail with
  | nil => rfl
  | cons byte rest ih =>
    have lies : tail < storage.size := inside.resolve_left nofun
    have some : 0 < storage.size := Nat.zero_lt_of_lt lies
    have next : (tail + 1) % storage.size < (storage.setIfInBounds tail byte).size := by
      rw [Array.size_setIfInBounds]
      exact Nat.mod_lt _ some
    simp only [store?, put?, if_pos lies, modulo?_of_pos _ some, Option.bind_eq_bind,
      Option.bind_some]
    exact ih (.inr next)

/-- Bytes that replace two neighbouring pieces of a buffer replace both together. -/
theorem overwrite?_twice {front back buffer : List UInt8}
    (fits : front.length + back.length ≤ buffer.length) :
    (overwrite? 0 front.length front buffer >>=
        overwrite? front.length (front.length + back.length) back) =
      some (front ++ back ++ buffer.drop (front.length + back.length)) := by
  have first : overwrite? 0 front.length front buffer =
      some (front ++ buffer.drop front.length) := by
    rw [overwrite?, if_pos ⟨Nat.zero_le _, by omega, (Nat.sub_zero _).symm⟩, List.take_zero,
      List.nil_append]
  have room : (front ++ buffer.drop front.length).length = buffer.length := by
    rw [List.length_append, List.length_drop]
    omega
  have second : front.length ≤ front.length + back.length ∧
      front.length + back.length ≤ (front ++ buffer.drop front.length).length ∧
      back.length = front.length + back.length - front.length := by
    omega
  rw [first, Option.bind_eq_bind, Option.bind_some, overwrite?, if_pos second, List.take_left,
    List.drop_append, List.drop_drop, Nat.add_sub_cancel_left,
    List.drop_of_length_le (Nat.le_add_right _ _), List.nil_append]

end Parts

/-! ## Parts of a ring -/

/-- The storage of a ring is a part of it. -/
@[simp]
theorem storage_parts (ring : Ring) : ring.parts.storage = ring.storage := rfl

/-- So is its head. -/
@[simp]
theorem head_parts (ring : Ring) : ring.parts.head = ring.head := rfl

/-- So is its size. -/
@[simp]
theorem size_parts (ring : Ring) : ring.parts.size = ring.size := rfl

/-- Pushing succeeds on the parts of a ring, and pushes onto the ring. -/
theorem push?_parts (ring : Ring) (bytes : List UInt8) :
    ring.parts.push? bytes = some ((ring.push bytes).1, (ring.push bytes).2.parts) := by
  have room : ring.room bytes.length = min bytes.length (ring.storage.size - ring.size) := rfl
  have tail := Parts.modulo?_of_pos (ring.head + ring.size)
    (show 0 < max ring.storage.size 1 from Nat.le_max_right _ _)
  have stored : Parts.store? ring.storage ((ring.head + ring.size) % max ring.storage.size 1)
        (bytes.take (ring.room bytes.length)) =
      some (store ring.storage (ring.place ring.size)
        (bytes.take (ring.room bytes.length))) := by
    by_cases none : ring.storage.size = 0
    · -- Nothing fits, so the place does not matter.
      have nothing : ring.room bytes.length = 0 := by omega
      rw [nothing, List.take_zero]
      rfl
    · rw [Nat.max_eq_left (Nat.pos_of_ne_zero none)]
      exact Parts.store?_eq (.inr (Nat.mod_lt _ (Nat.pos_of_ne_zero none)))
  simp only [Parts.push?, storage_parts, head_parts, size_parts,
    Parts.minus?_of_le ring.size_le, tail, Option.bind_eq_bind, Option.bind_some]
  rw [← room, stored]
  rfl

/-- The oldest bytes are found by the parts of a ring. -/
theorem front?_parts {ring : Ring} {count : Nat} (there : count ≤ ring.size) :
    ∃ front back, ring.parts.front? count = some (front, back) ∧
      front ++ back = ring.front count := by
  have fits := ring.size_le
  have head := ring.head_lt
  have ahead := Parts.minus?_of_le (show ring.head ≤ ring.storage.size by omega)
  have first := @Parts.piece?_of_le ring.storage ring.head
    (ring.head + min count (ring.storage.size - ring.head)) (Nat.le_add_right _ _) (by omega)
  have others := Parts.minus?_of_le (Nat.min_le_left count (ring.storage.size - ring.head))
  have second := @Parts.piece?_of_le ring.storage 0
    (count - min count (ring.storage.size - ring.head)) (Nat.zero_le _) (by omega)
  refine ⟨_, _, ?_, rfl⟩
  simp only [Parts.front?, storage_parts, head_parts, ahead, first, others, second,
    Option.bind_eq_bind, Option.bind_some]
  rfl

/-- Forgetting bytes that are there succeeds on the parts of a ring, and forgets those of the ring. -/
theorem drop?_parts {ring : Ring} {count : Nat} (there : count ≤ ring.size) :
    ring.parts.drop? count = some (ring.drop count).parts := by
  have fits := ring.size_le
  simp only [Parts.drop?, storage_parts, head_parts, size_parts, Parts.minus?_of_le there,
    Option.bind_eq_bind, Option.bind_some]
  rw [drop]
  by_cases emptied : ring.size ≤ count
  · have none : ring.size - count = 0 := Nat.sub_eq_zero_of_le emptied
    rw [dif_pos emptied, if_pos none, none]
    rfl
  · have fewer : count < ring.size := Nat.lt_of_not_le emptied
    have room : 0 < ring.storage.size := Nat.lt_of_lt_of_le (Nat.zero_lt_of_lt fewer) fits
    rw [dif_neg emptied, if_neg (Nat.sub_ne_zero_of_lt fewer), Parts.modulo?_of_pos _ room]
    rfl

/-- Popping into a buffer succeeds on the parts of a ring: what a pop takes off the ring replaces the
front of the buffer. -/
theorem pop?_parts (ring : Ring) (buffer : List UInt8) :
    ring.parts.pop? buffer =
      some ((min buffer.length ring.size,
        (ring.pop buffer.length).1 ++ buffer.drop (min buffer.length ring.size)),
        (ring.pop buffer.length).2.parts) := by
  have there : min buffer.length ring.size ≤ ring.size := Nat.min_le_right _ _
  obtain ⟨front, back, found, oldest⟩ := front?_parts there
  have taken : (ring.pop buffer.length).1 = front ++ back := oldest.symm
  have count : min buffer.length ring.size = front.length + back.length := by
    rw [← List.length_append, ← taken, length_pop]
  have moved := @Parts.overwrite?_twice front back buffer (by omega)
  rw [Parts.pop?, size_parts, found, taken]
  simp only [Option.bind_eq_bind, Option.bind_some] at moved ⊢
  rw [drop?_parts there, count, ← Option.bind_assoc, moved, ← count]
  rfl

/-- Popping onto the end of other bytes succeeds on the parts of a ring: what a pop takes off the ring
is appended. -/
theorem popOnto?_parts (ring : Ring) (target : List UInt8) (most : Nat) :
    ring.parts.popOnto? target most =
      some ((min most ring.size, target ++ (ring.pop most).1), (ring.pop most).2.parts) := by
  have there : min most ring.size ≤ ring.size := Nat.min_le_right _ _
  obtain ⟨front, back, found, oldest⟩ := front?_parts there
  have taken : (ring.pop most).1 = front ++ back := oldest.symm
  rw [Parts.popOnto?, size_parts, found, taken]
  simp only [Option.bind_eq_bind, Option.bind_some]
  rw [drop?_parts there, Option.bind_some, List.append_assoc]
  rfl

end Multidrop.Ring
