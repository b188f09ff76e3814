/-!
# Numbers and bytes

What the rest of the library counts and encodes with: sums over lists, words as bytes, the
variable-length numbers inside frames, and the checksum behind them.
-/
namespace Multidrop

/-! ## Steps that may fail

A reader is a sequence of steps, each of which may fail. The sequence succeeds exactly when every
step does. -/

/-- Two steps in a row succeed exactly when the first does and the second does with its result. -/
theorem bind_eq_ok {ε α β : Type} {first : Except ε α} {second : α → Except ε β} {result : β} :
    (first >>= second) = .ok result ↔ ∃ value, first = .ok value ∧ second value = .ok result := by
  cases first <;> simp [bind, Except.bind]

/-! ## Totals

The sum of a measure over the items of a list. Lists that are joined have the sum of their totals.
-/

variable {α : Type}

/-- The sum of a measure over a list. -/
def total (measure : α → Nat) : List α → Nat
  | [] => 0
  | item :: rest => measure item + total measure rest

@[simp]
theorem total_nil (measure : α → Nat) : total measure [] = 0 := rfl

@[simp]
theorem total_cons (measure : α → Nat) (item : α) (rest : List α) :
    total measure (item :: rest) = measure item + total measure rest := rfl

@[simp]
theorem total_append (measure : α → Nat) (front back : List α) :
    total measure (front ++ back) = total measure front + total measure back := by
  induction front with
  | nil => simp
  | cons item rest ih => simp [ih, Nat.add_assoc]

/-- The total over lists that are joined is the total of their totals. -/
theorem total_flatMap {β : Type} (measure : α → Nat) (lists : β → List α) (items : List β) :
    total measure (items.flatMap lists) = total (fun item => total measure (lists item)) items := by
  induction items with
  | nil => rfl
  | cons item rest ih => rw [List.flatMap_cons, total_append, ih, total_cons]

/-- The total of the same number for each item. -/
theorem total_of_const {measure : α → Nat} {items : List α} {number : Nat}
    (each : ∀ item ∈ items, measure item = number) :
    total measure items = items.length * number := by
  induction items with
  | nil => rw [total_nil, List.length_nil, Nat.zero_mul]
  | cons item rest ih =>
    obtain ⟨first, others⟩ := List.forall_mem_cons.1 each
    rw [total_cons, first, ih others, List.length_cons, Nat.succ_mul, Nat.add_comm]

/-- The total over the images of items is the total of what is measured of them. -/
theorem total_map {β : Type} (measure : α → Nat) (image : β → α) (items : List β) :
    total measure (items.map image) = total (fun item => measure (image item)) items := by
  induction items with
  | nil => rfl
  | cons item rest ih => rw [List.map_cons, total_cons, total_cons, ih]

/-- The total of smaller numbers is smaller. -/
theorem total_mono {small large : α → Nat} {items : List α}
    (each : ∀ item ∈ items, small item ≤ large item) : total small items ≤ total large items := by
  induction items with
  | nil => exact Nat.le_refl 0
  | cons item rest ih =>
    obtain ⟨first, others⟩ := List.forall_mem_cons.1 each
    exact Nat.add_le_add first (ih others)

/-- The total of numbers up to a bound. -/
theorem total_le {measure : α → Nat} {items : List α} {most : Nat}
    (each : ∀ item ∈ items, measure item ≤ most) : total measure items ≤ items.length * most :=
  calc total measure items ≤ total (fun _ => most) items := total_mono each
    _ = items.length * most := total_of_const fun _ _ => rfl

/-- The total of lengths is the length of the lists together. -/
theorem total_length {β : Type} (lists : α → List β) (items : List α) :
    total (fun item => (lists item).length) items = (items.flatMap lists).length := by
  induction items with
  | nil => rfl
  | cons item rest ih => rw [total_cons, ih, List.flatMap_cons, List.length_append]

end Multidrop

/-! ## Words

How many words of some bits there are, and words of two and four bytes as lists of bytes, least
significant byte first. -/

namespace Multidrop.Word

/-- How many words of some bits there are. Their numbers stay below it. -/
def bound (bits : Nat) : Nat := Nat.pow 2 bits

/-- The two bytes of a word. -/
def bytes16 (word : UInt16) : List UInt8 := [word.toUInt8, (word >>> 8).toUInt8]

/-- The word of two bytes. -/
def of16 (low high : UInt8) : UInt16 := low.toUInt16 ||| (high.toUInt16 <<< 8)

/-- The four bytes of a word. -/
def bytes32 (word : UInt32) : List UInt8 :=
  [word.toUInt8, (word >>> 8).toUInt8, (word >>> 16).toUInt8, (word >>> 24).toUInt8]

/-- The word of four bytes. -/
def of32 (first second third fourth : UInt8) : UInt32 :=
  first.toUInt32 ||| (second.toUInt32 <<< 8) ||| (third.toUInt32 <<< 16) |||
    (fourth.toUInt32 <<< 24)

end Multidrop.Word

/-! ## Variable-length unsigned integers

A number is written in base 128, least significant group of seven bits first, and every byte but
the last has its high bit set. A 32-bit number never needs more than five bytes, so a fifth byte
may only carry the four bits that are left. Reading accepts padded encodings; writing always
produces the shortest one. -/

namespace Multidrop.Varuint

/-- Why no number stands at the front of a byte list. -/
inductive Error where
  /-- The bytes end while the high bit is still set. -/
  | truncated
  /-- The fifth byte carries bits that a 32-bit number has no room for. -/
  | overlong
  deriving Repr, DecidableEq

/-- The text shown for an unreadable number. -/
def Error.message : Error → String
  | .truncated => "varuint truncated"
  | .overlong => "varuint exceeds 32 bits"

/-- The longest encoding of a 32-bit number. -/
def maxSize : Nat := 5

/-- Bytes that the encoding of a number occupies. -/
def size (value : UInt32) : Nat :=
  if value < 0x80 then 1
  else if value < 0x4000 then 2
  else if value < 0x200000 then 3
  else if value < 0x10000000 then 4
  else 5

/-- The shortest encoding of a number. -/
def encode (value : UInt32) : List UInt8 :=
  if value < 0x80 then [value.toUInt8]
  else (value.toUInt8 ||| 0x80) :: encode (value >>> 7)
termination_by value.toNat
decreasing_by
  rename_i large
  have big : 128 ≤ value.toNat := Nat.le_of_not_lt large
  rw [UInt32.toNat_shiftRight, Nat.shiftRight_eq_div_pow]
  exact Nat.div_lt_self (by omega) (by decide)

/-- Read the groups from a given place on: the number they stand for, and how many bytes they
occupy. -/
def decodeFrom (place : Nat) : List UInt8 → Except Error (Nat × Nat)
  | [] => .error .truncated
  | byte :: rest =>
    if place + 1 = maxSize ∧ 0x0f < byte then .error .overlong
    else if byte < 0x80 then .ok (byte.toNat, 1)
    else do
      let (value, used) ← decodeFrom (place + 1) rest
      .ok (byte.toNat % 128 + 128 * value, used + 1)

/-- Read a number from the front: its value and the bytes it occupies. -/
def decode (bytes : List UInt8) : Except Error (UInt32 × Nat) := do
  let (value, used) ← decodeFrom 0 bytes
  .ok (.ofNat value, used)

/-- Read a number from the front, returning the bytes after it. -/
def read (bytes : List UInt8) : Except Error (UInt32 × List UInt8) := do
  let (value, used) ← decode bytes
  .ok (value, bytes.drop used)

/-- A number that was read occupies bytes that are there. -/
theorem decodeFrom_used {place : Nat} {bytes : List UInt8} {value used : Nat}
    (h : decodeFrom place bytes = .ok (value, used)) : 0 < used ∧ used ≤ bytes.length := by
  induction bytes generalizing place value used with
  | nil => cases h
  | cons byte rest ih =>
    unfold decodeFrom at h
    split at h
    · cases h
    · split at h
      · cases h
        simp
      · cases tail : decodeFrom (place + 1) rest with
        | error error => simp [tail, bind, Except.bind] at h
        | ok found =>
          simp only [tail, bind, Except.bind, Except.ok.injEq, Prod.mk.injEq] at h
          have := ih tail
          simp only [List.length_cons]
          omega

/-- A number that was read leaves fewer bytes. -/
theorem length_read_lt {bytes rest : List UInt8} {value : UInt32}
    (h : read bytes = .ok (value, rest)) : rest.length < bytes.length := by
  unfold read decode at h
  cases found : decodeFrom 0 bytes with
  | error error => simp [found, bind, Except.bind] at h
  | ok pair =>
    simp only [found, bind, Except.bind, Except.ok.injEq, Prod.mk.injEq] at h
    have := decodeFrom_used found
    rw [← h.2, List.length_drop]
    omega

end Multidrop.Varuint

/-! ## Frame checksum

A 16-bit cyclic redundancy check with polynomial `0x1021` and initial state `0xffff`, taking the
most significant bit of each byte first and without a final inversion. The checksum of a frame
covers its body followed by two zero bytes that stand for the checksum field itself. -/

namespace Multidrop.Checksum

/-- The state before any byte. -/
def initial : UInt16 := 0xffff

/-- The generator, without its leading term. -/
def polynomial : UInt16 := 0x1021

/-- Multiply the state by the indeterminate, modulo the generator. -/
def shift (state : UInt16) : UInt16 :=
  if state &&& 0x8000 = 0 then state <<< 1 else (state <<< 1) ^^^ polynomial

/-- Shift the state a number of times. -/
def shifts : Nat → UInt16 → UInt16
  | 0, state => state
  | count + 1, state => shifts count (shift state)

/-- Take one byte into the state. -/
def absorb (state : UInt16) (byte : UInt8) : UInt16 :=
  shifts 8 (state ^^^ (byte.toUInt16 <<< 8))

/-- Take bytes into the state in order. -/
def absorbAll (state : UInt16) (bytes : List UInt8) : UInt16 := bytes.foldl absorb state

/-- The check of complete bytes. -/
def ofBytes (bytes : List UInt8) : UInt16 := absorbAll initial bytes

/-- The checksum of a frame body, with two zero bytes in place of the checksum field. -/
def ofBody (body : List UInt8) : UInt16 := ofBytes (body ++ [0, 0])

end Multidrop.Checksum
