import Multidrop.Line

/-!
# Tunnels

Byte streams beside the registers, and the rings that their bytes wait in.
-/
namespace Multidrop

/-! ## Byte rings

A queue of bytes with a fixed capacity. The bytes lie in a storage of that size from a head on and
run over its end into its beginning, so nothing is moved when bytes leave. The view `toList` is the
queue itself, oldest byte first. A ring of capacity zero holds nothing. -/

/-- A queue of bytes with a fixed capacity. -/
structure Ring where
  /-- Room for the bytes. -/
  storage : Array UInt8
  /-- Where the oldest byte lies. -/
  head : Nat
  /-- How many bytes there are. -/
  size : Nat
  /-- The head lies in the storage. -/
  head_lt : head < max storage.size 1
  /-- The bytes fit. -/
  size_le : size ≤ storage.size

namespace Ring

/-- The most bytes that a ring can hold. -/
def capacity (ring : Ring) : Nat := ring.storage.size

/-- A ring without bytes. -/
def ofCapacity (capacity : Nat) : Ring where
  storage := Array.replicate capacity 0
  head := 0
  size := 0
  head_lt := by omega
  size_le := Nat.zero_le _

/-- The place in the storage of the byte at a position of the queue. -/
def place (ring : Ring) (position : Nat) : Nat := (ring.head + position) % ring.capacity

/-- The bytes, oldest first. -/
def toList (ring : Ring) : List UInt8 :=
  (List.range ring.size).map fun position => ring.storage[ring.place position]?.getD 0

/-- Store bytes from a place on, going on at the beginning after the end. -/
def store (storage : Array UInt8) (place : Nat) : List UInt8 → Array UInt8
  | [] => storage
  | byte :: rest =>
    store (storage.setIfInBounds place byte) ((place + 1) % storage.size) rest

/-- Storing bytes keeps the room for them. -/
@[simp]
theorem size_store (storage : Array UInt8) (place : Nat) (bytes : List UInt8) :
    (store storage place bytes).size = storage.size := by
  fun_induction store storage place bytes with
  | case1 => rfl
  | case2 storage place byte rest ih => rw [ih, Array.size_setIfInBounds]

/-- How many of a number of bytes still fit. -/
def room (ring : Ring) (count : Nat) : Nat := min count (ring.capacity - ring.size)

/-- Append as many of the bytes as fit: how many that are, and the ring with them. -/
def push (bytes : List UInt8) (ring : Ring) : Nat × Ring :=
  let taken := ring.room bytes.length
  (taken,
    { storage := store ring.storage (ring.place ring.size) (bytes.take taken)
      head := ring.head
      size := ring.size + taken
      head_lt := by rw [size_store]; exact ring.head_lt
      size_le := by
        have := ring.size_le
        simp only [size_store]
        simp only [taken, room, capacity]
        omega })

/-- The oldest bytes, as the piece up to the end of the storage and the piece from its beginning. -/
def front (ring : Ring) (count : Nat) : List UInt8 :=
  let first := min count (ring.capacity - ring.head)
  (ring.storage.extract ring.head (ring.head + first)).toList ++
    (ring.storage.extract 0 (count - first)).toList

/-- Forget the oldest bytes. An empty ring starts again at the beginning of its storage. -/
def drop (ring : Ring) (count : Nat) : Ring :=
  if emptied : ring.size ≤ count then
    { ring with
      head := 0
      size := 0
      head_lt := by omega
      size_le := Nat.zero_le _ }
  else
    { ring with
      head := ring.place count
      size := ring.size - count
      head_lt := by
        have := ring.size_le
        have := Nat.mod_lt (ring.head + count) (show 0 < ring.capacity by
          simp only [capacity]
          omega)
        simp only [place, capacity] at this ⊢
        omega
      size_le := by
        have := ring.size_le
        omega }

/-- Take the oldest bytes, at most the given number. -/
def pop (count : Nat) (ring : Ring) : List UInt8 × Ring :=
  let taken := min count ring.size
  (ring.front taken, ring.drop taken)

end Ring

/-! ## Slots and channels

Byte streams between a master and a node's application. A node has a fixed number of slots, each
with a ring of bytes from the master and a ring of bytes for it. A channel id is bound to a free
slot the first time either side mentions it and keeps that slot. Bytes for the master leave the
node only in answer to a poll. -/

/-- One slot: the channel bound to it, and its bytes. -/
structure Slot where
  /-- The bound channel. -/
  channel : Option UInt32 := none
  /-- Bytes from the master that the application has not read. -/
  inbound : Ring
  /-- Bytes of the application that the master has not polled. -/
  outbound : Ring

/-- The channel table of a node. -/
structure Tunnels where
  /-- The slots in order. -/
  slots : List Slot

/-- A slot by its number. -/
structure Handle where
  /-- The number of the slot. -/
  slot : Nat
  deriving Repr, DecidableEq

namespace Tunnels

/-- A table of free slots whose rings have one capacity. -/
def ofSlots (count capacity : Nat) : Tunnels :=
  ⟨List.replicate count { inbound := .ofCapacity capacity, outbound := .ofCapacity capacity }⟩

/-- The slot of a handle, if there is one. -/
def slot? (tunnels : Tunnels) (handle : Handle) : Option Slot := tunnels.slots[handle.slot]?

/-- Replace the slot of a handle. -/
def setSlot (handle : Handle) (slot : Slot) (tunnels : Tunnels) : Tunnels :=
  ⟨tunnels.slots.set handle.slot slot⟩

/-- The handle of a channel that is bound. -/
def lookup (tunnels : Tunnels) (channel : UInt32) : Option Handle :=
  (tunnels.slots.findIdx? fun slot => slot.channel = some channel).map Handle.mk

/-- The first free slot. -/
def free? (tunnels : Tunnels) : Option Handle :=
  (tunnels.slots.findIdx? fun slot => slot.channel = none).map Handle.mk

/-- The handle of a channel, which is bound to a free slot if need be. -/
def bind (channel : UInt32) (tunnels : Tunnels) : Option Handle × Tunnels :=
  match tunnels.lookup channel with
  | some handle => (some handle, tunnels)
  | none =>
    match tunnels.free? with
    | none => (none, tunnels)
    | some handle =>
      match tunnels.slot? handle with
      | none => (none, tunnels)
      | some slot => (some handle, tunnels.setSlot handle { slot with channel := some channel })

/-- The channel bound to a slot. -/
def channel? (tunnels : Tunnels) (handle : Handle) : Option UInt32 :=
  (tunnels.slot? handle).bind Slot.channel

/-- The bound channels in the order of their slots. -/
def channels (tunnels : Tunnels) : List UInt32 := tunnels.slots.filterMap Slot.channel

/-- Bytes that the application can read. -/
def available (tunnels : Tunnels) (handle : Handle) : Nat :=
  (tunnels.slot? handle).elim 0 (·.inbound.size)

/-- Bytes that wait for the master. -/
def pending (tunnels : Tunnels) (handle : Handle) : Nat :=
  (tunnels.slot? handle).elim 0 (·.outbound.size)

/-- Queue bytes from the master on a channel, binding it if need be. Bytes that do not fit are
dropped. -/
def deliver (channel : UInt32) (data : List UInt8) (tunnels : Tunnels) :
    Option Handle × Tunnels :=
  match tunnels.bind channel with
  | (none, tunnels) => (none, tunnels)
  | (some handle, tunnels) =>
    match tunnels.slot? handle with
    | none => (none, tunnels)
    | some slot =>
      (some handle, tunnels.setSlot handle { slot with inbound := (slot.inbound.push data).2 })

/-- Take bytes that wait for the master, at most the given number. -/
def drain (handle : Handle) (count : Nat) (tunnels : Tunnels) : List UInt8 × Tunnels :=
  match tunnels.slot? handle with
  | none => ([], tunnels)
  | some slot =>
    let (bytes, outbound) := slot.outbound.pop count
    (bytes, tunnels.setSlot handle { slot with outbound := outbound })

/-! ### The application's side -/

/-- A handle without a slot. -/
def invalidHandle : Fault := ⟨.notFound, some "invalid tunnel handle"⟩

/-- Read at most a number of bytes. Reading nothing always succeeds; otherwise there must be
something to read. -/
def read (handle : Handle) (count : Nat) (tunnels : Tunnels) :
    Except Fault (List UInt8) × Tunnels :=
  if count = 0 then (.ok [], tunnels)
  else
    match tunnels.slot? handle with
    | none => (.error invalidHandle, tunnels)
    | some slot =>
      if slot.inbound.size = 0 then (.error ⟨.wouldBlock, none⟩, tunnels)
      else
        let (bytes, inbound) := slot.inbound.pop count
        (.ok bytes, tunnels.setSlot handle { slot with inbound := inbound })

/-- Queue as many bytes for the master as fit. Writing nothing always succeeds; otherwise there
must be room for something. -/
def write (handle : Handle) (bytes : List UInt8) (tunnels : Tunnels) :
    Except Fault Nat × Tunnels :=
  if bytes = [] then (.ok 0, tunnels)
  else
    match tunnels.slot? handle with
    | none => (.error invalidHandle, tunnels)
    | some slot =>
      let (taken, outbound) := slot.outbound.push bytes
      if taken = 0 then (.error ⟨.wouldBlock, none⟩, tunnels)
      else (.ok taken, tunnels.setSlot handle { slot with outbound := outbound })

/-- Queue all bytes for the master, part by part. What was queued before a fault stays. -/
def writeAll (handle : Handle) (bytes : List UInt8) (tunnels : Tunnels) :
    Except Fault Unit × Tunnels :=
  if bytes = [] then (.ok (), tunnels)
  else
    match tunnels.write handle bytes with
    | (.error fault, tunnels) => (.error fault, tunnels)
    | (.ok 0, tunnels) => (.error ⟨.writeZero, some "failed to write whole buffer"⟩, tunnels)
    | (.ok (taken + 1), tunnels) => writeAll handle (bytes.drop (taken + 1)) tunnels
termination_by bytes.length
decreasing_by
  have := List.length_pos_iff.2 ‹¬bytes = []›
  simp only [List.length_drop]
  omega

end Tunnels

end Multidrop
