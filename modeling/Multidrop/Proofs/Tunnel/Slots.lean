import Multidrop.Proofs.Tunnel.Ring
import Multidrop.Tunnel

/-!
# Slots of channels

A channel has a seat while it is bound to a slot, or while a slot is free for it (`Tunnels.seat?`).
What binding, delivering and draining do to a table is said by its seat alone: the slot there is
replaced, and every other slot stays as it is.
-/
namespace Multidrop.Tunnels

variable {tunnels : Tunnels} {handle : Handle} {slot : Slot} {channel : UInt32}

/-- The slot that a channel is bound to, or the one that it would be bound to. -/
def seat? (channel : UInt32) (tunnels : Tunnels) : Option Handle :=
  (tunnels.lookup channel).or tunnels.free?

/-! ## Places in the table -/

/-- A slot that was replaced is found at its place, and the others at theirs. -/
theorem slot?_setSlot (there : tunnels.slot? handle = some slot) (after : Slot) (other : Handle) :
    (tunnels.setSlot handle after).slot? other =
      if other = handle then some after else tunnels.slot? other := by
  obtain ⟨place⟩ := handle
  obtain ⟨elsewhere⟩ := other
  obtain ⟨inside, _⟩ := List.getElem?_eq_some_iff.1 there
  simp only [slot?, setSlot, List.getElem?_set, Handle.mk.injEq]
  by_cases same : place = elsewhere
  · subst same
    rw [if_pos rfl, if_pos rfl, if_pos inside]
  · rw [if_neg same, if_neg (fun back => same back.symm)]

/-- A slot that is replaced twice is the last one. -/
theorem setSlot_setSlot (first last : Slot) :
    (tunnels.setSlot handle first).setSlot handle last = tunnels.setSlot handle last := by
  simp only [setSlot, List.set_set]

/-- A slot that is replaced by itself stays. -/
theorem setSlot_self (there : tunnels.slot? handle = some slot) :
    tunnels.setSlot handle slot = tunnels := by
  obtain ⟨inside, value⟩ := List.getElem?_eq_some_iff.1 there
  rw [setSlot, ← value, List.set_getElem_self]

/-- A slot of new tunnels is free, and its rings are empty. -/
theorem slot?_ofSlots {count capacity : Nat}
    (there : (ofSlots count capacity).slot? handle = some slot) :
    slot = { inbound := .ofCapacity capacity, outbound := .ofCapacity capacity } :=
  List.eq_of_mem_replicate (List.mem_of_getElem? there)

/-- The place of a slot is in the table. -/
theorem slot?_findIdx {chosen : Slot → Bool} {place : Nat}
    (found : tunnels.slots.findIdx? chosen = some place) :
    ∃ slot, tunnels.slot? ⟨place⟩ = some slot ∧ chosen slot = true := by
  obtain ⟨inside, yes, _⟩ := List.findIdx?_eq_some_iff_getElem.1 found
  exact ⟨_, List.getElem?_eq_getElem inside, yes⟩

/-- A bound channel has the slot of its handle. -/
theorem slot?_lookup (bound : tunnels.lookup channel = some handle) :
    ∃ slot, tunnels.slot? handle = some slot ∧ slot.channel = some channel := by
  obtain ⟨place, found, rfl⟩ := Option.map_eq_some_iff.1 bound
  obtain ⟨slot, there, yes⟩ := slot?_findIdx found
  exact ⟨slot, there, of_decide_eq_true yes⟩

/-- A free slot has no channel. -/
theorem slot?_free (free : tunnels.free? = some handle) :
    ∃ slot, tunnels.slot? handle = some slot ∧ slot.channel = none := by
  obtain ⟨place, found, rfl⟩ := Option.map_eq_some_iff.1 free
  obtain ⟨slot, there, yes⟩ := slot?_findIdx found
  exact ⟨slot, there, of_decide_eq_true yes⟩

/-- The seat of a channel is its slot, or a free one if it has none. -/
theorem slot?_seat (seat : tunnels.seat? channel = some handle) :
    ∃ slot, tunnels.slot? handle = some slot ∧
      (slot.channel = some channel ∨ slot.channel = none ∧ tunnels.lookup channel = none) := by
  unfold seat? at seat
  cases bound : tunnels.lookup channel with
  | some own =>
    rw [bound] at seat
    cases seat
    obtain ⟨slot, there, has⟩ := slot?_lookup bound
    exact ⟨slot, there, .inl has⟩
  | none =>
    rw [bound, Option.none_or] at seat
    obtain ⟨slot, there, empty⟩ := slot?_free seat
    exact ⟨slot, there, .inr ⟨empty, rfl⟩⟩

/-! ## Operations on a seat -/

/-- A channel with a seat is bound there. -/
theorem bind_of_seat (seat : tunnels.seat? channel = some handle)
    (there : tunnels.slot? handle = some slot) :
    tunnels.bind channel =
      (some handle, tunnels.setSlot handle { slot with channel := some channel }) := by
  unfold seat? at seat
  unfold bind
  cases bound : tunnels.lookup channel with
  | some own =>
    rw [bound] at seat
    cases seat
    obtain ⟨same, found, has⟩ := slot?_lookup bound
    rw [there] at found
    cases found
    have stays : { slot with channel := some channel } = slot := by
      rw [← has]
    rw [stays, setSlot_self there]
  | none =>
    rw [bound, Option.none_or] at seat
    dsimp only
    rw [seat]
    dsimp only
    rw [there]

/-- A channel without a seat is not bound. -/
theorem bind_of_full (full : tunnels.seat? channel = none) :
    tunnels.bind channel = (none, tunnels) := by
  obtain ⟨unbound, none⟩ := Option.or_eq_none_iff.1 full
  rw [bind, unbound]
  dsimp only
  rw [none]

/-- Bytes for a channel with a seat are queued there. -/
theorem deliver_of_seat (data : List UInt8) (seat : tunnels.seat? channel = some handle)
    (there : tunnels.slot? handle = some slot) :
    tunnels.deliver channel data =
      (some handle, tunnels.setSlot handle
        { slot with channel := some channel, inbound := (slot.inbound.push data).2 }) := by
  rw [deliver, bind_of_seat seat there]
  dsimp only
  rw [slot?_setSlot there, if_pos rfl]
  dsimp only
  rw [setSlot_setSlot]

/-- Bytes for a channel without a seat are dropped. -/
theorem deliver_of_full (data : List UInt8) (full : tunnels.seat? channel = none) :
    tunnels.deliver channel data = (none, tunnels) := by
  rw [deliver, bind_of_full full]

/-- Bytes are drained from the slot of a handle. -/
theorem drain_of_slot (count : Nat) (there : tunnels.slot? handle = some slot) :
    tunnels.drain handle count =
      ((slot.outbound.pop count).1,
        tunnels.setSlot handle { slot with outbound := (slot.outbound.pop count).2 }) := by
  rw [drain, there]

/-- What the application reads as a whole leaves the slot of its handle. -/
theorem read_of_slot {count : Nat} (there : tunnels.slot? handle = some slot)
    (some : slot.inbound.size ≠ 0) (all : slot.inbound.size ≤ count) :
    tunnels.read handle count =
      (.ok slot.inbound.toList,
        tunnels.setSlot handle { slot with inbound := (slot.inbound.pop count).2 }) := by
  rw [read, if_neg (by omega), there]
  dsimp only
  rw [if_neg some, (Ring.pop_all all).1]

/-- There is nothing to read in a slot without bytes. -/
theorem read_of_empty {count : Nat} (there : tunnels.slot? handle = some slot)
    (none : slot.inbound.size = 0) (positive : 0 < count) :
    tunnels.read handle count = (.error ⟨.wouldBlock, Option.none⟩, tunnels) := by
  rw [read, if_neg (by omega), there]
  dsimp only
  rw [if_pos none]

/-- A write that fits is accepted as a whole. -/
theorem write_of_room {bytes : List UInt8} (there : tunnels.slot? handle = some slot)
    (some : bytes ≠ []) (room : slot.outbound.size + bytes.length ≤ slot.outbound.capacity) :
    tunnels.write handle bytes =
      (.ok bytes.length,
        tunnels.setSlot handle { slot with outbound := (slot.outbound.push bytes).2 }) := by
  have taken := (Ring.toList_push_of_room room).1
  rw [write, if_neg some, there]
  dsimp only
  rw [taken, if_neg (Nat.ne_of_gt (List.length_pos_iff.2 some))]

/-- Bytes that fit are queued as a whole for the master. -/
theorem writeAll_of_room {bytes : List UInt8} (there : tunnels.slot? handle = some slot)
    (room : slot.outbound.size + bytes.length ≤ slot.outbound.capacity) :
    (tunnels.writeAll handle bytes).2 =
      tunnels.setSlot handle { slot with outbound := (slot.outbound.push bytes).2 } := by
  by_cases none : bytes = []
  · rw [writeAll, if_pos none, none, Ring.push_nil, setSlot_self there]
  · obtain ⟨count, length⟩ := Nat.exists_eq_add_one.2 (List.length_pos_iff.2 none)
    rw [writeAll, if_neg none, write_of_room there none room, length]
    dsimp only
    rw [List.drop_of_length_le (Nat.le_of_eq length), writeAll, if_pos rfl]

end Multidrop.Tunnels
