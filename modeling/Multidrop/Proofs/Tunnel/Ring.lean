import Multidrop.Tunnel

/-!
# Rings as queues

A ring refines the queue that `Ring.toList` reads off it: pushing appends the bytes that fit and
leaves the rest out (`toList_push`), and popping takes the oldest bytes off (`pop_eq`). A push of two
pieces is a push of both together (`push_append`), so a ring shows nothing of how its input was cut.
-/
namespace Multidrop.Ring

/-! ## Places -/

/-- Going on from a place in the storage wraps around at most once. -/
theorem wrap_eq {start step capacity : Nat} (inside : start < capacity) (short : step ≤ capacity) :
    (start + step) % capacity =
      if start + step < capacity then start + step else start + step - capacity := by
  by_cases before : start + step < capacity
  · rw [if_pos before, Nat.mod_eq_of_lt before]
  · rw [if_neg before, Nat.mod_eq_sub_mod (by omega), Nat.mod_eq_of_lt (by omega)]

/-- Bytes that are stored lie behind one another from the start, and every other place keeps what
it had. -/
theorem getElem?_store {storage : Array UInt8} {start step : Nat} {bytes : List UInt8}
    (inside : start < storage.size) (fits : bytes.length ≤ storage.size)
    (short : step < storage.size) :
    (store storage start bytes)[(start + step) % storage.size]? =
      if step < bytes.length then bytes[step]? else storage[(start + step) % storage.size]? := by
  induction bytes generalizing storage start step with
  | nil => rfl
  | cons byte rest ih =>
    rw [List.length_cons] at fits
    have size : (storage.setIfInBounds start byte).size = storage.size :=
      Array.size_setIfInBounds
    have next : (start + 1) % storage.size < storage.size := Nat.mod_lt _ (by omega)
    have wrapped := wrap_eq inside (show 1 ≤ storage.size by omega)
    rw [store]
    cases step with
    | zero =>
      -- The first place comes last in the walk from the second one.
      have last := @ih (storage.setIfInBounds start byte) ((start + 1) % storage.size)
        (storage.size - 1) (by rw [size]; exact next) (by rw [size]; omega) (by rw [size]; omega)
      have around : ((start + 1) % storage.size + (storage.size - 1)) % storage.size = start := by
        rw [wrap_eq next (by omega), wrapped]
        split <;> split <;> omega
      rw [size, around, if_neg (by omega), Array.getElem?_setIfInBounds_self_of_lt inside] at last
      have here : (start + 0) % storage.size = start := Nat.mod_eq_of_lt inside
      rw [here, last, if_pos (by simp)]
      rfl
    | succ step =>
      have later := @ih (storage.setIfInBounds start byte) ((start + 1) % storage.size) step
        (by rw [size]; exact next) (by rw [size]; omega) (by rw [size]; omega)
      have along : ((start + 1) % storage.size + step) % storage.size =
          (start + (step + 1)) % storage.size := by
        rw [Nat.mod_add_mod, Nat.add_assoc, Nat.add_comm 1 step]
      have apart : start ≠ (start + (step + 1)) % storage.size := by
        rw [wrap_eq inside (by omega)]
        split <;> omega
      rw [size, along, Array.getElem?_setIfInBounds_ne apart] at later
      rw [later]
      simp only [List.length_cons, Nat.add_lt_add_iff_right, List.getElem?_cons_succ]

/-! ## Pushing -/

/-- A push keeps the room. -/
@[simp]
theorem capacity_push (ring : Ring) (bytes : List UInt8) :
    (ring.push bytes).2.capacity = ring.capacity := size_store _ _ _

/-- A ring never holds more than its capacity. -/
theorem size_le_capacity (ring : Ring) : ring.size ≤ ring.capacity := ring.size_le

/-- The queue has as many bytes as the ring counts. -/
@[simp]
theorem length_toList (ring : Ring) : ring.toList.length = ring.size := by
  rw [toList, List.length_map, List.length_range]

/-- No bytes leave a ring as it is. -/
theorem push_nil (ring : Ring) : (ring.push []).2 = ring := by
  have none : ring.room ([] : List UInt8).length = 0 := Nat.zero_min _
  cases ring
  simp only [push, none, List.take_nil, store, Nat.add_zero]

/-- Storing two pieces is storing both together. -/
theorem store_append {storage : Array UInt8} {start : Nat} (front back : List UInt8)
    (inside : start % storage.size = start) :
    store storage start (front ++ back) =
      store (store storage start front) ((start + front.length) % storage.size) back := by
  induction front generalizing storage start with
  | nil => rw [List.nil_append, store, List.length_nil, Nat.add_zero, inside]
  | cons byte rest ih =>
    have size : (storage.setIfInBounds start byte).size = storage.size :=
      Array.size_setIfInBounds
    have later := @ih (storage.setIfInBounds start byte) ((start + 1) % storage.size)
      (by rw [size, Nat.mod_mod])
    rw [size, Nat.mod_add_mod, Nat.add_assoc, Nat.add_comm 1] at later
    rw [List.cons_append, store, store, later, List.length_cons]

/-- A push of two pieces is a push of both together. -/
theorem push_append (ring : Ring) (front back : List UInt8) :
    (ring.push (front ++ back)).2 = ((ring.push front).2.push back).2 := by
  have fits := ring.size_le
  have pieces : (front ++ back).take (ring.room (front ++ back).length) =
      front.take (ring.room front.length) ++ back.take ((ring.push front).2.room back.length) := by
    rw [List.take_append]
    simp only [room, push, capacity, size_store, List.length_append]
    congr 1
    · exact List.take_eq_take_iff.2 (by omega)
    · exact List.take_eq_take_iff.2 (by omega)
  have counts : ring.size + ring.room (front ++ back).length =
      ring.size + ring.room front.length + (ring.push front).2.room back.length := by
    simp only [room, push, capacity, size_store, List.length_append]
    omega
  have start : ring.place ring.size % ring.storage.size = ring.place ring.size := Nat.mod_mod _ _
  have along : (ring.place ring.size + (front.take (ring.room front.length)).length) %
      ring.storage.size = (ring.push front).2.place (ring.push front).2.size := by
    rw [List.length_take]
    simp only [place, push, capacity, size_store, room, Nat.mod_add_mod]
    congr 1
    omega
  have stored := store_append (front.take (ring.room front.length))
    (back.take ((ring.push front).2.room back.length)) start
  rw [along] at stored
  unfold push
  dsimp only
  rw [Ring.mk.injEq]
  exact ⟨by rw [pieces]; exact stored, rfl, counts⟩

/-- The byte at a position of the queue lies in the storage. -/
theorem getElem?_toList (ring : Ring) (position : Nat) :
    ring.toList[position]? =
      if position < ring.size then some (ring.storage[ring.place position]?.getD 0) else none := by
  by_cases inside : position < ring.size
  · rw [if_pos inside, toList, List.getElem?_map, List.getElem?_range inside, Option.map_some]
  · rw [if_neg inside, List.getElem?_eq_none]
    rw [length_toList]
    exact Nat.le_of_not_lt inside

/-- Bytes are pushed behind those that are there already. -/
theorem getElem?_push {ring : Ring} {bytes : List UInt8} {position : Nat}
    (inside : position < ring.size + ring.room bytes.length) :
    (ring.push bytes).2.storage[(ring.push bytes).2.place position]? =
      if position < ring.size then ring.storage[ring.place position]?
      else bytes[position - ring.size]? := by
  have fits := ring.size_le
  have room : ring.room bytes.length ≤ ring.storage.size - ring.size := Nat.min_le_right _ _
  have start : ring.place ring.size < ring.storage.size := Nat.mod_lt _ (by
    simp only [capacity]
    omega)
  have length : (bytes.take (ring.room bytes.length)).length = ring.room bytes.length :=
    List.length_take_of_le (Nat.min_le_left _ _)
  have stored := fun step => @getElem?_store ring.storage (ring.place ring.size) step
    (bytes.take (ring.room bytes.length)) start (by omega)
  have there : (ring.push bytes).2.place position = (ring.head + position) % ring.storage.size := by
    simp only [place, capacity_push]
    rfl
  rw [there]
  change (store ring.storage (ring.place ring.size) (bytes.take (ring.room bytes.length)))[_]? = _
  by_cases old : position < ring.size
  · -- Counted from the first pushed byte, an older one comes after all free places.
    have along : (ring.place ring.size + (ring.storage.size - ring.size + position)) %
        ring.storage.size = (ring.head + position) % ring.storage.size := by
      rw [place, capacity, Nat.mod_add_mod,
        show ring.head + ring.size + (ring.storage.size - ring.size + position) =
          ring.head + position + ring.storage.size by omega, Nat.add_mod_right]
    have kept := stored (ring.storage.size - ring.size + position) (by omega)
    rw [along, if_neg (by omega)] at kept
    rw [kept, if_pos old]
    rfl
  · have along : (ring.place ring.size + (position - ring.size)) % ring.storage.size =
        (ring.head + position) % ring.storage.size := by
      rw [place, capacity, Nat.mod_add_mod,
        show ring.head + ring.size + (position - ring.size) = ring.head + position by omega]
    have new := stored (position - ring.size) (by omega)
    rw [along, if_pos (by omega), List.getElem?_take_of_lt (by omega)] at new
    rw [new, if_neg old]

/-- A push appends the bytes that fit to the queue, and leaves the others out. -/
theorem toList_push (ring : Ring) (bytes : List UInt8) :
    (ring.push bytes).2.toList = (ring.toList ++ bytes).take ring.capacity := by
  have fits := ring.size_le_capacity
  have room : ring.room bytes.length = min bytes.length (ring.capacity - ring.size) := rfl
  have size : (ring.push bytes).2.size = ring.size + ring.room bytes.length := rfl
  apply List.ext_getElem?
  intro position
  rw [getElem?_toList, size, List.getElem?_take, List.getElem?_append, getElem?_toList,
    length_toList]
  by_cases inside : position < ring.size + ring.room bytes.length
  · have whole : position < ring.capacity := by omega
    rw [if_pos inside, if_pos whole, getElem?_push inside]
    by_cases old : position < ring.size
    · rw [if_pos old, if_pos old, if_pos old]
    · have there : position - ring.size < bytes.length := by omega
      rw [if_neg old, if_neg old, List.getElem?_eq_getElem there]
      rfl
  · rw [if_neg inside]
    by_cases whole : position < ring.capacity
    · rw [if_pos whole, if_neg (by omega), List.getElem?_eq_none (by omega)]
    · rw [if_neg whole]

/-- The queue after a push is the one before it and the bytes that were taken. -/
theorem toList_push_append (ring : Ring) (bytes : List UInt8) :
    (ring.push bytes).2.toList = ring.toList ++ bytes.take (ring.push bytes).1 := by
  have length := ring.length_toList
  rw [toList_push, List.take_append, List.take_of_length_le (by
    rw [length]
    exact ring.size_le_capacity), length]
  congr 1
  refine List.take_eq_take_iff.2 ?_
  simp only [push, room]
  omega

/-! ## Pops -/

/-- A pop takes as many bytes as it is asked for, or all there are. -/
theorem length_pop (ring : Ring) (count : Nat) :
    (ring.pop count).1.length = min count ring.size := by
  have fits := ring.size_le
  have head := ring.head_lt
  simp only [pop, front, capacity, List.length_append, Array.length_toList, Array.size_extract]
  omega

/-- The pieces at the front are the oldest bytes. -/
theorem front_eq {ring : Ring} {count : Nat} (there : count ≤ ring.size) :
    ring.front count = ring.toList.take count := by
  have fits := ring.size_le_capacity
  have head := ring.head_lt
  have size : ring.storage.size = ring.capacity := rfl
  apply List.ext_getElem?
  intro position
  rw [List.getElem?_take, getElem?_toList, front, List.getElem?_append]
  simp only [Array.getElem?_toList, Array.getElem?_extract, Array.length_toList,
    Array.size_extract]
  have front : min (ring.head + min count (ring.capacity - ring.head)) ring.storage.size -
      ring.head = min count (ring.capacity - ring.head) := by omega
  have back : min (count - min count (ring.capacity - ring.head)) ring.storage.size - 0 =
      count - min count (ring.capacity - ring.head) := by omega
  rw [front, back]
  by_cases inside : position < count
  · have lies : ring.place position < ring.storage.size := Nat.mod_lt _ (by omega)
    have place := wrap_eq (show ring.head < ring.capacity by omega)
      (show position ≤ ring.capacity by omega)
    have oldest : ring.storage[ring.place position]? =
        some (ring.storage[ring.place position]?.getD 0) := by
      rw [Array.getElem?_eq_getElem lies]
      rfl
    rw [if_pos inside, if_pos (show position < ring.size by omega), ← oldest, Ring.place, place]
    clear oldest lies place
    by_cases first : ring.head + position < ring.capacity
    · have before : position < min count (ring.capacity - ring.head) := by omega
      rw [if_pos before, if_pos before, if_pos first]
    · have behind : ¬position < min count (ring.capacity - ring.head) := by omega
      rw [if_neg behind, if_pos (by omega), if_neg first]
      congr 1
      omega
  · have behind : ¬position < min count (ring.capacity - ring.head) := by omega
    rw [if_neg inside, if_neg behind, if_neg (by omega)]

/-- Forgetting the oldest bytes leaves the others. -/
theorem toList_drop (ring : Ring) (count : Nat) :
    (ring.drop count).toList = ring.toList.drop count := by
  apply List.ext_getElem?
  intro position
  rw [List.getElem?_drop, getElem?_toList, getElem?_toList, drop]
  by_cases emptied : ring.size ≤ count
  · rw [dif_pos emptied, if_neg (Nat.not_lt_zero _), if_neg (by omega)]
  · rw [dif_neg emptied]
    by_cases inside : position < ring.size - count
    · have place : (ring.place count + position) % ring.capacity =
          ring.place (count + position) := by
        rw [place, place, Nat.mod_add_mod, Nat.add_assoc]
      rw [if_pos inside, if_pos (by omega), ← place]
      rfl
    · rw [if_neg inside, if_neg (by omega)]

/-- A pop takes the oldest bytes off the queue. -/
theorem pop_eq (ring : Ring) (count : Nat) :
    (ring.pop count).1 = ring.toList.take count ∧
      (ring.pop count).2.toList = ring.toList.drop count := by
  have length := ring.length_toList
  rw [pop]
  dsimp only
  rw [front_eq (Nat.min_le_right _ _), toList_drop]
  by_cases some : count ≤ ring.size
  · rw [Nat.min_eq_left some]
    exact ⟨rfl, rfl⟩
  · rw [Nat.min_eq_right (by omega), ← length, List.take_length, List.drop_length,
      List.take_of_length_le (by omega), List.drop_of_length_le (by omega)]
    exact ⟨rfl, rfl⟩

/-- A pop keeps the room. -/
@[simp]
theorem capacity_pop (ring : Ring) (count : Nat) :
    (ring.pop count).2.capacity = ring.capacity := by
  simp only [pop, drop]
  split <;> rfl

/-- A queue that is popped as a whole comes out, and nothing stays. -/
theorem pop_all {ring : Ring} {count : Nat} (all : ring.size ≤ count) :
    (ring.pop count).1 = ring.toList ∧ (ring.pop count).2.toList = [] := by
  obtain ⟨front, back⟩ := ring.pop_eq count
  rw [← ring.length_toList] at all
  exact ⟨front.trans (List.take_of_length_le all), back.trans (List.drop_of_length_le all)⟩

/-- A push that fits appends all bytes. -/
theorem toList_push_of_room {ring : Ring} {bytes : List UInt8}
    (room : ring.size + bytes.length ≤ ring.capacity) :
    (ring.push bytes).1 = bytes.length ∧ (ring.push bytes).2.toList = ring.toList ++ bytes := by
  constructor
  · simp only [push, Ring.room]
    omega
  · rw [toList_push]
    exact List.take_of_length_le (by rwa [List.length_append, length_toList])

end Multidrop.Ring
