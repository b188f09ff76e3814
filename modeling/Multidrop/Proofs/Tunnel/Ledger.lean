import Multidrop.Proofs.Tunnel.Slots

/-!
# Where the bytes of a channel are

The bytes that an application wrote to a channel have either been carried off or wait in the queue of
the channel's slot, in the order in which they were accepted (`Tunnels.Ledger`). Binding, delivering,
reading and writing keep the account; draining does so if what leaves the queue is carried off.
-/
namespace Multidrop.Tunnels

/-- What the writes through a handle accepted is what was carried off on a channel and what waits in
its slot, in this order. A slot that is still free may get the channel later, so all its bytes
wait. -/
structure Ledger (channel : UInt32) (carried : List UInt8) (accepted : Handle → List UInt8)
    (tunnels : Tunnels) : Prop where
  /-- The account of the channel's slot. -/
  bound : ∀ {handle : Handle} {slot : Slot}, tunnels.slot? handle = some slot →
    slot.channel = some channel → carried ++ slot.outbound.toList = accepted handle
  /-- The account of a free slot. -/
  free : ∀ {handle : Handle} {slot : Slot}, tunnels.slot? handle = some slot →
    slot.channel = none → slot.outbound.toList = accepted handle
  /-- The channel has one slot at most. -/
  single : ∀ {handle other : Handle} {slot second : Slot}, tunnels.slot? handle = some slot →
    tunnels.slot? other = some second → slot.channel = some channel →
    second.channel = some channel → other = handle
  /-- Nothing is carried off before the channel has a slot. -/
  unbound : (∀ handle slot, tunnels.slot? handle = some slot → slot.channel ≠ some channel) →
    carried = []

/-- The bytes that a write through a handle accepted. -/
def taken (handle : Handle) (bytes : List UInt8) (tunnels : Tunnels) : List UInt8 :=
  match (tunnels.write handle bytes).1 with
  | .ok count => bytes.take count
  | .error _ => []

variable {channel other : UInt32} {carried more : List UInt8} {accepted grown : Handle → List UInt8}
  {tunnels : Tunnels} {handle : Handle} {slot after : Slot}

/-- No slot has a channel without a handle. -/
theorem channel_ne_of_lookup (unbound : tunnels.lookup channel = none)
    (there : tunnels.slot? handle = some slot) : slot.channel ≠ some channel := by
  have none := List.findIdx?_eq_none_iff.1 (Option.map_eq_none_iff.1 unbound)
  exact of_decide_eq_false (none slot (List.mem_of_getElem? there))

/-- The account of new tunnels is empty. -/
theorem ledger_ofSlots (channel : UInt32) (count capacity : Nat) :
    Ledger channel [] (fun _ => []) (ofSlots count capacity) := by
  refine ⟨?_, ?_, ?_, fun _ => rfl⟩
  · intro handle slot there has
    rw [slot?_ofSlots there] at has
    cases has
  · intro handle slot there _
    rw [slot?_ofSlots there]
    rfl
  · intro handle other slot second there _ has
    rw [slot?_ofSlots there] at has
    cases has

namespace Ledger

/-- The channel is bound to no slot but its seat. -/
theorem eq_seat (ledger : tunnels.Ledger channel carried accepted)
    (seat : tunnels.seat? channel = some handle) {place : Handle}
    (there : tunnels.slot? place = some slot) (has : slot.channel = some channel) :
    place = handle := by
  obtain ⟨own, found, own' | ⟨_, unbound⟩⟩ := slot?_seat seat
  · exact ledger.single found there own' has
  · exact absurd has (channel_ne_of_lookup unbound there)

/-- The account of the channel's seat. -/
theorem seat (ledger : tunnels.Ledger channel carried accepted)
    (seat : tunnels.seat? channel = some handle) (there : tunnels.slot? handle = some slot) :
    carried ++ slot.outbound.toList = accepted handle := by
  obtain ⟨own, found, has | ⟨empty, unbound⟩⟩ := slot?_seat seat
  · rw [there] at found
    cases found
    exact ledger.bound there has
  · rw [there] at found
    cases found
    rw [ledger.unbound fun _ _ there => channel_ne_of_lookup unbound there]
    exact ledger.free there empty

/-- A change of the channel's seat keeps the account, if the account of the seat is right. -/
theorem own (ledger : tunnels.Ledger channel carried accepted)
    (seat : tunnels.seat? channel = some handle) (there : tunnels.slot? handle = some slot)
    (has : after.channel = some channel)
    (right : more ++ after.outbound.toList = accepted handle) :
    (tunnels.setSlot handle after).Ledger channel more accepted := by
  have here := slot?_setSlot there after
  refine ⟨?_, ?_, ?_, ?_⟩
  · intro place found at_ own
    rw [here] at at_
    by_cases same : place = handle
    · rw [if_pos same] at at_
      cases at_
      rw [same]
      exact right
    · rw [if_neg same] at at_
      exact absurd (ledger.eq_seat seat at_ own) same
  · intro place found at_ empty
    rw [here] at at_
    by_cases same : place = handle
    · rw [if_pos same] at at_
      cases at_
      rw [has] at empty
      cases empty
    · rw [if_neg same] at at_
      exact ledger.free at_ empty
  · have all : ∀ {place : Handle} {found : Slot},
        (tunnels.setSlot handle after).slot? place = some found →
        found.channel = some channel → place = handle := by
      intro place found at_ own
      by_cases same : place = handle
      · exact same
      · rw [here, if_neg same] at at_
        exact ledger.eq_seat seat at_ own
    intro first second _ _ one two own own'
    rw [all one own, all two own']
  · intro none
    exact absurd has (none handle after (by rw [here, if_pos rfl]))

/-- A change of the seat of another channel keeps the account. -/
theorem elsewhere (ledger : tunnels.Ledger channel carried accepted)
    (seat : tunnels.seat? other = some handle) (there : tunnels.slot? handle = some slot)
    (apart : other ≠ channel) (has : after.channel = some other) :
    (tunnels.setSlot handle after).Ledger channel carried accepted := by
  have here := slot?_setSlot there after
  have foreign : after.channel ≠ some channel := by
    rw [has]
    exact fun same => apart (Option.some.inj same)
  have before : ∀ {place : Handle} {found : Slot},
      (tunnels.setSlot handle after).slot? place = some found → found.channel ≠ some other →
      tunnels.slot? place = some found := by
    intro place found at_ not
    by_cases same : place = handle
    · rw [here, if_pos same] at at_
      cases at_
      exact absurd has not
    · rw [here, if_neg same] at at_
      exact at_
  have mine : ∀ {found : Slot}, found.channel = some channel → found.channel ≠ some other := by
    intro found own both
    rw [own] at both
    exact apart (Option.some.inj both).symm
  refine ⟨?_, ?_, ?_, ?_⟩
  · intro place found at_ own
    exact ledger.bound (before at_ (mine own)) own
  · intro place found at_ empty
    refine ledger.free (before at_ ?_) empty
    rw [empty]
    exact nofun
  · intro first second _ _ one two own own'
    exact ledger.single (before one (mine own)) (before two (mine own')) own own'
  · intro none
    apply ledger.unbound
    intro place found at_ own
    by_cases same : place = handle
    · -- The seat of another channel was its own or free.
      rw [same, there] at at_
      cases at_
      obtain ⟨_, found, theirs | ⟨empty, _⟩⟩ := slot?_seat seat
      · rw [there] at found
        cases found
        exact mine own theirs
      · rw [there] at found
        cases found
        rw [own] at empty
        cases empty
    · exact none place found (by rw [here, if_neg same, at_]) own

/-- Binding a seat to its channel keeps the account, if the bytes that wait there stay. -/
theorem bindSeat (ledger : tunnels.Ledger channel carried accepted)
    (seat : tunnels.seat? other = some handle) (there : tunnels.slot? handle = some slot)
    (has : after.channel = some other) (same : after.outbound = slot.outbound) :
    (tunnels.setSlot handle after).Ledger channel carried accepted := by
  by_cases mine : other = channel
  · subst mine
    refine ledger.own seat there has ?_
    rw [same]
    exact ledger.seat seat there
  · exact ledger.elsewhere seat there mine has

/-- A slot that keeps its channel and gets more bytes keeps the account, if the bytes were
accepted. -/
theorem grow (ledger : tunnels.Ledger channel carried accepted)
    (there : tunnels.slot? handle = some slot) (has : after.channel = slot.channel)
    {bytes : List UInt8} (longer : after.outbound.toList = slot.outbound.toList ++ bytes)
    (right : grown handle = accepted handle ++ bytes)
    (others : ∀ place, place ≠ handle → grown place = accepted place) :
    (tunnels.setSlot handle after).Ledger channel carried grown := by
  have here := slot?_setSlot there after
  -- A slot has the channel that the slot at the same place had.
  have before : ∀ {place : Handle} {found : Slot},
      (tunnels.setSlot handle after).slot? place = some found →
      ∃ old, tunnels.slot? place = some old ∧ old.channel = found.channel ∧
        ∀ front, front ++ old.outbound.toList = accepted place →
          front ++ found.outbound.toList = grown place := by
    intro place found at_
    by_cases same : place = handle
    · subst same
      rw [here, if_pos rfl] at at_
      cases at_
      refine ⟨slot, there, has.symm, fun front account => ?_⟩
      rw [longer, ← List.append_assoc, account, right]
    · rw [here, if_neg same] at at_
      refine ⟨found, at_, rfl, fun front account => ?_⟩
      rw [account, others place same]
  refine ⟨?_, ?_, ?_, ?_⟩
  · intro place found at_ own
    obtain ⟨old, at_, same, account⟩ := before at_
    exact account carried (ledger.bound at_ (same.trans own))
  · intro place found at_ empty
    obtain ⟨old, at_, same, account⟩ := before at_
    exact account [] (ledger.free at_ (same.trans empty))
  · intro first second _ _ one two own own'
    obtain ⟨_, one, same, _⟩ := before one
    obtain ⟨_, two, same', _⟩ := before two
    exact ledger.single one two (same.trans own) (same'.trans own')
  · intro none
    apply ledger.unbound
    intro place found at_ own
    by_cases same : place = handle
    · rw [same, there] at at_
      cases at_
      exact none handle after (by rw [here, if_pos rfl]) (has.trans own)
    · exact none place found (by rw [here, if_neg same, at_]) own

/-! ## Operations -/

/-- Binding a channel keeps the account. -/
theorem bind (ledger : tunnels.Ledger channel carried accepted) (other : UInt32) :
    (tunnels.bind other).2.Ledger channel carried accepted := by
  cases seat : tunnels.seat? other with
  | none =>
    rw [bind_of_full seat]
    exact ledger
  | some handle =>
    obtain ⟨slot, there, _⟩ := slot?_seat seat
    rw [bind_of_seat seat there]
    exact ledger.bindSeat seat there rfl rfl

/-- Bytes for the application keep the account. -/
theorem deliver (ledger : tunnels.Ledger channel carried accepted) (other : UInt32)
    (data : List UInt8) : (tunnels.deliver other data).2.Ledger channel carried accepted := by
  cases seat : tunnels.seat? other with
  | none =>
    rw [deliver_of_full data seat]
    exact ledger
  | some handle =>
    obtain ⟨slot, there, _⟩ := slot?_seat seat
    rw [deliver_of_seat data seat there]
    exact ledger.bindSeat seat there rfl rfl

/-- Reading keeps the account. -/
theorem read (ledger : tunnels.Ledger channel carried accepted) (handle : Handle) (count : Nat) :
    (tunnels.read handle count).2.Ledger channel carried accepted := by
  unfold Tunnels.read
  by_cases nothing : count = 0
  · rw [if_pos nothing]
    exact ledger
  · rw [if_neg nothing]
    cases there : tunnels.slot? handle with
    | none => exact ledger
    | some slot =>
      dsimp only
      by_cases empty : slot.inbound.size = 0
      · rw [if_pos empty]
        exact ledger
      · rw [if_neg empty]
        exact ledger.grow there rfl (List.append_nil _).symm (List.append_nil _).symm
          fun _ _ => rfl

/-- A write keeps the account of what was accepted. -/
theorem write (ledger : tunnels.Ledger channel carried accepted) (handle : Handle)
    (bytes : List UInt8) :
    (tunnels.write handle bytes).2.Ledger channel carried
      fun place => accepted place ++ if place = handle then tunnels.taken handle bytes else [] := by
  have untouched : tunnels.taken handle bytes = [] → tunnels.Ledger channel carried
      fun place => accepted place ++ if place = handle then tunnels.taken handle bytes else [] := by
    intro nothing
    rw [nothing]
    simp only [ite_self, List.append_nil]
    exact ledger
  unfold taken at untouched ⊢
  unfold Tunnels.write at untouched ⊢
  by_cases nothing : bytes = []
  · rw [if_pos nothing] at untouched ⊢
    exact untouched (List.take_zero)
  · rw [if_neg nothing] at untouched ⊢
    cases there : tunnels.slot? handle with
    | none =>
      rw [there] at untouched
      exact untouched rfl
    | some slot =>
      rw [there] at untouched
      dsimp only at untouched ⊢
      by_cases full : (slot.outbound.push bytes).1 = 0
      · rw [if_pos full] at untouched ⊢
        exact untouched rfl
      · rw [if_neg full]
        refine ledger.grow there rfl (slot.outbound.toList_push_append bytes) ?_ ?_
        · rw [if_pos rfl]
        · intro place apart
          rw [if_neg apart, List.append_nil]

end Ledger

end Multidrop.Tunnels
