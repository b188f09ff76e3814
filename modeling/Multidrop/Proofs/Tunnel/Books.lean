import Multidrop.Proofs.Tunnel.Ledger

/-!
# The books of a channel table

Two parties use a table of channels: bytes are delivered to it and drained from it on the side of the
line, and read and written on the side of the application. Beside the table runs an account of every
channel (`Tunnels.Account`). Whatever the parties do in whatever order, a channel keeps the slot that
it got, no two slots have one channel, and every account is balanced: what came in on a channel has
gone out or waits in the ring of its slot, in order (`Tunnels.kept_balanced`).
-/
namespace Multidrop.Tunnels

/-! ## Uses of a table -/

/-- One use of a table, by either party. -/
inductive Use
  /-- Ask for the handle of a channel, which is bound if need be. -/
  | bind (channel : UInt32)
  /-- Ask for the handle of a channel that is bound. -/
  | lookup (channel : UInt32)
  /-- Bytes of the master for the application. -/
  | deliver (channel : UInt32) (data : List UInt8)
  /-- Take bytes that wait for the master. -/
  | drain (handle : Handle) (count : Nat)
  /-- The application reads. -/
  | read (handle : Handle) (count : Nat)
  /-- The application writes. -/
  | write (handle : Handle) (bytes : List UInt8)

namespace Use

/-- The table after a use. -/
def after (use : Use) (tunnels : Tunnels) : Tunnels :=
  match use with
  | .bind channel => (tunnels.bind channel).2
  | .lookup _ => tunnels
  | .deliver channel data => (tunnels.deliver channel data).2
  | .drain handle count => (tunnels.drain handle count).2
  | .read handle count => (tunnels.read handle count).2
  | .write handle bytes => (tunnels.write handle bytes).2

/-- The channel that a use is on: a handle stands for the channel of its slot. -/
def channel? (use : Use) (tunnels : Tunnels) : Option UInt32 :=
  match use with
  | .bind channel => some channel
  | .lookup channel => some channel
  | .deliver channel _ => some channel
  | .drain handle _ => tunnels.channel? handle
  | .read handle _ => tunnels.channel? handle
  | .write handle _ => tunnels.channel? handle

/-- The handle that a use gives its party. -/
def given (use : Use) (tunnels : Tunnels) : Option Handle :=
  match use with
  | .bind channel => (tunnels.bind channel).1
  | .lookup channel => tunnels.lookup channel
  | .deliver channel data => (tunnels.deliver channel data).1
  | .drain .. => none
  | .read .. => none
  | .write .. => none

/-- The handle that a use goes through. -/
def handle? : Use → Option Handle
  | .bind _ => none
  | .lookup _ => none
  | .deliver .. => none
  | .drain handle _ => some handle
  | .read handle _ => some handle
  | .write handle _ => some handle

end Use

/-- The bytes of a delivery that are queued. -/
def admitted (channel : UInt32) (data : List UInt8) (tunnels : Tunnels) : List UInt8 :=
  match tunnels.bind channel with
  | (none, _) => []
  | (some handle, tunnels) =>
    (tunnels.slot? handle).elim [] fun slot => data.take (slot.inbound.push data).1

/-- The bytes that a read returns. -/
def fetched (handle : Handle) (count : Nat) (tunnels : Tunnels) : List UInt8 :=
  match (tunnels.read handle count).1 with
  | .ok bytes => bytes
  | .error _ => []

/-- What has passed on a channel so far. -/
structure Account where
  /-- Bytes of the master that were accepted. -/
  delivered : List UInt8 := []
  /-- Bytes that the application has read. -/
  read : List UInt8 := []
  /-- Bytes of the application that were accepted. -/
  written : List UInt8 := []
  /-- Bytes that were drained for the master. -/
  drained : List UInt8 := []

/-- The account of a channel after a use on it. -/
def Account.enter (use : Use) (tunnels : Tunnels) (account : Account) : Account :=
  match use with
  | .bind _ => account
  | .lookup _ => account
  | .deliver channel data =>
    { account with delivered := account.delivered ++ tunnels.admitted channel data }
  | .drain handle count =>
    { account with drained := account.drained ++ (tunnels.drain handle count).1 }
  | .read handle count => { account with read := account.read ++ tunnels.fetched handle count }
  | .write handle bytes => { account with written := account.written ++ tunnels.taken handle bytes }

/-- A table with the accounts of all channels. -/
structure Kept where
  /-- The account of each channel. -/
  accounts : UInt32 → Account
  /-- The table. -/
  tunnels : Tunnels

/-- A use changes the table, and the account of the channel that it is on. -/
def Kept.record (kept : Kept) (use : Use) : Kept where
  accounts := fun channel =>
    if use.channel? kept.tunnels = some channel then
      (kept.accounts channel).enter use kept.tunnels
    else kept.accounts channel
  tunnels := use.after kept.tunnels

/-- New tunnels after some uses, with the accounts of their channels. -/
def kept (count capacity : Nat) (uses : List Use) : Kept :=
  uses.foldl Kept.record ⟨fun _ => {}, ofSlots count capacity⟩

/-- Every handle in use has a channel when it is used. This is so of handles that were given out before
(`issued_of_given`). -/
def Issued : List Use → Tunnels → Prop
  | [], _ => True
  | use :: rest, tunnels => use.channel? tunnels ≠ none ∧ Issued rest (use.after tunnels)

/-- The slot that a channel is bound to. -/
def slotOf (channel : UInt32) (tunnels : Tunnels) : Option Slot :=
  (tunnels.lookup channel).bind tunnels.slot?

/-- Bytes on a channel that the application has not read. -/
def inboundOf (channel : UInt32) (tunnels : Tunnels) : List UInt8 :=
  (tunnels.slotOf channel).elim [] fun slot => slot.inbound.toList

/-- Bytes on a channel that wait for the master. -/
def outboundOf (channel : UInt32) (tunnels : Tunnels) : List UInt8 :=
  (tunnels.slotOf channel).elim [] fun slot => slot.outbound.toList

/-- No two slots have one channel. -/
def Single (tunnels : Tunnels) : Prop :=
  ∀ {channel : UInt32} {handle other : Handle} {slot second : Slot},
    tunnels.slot? handle = some slot → tunnels.slot? other = some second →
    slot.channel = some channel → second.channel = some channel → other = handle

variable {tunnels : Tunnels} {handle : Handle} {slot settled : Slot} {channel other : UInt32}

/-! ## Handles of channels -/

/-- The slot with a channel is the one that is found for it. -/
theorem lookup_of_slot (single : tunnels.Single) (there : tunnels.slot? handle = some slot)
    (has : slot.channel = some channel) : tunnels.lookup channel = some handle := by
  cases found : tunnels.lookup channel with
  | none => exact absurd has (channel_ne_of_lookup found there)
  | some place =>
    obtain ⟨second, at_, own⟩ := slot?_lookup found
    rw [single there at_ has own]

/-- The slot of a channel that has one. -/
theorem slotOf_eq (single : tunnels.Single) (there : tunnels.slot? handle = some slot)
    (has : slot.channel = some channel) : tunnels.slotOf channel = some slot := by
  rw [slotOf, lookup_of_slot single there has]
  exact there

/-- A channel that no slot has is found nowhere. -/
theorem slotOf_eq_none
    (nowhere : ∀ {handle : Handle} {slot : Slot}, tunnels.slot? handle = some slot →
      slot.channel ≠ some channel) : tunnels.slotOf channel = none := by
  cases found : tunnels.lookup channel with
  | none => rw [slotOf, found, Option.bind_none]
  | some place =>
    obtain ⟨slot, there, has⟩ := slot?_lookup found
    exact absurd has (nowhere there)

/-- A handle has the channel of its slot. -/
theorem channel?_eq_some :
    tunnels.channel? handle = some channel ↔
      ∃ slot, tunnels.slot? handle = some slot ∧ slot.channel = some channel := by
  rw [Tunnels.channel?, Option.bind_eq_some_iff]

/-- What binding gives is the seat. -/
theorem fst_bind (channel : UInt32) (tunnels : Tunnels) :
    (tunnels.bind channel).1 = tunnels.seat? channel := by
  cases seat : tunnels.seat? channel with
  | none => rw [bind_of_full seat]
  | some handle =>
    obtain ⟨slot, there, _⟩ := slot?_seat seat
    rw [bind_of_seat seat there]

/-- A channel has no seat just if every slot has another channel. -/
theorem seat?_eq_none :
    tunnels.seat? channel = none ↔
      ∀ slot ∈ tunnels.slots, ∃ other, slot.channel = some other ∧ other ≠ channel := by
  rw [seat?, Option.or_eq_none_iff, lookup, free?, Option.map_eq_none_iff, Option.map_eq_none_iff,
    List.findIdx?_eq_none_iff, List.findIdx?_eq_none_iff]
  constructor
  · rintro ⟨foreign, bound⟩ slot member
    cases has : slot.channel with
    | none => exact absurd has (of_decide_eq_false (bound slot member))
    | some other =>
      refine ⟨other, rfl, ?_⟩
      rintro rfl
      exact of_decide_eq_false (foreign slot member) has
  · intro taken
    constructor
    · intro slot member
      obtain ⟨other, has, apart⟩ := taken slot member
      rw [has]
      exact decide_eq_false fun same => apart (Option.some.inj same)
    · intro slot member
      obtain ⟨other, has, _⟩ := taken slot member
      rw [has]
      rfl

/-! ## What a use does -/

/-- An account balances with what waits in the rings of a slot. -/
structure Account.Balanced (account : Account) (inbound outbound : List UInt8) : Prop where
  /-- What the application has read and what it can read was delivered. -/
  delivered : account.read ++ inbound = account.delivered
  /-- What was drained and what waits was written. -/
  written : account.drained ++ outbound = account.written

/-- A use changes a slot of a channel: the channel has the slot from then on, and what is entered in
its account is what the rings of the slot take in and give out. -/
structure Changes (use : Use) (tunnels : Tunnels) (channel : UInt32) (handle : Handle)
    (slot settled : Slot) : Prop where
  /-- The slot is the channel's seat. -/
  seat : tunnels.seat? channel = some handle
  /-- The slot before the use. -/
  there : tunnels.slot? handle = some slot
  /-- The slot is bound after the use. -/
  bound : settled.channel = some channel
  /-- The slot is replaced. -/
  after_eq : use.after tunnels = tunnels.setSlot handle settled
  /-- The account keeps its balance. -/
  balanced : ∀ account : Account,
    account.Balanced slot.inbound.toList slot.outbound.toList →
    (account.enter use tunnels).Balanced settled.inbound.toList settled.outbound.toList

/-- What a use on a channel can do: nothing at all, or change the channel's slot. -/
inductive Effect (use : Use) (tunnels : Tunnels) (channel : UInt32) : Prop
  | idle (same : use.after tunnels = tunnels)
      (quiet : ∀ account : Account, account.enter use tunnels = account)
  | changed (handle : Handle) (slot settled : Slot)
      (changes : Changes use tunnels channel handle slot settled)

/-- Nothing is entered for a delivery to a channel without a seat. -/
theorem admitted_of_full (data : List UInt8) (full : tunnels.seat? channel = none) :
    tunnels.admitted channel data = [] := by
  rw [admitted, bind_of_full full]

/-- What is queued of a delivery is what the ring of the seat takes. -/
theorem admitted_of_seat (data : List UInt8) (seat : tunnels.seat? channel = some handle)
    (there : tunnels.slot? handle = some slot) :
    tunnels.admitted channel data = data.take (slot.inbound.push data).1 := by
  rw [admitted, bind_of_seat seat there]
  dsimp only
  rw [slot?_setSlot there, if_pos rfl, Option.elim_some]

/-- The handle of a bound slot is the seat of its channel. -/
theorem seat?_of_slot (single : tunnels.Single) (there : tunnels.slot? handle = some slot)
    (has : slot.channel = some channel) : tunnels.seat? channel = some handle := by
  rw [seat?, lookup_of_slot single there has, Option.some_or]

/-- A binding changes the seat, if there is one. -/
theorem effect_bind (channel : UInt32) (tunnels : Tunnels) :
    Effect (.bind channel) tunnels channel := by
  cases seat : tunnels.seat? channel with
  | none =>
    refine .idle ?_ fun _ => rfl
    rw [Use.after, bind_of_full seat]
  | some handle =>
    obtain ⟨slot, there, _⟩ := slot?_seat seat
    refine .changed handle slot { slot with channel := some channel }
      ⟨seat, there, rfl, ?_, fun _ balanced => balanced⟩
    rw [Use.after, bind_of_seat seat there]

/-- A delivery fills the inbound ring of the seat, if there is one. -/
theorem effect_deliver (channel : UInt32) (data : List UInt8) (tunnels : Tunnels) :
    Effect (.deliver channel data) tunnels channel := by
  cases seat : tunnels.seat? channel with
  | none =>
    refine .idle ?_ fun account => ?_
    · rw [Use.after, deliver_of_full data seat]
    · rw [Account.enter, admitted_of_full data seat, List.append_nil]
  | some handle =>
    obtain ⟨slot, there, _⟩ := slot?_seat seat
    refine .changed handle slot
      { slot with channel := some channel, inbound := (slot.inbound.push data).2 }
      ⟨seat, there, rfl, ?_, fun account balanced => ⟨?_, balanced.written⟩⟩
    · rw [Use.after, deliver_of_seat data seat there]
    · rw [Account.enter, admitted_of_seat data seat there]
      dsimp only
      rw [slot.inbound.toList_push_append data, ← List.append_assoc, balanced.delivered]

/-- A read that changes nothing and returns nothing is idle. -/
theorem effect_read_idle {count : Nat} (same : (tunnels.read handle count).2 = tunnels)
    (nothing : tunnels.fetched handle count = []) : Effect (.read handle count) tunnels channel := by
  refine .idle same fun account => ?_
  rw [Account.enter, nothing, List.append_nil]

/-- A write that changes nothing and takes nothing is idle. -/
theorem effect_write_idle {bytes : List UInt8} (same : (tunnels.write handle bytes).2 = tunnels)
    (nothing : tunnels.taken handle bytes = []) : Effect (.write handle bytes) tunnels channel := by
  refine .idle same fun account => ?_
  rw [Account.enter, nothing, List.append_nil]

section OfHandle

variable (single : tunnels.Single) (there : tunnels.slot? handle = some slot)
  (has : slot.channel = some channel)
include single there has

/-- A drain takes from the outbound ring of the handle. -/
theorem effect_drain (count : Nat) : Effect (.drain handle count) tunnels channel := by
  refine .changed handle slot { slot with outbound := (slot.outbound.pop count).2 }
    ⟨seat?_of_slot single there has, there, has, ?_, fun account balanced =>
      ⟨balanced.delivered, ?_⟩⟩
  · rw [Use.after, drain_of_slot count there]
  · obtain ⟨front, back⟩ := slot.outbound.pop_eq count
    rw [Account.enter, drain_of_slot count there]
    dsimp only
    rw [front, back, List.append_assoc, List.take_append_drop, balanced.written]

/-- A read takes from the inbound ring of the handle, or fails. -/
theorem effect_read (count : Nat) : Effect (.read handle count) tunnels channel := by
  by_cases nothing : count = 0
  · have result : tunnels.read handle count = (.ok [], tunnels) := by
      rw [Tunnels.read, if_pos nothing]
    exact effect_read_idle (by rw [result]) (by rw [fetched, result])
  · by_cases empty : slot.inbound.size = 0
    · have result := read_of_empty there empty (Nat.pos_of_ne_zero nothing)
      exact effect_read_idle (by rw [result]) (by rw [fetched, result])
    · have result : tunnels.read handle count =
          (.ok (slot.inbound.pop count).1,
            tunnels.setSlot handle { slot with inbound := (slot.inbound.pop count).2 }) := by
        rw [Tunnels.read, if_neg nothing, there]
        dsimp only
        rw [if_neg empty]
      refine .changed handle slot { slot with inbound := (slot.inbound.pop count).2 }
        ⟨seat?_of_slot single there has, there, has, ?_, fun account balanced =>
          ⟨?_, balanced.written⟩⟩
      · rw [Use.after, result]
      · obtain ⟨front, back⟩ := slot.inbound.pop_eq count
        rw [Account.enter, fetched, result]
        dsimp only
        rw [front, back, List.append_assoc, List.take_append_drop, balanced.delivered]

/-- A write fills the outbound ring of the handle, or fails. -/
theorem effect_write (bytes : List UInt8) : Effect (.write handle bytes) tunnels channel := by
  by_cases nothing : bytes = []
  · have result : tunnels.write handle bytes = (.ok 0, tunnels) := by
      rw [Tunnels.write, if_pos nothing]
    refine effect_write_idle (by rw [result]) ?_
    rw [taken, result]
    exact List.take_zero
  · by_cases full : (slot.outbound.push bytes).1 = 0
    · have result : tunnels.write handle bytes = (.error ⟨.wouldBlock, none⟩, tunnels) := by
        rw [Tunnels.write, if_neg nothing, there]
        dsimp only
        rw [if_pos full]
      exact effect_write_idle (by rw [result]) (by rw [taken, result])
    · have result : tunnels.write handle bytes =
          (.ok (slot.outbound.push bytes).1,
            tunnels.setSlot handle { slot with outbound := (slot.outbound.push bytes).2 }) := by
        rw [Tunnels.write, if_neg nothing, there]
        dsimp only
        rw [if_neg full]
      refine .changed handle slot { slot with outbound := (slot.outbound.push bytes).2 }
        ⟨seat?_of_slot single there has, there, has, ?_, fun account balanced =>
          ⟨balanced.delivered, ?_⟩⟩
      · rw [Use.after, result]
      · rw [Account.enter, taken, result]
        dsimp only
        rw [slot.outbound.toList_push_append bytes, ← List.append_assoc, balanced.written]

end OfHandle

/-- A use on a channel does nothing, or changes the slot of the channel. -/
theorem effect_use {use : Use} (single : tunnels.Single) (on : use.channel? tunnels = some channel) :
    Effect use tunnels channel := by
  cases use with
  | bind own =>
    cases on
    exact effect_bind channel tunnels
  | lookup own => exact .idle rfl fun _ => rfl
  | deliver own data =>
    cases on
    exact effect_deliver channel data tunnels
  | drain handle count =>
    obtain ⟨slot, there, has⟩ := channel?_eq_some.1 on
    exact effect_drain single there has count
  | read handle count =>
    obtain ⟨slot, there, has⟩ := channel?_eq_some.1 on
    exact effect_read single there has count
  | write handle bytes =>
    obtain ⟨slot, there, has⟩ := channel?_eq_some.1 on
    exact effect_write single there has bytes

namespace Changes

variable {use : Use}

/-- The slots after a change. -/
theorem slot?_after (changes : Changes use tunnels channel handle slot settled) (place : Handle) :
    (use.after tunnels).slot? place =
      if place = handle then some settled else tunnels.slot? place := by
  rw [changes.after_eq, slot?_setSlot changes.there]

/-- No slot but the seat has the channel. -/
theorem eq_seat (changes : Changes use tunnels channel handle slot settled)
    (single : tunnels.Single) {place : Handle} {found : Slot}
    (there : tunnels.slot? place = some found) (has : found.channel = some channel) :
    place = handle := by
  have own := seat?_of_slot single there has
  rw [changes.seat] at own
  exact (Option.some.inj own).symm

/-- The seat had the channel, or none. -/
theorem channel_eq (changes : Changes use tunnels channel handle slot settled) :
    slot.channel = some channel ∨ slot.channel = none ∧ tunnels.lookup channel = none := by
  obtain ⟨same, there, cases⟩ := slot?_seat changes.seat
  rw [changes.there] at there
  cases there
  exact cases

/-- A slot with another channel is there before the change just if it is there afterwards. -/
theorem slot?_other (changes : Changes use tunnels channel handle slot settled)
    (apart : channel ≠ other) {place : Handle} {found : Slot} (has : found.channel = some other) :
    (use.after tunnels).slot? place = some found ↔ tunnels.slot? place = some found := by
  rw [changes.slot?_after]
  by_cases here : place = handle
  · rw [if_pos here, here, changes.there]
    constructor
    · intro same
      cases same
      exact absurd (Option.some.inj (changes.bound.symm.trans has)) apart
    · intro same
      cases same
      obtain own | ⟨empty, _⟩ := changes.channel_eq
      · exact absurd (Option.some.inj (own.symm.trans has)) apart
      · rw [has] at empty
        cases empty
  · rw [if_neg here]

/-- A slot with the channel of the use is the changed one. -/
theorem slot?_own (changes : Changes use tunnels channel handle slot settled)
    (single : tunnels.Single) {place : Handle} {found : Slot}
    (there : (use.after tunnels).slot? place = some found) (has : found.channel = some channel) :
    place = handle := by
  by_cases here : place = handle
  · exact here
  · rw [changes.slot?_after, if_neg here] at there
    exact changes.eq_seat single there has

/-- A change leaves one slot to every channel. -/
theorem single (changes : Changes use tunnels channel handle slot settled)
    (single : tunnels.Single) : (use.after tunnels).Single := by
  intro owner first last one two at_ at_' has has'
  by_cases mine : channel = owner
  · subst mine
    rw [changes.slot?_own single at_ has, changes.slot?_own single at_' has']
  · exact single ((changes.slot?_other mine has).1 at_) ((changes.slot?_other mine has').1 at_')
      has has'

/-- The slot of any other channel stays as it is. -/
theorem slotOf_other (changes : Changes use tunnels channel handle slot settled)
    (single : tunnels.Single) (apart : channel ≠ other) :
    (use.after tunnels).slotOf other = tunnels.slotOf other := by
  cases bound : tunnels.lookup other with
  | some place =>
    obtain ⟨found, there, has⟩ := slot?_lookup bound
    rw [slotOf_eq single there has,
      slotOf_eq (changes.single single) ((changes.slot?_other apart has).2 there) has]
  | none =>
    have before : tunnels.slotOf other = none := by
      rw [slotOf, bound, Option.bind_none]
    rw [before]
    refine slotOf_eq_none fun there has => ?_
    exact channel_ne_of_lookup bound ((changes.slot?_other apart has).1 there) has

/-- The slot of the channel is the changed one. -/
theorem slotOf_own (changes : Changes use tunnels channel handle slot settled)
    (single : tunnels.Single) : (use.after tunnels).slotOf channel = some settled := by
  have there : (use.after tunnels).slot? handle = some settled := by
    rw [changes.slot?_after, if_pos rfl]
  exact slotOf_eq (changes.single single) there changes.bound

end Changes

/-! ## Books that are in order -/

/-- The books are in order: the table has one slot at most for each channel, free slots are empty,
and the account of every channel balances with its slot. -/
structure Kept.Orderly (count : Nat) (books : Kept) : Prop where
  /-- The table keeps its size. -/
  length : books.tunnels.slots.length = count
  /-- No two slots have one channel. -/
  single : books.tunnels.Single
  /-- Nothing waits in a free slot. -/
  empty : ∀ {handle : Handle} {slot : Slot}, books.tunnels.slot? handle = some slot →
    slot.channel = none → slot.inbound.toList = [] ∧ slot.outbound.toList = []
  /-- The account of a channel balances with what waits on it. -/
  balanced : ∀ channel, (books.accounts channel).Balanced (books.tunnels.inboundOf channel)
    (books.tunnels.outboundOf channel)

namespace Kept

/-- The books of new tunnels are in order. -/
theorem orderly_ofSlots (count capacity : Nat) :
    Orderly count ⟨fun _ => {}, ofSlots count capacity⟩ := by
  refine ⟨List.length_replicate, ?_, ?_, fun channel => ?_⟩
  · intro channel handle other slot second there _ has
    rw [slot?_ofSlots there] at has
    cases has
  · intro handle slot there _
    rw [slot?_ofSlots there]
    exact ⟨rfl, rfl⟩
  · have unbound : (ofSlots count capacity).slotOf channel = none := by
      refine slotOf_eq_none fun there has => ?_
      rw [slot?_ofSlots there] at has
      cases has
    dsimp only
    rw [inboundOf, outboundOf, unbound]
    exact ⟨rfl, rfl⟩

variable {books : Kept} {count : Nat} {use : Use}

/-- The account of the channel that a use changes balances with the slot that it changes. -/
theorem Orderly.balanced_seat (orderly : books.Orderly count)
    (changes : Changes use books.tunnels channel handle slot settled) :
    (books.accounts channel).Balanced slot.inbound.toList slot.outbound.toList := by
  have balanced := orderly.balanced channel
  unfold inboundOf outboundOf at balanced
  obtain has | ⟨free, unbound⟩ := changes.channel_eq
  · rw [slotOf_eq orderly.single changes.there has] at balanced
    exact balanced
  · obtain ⟨inbound, outbound⟩ := orderly.empty changes.there free
    rw [slotOf, unbound, Option.bind_none] at balanced
    rw [inbound, outbound]
    exact balanced

/-- A use on a channel leaves the books in order. -/
theorem Orderly.record (orderly : books.Orderly count)
    (on : use.channel? books.tunnels = some channel) : (books.record use).Orderly count := by
  have accounts : (books.record use).accounts = fun owner =>
      if channel = owner then (books.accounts owner).enter use books.tunnels
      else books.accounts owner := by
    simp only [Kept.record, on, Option.some.injEq]
  have tunnels : (books.record use).tunnels = use.after books.tunnels := rfl
  cases effect_use orderly.single on with
  | idle same quiet =>
    have stays : books.record use = books := by
      simp only [quiet, ite_self] at accounts
      rw [same] at tunnels
      cases books
      exact Kept.mk.injEq .. ▸ ⟨accounts, tunnels⟩
    rw [stays]
    exact orderly
  | changed handle slot settled changes =>
    refine ⟨?_, ?_, ?_, fun owner => ?_⟩
    · rw [tunnels, changes.after_eq, setSlot, List.length_set]
      exact orderly.length
    · rw [tunnels]
      exact changes.single orderly.single
    · intro place found there free
      rw [tunnels, changes.slot?_after] at there
      by_cases here : place = handle
      · rw [if_pos here] at there
        cases there
        rw [changes.bound] at free
        cases free
      · rw [if_neg here] at there
        exact orderly.empty there free
    · rw [accounts, tunnels]
      unfold inboundOf outboundOf
      dsimp only
      by_cases mine : channel = owner
      · subst mine
        rw [if_pos rfl, changes.slotOf_own orderly.single]
        exact changes.balanced _ (orderly.balanced_seat changes)
      · rw [if_neg mine, changes.slotOf_other orderly.single mine]
        exact orderly.balanced owner

/-- Uses on channels leave the books in order. -/
theorem Orderly.foldl (orderly : books.Orderly count) {uses : List Use}
    (issued : Issued uses books.tunnels) : (uses.foldl Kept.record books).Orderly count := by
  induction uses generalizing books with
  | nil => exact orderly
  | cons use rest ih =>
    obtain ⟨on, later⟩ := issued
    obtain ⟨channel, on⟩ := Option.ne_none_iff_exists'.1 on
    exact ih (orderly.record on) later

/-- A bound handle keeps its channel in a use. -/
theorem Orderly.channel?_record (orderly : books.Orderly count)
    (on : use.channel? books.tunnels = some channel)
    (has : books.tunnels.channel? handle = some other) :
    (books.record use).tunnels.channel? handle = some other := by
  change (use.after books.tunnels).channel? handle = some other
  cases effect_use orderly.single on with
  | idle same _ =>
    rw [same]
    exact has
  | changed place slot settled changes =>
    obtain ⟨found, there, own⟩ := channel?_eq_some.1 has
    by_cases apart : channel = other
    · subst apart
      rw [channel?_eq_some]
      refine ⟨settled, ?_, changes.bound⟩
      rw [changes.slot?_after, if_pos (changes.eq_seat orderly.single there own)]
    · rw [channel?_eq_some]
      exact ⟨found, (changes.slot?_other apart own).2 there, own⟩

/-- A bound handle keeps its channel in all uses. -/
theorem Orderly.channel?_foldl (orderly : books.Orderly count) {uses : List Use}
    (issued : Issued uses books.tunnels) (has : books.tunnels.channel? handle = some other) :
    (uses.foldl Kept.record books).tunnels.channel? handle = some other := by
  induction uses generalizing books with
  | nil => exact has
  | cons use rest ih =>
    obtain ⟨on, later⟩ := issued
    obtain ⟨channel, on⟩ := Option.ne_none_iff_exists'.1 on
    exact ih (orderly.record on) later (orderly.channel?_record on has)

end Kept

/-! ## Runs of uses -/

/-- A handle that is given out has the channel that it was asked for. -/
theorem channel?_given {use : Use} (given : use.given tunnels = some handle) :
    (use.after tunnels).channel? handle = use.channel? tunnels := by
  cases use with
  | bind channel =>
    have seat : tunnels.seat? channel = some handle := (fst_bind channel tunnels).symm.trans given
    obtain ⟨slot, there, _⟩ := slot?_seat seat
    refine channel?_eq_some.2 ⟨{ slot with channel := some channel }, ?_, rfl⟩
    rw [Use.after, bind_of_seat seat there, slot?_setSlot there, if_pos rfl]
  | lookup channel => exact channel?_eq_some.2 (slot?_lookup given)
  | deliver channel data =>
    cases seat : tunnels.seat? channel with
    | none =>
      rw [Use.given, deliver_of_full data seat] at given
      cases given
    | some place =>
      obtain ⟨slot, there, _⟩ := slot?_seat seat
      rw [Use.given, deliver_of_seat data seat there] at given
      cases given
      refine channel?_eq_some.2
        ⟨{ slot with channel := some channel, inbound := (slot.inbound.push data).2 }, ?_, rfl⟩
      rw [Use.after, deliver_of_seat data seat there, slot?_setSlot there, if_pos rfl]
  | drain => cases given
  | read => cases given
  | write => cases given

/-- The handles of a run are issued just if those at its beginning are, and the others after them. -/
theorem issued_append {front back : List Use} (books : Kept) :
    Issued (front ++ back) books.tunnels ↔
      Issued front books.tunnels ∧ Issued back (front.foldl Kept.record books).tunnels := by
  induction front generalizing books with
  | nil => exact ⟨fun issued => ⟨trivial, issued⟩, fun both => both.2⟩
  | cons use rest ih =>
    have later := ih (books.record use)
    simp only [List.cons_append, Issued, List.foldl_cons, and_assoc]
    exact and_congr_right fun _ => later

/-- A handle that was given out in a run keeps its channel to the end of it. -/
theorem channel?_of_given {count capacity : Nat} {before between : List Use} {earlier : Use}
    (issued : Issued (before ++ earlier :: between) (ofSlots count capacity))
    (given : earlier.given (kept count capacity before).tunnels = some handle) :
    (kept count capacity (before ++ earlier :: between)).tunnels.channel? handle ≠ none := by
  obtain ⟨first, on, later⟩ :=
    (issued_append ⟨fun _ => {}, ofSlots count capacity⟩).1 issued
  have orderly : (kept count capacity before).Orderly count :=
    (Kept.orderly_ofSlots count capacity).foldl first
  obtain ⟨channel, on⟩ := Option.ne_none_iff_exists'.1 on
  have has := (channel?_given given).trans on
  have stays := (orderly.record on).channel?_foldl later has
  have all : (kept count capacity (before ++ earlier :: between)).tunnels.channel? handle =
      some channel := by
    rw [kept, List.foldl_append]
    exact stays
  rw [all]
  exact Option.some_ne_none channel

/-- Whoever only uses handles that an earlier use gave out uses handles with channels. -/
theorem issued_of_given (count capacity : Nat) (uses : List Use)
    (given : ∀ front use back handle, uses = front ++ use :: back → use.handle? = some handle →
      ∃ before earlier between, front = before ++ earlier :: between ∧
        earlier.given (kept count capacity before).tunnels = some handle) :
    Issued uses (ofSlots count capacity) := by
  -- The handles of what is still to come, after a beginning whose handles are issued.
  have rest : ∀ back front, uses = front ++ back → Issued front (ofSlots count capacity) →
      Issued back (kept count capacity front).tunnels := by
    intro back
    induction back with
    | nil => exact fun _ _ _ => trivial
    | cons use back ih =>
      intro front split issued
      have bound : ∀ handle, use.handle? = some handle →
          (kept count capacity front).tunnels.channel? handle ≠ none := by
        intro handle through
        obtain ⟨before, earlier, between, cut, out⟩ := given front use back handle split through
        subst cut
        exact channel?_of_given issued out
      have on : use.channel? (kept count capacity front).tunnels ≠ none := by
        cases use with
        | bind => exact Option.some_ne_none _
        | lookup => exact Option.some_ne_none _
        | deliver => exact Option.some_ne_none _
        | drain handle => exact bound handle rfl
        | read handle => exact bound handle rfl
        | write handle => exact bound handle rfl
      have longer : Issued (front ++ [use]) (ofSlots count capacity) :=
        (issued_append ⟨fun _ => {}, ofSlots count capacity⟩).2 ⟨issued, on, trivial⟩
      have later := ih (front ++ [use]) (by rw [split, List.append_assoc]; rfl) longer
      rw [kept, List.foldl_append] at later
      exact ⟨on, later⟩
  exact rest uses [] rfl trivial

/-- Whatever uses are made of new tunnels, a channel keeps one slot of its own, and its account
balances with its rings. -/
theorem kept_balanced (count capacity : Nat) (uses : List Use)
    (issued : Issued uses (ofSlots count capacity)) :
    (kept count capacity uses).tunnels.slots.length = count ∧
    (kept count capacity uses).tunnels.Single ∧
    (∀ front back handle channel, uses = front ++ back →
      (kept count capacity front).tunnels.channel? handle = some channel →
      (kept count capacity uses).tunnels.channel? handle = some channel ∧
      (kept count capacity uses).tunnels.lookup channel = some handle ∧
      (kept count capacity uses).tunnels.bind channel =
        (some handle, (kept count capacity uses).tunnels)) ∧
    (∀ channel, ((kept count capacity uses).tunnels.bind channel).1 = none ↔
      ∀ slot ∈ (kept count capacity uses).tunnels.slots,
        ∃ other, slot.channel = some other ∧ other ≠ channel) ∧
    (∀ channel, ((kept count capacity uses).accounts channel).Balanced
      ((kept count capacity uses).tunnels.inboundOf channel)
      ((kept count capacity uses).tunnels.outboundOf channel)) ∧
    ∀ (use : Use) channel other, use.channel? (kept count capacity uses).tunnels = some channel →
      channel ≠ other →
      (use.after (kept count capacity uses).tunnels).slotOf other =
        (kept count capacity uses).tunnels.slotOf other := by
  have orderly : (kept count capacity uses).Orderly count :=
    (Kept.orderly_ofSlots count capacity).foldl issued
  refine ⟨orderly.length, orderly.single, ?_, ?_, orderly.balanced, ?_⟩
  · intro front back handle channel split has
    subst split
    obtain ⟨first, later⟩ :=
      (issued_append ⟨fun _ => {}, ofSlots count capacity⟩).1 issued
    have middle : (kept count capacity front).Orderly count :=
      (Kept.orderly_ofSlots count capacity).foldl first
    have stays : (kept count capacity (front ++ back)).tunnels.channel? handle = some channel := by
      rw [kept, List.foldl_append]
      exact middle.channel?_foldl later has
    obtain ⟨slot, there, own⟩ := channel?_eq_some.1 stays
    have found := lookup_of_slot orderly.single there own
    refine ⟨stays, found, ?_⟩
    rw [Tunnels.bind, found]
  · intro channel
    rw [fst_bind]
    exact seat?_eq_none
  · intro use channel other on apart
    cases effect_use orderly.single on with
    | idle same _ => rw [same]
    | changed handle slot settled changes => exact changes.slotOf_other orderly.single apart

/-- Uses of two channels: one has more delivered than a ring of two bytes holds. -/
def twoChannels : List Use :=
  [.bind 7, .deliver 9 [1, 2, 3], .read ⟨1⟩ 1, .write ⟨0⟩ [4, 5], .drain ⟨0⟩ 1]

/-- A delivery is cut to the room there is, what was not read of it waits, and a third channel gets
no slot. -/
theorem kept_balanced_of_two :
    Issued twoChannels (ofSlots 2 2) ∧
    ((kept 2 2 twoChannels).accounts 9).delivered = [1, 2] ∧
    ((kept 2 2 twoChannels).accounts 9).read = [1] ∧
    (kept 2 2 twoChannels).tunnels.inboundOf 9 = [2] ∧
    ((kept 2 2 twoChannels).tunnels.bind 11).1 = none := by
  have issued : Issued twoChannels (ofSlots 2 2) := by
    simp only [Issued, twoChannels]
    decide
  have delivered : ((kept 2 2 twoChannels).accounts 9).delivered = [1, 2] := by decide
  have read : ((kept 2 2 twoChannels).accounts 9).read = [1] := by decide
  obtain ⟨_, _, _, full, balanced, _⟩ := kept_balanced 2 2 twoChannels issued
  have inbound := (balanced 9).delivered
  rw [read, delivered] at inbound
  refine ⟨issued, delivered, read, (List.cons.inj inbound).2, (full 11).2 ?_⟩
  decide

end Multidrop.Tunnels
