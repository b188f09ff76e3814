import Multidrop.Proofs.Frame.Lossless
import Multidrop.Proofs.Master.Draining
import Multidrop.Proofs.Node.Attended

/-!
# Replies and the requests they answer

A master is joined to a station by a line that loses nothing, and the station handles every frame as
soon as it is written. Frames carry nothing that pairs a reply with its request, so what a master
takes for the reply to a request is the reply to it only if no other is on its way when the request
is written. That is so as long as no dropping of late frames runs out of time and every request that
the node answers has asked for a reply (`Orderly`); then every frame that a wait returns is the one
with which the node has answered the request that is awaited (`Runs.paired`).
-/
namespace Multidrop

variable {σ : Type}

/-! ## Lines to a station -/

namespace Line

/-- A line that loses nothing in either direction, with a station at its far end. -/
structure Joined (limit : Nat) (line : Line (Attended σ)) : Prop where
  /-- Only bytes arrive. -/
  lossless : line.Lossless
  /-- All bytes are taken in the end. -/
  accepting : line.Accepting
  /-- The station handles what it receives. -/
  steady : line.peer.Steady limit

/-- What may happen on the line between two calls: bytes on their way may come in other pieces, time
may pass, and the application may work on its node. -/
def Tends (limit : Nat) (before after : Line (Attended σ)) : Prop :=
  after.Joined limit ∧ after.coming = before.coming

/-- Reading leaves a line joined. -/
theorem Joined.yields {limit : Nat} {line after : Line (Attended σ)} {bytes : List UInt8}
    (joined : line.Joined limit) (yields : line.Yields bytes after) : after.Joined limit := by
  have lossless := (yields.coming joined.lossless).1
  have accepting := joined.accepting
  have steady := joined.steady
  rw [yields.kept] at lossless ⊢
  exact ⟨lossless, ⟨accepting.takes, accepting.flushFaults⟩, steady⟩

end Line

namespace Attended

/-- The frames with which a station answers a frame: one, or none. -/
def Answers (attended : Attended σ) (frame : Frame) (replies : List Frame) : Prop :=
  attended.reply frame = none ∧ replies = [] ∨
    ∃ bytes answer, attended.reply frame = some bytes ∧ Frame.parse bytes = .ok answer ∧
      replies = [answer]

/-- Behind bytes that hold certain frames, the reply of a station holds the frames with which it
answers. -/
theorem answers_reply {limit : Nat} {attended : Attended σ} (steady : attended.Steady limit)
    (frame : Frame) :
    ∃ replies, attended.Answers frame replies ∧ ∀ more,
      Frame.frames limit ((attended.reply frame).getD [] ++ more) =
        replies ++ Frame.frames limit more := by
  cases answered : attended.reply frame with
  | none => exact ⟨[], .inl ⟨answered, rfl⟩, fun _ => rfl⟩
  | some bytes =>
    obtain ⟨payload, encoded, within⟩ := Node.encode_of_answered answered
    rw [steady.bufferSize] at within
    refine ⟨[attended.station.node.replyFrame frame payload],
      .inr ⟨bytes, _, answered, Frame.parse_encode encoded, rfl⟩, fun more => ?_⟩
    have whole := Frame.pass_encode encoded within
    have found : (Frame.pass limit bytes).outcome ≠ .incomplete := by
      have alone := whole []
      rw [List.append_nil] at alone
      rw [alone]
      nofun
    have alone := whole []
    rw [List.append_nil] at alone
    show Frame.frames limit (bytes ++ more) = _
    rw [Frame.frames_of_found more found, alone]
    rfl

end Attended

namespace Master

variable {limit : Nat} {master : Master (Attended σ)} {event : Event (Attended σ)}

/-! ## Calls over such a line -/

/-- A master on a line to a station with the same payload limit. -/
structure Attuned (limit : Nat) (master : Master (Attended σ)) : Prop where
  /-- The line. -/
  joined : master.reader.line.Joined limit
  /-- The limit of the reader. -/
  reader : master.reader.limit = limit
  /-- The limit of the master. -/
  options : master.options.bufferSize = limit

/-- A request is written as a whole to a far end that relays it to a station, and the reply of the
station is on its way. -/
theorem transmit_relayed {π : Type} [Peer π] {station : π → Attended σ} {master : Master π}
    {frame : Frame} {bytes : List UInt8} (relays : Attended.Relays station)
    (lossless : master.reader.line.Lossless) (accepting : master.reader.line.Accepting)
    (attentive : (station master.reader.line.peer).Attentive limit)
    (encoded : frame.encode = .ok bytes) (fits : frame.payload.length ≤ limit) :
    ∃ line, master.transmit bytes = (.ok (), { master with reader := { master.reader with line } }) ∧
      line.Lossless ∧ line.Accepting ∧
      station line.peer = (station master.reader.line.peer).served frame ∧
      line.coming =
        master.reader.line.coming ++ ((station master.reader.line.peer).reply frame).getD [] := by
  obtain ⟨after, more, offered, taking, served, idle, arrivals, pieces, added⟩ :=
    @Line.offer_frame _ _ _ _ _ _ frame limit [] bytes relays accepting attentive attentive.hears
      encoded fits (Frame.encode_ne_nil encoded)
  have sound : after.Lossless := by
    refine ⟨?_, by rw [idle]; exact lossless.idle⟩
    rw [arrivals]
    intro arrival there
    rcases List.mem_append.1 there with before | later
    · exact lossless.arrivals arrival before
    · exact pieces arrival later
  have flushed : after.flush = (none, { after with flushes := after.flushes + 1 }) := by
    unfold Line.flush
    rw [taking.flushFaults]
  refine ⟨{ after with flushes := after.flushes + 1 }, ?_, ⟨sound.arrivals, sound.idle⟩,
    ⟨taking.takes, taking.flushFaults⟩, served, ?_⟩
  · unfold transmit
    rw [offered]
    dsimp only
    rw [flushed]
  · show after.arrivals.flatMap Arrival.bytes = _
    rw [arrivals, List.flatMap_append, added]
    rfl

/-- A request is written as a whole, and the station's reply is on its way. -/
theorem transmit_joined {frame : Frame} {bytes : List UInt8}
    (joined : master.reader.line.Joined limit) (encoded : frame.encode = .ok bytes)
    (fits : frame.payload.length ≤ limit) :
    ∃ line, master.transmit bytes = (.ok (), { master with reader := { master.reader with line } }) ∧
      line.Joined limit ∧
      line.coming = master.reader.line.coming ++ (master.reader.line.peer.reply frame).getD [] := by
  obtain ⟨line, done, lossless, accepting, served, coming⟩ :=
    transmit_relayed Attended.relays_id joined.lossless joined.accepting joined.steady.attentive
      encoded fits
  have steady := joined.steady.served frame
  rw [show (master.reader.line.peer).served frame = line.peer from served.symm] at steady
  exact ⟨line, done, ⟨lossless, accepting, steady⟩, coming⟩

/-- Writing a request fails and changes nothing, or puts the frames on their way with which the
station answers it, behind those that are. -/
theorem post_attuned {frame : Frame} (attuned : master.Attuned limit)
    (fits : frame.payload.length ≤ limit) :
    (∃ error, master.post frame = (.error error, master)) ∨
      (master.post frame).1 = .ok () ∧ (master.post frame).2.reader.line.Joined limit ∧
        ∃ replies, master.reader.line.peer.Answers frame replies ∧
          ∀ held, master.reader.Holds held →
            (master.post frame).2.reader.Holds (held ++ replies) := by
  unfold post
  cases encoded : frame.encode with
  | error error => exact .inl ⟨_, rfl⟩
  | ok bytes =>
    obtain ⟨line, transmitted, joined, coming⟩ := transmit_joined attuned.joined encoded fits
    obtain ⟨replies, answers, frames⟩ := Attended.answers_reply attuned.joined.steady frame
    have holds (held : List Frame) (before : master.reader.Holds held) :
        ({ master.reader with line } : Frame.Reader (Attended σ)).Holds (held ++ replies) := by
      intro more
      have whole := before ((master.reader.line.peer.reply frame).getD [] ++ more)
      rw [attuned.reader, frames, ← List.append_assoc, ← List.append_assoc,
        List.append_assoc master.reader.buffer, ← coming] at whole
      rw [← attuned.reader] at whole
      exact whole
    refine .inr ?_
    dsimp only
    rw [transmitted]
    dsimp only
    by_cases asks : frame.responseRequested = true
    · rw [if_pos asks]
      exact ⟨rfl, joined.yields (.look .nothing), replies, answers, holds⟩
    · rw [if_neg asks]
      exact ⟨rfl, joined, replies, answers, holds⟩

/-- Late frames are dropped over such a line until the time is over, or until nothing is on its way
any more. -/
theorem Drains.of_lossless {π : Type} {options : MasterOptions} {since : Nat}
    {reader last : Frame.Reader π} {lull : Lull}
    (drains : Drains options since reader lull last) (lossless : reader.line.Lossless) :
    lull = .expired ∨ lull = .quiet ∧ last.line.arrivals = [] := by
  induction drains with
  | expired => exact .inl rfl
  | @ended reader last reading lull _ next ends =>
    have looked : reader.look.2.line.Lossless := ⟨lossless.arrivals, lossless.idle⟩
    rcases Frame.Reader.heard_of_lossless looked next with ⟨_, heard⟩ | heard | ⟨heard, none⟩ <;>
      rw [heard] at ends <;> cases ends
    exact .inr ⟨rfl, none⟩
  | @dropped reader after last reading lull _ next _ _ ih =>
    obtain ⟨_, reads⟩ := Frame.Reader.reads_of_next next
    exact ih (reads.yields.coming ⟨lossless.arrivals, lossless.idle⟩).1

/-- What is called for after a request has been admitted: late frames are dropped if a request was
given up on, and the request is written. -/
theorem send_attuned (attuned : master.Attuned limit) (free : master.pending = none)
    {destination : UInt8} {payload : List UInt8}
    (admitted : master.options.check destination payload = .ok ()) (responseRequested : Bool) :
    ∃ ready : Master (Attended σ),
      master.send destination payload responseRequested =
        ready.post (master.frameOf destination payload responseRequested) ∧
      ready.Attuned limit ∧ ready.pending = none ∧
      ready.reader.line.peer = master.reader.line.peer ∧
      (master.stale = false ∧ ready = master ∨
        master.stale = true ∧ ∃ lull last, master.Freshens lull last ∧
          (lull = .expired ∨ lull = .quiet ∧ ready.reader.Holds [])) := by
  rw [send_of_admitted free admitted]
  by_cases stale : master.stale = true
  · obtain ⟨lull, last, freshens, done⟩ := master.freshens_freshen
    obtain ⟨_, _, reads⟩ := freshens.reads
    have peer : last.line.peer = master.reader.line.peer := by
      rw [reads.yields.kept]
    have looked : master.reader.look.2.line.Lossless :=
      ⟨attuned.joined.lossless.arrivals, attuned.joined.lossless.idle⟩
    have dropped := Drains.of_lossless freshens looked
    have unbroken : lull.result = .ok () := by
      rcases dropped with rfl | ⟨rfl, _⟩ <;> rfl
    refine ⟨{ master with reader := last.discard, stale := false }, ?_,
      ⟨attuned.joined.yields reads.yields, reads.limit.trans attuned.reader, attuned.options⟩,
      free, peer,
      .inr ⟨stale, lull, last, freshens, ?_⟩⟩
    · rw [if_pos stale, done, unbroken]
    · rcases dropped with expired | ⟨quiet, silent⟩
      · exact .inl expired
      · exact .inr ⟨quiet, Frame.Reader.holds_nil rfl silent⟩
  · rw [if_neg stale]
    exact ⟨master, rfl, attuned, free, rfl, .inl ⟨Bool.eq_false_iff.2 stale, rfl⟩⟩

/-- Waiting over such a line ends with the reply or because the time is over. -/
theorem Awaits.of_attuned {pending : Pending} {error : MasterError}
    {after : Master (Attended σ)} (awaits : Awaits pending master (.error error, after))
    (attuned : master.Attuned limit) : after.stale = true := by
  cases awaits with
  | late => rfl
  | ended reads next ends =>
    have lossless := (attuned.joined.yields reads.yields).lossless
    rcases Frame.Reader.heard_of_lossless lossless next with ⟨_, heard⟩ | heard | ⟨heard, _⟩ <;>
      rw [heard] at ends
    · rw [verdict?_frame] at ends
      split at ends <;> cases ends
    · cases ends
    · cases ends

/-- A payload that is admitted is within the limit. -/
theorem length_le_of_admitted (attuned : master.Attuned limit) {destination : UInt8}
    {payload : List UInt8} (admitted : master.options.check destination payload = .ok ()) :
    payload.length ≤ limit := by
  rw [← attuned.options]
  exact length_le_of_check admitted

/-- A call leaves a master attuned. -/
theorem attuned_perform (deed : Deed) (attuned : master.Attuned limit) :
    (master.perform deed).2.Attuned limit := by
  have same := master.sameLimits_perform deed
  refine ⟨?_, same.2.trans attuned.reader, (congrArg _ same.1).trans attuned.options⟩
  cases deed with
  | send destination payload responseRequested =>
    show (master.send destination payload responseRequested).2.reader.line.Joined limit
    cases free : master.pending with
    | some pending =>
      rw [send_of_pending free]
      exact attuned.joined
    | none =>
      cases check : master.options.check destination payload with
      | error error =>
        rw [send_of_refused free check]
        exact attuned.joined
      | ok _ =>
        obtain ⟨ready, sent, readied, _⟩ := send_attuned attuned free check responseRequested
        have fits : (master.frameOf destination payload responseRequested).payload.length ≤ limit :=
          length_le_of_admitted attuned check
        rw [sent]
        rcases post_attuned readied fits with ⟨error, failed⟩ | ⟨_, joined, _⟩
        · rw [failed]
          exact readied.joined
        · exact joined
  | receive =>
    show master.receive.2.reader.line.Joined limit
    cases busy : master.pending with
    | none =>
      rw [receive_of_free busy]
      exact attuned.joined
    | some pending =>
      rw [receive_of_pending busy]
      obtain ⟨_, _, reads⟩ := (awaits_await pending master).reads
      exact attuned.joined.yields reads.yields
  | cancel =>
    show master.cancel.reader.line.Joined limit
    unfold cancel
    split <;> exact attuned.joined

/-! ## Orderly runs -/

/-- The node answers a request of which the master keeps no record, since it asks for no reply. -/
def Event.Unrecorded (event : Event (Attended σ)) : Prop :=
  ∃ destination payload, event.deed = .send destination payload false ∧
    event.returned = .sent (.ok ()) ∧
    ∃ bytes, event.before.reader.line.peer.reply
      (event.before.frameOf destination payload false) = some bytes

/-- Since the line was last known to be quiet, at the start or after late frames were dropped until
nothing came in time, no dropping has run out of time and no unrecorded request was answered. -/
inductive Orderly : List (Event (Attended σ)) → Prop
  /-- Nothing has been sent. -/
  | start : Orderly []
  /-- A call leaves it so. -/
  | kept {events : List (Event (Attended σ))} {event : Event (Attended σ)}
      (orderly : Orderly events) (unexpired : ¬event.Drains .expired)
      (recorded : ¬event.Unrecorded) : Orderly (events ++ [event])
  /-- A call makes it so. -/
  | drained {events : List (Event (Attended σ))} {event : Event (Attended σ)}
      (quiet : event.Drains .quiet) (recorded : ¬event.Unrecorded) : Orderly (events ++ [event])

variable {events : List (Event (Attended σ))}

/-- One call drops late frames in one way only. -/
theorem Event.Drains.unique {lull other : Lull} (one : event.Drains lull)
    (two : event.Drains other) : lull = other := by
  obtain ⟨_, _, _, _, _, _, _, _, first⟩ := one
  obtain ⟨_, _, _, _, _, _, _, _, second⟩ := two
  exact (Master.Drains.unique first second).1

/-- What the last call of an orderly run has done. -/
theorem Orderly.last (orderly : Orderly (events ++ [event])) :
    ¬event.Unrecorded ∧ ¬event.Drains .expired ∧ (event.Drains .quiet ∨ Orderly events) := by
  generalize whole : events ++ [event] = all at orderly
  cases orderly with
  | start => simp at whole
  | kept orderly unexpired recorded =>
    obtain ⟨rfl, last⟩ := List.append_inj' whole rfl
    cases last
    exact ⟨recorded, unexpired, .inr orderly⟩
  | drained quiet recorded =>
    obtain ⟨rfl, last⟩ := List.append_inj' whole rfl
    cases last
    refine ⟨recorded, fun expired => ?_, .inl quiet⟩
    cases quiet.unique expired

/-- A master that has been told to drop late frames, or to whom no frame is on its way but the reply
that is awaited. -/
def Clear (master : Master (Attended σ)) : Prop :=
  master.stale = true ∨
    ∃ held, master.reader.Holds held ∧ held.length ≤ 1 ∧ (master.pending = none → held = [])

/-- A request that was sent had been admitted by a master that awaited no reply. -/
theorem admitted_of_sent {destination : UInt8} {payload : List UInt8} {responseRequested : Bool}
    (asked : event.deed = .send destination payload responseRequested)
    (returned : event.returned = .sent (.ok ())) :
    event.before.pending = none ∧ event.before.options.check destination payload = .ok () := by
  have sent : (event.before.send destination payload responseRequested).1 = .ok () :=
    Returned.sent.inj ((Event.returned_of_send asked).symm.trans returned)
  cases free : event.before.pending with
  | some pending =>
    rw [send_of_pending free] at sent
    cases sent
  | none =>
    cases check : event.before.options.check destination payload with
    | error error =>
      rw [send_of_refused free check] at sent
      cases sent
    | ok _ => exact ⟨rfl, rfl⟩

/-- A request that is admitted in an orderly run fails, or the frames on their way are those with
which the station answers it. -/
theorem Event.answered {destination : UInt8} {payload : List UInt8} {responseRequested : Bool}
    (asked : event.deed = .send destination payload responseRequested)
    (attuned : event.before.Attuned limit) (free : event.before.pending = none)
    (admitted : event.before.options.check destination payload = .ok ())
    (unexpired : ¬event.Drains .expired) (clear : event.Drains .quiet ∨ Clear event.before) :
    (∃ error, event.returned = .sent (.error error)) ∧ event.after.reader.Holds [] ∨
      event.returned = .sent (.ok ()) ∧ ∃ replies,
        event.before.reader.line.peer.Answers
          (event.before.frameOf destination payload responseRequested) replies ∧
        event.after.reader.Holds replies := by
  obtain ⟨ready, sent, readied, _, peer, fresh⟩ :=
    send_attuned attuned free admitted responseRequested
  have holds : ready.reader.Holds [] := by
    rcases fresh with ⟨calm, rfl⟩ | ⟨stale, lull, last, freshens, rfl | ⟨_, holds⟩⟩
    · rcases clear with ⟨_, _, _, _, _, _, _, stale, _⟩ | stale | ⟨held, holds, _, none⟩
      · rw [calm] at stale
        cases stale
      · rw [calm] at stale
        cases stale
      · rw [none free] at holds
        exact holds
    · exact absurd ⟨_, _, _, _, asked, free, admitted, stale, freshens⟩ unexpired
    · exact holds
  have fits : (event.before.frameOf destination payload responseRequested).payload.length ≤ limit :=
    length_le_of_admitted attuned admitted
  rw [Event.returned_of_send asked, Event.after_of_send asked, sent]
  rcases post_attuned readied fits with ⟨error, failed⟩ | ⟨done, _, replies, answers, held⟩
  · rw [failed]
    exact .inl ⟨⟨error, rfl⟩, holds⟩
  · rw [peer] at answers
    exact .inr ⟨congrArg _ done, replies, answers, held [] holds⟩

/-- A station answers a frame with one frame at most. -/
theorem length_le_of_answers {attended : Attended σ} {frame : Frame} {replies : List Frame}
    (answers : attended.Answers frame replies) : replies.length ≤ 1 := by
  rcases answers with ⟨_, rfl⟩ | ⟨_, _, _, _, rfl⟩
  · exact Nat.zero_le _
  · exact Nat.le_refl _

/-- Sending in an orderly run keeps a master clear. -/
theorem Event.clear_send {destination : UInt8} {payload : List UInt8} {responseRequested : Bool}
    (asked : event.deed = .send destination payload responseRequested)
    (attuned : event.before.Attuned limit) (recorded : ¬event.Unrecorded)
    (unexpired : ¬event.Drains .expired) (clear : event.Drains .quiet ∨ Clear event.before) :
    Clear event.after := by
  cases free : event.before.pending with
  | some pending =>
    rw [Event.after_of_send asked, send_of_pending free]
    refine clear.resolve_left fun ⟨_, _, _, _, _, idle, _⟩ => ?_
    cases free.symm.trans idle
  | none =>
    cases check : event.before.options.check destination payload with
    | error error =>
      rw [Event.after_of_send asked, send_of_refused free check]
      refine clear.resolve_left fun ⟨_, _, _, _, other, _, admitted, _⟩ => ?_
      cases asked.symm.trans other
      cases check.symm.trans admitted
    | ok _ =>
      rcases Event.answered asked attuned free check unexpired clear with
        ⟨_, holds⟩ | ⟨returned, replies, answers, holds⟩
      · exact .inr ⟨[], holds, Nat.zero_le _, fun _ => rfl⟩
      · refine .inr ⟨replies, holds, length_le_of_answers answers, fun idle => ?_⟩
        cases responseRequested with
        | true =>
          have asks : event.Asks destination := ⟨payload, asked, returned⟩
          have pending := asks.pending
          rw [idle] at pending
          cases pending
        | false =>
          rcases answers with ⟨_, same⟩ | ⟨bytes, _, answered, _⟩
          · exact same
          · exact absurd ⟨destination, payload, asked, returned, bytes, answered⟩ recorded

/-- Waiting keeps a master clear: it takes the one frame on its way, or the reply is late. -/
theorem clear_receive (attuned : master.Attuned limit) (clear : Clear master) :
    Clear master.receive.2 := by
  cases busy : master.pending with
  | none =>
    rw [receive_of_free busy]
    exact clear
  | some pending =>
    have awaits := awaits_await pending master
    rw [receive_of_pending busy]
    generalize master.await pending = result at awaits
    obtain ⟨returned, last⟩ := result
    cases returned with
    | error error => exact .inl (awaits.of_attuned attuned)
    | ok frame =>
      cases awaits with
      | @reply reader bytes skipped _ reads _ _ =>
        rcases clear with stale | ⟨held, holds, one, _⟩
        · exact .inl stale
        · obtain ⟨_, rest, split, left⟩ := reads.holds attuned.joined.lossless holds
          rw [split] at one
          simp only [List.length_append, List.length_singleton] at one
          exact .inr ⟨rest, left, by omega, fun _ => List.length_eq_zero_iff.1 (by omega)⟩

/-- Giving up keeps a master clear. -/
theorem clear_cancel (clear : Clear master) : Clear master.cancel := by
  cases busy : master.pending with
  | none =>
    rw [cancel_of_free busy]
    exact clear
  | some pending =>
    rw [cancel_of_pending (busy ▸ rfl)]
    exact .inl rfl

/-- A call in an orderly run keeps a master clear. -/
theorem Event.clear (attuned : event.before.Attuned limit) (recorded : ¬event.Unrecorded)
    (unexpired : ¬event.Drains .expired) (clear : event.Drains .quiet ∨ Clear event.before) :
    Clear event.after := by
  cases asked : event.deed with
  | send destination payload responseRequested =>
    exact Event.clear_send asked attuned recorded unexpired clear
  | receive =>
    rw [Event.after_of_receive asked]
    refine clear_receive attuned (clear.resolve_left fun ⟨_, _, _, _, other, _⟩ => ?_)
    cases asked.symm.trans other
  | cancel =>
    rw [Event.after_of_cancel asked]
    refine clear_cancel (clear.resolve_left fun ⟨_, _, _, _, other, _⟩ => ?_)
    cases asked.symm.trans other

variable {start : Master (Attended σ)}

/-- A run leaves a master attuned. -/
theorem Runs.attuned (runs : Runs (Line.Tends limit) start events master)
    (first : start.Attuned limit) : master.Attuned limit := by
  induction runs with
  | start => exact first
  | call _ deed ih => exact attuned_perform deed ih
  | meanwhile _ change ih => exact ⟨change.1, ih.reader, ih.options⟩

/-- Other pieces hold the same frames. -/
theorem holds_of_tends {line : Line (Attended σ)} {held : List Frame}
    (change : Line.Tends limit master.reader.line line) (holds : master.reader.Holds held) :
    ({ master.reader with line } : Frame.Reader (Attended σ)).Holds held := by
  intro more
  rw [show ({ master.reader with line } : Frame.Reader (Attended σ)).line.coming = _ from change.2]
  exact holds more

/-- An orderly run keeps a master clear. -/
theorem Runs.clear (runs : Runs (Line.Tends limit) start events master)
    (first : start.Attuned limit) (clear : Clear start) (orderly : Orderly events) :
    Clear master := by
  induction runs with
  | start => exact clear
  | call runs deed ih =>
    obtain ⟨recorded, unexpired, before⟩ := orderly.last
    exact Event.clear (runs.attuned first) recorded unexpired (before.imp_right ih)
  | meanwhile _ change ih =>
    rcases ih orderly with stale | ⟨held, holds, one, none⟩
    · exact .inl stale
    · exact .inr ⟨held, holds_of_tends change holds, one, none⟩

/-- While a reply is awaited, the same frames are on their way. -/
theorem Runs.holds {held : List Frame} {pending : Pending}
    (runs : Runs (Line.Tends limit) start events master) (busy : start.pending = some pending)
    (holds : start.reader.Holds held) (waiting : ∀ event ∈ events, ¬event.Settles) :
    master.pending = some pending ∧ master.reader.Holds held := by
  induction runs with
  | start => exact ⟨busy, holds⟩
  | @call events master _ deed ih =>
    obtain ⟨still, before⟩ := ih fun event there => waiting event (List.mem_append_left _ there)
    cases deed with
    | send destination payload responseRequested =>
      show (master.send destination payload responseRequested).2.pending = some pending ∧
        (master.send destination payload responseRequested).2.reader.Holds held
      rw [send_of_pending still]
      exact ⟨still, before⟩
    | receive => exact absurd (.inl rfl) (waiting _ List.mem_concat_self)
    | cancel => exact absurd (.inr rfl) (waiting _ List.mem_concat_self)
  | meanwhile _ change ih =>
    obtain ⟨still, before⟩ := ih waiting
    exact ⟨still, holds_of_tends change before⟩

/-- A frame that a wait returns is the reply to the request that is awaited: the last one that asked
for a reply, if the run up to it is orderly. -/
theorem Runs.paired {line : Line (Attended σ)} {options : MasterOptions} {retry : Retry}
    (joined : line.Joined options.bufferSize) (silent : line.arrivals = [])
    (runs : Runs (Line.Tends options.bufferSize) (ofLine line options retry) events master)
    {frame : Frame} {after : Master (Attended σ)} (received : master.receive = (.ok frame, after)) :
    ∃ earlier asked between destination payload, events = earlier ++ asked :: between ∧
      asked.deed = .send destination payload true ∧ asked.returned = .sent (.ok ()) ∧
      (∀ event ∈ between, ¬event.Settles ∧ ∀ other, ¬event.Asks other) ∧
      (Orderly (earlier ++ [asked]) → ∃ bytes,
        asked.before.reader.line.peer.reply (asked.before.frameOf destination payload true) =
            some bytes ∧
          Frame.parse bytes = .ok frame) := by
  have first : (ofLine line options retry).Attuned options.bufferSize := ⟨joined, rfl, rfl⟩
  have begin : Clear (ofLine line options retry) :=
    .inr ⟨[], Frame.Reader.holds_nil rfl silent, Nat.zero_le _, fun _ => rfl⟩
  cases busy : master.pending with
  | none =>
    rw [receive_of_free busy] at received
    cases received
  | some pending =>
    rw [receive_of_pending busy] at received
    have awaited := (runs.pending_eq_some_iff rfl pending.destination).1 (by rw [busy]; rfl)
    obtain ⟨earlier, asked, between, rfl, asks, quiet⟩ := awaited
    obtain ⟨payload, deed, returned⟩ := asks
    refine ⟨earlier, asked, between, pending.destination, payload, rfl, deed, returned, quiet,
      fun orderly => ?_⟩
    obtain ⟨before, later⟩ := runs.split
    have attuned := before.attuned first
    obtain ⟨recorded, unexpired, last⟩ := orderly.last
    have clear := last.imp_right (before.clear first begin)
    -- The request was sent, so it was admitted by a master that awaited nothing.
    obtain ⟨free, admitted⟩ := admitted_of_sent deed returned
    obtain ⟨⟨_, failed⟩, _⟩ | ⟨_, replies, answers, holds⟩ :=
      Event.answered deed attuned free admitted unexpired clear
    · cases returned.symm.trans failed
    · have asks : asked.Asks pending.destination := ⟨payload, deed, returned⟩
      obtain ⟨awaited, pends, _⟩ := Option.map_eq_some_iff.1 asks.pending
      obtain ⟨_, held⟩ := later.holds pends holds fun event there => (quiet event there).1
      have awaits := awaits_await pending master
      rw [received] at awaits
      cases awaits with
      | @reply reader bytes skipped _ reads _ _ =>
        have lossless := (runs.attuned first).joined.lossless
        obtain ⟨_, rest, split, _⟩ := reads.holds lossless held
        rcases answers with ⟨_, rfl⟩ | ⟨bytes, answer, replied, parsed, rfl⟩
        · simp at split
        · refine ⟨bytes, replied, ?_⟩
          rcases skipped with _ | ⟨other, others⟩
          · cases split
            exact parsed
          · simp at split

/-- A read of one register: the wait returns what the node has answered. -/
theorem Runs.paired_of_read :
    let service : RegisterService Unit :=
      { read := fun state _ _ => (.ok (.int8 5), state), write := fun state _ _ => (.ok (), state) }
    let attended : Attended Unit :=
      { service, station := { node := .ofConfig {} ⟨3⟩, registers := () } }
    let line : Line (Attended Unit) := { peer := attended, idle := .silent 1 (by decide) }
    let asked : Event (Attended Unit) := ⟨ofLine line {} .never, .send 3 [0x18, 1] true⟩
    Orderly [asked] ∧ asked.after.receive.1.toOption = some ⟨3, false, 0, [0x20, 1, 5]⟩ ∧
      ∃ bytes, attended.reply ⟨0, true, 3, [0x18, 1]⟩ = some bytes ∧
        Frame.parse bytes = .ok ⟨3, false, 0, [0x20, 1, 5]⟩ := by
  intro service attended line asked
  have joined : line.Joined 256 :=
    ⟨⟨nofun, 1, by decide, rfl⟩, ⟨nofun, rfl⟩, fun _ => rfl, rfl, rfl, rfl⟩
  have runs : Runs (Line.Tends ({} : MasterOptions).bufferSize) (ofLine line {} .never) [asked]
      asked.after :=
    .call .start (.send 3 [0x18, 1] true)
  have orderly : Orderly [asked] := by
    refine @Orderly.kept _ [] asked .start ?_ ?_
    · rintro ⟨_, _, _, _, _, _, _, stale, _⟩
      cases stale
    · rintro ⟨_, _, same, _⟩
      cases same
  have received : asked.after.receive.1.toOption = some ⟨3, false, 0, [0x20, 1, 5]⟩ := by
    decide +kernel
  refine ⟨orderly, received, ?_⟩
  cases result : asked.after.receive with
  | mk returned after =>
    rw [result] at received
    cases returned with
    | error error => cases received
    | ok frame =>
      cases received
      obtain ⟨earlier, first, between, _, _, whole, sent, _, _, answered⟩ :=
        Runs.paired joined rfl runs result
      rcases @snoc_eq_append_cons _ [] _ _ _ _ whole with ⟨_, rfl, rfl⟩ | ⟨_, _, impossible⟩
      · cases sent
        exact answered orderly
      · simp at impossible

/-- Where the time to drop late frames is over at once, and where a node answers a read that asks
for no reply, the reply to the read of register one is taken for the reply to that of register
two. -/
theorem earlier_reply_taken :
    let service : RegisterService Unit :=
      { read := fun state _ _ => (.ok (.int8 5), state), write := fun state _ _ => (.ok (), state) }
    let attended : Attended Unit :=
      { service, station := { node := .ofConfig {} ⟨3⟩, registers := () } }
    let line : Line (Attended Unit) := { peer := attended, idle := .silent 1 (by decide) }
    let asked : Event (Attended Unit) :=
      ⟨ofLine line { timeout := 0 } .never, .send 3 [0x18, 1] true⟩
    let cancelled : Event (Attended Unit) := ⟨asked.after, .cancel⟩
    let hurried : Event (Attended Unit) := ⟨cancelled.after, .send 3 [0x18, 2] true⟩
    let unasked : Event (Attended Unit) := ⟨ofLine line {} .never, .send 3 [0x18, 1] false⟩
    let unaware : Event (Attended Unit) := ⟨unasked.after, .send 3 [0x18, 2] true⟩
    line.Joined 256 ∧
      hurried.after.receive.1.toOption = some ⟨3, false, 0, [0x20, 1, 5]⟩ ∧
      unaware.after.receive.1.toOption = some ⟨3, false, 0, [0x20, 1, 5]⟩ ∧
      (∀ event ∈ [hurried, unaware],
        event.before.reader.line.peer.reply ⟨0, true, 3, [0x18, 2]⟩ =
          some [84, 171, 3, 0, 3, 0x20, 2, 5, 204, 190]) ∧
      (Frame.parse [84, 171, 3, 0, 3, 0x20, 2, 5, 204, 190]).toOption =
        some ⟨3, false, 0, [0x20, 2, 5]⟩ := by
  intro service attended line asked cancelled hurried unasked unaware
  refine ⟨⟨⟨nofun, 1, by decide, rfl⟩, ⟨nofun, rfl⟩, fun _ => rfl, rfl, rfl, rfl⟩,
    by decide +kernel, by decide +kernel, ?_, by decide +kernel⟩
  intro event there
  rcases List.mem_cons.1 there with rfl | there
  · decide +kernel
  · rw [List.mem_singleton.1 there]
    decide +kernel

end Master

end Multidrop
