import Multidrop.Master.Streaming
import Multidrop.Proofs.Frame.Hearing
import Multidrop.Proofs.Frame.RoundTrip
import Multidrop.Proofs.Master.Calls

/-!
# Both masters take the same reply

A master on a line reads frames off a buffer, and a master on a duplex stream takes items from a
queue. Where nothing is left over from an earlier request, what a request comes to depends only on
the frames of the bytes that arrive (`MasterOptions.outcome`): either master returns the first one
that is a reply, however the bytes are cut, and neither finds another (`requests_agree`).
-/
namespace Multidrop

open Multidrop.Frame (Reader frameSink)

namespace MasterOptions

/-- What a request to a node comes to if these are the frames that arrive before the line ends. -/
def outcome (options : MasterOptions) (destination : UInt8) (frames : List Frame) :
    Except MasterError Frame :=
  match frames.find? (options.isReply destination) with
  | some frame => .ok frame
  | none => .error (.disconnected "end of stream")

/-- The frame that asks a node for something. -/
def asking (options : MasterOptions) (destination : UInt8) (payload : List UInt8) : Frame :=
  { source := options.source, responseRequested := true, destination, payload }

variable {options : MasterOptions} {destination : UInt8} {skipped : List Frame}

/-- Frames that are no reply make no difference. -/
theorem outcome_append (others : ∀ frame ∈ skipped, options.isReply destination frame = false)
    (frames : List Frame) :
    options.outcome destination (skipped ++ frames) = options.outcome destination frames := by
  have none : skipped.find? (options.isReply destination) = none := by
    rw [List.find?_eq_none]
    intro frame there reply
    rw [others frame there] at reply
    cases reply
  rw [outcome, outcome, List.find?_append, none, Option.none_or]

/-- A reply ends the wait. -/
theorem outcome_cons {frame : Frame} (reply : options.isReply destination frame = true)
    (frames : List Frame) : options.outcome destination (frame :: frames) = .ok frame := by
  rw [outcome, List.find?_cons_of_pos reply]

end MasterOptions

/-! ## Lines that take a request and answer -/

/-- A line that takes some bytes and then delivers others. Its writes may take the bytes in pieces
and may fail with a fault after which they are made again. -/
structure Line.Exchanges {π : Type} [Peer π] (retry allowed : Fault.Kind → Bool) (line : Line π)
    (sent bytes : List UInt8) : Prop where
  /-- Every write gets on. -/
  takes : ∀ take ∈ line.takes, take.isGentle retry
  /-- Every flush succeeds. -/
  flushFaults : line.flushFaults = []
  /-- What arrives once the bytes are sent, and before the line ends, are the others. -/
  delivers : Arrival.Delivers allowed (line.offer retry sent).2.2.arrivals bytes

/-- A line that exchanges bytes takes all that it is offered and flushes at once. -/
theorem Line.Exchanges.sent {π : Type} [Peer π] {retry allowed : Fault.Kind → Bool} {line : Line π}
    {sent bytes : List UInt8} (exchanges : line.Exchanges retry allowed sent bytes) :
    ∃ taken after, line.offer retry sent = (.complete, [], taken) ∧
      taken.flush = (none, after) ∧ after.written = line.written ++ sent ∧
      after.clock = line.clock ∧ Arrival.Delivers allowed after.arrivals bytes := by
  have delivers := exchanges.delivers
  have complete := Line.complete_offer sent exchanges.takes
  obtain ⟨clock, flushFaults⟩ := Line.kept_offer retry sent line
  obtain ⟨front, split, written, all⟩ := Line.written_offer retry sent line
  generalize line.offer retry sent = offered at *
  obtain ⟨offered, left, taken⟩ := offered
  dsimp only at *
  cases complete
  cases all rfl
  rw [List.append_nil] at split
  cases split
  refine ⟨taken, { taken with flushes := taken.flushes + 1 }, rfl, ?_, written, clock, delivers⟩
  unfold Line.flush
  dsimp only
  rw [flushFaults, exchanges.flushFaults]

/-! ## Duplex streams -/

/-- A new stream writes a frame at once. -/
theorem Frame.Duplex.send_ofLine {ρ : Type} [Peer ρ] {line : Line ρ} {limit : Nat} {frame : Frame}
    (fits : frame.payload.length ≤ limit) :
    (ofLine limit line).send frame =
      match frame.encode with
      | .error error => (.error error, ofLine limit line)
      | .ok sent => { ofLine limit line with unsent := sent }.flush := by
  have room : (ofLine limit line).makeRoom = (.ok (), ofLine limit line) := by
    rw [makeRoom, if_neg]
    exact Nat.not_le_of_lt (by decide : 0 < Line.chunkSize)
  have within : frame.encodeWithin (ofLine limit line).items.limit = frame.encode := by
    rw [encodeWithin, if_neg]
    exact Nat.not_lt_of_le fits
  rw [send, room]
  dsimp only
  rw [within]
  rfl

namespace Frame.Items

/-- The frames that items and some bytes to come hold. -/
def frames (items : Items) (more : List UInt8) : List Frame :=
  frameSink.conclude (items.outlook frameSink [] more)

/-- Frames that are to come stand behind those that are there. -/
theorem conclude_outlook (items : Items) (kept : List Frame) (more : List UInt8) :
    frameSink.conclude (items.outlook frameSink kept more) = kept ++ items.frames more := by
  have taken (item : Item) : frameSink.take kept item = kept ++ frameSink.take [] item := by
    cases item with
    | frame | rejected => rfl
    | discarded => exact (List.append_nil kept).symm
  show (scan _ _ _ _).1 = kept ++ (scan _ _ _ _).1
  rw [scan_frameSink, scan_frameSink]
  cases items.queued with
  | none => rfl
  | some item => rw [Option.elim_some, Option.elim_some, taken, List.append_assoc]

end Frame.Items

namespace StreamingMaster

variable {master : StreamingMaster Script} {destination : UInt8} {bytes : List UInt8}

/-- An item that is no reply leaves what a wait comes to as it is. -/
theorem outcome_of_item (flows : master.duplex.Flows bytes) {item : Frame.Item}
    {after : Frame.Duplex Script} (next : master.duplex.next = (.item item, after))
    (others : ∀ frame ∈ frameSink.take [] item,
      master.options.isReply destination frame = false) :
    ∃ later, after.Flows later ∧ after.line.written = master.duplex.line.written ∧
      master.options.outcome destination (after.items.frames later) =
        master.options.outcome destination (master.duplex.items.frames bytes) := by
  have proceeds := Frame.Duplex.proceeds_next frameSink [] flows
  rw [next] at proceeds
  cases proceeds with
  | @item _ _ later going written _ same =>
    rw [Frame.Items.conclude_outlook] at same
    refine ⟨later, going, written, ?_⟩
    rw [Frame.Items.frames.eq_def master.duplex.items, ← same,
      MasterOptions.outcome_append others]

/-- A wait on a stream in working order comes to what the frames of its bytes make of it. -/
theorem await_of_flows (flows : master.duplex.Flows bytes) :
    (master.await destination).1 =
        master.options.outcome destination (master.duplex.items.frames bytes) ∧
      (master.await destination).2.duplex.line.written = master.duplex.line.written := by
  have proceeds := Frame.Duplex.proceeds_next frameSink [] flows
  fun_induction await destination master generalizing bytes with
  | case1 master duplex next | case3 master kind duplex next =>
    rw [next] at proceeds
    cases proceeds
  | case2 master duplex next =>
    rw [next] at proceeds
    cases proceeds with
    | ended written complete =>
      refine ⟨?_, written⟩
      rw [Frame.Items.frames, complete]
      rfl
  | case4 master duplex frame next reply =>
    rw [next] at proceeds
    cases proceeds with
    | @item _ _ later _ written _ same =>
      rw [Frame.Items.conclude_outlook] at same
      refine ⟨?_, written⟩
      rw [Frame.Items.frames, ← same]
      exact (MasterOptions.outcome_cons reply _).symm
  | case5 master duplex frame next other again less =>
    rename_i ih
    have others : ∀ skipped ∈ [frame], master.options.isReply destination skipped = false := by
      intro skipped there
      rw [List.mem_singleton.1 there]
      exact Bool.eq_false_iff.2 other
    obtain ⟨later, going, written, same⟩ := outcome_of_item flows next others
    obtain ⟨result, sent⟩ := ih going (Frame.Duplex.proceeds_next frameSink [] going)
    exact ⟨result.trans same, sent.trans written⟩
  | case6 master duplex error next again less | case7 master duplex gap next again less =>
    rename_i ih
    obtain ⟨later, going, written, same⟩ :=
      @outcome_of_item _ destination _ flows _ _ next fun _ there => absurd there List.not_mem_nil
    obtain ⟨result, sent⟩ := ih going (Frame.Duplex.proceeds_next frameSink [] going)
    exact ⟨result.trans same, sent.trans written⟩

/-- A master with its line muted. -/
def mute {π : Type} (master : StreamingMaster π) : StreamingMaster Script :=
  { master with duplex := master.duplex.mute }

/-- What a wait comes to is decided by what its stream yields next. -/
theorem await_eq {π : Type} (destination : UInt8) (master : StreamingMaster π) :
    master.await destination =
      match master.duplex.next with
      | (.pending, duplex) =>
        (.error (.timeout master.options.timeout), { master with duplex, stale := true })
      | (.ended, duplex) => (.error (.disconnected "end of stream"), { master with duplex })
      | (.failed kind, duplex) => (.error (.frame (.line ⟨kind, none⟩)), { master with duplex })
      | (.item (.frame frame), duplex) =>
        if master.options.isReply destination frame then (.ok frame, { master with duplex })
        else { master with duplex }.await destination
      | (.item (.rejected _), duplex) | (.item (.discarded _), duplex) =>
        { master with duplex }.await destination := by
  rw [await]
  split
  case h_4 item duplex next => cases item <;> (dsimp only; rw [next])
  all_goals
    rename_i next
    rw [next]

/-- A wait over a muted line comes to the same. -/
theorem await_mute {π : Type} (destination : UInt8) (master : StreamingMaster π) :
    master.mute.await destination = (master.await destination).map id mute := by
  fun_induction await destination master with
  | case1 master duplex next | case2 master duplex next | case3 master kind duplex next =>
    rw [await_eq, show master.mute.duplex.next = _ from Frame.Duplex.next_mute next]
    rfl
  | case4 master duplex frame next reply =>
    rw [await_eq, show master.mute.duplex.next = _ from Frame.Duplex.next_mute next]
    exact if_pos reply
  | case5 master duplex frame next other again less ih =>
    rw [await_eq, show master.mute.duplex.next = _ from Frame.Duplex.next_mute next]
    exact (if_neg other).trans ih
  | case6 master duplex error next again less ih | case7 master duplex gap next again less ih =>
    rw [await_eq, show master.mute.duplex.next = _ from Frame.Duplex.next_mute next]
    exact ih

variable {ρ : Type} [Peer ρ] {line : Line ρ} {options : MasterOptions} {payload : List UInt8}

/-- A request on a new stream is written at once, if it is admitted, and waited for. -/
theorem request_ofLine (admitted : options.check destination payload = .ok ()) :
    (ofLine line options).request destination payload =
      match (ofLine line options).post (options.asking destination payload) with
      | (.error error, master) => (.error error, master)
      | (.ok (), master) => master.await destination := by
  rw [request, show (ofLine line options).options.check destination payload = _ from admitted]
  rfl

/-- A request that cannot be framed is not written. -/
theorem request_of_unframed {error : Frame.Error}
    (admitted : options.check destination payload = .ok ())
    (unframed : (options.asking destination payload).encode = .error error) :
    (ofLine line options).request destination payload =
      (.error (.frame error), ofLine line options) := by
  have fits : (options.asking destination payload).payload.length ≤ options.bufferSize :=
    Master.length_le_of_check admitted
  have unsent : (ofLine line options).post (options.asking destination payload) =
      (.error (.frame error), ofLine line options) := by
    rw [post, show (ofLine line options).duplex = .ofLine options.bufferSize line from rfl,
      Frame.Duplex.send_ofLine fits, unframed]
    rfl
  rw [request_ofLine admitted, unsent]

/-- A request over a line that takes it is written and comes to what the frames of the answer make
of it. -/
theorem request_of_exchanges {sent : List UInt8}
    (admitted : options.check destination payload = .ok ())
    (encoded : (options.asking destination payload).encode = .ok sent)
    (exchanges : line.Exchanges (fun _ => false) (fun _ => false) sent bytes) :
    ((ofLine line options).request destination payload).1 =
        options.outcome destination (Frame.frames options.bufferSize bytes) ∧
      ((ofLine line options).request destination payload).2.duplex.line.written =
        line.written ++ sent := by
  obtain ⟨taken, after, offered, flushed, written, _, delivers⟩ := exchanges.sent
  have fits : (options.asking destination payload).payload.length ≤ options.bufferSize :=
    Master.length_le_of_check admitted
  have posted : (ofLine line options).post (options.asking destination payload) =
      (.ok (), ofLine after options) := by
    rw [post, show (ofLine line options).duplex = .ofLine options.bufferSize line from rfl,
      Frame.Duplex.send_ofLine fits, encoded]
    simp only [Frame.Duplex.flush, Frame.Duplex.ofLine, offered, flushed]
    rfl
  have flows : (ofLine after options).mute.duplex.Flows bytes :=
    ⟨Line.carries_mute delivers, rfl, rfl, fun ended => absurd ended Bool.false_ne_true⟩
  have waited := @await_of_flows _ destination bytes flows
  rw [await_mute] at waited
  rw [request_ofLine admitted, posted]
  exact ⟨waited.1, waited.2.trans written⟩

end StreamingMaster

/-! ## Lines -/

namespace Master

variable {π : Type} {master : Master π} {pending : Pending} {destination : UInt8}
  {bytes : List UInt8}

/-- A wait over a line that delivers bytes comes to what their frames make of it, if it ends before
its time is over. -/
theorem await_of_delivers
    (delivers : Arrival.Delivers Fault.Kind.isGentle master.reader.line.arrivals bytes)
    (since : pending.sentAt ≤ master.reader.line.clock.now)
    (early : (master.await pending).2.reader.line.clock.now <
      pending.sentAt + master.options.timeout) :
    (master.await pending).1 = master.options.outcome pending.destination
        (Frame.frames master.reader.limit (master.reader.buffer ++ bytes)) ∧
      (master.await pending).2.reader.line.written = master.reader.line.written := by
  have hears := Reader.hears_next delivers
  fun_induction await pending master generalizing bytes with
  | case1 master reading after next result ends =>
    rw [next] at hears
    cases hears with
    | going delivers written limit heard frames =>
      rcases heard with ⟨frame, heard⟩ | heard | heard <;> rw [heard] at ends
      · rw [verdict?_frame] at ends
        split at ends
        · rename_i reply
          cases ends
          rw [heard] at frames
          refine ⟨?_, written⟩
          rw [frames]
          exact (MasterOptions.outcome_cons reply _).symm
        · cases ends
      · cases ends
      · cases ends
    | closed written heard frames =>
      rw [heard] at ends
      cases ends
      refine ⟨?_, written⟩
      rw [frames]
      rfl
  | case2 master reading after next going waiting soon less =>
    rename_i ih
    have progress := (Reader.next_progress master.reader).now_le
    rw [next] at progress hears
    cases hears with
    | @going _ _ later delivers written limit heard frames =>
      have passed : pending.sentAt ≤ after.look.2.line.clock.now :=
        Nat.le_trans since (Nat.le_trans progress (Reader.now_le_look after))
      have looked : Arrival.Delivers Fault.Kind.isGentle after.look.2.line.arrivals later :=
        delivers
      obtain ⟨result, sent⟩ := ih looked passed early (Reader.hears_next looked)
      refine ⟨result.trans ?_, sent.trans written⟩
      rw [frames, MasterOptions.outcome_append (isReply_of_going going), ← limit]
      rfl
    | closed written heard frames =>
      rw [heard] at going
      cases going
  | case3 master reading after next going waiting =>
    rename_i late
    have progress := (Reader.next_progress master.reader).now_le
    rw [next] at progress
    have shown := Reader.look_fst after
    have passed := Reader.now_le_look after
    have soon : after.look.2.line.clock.now < pending.sentAt + master.options.timeout := early
    dsimp only at progress
    omega

/-- A master that has nothing left over from earlier requests and never repeats one. -/
structure Clean (master : Master π) : Prop where
  /-- No reply is awaited. -/
  free : master.pending = none
  /-- No request was given up on. -/
  calm : master.stale = false
  /-- Nothing is buffered. -/
  empty : master.reader.buffer = []
  /-- What it accepts is what it sends. -/
  limit : master.reader.limit = master.options.bufferSize
  /-- It never repeats a request. -/
  once : master.retry = .never

variable [Peer π] {payload : List UInt8}

/-- A request that is never repeated is attempted once. -/
theorem Clean.request (clean : master.Clean) (destination : UInt8) (payload : List UInt8) :
    master.request destination payload = master.attempt destination payload := by
  rw [Master.request, clean.once, requestFrom]
  generalize master.attempt destination payload = result
  obtain ⟨result, after⟩ := result
  cases result with
  | ok frame => rfl
  | error error => exact dif_neg Bool.false_ne_true

/-- A request that is admitted is written at once. -/
theorem Clean.send (clean : master.Clean)
    (admitted : master.options.check destination payload = .ok ()) :
    master.send destination payload true =
      master.post (master.options.asking destination payload) := by
  rw [send_of_admitted clean.free admitted, if_neg]
  · rfl
  · rw [clean.calm]
    exact Bool.false_ne_true

/-- A request that cannot be framed is not written. -/
theorem request_of_unframed {error : Frame.Error} (clean : master.Clean)
    (admitted : master.options.check destination payload = .ok ())
    (unframed : (master.options.asking destination payload).encode = .error error) :
    master.request destination payload = (.error (.frame error), master) := by
  have unsent : master.post (master.options.asking destination payload) =
      (.error (.frame error), master) := by
    rw [post, unframed]
  rw [clean.request, attempt, clean.send admitted, unsent]

/-- A request is written to a line that takes it and is awaited from then on. -/
theorem post_of_exchanges {sent : List UInt8}
    (encoded : (master.options.asking destination payload).encode = .ok sent)
    (exchanges : master.reader.line.Exchanges (· = .interrupted) Fault.Kind.isGentle sent bytes) :
    ∃ line, master.post (master.options.asking destination payload) =
        (.ok (),
          { master with
            reader := { master.reader with line }
            pending := some ⟨destination, line.clock.now⟩ }) ∧
      line.clock.now = master.reader.look.1 ∧
      line.written = master.reader.line.written ++ sent ∧
      Arrival.Delivers Fault.Kind.isGentle line.arrivals bytes := by
  obtain ⟨taken, after, offered, flushed, written, clock, delivers⟩ := exchanges.sent
  have transmitted : master.transmit sent =
      (.ok (), { master with reader := { master.reader with line := after } }) := by
    simp only [transmit, offered, flushed]
  have shown : after.look.1 = after.look.2.clock.now := Clock.look_fst _
  refine ⟨after.look.2, ?_, ?_, written, delivers⟩
  · rw [post, encoded]
    dsimp only
    rw [transmitted, ← shown]
    rfl
  · rw [← shown, Line.look, clock]
    rfl

/-- A request over a line that takes it is written and comes to what the frames of the answer make
of it, if it ends before its time is over. -/
theorem request_of_exchanges {sent : List UInt8} (clean : master.Clean)
    (admitted : master.options.check destination payload = .ok ())
    (encoded : (master.options.asking destination payload).encode = .ok sent)
    (exchanges : master.reader.line.Exchanges (· = .interrupted) Fault.Kind.isGentle sent bytes)
    (early : (master.request destination payload).2.reader.line.clock.now <
      master.reader.look.1 + master.options.timeout) :
    (master.request destination payload).1 =
        master.options.outcome destination (Frame.frames master.options.bufferSize bytes) ∧
      (master.request destination payload).2.reader.line.written =
        master.reader.line.written ++ sent := by
  obtain ⟨line, posted, now, written, delivers⟩ := post_of_exchanges encoded exchanges
  let asked : Master π :=
    { master with
      reader := { master.reader with line }
      pending := some ⟨destination, line.clock.now⟩ }
  have waits : master.request destination payload = asked.await ⟨destination, line.clock.now⟩ := by
    rw [clean.request, attempt, clean.send admitted, posted]
    exact receive_of_pending rfl
  rw [waits, ← now] at early
  rw [waits]
  obtain ⟨result, kept⟩ :=
    @await_of_delivers _ asked ⟨destination, line.clock.now⟩ bytes delivers (Nat.le_refl _) early
  refine ⟨result.trans ?_, kept.trans written⟩
  rw [show asked.reader.buffer = [] from clean.empty,
    show asked.reader.limit = master.options.bufferSize from clean.limit]
  rfl

end Master

/-! ## Agreement -/

/-- A master with nothing left over from earlier requests and one on a new stream write the same
bytes for a request, and make the same of the bytes that arrive. -/
theorem requests_agree {π ρ : Type} [Peer π] [Peer ρ] {master : Master π} {line : Line ρ}
    {destination : UInt8} {payload bytes : List UInt8} (clean : master.Clean)
    (admitted : master.options.check destination payload = .ok ())
    (source : master.options.source ≤ Frame.maxId) :
    let sent := Frame.withChecksum (master.options.asking destination payload).body
    let outcome := master.options.outcome destination (Frame.frames master.options.bufferSize bytes)
    let blocking := master.request destination payload
    let streaming := (StreamingMaster.ofLine line master.options).request destination payload
    (payload.length < Word.bound 32 →
      master.reader.line.Exchanges (· = .interrupted) Fault.Kind.isGentle sent bytes →
      line.Exchanges (fun _ => false) (fun _ => false) sent bytes →
      blocking.2.reader.line.clock.now < master.reader.look.1 + master.options.timeout →
      blocking.2.reader.line.written = master.reader.line.written ++ sent ∧
        streaming.2.duplex.line.written = line.written ++ sent ∧
        blocking.1 = outcome ∧ streaming.1 = outcome) ∧
    (Word.bound 32 ≤ payload.length →
      let refusal := MasterError.frame (.payloadTooLarge payload.length (Word.bound 32 - 1))
      blocking = (.error refusal, master) ∧
        streaming = (.error refusal, .ofLine line master.options)) := by
  intro sent outcome blocking streaming
  constructor
  · intro short first second early
    have encoded : (master.options.asking destination payload).encode = .ok sent :=
      Frame.encode_eq_ok.2 ⟨source, short, rfl⟩
    obtain ⟨result, written⟩ := Master.request_of_exchanges clean admitted encoded first early
    obtain ⟨same, other⟩ := StreamingMaster.request_of_exchanges admitted encoded second
    exact ⟨written, other, result, same⟩
  · intro long refusal
    have unframed : (master.options.asking destination payload).encode =
        .error (.payloadTooLarge payload.length (Word.bound 32 - 1)) := by
      unfold Frame.encode
      exact (if_neg (UInt8.not_lt.2 source)).trans (if_pos long)
    exact ⟨Master.request_of_unframed clean admitted unframed,
      StreamingMaster.request_of_unframed admitted unframed⟩

/-- Noise and a frame of another node come before the reply. On one line they arrive in pieces, with
a pause in between, and a write is interrupted; on the other they arrive at once. -/
theorem requests_agree_of_noise :
    let noise : List UInt8 := [0, 17]
    let foreign : List UInt8 := [84, 171, 9, 2, 1, 7, 82, 132]
    let reply : List UInt8 := [84, 171, 5, 2, 1, 1, 17, 61]
    let hesitant : Line Script :=
      { peer := ⟨[[.data (noise ++ foreign), .fault .timedOut], [.data reply, .closed]]⟩
        takes := [.accept 3, .fault .interrupted] }
    let prompt : Line Script :=
      { peer := {}, arrivals := [.data (noise ++ foreign ++ reply), .closed] }
    let options : MasterOptions := { source := 2 }
    let blocking := (Master.ofLine hesitant options .never).request 5 [24, 1]
    let streaming := (StreamingMaster.ofLine prompt options).request 5 [24, 1]
    blocking.2.reader.line.written = [84, 171, 130, 5, 2, 24, 1, 48, 189] ∧
      streaming.2.duplex.line.written = blocking.2.reader.line.written ∧
      blocking.1.toOption = some ⟨5, false, 2, [1]⟩ ∧ streaming.1 = blocking.1 := by
  intro noise foreign reply hesitant prompt options blocking streaming
  let master := Master.ofLine hesitant options .never
  let sent := Frame.withChecksum (options.asking 5 [24, 1]).body
  let bytes := noise ++ (foreign ++ reply)
  have paused : hesitant.Exchanges (· = .interrupted) Fault.Kind.isGentle sent bytes := by
    refine ⟨by decide, rfl, ?_⟩
    have arrivals : (hesitant.offer (· = .interrupted) sent).2.2.arrivals =
        [.data (noise ++ foreign), .fault .timedOut, .data reply, .closed] := by decide +kernel
    rw [arrivals]
    exact .data (by decide) (.fault rfl (.data (by decide) .closed))
  have unpaused : prompt.Exchanges (fun _ => false) (fun _ => false) sent bytes := by
    refine ⟨by decide, rfl, ?_⟩
    have arrivals : (prompt.offer (fun _ => false) sent).2.2.arrivals =
        [.data (noise ++ foreign ++ reply), .closed] := by decide +kernel
    rw [arrivals]
    exact .data (by decide) .closed
  obtain ⟨agree, _⟩ := @requests_agree Script Script _ _ master prompt 5 [24, 1] bytes
    ⟨rfl, rfl, rfl, rfl, rfl⟩ rfl (by decide)
  obtain ⟨first, second, result, same⟩ :=
    agree (by decide) paused unpaused (by decide +kernel)
  have answered : blocking.1.toOption = some ⟨5, false, 2, [1]⟩ := by
    rw [result]
    decide +kernel
  refine ⟨first.trans ?_, second.trans first.symm, answered, same.trans result.symm⟩
  decide +kernel

end Multidrop
