import Multidrop.Master.Basic
import Multidrop.Proofs.Frame.Reader
import Multidrop.Proofs.Line.Offer

/-!
# What the calls of a master come to

Every way in which sending a request (`sends_send`), waiting for its reply (`awaits_await`) and
dropping what still arrives (`drains_dropLate`) can go, with what is returned and all that changes.
What the reader has made of the line on the way is given by `Frame.Reader.Reads`.
-/
namespace Multidrop.Master

open Multidrop.Frame (Reader Reading Heard)

variable {π : Type}

/-! ## Dropping what still arrives -/

/-- How dropping what still arrives ends. -/
inductive Lull where
  /-- It has lasted as long as a reply is waited for. -/
  | expired
  /-- A read has brought nothing in time. -/
  | quiet
  /-- The line has ended. -/
  | closed
  /-- The line has failed. -/
  | broken (error : Frame.Error)

/-- What is returned for it. -/
def Lull.result : Lull → Except MasterError Unit
  | .expired | .quiet | .closed => .ok ()
  | .broken error => .error (.frame error)

/-- The end that something heard brings, if it brings one. -/
def Lull.ofHeard? : Heard → Option Lull
  | .frame _ | .noise => none
  | .quiet => some .quiet
  | .closed => some .closed
  | .broken error => some (.broken error)

/-- What still arrives is read and dropped, from a given time on, until this end. -/
inductive Drains (options : MasterOptions) (since : Nat) : Reader π → Lull → Reader π → Prop
  /-- The time is over. -/
  | expired {reader : Reader π} (late : options.timeout ≤ reader.look.1 - since) :
      Drains options since reader .expired reader.look.2
  /-- A reading ends it. -/
  | ended {reader last : Reader π} {reading : Reading} {lull : Lull}
      (early : ¬options.timeout ≤ reader.look.1 - since)
      (next : reader.look.2.next = (reading, last))
      (ends : Lull.ofHeard? reading.heard = some lull) : Drains options since reader lull last
  /-- What was read is dropped. -/
  | dropped {reader after last : Reader π} {reading : Reading} {lull : Lull}
      (early : ¬options.timeout ≤ reader.look.1 - since)
      (next : reader.look.2.next = (reading, after)) (going : Lull.ofHeard? reading.heard = none)
      (later : Drains options since after lull last) : Drains options since reader lull last

/-- Dropping what still arrives ends in one of these ways. -/
theorem drains_dropLate (since : Nat) (master : Master π) :
    ∃ lull last, Drains master.options since master.reader lull last ∧
      master.dropLate since = (lull.result, { master with reader := last }) := by
  fun_induction dropLate since master with
  | case1 master reader late => exact ⟨.expired, _, .expired late, rfl⟩
  | case2 master reader early reading after next frame heard lt le ih
  | case3 master reader early reading after next heard lt le ih =>
    obtain ⟨lull, last, drains, done⟩ := ih
    refine ⟨lull, last, .dropped early next ?_ drains, done⟩
    rw [heard]
    rfl
  | case4 master reader early reading after next heard =>
    exact ⟨.quiet, after, .ended early next (by rw [heard]; rfl), rfl⟩
  | case5 master reader early reading after next heard =>
    exact ⟨.closed, after, .ended early next (by rw [heard]; rfl), rfl⟩
  | case6 master reader early reading after next error heard =>
    exact ⟨.broken error, after, .ended early next (by rw [heard]; rfl), rfl⟩

/-- Dropping what still arrives only reads. -/
theorem Drains.reads {options : MasterOptions} {since : Nat} {reader last : Reader π} {lull : Lull}
    (drains : Drains options since reader lull last) :
    ∃ bytes found, reader.Reads bytes found last := by
  induction drains with
  | @expired reader _ => exact ⟨_, _, reader.reads_look⟩
  | @ended reader last reading lull _ next _ =>
    obtain ⟨bytes, reads⟩ := Reader.reads_of_next next
    exact ⟨_, _, reader.reads_look.trans reads⟩
  | @dropped reader after last reading lull _ next _ _ ih =>
    obtain ⟨bytes, reads⟩ := Reader.reads_of_next next
    obtain ⟨more, others, later⟩ := ih
    exact ⟨_, _, (reader.reads_look.trans reads).trans later⟩

/-- Dropping what still arrives ends in one way only. -/
theorem Drains.unique {options : MasterOptions} {since : Nat} {reader last other : Reader π}
    {lull second : Lull} (drains : Drains options since reader lull last)
    (again : Drains options since reader second other) : lull = second ∧ last = other := by
  induction drains with
  | expired late =>
    cases again with
    | expired => exact ⟨rfl, rfl⟩
    | ended early | dropped early => exact absurd late early
  | ended early next ends =>
    cases again with
    | expired late => exact absurd late early
    | ended _ following others =>
      cases next.symm.trans following
      exact ⟨Option.some.inj (ends.symm.trans others), rfl⟩
    | dropped _ following going =>
      cases next.symm.trans following
      cases ends.symm.trans going
  | dropped early next going _ ih =>
    cases again with
    | expired late => exact absurd late early
    | ended _ following ends =>
      cases next.symm.trans following
      cases ends.symm.trans going
    | dropped _ following _ later =>
      cases next.symm.trans following
      exact ih later

/-- The master drops what still arrives and then what is buffered, from now on, until this end. -/
def Freshens (master : Master π) (lull : Lull) (last : Reader π) : Prop :=
  Drains master.options master.reader.look.1 master.reader.look.2 lull last

/-- Freshening only reads before it empties the buffer. -/
theorem Freshens.reads {master : Master π} {lull : Lull} {last : Reader π}
    (freshens : master.Freshens lull last) : ∃ bytes found, master.reader.Reads bytes found last := by
  obtain ⟨_, _, reads⟩ := Drains.reads freshens
  exact ⟨_, _, master.reader.reads_look.trans reads⟩

/-- Freshening ends in one of these ways, and always with an empty buffer and no mark. -/
theorem freshens_freshen (master : Master π) :
    ∃ lull last, master.Freshens lull last ∧
      master.freshen =
        (lull.result, { master with reader := last.discard, stale := false }) := by
  obtain ⟨lull, last, drains, done⟩ := drains_dropLate master.look.1 master.look.2
  refine ⟨lull, last, drains, ?_⟩
  unfold freshen
  dsimp only
  rw [done]
  rfl

/-! ## Sending -/

/-- How writing a request goes. -/
inductive Posts (frame : Frame) (master : Master π) : Except MasterError Unit × Master π → Prop
  /-- All of it is written. It is awaited if it asks for a reply. -/
  | sent {line : Line π} {bytes : List UInt8} (encoded : frame.encode = .ok bytes)
      (written : line.written = master.reader.line.written ++ bytes) :
      Posts frame master
        (.ok (),
          { master with
            reader := { master.reader with line }
            pending :=
              if frame.responseRequested then some ⟨frame.destination, line.clock.now⟩
              else master.pending })
  /-- It cannot be written, or only a part of it. -/
  | failed {line : Line π} {bytes : List UInt8} {error : MasterError}
      (written : line.written = master.reader.line.written ++ bytes) :
      Posts frame master (.error error, { master with reader := { master.reader with line } })

/-- Bytes are written in order, all of them where this is what is returned, and otherwise up to where
the line fails. -/
theorem transmit_written [Peer π] (bytes : List UInt8) (master : Master π) :
    ∃ line taken left,
      (master.transmit bytes).2 = { master with reader := { master.reader with line } } ∧
        line.written = master.reader.line.written ++ taken ∧ bytes = taken ++ left ∧
        ((master.transmit bytes).1 = .ok () ∧ left = [] ∨
          ∃ fault, (master.transmit bytes).1 = .error (.frame (.line fault))) := by
  obtain ⟨taken, whole, written, complete⟩ :=
    master.reader.line.written_offer (· = .interrupted) bytes
  unfold transmit
  generalize master.reader.line.offer (· = .interrupted) bytes = result at whole written complete
  obtain ⟨offered, left, line⟩ := result
  cases offered with
  | stalled => exact ⟨line, taken, left, rfl, written, whole, .inr ⟨_, rfl⟩⟩
  | failed kind => exact ⟨line, taken, left, rfl, written, whole, .inr ⟨_, rfl⟩⟩
  | complete =>
    have flushed := line.written_flush
    dsimp only
    generalize line.flush = result at flushed
    obtain ⟨fault, after⟩ := result
    have later := flushed.trans written
    cases fault with
    | none => exact ⟨after, taken, left, rfl, later, whole, .inl ⟨rfl, complete rfl⟩⟩
    | some kind => exact ⟨after, taken, left, rfl, later, whole, .inr ⟨_, rfl⟩⟩

/-- How writing a request goes, byte by byte: the bytes written and what becomes of the master. -/
inductive Copies (frame : Frame) (master : Master π) :
    List UInt8 → Except MasterError Unit × Master π → Prop
  /-- It cannot be sent. -/
  | unframed {error : Frame.Error} (unframed : frame.encode = .error error) :
      Copies frame master [] (.error (.frame error), master)
  /-- The line fails behind some part of it. -/
  | cut {line : Line π} {part left : List UInt8} {fault : Fault}
      (encoded : frame.encode = .ok (part ++ left))
      (written : line.written = master.reader.line.written ++ part) :
      Copies frame master part
        (.error (.frame (.line fault)), { master with reader := { master.reader with line } })
  /-- All of it is written. It is awaited if it asks for a reply. -/
  | whole {line : Line π} {bytes : List UInt8} (encoded : frame.encode = .ok bytes)
      (written : line.written = master.reader.line.written ++ bytes) :
      Copies frame master bytes
        (.ok (),
          { master with
            reader := { master.reader with line }
            pending :=
              if frame.responseRequested then some ⟨frame.destination, line.clock.now⟩
              else master.pending })

/-- Writing a request goes in one of these ways. -/
theorem copies_post [Peer π] (frame : Frame) (master : Master π) :
    ∃ bytes, Copies frame master bytes (master.post frame) := by
  unfold post
  cases encoded : frame.encode with
  | error error => exact ⟨[], .unframed encoded⟩
  | ok bytes =>
    obtain ⟨line, part, left, same, written, whole, outcome⟩ := transmit_written bytes master
    dsimp only
    generalize master.transmit bytes = result at same outcome
    obtain ⟨returned, after⟩ := result
    dsimp only at same outcome
    subst same
    rw [whole] at encoded
    refine ⟨part, ?_⟩
    rcases outcome with ⟨rfl, none⟩ | ⟨fault, rfl⟩
    · rw [none, List.append_nil] at encoded
      dsimp only
      by_cases asks : frame.responseRequested = true
      · rw [if_pos asks]
        have all := @Copies.whole _ frame master line.look.2 part encoded written
        rw [if_pos asks] at all
        have now : line.look.2.clock.now = line.look.1 := (Clock.look_fst _).symm
        rw [now] at all
        exact all
      · rw [if_neg asks]
        have all := @Copies.whole _ frame master line part encoded written
        rw [if_neg asks] at all
        exact all
    · exact .cut encoded written

/-- Writing a request sends it or fails. -/
theorem posts_post [Peer π] (frame : Frame) (master : Master π) :
    Posts frame master (master.post frame) := by
  obtain ⟨bytes, copies⟩ := copies_post frame master
  generalize master.post frame = result at copies
  cases copies with
  | unframed => exact .failed (List.append_nil _).symm
  | cut _ written => exact .failed written
  | whole encoded written => exact .sent encoded written

/-- The frame that a master sends. -/
def frameOf (destination : UInt8) (payload : List UInt8) (responseRequested : Bool)
    (master : Master π) : Frame :=
  { source := master.options.source, responseRequested, destination, payload }

/-- A payload that may be sent is within the limit. -/
theorem length_le_of_check {options : MasterOptions} {destination : UInt8} {payload : List UInt8}
    (admitted : options.check destination payload = .ok ()) :
    payload.length ≤ options.bufferSize := by
  unfold MasterOptions.check at admitted
  split at admitted
  · cases admitted
  · split at admitted
    · cases admitted
    · rename_i fits
      exact Nat.le_of_not_lt fits

/-- How a call to send a request goes. -/
inductive Sends (destination : UInt8) (payload : List UInt8) (responseRequested : Bool)
    (master : Master π) : Except MasterError Unit × Master π → Prop
  /-- A reply is still awaited. -/
  | outstanding {pending : Pending} (busy : master.pending = some pending) :
      Sends destination payload responseRequested master
        (.error (.outstanding pending.destination), master)
  /-- The request must not be sent. -/
  | refused {error : MasterError} (free : master.pending = none)
      (refused : master.options.check destination payload = .error error) :
      Sends destination payload responseRequested master (.error error, master)
  /-- The line fails before what still arrives is dropped. -/
  | broken {error : Frame.Error} {last : Reader π} (free : master.pending = none)
      (admitted : master.options.check destination payload = .ok ())
      (stale : master.stale = true) (freshens : master.Freshens (.broken error) last) :
      Sends destination payload responseRequested master
        (.error (.frame error), { master with reader := last.discard, stale := false })
  /-- What still arrives is dropped, then the request is written. -/
  | freshened {lull : Lull} {last : Reader π} {result : Except MasterError Unit × Master π}
      (free : master.pending = none)
      (admitted : master.options.check destination payload = .ok ())
      (stale : master.stale = true) (freshens : master.Freshens lull last)
      (unbroken : lull.result = .ok ())
      (posts : Posts (master.frameOf destination payload responseRequested)
        { master with reader := last.discard, stale := false } result) :
      Sends destination payload responseRequested master result
  /-- The request is written at once. -/
  | posted {result : Except MasterError Unit × Master π} (free : master.pending = none)
      (admitted : master.options.check destination payload = .ok ())
      (calm : master.stale = false)
      (posts : Posts (master.frameOf destination payload responseRequested) master result) :
      Sends destination payload responseRequested master result

/-- While a reply is awaited, nothing is sent and nothing changes. -/
theorem send_of_pending [Peer π] {master : Master π} {pending : Pending}
    (busy : master.pending = some pending) (destination : UInt8) (payload : List UInt8)
    (responseRequested : Bool) :
    master.send destination payload responseRequested =
      (.error (.outstanding pending.destination), master) := by
  unfold send
  rw [busy]

/-- A request that must not be sent changes nothing. -/
theorem send_of_refused [Peer π] {master : Master π} {destination : UInt8} {payload : List UInt8}
    {error : MasterError} (free : master.pending = none)
    (refused : master.options.check destination payload = .error error)
    (responseRequested : Bool) :
    master.send destination payload responseRequested = (.error error, master) := by
  unfold send
  rw [free]
  dsimp only
  rw [refused]

/-- A request that may be sent is written, after what still arrives has been dropped if a request
was given up on. -/
theorem send_of_admitted [Peer π] {master : Master π} {destination : UInt8} {payload : List UInt8}
    (free : master.pending = none) (admitted : master.options.check destination payload = .ok ())
    (responseRequested : Bool) :
    master.send destination payload responseRequested =
      if master.stale then
        match master.freshen with
        | (.error error, master) => (.error error, master)
        | (.ok (), fresh) => fresh.post (master.frameOf destination payload responseRequested)
      else master.post (master.frameOf destination payload responseRequested) := by
  unfold send
  rw [free]
  dsimp only
  rw [admitted]
  rfl

/-- A call to send a request goes in one of these ways. -/
theorem sends_send [Peer π] (destination : UInt8) (payload : List UInt8)
    (responseRequested : Bool) (master : Master π) :
    Sends destination payload responseRequested master
      (master.send destination payload responseRequested) := by
  cases pending : master.pending with
  | some pending =>
    rw [send_of_pending pending]
    exact .outstanding pending
  | none =>
    cases check : master.options.check destination payload with
    | error error =>
      rw [send_of_refused pending check]
      exact .refused pending check
    | ok _ =>
      rw [send_of_admitted pending check]
      by_cases stale : master.stale = true
      · obtain ⟨lull, last, freshens, done⟩ := master.freshens_freshen
        rw [if_pos stale, done]
        have posts := posts_post (master.frameOf destination payload responseRequested)
          { master with reader := last.discard, stale := false }
        cases lull with
        | broken error => exact .broken pending check stale freshens
        | expired => exact .freshened pending check stale freshens rfl posts
        | quiet => exact .freshened pending check stale freshens rfl posts
        | closed => exact .freshened pending check stale freshens rfl posts
      · rw [if_neg stale]
        exact .posted pending check (Bool.eq_false_iff.2 stale) (posts_post _ _)

/-! ## Waiting for a reply and giving up -/

/-- Where no reply is awaited, waiting fails and changes nothing. -/
theorem receive_of_free {master : Master π} (free : master.pending = none) :
    master.receive = (.error .nothingOutstanding, master) := by
  unfold receive
  rw [free]

/-- The wait for the reply that is awaited. -/
theorem receive_of_pending {master : Master π} {pending : Pending}
    (busy : master.pending = some pending) : master.receive = master.await pending := by
  unfold receive
  rw [busy]

/-- Where no reply is awaited, giving up changes nothing. -/
theorem cancel_of_free {master : Master π} (free : master.pending = none) :
    master.cancel = master := by
  unfold cancel
  rw [free]
  rfl

/-- A request that is given up on is awaited no more, and the master is marked. -/
theorem cancel_of_pending {master : Master π} (busy : master.pending.isSome = true) :
    master.cancel = { master with pending := none, stale := true } := if_pos busy

/-- How waiting for a reply goes. -/
inductive Awaits (pending : Pending) (master : Master π) :
    Except MasterError Frame × Master π → Prop
  /-- The reply has come, behind frames that are none. -/
  | reply {reader : Reader π} {bytes : List UInt8} {skipped : List Frame} {frame : Frame}
      (reads : master.reader.Reads bytes (skipped ++ [frame]) reader)
      (others : ∀ other ∈ skipped, master.options.isReply pending.destination other = false)
      (reply : master.options.isReply pending.destination frame = true) :
      Awaits pending master (.ok frame, { master with reader, pending := none })
  /-- The time is over. -/
  | late {reader : Reader π} {bytes : List UInt8} {skipped : List Frame}
      (reads : master.reader.Reads bytes skipped reader) :
      Awaits pending master
        (.error (.timeout master.options.timeout),
          { master with reader, pending := none, stale := true })
  /-- The line has ended or failed. -/
  | ended {between reader : Reader π} {bytes : List UInt8} {skipped : List Frame}
      {reading : Reading} {error : MasterError}
      (reads : master.reader.Reads bytes skipped between) (next : between.next = (reading, reader))
      (ends : verdict? master.options pending.destination reading.heard = some (.error error)) :
      Awaits pending master (.error error, { master with reader, pending := none })

/-- A frame ends the wait exactly when it is the reply. -/
theorem verdict?_frame (options : MasterOptions) (destination : UInt8) (frame : Frame) :
    verdict? options destination (.frame frame) =
      if options.isReply destination frame then some (.ok frame) else none := rfl

/-- What ends a wait with an error is not that the time is over. -/
theorem verdict?_ne_timeout {options : MasterOptions} {destination : UInt8} {heard : Heard}
    {span : Nat} : verdict? options destination heard ≠ some (.error (.timeout span)) := by
  cases heard with
  | frame frame =>
    rw [verdict?_frame]
    split <;> simp
  | _ => simp [verdict?]

/-- A wait goes on after frames that are not the reply. -/
theorem isReply_of_going {options : MasterOptions} {destination : UInt8} {heard : Heard}
    (going : verdict? options destination heard = none) :
    ∀ other ∈ heard.frames, options.isReply destination other = false := by
  intro other there
  cases heard with
  | frame frame =>
    rw [List.mem_singleton.1 there]
    by_cases reply : options.isReply destination frame = true
    · rw [verdict?_frame, if_pos reply] at going
      cases going
    · exact Bool.eq_false_iff.2 reply
  | _ => cases there

/-- A wait that ends with a frame has heard the reply. -/
theorem heard_of_verdict? {options : MasterOptions} {destination : UInt8} {heard : Heard}
    {frame : Frame} (ends : verdict? options destination heard = some (.ok frame)) :
    heard.frames = [frame] ∧ options.isReply destination frame = true := by
  cases heard with
  | frame other =>
    by_cases reply : options.isReply destination other = true
    · rw [verdict?_frame, if_pos reply] at ends
      cases ends
      exact ⟨rfl, reply⟩
    · rw [verdict?_frame, if_neg reply] at ends
      cases ends
  | _ => simp [verdict?] at ends

/-- A wait that goes on after some reading. -/
theorem Awaits.of_read {pending : Pending} {master : Master π} {between : Reader π}
    {bytes : List UInt8} {skipped : List Frame} {result : Except MasterError Frame × Master π}
    (reads : master.reader.Reads bytes skipped between)
    (others : ∀ other ∈ skipped, master.options.isReply pending.destination other = false)
    (awaits : Awaits pending { master with reader := between } result) :
    Awaits pending master result := by
  cases awaits with
  | @reply reader more later frame following none found =>
    have both := reads.trans following
    rw [← List.append_assoc] at both
    refine .reply both (fun other there => ?_) found
    rcases List.mem_append.1 there with before | after
    · exact others other before
    · exact none other after
  | late following => exact .late (reads.trans following)
  | ended following next ends => exact .ended (reads.trans following) next ends

/-- Waiting changes the reader by reading. -/
theorem Awaits.reads {pending : Pending} {master : Master π}
    {result : Except MasterError Frame × Master π} (awaits : Awaits pending master result) :
    ∃ bytes found, master.reader.Reads bytes found result.2.reader := by
  cases awaits with
  | reply reads | late reads => exact ⟨_, _, reads⟩
  | ended reads next _ =>
    obtain ⟨_, last⟩ := Reader.reads_of_next next
    exact ⟨_, _, reads.trans last⟩

/-- A wait is over as soon as something is heard that ends it. -/
theorem await_of_next {pending : Pending} {master : Master π} {reading : Reading}
    {after : Reader π} {result : Except MasterError Frame}
    (next : master.reader.next = (reading, after))
    (ends : verdict? master.options pending.destination reading.heard = some result) :
    master.await pending = (result, { master with reader := after, pending := none }) := by
  rw [await]
  split
  rename_i found
  cases next.symm.trans found
  split
  · rename_i verdict
    cases ends.symm.trans verdict
    rfl
  · rename_i going
    cases ends.symm.trans going

/-- Waiting for a reply goes in one of these ways. -/
theorem awaits_await (pending : Pending) (master : Master π) :
    Awaits pending master (master.await pending) := by
  fun_induction await pending master with
  | case1 master reading after next result ends =>
    cases result with
    | error error => exact .ended (.refl _) next ends
    | ok frame =>
      obtain ⟨bytes, reads⟩ := Reader.reads_of_next next
      obtain ⟨found, reply⟩ := heard_of_verdict? ends
      rw [found] at reads
      exact @Awaits.reply _ _ _ _ _ [] _ reads nofun reply
  | case2 master reading after next going waiting early lt ih =>
    obtain ⟨bytes, reads⟩ := Reader.reads_of_next next
    exact .of_read reads.thenLook (isReply_of_going going) ih
  | case3 master reading after next going waiting late =>
    obtain ⟨bytes, reads⟩ := Reader.reads_of_next next
    exact .late reads.thenLook

end Multidrop.Master
