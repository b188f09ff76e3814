import Multidrop.Proofs.Master.Runs

/-!
# One request at a time

Over any line and through any sequence of calls, a master awaits a reply exactly from when a request
that asks for one has been sent until the next wait has ended or the request is given up on. Calls
that must not be made change nothing. A frame that a wait returns is the first one among all that
arrive that comes from the node asked and is for this master (`Runs.oneRequest`).
-/
namespace Multidrop.Master

open Multidrop.Frame (frames)

variable {π : Type}

/-! ## What the calls do to the request that is awaited -/

/-- Writing a request makes it the one that is awaited exactly if all of it is written and it asks
for a reply. -/
theorem Posts.pending {frame : Frame} {master : Master π}
    {result : Except MasterError Unit × Master π} (posts : Posts frame master result) :
    (result.1 = .ok () ∧ frame.responseRequested = true →
      result.2.pending.map Pending.destination = some frame.destination) ∧
    (¬(result.1 = .ok () ∧ frame.responseRequested = true) →
      result.2.pending = master.pending) := by
  cases posts with
  | sent encoded written =>
    constructor
    · intro asks
      simp [asks.2]
    · intro silent
      dsimp only
      rw [if_neg (fun asks => silent ⟨rfl, asks⟩)]
  | failed written => exact ⟨nofun, fun _ => rfl⟩

/-- A call to send a request makes it the one that is awaited exactly if it succeeds and the request
asks for a reply. -/
theorem Sends.pending {destination : UInt8} {payload : List UInt8} {responseRequested : Bool}
    {master : Master π} {result : Except MasterError Unit × Master π}
    (sends : Sends destination payload responseRequested master result) :
    (result.1 = .ok () ∧ responseRequested = true →
      result.2.pending.map Pending.destination = some destination) ∧
    (¬(result.1 = .ok () ∧ responseRequested = true) → result.2.pending = master.pending) := by
  cases sends with
  | outstanding | refused | broken => exact ⟨nofun, fun _ => rfl⟩
  | freshened _ _ _ _ _ posts | posted _ _ _ posts => exact posts.pending

/-- After a wait no reply is awaited. -/
theorem Awaits.pending {pending : Pending} {master : Master π}
    {result : Except MasterError Frame × Master π} (awaits : Awaits pending master result) :
    result.2.pending = none := by
  cases awaits <;> rfl

/-- A frame that a wait returns is the first one from the node asked for this master, among the
frames of the bytes that were buffered and those that are read. -/
theorem frames_receive {frame : Frame} {master after : Master π}
    (received : master.receive = (.ok frame, after)) :
    ∃ pending bytes skipped, master.pending = some pending ∧
      master.options.isReply pending.destination frame = true ∧
      master.reader.line.Yields bytes after.reader.line ∧
      frames master.reader.limit (master.reader.buffer ++ bytes) =
        skipped ++ frame :: frames master.reader.limit after.reader.buffer ∧
      ∀ other ∈ skipped, master.options.isReply pending.destination other = false := by
  cases busy : master.pending with
  | none =>
    rw [receive_of_free busy] at received
    cases received
  | some pending =>
    have awaits := awaits_await pending master
    rw [← receive_of_pending busy, received] at awaits
    cases awaits with
    | @reply reader bytes skipped _ reads others reply =>
      have found := reads.frames []
      simp only [List.append_nil, List.append_assoc, List.singleton_append] at found
      exact ⟨pending, bytes, skipped, rfl, reply, reads.yields, found, others⟩

/-! ## Runs -/

variable [Peer π] {changes : Line π → Line π → Prop} {start master : Master π}
  {events : List (Event π)}

/-- A call that sends a request which asks for a reply makes it the one that is awaited. -/
theorem Event.Asks.pending {event : Event π} {destination : UInt8}
    (asks : event.Asks destination) :
    event.after.pending.map Pending.destination = some destination := by
  obtain ⟨payload, deed, returned⟩ := asks
  have sends := (sends_send destination payload true event.before).pending
  rw [event.returned_of_send deed] at returned
  rw [event.after_of_send deed]
  exact sends.1 ⟨Returned.sent.inj returned, rfl⟩

/-- A call that ends any wait leaves no reply that is awaited. -/
theorem Event.Settles.pending {event : Event π} (settles : event.Settles) :
    event.after.pending = none := by
  rcases settles with waited | gave
  · rw [event.after_of_receive waited]
    cases busy : event.before.pending with
    | none =>
      rw [receive_of_free busy]
      exact busy
    | some pending =>
      rw [receive_of_pending busy]
      exact (awaits_await pending event.before).pending
  · rw [event.after_of_cancel gave]
    cases busy : event.before.pending with
    | none =>
      rw [cancel_of_free busy]
      exact busy
    | some pending => rw [cancel_of_pending (by rw [busy]; rfl)]

/-- Other calls leave the request that is awaited as it is. -/
theorem Event.pending_of_calm {event : Event π} (calm : ¬event.Settles)
    (silent : ∀ other, ¬event.Asks other) : event.after.pending = event.before.pending := by
  cases deed : event.deed with
  | receive => exact absurd (.inl deed) calm
  | cancel => exact absurd (.inr deed) calm
  | send destination payload responseRequested =>
    have sends := (sends_send destination payload responseRequested event.before).pending
    rw [event.after_of_send deed]
    apply sends.2
    rintro ⟨sent, rfl⟩
    refine silent destination ⟨payload, deed, ?_⟩
    rw [event.returned_of_send deed, sent]

/-- A master awaits the reply to the last request that asked for one, until a wait has ended or the
request is given up on. -/
theorem Runs.pending_eq_some_iff (runs : Runs changes start events master)
    (free : start.pending = none) (destination : UInt8) :
    master.pending.map Pending.destination = some destination ↔ Awaited events destination := by
  induction runs with
  | start =>
    rw [free]
    exact ⟨nofun, fun ⟨_, _, _, whole, _⟩ => absurd whole (by simp)⟩
  | meanwhile _ _ ih => exact ih
  | @call events master _ deed ih =>
    generalize made : (⟨master, deed⟩ : Event π) = event
    have after : (master.perform deed).2 = event.after := by rw [← made]; rfl
    have before : master = event.before := by rw [← made]
    rw [after]
    by_cases settles : event.Settles
    · rw [settles.pending]
      exact ⟨nofun, fun awaited => absurd awaited (not_awaited_of_settles settles)⟩
    · by_cases asks : ∃ other, event.Asks other
      · obtain ⟨other, asks⟩ := asks
        rw [asks.pending]
        constructor
        · intro same
          cases same
          exact awaited_of_asks asks
        · intro awaited
          rw [eq_of_awaited asks awaited]
      · have silent : ∀ other, ¬event.Asks other := fun other asked => asks ⟨other, asked⟩
        rw [Event.pending_of_calm settles silent, awaited_snoc_iff settles silent, ← before]
        exact ih

/-- A reply is awaited exactly if the last request for one was followed by no wait and was not given
up on; while it is, sending is refused and changes nothing. -/
theorem Runs.oneRequest {line : Line π} {options : MasterOptions} {retry : Retry}
    (runs : Runs changes (ofLine line options retry) events master) :
    (master.pending.isSome = true ↔ ∃ destination, Awaited events destination) ∧
    (∀ pending, master.pending = some pending → Awaited events pending.destination ∧
      ∀ destination payload responseRequested,
        master.send destination payload responseRequested =
          (.error (.outstanding pending.destination), master)) ∧
    (master.pending = none → ∀ destination payload responseRequested,
      (Frame.maxId < destination →
        master.send destination payload responseRequested =
          (.error (.invalidId destination), master)) ∧
      (destination ≤ Frame.maxId → options.bufferSize < payload.length →
        master.send destination payload responseRequested =
          (.error (.frame (.payloadTooLarge payload.length options.bufferSize)), master))) ∧
    (master.pending = none → master.receive = (.error .nothingOutstanding, master)) ∧
    ∀ frame after, master.receive = (.ok frame, after) →
      ∃ pending bytes skipped, master.pending = some pending ∧
        frame.source = pending.destination ∧ frame.destination = options.source ∧
        master.reader.line.Yields bytes after.reader.line ∧
        frames options.bufferSize (master.reader.buffer ++ bytes) =
          skipped ++ frame :: frames options.bufferSize after.reader.buffer ∧
        ∀ other ∈ skipped,
          ¬(other.source = pending.destination ∧ other.destination = options.source) := by
  have limits := runs.sameLimits
  have same : master.options = options := limits.1
  have limit : master.reader.limit = options.bufferSize := limits.2
  have awaited := runs.pending_eq_some_iff rfl
  refine ⟨?_, ?_, ?_, ?_, ?_⟩
  · rw [← Option.isSome_map (f := Pending.destination), Option.isSome_iff_exists]
    exact exists_congr awaited
  · intro pending busy
    refine ⟨(awaited _).1 (by rw [busy]; rfl), send_of_pending busy⟩
  · intro free destination payload responseRequested
    constructor
    · intro large
      apply send_of_refused free
      rw [same, MasterOptions.check, if_pos large]
    · intro small long
      apply send_of_refused free
      rw [same, MasterOptions.check, if_neg (UInt8.not_lt.2 small), if_pos long]
  · exact receive_of_free
  · intro frame after received
    obtain ⟨pending, bytes, skipped, busy, reply, yields, found, others⟩ := frames_receive received
    rw [limit] at found
    simp only [same, MasterOptions.isReply, Bool.and_eq_true, decide_eq_true_eq] at reply others
    refine ⟨pending, bytes, skipped, busy, reply.1, reply.2, yields, found, fun other there => ?_⟩
    have apart := others other there
    simp only [Bool.and_eq_false_iff, decide_eq_false_iff_not] at apart
    exact fun both => apart.elim (fun one => one both.1) (fun two => two both.2)

/-- A request to node three is answered behind a frame of node four and a stray byte. Until the wait
for it, no other request can be sent; the wait skips what is not the reply. -/
theorem Runs.oneRequest_of_reply :
    let noise : List UInt8 := [84, 171, 4, 0, 1, 7, 146, 142, 0]
    let answer : List UInt8 := [84, 171, 3, 0, 1, 49, 214, 49]
    let line : Line Script := { peer := ⟨[[.data (noise ++ answer)]]⟩ }
    let sent := ((ofLine line {} .never).perform (.send 3 [] true)).2
    sent.send 5 [1] false = (.error (.outstanding 3), sent) ∧
      sent.receive.1.toOption = some { source := 3, destination := 0, payload := [49] } ∧
      ∃ bytes skipped, sent.reader.line.Yields bytes sent.receive.2.reader.line ∧
        frames 256 (sent.reader.buffer ++ bytes) =
          skipped ++ ⟨3, false, 0, [49]⟩ :: frames 256 sent.receive.2.reader.buffer := by
  intro noise answer line sent
  have runs : Runs Eq (ofLine line {} .never) [⟨ofLine line {} .never, .send 3 [] true⟩] sent :=
    .call .start (.send 3 [] true)
  have asks : (⟨ofLine line {} .never, .send 3 [] true⟩ : Event Script).Asks 3 :=
    ⟨[], rfl, by with_unfolding_all rfl⟩
  have awaited : Awaited [(⟨ofLine line {} .never, .send 3 [] true⟩ : Event Script)] 3 :=
    @awaited_of_asks _ _ [] _ _ asks
  have returned :
      sent.receive.1.toOption = some { source := 3, destination := 0, payload := [49] } := by
    decide +kernel
  obtain ⟨outstanding, refused, _, _, reply⟩ := runs.oneRequest
  obtain ⟨pending, busy⟩ := Option.isSome_iff_exists.1 (outstanding.2 ⟨3, awaited⟩)
  obtain ⟨alone, refused⟩ := refused pending busy
  have three : pending.destination = 3 := @eq_of_awaited _ _ [] _ _ _ asks alone
  refine ⟨?_, returned, ?_⟩
  · rw [refused 5 [1] false, three]
  · cases received : sent.receive with
    | mk result after =>
      rw [received] at returned
      cases result with
      | error error => cases returned
      | ok frame =>
        cases returned
        obtain ⟨_, bytes, skipped, _, _, _, yields, found, _⟩ := reply _ after received
        exact ⟨bytes, skipped, yields, found⟩

end Multidrop.Master
