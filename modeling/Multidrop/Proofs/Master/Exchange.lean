import Multidrop.Proofs.Master.Resting

/-!
# Requests over a line that loses nothing

A master that awaits nothing asks a station with the same payload limit, over a line that loses
nothing and on which nothing is left. What comes back is the reply of the station to the request,
at the first attempt (`request_of_answered`), or, where the station does not reply, that the time
is over (`attempt_of_unanswered`). Either way the master can ask again, so a request that is not
answered ends with the last attempt (`requestFrom_of_unanswered`).
-/
namespace Multidrop.Master

variable {π σ : Type} {station : π → Attended σ} {limit : Nat} {master : Master π}

/-! ## Masters that await nothing -/

/-- A reader of a line that loses nothing, with a station behind it that has the same payload
limit. -/
structure Attached (station : π → Attended σ) (limit : Nat) (reader : Frame.Reader π) : Prop where
  /-- Only bytes arrive. -/
  lossless : reader.line.Lossless
  /-- All bytes are taken in the end. -/
  accepting : reader.line.Accepting
  /-- The station is ready for a frame. -/
  attentive : (station reader.line.peer).Attentive limit
  /-- The limit of the reader. -/
  limit : reader.limit = limit

/-- A master that awaits nothing, and to which nothing comes that could be taken for a part of a
reply. -/
structure Idle (station : π → Attended σ) (limit : Nat) (master : Master π) : Prop where
  /-- No reply is awaited. -/
  pending : master.pending = none
  /-- The id that it sends from has seven bits. -/
  source : master.options.source ≤ Frame.maxId
  /-- The limit of the master. -/
  options : master.options.bufferSize = limit
  /-- What the reader is attached to. -/
  attached : Attached station limit master.reader
  /-- Nothing is buffered that is not dropped before the next request. -/
  buffer : master.stale = false → master.reader.buffer = []
  /-- Nothing is on its way. -/
  silent : master.reader.line.arrivals = []

/-- A master that awaits nothing rests, with one limit on both sides. -/
theorem Idle.resting (idle : master.Idle station limit) : master.Resting station limit limit :=
  ⟨idle.pending, idle.source, idle.options,
    ⟨idle.attached.lossless, idle.attached.accepting, idle.attached.attentive,
      idle.attached.limit⟩,
    idle.buffer, idle.silent⟩

/-- A master that rests with one limit on both sides awaits nothing. -/
theorem Resting.idle (resting : master.Resting station limit limit) : master.Idle station limit :=
  ⟨resting.pending, resting.source, resting.options,
    ⟨resting.facing.lossless, resting.facing.accepting, resting.facing.attentive,
      resting.facing.limit⟩,
    resting.buffer, resting.silent⟩

/-- A new master awaits nothing, and nothing comes to it on a new line. -/
theorem idle_ofLine {attended : Attended σ} {hold : Nat} {options : MasterOptions}
    (attentive : attended.Attentive limit) (positive : 0 < hold)
    (source : options.source ≤ Frame.maxId) (bufferSize : options.bufferSize = limit)
    (retry : Retry) :
    (ofLine { peer := attended, idle := .silent hold positive } options retry).Idle id limit :=
  (resting_ofLine attentive positive source bufferSize retry).idle

variable {destination : UInt8} {payload : List UInt8}

/-- The node that an idle master asks has the same payload limit. -/
theorem Idle.bufferSize {service : RegisterService σ} {node : Node} {registers : σ}
    (idle : master.Idle station limit)
    (serves : station master.reader.line.peer = { service, station := { node, registers } }) :
    node.options.bufferSize = limit := by
  rw [← idle.attached.attentive.bufferSize, serves]

/-! ## Requests -/

section

variable [Peer π]

/-- A request that the station replies to is answered at the first attempt. -/
theorem request_of_answered (relays : Attended.Relays station) (idle : master.Idle station limit)
    (own : (station master.reader.line.peer).station.node.id = destination)
    (small : destination ≤ Frame.maxId) (fits : payload.length ≤ limit)
    (short : payload.length < Word.bound 32) {bytes : List UInt8}
    (answered : (station master.reader.line.peer).reply
      (master.frameOf destination payload true) = some bytes) :
    ∃ reader answer, master.request destination payload =
        (.ok answer, { master with reader, pending := none, stale := false }) ∧
      answer.encode = .ok bytes ∧
      ({ master with reader, pending := none, stale := false } : Master π).Idle station limit ∧
      station reader.line.peer =
        (station master.reader.line.peer).served (master.frameOf destination payload true) := by
  obtain ⟨content, encoded, within⟩ := Node.encode_of_answered answered
  rw [idle.attached.attentive.bufferSize] at within
  obtain ⟨reader, done, rested, served⟩ :=
    request_of_resting relays idle.resting own small fits fits short answered encoded within
  exact ⟨reader, _, done, encoded, rested.idle, served⟩

/-- A request that the station does not reply to is given up on when the time is over. -/
theorem attempt_of_unanswered (relays : Attended.Relays station) (idle : master.Idle station limit)
    (small : destination ≤ Frame.maxId) (fits : payload.length ≤ limit)
    (short : payload.length < Word.bound 32)
    (unanswered : (station master.reader.line.peer).reply
      (master.frameOf destination payload true) = none) :
    ∃ reader, master.attempt destination payload =
        (.error (.timeout master.options.timeout),
          { master with reader, pending := none, stale := true }) ∧
      ({ master with reader, pending := none, stale := true } : Master π).Idle station limit ∧
      station reader.line.peer =
        (station master.reader.line.peer).served (master.frameOf destination payload true) := by
  obtain ⟨before, now, sent, asking⟩ := idle.resting.asks relays small fits fits short
  have coming := asking.coming
  rw [unanswered, Option.getD_none] at coming
  have silent := asking.facing.lossless.arrivals_eq_nil coming
  have nothing := Frame.Reader.holds_nil asking.buffer silent
  have awaits := awaits_await ⟨destination, now⟩
    ({ master with
      reader := before, pending := some ⟨destination, now⟩, stale := false } : Master π)
  have done : master.attempt destination payload =
      ({ master with
        reader := before, pending := some ⟨destination, now⟩, stale := false } : Master π).await
          ⟨destination, now⟩ := by
    unfold attempt
    rw [sent]
    exact receive_of_pending rfl
  rw [done]
  generalize Master.await _ _ = result at awaits
  cases awaits with
  | @reply reader bytes skipped frame reads others reply =>
    obtain ⟨_, rest, split, _⟩ := reads.holds asking.facing.lossless nothing
    simp at split
  | @late reader bytes skipped reads =>
    have whole := (reads.yields.coming asking.facing.lossless).2
    rw [coming] at whole
    have sound := (asking.facing.reads reads).1.lossless
    have quiet := sound.arrivals_eq_nil (List.append_eq_nil_iff.1 whole.symm).2
    obtain ⟨rested, served⟩ := asking.resting true idle.resting reads quiet nofun
    exact ⟨reader, rfl, rested.idle, served⟩
  | @ended between reader bytes skipped reading error reads next ends =>
    obtain ⟨sound, rest, split, left⟩ := reads.holds asking.facing.lossless nothing
    rcases Frame.Reader.heard_of_lossless sound next with ⟨frame, heard⟩ | heard | ⟨heard, _⟩ <;>
      rw [heard] at ends
    · rw [verdict?_frame] at ends
      split at ends <;> cases ends
    · cases ends
    · cases ends

/-- A request that the station does not reply to, in whatever state it is, ends with the last
attempt. -/
theorem requestFrom_of_unanswered (relays : Attended.Relays station) (retry : Retry) (number : Nat)
    (idle : master.Idle station limit) (small : destination ≤ Frame.maxId)
    (fits : payload.length ≤ limit) (short : payload.length < Word.bound 32)
    (state : Attended σ → Prop) (first : state (station master.reader.line.peer))
    (unanswered : ∀ attended, state attended →
      attended.reply (master.frameOf destination payload true) = none ∧
        state (attended.served (master.frameOf destination payload true))) :
    ∃ reader before, master.requestFrom retry number destination payload =
        (.error (.timeout master.options.timeout),
          { master with reader, pending := none, stale := true }) ∧
      ({ master with reader, pending := none, stale := true } : Master π).Idle station limit ∧
      state before ∧
      station reader.line.peer = before.served (master.frameOf destination payload true) := by
  induction left : retry.bound - number using Nat.strongRecOn generalizing number master with
  | ind size ih =>
    obtain ⟨none, next⟩ := unanswered _ first
    obtain ⟨reader, done, after, served⟩ :=
      attempt_of_unanswered relays idle small fits short none
    by_cases again : retry.again number (.timeout master.options.timeout) = true
    · have shorter : retry.bound - (number + 1) < size := by
        simp only [Retry.again, Bool.and_eq_true, decide_eq_true_eq] at again
        omega
      obtain ⟨last, before, ended, rest⟩ :=
        @ih _ shorter { master with reader, pending := Option.none, stale := true } (number + 1)
          after (served ▸ next) unanswered rfl
      refine ⟨last, before, ?_, rest⟩
      rw [requestFrom, done]
      dsimp only
      rw [dif_pos again, ended]
    · refine ⟨reader, _, ?_, after, first, served⟩
      rw [requestFrom, done]
      dsimp only
      rw [dif_neg again]

end

end Multidrop.Master
