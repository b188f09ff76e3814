import Multidrop.Proofs.Master.Pairing

/-!
# Requests to a station with a limit of its own

A master and the station that it asks need not have the same payload limit. Over a line that loses
nothing, a request within both limits reaches the station, and its reply comes back if it is within
the limit of the master (`request_of_resting`).
-/
namespace Multidrop.Master

variable {π σ : Type} {station : π → Attended σ} {far near : Nat} {master : Master π}

/-- A reader of a line that loses nothing, with a station behind it. The station and the reader each
have a payload limit. -/
structure Facing (station : π → Attended σ) (far near : Nat) (reader : Frame.Reader π) : Prop where
  /-- Only bytes arrive. -/
  lossless : reader.line.Lossless
  /-- All bytes are taken in the end. -/
  accepting : reader.line.Accepting
  /-- The station is ready for a frame. -/
  attentive : (station reader.line.peer).Attentive far
  /-- The limit of the reader. -/
  limit : reader.limit = near

/-- A master that awaits nothing, and to which nothing comes that could be taken for a part of a
reply. The station that it asks has a payload limit of its own. -/
structure Resting (station : π → Attended σ) (far near : Nat) (master : Master π) : Prop where
  /-- No reply is awaited. -/
  pending : master.pending = none
  /-- The id that it sends from has seven bits. -/
  source : master.options.source ≤ Frame.maxId
  /-- The limit of the master. -/
  options : master.options.bufferSize = near
  /-- What the reader faces. -/
  facing : Facing station far near master.reader
  /-- Nothing is buffered that is not dropped before the next request. -/
  buffer : master.stale = false → master.reader.buffer = []
  /-- Nothing is on its way. -/
  silent : master.reader.line.arrivals = []

/-- A new master rests, on a new line to a station. -/
theorem resting_ofLine {attended : Attended σ} {hold : Nat} {options : MasterOptions}
    (attentive : attended.Attentive far) (positive : 0 < hold)
    (source : options.source ≤ Frame.maxId) (bufferSize : options.bufferSize = near)
    (retry : Retry) :
    (ofLine { peer := attended, idle := .silent hold positive } options retry).Resting id far
      near where
  pending := rfl
  source := source
  options := bufferSize
  facing :=
    { lossless := ⟨fun _ there => absurd there List.not_mem_nil, hold, positive, rfl⟩
      accepting := ⟨fun _ there => absurd there List.not_mem_nil, rfl⟩
      attentive
      limit := bufferSize }
  buffer _ := rfl
  silent := rfl

/-- Reading leaves a reader facing the same station. -/
theorem Facing.reads {before after : Frame.Reader π} {bytes : List UInt8} {found : List Frame}
    (facing : Facing station far near before) (reads : before.Reads bytes found after) :
    Facing station far near after ∧ after.line.peer = before.line.peer := by
  have kept := reads.yields.kept
  have peer : after.line.peer = before.line.peer := by rw [kept]
  have accepting : after.line.Accepting := by
    rw [kept]
    exact ⟨facing.accepting.takes, facing.accepting.flushFaults⟩
  exact ⟨⟨(reads.yields.coming facing.lossless).1, accepting, peer ▸ facing.attentive,
    reads.limit.trans facing.limit⟩, peer⟩

variable {destination : UInt8} {payload : List UInt8}

/-! ## Sending -/

/-- A payload within the limit may be sent. -/
theorem Resting.check (resting : master.Resting station far near)
    (small : destination ≤ Frame.maxId) (fits : payload.length ≤ near) :
    master.options.check destination payload = .ok () := by
  unfold MasterOptions.check
  rw [if_neg (UInt8.not_lt.2 small), resting.options, if_neg (Nat.not_lt.2 fits)]

/-- What a resting master has to drop, it drops before a request is written. -/
theorem Resting.send [Peer π] (resting : master.Resting station far near)
    (small : destination ≤ Frame.maxId) (fits : payload.length ≤ near) :
    ∃ reader : Frame.Reader π,
      master.send destination payload true =
        ({ master with reader, pending := none, stale := false } : Master π).post
          (master.frameOf destination payload true) ∧
      Facing station far near reader ∧ reader.buffer = [] ∧ reader.line.coming = [] ∧
      reader.line.peer = master.reader.line.peer := by
  have coming : master.reader.line.coming = [] :=
    congrArg (List.flatMap Arrival.bytes) resting.silent
  rw [send_of_admitted resting.pending (resting.check small fits)]
  by_cases stale : master.stale = true
  · obtain ⟨lull, last, freshens, done⟩ := master.freshens_freshen
    obtain ⟨_, _, reads⟩ := freshens.reads
    obtain ⟨facing, peer⟩ := resting.facing.reads reads
    have looked : master.reader.look.2.line.Lossless :=
      ⟨resting.facing.lossless.arrivals, resting.facing.lossless.idle⟩
    have unbroken : lull.result = .ok () := by
      rcases Drains.of_lossless freshens looked with rfl | ⟨rfl, _⟩ <;> rfl
    have whole := (reads.yields.coming resting.facing.lossless).2
    rw [coming] at whole
    refine ⟨last.discard, ?_,
      ⟨facing.lossless, facing.accepting, facing.attentive, facing.limit⟩, rfl,
      (List.append_eq_nil_iff.1 whole.symm).2, peer⟩
    rw [if_pos stale, done, unbroken]
    dsimp only
    rw [resting.pending]
  · have calm := Bool.eq_false_iff.2 stale
    have same : ({ master with pending := none, stale := false } : Master π) = master := by
      rw [← resting.pending, ← calm]
    exact ⟨master.reader, by rw [if_neg stale, same], resting.facing, resting.buffer calm, coming,
      rfl⟩

/-- A reader with nothing on its way but the reply of the station to a request. -/
structure Asking (station : π → Attended σ) (far near : Nat) (attended : Attended σ) (frame : Frame)
    (reader : Frame.Reader π) : Prop where
  /-- What the reader faces. -/
  facing : Facing station far near reader
  /-- Nothing is buffered. -/
  buffer : reader.buffer = []
  /-- The reply is on its way. -/
  coming : reader.line.coming = (attended.reply frame).getD []
  /-- The station has handled the request. -/
  served : station reader.line.peer = attended.served frame

/-- A resting master writes its request, and the reply of the station is on its way. -/
theorem Resting.asks [Peer π] (relays : Attended.Relays station)
    (resting : master.Resting station far near) (small : destination ≤ Frame.maxId)
    (fits : payload.length ≤ near) (fitsThere : payload.length ≤ far)
    (short : payload.length < Word.bound 32) :
    ∃ reader now, master.send destination payload true =
        (.ok (),
          { master with reader, pending := some ⟨destination, now⟩, stale := false }) ∧
      Asking station far near (station master.reader.line.peer)
        (master.frameOf destination payload true) reader := by
  obtain ⟨reader, sent, facing, empty, silent, peer⟩ := resting.send small fits
  have encoded : (master.frameOf destination payload true).encode =
      .ok (Frame.withChecksum (master.frameOf destination payload true).body) :=
    Frame.encode_eq_ok.2 ⟨resting.source, short, rfl⟩
  obtain ⟨line, transmitted, lossless, accepting, served, coming⟩ :=
    @transmit_relayed _ far _ _ _
      ({ master with reader, pending := none, stale := false } : Master π) _ _ relays
      facing.lossless facing.accepting facing.attentive encoded fitsThere
  have ready := facing.attentive.served (master.frameOf destination payload true)
  dsimp only at served coming transmitted
  rw [← served] at ready
  rw [peer] at served coming
  rw [silent, List.nil_append] at coming
  refine ⟨{ reader with line := line.look.2 }, line.look.1, ?_,
    ⟨⟨⟨lossless.arrivals, lossless.idle⟩, ⟨accepting.takes, accepting.flushFaults⟩, ready,
      facing.limit⟩, empty, coming, served⟩⟩
  rw [sent, post, encoded]
  dsimp only
  rw [transmitted]
  rfl

/-! ## Replies that come back -/

/-- Once the reader of a master that has asked has nothing to come, the master rests again. -/
theorem Asking.resting {attended : Attended σ} {frame : Frame} {before reader : Frame.Reader π}
    {bytes : List UInt8} {found : List Frame}
    (asking : Asking station far near attended frame before) (stale : Bool)
    (resting : master.Resting station far near) (reads : before.Reads bytes found reader)
    (silent : reader.line.arrivals = []) (buffer : stale = false → reader.buffer = []) :
    ({ master with reader, pending := none, stale } : Master π).Resting station far near ∧
      station reader.line.peer = attended.served frame := by
  obtain ⟨facing, peer⟩ := asking.facing.reads reads
  exact ⟨⟨rfl, resting.source, resting.options, facing, buffer, silent⟩, peer ▸ asking.served⟩

/-- A request that the station replies to is answered with its reply, at the first attempt. -/
theorem request_of_resting [Peer π] (relays : Attended.Relays station)
    (resting : master.Resting station far near)
    (own : (station master.reader.line.peer).station.node.id = destination)
    (small : destination ≤ Frame.maxId) (fits : payload.length ≤ near)
    (fitsThere : payload.length ≤ far) (short : payload.length < Word.bound 32)
    {content bytes : List UInt8}
    (answered : (station master.reader.line.peer).reply
      (master.frameOf destination payload true) = some bytes)
    (encoded : ((station master.reader.line.peer).station.node.replyFrame
      (master.frameOf destination payload true) content).encode = .ok bytes)
    (within : content.length ≤ near) :
    ∃ reader, master.request destination payload =
        (.ok ((station master.reader.line.peer).station.node.replyFrame
          (master.frameOf destination payload true) content),
          { master with reader, pending := none, stale := false }) ∧
      ({ master with reader, pending := none, stale := false } : Master π).Resting station far
        near ∧
      station reader.line.peer =
        (station master.reader.line.peer).served (master.frameOf destination payload true) := by
  obtain ⟨before, now, sent, asking⟩ := resting.asks relays small fits fitsThere short
  have coming := asking.coming
  rw [answered, Option.getD_some] at coming
  rw [← asking.facing.limit] at within
  have whole := encoded
  rw [← List.nil_append bytes, ← asking.buffer, ← coming] at whole
  obtain ⟨heard, buffer, silent⟩ := before.next_of_frame asking.facing.lossless whole within
  cases next : before.next with
  | mk reading reader =>
    rw [next] at heard buffer silent
    obtain ⟨_, reads⟩ := Frame.Reader.reads_of_next next
    obtain ⟨rested, served⟩ := asking.resting false resting reads silent fun _ => buffer
    refine ⟨reader, ?_, rested, served⟩
    have attempted : master.attempt destination payload =
        (.ok ((station master.reader.line.peer).station.node.replyFrame
          (master.frameOf destination payload true) content),
          { master with reader, pending := none, stale := false }) := by
      unfold attempt
      rw [sent]
      dsimp only
      rw [receive_of_pending rfl, await_of_next next]
      rw [heard, verdict?_frame, if_pos]
      simp [MasterOptions.isReply, Node.replyFrame, own, frameOf]
    rw [request, requestFrom, attempted]

end Multidrop.Master
