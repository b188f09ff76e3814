import Multidrop.Frame.Writer
import Multidrop.Proofs.Frame.Layout
import Multidrop.Proofs.Line.Offer

/-!
# What a writer does to its line

Writes and flushes are made one after another, and what a line makes of each is in its script. The
acts of a writer that sends some bytes (`Frame.Sends`) always offer exactly the bytes that the line
has not taken yet, so that what it has taken is the front of what was to be sent, and they end with
a flush that succeeds or with the failure that is returned. A writer that encodes each frame into a
buffer of its own clears it first (`Frame.Buffered.send`), so sending a frame never depends on the
frames before it, whatever became of them (`Frame.Buffered.sendings_sendAll`).
-/
namespace Multidrop

namespace Line

/-- One thing that is done to a line in order to write, and what comes of it. -/
inductive Act where
  /-- Bytes are offered: how many of them are taken. -/
  | write (offered : List UInt8) (result : Except Fault.Kind Nat)
  /-- The line is flushed: the fault, if there is one. -/
  | flush (fault : Option Fault.Kind)

/-- The bytes that a line takes in an act. -/
def Act.taken : Act → List UInt8
  | .write offered (.ok count) => offered.take count
  | .write _ (.error _) | .flush _ => []

/-- The fault that an act meets, if it meets one. -/
def Act.fault? : Act → Option Fault.Kind
  | .write _ (.ok _) => none
  | .write _ (.error kind) => some kind
  | .flush fault => fault

/-- The bytes that a line takes in acts that follow one another. -/
def taken (acts : List Act) : List UInt8 := acts.flatMap Act.taken

variable {π : Type} [Peer π] {line between after : Line π} {acts others : List Act}

/-- Acts take a line to another. -/
inductive Does : Line π → List Act → Line π → Prop
  /-- Nothing is done. -/
  | nothing {line : Line π} : Does line [] line
  /-- A write comes first. -/
  | write {line between after : Line π} {offered : List UInt8} {result : Except Fault.Kind Nat}
      {acts : List Act} (wrote : line.write offered = (result, between))
      (later : Does between acts after) : Does line (.write offered result :: acts) after
  /-- A flush comes first. -/
  | flush {line between after : Line π} {fault : Option Fault.Kind} {acts : List Act}
      (flushed : line.flush = (fault, between)) (later : Does between acts after) :
      Does line (.flush fault :: acts) after

/-- Acts may follow acts. -/
theorem Does.append (first : line.Does acts between) (second : between.Does others after) :
    line.Does (acts ++ others) after := by
  induction first with
  | nothing => exact second
  | write wrote _ ih => exact .write wrote (ih second)
  | flush flushed _ ih => exact .flush flushed (ih second)

/-- What acts take comes behind what was written before. -/
theorem Does.written_eq (does : line.Does acts after) :
    after.written = line.written ++ taken acts := by
  induction does with
  | nothing => exact (List.append_nil _).symm
  | @write line between after offered result acts wrote _ ih =>
    rw [taken, List.flatMap_cons, ih]
    cases result with
    | ok count => rw [written_write_ok wrote, List.append_assoc]; rfl
    | error kind => rw [written_write_error wrote]; rfl
  | @flush line between after fault acts flushed _ ih =>
    have same := written_flush line
    rw [flushed] at same
    rw [ih, same]
    rfl

end Line

namespace Frame

open Line (Act taken)

variable {bytes offered : List UInt8} {acts front back : List Act} {result : Except Error Unit}

/-! ## Sending bytes -/

/-- The acts that send some bytes, and what is returned. Every write offers all that is left. -/
inductive Sends : List UInt8 → List Act → Except Error Unit → Prop
  /-- Nothing is left, and a flush succeeds. -/
  | flushed : Sends [] [.flush none] (.ok ())
  /-- Nothing is left, and a flush is made again. -/
  | unsettled {kind : Fault.Kind} {acts : List Act} {result : Except Error Unit}
      (retried : isRetried kind = true) (later : Sends [] acts result) :
      Sends [] (.flush (some kind) :: acts) result
  /-- Nothing is left, and a flush fails. -/
  | stuck {kind : Fault.Kind} (final : isRetried kind = false) :
      Sends [] [.flush (some kind)] (.error (.line ⟨kind, none⟩))
  /-- Some bytes are taken. -/
  | took {bytes : List UInt8} {count : Nat} {acts : List Act} {result : Except Error Unit}
      (later : Sends (bytes.drop (count + 1)) acts result) :
      Sends bytes (.write bytes (.ok (count + 1)) :: acts) result
  /-- A write is made again. -/
  | again {bytes : List UInt8} {kind : Fault.Kind} {acts : List Act} {result : Except Error Unit}
      (retried : isRetried kind = true) (later : Sends bytes acts result) :
      Sends bytes (.write bytes (.error kind) :: acts) result
  /-- A write takes nothing. -/
  | closed {bytes : List UInt8} : Sends bytes [.write bytes (.ok 0)] (.error .closed)
  /-- A write fails. -/
  | failed {bytes : List UInt8} {kind : Fault.Kind} (final : isRetried kind = false) :
      Sends bytes [.write bytes (.error kind)] (.error (.line ⟨kind, none⟩))

/-- What was taken before a write, and what the write offers, are the bytes to be sent. -/
theorem Sends.taken_offered {wrote : Except Fault.Kind Nat} (sends : Sends bytes acts result)
    (split : acts = front ++ .write offered wrote :: back) : taken front ++ offered = bytes := by
  induction sends generalizing front with
  | flushed | stuck =>
    rcases List.cons_eq_append_iff.1 split with ⟨_, same⟩ | ⟨rest, _, none⟩
    · cases same
    · exact absurd none.symm (List.append_ne_nil_of_right_ne_nil _ (List.cons_ne_nil _ _))
  | closed | failed =>
    rcases List.cons_eq_append_iff.1 split with ⟨rfl, same⟩ | ⟨rest, _, none⟩
    · cases same
      rfl
    · exact absurd none.symm (List.append_ne_nil_of_right_ne_nil _ (List.cons_ne_nil _ _))
  | unsettled _ _ ih =>
    rcases List.cons_eq_append_iff.1 split with ⟨_, same⟩ | ⟨rest, rfl, later⟩
    · cases same
    · have whole := ih later
      exact whole
  | again _ _ ih =>
    rcases List.cons_eq_append_iff.1 split with ⟨rfl, same⟩ | ⟨rest, rfl, later⟩
    · cases same
      rfl
    · have whole := ih later
      exact whole
  | @took bytes count acts result _ ih =>
    rcases List.cons_eq_append_iff.1 split with ⟨rfl, same⟩ | ⟨rest, rfl, later⟩
    · cases same
      rfl
    · change bytes.take (count + 1) ++ taken rest ++ offered = bytes
      rw [List.append_assoc, ih later, List.take_append_drop]

/-- What is taken is the front of the bytes to be sent. -/
theorem Sends.taken_prefix (sends : Sends bytes acts result) : taken acts <+: bytes := by
  induction sends with
  | flushed | stuck | closed | failed => exact List.nil_prefix
  | unsettled _ _ ih | again _ _ ih => exact ih
  | @took bytes count acts result _ ih =>
    obtain ⟨left, whole⟩ := ih
    refine ⟨left, ?_⟩
    rw [taken, List.flatMap_cons, List.append_assoc]
    change bytes.take (count + 1) ++ (taken acts ++ left) = bytes
    rw [whole, List.take_append_drop]

/-- Something is done. -/
theorem Sends.ne_nil (sends : Sends bytes acts result) : acts ≠ [] := by
  cases sends <;> exact List.cons_ne_nil _ _

/-- Sending succeeds exactly where everything is taken and then a flush succeeds. -/
theorem Sends.ok_iff (sends : Sends bytes acts result) :
    result = .ok () ↔ ∃ writes, acts = writes ++ [.flush none] ∧ taken writes = bytes := by
  constructor
  · intro ok
    induction sends with
    | flushed => exact ⟨[], rfl, rfl⟩
    | stuck | closed | failed => cases ok
    | unsettled _ _ ih | again _ _ ih =>
      obtain ⟨writes, rfl, whole⟩ := ih ok
      exact ⟨_ :: writes, rfl, whole⟩
    | @took bytes count acts result _ ih =>
      obtain ⟨writes, rfl, whole⟩ := ih ok
      refine ⟨_ :: writes, rfl, ?_⟩
      rw [taken, List.flatMap_cons]
      change bytes.take (count + 1) ++ taken writes = bytes
      rw [whole, List.take_append_drop]
  · rintro ⟨writes, split, -⟩
    have last : acts.getLast? = some (.flush none) := by rw [split, List.getLast?_concat]
    clear split
    induction sends with
    | flushed => rfl
    | stuck | closed | failed => cases last
    | unsettled _ later ih | again _ later ih | took later ih =>
      rw [List.getLast?_cons_of_ne_nil later.ne_nil] at last
      exact ih last

/-- Where a write takes nothing, the line counts as closed. -/
theorem Sends.eq_closed (sends : Sends bytes acts result)
    (stalled : .write offered (.ok 0) ∈ acts) : result = .error .closed := by
  induction sends with
  | flushed | stuck | failed => cases List.mem_singleton.1 stalled
  | closed => rfl
  | unsettled _ _ ih | again _ _ ih | took _ ih =>
    rcases List.mem_cons.1 stalled with first | later
    · cases first
    · exact ih later

/-- A fault after which no other attempt is made is returned. -/
theorem Sends.eq_error {act : Act} {kind : Fault.Kind} (sends : Sends bytes acts result)
    (there : act ∈ acts) (failed : act.fault? = some kind) (final : isRetried kind = false) :
    result = .error (.line ⟨kind, none⟩) := by
  induction sends with
  | flushed | closed =>
    rw [List.mem_singleton.1 there] at failed
    cases failed
  | stuck | failed =>
    rw [List.mem_singleton.1 there] at failed
    cases failed
    rfl
  | unsettled retried _ ih | again retried _ ih =>
    rcases List.mem_cons.1 there with rfl | later
    · cases failed
      rw [final] at retried
      cases retried
    · exact ih later
  | took _ ih =>
    rcases List.mem_cons.1 there with rfl | later
    · cases failed
    · exact ih later

/-- Sending goes on until everything is sent, a write takes nothing, or a fault is met after which
no other attempt is made. -/
theorem Sends.ends (sends : Sends bytes acts result) :
    result = .ok () ∨ (∃ offered, .write offered (.ok 0) ∈ acts) ∨
      ∃ act ∈ acts, ∃ kind, act.fault? = some kind ∧ isRetried kind = false := by
  induction sends with
  | flushed => exact .inl rfl
  | closed => exact .inr (.inl ⟨_, List.mem_cons_self⟩)
  | @stuck kind final => exact .inr (.inr ⟨_, List.mem_cons_self, kind, rfl, final⟩)
  | @failed bytes kind final => exact .inr (.inr ⟨_, List.mem_cons_self, kind, rfl, final⟩)
  | unsettled _ _ ih | took _ ih | again _ _ ih =>
    rcases ih with ok | ⟨offered, there⟩ | ⟨act, there, met⟩
    · exact .inl ok
    · exact .inr (.inl ⟨offered, List.mem_cons_of_mem _ there⟩)
    · exact .inr (.inr ⟨act, List.mem_cons_of_mem _ there, met⟩)

namespace Writer

variable {π : Type} [Peer π]

/-- Flushing sends nothing more. -/
theorem sends_flush (writer : Writer π) :
    ∃ acts, writer.line.Does acts writer.flush.2.line ∧ Sends [] acts writer.flush.1 ∧
      writer.flush.2.limit = writer.limit := by
  obtain ⟨limit, line⟩ := writer
  unfold flush
  dsimp only
  fun_induction line.settle isRetried with
  | case1 line after flushed => exact ⟨_, .flush flushed .nothing, .flushed, rfl⟩
  | case2 line kind after flushed less again ih =>
    obtain ⟨acts, does, sends, same⟩ := ih
    exact ⟨_, .flush flushed does, .unsettled again sends, same⟩
  | case3 line kind after flushed less final =>
    exact ⟨_, .flush flushed .nothing, .stuck (Bool.not_eq_true _ ▸ final), rfl⟩

/-- Bytes are sent as they are. -/
theorem sends_sendRaw (bytes : List UInt8) (writer : Writer π) :
    ∃ acts, writer.line.Does acts (writer.sendRaw bytes).2.line ∧
      Sends bytes acts (writer.sendRaw bytes).1 ∧
      (writer.sendRaw bytes).2.limit = writer.limit := by
  obtain ⟨limit, line⟩ := writer
  unfold sendRaw
  dsimp only
  fun_induction line.offer isRetried bytes with
  | case1 line => exact sends_flush { limit, line }
  | case2 bytes line some after wrote => exact ⟨_, .write wrote .nothing, .closed, rfl⟩
  | case3 bytes line some count after wrote ih =>
    obtain ⟨acts, does, sends, same⟩ := ih
    exact ⟨_, .write wrote does, .took sends, same⟩
  | case4 bytes line some kind after wrote again ih =>
    obtain ⟨acts, does, sends, same⟩ := ih
    exact ⟨_, .write wrote does, .again again sends, same⟩
  | case5 bytes line some kind after wrote final =>
    exact ⟨_, .write wrote .nothing, .failed (Bool.not_eq_true _ ▸ final), rfl⟩

end Writer

/-! ## Sending frames -/

/-- A writer with the buffer that it encodes frames into. -/
structure Buffered (π : Type) where
  /-- The line and the limit. -/
  writer : Writer π
  /-- What was encoded last, or a part of it. -/
  buffer : List UInt8 := []

/-- What became of a frame that was to be sent. -/
structure Sending where
  /-- The frame. -/
  frame : Frame
  /-- What is returned. -/
  result : Except Error Unit
  /-- What is done to the line. -/
  acts : List Act

/-- What holds of a frame that is sent by a writer with a limit. -/
structure Sending.Sound (limit : Nat) (sending : Sending) : Prop where
  /-- Every write offers the bytes of the frame that the line has not taken. -/
  offered : ∀ bytes, sending.frame.encode = .ok bytes → ∀ front offered wrote back,
    sending.acts = front ++ .write offered wrote :: back → taken front ++ offered = bytes
  /-- What the line takes is the front of the frame. -/
  front : ∀ bytes, sending.frame.encode = .ok bytes → taken sending.acts <+: bytes
  /-- Sending succeeds exactly where the line takes the whole frame and then a flush succeeds. -/
  ok : sending.result = .ok () ↔ ∃ bytes writes, sending.frame.encode = .ok bytes ∧
    sending.acts = writes ++ [.flush none] ∧ taken writes = bytes
  /-- A payload above the limit is refused, and nothing is done. -/
  large : limit < sending.frame.payload.length → sending.acts = [] ∧
    sending.result = .error (.payloadTooLarge sending.frame.payload.length limit)
  /-- So is a source of more than seven bits. -/
  id : sending.frame.payload.length ≤ limit → 128 ≤ sending.frame.source.toNat →
    sending.acts = [] ∧ sending.result = .error (.invalidId sending.frame.source)
  /-- Nothing is done for a frame that has no encoding. -/
  refused : ∀ error, sending.frame.encode = .error error → sending.acts = []
  /-- Where a write takes nothing, the line counts as closed. -/
  closed : ∀ offered, .write offered (.ok 0) ∈ sending.acts → sending.result = .error .closed
  /-- Any other fault is returned, unless another attempt is made after it. -/
  failed : ∀ act ∈ sending.acts, ∀ kind, act.fault? = some kind → isRetried kind = false →
    sending.result = .error (.line ⟨kind, none⟩)
  /-- Sending fails for no other reason. -/
  ends : sending.result = .ok () ∨ limit < sending.frame.payload.length ∨
    (∃ error, sending.frame.encode = .error error) ∨
    (∃ offered, .write offered (.ok 0) ∈ sending.acts) ∨
    ∃ act ∈ sending.acts, ∃ kind, act.fault? = some kind ∧ isRetried kind = false

namespace Buffered

variable {π : Type} [Peer π]

/-- Encode a frame into the buffer and send what is there. The buffer is cleared first. -/
def send (frame : Frame) (buffered : Buffered π) : Except Error Unit × Buffered π :=
  let limit := buffered.writer.limit
  if limit < frame.payload.length then
    (.error (.payloadTooLarge frame.payload.length limit), buffered)
  else
    let buffered := { buffered with buffer := [] }
    match writeInto buffered.buffer frame with
    | (.error error, buffer) => (.error error, { buffered with buffer })
    | (.ok (), buffer) =>
      let (result, writer) := buffered.writer.sendRaw buffer
      (result, { writer, buffer })

/-- Send frames one after another, whatever becomes of each. Returns the results. -/
def sendAll : List Frame → Buffered π → List (Except Error Unit) × Buffered π
  | [], buffered => ([], buffered)
  | frame :: frames, buffered =>
    let (result, between) := buffered.send frame
    let (results, after) := between.sendAll frames
    (result :: results, after)

/-- Whatever is left in the buffer, the frame is sent as a writer without one sends it. -/
theorem send_eq (frame : Frame) (buffered : Buffered π) :
    (buffered.send frame).1 = (buffered.writer.send frame).1 ∧
      (buffered.send frame).2.writer = (buffered.writer.send frame).2 := by
  unfold send Writer.send encodeWithin
  dsimp only
  by_cases large : buffered.writer.limit < frame.payload.length
  · rw [if_pos large, if_pos large]
    exact ⟨rfl, rfl⟩
  · rw [if_neg large, if_neg large, writeInto_eq]
    unfold encodeOnto
    cases frame.encode with
    | error error => exact ⟨rfl, rfl⟩
    | ok bytes => exact ⟨rfl, rfl⟩

end Buffered

/-- A frame that is refused is sound, since nothing is done. -/
theorem Sending.Sound.of_refused {limit : Nat} {frame : Frame} {error : Error}
    (refused : frame.encodeWithin limit = .error error) :
    Sending.Sound limit { frame, result := .error error, acts := [] } := by
  have none {front back : List Act} {act : Act} : [] ≠ front ++ act :: back :=
    (List.append_ne_nil_of_right_ne_nil _ (List.cons_ne_nil _ _)).symm
  unfold encodeWithin at refused
  refine
    { offered := fun _ _ _ _ _ _ split => absurd split none
      front := fun _ _ => List.nil_prefix
      ok := ⟨nofun, fun ⟨_, _, _, split, _⟩ => absurd split none⟩
      large := fun large => ⟨rfl, ?_⟩
      id := fun fits source => ⟨rfl, ?_⟩
      refused := fun _ _ => rfl
      closed := nofun
      failed := nofun
      ends := .inr ?_ }
  · rw [if_pos large] at refused
    cases refused
    rfl
  · rw [if_neg (Nat.not_lt_of_le fits), encode, if_pos (show maxId < frame.source from source)]
      at refused
    cases refused
    rfl
  · by_cases large : limit < frame.payload.length
    · exact .inl large
    · rw [if_neg large] at refused
      exact .inr (.inl ⟨error, refused⟩)

/-- A frame of which the encoding is sent is sound. -/
theorem Sending.Sound.of_sends {limit : Nat} {frame : Frame}
    (encoded : frame.encodeWithin limit = .ok bytes) (sends : Sends bytes acts result) :
    Sending.Sound limit { frame, result, acts } := by
  unfold encodeWithin at encoded
  by_cases large : limit < frame.payload.length
  · rw [if_pos large] at encoded
    cases encoded
  rw [if_neg large] at encoded
  have small := (encode_eq_ok.1 encoded).1
  have same {other : List UInt8} (also : frame.encode = .ok other) : bytes = other := by
    rw [encoded] at also
    exact Except.ok.inj also
  refine
    { offered := fun _ also _ _ _ _ split => same also ▸ sends.taken_offered split
      front := fun _ also => same also ▸ sends.taken_prefix
      ok := sends.ok_iff.trans ⟨?_, ?_⟩
      large := fun above => absurd above large
      id := fun _ source => absurd (Nat.lt_of_le_of_lt small (by decide)) (Nat.not_lt_of_le source)
      refused := fun _ none => nomatch encoded.symm.trans none
      closed := fun _ => sends.eq_closed
      failed := fun _ there _ => sends.eq_error there
      ends := sends.ends.imp_right fun broken => .inr (.inr broken) }
  · rintro ⟨writes, split, whole⟩
    exact ⟨bytes, writes, encoded, split, whole⟩
  · rintro ⟨_, writes, also, split, whole⟩
    exact ⟨writes, split, whole.trans (same also).symm⟩

namespace Buffered

variable {π : Type} [Peer π]

/-- Sending one frame is sound, whatever is left in the buffer. -/
theorem sound_send (frame : Frame) (buffered : Buffered π) :
    ∃ acts, buffered.writer.line.Does acts (buffered.send frame).2.writer.line ∧
      (buffered.send frame).2.writer.limit = buffered.writer.limit ∧
      Sending.Sound buffered.writer.limit
        { frame, result := (buffered.send frame).1, acts } := by
  obtain ⟨result, writer⟩ := send_eq frame buffered
  rw [result, writer, Writer.send]
  cases encoded : frame.encodeWithin buffered.writer.limit with
  | error error => exact ⟨[], .nothing, rfl, .of_refused encoded⟩
  | ok bytes =>
    obtain ⟨acts, does, sends, limit⟩ := buffered.writer.sends_sendRaw bytes
    exact ⟨acts, does, limit, .of_sends encoded sends⟩

/-- Frames that are sent one after another, whatever becomes of each and whatever is left in the
buffer at first, are each sent soundly, and what the line takes of them follows what was written
before. -/
theorem sendings_sendAll (frames : List Frame) (buffered : Buffered π) :
    let (results, after) := buffered.sendAll frames
    ∃ sendings : List Sending, sendings.map Sending.frame = frames ∧
      sendings.map Sending.result = results ∧
      buffered.writer.line.Does (sendings.flatMap Sending.acts) after.writer.line ∧
      after.writer.line.written = buffered.writer.line.written ++
        sendings.flatMap (fun sending => taken sending.acts) ∧
      ∀ sending ∈ sendings, sending.Sound buffered.writer.limit := by
  induction frames generalizing buffered with
  | nil => exact ⟨[], rfl, rfl, .nothing, (List.append_nil _).symm, nofun⟩
  | cons frame frames ih =>
    obtain ⟨acts, does, limit, sound⟩ := buffered.sound_send frame
    obtain ⟨sendings, rest, results, later, written, sounds⟩ := ih (buffered.send frame).2
    rw [limit] at sounds
    refine ⟨⟨frame, (buffered.send frame).1, acts⟩ :: sendings, ?_, ?_, does.append later, ?_,
      List.forall_mem_cons.2 ⟨sound, sounds⟩⟩
    · rw [List.map_cons, rest]
    · rw [List.map_cons, results]
      rfl
    · rw [List.flatMap_cons, ← List.append_assoc, ← does.written_eq]
      exact written

/-- A frame whose writing breaks off after three bytes is followed by a whole one, though bytes are
left in the buffer and the flush is blocked once. -/
theorem sendings_sendAll_of_broken :
    let frame : Frame := { source := 1, destination := 2, payload := [0x30] }
    let line : Line Script :=
      { takes := [.accept 2, .fault .interrupted, .accept 1, .fault .brokenPipe, .accept 4]
        flushFaults := [.wouldBlock], peer := ⟨[]⟩ }
    let buffered : Buffered Script := { writer := { limit := 1, line }, buffer := [0xff] }
    ∃ (sendings : List Sending) (bytes : List UInt8), frame.encode = .ok bytes ∧
      sendings.map Sending.frame = [frame, frame] ∧
      sendings.map Sending.result = (buffered.sendAll [frame, frame]).1 ∧
      (buffered.sendAll [frame, frame]).1.map Except.toBool = [false, true] ∧
      sendings.flatMap (fun sending => taken sending.acts) = bytes.take 3 ++ bytes ∧
      ∀ sending ∈ sendings, sending.Sound 1 := by
  intro frame line buffered
  have encoded : frame.encode = .ok (withChecksum frame.body) :=
    encode_eq_ok.2 ⟨by decide, by decide, rfl⟩
  obtain ⟨sendings, frames, results, _, written, sound⟩ := sendings_sendAll [frame, frame] buffered
  have succeeded : (buffered.sendAll [frame, frame]).1.map Except.toBool = [false, true] := by
    decide +kernel
  have whole : (buffered.sendAll [frame, frame]).2.writer.line.written =
      (withChecksum frame.body).take 3 ++ withChecksum frame.body := by
    decide +kernel
  exact ⟨sendings, _, encoded, frames, results, succeeded, written.symm.trans whole, sound⟩

end Buffered

end Frame

end Multidrop
