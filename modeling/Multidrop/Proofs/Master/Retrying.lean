import Mathlib.Data.List.Chain
import Multidrop.Proofs.Master.Draining

/-!
# Repeated requests

A request is one frame, and every attempt to send it writes a part of one copy of that frame
(`attempts_attempt`). Of all that can go wrong with an attempt only one thing is transient: that the
time to wait for the reply is over (`Attempts.timeout_of_transient`). Then the copy was written as a
whole, no reply is awaited, and the line is drained before the next copy. A copy that the line cut
short is never followed by another one (`request_repeats`).
-/
namespace Multidrop

namespace Frame

/-- The bytes of a frame on a line; none where it cannot be sent. -/
def image (frame : Frame) : List UInt8 := frame.encode.toOption.getD []

/-- The bytes of a frame that can be sent. -/
theorem image_of_encode {frame : Frame} {bytes : List UInt8} (encoded : frame.encode = .ok bytes) :
    frame.image = bytes := by
  rw [image, encoded]
  rfl

/-- Why a frame is not sent is nothing that bad bytes cause. -/
theorem isWireFault_of_encode {frame : Frame} {error : Error}
    (unframed : frame.encode = .error error) : error.isWireFault = false := by
  unfold encode at unframed
  split at unframed
  · cases unframed
    rfl
  · split at unframed <;> cases unframed
    rfl

/-- A failure of the line that is heard is nothing that bad bytes cause. -/
theorem Reading.isWireFault_of_broken {reading : Reading} {error : Error}
    (broken : reading.heard = .broken error) : error.isWireFault = false := by
  unfold heard at broken
  split at broken
  · cases broken
  · cases broken
  · split at broken <;> cases broken
    rfl
  · rename_i other _ _ _
    by_cases wire : other.isWireFault = true
    · rw [if_pos wire] at broken
      cases broken
    · rw [if_neg wire] at broken
      cases broken
      exact Bool.eq_false_iff.2 wire

end Frame

namespace Master

open Multidrop.Frame (Reader Reading)

variable {π : Type}

/-! ## Faults that last -/

/-- The end of dropping what still arrives is nothing that bad bytes cause. -/
theorem Drains.isWireFault_of_broken {options : MasterOptions} {since : Nat}
    {reader last : Reader π} {lull : Lull} {error : Frame.Error}
    (drains : Drains options since reader lull last) (broken : lull = .broken error) :
    error.isWireFault = false := by
  -- Noise is dropped like frames, so only a fault of the line can end the dropping with an error.
  induction drains with
  | expired => cases broken
  | @ended reader last reading lull _ _ ends =>
    rw [broken] at ends
    cases heard : reading.heard with
    | broken other =>
      rw [heard] at ends
      cases ends
      exact Reading.isWireFault_of_broken heard
    | _ =>
      rw [heard] at ends
      cases ends
  | dropped _ _ _ _ ih => exact ih broken

/-- A payload that may not be sent now may not be sent later. -/
theorem isTransient_of_check {options : MasterOptions} {destination : UInt8} {payload : List UInt8}
    {error : MasterError} (refused : options.check destination payload = .error error) :
    error.isTransient = false := by
  unfold MasterOptions.check at refused
  split at refused
  · cases refused
    rfl
  · split at refused <;> cases refused
    rfl

/-- What a wait hears that ends it with an error is not transient. -/
theorem isTransient_of_verdict? {options : MasterOptions} {destination : UInt8}
    {reading : Reading} {error : MasterError}
    (ends : verdict? options destination reading.heard = some (.error error)) :
    error.isTransient = false := by
  cases heard : reading.heard with
  | frame frame =>
    rw [heard, verdict?_frame] at ends
    split at ends <;> cases ends
  | noise | quiet =>
    rw [heard] at ends
    cases ends
  | closed =>
    rw [heard] at ends
    cases ends
    rfl
  | broken cause =>
    rw [heard] at ends
    cases ends
    exact Reading.isWireFault_of_broken heard

/-! ## One attempt -/

/-- The line is drained before a request is attempted: what still arrives is dropped until the time
is over, a read brings nothing in time or the line has ended, and the attempt is made of the master
that this leaves. -/
def Drained [Peer π] (destination : UInt8) (payload : List UInt8) (master : Master π) : Prop :=
  ∃ lull last, master.Freshens lull last ∧ lull.result = .ok () ∧
    master.attempt destination payload =
      ({ master with reader := last.discard, stale := false } : Master π).attempt destination
        payload

/-- How an attempt of a master that awaits no reply goes: the bytes written and what becomes of the
master. -/
inductive Attempts (destination : UInt8) (payload : List UInt8) (master : Master π) :
    List UInt8 → Except MasterError Frame × Master π → Prop
  /-- Nothing is written, for a reason that lasts. -/
  | unsent {reader : Reader π} {stale : Bool} {error : MasterError}
      (lasting : error.isTransient = false)
      (written : reader.line.written = master.reader.line.written) :
      Attempts destination payload master [] (.error error, { master with reader, stale })
  /-- The line fails behind some part of the request. -/
  | cut {reader : Reader π} {stale : Bool} {part left : List UInt8} {fault : Fault}
      (encoded : (master.frameOf destination payload true).encode = .ok (part ++ left))
      (written : reader.line.written = master.reader.line.written ++ part) :
      Attempts destination payload master part
        (.error (.frame (.line fault)), { master with reader, stale })
  /-- All of the request is written, and its reply is waited for. -/
  | asked {reader : Reader π} {stale : Bool} {bytes : List UInt8} {sentAt : Nat}
      {result : Except MasterError Frame × Master π}
      (encoded : (master.frameOf destination payload true).encode = .ok bytes)
      (written : reader.line.written = master.reader.line.written ++ bytes)
      (awaits : Awaits ⟨destination, sentAt⟩
        { master with reader, stale, pending := some ⟨destination, sentAt⟩ } result) :
      Attempts destination payload master bytes result

variable {destination : UInt8} {payload : List UInt8} {master : Master π} {bytes : List UInt8}
  {result : Except MasterError Frame × Master π}

/-- What comes of an attempt once this has come of writing the request: if it was written, its reply
is waited for. -/
def followUp : Except MasterError Unit × Master π → Except MasterError Frame × Master π
  | (.error error, after) => (.error error, after)
  | (.ok (), after) => after.receive

/-- An attempt writes the request and follows it up. -/
theorem attempt_eq [Peer π] (destination : UInt8) (payload : List UInt8) (master : Master π) :
    master.attempt destination payload = followUp (master.send destination payload true) := rfl

/-- Writing the request and following it up is an attempt, whatever was read before. -/
theorem attempts_of_copies {reader : Reader π} {stale : Bool}
    {posted : Except MasterError Unit × Master π}
    (silent : reader.line.written = master.reader.line.written)
    (copies : Copies (master.frameOf destination payload true) { master with reader, stale } bytes
      posted) : Attempts destination payload master bytes (followUp posted) := by
  cases copies with
  | unframed unframed => exact .unsent (Frame.isWireFault_of_encode unframed) silent
  | @cut line part left fault encoded written =>
    exact .cut encoded (by rw [← silent]; exact written)
  | @whole line bytes encoded written =>
    rw [followUp, receive_of_pending rfl]
    exact .asked encoded (by rw [← silent]; exact written) (awaits_await _ _)

/-- A master that drains the line first attempts what the drained master does. -/
theorem drained_of_freshens [Peer π] {lull : Lull} {last : Reader π}
    (free : master.pending = none) (admitted : master.options.check destination payload = .ok ())
    (stale : master.stale = true) (freshens : master.Freshens lull last)
    (unbroken : lull.result = .ok ()) : Drained destination payload master := by
  obtain ⟨other, after, again, done⟩ := master.freshens_freshen
  obtain ⟨rfl, rfl⟩ := Drains.unique freshens again
  refine ⟨lull, last, freshens, unbroken, ?_⟩
  have fresh := @send_of_admitted _ _ { master with reader := last.discard, stale := false }
    destination payload free admitted true
  rw [attempt_eq, attempt_eq, fresh, send_of_admitted free admitted, if_pos stale, done, unbroken,
    if_neg Bool.false_ne_true]
  rfl

/-- An attempt of a master that awaits no reply goes in one of these ways; if it writes anything and
a request was given up on, the line has been drained before. -/
theorem attempts_attempt [Peer π] (free : master.pending = none) (destination : UInt8)
    (payload : List UInt8) :
    ∃ bytes, Attempts destination payload master bytes (master.attempt destination payload) ∧
      (bytes ≠ [] → master.stale = true → Drained destination payload master) := by
  rw [attempt_eq]
  cases check : master.options.check destination payload with
  | error error =>
    refine ⟨[], ?_, fun writes => absurd rfl writes⟩
    rw [send_of_refused free check]
    have lasting := isTransient_of_check check
    exact @Attempts.unsent _ _ _ master master.reader master.stale _ lasting rfl
  | ok _ =>
    rw [send_of_admitted free check]
    by_cases stale : master.stale = true
    · obtain ⟨lull, last, freshens, done⟩ := master.freshens_freshen
      have silent : last.discard.line.written = master.reader.line.written := freshens.written
      rw [if_pos stale, done]
      cases ended : lull.result with
      | error error =>
        refine ⟨[], ?_, fun writes => absurd rfl writes⟩
        cases lull with
        | broken cause =>
          cases ended
          exact .unsent (Drains.isWireFault_of_broken freshens rfl) silent
        | expired | quiet | closed => cases ended
      | ok _ =>
        obtain ⟨bytes, copies⟩ := copies_post (master.frameOf destination payload true)
          ({ master with reader := last.discard, stale := false } : Master π)
        exact ⟨bytes, attempts_of_copies silent copies,
          fun _ _ => drained_of_freshens free check stale freshens ended⟩
    · obtain ⟨bytes, copies⟩ :=
        copies_post (master.frameOf destination payload true) master
      rw [if_neg stale]
      exact ⟨bytes, attempts_of_copies rfl copies, fun _ marked => absurd marked stale⟩

/-- Waiting ends with no reply awaited and leaves the rest but the reader and the mark alone. -/
theorem Awaits.kept {pending : Pending} (awaits : Awaits pending master result) :
    ∃ reader stale, result.2 = { master with reader, pending := none, stale } := by
  cases awaits <;> exact ⟨_, _, rfl⟩

/-- So does an attempt. -/
theorem Attempts.kept (attempts : Attempts destination payload master bytes result)
    (free : master.pending = none) :
    ∃ reader stale, result.2 = { master with reader, pending := none, stale } := by
  cases attempts with
  | @unsent reader stale | @cut reader stale =>
    refine ⟨reader, stale, ?_⟩
    rw [← free]
  | asked _ _ awaits => exact awaits.kept

/-- What an attempt writes. -/
theorem Attempts.written (attempts : Attempts destination payload master bytes result) :
    result.2.reader.line.written = master.reader.line.written ++ bytes := by
  cases attempts with
  | unsent _ written => rw [List.append_nil]; exact written
  | cut _ written => exact written
  | asked _ written awaits =>
    obtain ⟨_, _, reads⟩ := awaits.reads
    rw [written_of_reads reads]
    exact written

/-- An attempt writes no more than one copy. -/
theorem Attempts.front (attempts : Attempts destination payload master bytes result) :
    bytes <+: (master.frameOf destination payload true).image := by
  cases attempts with
  | unsent => exact List.nil_prefix
  | cut encoded =>
    rw [Frame.image_of_encode encoded]
    exact List.prefix_append _ _
  | asked encoded =>
    have whole := Frame.image_of_encode encoded
    exact whole ▸ List.prefix_rfl

/-- If an attempt cuts the copy short, the line has failed. -/
theorem Attempts.fault_of_cut (attempts : Attempts destination payload master bytes result)
    (some : bytes ≠ []) (part : bytes ≠ (master.frameOf destination payload true).image) :
    ∃ fault, result.1 = .error (.frame (.line fault)) := by
  cases attempts with
  | unsent => exact absurd rfl some
  | cut => exact ⟨_, rfl⟩
  | asked encoded => exact absurd (Frame.image_of_encode encoded).symm part

/-- An attempt succeeds with a reply of the node asked. -/
theorem Attempts.isReply {frame : Frame}
    (attempts : Attempts destination payload master bytes result) (found : result.1 = .ok frame) :
    master.options.isReply destination frame = true := by
  cases attempts with
  | unsent => cases found
  | cut => cases found
  | asked _ _ awaits =>
    cases awaits with
    | reply _ _ reply =>
      cases found
      exact reply
    | late => cases found
    | ended => cases found

/-- The one transient end of an attempt is that the time to wait is over. All of the request has
been written then, and its reply may still come. -/
theorem Attempts.timeout_of_transient {error : MasterError}
    (attempts : Attempts destination payload master bytes result)
    (failed : result.1 = .error error) (transient : error.isTransient = true) :
    error = .timeout master.options.timeout ∧ result.2.stale = true ∧
      bytes = (master.frameOf destination payload true).image := by
  cases attempts with
  | unsent lasting =>
    cases failed
    exact absurd transient (Bool.eq_false_iff.1 lasting)
  | cut =>
    cases failed
    cases transient
  | asked encoded _ awaits =>
    have whole := (Frame.image_of_encode encoded).symm
    cases awaits with
    | reply => cases failed
    | late =>
      cases failed
      exact ⟨rfl, rfl, whole⟩
    | ended _ _ ends =>
      cases failed
      exact absurd transient (Bool.eq_false_iff.1 (isTransient_of_verdict? ends))

/-! ## All attempts -/

variable [Peer π]

/-- An attempt follows another one, which has ended because the time was over. If it writes
anything, the line is drained before. -/
structure Follows (destination : UInt8) (payload : List UInt8) (earlier later : Master π) :
    Prop where
  /-- What the earlier attempt returned and left. -/
  late : earlier.attempt destination payload = (.error (.timeout earlier.options.timeout), later)
  /-- The later attempt drains the line before it writes. -/
  drained :
    (later.attempt destination payload).2.reader.line.written ≠ later.reader.line.written →
      Drained destination payload later

/-- How a request goes that may be attempted so many times: the masters that the attempts are made
of, and what becomes of the last. -/
structure Repeats (destination : UInt8) (payload : List UInt8) (count : Nat) (master : Master π)
    (tries : List (Master π)) (result : Except MasterError Frame × Master π) : Prop where
  /-- The master makes the first attempt. -/
  first : tries.head? = some master
  /-- No more attempts are made than are allowed; one always is. -/
  few : tries.length ≤ max 1 count
  /-- There is another attempt only when the time is over and the line has been drained. -/
  chain : tries.IsChain (Follows destination payload)
  /-- What is returned and left is what the last attempt returns and leaves. -/
  last : tries.getLast?.map (attempt destination payload) = some result
  /-- A frame that is returned comes from the node asked and is addressed to the master. -/
  reply : ∀ frame, result.1 = .ok frame →
    frame.source = destination ∧ frame.destination = master.options.source
  /-- No reply is awaited, and only the reader and the mark change. -/
  kept : ∃ reader stale, result.2 = { master with reader, pending := none, stale }
  /-- Every attempt writes one copy, the last a part of one; if that is cut short, the line has
  failed. -/
  written : ∃ part, part <+: (master.frameOf destination payload true).image ∧
    result.2.reader.line.written = master.reader.line.written ++
      (List.replicate (tries.length - 1) (master.frameOf destination payload true).image).flatten ++
        part ∧
    (part ≠ [] → part ≠ (master.frameOf destination payload true).image →
      ∃ fault, result.1 = .error (.frame (.line fault)))

/-- A request that is not attempted again is attempted once. -/
theorem repeats_once (free : master.pending = none) (count : Nat) :
    Repeats destination payload count master [master] (master.attempt destination payload) := by
  obtain ⟨bytes, attempts, _⟩ := attempts_attempt free destination payload
  refine ⟨rfl, Nat.le_max_left _ _, List.isChain_singleton _, rfl, fun frame found => ?_,
    attempts.kept free, bytes, attempts.front, ?_, attempts.fault_of_cut⟩
  · have reply := attempts.isReply found
    simpa [MasterOptions.isReply] using reply
  · simpa using attempts.written

/-- After a transient fault all of the request has been written, no reply is awaited, and the master
is marked. -/
theorem late_of_transient {later : Master π} {error : MasterError} (free : master.pending = none)
    (failed : master.attempt destination payload = (.error error, later))
    (transient : error.isTransient = true) :
    error = .timeout master.options.timeout ∧
      ∃ reader, later = { master with reader, pending := none, stale := true } ∧
        reader.line.written =
          master.reader.line.written ++ (master.frameOf destination payload true).image := by
  obtain ⟨bytes, attempts, _⟩ := attempts_attempt free destination payload
  rw [failed] at attempts
  obtain ⟨late, marked, whole⟩ := attempts.timeout_of_transient rfl transient
  obtain ⟨reader, stale, same⟩ := attempts.kept free
  have written := attempts.written
  dsimp only at marked same written
  subst same whole marked
  exact ⟨late, reader, rfl, written⟩

/-- A marked master follows one whose time was over. -/
theorem follows_of_late {later : Master π}
    (late : master.attempt destination payload = (.error (.timeout master.options.timeout), later))
    (free : later.pending = none) (stale : later.stale = true) :
    Follows destination payload master later := by
  obtain ⟨bytes, attempts, drained⟩ := attempts_attempt free destination payload
  refine ⟨late, fun writes => drained (fun none => writes ?_) stale⟩
  rw [attempts.written, none, List.append_nil]

/-- Attempts that come after one whose time was over. -/
theorem Repeats.cons {count : Nat} {later : Master π} {tries : List (Master π)}
    {error : MasterError} (free : master.pending = none)
    (failed : master.attempt destination payload = (.error error, later))
    (transient : error.isTransient = true) (more : 0 < count)
    (repeats : Repeats destination payload count later tries result) :
    Repeats destination payload (count + 1) master (master :: tries) result := by
  obtain ⟨rfl, reader, rfl, copy⟩ := late_of_transient free failed transient
  cases tries with
  | nil => cases repeats.first
  | cons next rest =>
    cases repeats.first
    obtain ⟨part, front, after, cut⟩ := repeats.written
    exact {
      first := rfl
      few := by
        have few := repeats.few
        rw [List.length_cons]
        omega
      chain := List.isChain_cons_cons.2 ⟨follows_of_late failed rfl rfl, repeats.chain⟩
      last := by
        rw [List.getLast?_cons_cons]
        exact repeats.last
      reply := repeats.reply
      kept := repeats.kept
      -- The first attempt has written a whole copy; those of the others come behind it.
      written := by
        refine ⟨part, front, ?_, cut⟩
        rw [after, copy]
        simp only [List.length_cons, Nat.add_sub_cancel, List.replicate_succ, List.flatten_cons,
          List.append_assoc]
        rfl }

/-- How a request goes from a given attempt on. -/
theorem repeats_requestFrom (retry : Retry) (number : Nat) (destination : UInt8)
    (payload : List UInt8) (free : master.pending = none) :
    ∃ tries, Repeats destination payload (retry.bound + 1 - number) master tries
      (master.requestFrom retry number destination payload) := by
  -- By induction on the attempts that are left. An attempt is the last one where it succeeds, where
  -- its fault is not transient and where no more are allowed.
  fun_induction requestFrom retry number destination payload master with
  | case1 number master frame after done =>
    rw [← done]
    exact ⟨_, repeats_once free _⟩
  | case2 number master error after done again lt ih =>
    have transient : error.isTransient = true := by
      simp only [Retry.again, Bool.and_eq_true] at again
      exact again.2
    obtain ⟨_, _, same, _⟩ := late_of_transient free done transient
    obtain ⟨tries, repeats⟩ := ih (by rw [same])
    have counts : retry.bound + 1 - number = retry.bound + 1 - (number + 1) + 1 := by omega
    rw [counts]
    exact ⟨_, repeats.cons free done transient (by omega)⟩
  | case3 number master error after done ended =>
    rw [← done]
    exact ⟨_, repeats_once free _⟩

/-- While a reply is awaited, a request writes nothing and changes nothing. -/
theorem requestFrom_of_pending {pending : Pending} (busy : master.pending = some pending)
    (retry : Retry) (number : Nat) (destination : UInt8) (payload : List UInt8) :
    master.requestFrom retry number destination payload =
      (.error (.outstanding pending.destination), master) := by
  have refused : master.attempt destination payload =
      (.error (.outstanding pending.destination), master) := by
    unfold attempt
    rw [send_of_pending busy]
  have once : ¬retry.again number (.outstanding pending.destination) = true := by
    simp [Retry.again, MasterError.isTransient]
  rw [requestFrom, refused]
  exact dif_neg once

/-- A request writes at most one copy of its frame for each attempt, and writes again only when the
time to wait for the reply is over and the line has been drained. -/
theorem request_repeats {count : Nat} (fixed : master.retry = .attempts count)
    (destination : UInt8) (payload : List UInt8) :
    match master.pending with
    | some pending =>
      master.request destination payload = (.error (.outstanding pending.destination), master)
    | none =>
      ∃ tries, Repeats destination payload count master tries
        (master.request destination payload) := by
  cases pending : master.pending with
  | some pending => exact requestFrom_of_pending pending _ _ _ _
  | none =>
    obtain ⟨tries, repeats⟩ := repeats_requestFrom master.retry 1 destination payload pending
    rw [fixed] at repeats
    refine ⟨tries, ?_⟩
    rw [request, fixed]
    exact repeats

/-- A reply that comes when the time is over is dropped before the request is made again, and the
second reply is returned. -/
theorem request_repeats_of_late :
    let line : Line Script :=
      { clock := { lapses := [0, 5000] }
        peer :=
          ⟨[[.fault .timedOut, .data [84, 171, 3, 0, 1, 49, 214, 49]],
            [.data [84, 171, 3, 0, 1, 50, 134, 104]]]⟩ }
    let master : Master Script := ofLine line {} (.attempts 3)
    let copy : List UInt8 := [84, 171, 128, 3, 0, 25, 65]
    (∃ tries, Repeats 3 [] 3 master tries (master.request 3 [])) ∧
      (master.request 3 []).1.toOption = some { source := 3, destination := 0, payload := [50] } ∧
      (master.request 3 []).2.reader.line.written = copy ++ copy := by
  intro line master copy
  have repeats := @request_repeats _ master _ 3 rfl 3 []
  exact ⟨repeats, by decide +kernel, by decide +kernel⟩

/-- A request counts nothing. -/
theorem stats_request (destination : UInt8) (payload : List UInt8) (master : Master π) :
    (master.request destination payload).2.stats = master.stats := by
  unfold request
  cases pending : master.pending with
  | some pending => rw [requestFrom_of_pending pending]
  | none =>
    obtain ⟨_, repeats⟩ := repeats_requestFrom master.retry 1 destination payload pending
    obtain ⟨_, _, same⟩ := repeats.kept
    rw [same]

end Master

end Multidrop
