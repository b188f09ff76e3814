import Multidrop.Frame.Duplex
import Multidrop.Frame.Writer

/-!
# Lines that deliver bytes

What users of a line rely on: its reads bring certain bytes in some pieces before it ends
(`Arrival.Delivers`), with faults in between that lose nothing, and its writes all succeed
(`Line.Willing`), though one write need not take everything. Reading takes a piece off the bytes
to be delivered; sending appends to the bytes written and leaves the arrivals alone.
-/
namespace Multidrop

/-- Faults of a read that lose nothing: it was interrupted, or nothing arrived in time. -/
def Fault.Kind.isGentle (kind : Fault.Kind) : Bool := kind = .interrupted || kind.isIdle

/-- Arrivals that bring bytes in pieces that are not empty and then end, with some faults in
between. -/
inductive Arrival.Delivers (allowed : Fault.Kind → Bool) : List Arrival → List UInt8 → Prop
  /-- The other end has stopped sending. -/
  | closed : Delivers allowed [.closed] []
  /-- A piece comes first. -/
  | data {arrivals : List Arrival} {piece bytes : List UInt8} (nonempty : piece ≠ [])
      (later : Delivers allowed arrivals bytes) :
      Delivers allowed (.data piece :: arrivals) (piece ++ bytes)
  /-- A fault comes first. -/
  | fault {arrivals : List Arrival} {bytes : List UInt8} {kind : Fault.Kind}
      (gentle : allowed kind) (later : Delivers allowed arrivals bytes) :
      Delivers allowed (.fault kind :: arrivals) bytes

namespace Line

variable {allowed : Fault.Kind → Bool} {line : Line Script} {bytes : List UInt8}

/-- A line whose writes and flushes succeed, and whose far end does not react to them. -/
structure Willing (line : Line Script) : Prop where
  /-- Every write takes something. -/
  takes : ∀ take ∈ line.takes, ∃ limit, take = .accept (limit + 1)
  /-- Every flush succeeds. -/
  flushFaults : line.flushFaults = []
  /-- Nothing arrives in answer. -/
  answers : line.peer.answers = []

/-- A willing line that delivers bytes. -/
structure Carries (allowed : Fault.Kind → Bool) (line : Line Script) (bytes : List UInt8) :
    Prop where
  /-- It delivers the bytes. -/
  delivers : Arrival.Delivers allowed line.arrivals bytes
  /-- It is willing. -/
  willing : line.Willing

/-- A line after bytes were written to it, still willing and with the same arrivals. -/
structure Sent (line after : Line Script) (bytes : List UInt8) : Prop where
  /-- The bytes come behind those written before. -/
  written : after.written = line.written ++ bytes
  /-- No arrival is lost or added. -/
  arrivals : after.arrivals = line.arrivals
  /-- It is willing. -/
  willing : after.Willing

/-- Reading does not end the willingness of a line. -/
theorem Willing.withArrivals (willing : line.Willing) (arrivals : List Arrival) :
    Willing { line with arrivals } :=
  ⟨willing.takes, willing.flushFaults, willing.answers⟩

/-! ## Reading -/

/-- What one read of a line that delivers bytes comes to. -/
inductive Reads (allowed : Fault.Kind → Bool) (line : Line Script) :
    List UInt8 → Except Fault.Kind (List UInt8) × Line Script → Prop
  /-- A piece of the bytes is read. -/
  | piece {byte : UInt8} {more later : List UInt8} {after : Line Script}
      (carries : after.Carries allowed later) (written : after.written = line.written) :
      Reads allowed line (byte :: more ++ later) (.ok (byte :: more), after)
  /-- The read fails, but nothing is lost. -/
  | fault {bytes : List UInt8} {kind : Fault.Kind} {after : Line Script} (gentle : allowed kind)
      (carries : after.Carries allowed bytes) (written : after.written = line.written) :
      Reads allowed line bytes (.error kind, after)
  /-- Nothing is left. -/
  | closed {after : Line Script} (written : after.written = line.written) :
      Reads allowed line [] (.ok [], after)

/-- A read takes a piece off the bytes to be delivered. -/
theorem Carries.reads (carries : line.Carries allowed bytes) {room : Nat} (positive : 0 < room) :
    Reads allowed line bytes (line.read room) := by
  have delivers := carries.delivers
  have willing := carries.willing
  cases arrived : line.arrivals with
  | nil =>
    rw [arrived] at delivers
    cases delivers
  | cons first rest =>
    rw [arrived] at delivers
    unfold read
    rw [arrived]
    cases delivers with
    | closed => exact .closed rfl
    | fault gentle later => exact .fault gentle ⟨later, willing.withArrivals rest⟩ rfl
    | @data _ piece others nonempty later =>
      have whole : piece ++ others = piece.take room ++ (piece.drop room ++ others) := by
        rw [← List.append_assoc, List.take_append_drop]
      have some := List.length_pos_iff.2 nonempty
      dsimp only
      rw [whole]
      cases taken : piece.take room with
      | nil =>
        have none := congrArg List.length taken
        rw [List.length_take, List.length_nil] at none
        omega
      | cons byte more =>
        refine .piece ⟨?_, willing.withArrivals _⟩ rfl
        by_cases long : room < piece.length
        · have left : piece.drop room ≠ [] := by
            intro none
            rw [List.drop_eq_nil_iff] at none
            omega
          rw [if_pos long]
          exact .data left later
        · rw [if_neg long, List.drop_of_length_le (by omega)]
          exact later

/-- A read that fails uses up a fault. -/
theorem Carries.weight_read_of_fault {after : Line Script} {kind : Fault.Kind} {room : Nat}
    (carries : line.Carries allowed bytes) (failed : line.read room = (.error kind, after)) :
    after.weight < line.weight := by
  rcases weight_read_of_error failed with fewer | ⟨_, none, _⟩
  · exact fewer
  · have delivers := carries.delivers
    rw [none] at delivers
    cases delivers

/-- What a line without faults has ready: a piece of the bytes, or the end, which stays. -/
inductive Offers (line : Line Script) : List UInt8 → Ready × Line Script → Prop
  /-- A piece of the bytes is ready. -/
  | piece {byte : UInt8} {more later : List UInt8} {after : Line Script}
      (carries : after.Carries (fun _ => false) later) (written : after.written = line.written) :
      Offers line (byte :: more ++ later) (.bytes (byte :: more), after)
  /-- Nothing is left. -/
  | closed : Offers line [] (.bytes [], line)

/-- A line without faults has a piece of the bytes ready until it ends. -/
theorem Carries.offers (carries : line.Carries (fun _ => false) bytes) :
    Offers line bytes line.ready := by
  have reads := carries.reads (show 0 < chunkSize by decide)
  have delivers := carries.delivers
  unfold ready
  cases arrived : line.arrivals with
  | nil =>
    rw [arrived] at delivers
    cases delivers
  | cons first others =>
    rw [arrived] at delivers
    cases first with
    | closed =>
      cases delivers
      exact .closed
    | fault kind =>
      cases delivers with
      | fault impossible _ => cases impossible
    | data piece =>
      have nonempty : bytes ≠ [] := by
        cases delivers with
        | data some _ => exact List.append_ne_nil_of_left_ne_nil some _
      dsimp only
      generalize line.read chunkSize = result at reads
      cases reads with
      | piece later written => exact .piece later written
      | fault impossible _ _ => cases impossible
      | closed _ => exact absurd rfl nonempty

/-! ## Sending -/

/-- Nothing arrives in answer to bytes that a willing line takes. -/
theorem sent_deliver (willing : line.Willing) (bytes : List UInt8) :
    Sent line (line.deliver bytes) bytes := by
  unfold deliver
  by_cases none : bytes = []
  · rw [if_pos none, none]
    exact ⟨(List.append_nil _).symm, rfl, willing⟩
  · rw [if_neg none]
    have silent : Peer.answer line.peer bytes = ([], line.peer) := by
      simp only [Peer.answer, willing.answers]
    rw [silent]
    exact ⟨rfl, List.append_nil _, willing.takes, willing.flushFaults, willing.answers⟩

/-- Sending leaves the bytes to be delivered as they are. -/
theorem Sent.carries {after : Line Script} {sent : List UInt8} (done : Sent line after sent)
    (carries : line.Carries allowed bytes) : after.Carries allowed bytes := by
  refine ⟨?_, done.willing⟩
  rw [done.arrivals]
  exact carries.delivers

/-- A willing line takes some of the bytes it is offered. -/
theorem sent_write (willing : line.Willing) (nonempty : bytes ≠ []) :
    ∃ taken after, line.write bytes = (.ok (taken + 1), after) ∧ taken < bytes.length ∧
      Sent line after (bytes.take (taken + 1)) := by
  have some := List.length_pos_iff.2 nonempty
  unfold write
  cases script : line.takes with
  | nil =>
    have all : bytes.length - 1 + 1 = bytes.length := Nat.sub_add_cancel some
    refine ⟨bytes.length - 1, line.deliver bytes, by rw [all], by omega, ?_⟩
    rw [all, List.take_length]
    exact sent_deliver willing bytes
  | cons take takes =>
    obtain ⟨limit, rfl⟩ := willing.takes take (script ▸ List.mem_cons_self)
    have others : ({ line with takes } : Line Script).Willing := by
      refine ⟨fun take there => willing.takes take ?_, willing.flushFaults, willing.answers⟩
      rw [script]
      exact List.mem_cons_of_mem _ there
    have part : min (limit + 1) bytes.length - 1 + 1 = min (limit + 1) bytes.length :=
      Nat.sub_add_cancel (by omega)
    have sent := sent_deliver others (bytes.take (limit + 1))
    refine ⟨min (limit + 1) bytes.length - 1, deliver (bytes.take (limit + 1)) { line with takes },
      by rw [part], by omega, ?_⟩
    rw [part, ← List.take_eq_take_min]
    exact ⟨sent.written, sent.arrivals, sent.willing⟩

/-- A willing line takes all bytes it is offered. -/
theorem sent_offer (retry : Fault.Kind → Bool) (willing : line.Willing) (bytes : List UInt8) :
    ∃ after, line.offer retry bytes = (.complete, [], after) ∧ Sent line after bytes := by
  induction left : bytes.length using Nat.strongRecOn generalizing bytes line with
  | ind count ih =>
    by_cases none : bytes = []
    · refine ⟨line, ?_, ?_⟩
      · rw [offer, if_pos none]
      · rw [none]
        exact ⟨(List.append_nil _).symm, rfl, willing⟩
    · obtain ⟨taken, later, wrote, inside, first⟩ := sent_write willing none
      have shorter : (bytes.drop (taken + 1)).length < count := by
        rw [List.length_drop]
        omega
      obtain ⟨after, offered, rest⟩ := ih _ shorter first.willing (bytes.drop (taken + 1)) rfl
      refine ⟨after, ?_, ?_, ?_, rest.willing⟩
      · rw [offer, if_neg none]
        split <;> rename_i found <;> rw [wrote] at found <;> cases found
        exact offered
      · rw [rest.written, first.written, List.append_assoc, List.take_append_drop]
      · rw [rest.arrivals, first.arrivals]

/-- A flush of a willing line is not told apart. -/
theorem Sent.flushed {after : Line Script} (done : Sent line after bytes) :
    Sent line { after with flushes := after.flushes + 1 } bytes :=
  ⟨done.written, done.arrivals, done.willing.takes, done.willing.flushFaults, done.willing.answers⟩

/-- A willing line flushes at once. -/
theorem flush_of_willing (willing : line.Willing) :
    line.flush = (none, { line with flushes := line.flushes + 1 }) := by
  unfold flush
  rw [willing.flushFaults]

/-- A willing line settles at once. -/
theorem settle_of_willing (retry : Fault.Kind → Bool) (willing : line.Willing) :
    line.settle retry = (none, { line with flushes := line.flushes + 1 }) := by
  rw [settle]
  split <;> rename_i found <;> rw [flush_of_willing willing] at found <;> cases found
  rfl

/-- A writer sends all bytes over a willing line. -/
theorem sent_writer (limit : Nat) (willing : line.Willing) (bytes : List UInt8) :
    ∃ after, Frame.Writer.sendRaw bytes { limit, line } = (.ok (), { limit, line := after }) ∧
      Sent line after bytes := by
  obtain ⟨after, offered, sent⟩ := sent_offer Frame.isRetried willing bytes
  refine ⟨{ after with flushes := after.flushes + 1 }, ?_, sent.flushed⟩
  unfold Frame.Writer.sendRaw
  rw [offered]
  simp only [Frame.Writer.flush, settle_of_willing Frame.isRetried sent.willing]

end Line

end Multidrop
