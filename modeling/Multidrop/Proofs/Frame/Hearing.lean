import Multidrop.Proofs.Frame.Duplex
import Multidrop.Proofs.Frame.Lossless

/-!
# Hearing a line

What a reader hears of the arrivals of a line, which is the same whether anybody writes to the line
or not.
-/
namespace Multidrop

/-! ## Reading a line as if nobody wrote to it

Reading meets the arrivals of a line and nothing of what only its writers meet, so a line is read
like one whose writing side is taken away (`Line.mute`). What is known of willing lines therefore
holds of the arrivals of any line, whatever is at its far end. -/

variable {π : Type}

namespace Line

/-- A line without its writing side. -/
def mute (line : Line π) : Line Script :=
  { line with takes := [], flushFaults := [], peer := {} }

variable {line : Line π} {allowed : Fault.Kind → Bool} {bytes : List UInt8}

/-- Arrivals that deliver bytes are all that a muted line needs to deliver them. -/
theorem carries_mute (delivers : Arrival.Delivers allowed line.arrivals bytes) :
    line.mute.Carries allowed bytes :=
  ⟨delivers, nofun, rfl, rfl⟩

/-- A muted line is read like the line. -/
theorem read_mute (room : Nat) (line : Line π) :
    line.mute.read room = (line.read room).map id mute := by
  obtain ⟨arrivals, takes, flushFaults, peer, idle, clock, written, flushes⟩ := line
  cases arrivals with
  | nil => cases idle <;> rfl
  | cons first rest => cases first <;> rfl

/-- A read takes a piece off the bytes that the arrivals deliver. -/
theorem reads_of_delivers (delivers : Arrival.Delivers allowed line.arrivals bytes) {room : Nat}
    (positive : 0 < room) : Reads allowed line.mute bytes ((line.read room).map id mute) := by
  rw [← read_mute]
  exact (carries_mute delivers).reads positive

/-- A muted line has the same things ready. -/
theorem ready_mute {found : Ready} {after : Line π} (ready : line.ready = (found, after)) :
    line.mute.ready = (found, after.mute) := by
  have read := read_mute chunkSize line
  unfold Line.ready at ready ⊢
  rw [read]
  cases arrived : line.arrivals with
  | nil =>
    rw [arrived] at ready
    rw [show line.mute.arrivals = [] from arrived]
    cases ready
    rfl
  | cons first rest =>
    rw [arrived] at ready
    rw [show line.mute.arrivals = first :: rest from arrived]
    cases first with
    | closed =>
      cases ready
      rfl
    | data | fault =>
      dsimp only at ready ⊢
      generalize line.read chunkSize = result at ready ⊢
      obtain ⟨result, after⟩ := result
      cases result <;> cases ready <;> rfl

end Line

namespace Frame.Duplex

/-- A stream over its line without the writing side. -/
def mute (duplex : Duplex π) : Duplex Script := { duplex with line := duplex.line.mute }

/-- The items that an ended line leaves are the same. -/
theorem drain_mute (duplex : Duplex π) : duplex.mute.drain = duplex.drain.map id mute := by
  unfold drain
  rw [show duplex.mute.items = duplex.items from rfl]
  generalize duplex.items.nextAtEnd = result
  obtain ⟨found, items⟩ := result
  cases found <;> rfl

/-- What reading brings is decided by what its line has ready. -/
theorem receive_eq (duplex : Duplex π) :
    duplex.receive =
      match duplex.line.ready with
      | (.pending, line) => (.pending, { duplex with line })
      | (.fault kind, line) => (.failed kind, { duplex with line, failed := true })
      | (.bytes [], line) =>
        if duplex.ended then (.ended, { duplex with line })
        else { duplex with line, ended := true, readable := true }.drain
      | (.bytes (byte :: more), line) =>
        match (duplex.items.feed (byte :: more)).next with
        | (some item, items) =>
          (.item item, { duplex with line, ended := false, items, readable := true })
        | (none, items) =>
          { duplex with line, ended := false, items, readable := false }.receive := by
  rw [receive]
  split
  case h_4 byte more line ready =>
    rcases next : (duplex.items.feed (byte :: more)).next with ⟨_ | item, items⟩ <;>
      simp only [next, ready]
  all_goals
    rename_i ready
    rw [ready]

/-- Reading from a muted line brings the same. -/
theorem receive_mute (duplex : Duplex π) : duplex.mute.receive = duplex.receive.map id mute := by
  fun_induction receive duplex with
  | case1 duplex line ready | case2 duplex kind line ready =>
    rw [receive_eq, show duplex.mute.line.ready = _ from Line.ready_mute ready]
    rfl
  | case3 duplex line ready again =>
    rw [receive_eq, show duplex.mute.line.ready = _ from Line.ready_mute ready]
    exact if_pos again
  | case4 duplex line ready first =>
    rw [receive_eq, show duplex.mute.line.ready = _ from Line.ready_mute ready]
    exact (if_neg first).trans (drain_mute { duplex with line, ended := true, readable := true })
  | case5 duplex byte more line ready less shorter receiving item items next =>
    rw [receive_eq, show duplex.mute.line.ready = _ from Line.ready_mute ready]
    dsimp only
    rw [show (duplex.mute.items.feed (byte :: more)).next = _ from next]
    rfl
  | case6 duplex byte more line ready less shorter receiving items next ih =>
    rw [receive_eq, show duplex.mute.line.ready = _ from Line.ready_mute ready]
    dsimp only
    rw [show (duplex.mute.items.feed (byte :: more)).next = _ from next]
    exact ih

/-- A stream over a muted line yields the same. -/
theorem next_mute {duplex after : Duplex π} {polled : Polled}
    (next : duplex.next = (polled, after)) : duplex.mute.next = (polled, after.mute) := by
  have same : duplex.mute.next = duplex.next.map id mute := by
    obtain ⟨items, line, readable, ended, failed, unsent⟩ := duplex
    cases failed with
    | true => rfl
    | false =>
      cases readable with
      | false => exact receive_mute { items, line, ended, unsent }
      | true =>
        cases ended with
        | true => exact drain_mute { items, line, readable := true, ended := true, unsent }
        | false =>
          unfold Duplex.next
          dsimp only [mute]
          cases items.next with
          | mk found rest =>
            cases found with
            | some item => rfl
            | none => exact receive_mute { items := rest, line, unsent }
  rw [same, next]
  rfl

end Frame.Duplex

end Multidrop

/-! ## Readers over lines that deliver and end

A reader over a line whose arrivals deliver bytes, with pauses and interruptions between them, hears
the frames of the bytes in order, with damaged frames and silence in between, and then that the line
is closed (`Reader.hears_next`). -/

namespace Multidrop.Frame.Reader

variable {π : Type}

/-- What reading comes to over a line that still delivers some bytes. -/
inductive Hears (reader : Reader π) (bytes : List UInt8) : Reading × Reader π → Prop
  /-- A frame is heard, or noise or nothing; the frames that are to come are still to come. -/
  | going {reading : Reading} {after : Reader π} {later : List UInt8}
      (delivers : Arrival.Delivers Fault.Kind.isGentle after.line.arrivals later)
      (written : after.line.written = reader.line.written) (limit : after.limit = reader.limit)
      (heard : (∃ frame, reading.heard = .frame frame) ∨ reading.heard = .noise ∨
        reading.heard = .quiet)
      (frames : frames reader.limit (reader.buffer ++ bytes) =
        reading.heard.frames ++ Frame.frames reader.limit (after.buffer ++ later)) :
      Hears reader bytes (reading, after)
  /-- The line is closed, and no frame is to come. -/
  | closed {reading : Reading} {after : Reader π}
      (written : after.line.written = reader.line.written) (heard : reading.heard = .closed)
      (frames : frames reader.limit (reader.buffer ++ bytes) = []) :
      Hears reader bytes (reading, after)

variable {reader : Reader π} {bytes : List UInt8}

/-- A reader that has only moved bytes from the line to its buffer hears the same. -/
theorem Hears.of_moved {between : Reader π} {later : List UInt8}
    {first reading : Reading} {after : Reader π} (hears : Hears between later (first, after))
    (same : reading.heard = first.heard) (written : between.line.written = reader.line.written)
    (limit : between.limit = reader.limit)
    (frames : frames reader.limit (reader.buffer ++ bytes) =
      Frame.frames reader.limit (between.buffer ++ later)) :
    Hears reader bytes (reading, after) := by
  cases hears with
  | going delivers sent kept heard ahead =>
    rw [← same] at heard ahead
    rw [limit] at ahead
    exact .going delivers (sent.trans written) (kept.trans limit) heard (frames.trans ahead)
  | closed sent heard none =>
    rw [limit] at none
    exact .closed (sent.trans written) (same.trans heard) (frames.trans none)

/-- Reading over a line that delivers bytes goes on until a frame or noise is heard, or the line
pauses or is closed. -/
theorem hears_next (delivers : Arrival.Delivers Fault.Kind.isGentle reader.line.arrivals bytes) :
    reader.Hears bytes reader.next := by
  have reads := Line.reads_of_delivers delivers (show 0 < readSize by decide)
  fun_induction next reader generalizing bytes with
  | case1 reader pass piece frame =>
    rename_i found
    have some : (Frame.pass reader.limit reader.buffer).outcome ≠ .incomplete := by
      rw [show (Frame.pass _ _).outcome = _ from found]
      exact Outcome.noConfusion
    refine .going delivers rfl rfl (.inl ⟨frame, rfl⟩) ?_
    rw [frames_of_found bytes some, show (Frame.pass _ _).outcome = _ from found]
    rfl
  | case2 reader pass piece error =>
    rename_i found
    have some : (Frame.pass reader.limit reader.buffer).outcome ≠ .incomplete := by
      rw [show (Frame.pass _ _).outcome = _ from found]
      exact Outcome.noConfusion
    have noise := Reading.heard_of_isWireFault (isWireFault_of_pass found) piece
    refine .going delivers rfl rfl (.inr (.inl noise)) ?_
    rw [noise, frames_of_found bytes some, show (Frame.pass _ _).outcome = _ from found]
    rfl
  | case3 reader pass piece needs line =>
    rename_i read
    rw [read] at reads
    cases reads with
    | closed written =>
      refine .closed written rfl ?_
      rw [List.append_nil, frames_eq_nil needs]
  | case4 reader pass piece needs byte rest line read taken reading after next =>
    rename_i ih
    rw [read] at reads
    cases reads with
    | @piece _ _ later _ left written =>
      have delivers : Arrival.Delivers Fault.Kind.isGentle line.arrivals later := left.delivers
      have hears := ih delivers (Line.reads_of_delivers delivers (by decide))
      rw [next] at hears
      refine hears.of_moved rfl written rfl ?_
      rw [frames_of_incomplete _ needs, List.append_assoc]
  | case5 reader pass piece needs line read taken reading after next =>
    rename_i ih
    rw [read] at reads
    cases reads with
    | fault _ left written =>
      have delivers : Arrival.Delivers Fault.Kind.isGentle line.arrivals bytes := left.delivers
      have hears := ih delivers (Line.reads_of_delivers delivers (by decide))
      rw [next] at hears
      exact hears.of_moved rfl written rfl (frames_of_incomplete _ needs)
  | case6 reader pass piece needs kind line uninterrupted =>
    rename_i read
    rw [read] at reads
    cases reads with
    | fault gentle left written =>
      have idle : kind.isIdle = true := by
        rw [Fault.Kind.isGentle, Bool.or_eq_true, decide_eq_true_eq] at gentle
        exact gentle.resolve_left uninterrupted
      have quiet : (Reading.mk (.error (.line ⟨kind, none⟩)) piece).heard = .quiet := by
        rw [Reading.heard]
        exact if_pos idle
      refine .going left.delivers written rfl (.inr (.inr quiet)) ?_
      rw [quiet]
      exact frames_of_incomplete _ needs

end Multidrop.Frame.Reader
