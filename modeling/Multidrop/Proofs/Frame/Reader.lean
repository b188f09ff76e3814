import Multidrop.Frame.Reader
import Multidrop.Proofs.Frame.Decoder
import Multidrop.Proofs.Frame.Outcomes

/-!
# What a reader makes of a line

A reader takes bytes off its line and frames off its buffer. However its reads are made and
whatever faults come in between, what it has returned and what its buffer still holds are found in
the bytes that were in the buffer and the bytes that were read (`Reader.Finds`,
`Reader.finds_next`); in particular the frames are (`Reader.Reads`). Reading leaves everything about
the line alone but what arrives and the time (`Line.Yields.kept`).
-/
namespace Multidrop

namespace Line

variable {π : Type} {line between after : Line π} {bytes more : List UInt8}

/-- Reads and looks at the clock take a line to another and bring these bytes. -/
inductive Yields : Line π → List UInt8 → Line π → Prop
  /-- Nothing is done. -/
  | nothing {line : Line π} : Yields line [] line
  /-- A read that succeeds comes first. -/
  | bytes {line between after : Line π} {bytes more : List UInt8}
      (read : line.read Frame.readSize = (.ok bytes, between)) (later : Yields between more after) :
      Yields line (bytes ++ more) after
  /-- A read that fails comes first. -/
  | fault {line between after : Line π} {kind : Fault.Kind} {more : List UInt8}
      (read : line.read Frame.readSize = (.error kind, between))
      (later : Yields between more after) : Yields line more after
  /-- A look at the clock comes first. -/
  | look {line after : Line π} {more : List UInt8} (later : Yields line.look.2 more after) :
      Yields line more after

/-- What is done one after another brings its bytes one after another. -/
theorem Yields.append (first : line.Yields bytes between) (second : between.Yields more after) :
    line.Yields (bytes ++ more) after := by
  induction first with
  | nothing => exact second
  | bytes read _ ih =>
    rw [List.append_assoc]
    exact .bytes read (ih second)
  | fault read _ ih => exact .fault read (ih second)
  | look _ ih => exact .look (ih second)

/-- A read changes nothing but what arrives and the time. -/
theorem read_kept (room : Nat) (line : Line π) :
    (line.read room).2 =
      { line with
        arrivals := (line.read room).2.arrivals
        clock := (line.read room).2.clock } := by
  unfold read
  split
  · split <;> rfl
  all_goals rfl

/-- The bytes that a read brings, if it brings any. -/
def brought : Except Fault.Kind (List UInt8) → List UInt8
  | .ok bytes => bytes
  | .error _ => []

/-- A read yields what it brings. -/
theorem yields_read {result : Except Fault.Kind (List UInt8)}
    (read : line.read Frame.readSize = (result, after)) : line.Yields (brought result) after := by
  cases result with
  | ok bytes =>
    rw [brought, ← List.append_nil bytes]
    exact .bytes read .nothing
  | error kind => exact .fault read .nothing

/-- Every way a read can go: what it meets, what it returns and what the next reads meet. -/
inductive Meets (room : Nat) (idle : Idle) :
    List Arrival → Except Fault.Kind (List UInt8) → List Arrival → Prop
  /-- Nothing arrives any more, and the line counts as closed. -/
  | ended (closed : idle = .closed) : Meets room idle [] (.ok []) []
  /-- Nothing has arrived in time. -/
  | silent {hold : Nat} {positive : 0 < hold} (silent : idle = .silent hold positive) :
      Meets room idle [] (.error .timedOut) []
  /-- All bytes of an arrival are read. -/
  | data {bytes : List UInt8} {rest : List Arrival} (short : bytes.length ≤ room) :
      Meets room idle (.data bytes :: rest) (.ok bytes) rest
  /-- As many bytes of an arrival are read as there is room for. -/
  | part {front back : List UInt8} {rest : List Arrival} (full : front.length = room)
      (more : back ≠ []) :
      Meets room idle (.data (front ++ back) :: rest) (.ok front) (.data back :: rest)
  /-- The read fails. -/
  | fault {kind : Fault.Kind} {rest : List Arrival} :
      Meets room idle (.fault kind :: rest) (.error kind) rest
  /-- The other end has stopped sending. -/
  | closed {rest : List Arrival} : Meets room idle (.closed :: rest) (.ok []) rest

/-- A read goes one of these ways. -/
theorem meets_read {room : Nat} {result : Except Fault.Kind (List UInt8)}
    (read : line.read room = (result, after)) :
    Meets room line.idle line.arrivals result after.arrivals := by
  unfold Line.read at read
  cases arrived : line.arrivals with
  | nil =>
    rw [arrived] at read
    cases silence : line.idle with
    | closed =>
      rw [silence] at read
      cases read
      rw [arrived]
      exact .ended rfl
    | silent =>
      rw [silence] at read
      cases read
      exact .silent rfl
  | cons first rest =>
    rw [arrived] at read
    cases first with
    | data bytes =>
      cases read
      dsimp only
      by_cases long : room < bytes.length
      · have more : bytes.drop room ≠ [] := by
          rw [ne_eq, List.drop_eq_nil_iff]
          omega
        have cut := @Meets.part room line.idle _ _ rest
          (List.length_take_of_le (Nat.le_of_lt long)) more
        rw [List.take_append_drop] at cut
        rwa [if_pos long]
      · have short := Nat.le_of_not_lt long
        rw [if_neg long, List.take_of_length_le short]
        exact .data short
    | fault =>
      cases read
      exact .fault
    | closed =>
      cases read
      exact .closed

/-- Reads and looks change nothing but what arrives and the time. -/
theorem Yields.kept (yields : line.Yields bytes after) :
    after = { line with arrivals := after.arrivals, clock := after.clock } := by
  induction yields with
  | nothing => rfl
  | @bytes line between _ _ _ read _ ih | @fault line between _ _ _ read _ ih =>
    have one : between =
        { line with arrivals := between.arrivals, clock := between.clock } := by
      have kept := read_kept Frame.readSize line
      rw [read] at kept
      exact kept
    exact ih.trans (by rw [one])
  | look _ ih => exact ih

end Line

namespace Frame

/-! ## The frames of a byte string -/

/-- The frame that an outcome is, if it is one. -/
def Outcome.frame? : Outcome → Option Frame
  | .frame found => some found
  | .incomplete | .fault _ => none

/-- The receiver that keeps frames only. -/
def frameSink : Sink (List Frame) where
  skip _ frames := frames
  find outcome frames := frames ++ outcome.frame?.toList
  skip_nil _ := rfl
  skip_append _ _ _ := rfl

/-- The frames that passes find in a byte string, in order. -/
def frames (limit : Nat) (bytes : List UInt8) : List Frame := (scan frameSink limit [] bytes).1

variable {limit : Nat} {buffer : List UInt8}

/-- The frames that a scan finds come behind those that the receiver has. -/
theorem scan_frameSink (limit : Nat) (kept : List Frame) (buffer : List UInt8) :
    (scan frameSink limit kept buffer).1 = kept ++ frames limit buffer := by
  induction size : buffer.length using Nat.strongRecOn generalizing kept buffer with
  | ind size ih =>
    by_cases needs : (pass limit buffer).outcome = .incomplete
    · rw [frames, scan_of_incomplete kept needs, scan_of_incomplete [] needs]
      exact (List.append_nil kept).symm
    · have shorter := length_pass_rest_lt needs
      rw [size] at shorter
      have first := fun kept => ih _ shorter kept (pass limit buffer).rest rfl
      have step (kept : List Frame) : (scan frameSink limit kept buffer).1 =
          kept ++ (pass limit buffer).outcome.frame?.toList ++
            frames limit (pass limit buffer).rest := by
        have found := @scan_of_found _ frameSink _ _ kept [] needs
        rw [List.append_nil, List.append_nil] at found
        rw [found]
        exact first _
      rw [frames, step kept, step [], List.nil_append, List.append_assoc]

/-- What a pass finds comes first, then the frames of the rest. -/
theorem frames_of_found (more : List UInt8) (found : (pass limit buffer).outcome ≠ .incomplete) :
    frames limit (buffer ++ more) =
      (pass limit buffer).outcome.frame?.toList ++
        frames limit ((pass limit buffer).rest ++ more) := by
  rw [frames, scan_of_found _ more found, scan_frameSink]
  rfl

/-- Bytes that no frame can begin with are not missed. -/
theorem frames_of_incomplete (more : List UInt8)
    (needs : (pass limit buffer).outcome = .incomplete) :
    frames limit (buffer ++ more) = frames limit ((pass limit buffer).rest ++ more) := by
  rw [frames, scan_append, scan_of_incomplete _ needs]
  rfl

/-- A buffer in which a pass finds nothing holds no frame. -/
theorem frames_eq_nil (needs : (pass limit buffer).outcome = .incomplete) :
    frames limit buffer = [] := by
  rw [frames, scan_of_incomplete _ needs]
  rfl

/-- The frames are among what passes find. -/
theorem frames_eq (limit : Nat) (bytes : List UInt8) :
    frames limit bytes = (outcomes limit bytes).filterMap Outcome.frame? := by
  fun_induction outcomes limit bytes with
  | case1 bytes needs => exact frames_eq_nil needs
  | case2 bytes found ih =>
    have first := frames_of_found [] found
    rw [List.append_nil, List.append_nil, ih] at first
    rw [first, List.filterMap_cons]
    cases (pass limit bytes).outcome.frame? <;> rfl

/-! ## Readers -/

/-- The frame that is heard, if one is. -/
def Heard.frames : Heard → List Frame
  | .frame found => [found]
  | .noise | .quiet | .closed | .broken _ => []

/-- A reading that fails is not heard as a frame. -/
theorem Reading.frames_heard_error (error : Error) (skipped : List (List UInt8)) :
    (Reading.mk (.error error) skipped).heard.frames = [] := by
  cases error with
  | closed => rfl
  | line fault =>
    simp only [Reading.heard]
    split <;> rfl
  | _ => rfl

/-- What the result of a reading says that a pass has found, if anything. -/
def finding? : Except Error Frame → Option Outcome
  | .ok frame => some (.frame frame)
  | .error error => if error.isWireFault then some (.fault error) else none

/-- The frame that is heard is the one that was found. -/
theorem Reading.frames_heard (reading : Reading) :
    reading.heard.frames = (finding? reading.result).toList.filterMap Outcome.frame? := by
  obtain ⟨result, skipped⟩ := reading
  cases result with
  | ok frame => rfl
  | error error =>
    rw [frames_heard_error, finding?]
    split <;> rfl

namespace Reader

variable {π : Type}

/-- A reader has taken bytes off its line and returned what it found. With any bytes behind them,
what passes find in its buffer and in the bytes it has taken is what it has returned and what it
will find. -/
structure Finds (before : Reader π) (bytes : List UInt8) (found : List Outcome) (after : Reader π) :
    Prop where
  /-- The bytes come from the line. -/
  yields : before.line.Yields bytes after.line
  /-- The limit does not change. -/
  limit : after.limit = before.limit
  /-- Nothing is lost or made up. -/
  outcomes : Behind (outcomes before.limit) found (before.buffer ++ bytes) after.buffer

/-- A reader has taken bytes off its line and returned frames. With any bytes behind them, the
frames of its buffer and of the bytes it has taken are those that it has returned and those that it
will find. -/
structure Reads (before : Reader π) (bytes : List UInt8) (found : List Frame) (after : Reader π) :
    Prop where
  /-- The bytes come from the line. -/
  yields : before.line.Yields bytes after.line
  /-- The limit does not change. -/
  limit : after.limit = before.limit
  /-- No frame is lost or made up. -/
  frames : ∀ more, frames before.limit (before.buffer ++ bytes ++ more) =
    found ++ Frame.frames before.limit (after.buffer ++ more)

variable {before between after : Reader π} {bytes more : List UInt8} {found others : List Frame}

/-- A reader that has done nothing has returned no frame. -/
theorem Reads.refl (reader : Reader π) : reader.Reads [] [] reader :=
  ⟨.nothing, rfl, fun more => by rw [List.append_nil, List.nil_append]⟩

/-- Frames that are returned later come behind those that were returned before. -/
theorem Reads.trans (first : before.Reads bytes found between)
    (second : between.Reads more others after) :
    before.Reads (bytes ++ more) (found ++ others) after := by
  have earlier : Behind (Frame.frames before.limit) found (before.buffer ++ bytes) between.buffer :=
    first.frames
  have later : Behind (Frame.frames before.limit) others (between.buffer ++ more) after.buffer :=
    first.limit ▸ second.frames
  have both := (earlier.append more).trans later
  rw [List.append_assoc] at both
  exact ⟨first.yields.append second.yields, second.limit.trans first.limit, both⟩

/-- A look at the clock returns no frame. -/
theorem reads_look (reader : Reader π) : reader.Reads [] [] reader.look.2 :=
  ⟨.look .nothing, rfl, fun more => by rw [List.append_nil]; rfl⟩

/-- A look at the clock may come in between. -/
theorem Reads.thenLook (reads : before.Reads bytes found after) :
    before.Reads bytes found after.look.2 := by
  have both := reads.trans (reads_look after)
  rw [List.append_nil, List.append_nil] at both
  exact both

/-- A reader that has done nothing has found nothing. -/
theorem Finds.refl (reader : Reader π) : reader.Finds [] [] reader :=
  ⟨.nothing, rfl, fun more => by rw [List.append_nil, List.nil_append]⟩

/-- What is found later comes behind what was found before. -/
theorem Finds.trans {earlier later : List Outcome} (first : before.Finds bytes earlier between)
    (second : between.Finds more later after) :
    before.Finds (bytes ++ more) (earlier ++ later) after := by
  have rest : Behind (Frame.outcomes before.limit) later (between.buffer ++ more) after.buffer :=
    first.limit ▸ second.outcomes
  have both := (first.outcomes.append more).trans rest
  rw [List.append_assoc] at both
  exact ⟨first.yields.append second.yields, second.limit.trans first.limit, both⟩

/-- A pass takes nothing off the line. -/
theorem finds_pass (reader : Reader π) :
    reader.Finds [] (pass reader.limit reader.buffer).outcome.found
      { reader with buffer := (pass reader.limit reader.buffer).rest } := by
  refine ⟨.nothing, rfl, ?_⟩
  rw [List.append_nil]
  exact behind_pass reader.limit reader.buffer

/-- A read finds nothing. -/
theorem finds_read {reader : Reader π} {line : Line π} {result : Except Fault.Kind (List UInt8)}
    (read : reader.line.read readSize = (result, line)) :
    reader.Finds (Line.brought result) []
      { reader with buffer := reader.buffer ++ Line.brought result, line } :=
  ⟨Line.yields_read read, rfl, fun _ => rfl⟩

/-- So does a pass that needs more bytes, followed by a read. -/
theorem finds_needy {reader : Reader π} {line : Line π} {result : Except Fault.Kind (List UInt8)}
    (needs : (pass reader.limit reader.buffer).outcome = .incomplete)
    (read : reader.line.read readSize = (result, line)) :
    reader.Finds (Line.brought result) []
      { reader with
        buffer := (pass reader.limit reader.buffer).rest ++ Line.brought result
        line } := by
  have passed := finds_pass reader
  rw [needs] at passed
  exact passed.trans (finds_read read)

/-- Of what a reader has found, the frames are those that it has read. -/
theorem Finds.reads {outcomes : List Outcome} (finds : before.Finds bytes outcomes after) :
    before.Reads bytes (outcomes.filterMap Outcome.frame?) after := by
  refine ⟨finds.yields, finds.limit, fun more => ?_⟩
  rw [frames_eq, frames_eq, finds.outcomes more, List.filterMap_append]

/-- Reading the next frame takes bytes off the line until a pass finds something or reading ends.
Where nothing was found, the buffer holds nothing to be found. -/
theorem finds_next (reader : Reader π) :
    ∃ bytes, reader.Finds bytes (finding? reader.next.1.result).toList reader.next.2 ∧
      (finding? reader.next.1.result = none →
        outcomes reader.limit reader.next.2.buffer = []) := by
  fun_induction next reader with
  | case1 reader pass piece frame found =>
    have passed := finds_pass reader
    rw [show (Frame.pass _ _).outcome = _ from found] at passed
    exact ⟨[], passed, fun none => absurd none (Option.some_ne_none _)⟩
  | case2 reader pass piece error found =>
    have passed := finds_pass reader
    rw [show (Frame.pass _ _).outcome = _ from found] at passed
    have fault : finding? (.error error) = some (.fault error) :=
      if_pos (isWireFault_of_pass found)
    rw [fault]
    exact ⟨[], passed, fun none => absurd none (Option.some_ne_none _)⟩
  | case3 reader pass piece needs line read =>
    have finds := finds_needy needs read
    rw [Line.brought, List.append_nil] at finds
    exact ⟨[], finds, fun _ => outcomes_rest_of_incomplete needs⟩
  | case4 reader pass piece needs byte rest line read taken reading after next ih =>
    obtain ⟨bytes, finds, drained⟩ := ih
    rw [next] at finds drained
    exact ⟨_, (finds_needy needs read).trans finds, drained⟩
  | case5 reader pass piece needs line read taken reading after next ih =>
    obtain ⟨bytes, finds, drained⟩ := ih
    rw [next] at finds drained
    have first := finds_needy needs read
    rw [Line.brought, List.append_nil] at first
    exact ⟨_, first.trans finds, drained⟩
  | case6 reader pass piece needs kind line uninterrupted read =>
    have finds := finds_needy needs read
    rw [Line.brought, List.append_nil] at finds
    exact ⟨[], finds, fun _ => outcomes_rest_of_incomplete needs⟩

/-- What a reading comes to is read off the line and the buffer. -/
theorem reads_of_next {reader after : Reader π} {reading : Reading}
    (next : reader.next = (reading, after)) :
    ∃ bytes, reader.Reads bytes reading.heard.frames after := by
  obtain ⟨bytes, finds, -⟩ := reader.finds_next
  rw [next] at finds
  exact ⟨bytes, reading.frames_heard ▸ finds.reads⟩

end Reader

end Frame

end Multidrop
