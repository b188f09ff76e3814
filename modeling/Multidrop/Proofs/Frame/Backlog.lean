import Multidrop.Proofs.Frame.Reader
import Multidrop.Proofs.Varuint.Spelling

/-!
# How much a receive buffer holds

Bytes that need others behind them are fewer than the largest frame has
(`length_rest_of_incomplete`), whatever they are: marked length bytes without end, large lengths,
headers in noise. A receive buffer is filled only where more bytes are needed, and by one read, so
it never holds more than the largest frame and one read together (`Backlog.length_lt`). What a
buffer holds from one moment to the next while bytes are read into it is a relation of its own
(`Collects`), which a reader follows (`Reader.collects_next`).
-/
namespace Multidrop.Frame

variable {limit : Nat} {buffer : List UInt8}

/-! ## What stays behind a pass -/

/-- A candidate that needs more bytes has fewer than the largest frame. -/
theorem length_lt_of_recognize {bytes : List UInt8}
    (needs : (recognize limit bytes).1 = .incomplete) : bytes.length < maxSize limit := by
  have largest : maxSize limit = limit + 11 := by
    simp only [maxSize, headerSize, Varuint.maxSize, checksumSize]
    omega
  rcases bytes with _ | ⟨first, _ | ⟨second, _ | ⟨source, _ | ⟨destination, field⟩⟩⟩⟩
  all_goals simp only [List.length_nil, List.length_cons]
  · omega
  · omega
  · omega
  · omega
  · simp only [recognize] at needs
    cases groups : Varuint.decodeFrom 0 field with
    | error error =>
      have decoded : Varuint.decode field = .error error := by
        rw [Varuint.decode, groups]
        rfl
      rw [decoded] at needs
      cases error with
      | truncated =>
        have short := ((Varuint.decodeFrom_eq_truncated_iff (by decide)).1 groups).1
        rw [Varuint.maxSize] at short
        omega
      | overlong => cases needs
    | ok pair =>
      obtain ⟨number, used⟩ := pair
      have decoded : Varuint.decode field = .ok (.ofNat number, used) := by
        rw [Varuint.decode, groups]
        rfl
      rw [decoded] at needs
      dsimp only at needs
      have few := Varuint.used_le_of_decodeFrom (by decide) groups
      rw [Varuint.maxSize] at few
      by_cases large : limit < (UInt32.ofNat number).toNat
      · rw [if_pos large] at needs
        cases needs
      rw [if_neg large] at needs
      by_cases short : (first :: second :: source :: destination :: field).length <
          headerSize + used + (UInt32.ofNat number).toNat + checksumSize
      · simp only [List.length_cons, headerSize, checksumSize] at short
        omega
      · rw [if_neg short] at needs
        split at needs <;> cases needs

/-- A pass that needs more bytes leaves fewer than the largest frame has. -/
theorem length_rest_of_incomplete (needs : (pass limit buffer).outcome = .incomplete) :
    (pass limit buffer).rest.length < maxSize limit := by
  rw [pass_rest_of_incomplete needs]
  exact length_lt_of_recognize needs

/-- What a receive buffer can hold that is empty at first: passes take bytes off it, and where a
pass has found that more are needed, one read fills it up. -/
inductive Backlog (limit : Nat) : List UInt8 → Prop
  /-- Nothing has been received. -/
  | empty : Backlog limit []
  /-- A pass takes bytes off the buffer. -/
  | passed {buffer : List UInt8} (backlog : Backlog limit buffer) :
      Backlog limit (pass limit buffer).rest
  /-- More bytes are needed, and a read brings them. -/
  | filled {buffer more : List UInt8} (backlog : Backlog limit buffer)
      (needs : (pass limit buffer).outcome = .incomplete) (short : more.length ≤ readSize) :
      Backlog limit ((pass limit buffer).rest ++ more)

/-- A receive buffer holds less than the largest frame and one read together. -/
theorem Backlog.length_lt (backlog : Backlog limit buffer) :
    buffer.length < maxSize limit + readSize := by
  induction backlog with
  | empty =>
    have room : 0 < readSize := by decide
    rw [List.length_nil]
    omega
  | @passed buffer _ ih =>
    have fewer := length_pass_rest_le limit buffer
    omega
  | filled _ needs short =>
    have left := length_rest_of_incomplete needs
    rw [List.length_append]
    omega

/-! ## Collecting bytes from a line -/

variable {π : Type}

/-- A read brings as many bytes as were asked for at the most. -/
theorem length_of_read {room : Nat} {line after : Line π} {bytes : List UInt8}
    (read : line.read room = (.ok bytes, after)) : bytes.length ≤ room := by
  have meets := Line.meets_read read
  generalize line.arrivals = ahead, after.arrivals = rest at meets
  cases meets with
  | ended | closed => exact Nat.zero_le _
  | data short => exact short
  | part full => exact Nat.le_of_eq full

/-- Passes over a receive buffer and reads that fill it up, until a pass finds something or a read
brings nothing, with what the buffer holds after each of them. -/
inductive Collects (limit : Nat) :
    List UInt8 → Line π → List (List UInt8) → List UInt8 → Line π → Prop
  /-- A pass has found something. -/
  | found {buffer : List UInt8} {line : Line π}
      (found : (pass limit buffer).outcome ≠ .incomplete) :
      Collects limit buffer line [(pass limit buffer).rest] (pass limit buffer).rest line
  /-- A read was made for more bytes, and there are none. -/
  | ended {buffer : List UInt8} {line after : Line π} {result : Except Fault.Kind (List UInt8)}
      (needs : (pass limit buffer).outcome = .incomplete)
      (read : line.read readSize = (result, after))
      (none : result = .ok [] ∨ ∃ kind, kind ≠ .interrupted ∧ result = .error kind) :
      Collects limit buffer line [(pass limit buffer).rest] (pass limit buffer).rest after
  /-- A read for more bytes was interrupted, so another is made. -/
  | interrupted {buffer last : List UInt8} {line between after : Line π}
      {held : List (List UInt8)} (needs : (pass limit buffer).outcome = .incomplete)
      (read : line.read readSize = (.error .interrupted, between))
      (later : Collects limit (pass limit buffer).rest between held last after) :
      Collects limit buffer line ((pass limit buffer).rest :: held) last after
  /-- A read has brought more bytes. -/
  | filled {buffer last bytes : List UInt8} {line between after : Line π}
      {held : List (List UInt8)} (needs : (pass limit buffer).outcome = .incomplete)
      (read : line.read readSize = (.ok bytes, between))
      (later : Collects limit ((pass limit buffer).rest ++ bytes) between held last after) :
      Collects limit buffer line
        ((pass limit buffer).rest :: ((pass limit buffer).rest ++ bytes) :: held) last after

/-- Whatever is read, the buffer holds only what a receive buffer can hold, up to the end. -/
theorem Collects.backlog {last : List UInt8} {line after : Line π} {held : List (List UInt8)}
    (collects : Collects limit buffer line held last after) (backlog : Backlog limit buffer) :
    (∀ content ∈ held, Backlog limit content) ∧ Backlog limit last := by
  induction collects with
  | found | ended =>
    constructor
    · intro content there
      rw [List.mem_singleton.1 there]
      exact backlog.passed
    · exact backlog.passed
  | interrupted _ _ _ ih =>
    obtain ⟨others, last⟩ := ih backlog.passed
    exact ⟨List.forall_mem_cons.2 ⟨backlog.passed, others⟩, last⟩
  | filled needs read _ ih =>
    have full := backlog.filled needs (length_of_read read)
    obtain ⟨others, last⟩ := ih full
    refine ⟨?_, last⟩
    rw [List.forall_mem_cons, List.forall_mem_cons]
    exact ⟨backlog.passed, full, others⟩

namespace Reader

/-- Reading the next frame collects bytes. -/
theorem collects_next (reader : Reader π) :
    ∃ held, Collects reader.limit reader.buffer reader.line held
      reader.next.2.buffer reader.next.2.line := by
  fun_induction next reader with
  | case1 reader pass piece frame found =>
    have some : (Frame.pass reader.limit reader.buffer).outcome ≠ .incomplete := by
      rw [show (Frame.pass _ _).outcome = _ from found]
      simp
    exact ⟨_, .found some⟩
  | case2 reader pass piece error found =>
    have some : (Frame.pass reader.limit reader.buffer).outcome ≠ .incomplete := by
      rw [show (Frame.pass _ _).outcome = _ from found]
      simp
    exact ⟨_, .found some⟩
  | case3 reader pass piece needs line read => exact ⟨_, .ended needs read (.inl rfl)⟩
  | case4 reader pass piece needs byte more line read taken reading after next ih =>
    obtain ⟨held, later⟩ := ih
    rw [next] at later
    exact ⟨_, .filled needs read later⟩
  | case5 reader pass piece needs line read taken reading after next ih =>
    obtain ⟨held, later⟩ := ih
    rw [next] at later
    exact ⟨_, .interrupted needs read later⟩
  | case6 reader pass piece needs kind line uninterrupted read =>
    exact ⟨_, .ended needs read (.inr ⟨kind, uninterrupted, rfl⟩)⟩

/-- Reading the next frame keeps the limit. -/
theorem limit_next (reader : Reader π) : reader.next.2.limit = reader.limit := by
  obtain ⟨_, finds, _⟩ := reader.finds_next
  exact finds.limit

/-- A reader is used, and its line may change meanwhile: what its buffer holds from the beginning
on, and the reader that this leads to. -/
inductive Runs (start : Reader π) : List (List UInt8) → Reader π → Prop
  /-- Nothing has been done. -/
  | start : Runs start [start.buffer] start
  /-- The next frame is read. -/
  | next {held seen : List (List UInt8)} {reader : Reader π} {last : List UInt8} {line : Line π}
      (runs : Runs start held reader)
      (collects : Collects reader.limit reader.buffer reader.line seen last line) :
      Runs start (held ++ seen ++ [reader.next.2.buffer]) reader.next.2
  /-- What is buffered is dropped. -/
  | discard {held : List (List UInt8)} {reader : Reader π} (runs : Runs start held reader) :
      Runs start (held ++ [[]]) reader.discard
  /-- Something happens on the line. -/
  | meanwhile {held : List (List UInt8)} {reader : Reader π} (runs : Runs start held reader)
      (line : Line π) : Runs start held { reader with line }

/-- A reader whose buffer is empty at first holds what a receive buffer can hold. -/
theorem Runs.backlog {start reader : Reader π} {held : List (List UInt8)}
    (runs : Runs start held reader) (empty : start.buffer = []) :
    reader.limit = start.limit ∧ Backlog start.limit reader.buffer ∧
      ∀ content ∈ held, Backlog start.limit content := by
  induction runs with
  | start =>
    rw [empty]
    simp only [List.mem_singleton, forall_eq]
    exact ⟨trivial, .empty, .empty⟩
  | @next held seen reader last line _ collects ih =>
    obtain ⟨limit, backlog, before⟩ := ih
    rw [limit] at collects
    obtain ⟨_, final⟩ := reader.collects_next
    rw [limit] at final
    have after := (final.backlog backlog).2
    refine ⟨reader.limit_next.trans limit, after, ?_⟩
    simp only [List.forall_mem_append, List.forall_mem_singleton]
    exact ⟨⟨before, (collects.backlog backlog).1⟩, after⟩
  | discard _ ih =>
    obtain ⟨limit, _, before⟩ := ih
    refine ⟨limit, .empty, ?_⟩
    simp only [List.forall_mem_append, List.forall_mem_singleton]
    exact ⟨before, .empty⟩
  | meanwhile _ _ ih => exact ih

end Reader

end Multidrop.Frame
