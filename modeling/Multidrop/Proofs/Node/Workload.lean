import Multidrop.Proofs.Dispatch.Capacity
import Multidrop.Proofs.Node.Isolation
import Multidrop.Proofs.Subframe.Shortest

/-!
# The work that a frame can cause

A few bytes can ask for billions of registers. Still, the calls that a frame causes are bounded: a
read takes at least one of the bytes that the reply may have behind its header, and a write takes at
least one byte of the payload (`Node.calls_bounded`). A payload that is refused causes no call.
-/
namespace Multidrop

open Subframe (Contents)

namespace Call

/-- Whether a call reads a register. -/
def isRead : Call → Bool
  | .read .. => true
  | .write .. => false

/-- Whether a call writes a register. -/
def isWrite : Call → Bool
  | .read .. => false
  | .write .. => true

/-- A read costs at least one byte of the reply. -/
theorem readCost_pos {call : Call} (read : call.isRead = true) : 0 < call.readCost := by
  cases call with
  | read register kind =>
    have positive := kind.size_pos
    simp only [readCost]
    omega
  | write => cases read

/-- There are no more reads among calls than reply bytes that the calls cost. -/
theorem countP_isRead_le (calls : List Call) : calls.countP isRead ≤ total readCost calls := by
  induction calls with
  | nil => exact Nat.le_refl 0
  | cons call rest ih =>
    rw [List.countP_cons, total_cons]
    by_cases read : call.isRead = true
    · have cost := readCost_pos read
      rw [if_pos read]
      omega
    · rw [if_neg read]
      omega

end Call

/-- A value takes at least one byte. -/
theorem Packed.length_values_le (packed : Packed) :
    packed.values.length ≤ packed.bytes.length := by
  have all : ∀ bytes, (unpack packed.kind bytes).length ≤ bytes.length := by
    intro bytes
    fun_induction unpack packed.kind bytes with
    | case1 => exact Nat.zero_le _
    | case2 bytes value rest found less ih =>
      rw [List.length_cons]
      omega
  exact all packed.bytes

namespace Subframe

/-- A subframe asks for no more writes than it takes bytes. -/
theorem countP_isWrite_calls_le (subframe : Subframe) :
    subframe.calls.countP Call.isWrite ≤ subframe.size := by
  have tagged : 1 ≤ subframe.size := by
    rw [size, tag, Form.size_tag]
    omega
  cases subframe with
  | writeSingle register value => exact tagged
  | writeMultiple start values =>
    have cells : (Dispatch.cells start values.values).length = values.values.length :=
      List.length_mapIdx
    have each := values.length_values_le
    have most := @List.countP_le_length _ Call.isWrite (Subframe.writeMultiple start values).calls
    rw [calls, List.length_map, cells] at most
    simp only [calls, size, bodySize]
    omega
  | readMultiple start count kind =>
    have none : (Subframe.readMultiple start count kind).calls.countP Call.isWrite = 0 := by
      rw [List.countP_eq_zero]
      intro call there
      obtain ⟨register, _, rfl⟩ := List.mem_map.1 there
      exact Bool.false_ne_true
    rw [none]
    exact Nat.zero_le _
  | readSingle | replySingle | replyMultiple | writeError | readError | clientToServer
  | serverToClient => exact Nat.zero_le _

/-- Subframes ask for no more writes than they take bytes. -/
theorem countP_isWrite_flatMap_le (subframes : List Subframe) :
    (subframes.flatMap calls).countP Call.isWrite ≤ total size subframes := by
  induction subframes with
  | nil => exact Nat.le_refl 0
  | cons first rest ih =>
    have own := first.countP_isWrite_calls_le
    rw [List.flatMap_cons, List.countP_append, total_cons]
    omega

/-- Subframes ask for no more reads than the bytes that the least reply has for them. -/
theorem countP_isRead_flatMap_le (subframes : List Subframe) :
    (subframes.flatMap calls).countP Call.isRead ≤ total readCost subframes := by
  have most := Call.countP_isRead_le (subframes.flatMap calls)
  rw [total_flatMap, funext total_readCost_calls] at most
  exact most

/-- Counting on from a register of a range stays within the register numbers. -/
theorem toNat_add_of_inRange {start : Register} {count : UInt32} (inside : inRange start count)
    {offset : Nat} (within : offset < count.toNat) :
    start.toNat + offset < Word.bound 32 ∧
      (start + .ofNat offset).toNat = start.toNat + offset := by
  have last : start.toNat + (count.toNat - 1) < Word.bound 32 := by
    rw [inRange, Bool.or_eq_true, decide_eq_true_eq, decide_eq_true_eq] at inside
    apply inside.resolve_left
    rintro rfl
    exact absurd within (Nat.not_lt_zero offset)
  have small : start.toNat + offset < Word.bound 32 := by omega
  refine ⟨small, ?_⟩
  rw [UInt32.toNat_add, UInt32.toNat_ofNat', Nat.add_mod_mod]
  exact Nat.mod_eq_of_lt small

end Subframe

namespace Dispatch

variable {σ : Type} {limit : Nat} {payload : List UInt8} {planned : Plan}

/-- Carrying out a planned payload makes the calls of its subframes. -/
theorem log_execute (service : RegisterService σ) (plans : plan limit payload = .ok planned)
    (scene : Scene (σ × List Call)) :
    (execute service.logged planned payload scene).registers.2 =
      scene.registers.2 ++ (Contents.ofPayload payload).subframes.flatMap Subframe.calls := by
  obtain ⟨⟨registers, log⟩, tunnels, reply⟩ := scene
  rw [execute, subframes_executable plans, registers_foldl_act]
  dsimp only
  rw [RegisterService.answerAll_logged]

/-- A planned payload reads nothing, or leaves room for a header in front of what it reads. -/
theorem countP_isRead_le_of_plan (plans : plan limit payload = .ok planned) :
    ((Contents.ofPayload payload).subframes.flatMap Subframe.calls).countP Call.isRead ≤
      limit - 2 := by
  have most := Subframe.countP_isRead_flatMap_le (Contents.ofPayload payload).subframes
  obtain ⟨⟨_, admits, _⟩, _⟩ := plan_eq_ok_iff.1 plans
  rcases ((admits_iff _).1 admits).2 with unread | room
  · have none := Subframe.total_readCost_of_unread (List.any_eq_false.2 fun subframe there =>
      Bool.eq_false_iff.1 (unread subframe there))
    omega
  · omega

end Dispatch

namespace Node

variable {σ : Type}

/-- Carrying out a planned payload makes fewer read calls than the limit, by the two bytes of a
header, and no more write calls than the payload has bytes. -/
theorem calls_bounded (service : RegisterService σ) (limit : Nat) (payload : List UInt8) :
    let subframes := (Contents.ofPayload payload).subframes
    let made := subframes.flatMap Subframe.calls
    (∀ planned, Dispatch.plan limit payload = .ok planned →
      (∀ scene : Dispatch.Scene (σ × List Call),
        (Dispatch.execute service.logged planned payload scene).registers.2 =
          scene.registers.2 ++ made) ∧
      made.countP Call.isRead ≤ limit - 2 ∧
      ((∀ subframe ∈ subframes, subframe.isRead = false) → made.countP Call.isRead = 0) ∧
      made.countP Call.isWrite ≤ payload.length ∧
      ∀ start count kind, .readMultiple start count kind ∈ subframes →
        ∀ offset < count.toNat, start.toNat + offset < Word.bound 32 ∧
          (start + .ofNat offset).toNat = start.toNat + offset) ∧
    (∀ error, Dispatch.plan limit payload = .error error →
      ∀ (node : Node) (frame : Frame) (registers : σ) (log : List Call),
        node.options.bufferSize = limit → frame.payload = payload →
          (node.process service.logged frame (registers, log)).registers = (registers, log)) ∧
    (limit < Word.bound 64 - 1 → payload.length < Word.bound 64 →
      Dispatch.Agrees (Dispatch.WordPlan.ofPayload (.ofNat limit) payload)
        (Dispatch.plan limit payload)) := by
  intro subframes made
  obtain ⟨fit, size⟩ := Contents.total_size_le payload
  have reads : made.countP Call.isRead ≤ total Subframe.readCost subframes :=
    Subframe.countP_isRead_flatMap_le subframes
  have writes : made.countP Call.isWrite ≤ total Subframe.size subframes :=
    Subframe.countP_isWrite_flatMap_le subframes
  refine ⟨fun planned plans => ⟨?_, ?_, fun unread => ?_, ?_, ?_⟩, ?_, fun small short => ?_⟩
  · exact Dispatch.log_execute service plans
  · exact Dispatch.countP_isRead_le_of_plan plans
  · have none := Subframe.total_readCost_of_unread (List.any_eq_false.2 fun subframe there =>
      Bool.eq_false_iff.1 (unread subframe there))
    omega
  · exact Nat.le_trans writes size
  · intro start count kind there offset within
    exact Subframe.toNat_add_of_inRange (fit _ there) within
  · rintro error refused node frame registers log rfl rfl
    obtain ⟨unknown, same⟩ :=
      process_of_inert service.logged (registers, log) (.inr ⟨error, refused⟩)
    rw [same]
  · exact Dispatch.agrees_plan (by omega) short (.inl small)

/-- A read of the last two registers makes two calls under a limit of six bytes, one for each, and a
read of nearly all registers in seven bytes is refused and makes none. -/
theorem calls_bounded_of_last :
    let service : RegisterService Unit :=
      { read := fun state _ _ => (.ok (.int16 7), state), write := fun state _ _ => (.ok (), state) }
    let last : List UInt8 := [0x1d, 0xfe, 0xff, 0xff, 0xff, 0x0f, 2]
    let huge : Frame :=
      { source := 2, destination := 1, payload := [0x1c, 0, 0xff, 0xff, 0xff, 0xff, 0x0f] }
    let node : Node := .ofConfig { bufferSize := 256 } .default
    let made : List Call := [.read 0xfffffffe .int16, .read 0xffffffff .int16]
    (∃ planned, Dispatch.plan 6 last = .ok planned ∧
      (Dispatch.execute service.logged planned last
        { registers := ((), []), tunnels := ⟨[]⟩, reply := { limit := 6 } }).registers.2 = made) ∧
      made.countP Call.isRead ≤ 6 - 2 ∧
      (node.process service.logged huge ((), [])).registers = ((), []) := by
  intro service last huge node made
  have subframes : (Contents.ofPayload last).subframes =
      [.readMultiple 0xfffffffe 2 .int16] := by
    show (Contents.ofPayload [0x1d, 0xfe, 0xff, 0xff, 0xff, 0x0f, 2]).subframes = _
    decide +kernel
  have planned : Dispatch.plan 6 last =
      .ok { executable := 7, registers := 1, reads := 1, replyFloor := 6 } := by
    show Dispatch.plan 6 [0x1d, 0xfe, 0xff, 0xff, 0xff, 0x0f, 2] = _
    with_unfolding_all rfl
  have refused : Dispatch.plan 256 huge.payload = .error (.malformed 0 .replyTooSmall) := by
    show Dispatch.plan 256 [0x1c, 0, 0xff, 0xff, 0xff, 0xff, 0x0f] = _
    with_unfolding_all rfl
  obtain ⟨carried, -, -⟩ := calls_bounded service 6 last
  obtain ⟨calls, reads, -⟩ := carried _ planned
  rw [subframes] at calls reads
  refine ⟨⟨_, planned, calls _⟩, reads, ?_⟩
  exact (calls_bounded service 256 huge.payload).2.1 _ refused node huge () [] rfl rfl

end Node

end Multidrop
