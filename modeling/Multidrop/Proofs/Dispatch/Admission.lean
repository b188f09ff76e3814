import Multidrop.Proofs.Dispatch.Poll
import Multidrop.Proofs.Dispatch.Words

/-!
# Which payloads are planned

A payload is planned exactly when it can be told apart up to its end or its first unknown tag, holds
requests only, leaves room for the least reply to its reads, and polls a tunnel only where it does
nothing else (`plan_eq_ok_iff`). The plan then counts its subframes and ends behind the last of them
(`admits_and_describes`), in words as well as in numbers.
-/
namespace Multidrop

/-- Whether a subframe polls a tunnel. -/
def Subframe.isPoll : Subframe → Bool
  | .clientToServer .. => true
  | _ => false

/-- Least reply bytes for what a subframe reads: for each register its value, or three bytes where
these are fewer. -/
def Subframe.readCost : Subframe → Nat
  | .readSingle _ kind => min kind.size 3
  | .readMultiple _ count kind => count.toNat * min kind.size 3
  | _ => 0

/-- The unknown tag at which a walk stopped, if it stopped at one. -/
def Subframe.Contents.unknownTag? (contents : Contents) : Option UInt32 :=
  match contents.stop with
  | some (.unknown tag _) => some tag
  | _ => none

/-- A subframe that reads nothing costs nothing. -/
theorem Subframe.readCost_of_unread {subframe : Subframe} (unread : subframe.isRead = false) :
    subframe.readCost = 0 := by
  cases subframe with
  | readSingle | readMultiple => cases unread
  | _ => rfl

/-- Subframes that read nothing cost nothing. -/
theorem Subframe.total_readCost_of_unread {subframes : List Subframe}
    (unread : subframes.any Subframe.isRead = false) : total readCost subframes = 0 := by
  induction subframes with
  | nil => rfl
  | cons first rest ih =>
    rw [List.any_cons, Bool.or_eq_false_iff] at unread
    rw [total_cons, readCost_of_unread unread.1, ih unread.2]

namespace Dispatch

open Subframe (Contents Located)

variable {limit floor : Nat} {plan after : Plan}

/-! ## Subframes in order -/

/-- The least reply bytes of a plan after subframes. The first read brings a header with it. -/
def floorAfter (floor : Nat) (subframes : List Subframe) : Nat :=
  if subframes.any Subframe.isRead then max floor 2 + total Subframe.readCost subframes else floor

/-- Subframes that may be taken into a plan. -/
structure Admits (limit floor : Nat) (subframes : List Subframe) : Prop where
  /-- They are requests. -/
  requests : ∀ subframe ∈ subframes, subframe.isReply = false
  /-- The least reply to the reads among them is within the limit. -/
  room : subframes.any Subframe.isRead = true → floorAfter floor subframes ≤ limit

/-- A plan with some subframes more. -/
def Plan.count (plan : Plan) (subframes : List Subframe) : Plan :=
  { plan with
    registers := plan.registers + subframes.countP Subframe.isRegisterRequest
    reads := plan.reads + subframes.countP Subframe.isRead
    tunnels := plan.tunnels + subframes.countP Subframe.isPoll
    replyFloor := floorAfter plan.replyFloor subframes }

/-- Least bytes do not get fewer. -/
theorem le_floorAfter (floor : Nat) (subframes : List Subframe) :
    floor ≤ floorAfter floor subframes := by
  unfold floorAfter
  split
  · omega
  · exact Nat.le_refl _

/-- Least bytes add up. -/
theorem floorAfter_cons (floor : Nat) (first : Subframe) (rest : List Subframe) :
    floorAfter floor (first :: rest) = floorAfter (floorAfter floor [first]) rest := by
  unfold floorAfter
  cases here : first.isRead <;> cases later : rest.any Subframe.isRead
  · simp [here, later]
  · simp [here, later, Subframe.readCost_of_unread here]
  · simp [here, later, Subframe.total_readCost_of_unread later]
  · simp [here, later]
    omega

/-- Subframes may be taken into a plan exactly when they may one after another. -/
theorem admits_cons (first : Subframe) (rest : List Subframe) :
    Admits limit floor (first :: rest) ↔
      Admits limit floor [first] ∧ Admits limit (floorAfter floor [first]) rest := by
  have whole := floorAfter_cons floor first rest
  constructor
  · rintro ⟨requests, room⟩
    obtain ⟨here, others⟩ := List.forall_mem_cons.1 requests
    rw [whole, List.any_cons, Bool.or_eq_true] at room
    refine ⟨⟨List.forall_mem_singleton.2 here, fun read => ?_⟩, others, fun read => ?_⟩
    · rw [List.any_cons, List.any_nil, Bool.or_false] at read
      exact Nat.le_trans (le_floorAfter _ rest) (room (.inl read))
    · exact room (.inr read)
  · rintro ⟨⟨here, room⟩, others, more⟩
    refine ⟨List.forall_mem_cons.2 ⟨here first (List.mem_singleton_self first), others⟩,
      fun read => ?_⟩
    rw [whole]
    cases later : rest.any Subframe.isRead with
    | true => exact more later
    | false =>
      rw [List.any_cons, later] at read
      rw [floorAfter, if_neg (by rw [later]; exact Bool.false_ne_true)]
      exact room read

/-- Subframes are counted one after another. -/
theorem count_cons (first : Subframe) (rest : List Subframe) :
    plan.count (first :: rest) = (plan.count [first]).count rest := by
  have one : ∀ test : Subframe → Bool,
      (first :: rest).countP test = [first].countP test + rest.countP test := fun test => by
    rw [← List.countP_append]
    rfl
  simp only [Plan.count, one, floorAfter_cons _ first rest, Nat.add_assoc]

/-- A subframe may be taken into a plan if it is a request, with room for what it reads. -/
theorem admits_singleton (subframe : Subframe) :
    Admits limit floor [subframe] ↔ subframe.isReply = false ∧
      (subframe.isRead = true → max floor 2 + subframe.readCost ≤ limit) := by
  have only : [subframe].any Subframe.isRead = subframe.isRead := by
    rw [List.any_cons, List.any_nil, Bool.or_false]
  have sum : subframe.isRead = true →
      floorAfter floor [subframe] = max floor 2 + subframe.readCost := by
    intro read
    rw [floorAfter, only, if_pos read, total_cons, total_nil, Nat.add_zero]
  constructor
  · rintro ⟨requests, room⟩
    rw [only] at room
    exact ⟨requests subframe (List.mem_singleton_self subframe), fun read => sum read ▸ room read⟩
  · rintro ⟨request, room⟩
    refine ⟨fun other there => List.mem_singleton.1 there ▸ request, fun read => ?_⟩
    rw [only] at read
    rw [sum read]
    exact room read

/-- A subframe is taken into a plan exactly when it may be, and then it is counted. -/
theorem add_eq_ok_iff (located : Located) :
    plan.add limit located = .ok after ↔
      Admits limit plan.replyFloor [located.subframe] ∧ after = plan.count [located.subframe] := by
  obtain ⟨offset, subframe⟩ := located
  rw [admits_singleton]
  cases subframe with
  | writeSingle | writeMultiple | clientToServer =>
    constructor
    · intro taken
      cases taken
      exact ⟨⟨rfl, fun read => Bool.noConfusion read⟩, rfl⟩
    · rintro ⟨_, rfl⟩
      rfl
  | readSingle | readMultiple =>
    simp only [Plan.add, Subframe.isRegisterRequest, if_true, readFloor?]
    constructor
    · intro taken
      split at taken
      · cases taken
      · rename_i granted
        cases taken
        exact ⟨⟨rfl, fun _ => Nat.le_of_not_lt granted⟩, rfl⟩
    · rintro ⟨⟨_, room⟩, rfl⟩
      exact if_neg (Nat.not_lt_of_le (room rfl))
  | replySingle | replyMultiple | writeError | readError | serverToClient =>
    constructor
    · intro taken
      cases taken
    · rintro ⟨⟨request, _⟩, _⟩
      cases request

/-- Subframes are taken into a plan exactly when they may be, and then they are counted. -/
theorem foldlM_eq_ok_iff (located : List Located) :
    located.foldlM (Plan.add limit) plan = .ok after ↔
      Admits limit plan.replyFloor (located.map Located.subframe) ∧
        after = plan.count (located.map Located.subframe) := by
  induction located generalizing plan with
  | nil =>
    have none : Admits limit plan.replyFloor [] := ⟨nofun, nofun⟩
    constructor
    · intro taken
      cases taken
      exact ⟨none, rfl⟩
    · rintro ⟨_, rfl⟩
      rfl
  | cons first rest ih =>
    rw [List.foldlM_cons, bind_eq_ok, List.map_cons, admits_cons, count_cons]
    simp only [add_eq_ok_iff, ih]
    constructor
    · rintro ⟨_, ⟨one, rfl⟩, others, same⟩
      exact ⟨⟨one, others⟩, same⟩
    · rintro ⟨⟨one, others⟩, same⟩
      exact ⟨_, ⟨one, rfl⟩, others, same⟩

/-! ## Whole payloads -/

/-- A plan is closed unless the walk stopped at a flaw. It ends at an unknown tag. -/
theorem close_eq_ok_iff (stop : Option Subframe.Error) :
    plan.close stop = .ok after ↔
      (∀ offset flaw, stop ≠ some (.malformed offset flaw)) ∧
        after = match stop with
          | some (.unknown tag offset) =>
            { plan with executable := offset, unknownTag := some tag }
          | _ => plan := by
  match stop with
  | none => exact ⟨fun same => by cases same; exact ⟨nofun, rfl⟩, fun same => by rw [same.2]; rfl⟩
  | some (.unknown tag offset) =>
    exact ⟨fun same => by cases same; exact ⟨nofun, rfl⟩, fun same => by rw [same.2]; rfl⟩
  | some (.malformed offset flaw) => exact ⟨nofun, fun same => absurd rfl (same.1 offset flaw)⟩

/-- The plan of a payload that is planned. -/
def planOf (payload : List UInt8) : Plan :=
  let contents := Contents.ofPayload payload
  { ({ executable := payload.length } : Plan).count contents.subframes with
    executable :=
      match contents.stop with
      | some (.unknown _ offset) => offset
      | _ => payload.length
    unknownTag := contents.unknownTag? }

/-- A request reads or writes registers, or polls a tunnel. -/
theorem isRegisterRequest_of_request {subframe : Subframe} (request : subframe.isReply = false) :
    subframe.isRegisterRequest = !subframe.isPoll := by
  cases subframe with
  | replySingle | replyMultiple | writeError | readError | serverToClient => cases request
  | _ => rfl

/-- A poll is alone in its payload exactly when a plan of it says so. -/
theorem tunnelAlone_planOf {payload : List UInt8}
    (requests : ∀ subframe ∈ (Contents.ofPayload payload).subframes, subframe.isReply = false)
    (sound : ∀ offset flaw, (Contents.ofPayload payload).stop ≠ some (.malformed offset flaw)) :
    (planOf payload).tunnelAlone = true ↔
      (∀ subframe ∈ (Contents.ofPayload payload).subframes, subframe.isPoll = false) ∨
        ∃ channel data, Polls payload channel data := by
  have tunnels : (planOf payload).tunnels =
      (Contents.ofPayload payload).subframes.countP Subframe.isPoll := Nat.zero_add _
  have registers : (planOf payload).registers =
      (Contents.ofPayload payload).subframes.countP Subframe.isRegisterRequest := Nat.zero_add _
  have unknown : (planOf payload).unknownTag = (Contents.ofPayload payload).unknownTag? := rfl
  unfold Plan.tunnelAlone
  rw [tunnels, registers, unknown, Bool.or_eq_true, Bool.and_eq_true, Bool.and_eq_true,
    decide_eq_true_eq, decide_eq_true_eq, decide_eq_true_eq, List.countP_eq_zero]
  apply or_congr
  · exact forall₂_congr fun _ _ => iff_of_eq (Bool.not_eq_true _)
  constructor
  · rintro ⟨⟨one, none⟩, whole⟩
    have all : (Contents.ofPayload payload).subframes.countP Subframe.isPoll =
        (Contents.ofPayload payload).subframes.length := by
      refine List.countP_eq_length.2 fun subframe there => ?_
      have other := List.countP_eq_zero.1 none subframe there
      rw [isRegisterRequest_of_request (requests subframe there)] at other
      simpa using other
    obtain ⟨subframe, alone⟩ := List.length_eq_one_iff.1 (all.symm.trans one)
    have poll : subframe.isPoll = true :=
      List.countP_eq_length.1 all subframe (alone ▸ List.mem_singleton_self subframe)
    have stop : (Contents.ofPayload payload).stop = .none := by
      unfold Contents.unknownTag? at whole
      match met : (Contents.ofPayload payload).stop with
      | .none => rfl
      | some (.unknown tag offset) =>
        rw [met] at whole
        cases whole
      | some (.malformed offset flaw) => exact absurd met (sound offset flaw)
    cases subframe with
    | clientToServer channel data => exact ⟨channel, data, alone, stop⟩
    | _ => cases poll
  · rintro ⟨channel, data, alone, stop⟩
    rw [alone, Contents.unknownTag?, stop]
    exact ⟨⟨rfl, rfl⟩, rfl⟩

/-- A payload is planned exactly when it is sound up to its end or its first unknown tag, its
subframes may be taken into a plan, and a poll among them is alone. -/
theorem plan_eq_ok_iff {payload : List UInt8} {planned : Plan} :
    Dispatch.plan limit payload = .ok planned ↔
      ((∀ offset flaw, (Contents.ofPayload payload).stop ≠ some (.malformed offset flaw)) ∧
        Admits limit 0 (Contents.ofPayload payload).subframes ∧
        ((∀ subframe ∈ (Contents.ofPayload payload).subframes, subframe.isPoll = false) ∨
          ∃ channel data, Polls payload channel data)) ∧
      planned = planOf payload := by
  have made : ∀ gathered closed : Plan,
      gathered = ({ executable := payload.length } : Plan).count
        (Contents.ofPayload payload).subframes →
      (closed = match (Contents.ofPayload payload).stop with
        | some (.unknown tag offset) =>
          { gathered with executable := offset, unknownTag := some tag }
        | _ => gathered) → closed = planOf payload := by
    rintro gathered closed rfl rfl
    rw [planOf, Contents.unknownTag?]
    match (Contents.ofPayload payload).stop with
    | .none | some (.unknown _ _) | some (.malformed _ _) => rfl
  simp only [Dispatch.plan, bind_eq_ok, foldlM_eq_ok_iff, close_eq_ok_iff]
  constructor
  · rintro ⟨gathered, ⟨admits, counted⟩, closed, ⟨sound, close⟩, alone⟩
    have same := made gathered closed counted close
    by_cases single : closed.tunnelAlone = true
    · rw [if_pos single] at alone
      cases alone
      rw [same] at single
      exact ⟨⟨sound, admits, (tunnelAlone_planOf admits.requests sound).1 single⟩, same⟩
    · rw [if_neg single] at alone
      cases alone
  · rintro ⟨⟨sound, admits, alone⟩, rfl⟩
    have single := (tunnelAlone_planOf admits.requests sound).2 alone
    refine ⟨_, ⟨admits, rfl⟩, planOf payload, ⟨sound, ?_⟩, if_pos single⟩
    exact (made _ _ rfl rfl).symm

/-- What a payload is like that is planned. -/
structure Plannable (limit : Nat) (payload : List UInt8) : Prop where
  /-- The walk over it does not stop at a flaw. -/
  sound : ∀ offset flaw, (Contents.ofPayload payload).stop ≠ some (.malformed offset flaw)
  /-- No subframe of a reply is in it. -/
  requests : ∀ subframe ∈ (Contents.ofPayload payload).subframes, subframe.isReply = false
  /-- It reads nothing, or a header and the least of what it reads are within the limit. -/
  room : (∀ subframe ∈ (Contents.ofPayload payload).subframes, subframe.isRead = false) ∨
    2 + total Subframe.readCost (Contents.ofPayload payload).subframes ≤ limit
  /-- It polls no tunnel, or is one poll from its beginning to its end. -/
  alone : (∀ subframe ∈ (Contents.ofPayload payload).subframes, subframe.isPoll = false) ∨
    ∃ channel data, Polls payload channel data

/-- A plan that says of a payload what is so. -/
structure Plan.Describes (planned : Plan) (payload : List UInt8) : Prop where
  /-- It carries out as many bytes as the subframes take that the walk meets. -/
  executable : ∃ parts : List (List UInt8 × Located), ∃ rest,
    (Contents.ofPayload payload).located = parts.map Prod.snd ∧
      payload = parts.flatMap Prod.fst ++ rest ∧ (∀ part ∈ parts, part.2.Spelt part.1) ∧
      planned.executable = total (fun part => part.1.length) parts
  /-- It has the unknown tag at which the walk stops, if there is one. -/
  unknownTag : planned.unknownTag = (Contents.ofPayload payload).unknownTag?
  /-- It counts the subframes that read or write registers. -/
  registers : planned.registers =
    (Contents.ofPayload payload).subframes.countP Subframe.isRegisterRequest
  /-- It counts the subframes that read registers. -/
  reads : planned.reads = (Contents.ofPayload payload).subframes.countP Subframe.isRead
  /-- It counts the subframes that poll a tunnel. -/
  tunnels : planned.tunnels = (Contents.ofPayload payload).subframes.countP Subframe.isPoll

/-- The room that a payload without reads before it needs. -/
theorem admits_iff (subframes : List Subframe) :
    Admits limit 0 subframes ↔
      (∀ subframe ∈ subframes, subframe.isReply = false) ∧
        ((∀ subframe ∈ subframes, subframe.isRead = false) ∨
          2 + total Subframe.readCost subframes ≤ limit) := by
  have unread : subframes.any Subframe.isRead = false ↔
      ∀ subframe ∈ subframes, subframe.isRead = false := by
    rw [List.any_eq_false]
    exact forall₂_congr fun _ _ => iff_of_eq (Bool.not_eq_true _)
  have sum : subframes.any Subframe.isRead = true →
      floorAfter 0 subframes = 2 + total Subframe.readCost subframes := fun read => if_pos read
  constructor
  · rintro ⟨requests, room⟩
    refine ⟨requests, ?_⟩
    cases read : subframes.any Subframe.isRead with
    | false => exact .inl (unread.1 read)
    | true => exact .inr (sum read ▸ room read)
  · rintro ⟨requests, room⟩
    refine ⟨requests, fun read => ?_⟩
    rcases room with none | room
    · rw [unread.2 none] at read
      cases read
    · rw [sum read]
      exact room

/-- The plan of a payload says of it what is so. -/
theorem describes_planOf {payload : List UInt8}
    (sound : ∀ offset flaw, (Contents.ofPayload payload).stop ≠ some (.malformed offset flaw)) :
    (planOf payload).Describes payload := by
  refine ⟨?_, rfl, Nat.zero_add _, Nat.zero_add _, Nat.zero_add _⟩
  obtain ⟨parts, rest, located, split, spelt, whole, stop⟩ :=
    Subframe.Walk.exists_parts 0 payload
  refine ⟨parts, rest, located, split, spelt, ?_⟩
  rw [total_length]
  match met : (Contents.ofPayload payload).stop with
  | none =>
    have last : (planOf payload).executable = payload.length := by
      rw [planOf]
      simp only [met]
    rw [last]
    conv => lhs; rw [split, whole met, List.append_nil]
  | some (.unknown tag offset) =>
    have last : (planOf payload).executable = offset := by
      rw [planOf]
      simp only [met]
    have here := Subframe.place_of_unknown (stop _ met).2
    rw [last, here, Nat.zero_add]
  | some (.malformed offset flaw) => exact absurd met (sound offset flaw)

/-- The least bytes of subframes are what they read. -/
theorem total_floorOf (located : List Located) :
    total floorOf located = total Subframe.readCost (located.map Located.subframe) := by
  have one (item : Located) : floorOf item = item.subframe.readCost := by
    unfold floorOf
    cases item.subframe <;> rfl
  rw [total_map, funext one]

/-- A payload is planned exactly when it can be told apart up to its end or its first unknown tag,
holds requests only, leaves room for the least reply and polls alone. -/
theorem plan_decides (limit : Nat) (payload : List UInt8) :
    ((∃ planned, Dispatch.plan limit payload = .ok planned) ↔ Plannable limit payload) ∧
      (∀ planned, Dispatch.plan limit payload = .ok planned → planned.Describes payload) ∧
      (limit < Word.bound 64 → payload.length < Word.bound 64 →
        limit < Word.bound 64 - 1 ∨
          2 + total Subframe.readCost (Contents.ofPayload payload).subframes ≤ limit →
        Agrees (WordPlan.ofPayload (.ofNat limit) payload) (Dispatch.plan limit payload)) := by
  refine ⟨⟨?_, ?_⟩, ?_, fun known size real => agrees_plan known size ?_⟩
  · rintro ⟨planned, plans⟩
    obtain ⟨⟨sound, admits, alone⟩, _⟩ := plan_eq_ok_iff.1 plans
    obtain ⟨requests, room⟩ := (admits_iff _).1 admits
    exact ⟨sound, requests, room, alone⟩
  · rintro ⟨sound, requests, room, alone⟩
    have admits := (admits_iff _).2 ⟨requests, room⟩
    exact ⟨planOf payload, plan_eq_ok_iff.2 ⟨⟨sound, admits, alone⟩, rfl⟩⟩
  · intro planned plans
    obtain ⟨⟨sound, _⟩, rfl⟩ := plan_eq_ok_iff.1 plans
    exact describes_planOf sound
  · rw [total_floorOf]
    exact real.imp_right fun room => Nat.lt_of_le_of_lt room known

/-- A write, a read of two registers and an unknown tag are planned up to the tag, with a limit that
holds the least reply and no more; the plan in words has the same numbers. -/
theorem plan_decides_of_mixed :
    let payload : List UInt8 := [0x10, 1, 5, 0x9c, 0x00, 0, 2, 0x30, 7]
    ∃ planned, Dispatch.plan 4 payload = .ok planned ∧ planned.Describes payload ∧
      planned.executable = 7 ∧ planned.unknownTag = some 0x30 ∧ planned.registers = 2 ∧
      planned.reads = 1 ∧ ¬Plannable 3 payload ∧
      Agrees (WordPlan.ofPayload 4 payload) (Dispatch.plan 4 payload) := by
  intro payload
  have planned : Dispatch.plan 4 payload =
      .ok { executable := 7, unknownTag := some 0x30, registers := 2, reads := 1,
            replyFloor := 4 } := by
    show Dispatch.plan 4 [0x10, 1, 5, 0x9c, 0x00, 0, 2, 0x30, 7] = _
    with_unfolding_all rfl
  have refused : ¬∃ planned, Dispatch.plan 3 payload = .ok planned := by
    have error : Dispatch.plan 3 payload = .error (.malformed 3 .replyTooSmall) := by
      show Dispatch.plan 3 [0x10, 1, 5, 0x9c, 0x00, 0, 2, 0x30, 7] = _
      with_unfolding_all rfl
    rw [error]
    rintro ⟨_, impossible⟩
    cases impossible
  obtain ⟨_, describes, agrees⟩ := plan_decides 4 payload
  exact ⟨_, planned, describes _ planned, rfl, rfl, rfl, rfl,
    mt (plan_decides 3 payload).1.2 refused, agrees (by decide) (by decide) (.inl (by decide))⟩

end Dispatch

end Multidrop
