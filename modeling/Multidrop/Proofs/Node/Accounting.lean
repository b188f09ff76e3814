import Multidrop.Proofs.Node.Listening
import Multidrop.Proofs.Node.Process

/-!
# What the counters of a node say

Everything that a station finds among its bytes is of one kind (`Node.finding`), and each kind has
at most one counter (`Stats.mark`). So the counters of a station that listens say how many of each
kind it has found, as far as a counter goes, and none of them ever falls
(`Station.Listens.counted`).
-/
namespace Multidrop

/-- What a node makes of something that is found. -/
inductive Finding where
  /-- A frame with a wrong checksum. -/
  | damaged
  /-- A frame that declares more than the limit, or a length that is no number. -/
  | overlong
  /-- A frame for another node. -/
  | foreign
  /-- A request that is refused as a whole. -/
  | refused
  /-- A request that is carried out in front of an unknown subframe. -/
  | unknown
  /-- A request that is carried out as a whole, or a fault that is not counted. -/
  | plain
  deriving DecidableEq

/-- What a node makes of what a pass has found. -/
def Node.finding (node : Node) : Frame.Outcome → Finding
  | .fault (.checksumMismatch ..) => .damaged
  | .fault (.receiveOverrun ..) | .fault (.malformedLength _) => .overlong
  | .fault _ | .incomplete => .plain
  | .frame frame =>
    if node.Foreign frame then .foreign
    else
      match Dispatch.plan node.options.bufferSize frame.payload with
      | .error _ => .refused
      | .ok plan => if plan.unknownTag.isSome then .unknown else .plain

namespace Stats

/-- The counters, in order. -/
def counters : List (Stats → UInt32) :=
  [wrongId, checksumMismatch, receiveOverrun, unknownSubframe, missingSubframe, malformedSubframe,
    replyOverflow]

/-- The counters after something more has been found. -/
def mark (stats : Stats) : Finding → Stats
  | .damaged => { stats with checksumMismatch := bump stats.checksumMismatch }
  | .overlong => { stats with receiveOverrun := bump stats.receiveOverrun }
  | .foreign => { stats with wrongId := bump stats.wrongId }
  | .refused => { stats with malformedSubframe := bump stats.malformedSubframe }
  | .unknown => { stats with unknownSubframe := bump stats.unknownSubframe }
  | .plain => stats

end Stats

/-! ## One counter -/

/-- A counter has counted so many, as far as it goes. -/
def Counted (before : UInt32) (count : Nat) (after : UInt32) : Prop :=
  after.toNat = min (before.toNat + count) (Word.bound 32 - 1)

namespace Counted

variable {before between after : UInt32} {count more : Nat}

/-- A counter that is left alone has counted nothing. -/
theorem refl (counter : UInt32) : Counted counter 0 counter := by
  rw [Counted, ← toNat_raise, raise_zero]

/-- One count counts one. -/
theorem bump (counter : UInt32) : Counted counter 1 (bump counter) := by
  rw [Counted, bump_eq_raise, toNat_raise]

/-- Counts add up. -/
theorem trans (first : Counted before count between) (second : Counted between more after) :
    Counted before (count + more) after := by
  rw [Counted] at first second ⊢
  omega

/-- A counter never falls. -/
theorem le (counted : Counted before count after) : before ≤ after := by
  have bound : Word.bound 32 = 4294967296 := rfl
  have word : before.toNat < 4294967296 := before.toNat_lt
  rw [Counted, bound] at counted
  rw [UInt32.le_iff_toNat_le]
  omega

end Counted

/-! ## All counters -/

/-- A node has come to another with the same limits and the same id, and its counters have counted
what was found. -/
structure Node.Accounts (before : Node) (found : List Frame.Outcome) (after : Node) : Prop where
  options : after.options = before.options
  id : after.id = before.id
  checksumMismatch : Counted before.stats.checksumMismatch
    (found.countP (before.finding · = .damaged)) after.stats.checksumMismatch
  receiveOverrun : Counted before.stats.receiveOverrun
    (found.countP (before.finding · = .overlong)) after.stats.receiveOverrun
  wrongId : Counted before.stats.wrongId
    (found.countP (before.finding · = .foreign)) after.stats.wrongId
  malformedSubframe : Counted before.stats.malformedSubframe
    (found.countP (before.finding · = .refused)) after.stats.malformedSubframe
  unknownSubframe : Counted before.stats.unknownSubframe
    (found.countP (before.finding · = .unknown)) after.stats.unknownSubframe
  missingSubframe : after.stats.missingSubframe = before.stats.missingSubframe
  replyOverflow : before.stats.replyOverflow ≤ after.stats.replyOverflow

namespace Node

variable {before between after : Node} {found more : List Frame.Outcome} {σ : Type}

/-- What a node makes of something depends on its limits and its id alone. -/
theorem finding_eq (options : after.options = before.options) (id : after.id = before.id) :
    after.finding = before.finding := by
  funext outcome
  cases outcome with
  | incomplete => rfl
  | fault error => cases error <;> rfl
  | frame frame =>
    have foreign : after.Foreign frame ↔ before.Foreign frame := by
      rw [Foreign, Foreign, options, id]
    simp only [finding, foreign, options]

namespace Accounts

/-- A node with the same counters has counted nothing. -/
theorem same (options : after.options = before.options) (id : after.id = before.id)
    (stats : after.stats = before.stats) : before.Accounts [] after := by
  refine ⟨options, id, ?_, ?_, ?_, ?_, ?_, ?_, ?_⟩
  all_goals rw [stats]
  case refine_7 => exact UInt32.le_refl _
  all_goals exact Counted.refl _

/-- A change that leaves the counters alone makes no difference. -/
theorem keep (accounts : before.Accounts found between) (options : after.options = between.options)
    (id : after.id = between.id) (stats : after.stats = between.stats) :
    before.Accounts found after := by
  obtain ⟨limits, own, damaged, overlong, foreign, refused, unknown, missing, overflow⟩ := accounts
  rw [← stats] at damaged overlong foreign refused unknown missing overflow
  exact ⟨options.trans limits, id.trans own, damaged, overlong, foreign, refused, unknown, missing,
    overflow⟩

/-- What is found one after another is counted one after another. -/
theorem trans (first : before.Accounts found between) (second : between.Accounts more after) :
    before.Accounts (found ++ more) after := by
  have finding := finding_eq first.options first.id
  obtain ⟨options, id, damaged, overlong, foreign, refused, unknown, missing, overflow⟩ := second
  rw [finding] at damaged overlong foreign refused unknown
  refine ⟨options.trans first.options, id.trans first.id, ?_, ?_, ?_, ?_, ?_,
    missing.trans first.missingSubframe, UInt32.le_trans first.replyOverflow overflow⟩
  all_goals rw [List.countP_append]
  · exact first.checksumMismatch.trans damaged
  · exact first.receiveOverrun.trans overlong
  · exact first.wrongId.trans foreign
  · exact first.malformedSubframe.trans refused
  · exact first.unknownSubframe.trans unknown

/-- No counter falls. -/
theorem le (accounts : before.Accounts found after) :
    ∀ counter ∈ Stats.counters, counter before.stats ≤ counter after.stats := by
  have missing : before.stats.missingSubframe ≤ after.stats.missingSubframe := by
    rw [accounts.missingSubframe]
    exact UInt32.le_refl _
  simp only [Stats.counters, List.forall_mem_cons]
  exact ⟨accounts.wrongId.le, accounts.checksumMismatch.le, accounts.receiveOverrun.le,
    accounts.unknownSubframe.le, missing, accounts.malformedSubframe.le, accounts.replyOverflow,
    fun _ there => absurd there List.not_mem_nil⟩

/-- A node that has marked one thing has counted it. -/
theorem single {outcome : Frame.Outcome} {overflow : UInt32}
    (options : after.options = before.options) (id : after.id = before.id)
    (more : before.stats.replyOverflow ≤ overflow)
    (stats : after.stats =
      { before.stats.mark (before.finding outcome) with replyOverflow := overflow }) :
    before.Accounts [outcome] after := by
  refine ⟨options, id, ?_, ?_, ?_, ?_, ?_, ?_, ?_⟩
  case refine_7 =>
    rw [stats]
    exact more
  all_goals
    rw [stats]
    try rw [List.countP_singleton]
    generalize before.finding outcome = kind
    cases kind
  all_goals first | exact Counted.refl _ | exact Counted.bump _ | rfl

end Accounts

/-- A frame that is handled is counted as what it is. -/
theorem accounts_process (service : RegisterService σ) (frame : Frame) (registers : σ)
    (node : Node) : node.Accounts [.frame frame] (node.process service frame registers).node := by
  by_cases foreign : node.Foreign frame
  · refine .single options_process id_process (UInt32.le_refl node.stats.replyOverflow) ?_
    rw [process_of_foreign foreign, finding, if_pos foreign]
    rfl
  · cases planned : Dispatch.plan node.options.bufferSize frame.payload with
    | error error =>
      refine .single options_process id_process (UInt32.le_refl node.stats.replyOverflow) ?_
      rw [process_of_refused foreign planned, finding, if_neg foreign, planned]
      rfl
    | ok plan =>
      let scene := Dispatch.execute service plan frame.payload (node.scene registers)
      let writer := scene.reply.finish
      have more : node.stats.replyOverflow ≤ (node.stats.note plan writer).replyOverflow := by
        show _ ≤ if 0 < writer.omitted then bump node.stats.replyOverflow else _
        split
        · exact (Counted.bump _).le
        · exact UInt32.le_refl _
      refine .single options_process id_process more ?_
      rw [process_of_planned foreign planned, finding, if_neg foreign, planned]
      dsimp only
      by_cases unknown : plan.unknownTag.isSome = true
      · rw [if_pos unknown, Stats.note, if_pos unknown]
        rfl
      · rw [if_neg unknown, Stats.note, if_neg unknown]
        rfl

end Node

/-! ## Stations -/

namespace Station

variable {σ : Type} {service : RegisterService σ} {start station after : Station σ} {log : Log}

/-- What a look finds is counted. -/
theorem accounts_receive (service : RegisterService σ) (station : Station σ) :
    station.node.Accounts
      (Frame.pass station.node.options.bufferSize station.buffer).outcome.found
      (station.receive service).2.node := by
  unfold receive
  dsimp only
  cases (Frame.pass station.node.options.bufferSize station.buffer).outcome with
  | incomplete => exact .same rfl rfl rfl
  | fault error =>
    refine .single rfl rfl (UInt32.le_refl station.node.stats.replyOverflow) ?_
    cases error <;> rfl
  | frame frame =>
    have ready : station.node.Accounts []
        ({ station.node with phase := .accumulating }.capture
          (Frame.pass station.node.options.bufferSize station.buffer).skipped) :=
      .same rfl rfl rfl
    exact ready.trans (Node.accounts_process service frame station.registers _)

/-- A station that listens counts what its looks find. -/
theorem Listens.accounts (listens : Listens service start log station) :
    start.node.Accounts log.found station.node := by
  induction listens with
  | start => exact .same rfl rfl rfl
  | feed _ _ ih => exact ih
  | receive _ ih => exact ih.trans (accounts_receive _ _)
  | replySent _ ih =>
    rw [Station.replySent, Node.replySent_eq]
    exact ih.keep rfl rfl rfl
  | use _ _ _ ih => exact ih.keep rfl rfl rfl

/-- A station's counters say how many faults and frames of each kind its looks have found, as far as
a counter goes, and never fall. -/
theorem Listens.counted (listens : Listens service start log station)
    (fresh : start.node.stats = {}) :
    let limit := start.node.options.bufferSize
    let capped (finding : Finding) : Nat :=
      min (log.found.countP (start.node.finding · = finding)) (Word.bound 32 - 1)
    let stats := station.node.stats
    Frame.outcomes limit (start.buffer ++ log.fed) =
        log.found ++ Frame.outcomes limit station.buffer ∧
      log.results.countP (· ≠ .incomplete) =
        (log.found.filterMap Frame.Outcome.fault?).length +
          (log.found.filterMap Frame.Outcome.frame?).length ∧
      stats.checksumMismatch.toNat = capped .damaged ∧
      stats.receiveOverrun.toNat = capped .overlong ∧
      stats.wrongId.toNat = capped .foreign ∧
      stats.malformedSubframe.toNat = capped .refused ∧
      stats.unknownSubframe.toNat = capped .unknown ∧
      stats.missingSubframe = 0 ∧
      ∀ more later, Listens service station more later →
        ∀ counter ∈ Stats.counters, counter stats ≤ counter later.node.stats := by
  intro limit capped stats
  have accounts := listens.accounts
  have ahead := listens.ahead []
  rw [List.append_nil, List.append_nil] at ahead
  have fromZero {count : Nat} {counter : UInt32} (counted : Counted 0 count counter) :
      counter.toNat = min count (Word.bound 32 - 1) := by
    rw [counted, UInt32.toNat_zero, Nat.zero_add]
  obtain ⟨_, _, damaged, overlong, foreign, refused, unknown, missing, _⟩ := accounts
  rw [fresh] at damaged overlong foreign refused unknown missing
  exact ⟨ahead, listens.handled, fromZero damaged, fromZero overlong, fromZero foreign,
    fromZero refused, fromZero unknown, missing, fun _ _ going => going.accounts.le⟩

/-- A frame for another node, and the same frame with a wrong checksum that arrives late, are
counted once each. -/
theorem Listens.counted_of_two :
    let service : RegisterService Unit :=
      { read := fun state _ _ => (.ok (.int8 1), state), write := fun state _ _ => (.ok (), state) }
    let start : Station Unit := { node := .ofConfig {} .default, registers := () }
    ∃ log station, Listens service start log station ∧ log.found.length = 2 ∧
      station.node.stats.wrongId.toNat = 1 ∧ station.node.stats.checksumMismatch.toNat = 1 ∧
      station.node.stats.receiveOverrun.toNat = 0 := by
  intro service start
  let foreign : Frame := { source := 2, destination := 7, payload := [] }
  have begun : Listens service start {} start := .start
  have fed := begun.feed (Frame.withChecksum foreign.body ++ foreign.body)
  have listens := (fed.receive.receive.feed [0, 0]).receive.receive
  obtain ⟨_, _, damaged, overlong, wrong, _⟩ := listens.counted rfl
  exact ⟨_, _, listens, by decide +kernel, wrong.trans (by decide +kernel),
    damaged.trans (by decide +kernel), overlong.trans (by decide +kernel)⟩

end Station

end Multidrop
