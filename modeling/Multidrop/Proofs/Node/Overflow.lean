import Multidrop.Proofs.Dispatch.Admission
import Multidrop.Proofs.Node.Replies
import Multidrop.Proofs.Reply.Partial

/-!
# Curtailed replies

What a request owes and what its reply says of it, and the counter of replies that say less.
-/
namespace Multidrop

/-! ## Replies that fall short

Each register call that is answered and each poll makes a request owe one result. A reply says as
many results as the request owes, unless it counts a subframe as left out, and then it says fewer
(`Writer.Fulfils`). Carrying out a request keeps it so, whatever the limit is
(`Dispatch.fulfils_execute`). -/

namespace Reply.Writer

/-- What is written are subframes with certain items, each of which can be read back if it is
short. -/
def Speaks (writer : Writer) (said : List Item) : Prop :=
  ∃ subframes, writer.payload = subframes.flatMap Subframe.encode ∧ gather subframes = .ok said ∧
    ∀ subframe ∈ subframes, subframe.size < Word.bound 32 → subframe.Fits

/-- A writer that owes a number of results. It says all of them, or pends on them, exactly if it has
left nothing out. -/
structure Fulfils (writer : Writer) (owed : Nat) : Prop where
  /-- What is said and pending is no more than what is owed, and less exactly if something was left
  out. -/
  said : ∃ said, writer.Speaks said ∧ said.length + writer.pending.length ≤ owed ∧
    (0 < writer.omitted ↔ said.length + writer.pending.length < owed)
  /-- The pending run is proper. -/
  proper : ∀ run ∈ writer.run, run.Proper

variable {writer : Writer} {said own : List Item} {subframe : Subframe} {owed : Nat}

/-! ### Written results -/

/-- What is said in a payload that a frame can carry is what the payload is taken apart into. -/
theorem Speaks.parse (speaks : writer.Speaks said)
    (short : writer.payload.length < Word.bound 32) :
    Reply.parse writer.payload = .ok ⟨said⟩ := by
  obtain ⟨subframes, payload, gathered, fit⟩ := speaks
  have fits : ∀ subframe ∈ subframes, subframe.Fits := by
    intro subframe there
    rw [payload] at short
    exact fit subframe there (Nat.lt_of_le_of_lt (Subframe.size_le_of_mem there) short)
  rw [payload]
  exact parse_flatMap gathered fits

/-- A subframe that is written is said behind what was said before. -/
theorem Speaks.write (speaks : writer.Speaks said) (has : itemsOf subframe = some own)
    (fits : subframe.size < Word.bound 32 → subframe.Fits) :
    Speaks { writer with payload := writer.payload ++ subframe.encode } (said ++ own) := by
  obtain ⟨subframes, payload, gathered, fit⟩ := speaks
  refine ⟨subframes ++ [subframe], ?_, ?_, ?_⟩
  · rw [List.flatMap_append, List.flatMap_singleton, ← payload]
  · exact gather_append gathered (gather_singleton has)
  · intro other there
    rcases List.mem_append.1 there with earlier | here
    · exact fit other earlier
    · rw [List.mem_singleton.1 here]
      exact fits

/-- Nothing is pending where no run is. -/
theorem pending_of_cleared (cleared : writer.run = none) : writer.pending = [] := by
  rw [pending, cleared]
  rfl

/-- Where no run is pending, what is said is all that counts. -/
theorem fulfils_of_cleared (cleared : writer.run = none) (speaks : writer.Speaks said)
    (within : said.length ≤ owed) (lacks : 0 < writer.omitted ↔ said.length < owed) :
    writer.Fulfils owed := by
  refine ⟨⟨said, speaks, ?_⟩, ?_⟩
  · rw [pending_of_cleared cleared, List.length_nil, Nat.add_zero]
    exact ⟨within, lacks⟩
  · rw [cleared]
    nofun

/-- A subframe with some of the results is said, or left out and counted. -/
theorem fulfils_append (cleared : writer.run = none) (speaks : writer.Speaks said)
    (has : itemsOf subframe = some own) (some : 0 < own.length)
    (fits : subframe.size < Word.bound 32 → subframe.Fits)
    (within : said.length + own.length ≤ owed)
    (lacks : 0 < writer.omitted ↔ said.length + own.length < owed) :
    (writer.append subframe).Fulfils owed := by
  rcases append_cases subframe writer with ⟨_, out⟩ | ⟨_, written⟩
  · rw [out]
    exact fulfils_of_cleared cleared speaks (by omega)
      (iff_of_true (Nat.succ_pos _) (by omega))
  · rw [written]
    have both : (said ++ own).length = said.length + own.length := List.length_append
    exact fulfils_of_cleared cleared (speaks.write has fits) (both ▸ within) (both ▸ lacks)

/-! ### Adding results -/

/-- A writer that owes nothing has left nothing out. -/
theorem fulfils_empty (limit : Nat) : Fulfils { limit } 0 :=
  fulfils_of_cleared rfl ⟨[], rfl, rfl, nofun⟩ (Nat.le_refl 0)
    (iff_of_false (Nat.lt_irrefl 0) (Nat.lt_irrefl 0))

/-- What is said once no run is pending. -/
theorem Fulfils.of_cleared (fulfils : writer.Fulfils owed) (cleared : writer.run = none) :
    ∃ said, writer.Speaks said ∧ said.length ≤ owed ∧
      (0 < writer.omitted ↔ said.length < owed) := by
  obtain ⟨said, speaks, within, lacks⟩ := fulfils.said
  rw [pending_of_cleared cleared, List.length_nil, Nat.add_zero] at within lacks
  exact ⟨said, speaks, within, lacks⟩

/-- Writing the run leaves as many results owed. -/
theorem Fulfils.flush (fulfils : writer.Fulfils owed) : writer.flush.Fulfils owed := by
  unfold Writer.flush
  cases waiting : writer.run with
  | none => exact fulfils
  | some run =>
    have proper := fulfils.proper run waiting
    obtain ⟨said, speaks, within, lacks⟩ := fulfils.said
    have own : writer.pending = run.items := by
      rw [pending, waiting]
      rfl
    have some : 0 < run.items.length := by
      rw [Run.items, valueItems, List.length_mapIdx, proper.length]
      exact proper.positive
    rw [own] at within lacks
    have idle : Speaks { writer with run := none } said := speaks
    exact fulfils_append rfl idle run.itemsOf_subframe some proper.fits_subframe within lacks

/-- A result of its own behind the pending run is said, or left out and counted. -/
theorem Fulfils.push (fulfils : writer.Fulfils owed) (item : Item) :
    (writer.push item.subframe).Fulfils (owed + 1) := by
  have cleared := run_flush writer
  obtain ⟨said, speaks, within, lacks⟩ := fulfils.flush.of_cleared cleared
  exact fulfils_append cleared speaks item.itemsOf_subframe Nat.one_pos Item.fits_of_size
    (Nat.succ_le_succ within) (lacks.trans Nat.succ_lt_succ_iff.symm)

/-- A run in place of the pending one that has one result more owes one more. -/
theorem Fulfils.withRun (fulfils : writer.Fulfils owed) {run : Run} (proper : run.Proper)
    (more : run.items.length = writer.pending.length + 1) :
    Fulfils { writer with run := some run } (owed + 1) := by
  obtain ⟨said, speaks, within, lacks⟩ := fulfils.said
  have pending : ({ writer with run := some run } : Writer).pending = run.items := rfl
  refine ⟨⟨said, speaks, ?_⟩, ?_⟩
  · rw [pending, more, ← Nat.add_assoc]
    exact ⟨Nat.succ_le_succ within, lacks.trans Nat.succ_lt_succ_iff.symm⟩
  · intro other there
    cases there
    exact proper

/-- An item that is added is one more that is owed. -/
theorem Fulfils.add (fulfils : writer.Fulfils owed) (item : Item) :
    (writer.add item).Fulfils (owed + 1) := by
  cases item with
  | value register value =>
    have fresh : Fulfils { writer.flush with run := some (.ofValue register value) } (owed + 1) := by
      apply fulfils.flush.withRun (Run.proper_ofValue register value)
      rw [pending_of_cleared (run_flush writer)]
      simp [Run.items, Run.ofValue, valueItems]
    have takes := takes_pushValue register value writer
    rw [Writer.add]
    generalize writer.pushValue register value = after at takes
    cases takes with
    | @longer run longer waiting continues _ =>
      have proper := fulfils.proper run waiting
      apply fulfils.withRun (proper.extend continues)
      rw [Run.items_extend proper continues, List.length_append, pending, waiting]
      rfl
    | cut _ _ _ => exact fresh
    | apart _ => exact fresh
  | readError register code => exact fulfils.push (.readError register code)
  | writeError register code => exact fulfils.push (.writeError register code)
  | tunnel channel data => exact fulfils.push (.tunnel channel data)

/-- Items that are added are as many more that are owed. -/
theorem Fulfils.foldl (fulfils : writer.Fulfils owed) (items : List Item) :
    (items.foldl Writer.add writer).Fulfils (owed + items.length) := by
  induction items generalizing writer owed with
  | nil => exact fulfils
  | cons item rest ih =>
    rw [List.foldl_cons, List.length_cons, Nat.add_comm rest.length, ← Nat.add_assoc]
    exact ih (fulfils.add item)

end Reply.Writer

namespace Dispatch

variable {σ : Type} {service : RegisterService σ} {scene : Scene σ} {owed : Nat}

/-- How many results subframes owe: one for each register call that is answered, and one for each
poll. -/
def owedFor (service : RegisterService σ) (registers : σ) (subframes : List Subframe) : Nat :=
  (service.answerAll registers (subframes.flatMap Subframe.calls)).1.length +
    subframes.countP Subframe.isPoll

/-- Subframes owe what the first one does, and the others on the registers that it leaves. -/
theorem owedFor_cons (registers : σ) (first : Subframe) (rest : List Subframe) :
    owedFor service registers (first :: rest) =
      owedFor service registers [first] +
        owedFor service (service.answerAll registers first.calls).2 rest := by
  simp only [owedFor, List.flatMap_cons, List.flatMap_nil, List.append_nil,
    RegisterService.answerAll_append, List.length_append, List.countP_cons, List.countP_nil]
  omega

/-- A poll is answered, or its answer is left out and counted. -/
theorem fulfils_poll (fulfils : scene.reply.Fulfils owed) (channel : UInt32)
    (data : List UInt8) : (poll scene channel data).reply.Fulfils (owed + 1) := by
  have cleared := Reply.Writer.run_flush scene.reply
  obtain ⟨said, speaks, within, lacks⟩ := fulfils.flush.of_cleared cleared
  unfold poll
  dsimp only
  split
  · have more (item : Reply.Item) : (said ++ [item]).length = said.length + 1 :=
      List.length_append
    have written (queued : List UInt8) :=
      speaks.write (Reply.Item.tunnel channel queued).itemsOf_subframe Reply.Item.fits_of_size
    refine Reply.Writer.fulfils_of_cleared cleared (written _) ?_ ?_
    · rw [more]
      exact Nat.succ_le_succ within
    · rw [more]
      exact lacks.trans Nat.succ_lt_succ_iff.symm
  · exact Reply.Writer.fulfils_of_cleared cleared speaks (Nat.le_succ_of_le within)
      (iff_of_true (Nat.succ_pos _) (Nat.lt_succ_of_le within))

/-- Carrying out a subframe adds what it owes. -/
theorem fulfils_act (fulfils : scene.reply.Fulfils owed) (subframe : Subframe) :
    (act service scene subframe).reply.Fulfils
      (owed + owedFor service scene.registers [subframe]) := by
  cases quiet : subframe.isTunnel with
  | false =>
    have other : subframe.isPoll = false := by
      cases subframe with
      | clientToServer => cases quiet
      | _ => rfl
    have sum : owedFor service scene.registers [subframe] =
        (service.answerAll scene.registers subframe.calls).1.length := by
      rw [owedFor, List.flatMap_singleton, List.countP_singleton, other]
      rfl
    rw [act_eq scene quiet, sum]
    exact fulfils.foldl _
  | true =>
    cases subframe with
    | clientToServer channel data => exact fulfils_poll fulfils channel data
    | serverToClient => exact fulfils
    | writeSingle | writeMultiple | readSingle | readMultiple | replySingle | replyMultiple
    | writeError | readError => cases quiet

/-- Carrying out subframes adds what they owe. -/
theorem fulfils_foldl (fulfils : scene.reply.Fulfils owed) (subframes : List Subframe) :
    (subframes.foldl (act service) scene).reply.Fulfils
      (owed + owedFor service scene.registers subframes) := by
  induction subframes generalizing scene owed with
  | nil => exact fulfils
  | cons first rest ih =>
    have later := ih (@fulfils_act _ service _ _ fulfils first)
    rw [registers_act] at later
    rw [owedFor_cons, ← Nat.add_assoc]
    exact later

/-- The reply to a request that is carried out says what the request owes, or counts a subframe as
left out and says less. -/
theorem fulfils_execute {limit : Nat} {plan : Plan} {payload : List UInt8}
    (empty : scene.reply = { limit })
    (planned : Dispatch.plan limit payload = .ok plan) :
    ∃ said, (execute service plan payload scene).reply.finish.Speaks said ∧
      said.length ≤ owedFor service scene.registers (Subframe.Contents.ofPayload payload).subframes ∧
      (0 < (execute service plan payload scene).reply.finish.omitted ↔
        said.length <
          owedFor service scene.registers (Subframe.Contents.ofPayload payload).subframes) := by
  have start : scene.reply.Fulfils 0 := empty ▸ Reply.Writer.fulfils_empty limit
  have whole := @fulfils_foldl _ service _ _ start
    (Subframe.Contents.ofPayload payload).subframes
  rw [Nat.zero_add, ← subframes_executable planned] at whole
  rw [← subframes_executable planned]
  exact whole.flush.of_cleared (Reply.Writer.run_flush _)

end Dispatch

end Multidrop

/-! ## The counter of curtailed replies

Every result that a frame owes is looked for in the reply that it gets. If the reply says all of
them the counter stays, and if it says fewer the counter is raised by one (`overflow_of_process`). The
counter is decided before it is known whether a reply is sent, so a frame that is carried out and not
answered raises it as well, if the reply that it does not get has no room for what the frame owes
(`overflow_without_reply`). -/

namespace Multidrop.Node

open Subframe (Contents)

variable {σ : Type} {service : RegisterService σ} {frame : Frame} {registers : σ} {node : Node}

/-- A frame that is carried out raises the counter exactly if something of its reply is left out. -/
theorem replyOverflow_of_planned {plan : Dispatch.Plan} (near : ¬node.Foreign frame)
    (planned : Dispatch.plan node.options.bufferSize frame.payload = .ok plan) :
    (node.process service frame registers).node.stats.replyOverflow =
      if 0 < (node.composed service plan frame registers).omitted then
        bump node.stats.replyOverflow
      else node.stats.replyOverflow := by
  rw [process_of_planned near planned]
  rfl

/-- A frame that is not carried out leaves the counter alone. -/
theorem replyOverflow_of_unplanned
    (idle : node.Foreign frame ∨
      ∃ error, Dispatch.plan node.options.bufferSize frame.payload = .error error) :
    (node.process service frame registers).node.stats.replyOverflow =
      node.stats.replyOverflow := by
  by_cases foreign : node.Foreign frame
  · rw [process_of_foreign foreign, passOver, captureFrame_eq]
  · rcases idle with other | ⟨error, refused⟩
    · exact absurd other foreign
    · rw [process_of_refused foreign refused]
      rfl

/-- The counter of curtailed replies is raised by one if something is left out of the reply to a
frame that is carried out, be it sent or not, and stays otherwise. -/
theorem overflow_of_process (service : RegisterService σ) (frame : Frame) (registers : σ)
    (node : Node) :
    let handled := node.process service frame registers
    let owed := Dispatch.owedFor service registers (Contents.ofPayload frame.payload).subframes
    (∀ bytes, handled.reply = some bytes → ∃ payload said,
      Frame.parse bytes = .ok (node.replyFrame frame payload) ∧
      Reply.parse payload = .ok ⟨said⟩ ∧ said.length ≤ owed ∧
      handled.node.stats.replyOverflow =
        if said.length < owed then bump node.stats.replyOverflow
        else node.stats.replyOverflow) ∧
    (handled.reply = none →
      (∀ plan, ¬node.Foreign frame →
        Dispatch.plan node.options.bufferSize frame.payload = .ok plan →
        (node.composed service plan frame registers).omitted = 0) →
      handled.node.stats.replyOverflow = node.stats.replyOverflow) := by
  intro handled owed
  constructor
  · intro bytes answered
    obtain ⟨plan, near, planned, encoded⟩ := composed_of_answered answered
    obtain ⟨said, speaks, within, lacks⟩ :=
      @Dispatch.fulfils_execute _ service (node.scene registers) _ _ _ rfl planned
    have short := (Frame.encode_eq_ok.1 encoded).2.1
    refine ⟨_, said, Frame.parse_encode encoded, speaks.parse short, within, ?_⟩
    rw [replyOverflow_of_planned near planned]
    simp only [composed, lacks]
    rfl
  · intro _ complete
    by_cases foreign : node.Foreign frame
    · exact replyOverflow_of_unplanned (.inl foreign)
    · cases planned : Dispatch.plan node.options.bufferSize frame.payload with
      | error error => exact replyOverflow_of_unplanned (.inr ⟨error, planned⟩)
      | ok plan =>
        rw [replyOverflow_of_planned foreign planned, complete plan foreign planned]
        rfl

/-- Two writes are refused. Asked for a reply that has room for one refusal, a node says fewer than the
two, and counts. Asked for no reply, it does not count where there would have been room for both. -/
theorem overflow_of_process_of_refused :
    let service : RegisterService Unit :=
      { read := fun state _ _ => (.error ⟨1⟩, state), write := fun state _ _ => (.error ⟨1⟩, state) }
    let frame : Frame := { source := 2, destination := 1, payload := [0x10, 9, 1, 0x10, 9, 1] }
    let asking : Frame := { frame with responseRequested := true }
    let cramped : Node := .ofConfig { bufferSize := 5 } .default
    let roomy : Node := .ofConfig { bufferSize := 6 } .default
    (∃ bytes payload said, (cramped.process service asking ()).reply = some bytes ∧
      Frame.parse bytes = .ok (cramped.replyFrame asking payload) ∧
      Reply.parse payload = .ok ⟨said⟩ ∧ said.length < 2 ∧
      (cramped.process service asking ()).node.stats.replyOverflow = 1) ∧
    (roomy.process service frame ()).reply = none ∧
      (roomy.process service frame ()).node.stats.replyOverflow = 0 := by
  intro service frame asking cramped roomy
  have some : (cramped.process service asking ()).reply.isSome = true := by decide +kernel
  have counted : (cramped.process service asking ()).node.stats.replyOverflow = 1 := by
    decide +kernel
  have owed : Dispatch.owedFor service () (Contents.ofPayload asking.payload).subframes = 2 := by
    decide +kernel
  obtain ⟨bytes, answered⟩ := Option.isSome_iff_exists.1 some
  obtain ⟨payload, said, parsed, items, within, raised⟩ :=
    (overflow_of_process service asking () cramped).1 bytes answered
  have fewer : said.length < 2 := by
    by_cases fewer : said.length < 2
    · exact fewer
    · rw [owed, if_neg fewer, counted] at raised
      exact absurd raised (by decide)
  have silent : (roomy.process service frame ()).reply = none := by decide +kernel
  have planned : Dispatch.plan roomy.options.bufferSize frame.payload =
      .ok { executable := 6, registers := 2 } := by
    show Dispatch.plan 6 [0x10, 9, 1, 0x10, 9, 1] = _
    with_unfolding_all rfl
  refine ⟨⟨bytes, payload, said, answered, parsed, items, fewer, counted⟩, silent, ?_⟩
  refine (overflow_of_process service frame () roomy).2 silent fun plan _ same => ?_
  rw [planned] at same
  cases same
  decide +kernel

/-- The same two writes raise the counter where there is room for one refusal and no reply is given,
whether none is asked for or the frame is for every node. -/
theorem overflow_without_reply :
    let service : RegisterService Unit :=
      { read := fun state _ _ => (.error ⟨1⟩, state), write := fun state _ _ => (.error ⟨1⟩, state) }
    let frame : Frame := { source := 2, destination := 1, payload := [0x10, 9, 1, 0x10, 9, 1] }
    let node : Node := .ofConfig { bufferSize := 5, broadcastId := some 127 } .default
    let alone := node.process service frame ()
    let all := node.process service { frame with responseRequested := true, destination := 127 } ()
    node.stats.replyOverflow = 0 ∧ alone.reply = none ∧ alone.node.stats.replyOverflow = 1 ∧
      all.reply = none ∧ all.node.stats.replyOverflow = 1 := by
  decide +kernel

end Multidrop.Node
