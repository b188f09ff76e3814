import Multidrop.Proofs.Frame.RoundTrip
import Multidrop.Proofs.Master.Outstanding

/-!
# Late replies are waited out

Once a request has been given up on, a master writes nothing more until it has dropped what still
arrives, up to a read that brings nothing in time, the end of the line or the end of the wait for a
reply, and its buffer is empty when it writes (`Runs.drained_of_writes`). This takes that no
dropping breaks off because the line fails: after that the master writes at once
(`send_of_breaksOff`).
-/
namespace Multidrop.Master

variable {π : Type}

/-! ## Lines that are written to -/

/-- Reading writes nothing. -/
theorem written_of_reads {before after : Frame.Reader π} {bytes : List UInt8} {found : List Frame}
    (reads : before.Reads bytes found after) : after.line.written = before.line.written := by
  rw [reads.yields.kept]

/-- Dropping what still arrives writes nothing. -/
theorem Freshens.written {master : Master π} {lull : Lull} {last : Frame.Reader π}
    (freshens : master.Freshens lull last) :
    last.line.written = master.reader.line.written := by
  obtain ⟨_, _, reads⟩ := freshens.reads
  exact written_of_reads reads

/-- Writing a request leaves the buffer and the mark alone, and without a byte written also the
request that is awaited. -/
theorem Posts.kept {frame : Frame} {master : Master π}
    {result : Except MasterError Unit × Master π} (posts : Posts frame master result) :
    result.2.reader.buffer = master.reader.buffer ∧ result.2.stale = master.stale ∧
      (result.2.reader.line.written = master.reader.line.written →
        result.2.pending = master.pending) := by
  cases posts with
  | sent encoded written =>
    refine ⟨rfl, rfl, fun same => ?_⟩
    rw [show _ = master.reader.line.written ++ _ from written] at same
    exact absurd (List.append_right_eq_self.1 same) (Frame.encode_ne_nil encoded)
  | failed written => exact ⟨rfl, rfl, fun _ => rfl⟩

variable [Peer π]

/-- The call puts an end to a request whose reply may still come: it gives up on it, or the time to
wait for it is over. -/
def Event.Abandons (event : Event π) : Prop :=
  event.deed = .cancel ∧ event.before.pending.isSome = true ∨
    event.deed = .receive ∧ ∃ span, event.returned = .received (.error (.timeout span))

/-- The call writes to the line. -/
def Event.Writes (event : Event π) : Prop :=
  event.after.reader.line.written ≠ event.before.reader.line.written

/-- The call drops what still arrives, until this end. -/
def Event.Drains (event : Event π) (lull : Lull) : Prop :=
  ∃ destination payload responseRequested last,
    event.deed = .send destination payload responseRequested ∧ event.before.pending = none ∧
      event.before.options.check destination payload = .ok () ∧ event.before.stale = true ∧
      event.before.Freshens lull last

/-- The call drops what still arrives until a read brings nothing in time, the line ends, or the
time to wait for a reply is over. -/
def Event.Lulls (event : Event π) : Prop :=
  event.Drains .quiet ∨ event.Drains .closed ∨ event.Drains .expired

/-- The call drops what still arrives until the line fails. -/
def Event.BreaksOff (event : Event π) : Prop := ∃ error, event.Drains (.broken error)

variable {event : Event π}

omit [Peer π] in
/-- Dropping what still arrives ends well unless the line fails. -/
theorem Event.Drains.lulls {lull : Lull} (drains : event.Drains lull)
    (unbroken : lull.result = .ok ()) : event.Lulls := by
  cases lull with
  | expired => exact .inr (.inr drains)
  | quiet => exact .inl drains
  | closed => exact .inr (.inl drains)
  | broken error => cases unbroken

/-- After a request is given up on, the master is marked and awaits no reply. -/
theorem Event.Abandons.stale (abandons : event.Abandons) :
    event.after.stale = true ∧ event.after.pending = none := by
  rcases abandons with ⟨gave, busy⟩ | ⟨waited, span, returned⟩
  · rw [event.after_of_cancel gave, cancel_of_pending busy]
    exact ⟨rfl, rfl⟩
  · rw [event.returned_of_receive waited] at returned
    have late := Returned.received.inj returned
    rw [event.after_of_receive waited]
    cases busy : event.before.pending with
    | none =>
      rw [receive_of_free busy] at late
      cases late
    | some pending =>
      rw [receive_of_pending busy] at late ⊢
      have awaits := awaits_await pending event.before
      generalize event.before.await pending = result at awaits late
      cases awaits with
      | reply => cases late
      | late => exact ⟨rfl, rfl⟩
      | ended _ _ ends =>
        cases late
        exact absurd ends verdict?_ne_timeout

/-- What one call of a master that awaits no reply does about what still arrives. -/
inductive Event.Proceeds (event : Event π) : Prop
  /-- It has dropped it, and then perhaps written. -/
  | lulls (lulls : event.Lulls) (empty : event.after.reader.buffer = [])
      (free : ¬event.Writes → event.after.pending = none)
  /-- It has dropped nothing, and written only if the master was not marked. -/
  | calm (buffer : event.after.reader.buffer = event.before.reader.buffer)
      (mark : event.after.stale = event.before.stale)
      (silent : event.before.stale = true → ¬event.Writes)
      (free : ¬event.Writes → event.after.pending = none)
  /-- The line has failed meanwhile, and nothing was written. -/
  | breaksOff (breaks : event.BreaksOff) (silent : ¬event.Writes)

/-- A call that changes nothing drops and writes nothing. -/
theorem Event.proceeds_of_same (free : event.before.pending = none)
    (same : event.after = event.before) : event.Proceeds := by
  have silent : ¬event.Writes := fun writes => writes (by rw [same])
  exact .calm (by rw [same]) (by rw [same]) (fun _ => silent) (fun _ => by rw [same]; exact free)

/-- A call of a master that awaits no reply does one of these things. -/
theorem Event.proceeds (free : event.before.pending = none) : event.Proceeds := by
  cases deed : event.deed with
  | receive =>
    apply Event.proceeds_of_same free
    rw [event.after_of_receive deed, receive_of_free free]
  | cancel =>
    apply Event.proceeds_of_same free
    rw [event.after_of_cancel deed, cancel_of_free free]
  | send destination payload responseRequested =>
    have sends := sends_send destination payload responseRequested event.before
    have after := event.after_of_send deed
    generalize event.before.send destination payload responseRequested = result at sends after
    cases sends with
    | outstanding busy => cases free.symm.trans busy
    | refused => exact Event.proceeds_of_same free after
    | broken _ admitted stale freshens =>
      refine .breaksOff ⟨_, _, _, _, _, deed, free, admitted, stale, freshens⟩ fun writes => ?_
      apply writes
      rw [after]
      exact freshens.written
    | freshened _ admitted stale freshens unbroken posts =>
      obtain ⟨buffer, _, silent⟩ := posts.kept
      have drains : event.Drains _ := ⟨_, _, _, _, deed, free, admitted, stale, freshens⟩
      refine .lulls (drains.lulls unbroken) (by rw [after, buffer]; rfl) fun quiet => ?_
      have unwritten := Classical.not_not.1 quiet
      rw [after] at unwritten ⊢
      exact (silent (unwritten.trans freshens.written.symm)).trans free
    | posted _ _ calm posts =>
      obtain ⟨buffer, mark, silent⟩ := posts.kept
      refine .calm (by rw [after, buffer]) (by rw [after, mark]) (fun stale => ?_) fun quiet => ?_
      · cases calm.symm.trans stale
      · have unwritten := Classical.not_not.1 quiet
        rw [after] at unwritten ⊢
        exact (silent unwritten).trans free

/-! ## Runs -/

variable {changes : Line π → Line π → Prop} {start master : Master π} {events : List (Event π)}

/-- What is known of a master since a request was given up on. -/
structure Cautious (events : List (Event π)) (master : Master π) : Prop where
  /-- What still arrives has been dropped, or the master is marked and awaits no reply. -/
  marked : (∃ event ∈ events, event.Lulls) ∨ master.stale = true ∧ master.pending = none
  /-- Until something is written, no reply is awaited, and the buffer is empty or will be emptied
  first. -/
  unread : (∀ event ∈ events, ¬event.Writes) →
    master.pending = none ∧ (master.stale = true ∨ master.reader.buffer = [])

/-- A call keeps what is known unless the line fails while what still arrives is dropped. -/
theorem Cautious.step (cautious : Cautious events event.before) (unbroken : ¬event.BreaksOff) :
    Cautious (events ++ [event]) event.after := by
  constructor
  · rcases cautious.marked with ⟨earlier, there, lulls⟩ | ⟨stale, free⟩
    · exact .inl ⟨earlier, List.mem_append_left _ there, lulls⟩
    · cases Event.proceeds free with
      | lulls lulls => exact .inl ⟨event, List.mem_concat_self, lulls⟩
      | calm _ mark silent free => exact .inr ⟨mark.trans stale, free (silent stale)⟩
      | breaksOff breaks => exact absurd breaks unbroken
  · intro quiet
    have silent := quiet event List.mem_concat_self
    obtain ⟨free, unread⟩ :=
      cautious.unread fun one there => quiet one (List.mem_append_left _ there)
    cases Event.proceeds free with
    | lulls _ empty free => exact ⟨free silent, .inr empty⟩
    | calm buffer mark _ free =>
      rw [buffer, mark]
      exact ⟨free silent, unread⟩
    | breaksOff breaks => exact absurd breaks unbroken

/-- What is known of a master holds through a whole run. -/
theorem Runs.cautious (runs : Runs changes start events master) (first : Cautious [] start)
    (unbroken : ∀ event ∈ events, ¬event.BreaksOff) : Cautious events master := by
  induction runs with
  | start => exact first
  | call _ deed ih =>
    have before := ih fun event there => unbroken event (List.mem_append_left _ there)
    exact before.step (unbroken _ List.mem_concat_self)
  | meanwhile _ _ ih => exact ⟨(ih unbroken).marked, (ih unbroken).unread⟩

/-- Between giving up on a request and the next write, the line is drained and the buffer is
emptied, unless a draining broke off because the line failed. -/
theorem Runs.drained_of_writes {earlier between : List (Event π)} {abandoned : Event π}
    {deed : Deed} (runs : Runs changes start (earlier ++ abandoned :: between) master)
    (abandons : abandoned.Abandons) (unbroken : ∀ event ∈ between, ¬event.BreaksOff)
    (writes : (⟨master, deed⟩ : Event π).Writes) :
    (∃ event ∈ between ++ [⟨master, deed⟩], event.Lulls) ∧
      ((∀ event ∈ between, ¬event.Writes) → (master.perform deed).2.reader.buffer = []) := by
  have marked := abandons.stale
  have cautious := runs.split.2.cautious ⟨.inr marked, fun _ => ⟨marked.2, .inl marked.1⟩⟩ unbroken
  constructor
  · rcases cautious.marked with ⟨event, there, lulls⟩ | ⟨stale, free⟩
    · exact ⟨event, List.mem_append_left _ there, lulls⟩
    · cases @Event.proceeds _ _ ⟨master, deed⟩ free with
      | lulls lulls => exact ⟨_, List.mem_concat_self, lulls⟩
      | calm _ _ silent => exact absurd writes (silent stale)
      | breaksOff _ silent => exact absurd writes silent
  · intro quiet
    obtain ⟨free, unread⟩ := cautious.unread quiet
    cases @Event.proceeds _ _ ⟨master, deed⟩ free with
    | lulls _ empty => exact empty
    | calm buffer _ silent =>
      rcases unread with stale | empty
      · exact absurd writes (silent stale)
      · exact buffer.trans empty
    | breaksOff _ silent => exact absurd writes silent

/-- After a request to node three was given up on, the next one is sent when the late reply has been
dropped and the line has ended. -/
theorem Runs.drained_of_writes_of_cancel :
    let late : List UInt8 := [84, 171, 3, 0, 1, 49, 214, 49]
    let line : Line Script := { peer := ⟨[[.data late]]⟩ }
    let asked : Event Script := ⟨ofLine line {} .never, .send 3 [] true⟩
    let cancelled : Event Script := ⟨asked.after, .cancel⟩
    let sent : Event Script := ⟨cancelled.after, .send 3 [] true⟩
    cancelled.Abandons ∧ sent.Writes ∧ sent.Lulls ∧ sent.after.reader.buffer = [] := by
  intro late line asked cancelled sent
  have runs : Runs Eq (ofLine line {} .never) ([asked] ++ cancelled :: []) cancelled.after :=
    .call (.call .start (.send 3 [] true)) .cancel
  have abandons : cancelled.Abandons := .inl ⟨rfl, by decide +kernel⟩
  have writes : sent.Writes := by
    show sent.after.reader.line.written ≠ sent.before.reader.line.written
    decide +kernel
  obtain ⟨⟨event, there, lulls⟩, empty⟩ :=
    @Runs.drained_of_writes _ _ _ _ _ [asked] [] cancelled (.send 3 [] true) runs abandons nofun
      writes
  rw [List.nil_append, List.mem_singleton] at there
  rw [there] at lulls
  exact ⟨abandons, writes, lulls, empty nofun⟩

/-! ## Dropping that breaks off -/

/-- Where the line fails while what still arrives is dropped, the master is marked no more: it writes
the next request at once. -/
theorem send_of_breaksOff (breaks : event.BreaksOff) {destination : UInt8} {payload : List UInt8}
    (admitted : event.after.options.check destination payload = .ok ())
    (responseRequested : Bool) :
    event.after.send destination payload responseRequested =
      event.after.post (event.after.frameOf destination payload responseRequested) := by
  obtain ⟨error, _, _, _, last, deed, free, check, stale, freshens⟩ := breaks
  have after : event.after = { event.before with reader := last.discard, stale := false } := by
    obtain ⟨lull, other, again, done⟩ := event.before.freshens_freshen
    obtain ⟨rfl, rfl⟩ := Drains.unique freshens again
    rw [event.after_of_send deed, send_of_admitted free check, if_pos stale, done]
    rfl
  rw [send_of_admitted (by rw [after]; exact free) admitted, after]
  rfl

/-- A request is given up on, and the line fails while its reply is waited out. The next request is
written although nothing has been dropped, and the late reply is taken for its own. -/
theorem writes_of_breaksOff :
    let late : List UInt8 := [84, 171, 3, 0, 1, 49, 214, 49]
    let line : Line Script := { peer := ⟨[[.fault .connectionReset, .data late]]⟩ }
    let asked : Event Script := ⟨ofLine line {} .never, .send 3 [] true⟩
    let cancelled : Event Script := ⟨asked.after, .cancel⟩
    let failed : Event Script := ⟨cancelled.after, .send 3 [] true⟩
    let sent : Event Script := ⟨failed.after, .send 3 [] true⟩
    Runs Eq asked.before [asked, cancelled, failed] failed.after ∧ cancelled.Abandons ∧
      sent.Writes ∧ (∀ event ∈ [failed, sent], ¬event.Lulls) ∧
      sent.after.receive.1.toOption = some { source := 3, destination := 0, payload := [49] } := by
  intro late line asked cancelled failed sent
  have runs : Runs Eq asked.before [asked, cancelled, failed] failed.after :=
    .call (.call (.call .start (.send 3 [] true)) .cancel) (.send 3 [] true)
  refine ⟨runs, .inl ⟨rfl, by decide +kernel⟩, ?_, ?_, by decide +kernel⟩
  · show sent.after.reader.line.written ≠ sent.before.reader.line.written
    decide +kernel
  · have calm : sent.before.stale = false := by decide +kernel
    have failing : cancelled.after.freshen.1.toOption = none := by decide +kernel
    obtain ⟨lull, last, freshens, done⟩ := cancelled.after.freshens_freshen
    rw [done] at failing
    -- What ends the dropping in the failed call is an error, so it is no lull.
    have only (other : Lull) (drains : failed.Drains other) : other.result.toOption = none := by
      obtain ⟨_, _, _, _, _, _, _, _, again⟩ := drains
      rw [← (Drains.unique freshens again).1]
      exact failing
    intro event there lulls
    rcases List.mem_cons.1 there with rfl | there
    · rcases lulls with drains | drains | drains <;> cases only _ drains
    · rw [List.mem_singleton.1 there] at lulls
      rcases lulls with drains | drains | drains <;>
        obtain ⟨_, _, _, _, _, _, _, stale, _⟩ := drains <;>
        rw [calm] at stale <;> cases stale

end Multidrop.Master
