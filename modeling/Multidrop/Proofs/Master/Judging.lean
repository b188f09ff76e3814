import Multidrop.Proofs.Master.Reading
import Multidrop.Proofs.Master.Retrying
import Multidrop.Proofs.Reply.Limit

/-!
# What a master makes of a reply

Whatever bytes come back from a node as the payload of a reply to a read, the master returns one of
four things (`judges_readRegisters`). Two passes over the reply decide which: the first looks for
registers that are not mentioned, the second takes the values. Both go by the first mention of each
register, so they agree. Only a reply that fails the first pass is counted.
-/
namespace Multidrop

open Subframe (Contents)

/-! ## Mentions of registers -/

/-- The registers that a subframe says something about, with what their reads have come to. -/
def Subframe.mentions : Subframe → List (Register × Except Refusal Value)
  | .replySingle register value => [(register, .ok value)]
  | .replyMultiple start values =>
    (Dispatch.cells start values.values).map fun cell => (cell.1, .ok cell.2)
  | .readError register code => [(register, .error ⟨code⟩)]
  | .writeSingle .. | .writeMultiple .. | .readSingle .. | .readMultiple .. | .writeError ..
  | .clientToServer .. | .serverToClient .. => []

namespace Reply

/-- A payload cannot be taken apart: the walk over it meets an error, or a subframe of a request. -/
def Unreadable (payload : List UInt8) : Prop :=
  (Contents.ofPayload payload).stop.isSome = true ∨
    ∃ subframe ∈ (Contents.ofPayload payload).subframes, subframe.isReply = false

/-- The first mention of a register in a payload. -/
def mention? (payload : List UInt8) (register : Register) : Option (Except Refusal Value) :=
  ((Contents.ofPayload payload).subframes.flatMap Subframe.mentions).lookup register

/-- Requests have no items, and only they. -/
theorem itemsOf_eq_none_iff (subframe : Subframe) :
    itemsOf subframe = none ↔ subframe.isReply = false := by
  cases subframe <;> simp [itemsOf, Subframe.isReply]

/-- The items of subframes that are all replies. -/
theorem gather_of_replies {subframes : List Subframe}
    (replies : ∀ subframe ∈ subframes, subframe.isReply = true) :
    gather subframes = .ok (subframes.flatMap fun subframe => (itemsOf subframe).getD []) := by
  induction subframes with
  | nil => rfl
  | cons subframe rest ih =>
    obtain ⟨first, others⟩ := List.forall_mem_cons.1 replies
    cases has : itemsOf subframe with
    | none =>
      rw [(itemsOf_eq_none_iff subframe).1 has] at first
      cases first
    | some items =>
      rw [gather_cons has (ih others), List.flatMap_cons, has]
      rfl

/-- A request among subframes has no items. -/
theorem gather_of_request {subframes : List Subframe} {subframe : Subframe}
    (there : subframe ∈ subframes) (request : subframe.isReply = false) :
    ∃ error, gather subframes = .error error := by
  induction subframes with
  | nil => cases there
  | cons first rest ih =>
    rw [gather]
    cases has : itemsOf first with
    | none => exact ⟨_, rfl⟩
    | some items =>
      rcases List.mem_cons.1 there with rfl | later
      · rw [(itemsOf_eq_none_iff subframe).2 request] at has
        cases has
      · obtain ⟨error, failed⟩ := ih later
        dsimp only
        rw [failed]
        exact ⟨error, rfl⟩

/-- A payload that cannot be taken apart makes no reply. -/
theorem parse_of_unreadable {payload : List UInt8} (unreadable : Unreadable payload) :
    ∃ error, parse payload = .error error := by
  unfold parse
  dsimp only
  cases gathered : gather (Contents.ofPayload payload).subframes with
  | error error => exact ⟨error, rfl⟩
  | ok items =>
    rcases unreadable with stopped | ⟨subframe, there, request⟩
    · obtain ⟨error, stop⟩ := Option.isSome_iff_exists.1 stopped
      rw [stop]
      exact ⟨error, rfl⟩
    · obtain ⟨error, failed⟩ := gather_of_request there request
      rw [failed] at gathered
      cases gathered

/-- What an item says about a register. -/
def Item.mention? : Item → Option (Register × Except Refusal Value)
  | .value register found => some (register, .ok found)
  | .readError register code => some (register, .error ⟨code⟩)
  | .writeError .. | .tunnel .. => none

/-- The first item that says something about a register is its first mention. -/
theorem findSome?_readResult? (register : Register) (items : List Item) :
    items.findSome? (Item.readResult? register) =
      (items.filterMap Item.mention?).lookup register := by
  induction items with
  | nil => rfl
  | cons item rest ih =>
    cases item with
    | value other value =>
      simp only [List.findSome?_cons, List.filterMap_cons, Item.readResult?, Item.mention?,
        List.lookup_cons, ← ih]
      by_cases same : other = register
      · simp [same]
      · have apart : (register == other) = false := beq_false_of_ne fun equal => same equal.symm
        rw [if_neg same, apart]
    | readError other code =>
      simp only [List.findSome?_cons, List.filterMap_cons, Item.readResult?, Item.mention?,
        List.lookup_cons, ← ih]
      by_cases same : other = register
      · simp [same]
      · have apart : (register == other) = false := beq_false_of_ne fun equal => same equal.symm
        rw [if_neg same, apart]
    | writeError | tunnel => exact ih

/-- The items of a subframe mention what the subframe does. -/
theorem mentions_of_items (subframe : Subframe) :
    ((itemsOf subframe).getD []).filterMap Item.mention? = subframe.mentions := by
  cases subframe with
  | replyMultiple start values =>
    have items : valueItems start values.values =
        (Dispatch.cells start values.values).map fun cell => .value cell.1 cell.2 := by
      apply List.ext_getElem
      · simp [valueItems, Dispatch.cells]
      · intro place _ _
        simp [valueItems, Dispatch.cells]
    rw [itemsOf, Option.getD_some, items, List.filterMap_map, Subframe.mentions,
      ← List.filterMap_eq_map]
    rfl
  | _ => rfl

/-- A payload that can be taken apart makes a reply, which says of each register what its first
mention does. -/
theorem parse_of_readable {payload : List UInt8} (readable : ¬Unreadable payload) :
    ∃ reply, parse payload = .ok reply ∧
      ∀ register, reply.readResult? register = mention? payload register := by
  have stop : (Contents.ofPayload payload).stop = none := by
    cases met : (Contents.ofPayload payload).stop with
    | none => rfl
    | some error => exact absurd (.inl (by rw [met]; rfl)) readable
  have replies : ∀ subframe ∈ (Contents.ofPayload payload).subframes,
      subframe.isReply = true := by
    intro subframe there
    cases sort : subframe.isReply with
    | true => rfl
    | false => exact absurd (.inr ⟨subframe, there, sort⟩) readable
  have parsed : parse payload = .ok
      ⟨(Contents.ofPayload payload).subframes.flatMap fun subframe =>
        (itemsOf subframe).getD []⟩ := by
    unfold parse
    dsimp only
    rw [gather_of_replies replies, stop]
    rfl
  refine ⟨_, parsed, fun register => ?_⟩
  rw [readResult?, findSome?_readResult?, mention?, List.filterMap_flatMap,
    funext mentions_of_items]

end Reply

/-! ## Reading registers -/

/-- What a master returns for a reply payload to a read of consecutive registers, and what it counts
by it. -/
inductive Judges (payload : List UInt8) (span : Span) (stats : Stats) :
    Except MasterError (List Value) → Stats → Prop
  /-- The payload cannot be taken apart. -/
  | unreadable {error : Subframe.Error} (unreadable : Reply.Unreadable payload) :
      Judges payload span stats (.error (.reply error)) stats
  /-- A register is not mentioned. The first one is returned, and the reply is counted. -/
  | missing {register : Register} (readable : ¬Reply.Unreadable payload)
      (first : span.registers.find? (fun register => (Reply.mention? payload register).isNone) =
        some register) :
      Judges payload span stats (.error (.missingRegister register))
        { stats with missingSubframe := raise 1 stats.missingSubframe }
  /-- All are mentioned, and some mention is a refusal. The first one is returned. -/
  | refused {register : Register} {refusal : Refusal} (readable : ¬Reply.Unreadable payload)
      (all : ∀ register ∈ span.registers, (Reply.mention? payload register).isSome = true)
      (first : span.registers.find? (fun register =>
        Reply.isRefusal (Reply.mention? payload register)) = some register)
      (said : Reply.mention? payload register = some (.error refusal)) :
      Judges payload span stats (.error (.readFailed register refusal)) stats
  /-- Each is mentioned with a value. -/
  | values {values : List Value} (readable : ¬Reply.Unreadable payload)
      (length : values.length = span.count)
      (said : ∀ place (inside : place < values.length),
        Reply.mention? payload (span.start + .ofNat place) = some (.ok values[place])) :
      Judges payload span stats (.ok values) stats

/-- A request to read consecutive registers asks for these, and for nothing else. -/
theorem Request.reads_toRead (start : Register) (count : UInt32) (kind : Kind) :
    (toRead start count kind).reads = [⟨start, count.toNat⟩] ∧
      (toRead start count kind).tunnel = none := by
  unfold toRead
  by_cases one : count = 1
  · rw [if_pos one, one]
    exact ⟨rfl, rfl⟩
  · rw [if_neg one]
    exact ⟨rfl, rfl⟩

/-- What a check of the reply to a read and the pass over its values come to. -/
theorem judges_validate {request : Request} {span : Span} (reads : request.reads = [span])
    (tunnel : request.tunnel = none) (payload : List UInt8) (stats : Stats) :
    Judges payload span stats
      ((request.validate payload stats).1.bind fun reply => span.registers.mapM reply.valueOf)
      (request.validate payload stats).2 := by
  by_cases unreadable : Reply.Unreadable payload
  · obtain ⟨error, failed⟩ := Reply.parse_of_unreadable unreadable
    rw [Request.validate, failed]
    exact .unreadable unreadable
  · obtain ⟨reply, parsed, mentions⟩ := Reply.parse_of_readable unreadable
    rw [Request.validate_of_read reads tunnel parsed]
    cases missing : span.registers.find? fun register => (reply.readResult? register).isNone with
    | some register =>
      simp only [mentions] at missing
      have counted : Request.countMissing stats =
          { stats with missingSubframe := raise 1 stats.missingSubframe } := by
        rw [Request.countMissing, bump_eq_raise]
      dsimp only
      rw [counted]
      exact .missing unreadable missing
    | none =>
      -- The first pass has met a mention of every register, so the second one does as well.
      have mentioned : ∀ register ∈ span.registers,
          (reply.readResult? register).isNone = false := fun register there =>
        Bool.eq_false_iff.2 (List.find?_eq_none.1 missing register there)
      show Judges payload span stats (span.registers.mapM reply.valueOf) stats
      rcases Reply.mapM_valueOf_of_mentioned mentioned with
        ⟨values, read, same⟩ | ⟨register, refusal, failed, first, said⟩
      · rw [read]
        have whole : reply.readResult? = Reply.mention? payload := funext mentions
        rw [whole] at same
        have length : values.length = span.count := by
          have sizes := congrArg List.length same
          rw [List.length_map, List.length_map, Span.length_registers] at sizes
          exact sizes.symm
        refine .values unreadable length fun place inside => ?_
        have here : (span.registers.map (Reply.mention? payload))[place]? =
            (values.map fun value => some (Except.ok value))[place]? := congrArg (·[place]?) same
        simpa [Span.registers, inside, length ▸ inside] using here
      · rw [failed]
        simp only [mentions] at first said mentioned
        refine .refused unreadable (fun register there => ?_) first said
        rw [← Option.not_isNone, mentioned register there]
        rfl

namespace Master

variable {π : Type} [Peer π]

/-- What a master makes of a reply to a read hangs on the first mention of each register: the first
that has none is named, or else the first that is refused. -/
theorem judges_readRegisters (destination : UInt8) (start : Register) (count : UInt32) (kind : Kind)
    (master : Master π) :
    match master.request destination (Request.toRead start count kind).payload with
    | (.error error, after) =>
      master.readRegisters destination start count kind = (.error error, after) ∧
        after.stats = master.stats
    | (.ok frame, after) =>
      ∃ result stats, master.readRegisters destination start count kind =
          (result, { after with stats }) ∧
        Judges frame.payload ⟨start, count.toNat⟩ master.stats result stats := by
  have kept := stats_request destination (Request.toRead start count kind).payload master
  obtain ⟨reads, tunnel⟩ := Request.reads_toRead start count kind
  have asked : (Request.toRead start count kind).readRegisters =
      (Span.mk start count.toNat).registers := by
    rw [Request.readRegisters, reads, List.flatMap_singleton]
  unfold readRegisters query
  dsimp only
  generalize master.request destination (Request.toRead start count kind).payload = requested
    at kept
  obtain ⟨returned, after⟩ := requested
  dsimp only at kept
  cases returned with
  | error error => exact ⟨rfl, kept⟩
  | ok frame =>
    have judges := judges_validate reads tunnel frame.payload after.stats
    dsimp only
    rw [asked]
    generalize (Request.toRead start count kind).validate frame.payload after.stats = judged
      at judges
    obtain ⟨reply, stats⟩ := judged
    rw [kept] at judges
    cases reply with
    | error error => exact ⟨_, stats, rfl, judges⟩
    | ok reply => exact ⟨_, stats, rfl, judges⟩

/-- A reply mentions register seven twice and says that register eight cannot be read. -/
example :
    let line : Line Script :=
      { peer := ⟨[[.data [84, 171, 3, 0, 9, 32, 7, 1, 32, 7, 2, 41, 8, 4, 230, 144]]]⟩ }
    let master : Master Script := ofLine line {} .never
    (master.readRegisters 3 7 1 .int8).1.toOption = some [.int8 1] ∧
      (master.readRegisters 3 7 2 .int8).1 = .error (.readFailed 8 ⟨4⟩) := by
  decide +kernel

end Master

end Multidrop
