import Multidrop.Dispatch
import Multidrop.Proofs.Dispatch.Execute
import Multidrop.Proofs.Reply.Writer
import Multidrop.Proofs.Tunnel.Ring

/-!
# Replies within their limit

A reply in the making stays within its limit and consists of whole subframes of the forms that
replies have (`Writer.Sound`), whatever mixture of values, refusals and tunnel bytes is added to it
and however much of it is left out. Carrying out a request keeps it so (`Writer.sound_execute`), and
a sound payload is taken apart without an error into such subframes (`Writer.Sound.contents`).
-/
namespace Multidrop

/-- Whether a subframe travels from a node to a master. -/
def Subframe.isReply : Subframe → Bool
  | .replySingle .. | .replyMultiple .. | .writeError .. | .readError .. | .serverToClient .. => true
  | .writeSingle .. | .writeMultiple .. | .readSingle .. | .readMultiple ..
  | .clientToServer .. => false

/-- Bytes that are drained are as many as were asked for, or all that wait. -/
theorem Tunnels.length_drain (tunnels : Tunnels) (handle : Handle) (count : Nat) :
    (tunnels.drain handle count).1.length = min count (tunnels.pending handle) := by
  unfold drain pending
  cases tunnels.slot? handle with
  | none => exact (Nat.min_zero _).symm
  | some slot => exact slot.outbound.length_pop count

namespace Reply

/-- The subframe of a run is one of a reply. -/
theorem Run.isReply_subframe (run : Run) : run.subframe.isReply = true := by
  unfold subframe
  split <;> rfl

/-- The subframe of an item is one of a reply. -/
theorem Item.isReply_subframe (item : Item) : item.subframe.isReply = true := by
  cases item <;> rfl

/-- A run of less than 2 ^ 32 bytes has a subframe that its encoding can hold. -/
theorem Run.Proper.fits_subframe {run : Run} (proper : run.Proper)
    (short : run.subframe.size < Word.bound 32) : run.subframe.Fits := by
  have size := Run.size_subframe proper
  have few : run.values.count ≤ run.values.bytes.length := Nat.div_le_self _ _
  have inside := proper.inside
  unfold subframe
  split
  · trivial
  · have count : run.values.count < Word.bound 32 := by omega
    have positive := proper.positive
    exact ⟨count, Subframe.inRange_ofNat count (by omega)⟩

/-- An item of less than 2 ^ 32 bytes has a subframe that its encoding can hold. -/
theorem Item.fits_of_size {item : Item} (short : item.subframe.size < Word.bound 32) :
    item.subframe.Fits := by
  apply Item.fits_subframe
  rintro channel data rfl
  simp only [Item.subframe, Subframe.size, Subframe.bodySize] at short
  omega

namespace Writer

/-- A payload in the making that is within its limit and has whole subframes of replies only. -/
structure Sound (limit : Nat) (writer : Writer) : Prop where
  /-- The limit is the writer's. -/
  same : writer.limit = limit
  /-- What is written is within the limit. -/
  within : writer.payload.length ≤ limit
  /-- What is written are subframes of replies. -/
  written : ∃ subframes : List Subframe, writer.payload = subframes.flatMap Subframe.encode ∧
    ∀ subframe ∈ subframes, subframe.isReply = true ∧ subframe.Fits
  /-- The pending run is proper. -/
  proper : ∀ run ∈ writer.run, run.Proper

variable {limit : Nat} {writer : Writer}

/-- A reply without subframes is sound. -/
theorem sound_empty (limit : Nat) : Sound limit { limit } where
  same := rfl
  within := Nat.zero_le _
  written := ⟨[], rfl, nofun⟩
  proper := nofun

/-- A sound payload is taken apart into subframes of replies. -/
theorem Sound.contents (sound : writer.Sound limit) :
    (Subframe.Contents.ofPayload writer.payload).stop = none ∧
      ∀ subframe ∈ (Subframe.Contents.ofPayload writer.payload).subframes,
        subframe.isReply = true := by
  obtain ⟨subframes, payload, replies⟩ := sound.written
  obtain ⟨same, stop⟩ :=
    Subframe.Contents.ofPayload_flatMap fun subframe there => (replies subframe there).2
  rw [payload, same]
  exact ⟨stop, fun subframe there => (replies subframe there).1⟩

/-- A subframe that is within the limit keeps a writer sound. -/
theorem Sound.write (sound : writer.Sound limit) (small : limit < Word.bound 32)
    {subframe : Subframe} (reply : subframe.isReply = true)
    (fits : subframe.size < Word.bound 32 → subframe.Fits)
    (room : writer.payload.length + subframe.size ≤ limit) :
    Sound limit { writer with payload := writer.payload ++ subframe.encode } := by
  obtain ⟨subframes, payload, replies⟩ := sound.written
  refine ⟨sound.same, ?_, ⟨subframes ++ [subframe], ?_, ?_⟩, sound.proper⟩
  · rw [List.length_append, Subframe.length_encode]
    exact room
  · rw [List.flatMap_append, List.flatMap_singleton, ← payload]
  · intro other there
    rcases List.mem_append.1 there with earlier | last
    · exact replies other earlier
    · rw [List.mem_singleton.1 last]
      exact ⟨reply, fits (by omega)⟩

/-- A subframe that is written if it fits keeps a writer sound. -/
theorem Sound.append (sound : writer.Sound limit) (small : limit < Word.bound 32)
    {subframe : Subframe} (reply : subframe.isReply = true)
    (fits : subframe.size < Word.bound 32 → subframe.Fits) :
    (writer.append subframe).Sound limit := by
  rcases append_cases subframe writer with ⟨_, same⟩ | ⟨room, same⟩
  · rw [same]
    exact ⟨sound.same, sound.within, sound.written, sound.proper⟩
  · rw [same]
    rw [sound.same] at room
    exact sound.write small reply fits room

/-- Writing the run keeps a writer sound. -/
theorem Sound.flush (sound : writer.Sound limit) (small : limit < Word.bound 32) :
    writer.flush.Sound limit := by
  unfold Writer.flush
  cases pending : writer.run with
  | none => exact sound
  | some run =>
    have cleared : Sound limit { writer with run := none } :=
      ⟨sound.same, sound.within, sound.written, nofun⟩
    exact cleared.append small run.isReply_subframe (sound.proper run pending).fits_subframe

/-- A run in place of the one that was written keeps a writer sound. -/
theorem Sound.withRun (sound : writer.Sound limit) {run : Run} (proper : run.Proper) :
    Sound limit { writer with run := some run } := by
  refine ⟨sound.same, sound.within, sound.written, ?_⟩
  intro other there
  cases there
  exact proper

/-- Adding an item keeps a writer sound. -/
theorem Sound.add (sound : writer.Sound limit) (small : limit < Word.bound 32) (item : Item) :
    (writer.add item).Sound limit := by
  have pushed : ∀ item : Item, (writer.push item.subframe).Sound limit := fun item =>
    (sound.flush small).append small item.isReply_subframe Item.fits_of_size
  cases item with
  | value register value =>
    have takes := takes_pushValue register value writer
    rw [Writer.add]
    generalize writer.pushValue register value = after at takes
    cases takes with
    | longer pending continues room =>
      exact sound.withRun ((sound.proper _ pending).extend continues)
    | cut _ _ _ => exact (sound.flush small).withRun (Run.proper_ofValue register value)
    | apart _ => exact (sound.flush small).withRun (Run.proper_ofValue register value)
  | readError register code => exact pushed (.readError register code)
  | writeError register code => exact pushed (.writeError register code)
  | tunnel channel data => exact pushed (.tunnel channel data)

/-- Tunnel bytes that fit behind their header keep a writer sound. -/
theorem Sound.tunnel (sound : writer.Sound limit) (small : limit < Word.bound 32)
    {channel : UInt32} {data : List UInt8}
    (fits : writer.tunnelFits channel data.length = true) :
    Sound limit { writer with
      payload := writer.payload ++ (Subframe.serverToClient channel data).encode } := by
  have tag : Varuint.size (Subframe.serverToClient channel data).tag = 1 := Form.size_tag _
  have room := of_decide_eq_true fits
  have within := sound.within
  rw [remaining, sound.same] at room
  refine sound.write small rfl (fun short => ?_) ?_
  · simp only [Subframe.size, Subframe.bodySize] at short
    show data.length < Word.bound 32
    omega
  · simp only [Subframe.size, tag, Subframe.bodySize]
    omega

end Writer

end Reply

namespace Dispatch

variable {σ : Type} {service : RegisterService σ} {limit : Nat}

/-- A poll keeps the reply sound. -/
theorem sound_poll {scene : Scene σ} (sound : scene.reply.Sound limit)
    (small : limit < Word.bound 32) (channel : UInt32) (data : List UInt8) :
    (poll scene channel data).reply.Sound limit := by
  have flushed := sound.flush small
  unfold poll
  dsimp only
  generalize scene.tunnels.deliver channel data = delivered
  obtain ⟨handle, tunnels⟩ := delivered
  dsimp only
  generalize announced : (handle.elim 0 fun handle =>
    min (tunnels.pending handle) (scene.reply.flush.tunnelCapacity channel)) = size
  have queued : (handle.elim ([], tunnels) (tunnels.drain · size)).1.length = size := by
    cases handle with
    | none => exact announced
    | some handle =>
      rw [Option.elim_some] at announced ⊢
      rw [Tunnels.length_drain]
      omega
  by_cases fits : scene.reply.flush.tunnelFits channel size = true
  · rw [if_pos fits]
    rw [← queued] at fits
    exact flushed.tunnel small fits
  · rw [if_neg fits]
    exact ⟨flushed.same, flushed.within, flushed.written, flushed.proper⟩

/-- Carrying out a subframe keeps the reply sound. -/
theorem sound_act {scene : Scene σ} (sound : scene.reply.Sound limit)
    (small : limit < Word.bound 32) (subframe : Subframe) :
    (act service scene subframe).reply.Sound limit := by
  cases quiet : subframe.isTunnel with
  | false =>
    rw [act_eq scene quiet]
    exact List.foldlRecOn _ _ sound fun writer sound item _ => sound.add small item
  | true =>
    cases subframe with
    | clientToServer channel data => exact sound_poll sound small channel data
    | serverToClient => exact sound
    | writeSingle | writeMultiple | readSingle | readMultiple | replySingle | replyMultiple
    | writeError | readError => cases quiet

/-- Carrying out a request keeps the reply sound. -/
theorem sound_execute {scene : Scene σ} (sound : scene.reply.Sound limit)
    (small : limit < Word.bound 32) (plan : Plan) (payload : List UInt8) :
    (execute service plan payload scene).reply.Sound limit :=
  List.foldlRecOn (motive := fun scene : Scene σ => scene.reply.Sound limit) _ _ sound
    fun _ sound subframe _ => sound_act sound small subframe

end Dispatch

end Multidrop
