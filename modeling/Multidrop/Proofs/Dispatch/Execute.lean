import Multidrop.Dispatch
import Multidrop.Proofs.Register
import Multidrop.Proofs.Reply.Writer

/-!
# What a request does to the registers

Each subframe of a request asks for certain calls (`Subframe.calls`). Carrying out subframes makes
these calls in order and adds their answers to the reply (`foldl_act`); a tunnel poll makes none.
-/
namespace Multidrop

/-- The register calls that a subframe asks for, in order. -/
def Subframe.calls : Subframe → List Call
  | .writeSingle register value => [.write register value]
  | .writeMultiple start values =>
    (Dispatch.cells start values.values).map fun cell => .write cell.1 cell.2
  | .readSingle register kind => [.read register kind]
  | .readMultiple start count kind =>
    (Span.mk start count.toNat).registers.map fun register => .read register kind
  | .replySingle .. | .replyMultiple .. | .writeError .. | .readError .. | .clientToServer ..
  | .serverToClient .. => []

namespace Dispatch

variable {σ β : Type} {service : RegisterService σ}

/-- A scene after calls with their answers. -/
def Scene.after (scene : Scene σ) (answered : List Reply.Item × σ) : Scene σ :=
  { scene with
    registers := answered.2
    reply := answered.1.foldl Reply.Writer.add scene.reply }

/-- Steps that each make some calls and add their answers do so together. -/
theorem foldl_calls {step : Scene σ → β → Scene σ} {calls : β → List Call} {items : List β}
    (one : ∀ item ∈ items, ∀ scene : Scene σ,
      step scene item = scene.after (service.answerAll scene.registers (calls item)))
    (scene : Scene σ) :
    items.foldl step scene =
      scene.after (service.answerAll scene.registers (items.flatMap calls)) := by
  induction items generalizing scene with
  | nil => rfl
  | cons item rest ih =>
    obtain ⟨first, others⟩ := List.forall_mem_cons.1 one
    rw [List.foldl_cons, first, ih others, List.flatMap_cons, RegisterService.answerAll_append]
    simp only [Scene.after, List.foldl_append]

/-- Writing a register makes one call. -/
theorem writeOne_eq (scene : Scene σ) (cell : Register × Value) :
    writeOne service scene cell =
      scene.after (service.answerAll scene.registers [.write cell.1 cell.2]) := by
  rw [RegisterService.answerAll_singleton]
  cases made : service.write scene.registers cell.1 cell.2 with
  | mk result registers =>
    cases result <;> simp only [writeOne, RegisterService.answer, made] <;> rfl

/-- Reading a register makes one call. -/
theorem readOne_eq (kind : Kind) (scene : Scene σ) (register : Register) :
    readOne service kind scene register =
      scene.after (service.answerAll scene.registers [.read register kind]) := by
  rw [RegisterService.answerAll_singleton]
  cases made : service.read scene.registers register kind with
  | mk result registers =>
    cases result <;> simp only [readOne, RegisterService.answer, made] <;> rfl

/-- Carrying out a subframe other than a poll makes its calls and adds their answers. -/
theorem act_eq (scene : Scene σ) {subframe : Subframe} (quiet : subframe.isTunnel = false) :
    act service scene subframe =
      scene.after (service.answerAll scene.registers subframe.calls) := by
  cases subframe with
  | writeSingle register value => exact writeOne_eq scene (register, value)
  | writeMultiple start values =>
    rw [act, foldl_calls (fun cell _ scene => writeOne_eq scene cell), Subframe.calls,
      List.map_eq_flatMap]
  | readSingle register kind => exact readOne_eq kind scene register
  | readMultiple start count kind =>
    rw [act, foldl_calls (fun register _ scene => readOne_eq kind scene register), Subframe.calls,
      List.map_eq_flatMap]
  | replySingle | replyMultiple | writeError | readError => rfl
  | clientToServer | serverToClient => cases quiet

/-- A poll leaves the registers alone. -/
theorem registers_poll (scene : Scene σ) (channel : UInt32) (data : List UInt8) :
    (poll scene channel data).registers = scene.registers := by
  unfold poll
  dsimp only
  split <;> rfl

/-- Carrying out a subframe leaves the registers as its calls do. -/
theorem registers_act (scene : Scene σ) (subframe : Subframe) :
    (act service scene subframe).registers =
      (service.answerAll scene.registers subframe.calls).2 := by
  cases quiet : subframe.isTunnel with
  | false => rw [act_eq scene quiet, Scene.after]
  | true =>
    cases subframe with
    | clientToServer channel data => exact registers_poll scene channel data
    | serverToClient => rfl
    | writeSingle | writeMultiple | readSingle | readMultiple | replySingle | replyMultiple
    | writeError | readError => cases quiet

/-- Carrying out subframes leaves the registers as their calls do. -/
theorem registers_foldl_act (scene : Scene σ) (subframes : List Subframe) :
    (subframes.foldl (act service) scene).registers =
      (service.answerAll scene.registers (subframes.flatMap Subframe.calls)).2 := by
  induction subframes generalizing scene with
  | nil => rfl
  | cons subframe rest ih =>
    rw [List.foldl_cons, ih, registers_act, List.flatMap_cons, RegisterService.answerAll_append]

/-- Carrying out subframes without a poll makes their calls in order and adds the answers. -/
theorem foldl_act (scene : Scene σ) {subframes : List Subframe}
    (quiet : ∀ subframe ∈ subframes, subframe.isTunnel = false) :
    subframes.foldl (act service) scene =
      scene.after (service.answerAll scene.registers (subframes.flatMap Subframe.calls)) := by
  apply foldl_calls
  intro subframe there scene
  exact act_eq scene (quiet subframe there)

end Dispatch

end Multidrop
