import Multidrop.Master.Options
import Multidrop.Proofs.Dispatch.Execute
import Multidrop.Proofs.Dispatch.Plan

/-!
# What a composed request asks for

The payload of a request that reads or writes consecutive registers consists of subframes that ask
for one call after another, one for each register (`payload_toRead`, `payload_toWrite`), however the
values to be written are split into runs of one kind (`values_runs`).
-/
namespace Multidrop

namespace Packed

/-- A run holds as many values as it counts. -/
theorem length_values (packed : Packed) : packed.values.length = packed.count := by
  have go (bytes : List UInt8) (whole : bytes.length % packed.kind.size = 0) :
      (unpack packed.kind bytes).length = bytes.length / packed.kind.size := by
    have positive := packed.kind.size_pos
    fun_induction unpack packed.kind bytes with
    | case1 bytes none =>
      have short : bytes.length < packed.kind.size := by
        apply Nat.lt_of_not_le
        intro enough
        obtain ⟨_, read⟩ := Value.exists_read_of_le enough
        rw [none] at read
        cases read
      rw [Nat.div_eq_of_lt short]
      rfl
    | case2 bytes value rest found less ih =>
      obtain ⟨_, enough, rfl⟩ := Value.read_eq_some found
      rw [List.length_drop, ← Nat.mod_eq_sub_mod enough] at ih
      rw [List.length_cons, ih whole, Nat.div_eq_sub_div positive enough]
  exact go packed.bytes packed.whole

end Packed

namespace Request

/-! ## Runs of values -/

/-- Runs hold the values in order. -/
theorem values_runs (values : List Value) : (runs values).flatMap Packed.values = values := by
  induction values with
  | nil => rfl
  | cons value rest ih =>
    rw [runs]
    cases split : runs rest with
    | nil =>
      rw [split] at ih
      rw [List.flatMap_singleton, Packed.values_single, ← ih]
      rfl
    | cons run later =>
      rw [split] at ih
      dsimp only
      by_cases same : run.kind = value.kind
      · have first : Packed.unpack value.kind (value.encode ++ run.bytes) = value :: run.values := by
          rw [Packed.unpack_of_read (Value.read_encode value run.bytes), ← same]
          rfl
        rw [dif_pos same, List.flatMap_cons, Packed.values, first, ← ih]
        rfl
      · rw [dif_neg same, List.flatMap_cons, Packed.values_single, ih]
        rfl

/-- No run is empty. -/
theorem count_pos_of_mem_runs {values : List Value} :
    ∀ run ∈ runs values, 0 < run.count := by
  induction values with
  | nil => exact fun _ there => absurd there List.not_mem_nil
  | cons value rest ih =>
    have single : 0 < (Packed.single value).count := by simp
    rw [runs]
    cases split : runs rest with
    | nil =>
      intro run there
      rw [List.mem_singleton.1 there]
      exact single
    | cons first later =>
      rw [split] at ih
      dsimp only
      by_cases same : first.kind = value.kind
      · rw [dif_pos same]
        intro run there
        rcases List.mem_cons.1 there with rfl | inside
        · have positive := value.kind.size_pos
          refine Nat.div_pos ?_ positive
          rw [List.length_append, Value.length_encode]
          exact Nat.le_add_right _ _
        · exact ih run (List.mem_cons_of_mem _ inside)
      · rw [dif_neg same]
        intro run there
        rcases List.mem_cons.1 there with rfl | inside
        · exact single
        · exact ih run inside

/-! ## Writing -/

/-- The subframes that write runs of values, each behind the registers of those before it. -/
def writes (start : Register) : List Packed → List Subframe
  | [] => []
  | run :: rest => .writeMultiple start run :: writes (start + .ofNat run.count) rest

/-- Writing runs adds their subframes and asks for no answer. -/
theorem writeRuns_eq (start : Register) (runs : List Packed) (request : Request) :
    writeRuns start runs request =
      { request with
        payload := request.payload ++ (writes start runs).flatMap Subframe.encode } := by
  induction runs generalizing start request with
  | nil =>
    rw [writeRuns, writes, List.flatMap_nil, List.append_nil]
  | cons run rest ih =>
    rw [writeRuns, ih, writes, List.flatMap_cons, ← List.append_assoc]
    rfl

/-- Cells of values behind others are those of their registers. -/
theorem cells_append (start : Register) (front back : List Value) :
    Dispatch.cells start (front ++ back) =
      Dispatch.cells start front ++ Dispatch.cells (start + .ofNat front.length) back := by
  unfold Dispatch.cells
  rw [List.mapIdx_append]
  congr 2
  funext place value
  rw [UInt32.ofNat_add, UInt32.add_comm (.ofNat place), UInt32.add_assoc]

/-- The registers of a span as places behind its start. -/
theorem map_fst_cells (start : Register) (values : List Value) :
    (Dispatch.cells start values).map Prod.fst = (Span.mk start values.length).registers := by
  apply List.ext_getElem
  · simp [Dispatch.cells, Span.registers]
  · intro place _ _
    simp [Dispatch.cells, Span.registers]

/-- Writing runs asks for the writes of their values one after another. -/
theorem calls_writes (start : Register) (runs : List Packed) :
    (writes start runs).flatMap Subframe.calls =
      (Dispatch.cells start (runs.flatMap Packed.values)).map fun cell => .write cell.1 cell.2 := by
  induction runs generalizing start with
  | nil => rfl
  | cons run rest ih =>
    rw [writes, List.flatMap_cons, ih, List.flatMap_cons, cells_append, List.map_append,
      Packed.length_values]
    rfl

/-- Runs whose registers stay in reach have subframes that their encodings can hold. -/
theorem fits_writes {start : Register} {runs : List Packed}
    (reach : start.toNat + (runs.flatMap Packed.values).length < Word.bound 32) :
    ∀ subframe ∈ writes start runs,
      subframe.Fits ∧ subframe.isRegisterRequest = true ∧ subframe.isRead = false := by
  induction runs generalizing start with
  | nil => exact fun _ there => absurd there List.not_mem_nil
  | cons run rest ih =>
    rw [List.flatMap_cons, List.length_append, Packed.length_values] at reach
    have few : run.count < Word.bound 32 := by omega
    have next : (start + .ofNat run.count).toNat = start.toNat + run.count := by
      rw [UInt32.toNat_add, Subframe.toNat_count few]
      exact Nat.mod_eq_of_lt (show start.toNat + run.count < Word.bound 32 by omega)
    intro subframe there
    rcases List.mem_cons.1 there with rfl | later
    · exact ⟨⟨few, Subframe.inRange_ofNat few (by omega)⟩, rfl, rfl⟩
    · exact ih (by omega) subframe later

variable {start : Register} {values : List Value}

/-- Writing consecutive registers is asking for one write after another, and for nothing else. -/
theorem payload_toWrite (reach : start.toNat + values.length < Word.bound 32) :
    (toWrite start values).reads = [] ∧ (toWrite start values).tunnel = none ∧
      ∃ subframes : List Subframe,
        (toWrite start values).payload = subframes.flatMap Subframe.encode ∧
        (∀ subframe ∈ subframes,
          subframe.Fits ∧ subframe.isRegisterRequest = true ∧ subframe.isRead = false) ∧
        subframes.flatMap Subframe.calls =
          (Dispatch.cells start values).map fun cell => .write cell.1 cell.2 := by
  unfold toWrite
  split
  · rename_i value
    refine ⟨rfl, rfl, [.writeSingle start value], ?_, ?_, ?_⟩
    · rw [List.flatMap_singleton]
      exact List.nil_append _
    · intro subframe there
      rw [List.mem_singleton.1 there]
      exact ⟨trivial, rfl, rfl⟩
    · simp [Subframe.calls, Dispatch.cells]
  · rw [writeMultiple, writeRuns_eq]
    refine ⟨rfl, rfl, writes start (runs values), List.nil_append _, fits_writes ?_, ?_⟩
    · rw [values_runs]
      exact reach
    · rw [calls_writes, values_runs]

/-- A register some places on takes as many bytes more at most. -/
theorem size_add_le (start : Register) (place : Nat) :
    Varuint.size (start + .ofNat place) ≤ Varuint.size start + place := by
  have go : Subframe.countSize (start.toNat + place) ≤
      Subframe.countSize start.toNat + place := by
    induction place with
    | zero => exact Nat.le_refl _
    | succ place ih =>
      calc Subframe.countSize (start.toNat + place + 1)
          ≤ Subframe.countSize (start.toNat + place) + 1 := Subframe.countSize_succ_le _
        _ ≤ Subframe.countSize start.toNat + (place + 1) := Nat.succ_le_succ ih
  rw [Subframe.countSize, Subframe.countSize, UInt32.ofNat_add, UInt32.ofNat_toNat] at go
  exact go

/-- A run has a byte for each of its values. -/
theorem count_le_length (run : Packed) : run.count ≤ run.bytes.length := Nat.div_le_self _ _

/-- The subframes of runs have a tag, a register and a byte for each value. -/
theorem length_le_writes (start : Register) (runs : List Packed) :
    2 * runs.length + (runs.flatMap Packed.values).length ≤
      ((writes start runs).flatMap Subframe.encode).length := by
  induction runs generalizing start with
  | nil => exact Nat.le_refl _
  | cons run rest ih =>
    have later := ih (start + .ofNat run.count)
    have few := count_le_length run
    have first := Varuint.size_pos start
    simp only [writes, List.flatMap_cons, List.length_append, List.length_cons,
      Packed.length_values, Subframe.length_encode, Subframe.size, Subframe.tag, Form.size_tag,
      Subframe.bodySize]
    omega

/-- A run has no more bytes than its values can have. -/
theorem length_le_count (run : Packed) : run.bytes.length ≤ run.count * 4 := by
  have whole : run.count * run.kind.size = run.bytes.length :=
    Nat.div_mul_cancel (Nat.dvd_of_mod_eq_zero run.whole)
  have kind := run.kind.size_le
  have most := Nat.mul_le_mul_left run.count kind
  omega

/-- A request that writes registers takes a few bytes for each of them. -/
theorem length_toWrite_le (start : Register) (values : List Value) :
    (toWrite start values).payload.length ≤ values.length * 15 := by
  have number (word : UInt32) : Varuint.size word ≤ 5 := Varuint.size_le word
  have several (runs : List Packed) (start : Register) (some : ∀ run ∈ runs, 0 < run.count) :
      ((writes start runs).flatMap Subframe.encode).length ≤
        (runs.flatMap Packed.values).length * 15 := by
    induction runs generalizing start with
    | nil => exact Nat.le_refl _
    | cons run rest ih =>
      obtain ⟨positive, others⟩ := List.forall_mem_cons.1 some
      have later := ih (start + .ofNat run.count) others
      have first := number start
      have counted := number (.ofNat run.count)
      have bytes := length_le_count run
      simp only [writes, List.flatMap_cons, List.length_append, Packed.length_values,
        Subframe.length_encode, Subframe.size, Subframe.tag, Form.size_tag, Subframe.bodySize,
        Subframe.countSize]
      omega
  unfold toWrite
  split
  · rename_i value
    have kind := value.kind.size_le
    have first := number start
    have whole : (empty.writeSingle start value).payload =
        (Subframe.writeSingle start value).encode := List.nil_append _
    rw [whole, Subframe.length_encode]
    simp only [Subframe.size, Subframe.tag, Form.size_tag, Subframe.bodySize, List.length_singleton]
    omega
  · have all := several (runs values) start count_pos_of_mem_runs
    rw [values_runs] at all
    rw [writeMultiple, writeRuns_eq]
    show ([] ++ _ : List UInt8).length ≤ _
    rw [List.nil_append]
    exact all

/-- A request that writes registers takes a byte for each of them, a tag and a register. -/
theorem le_length_toWrite (start : Register) {values : List Value} (some : values ≠ []) :
    2 + values.length ≤ (toWrite start values).payload.length := by
  unfold toWrite
  split
  · rename_i value
    have positive := value.kind.size_pos
    have first := Varuint.size_pos start
    have whole : (empty.writeSingle start value).payload =
        (Subframe.writeSingle start value).encode := List.nil_append _
    rw [whole, Subframe.length_encode]
    simp only [Subframe.size, Subframe.tag, Form.size_tag, Subframe.bodySize, List.length_singleton]
    omega
  · have least := length_le_writes start (runs values)
    have run : runs values ≠ [] := by
      intro none
      have held := values_runs values
      rw [none] at held
      exact some held.symm
    have positive := List.length_pos_iff.2 run
    rw [values_runs] at least
    rw [writeMultiple, writeRuns_eq]
    show _ ≤ ([] ++ (writes start (runs values)).flatMap Subframe.encode).length
    rw [List.nil_append]
    omega

/-- A request that writes a register is at least as long as the refusal to write it. -/
theorem refusal_le_toWrite {place : Nat} (inside : place < values.length) {code : UInt32}
    (short : code < 0x80) :
    (Subframe.writeError (start + .ofNat place) code).size ≤ (toWrite start values).payload.length := by
  have size := size_add_le start place
  have one : Varuint.size code = 1 := if_pos short
  have tag : Varuint.size (Subframe.writeError (start + .ofNat place) code).tag = 1 := rfl
  simp only [Subframe.size, tag, Subframe.bodySize, one]
  unfold toWrite
  split
  · rename_i value
    have positive := value.kind.size_pos
    have whole : (empty.writeSingle start value).payload =
        (Subframe.writeSingle start value).encode := List.nil_append _
    rw [List.length_singleton] at inside
    rw [whole, Subframe.length_encode]
    simp only [Subframe.size, Subframe.tag, Form.size_tag, Subframe.bodySize]
    omega
  · rw [writeMultiple, writeRuns_eq]
    show _ ≤ ([] ++ (writes start (runs values)).flatMap Subframe.encode).length
    have held := values_runs values
    cases split : runs values with
    | nil =>
      rw [split] at held
      rw [← held] at inside
      exact absurd inside (Nat.not_lt_zero _)
    | cons run rest =>
      rw [split] at held
      have later := length_le_writes (start + .ofNat run.count) rest
      have few := count_le_length run
      have counted := Varuint.size_pos (.ofNat run.count)
      rw [← held, List.flatMap_cons, List.length_append, Packed.length_values] at inside
      simp only [List.nil_append, writes, List.flatMap_cons, List.length_append,
        Subframe.length_encode, Subframe.size, Subframe.tag, Form.size_tag, Subframe.bodySize,
        Subframe.countSize]
      omega

/-- Reading consecutive registers is asking for one read after another, and for all of their
answers. -/
theorem payload_toRead {count : UInt32} (kind : Kind)
    (reach : start.toNat + count.toNat < Word.bound 32) :
    (toRead start count kind).reads = [⟨start, count.toNat⟩] ∧
      (toRead start count kind).tunnel = none ∧
      ∃ subframe : Subframe, (toRead start count kind).payload = subframe.encode ∧
        subframe.Fits ∧ subframe.isRegisterRequest = true ∧ subframe.size ≤ 15 ∧
        subframe.calls =
          (Span.mk start count.toNat).registers.map fun register => .read register kind := by
  have number (word : UInt32) : Varuint.size word ≤ 5 := Varuint.size_le word
  have first := number start
  have second := number count
  unfold toRead
  by_cases one : count = 1
  · subst one
    rw [if_pos rfl]
    refine ⟨rfl, rfl, .readSingle start kind, List.nil_append _, trivial, rfl, ?_, ?_⟩
    · simp only [Subframe.size, Subframe.tag, Form.size_tag, Subframe.bodySize]
      omega
    · rw [Subframe.calls, UInt32.toNat_one, Span.registers_one, List.map_singleton]
  · rw [if_neg one]
    have inside := Subframe.inRange_of_le (Nat.le_of_lt reach)
    refine ⟨rfl, rfl, .readMultiple start count kind, List.nil_append _, inside, rfl, ?_, rfl⟩
    simp only [Subframe.size, Subframe.tag, Form.size_tag, Subframe.bodySize]
    omega

end Request

end Multidrop
