import Multidrop.Register
import Multidrop.Reply

/-!
# Calls and banks

What a service answers to calls made one after another, and what a bank answers to them.
-/
namespace Multidrop.RegisterService

/-! ## What register calls are answered with

A call of a register service changes the registers and may have an answer: the value or the refusal
of a read, and the refusal of a write. Calls are made one after another, so each finds the registers
as those before it have left them. -/

open Reply (Item)

variable {σ : Type} (service : RegisterService σ)

/-- Make a call: its answer, if it has one, and the registers afterwards. -/
def answer (registers : σ) : Call → List Item × σ
  | .read register kind =>
    match service.read registers register kind with
    | (.ok value, registers) => ([.value register value], registers)
    | (.error refusal, registers) => ([.readError register refusal.code], registers)
  | .write register value =>
    match service.write registers register value with
    | (.ok (), registers) => ([], registers)
    | (.error refusal, registers) => ([.writeError register refusal.code], registers)

/-- Make calls in order: their answers in order, and the registers afterwards. -/
def answerAll (registers : σ) : List Call → List Item × σ
  | [] => ([], registers)
  | call :: rest =>
    let first := service.answer registers call
    let later := answerAll first.2 rest
    (first.1 ++ later.1, later.2)

/-- The answer to one call on its own. -/
theorem answerAll_singleton (registers : σ) (call : Call) :
    service.answerAll registers [call] = service.answer registers call := by
  rw [answerAll, answerAll, List.append_nil]

/-- Further calls go on with the registers that the first ones leave. -/
theorem answerAll_append (registers : σ) (front back : List Call) :
    service.answerAll registers (front ++ back) =
      ((service.answerAll registers front).1 ++
          (service.answerAll (service.answerAll registers front).2 back).1,
        (service.answerAll (service.answerAll registers front).2 back).2) := by
  induction front generalizing registers with
  | nil => rfl
  | cons call rest ih =>
    rw [List.cons_append, answerAll, answerAll, ih]
    dsimp only
    rw [List.append_assoc]

/-- Keeping a log of the calls changes no answer, and the log has every call. -/
theorem answer_logged (registers : σ) (log : List Call) (call : Call) :
    service.logged.answer (registers, log) call =
      ((service.answer registers call).1, (service.answer registers call).2, log ++ [call]) := by
  cases call with
  | read register kind =>
    cases made : service.read registers register kind with
    | mk result after => cases result <;> simp only [answer, logged, made]
  | write register value =>
    cases made : service.write registers register value with
    | mk result after => cases result <;> simp only [answer, logged, made]

/-- A log of several calls has them in order. -/
theorem answerAll_logged (registers : σ) (log calls : List Call) :
    service.logged.answerAll (registers, log) calls =
      ((service.answerAll registers calls).1, (service.answerAll registers calls).2,
        log ++ calls) := by
  induction calls generalizing registers log with
  | nil => rw [answerAll, answerAll, List.append_nil]
  | cons call rest ih =>
    rw [answerAll, answerAll, answer_logged]
    dsimp only
    rw [ih, List.append_assoc, List.singleton_append]

/-- No call is answered with tunnel bytes. -/
theorem tunnel_notMem_answerAll (registers : σ) (calls : List Call) (channel : UInt32)
    (data : List UInt8) : .tunnel channel data ∉ (service.answerAll registers calls).1 := by
  induction calls generalizing registers with
  | nil => exact List.not_mem_nil
  | cons call rest ih =>
    have first : .tunnel channel data ∉ (service.answer registers call).1 := by
      unfold answer
      cases call with
      | read register kind => dsimp only; split <;> simp
      | write register value => dsimp only; split <;> simp
    intro there
    rcases List.mem_append.1 there with now | later
    · exact first now
    · exact ih _ later

end Multidrop.RegisterService

/-! ## What a bank answers

Reading leaves a bank alone, and what is said about a read register is the same wherever in a reply
it is said (`answerAll_reads`, `readResult?_of_subset`). Which writes are refused depends on the
registers alone, not on what was written before (`refusal?_write`). A write that is not refused
changes the value of its register and nothing else (`cell?_replace`). -/

namespace Multidrop

/-- Looking for a register one by one is looking for it in the list of them. -/
theorem Span.find?_eq (test : Register → Bool) (span : Span) :
    span.find? test = span.registers.find? test := by
  have go (left place : Nat) : span.findFrom test place left =
      ((List.range' place left).map fun place => span.start + .ofNat place).find? test := by
    induction left generalizing place with
    | zero => rfl
    | succ left ih =>
      rw [findFrom, List.range'_succ, List.map_cons, List.find?_cons]
      cases test (span.start + .ofNat place) with
      | true => rfl
      | false => exact ih (place + 1)
  rw [find?, registers, List.range_eq_range']
  exact go span.count 0

/-- A span has as many registers as its count says. -/
@[simp]
theorem Span.length_registers (span : Span) : span.registers.length = span.count := by
  simp [registers]

/-- A span of one register. -/
@[simp]
theorem Span.registers_one (register : Register) :
    (Span.mk register 1).registers = [register] := by
  simp [registers]

/-- The registers of a span are different ones. -/
theorem Span.nodup_registers {span : Span} (few : span.count ≤ Word.bound 32) :
    span.registers.Nodup := by
  rw [registers, List.Nodup, List.pairwise_map]
  refine List.nodup_range.imp_of_mem ?_
  intro first second low high apart same
  rw [List.mem_range] at low high
  have places : (UInt32.ofNat first).toNat = (UInt32.ofNat second).toNat :=
    congrArg UInt32.toNat ((UInt32.add_right_inj span.start).1 same)
  rw [UInt32.toNat_ofNat_of_lt' (Nat.lt_of_lt_of_le low few),
    UInt32.toNat_ofNat_of_lt' (Nat.lt_of_lt_of_le high few)] at places
  exact apart places

namespace Bank

open Reply (Item)

variable {bank : Bank} {register other : Register} {value : Value} {kind : Kind}

/-! ### Reads -/

/-- What a read is answered with. -/
def readItem (bank : Bank) (kind : Kind) (register : Register) : Item :=
  match bank.read register kind with
  | .ok value => .value register value
  | .error refusal => .readError register refusal.code

/-- Reads are answered one by one and leave the bank alone. -/
theorem answerAll_reads (bank : Bank) (kind : Kind) (registers : List Register) :
    service.answerAll bank (registers.map fun register => .read register kind) =
      (registers.map (bank.readItem kind), bank) := by
  induction registers with
  | nil => rfl
  | cons register rest ih =>
    have one : service.answer bank (.read register kind) = ([bank.readItem kind register], bank) := by
      unfold RegisterService.answer service readItem
      dsimp only
      cases bank.read register kind <;> rfl
    rw [List.map_cons, RegisterService.answerAll, one, ih]
    rfl

/-- The answer to a read says what the read has come to. -/
theorem readResult?_readItem (bank : Bank) (kind : Kind) (register other : Register) :
    (bank.readItem kind other).readResult? register =
      if other = register then some (bank.read register kind) else none := by
  unfold readItem
  by_cases same : other = register
  · rw [if_pos same, ← same]
    cases bank.read other kind <;> exact if_pos rfl
  · rw [if_neg same]
    cases bank.read other kind <;> exact if_neg same

/-- What is said about a register among answers to reads is what its read has come to. -/
theorem readResult?_of_subset {kept : List Item} {registers : List Register}
    (some : kept ⊆ registers.map (bank.readItem kind)) {result : Except Refusal Value}
    (said : (Reply.mk kept).readResult? register = .some result) :
    result = bank.read register kind := by
  obtain ⟨item, there, claimed⟩ := List.exists_of_findSome?_eq_some said
  obtain ⟨other, _, rfl⟩ := List.mem_map.1 (some there)
  rw [readResult?_readItem] at claimed
  split at claimed <;> cases claimed
  rfl

/-- Every register that was read is mentioned. -/
theorem readResult?_of_mem {registers : List Register} (there : register ∈ registers) :
    ((Reply.mk (registers.map (bank.readItem kind))).readResult? register).isNone = false := by
  have mentioned : (bank.readItem kind register).readResult? register =
      some (bank.read register kind) := by
    rw [readResult?_readItem, if_pos rfl]
  cases said : (Reply.mk (registers.map (bank.readItem kind))).readResult? register with
  | some result => rfl
  | none =>
    have silent := List.findSome?_eq_none_iff.1 said _ (List.mem_map_of_mem there)
    rw [mentioned] at silent
    cases silent

/-! ### Writes -/

/-- Why a write from the bus is refused, if it is. -/
def refusal? (bank : Bank) (register : Register) : Option Refusal :=
  match bank.cell? register with
  | some cell => if cell.readOnly then some readOnly else none
  | none => some unknownRegister

/-- The bus may write a register exactly if it is defined and not kept from it. -/
theorem refusal?_eq_none_iff :
    bank.refusal? register = none ↔
      ∃ cell, bank.cell? register = some cell ∧ cell.readOnly = false := by
  unfold refusal?
  cases bank.cell? register with
  | none =>
    constructor
    · intro free
      cases free
    · rintro ⟨_, there, _⟩
      cases there
  | some cell =>
    dsimp only
    cases kept : cell.readOnly with
    | false => exact ⟨fun _ => ⟨cell, rfl, kept⟩, fun _ => rfl⟩
    | true =>
      constructor
      · intro free
        cases free
      · rintro ⟨_, same, free⟩
        cases same
        rw [kept] at free
        cases free

/-- The codes of a bank take one byte. -/
theorem code_lt_of_refusal? {refusal : Refusal} (refused : bank.refusal? register = some refusal) :
    refusal.code < 0x80 := by
  unfold refusal? at refused
  split at refused
  · split at refused <;> cases refused
    decide
  · cases refused
    decide

/-- A write replaces a value or is refused. -/
theorem write_eq (bank : Bank) (register : Register) (value : Value) :
    bank.write register value =
      match bank.refusal? register with
      | some refusal => (.error refusal, bank)
      | none => (.ok (), bank.replace register value) := by
  unfold write refusal?
  cases bank.cell? register with
  | none => rfl
  | some cell =>
    dsimp only
    cases cell.readOnly <;> rfl

/-- Replacing a value changes that value and nothing else. -/
theorem cell?_replace (bank : Bank) (register : Register) (value : Value) (other : Register) :
    (bank.replace register value).cell? other =
      (bank.cell? other).map fun cell =>
        if other = register then { cell with value := value } else cell := by
  have go (cells : List (Register × Cell)) :
      (cells.map fun entry =>
        (entry.1, if entry.1 = register then { entry.2 with value := value } else entry.2)).lookup
          other =
          (cells.lookup other).map fun cell =>
            if other = register then { cell with value := value } else cell := by
    induction cells with
    | nil => rfl
    | cons entry rest ih =>
      rw [List.map_cons, List.lookup_cons, List.lookup_cons]
      cases found : other == entry.1 with
      | true =>
        rw [← beq_iff_eq.1 found]
        rfl
      | false => exact ih
  exact go bank.cells

/-- Replacing a value refuses no other writes than before. -/
theorem refusal?_replace (bank : Bank) (register : Register) (value : Value) (other : Register) :
    (bank.replace register value).refusal? other = bank.refusal? other := by
  unfold refusal?
  rw [cell?_replace]
  cases bank.cell? other with
  | none => rfl
  | some cell =>
    rw [Option.map_some]
    dsimp only
    split <;> rfl

/-- The bank after writes from the bus, one after another. -/
def writeAll (bank : Bank) (cells : List (Register × Value)) : Bank :=
  cells.foldl (fun bank cell => (bank.write cell.1 cell.2).2) bank

variable {cells : List (Register × Value)}

/-- A write refuses no other writes than before. -/
theorem refusal?_write (bank : Bank) (register : Register) (value : Value) (other : Register) :
    (bank.write register value).2.refusal? other = bank.refusal? other := by
  rw [write_eq]
  cases bank.refusal? register with
  | some refusal => rfl
  | none => exact refusal?_replace bank register value other

/-- What writes of registers are answered with. -/
def writeItems (bank : Bank) (registers : List Register) : List Item :=
  registers.filterMap fun register => (bank.refusal? register).map fun refusal =>
    .writeError register refusal.code

/-- Writes are answered with the refusals, which depend on the registers alone. -/
theorem answerAll_writes (bank : Bank) (cells : List (Register × Value)) :
    service.answerAll bank (cells.map fun cell => .write cell.1 cell.2) =
      (bank.writeItems (cells.map Prod.fst), bank.writeAll cells) := by
  induction cells generalizing bank with
  | nil => rfl
  | cons cell rest ih =>
    have one : service.answer bank (.write cell.1 cell.2) =
        (((bank.refusal? cell.1).map fun refusal => Item.writeError cell.1 refusal.code).toList,
          (bank.write cell.1 cell.2).2) := by
      unfold RegisterService.answer service
      dsimp only
      rw [write_eq]
      cases bank.refusal? cell.1 <;> rfl
    rw [List.map_cons, RegisterService.answerAll, one]
    dsimp only
    rw [ih, List.map_cons, writeItems, writeItems, List.filterMap_cons]
    simp only [refusal?_write]
    cases bank.refusal? cell.1 <;> rfl

variable {registers : List Register}

/-- Nothing is said about writes that all succeed. -/
theorem writeItems_eq_nil (open_ : ∀ register ∈ registers, bank.refusal? register = none) :
    bank.writeItems registers = [] := by
  rw [writeItems, List.filterMap_eq_nil_iff]
  intro register there
  rw [open_ register there]
  rfl

/-- What is said is that a register may not be written, and why. -/
theorem exists_refusal_of_mem_writeItems {item : Item} (there : item ∈ bank.writeItems registers) :
    ∃ register ∈ registers, ∃ refusal, bank.refusal? register = some refusal ∧
      item = .writeError register refusal.code := by
  obtain ⟨register, inside, said⟩ := List.mem_filterMap.1 there
  obtain ⟨refusal, refused, rfl⟩ := Option.map_eq_some_iff.1 said
  exact ⟨register, inside, refusal, refused, rfl⟩

/-- The first write that is refused is said first. -/
theorem writeItems_of_refused {front back : List Register} {register : Register}
    {refusal : Refusal} (open_ : ∀ other ∈ front, bank.refusal? other = none)
    (refused : bank.refusal? register = some refusal) :
    bank.writeItems (front ++ register :: back) =
      .writeError register refusal.code :: bank.writeItems back := by
  have first := writeItems_eq_nil open_
  rw [writeItems] at first ⊢
  rw [List.filterMap_append, first, List.filterMap_cons, refused]
  rfl

/-- Registers are all open, or one is the first that is not. -/
theorem all_open_or_refused (bank : Bank) (registers : List Register) :
    (∀ register ∈ registers, bank.refusal? register = none) ∨
      ∃ front register back refusal, registers = front ++ register :: back ∧
        (∀ other ∈ front, bank.refusal? other = none) ∧
        bank.refusal? register = some refusal := by
  induction registers with
  | nil => exact .inl fun _ there => absurd there List.not_mem_nil
  | cons first rest ih =>
    cases refused : bank.refusal? first with
    | some refusal =>
      exact .inr ⟨[], first, rest, refusal, rfl, fun _ there => absurd there List.not_mem_nil,
        refused⟩
    | none =>
      rcases ih with all | ⟨front, register, back, refusal, rfl, before, here⟩
      · exact .inl (List.forall_mem_cons.2 ⟨refused, all⟩)
      · exact .inr ⟨first :: front, register, back, refusal, rfl,
          List.forall_mem_cons.2 ⟨refused, before⟩, here⟩

/-! ### What writes leave behind -/

/-- A write changes the cell of its register if it is not refused, and no other cell. -/
theorem cell?_write (bank : Bank) (register : Register) (value : Value) (other : Register) :
    (bank.write register value).2.cell? other =
      if other = register ∧ bank.refusal? register = none then
        (bank.cell? other).map fun cell => { cell with value := value }
      else bank.cell? other := by
  rw [write_eq]
  cases refused : bank.refusal? register with
  | some refusal => rw [if_neg (by simp)]
  | none =>
    dsimp only
    rw [cell?_replace]
    by_cases same : other = register
    · simp only [same, true_and, if_true]
    · simp only [same, false_and, if_false, Option.map_id']

/-- Writes leave a register alone that they are not for, and one that may not be written. -/
theorem cell?_writeAll_of_untouched
    (untouched : (∀ cell ∈ cells, cell.1 ≠ register) ∨ bank.refusal? register ≠ none) :
    (bank.writeAll cells).cell? register = bank.cell? register := by
  induction cells generalizing bank with
  | nil => rfl
  | cons cell rest ih =>
    have first : (bank.write cell.1 cell.2).2.cell? register = bank.cell? register := by
      rw [cell?_write, if_neg]
      rintro ⟨rfl, open_⟩
      rcases untouched with others | refused
      · exact others cell List.mem_cons_self rfl
      · exact refused open_
    rw [← first]
    refine ih ?_
    rw [refusal?_write]
    exact untouched.imp_left fun others cell there => others cell (List.mem_cons_of_mem _ there)

/-- Writes to different registers set each one that may be written to its value. -/
theorem cell?_writeAll_of_mem {cell : Cell} (distinct : (cells.map Prod.fst).Nodup)
    (there : (register, value) ∈ cells) (open_ : bank.refusal? register = none)
    (held : bank.cell? register = some cell) :
    (bank.writeAll cells).cell? register = some { cell with value := value } := by
  induction cells generalizing bank with
  | nil => exact absurd there List.not_mem_nil
  | cons entry rest ih =>
    rw [List.map_cons, List.nodup_cons] at distinct
    obtain ⟨once, others⟩ := distinct
    show ((bank.write entry.1 entry.2).2.writeAll rest).cell? register = _
    rcases List.mem_cons.1 there with rfl | later
    · have untouched : ∀ cell ∈ rest, cell.1 ≠ register := by
        rintro cell inside rfl
        exact once (List.mem_map.2 ⟨cell, inside, rfl⟩)
      rw [cell?_writeAll_of_untouched (.inl untouched), cell?_write, if_pos ⟨rfl, open_⟩, held]
      rfl
    · have apart : register ≠ entry.1 := by
        rintro rfl
        exact once (List.mem_map.2 ⟨_, later, rfl⟩)
      refine ih others later ?_ ?_
      · rw [refusal?_write]
        exact open_
      · rw [cell?_write, if_neg fun both => apart both.1]
        exact held

/-- What writes of cells leave of a bank: the registers that may be written have their values, and
every other one is as it was. -/
structure Written (bank : Bank) (cells : List (Register × Value)) (after : Bank) : Prop where
  /-- A register that may be written has its value. -/
  stored : ∀ register value cell, (register, value) ∈ cells → bank.cell? register = some cell →
    cell.readOnly = false → after.cell? register = some { cell with value := value }
  /-- Any other register is left alone. -/
  kept : ∀ register, (∀ cell ∈ cells, cell.1 ≠ register) ∨ bank.refusal? register ≠ none →
    after.cell? register = bank.cell? register

/-- Writes to different registers leave behind what they should. -/
theorem written_writeAll (bank : Bank) (distinct : (cells.map Prod.fst).Nodup) :
    bank.Written cells (bank.writeAll cells) where
  stored _ _ cell there held free :=
    cell?_writeAll_of_mem distinct there (refusal?_eq_none_iff.2 ⟨cell, held, free⟩) held
  kept _ untouched := cell?_writeAll_of_untouched untouched

/-- Writes refuse no other writes than before. -/
theorem Written.refusal?_eq {after : Bank} (written : bank.Written cells after)
    (register : Register) : after.refusal? register = bank.refusal? register := by
  by_cases touched : (∃ cell ∈ cells, cell.1 = register) ∧ bank.refusal? register = none
  · obtain ⟨⟨⟨_, value⟩, there, rfl⟩, open_⟩ := touched
    obtain ⟨cell, held, free⟩ := refusal?_eq_none_iff.1 open_
    rw [open_, refusal?_eq_none_iff]
    exact ⟨_, written.stored _ value cell there held free, free⟩
  · have untouched : (∀ cell ∈ cells, cell.1 ≠ register) ∨ bank.refusal? register ≠ none := by
      by_cases open_ : bank.refusal? register = none
      · exact .inl fun cell there same => touched ⟨⟨cell, there, same⟩, open_⟩
      · exact .inr open_
    unfold refusal?
    rw [written.kept register untouched]

/-- The same writes once more leave the same behind. -/
theorem Written.trans {between after : Bank} (first : bank.Written cells between)
    (last : between.Written cells after) : bank.Written cells after where
  stored register value cell there held free :=
    last.stored register value { cell with value := value } there
      (first.stored register value cell there held free) free
  kept register untouched :=
    (last.kept register (untouched.imp_right fun refused => first.refusal?_eq register ▸ refused)).trans
      (first.kept register untouched)

/-- Where the same writes are refused, the same is said about them. -/
theorem Written.writeItems_eq {after : Bank} (written : bank.Written cells after)
    (registers : List Register) : after.writeItems registers = bank.writeItems registers := by
  simp only [writeItems, written.refusal?_eq]

end Bank

end Multidrop
