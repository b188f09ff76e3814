import Multidrop.Value

/-!
# Registers

What an application has to offer to be read and written over the bus, and the plain table of
registers that offers it.
-/
namespace Multidrop

/-! ## Register services

What a node's application offers to the bus: reading a register in a kind, and writing a value to
one. Both may be refused with a code that travels back to the master. A service is a pair of pure
steps on whatever state the application keeps. -/

/-- A refused register operation. -/
structure Refusal where
  /-- Why, in the application's numbering. -/
  code : UInt32
  deriving Repr, DecidableEq

/-- The text of a refusal. -/
def Refusal.message (refusal : Refusal) : String := s!"register error code {refusal.code.toNat}"

/-- Register operations on a state. -/
structure RegisterService (σ : Type) where
  /-- Read a register in a kind. -/
  read : σ → Register → Kind → Except Refusal Value × σ
  /-- Write a value to a register. -/
  write : σ → Register → Value → Except Refusal Unit × σ

/-- One operation asked of a service. -/
inductive Call where
  | read (register : Register) (kind : Kind)
  | write (register : Register) (value : Value)
  deriving Repr, DecidableEq

namespace RegisterService

variable {σ : Type}

/-- The same service, keeping the calls made so far. -/
def logged (service : RegisterService σ) : RegisterService (σ × List Call) where
  read := fun (state, calls) register kind =>
    let (result, state) := service.read state register kind
    (result, state, calls ++ [.read register kind])
  write := fun (state, calls) register value =>
    let (result, state) := service.write state register value
    (result, state, calls ++ [.write register value])

end RegisterService

/-- The registers from a start on, as many as counted. -/
structure Span where
  /-- The first register. -/
  start : Register
  /-- How many registers. -/
  count : Nat
  deriving Repr, DecidableEq

namespace Span

/-- The registers in order. Numbers wrap around at the end of the register space. -/
def registers (span : Span) : List Register :=
  (List.range span.count).map fun place => span.start + .ofNat place

/-- The first of a number of registers from a place on that a test picks. -/
def findFrom (test : Register → Bool) (span : Span) (place : Nat) : (left : Nat) → Option Register
  | 0 => none
  | left + 1 =>
    let register := span.start + .ofNat place
    if test register then some register else findFrom test span (place + 1) left

/-- The first register that a test picks. It is looked for one by one, since a span may cover all
of the register space. -/
def find? (test : Register → Bool) (span : Span) : Option Register :=
  span.findFrom test 0 span.count

end Span

end Multidrop

/-! ## Register banks

A plain table of registers. Only registers that have been defined exist. A read converts the
stored value to the kind asked for, and a write stores the value in the kind it was sent. The bus
may be kept from writing a register. -/

namespace Multidrop

/-- What a bank holds for one register. -/
structure Cell where
  /-- The stored value. -/
  value : Value
  /-- Whether the bus may only read it. -/
  readOnly : Bool := false
  deriving Repr, DecidableEq

namespace Cell

/-- Cells in the order of their registers, each register at most once. -/
def Ascending (cells : List (Register × Cell)) : Prop :=
  cells.Pairwise fun before after => before.1 < after.1

/-- Put a cell into its place, over the one that is there. -/
def put (register : Register) (cell : Cell) : List (Register × Cell) → List (Register × Cell)
  | [] => [(register, cell)]
  | (other, held) :: rest =>
    if register < other then (register, cell) :: (other, held) :: rest
    else if register = other then (register, cell) :: rest
    else (other, held) :: put register cell rest

/-- Putting a cell adds no register but its own. -/
theorem mem_put {register : Register} {cell : Cell} {cells : List (Register × Cell)}
    {entry : Register × Cell} (h : entry ∈ put register cell cells) :
    entry = (register, cell) ∨ entry ∈ cells := by
  fun_induction put register cell cells with
  | case1 => simpa using h
  | case2 => simpa using h
  | case3 held rest _ =>
    rcases List.mem_cons.1 h with rfl | later
    · exact .inl rfl
    · exact .inr (List.mem_cons_of_mem _ later)
  | case4 other held rest _ _ ih =>
    rcases List.mem_cons.1 h with rfl | later
    · exact .inr (List.mem_cons_self ..)
    · rcases ih later with found | found
      · exact .inl found
      · exact .inr (List.mem_cons_of_mem _ found)

/-- Putting a cell keeps the order. -/
theorem ascending_put (register : Register) (cell : Cell) {cells : List (Register × Cell)}
    (sorted : Ascending cells) : Ascending (put register cell cells) := by
  unfold Ascending at *
  fun_induction put register cell cells with
  | case1 => simp
  | case2 other held rest less =>
    refine List.pairwise_cons.2 ⟨fun entry member => ?_, sorted⟩
    rcases List.mem_cons.1 member with rfl | later
    · exact less
    · exact UInt32.lt_trans less ((List.pairwise_cons.1 sorted).1 _ later)
  | case3 held rest _ =>
    exact List.pairwise_cons.2 ⟨(List.pairwise_cons.1 sorted).1, (List.pairwise_cons.1 sorted).2⟩
  | case4 other held rest notLess notSame ih =>
    have greater : other < register := by
      rcases UInt32.lt_or_lt_of_ne notSame with less | more
      · exact absurd less notLess
      · exact more
    refine List.pairwise_cons.2 ⟨fun entry member => ?_, ih (List.pairwise_cons.1 sorted).2⟩
    rcases mem_put member with rfl | later
    · exact greater
    · exact (List.pairwise_cons.1 sorted).1 _ later

end Cell

/-- A table of registers. -/
structure Bank where
  /-- The defined registers in ascending order. -/
  cells : List (Register × Cell) := []
  /-- Every register occurs once and in its place. -/
  ascending : Cell.Ascending cells := by exact List.Pairwise.nil

namespace Bank

/-- A bank without registers. -/
def empty : Bank := {}

/-- The code for a register that is not defined. -/
def unknownRegister : Refusal := ⟨1⟩

/-- The code for a register that the bus may only read. -/
def readOnly : Refusal := ⟨2⟩

/-- What the bank holds for a register. -/
def cell? (bank : Bank) (register : Register) : Option Cell := bank.cells.lookup register

/-- The stored value of a register. -/
def get? (bank : Bank) (register : Register) : Option Value :=
  (bank.cell? register).map Cell.value

/-- The number of registers. -/
def size (bank : Bank) : Nat := bank.cells.length

/-- The registers and their values in ascending order. -/
def toList (bank : Bank) : List (Register × Value) :=
  bank.cells.map fun (register, cell) => (register, cell.value)

/-- Create or overwrite a register. -/
def insert (register : Register) (cell : Cell) (bank : Bank) : Bank where
  cells := Cell.put register cell bank.cells
  ascending := Cell.ascending_put register cell bank.ascending

/-- Create or overwrite a register that the bus may write. -/
def define (register : Register) (value : Value) (bank : Bank) : Bank :=
  bank.insert register { value }

/-- Create or overwrite a register that the bus may only read. -/
def defineReadOnly (register : Register) (value : Value) (bank : Bank) : Bank :=
  bank.insert register { value, readOnly := true }

/-- Replace the value of a register where it is defined. -/
def replace (register : Register) (value : Value) (bank : Bank) : Bank where
  cells := bank.cells.map fun (other, cell) =>
    (other, if other = register then { cell with value := value } else cell)
  ascending := by
    have ascending := bank.ascending
    unfold Cell.Ascending at ascending ⊢
    rw [List.pairwise_map]
    exact ascending

/-- Set a value from the application's side, also where the bus may not. Tells whether the
register is defined. -/
def set (register : Register) (value : Value) (bank : Bank) : Bool × Bank :=
  match bank.cell? register with
  | some _ => (true, bank.replace register value)
  | none => (false, bank)

/-- Write from the bus. -/
def write (bank : Bank) (register : Register) (value : Value) : Except Refusal Unit × Bank :=
  match bank.cell? register with
  | some cell =>
    if cell.readOnly then (.error readOnly, bank) else (.ok (), bank.replace register value)
  | none => (.error unknownRegister, bank)

/-- Read from the bus. -/
def read (bank : Bank) (register : Register) (kind : Kind) : Except Refusal Value :=
  match bank.cell? register with
  | some cell => .ok (cell.value.toKind kind)
  | none => .error unknownRegister

/-- A bank as a register service. -/
def service : RegisterService Bank where
  read bank register kind := (bank.read register kind, bank)
  write := write

end Bank

end Multidrop
