import Multidrop.Basic
import Multidrop.Subframe.Basic

/-!
# Walking a payload

Subframes are read from the front one after another. The walk stops for good at the first one that
cannot be read, because nothing behind it can be located. Where each subframe stands is reported
with it, and an error names the place where the bad subframe begins.
-/
namespace Multidrop.Subframe

/-- Read a number, naming the flaw if there is none. -/
def readField (flaw : Flaw) (offset : Nat) (bytes : List UInt8) :
    Except Error (UInt32 × List UInt8) :=
  match Varuint.read bytes with
  | .ok found => .ok found
  | .error _ => .error (.malformed offset flaw)

/-- Whether consecutive registers from a start stay within the register numbers. -/
def inRange (start : Register) (count : UInt32) : Bool :=
  count = 0 || start.toNat + (count.toNat - 1) < Word.bound 32

/-- Read the start and the count of consecutive registers. -/
def readRange (offset : Nat) (bytes : List UInt8) :
    Except Error (Register × UInt32 × List UInt8) := do
  let (start, rest) ← readField .register offset bytes
  let (count, rest) ← readField .registerCount offset rest
  if inRange start count then .ok (start, count, rest)
  else .error (.malformed offset .registerRange)

/-- Read a register and its value. -/
def readCell (offset : Nat) (kind : Kind) (bytes : List UInt8) :
    Except Error (Register × Value × List UInt8) := do
  let (register, rest) ← readField .register offset bytes
  match Value.read kind rest with
  | some (value, rest) => .ok (register, value, rest)
  | none => .error (.malformed offset .valueTruncated)

/-- Read consecutive registers and their values. -/
def readCells (offset : Nat) (kind : Kind) (bytes : List UInt8) :
    Except Error (Register × Packed × List UInt8) := do
  let (start, count, rest) ← readRange offset bytes
  match Packed.read kind count.toNat rest with
  | some (values, rest) => .ok (start, values, rest)
  | none => .error (.malformed offset .valuesTruncated)

/-- Read a register and an error code. -/
def readRefusal (offset : Nat) (bytes : List UInt8) :
    Except Error (Register × UInt32 × List UInt8) := do
  let (register, rest) ← readField .register offset bytes
  let (code, rest) ← readField .errorCode offset rest
  .ok (register, code, rest)

/-- Read a channel and its bytes. -/
def readTunnel (offset : Nat) (bytes : List UInt8) :
    Except Error (UInt32 × List UInt8 × List UInt8) := do
  let (channel, rest) ← readField .channel offset bytes
  let (count, rest) ← readField .byteCount offset rest
  if count.toNat ≤ rest.length then
    .ok (channel, rest.take count.toNat, rest.drop count.toNat)
  else .error (.malformed offset .dataTruncated)

/-- Read what follows the tag of a form. -/
def readBody (offset : Nat) (bytes : List UInt8) :
    Form → Except Error (Subframe × List UInt8)
  | .writeSingle kind => do
    let (register, value, rest) ← readCell offset kind bytes
    .ok (.writeSingle register value, rest)
  | .writeMultiple kind => do
    let (start, values, rest) ← readCells offset kind bytes
    .ok (.writeMultiple start values, rest)
  | .readSingle kind => do
    let (register, rest) ← readField .register offset bytes
    .ok (.readSingle register kind, rest)
  | .readMultiple kind => do
    let (start, count, rest) ← readRange offset bytes
    .ok (.readMultiple start count kind, rest)
  | .replySingle kind => do
    let (register, value, rest) ← readCell offset kind bytes
    .ok (.replySingle register value, rest)
  | .replyMultiple kind => do
    let (start, values, rest) ← readCells offset kind bytes
    .ok (.replyMultiple start values, rest)
  | .writeError => do
    let (register, code, rest) ← readRefusal offset bytes
    .ok (.writeError register code, rest)
  | .readError => do
    let (register, code, rest) ← readRefusal offset bytes
    .ok (.readError register code, rest)
  | .clientToServer => do
    let (channel, data, rest) ← readTunnel offset bytes
    .ok (.clientToServer channel data, rest)
  | .serverToClient => do
    let (channel, data, rest) ← readTunnel offset bytes
    .ok (.serverToClient channel data, rest)

/-- Read the subframe that stands at an offset, returning the bytes after it. -/
def read (offset : Nat) (bytes : List UInt8) : Except Error (Subframe × List UInt8) := do
  let (tag, rest) ← readField .tag offset bytes
  match Form.ofTag? tag with
  | none => .error (.unknown tag offset)
  | some form => readBody offset rest form

/-- A place in a payload. -/
structure Walk where
  /-- Bytes in front of the place. -/
  offset : Nat := 0
  /-- The bytes from the place on. -/
  rest : List UInt8
  /-- Whether the walk has met a subframe it could not read. -/
  failed : Bool := false

/-- The next subframe or the one error, and the place behind it. An error stays in place. -/
def Walk.next (walk : Walk) : Option (Except Error Subframe) × Walk :=
  if walk.failed ∨ walk.rest = [] then (none, walk)
  else
    match read walk.offset walk.rest with
    | .ok (subframe, rest) =>
      (some (.ok subframe),
        { walk with offset := walk.offset + (walk.rest.length - rest.length), rest })
    | .error error => (some (.error error), { walk with failed := true })

/-- A subframe and where it begins. -/
structure Located where
  /-- Bytes in front of it. -/
  offset : Nat
  /-- The subframe that stands there. -/
  subframe : Subframe

/-- Everything a walk meets. -/
structure Contents where
  /-- The subframes in order. -/
  located : List Located
  /-- The error that ended the walk before the payload did. -/
  stop : Option Error

/-- A number that was read leaves fewer bytes. -/
theorem length_readField_lt {flaw : Flaw} {offset : Nat} {bytes rest : List UInt8}
    {value : UInt32} (h : readField flaw offset bytes = .ok (value, rest)) :
    rest.length < bytes.length := by
  unfold readField at h
  split at h
  · rename_i found heq
    cases h
    exact Varuint.length_read_lt heq
  · cases h

/-- A range that was read leaves fewer bytes. -/
theorem length_readRange_lt {offset : Nat} {bytes rest : List UInt8} {start : Register}
    {count : UInt32} (h : readRange offset bytes = .ok (start, count, rest)) :
    rest.length < bytes.length := by
  simp only [readRange, bind_eq_ok] at h
  obtain ⟨⟨_, between⟩, first, ⟨_, last⟩, second, h⟩ := h
  dsimp only at second h
  have := length_readField_lt first
  have := length_readField_lt second
  split at h <;> cases h
  omega

/-- A register and its value leave fewer bytes. -/
theorem length_readCell_lt {offset : Nat} {kind : Kind} {bytes rest : List UInt8}
    {register : Register} {value : Value}
    (h : readCell offset kind bytes = .ok (register, value, rest)) :
    rest.length < bytes.length := by
  simp only [readCell, bind_eq_ok] at h
  obtain ⟨⟨_, between⟩, first, h⟩ := h
  have := length_readField_lt first
  split at h <;> cases h
  rename_i found
  have := (Value.read_eq_some found).2.2
  simp only [this, List.length_drop]
  omega

/-- Registers and their values leave fewer bytes. -/
theorem length_readCells_lt {offset : Nat} {kind : Kind} {bytes rest : List UInt8}
    {start : Register} {values : Packed}
    (h : readCells offset kind bytes = .ok (start, values, rest)) :
    rest.length < bytes.length := by
  simp only [readCells, bind_eq_ok] at h
  obtain ⟨⟨_, _, between⟩, first, h⟩ := h
  have := length_readRange_lt first
  split at h <;> cases h
  rename_i found
  unfold Packed.read at found
  split at found <;> cases found
  simp only [List.length_drop]
  omega

/-- A register and an error code leave fewer bytes. -/
theorem length_readRefusal_lt {offset : Nat} {bytes rest : List UInt8} {register : Register}
    {code : UInt32} (h : readRefusal offset bytes = .ok (register, code, rest)) :
    rest.length < bytes.length := by
  simp only [readRefusal, bind_eq_ok] at h
  obtain ⟨⟨_, between⟩, first, ⟨_, last⟩, second, h⟩ := h
  dsimp only at second h
  have := length_readField_lt first
  have := length_readField_lt second
  cases h
  omega

/-- A channel and its bytes leave fewer bytes. -/
theorem length_readTunnel_lt {offset : Nat} {bytes data rest : List UInt8} {channel : UInt32}
    (h : readTunnel offset bytes = .ok (channel, data, rest)) : rest.length < bytes.length := by
  simp only [readTunnel, bind_eq_ok] at h
  obtain ⟨⟨_, between⟩, first, ⟨_, last⟩, second, h⟩ := h
  dsimp only at second h
  have := length_readField_lt first
  have := length_readField_lt second
  split at h <;> cases h
  simp only [List.length_drop]
  omega

/-- A body that was read leaves fewer bytes. -/
theorem length_readBody_lt {offset : Nat} {bytes rest : List UInt8} {form : Form}
    {subframe : Subframe} (h : readBody offset bytes form = .ok (subframe, rest)) :
    rest.length < bytes.length := by
  cases form <;> simp only [readBody, bind_eq_ok, Except.ok.injEq, Prod.mk.injEq] at h
  case writeSingle | replySingle =>
    obtain ⟨⟨_, _, _⟩, found, _, rfl⟩ := h
    exact length_readCell_lt found
  case writeMultiple | replyMultiple =>
    obtain ⟨⟨_, _, _⟩, found, _, rfl⟩ := h
    exact length_readCells_lt found
  case readSingle =>
    obtain ⟨⟨_, _⟩, found, _, rfl⟩ := h
    exact length_readField_lt found
  case readMultiple =>
    obtain ⟨⟨_, _, _⟩, found, _, rfl⟩ := h
    exact length_readRange_lt found
  case writeError | readError =>
    obtain ⟨⟨_, _, _⟩, found, _, rfl⟩ := h
    exact length_readRefusal_lt found
  case clientToServer | serverToClient =>
    obtain ⟨⟨_, _, _⟩, found, _, rfl⟩ := h
    exact length_readTunnel_lt found

/-- A subframe that was read leaves fewer bytes. -/
theorem length_read_lt {offset : Nat} {bytes rest : List UInt8} {subframe : Subframe}
    (h : read offset bytes = .ok (subframe, rest)) : rest.length < bytes.length := by
  simp only [read, bind_eq_ok] at h
  obtain ⟨⟨_, between⟩, first, h⟩ := h
  dsimp only at h
  have := length_readField_lt first
  split at h
  · cases h
  · have := length_readBody_lt h
    omega

/-- A walk that meets a subframe has fewer bytes left. -/
theorem Walk.length_rest_next_lt {walk after : Walk} {subframe : Subframe}
    (h : walk.next = (some (.ok subframe), after)) : after.rest.length < walk.rest.length := by
  unfold next at h
  split at h
  · cases h
  · split at h
    · rename_i found
      cases h
      exact length_read_lt found
    · cases h

/-- Everything from a place on. -/
def Walk.contents (walk : Walk) : Contents :=
  match h : walk.next with
  | (none, _) => ⟨[], none⟩
  | (some (.error error), _) => ⟨[], some error⟩
  | (some (.ok subframe), after) =>
    have := Walk.length_rest_next_lt h
    let tail := after.contents
    ⟨⟨walk.offset, subframe⟩ :: tail.located, tail.stop⟩
termination_by walk.rest.length

/-- The subframes of a payload. -/
def Contents.ofPayload (payload : List UInt8) : Contents := Walk.contents { rest := payload }

/-- The subframes without their places. -/
def Contents.subframes (contents : Contents) : List Subframe :=
  contents.located.map Located.subframe

end Multidrop.Subframe
