import Multidrop.Proofs.Checksum
import Multidrop.Proofs.Frame.RoundTrip

/-!
# Damaged frames

The syndrome of received bytes is the sum of the checksum of the body and the one that is carried.
An accepted frame has none, and a flipped bit adds a power of the indeterminate to it
(`syndrome_flipBit`), another one for each bit (`exponent_injective`). So damage shows when its
powers do not cancel out, and then parsing reports a mismatch before it looks at any field
(`parse_damaged`).
-/
namespace Multidrop.Frame

variable {frame : Frame} {bytes : List UInt8} {position : Nat} {positions : List Nat}

/-- Flip the bit at a position, the most significant bit of each byte first. -/
def flipBit (bytes : List UInt8) (position : Nat) : List UInt8 :=
  bytes.modify (position / 8) (· ^^^ (0x80 >>> UInt8.ofNat (position % 8)))

/-- Flip the bits at some positions. -/
def flipBits (positions : List Nat) (bytes : List UInt8) : List UInt8 :=
  positions.foldl flipBit bytes

/-- The bits that are flipped in a frame of some bytes: at least one, and each of them once. -/
structure Damage (size : Nat) (positions : List Nat) : Prop where
  /-- There is damage. -/
  some : positions ≠ []
  /-- No bit is flipped back. -/
  distinct : positions.Nodup
  /-- The frame has the bits. -/
  inside : ∀ position ∈ positions, position < 8 * size

/-- Damage of a frame of some bytes that its checksum shows. -/
inductive Shown (size : Nat) (positions : List Nat) : Prop
  /-- An odd number of bits is flipped. -/
  | odd (odd : positions.length % 2 = 1)
  /-- All flipped bits are among 16 consecutive ones before the checksum. -/
  | body (first : Nat) (above : ∀ position ∈ positions, first ≤ position)
    (within : ∀ position ∈ positions, position < first + 16)
    (before : ∀ position ∈ positions, position < 8 * (size - checksumSize))
  /-- All flipped bits are in the checksum. -/
  | trailer (behind : ∀ position ∈ positions, 8 * (size - checksumSize) ≤ position)
  /-- Two bits of a frame with at most 4091 bytes before its checksum are flipped. -/
  | pair (two : positions.length = 2) (short : size - checksumSize ≤ 4091)

/-! ## The syndrome -/

/-- The sum of the computed checksum and the carried one. -/
def syndrome (bytes : List UInt8) : UInt16 :=
  Checksum.ofBody (bytes.take (bytes.length - checksumSize)) ^^^
    carried (bytes.drop (bytes.length - checksumSize))

/-- The exponent of the power that a bit of a frame of some bytes counts for. The bytes of the
checksum follow each other the other way round. -/
def exponent (size position : Nat) : Nat :=
  if position < 8 * (size - 2) then 8 * size + 15 - position
  else if position < 8 * (size - 1) then 8 * size - 9 - position
  else 8 * size + 7 - position

/-- An accepted frame has no syndrome, and the bytes that a frame needs. -/
theorem syndrome_of_parse (accepted : parse bytes = .ok frame) :
    minSize ≤ bytes.length ∧ syndrome bytes = 0 := by
  unfold parse at accepted
  by_cases short : bytes.length < minSize
  · rw [if_pos short] at accepted
    cases accepted
  rw [if_neg short] at accepted
  by_cases wrong : carried (bytes.drop (bytes.length - checksumSize)) ≠
      Checksum.ofBody (bytes.take (bytes.length - checksumSize))
  · simp only [if_pos wrong] at accepted
    cases accepted
  · exact ⟨Nat.le_of_not_lt short,
      UInt16.xor_eq_zero_iff.2 (Decidable.of_not_not wrong).symm⟩

/-- A syndrome is reported as a mismatch. -/
theorem parse_of_syndrome (long : minSize ≤ bytes.length) (damaged : syndrome bytes ≠ 0) :
    ∃ carried computed, parse bytes = .error (.checksumMismatch carried computed) := by
  have wrong : carried (bytes.drop (bytes.length - checksumSize)) ≠
      Checksum.ofBody (bytes.take (bytes.length - checksumSize)) := fun same =>
    damaged (UInt16.xor_eq_zero_iff.2 same.symm)
  exact ⟨_, _, parse_of_mismatch long wrong⟩

/-! ## What a flipped bit adds -/

/-- A list of two is a pair. -/
theorem eq_pair_of_length {α : Type} {list : List α} (two : list.length = 2) :
    ∃ first second, list = [first, second] := by
  obtain ⟨first, rest, rfl⟩ := List.exists_cons_of_length_eq_add_one two
  obtain ⟨second, rfl⟩ := List.length_eq_one_iff.1 (Nat.succ.inj two)
  exact ⟨first, second, rfl⟩

/-- A bit of a byte that is taken in counts for a low power. -/
theorem shiftLeft_mask : ∀ offset < 8,
    ((0x80 >>> UInt8.ofNat offset : UInt8).toUInt16 <<< 8) = Checksum.shifts (15 - offset) 1 := by
  decide +kernel

/-- A bit of a carried checksum counts for the power at its place in the word. -/
theorem of16_mask : ∀ offset < 8,
    Word.of16 (0x80 >>> UInt8.ofNat offset) 0 = Checksum.shifts (7 - offset) 1 ∧
      Word.of16 0 (0x80 >>> UInt8.ofNat offset) = Checksum.shifts (15 - offset) 1 := by
  decide +kernel

/-- A flipped bit of a body. -/
theorem ofBody_flipBit {body : List UInt8} (inside : position < 8 * body.length) :
    Checksum.ofBody (flipBit body position) =
      Checksum.ofBody body ^^^ Checksum.shifts (8 * body.length + 31 - position) 1 := by
  have index : position / 8 < body.length := by omega
  have offset : position % 8 < 8 := Nat.mod_lt _ (by decide)
  rw [flipBit, Checksum.ofBody_modify index, shiftLeft_mask _ offset, ← Checksum.shifts_add]
  have total : 15 - position % 8 + (8 * (body.length - position / 8) + 16) =
      8 * body.length + 31 - position := by omega
  rw [total]

/-- A flipped bit of a carried checksum. -/
theorem carried_flipBit {trailer : List UInt8} (size : trailer.length = 2)
    (inside : position < 16) :
    carried (flipBit trailer position) =
      carried trailer ^^^
        Checksum.shifts (if position < 8 then 7 - position else 23 - position) 1 := by
  obtain ⟨low, high, rfl⟩ := eq_pair_of_length size
  by_cases lower : position < 8
  · have index : position / 8 = 0 := by omega
    have offset : position % 8 = position := by omega
    have same := Word.of16_xor low high (0x80 >>> UInt8.ofNat position) 0
    rw [flipBit, index, offset, if_pos lower, List.modify_zero_cons, ← (of16_mask _ lower).1]
    rwa [UInt8.xor_zero] at same
  · have index : position / 8 = 1 := by omega
    have offset : position % 8 < 8 := Nat.mod_lt _ (by decide)
    have total : 23 - position = 15 - position % 8 := by omega
    have same := Word.of16_xor low high 0 (0x80 >>> UInt8.ofNat (position % 8))
    rw [flipBit, index, if_neg lower, total, List.modify_succ_cons, List.modify_zero_cons,
      ← (of16_mask _ offset).2]
    rwa [UInt8.xor_zero] at same

/-- Flipping a bit keeps the length. -/
theorem length_flipBit (bytes : List UInt8) (position : Nat) :
    (flipBit bytes position).length = bytes.length := List.length_modify _ _ _

/-- So does flipping several. -/
theorem length_flipBits (positions : List Nat) (bytes : List UInt8) :
    (flipBits positions bytes).length = bytes.length := by
  induction positions generalizing bytes with
  | nil => rfl
  | cons position positions hypothesis =>
    exact (hypothesis (flipBit bytes position)).trans (length_flipBit bytes position)

/-- A flipped bit adds the power that it counts for to the syndrome. -/
theorem syndrome_flipBit (long : 2 ≤ bytes.length) (inside : position < 8 * bytes.length) :
    syndrome (flipBit bytes position) =
      syndrome bytes ^^^ Checksum.shifts (exponent bytes.length position) 1 := by
  obtain ⟨size, total⟩ : ∃ size, bytes.length = size + 2 := ⟨_, (Nat.sub_add_cancel long).symm⟩
  have body : (bytes.take size).length = size := List.length_take_of_le (by omega)
  have trailer : (bytes.drop size).length = 2 := by rw [List.length_drop]; omega
  have front := List.take_modify (· ^^^ (0x80 >>> UInt8.ofNat (position % 8))) (position / 8) size
    bytes
  rw [syndrome, length_flipBit, syndrome, total, checksumSize, Nat.add_sub_cancel]
  by_cases before : position < 8 * size
  · have back : (flipBit bytes position).drop size = bytes.drop size :=
      List.drop_modify_of_lt _ _ _ _ (by omega)
    have power : 8 * size + 31 - position = exponent (size + 2) position := by
      rw [exponent, Nat.add_sub_cancel, if_pos before]
      omega
    rw [back, flipBit, front, ← flipBit, ofBody_flipBit (by rw [body]; exact before), body, power]
    ac_rfl
  · have index : position - 8 * size < 16 := by omega
    have kept : (flipBit bytes position).take size = bytes.take size :=
      front.trans (List.modify_eq_self (by omega))
    have back : (flipBit bytes position).drop size =
        flipBit (bytes.drop size) (position - 8 * size) := by
      have whole : (position - 8 * size) / 8 = position / 8 - size := by omega
      have part : (position - 8 * size) % 8 = position % 8 := by omega
      rw [flipBit, flipBit, whole, part]
      exact List.drop_modify_of_ge _ _ _ _ (by omega)
    have power : (if position - 8 * size < 8 then 7 - (position - 8 * size)
        else 23 - (position - 8 * size)) = exponent (size + 2) position := by
      rw [exponent, Nat.add_sub_cancel, if_neg before]
      split <;> split <;> omega
    rw [kept, back, carried_flipBit trailer index, power]
    ac_rfl

/-- Flipped bits add the powers that they count for. -/
theorem syndrome_flipBits (long : 2 ≤ bytes.length)
    (inside : ∀ position ∈ positions, position < 8 * bytes.length) :
    syndrome (flipBits positions bytes) =
      syndrome bytes ^^^ Checksum.combine (positions.map (exponent bytes.length)) 1 := by
  induction positions generalizing bytes with
  | nil => exact UInt16.xor_zero.symm
  | cons position positions hypothesis =>
    obtain ⟨first, inside⟩ := List.forall_mem_cons.1 inside
    have size := length_flipBit bytes position
    have rest := hypothesis (size.symm ▸ long) (size.symm ▸ inside)
    rw [size, syndrome_flipBit long first] at rest
    rw [List.map_cons, Checksum.combine_cons, ← UInt16.xor_assoc]
    exact rest

/-! ## Damage shows -/

/-- Different bits count for different powers. -/
theorem exponent_injective {size other : Nat} (long : 2 ≤ size) (inside : position < 8 * size)
    (within : other < 8 * size) (same : exponent size position = exponent size other) :
    position = other := by
  unfold exponent at same
  (repeat' split at same) <;> omega

/-- The powers of damage do not cancel out where the checksum shows it. -/
theorem combine_ne_zero {size : Nat} (long : 2 ≤ size) (damage : Damage size positions)
    (shown : Shown size positions) :
    Checksum.combine (positions.map (exponent size)) 1 ≠ 0 := by
  have some : positions.map (exponent size) ≠ [] := fun none =>
    damage.some (List.map_eq_nil_iff.1 none)
  have distinct : (positions.map (exponent size)).Nodup :=
    List.pairwise_map.2 (damage.distinct.imp_of_mem fun left right different same =>
      different (exponent_injective long (damage.inside _ left) (damage.inside _ right) same))
  cases shown with
  | odd odd => exact Checksum.combine_ne_zero_of_odd (by rwa [List.length_map])
  | body first above within before =>
    have window : ∀ position ∈ positions, 8 * size - first ≤ exponent size position ∧
        exponent size position < 8 * size - first + 16 := by
      intro position member
      have := above position member
      have := within position member
      have front := before position member
      rw [checksumSize] at front
      rw [exponent, if_pos front]
      omega
    exact Checksum.combine_ne_zero_of_window some distinct
      (List.forall_mem_map.2 fun position member => (window position member).1)
      (List.forall_mem_map.2 fun position member => (window position member).2)
  | trailer behind =>
    have low : ∀ position ∈ positions, exponent size position < 0 + 16 := by
      intro position member
      have := damage.inside position member
      have back := behind position member
      rw [checksumSize] at back
      rw [exponent, if_neg (Nat.not_lt_of_le back)]
      split <;> omega
    exact Checksum.combine_ne_zero_of_window some distinct (fun _ _ => Nat.zero_le _)
      (List.forall_mem_map.2 low)
  | pair two short =>
    obtain ⟨first, second, rfl⟩ := eq_pair_of_length two
    have below : ∀ position, exponent size position < 32767 := by
      intro position
      rw [checksumSize] at short
      unfold exponent
      (repeat' split) <;> omega
    have different : exponent size first ≠ exponent size second := by
      simpa using distinct
    exact Checksum.combine_ne_zero_of_pair different (below first) (below second)

/-- An accepted frame with damage that its checksum shows is a mismatch, and no fault of any other
kind. -/
theorem parse_damaged (accepted : parse bytes = .ok frame)
    (damage : Damage bytes.length positions) (shown : Shown bytes.length positions) :
    ∃ carried computed,
      parse (flipBits positions bytes) = .error (.checksumMismatch carried computed) := by
  obtain ⟨long, clean⟩ := syndrome_of_parse accepted
  have two : 2 ≤ bytes.length := Nat.le_trans (by decide) long
  have size := length_flipBits positions bytes
  refine parse_of_syndrome (size.symm ▸ long) ?_
  rw [syndrome_flipBits two damage.inside, clean, UInt16.zero_xor]
  exact combine_ne_zero two damage shown

/-- Two flipped bits, one of which makes the length field lie, are a mismatch. -/
theorem parse_damaged_of_length :
    parse [0x54, 0xab, 0x05, 0x09, 0x02, 0x7f, 0x40, 0x0c, 0x26] =
        .ok { source := 5, destination := 9, payload := [0x7f, 0x40] } ∧
      flipBits [33, 46] [0x54, 0xab, 0x05, 0x09, 0x02, 0x7f, 0x40, 0x0c, 0x26] =
        [0x54, 0xab, 0x05, 0x09, 0x42, 0x7d, 0x40, 0x0c, 0x26] ∧
      ∃ carried computed,
        parse [0x54, 0xab, 0x05, 0x09, 0x42, 0x7d, 0x40, 0x0c, 0x26] =
          .error (.checksumMismatch carried computed) := by
  have accepted : parse [0x54, 0xab, 0x05, 0x09, 0x02, 0x7f, 0x40, 0x0c, 0x26] =
      .ok { source := 5, destination := 9, payload := [0x7f, 0x40] } :=
    parse_encode (encode_eq_ok.2 ⟨by decide, by decide, by decide +kernel⟩)
  have flipped : flipBits [33, 46] [0x54, 0xab, 0x05, 0x09, 0x02, 0x7f, 0x40, 0x0c, 0x26] =
      [0x54, 0xab, 0x05, 0x09, 0x42, 0x7d, 0x40, 0x0c, 0x26] := by decide +kernel
  have damage : Damage 9 [33, 46] := ⟨by decide, by decide, by decide⟩
  have shown : Shown 9 [33, 46] := .body 33 (by decide) (by decide) (by decide)
  have mismatch := parse_damaged accepted damage shown
  rw [flipped] at mismatch
  exact ⟨accepted, flipped, mismatch⟩

end Multidrop.Frame
