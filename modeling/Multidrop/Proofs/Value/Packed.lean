import Multidrop.Proofs.Word
import Multidrop.Value

/-!
# Values and runs of values in bytes

A value is read back from its bytes, whatever follows them, and reading looks at no other byte. What
was read is what would be written for it (`Value.eq_encode_of_read`, `Packed.eq_bytes_of_read`). A
run that was packed value by value unpacks to these values.
-/
namespace Multidrop

namespace Value

/-- A written value is read back, with the bytes that follow it. -/
theorem read_encode (value : Value) (rest : List UInt8) :
    read value.kind (value.encode ++ rest) = some (value, rest) := by
  cases value with
  | int8 value =>
    show some (Value.int8 value.toUInt8.toInt8, rest) = _
    rw [Int8.toInt8_toUInt8]
  | int16 value =>
    show some (Value.int16 (Word.of16 _ _).toInt16, rest) = _
    rw [Word.of16_bytes, Int16.toInt16_toUInt16]
  | int32 value =>
    show some (Value.int32 (Word.of32 _ _ _ _).toInt32, rest) = _
    rw [Word.of32_bytes, Int32.toInt32_toUInt32]
  | float word =>
    show some (Value.float (Word.of32 _ _ _ _), rest) = _
    rw [Word.of32_bytes]

/-- A value that was read is split off its bytes, and is read as well in front of others. -/
theorem read_local {kind : Kind} {bytes rest : List UInt8} {value : Value}
    (found : read kind bytes = some (value, rest)) :
    ∃ used, bytes = used ++ rest ∧ ∀ other, read kind (used ++ other) = some (value, other) := by
  unfold read at found
  split at found <;> cases found
  case h_1 first => exact ⟨[first], rfl, fun _ => rfl⟩
  case h_2 first second => exact ⟨[first, second], rfl, fun _ => rfl⟩
  case h_3 first second third fourth => exact ⟨[first, second, third, fourth], rfl, fun _ => rfl⟩
  case h_4 first second third fourth => exact ⟨[first, second, third, fourth], rfl, fun _ => rfl⟩

/-- A value that was read is what is written for it. -/
theorem eq_encode_of_read {kind : Kind} {bytes rest : List UInt8} {value : Value}
    (found : read kind bytes = some (value, rest)) : bytes = value.encode ++ rest := by
  unfold read at found
  split at found <;> cases found
  · rw [encode, UInt8.toUInt8_toInt8]
    rfl
  · rw [encode, UInt16.toUInt16_toInt16, Word.bytes16_of16]
    rfl
  · rw [encode, UInt32.toUInt32_toInt32, Word.bytes32_of32]
    rfl
  · rw [encode, Word.bytes32_of32]
    rfl

end Value

namespace Packed

/-- Bytes that begin with a value unpack to it and the values behind it. -/
theorem unpack_of_read {kind : Kind} {bytes rest : List UInt8} {value : Value}
    (found : Value.read kind bytes = some (value, rest)) :
    unpack kind bytes = value :: unpack kind rest := by
  rw [unpack]
  split <;> rename_i other <;> rw [found] at other <;> cases other
  rfl

/-- No bytes hold no value. -/
theorem unpack_nil (kind : Kind) : unpack kind [] = [] := by
  rw [unpack]
  split
  · rfl
  · rename_i found
    have enough := (Value.read_eq_some found).2.1
    have positive := kind.size_pos
    rw [List.length_nil] at enough
    omega

/-- A value behind whole values is unpacked behind them. -/
theorem unpack_append {kind : Kind} {bytes : List UInt8} (value : Value)
    (same : value.kind = kind) (whole : bytes.length % kind.size = 0) :
    unpack kind (bytes ++ value.encode) = unpack kind bytes ++ [value] := by
  induction left : bytes.length using Nat.strongRecOn generalizing bytes with
  | ind count ih =>
    by_cases none : bytes = []
    · have read := Value.read_encode value []
      rw [same, List.append_nil] at read
      rw [none, List.nil_append, unpack_of_read read, unpack_nil, List.nil_append]
    · have some := List.length_pos_iff.2 none
      have positive := kind.size_pos
      have enough : kind.size ≤ bytes.length := by
        apply Nat.le_of_not_lt
        intro short
        rw [Nat.mod_eq_of_lt short] at whole
        omega
      obtain ⟨first, read⟩ := Value.exists_read_of_le enough
      obtain ⟨used, split, elsewhere⟩ := Value.read_local read
      have longer : Value.read kind (bytes ++ value.encode) =
          .some (first, bytes.drop kind.size ++ value.encode) := by
        conv => lhs; rw [split, List.append_assoc]
        exact elsewhere _
      have rest : (bytes.drop kind.size).length % kind.size = 0 := by
        rw [List.length_drop, ← Nat.mod_eq_sub_mod enough]
        exact whole
      have shorter : (bytes.drop kind.size).length < count := by
        rw [List.length_drop]
        omega
      rw [unpack_of_read longer, unpack_of_read read, ih _ shorter rest rfl, List.cons_append]

/-- A run of one value holds that value. -/
@[simp]
theorem values_single (value : Value) : (single value).values = [value] := by
  have alone := @unpack_append value.kind [] value rfl (Nat.zero_mod _)
  rw [unpack_nil, List.nil_append] at alone
  exact alone

/-- A value that is added comes behind the others. -/
@[simp]
theorem values_push (packed : Packed) (value : Value) (same : value.kind = packed.kind) :
    (packed.push value same).values = packed.values ++ [value] :=
  unpack_append value same packed.whole

/-- A run of one value counts one. -/
@[simp]
theorem count_single (value : Value) : (single value).count = 1 := by
  rw [count, single, Value.length_encode]
  exact Nat.div_self value.kind.size_pos

/-- A value that is added counts. -/
@[simp]
theorem count_push (packed : Packed) (value : Value) (same : value.kind = packed.kind) :
    (packed.push value same).count = packed.count + 1 := by
  rw [count, count, push, List.length_append, Value.length_encode, same]
  exact Nat.add_div_right _ packed.kind.size_pos

/-- A run is read back from its bytes and its count, with the bytes that follow it. -/
theorem read_bytes (packed : Packed) (rest : List UInt8) :
    read packed.kind packed.count (packed.bytes ++ rest) = some (packed, rest) := by
  have size : packed.count * packed.kind.size = packed.bytes.length :=
    Nat.div_mul_cancel (Nat.dvd_of_mod_eq_zero packed.whole)
  have enough : packed.count * packed.kind.size ≤ (packed.bytes ++ rest).length := by
    rw [size, List.length_append]
    exact Nat.le_add_right _ _
  have front : (packed.bytes ++ rest).take (packed.count * packed.kind.size) = packed.bytes :=
    List.take_left' size.symm
  have back : (packed.bytes ++ rest).drop (packed.count * packed.kind.size) = rest :=
    List.drop_left' size.symm
  rw [read, dif_pos enough]
  simp only [front, back]

/-- A run that was read is split off its bytes, and is read as well in front of others. -/
theorem read_local {kind : Kind} {count : Nat} {bytes rest : List UInt8} {packed : Packed}
    (found : read kind count bytes = some (packed, rest)) :
    ∃ used, bytes = used ++ rest ∧
      ∀ other, read kind count (used ++ other) = some (packed, other) := by
  unfold read at found
  by_cases enough : count * kind.size ≤ bytes.length
  · rw [dif_pos enough] at found
    cases found
    have size : (bytes.take (count * kind.size)).length = count * kind.size :=
      List.length_take_of_le enough
    refine ⟨bytes.take (count * kind.size), (List.take_append_drop _ bytes).symm, ?_⟩
    intro other
    have fits : count * kind.size ≤ (bytes.take (count * kind.size) ++ other).length := by
      rw [List.length_append, size]
      exact Nat.le_add_right _ _
    rw [read, dif_pos fits]
    simp only [List.take_left' size, List.drop_left' size]
  · rw [dif_neg enough] at found
    cases found

/-- A run that was read has the kind and the count that were asked for, and is what is written for
it. -/
theorem eq_bytes_of_read {kind : Kind} {count : Nat} {bytes rest : List UInt8}
    {packed : Packed} (found : read kind count bytes = some (packed, rest)) :
    packed.kind = kind ∧ packed.count = count ∧ bytes = packed.bytes ++ rest := by
  unfold read at found
  by_cases enough : count * kind.size ≤ bytes.length
  · rw [dif_pos enough] at found
    cases found
    refine ⟨rfl, ?_, (List.take_append_drop _ bytes).symm⟩
    rw [Packed.count, List.length_take_of_le enough]
    exact Nat.mul_div_cancel count kind.size_pos
  · rw [dif_neg enough] at found
    cases found


end Packed

end Multidrop
