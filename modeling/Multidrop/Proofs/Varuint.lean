import Multidrop.Basic

/-!
# Numbers at the front of a byte list

Reading a number depends on the bytes of the number alone: bytes that follow them are neither
looked at nor needed (`decode_append`, `read_local`). What is written is read back as it was
(`read_encode`), and it has the size announced for it (`length_encode`). Padded numbers are read as
well, and written again in fewer bytes (`shortens_of_read`).
-/
namespace Multidrop

/-! ## Shortest forms -/

/-- What is written for the front of some bytes, up to a rest, takes no more room than the front, and
is the front itself where it takes no less. -/
structure Shortens (written bytes rest : List UInt8) : Prop where
  /-- It takes no more room. -/
  le : written.length + rest.length ≤ bytes.length
  /-- It is the front where it takes no less. -/
  eq : written.length + rest.length = bytes.length → bytes = written ++ rest

namespace Shortens

variable {written more bytes between rest : List UInt8}

/-- The front itself takes no more room. -/
theorem of_eq (same : bytes = written ++ rest) : Shortens written bytes rest := by
  have length : bytes.length = written.length + rest.length := by rw [same, List.length_append]
  exact ⟨Nat.le_of_eq length.symm, fun _ => same⟩

/-- What is written for two fronts in a row is written for both together. -/
theorem append (first : Shortens written bytes between) (second : Shortens more between rest) :
    Shortens (written ++ more) bytes rest := by
  have le := first.le
  have least := second.le
  refine ⟨by rw [List.length_append]; omega, fun same => ?_⟩
  rw [List.length_append] at same
  rw [List.append_assoc, ← second.eq (by omega)]
  exact first.eq (by omega)

end Shortens

namespace Varuint

/-! ## Bytes that follow -/

/-- Groups that were read, or found to be too long, stay so when more bytes follow. -/
theorem decodeFrom_append {place : Nat} {bytes : List UInt8} (more : List UInt8)
    (settled : decodeFrom place bytes ≠ .error .truncated) :
    decodeFrom place (bytes ++ more) = decodeFrom place bytes := by
  induction bytes generalizing place with
  | nil => exact absurd rfl settled
  | cons byte rest ih =>
    rw [List.cons_append]
    unfold decodeFrom at settled ⊢
    by_cases overlong : place + 1 = maxSize ∧ 0x0f < byte
    · rw [if_pos overlong, if_pos overlong]
    · rw [if_neg overlong] at settled ⊢
      rw [if_neg overlong]
      by_cases last : byte < 0x80
      · rw [if_pos last, if_pos last]
      · rw [if_neg last] at settled ⊢
        rw [if_neg last]
        have tail : decodeFrom (place + 1) rest ≠ .error .truncated := by
          intro truncated
          exact settled (by rw [truncated]; rfl)
        rw [ih tail]

/-- A number that was read, or found to be too long, stays so when more bytes follow. -/
theorem decode_append {bytes : List UInt8} (more : List UInt8)
    (settled : decode bytes ≠ .error .truncated) : decode (bytes ++ more) = decode bytes := by
  have groups : decodeFrom 0 bytes ≠ .error .truncated := by
    intro truncated
    exact settled (by rw [decode, truncated]; rfl)
  rw [decode, decode, decodeFrom_append more groups]

/-- Groups that were read are read as well with other bytes behind them. -/
theorem decodeFrom_take {place used value : Nat} {bytes : List UInt8} (other : List UInt8)
    (h : decodeFrom place bytes = .ok (value, used)) :
    decodeFrom place (bytes.take used ++ other) = .ok (value, used) := by
  induction bytes generalizing place value used with
  | nil => cases h
  | cons byte rest ih =>
    unfold decodeFrom at h
    by_cases overlong : place + 1 = maxSize ∧ 0x0f < byte
    · rw [if_pos overlong] at h
      cases h
    · rw [if_neg overlong] at h
      by_cases last : byte < 0x80
      · rw [if_pos last] at h
        cases h
        rw [List.take_succ_cons, List.cons_append, decodeFrom, if_neg overlong, if_pos last]
      · rw [if_neg last] at h
        cases tail : decodeFrom (place + 1) rest with
        | error error =>
          rw [tail] at h
          cases h
        | ok found =>
          obtain ⟨high, count⟩ := found
          rw [tail] at h
          cases h
          rw [List.take_succ_cons, List.cons_append, decodeFrom, if_neg overlong, if_neg last,
            ih tail]
          rfl

/-- A number that was read occupies bytes that are there, and is read as well in front of others. -/
theorem read_of_decode {bytes : List UInt8} {value : UInt32} {used : Nat}
    (h : decode bytes = .ok (value, used)) :
    0 < used ∧ used ≤ bytes.length ∧
      ∀ other, read (bytes.take used ++ other) = .ok (value, other) := by
  unfold decode at h
  cases groups : decodeFrom 0 bytes with
  | error error =>
    rw [groups] at h
    cases h
  | ok found =>
    obtain ⟨number, count⟩ := found
    rw [groups] at h
    cases h
    obtain ⟨some, inside⟩ := decodeFrom_used groups
    refine ⟨some, inside, fun other => ?_⟩
    rw [read, decode, decodeFrom_take other groups]
    have size : (bytes.take used).length = used := List.length_take_of_le inside
    simp only [bind, Except.bind]
    rw [List.drop_left' size]

/-- A number that was read is decoded in front of any bytes, from the bytes that reading split off. -/
theorem decode_of_read {bytes rest : List UInt8} {value : UInt32} (more : List UInt8)
    (h : read bytes = .ok (value, rest)) :
    ∃ used, decode (bytes ++ more) = .ok (value, used) ∧ used ≤ bytes.length ∧
      bytes.drop used = rest := by
  obtain ⟨⟨number, used⟩, decoded, same⟩ := bind_eq_ok.1 h
  cases same
  have settled : decode bytes ≠ .error .truncated := by
    rw [decoded]
    nofun
  have inside := (read_of_decode decoded).2.1
  exact ⟨used, (decode_append more settled).trans decoded, inside, rfl⟩

/-- A number that was read is split off its bytes, and is read as well in front of others. -/
theorem read_local {bytes rest : List UInt8} {value : UInt32} (h : read bytes = .ok (value, rest)) :
    ∃ used, bytes = used ++ rest ∧ ∀ other, read (used ++ other) = .ok (value, other) := by
  unfold read at h
  cases length : decode bytes with
  | error error =>
    rw [length] at h
    cases h
  | ok found =>
    obtain ⟨number, count⟩ := found
    rw [length] at h
    cases h
    exact ⟨bytes.take count, (List.take_append_drop count bytes).symm, (read_of_decode length).2.2⟩

/-! ## Written numbers -/

/-- The low seven bits of a byte survive the mark of a byte that is followed by others. -/
theorem toNat_or_mark (byte : UInt8) : (byte ||| 0x80).toNat % 128 = byte.toNat % 128 := by
  rw [UInt8.toNat_or]
  have cut := @Nat.or_mod_two_pow byte.toNat (0x80 : UInt8).toNat 7
  simpa using cut

/-- A marked byte is no last byte. -/
theorem le_or_mark (byte : UInt8) : ¬(byte ||| 0x80) < 0x80 := by
  rw [UInt8.lt_iff_toNat_lt, UInt8.toNat_or]
  have high : (0x80 : UInt8).toNat ≤ byte.toNat ||| (0x80 : UInt8).toNat := Nat.right_le_or
  omega

/-- Leaving out the lowest group divides by its weight. -/
theorem toNat_shiftRight_seven (value : UInt32) : (value >>> 7).toNat = value.toNat / 128 := by
  rw [UInt32.toNat_shiftRight, Nat.shiftRight_eq_div_pow]
  rfl

/-- A marked byte does not stand in the last place, where it would carry too much. -/
theorem place_lt_of_marked {place : Nat} {byte : UInt8} (known : place < maxSize)
    (fits : ¬(place + 1 = maxSize ∧ 0x0f < byte)) (marked : ¬byte < 0x80) : place + 1 < maxSize := by
  apply Nat.lt_of_le_of_ne known
  intro last
  exact fits ⟨last, UInt8.lt_of_lt_of_le (by decide) (UInt8.not_lt.1 marked)⟩

/-- A place has room for one group more than the next one. -/
theorem bound_place {place : Nat} (before : place + 1 < maxSize) :
    Word.bound (32 - 7 * place) = Word.bound (32 - 7 * (place + 1)) * 128 := by
  rw [maxSize] at before
  rw [show 32 - 7 * place = 32 - 7 * (place + 1) + 7 by omega]
  exact Nat.pow_add 2 _ 7

/-- Written groups that fit into the places that are left are read back. -/
theorem decodeFrom_encode {place : Nat} {value : UInt32} (rest : List UInt8)
    (known : place < maxSize) (fits : value.toNat < Word.bound (32 - 7 * place)) :
    decodeFrom place (encode value ++ rest) = .ok (value.toNat, (encode value).length) := by
  fun_induction encode value generalizing place with
  | case1 value small =>
    have low : value.toNat < 128 := small
    have byte : value.toUInt8.toNat = value.toNat := by
      rw [UInt32.toNat_toUInt8]
      exact Nat.mod_eq_of_lt (by omega)
    have inside : ¬(place + 1 = maxSize ∧ 0x0f < value.toUInt8) := by
      rintro ⟨last, large⟩
      have fifth : place = 4 := by simpa [maxSize] using last
      subst fifth
      have above : 15 < value.toUInt8.toNat := large
      have room : value.toNat < 16 := fits
      omega
    have final : value.toUInt8 < 0x80 := by
      rw [UInt8.lt_iff_toNat_lt, byte]
      exact low
    rw [List.singleton_append, decodeFrom, if_neg inside, if_pos final, byte]
    rfl
  | case2 value large ih =>
    have big : 128 ≤ value.toNat := Nat.le_of_not_lt large
    -- A fifth group has four bits, so no group follows it.
    have before : place + 1 < maxSize := by
      apply Nat.lt_of_le_of_ne known
      intro last
      have fifth : place = 4 := by simpa [maxSize] using last
      subst fifth
      have room : value.toNat < 16 := fits
      omega
    have tail : (value >>> 7).toNat < Word.bound (32 - 7 * (place + 1)) := by
      rw [toNat_shiftRight_seven, Nat.div_lt_iff_lt_mul (by decide)]
      have weight := bound_place before
      omega
    have group : (value.toUInt8 ||| 0x80).toNat % 128 = value.toNat % 128 := by
      rw [toNat_or_mark, UInt32.toNat_toUInt8]
      omega
    have inside : ¬(place + 1 = maxSize ∧ 0x0f < value.toUInt8 ||| 0x80) :=
      fun overlong => absurd overlong.1 (Nat.ne_of_lt before)
    rw [List.cons_append, decodeFrom, if_neg inside, if_neg (le_or_mark _), ih before tail]
    simp only [bind, Except.bind, group, toNat_shiftRight_seven, List.length_cons]
    rw [Nat.mod_add_div]

/-- A written number is read back, with the bytes that follow it. -/
theorem read_encode (value : UInt32) (rest : List UInt8) :
    read (encode value ++ rest) = .ok (value, rest) := by
  have groups := @decodeFrom_encode 0 value rest (by decide) value.toNat_lt
  rw [read, decode, groups]
  simp only [bind, Except.bind, UInt32.ofNat_toNat]
  rw [List.drop_left' rfl]

/-- A number of more than one group takes one byte more than what is left without the first. -/
theorem size_shiftRight {value : UInt32} (large : ¬value < 0x80) :
    size value = size (value >>> 7) + 1 := by
  have high := toNat_shiftRight_seven value
  have word := value.toNat_lt
  simp only [size, UInt32.lt_iff_toNat_lt, high, UInt32.reduceToNat] at large ⊢
  repeat' split
  all_goals omega

/-- A written number has the size announced for it. -/
theorem length_encode (value : UInt32) : (encode value).length = size value := by
  fun_induction encode value with
  | case1 value small => rw [size, if_pos small]; rfl
  | case2 value large ih => rw [List.length_cons, ih, size_shiftRight large]

/-- No number is written without bytes. -/
theorem size_pos (value : UInt32) : 0 < size value := by
  unfold size
  repeat' split
  all_goals decide

/-- No number takes more than five bytes. -/
theorem size_le (value : UInt32) : size value ≤ maxSize := by
  unfold size
  repeat' split
  all_goals decide

/-! ## Sizes -/

/-- A larger number takes no fewer bytes. -/
theorem size_mono {small large : UInt32} (less : small ≤ large) : size small ≤ size large := by
  rw [UInt32.le_iff_toNat_le] at less
  simp only [size, UInt32.lt_iff_toNat_lt, UInt32.reduceToNat]
  repeat' split
  all_goals omega

/-- A number takes as many bytes as it has groups of seven bits, or fewer. -/
theorem size_le_of_lt {value : UInt32} {count : Nat} (some : 0 < count)
    (small : value.toNat < Nat.pow 128 count) : size value ≤ count := by
  by_cases few : count < maxSize
  · have all : count = 1 ∨ count = 2 ∨ count = 3 ∨ count = 4 := by
      rw [maxSize] at few
      omega
    simp only [size, UInt32.lt_iff_toNat_lt, UInt32.reduceToNat]
    rcases all with rfl | rfl | rfl | rfl <;> (repeat' split) <;> omega
  · exact Nat.le_trans (size_le value) (Nat.le_of_not_lt few)

/-- Groups that were read make up a number that needs no more of them. -/
theorem decodeFrom_lt {place value used : Nat} {bytes : List UInt8}
    (found : decodeFrom place bytes = .ok (value, used)) : value < Nat.pow 128 used := by
  induction bytes generalizing place value used with
  | nil => cases found
  | cons byte rest ih =>
    unfold decodeFrom at found
    by_cases overlong : place + 1 = maxSize ∧ 0x0f < byte
    · rw [if_pos overlong] at found
      cases found
    · rw [if_neg overlong] at found
      by_cases last : byte < 0x80
      · rw [if_pos last] at found
        cases found
        exact last
      · rw [if_neg last] at found
        cases tail : decodeFrom (place + 1) rest with
        | error error =>
          rw [tail] at found
          cases found
        | ok pair =>
          obtain ⟨high, count⟩ := pair
          rw [tail] at found
          cases found
          have above := ih tail
          have grown : Nat.pow 128 (count + 1) = Nat.pow 128 count * 128 := rfl
          omega

/-- A number that was read takes no more bytes when it is written again. -/
theorem size_le_of_read {bytes rest : List UInt8} {value : UInt32}
    (found : read bytes = .ok (value, rest)) : size value + rest.length ≤ bytes.length := by
  unfold read decode at found
  cases groups : decodeFrom 0 bytes with
  | error error =>
    rw [groups] at found
    cases found
  | ok pair =>
    obtain ⟨number, count⟩ := pair
    rw [groups] at found
    cases found
    obtain ⟨some, inside⟩ := decodeFrom_used groups
    have below : (UInt32.ofNat number).toNat < Nat.pow 128 count :=
      Nat.lt_of_le_of_lt (Nat.mod_le _ _) (decodeFrom_lt groups)
    have size := size_le_of_lt some below
    rw [List.length_drop]
    omega

/-! ## Padded numbers -/

/-- Groups that were read make up a number that fits into the places that are left. -/
theorem decodeFrom_fits {place value used : Nat} {bytes : List UInt8} (known : place < maxSize)
    (found : decodeFrom place bytes = .ok (value, used)) :
    value < Word.bound (32 - 7 * place) := by
  induction bytes generalizing place value used with
  | nil => cases found
  | cons byte rest ih =>
    unfold decodeFrom at found
    by_cases overlong : place + 1 = maxSize ∧ 0x0f < byte
    · rw [if_pos overlong] at found
      cases found
    · rw [if_neg overlong] at found
      rw [maxSize] at known overlong
      have fifth : place + 1 = 5 → byte.toNat ≤ 15 :=
        fun last => Nat.le_of_not_lt fun large => overlong ⟨last, large⟩
      by_cases last : byte < 0x80
      · rw [if_pos last] at found
        cases found
        have low : byte.toNat < 128 := last
        have all : place = 0 ∨ place = 1 ∨ place = 2 ∨ place = 3 ∨ place = 4 := by omega
        rcases all with rfl | rfl | rfl | rfl | rfl <;> simp [Word.bound] <;> omega
      · rw [if_neg last] at found
        cases tail : decodeFrom (place + 1) rest with
        | error error =>
          rw [tail] at found
          cases found
        | ok pair =>
          obtain ⟨high, count⟩ := pair
          rw [tail] at found
          cases found
          have marked : 128 ≤ byte.toNat := Nat.le_of_not_lt last
          have before := place_lt_of_marked known overlong last
          have above := ih before tail
          have weight := bound_place before
          omega

/-- Groups that were read make up a word. -/
theorem toNat_of_decodeFrom {place value used : Nat} {bytes : List UInt8} (known : place < maxSize)
    (found : decodeFrom place bytes = .ok (value, used)) : (UInt32.ofNat value).toNat = value := by
  rw [UInt32.toNat_ofNat']
  apply Nat.mod_eq_of_lt
  exact Nat.lt_of_lt_of_le (decodeFrom_fits known found)
    (Nat.pow_le_pow_right (by decide) (Nat.sub_le 32 _))

/-- Groups that were read, no more of them than are written for their number, are the written
ones. -/
theorem take_eq_encode {place value used : Nat} {bytes : List UInt8} (known : place < maxSize)
    (found : decodeFrom place bytes = .ok (value, used)) (least : size (.ofNat value) = used) :
    bytes.take used = encode (.ofNat value) := by
  have word := toNat_of_decodeFrom known found
  induction bytes generalizing place value used with
  | nil => cases found
  | cons byte rest ih =>
    unfold decodeFrom at found
    by_cases overlong : place + 1 = maxSize ∧ 0x0f < byte
    · rw [if_pos overlong] at found
      cases found
    · rw [if_neg overlong] at found
      by_cases last : byte < 0x80
      · rw [if_pos last] at found
        cases found
        have small : UInt32.ofNat byte.toNat < 0x80 := by
          rw [UInt32.lt_iff_toNat_lt, word]
          exact last
        have same : (UInt32.ofNat byte.toNat).toUInt8 = byte := by
          apply UInt8.toNat_inj.1
          rw [UInt32.toNat_toUInt8, word]
          exact Nat.mod_eq_of_lt byte.toNat_lt
        rw [encode, if_pos small, same, List.take_succ_cons, List.take_zero]
      · rw [if_neg last] at found
        cases tail : decodeFrom (place + 1) rest with
        | error error =>
          rw [tail] at found
          cases found
        | ok pair =>
          obtain ⟨high, count⟩ := pair
          rw [tail] at found
          cases found
          have marked : 128 ≤ byte.toNat := Nat.le_of_not_lt last
          have before := place_lt_of_marked known overlong last
          have some := (decodeFrom_used tail).1
          have large : ¬UInt32.ofNat (byte.toNat % 128 + 128 * high) < 0x80 := by
            intro small
            rw [size, if_pos small] at least
            omega
          have shifted : UInt32.ofNat (byte.toNat % 128 + 128 * high) >>> 7 = .ofNat high := by
            apply UInt32.toNat_inj.1
            rw [toNat_shiftRight_seven, word, toNat_of_decodeFrom before tail]
            omega
          have group : (UInt32.ofNat (byte.toNat % 128 + 128 * high)).toUInt8 ||| 0x80 = byte := by
            -- Both are marked, and they agree in the bits below the mark.
            have low := toNat_or_mark (UInt32.ofNat (byte.toNat % 128 + 128 * high)).toUInt8
            have above := le_or_mark (UInt32.ofNat (byte.toNat % 128 + 128 * high)).toUInt8
            rw [UInt32.toNat_toUInt8, word] at low
            apply UInt8.toNat_inj.1
            have byteSize := byte.toNat_lt
            have size := ((UInt32.ofNat (byte.toNat % 128 + 128 * high)).toUInt8 ||| 0x80).toNat_lt
            rw [UInt8.lt_iff_toNat_lt] at above
            simp only [UInt8.reduceToNat] at above
            omega
          rw [size_shiftRight large, shifted] at least
          have later := ih before tail (by omega) (toNat_of_decodeFrom before tail)
          rw [encode, if_neg large, group, shifted, List.take_succ_cons, later]

/-- What is written for a number that was read takes no more room. -/
theorem shortens_of_read {bytes rest : List UInt8} {value : UInt32}
    (found : read bytes = .ok (value, rest)) : Shortens (encode value) bytes rest := by
  refine ⟨by rw [length_encode]; exact size_le_of_read found, fun same => ?_⟩
  rw [length_encode] at same
  unfold read decode at found
  cases groups : decodeFrom 0 bytes with
  | error error =>
    rw [groups] at found
    cases found
  | ok pair =>
    obtain ⟨number, count⟩ := pair
    rw [groups] at found
    cases found
    obtain ⟨_, inside⟩ := decodeFrom_used groups
    rw [List.length_drop] at same
    rw [← take_eq_encode (by decide) groups (by omega), List.take_append_drop]

end Varuint

end Multidrop
