import Multidrop.Basic
import Multidrop.Proofs.Varuint

/-!
# How numbers are spelled

A field of bytes spells a number (`Spells`) if every byte but the last is marked, there are no more
than five bytes, a fifth one is at most `0x0f`, and the bytes without their marks are the digits of
the number in base 128. Reading accepts exactly the numbers that are spelled at the front of the
bytes (`read_eq_ok_iff`), and writing picks the shortest spelling (`shortest_iff`).
-/
namespace Multidrop.Varuint

/-- The number whose digits in base 128 are the low seven bits of the bytes, least significant digit
first. -/
def digits : List UInt8 → Nat
  | [] => 0
  | byte :: rest => byte.toNat % 128 + 128 * digits rest

/-- A field spells a number. The field need not be the shortest that does. -/
structure Spells (field : List UInt8) (number : Nat) : Prop where
  /-- Every byte but the last is marked. -/
  marks : ∃ front last, field = front ++ [last] ∧ (∀ byte ∈ front, 0x80 ≤ byte) ∧ last < 0x80
  /-- There are no more than five bytes. -/
  short : field.length ≤ 5
  /-- A fifth byte carries no more than the four bits that are left for it. -/
  fifth : ∀ byte, field[4]? = some byte → byte ≤ 0x0f
  /-- The bytes are the digits of the number. -/
  number : digits field = number

/-- A field is the shortest that spells its number. -/
def Shortest (field : List UInt8) : Prop :=
  ∀ other number, Spells field number → Spells other number → field.length ≤ other.length

variable {field bytes rest : List UInt8} {value : UInt32} {number : Nat}

/-! ## One group after another -/

/-- One byte without a mark is the only digit of a number. -/
theorem digits_singleton {last : UInt8} (small : last < 0x80) : digits [last] = last.toNat :=
  Nat.mod_eq_of_lt small

/-- Marked bytes and one without a mark are read as the groups from a place on if there is a place
for each of them, and a byte in the last place carries no more than four bits. -/
theorem decodeFrom_of_marks {place : Nat} {front : List UInt8} {last : UInt8}
    (marks : ∀ byte ∈ front, 0x80 ≤ byte) (small : last < 0x80)
    (inside : place + front.length < maxSize)
    (carries : place + front.length + 1 = maxSize → last ≤ 0x0f) (rest : List UInt8) :
    decodeFrom place (front ++ last :: rest) =
      .ok (digits (front ++ [last]), front.length + 1) := by
  induction front generalizing place with
  | nil =>
    have fits : ¬(place + 1 = maxSize ∧ 0x0f < last) :=
      fun overlong => UInt8.not_lt.2 (carries overlong.1) overlong.2
    rw [List.nil_append, List.nil_append, decodeFrom, if_neg fits, if_pos small,
      digits_singleton small]
    rfl
  | cons byte front ih =>
    rw [List.length_cons] at inside carries
    have marked := marks byte List.mem_cons_self
    have before : ¬(place + 1 = maxSize ∧ 0x0f < byte) := fun overlong => by
      have last := overlong.1
      omega
    have tail := @ih (place + 1) (fun other there => marks other (List.mem_cons_of_mem byte there))
      (by omega) (fun fifth => carries (by omega))
    rw [List.cons_append, decodeFrom, if_neg before, if_neg (UInt8.not_lt.2 marked), tail]
    rfl

/-- Groups that are read from a place on are marked bytes and one without a mark. There is a place
for each of them, and a byte in the last place carries no more than four bits. -/
theorem marks_of_decodeFrom {place value used : Nat} (known : place < maxSize)
    (found : decodeFrom place bytes = .ok (value, used)) :
    ∃ front last rest, bytes = front ++ last :: rest ∧ (∀ byte ∈ front, 0x80 ≤ byte) ∧
      last < 0x80 ∧ place + front.length < maxSize ∧
      (place + front.length + 1 = maxSize → last ≤ 0x0f) := by
  induction bytes generalizing place value used with
  | nil => cases found
  | cons byte bytes ih =>
    unfold decodeFrom at found
    by_cases overlong : place + 1 = maxSize ∧ 0x0f < byte
    · rw [if_pos overlong] at found
      cases found
    · rw [if_neg overlong] at found
      have carries (fifth : place + 1 = maxSize) : byte ≤ 0x0f :=
        UInt8.not_lt.1 fun large => overlong ⟨fifth, large⟩
      by_cases final : byte < 0x80
      · exact ⟨[], byte, bytes, rfl, by simp, final, known, carries⟩
      · rw [if_neg final] at found
        obtain ⟨⟨high, count⟩, tail, -⟩ := bind_eq_ok.1 found
        have before := place_lt_of_marked known overlong final
        obtain ⟨front, last, rest, rfl, marks, small, inside, fits⟩ := ih before tail
        refine ⟨byte :: front, last, rest, rfl, ?_, small, ?_, fun fifth => fits ?_⟩
        · exact List.forall_mem_cons.2 ⟨UInt8.not_lt.1 final, marks⟩
        · rw [List.length_cons]
          omega
        · rw [List.length_cons] at fifth
          omega

/-- Groups that are read from a place on leave no place beyond the last. -/
theorem used_le_of_decodeFrom {place value used : Nat} (known : place < maxSize)
    (found : decodeFrom place bytes = .ok (value, used)) : place + used ≤ maxSize := by
  obtain ⟨front, last, rest, rfl, marks, small, inside, carries⟩ := marks_of_decodeFrom known found
  have spelled := decodeFrom_of_marks marks small inside carries rest
  have same : used = front.length + 1 := by
    rw [found] at spelled
    injection spelled with pair
    exact congrArg Prod.snd pair
  omega

/-- More bytes are needed exactly where every byte is marked and there is a place left. -/
theorem decodeFrom_eq_truncated_iff {place : Nat} (known : place < maxSize) :
    decodeFrom place bytes = .error .truncated ↔
      place + bytes.length < maxSize ∧ ∀ byte ∈ bytes, 0x80 ≤ byte := by
  induction bytes generalizing place with
  | nil => simp [decodeFrom, known]
  | cons byte rest ih =>
    unfold decodeFrom
    rw [List.length_cons, List.forall_mem_cons]
    by_cases overlong : place + 1 = maxSize ∧ 0x0f < byte
    · rw [if_pos overlong]
      have full : ¬place + (rest.length + 1) < maxSize := by omega
      simp [full]
    · rw [if_neg overlong]
      by_cases last : byte < 0x80
      · rw [if_pos last]
        have unmarked : ¬0x80 ≤ byte := UInt8.not_le.2 last
        simp [unmarked]
      · rw [if_neg last]
        have marked : 0x80 ≤ byte := UInt8.not_lt.1 last
        have tail := ih (place_lt_of_marked known overlong last)
        have places : place + 1 + rest.length = place + (rest.length + 1) := by omega
        rw [places] at tail
        rw [and_iff_right marked, ← tail]
        cases decodeFrom (place + 1) rest <;> simp [bind, Except.bind]

/-! ## Spelled numbers -/

/-- A spelled number is read in front of any bytes. -/
theorem Spells.decodeFrom_append (spelled : Spells field number) (rest : List UInt8) :
    decodeFrom 0 (field ++ rest) = .ok (number, field.length) := by
  obtain ⟨⟨front, last, rfl, marks, small⟩, short, fifth, rfl⟩ := spelled
  rw [List.length_append, List.length_singleton] at short
  have inside : 0 + front.length < maxSize := by
    rw [maxSize]
    omega
  have carries (whole : 0 + front.length + 1 = maxSize) : last ≤ 0x0f := by
    apply fifth
    have place : front.length = 4 := by
      rw [maxSize] at whole
      omega
    rw [← place, List.getElem?_concat_length]
  rw [List.append_assoc, List.singleton_append, List.length_append, List.length_singleton]
  exact decodeFrom_of_marks marks small inside carries rest

/-- A spelled number fits in a word. -/
theorem Spells.lt_bound (spelled : Spells field number) : number < Word.bound 32 :=
  decodeFrom_fits (by decide) (spelled.decodeFrom_append [])

/-- A number is read exactly when it is spelled at the front of the bytes. -/
theorem read_eq_ok_iff :
    read bytes = .ok (value, rest) ↔
      ∃ field, bytes = field ++ rest ∧ Spells field value.toNat := by
  constructor
  · intro found
    simp only [read, decode, bind_eq_ok] at found
    obtain ⟨⟨word, used⟩, ⟨⟨number, count⟩, groups, same⟩, found⟩ := found
    cases same
    cases found
    obtain ⟨front, last, rest, rfl, marks, small, inside, carries⟩ :=
      marks_of_decodeFrom (by decide) groups
    have spelled := decodeFrom_of_marks marks small inside carries rest
    rw [groups] at spelled
    cases spelled
    rw [maxSize] at inside carries
    have size : (front ++ [last]).length = front.length + 1 := List.length_append
    refine ⟨front ++ [last], ?_, ⟨front, last, rfl, marks, small⟩, by omega, ?_,
      (toNat_of_decodeFrom (by decide) groups).symm⟩
    · rw [List.append_cons, List.drop_left' size]
    · intro byte fifth
      have place : 4 < (front ++ [last]).length := (List.getElem?_eq_some_iff.1 fifth).1
      have whole : front.length = 4 := by omega
      rw [← whole, List.getElem?_concat_length] at fifth
      cases fifth
      exact carries (by omega)
  · rintro ⟨field, rfl, spelled⟩
    rw [read, decode, spelled.decodeFrom_append rest]
    simp only [bind, Except.bind, UInt32.ofNat_toNat, List.drop_left]

/-! ## Shortest spellings -/

/-- What is written for a number spells it. -/
theorem spells_encode (value : UInt32) : Spells (encode value) value.toNat := by
  obtain ⟨field, same, spelled⟩ := read_eq_ok_iff.1 (read_encode value [])
  rw [List.append_nil, List.append_nil] at same
  exact same ▸ spelled

/-- The spelling that is written is the shortest one of its number. -/
theorem shortest_iff (spelled : Spells field value.toNat) :
    Shortest field ↔ field = encode value := by
  have shorten {other : List UInt8} (found : Spells other value.toNat) :
      Shortens (encode value) other [] :=
    shortens_of_read (read_eq_ok_iff.2 ⟨other, (List.append_nil other).symm, found⟩)
  constructor
  · intro shortest
    have least := shortest (encode value) value.toNat spelled (spells_encode value)
    have fewest := (shorten spelled).le
    rw [List.length_nil] at fewest
    have same := (shorten spelled).eq (by rw [List.length_nil]; omega)
    rwa [List.append_nil] at same
  · rintro rfl other number first second
    have same : number = value.toNat := first.number.symm.trans spelled.number
    exact (shorten (same ▸ second)).le

end Multidrop.Varuint
