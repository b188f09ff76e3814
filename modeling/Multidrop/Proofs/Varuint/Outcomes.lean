import Multidrop.Proofs.Varuint.Spelling

/-!
# What reading a number comes to

Bytes have a number at their front, or they end before it does (`Unfinished`), or they go on beyond
32 bits (`Overruns`); the marks of the first five bytes tell which. A loop that moves each group up to
its place in a word (`gather`) reads the same numbers as the recursion over the groups
(`gather_eq_decode`), because no group loses a bit on the way (`toNat_lift`). `decode_outcomes` says
all that a reader can rely on, of written numbers and of any other bytes.
-/
namespace Multidrop.Varuint

/-- Every byte of a number that is not complete is marked, and there is a place left for another. -/
def Unfinished (bytes : List UInt8) : Prop := bytes.length < 5 ∧ ∀ byte ∈ bytes, 0x80 ≤ byte

/-- Four marked bytes stand in front of a fifth with more than the four bits that are left for it. -/
def Overruns (bytes : List UInt8) : Prop :=
  ∃ front fifth rest, bytes = front ++ fifth :: rest ∧ front.length = 4 ∧
    (∀ byte ∈ front, 0x80 ≤ byte) ∧ 0x0f < fifth

/-- The group of a byte, moved up to its place in a word. -/
def lift (place : Nat) (byte : UInt8) : UInt32 := (byte &&& 0x7f).toUInt32 <<< .ofNat (7 * place)

/-- Read a number as a loop over a word does that holds the groups in front of a place. -/
def gather (word : UInt32) (place : Nat) : List UInt8 → Except Error (UInt32 × Nat)
  | [] => .error .truncated
  | byte :: rest =>
    if place + 1 = maxSize ∧ 0x0f < byte then .error .overlong
    else if byte &&& 0x80 = 0 then .ok (word ||| lift place byte, place + 1)
    else gather (word ||| lift place byte) (place + 1) rest

/-- A word holds the number that a field spells, with every group in its place. -/
structure Holds (word : UInt32) (field : List UInt8) : Prop where
  /-- The field spells the number of the word. -/
  spelled : Spells field word.toNat
  /-- The digits of the field need no more than 32 bits. -/
  below : digits field < Word.bound 32
  /-- No group loses a bit when it is moved up to its place. -/
  groups : ∀ place byte, field[place]? = some byte →
    (lift place byte).toNat = Nat.pow 128 place * (byte.toNat % 128)

variable {field bytes : List UInt8} {value : UInt32} {used : Nat}

/-! ## Groups in a word -/

/-- A byte is the last one of a number exactly when its highest bit is not set. -/
theorem and_mark_eq_zero (byte : UInt8) : byte &&& 0x80 = 0 ↔ byte < 0x80 := by
  have size := byte.toNat_lt
  have bit (place : Nat) :
      (byte &&& 0x80).toNat.testBit place = (byte.toNat.testBit place && decide (7 = place)) := by
    rw [UInt8.toNat_and, Nat.testBit_and, show (0x80 : UInt8).toNat = 2 ^ 7 from rfl,
      Nat.testBit_two_pow]
  change _ ↔ byte.toNat < 128
  constructor
  · intro clear
    have unset := bit 7
    rw [clear, UInt8.toNat_zero, Nat.zero_testBit, decide_eq_true rfl, Bool.and_true,
      Nat.testBit_eq_decide_div_mod_eq, eq_comm, decide_eq_false_iff_not] at unset
    omega
  · intro small
    apply UInt8.toNat_inj.1
    apply Nat.eq_of_testBit_eq
    intro place
    rw [bit, UInt8.toNat_zero, Nat.zero_testBit, Bool.and_eq_false_iff, decide_eq_false_iff_not]
    by_cases mark : 7 = place
    · exact .inl (mark ▸ Nat.testBit_lt_two_pow small)
    · exact .inr mark

/-- A group keeps all its bits at its place, if a fifth one has no more than are left for it. -/
theorem toNat_lift {place : Nat} {byte : UInt8} (known : place < maxSize)
    (carries : place + 1 = maxSize → byte ≤ 0x0f) :
    (lift place byte).toNat = Nat.pow 128 place * (byte.toNat % 128) := by
  have group : (byte &&& 0x7f).toNat = byte.toNat % 128 := by
    rw [UInt8.toNat_and]
    exact Nat.and_two_pow_sub_one_eq_mod _ 7
  have shift : (UInt32.ofNat (7 * place)).toNat % 32 = 7 * place := by
    rw [maxSize] at known
    rw [UInt32.toNat_ofNat']
    omega
  have weight : Nat.pow 2 (7 * place) = Nat.pow 128 place := Nat.pow_mul 2 7 place
  have room : byte.toNat % 128 * Nat.pow 128 place < UInt32.size := by
    rw [maxSize] at known carries
    by_cases last : place = 4
    · have bits : byte.toNat ≤ 15 := carries (by omega)
      have low : byte.toNat % 128 ≤ 15 := Nat.le_trans (Nat.mod_le _ _) bits
      subst last
      exact Nat.lt_of_le_of_lt (Nat.mul_le_mul_right _ low) (by decide)
    · have below : Nat.pow 128 place ≤ Nat.pow 128 3 := Nat.pow_le_pow_right (by decide) (by omega)
      have small : byte.toNat % 128 ≤ 127 := by omega
      exact Nat.lt_of_le_of_lt (Nat.mul_le_mul small below) (by decide)
  rw [lift, UInt32.toNat_shiftLeft, UInt8.toNat_toUInt32, group, shift, Nat.shiftLeft_eq]
  change byte.toNat % 128 * Nat.pow 2 (7 * place) % UInt32.size = _
  rw [weight, Nat.mod_eq_of_lt room, Nat.mul_comm]

/-- A group joins those in front of its place. -/
theorem toNat_or_lift {place : Nat} {byte : UInt8} {word : UInt32} (known : place < maxSize)
    (carries : place + 1 = maxSize → byte ≤ 0x0f) (below : word.toNat < Nat.pow 128 place) :
    (word ||| lift place byte).toNat = word.toNat + Nat.pow 128 place * (byte.toNat % 128) := by
  have weight : Nat.pow 128 place = Nat.pow 2 (7 * place) := (Nat.pow_mul 2 7 place).symm
  rw [weight] at below
  have joined : Nat.pow 2 (7 * place) * (byte.toNat % 128) + word.toNat =
      Nat.pow 2 (7 * place) * (byte.toNat % 128) ||| word.toNat :=
    Nat.two_pow_add_eq_or_of_lt below _
  rw [UInt32.toNat_or, toNat_lift known carries, Nat.or_comm, weight, ← joined, Nat.add_comm]

/-- The loop adds the groups from a place on to those that its word holds. -/
theorem gather_eq {place : Nat} {word : UInt32} (known : place < maxSize)
    (below : word.toNat < Nat.pow 128 place) :
    gather word place bytes = (decodeFrom place bytes).map fun found =>
      (.ofNat (word.toNat + Nat.pow 128 place * found.1), place + found.2) := by
  induction bytes generalizing place word with
  | nil => rfl
  | cons byte rest ih =>
    rw [gather, decodeFrom]
    by_cases overlong : place + 1 = maxSize ∧ 0x0f < byte
    · rw [if_pos overlong, if_pos overlong]
      rfl
    · have joined := toNat_or_lift known
        (fun last => UInt8.not_lt.1 fun large => overlong ⟨last, large⟩) below
      rw [if_neg overlong, if_neg overlong]
      by_cases last : byte < 0x80
      · have low : byte.toNat % 128 = byte.toNat := Nat.mod_eq_of_lt last
        rw [if_pos last, if_pos ((and_mark_eq_zero byte).2 last)]
        rw [low] at joined
        rw [Except.map, ← joined, UInt32.ofNat_toNat]
      · have before := place_lt_of_marked known overlong last
        have grown : Nat.pow 128 (place + 1) = Nat.pow 128 place * 128 := Nat.pow_succ _ _
        -- The groups so far stay below the weight of the next place.
        have above : (word ||| lift place byte).toNat < Nat.pow 128 (place + 1) := by
          have group : byte.toNat % 128 + 1 ≤ 128 := Nat.mod_lt _ (by decide)
          calc (word ||| lift place byte).toNat
              < Nat.pow 128 place + Nat.pow 128 place * (byte.toNat % 128) := by omega
            _ = Nat.pow 128 place * (byte.toNat % 128 + 1) := by
              rw [Nat.mul_add, Nat.mul_one, Nat.add_comm]
            _ ≤ Nat.pow 128 place * 128 := Nat.mul_le_mul_left _ group
            _ = Nat.pow 128 (place + 1) := grown.symm
        rw [if_neg last, if_neg (mt (and_mark_eq_zero byte).1 last),
          ih before above]
        cases decodeFrom (place + 1) rest with
        | error error => rfl
        | ok found =>
          obtain ⟨high, used⟩ := found
          simp only [bind, Except.bind, Except.map]
          rw [joined, grown, Nat.mul_add, Nat.mul_assoc, Nat.add_assoc, Nat.add_assoc,
            Nat.add_comm 1 used]

/-- The loop reads what the recursion over the groups reads. -/
theorem gather_eq_decode (bytes : List UInt8) : gather 0 0 bytes = decode bytes := by
  rw [gather_eq (by decide) (by decide), decode]
  cases decodeFrom 0 bytes with
  | error error => rfl
  | ok found => simp [bind, Except.bind, Except.map]

/-! ## Bytes without a number -/

/-- Groups are too long exactly where marked bytes fill the places in front of the last one and the
byte there carries too much. -/
theorem decodeFrom_eq_overlong_iff {place : Nat} (known : place < maxSize) :
    decodeFrom place bytes = .error .overlong ↔
      ∃ front fifth rest, bytes = front ++ fifth :: rest ∧ place + front.length + 1 = maxSize ∧
        (∀ byte ∈ front, 0x80 ≤ byte) ∧ 0x0f < fifth := by
  induction bytes generalizing place with
  | nil => simp [decodeFrom]
  | cons byte rest ih =>
    rw [decodeFrom]
    by_cases overlong : place + 1 = maxSize ∧ 0x0f < byte
    · rw [if_pos overlong]
      exact iff_of_true rfl ⟨[], byte, rest, rfl, overlong.1, List.forall_mem_nil _, overlong.2⟩
    · rw [if_neg overlong]
      -- The first byte is not the one that carries too much, so it is the first of the marked ones.
      have split : (∃ front fifth after, byte :: rest = front ++ fifth :: after ∧
            place + front.length + 1 = maxSize ∧ (∀ byte ∈ front, 0x80 ≤ byte) ∧ 0x0f < fifth) ↔
          0x80 ≤ byte ∧ ∃ front fifth after, rest = front ++ fifth :: after ∧
            place + 1 + front.length + 1 = maxSize ∧ (∀ byte ∈ front, 0x80 ≤ byte) ∧
            0x0f < fifth := by
        constructor
        · rintro ⟨front, fifth, after, same, full, marks, large⟩
          cases front with
          | nil =>
            cases same
            exact absurd ⟨full, large⟩ overlong
          | cons first front =>
            cases same
            rw [List.forall_mem_cons] at marks
            refine ⟨marks.1, front, fifth, after, rfl, ?_, marks.2, large⟩
            rw [List.length_cons] at full
            omega
        · rintro ⟨mark, front, fifth, after, rfl, full, marks, large⟩
          refine ⟨byte :: front, fifth, after, rfl, ?_, List.forall_mem_cons.2 ⟨mark, marks⟩, large⟩
          rw [List.length_cons]
          omega
      rw [split]
      by_cases last : byte < 0x80
      · rw [if_pos last]
        exact iff_of_false (by simp) fun found => UInt8.not_le.2 last found.1
      · have mark : 0x80 ≤ byte := UInt8.not_lt.1 last
        rw [if_neg last, and_iff_right mark, ← ih (place_lt_of_marked known overlong last)]
        cases decodeFrom (place + 1) rest <;> simp [bind, Except.bind]

/-- A number is read with an error exactly when its groups are. -/
theorem decode_eq_error_iff {error : Error} :
    decode bytes = .error error ↔ decodeFrom 0 bytes = .error error := by
  rw [decode]
  cases decodeFrom 0 bytes <;> simp [bind, Except.bind]

/-- More bytes are needed exactly where a number is not complete. -/
theorem decode_eq_truncated_iff : decode bytes = .error .truncated ↔ Unfinished bytes := by
  rw [decode_eq_error_iff, decodeFrom_eq_truncated_iff (by decide), Nat.zero_add]
  exact Iff.rfl

/-- A number is too long exactly where it goes on beyond 32 bits. -/
theorem decode_eq_overlong_iff : decode bytes = .error .overlong ↔ Overruns bytes := by
  rw [decode_eq_error_iff, decodeFrom_eq_overlong_iff (by decide)]
  simp only [Overruns, maxSize, Nat.zero_add, Nat.reduceEqDiff]

/-! ## Bytes with a number -/

/-- A spelled number is read from its field, whatever follows. -/
theorem Spells.decode_append (spelled : Spells field value.toNat) (rest : List UInt8) :
    decode (field ++ rest) = .ok (value, field.length) := by
  rw [decode, spelled.decodeFrom_append rest]
  simp only [bind, Except.bind, UInt32.ofNat_toNat]

/-- A number that was read is spelled by the bytes that it occupies. -/
theorem exists_field (found : decode bytes = .ok (value, used)) :
    ∃ field rest, bytes = field ++ rest ∧ Spells field value.toNat ∧ field.length = used := by
  have split : read bytes = .ok (value, bytes.drop used) := by
    rw [read, found]
    rfl
  obtain ⟨field, whole, spelled⟩ := read_eq_ok_iff.1 split
  refine ⟨field, bytes.drop used, whole, spelled, ?_⟩
  have decoded := spelled.decode_append (bytes.drop used)
  rw [← whole, found] at decoded
  cases decoded
  rfl

/-- A word holds the number that a field spells for it. -/
theorem Spells.holds (spelled : Spells field value.toNat) : Holds value field := by
  refine ⟨spelled, spelled.number ▸ spelled.lt_bound, fun place byte there => ?_⟩
  have inside := (List.getElem?_eq_some_iff.1 there).1
  have short := spelled.short
  refine toNat_lift (by rw [maxSize]; omega) fun last => ?_
  have fifth : place = 4 := by
    rw [maxSize] at last
    omega
  exact spelled.fifth byte (fifth ▸ there)

/-- No bytes are fewer than those written for a number and are read as it. -/
theorem length_encode_le (found : decode bytes = .ok (value, used)) :
    (encode value).length ≤ used ∧ used ≤ bytes.length := by
  obtain ⟨field, rest, rfl, spelled, rfl⟩ := exists_field found
  have split : read (field ++ rest) = .ok (value, rest) := read_eq_ok_iff.2 ⟨field, rfl, spelled⟩
  have least := size_le_of_read split
  rw [List.length_append] at least ⊢
  rw [length_encode]
  omega

/-- A written number is read back from its announced size and from no fewer bytes; any other bytes
are incomplete, too long or a longer spelling, and a loop over a word agrees. -/
theorem decode_outcomes (value : UInt32) (rest bytes : List UInt8) :
    (decode (encode value ++ rest) = .ok (value, size value) ∧
      (encode value).length = size value ∧
      read (encode value ++ rest) = .ok (value, rest) ∧
      ∀ used, decode bytes = .ok (value, used) →
        (encode value).length ≤ used ∧ used ≤ bytes.length) ∧
    (decode bytes = .error .truncated ↔ Unfinished bytes) ∧
    (decode bytes = .error .overlong ↔ Overruns bytes) ∧
    (¬Unfinished bytes → ¬Overruns bytes →
      ∃ field after number, bytes = field ++ after ∧ Holds number field ∧
        ∀ other, decode (field ++ other) = .ok (number, field.length)) ∧
    gather 0 0 bytes = decode bytes := by
  refine ⟨⟨?_, length_encode value, read_encode value rest, fun used => length_encode_le⟩,
    decode_eq_truncated_iff, decode_eq_overlong_iff, fun complete short => ?_,
    gather_eq_decode bytes⟩
  · rw [← length_encode]
    exact (spells_encode value).decode_append rest
  · cases decoded : decode bytes with
    | error error =>
      cases error with
      | truncated => exact absurd (decode_eq_truncated_iff.1 decoded) complete
      | overlong => exact absurd (decode_eq_overlong_iff.1 decoded) short
    | ok found =>
      obtain ⟨number, used⟩ := found
      obtain ⟨field, after, whole, spelled, _⟩ := exists_field decoded
      exact ⟨field, after, number, whole, spelled.holds, spelled.decode_append⟩

/-- The largest number fills five bytes, which are read as it also with a sixth behind them. -/
theorem decode_outcomes_of_largest :
    let bytes : List UInt8 := [0xff, 0xff, 0xff, 0xff, 0x0f, 0x80]
    decode bytes = .ok (0xffffffff, 5) ∧ (encode 0xffffffff).length ≤ 5 ∧ ¬Unfinished bytes ∧
      ¬Overruns bytes ∧ ∃ field after number, bytes = field ++ after ∧ Holds number field ∧
        ∀ other, decode (field ++ other) = .ok (number, field.length) := by
  intro bytes
  have decoded : decode bytes = .ok (0xffffffff, 5) := rfl
  have complete : ¬Unfinished bytes := fun unfinished => absurd unfinished.1 (by decide)
  have short : ¬Overruns bytes := by
    intro overruns
    rw [decode_eq_overlong_iff.2 overruns] at decoded
    cases decoded
  obtain ⟨⟨_, _, _, least⟩, _, _, otherwise, _⟩ := decode_outcomes 0xffffffff [] bytes
  exact ⟨decoded, (least 5 decoded).1, complete, short, otherwise complete short⟩

end Multidrop.Varuint
