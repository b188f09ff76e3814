import Multidrop.Basic
import Multidrop.Proofs.Subframe.Reading

/-!
# Walks over payloads

Subframes that are written one after another are the contents of their bytes (`contents_flatMap`).
The part of a payload in front of its first unknown tag has the subframes of the payload as its
contents, and ends with them (`contents_take`). A walk cuts its bytes into those of the subframes
that it meets and a rest at which it stops (`exists_parts`).
-/
namespace Multidrop.Subframe

/-- A located subframe is what is read from some bytes, whatever follows them. -/
def Located.Spelt (item : Located) (bytes : List UInt8) : Prop :=
  ∀ rest, read item.offset (bytes ++ rest) = .ok (item.subframe, rest)

/-- No subframe is read from nothing. -/
theorem Located.Spelt.length_pos {item : Located} {bytes : List UInt8} (spelt : item.Spelt bytes) :
    0 < bytes.length := by
  have less := length_read_lt (spelt [])
  rwa [List.append_nil] at less

namespace Walk

/-- A walk is over at the end of its bytes. -/
theorem contents_nil (offset : Nat) : contents { offset, rest := [] } = ⟨[], none⟩ := by
  rw [contents]
  split <;> rename_i met <;> rw [next, if_pos (.inr rfl)] at met <;> cases met

/-- A subframe that is read is given, and the walk goes on behind it. -/
theorem next_of_read {offset : Nat} {bytes rest : List UInt8} {subframe : Subframe}
    (found : read offset bytes = .ok (subframe, rest)) :
    next { offset, rest := bytes } =
      (some (.ok subframe), { offset := offset + (bytes.length - rest.length), rest }) := by
  have going : ¬(false = true ∨ bytes = []) := by
    rintro (impossible | rfl)
    · cases impossible
    · cases found
  rw [next, if_neg going]
  dsimp only
  rw [found]

/-- An error is given, and the walk stays where it is. -/
theorem next_of_error {offset : Nat} {bytes : List UInt8} {error : Error}
    (some : bytes ≠ []) (found : read offset bytes = .error error) :
    next { offset, rest := bytes } =
      (.some (.error error), { offset, rest := bytes, failed := true }) := by
  have going : ¬(false = true ∨ bytes = []) := by
    rintro (impossible | none)
    · cases impossible
    · exact some none
  rw [next, if_neg going]
  dsimp only
  rw [found]

/-- A subframe that is read comes first. -/
theorem contents_of_read {offset : Nat} {bytes rest : List UInt8} {subframe : Subframe}
    (found : read offset bytes = .ok (subframe, rest)) :
    contents { offset, rest := bytes } =
      let tail := contents { offset := offset + (bytes.length - rest.length), rest }
      ⟨⟨offset, subframe⟩ :: tail.located, tail.stop⟩ := by
  rw [contents]
  split <;> rename_i met <;> rw [next_of_read found] at met <;> cases met
  rfl

/-- An error ends a walk. -/
theorem contents_of_error {offset : Nat} {bytes : List UInt8} {error : Error}
    (some : bytes ≠ []) (found : read offset bytes = .error error) :
    contents { offset, rest := bytes } = ⟨[], .some error⟩ := by
  rw [contents]
  split <;> rename_i met <;> rw [next_of_error some found] at met <;> cases met
  rfl

/-- Subframes that were written one after another are met in order, and then what is behind them. -/
theorem contents_flatMap_append {subframes : List Subframe}
    (fit : ∀ subframe ∈ subframes, subframe.Fits) (offset : Nat) (rest : List UInt8) :
    let later := contents { offset := offset + (subframes.flatMap encode).length, rest }
    (contents { offset, rest := subframes.flatMap encode ++ rest }).subframes =
        subframes ++ later.subframes ∧
      (contents { offset, rest := subframes.flatMap encode ++ rest }).stop = later.stop := by
  induction subframes generalizing offset with
  | nil => exact ⟨rfl, rfl⟩
  | cons subframe others ih =>
    intro later
    obtain ⟨first, remaining⟩ := List.forall_mem_cons.1 fit
    have found := read_encode offset first (others.flatMap encode ++ rest)
    have size : (subframe.encode ++ (others.flatMap encode ++ rest)).length -
        (others.flatMap encode ++ rest).length = subframe.encode.length := by
      rw [List.length_append, Nat.add_sub_cancel]
    obtain ⟨same, stop⟩ := ih remaining (offset + subframe.encode.length)
    rw [Nat.add_assoc, ← List.length_append, ← List.flatMap_cons] at same stop
    rw [List.flatMap_cons, List.append_assoc, contents_of_read found, size]
    refine ⟨?_, stop⟩
    rw [Contents.subframes] at same ⊢
    rw [List.map_cons, same]
    rfl

/-- Subframes that were written one after another are met in order, and nothing else. -/
theorem contents_flatMap {subframes : List Subframe} (fit : ∀ subframe ∈ subframes, subframe.Fits)
    (offset : Nat) :
    (contents { offset, rest := subframes.flatMap encode }).subframes = subframes ∧
      (contents { offset, rest := subframes.flatMap encode }).stop = none := by
  have whole := contents_flatMap_append fit offset []
  rw [List.append_nil, contents_nil] at whole
  exact ⟨whole.1.trans (List.append_nil _), whole.2⟩

/-- The part in front of the first unknown tag holds the subframes that are met before it, and
nothing else. -/
theorem contents_take {offset place : Nat} {bytes : List UInt8} {tag : UInt32}
    (stop : (contents { offset, rest := bytes }).stop = some (.unknown tag place)) :
    offset ≤ place ∧
      contents { offset, rest := bytes.take (place - offset) } =
        ⟨(contents { offset, rest := bytes }).located, none⟩ := by
  induction left : bytes.length using Nat.strongRecOn generalizing offset bytes with
  | ind count ih =>
    by_cases none : bytes = []
    · rw [none, contents_nil] at stop
      cases stop
    · cases found : read offset bytes with
      | error error =>
        rw [contents_of_error none found] at stop ⊢
        cases stop
        have here := place_of_unknown found
        subst here
        rw [Nat.sub_self, List.take_zero, contents_nil]
        exact ⟨Nat.le_refl _, rfl⟩
      | ok pair =>
        obtain ⟨subframe, rest⟩ := pair
        obtain ⟨used, rfl, elsewhere⟩ := read_local found
        have size : (used ++ rest).length - rest.length = used.length := by
          rw [List.length_append, Nat.add_sub_cancel]
        have shorter := length_read_lt found
        rw [contents_of_read found, size] at stop ⊢
        obtain ⟨after, tail⟩ := ih rest.length (left ▸ shorter) stop rfl
        have before : offset ≤ place := by omega
        have front : (used ++ rest).take (place - offset) =
            used ++ rest.take (place - (offset + used.length)) := by
          rw [List.take_append, List.take_of_length_le (by omega),
            show place - offset - used.length = place - (offset + used.length) by omega]
        refine ⟨before, ?_⟩
        rw [front, contents_of_read (elsewhere _)]
        dsimp only
        rw [List.length_append, Nat.add_sub_cancel, tail]

/-- A walk cuts its bytes into those of each subframe that it meets, in order, and a rest that its
error is read from, which is empty if there is none. -/
theorem exists_parts (offset : Nat) (bytes : List UInt8) :
    ∃ parts : List (List UInt8 × Located), ∃ rest,
      (contents { offset, rest := bytes }).located = parts.map Prod.snd ∧
        bytes = parts.flatMap Prod.fst ++ rest ∧ (∀ part ∈ parts, part.2.Spelt part.1) ∧
        ((contents { offset, rest := bytes }).stop = none → rest = []) ∧
        ∀ error, (contents { offset, rest := bytes }).stop = some error →
          rest ≠ [] ∧ read (offset + (parts.flatMap Prod.fst).length) rest = .error error := by
  induction left : bytes.length using Nat.strongRecOn generalizing offset bytes with
  | ind count ih =>
    by_cases none : bytes = []
    · rw [none, contents_nil]
      exact ⟨[], [], rfl, rfl, nofun, fun _ => rfl, nofun⟩
    · cases found : read offset bytes with
      | error error =>
        rw [contents_of_error none found]
        refine ⟨[], bytes, rfl, rfl, nofun, nofun, ?_⟩
        rintro _ ⟨⟩
        exact ⟨none, found⟩
      | ok pair =>
        obtain ⟨subframe, after⟩ := pair
        obtain ⟨used, rfl, elsewhere⟩ := read_local found
        have size : (used ++ after).length - after.length = used.length := by
          rw [List.length_append, Nat.add_sub_cancel]
        obtain ⟨parts, rest, located, split, spelt, whole, stop⟩ :=
          ih after.length (left ▸ length_read_lt found) (offset + used.length) after rfl
        rw [contents_of_read found, size]
        refine ⟨(used, ⟨offset, subframe⟩) :: parts, rest, ?_, ?_, ?_, whole, ?_⟩
        · exact congrArg (_ :: ·) located
        · rw [List.flatMap_cons, List.append_assoc, ← split]
        · exact List.forall_mem_cons.2 ⟨elsewhere, spelt⟩
        · intro error there
          rw [List.flatMap_cons, List.length_append, ← Nat.add_assoc]
          exact stop error there

/-- The subframes that a walk meets, and the one that it stops at, take a byte each at least. -/
theorem length_located (offset : Nat) (bytes : List UInt8) :
    (contents { offset, rest := bytes }).located.length +
      (if (contents { offset, rest := bytes }).stop.isSome then 1 else 0) ≤ bytes.length := by
  obtain ⟨parts, rest, located, split, spelt, _, stop⟩ := exists_parts offset bytes
  have each : parts.length ≤ (parts.flatMap Prod.fst).length := by
    calc parts.length = total (fun _ => 1) parts :=
        ((total_of_const fun _ _ => rfl).trans (Nat.mul_one _)).symm
      _ ≤ total (fun part => part.1.length) parts :=
        total_mono fun part there => (spelt part there).length_pos
      _ = (parts.flatMap Prod.fst).length := total_length Prod.fst parts
  have length := congrArg List.length split
  rw [List.length_append] at length
  rw [located, List.length_map]
  cases met : (contents { offset, rest := bytes }).stop with
  | none =>
    simp only [Option.isSome_none, Bool.false_eq_true, if_false]
    omega
  | some error =>
    have some := List.length_pos_iff.2 (stop error met).1
    simp only [Option.isSome_some, if_true]
    omega

/-- An unknown tag stands among the bytes. -/
theorem place_lt {offset place : Nat} {bytes : List UInt8} {tag : UInt32}
    (stop : (contents { offset, rest := bytes }).stop = some (.unknown tag place)) :
    place < offset + bytes.length := by
  obtain ⟨parts, rest, _, split, _, _, met⟩ := exists_parts offset bytes
  obtain ⟨some, unknown⟩ := met _ stop
  have here := place_of_unknown unknown
  have positive := List.length_pos_iff.2 some
  have length := congrArg List.length split
  rw [List.length_append] at length
  omega

end Walk

/-- Subframes that were written one after another are the contents of their bytes. -/
theorem Contents.ofPayload_flatMap {subframes : List Subframe}
    (fit : ∀ subframe ∈ subframes, subframe.Fits) :
    (ofPayload (subframes.flatMap encode)).subframes = subframes ∧
      (ofPayload (subframes.flatMap encode)).stop = none :=
  Walk.contents_flatMap fit 0

/-- Each of the subframes that were written takes its part of the bytes. -/
theorem size_le_of_mem {subframes : List Subframe} {subframe : Subframe}
    (there : subframe ∈ subframes) : subframe.size ≤ (subframes.flatMap encode).length := by
  obtain ⟨front, back, rfl⟩ := List.append_of_mem there
  rw [List.flatMap_append, List.flatMap_cons, List.length_append, List.length_append,
    length_encode]
  omega

end Multidrop.Subframe
