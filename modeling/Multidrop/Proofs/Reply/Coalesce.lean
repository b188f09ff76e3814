import Multidrop.Proofs.Subframe.Walk
import Multidrop.Proofs.Value.Packed
import Multidrop.Reply

/-!
# Replies as runs

The items of a reply are written with as few subframes as their order admits: values of consecutive
registers in one kind share a subframe (`coalesce`). Taking these subframes apart again gives the
items one by one, in order (`gather_coalesce`).
-/
namespace Multidrop.Reply

/-- A run with one more value, where the value continues it. -/
def Run.extend? (run : Run) (register : Register) (value : Value) : Option Run :=
  if same : value.kind = run.values.kind then
    if run.start.toNat + run.values.count = register.toNat then
      some { run with values := run.values.push value same }
    else none
  else none

/-- The items of a run. -/
def Run.items (run : Run) : List Item := valueItems run.start run.values.values

/-- The run of a register on its own. -/
def Run.ofValue (register : Register) (value : Value) : Run := ⟨register, .single value⟩

/-- The subframe of an item on its own. -/
def Item.subframe : Item → Subframe
  | .value register found => .replySingle register found
  | .readError register code => .readError register code
  | .writeError register code => .writeError register code
  | .tunnel channel data => .serverToClient channel data

/-- The subframes of items behind a run. -/
def coalesceFrom (pending : Option Run) : List Item → List Subframe
  | [] => pending.toList.map Run.subframe
  | .value register value :: rest =>
    match pending.bind fun run => run.extend? register value with
    | some longer => coalesceFrom (some longer) rest
    | none => pending.toList.map Run.subframe ++ coalesceFrom (some (.ofValue register value)) rest
  | item :: rest => pending.toList.map Run.subframe ++ item.subframe :: coalesceFrom none rest

/-- The subframes of items, with a subframe for each longest run of values. -/
def coalesce (items : List Item) : List Subframe := coalesceFrom none items

/-! ## Runs -/

/-- A run that holds something, and whose registers do not run past the last one. -/
structure Run.Proper (run : Run) : Prop where
  /-- It holds as many values as it counts. -/
  length : run.values.values.length = run.values.count
  /-- It holds a value. -/
  positive : 0 < run.values.count
  /-- Its registers do not run past the last one. -/
  inside : run.start.toNat + run.values.count ≤ Word.bound 32

/-- A register on its own is a proper run. -/
theorem Run.proper_ofValue (register : Register) (value : Value) :
    (ofValue register value).Proper where
  length := by simp [ofValue]
  positive := by simp [ofValue]
  inside := by
    have small : register.toNat < Word.bound 32 := register.toNat_lt
    simp only [ofValue, Packed.count_single]
    omega

/-- A run that a value continues gets longer by it. -/
theorem Run.extend?_eq_some {run longer : Run} {register : Register} {value : Value}
    (extends_ : run.extend? register value = some longer) :
    ∃ same : value.kind = run.values.kind,
      run.start.toNat + run.values.count = register.toNat ∧
        longer = { run with values := run.values.push value same } := by
  unfold extend? at extends_
  by_cases same : value.kind = run.values.kind
  · rw [dif_pos same] at extends_
    by_cases next : run.start.toNat + run.values.count = register.toNat
    · rw [if_pos next] at extends_
      cases extends_
      exact ⟨same, next, rfl⟩
    · rw [if_neg next] at extends_
      cases extends_
  · rw [dif_neg same] at extends_
    cases extends_

/-- A proper run stays so with a value that continues it. -/
theorem Run.Proper.extend {run longer : Run} {register : Register} {value : Value}
    (proper : run.Proper) (extends_ : run.extend? register value = some longer) :
    longer.Proper := by
  obtain ⟨same, next, rfl⟩ := extend?_eq_some extends_
  have small : register.toNat < Word.bound 32 := register.toNat_lt
  refine ⟨?_, ?_, ?_⟩
  · rw [Packed.values_push, Packed.count_push, List.length_append, proper.length]
    rfl
  · rw [Packed.count_push]
    exact Nat.succ_pos _
  · simp only [Packed.count_push]
    omega

/-- A value that continues a run is its last item. -/
theorem Run.items_extend {run longer : Run} {register : Register} {value : Value}
    (proper : run.Proper) (extends_ : run.extend? register value = some longer) :
    longer.items = run.items ++ [.value register value] := by
  obtain ⟨same, next, rfl⟩ := extend?_eq_some extends_
  have place : run.start + .ofNat run.values.values.length = register := by
    apply UInt32.toNat_inj.mp
    have small : register.toNat < Word.bound 32 := register.toNat_lt
    rw [proper.length, UInt32.toNat_add, UInt32.toNat_ofNat', Nat.add_mod_mod, next]
    exact Nat.mod_eq_of_lt small
  rw [items, items, valueItems, valueItems, Packed.values_push, List.mapIdx_append]
  simp [place]

/-- The subframe of a run has the items of the run. -/
theorem Run.itemsOf_subframe (run : Run) : itemsOf run.subframe = some run.items := by
  unfold subframe
  split
  · rename_i value alone
    rw [itemsOf, items, valueItems, alone]
    simp
  · rfl

/-! ## Subframes -/

/-- How the subframes of items come about from the first item and the run before it. -/
inductive Proceeds (pending : Option Run) (rest : List Item) : Item → List Subframe → Prop
  /-- The item is a value that continues the run. -/
  | longer {register : Register} {value : Value} {run longer : Run} (there : pending = some run)
      (extends_ : run.extend? register value = some longer) :
      Proceeds pending rest (.value register value) (coalesceFrom (some longer) rest)
  /-- The item is a value that begins a run. -/
  | fresh (register : Register) (value : Value) :
      Proceeds pending rest (.value register value)
        (pending.toList.map Run.subframe ++ coalesceFrom (some (.ofValue register value)) rest)
  /-- The item has a subframe of its own. -/
  | alone (item : Item) :
      Proceeds pending rest item
        (pending.toList.map Run.subframe ++ item.subframe :: coalesceFrom none rest)

/-- An item continues the run before it, begins one, or stands alone. -/
theorem proceeds_coalesceFrom (pending : Option Run) (item : Item) (rest : List Item) :
    Proceeds pending rest item (coalesceFrom pending (item :: rest)) := by
  cases item with
  | value register value =>
    rw [coalesceFrom]
    cases continued : pending.bind fun run => run.extend? register value with
    | none => exact .fresh register value
    | some longer =>
      obtain ⟨run, there, extends_⟩ := Option.bind_eq_some_iff.1 continued
      exact .longer there extends_
  | readError register code => exact .alone (.readError register code)
  | writeError register code => exact .alone (.writeError register code)
  | tunnel channel data => exact .alone (.tunnel channel data)

/-- The subframe of an item has the item. -/
theorem Item.itemsOf_subframe (item : Item) : itemsOf item.subframe = some [item] := by
  cases item <;> rfl

/-- The items of a subframe come before those of the subframes behind it. -/
theorem gather_cons {subframe : Subframe} {items more : List Item} {rest : List Subframe}
    (has : itemsOf subframe = some items) (others : gather rest = .ok more) :
    gather (subframe :: rest) = .ok (items ++ more) := by
  rw [gather, has]
  dsimp only
  rw [others]
  rfl

/-- The items of one subframe. -/
theorem gather_singleton {subframe : Subframe} {items : List Item}
    (has : itemsOf subframe = some items) : gather [subframe] = .ok items := by
  have alone : gather [subframe] = .ok (items ++ []) := gather_cons has rfl
  rw [List.append_nil] at alone
  exact alone

/-- Subframes that were written one after another are taken apart into their items. -/
theorem parse_flatMap {subframes : List Subframe} {items : List Item}
    (gathered : gather subframes = .ok items) (fit : ∀ subframe ∈ subframes, subframe.Fits) :
    parse (subframes.flatMap Subframe.encode) = .ok ⟨items⟩ := by
  obtain ⟨same, stop⟩ := Subframe.Contents.ofPayload_flatMap fit
  unfold parse
  dsimp only
  rw [same, gathered, stop]
  rfl

/-- The items of a run come before those of the subframes behind it. -/
theorem gather_run {more : List Item} {rest : List Subframe} (pending : Option Run)
    (others : gather rest = .ok more) :
    gather (pending.toList.map Run.subframe ++ rest) = .ok (pending.elim [] Run.items ++ more) := by
  cases pending with
  | none => exact others
  | some run => exact gather_cons run.itemsOf_subframe others

/-- Items behind a run are gathered behind the items of the run. -/
theorem gather_coalesceFrom (pending : Option Run) (proper : ∀ run ∈ pending, run.Proper)
    (items : List Item) :
    gather (coalesceFrom pending items) = .ok (pending.elim [] Run.items ++ items) := by
  induction items generalizing pending with
  | nil =>
    have last := @gather_run [] [] pending rfl
    rw [List.append_nil] at last
    exact last
  | cons item rest ih =>
    have proceeds := proceeds_coalesceFrom pending item rest
    generalize coalesceFrom pending (item :: rest) = subframes at proceeds
    cases proceeds with
    | @longer register value run longer there extends_ =>
      have whole := proper run there
      have later := ih (some longer) (by
        intro other same
        cases same
        exact whole.extend extends_)
      rw [later, there, Option.elim_some, Option.elim_some, Run.items_extend whole extends_,
        List.append_assoc]
      rfl
    | fresh register value =>
      have later := ih (some (.ofValue register value)) (by
        intro other same
        cases same
        exact Run.proper_ofValue register value)
      have alone : (Run.ofValue register value).items = [.value register value] := by
        simp [Run.items, Run.ofValue, valueItems]
      rw [Option.elim_some, alone] at later
      exact gather_run pending later
    | alone item =>
      apply gather_run pending
      apply gather_cons item.itemsOf_subframe
      exact ih none nofun

/-- Runs lose, repeat and reorder no item. -/
theorem gather_coalesce (items : List Item) : gather (coalesce items) = .ok items :=
  gather_coalesceFrom none nofun items

/-- A run whose registers stay in reach has a subframe that its encoding can hold. -/
theorem Run.fits_subframe {run : Run}
    (reach : ∀ start values, run.subframe = .replyMultiple start values →
      start.toNat + values.count ≤ Word.bound 32 - 2) : run.subframe.Fits := by
  unfold subframe at reach ⊢
  split
  · trivial
  · rename_i several
    split at reach
    · rename_i value alone
      exact absurd alone (several value)
    · have short := reach run.start run.values rfl
      have few : run.values.count < Word.bound 32 := by
        have positive : 2 < Word.bound 32 := by decide
        omega
      exact ⟨few, Subframe.inRange_ofNat few (by omega)⟩

/-- An item has a subframe that its encoding can hold, unless it is a tunnel with too many bytes. -/
theorem Item.fits_subframe {item : Item}
    (tunnel : ∀ channel data, .tunnel channel data = item → data.length < Word.bound 32) :
    item.subframe.Fits := by
  cases item with
  | tunnel channel data => exact tunnel channel data rfl
  | value register value => trivial
  | readError register code => trivial
  | writeError register code => trivial

/-- The subframes of items are such that their encodings can hold them, as long as runs stay in
reach and no tunnel has too many bytes. -/
theorem fits_of_mem_coalesceFrom {pending : Option Run} {items : List Item} {subframe : Subframe}
    (there : subframe ∈ coalesceFrom pending items)
    (reach : ∀ start values, subframe = .replyMultiple start values →
      start.toNat + values.count ≤ Word.bound 32 - 2)
    (tunnels : ∀ channel data, .tunnel channel data ∈ items → data.length < Word.bound 32) :
    subframe.Fits := by
  have first : ∀ {pending : Option Run}, subframe ∈ pending.toList.map Run.subframe →
      subframe.Fits := by
    intro pending run
    obtain ⟨run, _, rfl⟩ := List.mem_map.1 run
    exact Run.fits_subframe reach
  induction items generalizing pending with
  | nil => exact first there
  | cons item rest ih =>
    have others := fun channel data later => tunnels channel data (List.mem_cons_of_mem item later)
    have proceeds := proceeds_coalesceFrom pending item rest
    generalize coalesceFrom pending (item :: rest) = subframes at there proceeds
    cases proceeds with
    | longer _ _ => exact ih there others
    | fresh register value =>
      rcases List.mem_append.1 there with run | later
      · exact first run
      · exact ih later others
    | alone item =>
      rcases List.mem_append.1 there with run | later
      · exact first run
      · rcases List.mem_cons.1 later with rfl | later
        · apply Item.fits_subframe
          intro channel data same
          exact tunnels channel data (same ▸ List.mem_cons_self)
        · exact ih later others

end Multidrop.Reply
