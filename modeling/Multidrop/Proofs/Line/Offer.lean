import Multidrop.Frame.Writer

/-!
# What has been written

Bytes that are offered until all are taken come behind those written before, up to where the line
stopped taking them. Nothing is left of them where every write gets on (`complete_offer`). Time
passes only where somebody looks or waits, so offering takes none.
-/
namespace Multidrop

/-- Whether a write gets on: it takes something, or it fails and is made again. -/
def Take.isGentle (retry : Fault.Kind → Bool) : Take → Bool
  | .accept limit => 0 < limit
  | .fault kind => retry kind

namespace Line

variable {π : Type}

/-- A flush writes nothing. -/
theorem written_flush (line : Line π) : line.flush.2.written = line.written := by
  unfold flush
  dsimp only
  split <;> rfl

variable [Peer π] {line after : Line π} {bytes : List UInt8}

/-- Bytes that are delivered come behind those written before. -/
theorem written_deliver (bytes : List UInt8) (line : Line π) :
    (line.deliver bytes).written = line.written ++ bytes := by
  unfold deliver
  by_cases none : bytes = []
  · rw [if_pos none, none, List.append_nil]
  · rw [if_neg none]

/-- A write takes bytes from the front of those offered. -/
theorem written_write_ok {count : Nat} (wrote : line.write bytes = (.ok count, after)) :
    after.written = line.written ++ bytes.take count := by
  unfold write at wrote
  split at wrote
  · cases wrote
    rw [written_deliver, List.take_length]
  · cases wrote
    rw [written_deliver, ← List.take_eq_take_min]
  · cases wrote

/-- A write that fails takes nothing. -/
theorem written_write_error {kind : Fault.Kind} (wrote : line.write bytes = (.error kind, after)) :
    after.written = line.written := by
  unfold write at wrote
  split at wrote <;> cases wrote
  rfl

/-- Bytes that are offered until all are taken are written up to those that are left. -/
theorem written_offer (retry : Fault.Kind → Bool) (bytes : List UInt8) (line : Line π) :
    ∃ taken, bytes = taken ++ (line.offer retry bytes).2.1 ∧
      (line.offer retry bytes).2.2.written = line.written ++ taken ∧
      ((line.offer retry bytes).1 = .complete → (line.offer retry bytes).2.1 = []) := by
  fun_induction offer retry bytes line with
  | case1 line => exact ⟨[], rfl, (List.append_nil _).symm, fun _ => rfl⟩
  | case2 bytes line nonempty after wrote => exact ⟨[], rfl, written_write_ok wrote, nofun⟩
  | case3 bytes line nonempty count after wrote ih =>
    obtain ⟨taken, split, later, complete⟩ := ih
    refine ⟨bytes.take (count + 1) ++ taken, ?_, ?_, complete⟩
    · rw [List.append_assoc, ← split, List.take_append_drop]
    · rw [later, written_write_ok wrote, List.append_assoc]
  | case4 bytes line nonempty kind after wrote again ih =>
    obtain ⟨taken, split, later, complete⟩ := ih
    exact ⟨taken, split, by rw [later, written_write_error wrote], complete⟩
  | case5 bytes line nonempty kind after wrote again =>
    exact ⟨[], rfl, by rw [List.append_nil]; exact written_write_error wrote, nofun⟩

/-- A write uses up its entry of the script, takes no time and flushes nothing. -/
theorem kept_write {result : Except Fault.Kind Nat} (wrote : line.write bytes = (result, after)) :
    after.takes = line.takes.tail ∧ after.clock = line.clock ∧
      after.flushFaults = line.flushFaults := by
  have delivered (sent : List UInt8) (line : Line π) :
      (line.deliver sent).takes = line.takes ∧ (line.deliver sent).clock = line.clock ∧
        (line.deliver sent).flushFaults = line.flushFaults := by
    unfold deliver
    split <;> exact ⟨rfl, rfl, rfl⟩
  unfold write at wrote
  split at wrote <;> cases wrote
  · rename_i none
    obtain ⟨takes, kept⟩ := delivered bytes line
    rw [none] at takes ⊢
    exact ⟨takes, kept⟩
  · rename_i limit rest first
    rw [first]
    exact delivered _ _
  · rename_i rest first
    rw [first]
    exact ⟨rfl, rfl, rfl⟩

/-- Offering bytes until all are taken takes no time and flushes nothing. -/
theorem kept_offer (retry : Fault.Kind → Bool) (bytes : List UInt8) (line : Line π) :
    (line.offer retry bytes).2.2.clock = line.clock ∧
      (line.offer retry bytes).2.2.flushFaults = line.flushFaults := by
  fun_induction offer retry bytes line with
  | case1 line => exact ⟨rfl, rfl⟩
  | case2 bytes line nonempty after wrote => exact (kept_write wrote).2
  | case3 bytes line nonempty count after wrote ih
  | case4 bytes line nonempty kind after wrote again ih =>
    obtain ⟨_, clock, flushFaults⟩ := kept_write wrote
    exact ⟨ih.1.trans clock, ih.2.trans flushFaults⟩
  | case5 bytes line nonempty kind after wrote again => exact (kept_write wrote).2

/-- A write that gets on takes something or is made again. -/
theorem write_of_gentle {retry : Fault.Kind → Bool} {result : Except Fault.Kind Nat}
    (gentle : ∀ take ∈ line.takes, take.isGentle retry) (nonempty : bytes ≠ [])
    (wrote : line.write bytes = (result, after)) :
    (∃ count, result = .ok (count + 1)) ∨ ∃ kind, result = .error kind ∧ retry kind = true := by
  have some := List.length_pos_iff.2 nonempty
  unfold write at wrote
  split at wrote <;> cases wrote
  · exact .inl ⟨bytes.length - 1, by rw [Nat.sub_add_cancel some]⟩
  · rename_i limit rest first
    have takes : 0 < limit := by
      have gets := gentle (.accept limit) (first ▸ List.mem_cons_self)
      rwa [Take.isGentle, decide_eq_true_eq] at gets
    exact .inl ⟨min limit bytes.length - 1, by rw [Nat.sub_add_cancel (by omega)]⟩
  · rename_i kind rest first
    exact .inr ⟨kind, rfl, gentle (.fault kind) (first ▸ List.mem_cons_self)⟩

/-- Bytes that are offered until all are taken are taken if every write gets on. -/
theorem complete_offer {retry : Fault.Kind → Bool} (bytes : List UInt8)
    (gentle : ∀ take ∈ line.takes, take.isGentle retry) :
    (line.offer retry bytes).1 = .complete := by
  have later {line after : Line π} {bytes : List UInt8} {result : Except Fault.Kind Nat}
      (wrote : line.write bytes = (result, after))
      (gentle : ∀ take ∈ line.takes, take.isGentle retry) :
      ∀ take ∈ after.takes, take.isGentle retry := by
    intro take there
    rw [(kept_write wrote).1] at there
    exact gentle take (List.mem_of_mem_tail there)
  fun_induction offer retry bytes line with
  | case1 line => rfl
  | case2 bytes line nonempty after wrote =>
    rcases write_of_gentle gentle nonempty wrote with ⟨count, took⟩ | ⟨kind, failed, _⟩
    · cases took
    · cases failed
  | case3 bytes line nonempty count after wrote ih => exact ih (later wrote gentle)
  | case4 bytes line nonempty kind after wrote again ih => exact ih (later wrote gentle)
  | case5 bytes line nonempty kind after wrote once =>
    rcases write_of_gentle gentle nonempty wrote with ⟨count, took⟩ | ⟨same, failed, again⟩
    · cases took
    · cases failed
      exact absurd again once

end Line

end Multidrop
