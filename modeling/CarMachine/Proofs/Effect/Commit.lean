import CarMachine.Proofs.Operation.Access
import Mathlib.Data.List.Nodup

namespace CarMachine

/-! Writes done in order.

How far a series of writes gets depends on the size of the register file alone, and what it
leaves in a slot on that slot alone.  So series that share no slot can be exchanged.
-/

namespace Registers

variable {registers : Registers} {index : Nat}

theorem lt_of_read {value : Int32} (found : registers.read index = .ok value) :
    index < registers.size := by
  simp only [read] at found
  split at found
  · assumption
  · contradiction

theorem read_exists (inside : index < registers.size) :
    ∃ value, registers.read index = .ok value := by
  simp [read, inside]

theorem write_exists (value : Int32) (inside : index < registers.size) :
    ∃ after, registers.write index value = .ok after := by
  simp [write, inside]

theorem write_missing (value : Int32) (outside : registers.size ≤ index) :
    registers.write index value = .error ⟨index⟩ := by
  simp [write, Nat.not_lt.mpr outside]

end Registers

namespace Effect

variable {writes first second : List Write} {registers other : Registers} {slot : Nat}

/-- Slots that are not written stay as they are. -/
theorem read_commitWrites_of_not_mem (outside : ∀ write ∈ writes, write.index ≠ slot) :
    (commitWrites writes registers).1.read slot = registers.read slot := by
  induction writes generalizing registers with
  | nil => rfl
  | cons write rest ih =>
      obtain ⟨here, later⟩ := List.forall_mem_cons.mp outside
      cases written : registers.write write.index write.value with
      | error missing => simp only [commitWrites, written]
      | ok next =>
          simp only [commitWrites, written]
          rw [ih later, Registers.read_of_write written, if_neg here.symm]

/-- On files of one size a series of writes gets equally far and treats each slot alike. -/
theorem commitWrites_congr (sizes : other.size = registers.size) :
    (commitWrites writes other).2 = (commitWrites writes registers).2 ∧
      ∀ slot, other.read slot = registers.read slot →
        (commitWrites writes other).1.read slot = (commitWrites writes registers).1.read slot := by
  induction writes generalizing registers other with
  | nil => exact ⟨rfl, fun _ same => same⟩
  | cons write rest ih =>
      rcases Nat.lt_or_ge write.index registers.size with inside | outside
      · obtain ⟨next, written⟩ := Registers.write_exists write.value inside
        obtain ⟨onward, alsoWritten⟩ :=
          Registers.write_exists write.value (Nat.lt_of_lt_of_eq inside sizes.symm)
        have kept : onward.size = next.size := by
          rw [Registers.size_of_write written, Registers.size_of_write alsoWritten, sizes]
        obtain ⟨answer, slots⟩ := ih kept
        simp only [commitWrites, written, alsoWritten]
        refine ⟨answer, fun slot same => slots slot ?_⟩
        rw [Registers.read_of_write written, Registers.read_of_write alsoWritten, same]
      · have missing := Registers.write_missing write.value outside
        have alsoMissing :=
          Registers.write_missing write.value (Nat.le_trans (Nat.le_of_eq sizes) outside)
        simp only [commitWrites, missing, alsoMissing]
        exact ⟨trivial, fun _ same => same⟩

theorem commitWrites_comm (apart : ∀ write ∈ first, ∀ other ∈ second, write.index ≠ other.index) :
    (commitWrites first (commitWrites second registers).1).1 =
      (commitWrites second (commitWrites first registers).1).1 := by
  refine Registers.ext (by simp only [size_commitWrites]) fun slot => ?_
  by_cases inFirst : ∃ write ∈ first, write.index = slot
  · obtain ⟨write, member, rfl⟩ := inFirst
    have untouched : ∀ other ∈ second, other.index ≠ write.index :=
      fun other listed => (apart write member other listed).symm
    rw [read_commitWrites_of_not_mem untouched]
    exact (commitWrites_congr size_commitWrites).2 _ (read_commitWrites_of_not_mem untouched)
  · have untouched : ∀ write ∈ first, write.index ≠ slot :=
      fun write member same => inFirst ⟨write, member, same⟩
    rw [read_commitWrites_of_not_mem untouched]
    exact ((commitWrites_congr size_commitWrites).2 _
      (read_commitWrites_of_not_mem untouched)).symm

theorem pending_cons {write : Write} {rest : List Write} {line : Option String} :
    pending ⟨write :: rest, line⟩ slot =
      (pending ⟨rest, line⟩ slot).or (if write.index = slot then some write.value else none) := by
  simp only [pending, List.reverse_cons, List.find?_append]
  cases found : rest.reverse.find? fun other => other.index == slot with
  | some last => rfl
  | none => by_cases here : write.index = slot <;> simp [here]

theorem pending_append {line : Option String} : pending ⟨first ++ second, line⟩ slot =
    (pending ⟨second, line⟩ slot).or (pending ⟨first, line⟩ slot) := by
  simp only [pending, List.reverse_append, List.find?_append, Option.map_or]

theorem pending_eq_none_iff {effect : Effect} :
    effect.pending slot = none ↔ ∀ write ∈ effect.writes, write.index ≠ slot := by
  simp [pending]

/-- What is pending for a slot is the value of the last write to it. -/
theorem pending_eq_some_iff {effect : Effect} {value : Int32} :
    effect.pending slot = some value ↔
      ∃ before later, effect.writes = before ++ ⟨slot, value⟩ :: later ∧
        ∀ write ∈ later, write.index ≠ slot := by
  obtain ⟨writes, line⟩ := effect
  constructor
  · intro last
    obtain ⟨⟨_, _⟩, found, rfl⟩ := Option.map_eq_some_iff.mp last
    obtain ⟨here, later, before, split, others⟩ := List.find?_eq_some_iff_append.mp found
    cases beq_iff_eq.mp here
    refine ⟨before.reverse, later.reverse, List.reverse_injective (by simp [split]), ?_⟩
    intro write member
    simpa using others write (List.mem_reverse.mp member)
  · rintro ⟨before, later, rfl, others⟩
    have untouched : pending ⟨later, line⟩ slot = none := pending_eq_none_iff.mpr others
    rw [pending_append, pending_cons, untouched, if_pos rfl]
    rfl

/-- Among writes to different slots each one is pending. -/
theorem pending_of_mem {effect : Effect} {write : Write}
    (distinct : (effect.writes.map (·.index)).Nodup) (member : write ∈ effect.writes) :
    effect.pending write.index = some write.value := by
  rw [pending]
  cases last : effect.writes.reverse.find? fun other => other.index == write.index with
  | none =>
      have absent := List.find?_eq_none.mp last write (List.mem_reverse.mpr member)
      simp at absent
  | some other =>
      have here := List.find?_some last
      have listed := List.mem_reverse.mp (List.mem_of_find?_eq_some last)
      rw [List.inj_on_of_nodup_map distinct listed member (beq_iff_eq.mp here)]
      rfl

theorem size_of_commit {effect : Effect} {after : Registers} {answer : Except MissingSlot Unit}
    (committed : effect.commit registers = (after, answer)) : after.size = registers.size := by
  have kept : (effect.commit registers).1.size = registers.size := size_commitWrites
  rwa [committed] at kept

/-- Writes that are all done leave in a slot what is pending for it. -/
theorem read_of_commit {effect : Effect} {after : Registers}
    (done : effect.commit registers = (after, .ok ())) :
    after.read slot = (effect.pending slot).elim (registers.read slot) .ok := by
  obtain ⟨writes, line⟩ := effect
  simp only [commit] at done
  induction writes generalizing registers with
  | nil =>
      cases done
      rfl
  | cons write rest ih =>
      cases written : registers.write write.index write.value with
      | error missing => simp [commitWrites, written] at done
      | ok next =>
          simp only [commitWrites, written] at done
          rw [ih done, pending_cons, Registers.read_of_write written]
          cases pending ⟨rest, line⟩ slot with
          | some last => rfl
          | none =>
              by_cases here : write.index = slot
              · simp [here]
              · simp [here, Ne.symm here]

/-- Writes that are all done leave a slot as it is or give it the value of one of them. -/
theorem read_of_commit_cases {effect : Effect} {after : Registers}
    (done : effect.commit registers = (after, .ok ())) (slot : Nat) :
    after.read slot = registers.read slot ∨
      ∃ write ∈ effect.writes, write.index = slot ∧ after.read slot = .ok write.value := by
  have left := @read_of_commit registers slot effect after done
  cases last : effect.writes.reverse.find? fun write => write.index == slot with
  | none =>
      rw [pending, last] at left
      exact .inl left
  | some write =>
      have here := List.find?_some last
      rw [pending, last] at left
      exact .inr ⟨write, List.mem_reverse.mp (List.mem_of_find?_eq_some last),
        beq_iff_eq.mp here, left⟩

end Effect

end CarMachine
