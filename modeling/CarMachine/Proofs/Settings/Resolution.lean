import CarMachine.Assignment
import CarMachine.Proofs.Effect.Commit
import CarMachine.Proofs.Registers.Spelling
import CarMachine.Proofs.Settings.Order

namespace CarMachine

/-! Initial values stored one after the other, and which of them a slot gets when several names
in settings stand for it.
-/

namespace Assignment

/-- The last of the assignments to a slot gives it this value. -/
def LastTo (assignments : List Assignment) (slot : Nat) (value : Int32) : Prop :=
  ∃ before later, assignments = before ++ ⟨slot, value⟩ :: later ∧
    ∀ other ∈ later, other.index ≠ slot

/-- What assignments want done. -/
def effectOf (assignments : List Assignment) : Effect where
  writes := assignments.map fun assignment => ⟨assignment.index, assignment.value⟩

variable {assignments first rest : List Assignment} {registers : Registers} {slot : Nat}
  {value : Int32}

theorem applyAll_commits
    (inside : ∀ assignment ∈ assignments, assignment.index < registers.size) :
    ∃ after, applyAll registers assignments = .ok after ∧
      (effectOf assignments).commit registers = (after, .ok ()) := by
  induction assignments generalizing registers with
  | nil => exact ⟨registers, rfl, rfl⟩
  | cons assignment rest ih =>
      obtain ⟨here, later⟩ := List.forall_mem_cons.mp inside
      obtain ⟨next, written⟩ := Registers.write_exists assignment.value here
      rw [← Registers.size_of_write written] at later
      obtain ⟨after, applied, committed⟩ := ih later
      refine ⟨after, ?_, ?_⟩
      · simp only [applyAll, apply, written, applied]
      · simpa only [effectOf, Effect.commit, List.map_cons, Effect.commitWrites, written]
          using committed

theorem pending_append : (effectOf (first ++ rest)).pending slot =
    ((effectOf rest).pending slot).or ((effectOf first).pending slot) := by
  rw [effectOf, List.map_append, Effect.pending_append]
  rfl

theorem pending_eq_none_iff : (effectOf assignments).pending slot = none ↔
    ∀ other ∈ assignments, other.index ≠ slot := by
  rw [Effect.pending_eq_none_iff, effectOf, List.forall_mem_map]

theorem pending_eq_some_iff :
    (effectOf assignments).pending slot = some value ↔ LastTo assignments slot value := by
  rw [Effect.pending_eq_some_iff, effectOf, LastTo]
  constructor
  · rintro ⟨_, _, split, others⟩
    obtain ⟨before, _, rfl, rfl, tail⟩ := List.map_eq_append_iff.mp split
    obtain ⟨⟨_, _⟩, later, rfl, same, rfl⟩ := List.map_eq_cons_iff.mp tail
    cases same
    exact ⟨before, later, rfl, fun _ member => others _ (List.mem_map_of_mem member)⟩
  · rintro ⟨before, later, rfl, others⟩
    exact ⟨_, _, List.map_append, List.forall_mem_map.mpr others⟩

end Assignment

namespace Settings

/-- Of the names for a slot this one, with its value, is the last in the order of bytes. -/
structure Wins (named : List (String × Int32)) (slot : Nat) (name : String) (value : Int32) :
    Prop where
  member : (name, value) ∈ named
  here : RegisterName.resolve? name = some slot
  last : ∀ other ∈ named, RegisterName.resolve? other.1 = some slot →
    Text.bytesOf other.1 ≤ Text.bytesOf name

def assignment? (entry : String × Int32) : Option Assignment :=
  (RegisterName.resolve? entry.1).map fun index => ⟨index, entry.2⟩

variable {named : List (String × Int32)} {given : List Assignment} {entry : String × Int32}
  {assignment : Assignment} {slot : Nat} {value : Int32}

theorem assignment?_eq_some_iff : assignment? entry = some assignment ↔
    RegisterName.resolve? entry.1 = some assignment.index ∧ entry.2 = assignment.value := by
  obtain ⟨name, number⟩ := entry
  obtain ⟨index, value⟩ := assignment
  simp [assignment?]

/-- Either all names stand for slots, or there is a first one that does not. -/
theorem assignments_cases (named : List (String × Int32)) :
    (∃ given, assignments named = .ok given ∧ named.map assignment? = given.map some) ∨
    ∃ before entry later, named = before ++ entry :: later ∧
      (∀ earlier ∈ before, RegisterName.resolve? earlier.1 ≠ none) ∧
      RegisterName.resolve? entry.1 = none ∧
      assignments named = .error (.unknownRegister entry.1) := by
  induction named with
  | nil => exact .inl ⟨[], rfl, rfl⟩
  | cons entry rest ih =>
      cases resolved : RegisterName.resolve? entry.1 with
      | none =>
          refine .inr ⟨[], entry, rest, rfl, List.forall_mem_nil _, resolved, ?_⟩
          simp only [assignments, resolved]
      | some index =>
          rcases ih with ⟨given, read, all⟩ | ⟨before, bad, later, rfl, known, unknown, read⟩
          · refine .inl ⟨⟨index, entry.2⟩ :: given, ?_, ?_⟩
            · simp only [assignments, resolved, read, Except.map]
            · simp only [List.map_cons, all, assignment?, resolved, Option.map_some]
          · refine .inr ⟨entry :: before, bad, later, rfl, ?_, unknown, ?_⟩
            · exact List.forall_mem_cons.mpr ⟨by simp [resolved], known⟩
            · simp only [assignments, resolved, read, Except.map]

theorem resolved_of_assignments (read : assignments named = .ok given) :
    named.map assignment? = given.map some := by
  rcases assignments_cases named with ⟨other, alsoRead, resolved⟩ | ⟨_, _, _, _, _, _, failed⟩
  · cases read.symm.trans alsoRead
    exact resolved
  · rw [read] at failed
    contradiction

theorem known_of_resolved (resolved : named.map assignment? = given.map some) :
    ∀ entry ∈ named, RegisterName.resolve? entry.1 ≠ none := by
  intro entry member unknown
  have listed : assignment? entry ∈ given.map some := resolved ▸ List.mem_map_of_mem member
  simp [assignment?, unknown] at listed

theorem mem_iff_of_resolved (resolved : named.map assignment? = given.map some) :
    assignment ∈ given ↔ ∃ entry ∈ named, assignment? entry = some assignment := by
  rw [← List.mem_map, resolved, List.mem_map_of_injective (Option.some_injective _)]

theorem index_lt_of_resolved (resolved : named.map assignment? = given.map some) :
    ∀ assignment ∈ given, assignment.index < 32 := by
  intro assignment member
  obtain ⟨entry, _, read⟩ := (mem_iff_of_resolved resolved).mp member
  exact RegisterName.resolve?_lt (assignment?_eq_some_iff.mp read).1

theorem untouched_iff (resolved : named.map assignment? = given.map some) :
    (∀ other ∈ given, other.index ≠ slot) ↔
      ∀ entry ∈ named, RegisterName.resolve? entry.1 ≠ some slot := by
  constructor
  · intro untouched entry member here
    have listed : (⟨slot, entry.2⟩ : Assignment) ∈ given :=
      (mem_iff_of_resolved resolved).mpr ⟨entry, member, assignment?_eq_some_iff.mpr ⟨here, rfl⟩⟩
    exact untouched _ listed rfl
  · rintro unnamed other listed rfl
    obtain ⟨entry, member, read⟩ := (mem_iff_of_resolved resolved).mp listed
    exact unnamed entry member (assignment?_eq_some_iff.mp read).1

theorem lastTo_iff
    (ordered : named.Pairwise fun first second => Text.bytesOf first.1 < Text.bytesOf second.1)
    (resolved : named.map assignment? = given.map some) :
    Assignment.LastTo given slot value ↔ ∃ name, Wins named slot name value := by
  -- the names stand in the order of their bytes, so the last one in the list is the greatest
  constructor
  · rintro ⟨before, later, rfl, others⟩
    rw [List.map_append, List.map_cons] at resolved
    obtain ⟨first, _, rfl, _, tail⟩ := List.map_eq_append_iff.mp resolved
    obtain ⟨⟨name, _⟩, rest, rfl, read, remaining⟩ := List.map_eq_cons_iff.mp tail
    obtain ⟨here, rfl⟩ := assignment?_eq_some_iff.mp read
    refine ⟨name, by simp, here, fun other member known => ?_⟩
    rcases List.mem_append.mp member with early | late
    · exact List.le_of_lt ((List.pairwise_append.mp ordered).2.2 other early _ (.head _))
    · rcases List.mem_cons.mp late with rfl | beyond
      · exact List.le_refl _
      · exact absurd known ((untouched_iff remaining).mp others other beyond)
  · rintro ⟨name, member, here, last⟩
    obtain ⟨first, rest, rfl⟩ := List.append_of_mem member
    rw [List.map_append, List.map_cons] at resolved
    obtain ⟨before, _, rfl, _, tail⟩ := List.map_eq_append_iff.mp resolved.symm
    obtain ⟨⟨index, number⟩, later, rfl, read, remaining⟩ := List.map_eq_cons_iff.mp tail
    obtain ⟨alsoHere, rfl⟩ := assignment?_eq_some_iff.mp read.symm
    cases here.symm.trans alsoHere
    refine ⟨before, later, rfl, (untouched_iff remaining.symm).mpr fun other beyond known => ?_⟩
    have after := (List.pairwise_cons.mp (List.pairwise_append.mp ordered).2.1).1 other beyond
    exact List.not_lt.mpr (last other (by simp [beyond]) known) after

end Settings

end CarMachine
