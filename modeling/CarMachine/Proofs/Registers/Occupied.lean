import CarMachine.Registers.Basic
import Mathlib.Data.List.Pairwise

namespace CarMachine

/-! The slots of a register file that are not zero. -/

namespace Cells

variable {low high index : Nat} {value : Int32} {cells : Cells}

theorem Within.low_le (within : cells.Within low high) (member : (index, value) ∈ cells) :
    low ≤ index := by
  induction cells generalizing low with
  | nil => contradiction
  | cons cell rest ih =>
      obtain ⟨least, _, _, tail⟩ := within
      rcases List.mem_cons.mp member with rfl | later
      · exact least
      · have after := ih tail later
        omega

theorem Within.increasing (within : cells.Within low high) :
    cells.Pairwise fun first second => first.1 < second.1 := by
  induction cells generalizing low with
  | nil => exact .nil
  | cons cell rest ih =>
      obtain ⟨_, _, _, tail⟩ := within
      exact .cons (fun _ later => tail.low_le later) (ih tail)

theorem Within.mem_iff (within : cells.Within low high) :
    (index, value) ∈ cells ↔ value ≠ 0 ∧ cells.valueAt index = value := by
  induction cells generalizing low with
  | nil =>
      simp only [List.not_mem_nil, valueAt, false_iff, not_and]
      exact fun filled => filled.symm
  | cons cell rest ih =>
      obtain ⟨here, old⟩ := cell
      obtain ⟨_, _, filled, tail⟩ := within
      simp only [List.mem_cons, Prod.mk.injEq, ih tail, valueAt]
      by_cases same : index = here
      · have before : index < here + 1 := by omega
        have absent : valueAt index rest = 0 := tail.valueAt_of_lt before
        rw [if_pos same, absent]
        constructor
        · rintro (⟨_, rfl⟩ | ⟨nonzero, zero⟩)
          · exact ⟨filled, rfl⟩
          · exact absurd zero.symm nonzero
        · rintro ⟨_, rfl⟩
          exact .inl ⟨same, rfl⟩
      · simp only [same, false_and, false_or, if_false]

end Cells

namespace Registers

variable {registers : Registers} {slot : Nat} {value : Int32}

theorem read_eq_ok_iff : registers.read slot = .ok value ↔
    slot < registers.size ∧ registers.cells.valueAt slot = value := by
  rw [read]
  by_cases inside : slot < registers.size <;> simp [inside]

/-- What a slot holds, together with its number, if that is not zero. -/
def filled? (registers : Registers) (slot : Nat) : Option (Nat × Int32) :=
  match registers.read slot with
  | .ok value => if value = 0 then none else some (slot, value)
  | .error _ => none

/-- The slots that are not zero by increasing number, with their values. -/
def occupied (registers : Registers) : List (Nat × Int32) :=
  (List.range registers.size).filterMap registers.filled?

theorem filled?_eq_some_iff {cell : Nat × Int32} : registers.filled? slot = some cell ↔
    cell.1 = slot ∧ cell.2 ≠ 0 ∧ registers.read slot = .ok cell.2 := by
  rw [filled?]
  cases found : registers.read slot with
  | error missing => simp
  | ok value =>
      obtain ⟨here, held⟩ := cell
      by_cases zero : value = 0
      · simp only [zero, if_true, reduceCtorEq, Except.ok.injEq, false_iff]
        rintro ⟨_, nonzero, rfl⟩
        contradiction
      · simp only [zero, if_false, Option.some.injEq, Prod.mk.injEq, Except.ok.injEq]
        constructor
        · rintro ⟨rfl, rfl⟩
          exact ⟨rfl, zero, rfl⟩
        · rintro ⟨rfl, _, rfl⟩
          exact ⟨rfl, rfl⟩

theorem mem_occupied_iff :
    (slot, value) ∈ registers.occupied ↔ value ≠ 0 ∧ registers.read slot = .ok value := by
  simp only [occupied, List.mem_filterMap, List.mem_range, filled?_eq_some_iff]
  constructor
  · rintro ⟨_, _, rfl, nonzero, found⟩
    exact ⟨nonzero, found⟩
  · rintro ⟨nonzero, found⟩
    exact ⟨slot, (read_eq_ok_iff.mp found).1, rfl, nonzero, found⟩

theorem increasing_occupied :
    registers.occupied.Pairwise fun first second => first.1 < second.1 := by
  refine List.pairwise_lt_range.filterMap _ fun first second before cell found next alsoFound => ?_
  rw [(filled?_eq_some_iff.mp found).1, (filled?_eq_some_iff.mp alsoFound).1]
  exact before

theorem cells_eq_occupied (registers : Registers) : registers.cells = registers.occupied := by
  have within := registers.within
  refine List.Perm.eq_of_pairwise ?_ within.increasing increasing_occupied ?_
  · intro first second _ _ before after
    omega
  · refine (List.perm_ext_iff_of_nodup ?_ ?_).mpr ?_
    · exact within.increasing.imp fun before same => by simp [same] at before
    · exact increasing_occupied.imp fun before same => by simp [same] at before
    · rintro ⟨slot, value⟩
      rw [within.mem_iff, mem_occupied_iff, read_eq_ok_iff]
      constructor
      · rintro ⟨filled, rfl⟩
        refine ⟨filled, ?_, rfl⟩
        by_contra outside
        exact filled (within.valueAt_of_le (Nat.le_of_not_lt outside))
      · rintro ⟨filled, _, found⟩
        exact ⟨filled, found⟩

end Registers

end CarMachine
