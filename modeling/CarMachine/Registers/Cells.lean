namespace CarMachine

/-! Sparse rows of numbers: only the ones that are not zero are kept, by increasing
index.

A row that keeps `Within` is determined by the numbers it holds (`Cells.ext`), so equal
contents mean equal rows; storing a number keeps `Within` and changes the number at one
index alone (`Cells.valueAt_store`).
-/

/-- The numbers that are not zero with their indices. -/
abbrev Cells := List (Nat × Int32)

namespace Cells

def valueAt (index : Nat) : Cells → Int32
  | [] => 0
  | (here, value) :: rest => if index = here then value else valueAt index rest

/-- The row with one number changed. -/
def store (index : Nat) (value : Int32) : Cells → Cells
  | [] => if value = 0 then [] else [(index, value)]
  | (here, old) :: rest =>
      if here < index then (here, old) :: store index value rest
      else
        let others := if here = index then rest else (here, old) :: rest
        if value = 0 then others else (index, value) :: others

/-- The row that holds the numbers of a list from an index on. -/
def ofListAt (index : Nat) : List Int32 → Cells
  | [] => []
  | value :: rest =>
      if value = 0 then ofListAt (index + 1) rest
      else (index, value) :: ofListAt (index + 1) rest

/-- The numbers of a row at as many indices as asked for, from an index on. -/
def toListAt (index : Nat) : Nat → Cells → List Int32
  | 0, _ => []
  | count + 1, [] => 0 :: toListAt (index + 1) count []
  | count + 1, (here, value) :: rest =>
      if here = index then value :: toListAt (index + 1) count rest
      else 0 :: toListAt (index + 1) count ((here, value) :: rest)

/-- The indices increase, they lie between two bounds, and no number is zero. -/
def Within (low high : Nat) : Cells → Prop
  | [] => True
  | (index, value) :: rest =>
      low ≤ index ∧ index < high ∧ value ≠ 0 ∧ Within (index + 1) high rest

theorem Within.widen {lower low high : Nat} {cells : Cells}
    (within : cells.Within low high) (below : lower ≤ low) : cells.Within lower high := by
  cases cells with
  | nil => trivial
  | cons cell rest => exact ⟨Nat.le_trans below within.1, within.2⟩

theorem Within.ofListAt (index : Nat) (values : List Int32) :
    (Cells.ofListAt index values).Within index (index + values.length) := by
  induction values generalizing index with
  | nil => trivial
  | cons value rest ih =>
      have tail : (Cells.ofListAt (index + 1) rest).Within (index + 1)
          (index + (value :: rest).length) := by
        have bound : index + (value :: rest).length = index + 1 + rest.length := by
          simp only [List.length_cons]
          omega
        rw [bound]
        exact ih (index + 1)
      simp only [Cells.ofListAt]
      split
      · exact tail.widen (Nat.le_succ index)
      · rename_i zero
        refine ⟨Nat.le_refl index, ?_, zero, tail⟩
        simp only [List.length_cons]
        omega

theorem Within.store {low high index : Nat} {cells : Cells}
    (within : cells.Within low high) (value : Int32) (above : low ≤ index)
    (below : index < high) : (cells.store index value).Within low high := by
  induction cells generalizing low with
  | nil =>
      simp only [Cells.store]
      split
      · trivial
      · exact ⟨above, below, by assumption, trivial⟩
  | cons cell rest ih =>
      obtain ⟨here, old⟩ := cell
      obtain ⟨least, inside, filled, tail⟩ := within
      simp only [Cells.store]
      split
      · rename_i before
        exact ⟨least, inside, filled, ih tail before⟩
      · rename_i reached
        have others : Within (index + 1) high
            (if here = index then rest else (here, old) :: rest) := by
          split
          · rename_i same
            exact same ▸ tail
          · rename_i different
            exact ⟨by omega, inside, filled, tail⟩
        split
        · exact others.widen (by omega)
        · exact ⟨above, below, by assumption, others⟩

/-- A row that starts later has a zero here. -/
theorem Within.toListAt_succ {index high : Nat} {cells : Cells}
    (within : cells.Within (index + 1) high) (count : Nat) :
    Cells.toListAt index (count + 1) cells = 0 :: Cells.toListAt (index + 1) count cells := by
  cases cells with
  | nil => rfl
  | cons cell rest =>
      have later : cell.1 ≠ index := by
        have least := within.1
        omega
      simp only [Cells.toListAt, if_neg later]

theorem toListAt_ofListAt (index : Nat) (values : List Int32) :
    toListAt index values.length (ofListAt index values) = values := by
  induction values generalizing index with
  | nil => rfl
  | cons value rest ih =>
      simp only [List.length_cons, ofListAt]
      split
      · rename_i zero
        rw [(Within.ofListAt (index + 1) rest).toListAt_succ, ih, zero]
      · simp only [toListAt, if_true, ih]

theorem Within.valueAt_of_lt {low high index : Nat} {cells : Cells}
    (within : cells.Within low high) (before : index < low) : cells.valueAt index = 0 := by
  induction cells generalizing low with
  | nil => rfl
  | cons cell rest ih =>
      obtain ⟨here, old⟩ := cell
      obtain ⟨least, _, _, tail⟩ := within
      have different : index ≠ here := by omega
      simp only [valueAt, if_neg different]
      exact ih tail (by omega)

theorem Within.valueAt_of_le {low high index : Nat} {cells : Cells}
    (within : cells.Within low high) (past : high ≤ index) : cells.valueAt index = 0 := by
  induction cells generalizing low with
  | nil => rfl
  | cons cell rest ih =>
      obtain ⟨here, old⟩ := cell
      obtain ⟨_, inside, _, tail⟩ := within
      have different : index ≠ here := by omega
      simp only [valueAt, if_neg different]
      exact ih tail

/-- A number goes in front of a row that does not hold it yet. -/
theorem valueAt_put {index : Nat} {cells : Cells} (absent : cells.valueAt index = 0)
    (other : Nat) (value : Int32) :
    Cells.valueAt other (if value = 0 then cells else (index, value) :: cells)
      = if other = index then value else cells.valueAt other := by
  by_cases zero : value = 0
  · by_cases same : other = index <;> simp [zero, same, absent]
  · simp [zero, valueAt]

theorem valueAt_store {low high : Nat} {cells : Cells} (within : cells.Within low high)
    (index other : Nat) (value : Int32) :
    (cells.store index value).valueAt other
      = if other = index then value else cells.valueAt other := by
  induction cells generalizing low with
  | nil => exact valueAt_put rfl other value
  | cons cell rest ih =>
      obtain ⟨here, old⟩ := cell
      obtain ⟨_, _, _, tail⟩ := within
      simp only [store]
      split
      · simp only [valueAt, ih tail]
        by_cases first : other = here
        · have different : other ≠ index := by omega
          simp [first, first ▸ different]
        · simp [first]
      · have missing : valueAt index rest = 0 := tail.valueAt_of_lt (by omega)
        by_cases same : here = index
        · simp only [if_pos same]
          rw [valueAt_put missing]
          by_cases hit : other = index
          · simp [hit]
          · simp [hit, valueAt, same]
        · simp only [if_neg same]
          refine valueAt_put ?_ other value
          have different : index ≠ here := fun equal => same equal.symm
          simp only [valueAt, if_neg different]
          exact missing

/-- Two rows that hold the same numbers are the same. -/
theorem ext {low high : Nat} {first second : Cells} (left : first.Within low high)
    (right : second.Within low high)
    (same : ∀ index, first.valueAt index = second.valueAt index) : first = second := by
  induction first generalizing low second with
  | nil =>
      cases second with
      | nil => rfl
      | cons cell rest =>
          have value := same cell.1
          simp only [valueAt, if_true] at value
          exact absurd value.symm right.2.2.1
  | cons cell rest ih =>
      cases second with
      | nil =>
          have value := same cell.1
          simp only [valueAt, if_true] at value
          exact absurd value left.2.2.1
      | cons other others =>
          obtain ⟨here, value⟩ := cell
          obtain ⟨there, number⟩ := other
          obtain ⟨_, _, filled, tail⟩ := left
          obtain ⟨_, _, stocked, last⟩ := right
          have position : here = there := by
            rcases Nat.lt_trichotomy here there with before | equal | after
            · have found := same here
              have later : here ≠ there := by omega
              simp only [valueAt, if_true, if_neg later] at found
              rw [last.valueAt_of_lt (by omega)] at found
              exact absurd found filled
            · exact equal
            · have found := same there
              have later : there ≠ here := by omega
              simp only [valueAt, if_true, if_neg later] at found
              rw [tail.valueAt_of_lt (by omega)] at found
              exact absurd found.symm stocked
          subst position
          have content := same here
          simp only [valueAt, if_true] at content
          have remaining : rest = others := by
            refine ih tail last fun index => ?_
            by_cases before : index < here + 1
            · rw [tail.valueAt_of_lt before, last.valueAt_of_lt before]
            · have found := same index
              have different : index ≠ here := by omega
              simpa only [valueAt, if_neg different] using found
          rw [content, remaining]

end Cells

end CarMachine
