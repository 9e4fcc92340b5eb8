import CarMachine.Registers.Cells
import CarMachine.Registers.Name

namespace CarMachine

/-! Values, the signed 32-bit numbers, and the register file, a row of slots for them.

A file made by `Registers.ofSize` has room for every car register.  Reading or writing
a slot that does not exist is a defect of the caller; it shows as `MissingSlot` and
never as a value.  Only slots that are not zero take up room, so a file may be as large
as addresses allow; `Registers.ext` says that nothing but the size and what is read
from the slots tells two files apart.
-/

namespace Value

/-- The number as a register holds it, if 32 bits can. -/
def ofInt? (number : Int) : Option Int32 :=
  if Int32.minValue.toInt ≤ number ∧ number ≤ Int32.maxValue.toInt then some (.ofInt number)
  else none

/-- The signed number with the given bits, if they are at most 32. -/
def ofBits? (bits : Nat) : Option Int32 :=
  if bits < 0x100000000 then some (.ofBitVec (BitVec.ofNat 32 bits)) else none

/-- Conversion loses nothing. -/
theorem toInt_of_ofInt? {number : Int} {value : Int32} (fits : ofInt? number = some value) :
    value.toInt = number := by
  simp only [ofInt?] at fits
  split at fits
  · rename_i range
    cases fits
    exact Int32.toInt_ofInt_of_le range.1 (Int.lt_of_le_of_lt range.2 (by decide))
  · contradiction

end Value

/-! ## The register file -/

structure Registers where
  size : Nat
  cells : Cells
  within : cells.Within 0 size
deriving Repr, DecidableEq

/-- A slot was asked for that the register file does not have. -/
structure MissingSlot where
  index : Nat
deriving Repr, DecidableEq

inductive Registers.SizeError where
  /-- The file cannot hold the car registers. -/
  | tooSmall (requested : Nat)
  /-- The slots have more bytes than signed 64-bit addresses can count. -/
  | tooLarge (requested : Nat)
deriving Repr, DecidableEq

namespace Registers

/-- The number of slots that a five-bit register field can name. -/
def defaultSize : Nat := 32

/-- The fewest slots that hold every car register. -/
def leastSize : Nat := CarRegister.fuel.slot + 1

/-- The most slots of four bytes that have addresses. -/
def greatestSize : Nat := 0x7fffffffffffffff / 4

def zeroed (size : Nat) : Registers :=
  { size, cells := [], within := trivial }

def ofSlots (slots : List Int32) : Registers :=
  { size := slots.length
    cells := Cells.ofListAt 0 slots
    within := by simpa using Cells.Within.ofListAt 0 slots }

def slots (registers : Registers) : List Int32 :=
  registers.cells.toListAt 0 registers.size

def isEmpty (registers : Registers) : Bool :=
  registers.size == 0

def ofSize (size : Nat) : Except Registers.SizeError Registers :=
  if size < leastSize then .error (.tooSmall size)
  else if greatestSize < size then .error (.tooLarge size)
  else .ok (zeroed size)

def read (registers : Registers) (index : Nat) : Except MissingSlot Int32 :=
  if index < registers.size then .ok (registers.cells.valueAt index) else .error ⟨index⟩

def write (registers : Registers) (index : Nat) (value : Int32) :
    Except MissingSlot Registers :=
  if inside : index < registers.size then
    .ok { registers with
      cells := registers.cells.store index value
      within := registers.within.store value (Nat.zero_le index) inside }
  else .error ⟨index⟩

def readCar (registers : Registers) (register : CarRegister) : Except MissingSlot Int32 :=
  registers.read register.slot

def writeCar (registers : Registers) (register : CarRegister) (value : Int32) :
    Except MissingSlot Registers :=
  registers.write register.slot value

/-- Whether every bit of a flag is set in the status register. -/
def hasStatus (registers : Registers) (flag : Int32) : Except MissingSlot Bool :=
  (registers.readCar .status).map fun status => status &&& flag == flag

theorem slot_lt_leastSize (register : CarRegister) : register.slot < leastSize := by
  cases register <;> decide

theorem slots_ofSlots (slots : List Int32) : (ofSlots slots).slots = slots :=
  Cells.toListAt_ofListAt 0 slots

theorem read_zeroed {size index : Nat} (inside : index < size) :
    (zeroed size).read index = .ok 0 := by
  simp only [read, zeroed, if_pos inside, Cells.valueAt]

theorem size_of_write {registers after : Registers} {index : Nat} {value : Int32}
    (written : registers.write index value = .ok after) : after.size = registers.size := by
  simp only [write] at written
  split at written
  · cases written
    rfl
  · contradiction

theorem read_of_write {registers after : Registers} {index : Nat} {value : Int32}
    (written : registers.write index value = .ok after) (other : Nat) :
    after.read other = if other = index then .ok value else registers.read other := by
  simp only [write] at written
  split at written
  · rename_i inside
    cases written
    simp only [read, Cells.valueAt_store registers.within]
    by_cases same : other = index
    · simp [same, inside]
    · simp [same]
  · contradiction

theorem ext {first second : Registers} (sizes : first.size = second.size)
    (reads : ∀ index, first.read index = second.read index) : first = second := by
  obtain ⟨size, left, inside⟩ := first
  obtain ⟨_, right, within⟩ := second
  simp only at sizes
  subst sizes
  have same : left = right := by
    refine Cells.ext inside within fun index => ?_
    by_cases slot : index < size
    · simpa [read, slot] using reads index
    · rw [inside.valueAt_of_le (Nat.le_of_not_lt slot),
        within.valueAt_of_le (Nat.le_of_not_lt slot)]
  subst same
  rfl

end Registers

namespace Registers.SizeError

def message : Registers.SizeError → String
  | .tooSmall requested =>
      "register file needs at least " ++ Text.decimal Registers.leastSize ++ " slots, got "
        ++ Text.decimal requested
  | .tooLarge requested =>
      "register file has room for " ++ Text.decimal Registers.greatestSize ++ " slots, got "
        ++ Text.decimal requested

end Registers.SizeError

end CarMachine
