import CarMachine.Operation
import CarMachine.Proofs.Text.Numeral

namespace CarMachine

/-! What each operation answers.

An operation answers with an effect exactly if the slots that it reads are there, and the
effect is given by their values.  Only a sum with an immediate number can fault instead.
-/

namespace Registers

variable {registers : Registers} {index : Nat}

theorem fetch_eq (registers : Registers) (index : Nat) : registers.fetch index =
    if index < registers.size then .ok (registers.cells.valueAt index)
    else .error (.missingSlot ⟨index⟩) := by
  by_cases inside : index < registers.size <;> simp only [fetch, read, inside] <;> rfl

theorem fetch_eq_ok_iff {value : Int32} :
    registers.fetch index = .ok value ↔ registers.read index = .ok value := by
  by_cases inside : index < registers.size <;> simp [fetch_eq, read, inside]

end Registers

namespace Operation

variable {operands : Operands} {registers : Registers} {effect : Effect}

theorem runArithmetic_eq_ok_iff {kind : Arithmetic} :
    runArithmetic kind operands registers = .ok effect ↔
      ∃ source target, registers.read (operands.register 1) = .ok source ∧
        registers.read (operands.register 2) = .ok target ∧
        effect = { writes := [⟨operands.register 0, kind.apply source target⟩] } := by
  simp only [← Registers.fetch_eq_ok_iff]
  cases first : registers.fetch (operands.register 1) with
  | error trap => simp [runArithmetic, first]
  | ok source =>
      cases second : registers.fetch (operands.register 2) with
      | error trap => simp [runArithmetic, first, second]
      | ok target => simp [runArithmetic, first, second, Effect.write, eq_comm]

theorem runMove_eq_ok_iff : runMove operands registers = .ok effect ↔
    ∃ source, registers.read (operands.register 1) = .ok source ∧
      effect = { writes := [⟨operands.register 0, source⟩] } := by
  simp only [← Registers.fetch_eq_ok_iff]
  cases first : registers.fetch (operands.register 1) with
  | error trap => simp [runMove, first]
  | ok source => simp [runMove, first, Effect.write, eq_comm]

theorem runAddImmediate_eq_ok_iff : runAddImmediate operands registers = .ok effect ↔
    ∃ source sum, registers.read (operands.register 1) = .ok source ∧
      sum.toInt = source.toInt + (operands.value 2).signedLowHalf.toInt ∧
      effect = { writes := [⟨operands.register 0, sum⟩] } := by
  simp only [← Registers.fetch_eq_ok_iff, ← Value.ofInt?_eq_some_iff]
  cases first : registers.fetch (operands.register 1) with
  | error trap => simp [runAddImmediate, first]
  | ok source =>
      cases fits : Value.ofInt? (source.toInt + (operands.value 2).signedLowHalf.toInt) with
      | none => simp [runAddImmediate, first, fits]
      | some sum => simp [runAddImmediate, first, fits, Effect.write, eq_comm]

/-- A sum faults if it does not fit, and there is no other fault. -/
theorem runAddImmediate_eq_fault_iff {cause : Fault.Cause} :
    runAddImmediate operands registers = .error (.fault cause) ↔
      ∃ source, registers.read (operands.register 1) = .ok source ∧
        (source.toInt + (operands.value 2).signedLowHalf.toInt < -2 ^ 31 ∨
          2 ^ 31 ≤ source.toInt + (operands.value 2).signedLowHalf.toInt) := by
  obtain rfl : cause = .arithmeticOverflow := by cases cause; rfl
  simp only [← Value.ofInt?_eq_none_iff]
  by_cases inside : operands.register 1 < registers.size
  · simp only [runAddImmediate, Registers.fetch_eq, Registers.read, inside, if_true,
      Except.ok.injEq, exists_eq_left']
    generalize registers.cells.valueAt (operands.register 1) = source
    cases Value.ofInt? (source.toInt + (operands.value 2).signedLowHalf.toInt) <;> simp
  · simp [runAddImmediate, Registers.fetch_eq, Registers.read, inside]

theorem adjust_eq_ok_iff {register : CarRegister} {low high : Int32} {say : Int32 → String} :
    adjust register low high say operands registers = .ok effect ↔
      ∃ change current, registers.read (operands.register 0) = .ok change ∧
        registers.readCar register = .ok current ∧
        effect = {
          writes := [⟨register.slot, Vehicle.clamp (current.toInt + change.toInt) low high⟩]
          line := some (say (Vehicle.clamp (current.toInt + change.toInt) low high)) } := by
  simp only [Registers.readCar, ← Registers.fetch_eq_ok_iff]
  cases first : registers.fetch (operands.register 0) with
  | error trap => simp [adjust, first]
  | ok change =>
      cases own : registers.fetch register.slot with
      | error trap => simp [adjust, first, own]
      | ok current =>
          simp [adjust, first, own, Effect.writeCar, Effect.write, Effect.emit, eq_comm]

theorem assign_eq_ok_iff {register : CarRegister} {shape : Int32 → Int32}
    {say? : Int32 → Option String} :
    assign register shape say? operands registers = .ok effect ↔
      ∃ operand, registers.read (operands.register 0) = .ok operand ∧
        effect = {
          writes := [⟨register.slot, shape operand⟩]
          line := say? (shape operand) } := by
  simp only [← Registers.fetch_eq_ok_iff]
  cases first : registers.fetch (operands.register 0) with
  | error trap => simp [assign, first]
  | ok operand => simp [assign, first, Effect.writeCar, Effect.write, eq_comm]

theorem runEmergencyBrake_eq_ok_iff : runEmergencyBrake registers = .ok effect ↔
    ∃ status, registers.readCar .status = .ok status ∧
      effect = {
        writes := [⟨CarRegister.speed.slot, 0⟩,
          ⟨CarRegister.status.slot, status ||| Vehicle.brakeFlag⟩]
        line := some "Your car is now stopped \n" } := by
  simp only [Registers.readCar, ← Registers.fetch_eq_ok_iff]
  cases own : registers.fetch CarRegister.status.slot with
  | error trap => simp [runEmergencyBrake, own]
  | ok status =>
      simp [runEmergencyBrake, own, Effect.writeCar, Effect.write, Effect.emit, eq_comm]

theorem runPopHood_eq_ok_iff : runPopHood registers = .ok effect ↔
    ∃ status, registers.readCar .status = .ok status ∧
      effect = {
        writes := [⟨CarRegister.status.slot, status ||| Vehicle.hoodFlag⟩]
        line := some "the hood is now popped \n" } := by
  simp only [Registers.readCar, ← Registers.fetch_eq_ok_iff]
  cases own : registers.fetch CarRegister.status.slot with
  | error trap => simp [runPopHood, own]
  | ok status => simp [runPopHood, own, Effect.writeCar, Effect.write, Effect.emit, eq_comm]

end Operation

end CarMachine
