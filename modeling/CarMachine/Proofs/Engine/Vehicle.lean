import CarMachine.Proofs.Engine.Policy
import CarMachine.Proofs.Engine.Retirement
import CarMachine.Proofs.Operation.Vehicle

namespace CarMachine

/-! Control of the car, word by word.

The operand register may be a car register, even the one that the instruction sets: both are
read before anything is written.
-/

namespace Engine

variable {engine : Engine} {word : Word} {decoded : Decoded}

theorem Made.readCar_exists (made : engine.Made) (register : CarRegister) :
    ∃ value, engine.registers.readCar register = .ok value :=
  Registers.read_exists (made.slot_lt register)

theorem Made.stores_of_sets {register : CarRegister} {value : Int → Int → Int}
    {line : Int → Option String} (made : engine.Made)
    (accepted : engine.table.decode word = .ok decoded)
    (sets : decoded.entry.operation.Sets register value line) :
    ∃ operand current result : Int32,
      engine.registers.read (decoded.entry.template.slotOf .destination word) = .ok operand ∧
      engine.registers.readCar register = .ok current ∧
      result.toInt = value current.toInt operand.toInt ∧
      engine.Stores word ⟨decoded.mnemonic, line result.toInt⟩ [⟨register.slot, result⟩] := by
  obtain ⟨operand, first⟩ := made.read_exists accepted .destination (by simp)
  obtain ⟨current, own⟩ := made.readCar_exists register
  obtain ⟨result, exact, ran⟩ := sets _ _ operand current first own
  rw [made.table.register_of_decode accepted] at first
  exact ⟨operand, current, result, first, own, exact, made.stores accepted ran⟩

theorem Made.stores_emergencyBrake (made : engine.Made)
    (accepted : engine.table.decode word = .ok decoded)
    (bound : decoded.entry.operation = .emergencyBrake) :
    ∃ status, engine.registers.readCar .status = .ok status ∧
      engine.Stores word ⟨decoded.mnemonic, some "Your car is now stopped \n"⟩
        [⟨CarRegister.speed.slot, 0⟩, ⟨CarRegister.status.slot, status ||| 1⟩] := by
  obtain ⟨status, own⟩ := made.readCar_exists .status
  have ran := Operation.runEmergencyBrake_eq_ok_iff.mpr ⟨status, own, rfl⟩
  exact ⟨status, own, made.stores accepted (by rw [bound]; exact ran)⟩

theorem Made.stores_popHood (made : engine.Made)
    (accepted : engine.table.decode word = .ok decoded)
    (bound : decoded.entry.operation = .popHood) :
    ∃ status, engine.registers.readCar .status = .ok status ∧
      engine.Stores word ⟨decoded.mnemonic, some "the hood is now popped \n"⟩
        [⟨CarRegister.status.slot, status ||| 2⟩] := by
  obtain ⟨status, own⟩ := made.readCar_exists .status
  have ran := Operation.runPopHood_eq_ok_iff.mpr ⟨status, own, rfl⟩
  exact ⟨status, own, made.stores accepted (by rw [bound]; exact ran)⟩

/-- What the built-in instructions of the car do, in exact integers.  They always retire, they
write no other register, and the number in a line is the one that the register now holds. -/
theorem step_vehicle_exact (made : engine.Made) (builtIn : engine.table = CarAssembly.table)
    (accepted : engine.table.decode word = .ok decoded) :
    (∀ rule ∈ Vehicle.rules, decoded.mnemonic = CarAssembly.mnemonicOf rule.operation →
      ∃ operand current result : Int32,
        engine.registers.read (decoded.entry.template.slotOf .destination word) = .ok operand ∧
        engine.registers.readCar rule.register = .ok current ∧
        result.toInt = rule.value current.toInt operand.toInt ∧
        engine.Stores word ⟨decoded.mnemonic, rule.line result.toInt⟩
          [⟨rule.register.slot, result⟩]) ∧
    (decoded.mnemonic = "ebrake" →
      ∃ status, engine.registers.readCar .status = .ok status ∧
        engine.Stores word ⟨decoded.mnemonic, some "Your car is now stopped \n"⟩
          [⟨CarRegister.speed.slot, 0⟩, ⟨CarRegister.status.slot, status ||| 1⟩]) ∧
    (decoded.mnemonic = "pophood" →
      ∃ status, engine.registers.readCar .status = .ok status ∧
        engine.Stores word ⟨decoded.mnemonic, some "the hood is now popped \n"⟩
          [⟨CarRegister.status.slot, status ||| 2⟩]) := by
  have member := (made.table.legal_of_decode accepted).member
  rw [builtIn] at member
  refine ⟨?ruled, ?brake, ?hood⟩
  case ruled =>
    intro rule listed named
    have sets := Vehicle.sets_of_mem_rules rule listed
    rw [← CarAssembly.operation_of_mnemonic member _ named] at sets
    exact made.stores_of_sets accepted sets
  case brake =>
    intro named
    exact made.stores_emergencyBrake accepted
      (CarAssembly.operation_of_mnemonic member .emergencyBrake named)
  case hood =>
    intro named
    exact made.stores_popHood accepted
      (CarAssembly.operation_of_mnemonic member .popHood named)

/-- The wheel, turned by the angle that it already has, stops at its limit. -/
theorem step_vehicle_exact_saturated : saturated.Made ∧ saturated.table = CarAssembly.table ∧
    (∃ decoded, saturated.table.decode 0x02A00012 = .ok decoded ∧ decoded.mnemonic = "steer") ∧
    saturated.Stores 0x02A00012 ⟨"steer", some "You are turned at a: 90 degree angle \n"⟩
      [⟨CarRegister.steer.slot, 90⟩] := by
  let decoded : Decoded := {
    word := some 0x02A00012
    entry := CarAssembly.entries[12]
    operands := ⟨[21], by decide⟩ }
  have accepted : saturated.table.decode 0x02A00012 = .ok decoded := by decide +kernel
  obtain ⟨operand, current, result, first, own, exact, stores⟩ :=
    (step_vehicle_exact saturated_made saturated_builtIn accepted).1 Vehicle.rules[2]
      (List.getElem_mem _) rfl
  have angle : saturated.registers.read (decoded.entry.template.slotOf .destination 0x02A00012) =
      .ok Int32.maxValue := by
    decide +kernel
  have before : saturated.registers.readCar Vehicle.rules[2].register = .ok Int32.maxValue := by
    decide +kernel
  rw [angle] at first
  rw [before] at own
  cases first
  cases own
  have limit : result = 90 := Int32.toInt_inj.mp exact
  rw [limit] at stores
  exact ⟨saturated_made, saturated_builtIn, ⟨decoded, accepted, rfl⟩, stores⟩

end Engine

end CarMachine
