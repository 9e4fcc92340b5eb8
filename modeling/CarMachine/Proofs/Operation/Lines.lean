import CarMachine.Proofs.Operation.Effects
import CarMachine.Proofs.Operation.Vehicle
import CarMachine.Proofs.Text.Lines

namespace CarMachine

/-! What operations say.

Arithmetic and logic are silent.  Every other operation says one line, except that there are
no words for several lights together.
-/

namespace Vehicle

/-- The sets of lights for which there are words. -/
def spokenLights : List Int :=
  [0, 1, 2, 4, 8, 16]

variable {mask value : Int32} {before after text : String}

theorem isSome_lightsLine? (mask : Int32) :
    (lightsLine? mask).isSome = decide (mask.toInt ∈ spokenLights) := by
  rw [lightsLine?_eq, Bool.eq_iff_iff, List.lookup_isSome_iff]
  simp [lightLines, spokenLights]

theorem isLine_of_lightsLine? (said : lightsLine? mask = some text) : Text.IsLine text := by
  have all : ∀ pair ∈ lightLines, Text.IsLine pair.2 := by decide +kernel
  rw [lightsLine?_eq, List.lookup_eq_some_iff] at said
  obtain ⟨first, rest, split, _⟩ := said
  exact all (mask.toInt, text) (by simp [split])

theorem isLine_line (start : '\n' ∉ before.toList) (finish : '\n' ∉ after.toList) :
    Text.IsLine (line before value after) := by
  have digits : '\n' ∉ (Text.decimalInt value.toInt).toList :=
    Text.not_mem_decimalInt (by decide) (by decide)
  refine Text.isLine_iff.mpr
    ⟨before.toList ++ (Text.decimalInt value.toInt).toList ++ after.toList ++ [' '], ?_, ?_⟩
  · simp [line]
  · simp [start, digits, finish]

end Vehicle

namespace Operation

variable {operation : Operation} {operands : Operands} {registers : Registers} {effect : Effect}
  {text : String}

/-- All that an operation can say: nothing, what the lights have words for, or one line. -/
theorem line_of_run (ran : operation.run operands registers = .ok effect) :
    (operation.isArithmeticLogic = true ∧ effect.line = none) ∨
    (operation = .lights ∧ ∃ mask, registers.read (operands.register 0) = .ok mask ∧
      effect.line = Vehicle.lightsLine? mask) ∨
    (operation.isArithmeticLogic = false ∧ operation ≠ .lights ∧
      ∃ text, effect.line = some text ∧ Text.IsLine text) := by
  cases operation with
  | arithmetic kind =>
      obtain ⟨_, _, _, _, rfl⟩ := runArithmetic_eq_ok_iff.mp ran
      exact .inl ⟨rfl, rfl⟩
  | move =>
      obtain ⟨_, _, rfl⟩ := runMove_eq_ok_iff.mp ran
      exact .inl ⟨rfl, rfl⟩
  | addImmediate =>
      obtain ⟨_, _, _, _, rfl⟩ := runAddImmediate_eq_ok_iff.mp ran
      exact .inl ⟨rfl, rfl⟩
  | lights =>
      obtain ⟨mask, present, rfl⟩ := assign_eq_ok_iff.mp ran
      exact .inr (.inl ⟨rfl, mask, present, rfl⟩)
  | throttle | steer | fillGas =>
      simp only [run, runThrottle, runSteer, runFillGas] at ran
      obtain ⟨_, _, _, _, rfl⟩ := adjust_eq_ok_iff.mp ran
      exact .inr (.inr ⟨rfl, by simp, _, rfl,
        Vehicle.isLine_line (by decide +kernel) (by decide +kernel)⟩)
  | setSpeed | setSteer | airConditioning | seat =>
      simp only [run, runSetSpeed, runSetSteer, runAirConditioning, runSeat] at ran
      obtain ⟨_, _, rfl⟩ := assign_eq_ok_iff.mp ran
      exact .inr (.inr ⟨rfl, by simp, _, rfl,
        Vehicle.isLine_line (by decide +kernel) (by decide +kernel)⟩)
  | emergencyBrake =>
      obtain ⟨_, _, rfl⟩ := runEmergencyBrake_eq_ok_iff.mp ran
      exact .inr (.inr ⟨rfl, by simp, _, rfl, by decide +kernel⟩)
  | popHood =>
      obtain ⟨_, _, rfl⟩ := runPopHood_eq_ok_iff.mp ran
      exact .inr (.inr ⟨rfl, by simp, _, rfl, by decide +kernel⟩)

theorem isLine_of_run (ran : operation.run operands registers = .ok effect)
    (said : effect.line = some text) : Text.IsLine text := by
  rcases line_of_run ran with ⟨_, silent⟩ | ⟨_, _, _, looked⟩ | ⟨_, _, other, spoken, isLine⟩
  · simp [silent] at said
  · exact Vehicle.isLine_of_lightsLine? (looked.symm.trans said)
  · obtain rfl : other = text := by simpa [spoken] using said
    exact isLine

end Operation

end CarMachine
