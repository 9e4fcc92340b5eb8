import CarMachine.Proofs.Operation.Exact

namespace CarMachine

/-! The rules of the car, in exact integers.

An instruction with an operand sets one car register from the old value of that register and
the operand, and says so in one line.  A rule gives the new value as an integer, with limits in
place of wrapping around, and the line with that integer in decimal.
-/

namespace Vehicle

/-- How an instruction sets a car register. -/
structure Rule where
  operation : Operation
  register : CarRegister
  /-- The new value, from the old one and the operand. -/
  value : Int → Int → Int
  /-- What is said about the new value. -/
  line : Int → Option String

/-- What is said about the sets of lights for which there are words. -/
def lightLines : List (Int × String) :=
  [(0, "the lights are now off \n"), (1, "the headlights are now on \n"),
    (2, "the high beams are now on \n"), (4, "the left turn signal is now on \n"),
    (8, "the right turn signal is now on \n"), (16, "the hazard lights are now on \n")]

def rules : List Rule :=
  [{ operation := .throttle
     register := .speed
     value := fun speed change => max 0 (min (speed + change) (2 ^ 31 - 1))
     line := fun speed => some ("Your speed is now: " ++ toString speed ++ " \n") },
   { operation := .setSpeed
     register := .speed
     value := fun _ operand => max operand 0
     line := fun speed => some ("Your speed is: " ++ toString speed ++ " \n") },
   { operation := .steer
     register := .steer
     value := fun angle change => max (-90) (min (angle + change) 90)
     line := fun angle =>
       some ("You are turned at a: " ++ toString angle ++ " degree angle \n") },
   { operation := .setSteer
     register := .steer
     value := fun _ operand => operand
     line := fun angle =>
       some ("You are turned at a: " ++ toString angle ++ " degree angle \n") },
   { operation := .lights
     register := .lights
     value := fun _ operand => operand
     line := fun mask => lightLines.lookup mask },
   { operation := .airConditioning
     register := .ac
     value := fun _ operand => operand
     line := fun level => some ("the car is now: " ++ toString level ++ " fahrenheit \n") },
   { operation := .seat
     register := .seat
     value := fun _ operand => operand
     line := fun position => some ("the seat is now set at: " ++ toString position ++ " \n") },
   { operation := .fillGas
     register := .fuel
     value := fun level change => max 0 (min (level + change) 100)
     line := fun level => some ("the gas is now: " ++ toString level ++ "% full \n") }]

theorem line_eq (before : String) (value : Int32) (after : String) :
    line before value after = before ++ toString value.toInt ++ (after ++ " \n") := by
  rw [line, Text.decimalInt_eq_toString, String.append_assoc]

theorem lightsLine?_eq (mask : Int32) : lightsLine? mask = lightLines.lookup mask.toInt := by
  simp only [lightsLine?, lightLines, List.lookup_cons, ← Int32.toInt_inj]
  grind

theorem toInt_atLeastZero (operand : Int32) :
    (if operand < 0 then 0 else operand).toInt = max operand.toInt 0 := by
  simp only [Int32.lt_iff_toInt_lt, Int32.toInt_zero]
  split
  · rw [Int32.toInt_zero]
    omega
  · omega

end Vehicle

namespace Operation

variable {operation : Operation} {register : CarRegister} {value : Int → Int → Int}
  {line : Int → Option String}

/-- An operation sets a car register to a value computed from the old one and the operand, and
says a line about the new value. -/
def Sets (operation : Operation) (register : CarRegister) (value : Int → Int → Int)
    (line : Int → Option String) : Prop :=
  ∀ operands registers operand current,
    registers.read (operands.register 0) = .ok operand →
    registers.readCar register = .ok current →
    ∃ result : Int32, result.toInt = value current.toInt operand.toInt ∧
      operation.run operands registers = .ok {
        writes := [⟨register.slot, result⟩]
        line := line result.toInt }

/-- The operand is added and the sum is cut off at two limits. -/
theorem sets_of_adjust {low high : Int32} {least greatest : Int} {say : Int32 → String}
    (bound : ∀ operands registers,
      operation.run operands registers = adjust register low high say operands registers)
    (lower : low.toInt = least) (upper : high.toInt = greatest) (ordered : low ≤ high)
    (sum : ∀ current operand,
      value current operand = max least (min (current + operand) greatest))
    (said : ∀ result, line result.toInt = some (say result)) :
    operation.Sets register value line := by
  intro operands registers operand current first own
  refine ⟨Vehicle.clamp (current.toInt + operand.toInt) low high, ?_, ?_⟩
  · rw [Vehicle.toInt_clamp ordered, sum, lower, upper]
  · rw [bound, said]
    exact adjust_eq_ok_iff.mpr ⟨operand, current, first, own, rfl⟩

/-- The old value does not matter. -/
theorem sets_of_assign {shape : Int32 → Int32} {say? : Int32 → Option String}
    (bound : ∀ operands registers,
      operation.run operands registers = assign register shape say? operands registers)
    (shaped : ∀ current operand, value current operand.toInt = (shape operand).toInt)
    (said : ∀ result, line result.toInt = say? result) :
    operation.Sets register value line := by
  intro operands registers operand current first own
  refine ⟨shape operand, (shaped _ _).symm, ?_⟩
  rw [bound, said]
  exact assign_eq_ok_iff.mpr ⟨operand, first, rfl⟩

end Operation

theorem Vehicle.sets_of_mem_rules :
    ∀ rule ∈ rules, rule.operation.Sets rule.register rule.value rule.line := by
  simp only [rules, List.forall_mem_cons]
  -- three instructions add their operand within limits, the others store it
  refine ⟨?throttle, ?setSpeed, ?steer, ?setSteer, ?lights, ?airConditioning, ?seat, ?fillGas,
    List.forall_mem_nil _⟩
  case throttle | steer | fillGas =>
    apply Operation.sets_of_adjust
    case bound =>
      intro operands registers
      rw [Operation.run]
      rfl
    case sum => exact fun _ _ => rfl
    case said =>
      intro result
      simp [line_eq, angleLine]
    all_goals decide
  case setSpeed =>
    apply Operation.sets_of_assign
    case bound =>
      intro operands registers
      rw [Operation.run]
      rfl
    case shaped => exact fun _ operand => (toInt_atLeastZero operand).symm
    case said =>
      intro result
      simp [line_eq]
  case setSteer | lights | airConditioning | seat =>
    apply Operation.sets_of_assign
    case bound =>
      intro operands registers
      rw [Operation.run]
      rfl
    case shaped => exact fun _ _ => rfl
    case said =>
      intro result
      simp [line_eq, angleLine, lightsLine?_eq]

end CarMachine
