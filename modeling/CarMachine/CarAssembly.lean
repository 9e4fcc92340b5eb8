import CarMachine.Table.Basic

namespace CarMachine.CarAssembly

/-! Car Assembly, the built-in instruction set.  The word of `pophood` is also a word of
`mul`, with all fields zero; as the narrower pattern `pophood` has it.
-/

def name : String := "Car Assembly"

def summary : String := "Assembly language to let your computer control a car"

def definitions : List Definition :=
  [{ mnemonic := "add", usage := "add $t1, $t2, $t3",
      description := "$t1 = $t2 + $t3, wrapping",
      layout := .threeRegister, pattern := "000000 sssss ttttt fffff 00000 100000",
      operation := .arithmetic .add },
    { mnemonic := "sub", usage := "sub $t1, $t2, $t3",
      description := "$t1 = $t2 - $t3, wrapping",
      layout := .threeRegister, pattern := "000000 sssss ttttt fffff 00000 100010",
      operation := .arithmetic .sub },
    { mnemonic := "mul", usage := "mul $t1, $t2, $t3",
      description := "$t1 = low 32 bits of $t2 * $t3",
      layout := .threeRegister, pattern := "000000 sssss ttttt fffff 00000 011000",
      operation := .arithmetic .mul },
    { mnemonic := "addi", usage := "addi $t1, $t2, -100",
      description := "$t1 = $t2 + sign-extended 16-bit immediate, faults on overflow",
      layout := .threeRegister, pattern := "001000 sssss fffff tttttttttttttttt",
      operation := .addImmediate },
    { mnemonic := "move", usage := "move $t1, $t2",
      description := "$t1 = $t2",
      layout := .twoRegister, pattern := "000000 sssss 00000 fffff 00000 100001",
      operation := .move },
    { mnemonic := "div", usage := "div $t1, $t2, $t3",
      description := "$t1 = $t2 / $t3 truncated, 0 when $t3 is 0",
      layout := .threeRegister, pattern := "000000 sssss ttttt fffff 00000 011010",
      operation := .arithmetic .div },
    { mnemonic := "and", usage := "and $t1, $t2, $t3",
      description := "$t1 = $t2 & $t3",
      layout := .threeRegister, pattern := "000000 sssss ttttt fffff 00000 100100",
      operation := .arithmetic .and },
    { mnemonic := "or", usage := "or $t1, $t2, $t3",
      description := "$t1 = $t2 | $t3",
      layout := .threeRegister, pattern := "000000 sssss ttttt fffff 00000 100101",
      operation := .arithmetic .or },
    { mnemonic := "xor", usage := "xor $t1, $t2, $t3",
      description := "$t1 = $t2 ^ $t3",
      layout := .threeRegister, pattern := "000000 sssss ttttt fffff 00000 100110",
      operation := .arithmetic .xor },
    { mnemonic := "slt", usage := "slt $t1, $t2, $t3",
      description := "$t1 = 1 if $t2 < $t3 (signed) else 0",
      layout := .threeRegister, pattern := "000000 sssss ttttt fffff 00000 101010",
      operation := .arithmetic .lessThan },
    { mnemonic := "throttle", usage := "throttle $t1",
      description := "change speed by $t1, never below 0",
      layout := .oneRegister, pattern := "000000 fffff 00000 00000 00000 010000",
      operation := .throttle },
    { mnemonic := "setspd", usage := "setspd $t1",
      description := "set speed to $t1, never below 0",
      layout := .oneRegister, pattern := "000000 fffff 00000 00000 00000 010001",
      operation := .setSpeed },
    { mnemonic := "steer", usage := "steer $t1",
      description := "turn the wheel by $t1 degrees, limited to +/-90",
      layout := .oneRegister, pattern := "000000 fffff 00000 00000 00000 010010",
      operation := .steer },
    { mnemonic := "setsteer", usage := "setsteer $t1",
      description := "set the steering angle to $t1",
      layout := .oneRegister, pattern := "000000 fffff 00000 00000 00000 010011",
      operation := .setSteer },
    { mnemonic := "ebrake", usage := "ebrake",
      description := "stop the car and raise the emergency brake status flag",
      layout := .zeroRegister, pattern := "000000 00000 00000 00000 00000 010100",
      operation := .emergencyBrake },
    { mnemonic := "lights", usage := "lights $t1",
      description := "set the lights bitmask to $t1",
      layout := .oneRegister, pattern := "000000 fffff 00000 00000 00000 010101",
      operation := .lights },
    { mnemonic := "ac", usage := "ac $t1",
      description := "set the air conditioning to $t1 degrees",
      layout := .oneRegister, pattern := "000000 fffff 00000 00000 00000 010110",
      operation := .airConditioning },
    { mnemonic := "seat", usage := "seat $t1",
      description := "set the seat position to $t1",
      layout := .oneRegister, pattern := "000000 fffff 00000 00000 00000 010111",
      operation := .seat },
    { mnemonic := "pophood", usage := "pophood",
      description := "pop the hood",
      layout := .zeroRegister, pattern := "000000 00000 00000 00000 00000 011000",
      operation := .popHood },
    { mnemonic := "fillgas", usage := "fillgas $t1",
      description := "add $t1 percent of fuel, limited to 0..=100",
      layout := .oneRegister, pattern := "000000 fffff 00000 00000 00000 011001",
      operation := .fillGas }]

def table : Table :=
  Table.empty.extend definitions

/-- The built-in instructions do not stand in each other's way. -/
theorem defineAll_definitions : (Table.empty.defineAll definitions).2 = .ok () := by
  have accepted : (Table.empty.defineAll definitions).2.toBool = true := by decide +kernel
  revert accepted
  cases (Table.empty.defineAll definitions).2 with
  | error error => intro refused; contradiction
  | ok done => intro; rfl

end CarMachine.CarAssembly
