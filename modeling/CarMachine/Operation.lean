import CarMachine.Effect
import CarMachine.Template.Basic

namespace CarMachine

/-! The operations that an instruction can be bound to.

Arithmetic and logic take the destination, the source and the target, and their only
effect is one write to the destination.  Control of the car reads at most one operand
register, changes car registers of its own and says in one line what the car does now.
-/

/-- What a three-register instruction computes from its source and its target. -/
inductive Arithmetic where
  | add
  | sub
  | mul
  | div
  | and
  | or
  | xor
  | lessThan
deriving Repr, DecidableEq

namespace Arithmetic

/-- The result modulo 2^32.  A quotient is cut towards zero, and division by zero gives
zero. -/
def apply : Arithmetic → Int32 → Int32 → Int32
  | .add, source, target => source + target
  | .sub, source, target => source - target
  | .mul, source, target => source * target
  | .div, source, target => source / target
  | .and, source, target => source &&& target
  | .or, source, target => source ||| target
  | .xor, source, target => source ^^^ target
  | .lessThan, source, target => if source < target then 1 else 0

end Arithmetic

namespace Operation

def runArithmetic (arithmetic : Arithmetic) (operands : Operands) (registers : Registers) :
    Except Trap Effect :=
  match registers.fetch (operands.register 1) with
  | .error trap => .error trap
  | .ok source =>
      match registers.fetch (operands.register 2) with
      | .error trap => .error trap
      | .ok target =>
          .ok (Effect.write {} (operands.register 0) (arithmetic.apply source target))

def runMove (operands : Operands) (registers : Registers) : Except Trap Effect :=
  match registers.fetch (operands.register 1) with
  | .error trap => .error trap
  | .ok source => .ok (Effect.write {} (operands.register 0) source)

/-- Adds the signed low half of the third operand, and faults if the sum does not fit. -/
def runAddImmediate (operands : Operands) (registers : Registers) : Except Trap Effect :=
  match registers.fetch (operands.register 1) with
  | .error trap => .error trap
  | .ok source =>
      match Value.ofInt? (source.toInt + (operands.value 2).signedLowHalf.toInt) with
      | some sum => .ok (Effect.write {} (operands.register 0) sum)
      | none => .error (.fault .arithmeticOverflow)

end Operation

/-! ## Control of the car -/

namespace Vehicle

/-- The steering limit in degrees to either side. -/
def steeringLimit : Int32 := 90

def fullTank : Int32 := 100

def brakeFlag : Int32 := 1

def hoodFlag : Int32 := 2

/-- The nearest number between two limits, for a sum that may not fit in 32 bits. -/
def clamp (value : Int) (low high : Int32) : Int32 :=
  if value < low.toInt then low
  else if high.toInt < value then high
  else .ofInt value

def line (before : String) (value : Int32) (after : String) : String :=
  before ++ Text.decimalInt value.toInt ++ after ++ " \n"

def angleLine (angle : Int32) : String :=
  line "You are turned at a: " angle " degree angle"

/-- What is said about a set of lights.  There are words for no light and for each light
on its own, and none for several lights together. -/
def lightsLine? (mask : Int32) : Option String :=
  if mask = 0 then some "the lights are now off \n"
  else if mask = 1 then some "the headlights are now on \n"
  else if mask = 2 then some "the high beams are now on \n"
  else if mask = 4 then some "the left turn signal is now on \n"
  else if mask = 8 then some "the right turn signal is now on \n"
  else if mask = 16 then some "the hazard lights are now on \n"
  else none

end Vehicle

namespace Operation

def adjust (register : CarRegister) (low high : Int32) (say : Int32 → String)
    (operands : Operands) (registers : Registers) : Except Trap Effect :=
  match registers.fetch (operands.register 0) with
  | .error trap => .error trap
  | .ok change =>
      match registers.fetch register.slot with
      | .error trap => .error trap
      | .ok current =>
          let value := Vehicle.clamp (current.toInt + change.toInt) low high
          .ok ((Effect.writeCar {} register value).emit (say value))

/-- Sets a car register from the operand register. -/
def assign (register : CarRegister) (shape : Int32 → Int32) (say? : Int32 → Option String)
    (operands : Operands) (registers : Registers) : Except Trap Effect :=
  match registers.fetch (operands.register 0) with
  | .error trap => .error trap
  | .ok operand =>
      let value := shape operand
      .ok { Effect.writeCar {} register value with line := say? value }

def runThrottle : Operands → Registers → Except Trap Effect :=
  adjust .speed 0 Int32.maxValue fun speed => Vehicle.line "Your speed is now: " speed ""

def runSetSpeed : Operands → Registers → Except Trap Effect :=
  assign .speed (fun operand => if operand < 0 then 0 else operand)
    fun speed => some (Vehicle.line "Your speed is: " speed "")

def runSteer : Operands → Registers → Except Trap Effect :=
  adjust .steer (-Vehicle.steeringLimit) Vehicle.steeringLimit Vehicle.angleLine

def runSetSteer : Operands → Registers → Except Trap Effect :=
  assign .steer id fun angle => some (Vehicle.angleLine angle)

def runLights : Operands → Registers → Except Trap Effect :=
  assign .lights id Vehicle.lightsLine?

def runAirConditioning : Operands → Registers → Except Trap Effect :=
  assign .ac id fun level => some (Vehicle.line "the car is now: " level " fahrenheit")

def runSeat : Operands → Registers → Except Trap Effect :=
  assign .seat id fun position => some (Vehicle.line "the seat is now set at: " position "")

def runFillGas : Operands → Registers → Except Trap Effect :=
  adjust .fuel 0 Vehicle.fullTank fun level =>
    Vehicle.line "the gas is now: " level "% full"

def runEmergencyBrake (registers : Registers) : Except Trap Effect :=
  match registers.fetch CarRegister.status.slot with
  | .error trap => .error trap
  | .ok status =>
      let stopped := Effect.writeCar {} .speed 0
      .ok ((stopped.writeCar .status (status ||| Vehicle.brakeFlag)).emit
        "Your car is now stopped \n")

def runPopHood (registers : Registers) : Except Trap Effect :=
  match registers.fetch CarRegister.status.slot with
  | .error trap => .error trap
  | .ok status =>
      .ok ((Effect.writeCar {} .status (status ||| Vehicle.hoodFlag)).emit
        "the hood is now popped \n")

end Operation

/-! ## Operations of either kind -/

inductive Operation where
  | arithmetic (kind : Arithmetic)
  | move
  | addImmediate
  | throttle
  | setSpeed
  | steer
  | setSteer
  | emergencyBrake
  | lights
  | airConditioning
  | seat
  | popHood
  | fillGas
deriving Repr, DecidableEq

namespace Operation

/-- The effect of an operation on the register file that it sees.  Nothing is written
here. -/
def run : Operation → Operands → Registers → Except Trap Effect
  | .arithmetic kind, operands, registers => runArithmetic kind operands registers
  | .move, operands, registers => runMove operands registers
  | .addImmediate, operands, registers => runAddImmediate operands registers
  | .throttle, operands, registers => runThrottle operands registers
  | .setSpeed, operands, registers => runSetSpeed operands registers
  | .steer, operands, registers => runSteer operands registers
  | .setSteer, operands, registers => runSetSteer operands registers
  | .emergencyBrake, _, registers => runEmergencyBrake registers
  | .lights, operands, registers => runLights operands registers
  | .airConditioning, operands, registers => runAirConditioning operands registers
  | .seat, operands, registers => runSeat operands registers
  | .popHood, _, registers => runPopHood registers
  | .fillGas, operands, registers => runFillGas operands registers

end Operation

end CarMachine
