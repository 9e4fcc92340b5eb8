import CarMachine.Text.Basic

namespace CarMachine

/-! The registers that hold the state of the car, and the names of registers.

A register is named by its number, by its conventional name or, if it is a car register,
by its alias; a dollar sign may stand in front.
-/

/-- A register with a meaning of its own. -/
inductive CarRegister where
  | speed
  | steer
  | lights
  | ac
  | seat
  | status
  | fuel
deriving Repr, DecidableEq

namespace CarRegister

def all : List CarRegister :=
  [.speed, .steer, .lights, .ac, .seat, .status, .fuel]

def slot : CarRegister → Nat
  | .speed => 20
  | .steer => 21
  | .lights => 22
  | .ac => 23
  | .seat => 24
  | .status => 25
  | .fuel => 26

def name : CarRegister → String
  | .speed => "speed"
  | .steer => "steer"
  | .lights => "lights"
  | .ac => "ac"
  | .seat => "seat"
  | .status => "status"
  | .fuel => "fuel"

def ofName? (text : String) : Option CarRegister :=
  all.find? fun register => register.name == text

def ofSlot? (slot : Nat) : Option CarRegister :=
  all.find? fun register => register.slot == slot

theorem mem_all (register : CarRegister) : register ∈ all := by
  cases register <;> decide

end CarRegister

namespace RegisterName

/-- The conventional names in the order of their slots. -/
def conventional : List String :=
  ["zero", "at", "v0", "v1", "a0", "a1", "a2", "a3",
    "t0", "t1", "t2", "t3", "t4", "t5", "t6", "t7",
    "s0", "s1", "s2", "s3", "s4", "s5", "s6", "s7",
    "t8", "t9", "k0", "k1", "gp", "sp", "fp", "ra"]

def withoutDollar : List Char → List Char
  | '$' :: rest => rest
  | chars => chars

/-- The slot of a name, letters in either case.  The aliases share no spelling with the
conventional names. -/
def ofWord? (name : String) : Option Nat :=
  match CarRegister.ofName? name with
  | some register => some register.slot
  | none => conventional.findIdx? (· == name)

/-- The slot that a name stands for.  A name that reads as a number has no other
reading, even if the number is too large for a slot. -/
def resolve? (name : String) : Option Nat :=
  let bare := withoutDollar (Text.trimmed name.toList)
  match Text.unsigned? 10 bare with
  | some index => if index < conventional.length then some index else none
  | none => ofWord? (String.ofList (bare.map Char.toLower))

/-- The name under which a slot is shown; a slot without a conventional name is shown by
its number. -/
def display (index : Nat) : String :=
  "$" ++ (conventional[index]?).getD (Text.decimal index)

end RegisterName

end CarMachine
