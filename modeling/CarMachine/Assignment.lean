import CarMachine.Registers.Basic
import CarMachine.Registers.Name

namespace CarMachine

/-! Initial values of registers, written `name=value`. -/

inductive Assignment.Error where
  | noEquals (text : String)
  | unknownRegister (name : String)
  | badValue (value : String)
deriving Repr, DecidableEq

namespace Assignment.Error

def message : Assignment.Error → String
  | .noEquals text => "expected <register>=<value>, got `" ++ text ++ "`"
  | .unknownRegister name => "unknown register `" ++ name ++ "`"
  | .badValue value => "`" ++ value ++ "` is not a 32-bit integer"

end Assignment.Error

structure Assignment where
  index : Nat
  value : Int32
deriving Repr, DecidableEq

/-- An assignment to a slot that the register file does not have. -/
structure OutsideFile where
  index : Nat
  size : Nat
deriving Repr, DecidableEq

def OutsideFile.message (error : OutsideFile) : String :=
  "register " ++ RegisterName.display error.index ++ " is outside a "
    ++ Text.decimal error.size ++ "-slot register file"

namespace Assignment

def readValue? (chars : List Char) : Option Int32 :=
  match Text.withoutHexMark? chars with
  | some digits => (Text.unsigned? 16 digits).bind Value.ofBits?
  | none => (Text.signed? chars).bind Value.ofInt?

/-- Cuts a text at its first equals sign. -/
def cut? (chars : List Char) : Option (List Char × List Char) :=
  match chars.dropWhile (· != '=') with
  | _ :: value => some (chars.takeWhile (· != '='), value)
  | [] => none

/-- Reads an assignment.  The name is looked at before the value. -/
def parse (text : String) : Except Assignment.Error Assignment :=
  match cut? text.toList with
  | none => .error (.noEquals text)
  | some (name, value) =>
      match RegisterName.resolve? (String.ofList name) with
      | none => .error (.unknownRegister (String.ofList (Text.trimmed name)))
      | some index =>
          let written := Text.trimmed value
          match readValue? written with
          | none => .error (.badValue (String.ofList written))
          | some value => .ok { index, value }

def apply (assignment : Assignment) (registers : Registers) : Except OutsideFile Registers :=
  match registers.write assignment.index assignment.value with
  | .ok after => .ok after
  | .error _ => .error ⟨assignment.index, registers.size⟩

/-- Stores values in order up to the first that has no slot. -/
def applyAll (registers : Registers) : List Assignment → Except OutsideFile Registers
  | [] => .ok registers
  | assignment :: rest =>
      match assignment.apply registers with
      | .ok after => applyAll after rest
      | .error error => .error error

end Assignment

end CarMachine
