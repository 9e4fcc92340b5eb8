import CarMachine.Engine
import CarMachine.Json.Value

namespace CarMachine

/-! The JSON form of settings, registers and rows, which is written compactly.

A register file is taken with as many slots as are given: reading asks only for the
shape, not for room for the car registers.
-/

namespace Json

/-- A character inside a string.  Only the quote, the backslash and control characters
are escaped. -/
def writeChar (char : Char) : String :=
  if char = '"' then "\\\""
  else if char = '\\' then "\\\\"
  else if char = '\x08' then "\\b"
  else if char = '\x0c' then "\\f"
  else if char = '\n' then "\\n"
  else if char = '\r' then "\\r"
  else if char = '\t' then "\\t"
  else if char.toNat < 0x20 then "\\u" ++ Text.padLeft '0' 4 (Text.hex char.toNat)
  else char.toString

def writeString (text : String) : String :=
  "\"" ++ String.join (text.toList.map writeChar) ++ "\""

def writeBool : Bool → String
  | true => "true"
  | false => "false"

def writeArray (items : List String) : String :=
  "[" ++ String.intercalate "," items ++ "]"

def writeObject (members : List (String × String)) : String :=
  "\x7b"
    ++ String.intercalate "," (members.map fun (key, value) => writeString key ++ ":" ++ value)
    ++ "\x7d"

end Json

/-! ## Records -/

namespace FaultPolicy

def ofJson? (value : Json.Value) : Option FaultPolicy :=
  value.choice?.bind ofName?

def toJson (policy : FaultPolicy) : String :=
  Json.writeString policy.name

end FaultPolicy

namespace Fault.Cause

def identifier : Fault.Cause → String
  | .arithmeticOverflow => "ArithmeticOverflow"

def ofJson? (value : Json.Value) : Option Fault.Cause :=
  value.choice?.bind fun name =>
    [Fault.Cause.arithmeticOverflow].find? fun cause => cause.identifier == name

def toJson (cause : Fault.Cause) : String :=
  Json.writeString cause.identifier

end Fault.Cause

namespace OperandLayout

def identifier : OperandLayout → String
  | .threeRegister => "ThreeRegister"
  | .twoRegister => "TwoRegister"
  | .oneRegister => "OneRegister"
  | .zeroRegister => "ZeroRegister"

def ofJson? (value : Json.Value) : Option OperandLayout :=
  value.choice?.bind fun name => all.find? fun layout => layout.identifier == name

def toJson (layout : OperandLayout) : String :=
  Json.writeString layout.identifier

end OperandLayout

namespace CarRegister

def identifier : CarRegister → String
  | .speed => "Speed"
  | .steer => "Steer"
  | .lights => "Lights"
  | .ac => "Ac"
  | .seat => "Seat"
  | .status => "Status"
  | .fuel => "Fuel"

def ofJson? (value : Json.Value) : Option CarRegister :=
  value.choice?.bind fun name => all.find? fun register => register.identifier == name

def toJson (register : CarRegister) : String :=
  Json.writeString register.identifier

end CarRegister

namespace Engine.Config

/-- Absent fields take their defaults. -/
def ofJson? (value : Json.Value) : Option Engine.Config :=
  match value.record? ["register_count", "fault_policy"] with
  | some [count?, policy?] => do
      let defaults : Engine.Config := {}
      let registerCount ←
        match count? with
        | some count => count.natural? 0x10000000000000000
        | none => some defaults.registerCount
      let faultPolicy ←
        match policy? with
        | some policy => FaultPolicy.ofJson? policy
        | none => some defaults.faultPolicy
      return { registerCount, faultPolicy }
  | _ => none

def toJson (config : Engine.Config) : String :=
  Json.writeObject [("register_count", Text.decimal config.registerCount),
    ("fault_policy", config.faultPolicy.toJson)]

end Engine.Config

namespace Registers

def ofJson? (value : Json.Value) : Option Registers :=
  match value.record? ["slots"] with
  | some [some slots] => do
      let slots ← (← slots.items?).mapM fun item => item.integer?.bind Value.ofInt?
      return ofSlots slots
  | _ => none

def toJson (registers : Registers) : String :=
  Json.writeObject
    [("slots", Json.writeArray (registers.slots.map fun value => Text.decimalInt value.toInt))]

end Registers

namespace Disassembly.Row

def ofJson? (value : Json.Value) : Option Disassembly.Row :=
  match value.record? ["index", "word", "mnemonic", "operands", "is_illegal"] with
  | some [some index, some word, some mnemonic, some operands, some isIllegal] => do
      return {
        index := ← index.natural? 0x10000000000000000
        word := BitVec.ofNat 32 (← word.natural? 0x100000000)
        mnemonic := ← mnemonic.text?
        operands := ← operands.text?
        isIllegal := ← isIllegal.bool? }
  | _ => none

def toJson (row : Disassembly.Row) : String :=
  Json.writeObject [("index", Text.decimal row.index), ("word", Text.decimal row.word.toNat),
    ("mnemonic", Json.writeString row.mnemonic), ("operands", Json.writeString row.operands),
    ("is_illegal", Json.writeBool row.isIllegal)]

end Disassembly.Row

end CarMachine
