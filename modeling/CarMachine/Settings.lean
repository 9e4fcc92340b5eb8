import CarMachine.Assignment
import CarMachine.Engine
import CarMachine.Toml.Document

namespace CarMachine

/-! Settings of a run as a configuration file gives them.  Each may be absent, and there
are no others.
-/

structure Settings where
  registerCount : Option Nat := none
  faultPolicy : Option FaultPolicy := none
  /-- The initial values in the order of the names. -/
  registers : List (String × Int32) := []
deriving Repr, DecidableEq

namespace FaultPolicy

/-- A policy is named by a text, or by the only key of a table, under which nothing
stands. -/
def ofToml? : Toml.Value → Option FaultPolicy
  | .text name => ofName? name
  | .table _ [(name, .table _ [])] => ofName? name
  | .table _ [(name, .emptyList)] => ofName? name
  | _ => none

end FaultPolicy

namespace Settings

def registerCountOf? : Toml.Value → Option Nat
  | .integer number => if 0 ≤ number then some number.toNat else none
  | _ => none

def registerValueOf? : Toml.Value → Option Int32
  | .integer number => Value.ofInt? number
  | _ => none

/-- The names with their values, in the order in which they stand. -/
def namedValues? : Toml.Entries → Option (List (String × Int32))
  | [] => some []
  | (name, value) :: rest => do
      let value ← registerValueOf? value
      return (name, value) :: (← namedValues? rest)

/-- The names with their values, in the order of the names. -/
def registersOf? : Toml.Value → Option (List (String × Int32))
  | .table _ entries =>
      (namedValues? entries).map fun named =>
        named.mergeSort fun first second => decide (first.1 ≤ second.1)
  | _ => none

def withEntry? (settings : Settings) : String × Toml.Value → Option Settings
  | ("register_count", value) => do
      return { settings with registerCount := some (← registerCountOf? value) }
  | ("fault_policy", value) => do
      return { settings with faultPolicy := some (← FaultPolicy.ofToml? value) }
  | ("registers", value) => do
      return { settings with registers := ← registersOf? value }
  | _ => none

def ofEntries? (entries : Toml.Entries) : Option Settings :=
  entries.foldlM withEntry? {}

def parse? (text : String) : Option Settings :=
  (Toml.read? text).bind ofEntries?

/-- The settings of the engine, with defaults for those that are absent. -/
def engine (settings : Settings) : Engine.Config :=
  let defaults : Engine.Config := {}
  { registerCount := settings.registerCount.getD defaults.registerCount
    faultPolicy := settings.faultPolicy.getD defaults.faultPolicy }

/-- The assignments that name slots, up to the first name that stands for none. -/
def assignments : List (String × Int32) → Except Assignment.Error (List Assignment)
  | [] => .ok []
  | (name, value) :: rest =>
      match RegisterName.resolve? name with
      | some index => (assignments rest).map ({ index, value } :: ·)
      | none => .error (.unknownRegister name)

def initialValues (settings : Settings) : Except Assignment.Error (List Assignment) :=
  assignments settings.registers

end Settings

end CarMachine
