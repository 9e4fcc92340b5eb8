import CarMachine.Assignment
import CarMachine.CarAssembly
import CarMachine.Engine

namespace CarMachine

/-! The commands that run a program and list instructions, and what they print. -/

/-- The settings of a run, after those of a file and of the command line are merged. -/
structure RunCommand.Options where
  engine : Engine.Config := {}
  registers : List Assignment := []
  /-- Print the registers that are not zero after the run. -/
  dump : Bool := false
deriving Repr, DecidableEq

inductive RunCommand.Error where
  | engine (error : Engine.Error)
  | outsideFile (error : OutsideFile)
  | crashed (missing : MissingSlot)
deriving Repr, DecidableEq

namespace RunCommand.Error

def message : RunCommand.Error → String
  | .engine error => "invalid engine configuration: " ++ error.message
  | .outsideFile error => error.message
  | .crashed missing => "no register slot " ++ Text.decimal missing.index

/-- Whether the run broke down, which no check foresees, and was not refused. -/
def isBreakdown : RunCommand.Error → Bool
  | .engine (.size (.tooLarge _)) => true
  | .engine _ => false
  | .outsideFile _ => false
  | .crashed _ => true

end RunCommand.Error

namespace RunCommand

/-- A register that is not zero: its name, its alias if it has one, and its value. -/
def dumpLine (index : Nat) (value : Int32) : String :=
  let name := ((CarRegister.ofSlot? index).map (·.name)).getD ""
  Text.padRight 6 (RegisterName.display index) ++ " " ++ Text.padRight 7 name ++ " "
    ++ Text.decimalInt value.toInt ++ "\n"

def dump (registers : Registers) : String :=
  String.join (registers.cells.map fun (index, value) => dumpLine index value)

def errorLine (index : Nat) (error : StepFailure) : String :=
  "error at word " ++ Text.decimal index ++ ": " ++ error.message ++ "\n"

/-- The emitted lines, the errors after all of them, and the registers if asked for. -/
def printed (report : Report) (registers : Registers) (dumps : Bool) : String :=
  report.transcript
    ++ String.join (report.errors.map fun (index, error) => errorLine index error)
    ++ if dumps then dump registers else ""

/-- The engine from which a run starts: the initial values are stored in order. -/
def start (table : Table) (options : RunCommand.Options) : Except RunCommand.Error Engine :=
  match Engine.make table options.engine with
  | .error error => .error (.engine error)
  | .ok engine =>
      match Assignment.applyAll engine.registers options.registers with
      | .error error => .error (.outsideFile error)
      | .ok registers => .ok { engine with registers }

/-- Runs a program, and prints behind what has been printed before. -/
def run (table : Table) (words : List Word) (options : RunCommand.Options) (out : String) :
    String × Except RunCommand.Error Report :=
  match start table options with
  | .error error => (out, .error error)
  | .ok engine =>
      match engine.run words with
      | (.error missing, _) => (out, .error (.crashed missing))
      | (.ok report, last) => (out ++ printed report last.registers options.dump, .ok report)

end RunCommand

/-! ## Listings of a table and of a disassembled program -/

namespace Listing

def heading : String :=
  CarAssembly.name ++ ": " ++ CarAssembly.summary ++ "\n"

def entryLine (entry : Entry) : String :=
  Text.padRight 9 entry.mnemonic ++ " " ++ Text.padRight 14 entry.template.layout.name
    ++ " " ++ entry.template.pattern.render ++ "  " ++ entry.template.description ++ "\n"

def table (table : Table) : String :=
  heading ++ String.join (table.entries.map entryLine)

def rowLine (row : Disassembly.Row) : String :=
  Text.padLeft ' ' 4 (Text.decimal row.index) ++ "  " ++ row.word.hexDigits ++ "  "
    ++ row.text ++ "\n"

def program (table : Table) (words : List Word) : String :=
  String.join ((table.disassembleAll words).map rowLine)

end Listing

end CarMachine
