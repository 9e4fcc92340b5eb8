import CarMachine.Command
import CarMachine.CommandLine.Arguments
import CarMachine.CommandLine.Files

namespace CarMachine

/-! The program as a function of its arguments and of the files it can see. -/

inductive Failure where
  | usage
  | load (error : LoadError)
  /-- The settings name a register that does not exist. -/
  | register (error : Assignment.Error)
  | run (error : RunCommand.Error)
deriving Repr, DecidableEq

namespace Failure

def message : Failure → String
  | .usage => "usage"
  | .load error => error.message
  | .register error => "invalid [registers] entry: " ++ error.message
  | .run error => error.message

def code : Failure → Nat
  | .run error => if error.isBreakdown then 101 else 2
  | _ => 2

end Failure

/-- How the program ends: its exit code, what it has printed, and why it failed if it did. -/
structure Ending where
  code : Nat
  printed : String := ""
  failure : Option Failure := none
deriving Repr, DecidableEq

namespace Ending

/-- The ending after a text is printed, with an exit code or a failure. -/
def ofAnswer : String × Except Failure Nat → Ending
  | (printed, .ok code) => { code, printed }
  | (printed, .error failure) => { code := failure.code, printed, failure := some failure }

end Ending

namespace RunArguments

def settings (arguments : RunArguments) (files : Files) : Except LoadError Settings :=
  match arguments.config with
  | some path => files.loadSettings path
  | none => .ok {}

/-- Merges settings with what the command line adds: its policy wins, and its values are
stored after those of the file. -/
def options (arguments : RunArguments) (settings : Settings) :
    Except Assignment.Error RunCommand.Options :=
  let engine := settings.engine
  let faultPolicy := if arguments.continueOnFault then .proceed else engine.faultPolicy
  settings.initialValues.map fun registers =>
    { engine := { engine with faultPolicy }
      registers := registers ++ arguments.set
      dump := arguments.dump }

/-- Loads the settings, the program and runs it.  The settings are looked at first. -/
def run (arguments : RunArguments) (files : Files) (out : String) :
    String × Except Failure Report :=
  match arguments.settings files with
  | .error error => (out, .error (.load error))
  | .ok settings =>
      match arguments.options settings with
      | .error error => (out, .error (.register error))
      | .ok options =>
          match files.loadProgram arguments.program with
          | .error error => (out, .error (.load error))
          | .ok words =>
              let (out, answer) := RunCommand.run CarAssembly.table words options out
              (out, answer.mapError .run)

end RunArguments

namespace Invocation

def versionLine : String := "carsim 0.1.0\n"

/-- Does what is asked for, and answers with an exit code.  What is printed comes behind what
has been printed before. -/
def execute (files : Files) (out : String) : Invocation → String × Except Failure Nat
  | .version => (out ++ versionLine, .ok 0)
  | .list => (out ++ Listing.table CarAssembly.table, .ok 0)
  | .disasm program =>
      match files.loadProgram program with
      | .error error => (out, .error (.load error))
      | .ok words => (out ++ Listing.program CarAssembly.table words, .ok 0)
  | .run arguments =>
      let (out, answer) := arguments.run files out
      (out, answer.map fun report => if report.halted then 1 else 0)

def perform (files : Files) (invocation : Invocation) : Ending :=
  .ofAnswer (invocation.execute files "")

end Invocation

def commandLine (files : Files) (arguments : List String) : Ending :=
  match Arguments.parse? arguments with
  | some invocation => invocation.perform files
  | none => .ofAnswer ("", .error .usage)

end CarMachine
