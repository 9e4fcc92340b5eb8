import CarMachine.Table.Decoding

namespace CarMachine

/-! One simulated car: an instruction table, settings and a register file.

A step either retires, having committed all writes of its instruction, or it fails and
the registers are as before.  A third outcome is a crash: the instruction asked for a
slot that the register file does not have.
-/

/-- What a run does after a word that did not retire. -/
inductive FaultPolicy where
  | halt
  /-- Record the error and go on with the next word. -/
  | proceed
deriving Repr, DecidableEq

namespace FaultPolicy

def name : FaultPolicy → String
  | .halt => "halt"
  | .proceed => "continue"

def ofName? (text : String) : Option FaultPolicy :=
  [FaultPolicy.halt, .proceed].find? fun policy => policy.name == text

end FaultPolicy

structure Engine.Config where
  registerCount : Nat := Registers.defaultSize
  faultPolicy : FaultPolicy := .halt
deriving Repr, DecidableEq

inductive Engine.Error where
  | size (error : Registers.SizeError)
  /-- The table has register fields that can name a slot past the end of the file. -/
  | fieldsOutOfRange (count required : Nat)
deriving Repr, DecidableEq

namespace Engine.Error

def message : Engine.Error → String
  | .size error => error.message
  | .fieldsOutOfRange count required =>
      "instruction table addresses " ++ Text.decimal required ++ " registers, file has "
        ++ Text.decimal count

end Engine.Error

/-! ## Steps -/

structure Outcome where
  mnemonic : String
  line : Option String
deriving Repr, DecidableEq

inductive StepFailure where
  | decode (error : Decoded.Error)
  | fault (fault : Fault)
deriving Repr, DecidableEq

def StepFailure.message : StepFailure → String
  | .decode error => error.message
  | .fault raised => raised.message

inductive StepResult where
  | retired (outcome : Outcome)
  | failed (error : StepFailure)
  | crashed (missing : MissingSlot)
deriving Repr, DecidableEq

def Decoded.execute (decoded : Decoded) (registers : Registers) : StepResult × Registers :=
  match decoded.entry.operation.run decoded.operands registers with
  | .error (.fault cause) =>
      (.failed (.fault { mnemonic := decoded.mnemonic, word := decoded.word, cause }), registers)
  | .error (.missingSlot missing) => (.crashed missing, registers)
  | .ok effect =>
      match effect.commit registers with
      | (after, .ok _) =>
          (.retired { mnemonic := decoded.mnemonic, line := effect.line }, after)
      | (after, .error missing) => (.crashed missing, after)

structure Engine where
  table : Table
  config : Engine.Config
  registers : Registers
deriving Repr, DecidableEq

namespace Engine

/-- An engine with a zeroed register file, which has to hold the car registers and
every slot that a field of the table can name. -/
def make (table : Table) (config : Engine.Config) : Except Engine.Error Engine :=
  match Registers.ofSize config.registerCount with
  | .error error => .error (.size error)
  | .ok registers =>
      if registers.size < table.requiredRegisters then
        .error (.fieldsOutOfRange registers.size table.requiredRegisters)
      else .ok { table, config, registers }

def perform (engine : Engine) : Except Decoded.Error Decoded → StepResult × Engine
  | .error error => (.failed (.decode error), engine)
  | .ok decoded =>
      let (result, registers) := decoded.execute engine.registers
      (result, { engine with registers })

def step (engine : Engine) (word : Word) : StepResult × Engine :=
  engine.perform (engine.table.decode word)

def execute (engine : Engine) (mnemonic : String) (operands : Operands) :
    StepResult × Engine :=
  engine.perform (engine.table.resolve mnemonic operands)

end Engine

/-! ## Runs of a program and the report that they leave -/

structure Report where
  retired : Nat := 0
  output : List String := []
  /-- The words that did not retire, by their position in the program. -/
  errors : List (Nat × StepFailure) := []
  /-- Whether an error ended the run. -/
  halted : Bool := false
deriving Repr, DecidableEq

namespace Report

def transcript (report : Report) : String :=
  String.join report.output

def isClean (report : Report) : Bool :=
  report.errors.isEmpty

/-- The report of a run that starts with a retired word. -/
def afterRetired (outcome : Outcome) (report : Report) : Report :=
  { report with
    retired := report.retired + 1
    output := outcome.line.toList ++ report.output }

/-- The report of a run that starts with an error and goes on. -/
def afterFailed (index : Nat) (error : StepFailure) (report : Report) : Report :=
  { report with errors := (index, error) :: report.errors }

end Report

namespace Engine

/-- Steps through words, the first of which has the given position.  A crash ends the
run without a report. -/
def runAt (engine : Engine) (index : Nat) : List Word → Except MissingSlot Report × Engine
  | [] => (.ok {}, engine)
  | word :: rest =>
      match engine.step word with
      | (.retired outcome, next) =>
          let (report, last) := next.runAt (index + 1) rest
          (report.map (.afterRetired outcome), last)
      | (.failed error, next) =>
          match next.config.faultPolicy with
          | .halt => (.ok { errors := [(index, error)], halted := true }, next)
          | .proceed =>
              let (report, last) := next.runAt (index + 1) rest
              (report.map (.afterFailed index error), last)
      | (.crashed missing, next) => (.error missing, next)

def run (engine : Engine) (words : List Word) : Except MissingSlot Report × Engine :=
  engine.runAt 0 words

end Engine

end CarMachine
