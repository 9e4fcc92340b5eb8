import CarMachine.Registers.Basic
import CarMachine.Word

namespace CarMachine

/-! What an instruction wants done, or why it has no effect.

An effect is register writes in order and at most one line of text.  Nothing is done
before `Effect.commit`, so an instruction that faults has no effect to undo.  A fault is a
condition that an instruction checks and refuses to go on with.
-/

structure Effect.Write where
  index : Nat
  value : Int32
deriving Repr, DecidableEq

structure Effect where
  writes : List Effect.Write := []
  /-- The line to emit, with its newline. -/
  line : Option String := none
deriving Repr, DecidableEq

namespace Effect

def write (effect : Effect) (index : Nat) (value : Int32) : Effect :=
  { effect with writes := effect.writes ++ [⟨index, value⟩] }

def writeCar (effect : Effect) (register : CarRegister) (value : Int32) : Effect :=
  effect.write register.slot value

/-- Sets the line, in place of an earlier one. -/
def emit (effect : Effect) (line : String) : Effect :=
  { effect with line := some line }

/-- The value that the last queued write to a slot leaves there, if one is queued. -/
def pending (effect : Effect) (index : Nat) : Option Int32 :=
  (effect.writes.reverse.find? fun write => write.index == index).map (·.value)

/-- Writes until one misses the register file; the ones before it stay. -/
def commitWrites : List Effect.Write → Registers → Registers × Except MissingSlot Unit
  | [], registers => (registers, .ok ())
  | write :: rest, registers =>
      match registers.write write.index write.value with
      | .ok next => commitWrites rest next
      | .error missing => (registers, .error missing)

def commit (effect : Effect) (registers : Registers) : Registers × Except MissingSlot Unit :=
  commitWrites effect.writes registers

end Effect

/-! ## Faults -/

inductive Fault.Cause where
  /-- A signed result does not fit in 32 bits. -/
  | arithmeticOverflow
deriving Repr, DecidableEq

namespace Fault.Cause

/-- The stable number of the cause. -/
def number : Fault.Cause → Nat
  | .arithmeticOverflow => 1

def ofNumber? : Nat → Option Fault.Cause
  | 1 => some .arithmeticOverflow
  | _ => none

def message : Fault.Cause → String
  | .arithmeticOverflow => "arithmetic overflow"

end Fault.Cause

structure Fault where
  mnemonic : String
  /-- The word that was executed, if execution started from a word. -/
  word : Option Word
  cause : Fault.Cause
deriving Repr, DecidableEq

def Fault.message (fault : Fault) : String :=
  fault.cause.message ++ " in `" ++ fault.mnemonic ++ "`" ++
    match fault.word with
    | some word => " (word " ++ word.markedHex ++ ")"
    | none => ""

/-- Why an operation has no effect. -/
inductive Trap where
  | fault (cause : Fault.Cause)
  /-- An operand or the operation itself names a slot that is not there. -/
  | missingSlot (missing : MissingSlot)
deriving Repr, DecidableEq

namespace Registers

/-- Reads a slot for an operation. -/
def fetch (registers : Registers) (index : Nat) : Except Trap Int32 :=
  (registers.read index).mapError .missingSlot

end Registers

end CarMachine
