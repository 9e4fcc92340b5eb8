import CarMachine.Assignment

namespace CarMachine

/-! The arguments of the program.

A subcommand is a plain word; in front of it only the switches for verbose logging and
for the version may stand.  After it come its switches, its options, each with a value
in the same argument behind an equals sign or in the next one, and its operands.  Only
`--set` may be given twice.
-/

structure RunArguments where
  program : String
  config : Option String := none
  set : List Assignment := []
  continueOnFault : Bool := false
  dump : Bool := false
deriving Repr, DecidableEq

inductive Invocation where
  | version
  | run (arguments : RunArguments)
  | list
  | disasm (program : String)
deriving Repr, DecidableEq

namespace Arguments

/-- An argument by its hyphens. -/
inductive Argument where
  /-- Two hyphens: whatever follows is an operand. -/
  | separator
  | long (name : String) (value : Option String)
  | short (letters : List Char)
  | plain (text : String)
deriving Repr, DecidableEq

namespace Argument

/-- A lone hyphen is a plain argument. -/
def ofString (text : String) : Argument :=
  match text.toList with
  | ['-', '-'] => .separator
  | '-' :: '-' :: rest =>
      let name := String.ofList (rest.takeWhile (· != '='))
      match rest.dropWhile (· != '=') with
      | _ :: value => .long name (some (String.ofList value))
      | [] => .long name none
  | '-' :: letter :: rest => .short (letter :: rest)
  | _ => .plain text

/-- The text of an argument that can be the value of an option in front of it. -/
def optionValue? : Argument → Option String
  | .plain text => some text
  | _ => none

end Argument

inductive Subcommand where
  | run
  | list
  | disasm
deriving Repr, DecidableEq

namespace Subcommand

def ofName? : String → Option Subcommand
  | "run" => some .run
  | "list" => some .list
  | "disasm" => some .disasm
  | _ => none

end Subcommand

structure Given where
  verbose : Bool := false
  program : Option String := none
  config : Option String := none
  set : List Assignment := []
  continueOnFault : Bool := false
  dump : Bool := false
deriving Repr, DecidableEq

namespace Given

def setVerbose? (given : Given) : Option Given :=
  if given.verbose then none else some { given with verbose := true }

def short? (given : Given) : List Char → Option Given
  | [] => some given
  | 'v' :: rest => given.setVerbose?.bind (short? · rest)
  | _ => none

/-- Takes a switch.  All but `--verbose` belong to the run subcommand. -/
def switch? (given : Given) : Subcommand → String → Option Given
  | _, "verbose" => given.setVerbose?
  | .run, "continue-on-fault" =>
      if given.continueOnFault then none else some { given with continueOnFault := true }
  | .run, "dump" => if given.dump then none else some { given with dump := true }
  | _, _ => none

/-- Takes an option with its value.  A path is not empty. -/
def option? (given : Given) : Subcommand → String → String → Option Given
  | .run, "config", path =>
      if given.config.isSome || path.isEmpty then none
      else some { given with config := some path }
  | .run, "set", text =>
      match Assignment.parse text with
      | .ok assignment => some { given with set := given.set ++ [assignment] }
      | .error _ => none
  | _, _, _ => none

def operand? (given : Given) : Subcommand → String → Option Given
  | .list, _ => none
  | _, path =>
      if given.program.isSome || path.isEmpty then none
      else some { given with program := some path }

def takesValue : Subcommand → String → Bool
  | .run, "config" => true
  | .run, "set" => true
  | _, _ => false

def read? (subcommand : Subcommand) (given : Given) : List String → Option Given
  | [] => some given
  | argument :: rest =>
      match Argument.ofString argument with
      | .separator => rest.foldlM (fun given path => given.operand? subcommand path) given
      | .plain path => (given.operand? subcommand path).bind (read? subcommand · rest)
      | .short letters => (given.short? letters).bind (read? subcommand · rest)
      | .long name (some value) =>
          (given.option? subcommand name value).bind (read? subcommand · rest)
      | .long name none =>
          if takesValue subcommand name then
            match rest with
            | [] => none
            | next :: rest =>
                match (Argument.ofString next).optionValue? with
                | some value =>
                    (given.option? subcommand name value).bind (read? subcommand · rest)
                | none => none
          else (given.switch? subcommand name).bind (read? subcommand · rest)

def invocation? (given : Given) : Subcommand → Option Invocation
  | .list => some .list
  | .disasm => given.program.map .disasm
  | .run =>
      given.program.map fun program =>
        .run { program, config := given.config, set := given.set
               continueOnFault := given.continueOnFault, dump := given.dump }

end Given

/-- What the short switches in front of a subcommand come to: the version is asked for,
or logging is verbose. -/
def leadingShort? (verbose : Bool) : List Char → Option (Invocation ⊕ Bool)
  | [] => some (.inr verbose)
  | 'V' :: _ => some (.inl .version)
  | 'v' :: rest => if verbose then none else leadingShort? true rest
  | _ => none

/-- Takes arguments up to a subcommand.  Once the version is asked for, nothing more is
looked at. -/
def leading? (verbose : Bool) : List String → Option Invocation
  | [] => none
  | argument :: rest =>
      match Argument.ofString argument with
      | .plain word =>
          match Subcommand.ofName? word with
          | some subcommand =>
              (Given.read? subcommand {} rest).bind fun given => given.invocation? subcommand
          | none => none
      | .long "version" none => some .version
      | .long "verbose" none => if verbose then none else leading? true rest
      | .short letters =>
          match leadingShort? verbose letters with
          | some (.inl invocation) => some invocation
          | some (.inr verbose) => leading? verbose rest
          | none => none
      | _ => none

/-- What the arguments ask for.  Nothing else is accepted. -/
def parse? (arguments : List String) : Option Invocation :=
  leading? false arguments

end Arguments

end CarMachine
