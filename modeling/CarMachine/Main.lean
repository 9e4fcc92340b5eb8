import CarMachine.CommandLine.Basic

namespace CarMachine

/-! The executable: it reads the files that are named and prints the ending. -/

def fileError (error : IO.Error) : FileError :=
  match error with
  | .noFileOrDirectory .. => .notFound
  | .inappropriateType _ code details | .permissionDenied _ code details
  | .resourceExhausted _ code details | .invalidArgument _ code details =>
      (FileError.ofNumber? code.toNat).getD (.system (FileError.numbered details code.toNat))
  | other => .system other.toString

def readFileText (path : String) : IO (Except FileError String) := do
  try
    return fileText (← IO.FS.readBinFile path)
  catch error => return .error (fileError error)

def readFiles (invocation : Invocation) : IO Files := do
  let paths :=
    match invocation with
    | .run arguments => arguments.program :: arguments.config.toList
    | .disasm program => [program]
    | .version | .list => []
  let contents ← paths.mapM fun path => return (path, ← readFileText path)
  return fun path => (contents.lookup path).getD (.error .notFound)

def start (arguments : List String) : IO UInt32 := do
  let files ←
    match Arguments.parse? arguments with
    | some invocation => readFiles invocation
    | none => pure fun _ => .error .notFound
  let ending := commandLine files arguments
  IO.print ending.printed
  if let some failure := ending.failure then
    IO.eprintln ("error: " ++ failure.message)
  return ending.code.toUInt32

end CarMachine

def main (arguments : List String) : IO UInt32 :=
  CarMachine.start arguments
