import CarMachine.Program
import CarMachine.Settings

namespace CarMachine

/-! Programs and settings from files.  What the files hold is a parameter, so loading is a
function like any other.
-/

inductive FileError where
  | notFound
  /-- The path goes on behind a file. -/
  | notADirectory
  | isADirectory
  | nameTooLong
  | nullCharacter
  | notText
  /-- Any other failure, in the words of the system. -/
  | system (reason : String)
deriving Repr, DecidableEq

namespace FileError

/-- What the system says about a failure and the number that it has for it. -/
def numbered (reason : String) (number : Nat) : String :=
  reason ++ " (os error " ++ Text.decimal number ++ ")"

/-- The failure that the system knows by a number, if it is one of those told apart. -/
def ofNumber? : Nat → Option FileError
  | 2 => some .notFound
  | 20 => some .notADirectory
  | 21 => some .isADirectory
  | 36 => some .nameTooLong
  | _ => none

def message : FileError → String
  | .notFound => numbered "No such file or directory" 2
  | .notADirectory => numbered "Not a directory" 20
  | .isADirectory => numbered "Is a directory" 21
  | .nameTooLong => numbered "File name too long" 36
  | .nullCharacter => "file name contained an unexpected NUL byte"
  | .notText => "stream did not contain valid UTF-8"
  | .system reason => reason

end FileError

/-- The text that the bytes of a file are. -/
def fileText (bytes : ByteArray) : Except FileError String :=
  match String.fromUTF8? bytes with
  | some text => .ok text
  | none => .error .notText

/-- The text behind each path, or why there is none. -/
abbrev Files := String → Except FileError String

inductive LoadError where
  | programUnreadable (path : String) (error : FileError)
  | programInvalid (path : String) (error : Program.Error)
  | configUnreadable (path : String) (error : FileError)
  | configInvalid (path : String)
deriving Repr, DecidableEq

namespace LoadError

def message : LoadError → String
  | .programUnreadable path error => "failed to read program " ++ path ++ ": " ++ error.message
  | .programInvalid path error => "invalid program " ++ path ++ ": " ++ error.message
  | .configUnreadable path error => "failed to read config " ++ path ++ ": " ++ error.message
  | .configInvalid path => "invalid config " ++ path

end LoadError

namespace Files

def loadProgram (files : Files) (path : String) : Except LoadError (List Word) :=
  match files path with
  | .error error => .error (.programUnreadable path error)
  | .ok text => (Program.parse text).mapError (.programInvalid path)

def loadSettings (files : Files) (path : String) : Except LoadError Settings :=
  match files path with
  | .error error => .error (.configUnreadable path error)
  | .ok text =>
      match Settings.parse? text with
      | some settings => .ok settings
      | none => .error (.configInvalid path)

end Files

/-! ## Directories

The files of a directory are all that can be seen.  Directories above have no other names
in them than the one for the next directory above, and the topmost one is above itself.
-/

/-- A directory of files, and what a path finds when it starts there. -/
structure Directory where
  entries : List (String × ByteArray)

namespace Directory

/-- Where a path has led to. -/
inductive Place where
  | current
  | above
  | file (bytes : ByteArray)

def nameLimit : Nat := 255

def pathLimit : Nat := 4095

def get? (directory : Directory) (name : String) : Option ByteArray :=
  directory.entries.lookup name

def find (directory : Directory) (place : Place) (name : String) : Except FileError Place :=
  if nameLimit < name.utf8ByteSize then .error .nameTooLong
  else
    match place, directory.get? name with
    | .current, some bytes => .ok (.file bytes)
    | _, _ => .error .notFound

/-- Takes one part of a path.  Nothing can follow a file, not even an empty part. -/
def enter (directory : Directory) (place : Place) (part : String) : Except FileError Place :=
  match place with
  | .file _ => .error .notADirectory
  | place =>
      if part = "" ∨ part = "." then .ok place
      else if part = ".." then .ok .above
      else directory.find place part

def walk (directory : Directory) (place : Place) : List String → Except FileError Place
  | [] => .ok place
  | part :: rest =>
      match directory.enter place part with
      | .ok next => directory.walk next rest
      | .error error => .error error

def parts (path : String) : List String :=
  (path.toList.splitOn '/').map String.ofList

/-- Where a path starts: at the top if a slash comes first. -/
def origin (path : String) : Place :=
  match path.toList with
  | '/' :: _ => .above
  | _ => .current

/-- Where a path leads to. -/
def locate (directory : Directory) (path : String) : Except FileError Place :=
  if path.toList.contains '\x00' then .error .nullCharacter
  else if pathLimit < path.utf8ByteSize then .error .nameTooLong
  else if path.isEmpty then .error .notFound
  else directory.walk (origin path) (parts path)

def read (directory : Directory) (path : String) : Except FileError String :=
  match directory.locate path with
  | .ok (.file bytes) => fileText bytes
  | .ok _ => .error .isADirectory
  | .error error => .error error

end Directory

end CarMachine
