import CarMachine.Text.Basic
import CarMachine.Word

namespace CarMachine

/-! Program texts: one hexadecimal word a line.  A `#` starts a comment that ends with
the line, and a line with nothing else is skipped.
-/

/-- A line that holds something else than one word. -/
structure Program.Error where
  line : Nat
  /-- The line without its comment and without white space at its ends. -/
  text : String
deriving Repr, DecidableEq

def Program.Error.message (error : Program.Error) : String :=
  "line " ++ Text.decimal error.line ++ ": `" ++ error.text ++ "` is not a 32-bit hex word"

namespace Program

/-- The hexadecimal digits of a written word: the mark in front and underscores anywhere
do not count. -/
def wordDigits (chars : List Char) : List Char :=
  ((Text.withoutHexMark? chars).getD chars).filter (· != '_')

def readWord? (chars : List Char) : Option Word :=
  let digits := wordDigits chars
  if digits.length ≤ 8 then (Text.digitsValue? 16 digits).map (BitVec.ofNat 32) else none

def parseWord? (text : String) : Option Word :=
  readWord? text.toList

/-- What a line holds besides its comment. -/
def significant (line : List Char) : List Char :=
  Text.trimmed (line.takeWhile (· != '#'))

/-- Reads lines, the first of which has the given number. -/
def readLines (number : Nat) : List (List Char) → Except Program.Error (List Word)
  | [] => .ok []
  | line :: rest =>
      let text := significant line
      if text.isEmpty then readLines (number + 1) rest
      else
        match readWord? text with
        | some word => (readLines (number + 1) rest).map (word :: ·)
        | none => .error { line := number, text := String.ofList text }

def parse (text : String) : Except Program.Error (List Word) :=
  readLines 1 (Text.linesOf text.toList)

end Program

end CarMachine
