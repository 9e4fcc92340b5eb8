import CarMachine.Text.Basic

namespace CarMachine.Json

/-! The tokens of a JSON text.

A machine takes one character at a time.  A string is kept as the units that its
escapes and characters denote; whether the units make up a text is asked only where the
text is needed.
-/

inductive Token where
  | openObject
  | closeObject
  | openArray
  | closeArray
  | colon
  | comma
  | word (letters : List Char)
  | number (chars : List Char)
  | string (units : List Nat)
deriving Repr, DecidableEq

/-- Where the machine stands between two characters.  What is unfinished is kept with the
nearest part first. -/
inductive Lexing where
  | between
  | word (letters : List Char)
  | number (chars : List Char)
  | string (units : List Nat)
  | escape (units : List Nat)
  /-- After `\u` and some of its four digits. -/
  | escapedUnit (units : List Nat) (digits : List Char)
deriving Repr, DecidableEq

namespace Lexing

def isSpace (char : Char) : Bool :=
  char == ' ' || char == '\t' || char == '\n' || char == '\r'

def isLetter (char : Char) : Bool :=
  char.isAlpha

def startsNumber (char : Char) : Bool :=
  char.isDigit || char == '-'

def continuesNumber (char : Char) : Bool :=
  startsNumber char || char == '+' || char == '.' || char == 'e' || char == 'E'

/-- What a character outside of words, numbers and strings begins or is. -/
def start? (char : Char) : Option (Lexing × List Token) :=
  if isSpace char then some (.between, [])
  else if char = '\x7b' then some (.between, [.openObject])
  else if char = '\x7d' then some (.between, [.closeObject])
  else if char = '[' then some (.between, [.openArray])
  else if char = ']' then some (.between, [.closeArray])
  else if char = ':' then some (.between, [.colon])
  else if char = ',' then some (.between, [.comma])
  else if char = '"' then some (.string [], [])
  else if startsNumber char then some (.number [char], [])
  else if isLetter char then some (.word [char], [])
  else none

def startAfter? (token : Token) (char : Char) : Option (Lexing × List Token) :=
  (start? char).map fun (next, tokens) => (next, token :: tokens)

/-- The unit that a short escape denotes. -/
def shortEscape? : Char → Option Nat
  | '"' => some 0x22
  | '\\' => some 0x5c
  | '/' => some 0x2f
  | 'b' => some 0x8
  | 'f' => some 0xc
  | 'n' => some 0xa
  | 'r' => some 0xd
  | 't' => some 0x9
  | _ => none

/-- Takes one character.  Control characters have to be escaped in a string. -/
def step? : Lexing → Char → Option (Lexing × List Token)
  | .between, char => start? char
  | .word letters, char =>
      if isLetter char then some (.word (char :: letters), [])
      else startAfter? (.word letters.reverse) char
  | .number chars, char =>
      if continuesNumber char then some (.number (char :: chars), [])
      else startAfter? (.number chars.reverse) char
  | .string units, char =>
      if char = '"' then some (.between, [.string units.reverse])
      else if char = '\\' then some (.escape units, [])
      else if char.toNat < 0x20 then none
      else some (.string (char.toNat :: units), [])
  | .escape units, char =>
      if char = 'u' then some (.escapedUnit units [], [])
      else (shortEscape? char).map fun unit => (.string (unit :: units), [])
  | .escapedUnit units digits, char =>
      if digits.length < 3 then some (.escapedUnit units (char :: digits), [])
      else
        (Text.digitsValue? 16 (char :: digits).reverse).map fun unit =>
          (.string (unit :: units), [])

def finish? : Lexing → Option (List Token)
  | .between => some []
  | .word letters => some [.word letters.reverse]
  | .number chars => some [.number chars.reverse]
  | .string _ | .escape _ | .escapedUnit _ _ => none

def tokensFrom? (state : Lexing) : List Char → Option (List Token)
  | [] => state.finish?
  | char :: rest =>
      match state.step? char with
      | none => none
      | some (next, tokens) => (tokensFrom? next rest).map (tokens ++ ·)

end Lexing

def tokens? (text : String) : Option (List Token) :=
  Lexing.tokensFrom? .between text.toList

/-- The characters that units denote.  A high and a low surrogate in a row are one
character; a surrogate on its own denotes none. -/
def charsOfUnits? : List Nat → Option (List Char)
  | [] => some []
  | [unit] => if unit.isValidChar then some [Char.ofNat unit] else none
  | unit :: next :: rest =>
      if unit.isValidChar then (charsOfUnits? (next :: rest)).map (Char.ofNat unit :: ·)
      else if 0xd800 ≤ unit ∧ unit < 0xdc00 ∧ 0xdc00 ≤ next ∧ next < 0xe000 then
        let code := 0x10000 + (unit - 0xd800) * 0x400 + (next - 0xdc00)
        (charsOfUnits? rest).map (Char.ofNat code :: ·)
      else none

def textOfUnits? (units : List Nat) : Option String :=
  (charsOfUnits? units).map String.ofList

end CarMachine.Json
