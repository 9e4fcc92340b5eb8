import CarMachine.Toml.Token
import CarMachine.Toml.Value

namespace CarMachine.Toml

/-! TOML documents.

Reading takes one token at a time.  Tables in braces that are still open stand on a
stack, each with the key whose value it will be.
-/

/-- A table in braces that is being read, and the key that it belongs to. -/
structure Frame where
  key : List String
  entries : Entries
deriving Repr

/-- What is expected next.  The parts of a key are kept with the nearest first. -/
inductive Place where
  | lineStart
  /-- A part of the name in a header. -/
  | header (parts : List String)
  /-- A dot or the end of the name in a header. -/
  | headerEnd (parts : List String)
  /-- A part of a key, or the end of a table in braces that has just been opened. -/
  | key (parts : List String) (mayClose : Bool)
  | keyEnd (parts : List String)
  | value (parts : List String)
  /-- The end of an empty list. -/
  | list (parts : List String)
  /-- A comma or the end of a table in braces. -/
  | entryEnd
  | lineEnd
deriving Repr

structure Reading where
  /-- The entries of the whole document. -/
  root : Entries := []
  /-- The table that the last header has opened. -/
  current : List String := []
  frames : List Frame := []
  place : Place := .lineStart
deriving Repr

namespace Reading

def isKeyChar (char : Char) : Bool :=
  char.isAlphanum || char == '_' || char == '-'

def keyPart? : Token → Option String
  | .bare chars => if chars.all isKeyChar then some (String.ofList chars) else none
  | .quoted text false => some (String.ofList text)
  | _ => none

def scalar? : Token → Option Value
  | .bare chars => (Integer.read? chars).map .integer
  | .quoted text _ => some (.text (String.ofList text))
  | _ => none

def define? (reading : Reading) (key : List String) (value : Value) : Option Reading :=
  match reading.frames with
  | [] => do
      let root ← reading.root.change? (Entries.define? value key) reading.current
      return { reading with root, place := .lineEnd }
  | frame :: frames => do
      let entries ← frame.entries.define? value key
      return { reading with frames := { frame with entries } :: frames, place := .entryEnd }

/-- Closes the innermost table in braces. -/
def closeTable? (reading : Reading) : Option Reading :=
  match reading.frames with
  | [] => none
  | frame :: frames =>
      { reading with frames }.define? frame.key (.table .inline frame.entries)

def openTable? (reading : Reading) (name : List String) : Option Reading := do
  let root ← reading.root.openTable? name
  return { reading with root, current := name, place := .lineEnd }

def goto (reading : Reading) (place : Place) : Option Reading :=
  some { reading with place }

def step? (reading : Reading) (token : Token) : Option Reading :=
  match reading.place, token with
  | .lineStart, .newline => reading.goto .lineStart
  | .lineStart, .openBracket => reading.goto (.header [])
  | .lineStart, token => (keyPart? token).bind fun part => reading.goto (.keyEnd [part])
  | .header parts, token =>
      (keyPart? token).bind fun part => reading.goto (.headerEnd (part :: parts))
  | .headerEnd parts, .dot => reading.goto (.header parts)
  | .headerEnd parts, .closeBracket => reading.openTable? parts.reverse
  | .key _ true, .closeBrace => reading.closeTable?
  | .key parts _, token =>
      (keyPart? token).bind fun part => reading.goto (.keyEnd (part :: parts))
  | .keyEnd parts, .dot => reading.goto (.key parts false)
  | .keyEnd parts, .equals => reading.goto (.value parts)
  | .value parts, .openBracket => reading.goto (.list parts)
  | .value parts, .openBrace =>
      some { reading with
        frames := { key := parts.reverse, entries := [] } :: reading.frames
        place := .key [] true }
  | .value parts, token => (scalar? token).bind (reading.define? parts.reverse)
  | .list parts, .newline => reading.goto (.list parts)
  | .list parts, .closeBracket => reading.define? parts.reverse .emptyList
  | .entryEnd, .comma => reading.goto (.key [] false)
  | .entryEnd, .closeBrace => reading.closeTable?
  | .lineEnd, .newline => reading.goto .lineStart
  | _, _ => none

/-- The document, if the text may end here. -/
def finish? (reading : Reading) : Option Entries :=
  match reading.place with
  | .lineStart | .lineEnd => some reading.root
  | _ => none

def readFrom? (reading : Reading) : List Token → Option Entries
  | [] => reading.finish?
  | token :: rest =>
      match reading.step? token with
      | some next => readFrom? next rest
      | none => none

end Reading

def read? (text : String) : Option Entries :=
  (tokens? text).bind (Reading.readFrom? {})

end CarMachine.Toml
