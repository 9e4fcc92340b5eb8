import CarMachine.Operation
import CarMachine.Template.Basic

namespace CarMachine

/-! Instruction tables.

A table lists its entries in the order of their registration.  Beside them it keeps where
the entry of each mnemonic stands, and the positions of all entries in the order in which
words are looked up: more literal bits first.  Two patterns may share words only if one
lies strictly inside the other, so the first entry that matches a word is the narrowest
one.
-/

/-- An instruction: a template and the operation bound to it. -/
structure Entry where
  template : Template
  operation : Operation
deriving Repr, DecidableEq

namespace Entry

def mnemonic (entry : Entry) : String :=
  entry.template.mnemonic

def literalCount (entry : Entry) : Nat :=
  entry.template.pattern.literalCount

end Entry

inductive Table.Error where
  | taken (mnemonic : String)
  /-- The pattern shares words with that of an existing entry, and neither lies strictly
  inside the other. -/
  | ambiguous (mnemonic existing : String)
  | badTemplate (mnemonic : String) (error : Template.Error)
deriving Repr, DecidableEq

namespace Table.Error

def message : Table.Error → String
  | .taken mnemonic => "mnemonic `" ++ mnemonic ++ "` is already registered"
  | .ambiguous mnemonic existing =>
      "`" ++ mnemonic ++ "` and `" ++ existing
        ++ "` both decode some words with no narrower choice"
  | .badTemplate mnemonic error =>
      "invalid template for `" ++ mnemonic ++ "`: " ++ error.message

end Table.Error

structure Table where
  entries : List Entry
  /-- The mnemonics with the positions of their entries, the latest one first. -/
  positions : List (String × Nat)
  decodeOrder : List Nat
deriving Repr, DecidableEq

namespace Table

def empty : Table := ⟨[], [], []⟩

def size (table : Table) : Nat :=
  table.entries.length

/-- Puts a position in front of the first one that passes a test. -/
def insertBefore (test : Nat → Bool) (position : Nat) : List Nat → List Nat
  | [] => [position]
  | other :: rest =>
      if test other then position :: other :: rest
      else other :: insertBefore test position rest

def ordered (table : Table) : List Entry :=
  table.decodeOrder.filterMap fun position => table.entries[position]?

def get? (table : Table) (mnemonic : String) : Option Entry :=
  (table.positions.lookup mnemonic).bind fun position => table.entries[position]?

def lookup? (table : Table) (word : Word) : Option Entry :=
  table.ordered.find? fun entry => decide (entry.template.Matches word)

/-- The earliest entry whose pattern is in the way of a new one. -/
def conflict? (table : Table) (pattern : Pattern) : Option Entry :=
  table.entries.find? fun entry => !entry.template.pattern.compatible pattern

/-- Whether the entry at a position has fewer literal bits than another entry. -/
def fewerLiterals (table : Table) (entry : Entry) (position : Nat) : Bool :=
  table.entries[position]?.any fun other => decide (other.literalCount < entry.literalCount)

/-- The table with one more entry.  In look-up order it comes before the first entry with
fewer literal bits. -/
def push (table : Table) (entry : Entry) : Table :=
  let position := table.entries.length
  { entries := table.entries ++ [entry]
    positions := (entry.mnemonic, position) :: table.positions
    decodeOrder := insertBefore (table.fewerLiterals entry) position table.decodeOrder }

/-- Registers a template, and answers whether it is accepted.  A mnemonic that is taken is
refused before any pattern is compared. -/
def register (table : Table) (template : Template) (operation : Operation) :
    Table × Except Table.Error Unit :=
  if (table.positions.lookup template.mnemonic).isSome then
    (table, .error (.taken template.mnemonic))
  else
    match table.conflict? template.pattern with
    | some existing => (table, .error (.ambiguous template.mnemonic existing.mnemonic))
    | none => (table.push ⟨template, operation⟩, .ok ())

/-- The size that a register file needs so that every field of a word names a slot. -/
def requiredRegisters (table : Table) : Nat :=
  if table.entries.any fun entry =>
      entry.template.fields.any fun field => !field.isImmediate
  then 1 <<< BitField.registerWidth
  else 0

end Table

/-! ## Instructions as they are written down -/

/-- An instruction with its pattern as text. -/
structure Definition where
  mnemonic : String
  usage : String := ""
  description : String := ""
  layout : OperandLayout
  pattern : String
  operation : Operation
deriving Repr, DecidableEq

def Definition.template (definition : Definition) : Except Template.Error Template :=
  Template.build definition.mnemonic definition.usage definition.description definition.layout
    definition.pattern

namespace Table

def define (table : Table) (definition : Definition) : Table × Except Table.Error Unit :=
  match definition.template with
  | .error error => (table, .error (.badTemplate definition.mnemonic error))
  | .ok template => table.register template definition.operation

/-- Registers instructions in order up to the first that is refused. -/
def defineAll (table : Table) : List Definition → Table × Except Table.Error Unit
  | [] => (table, .ok ())
  | definition :: rest =>
      match table.define definition with
      | (next, .ok _) => next.defineAll rest
      | (next, .error error) => (next, .error error)

/-- The table with the instructions before the first that is refused. -/
def extend (table : Table) (definitions : List Definition) : Table :=
  (table.defineAll definitions).1

end Table

end CarMachine
