import CarMachine.Registers.Name
import CarMachine.Table.Basic

namespace CarMachine

/-! Instructions ready to be executed.  They come from a word, which the table decodes,
or from a mnemonic with operands, which the table resolves.

Words are also shown as instructions.  A register is shown by its name and an immediate as
a signed decimal number; a word that no entry matches is shown as data.
-/

inductive Decoded.Error where
  | noMatch (word : Word)
  | unknownMnemonic (mnemonic : String)
  | badOperands (mnemonic : String) (error : Operands.Error)
deriving Repr, DecidableEq

namespace Decoded.Error

def message : Decoded.Error → String
  | .noMatch word => "no instruction matches word " ++ word.markedHex
  | .unknownMnemonic mnemonic => "unknown mnemonic `" ++ mnemonic ++ "`"
  | .badOperands mnemonic error =>
      "invalid operands for `" ++ mnemonic ++ "`: " ++ error.message

end Decoded.Error

structure Decoded where
  /-- The word that was decoded; there is none behind a mnemonic. -/
  word : Option Word
  entry : Entry
  operands : Operands
deriving Repr, DecidableEq

def Decoded.mnemonic (decoded : Decoded) : String :=
  decoded.entry.mnemonic

namespace Table

def decode (table : Table) (word : Word) : Except Decoded.Error Decoded :=
  match table.lookup? word with
  | some entry => .ok { word := some word, entry, operands := entry.template.operandsOf word }
  | none => .error (.noMatch word)

/-- Resolves operands that have been read elsewhere; they are used only if they fit. -/
def resolve (table : Table) (mnemonic : String) (operands : Operands) :
    Except Decoded.Error Decoded :=
  match table.get? mnemonic with
  | none => .error (.unknownMnemonic mnemonic)
  | some entry =>
      match entry.template.check operands with
      | .error error => .error (.badOperands entry.mnemonic error)
      | .ok _ => .ok { word := none, entry, operands }

end Table

/-! ## Words shown as instructions -/

structure Disassembly.Row where
  index : Nat
  word : Word
  mnemonic : String
  operands : String
  /-- No entry matches the word. -/
  isIllegal : Bool
deriving Repr, DecidableEq

namespace Disassembly.Row

def text (row : Disassembly.Row) : String :=
  if row.operands.isEmpty then row.mnemonic else row.mnemonic ++ " " ++ row.operands

end Disassembly.Row

def BitField.showValue (field : BitField) (value : Word) : String :=
  if field.isImmediate then Text.decimalInt value.signedLowHalf.toInt
  else RegisterName.display value.toNat

def Template.showOperands (template : Template) (word : Word) : String :=
  String.intercalate ", "
    (template.fields.map fun field => field.showValue (field.read word))

namespace Table

def disassembleAt (table : Table) (index : Nat) (word : Word) : Disassembly.Row :=
  match table.lookup? word with
  | some entry =>
      { index, word, mnemonic := entry.mnemonic
        operands := entry.template.showOperands word, isIllegal := false }
  | none =>
      { index, word, mnemonic := ".word", operands := word.markedHex, isIllegal := true }

def disassemble (table : Table) (word : Word) : Disassembly.Row :=
  table.disassembleAt 0 word

def disassembleAll (table : Table) (words : List Word) : List Disassembly.Row :=
  words.zipIdx.map fun (word, index) => table.disassembleAt index word

end Table

end CarMachine
