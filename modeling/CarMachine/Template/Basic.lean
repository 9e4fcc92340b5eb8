import CarMachine.Pattern.Basic

namespace CarMachine

/-! Instruction templates: a pattern with the layout that orders its fields.

A layout fixes which fields an instruction has and in which order their values stand in
an operand list.  `operandsOf` reads the operands out of a word and `encode` writes them
into one.  `check` is the exact condition under which `encode` answers.
-/

inductive OperandLayout where
  | threeRegister
  | twoRegister
  | oneRegister
  | zeroRegister
deriving Repr, DecidableEq

namespace OperandLayout

def all : List OperandLayout :=
  [.threeRegister, .twoRegister, .oneRegister, .zeroRegister]

/-- The roles in operand order: the destination comes first. -/
def fields : OperandLayout → List FieldRole
  | .threeRegister => [.destination, .source, .target]
  | .twoRegister => [.destination, .source]
  | .oneRegister => [.destination]
  | .zeroRegister => []

def arity (layout : OperandLayout) : Nat :=
  layout.fields.length

def name : OperandLayout → String
  | .threeRegister => "three-register"
  | .twoRegister => "two-register"
  | .oneRegister => "one-register"
  | .zeroRegister => "zero-register"

theorem arity_le (layout : OperandLayout) : layout.arity ≤ 3 := by
  cases layout <;> decide

end OperandLayout

/-! ## Operand lists -/

inductive Operands.Error where
  | count (expected actual : Nat)
  /-- An operand has bits outside its field. -/
  | tooWide (position : Nat) (value : Word) (width : Nat)
deriving Repr, DecidableEq

namespace Operands.Error

def message : Operands.Error → String
  | .count expected actual =>
      "expected " ++ Text.decimal expected ++ " operands, got " ++ Text.decimal actual
  | .tooWide position value width =>
      "operand " ++ Text.decimal position ++ " value 0x" ++ Text.hex value.toNat
        ++ " does not fit a " ++ Text.decimal width ++ "-bit field"

end Operands.Error

/-- Up to three values, each a register number or the raw bits of an immediate. -/
@[ext]
structure Operands where
  values : List Word
  length_le : values.length ≤ 3
deriving Repr, DecidableEq

namespace Operands

/-- No instruction takes more operands. -/
def capacity : Nat := 3

def empty : Operands := ⟨[], by decide⟩

def ofList (values : List Word) : Except Operands.Error Operands :=
  if fits : values.length ≤ capacity then .ok ⟨values, fits⟩
  else .error (.count capacity values.length)

def length (operands : Operands) : Nat :=
  operands.values.length

/-- The value at a position.  An absent operand reads as zero. -/
def value (operands : Operands) (position : Nat) : Word :=
  operands.values.getD position 0

def register (operands : Operands) (position : Nat) : Nat :=
  (operands.value position).toNat

end Operands

/-! ## Templates -/

inductive Template.Error where
  | pattern (error : Pattern.Error)
  /-- The fields of the pattern are not the ones that the layout names. -/
  | layoutMismatch (layout : OperandLayout) (found : List FieldRole)
deriving Repr, DecidableEq

namespace Template.Error

def message : Template.Error → String
  | .pattern error => error.message
  | .layoutMismatch layout found =>
      layout.name ++ " format needs fields `" ++ FieldRole.letters layout.fields
        ++ "`, pattern has `" ++ FieldRole.letters found ++ "`"

end Template.Error

structure Template where
  mnemonic : String
  usage : String
  description : String
  layout : OperandLayout
  pattern : Pattern
deriving Repr, DecidableEq

namespace Template

/-- Removes the role at a position; the last role comes into its place. -/
def swapRemove (roles : List FieldRole) (index : Nat) : List FieldRole :=
  match roles.getLast? with
  | some last => (roles.set index last).dropLast
  | none => []

/-- The fields of a pattern are met one after the other and struck off the wanted ones. -/
structure Comparison where
  /-- The wanted roles that have not been met. -/
  missing : List FieldRole
  /-- Whether every role that has been met was wanted. -/
  fitting : Bool

namespace Comparison

def meet (comparison : Comparison) (role : FieldRole) : Comparison :=
  match comparison.missing.idxOf? role with
  | some index => { comparison with missing := swapRemove comparison.missing index }
  | none => { comparison with fitting := false }

def agrees (comparison : Comparison) : Bool :=
  comparison.fitting && comparison.missing.isEmpty

end Comparison

/-- Whether the pattern has exactly the fields that the layout names.  The fields of the
pattern come in listing order, those of the layout in operand order. -/
def fieldsAgree (layout : OperandLayout) (pattern : Pattern) : Bool :=
  let present := FieldRole.all.filter fun role => (pattern.field? role).isSome
  (present.foldl Comparison.meet { missing := layout.fields, fitting := true }).agrees

/-- The template with the written pattern, if the pattern can be read and has the fields
of the layout. -/
def build (mnemonic usage description : String) (layout : OperandLayout)
    (pattern : String) : Except Template.Error Template :=
  match Pattern.parse pattern with
  | .error error => .error (.pattern error)
  | .ok pattern =>
      if fieldsAgree layout pattern then
        .ok { mnemonic, usage, description, layout, pattern }
      else .error (.layoutMismatch layout pattern.roles)

def Matches (template : Template) (word : Word) : Prop :=
  template.pattern.Matches word

instance (template : Template) (word : Word) : Decidable (template.Matches word) :=
  inferInstanceAs (Decidable (template.pattern.Matches word))

def fields (template : Template) : List BitField :=
  template.layout.fields.filterMap template.pattern.field?

theorem fields_length_le (template : Template) : template.fields.length ≤ 3 :=
  Nat.le_trans (List.length_filterMap_le _ _) template.layout.arity_le

/-- The operands that a word holds, whether or not its literal bits match. -/
def operandsOf (template : Template) (word : Word) : Operands :=
  ⟨template.fields.map fun field => field.read word,
    by simpa using template.fields_length_le⟩

/-- The first operand that does not fit the field at its position. -/
def misfit? (position : Nat) : List BitField → List Word → Option Operands.Error
  | field :: fields, value :: values =>
      if field.fits value then misfit? (position + 1) fields values
      else some (.tooWide position value field.width)
  | _, _ => none

/-- Why the operands do not fit this template, if they do not.  Their number is looked
at before their values. -/
def check (template : Template) (operands : Operands) : Except Operands.Error Unit :=
  if operands.length ≠ template.layout.arity then
    .error (.count template.layout.arity operands.length)
  else
    match misfit? 0 template.fields operands.values with
    | some error => .error error
    | none => .ok ()

/-- The literal bits together with the operands in their fields. -/
def assemble (template : Template) (values : List Word) : Word :=
  (template.fields.zip values).foldl
    (fun word (field, value) => word ||| field.place value) template.pattern.bits

/-- The word that holds the operands, if they fit. -/
def encode (template : Template) (operands : Operands) : Except Operands.Error Word :=
  (template.check operands).map fun _ => template.assemble operands.values

end Template

end CarMachine
