import CarMachine.Text.Basic

namespace CarMachine

/-! Instruction words, the few questions asked of their bits, and their variable fields. -/

/-- An instruction word.  Bit 31 is the most significant one and is written first. -/
abbrev Word := BitVec 32

namespace Word

def bitCount (word : Word) : Nat :=
  (List.range 32).countP fun index => word.getLsbD index

/-- The low sixteen bits as a signed number. -/
def signedLowHalf (word : Word) : Int32 :=
  .ofBitVec ((word.setWidth 16).signExtend 32)

def hexDigits (word : Word) : String :=
  Text.padLeft '0' 8 (Text.hex word.toNat)

/-- The eight hexadecimal digits after the mark `0x`. -/
def markedHex (word : Word) : String :=
  "0x" ++ word.hexDigits

end Word

/-- What a variable field stands for: the first source register, the second source
register or an immediate number, and the destination register. -/
inductive FieldRole where
  | source
  | target
  | destination
deriving Repr, DecidableEq

namespace FieldRole

def all : List FieldRole := [.source, .target, .destination]

def letter : FieldRole → Char
  | .source => 's'
  | .target => 't'
  | .destination => 'f'

def ofLetter? (char : Char) : Option FieldRole :=
  all.find? fun role => role.letter == char

def letters (roles : List FieldRole) : String :=
  String.ofList (roles.map letter)

end FieldRole

/-- A field of the given role: `width` bits, the lowest of which is bit `shift`. -/
structure BitField where
  role : FieldRole
  shift : Nat
  width : Nat
deriving Repr, DecidableEq

namespace BitField

def registerWidth : Nat := 5

def immediateWidth : Nat := 16

/-- The low bits, as many as the field is wide.  Any width from 32 on gives the full
mask. -/
def lowMask (field : BitField) : Word :=
  BitVec.allOnes 32 >>> (32 - field.width)

def mask (field : BitField) : Word :=
  field.lowMask <<< field.shift

/-- The value that a word holds in the field. -/
def read (field : BitField) (word : Word) : Word :=
  (word >>> field.shift) &&& field.lowMask

/-- The word that holds a value in the field and nothing elsewhere. -/
def place (field : BitField) (value : Word) : Word :=
  (value &&& field.lowMask) <<< field.shift

def isImmediate (field : BitField) : Bool :=
  field.width == immediateWidth

/-- Whether a value has no bit outside the mask. -/
def fits (field : BitField) (value : Word) : Bool :=
  value &&& ~~~field.lowMask == 0

end BitField

end CarMachine
