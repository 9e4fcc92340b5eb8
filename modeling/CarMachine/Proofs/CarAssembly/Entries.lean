import CarMachine.CarAssembly

namespace CarMachine.CarAssembly

/-! The built-in table with its patterns read.

The shapes below give masks and fields once, so that facts about all instructions are
decided without reading a written pattern again.
-/

/-- A pattern with its literal bits taken from a code. -/
def shape (mask : Word) (fields : List BitField) (code : Word) : Pattern where
  mask
  bits := code &&& mask
  fields
  bits_within_mask := by rw [BitVec.and_assoc, BitVec.and_self]

/-- Three registers, and the kind of operation in the low eleven bits. -/
def threeRegisters : Word → Pattern :=
  shape 0xFC0007FF [⟨.source, 21, 5⟩, ⟨.target, 16, 5⟩, ⟨.destination, 11, 5⟩]

def twoRegisters : Word → Pattern :=
  shape 0xFC1F07FF [⟨.source, 21, 5⟩, ⟨.destination, 11, 5⟩]

def oneRegister : Word → Pattern :=
  shape 0xFC1FFFFF [⟨.destination, 21, 5⟩]

def noRegister : Word → Pattern :=
  shape 0xFFFFFFFF []

/-- Two registers and an immediate number in the low half. -/
def immediate : Word → Pattern :=
  shape 0xFC000000 [⟨.source, 21, 5⟩, ⟨.target, 0, 16⟩, ⟨.destination, 16, 5⟩]

def patterns : List Pattern :=
  [threeRegisters 0x20, threeRegisters 0x22, threeRegisters 0x18, immediate 0x20000000,
    twoRegisters 0x21, threeRegisters 0x1A, threeRegisters 0x24, threeRegisters 0x25,
    threeRegisters 0x26, threeRegisters 0x2A, oneRegister 0x10, oneRegister 0x11,
    oneRegister 0x12, oneRegister 0x13, noRegister 0x14, oneRegister 0x15,
    oneRegister 0x16, oneRegister 0x17, noRegister 0x18, oneRegister 0x19]

/-- The entries of the built-in table. -/
def entries : List Entry :=
  (definitions.zip patterns).map fun (definition, pattern) =>
    { template := {
        mnemonic := definition.mnemonic
        usage := definition.usage
        description := definition.description
        layout := definition.layout
        pattern }
      operation := definition.operation }

/-- The built-in table, written out. -/
def expanded : Table where
  entries
  positions := (entries.map Entry.mnemonic).zipIdx.reverse
  decodeOrder := [14, 18, 10, 11, 12, 13, 15, 16, 17, 19, 4, 0, 1, 2, 5, 6, 7, 8, 9, 3]

theorem table_eq_expanded : table = expanded := by
  decide +kernel

theorem table_entries : table.entries = entries := by
  rw [table_eq_expanded]
  rfl

/-- The mnemonic of the instruction that is bound to an operation. -/
def mnemonicOf : Operation → String
  | .arithmetic .add => "add"
  | .arithmetic .sub => "sub"
  | .arithmetic .mul => "mul"
  | .arithmetic .div => "div"
  | .arithmetic .and => "and"
  | .arithmetic .or => "or"
  | .arithmetic .xor => "xor"
  | .arithmetic .lessThan => "slt"
  | .move => "move"
  | .addImmediate => "addi"
  | .throttle => "throttle"
  | .setSpeed => "setspd"
  | .steer => "steer"
  | .setSteer => "setsteer"
  | .emergencyBrake => "ebrake"
  | .lights => "lights"
  | .airConditioning => "ac"
  | .seat => "seat"
  | .popHood => "pophood"
  | .fillGas => "fillgas"

/-- Every operation has an instruction. -/
theorem mem_operations (operation : Operation) :
    operation ∈ definitions.map (·.operation) := by
  rcases operation with kind | _ | _ | _ | _ | _ | _ | _ | _ | _ | _ | _ | _
  · cases kind <;> decide
  all_goals decide

/-- A mnemonic tells the operation. -/
theorem operation_of_mnemonic {entry : Entry} (member : entry ∈ table.entries)
    (operation : Operation) (named : entry.mnemonic = mnemonicOf operation) :
    entry.operation = operation := by
  have all : ∀ entry ∈ entries, ∀ operation ∈ definitions.map (·.operation),
      entry.mnemonic = mnemonicOf operation → entry.operation = operation := by
    decide +kernel
  rw [table_entries] at member
  exact all entry member operation (mem_operations operation) named

def mul : Entry :=
  entries[2]

/-- The instruction whose only word is also a word of `mul`. -/
def popHood : Entry :=
  entries[18]

end CarMachine.CarAssembly
