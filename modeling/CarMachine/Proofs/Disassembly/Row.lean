import CarMachine.Proofs.Program.Grammar
import CarMachine.Proofs.Registers.Spelling
import CarMachine.Proofs.Table.Codec
import CarMachine.Proofs.Template.Registers
import CarMachine.Table.Decoding

namespace CarMachine

/-! Rows that are read again.

The operand text of a row is cut into pieces, and each piece is read by the field that it was
shown from.  A row of an instruction gives back its operands, a row of data gives back its
word, and rows of different words differ.
-/

namespace Disassembly

variable {piece rest : List Char} {parts : List (List Char)}

/-- Cuts a text at every comma with a space behind it. -/
def cutAtCommas : List Char → List (List Char)
  | [] => [[]]
  | ',' :: ' ' :: rest => [] :: cutAtCommas rest
  | char :: rest =>
      match cutAtCommas rest with
      | [] => [[char]]
      | piece :: pieces => (char :: piece) :: pieces

/-- The pieces of an operand text; an empty text has none. -/
def pieces (text : String) : List (List Char) :=
  if text.isEmpty then [] else cutAtCommas text.toList

theorem cutAtCommas_cons {char : Char} (plain : char ≠ ',')
    (cut : cutAtCommas rest = piece :: parts) :
    cutAtCommas (char :: rest) = (char :: piece) :: parts := by
  simp [cutAtCommas, plain, cut]

theorem cutAtCommas_of_not_mem (plain : ',' ∉ piece) : cutAtCommas piece = [piece] := by
  induction piece with
  | nil => rfl
  | cons char rest ih =>
      rw [List.mem_cons, not_or] at plain
      exact cutAtCommas_cons (Ne.symm plain.1) (ih plain.2)

theorem cutAtCommas_append (plain : ',' ∉ piece) :
    cutAtCommas (piece ++ ',' :: ' ' :: rest) = piece :: cutAtCommas rest := by
  induction piece with
  | nil => rfl
  | cons char before ih =>
      rw [List.mem_cons, not_or] at plain
      exact cutAtCommas_cons (Ne.symm plain.1) (ih plain.2)

/-- Parts without commas come back when the text that joins them is cut. -/
theorem cutAtCommas_intercalate (nonempty : parts ≠ [])
    (plain : ∀ part ∈ parts, ',' ∉ part) :
    cutAtCommas ([',', ' '].intercalate parts) = parts := by
  induction parts with
  | nil => contradiction
  | cons first others ih =>
      obtain ⟨here, later⟩ := List.forall_mem_cons.mp plain
      cases others with
      | nil => simpa using cutAtCommas_of_not_mem here
      | cons second others =>
          rw [List.intercalate_cons_cons, List.append_assoc, List.cons_append, List.cons_append,
            List.nil_append, cutAtCommas_append here, ih (by simp) later]

theorem intercalate_cons (separator first : String) (others : List String) :
    ∃ rest, separator.intercalate (first :: others) = first ++ rest := by
  cases others with
  | nil => exact ⟨"", by simp⟩
  | cons second others =>
      exact ⟨separator ++ separator.intercalate (second :: others), by
        rw [String.intercalate_cons_cons, String.append_assoc]⟩

theorem pieces_intercalate {shown : List String} (plain : ∀ text ∈ shown, ',' ∉ text.toList)
    (visible : ∀ text ∈ shown, text.toList ≠ []) :
    pieces (String.intercalate ", " shown) = shown.map String.toList := by
  cases shown with
  | nil => rfl
  | cons first others =>
      have nonempty : String.intercalate ", " (first :: others) ≠ "" := by
        intro empty
        obtain ⟨rest, split⟩ := intercalate_cons ", " first others
        rw [split, ← String.toList_eq_nil_iff, String.toList_append,
          List.append_eq_nil_iff] at empty
        exact visible first (by simp) empty.1
      rw [pieces, if_neg (mt String.isEmpty_iff.mp nonempty), String.toList_intercalate]
      exact cutAtCommas_intercalate (by simp) (by simpa using plain)

end Disassembly

namespace Word

/-- Extending the sign leaves the low half as it is. -/
theorem signedLowHalf_and (word : Word) :
    word.signedLowHalf.toBitVec &&& 0xFFFF = word &&& 0xFFFF := by
  have mask : ∀ index < 32, (0xFFFF : Word).getLsbD index = decide (index < 16) := by decide
  apply BitVec.eq_of_getLsbD_eq
  intro index bound
  rw [BitVec.getLsbD_and, BitVec.getLsbD_and, mask index bound]
  by_cases low : index < 16
  · have same : ((word.setWidth 16).signExtend 32).getLsbD index = word.getLsbD index := by
      rw [BitVec.getLsbD_signExtend, BitVec.getLsbD_setWidth]
      simp [bound, low]
    rw [signedLowHalf, Int32.toBitVec_ofBitVec, same]
  · rw [decide_eq_false low, Bool.and_false, Bool.and_false]

end Word

namespace BitField

variable {field : BitField} {value : Word}

/-- The value that a shown operand stands for: the number of a register, or the low half of a
signed decimal number. -/
def readShown? (field : BitField) (shown : List Char) : Option Word :=
  if field.isImmediate then
    ((Text.signed? shown).bind Value.ofInt?).map fun number => number.toBitVec &&& 0xFFFF
  else (RegisterName.resolve? (String.ofList shown)).map (BitVec.ofNat 32)

theorem comma_not_mem_showValue (field : BitField) (value : Word) :
    ',' ∉ (field.showValue value).toList := by
  rw [showValue]
  split
  · exact Text.not_mem_decimalInt (by decide) (by decide)
  · exact RegisterName.not_mem_display (by decide) (by decide)

theorem showValue_ne_nil (field : BitField) (value : Word) :
    (field.showValue value).toList ≠ [] := by
  rw [showValue]
  split
  · exact Text.toList_decimalInt_ne_nil _
  · simp [RegisterName.toList_display]

theorem readShown?_of_immediate (immediate : field.isImmediate = true)
    (fitting : field.fits value = true) :
    field.readShown? (field.showValue value).toList = some value := by
  have width : field.width = 16 := beq_iff_eq.mp immediate
  have low : field.lowMask = 0xFFFF := by
    rw [lowMask, width]
    decide
  have within := fits_iff.mp fitting
  rw [low] at within
  rw [readShown?, showValue, if_pos immediate, if_pos immediate, Text.signed?_decimalInt]
  simp only [Option.bind_some, Value.ofInt?_toInt, Option.map_some]
  rw [Word.signedLowHalf_and, within]

theorem readShown?_of_register (width : field.width = registerWidth)
    (fitting : field.fits value = true) :
    field.readShown? (field.showValue value).toList = some value := by
  have small := fits_iff_lt.mp fitting
  have register : ¬ field.isImmediate = true := by
    rw [isImmediate, width]
    decide
  rw [readShown?, showValue, if_neg register, if_neg register, String.ofList_toList,
    RegisterName.resolve?_display (by rwa [width] at small), Option.map_some,
    BitVec.ofNat_toNat, BitVec.setWidth_eq]

end BitField

namespace Template

variable {template : Template} {field : BitField} {word : Word}

theorem Built.readShown? (built : template.Built) (member : field ∈ template.fields)
    (word : Word) : field.readShown? (field.showValue (field.read word)).toList =
      some (field.read word) := by
  have fitting := field.fits_read word
  by_cases immediate : field.isImmediate = true
  · exact BitField.readShown?_of_immediate immediate fitting
  · refine BitField.readShown?_of_register ?_ fitting
    have allowed := built.width member
    have other : field.width ≠ BitField.immediateWidth :=
      fun same => immediate (beq_iff_eq.mpr same)
    -- Only an immediate may have another width than that of a register, and this is not one.
    cases role : field.role <;> simpa [role, Symbol.allowedWidths, other] using allowed

theorem pieces_showOperands (template : Template) (word : Word) :
    Disassembly.pieces (template.showOperands word) =
      template.fields.map fun field => (field.showValue (field.read word)).toList := by
  rw [showOperands, Disassembly.pieces_intercalate, List.map_map]
  · rfl
  · intro text member
    obtain ⟨field, _, rfl⟩ := List.mem_map.mp member
    exact field.comma_not_mem_showValue _
  · intro text member
    obtain ⟨field, _, rfl⟩ := List.mem_map.mp member
    exact field.showValue_ne_nil _

theorem Built.zipWith_readShown? (built : template.Built) (word : Word) :
    List.zipWith BitField.readShown? template.fields
      (Disassembly.pieces (template.showOperands word)) =
        (template.operandsOf word).values.map some := by
  rw [pieces_showOperands, List.zipWith_map_right, List.zipWith_self, operandsOf, List.map_map]
  exact List.map_congr_left fun field member => built.readShown? member word

/-- The first operand is a register, so an operand text starts with its mark. -/
theorem Built.showOperands_ne_markedHex (built : template.Built) (word other : Word) :
    template.showOperands word ≠ other.markedHex := by
  intro same
  have data := congrArg String.toList same
  rw [other.toList_markedHex, showOperands] at data
  cases fields : template.fields with
  | nil => simp [fields] at data
  | cons field rest =>
      have first : template.fields[0]? = some field := by
        rw [fields]
        rfl
      have width := built.width_at first (by simp)
      have register : ¬ field.isImmediate = true := by
        rw [BitField.isImmediate, width]
        decide
      obtain ⟨tail, split⟩ := Disassembly.intercalate_cons ", "
        (field.showValue (field.read word))
        (rest.map fun field => field.showValue (field.read word))
      rw [fields, List.map_cons, split, String.toList_append, BitField.showValue, if_neg register,
        RegisterName.toList_display] at data
      simp at data

end Template

namespace Disassembly

/-- What a row of an instruction gives back.  The mnemonic names the entry that decodes the
word, the operand text has one piece for each operand, and each piece is read as its value. -/
structure Row.Legible (table : Table) (row : Row) (word : Word) (decoded : Decoded) : Prop where
  decodes : table.decode word = .ok decoded
  named : row.mnemonic = decoded.mnemonic
  found : table.get? row.mnemonic = some decoded.entry
  count : (pieces row.operands).length = decoded.operands.length
  read : List.zipWith BitField.readShown? decoded.entry.template.fields (pieces row.operands) =
    decoded.operands.values.map some
  encoded : decoded.entry.template.encode decoded.operands = .ok word

/-- Two rows of instructions with the same texts show the same word. -/
theorem Row.Legible.word_eq {table : Table} {row other : Row} {word otherWord : Word}
    {decoded otherDecoded : Decoded} (legible : row.Legible table word decoded)
    (otherLegible : other.Legible table otherWord otherDecoded)
    (mnemonic : row.mnemonic = other.mnemonic) (operands : row.operands = other.operands) :
    word = otherWord := by
  have entry : decoded.entry = otherDecoded.entry := by
    have found := legible.found
    rw [mnemonic, otherLegible.found, Option.some.injEq] at found
    exact found.symm
  have values : decoded.operands = otherDecoded.operands := by
    have read := legible.read
    rw [operands, entry, otherLegible.read] at read
    exact Operands.ext (List.map_injective_iff.mpr (Option.some_injective _) read.symm)
  have encoded := legible.encoded
  rw [entry, values, otherLegible.encoded, Except.ok.injEq] at encoded
  exact encoded.symm

end Disassembly

namespace Table

variable {table : Table} {word : Word} {entry : Entry}

theorem disassemble_of_lookup? (found : table.lookup? word = some entry) :
    table.disassemble word = {
      index := 0, word, mnemonic := entry.mnemonic
      operands := entry.template.showOperands word, isIllegal := false } := by
  simp only [disassemble, disassembleAt, found]

theorem disassemble_of_none (missing : table.lookup? word = none) :
    table.disassemble word = {
      index := 0, word, mnemonic := ".word", operands := word.markedHex
      isIllegal := true } := by
  simp only [disassemble, disassembleAt, missing]

theorem Reachable.legible (reachable : table.Reachable Template.Built)
    (found : table.lookup? word = some entry) :
    (table.disassemble word).Legible table word
      { word := some word, entry, operands := entry.template.operandsOf word } := by
  obtain ⟨member, matched, _⟩ := reachable.invariant.lookup?_sound found
  have built := reachable.built member
  rw [disassemble_of_lookup? found]
  exact {
    decodes := decode_eq_ok_iff.mpr ⟨entry, found, rfl⟩
    named := rfl
    found := reachable.invariant.get?_eq_some_iff.mpr ⟨member, rfl⟩
    count := by
      rw [Template.pieces_showOperands]
      simp [Operands.length, Template.operandsOf]
    read := built.zipWith_readShown? word
    encoded := built.encode_eq_ok_iff.mpr ⟨matched, rfl⟩ }

theorem Reachable.operands_ne (reachable : table.Reachable Template.Built) {other : Word}
    (found : table.lookup? word = some entry) (missing : table.lookup? other = none) :
    (table.disassemble word).operands ≠ (table.disassemble other).operands := by
  have built := reachable.built (reachable.invariant.lookup?_sound found).1
  rw [disassemble_of_lookup? found, disassemble_of_none missing]
  exact built.showOperands_ne_markedHex word other

/-- A row of an instruction is enough to assemble its word again, a row of data has the word
itself, and so no two words have rows with the same mnemonic and operand text. -/
theorem disassemble_legible (reachable : table.Reachable Template.Built) :
    (∀ word, (table.disassemble word).isIllegal = false →
      ∃ decoded, (table.disassemble word).Legible table word decoded) ∧
    (∀ word, (table.disassemble word).isIllegal = true →
      table.decode word = .error (.noMatch word) ∧
        Program.parseWord? (table.disassemble word).operands = some word) ∧
    ∀ first second, (table.disassemble first).mnemonic = (table.disassemble second).mnemonic →
      (table.disassemble first).operands = (table.disassemble second).operands →
      first = second := by
  refine ⟨?_, ?_, ?_⟩
  · intro word legal
    cases found : table.lookup? word with
    | none => simp [disassemble_of_none found] at legal
    | some entry => exact ⟨_, reachable.legible found⟩
  · intro word illegal
    cases found : table.lookup? word with
    | none =>
        rw [disassemble_of_none found]
        exact ⟨by rw [decode, found], Program.parseWord?_markedHex word⟩
    | some entry => simp [disassemble_of_lookup? found] at illegal
  · intro first second mnemonic operands
    -- Two instructions, or two data words; a mixed pair differs in its operand texts.
    cases found : table.lookup? first with
    | some entry =>
        cases other : table.lookup? second with
        | some otherEntry =>
            exact (reachable.legible found).word_eq (reachable.legible other) mnemonic operands
        | none => exact absurd operands (reachable.operands_ne found other)
    | none =>
        cases other : table.lookup? second with
        | some otherEntry => exact absurd operands.symm (reachable.operands_ne other found)
        | none =>
            rw [disassemble_of_none found, disassemble_of_none other] at operands
            have read := congrArg Program.parseWord? operands
            simpa only [Program.parseWord?_markedHex, Option.some.injEq] using read

theorem disassemble_legible_immediate :
    CarAssembly.table.Reachable Template.Built ∧
      (CarAssembly.table.disassemble 0x2128FF9C).operands = "$t0, $t1, -100" ∧
      ∃ decoded, (CarAssembly.table.disassemble 0x2128FF9C).Legible CarAssembly.table 0x2128FF9C
        decoded := by
  have reachable := CarAssembly.table_reachable Template.Built
  have legal : (CarAssembly.table.disassemble 0x2128FF9C).isIllegal = false := by
    rw [CarAssembly.table_eq_expanded]
    decide +kernel
  have shown : (CarAssembly.table.disassemble 0x2128FF9C).operands = "$t0, $t1, -100" := by
    rw [CarAssembly.table_eq_expanded]
    decide +kernel
  exact ⟨reachable, shown, (disassemble_legible reachable).1 _ legal⟩

end Table

end CarMachine
