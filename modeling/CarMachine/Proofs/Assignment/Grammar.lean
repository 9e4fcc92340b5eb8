import CarMachine.Assignment
import CarMachine.Proofs.Registers.Spelling

namespace CarMachine

/-! Written assignments.

A text is cut at its first equals sign, so a value may hold more of them but a name may not.
The value is a decimal integer, or the bits of the value as a hexadecimal number.
-/

/-- The marks in front of hexadecimal digits. -/
def Text.hexMarks : List (List Char) :=
  [['0', 'x'], ['0', 'X']]

/-- Characters write the value of a register. -/
inductive Value.Spells : List Char → Int32 → Prop where
  | decimal {chars : List Char} {value : Int32} (written : Text.WritesInt chars value.toInt) :
      Spells chars value
  | bits {mark sign digits : List Char} {value : Int32} (marked : mark ∈ Text.hexMarks)
      (signed : sign ∈ [[], ['+']]) (written : Text.Writes 16 digits value.toBitVec.toNat) :
      Spells (mark ++ (sign ++ digits)) value

namespace Assignment

/-- What stands before and behind the first equals sign of a text. -/
structure Parts (text name value : String) : Prop where
  split : text = name ++ "=" ++ value
  first : '=' ∉ name.toList

/-- A text is a written form of an assignment. -/
def Spells (text : String) (assignment : Assignment) : Prop :=
  ∃ name value, Parts text name value ∧ RegisterName.resolve? name = some assignment.index ∧
    Value.Spells (Text.trim value).toList assignment.value

/-- Why a text is no assignment.  The name is looked at before the value. -/
inductive Refused (text : String) : Assignment.Error → Prop where
  | noEquals (absent : '=' ∉ text.toList) : Refused text (.noEquals text)
  | unknownRegister {name value : String} (parts : Parts text name value)
      (unknown : RegisterName.resolve? name = none) :
      Refused text (.unknownRegister (Text.trim name))
  | badValue {name value : String} {index : Nat} (parts : Parts text name value)
      (known : RegisterName.resolve? name = some index)
      (bad : ∀ number, ¬ Value.Spells (Text.trim value).toList number) :
      Refused text (.badValue (Text.trim value))

variable {chars rest mark : List Char} {text name value : String} {number : Int32} {index : Nat}

theorem withoutHexMark?_eq_some_iff : Text.withoutHexMark? chars = some rest ↔
    ∃ mark ∈ Text.hexMarks, chars = mark ++ rest := by
  constructor
  · intro found
    unfold Text.withoutHexMark? at found
    split at found
    · exact ⟨['0', 'x'], by decide, by cases found; rfl⟩
    · exact ⟨['0', 'X'], by decide, by cases found; rfl⟩
    · contradiction
  · rintro ⟨mark, marked, rfl⟩
    rcases List.mem_pair.mp marked with rfl | rfl <;> rfl

theorem signed?_of_mark (marked : mark ∈ Text.hexMarks) : Text.signed? (mark ++ rest) = none := by
  rcases List.mem_pair.mp marked with rfl | rfl <;> rfl

theorem readValue?_of_mark (marked : mark ∈ Text.hexMarks) :
    readValue? (mark ++ rest) = (Text.unsigned? 16 rest).bind Value.ofBits? := by
  rw [readValue?, withoutHexMark?_eq_some_iff.mpr ⟨mark, marked, rfl⟩]

theorem readValue?_eq_some_iff : readValue? chars = some number ↔ Value.Spells chars number := by
  have hexadecimal := Nat.le_refl 16
  constructor
  · intro read
    cases hex : Text.withoutHexMark? chars with
    | some rest =>
        obtain ⟨mark, marked, rfl⟩ := withoutHexMark?_eq_some_iff.mp hex
        rw [readValue?_of_mark marked] at read
        obtain ⟨bits, found, fits⟩ := Option.bind_eq_some_iff.mp read
        obtain ⟨sign, signed, digits, rfl, written⟩ :=
          (Text.unsigned?_eq_some_iff hexadecimal).mp found
        rw [← Value.ofBits?_eq_some_iff.mp fits] at written
        exact .bits marked signed written
    | none =>
        rw [readValue?, hex] at read
        obtain ⟨integer, found, fits⟩ := Option.bind_eq_some_iff.mp read
        rw [← Value.ofInt?_eq_some_iff.mp fits] at found
        exact .decimal (Text.signed?_eq_some_iff.mp found)
  · intro spells
    cases spells with
    | decimal written =>
        have found := Text.signed?_eq_some_iff.mpr written
        have unmarked : Text.withoutHexMark? chars = none := by
          by_contra hexadecimal
          obtain ⟨rest, hex⟩ := Option.ne_none_iff_exists'.mp hexadecimal
          obtain ⟨mark, marked, rfl⟩ := withoutHexMark?_eq_some_iff.mp hex
          rw [signed?_of_mark marked] at found
          contradiction
        rw [readValue?, unmarked]
        exact Option.bind_eq_some_iff.mpr ⟨_, found, Value.ofInt?_toInt number⟩
    | bits marked signed written =>
        have found := (Text.unsigned?_eq_some_iff hexadecimal).mpr ⟨_, signed, _, rfl, written⟩
        rw [readValue?_of_mark marked]
        exact Option.bind_eq_some_iff.mpr ⟨_, found, Value.ofBits?_eq_some_iff.mpr rfl⟩

theorem readValue?_eq_none_iff :
    readValue? chars = none ↔ ∀ number, ¬ Value.Spells chars number := by
  simp only [Option.eq_none_iff_forall_ne_some, ne_eq, readValue?_eq_some_iff]

theorem Parts.toList (parts : Parts text name value) :
    text.toList = name.toList ++ '=' :: value.toList := by
  rw [parts.split, String.toList_append, String.toList_append, List.append_assoc]
  rfl

theorem exists_parts (present : '=' ∈ text.toList) : ∃ name value, Parts text name value := by
  obtain ⟨before, behind, split, first⟩ := List.eq_append_cons_of_mem present
  refine ⟨String.ofList before, String.ofList behind, ?_, by rwa [String.toList_ofList]⟩
  rw [← String.toList_inj, split]
  simp

theorem Parts.cut? (parts : Parts text name value) :
    cut? text.toList = some (name.toList, value.toList) := by
  have before : ∀ char ∈ name.toList, (char != '=') = true := by
    rintro char member
    exact bne_iff_ne.mpr fun same => parts.first (same ▸ member)
  rw [Assignment.cut?, parts.toList, List.dropWhile_append_of_pos before,
    List.takeWhile_append_of_pos before]
  simp

theorem parse_of_no_equals (absent : '=' ∉ text.toList) : parse text = .error (.noEquals text) := by
  have all : text.toList.dropWhile (· != '=') = [] := by
    refine List.dropWhile_eq_nil_iff.mpr fun char member => bne_iff_ne.mpr ?_
    rintro rfl
    exact absent member
  simp only [parse, Assignment.cut?, all]

theorem Parts.parse_of_unknown (parts : Parts text name value)
    (unknown : RegisterName.resolve? name = none) :
    parse text = .error (.unknownRegister (Text.trim name)) := by
  simp only [parse, parts.cut?, String.ofList_toList, unknown, Text.trim]

theorem Parts.parse_of_known (parts : Parts text name value)
    (known : RegisterName.resolve? name = some index) : parse text =
      ((readValue? (Text.trim value).toList).map (Assignment.mk index)).elim
        (.error (.badValue (Text.trim value))) .ok := by
  simp only [parse, parts.cut?, String.ofList_toList, known, Text.trim, String.toList_ofList]
  cases readValue? (Text.trimmed value.toList) <;> rfl

theorem Spells.parse_eq {assignment : Assignment} (spells : Spells text assignment) :
    parse text = .ok assignment := by
  obtain ⟨name, value, parts, known, written⟩ := spells
  rw [parts.parse_of_known known, readValue?_eq_some_iff.mpr written]
  rfl

theorem Refused.parse_eq {error : Assignment.Error} (refused : Refused text error) :
    parse text = .error error := by
  cases refused with
  | noEquals absent => exact parse_of_no_equals absent
  | unknownRegister parts unknown => exact parts.parse_of_unknown unknown
  | badValue parts known bad =>
      rw [parts.parse_of_known known, readValue?_eq_none_iff.mpr bad]
      rfl

theorem spells_or_refused (text : String) :
    (∃ assignment, Spells text assignment) ∨ ∃ error, Refused text error := by
  by_cases present : '=' ∈ text.toList
  · obtain ⟨name, value, parts⟩ := exists_parts present
    cases known : RegisterName.resolve? name with
    | none => exact .inr ⟨_, .unknownRegister parts known⟩
    | some index =>
        cases read : readValue? (Text.trim value).toList with
        | none => exact .inr ⟨_, .badValue parts known (readValue?_eq_none_iff.mp read)⟩
        | some number =>
            exact .inl ⟨⟨index, number⟩, name, value, parts, known, readValue?_eq_some_iff.mp read⟩
  · exact .inr ⟨_, .noEquals present⟩

theorem parse_eq_ok_iff {assignment : Assignment} :
    parse text = .ok assignment ↔ Spells text assignment := by
  refine ⟨fun accepted => ?_, Spells.parse_eq⟩
  rcases spells_or_refused text with ⟨other, spells⟩ | ⟨error, refused⟩
  · have same := spells.parse_eq
    rw [accepted] at same
    cases same
    exact spells
  · have same := refused.parse_eq
    rw [accepted] at same
    contradiction

theorem parse_eq_error_iff {error : Assignment.Error} :
    parse text = .error error ↔ Refused text error := by
  refine ⟨fun rejected => ?_, Refused.parse_eq⟩
  rcases spells_or_refused text with ⟨assignment, spells⟩ | ⟨other, refused⟩
  · have same := spells.parse_eq
    rw [rejected] at same
    contradiction
  · have same := refused.parse_eq
    rw [rejected] at same
    cases same
    exact refused

/-- Some text is read as the assignment. -/
def Written (assignment : Assignment) : Prop :=
  ∃ text, parse text = .ok assignment

theorem Written.index_lt {assignment : Assignment} (written : assignment.Written) :
    assignment.index < 32 := by
  obtain ⟨text, read⟩ := written
  obtain ⟨name, value, _, known, _⟩ := parse_eq_ok_iff.mp read
  exact RegisterName.resolve?_lt known

theorem Parts.parse_of_plain {assignment : Assignment} (parts : Parts text name value)
    (known : RegisterName.resolve? name = some assignment.index)
    (written : Value.Spells value.toList assignment.value)
    (plain : ∀ char ∈ value.toList, Text.isBlank char = false) :
    parse text = .ok assignment := by
  refine Spells.parse_eq ⟨name, value, parts, known, ?_⟩
  rwa [Text.trim, String.toList_ofList, Text.trimmed_of_plain plain]

theorem parse_display (small : index < 32) (number : Int32) :
    parse (RegisterName.display index ++ "=" ++ Text.decimalInt number.toInt) =
      .ok ⟨index, number⟩ := by
  have absent : '=' ∉ (RegisterName.display index).toList :=
    RegisterName.not_mem_display (by decide) (by decide)
  have written := Text.writesInt_decimalInt number.toInt
  exact Parts.parse_of_plain ⟨rfl, absent⟩ (RegisterName.resolve?_display small)
    (.decimal written) written.isBlank_eq_false

theorem parse_hex (small : index < 32) (number : Int32) :
    parse (Text.decimal index ++ "=0x" ++ Text.hex number.toBitVec.toNat) =
      .ok ⟨index, number⟩ := by
  have absent : '=' ∉ (Text.decimal index).toList := Text.not_mem_decimal (by decide)
  have numbered : ∀ index < 32, RegisterName.resolve? (Text.decimal index) = some index := by
    decide +kernel
  have written := Text.writes_hex number.toBitVec.toNat
  have split : Text.decimal index ++ "=0x" ++ Text.hex number.toBitVec.toNat =
      Text.decimal index ++ "=" ++ ("0x" ++ Text.hex number.toBitVec.toNat) := by
    simp only [String.append_assoc, String.append_right_inj]
    rfl
  refine Parts.parse_of_plain ⟨split, absent⟩ (numbered index small) ?_ ?_
  · rw [String.toList_append]
    have marked : ['0', 'x'] ∈ Text.hexMarks := by decide
    have unsigned : [] ∈ [[], ['+']] := by decide
    exact .bits marked unsigned written
  · have mark : ∀ char ∈ ['0', 'x'], char.isAlphanum = true :=
      List.all_eq_true.mp (by decide)
    rw [String.toList_append]
    exact fun char member => Text.isBlank_of_isAlphanum <|
      List.forall_mem_append.mpr ⟨mark, written.isAlphanum (Nat.le_refl 16)⟩ char member

/-- Exactly the written forms of an assignment are read as it, and every other text is refused
with the first of its defects.  Among the written forms are the shown name of a slot with the
value in decimal, and its number with the bits of the value. -/
theorem parse_exact :
    (∀ text assignment, parse text = .ok assignment ↔ Spells text assignment) ∧
    (∀ text error, parse text = .error error ↔ Refused text error) ∧
    ∀ index value, index < 32 →
      parse (RegisterName.display index ++ "=" ++ Text.decimalInt value.toInt) =
        .ok ⟨index, value⟩ ∧
      parse (Text.decimal index ++ "=0x" ++ Text.hex value.toBitVec.toNat) =
        .ok ⟨index, value⟩ :=
  ⟨fun _ _ => parse_eq_ok_iff, fun _ _ => parse_eq_error_iff,
    fun _ value small => ⟨parse_display small value, parse_hex small value⟩⟩

theorem parse_exact_lowest : 31 < 32 ∧ parse "$ra=-2147483648" = .ok ⟨31, Int32.minValue⟩ ∧
    parse "31=0x80000000" = .ok ⟨31, Int32.minValue⟩ := by
  have decimal : RegisterName.display 31 ++ "=" ++ Text.decimalInt Int32.minValue.toInt =
      "$ra=-2147483648" := by
    decide +kernel
  have bits : Text.decimal 31 ++ "=0x" ++ Text.hex Int32.minValue.toBitVec.toNat =
      "31=0x80000000" := by
    decide +kernel
  have read := parse_exact.2.2 31 Int32.minValue (by decide)
  rw [decimal, bits] at read
  exact ⟨by decide, read⟩

end Assignment

end CarMachine
