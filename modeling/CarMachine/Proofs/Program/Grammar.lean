import CarMachine.Program
import CarMachine.Proofs.Program.Layout
import CarMachine.Proofs.Text.Digits
import CarMachine.Proofs.Text.Numeral

namespace CarMachine

/-! The grammar of written words.

A word is written as one to eight hexadecimal digits, with a mark in front and underscores
between the digits if one likes.  Nothing else is read as a word, and each of these is.
-/

namespace Word

theorem toList_hexDigits (word : Word) : word.hexDigits.toList =
    List.replicate (8 - (Nat.toDigits 16 word.toNat).length) '0' ++
      Nat.toDigits 16 word.toNat := by
  simp [hexDigits, Text.padLeft, Text.hex]

theorem length_hexDigits (word : Word) : word.hexDigits.toList.length = 8 := by
  have short : (Nat.toDigits 16 word.toNat).length ≤ 8 :=
    (Nat.length_toDigits_le_iff (by decide) (by decide)).mpr word.isLt
  rw [toList_hexDigits, List.length_append, List.length_replicate]
  omega

theorem digitsAfter?_hexDigits (word : Word) :
    Text.digitsAfter? 16 0 word.hexDigits.toList = some word.toNat := by
  rw [toList_hexDigits, Text.digitsAfter?_zeros (by decide),
    Text.digitsAfter?_toDigits (by decide) (by decide)]

theorem toList_markedHex (word : Word) :
    word.markedHex.toList = '0' :: 'x' :: word.hexDigits.toList := by
  rw [markedHex, String.toList_append]
  rfl

end Word

namespace Program

theorem wordDigits_markedHex (word : Word) :
    wordDigits word.markedHex.toList = word.hexDigits.toList := by
  have unmarked : Text.withoutHexMark? word.markedHex.toList = some word.hexDigits.toList := by
    rw [word.toList_markedHex]
    rfl
  rw [wordDigits, unmarked, Option.getD_some, List.filter_eq_self]
  -- No underscore is taken out, since the digits are read as a number.
  intro char member
  obtain ⟨digit, known⟩ := Text.digitValue?_of_mem word.digitsAfter?_hexDigits member
  have underscore : Text.digitValue? 16 '_' = none := by decide
  rw [bne_iff_ne]
  intro same
  rw [same, underscore] at known
  cases known

theorem parseWord?_markedHex (word : Word) : parseWord? word.markedHex = some word := by
  have length := word.length_hexDigits
  have nonempty : word.hexDigits.toList ≠ [] := fun empty => by simp [empty] at length
  rw [parseWord?, readWord?, wordDigits_markedHex, if_pos (by omega),
    Text.digitsValue?_of_ne_nil nonempty, word.digitsAfter?_hexDigits, Option.map_some,
    BitVec.ofNat_toNat, BitVec.setWidth_eq]

/-- Hexadecimal digits with underscores anywhere. -/
inductive Spaced : List Char → List Nat → Prop where
  | nil : Spaced [] []
  | underscore {chars : List Char} {digits : List Nat} (rest : Spaced chars digits) :
      Spaced ('_' :: chars) digits
  | digit {char : Char} {chars : List Char} {value : Nat} {digits : List Nat}
      (shown : Text.Shows 16 char value) (rest : Spaced chars digits) :
      Spaced (char :: chars) (value :: digits)

/-- A text is a written form of a word. -/
def Spells (text : String) (word : Word) : Prop :=
  ∃ mark ∈ ["", "0x", "0X"], ∃ body digits, text.toList = mark.toList ++ body ∧
    Spaced body digits ∧ 1 ≤ digits.length ∧ digits.length ≤ 8 ∧
    word.toNat = Nat.ofDigits 16 digits.reverse

variable {chars body : List Char} {digits : List Nat} {char : Char} {text : String} {word : Word}

theorem filter_cons_of_ne (written : char ≠ '_') :
    (char :: chars).filter (· != '_') = char :: chars.filter (· != '_') :=
  List.filter_cons_of_pos (bne_iff_ne.mpr written)

theorem spaced_iff :
    Spaced chars digits ↔ List.Forall₂ (Text.Shows 16) (chars.filter (· != '_')) digits := by
  constructor
  · intro spaced
    induction spaced with
    | nil => exact .nil
    | underscore rest ih => exact ih
    | @digit char chars value digits shown rest ih =>
        have written : char ≠ '_' := by
          rintro rfl
          exact Text.not_shows (Nat.le_refl 16) (by decide) value shown
        rw [filter_cons_of_ne written]
        exact .cons shown ih
  · intro shown
    induction chars generalizing digits with
    | nil =>
        cases shown
        exact .nil
    | cons char rest ih =>
        by_cases underscore : char = '_'
        · subst underscore
          exact .underscore (ih shown)
        · rw [filter_cons_of_ne underscore] at shown
          cases shown with
          | cons here later => exact .digit here (ih later)

theorem Spaced.characters (spaced : Spaced chars digits) :
    ∀ char ∈ chars, char = '_' ∨ ∃ digit, Text.Shows 16 char digit := by
  intro char member
  induction spaced with
  | nil => contradiction
  | underscore rest ih =>
      rcases List.mem_cons.mp member with here | later
      · exact .inl here
      · exact ih later
  | digit shown rest ih =>
      rcases List.mem_cons.mp member with rfl | later
      · exact .inr ⟨_, shown⟩
      · exact ih later

theorem Spaced.not_mem (spaced : Spaced chars digits) (written : char ≠ '_')
    (other : Text.digitValue? 16 char = none) : char ∉ chars := by
  intro member
  rcases spaced.characters char member with same | ⟨digit, shown⟩
  · exact written same
  · exact Text.not_shows (Nat.le_refl 16) other digit shown

/-- A body never looks as if it had a mark of its own. -/
theorem Spaced.withoutHexMark?_eq_none (spaced : Spaced body digits) :
    Text.withoutHexMark? body = none := by
  have lower : 'x' ∉ body := spaced.not_mem (by decide) (by decide)
  have upper : 'X' ∉ body := spaced.not_mem (by decide) (by decide)
  unfold Text.withoutHexMark?
  split
  · simp at lower
  · simp at upper
  · rfl

theorem exists_mark (chars : List Char) : ∃ mark ∈ ["", "0x", "0X"],
    chars = mark.toList ++ (Text.withoutHexMark? chars).getD chars := by
  unfold Text.withoutHexMark?
  split
  · exact ⟨"0x", by decide, rfl⟩
  · exact ⟨"0X", by decide, rfl⟩
  · exact ⟨"", by decide, rfl⟩

theorem wordDigits_of_mark {mark : String} (listed : mark ∈ ["", "0x", "0X"])
    (spaced : Spaced body digits) :
    wordDigits (mark.toList ++ body) = body.filter (· != '_') := by
  simp only [List.mem_cons, List.not_mem_nil, or_false] at listed
  rcases listed with rfl | rfl | rfl
  · exact congrArg (List.filter _ <| Option.getD · body) spaced.withoutHexMark?_eq_none
  · rfl
  · rfl

theorem parseWord?_eq_some_iff : parseWord? text = some word ↔ Spells text word := by
  have hexadecimal := Nat.le_refl 16
  simp only [parseWord?, readWord?, Option.ite_none_right_eq_some, Option.map_eq_some_iff,
    Text.digitsValue?_eq_some_iff hexadecimal]
  constructor
  · rintro ⟨short, number, ⟨digits, nonempty, shown, rfl⟩, rfl⟩
    obtain ⟨mark, listed, split⟩ := exists_mark text.toList
    rw [shown.length_eq] at short
    have fits : Nat.ofDigits 16 digits.reverse < 2 ^ 32 :=
      calc
        _ < 16 ^ digits.length := Text.ofDigits_lt_of_shows (by decide) shown
        _ ≤ 16 ^ 8 := Nat.pow_le_pow_right (by decide) short
        _ = 2 ^ 32 := by decide
    refine ⟨mark, listed, _, digits, split, spaced_iff.mpr shown,
      List.length_pos_iff.mpr nonempty, short, ?_⟩
    rw [BitVec.toNat_ofNat, Nat.mod_eq_of_lt fits]
  · rintro ⟨mark, listed, body, digits, split, spaced, some, short, value⟩
    have shown := spaced_iff.mp spaced
    rw [split, wordDigits_of_mark listed spaced, shown.length_eq]
    refine ⟨short, word.toNat, ⟨digits, List.length_pos_iff.mp some, shown, value⟩, ?_⟩
    rw [BitVec.ofNat_toNat, BitVec.setWidth_eq]

theorem Spells.ne_nil (spells : Spells text word) : text.toList ≠ [] := by
  intro empty
  have nothing : readWord? [] = none := by decide
  have read := parseWord?_eq_some_iff.mpr spells
  rw [parseWord?, empty, nothing] at read
  contradiction

theorem Spells.characters (spells : Spells text word) :
    ∀ char ∈ text.toList, char = '_' ∨ char.isAlphanum = true := by
  intro char member
  obtain ⟨mark, listed, body, digits, split, spaced, _⟩ := spells
  rw [split, List.mem_append] at member
  rcases member with marked | written
  · have each : ∀ mark ∈ ["", "0x", "0X"], mark.toList.all Char.isAlphanum = true := by decide
    exact .inr (List.all_eq_true.mp (each mark listed) char marked)
  · exact (spaced.characters char written).imp_right
      fun ⟨_, shown⟩ => shown.isAlphanum (Nat.le_refl 16)

theorem Spells.isBlank_eq_false (spells : Spells text word) :
    ∀ char ∈ text.toList, Text.isBlank char = false := by
  intro char member
  rcases spells.characters char member with rfl | alphanumeric
  · decide
  · exact Text.isBlank_of_isAlphanum alphanumeric

theorem Spells.not_mem (spells : Spells text word) (written : char ≠ '_')
    (other : char.isAlphanum = false) : char ∉ text.toList := by
  intro member
  rcases spells.characters char member with same | alphanumeric
  · exact written same
  · simp [other] at alphanumeric

theorem Spells.significant (spells : Spells text word) :
    significant text.toList = text.toList := by
  have absent : '#' ∉ text.toList := spells.not_mem (by decide) (by decide)
  have uncommented : text.toList.takeWhile (· != '#') = text.toList := by
    refine List.takeWhile_eq_self_iff.mpr fun char member => bne_iff_ne.mpr ?_
    rintro rfl
    exact absent member
  rw [Program.significant, uncommented, Text.trimmed_of_plain spells.isBlank_eq_false]

variable {lines : List String} {words : List Word}

theorem readLines_spelled (spells : List.Forall₂ Spells lines words) (number : Nat) :
    readLines number (lines.map String.toList) = .ok words := by
  induction spells generalizing number with
  | nil => rfl
  | cons here later ih =>
      have read := parseWord?_eq_some_iff.mpr here
      rw [parseWord?] at read
      simp only [List.map_cons, readLines, here.significant,
        List.isEmpty_eq_false_iff.mpr here.ne_nil, read, ih]
      rfl

theorem parse_intercalate (spells : List.Forall₂ Spells lines words) :
    parse (String.intercalate "\n" lines) = .ok words := by
  by_cases empty : lines = []
  · subst empty
    cases spells
    rfl
  · have free : ∀ line ∈ lines, '\n' ∉ line.toList :=
      Text.forall_mem_of_forall₂ spells fun _ _ here => here.not_mem (by decide) (by decide)
    have separated : Text.linesOf (String.intercalate "\n" lines).toList =
        lines.map String.toList := by
      rw [String.toList_intercalate]
      exact Text.linesOf_intercalate (by simpa using empty) (List.forall_mem_map.mpr free)
    rw [parse, separated, readLines_spelled spells]

/-- Exactly the written forms of a word are read as that word.  A program with a written word in
each line is read as the list of these words, whether or not its last line ends with a newline. -/
theorem parse_spelled :
    (∀ text word, parseWord? text = some word ↔ Spells text word) ∧
    ∀ lines words, List.Forall₂ Spells lines words → ∀ ending ∈ ["", "\n"],
      parse (String.intercalate "\n" lines ++ ending) = .ok words := by
  refine ⟨fun text word => parseWord?_eq_some_iff, ?_⟩
  intro lines words spells ending listed
  have read := parse_intercalate spells
  rcases List.mem_pair.mp listed with rfl | rfl
  · rw [String.append_empty, read]
  · rw [parse_append_newline, read]

theorem parse_spelled_marked : Spells "0X_1" 1 ∧ Spells "fF" 255 ∧
    parse "0X_1\nfF\n" = .ok [1, 255] := by
  have marked : Spells "0X_1" 1 := (parse_spelled.1 _ _).mp (by decide +kernel)
  have bare : Spells "fF" 255 := (parse_spelled.1 _ _).mp (by decide +kernel)
  exact ⟨marked, bare,
    parse_spelled.2 _ _ (.cons marked (.cons bare .nil)) "\n" (List.mem_cons_of_mem _ (.head _))⟩

end Program

end CarMachine
