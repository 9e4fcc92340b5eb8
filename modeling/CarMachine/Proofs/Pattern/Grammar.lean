import CarMachine.Proofs.Pattern.Partition
import Mathlib.Data.Set.List

namespace CarMachine

/-! The grammar of written patterns.

It speaks of characters alone: how many there are, which ones, and where each letter
stands.  A text is read exactly if it obeys the grammar, and the pattern that comes out has
its masks and fields where the text has its characters.
-/

namespace Pattern

variable {pattern : Pattern} {symbols : List Symbol} {chars : List Char} {role : FieldRole}
  {shift width : Nat} {found : FieldRole → Option BitField} {field : BitField}

/-- A letter stands so many times in a row, so far from the end, and nowhere else. -/
def RunAt (letter : Char) (shift width : Nat) (chars : List Char) : Prop :=
  ∃ before after, chars = before ++ List.replicate width letter ++ after ∧
    letter ∉ before ∧ letter ∉ after ∧ after.length = shift

/-- A letter stands nowhere or in one run of an allowed width. -/
def RunOf (letter : Char) (widths : List Nat) (chars : List Char) : Prop :=
  letter ∉ chars ∨ ∃ shift, ∃ width ∈ widths, RunAt letter shift width chars

structure Grammar (chars : List Char) : Prop where
  length : chars.length = 32
  alphabet : ∀ char ∈ chars, char ∈ ['0', '1', 's', 't', 'f']
  source : RunOf 's' [5] chars
  target : RunOf 't' [5, 16] chars
  destination : RunOf 'f' [5] chars

/-- A pattern divides the word as its text divides the line: bit 0 is the last character,
literal bits are the digits, and fields are the runs of letters. -/
structure WrittenAs (pattern : Pattern) (chars : List Char) : Prop where
  partition : pattern.Partition
  literalInside : pattern.bits &&& pattern.mask = pattern.bits
  mask : ∀ index, pattern.mask.getLsbD index = true ↔
    chars.reverse[index]? = some '0' ∨ chars.reverse[index]? = some '1'
  bits : ∀ index, pattern.bits.getLsbD index = true ↔ chars.reverse[index]? = some '1'
  field : ∀ role field, pattern.field? role = some field ↔
    field.role = role ∧ 0 < field.width ∧ RunAt role.letter field.shift field.width chars

theorem letter_mem_iff : role.letter ∈ symbols.map Symbol.toChar ↔ .field role ∈ symbols := by
  change (Symbol.field role).toChar ∈ symbols.map Symbol.toChar ↔ _
  exact List.mem_map_of_injective Symbol.toChar_injective

/-- The run of a letter is the run of its symbol, seen from the other end. -/
theorem runAt_iff : RunAt role.letter shift width (symbols.map Symbol.toChar) ↔
    ∃ low high, symbols.reverse = low ++ List.replicate width (.field role) ++ high ∧
      .field role ∉ low ∧ .field role ∉ high ∧ low.length = shift := by
  constructor
  · intro run
    obtain ⟨before, after, split, outside, beyond, length⟩ := run
    obtain ⟨front, high, rfl, inFront, rfl⟩ := List.map_eq_append_iff.mp split
    obtain ⟨low, run, rfl, rfl, inRun⟩ := List.map_eq_append_iff.mp inFront
    have same : run = List.replicate width (.field role) := by
      apply List.map_injective_iff.mpr Symbol.toChar_injective
      rw [inRun, List.map_replicate]
      rfl
    subst same
    rw [letter_mem_iff] at outside beyond
    exact ⟨high.reverse, low.reverse, by simp, by simpa, by simpa, by simpa using length⟩
  · intro run
    obtain ⟨low, high, split, outside, beyond, rfl⟩ := run
    have forward : symbols =
        high.reverse ++ List.replicate width (.field role) ++ low.reverse := by
      rw [← List.reverse_inj, split]
      simp
    refine ⟨high.reverse.map Symbol.toChar, low.reverse.map Symbol.toChar, ?_, ?_, ?_, by simp⟩
    · rw [forward, List.map_append, List.map_append, List.map_replicate]
      rfl
    · rw [letter_mem_iff]
      simpa using beyond
    · rw [letter_mem_iff]
      simpa using outside

/-- A role is read exactly if its letter stands as the grammar wants it. -/
theorem runOf_iff : RunOf role.letter (Symbol.allowedWidths role) (symbols.map Symbol.toChar) ↔
    Symbol.OneRun role symbols.reverse ∧ ∃ found, Symbol.fieldOf? symbols role = .ok found := by
  rw [RunOf, letter_mem_iff]
  simp only [runAt_iff]
  constructor
  · intro placed
    rcases placed with absent | ⟨shift, width, allowed, low, high, split, outside, beyond, rfl⟩
    · have split : symbols.reverse =
          symbols.reverse ++ List.replicate 0 (.field role) ++ [] := by simp
      have outside : .field role ∉ symbols.reverse := by simpa using absent
      exact ⟨⟨_, _, _, split, outside, by simp⟩, _,
        (Symbol.fieldOf?_eq_ok_iff split outside (by simp)).mpr (.inl ⟨rfl, rfl⟩)⟩
    · exact ⟨⟨low, width, high, split, outside, beyond⟩, _,
        (Symbol.fieldOf?_eq_ok_iff split outside beyond).mpr (.inr ⟨allowed, rfl⟩)⟩
  · intro taken
    obtain ⟨⟨low, width, high, split, outside, beyond⟩, found, read⟩ := taken
    rcases (Symbol.fieldOf?_eq_ok_iff split outside beyond).mp read with
      ⟨rfl, _⟩ | ⟨allowed, _⟩
    · refine .inl ?_
      rw [← List.mem_reverse, split]
      simp [outside, beyond]
    · exact .inr ⟨_, width, allowed, low, high, split, outside, beyond, rfl⟩

theorem exists_symbols_iff : (∃ symbols : List Symbol, symbols.map Symbol.toChar = chars) ↔
    ∀ char ∈ chars, char ∈ ['0', '1', 's', 't', 'f'] := by
  have symbol : ∀ char, char ∈ Set.range Symbol.toChar ↔ char ∈ ['0', '1', 's', 't', 'f'] := by
    intro char
    constructor
    · intro shown
      obtain ⟨symbol, rfl⟩ := shown
      rcases symbol with (_ | _) | (_ | _ | _) <;> decide
    · simp only [List.mem_cons, List.not_mem_nil, or_false]
      intro listed
      rcases listed with rfl | rfl | rfl | rfl | rfl
      · exact ⟨.literal false, rfl⟩
      · exact ⟨.literal true, rfl⟩
      · exact ⟨.field .source, rfl⟩
      · exact ⟨.field .target, rfl⟩
      · exact ⟨.field .destination, rfl⟩
  have listed := Set.ext_iff.mp (Set.range_list_map Symbol.toChar) chars
  simpa only [Set.mem_range, Set.mem_ofPred_eq, ← symbol] using listed

theorem grammar_iff : Grammar chars ↔ chars.length = 32 ∧
    (∃ symbols : List Symbol, symbols.map Symbol.toChar = chars) ∧
    ∀ role, RunOf role.letter (Symbol.allowedWidths role) chars := by
  rw [exists_symbols_iff]
  constructor
  · intro grammar
    refine ⟨grammar.length, grammar.alphabet, ?_⟩
    intro role
    cases role with
    | source => exact grammar.source
    | target => exact grammar.target
    | destination => exact grammar.destination
  · intro parts
    obtain ⟨length, alphabet, runs⟩ := parts
    exact ⟨length, alphabet, runs .source, runs .target, runs .destination⟩

theorem ofSymbols_accepts_iff : (∃ pattern, ofSymbols symbols = .ok pattern) ↔
    ∀ role, ∃ found, Symbol.fieldOf? symbols role = .ok found := by
  simp only [ofSymbols_eq_ok_iff]
  constructor
  · intro accepted role
    obtain ⟨_, found, reads, _⟩ := accepted
    exact ⟨found role, reads role⟩
  · intro each
    choose found reads using each
    let pattern : Pattern := {
      mask := Symbol.marked Symbol.isLiteral symbols
      bits := Symbol.marked Symbol.isOne symbols
      fields := FieldRole.all.filterMap found
      bits_within_mask := Symbol.marked_and_marked Symbol.isLiteral_of_isOne symbols }
    exact ⟨pattern, found, reads, rfl, rfl, rfl⟩

theorem parse_accepts {text : String} :
    (∃ pattern, parse text = .ok pattern) ↔ Grammar (significant text) := by
  rw [grammar_iff]
  simp only [parse_eq_ok_iff]
  constructor
  · intro accepted
    obtain ⟨pattern, symbols, written, length, single, shown⟩ := accepted
    have each := ofSymbols_accepts_iff.mp ⟨pattern, shown⟩
    refine ⟨by rw [← written, List.length_map, length], ⟨symbols, written⟩, ?_⟩
    intro role
    rw [← written]
    exact runOf_iff.mpr ⟨single role, each role⟩
  · intro parts
    obtain ⟨length, ⟨symbols, written⟩, runs⟩ := parts
    rw [← written, List.length_map] at length
    simp only [← written, runOf_iff] at runs
    obtain ⟨pattern, shown⟩ := ofSymbols_accepts_iff.mpr fun role => (runs role).2
    exact ⟨pattern, symbols, written, length, fun role => (runs role).1, shown⟩

/-- The field that a role has is the run of its letter. -/
theorem found_iff (single : Symbol.OneRun role symbols.reverse)
    (read : Symbol.fieldOf? symbols role = .ok (found role)) :
    found role = some field ↔ field.role = role ∧ 0 < field.width ∧
      RunAt role.letter field.shift field.width (symbols.map Symbol.toChar) := by
  rw [runAt_iff]
  constructor
  · intro here
    rw [here] at read
    obtain ⟨rfl, allowed⟩ := Symbol.fieldOf?_some single read
    have positive : 0 < field.width := by
      apply Nat.pos_of_ne_zero
      intro zero
      rw [zero] at allowed
      revert allowed
      cases field.role <;> decide
    obtain ⟨low, width, high, split, outside, beyond⟩ := single
    rcases (Symbol.fieldOf?_eq_ok_iff split outside beyond).mp read with
      ⟨_, none⟩ | ⟨_, found⟩
    · contradiction
    · obtain ⟨_, _, _⟩ := field
      cases found
      exact ⟨rfl, positive, low, high, split, outside, beyond, rfl⟩
  · intro placed
    obtain ⟨rfl, positive, low, high, split, outside, beyond, shift⟩ := placed
    rcases (Symbol.fieldOf?_eq_ok_iff split outside beyond).mp read with
      ⟨none, _⟩ | ⟨_, found⟩
    · omega
    · rw [found, shift]

theorem writtenAs_of_parse {text : String} (accepted : parse text = .ok pattern) :
    pattern.WrittenAs (significant text) := by
  have partition := partition_of_parse accepted
  obtain ⟨symbols, written, length, single, shown⟩ := parse_eq_ok_iff.mp accepted
  obtain ⟨found, reads, mask, bits, fields⟩ := ofSymbols_eq_ok_iff.mp shown
  rw [← written]
  have position : ∀ index : Nat, (symbols.map Symbol.toChar).reverse[index]? =
      (symbols.reverse[index]?).map Symbol.toChar := by
    intro index
    rw [← List.map_reverse, List.getElem?_map]
  refine ⟨partition, pattern.bits_within_mask, ?_, ?_, ?_⟩
  · intro index
    rw [mask, Symbol.getLsbD_marked _ (by omega), position]
    rcases symbols.reverse[index]? with _ | (_ | _) | (_ | _ | _) <;> decide
  · intro index
    rw [bits, Symbol.getLsbD_marked _ (by omega), position]
    rcases symbols.reverse[index]? with _ | (_ | _) | (_ | _ | _) <;> decide
  · intro role field
    rw [partition.field?_eq_some_iff, ← found_iff (single role) (reads role), fields,
      List.mem_filterMap]
    constructor
    · intro present
      obtain ⟨⟨other, _, here⟩, rfl⟩ := present
      have named := ((found_iff (single other) (reads other)).mp here).1
      rwa [named]
    · intro here
      have named := ((found_iff (single role) (reads role)).mp here).1
      exact ⟨⟨role, FieldRole.mem_all role, here⟩, named⟩

/-- A text is read exactly if it obeys the grammar, and then it is written all over the
pattern. -/
theorem parse_accepts_iff (text : String) :
    ((∃ pattern, parse text = .ok pattern) ↔ Grammar (significant text)) ∧
      ∀ pattern, parse text = .ok pattern → pattern.WrittenAs (significant text) :=
  ⟨parse_accepts, fun _ => writtenAs_of_parse⟩

end Pattern

end CarMachine
