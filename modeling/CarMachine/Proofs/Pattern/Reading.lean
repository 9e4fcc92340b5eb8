import CarMachine.Pattern.Basic
import Mathlib.Data.List.Nodup

namespace CarMachine

/-! What a reader of written patterns accepts.

The reader goes through the symbols once, with those behind it reversed.  It is satisfied
exactly if every letter stands in one run, and the fields come out of these runs.
-/

namespace Symbol

variable {symbol : Symbol} {role : FieldRole} {earlier symbols low high : List Symbol}
  {char : Char} {chars : List Char} {index count : Nat} {found : Option BitField}

theorem ofChar?_eq_some_iff : ofChar? char = some symbol ↔ char = symbol.toChar := by
  constructor
  · intro known
    by_cases zero : char = '0'
    · subst zero
      cases known
      rfl
    · by_cases one : char = '1'
      · subst one
        cases known
        rfl
      · obtain ⟨role, named, rfl⟩ : ∃ role, FieldRole.ofLetter? char = some role ∧
            Symbol.field role = symbol := by
          simpa [ofChar?, zero, one] using known
        have letter := List.find?_some named
        exact (beq_iff_eq.mp letter).symm
  · intro same
    subst same
    exact ofChar?_toChar symbol

theorem toChar_injective : Function.Injective toChar := by
  intro first second same
  have read := ofChar?_toChar first
  rw [same, ofChar?_toChar, Option.some.injEq] at read
  exact read.symm

/-- Whether the letter of a role stands in one run, if it stands anywhere. -/
def OneRun (role : FieldRole) (symbols : List Symbol) : Prop :=
  ∃ low count high, symbols = low ++ List.replicate count (.field role) ++ high ∧
    .field role ∉ low ∧ .field role ∉ high

theorem OneRun.nil (role : FieldRole) : OneRun role [] :=
  ⟨[], 0, [], by simp⟩

theorem OneRun.cons (run : OneRun role earlier) (continues : symbol.reopens? earlier = none) :
    OneRun role (symbol :: earlier) := by
  obtain ⟨low, count, high, rfl, outside, beyond⟩ := run
  by_cases same : symbol = .field role
  · subst same
    cases low with
    | nil =>
        exact ⟨[], count + 1, high, by simp [List.replicate_succ], by simp, beyond⟩
    | cons nearest low =>
        -- The nearest symbol is another one, so the letter has not come yet.
        have different : nearest ≠ .field role := fun same => outside (by simp [same])
        have absent : .field role ∉
            nearest :: low ++ List.replicate count (.field role) ++ high := by
          simpa [reopens?, different] using continues
        exact ⟨[], 1, _, by simp, by simp, absent⟩
  · exact ⟨symbol :: low, count, high, by simp, by simp [outside, Ne.symm same], beyond⟩

theorem getElem?_run (outside : .field role ∉ low) (beyond : .field role ∉ high) :
    (low ++ List.replicate count (.field role) ++ high)[index]? = some (.field role) ↔
      low.length ≤ index ∧ index < low.length + count := by
  by_cases before : index < low.length
  · rw [List.append_assoc, List.getElem?_append_left before]
    have other : low[index]? ≠ some (.field role) :=
      fun same => outside (List.mem_of_getElem? same)
    simp only [other, false_iff]
    omega
  · rw [List.append_assoc, List.getElem?_append_right (by omega)]
    by_cases within : index - low.length < count
    · rw [List.getElem?_append_left (by simpa using within),
        List.getElem?_replicate_of_lt within]
      simp only [true_iff]
      omega
    · rw [List.getElem?_append_right (by simpa using within)]
      have other : high[index - low.length - (List.replicate count
          (Symbol.field role)).length]? ≠ some (.field role) :=
        fun same => beyond (List.mem_of_getElem? same)
      simp only [other, false_iff]
      omega

/-- Symbols that come later do not mend a split run. -/
theorem reopens?_eq_none (later : List Symbol)
    (runs : ∀ role, OneRun role (later ++ symbol :: earlier)) :
    symbol.reopens? earlier = none := by
  cases symbol with
  | literal value => rfl
  | field role =>
      obtain ⟨low, count, high, split, outside, beyond⟩ := runs role
      have run : ∀ index, (later ++ .field role :: earlier)[index]? = some (.field role) ↔
          low.length ≤ index ∧ index < low.length + count := by
        rw [split]
        exact fun index => getElem?_run outside beyond
      cases earlier with
      | nil => rfl
      | cons nearest earlier =>
          by_cases same : nearest = .field role
          · simp [reopens?, same]
          · -- A letter further back would put the nearest symbol inside the run.
            have absent : .field role ∉ earlier := by
              intro member
              obtain ⟨distance, there⟩ := List.mem_iff_getElem?.mp member
              have first := (run later.length).mp (by simp)
              have last := (run (later.length + (distance + 2))).mp (by
                rw [List.getElem?_append_right (by omega)]
                simpa using there)
              have between := (run (later.length + 1)).mpr (by omega)
              exact same (by simpa using between)
            simp [reopens?, Ne.symm same, absent]

theorem readAfter_eq_ok_iff (runs : ∀ role, OneRun role earlier) :
    readAfter earlier chars = .ok symbols ↔
      ∃ later, later.map toChar = chars ∧ symbols = earlier.reverse ++ later ∧
        ∀ role, OneRun role symbols.reverse := by
  induction chars generalizing earlier with
  | nil =>
      simp only [readAfter, Except.ok.injEq, List.map_eq_nil_iff, exists_eq_left,
        List.append_nil]
      constructor
      · intro same
        subst same
        exact ⟨rfl, by simpa using runs⟩
      · intro parts
        obtain ⟨rfl, _⟩ := parts
        rfl
  | cons char rest ih =>
      -- The first of the later symbols is the one that the character stands for.
      have first : (∃ later, later.map toChar = char :: rest ∧
            symbols = earlier.reverse ++ later ∧ ∀ role, OneRun role symbols.reverse) ↔
          ∃ symbol, ofChar? char = some symbol ∧ ∃ later, later.map toChar = rest ∧
            symbols = (symbol :: earlier).reverse ++ later ∧
            ∀ role, OneRun role symbols.reverse := by
        simp only [List.map_eq_cons_iff, ofChar?_eq_some_iff, List.reverse_cons,
          List.append_assoc, List.singleton_append]
        constructor
        · intro written
          obtain ⟨_, ⟨symbol, later, rfl, rfl, rfl⟩, shape, single⟩ := written
          exact ⟨symbol, rfl, later, rfl, shape, single⟩
        · intro written
          obtain ⟨symbol, rfl, later, rfl, shape, single⟩ := written
          exact ⟨_, ⟨symbol, later, rfl, rfl, rfl⟩, shape, single⟩
      rw [first]
      cases known : ofChar? char with
      | none => simp [readAfter, known]
      | some symbol =>
          simp only [readAfter, known, Option.some.injEq, exists_eq_left']
          cases reopened : symbol.reopens? earlier with
          | none => exact ih fun role => (runs role).cons reopened
          | some role =>
              simp only [reduceCtorEq, false_iff]
              intro parts
              obtain ⟨later, _, rfl, single⟩ := parts
              have continues : symbol.reopens? earlier = none :=
                reopens?_eq_none later.reverse (by simpa using single)
              simp [reopened] at continues

/-- The widths that a field of each role may have. -/
def allowedWidths : FieldRole → List Nat
  | .source => [BitField.registerWidth]
  | .target => [BitField.registerWidth, BitField.immediateWidth]
  | .destination => [BitField.registerWidth]

/-- The field of a role is its run: as wide, and as far from the last symbol. -/
theorem fieldOf?_eq_ok_iff
    (split : symbols.reverse = low ++ List.replicate count (.field role) ++ high)
    (outside : .field role ∉ low) (beyond : .field role ∉ high) :
    fieldOf? symbols role = .ok found ↔
      count = 0 ∧ found = none ∨
        count ∈ allowedWidths role ∧ found = some ⟨role, low.length, count⟩ := by
  have width : symbols.count (.field role) = count := by
    rw [← List.count_reverse, split, List.count_append, List.count_append,
      List.count_replicate_self, List.count_eq_zero_of_not_mem outside,
      List.count_eq_zero_of_not_mem beyond]
    omega
  have shift (some : count ≠ 0) :
      (symbols.reverse.takeWhile (· != .field role)).length = low.length := by
    obtain ⟨rest, rfl⟩ := Nat.exists_eq_succ_of_ne_zero some
    rw [split, List.append_assoc, List.takeWhile_append_of_pos, List.replicate_succ,
      List.cons_append, List.takeWhile_cons_of_neg (by simp), List.append_nil]
    intro symbol member
    simp only [bne_iff_ne, ne_eq]
    exact fun same => outside (same ▸ member)
  rw [fieldOf?, width]
  by_cases none : count = 0
  · cases role <;> simp [none, allowedWidths, BitField.registerWidth, BitField.immediateWidth,
      eq_comm]
  · by_cases register : count = BitField.registerWidth
    · cases role <;> simp [register, shift none, allowedWidths, BitField.registerWidth,
        BitField.immediateWidth, eq_comm]
    · by_cases immediate : count = BitField.immediateWidth
      · cases role <;> simp [immediate, shift none, allowedWidths, BitField.registerWidth,
          BitField.immediateWidth, eq_comm]
      · cases role <;> simp [none, register, immediate, allowedWidths]

theorem fieldOf?_some {field : BitField} (run : OneRun role symbols.reverse)
    (read : fieldOf? symbols role = .ok (some field)) :
    field.role = role ∧ field.width ∈ allowedWidths role := by
  obtain ⟨low, count, high, split, outside, beyond⟩ := run
  rcases (fieldOf?_eq_ok_iff split outside beyond).mp read with ⟨_, none⟩ | ⟨allowed, found⟩
  · contradiction
  · cases found
    exact ⟨rfl, allowed⟩

end Symbol

namespace FieldRole

/-- What was found for each role. -/
def select (source target destination : Option BitField) : FieldRole → Option BitField
  | .source => source
  | .target => target
  | .destination => destination

theorem mem_all (role : FieldRole) : role ∈ all := by
  cases role <;> decide

end FieldRole

namespace Pattern

variable {pattern : Pattern} {symbols : List Symbol} {text : String}

theorem ofSymbols_eq_ok_iff : ofSymbols symbols = .ok pattern ↔
    ∃ found : FieldRole → Option BitField,
      (∀ role, Symbol.fieldOf? symbols role = .ok (found role)) ∧
      pattern.mask = Symbol.marked Symbol.isLiteral symbols ∧
      pattern.bits = Symbol.marked Symbol.isOne symbols ∧
      pattern.fields = FieldRole.all.filterMap found := by
  constructor
  · intro accepted
    cases source : Symbol.fieldOf? symbols .source with
    | error error => simp [ofSymbols, bind, Except.bind, source] at accepted
    | ok sourceField =>
        cases target : Symbol.fieldOf? symbols .target with
        | error error => simp [ofSymbols, bind, Except.bind, source, target] at accepted
        | ok targetField =>
            cases destination : Symbol.fieldOf? symbols .destination with
            | error error =>
                simp [ofSymbols, bind, Except.bind, source, target, destination] at accepted
            | ok destinationField =>
                simp only [ofSymbols, bind, Except.bind, source, target, destination, pure,
                  Except.pure, Except.ok.injEq] at accepted
                subst accepted
                refine ⟨FieldRole.select sourceField targetField destinationField, ?_, rfl,
                  rfl, ?_⟩
                · intro role
                  cases role <;> assumption
                · cases sourceField <;> cases targetField <;> cases destinationField <;> rfl
  · intro parts
    obtain ⟨found, reads, mask, bits, fields⟩ := parts
    have listed : pattern.fields =
        (found .source).toList ++ (found .target).toList ++ (found .destination).toList := by
      rw [fields]
      cases source : found .source <;> cases target : found .target <;>
        cases destination : found .destination <;>
        simp [FieldRole.all, source, target, destination]
    obtain ⟨_, _, _, _⟩ := pattern
    simp only at mask bits listed
    subst mask bits listed
    simp only [ofSymbols, bind, Except.bind, reads, pure, Except.pure]

/-- A written pattern is read exactly if it is 32 symbols in which every letter stands in
one run, of a width that a field may have. -/
theorem parse_eq_ok_iff : parse text = .ok pattern ↔
    ∃ symbols, symbols.map Symbol.toChar = significant text ∧ symbols.length = 32 ∧
      (∀ role, Symbol.OneRun role symbols.reverse) ∧ ofSymbols symbols = .ok pattern := by
  have read : ∀ symbols, Symbol.readAfter [] (significant text) = .ok symbols ↔
      symbols.map Symbol.toChar = significant text ∧
        ∀ role, Symbol.OneRun role symbols.reverse := by
    intro symbols
    rw [Symbol.readAfter_eq_ok_iff Symbol.OneRun.nil]
    constructor
    · intro known
      obtain ⟨_, written, rfl, single⟩ := known
      exact ⟨written, single⟩
    · intro parts
      obtain ⟨written, single⟩ := parts
      exact ⟨symbols, written, rfl, single⟩
  by_cases length : (significant text).length = 32
  · simp only [parse, length, if_true]
    constructor
    · intro accepted
      cases known : Symbol.readAfter [] (significant text) with
      | error error => simp [known, Except.bind] at accepted
      | ok symbols =>
          obtain ⟨written, single⟩ := (read symbols).mp known
          refine ⟨symbols, written, ?_, single, by simpa [known, Except.bind] using accepted⟩
          rw [← length, ← written, List.length_map]
    · intro known
      obtain ⟨symbols, written, _, single, accepted⟩ := known
      rw [(read symbols).mpr ⟨written, single⟩]
      exact accepted
  · simp only [parse, length, if_false, reduceCtorEq, false_iff]
    intro known
    obtain ⟨symbols, written, full, _⟩ := known
    exact length (by rw [← written, List.length_map, full])

theorem width_of_parse (accepted : parse text = .ok pattern) :
    ∀ field ∈ pattern.fields, field.width ∈ Symbol.allowedWidths field.role := by
  obtain ⟨symbols, _, _, single, shown⟩ := parse_eq_ok_iff.mp accepted
  obtain ⟨found, reads, _, _, fields⟩ := ofSymbols_eq_ok_iff.mp shown
  intro field member
  rw [fields, List.mem_filterMap] at member
  obtain ⟨role, _, here⟩ := member
  obtain ⟨rfl, allowed⟩ := Symbol.fieldOf?_some (single role) (here ▸ reads role)
  exact allowed

end Pattern

end CarMachine
