import CarMachine.Proofs.Text.Digits
import CarMachine.Proofs.Text.Layout
import CarMachine.Registers.Name
import Mathlib.Data.List.Nodup

namespace CarMachine

/-! Spellings of registers.

A name is read as a number, as a conventional name or as the alias of a car register.  No text
can be read in two ways, and what a slot is shown as is read as that slot.
-/

namespace RegisterName

theorem resolve?_display {index : Nat} (bound : index < 32) :
    resolve? (display index) = some index := by
  have each : ∀ index < 32, resolve? (display index) = some index := by decide +kernel
  exact each index bound

theorem toList_display (index : Nat) : (display index).toList =
    '$' :: ((conventional[index]?).getD (Text.decimal index)).toList := by
  rw [display, String.toList_append]
  rfl

theorem characters_display (index : Nat) :
    ∀ char ∈ (display index).toList, char = '$' ∨ char.isAlphanum = true := by
  have names : ∀ name ∈ conventional, name.toList.all Char.isAlphanum = true := by decide
  rw [toList_display]
  refine List.forall_mem_cons.mpr ⟨.inl rfl, fun char member => .inr ?_⟩
  cases named : conventional[index]? with
  | some name =>
      rw [named] at member
      exact List.all_eq_true.mp (names name (List.mem_of_getElem? named)) char member
  | none =>
      rw [named] at member
      rw [Char.isAlphanum, Text.isDigit_of_mem_decimal member, Bool.or_true]

theorem not_mem_display {index : Nat} {char : Char} (unmarked : char ≠ '$')
    (other : char.isAlphanum = false) : char ∉ (display index).toList := by
  intro member
  rcases characters_display index char member with same | alphanumeric
  · exact unmarked same
  · rw [other] at alphanumeric
    contradiction

end RegisterName

/-- The same text but for the case of its ASCII letters. -/
def Text.SameLetters (first second : List Char) : Prop :=
  first.map Char.toLower = second.map Char.toLower

namespace RegisterName

inductive Reading where
  | number (index : Nat)
  | general (index : Nat)
  | car (register : CarRegister)
deriving DecidableEq

namespace Reading

def slot : Reading → Nat
  | .number index => index
  | .general index => index
  | .car register => register.slot

/-- The name that is read in this way; numbers have none. -/
def name? : Reading → Option String
  | .number _ => none
  | .general index => conventional[index]?
  | .car register => some register.name

def named : List Reading :=
  (List.range conventional.length).map .general ++ CarRegister.all.map .car

end Reading

/-- A text without white space around it and without a dollar sign can be read in this way. -/
inductive Reads : List Char → Reading → Prop where
  | number {sign digits : List Char} {index : Nat} (signed : sign ∈ [[], ['+']])
      (written : Text.Writes 10 digits index) (small : index < 32) :
      Reads (sign ++ digits) (.number index)
  | named {word : List Char} {name : String} {reading : Reading}
      (known : reading.name? = some name) (same : Text.SameLetters word name.toList) :
      Reads word reading

/-- A name can be read in this way.  White space around it does not matter, nor does one dollar
sign in front. -/
def Spells (name : String) (reading : Reading) : Prop :=
  ∃ left dollar bare right, name.toList = left ++ (dollar ++ bare ++ right) ∧
    (∀ char ∈ left, Text.isBlank char = true) ∧ (∀ char ∈ right, Text.isBlank char = true) ∧
    dollar ∈ [[], ['$']] ∧ Reads bare reading

variable {reading other : Reading} {bare word : List Char} {name : String} {index : Nat}

theorem Reading.mem_named (known : reading.name? = some name) : reading ∈ named := by
  cases reading with
  | number index => contradiction
  | general index =>
      have inside := (List.getElem?_eq_some_iff.mp known).1
      simp [named, inside]
  | car register => simp [named, register.mem_all]

theorem Reading.name?_injective (known : reading.name? = some name)
    (alsoKnown : other.name? = some name) : reading = other := by
  have distinct : (named.map name?).Nodup := by decide +kernel
  exact List.inj_on_of_nodup_map distinct (mem_named known) (mem_named alsoKnown)
    (known.trans alsoKnown.symm)

/-- Names are made of small letters and digits, and none of them is a number. -/
theorem Reading.name_plain (known : reading.name? = some name) :
    name.toList.map Char.toLower = name.toList ∧
      (∀ char ∈ name.toList, char.isAlphanum = true) ∧
      Text.unsigned? 10 name.toList = none := by
  have each : ∀ reading ∈ named, ∀ name ∈ reading.name?,
      name.toList.map Char.toLower = name.toList ∧
        name.toList.all Char.isAlphanum = true ∧
        Text.unsigned? 10 name.toList = none := by
    decide +kernel
  obtain ⟨lower, alphanumeric, nothing⟩ := each reading (mem_named known) name known
  exact ⟨lower, List.all_eq_true.mp alphanumeric, nothing⟩

theorem Reading.sameLetters_iff (known : reading.name? = some name) :
    Text.SameLetters word name.toList ↔ String.ofList (word.map Char.toLower) = name := by
  rw [Text.SameLetters, (name_plain known).1, ← String.toList_inj, String.toList_ofList]

theorem ofWord?_eq_some_iff : ofWord? name = some index ↔
    ∃ reading : Reading, reading.name? = some name ∧ reading.slot = index := by
  constructor
  · intro found
    rw [ofWord?] at found
    cases aliased : CarRegister.ofName? name with
    | some register =>
        rw [aliased] at found
        have same := List.find?_some aliased
        exact ⟨.car register, congrArg some (beq_iff_eq.mp same), Option.some.inj found⟩
    | none =>
        rw [aliased] at found
        obtain ⟨inside, same, _⟩ := List.findIdx?_eq_some_iff_getElem.mp found
        exact ⟨.general index, List.getElem?_eq_some_iff.mpr ⟨inside, beq_iff_eq.mp same⟩, rfl⟩
  · rintro ⟨reading, known, rfl⟩
    have each : ∀ reading ∈ Reading.named, reading.name?.bind ofWord? = some reading.slot := by
      decide +kernel
    have found := each reading (Reading.mem_named known)
    rwa [known] at found

theorem eq_of_mem_optional {mark : Char} {chars : List Char} (listed : chars ∈ [[], [mark]]) :
    ∀ char ∈ chars, char = mark := by
  intro char member
  rcases List.mem_pair.mp listed with rfl | rfl
  · contradiction
  · exact List.mem_singleton.mp member

theorem map_toLower_of_signed {sign : List Char} (signed : sign ∈ [[], ['+']]) :
    sign.map Char.toLower = sign := by
  have each : ∀ sign ∈ [[], ['+']], sign.map Char.toLower = sign := by decide
  exact each sign signed

theorem reads_iff_of_number (number : Text.unsigned? 10 bare = some index) :
    Reads bare reading ↔ reading = .number index ∧ index < 32 := by
  have decimal : 10 ≤ 16 := by decide
  obtain ⟨sign, signed, digits, split, written⟩ := (Text.unsigned?_eq_some_iff decimal).mp number
  constructor
  · intro reads
    cases reads with
    | @number alsoSign alsoDigits other alsoSigned alsoWritten small =>
        have read := (Text.unsigned?_eq_some_iff decimal).mpr
          ⟨alsoSign, alsoSigned, alsoDigits, rfl, alsoWritten⟩
        cases number.symm.trans read
        exact ⟨rfl, small⟩
    | @named word name reading known same =>
        -- small letters do not change a number, so the name would be one itself
        have lowered : bare.map Char.toLower = bare := by
          rw [split, List.map_append, written.map_toLower, map_toLower_of_signed signed]
        obtain ⟨lower, _, nothing⟩ := Reading.name_plain known
        rw [Text.SameLetters, lower, lowered] at same
        rw [← same, number] at nothing
        contradiction
  · rintro ⟨rfl, small⟩
    rw [split]
    exact .number signed written small

theorem reads_iff_of_not_number (other : Text.unsigned? 10 bare = none) :
    Reads bare reading ↔ reading.name? = some (String.ofList (bare.map Char.toLower)) := by
  constructor
  · intro reads
    cases reads with
    | number signed written small =>
        have read := (Text.unsigned?_eq_some_iff (by decide)).mpr ⟨_, signed, _, rfl, written⟩
        rw [other] at read
        contradiction
    | named known same => rw [(Reading.sameLetters_iff known).mp same, known]
  · intro known
    exact .named known ((Reading.sameLetters_iff known).mpr rfl)

theorem Reads.characters (reads : Reads bare reading) :
    ∀ char ∈ bare, char = '+' ∨ char.isAlphanum = true := by
  intro char member
  cases reads with
  | @number sign digits index signed written small =>
      rcases List.mem_append.mp member with first | later
      · exact .inl (eq_of_mem_optional signed char first)
      · exact .inr (written.isAlphanum (by decide) char later)
  | @named _ name _ known same =>
      obtain ⟨lower, alphanumeric, _⟩ := Reading.name_plain known
      rw [Text.SameLetters, lower] at same
      rw [← Text.isAlphanum_toLower]
      exact .inr (alphanumeric _ (same ▸ List.mem_map_of_mem member))

theorem Reads.isBlank_eq_false (reads : Reads bare reading) :
    ∀ char ∈ bare, Text.isBlank char = false := by
  intro char member
  rcases reads.characters char member with rfl | alphanumeric
  · decide
  · exact Text.isBlank_of_isAlphanum alphanumeric

theorem Reads.withoutDollar (reads : Reads bare reading) : withoutDollar bare = bare := by
  unfold RegisterName.withoutDollar
  split
  · exact absurd (reads.characters '$' (.head _)) (by decide)
  · rfl

theorem exists_dollar (chars : List Char) : ∃ dollar ∈ [[], ['$']],
    chars = dollar ++ RegisterName.withoutDollar chars := by
  unfold RegisterName.withoutDollar
  split
  · exact ⟨['$'], by decide, rfl⟩
  · exact ⟨[], by decide, rfl⟩

theorem spells_iff : Spells name reading ↔
    Reads (RegisterName.withoutDollar (Text.trimmed name.toList)) reading := by
  constructor
  · rintro ⟨left, dollar, bare, right, split, leftBlank, rightBlank, listed, reads⟩
    have plain : ∀ char ∈ dollar ++ bare, Text.isBlank char = false := by
      refine List.forall_mem_append.mpr ⟨fun char member => ?_, reads.isBlank_eq_false⟩
      rw [eq_of_mem_optional listed char member]
      decide
    have core : Text.trimmed name.toList = dollar ++ bare := by
      rw [split, Text.trimmed_append_left leftBlank, Text.trimmed_append_right rightBlank,
        Text.trimmed_of_plain plain]
    have stripped : RegisterName.withoutDollar (dollar ++ bare) = bare := by
      rcases List.mem_pair.mp listed with rfl | rfl
      · exact reads.withoutDollar
      · rfl
    rwa [core, stripped]
  · intro reads
    obtain ⟨left, right, split, leftBlank, rightBlank⟩ := Text.exists_trimmed name.toList
    obtain ⟨dollar, listed, core⟩ := exists_dollar (Text.trimmed name.toList)
    refine ⟨left, dollar, _, right, ?_, leftBlank, rightBlank, listed, reads⟩
    rw [← core]
    exact split

theorem Reads.unique (reads : Reads bare reading) (alsoReads : Reads bare other) :
    reading = other := by
  cases number : Text.unsigned? 10 bare with
  | some index =>
      rw [reads_iff_of_number number] at reads alsoReads
      rw [reads.1, alsoReads.1]
  | none =>
      rw [reads_iff_of_not_number number] at reads alsoReads
      exact Reading.name?_injective reads alsoReads

theorem resolve?_eq_some_iff : resolve? name = some index ↔
    ∃ reading, Spells name reading ∧ reading.slot = index := by
  simp only [spells_iff, resolve?]
  cases number : Text.unsigned? 10 (RegisterName.withoutDollar (Text.trimmed name.toList)) with
  | some value =>
      have count : conventional.length = 32 := rfl
      simp only [reads_iff_of_number number, count, Option.ite_none_right_eq_some,
        Option.some.injEq]
      constructor
      · rintro ⟨small, rfl⟩
        exact ⟨_, ⟨rfl, small⟩, rfl⟩
      · rintro ⟨_, ⟨rfl, small⟩, rfl⟩
        exact ⟨small, rfl⟩
  | none => simp only [reads_iff_of_not_number number, ofWord?_eq_some_iff]

theorem Reads.slot_lt (reads : Reads bare reading) : reading.slot < 32 := by
  cases reads with
  | number _ _ small => exact small
  | named known _ =>
      have each : ∀ reading ∈ Reading.named, reading.slot < 32 := by decide
      exact each _ (Reading.mem_named known)

theorem display_of_le (beyond : 32 ≤ index) : display index = "$" ++ Text.decimal index := by
  have nameless : conventional[index]? = none := List.getElem?_eq_none_iff.mpr beyond
  rw [display, nameless, Option.getD_none]

theorem display_plain (index : Nat) :
    ∀ char ∈ (display index).toList, Text.isBlank char = false := by
  intro char member
  rcases characters_display index char member with rfl | alphanumeric
  · decide
  · exact Text.isBlank_of_isAlphanum alphanumeric

/-- A slot without a conventional name is shown by a number that no slot is read from. -/
theorem resolve?_display_of_le (beyond : 32 ≤ index) : resolve? (display index) = none := by
  have written := Text.writes_decimal index
  have core : Text.trimmed (display index).toList = '$' :: (Text.decimal index).toList := by
    rw [Text.trimmed_of_plain (display_plain index), display_of_le beyond, String.toList_append]
    rfl
  have number : Text.unsigned? 10 (Text.decimal index).toList = some index :=
    (Text.unsigned?_eq_some_iff (by decide)).mpr ⟨[], by decide, _, rfl, written⟩
  have count : conventional.length = 32 := rfl
  simp only [resolve?, core, RegisterName.withoutDollar, number, count,
    if_neg (Nat.not_lt.mpr beyond)]

theorem resolve?_display_eq (index : Nat) :
    resolve? (display index) = if index < 32 then some index else none := by
  split
  · exact resolve?_display ‹_›
  · exact resolve?_display_of_le (by omega)

theorem display_injective : Function.Injective display := by
  intro first second same
  have resolved := congrArg resolve? same
  rw [resolve?_display_eq, resolve?_display_eq] at resolved
  by_cases small : first < 32 <;> by_cases alsoSmall : second < 32 <;>
    simp only [small, alsoSmall, if_true, if_false, Option.some.injEq, reduceCtorEq] at resolved
  · exact resolved
  · rw [display_of_le (Nat.le_of_not_lt small), display_of_le (Nat.le_of_not_lt alsoSmall),
      String.append_right_inj] at same
    exact Text.decimal_injective same

theorem resolve?_lt (resolved : resolve? name = some index) : index < 32 := by
  obtain ⟨reading, spelled, rfl⟩ := resolve?_eq_some_iff.mp resolved
  exact (spells_iff.mp spelled).slot_lt

/-- The names that stand for a slot are exactly its spellings, and no name can be read in two
ways.  Every slot is shown differently, and a slot below 32 is shown by one of its spellings. -/
theorem resolve?_spellings :
    (∀ name index, resolve? name = some index ↔
      ∃ reading, Spells name reading ∧ reading.slot = index) ∧
    (∀ name index, resolve? name = some index → index < 32) ∧
    (∀ name first second, Spells name first → Spells name second → first = second) ∧
    (∀ index, resolve? (display index) = if index < 32 then some index else none) ∧
    Function.Injective display := by
  refine ⟨fun name index => resolve?_eq_some_iff, fun name index => resolve?_lt, ?_,
    resolve?_display_eq, display_injective⟩
  intro name first second spelled alsoSpelled
  exact (spells_iff.mp spelled).unique (spells_iff.mp alsoSpelled)

/-- White space, a dollar sign, a plus sign and zeros may all stand before a number. -/
theorem resolve?_spellings_signed : Spells " $+031" (.number 31) ∧
    resolve? " $+031" = some 31 ∧ ¬ Spells " $+031" (.general 31) := by
  have reads : Reads ['+', '0', '3', '1'] (.number 31) :=
    (reads_iff_of_number (by decide)).mpr ⟨rfl, by decide⟩
  have spelled : Spells " $+031" (.number 31) := spells_iff.mpr reads
  refine ⟨spelled, (resolve?_spellings.1 _ _).mpr ⟨_, spelled, rfl⟩, fun alsoSpelled => ?_⟩
  have same := resolve?_spellings.2.2.1 _ _ _ spelled alsoSpelled
  contradiction

end RegisterName

end CarMachine
