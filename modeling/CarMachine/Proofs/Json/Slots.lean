import CarMachine.Json.Records
import CarMachine.Proofs.Text.Numeral
import Mathlib.Data.List.TakeWhile

namespace CarMachine

/-! Register files as JSON texts.

A file is written as a record whose only field is the array of its slots.  The tokens of that
text are the ones that were written, and the machine that reads them ends with the same numbers.
-/

namespace Json

/-- Characters that are one number of a JSON text. -/
structure Numeric (chars : List Char) : Prop where
  starts : ∃ char rest, chars = char :: rest ∧ Lexing.startsNumber char = true
  continues : ∀ char ∈ chars, Lexing.continuesNumber char = true
  wellFormed : Number.isWellFormed chars = true

variable {char : Char} {chars rest : List Char} {numbers : List (List Char)} {token : Token}

theorem exists_digits (number : Nat) : ∃ first others,
    Nat.toDigits 10 number = first :: others ∧ ∀ char ∈ first :: others, char.isDigit = true := by
  cases split : Nat.toDigits 10 number with
  | nil => exact absurd split Nat.toDigits_ne_nil
  | cons first others =>
      refine ⟨first, others, rfl, fun char member => ?_⟩
      rw [← split] at member
      exact Nat.isDigit_of_mem_toDigits (by decide) (by decide) member

/-- A positive number is written without a zero in front. -/
theorem head?_toDigits {number : Nat} (positive : 0 < number) :
    (Nat.toDigits 10 number).head? ≠ some '0' := by
  induction number using Nat.strongRecOn with
  | ind number ih =>
      by_cases single : number < 10
      · have each : ∀ digit < 10, 0 < digit → digit.digitChar ≠ '0' := by decide
        simpa [Nat.toDigits_of_lt_base single] using each number single positive
      · have shorter := ih (number / 10) (by omega) (by omega)
        rw [Nat.toDigits_of_base_le (by decide) (by omega)]
        cases split : Nat.toDigits 10 (number / 10) with
        | nil => exact absurd split Nat.toDigits_ne_nil
        | cons first others => simpa [split] using shorter

theorem isWhole_toDigits (number : Nat) : Number.isWhole (Nat.toDigits 10 number) = true := by
  rcases Nat.eq_zero_or_pos number with rfl | positive
  · rfl
  · have leading := head?_toDigits positive
    obtain ⟨first, others, split, _⟩ := exists_digits number
    rw [split, List.head?_cons, ne_eq, Option.some.injEq] at leading
    rw [split]
    cases others with
    | nil => rfl
    | cons second others => simpa [Number.isWhole] using leading

theorem isWellFormed_toDigits (number : Nat) :
    Number.isWellFormed (Nat.toDigits 10 number) = true ∧
      Number.isWellFormed ('-' :: Nat.toDigits 10 number) = true := by
  obtain ⟨first, others, split, digits⟩ := exists_digits number
  rw [← split] at digits
  have whole : (Number.isWhole ((Nat.toDigits 10 number).takeWhile Char.isDigit) &&
      Number.isFraction ((Nat.toDigits 10 number).dropWhile Char.isDigit)) = true := by
    rw [List.takeWhile_eq_self_iff.mpr digits, List.dropWhile_eq_nil_iff.mpr digits,
      isWhole_toDigits]
    rfl
  refine ⟨?_, whole⟩
  unfold Number.isWellFormed
  split
  · rename_i signed
    exact absurd (digits '-' (signed ▸ .head _)) (by decide)
  · exact whole

theorem numeric_decimalInt (number : Int) : Numeric (Text.decimalInt number).toList := by
  have digit {char : Char} (digit : char.isDigit = true) :
      Lexing.startsNumber char = true ∧ Lexing.continuesNumber char = true := by
    simp [Lexing.startsNumber, Lexing.continuesNumber, digit]
  cases number with
  | ofNat value =>
      obtain ⟨first, others, split, digits⟩ := exists_digits value
      have wellFormed := (isWellFormed_toDigits value).1
      rw [Text.decimalInt, Text.toList_decimal]
      rw [split] at wellFormed ⊢
      exact ⟨⟨first, others, rfl, (digit (digits first (.head _))).1⟩,
        fun char member => (digit (digits char member)).2, wellFormed⟩
  | negSucc value =>
      obtain ⟨first, others, split, digits⟩ := exists_digits (value + 1)
      have wellFormed := (isWellFormed_toDigits (value + 1)).2
      rw [Text.decimalInt, String.toList_append, Text.toList_decimal]
      rw [split] at wellFormed ⊢
      refine ⟨⟨'-', _, rfl, by decide⟩, ?_, wellFormed⟩
      exact List.forall_mem_cons.mpr
        ⟨by decide, fun char member => (digit (digits char member)).2⟩

theorem start?_of_startsNumber (starts : Lexing.startsNumber char = true) :
    Lexing.start? char = some (.number [char], []) := by
  have other : ∀ mark ∈ [' ', '\t', '\n', '\r', '\x7b', '\x7d', '[', ']', ':', ',', '"'],
      Lexing.startsNumber mark = false → char ≠ mark := by
    rintro mark _ quiet rfl
    rw [starts] at quiet
    contradiction
  simp [Lexing.startsNumber] at other
  simp [Lexing.start?, Lexing.isSpace, other, starts]

theorem tokensFrom?_number (continues : ∀ char ∈ chars, Lexing.continuesNumber char = true)
    (taken : List Char) : Lexing.tokensFrom? (.number taken) (chars ++ rest) =
      Lexing.tokensFrom? (.number (chars.reverse ++ taken)) rest := by
  induction chars generalizing taken with
  | nil => rfl
  | cons char chars ih =>
      obtain ⟨here, later⟩ := List.forall_mem_cons.mp continues
      simp [Lexing.tokensFrom?, Lexing.step?, here, ih later]

/-- A number is one token, up to a mark that cannot be part of it. -/
theorem tokensFrom?_numeric (numeric : Numeric chars) (mark : Lexing.continuesNumber char = false)
    (read : Lexing.start? char = some (.between, [token])) :
    Lexing.tokensFrom? .between (chars ++ char :: rest) =
      (Lexing.tokensFrom? .between rest).map (.number chars :: token :: ·) := by
  obtain ⟨first, others, rfl, starts⟩ := numeric.starts
  have continues := (List.forall_mem_cons.mp numeric.continues).2
  simp [Lexing.tokensFrom?, Lexing.step?, start?_of_startsNumber starts,
    tokensFrom?_number continues, mark, Lexing.startAfter?, read, Function.comp_def]

/-- The tokens of the items of an array and of its end. -/
def itemTokens : List (List Char) → List Token
  | [] => [.closeArray]
  | [last] => [.number last, .closeArray]
  | first :: second :: others => .number first :: .comma :: itemTokens (second :: others)

theorem tokensFrom?_items (numeric : ∀ chars ∈ numbers, Numeric chars) :
    Lexing.tokensFrom? .between ([','].intercalate numbers ++ ']' :: rest) =
      (Lexing.tokensFrom? .between rest).map (itemTokens numbers ++ ·) := by
  induction numbers with
  | nil => rfl
  | cons first others ih =>
      obtain ⟨here, later⟩ := List.forall_mem_cons.mp numeric
      cases others with
      | nil =>
          rw [List.intercalate_singleton, tokensFrom?_numeric here (by decide) rfl]
          rfl
      | cons second others =>
          rw [List.intercalate_cons_cons, List.append_assoc, List.append_assoc,
            List.singleton_append, tokensFrom?_numeric here (by decide) rfl, ih later,
            Option.map_map]
          rfl

theorem readFrom?_items {frames : List Frame} {tokens : List Token} {mayClose : Bool}
    (before : List Value) (closes : numbers = [] → mayClose = true)
    (wellFormed : ∀ chars ∈ numbers, Number.isWellFormed chars = true) :
    Place.readFrom? (.atValue mayClose) (.array before :: frames) (itemTokens numbers ++ tokens) =
      Place.readFrom? (.after (.array (before.reverse ++ numbers.map .number))) frames tokens := by
  induction numbers generalizing before mayClose with
  | nil =>
      obtain rfl := closes rfl
      simp [itemTokens, Place.readFrom?, Place.step?]
  | cons first others ih =>
      obtain ⟨here, later⟩ := List.forall_mem_cons.mp wellFormed
      cases others with
      | nil => simp [itemTokens, Place.readFrom?, Place.step?, Place.scalar?, here]
      | cons second others =>
          have onward := @ih false (.number first :: before) (by simp) later
          simp [itemTokens, Place.readFrom?, Place.step?, Place.scalar?, here, onward]

/-- What stands in front of the items. -/
theorem tokensFrom?_opening :
    Lexing.tokensFrom? .between ("\x7b\"slots\":[".toList ++ rest) =
      (Lexing.tokensFrom? .between rest).map
        ([.openObject, .string ("slots".toList.map Char.toNat), .colon, .openArray] ++ ·) := by
  have marks : "\x7b\"slots\":[".toList =
      ['\x7b', '"', 's', 'l', 'o', 't', 's', '"', ':', '['] := rfl
  rw [marks]
  cases tokens : Lexing.tokensFrom? .between rest <;>
    simp [Lexing.tokensFrom?, Lexing.step?, Lexing.start?, Lexing.isSpace, tokens]

theorem read?_writeSlots {items : List String} (numeric : ∀ item ∈ items, Numeric item.toList) :
    read? (writeObject [("slots", writeArray items)]) =
      some (.object [("slots".toList.map Char.toNat,
        .array (items.map fun item => .number item.toList))]) := by
  have numbers : ∀ chars ∈ items.map String.toList, Numeric chars := by
    simpa using numeric
  have text : (writeObject [("slots", writeArray items)]).toList =
      "\x7b\"slots\":[".toList ++
        ([','].intercalate (items.map String.toList) ++ ']' :: ['\x7d']) := by
    have name : (writeString "slots").toList = "\"slots\"".toList := rfl
    simp [writeObject, writeArray, String.toList_intercalate, name]
  have tokens : tokens? (writeObject [("slots", writeArray items)]) =
      some ([.openObject, .string ("slots".toList.map Char.toNat), .colon, .openArray] ++
        (itemTokens (items.map String.toList) ++ [.closeObject])) := by
    rw [tokens?, text, tokensFrom?_opening, tokensFrom?_items numbers]
    rfl
  have wellFormed : ∀ chars ∈ items.map String.toList, Number.isWellFormed chars = true :=
    fun chars member => (numbers chars member).wellFormed
  rw [read?, tokens, Option.bind_some]
  simp [Place.readFrom?, Place.step?, readFrom?_items [] (fun _ => rfl) wellFormed,
    Function.comp_def]

theorem mapM_map_of_read {α β : Type} {shown : α → β} {read : β → Option α}
    (each : ∀ value, read (shown value) = some value) (values : List α) :
    (values.map shown).mapM read = some values := by
  have same : read ∘ shown = fun value => pure (id value) := funext each
  rw [List.mapM_map, same, List.mapM_pure, List.map_id]
  rfl

theorem record?_slots (value : Value) :
    (Value.object [("slots".toList.map Char.toNat, value)]).record? ["slots"] =
      some [some value] := by
  have name : textOfUnits? ("slots".toList.map Char.toNat) = some "slots" := by decide
  have members : (Value.object [("slots".toList.map Char.toNat, value)]).members? =
      some [("slots", value)] := by
    simp only [Value.members?, List.mapM_cons, List.mapM_nil, name]
    rfl
  simp only [Value.record?, members]
  rfl

theorem integer?_decimalInt (number : Int) :
    (Value.number (Text.decimalInt number).toList).integer? = some number := by
  have read : ∀ number, Text.digitsValue? 10 (Nat.toDigits 10 number) = some number :=
    Text.digitsValue?_toDigits (by decide) (by decide)
  cases number with
  | ofNat value =>
      have known := read value
      obtain ⟨first, others, split, digits⟩ := exists_digits value
      have unsigned : first ≠ '-' := by
        rintro rfl
        exact absurd (digits '-' (.head _)) (by decide)
      rw [split] at known
      simp [Text.decimalInt, Text.toList_decimal, split, Value.integer?, unsigned, known]
  | negSucc value =>
      rw [Text.decimalInt, String.toList_append, Text.toList_decimal]
      simp [Value.integer?, read, Int.negSucc_eq]

end Json

/-- What is written for a register file is read as that file. -/
theorem Registers.ofJson?_toJson (slots : List Int32) :
    (Json.read? (ofSlots slots).toJson).bind ofJson? = some (ofSlots slots) := by
  have numeric : ∀ item ∈ slots.map fun value => Text.decimalInt value.toInt,
      Json.Numeric item.toList :=
    List.forall_mem_map.mpr fun value _ => Json.numeric_decimalInt value.toInt
  let number (value : Int32) : Json.Value := .number (Text.decimalInt value.toInt).toList
  have each : ∀ value : Int32, (number value).integer?.bind Value.ofInt? = some value := by
    intro value
    rw [Json.integer?_decimalInt, Option.bind_some, Value.ofInt?_toInt]
  have all : (slots.map number).mapM (fun item => item.integer?.bind Value.ofInt?) =
      some slots :=
    Json.mapM_map_of_read each slots
  rw [toJson, slots_ofSlots, Json.read?_writeSlots numeric, Option.bind_some, ofJson?,
    Json.record?_slots, List.map_map]
  exact Option.bind_eq_some_iff.mpr ⟨_, rfl, Option.bind_eq_some_iff.mpr ⟨slots, all, rfl⟩⟩

end CarMachine
