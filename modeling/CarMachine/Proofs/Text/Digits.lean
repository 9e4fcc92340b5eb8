import CarMachine.Proofs.Text.Layout
import CarMachine.Proofs.Text.Numeral

namespace CarMachine.Text

/-! What digits denote.

A reader takes exactly the characters that show digits of its base, and the number that it
answers with is the positional value of these digits.
-/

theorem forall_mem_of_forall₂ {α β : Type} {related : α → β → Prop} {holds : α → Prop}
    {first : List α} {second : List β} (pairs : List.Forall₂ related first second)
    (each : ∀ left right, related left right → holds left) : ∀ left ∈ first, holds left :=
  ((List.forall₂_and_left _ _).mp
    (pairs.imp fun left right relation => ⟨each left right relation, relation⟩)).1

/-- A character shows a digit of a base, in lower or in upper case. -/
structure Shows (base : Nat) (char : Char) (digit : Nat) : Prop where
  below : digit < base
  shown : char = digit.digitChar ∨ char = digit.digitChar.toUpper

/-- Characters write a number in a base, with at least one digit. -/
def Writes (base : Nat) (chars : List Char) (number : Nat) : Prop :=
  ∃ digits, digits ≠ [] ∧ List.Forall₂ (Shows base) chars digits ∧
    number = Nat.ofDigits base digits.reverse

/-- Characters write an integer: decimal digits with or without a sign in front. -/
inductive WritesInt : List Char → Int → Prop where
  | positive {sign digits : List Char} {number : Nat} (signed : sign ∈ [[], ['+']])
      (written : Writes 10 digits number) : WritesInt (sign ++ digits) number
  | negative {digits : List Char} {number : Nat} (written : Writes 10 digits number) :
      WritesInt ('-' :: digits) (-number)

variable {base digit value number : Nat} {char : Char} {chars : List Char}

/-- The digits follow each other in three ranges of characters. -/
theorem toNat_of_digitValue? (read : digitValue? base char = some digit) : digit < base ∧
    (digit < 10 ∧ char.toNat = 48 + digit ∨ 10 ≤ digit ∧ char.toNat = 87 + digit ∨
      10 ≤ digit ∧ char.toNat = 55 + digit) := by
  have codes : '0'.val.toNat = 48 ∧ '9'.val.toNat = 57 ∧ 'a'.val.toNat = 97 ∧
      'z'.val.toNat = 122 ∧ 'A'.val.toNat = 65 ∧ 'Z'.val.toNat = 90 := by decide
  simp only [digitValue?, Option.filter_eq_some_iff, decide_eq_true_eq, Char.le_def,
    UInt32.le_iff_toNat_le, Char.toNat] at read ⊢
  obtain ⟨found, below⟩ := read
  refine ⟨below, ?_⟩
  split at found
  · rw [Option.some.injEq] at found
    omega
  · split at found
    · rw [Option.some.injEq] at found
      omega
    · split at found
      · rw [Option.some.injEq] at found
        omega
      · contradiction

theorem digitValue?_eq_some_iff (small : base ≤ 16) :
    digitValue? base char = some digit ↔ Shows base char digit := by
  constructor
  · intro read
    obtain ⟨below, range⟩ := toNat_of_digitValue? read
    have hexadecimal : digit < 16 := by omega
    refine ⟨below, ?_⟩
    rw [← Char.ofNat_toNat char]
    rcases range with ⟨decimal, code⟩ | ⟨letter, code⟩ | ⟨letter, code⟩ <;> rw [code]
    · have each : ∀ digit < 10, Char.ofNat (48 + digit) = digit.digitChar := by decide
      exact .inl (each digit decimal)
    · have each : ∀ digit < 16, 10 ≤ digit → Char.ofNat (87 + digit) = digit.digitChar := by decide
      exact .inl (each digit hexadecimal letter)
    · have each : ∀ digit < 16, 10 ≤ digit →
          Char.ofNat (55 + digit) = digit.digitChar.toUpper := by
        decide
      exact .inr (each digit hexadecimal letter)
  · intro shows
    obtain ⟨below, rfl | rfl⟩ := shows
    · exact digitValue?_digitChar small below
    · have each : ∀ digit < 16, digitValue? 16 digit.digitChar.toUpper = some digit := by decide
      exact digitValue?_of_below below (each digit (by omega))

theorem not_shows (small : base ≤ 16) (other : digitValue? 16 char = none) (digit : Nat) :
    ¬ Shows base char digit := by
  intro shows
  have read := (digitValue?_eq_some_iff (Nat.le_refl 16)).mpr
    ⟨Nat.lt_of_lt_of_le shows.below small, shows.shown⟩
  rw [other] at read
  contradiction

theorem Shows.isAlphanum (small : base ≤ 16) (shows : Shows base char digit) :
    char.isAlphanum = true := by
  have each : ∀ digit < 16, digit.digitChar.isAlphanum = true ∧
      digit.digitChar.toUpper.isAlphanum = true := by
    decide
  obtain ⟨lower, upper⟩ := each digit (Nat.lt_of_lt_of_le shows.below small)
  rcases shows.shown with rfl | rfl
  · exact lower
  · exact upper

theorem ofDigits_cons_reverse (base value digit : Nat) (digits : List Nat) :
    value * base ^ (digit :: digits).length + Nat.ofDigits base (digit :: digits).reverse =
      (value * base + digit) * base ^ digits.length + Nat.ofDigits base digits.reverse := by
  rw [List.reverse_cons, Nat.ofDigits_append, Nat.ofDigits_singleton, List.length_reverse,
    List.length_cons]
  ring

theorem digitsAfter?_eq_some_iff (small : base ≤ 16) : digitsAfter? base value chars = some number ↔
    ∃ digits, List.Forall₂ (Shows base) chars digits ∧
      number = value * base ^ digits.length + Nat.ofDigits base digits.reverse := by
  induction chars generalizing value with
  | nil => simp [digitsAfter?, eq_comm]
  | cons char rest ih =>
      cases known : digitValue? base char with
      | none =>
          simp [digitsAfter?, known, List.forall₂_cons_left_iff, ← digitValue?_eq_some_iff small]
      | some digit =>
          simp only [digitsAfter?, known, ih, List.forall₂_cons_left_iff,
            ← digitValue?_eq_some_iff small, Option.some.injEq]
          constructor
          · rintro ⟨digits, shown, rfl⟩
            exact ⟨digit :: digits, ⟨digit, digits, rfl, shown, rfl⟩,
              (ofDigits_cons_reverse base value digit digits).symm⟩
          · rintro ⟨_, ⟨_, digits, rfl, shown, rfl⟩, rfl⟩
            exact ⟨digits, shown, ofDigits_cons_reverse base value digit digits⟩

theorem digitsValue?_eq_some_iff (small : base ≤ 16) :
    digitsValue? base chars = some number ↔ Writes base chars number := by
  cases chars with
  | nil => simp [digitsValue?, Writes]
  | cons char rest =>
      rw [digitsValue?_of_ne_nil (List.cons_ne_nil char rest), digitsAfter?_eq_some_iff small]
      simp only [Writes, Nat.zero_mul, Nat.zero_add]
      refine exists_congr fun digits => (and_iff_right_of_imp ?_).symm
      rintro ⟨shown, _⟩ rfl
      contradiction

theorem writes_decimal (number : Nat) : Writes 10 (decimal number).toList number := by
  rw [← digitsValue?_eq_some_iff (by decide), toList_decimal]
  exact digitsValue?_toDigits (by decide) (by decide) number

theorem writes_hex (number : Nat) : Writes 16 (hex number).toList number := by
  rw [← digitsValue?_eq_some_iff (Nat.le_refl 16), hex, String.toList_ofList]
  exact digitsValue?_toDigits (by decide) (Nat.le_refl 16) number

theorem decimal_injective : Function.Injective decimal := by
  intro first second same
  have decimal : 10 ≤ 16 := by decide
  have read := (digitsValue?_eq_some_iff decimal).mpr (writes_decimal first)
  have alsoRead := (digitsValue?_eq_some_iff decimal).mpr (writes_decimal second)
  rw [same, alsoRead] at read
  exact (Option.some.inj read).symm

theorem Writes.isAlphanum (small : base ≤ 16) (written : Writes base chars number) :
    ∀ char ∈ chars, char.isAlphanum = true := by
  obtain ⟨digits, _, shown, _⟩ := written
  exact forall_mem_of_forall₂ shown fun _ _ shows => shows.isAlphanum small

/-- Decimal digits are no letters. -/
theorem Writes.map_toLower (written : Writes 10 chars number) :
    chars.map Char.toLower = chars := by
  have each : ∀ digit < 10, digit.digitChar.toLower = digit.digitChar ∧
      digit.digitChar.toUpper.toLower = digit.digitChar.toUpper := by
    decide
  have same : ∀ char digit, Shows 10 char digit → char.toLower = char := by
    rintro char digit ⟨below, rfl | rfl⟩
    · exact (each digit below).1
    · exact (each digit below).2
  obtain ⟨digits, _, shown, _⟩ := written
  exact (List.map_congr_left (forall_mem_of_forall₂ shown same)).trans (List.map_id chars)

theorem Writes.withoutPlus (small : base ≤ 16) (written : Writes base chars number) :
    withoutPlus chars = chars := by
  unfold Text.withoutPlus
  split
  · exact absurd (written.isAlphanum small '+' (.head _)) (by decide)
  · rfl

theorem unsigned?_eq_some_iff (small : base ≤ 16) : unsigned? base chars = some number ↔
    ∃ sign ∈ [[], ['+']], ∃ digits, chars = sign ++ digits ∧ Writes base digits number := by
  rw [unsigned?, digitsValue?_eq_some_iff small]
  constructor
  · intro written
    unfold Text.withoutPlus at written
    split at written
    · exact ⟨['+'], by decide, _, rfl, written⟩
    · exact ⟨[], by decide, _, rfl, written⟩
  · rintro ⟨sign, signed, digits, rfl, written⟩
    rcases List.mem_pair.mp signed with rfl | rfl
    · rwa [List.nil_append, written.withoutPlus small]
    · exact written

theorem signed?_eq_some_iff {number : Int} :
    signed? chars = some number ↔ WritesInt chars number := by
  have decimal : 10 ≤ 16 := by decide
  constructor
  · intro read
    unfold signed? at read
    split at read <;> obtain ⟨magnitude, found, rfl⟩ := Option.map_eq_some_iff.mp read
    · obtain ⟨value, known, same⟩ := Option.bind_eq_some_iff.mp found
      cases same
      exact .negative ((digitsValue?_eq_some_iff decimal).mp known)
    · obtain ⟨sign, signed, digits, rfl, written⟩ := (unsigned?_eq_some_iff decimal).mp found
      exact .positive signed written
  · intro writes
    cases writes with
    | @positive sign digits magnitude signed written =>
        have read := (unsigned?_eq_some_iff decimal).mpr ⟨sign, signed, digits, rfl, written⟩
        unfold signed?
        split
        · rename_i rest minus
          -- a minus sign is neither a plus sign nor a digit
          rcases List.mem_pair.mp signed with rfl | rfl
          · rw [List.nil_append] at minus
            exact absurd (written.isAlphanum decimal '-' (minus ▸ .head _)) (by decide)
          · simp at minus
        · rw [read]
          rfl
    | negative written =>
        rw [signed?, (digitsValue?_eq_some_iff decimal).mpr written]
        rfl

theorem writesInt_decimalInt (number : Int) : WritesInt (decimalInt number).toList number :=
  signed?_eq_some_iff.mp (signed?_decimalInt number)

theorem WritesInt.isBlank_eq_false {number : Int} (writes : WritesInt chars number) :
    ∀ char ∈ chars, isBlank char = false := by
  have decimal : 10 ≤ 16 := by decide
  have plain : ∀ digits value, Writes 10 digits value → ∀ char ∈ digits, isBlank char = false :=
    fun _ _ written char member => isBlank_of_isAlphanum (written.isAlphanum decimal char member)
  cases writes with
  | positive signed written =>
      have bare : ∀ sign ∈ [[], ['+']], sign.all (!isBlank ·) = true := by decide
      refine List.forall_mem_append.mpr ⟨fun char member => ?_, plain _ _ written⟩
      simpa using List.all_eq_true.mp (bare _ signed) char member
  | negative written => exact List.forall_mem_cons.mpr ⟨by decide, plain _ _ written⟩

theorem ofDigits_lt_of_shows (large : 1 < base) {digits : List Nat}
    (shown : List.Forall₂ (Shows base) chars digits) :
    Nat.ofDigits base digits.reverse < base ^ digits.length := by
  have below : ∀ digit ∈ digits, digit < base :=
    forall_mem_of_forall₂ shown.flip fun _ _ shows => shows.below
  rw [← List.length_reverse]
  exact Nat.ofDigits_lt_base_pow_length large
    fun digit member => below digit (List.mem_reverse.mp member)

end CarMachine.Text
