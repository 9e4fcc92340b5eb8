import CarMachine.Registers.Basic
import CarMachine.Text.Basic
import Mathlib.Algebra.Group.Int.Defs

namespace CarMachine

/-! Reading numbers that have been written.

The digits of a number come from the last one up, and the reader takes them from the first
one down; what they meet at is the number without its last digit.
-/

namespace Text

variable {base value digit number : Nat} {char : Char} {chars first second : List Char}

/-- A digit of base sixteen is a digit of every smaller base in which it has its value. -/
theorem digitValue?_of_below (below : digit < base) (read : digitValue? 16 char = some digit) :
    digitValue? base char = some digit := by
  simp only [digitValue?, Option.filter_eq_some_iff] at read ⊢
  exact ⟨read.1, decide_eq_true below⟩

theorem digitValue?_digitChar (small : base ≤ 16) (below : digit < base) :
    digitValue? base digit.digitChar = some digit := by
  have each : ∀ digit < 16, digitValue? 16 digit.digitChar = some digit := by decide
  exact digitValue?_of_below below (each digit (by omega))

theorem digitsAfter?_append : digitsAfter? base value (first ++ second) =
    (digitsAfter? base value first).bind fun value => digitsAfter? base value second := by
  induction first generalizing value with
  | nil => rfl
  | cons char rest ih =>
      cases known : digitValue? base char with
      | none => simp [digitsAfter?, known]
      | some digit => simp [digitsAfter?, known, ih]

/-- A number is read from digits of its base alone. -/
theorem digitValue?_of_mem (read : digitsAfter? base value chars = some number)
    (member : char ∈ chars) : ∃ digit, digitValue? base char = some digit := by
  induction chars generalizing value with
  | nil => contradiction
  | cons first rest ih =>
      cases known : digitValue? base first with
      | none => simp [digitsAfter?, known] at read
      | some digit =>
          simp only [digitsAfter?, known] at read
          rcases List.mem_cons.mp member with same | later
          · exact ⟨digit, same ▸ known⟩
          · exact ih read later

theorem digitsAfter?_toDigits (large : 1 < base) (small : base ≤ 16) (number : Nat) :
    digitsAfter? base 0 (Nat.toDigits base number) = some number := by
  -- The digits before the last one are those of the quotient.
  induction number using Nat.strongRecOn with
  | ind number ih =>
      by_cases single : number < base
      · rw [Nat.toDigits_of_lt_base single]
        simp [digitsAfter?, digitValue?_digitChar small single]
      · have split := Nat.div_add_mod number base
        have below : number % base < base := Nat.mod_lt number (by omega)
        have shorter : number / base < number := Nat.div_lt_self (by omega) large
        rw [Nat.toDigits_of_base_le large (by omega), digitsAfter?_append, ih _ shorter]
        simp only [Option.bind_some, digitsAfter?, digitValue?_digitChar small below]
        rw [Nat.mul_comm, split]

theorem digitsAfter?_zeros (large : 0 < base) (count : Nat) :
    digitsAfter? base 0 (List.replicate count '0' ++ chars) = digitsAfter? base 0 chars := by
  induction count with
  | zero => rfl
  | succ count ih =>
      have zero : digitValue? base '0' = some 0 := by simp [digitValue?, large]
      simpa [List.replicate_succ, digitsAfter?, zero] using ih

theorem digitsValue?_of_ne_nil (nonempty : chars ≠ []) :
    digitsValue? base chars = digitsAfter? base 0 chars := by
  rw [digitsValue?, if_neg (by simpa using nonempty)]

theorem digitsValue?_toDigits (large : 1 < base) (small : base ≤ 16) (number : Nat) :
    digitsValue? base (Nat.toDigits base number) = some number := by
  rw [digitsValue?_of_ne_nil Nat.toDigits_ne_nil, digitsAfter?_toDigits large small]

theorem toList_decimal (number : Nat) : (decimal number).toList = Nat.toDigits 10 number :=
  String.toList_ofList

theorem isDigit_of_mem_decimal (member : char ∈ (decimal number).toList) :
    char.isDigit = true := by
  rw [toList_decimal] at member
  exact Nat.isDigit_of_mem_toDigits (by decide) (by decide) member

/-- Digits that are written without a sign are read without one. -/
theorem signed?_of_digits (digits : ∀ char ∈ chars, char.isDigit = true) :
    signed? chars = (digitsValue? 10 chars).map Int.ofNat := by
  cases chars with
  | nil => rfl
  | cons char rest =>
      have first := digits char (by simp)
      have minus : char ≠ '-' := fun same => by simp [same] at first
      have plus : char ≠ '+' := fun same => by simp [same] at first
      simp [signed?, unsigned?, withoutPlus, minus, plus]

theorem signed?_decimalInt (number : Int) : signed? (decimalInt number).toList = some number := by
  cases number with
  | ofNat value =>
      rw [decimalInt, signed?_of_digits fun char => isDigit_of_mem_decimal, toList_decimal,
        digitsValue?_toDigits (by decide) (by decide)]
      rfl
  | negSucc value =>
      rw [decimalInt, String.toList_append, toList_decimal]
      simp [signed?, digitsValue?_toDigits, Int.negSucc_eq]

theorem toList_decimal_ne_nil (number : Nat) : (decimal number).toList ≠ [] := by
  rw [toList_decimal]
  exact Nat.toDigits_ne_nil

theorem toList_decimalInt_ne_nil (number : Int) : (decimalInt number).toList ≠ [] := by
  cases number with
  | ofNat value => exact toList_decimal_ne_nil value
  | negSucc value => simp [decimalInt]

theorem not_mem_decimal (other : char.isDigit = false) : char ∉ (decimal number).toList := by
  intro member
  rw [isDigit_of_mem_decimal member] at other
  contradiction

theorem not_mem_decimalInt {number : Int} (other : char.isDigit = false) (unsigned : char ≠ '-') :
    char ∉ (decimalInt number).toList := by
  cases number with
  | ofNat value => exact not_mem_decimal other
  | negSucc value =>
      rw [decimalInt, String.toList_append, List.mem_append, not_or]
      exact ⟨by simpa using unsigned, not_mem_decimal other⟩

end Text

namespace Value

variable {number : Int} {bits : Nat} {value : Int32}

theorem ofInt?_toInt (value : Int32) : ofInt? value.toInt = some value := by
  rw [ofInt?, if_pos ⟨value.minValue_le_toInt, value.toInt_le⟩, Int32.ofInt_toInt]

theorem ofInt?_eq_some_iff : ofInt? number = some value ↔ value.toInt = number := by
  constructor
  · exact toInt_of_ofInt?
  · intro exact
    rw [← exact, ofInt?_toInt]

theorem ofInt?_eq_none_iff : ofInt? number = none ↔ number < -2 ^ 31 ∨ 2 ^ 31 ≤ number := by
  have least : Int32.minValue.toInt = -2 ^ 31 := by decide
  have greatest : Int32.maxValue.toInt = 2 ^ 31 - 1 := by decide
  rw [ofInt?, least, greatest]
  split
  · simp only [reduceCtorEq, false_iff]
    omega
  · simp only [true_iff]
    omega

theorem ofBits?_eq_some_iff : ofBits? bits = some value ↔ value.toBitVec.toNat = bits := by
  rw [ofBits?, Option.ite_none_right_eq_some, Option.some.injEq]
  constructor
  · rintro ⟨small, rfl⟩
    exact Nat.mod_eq_of_lt small
  · rintro rfl
    refine ⟨value.toBitVec.isLt, ?_⟩
    rw [BitVec.ofNat_toNat, BitVec.setWidth_eq, Int32.ofBitVec_toBitVec]

end Value

end CarMachine
