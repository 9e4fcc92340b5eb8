import CarMachine.Word
import Mathlib.Algebra.Group.Nat.Defs

namespace CarMachine.BitField

/-! Reading and placing the values of fields.

A field reads nothing but the bits of its mask and places nothing outside it.  So fields
with disjoint masks do not disturb each other, and a value that fits its field is read
back as it was placed.
-/

variable {field first second : BitField} {word value mask : Word} {index : Nat}

theorem getLsbD_lowMask :
    field.lowMask.getLsbD index = decide (index < 32 ∧ index < field.width) := by
  rw [lowMask, BitVec.getLsbD_ushiftRight, BitVec.getLsbD_allOnes, decide_eq_decide]
  omega

theorem getLsbD_mask : field.mask.getLsbD index =
    decide (index < 32 ∧ field.shift ≤ index ∧ index < field.shift + field.width) := by
  rw [mask, BitVec.getLsbD_shiftLeft, getLsbD_lowMask]
  simp only [← decide_not, ← Bool.decide_and, decide_eq_decide]
  omega

theorem getLsbD_read : (field.read word).getLsbD index =
    (word.getLsbD (field.shift + index) && decide (index < field.width)) := by
  rw [read, BitVec.getLsbD_and, BitVec.getLsbD_ushiftRight, getLsbD_lowMask]
  by_cases bound : index < 32
  · simp [bound]
  · simp [BitVec.getLsbD_of_ge word (field.shift + index) (by omega)]

theorem getLsbD_place : (field.place value).getLsbD index =
    (field.mask.getLsbD index && value.getLsbD (index - field.shift)) := by
  rw [place, BitVec.getLsbD_shiftLeft, BitVec.getLsbD_and, getLsbD_lowMask, getLsbD_mask]
  cases value.getLsbD (index - field.shift) with
  | false => simp only [Bool.false_and, Bool.and_false]
  | true =>
      simp only [Bool.true_and, Bool.and_true, ← decide_not, ← Bool.decide_and,
        decide_eq_decide]
      omega

/-- Reading looks at the bits of the mask only. -/
theorem read_and_mask (field : BitField) (word : Word) :
    field.read (word &&& field.mask) = field.read word := by
  apply BitVec.eq_of_getLsbD_eq
  intro index _
  rw [getLsbD_read, getLsbD_read, BitVec.getLsbD_and, getLsbD_mask]
  cases set : word.getLsbD (field.shift + index) with
  | false => rfl
  | true =>
      have bound := BitVec.lt_of_getLsbD set
      by_cases within : index < field.width <;> simp [bound, within]

theorem read_eq_of_and_mask (same : word &&& field.mask = value &&& field.mask) :
    field.read word = field.read value := by
  rw [← read_and_mask field word, same, read_and_mask]

/-- Placing sets no bit outside the mask. -/
theorem place_and_of_disjoint (value : Word) (disjoint : field.mask &&& mask = 0#32) :
    field.place value &&& mask = 0#32 := by
  apply BitVec.eq_of_getLsbD_eq
  intro index _
  have here := congrArg (BitVec.getLsbD · index) disjoint
  simp only [BitVec.getLsbD_and, BitVec.getLsbD_zero, Bool.and_eq_false_iff] at here
  rw [BitVec.getLsbD_and, getLsbD_place]
  rcases here with outside | outside <;> simp [outside]

theorem place_read (field : BitField) (word : Word) :
    field.place (field.read word) = word &&& field.mask := by
  apply BitVec.eq_of_getLsbD_eq
  intro index _
  rw [getLsbD_place, getLsbD_read, BitVec.getLsbD_and, getLsbD_mask]
  by_cases within : field.shift ≤ index ∧ index < field.shift + field.width
  · rw [Nat.add_sub_cancel' within.1]
    have low : index - field.shift < field.width := by omega
    simp [within, low, Bool.and_comm]
  · simp [within]

theorem read_place (field : BitField) (value : Word) : field.read (field.place value) =
    value &&& field.lowMask &&& (BitVec.allOnes 32 >>> field.shift) := by
  apply BitVec.eq_of_getLsbD_eq
  intro index _
  simp only [getLsbD_read, getLsbD_place, getLsbD_mask, BitVec.getLsbD_and, getLsbD_lowMask,
    BitVec.getLsbD_ushiftRight, BitVec.getLsbD_allOnes, Nat.add_sub_cancel_left]
  cases value.getLsbD index
  · simp
  · simp only [Bool.and_true, Bool.true_and, ← Bool.decide_and, decide_eq_decide]
    omega

theorem fits_iff : field.fits value = true ↔ value &&& field.lowMask = value := by
  rw [fits, beq_iff_eq, BitVec.ofNat_eq_ofNat]
  constructor
  · intro clear
    apply BitVec.eq_of_getLsbD_eq
    intro index bound
    have here := congrArg (BitVec.getLsbD · index) clear
    simp only [BitVec.getLsbD_and, BitVec.getLsbD_not, bound, decide_true, Bool.true_and,
      BitVec.getLsbD_zero] at here
    rw [BitVec.getLsbD_and]
    cases set : value.getLsbD index <;> simp_all
  · intro within
    rw [← within, BitVec.and_assoc, BitVec.and_not_self, BitVec.ofNat_eq_ofNat,
      BitVec.and_zero]

/-- A value fits if the width is enough to write it down. -/
theorem fits_iff_lt : field.fits value = true ↔ value.toNat < 2 ^ field.width := by
  rw [fits_iff]
  constructor
  · intro within
    apply Nat.lt_pow_two_of_testBit
    intro index beyond
    have here := congrArg (BitVec.getLsbD · index) within
    simp only [BitVec.getLsbD_and, getLsbD_lowMask] at here
    change value.getLsbD index = false
    rw [← here, decide_eq_false (by omega), Bool.and_false]
  · intro small
    apply BitVec.eq_of_getLsbD_eq
    intro index bound
    rw [BitVec.getLsbD_and, getLsbD_lowMask]
    by_cases below : index < field.width
    · simp [bound, below]
    · have clear : value.getLsbD index = false :=
        Nat.testBit_lt_two_pow
          (Nat.lt_of_lt_of_le small (Nat.pow_le_pow_right (by decide) (by omega)))
      simp [clear]

theorem fits_read (field : BitField) (word : Word) : field.fits (field.read word) = true := by
  rw [fits_iff, read, BitVec.and_assoc, BitVec.and_self]

/-- A value that fits a field inside the word is read back. -/
theorem read_place_of_fits (inside : field.shift + field.width ≤ 32)
    (fitting : field.fits value = true) : field.read (field.place value) = value := by
  rw [read_place, fits_iff.mp fitting]
  apply BitVec.eq_of_getLsbD_eq
  intro index _
  have here := congrArg (BitVec.getLsbD · index) (fits_iff.mp fitting)
  simp only [BitVec.getLsbD_and, getLsbD_lowMask] at here
  rw [BitVec.getLsbD_and, BitVec.getLsbD_ushiftRight, BitVec.getLsbD_allOnes]
  cases set : value.getLsbD index with
  | false => rfl
  | true =>
      simp only [set, Bool.true_and, decide_eq_true_eq] at here ⊢
      omega

/-- Placing into one field does not disturb another. -/
theorem read_or_place (apart : first.mask &&& second.mask = 0#32) (word value : Word) :
    second.read (word ||| first.place value) = second.read word := by
  apply read_eq_of_and_mask
  rw [BitVec.and_or_distrib_right, place_and_of_disjoint value apart, BitVec.or_zero]

/-- Reading and placing are exact for every place and every width of a field, also where the
field runs past the last bit of the word.  Placing what was read keeps the bits of the mask;
reading what was placed keeps the low bits that the field has and that the word has room for. -/
theorem placement_exact (field : BitField) :
    (∀ index, field.lowMask.getLsbD index = true ↔ index < 32 ∧ index < field.width) ∧
    (∀ index, field.mask.getLsbD index = true ↔
      index < 32 ∧ field.shift ≤ index ∧ index < field.shift + field.width) ∧
    (∀ word, field.place (field.read word) = word &&& field.mask) ∧
    (∀ value, field.read (field.place value) =
      value &&& field.lowMask &&& (BitVec.allOnes 32 >>> field.shift)) ∧
    (∀ value : Word, value.toNat < 2 ^ field.width → field.shift + field.width ≤ 32 →
      field.read (field.place value) = value) ∧
    ∀ other : BitField, field.mask &&& other.mask = 0#32 →
      ∀ word value, other.read (word ||| field.place value) = other.read word := by
  refine ⟨?lowMask, ?mask, field.place_read, field.read_place, ?fitting, ?apart⟩
  case lowMask => simp only [getLsbD_lowMask, decide_eq_true_eq, implies_true]
  case mask => simp only [getLsbD_mask, decide_eq_true_eq, implies_true]
  case fitting =>
    intro value small inside
    exact read_place_of_fits inside (fits_iff_lt.mpr small)
  case apart => exact fun other apart => read_or_place apart

/-- A field of which half is past the last bit holds half of the value, and two register
fields side by side do not disturb each other. -/
theorem placement_exact_overhanging :
    read ⟨.target, 24, 16⟩ (place ⟨.target, 24, 16⟩ 0xABCD) = 0xCD ∧
    read ⟨.source, 21, 5⟩ (place ⟨.source, 21, 5⟩ 31) = 31 ∧
    ∀ word value, read ⟨.destination, 16, 5⟩ (word ||| place ⟨.source, 21, 5⟩ value) =
      read ⟨.destination, 16, 5⟩ word := by
  obtain ⟨_, _, _, overhanging, _, _⟩ := placement_exact ⟨.target, 24, 16⟩
  obtain ⟨_, _, _, _, fitting, apart⟩ := placement_exact ⟨.source, 21, 5⟩
  exact ⟨(overhanging 0xABCD).trans (by decide), fitting 31 (by decide) (by decide),
    apart ⟨.destination, 16, 5⟩ (by decide)⟩

end CarMachine.BitField
