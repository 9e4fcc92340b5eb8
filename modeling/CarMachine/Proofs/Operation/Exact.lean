import CarMachine.Proofs.Operation.Results
import Mathlib.Data.Int.ModEq

namespace CarMachine

/-! Operations in exact integers.

The operations compute with 32-bit numbers.  Here stands what they mean for the integers that
these numbers are: results up to a multiple of 2^32, sums cut off at limits, and lines with the
new value in decimal.
-/

namespace Value

/-- Each integer is congruent to one signed 32-bit number only. -/
theorem eq_of_modEq {first second : Int32}
    (same : first.toInt ≡ second.toInt [ZMOD 2 ^ 32]) : first = second := by
  have firstLeast := first.le_toInt
  have firstGreatest := first.toInt_lt
  have secondLeast := second.le_toInt
  have secondGreatest := second.toInt_lt
  rw [Int.ModEq] at same
  exact Int32.toInt_inj.mp (by omega)

theorem bmod_modEq (number : Int) : number.bmod (2 ^ 32) ≡ number [ZMOD 2 ^ 32] :=
  Int.bmod_emod

end Value

/-- The signed number that sixteen bits stand for. -/
def Word.signedImmediate (number : Nat) : Int :=
  if number < 2 ^ 15 then number else number - 2 ^ 16

theorem Word.toInt_signedLowHalf {word : Word} (small : word.toNat < 2 ^ 16) :
    word.signedLowHalf.toInt = signedImmediate word.toNat := by
  have kept : (word.setWidth 16).toNat = word.toNat := by
    rw [BitVec.toNat_setWidth, Nat.mod_eq_of_lt small]
  rw [signedLowHalf, Int32.toInt_ofBitVec, BitVec.toInt_signExtend_of_le (by decide),
    BitVec.toInt_eq_toNat_cond, kept, signedImmediate]
  split <;> split <;> omega

namespace Arithmetic

variable {kind : Arithmetic} {source target result : Int32}

/-- What the result of an operation has to be.  Sums, differences, products and quotients are
those of the integers, up to a multiple of 2^32; the logical operations go bit by bit. -/
def Exact (source target result : Int32) : Arithmetic → Prop
  | .add => result.toInt ≡ source.toInt + target.toInt [ZMOD 2 ^ 32]
  | .sub => result.toInt ≡ source.toInt - target.toInt [ZMOD 2 ^ 32]
  | .mul => result.toInt ≡ source.toInt * target.toInt [ZMOD 2 ^ 32]
  | .div =>
      if target = 0 then result = 0
      else result.toInt ≡ source.toInt.tdiv target.toInt [ZMOD 2 ^ 32]
  | .and => ∀ bit, result.toBitVec.getLsbD bit =
      (source.toBitVec.getLsbD bit && target.toBitVec.getLsbD bit)
  | .or => ∀ bit, result.toBitVec.getLsbD bit =
      (source.toBitVec.getLsbD bit || target.toBitVec.getLsbD bit)
  | .xor => ∀ bit, result.toBitVec.getLsbD bit =
      (source.toBitVec.getLsbD bit ^^ target.toBitVec.getLsbD bit)
  | .lessThan => result.toInt = if source.toInt < target.toInt then 1 else 0

theorem exact_apply : kind.Exact source target (kind.apply source target) := by
  cases kind with
  | add => simpa only [Exact, apply, Int32.toInt_add] using Value.bmod_modEq _
  | sub => simpa only [Exact, apply, Int32.toInt_sub] using Value.bmod_modEq _
  | mul => simpa only [Exact, apply, Int32.toInt_mul] using Value.bmod_modEq _
  | div =>
      simp only [Exact, apply]
      split
      · rename_i zero
        rw [zero, Int32.div_zero]
      · simpa only [Int32.toInt_div] using Value.bmod_modEq _
  | and | or | xor => intro bit; simp [apply]
  | lessThan =>
      simp only [Exact, apply, Int32.lt_iff_toInt_lt]
      split <;> rfl

theorem Exact.unique {other : Int32} (exact : kind.Exact source target result)
    (alsoExact : kind.Exact source target other) : result = other := by
  cases kind with
  | add | sub | mul => exact Value.eq_of_modEq (exact.trans alsoExact.symm)
  | div =>
      simp only [Exact] at exact alsoExact
      split at exact
      · rename_i zero
        rw [if_pos zero] at alsoExact
        rw [exact, alsoExact]
      · rename_i nonzero
        rw [if_neg nonzero] at alsoExact
        exact Value.eq_of_modEq (exact.trans alsoExact.symm)
  | and | or | xor =>
      apply Int32.toBitVec_inj.mp
      apply BitVec.eq_of_getLsbD_eq
      intro bit _
      rw [exact bit, alsoExact bit]
  | lessThan => exact Int32.toInt_inj.mp (Eq.trans exact alsoExact.symm)

/-- The integers leave no choice of the result. -/
theorem exact_iff : kind.Exact source target result ↔ result = kind.apply source target := by
  constructor
  · intro exact
    exact exact.unique exact_apply
  · intro computed
    rw [computed]
    exact exact_apply

end Arithmetic

theorem Text.decimalInt_eq_toString (number : Int) : decimalInt number = toString number := by
  cases number <;> rfl

namespace Vehicle

variable {low high : Int32}

theorem toInt_clamp (ordered : low ≤ high) (value : Int) :
    (clamp value low high).toInt = max low.toInt (min value high.toInt) := by
  rw [Int32.le_iff_toInt_le] at ordered
  have least := low.le_toInt
  have greatest := high.toInt_lt
  simp only [clamp]
  split
  · omega
  · split
    · omega
    · rw [Int32.toInt_ofInt_of_le (by omega) (by omega)]
      omega

end Vehicle

end CarMachine
