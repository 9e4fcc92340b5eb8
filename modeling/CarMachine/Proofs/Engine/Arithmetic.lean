import CarMachine.Proofs.Engine.Retirement
import CarMachine.Proofs.Operation.Exact

namespace CarMachine

/-! Arithmetic and logic, word by word.

The registers that a word names are read before its destination is written, so the values in
question are those before the step, also if the destination is one of the operands.
-/

namespace Engine

variable {engine : Engine} {word : Word} {decoded : Decoded}

theorem Made.stores_arithmetic {kind : Arithmetic} (made : engine.Made)
    (accepted : engine.table.decode word = .ok decoded)
    (direct : ¬ decoded.entry.template.TakesImmediate)
    (bound : decoded.entry.operation = .arithmetic kind) :
    ∃ source target,
      engine.registers.read (decoded.entry.template.slotOf .source word) = .ok source ∧
      engine.registers.read (decoded.entry.template.slotOf .target word) = .ok target ∧
      engine.Stores word ⟨decoded.mnemonic, none⟩
        [⟨decoded.entry.template.slotOf .destination word, kind.apply source target⟩] := by
  obtain ⟨source, first⟩ := made.read_exists accepted .source fun _ => direct
  obtain ⟨target, second⟩ := made.read_exists accepted .target fun _ => direct
  have ran : decoded.entry.operation.run decoded.operands engine.registers = .ok {
      writes := [⟨decoded.operands.register FieldRole.destination.position,
        kind.apply source target⟩] } := by
    rw [bound]
    exact Operation.runArithmetic_eq_ok_iff.mpr ⟨source, target, first, second, rfl⟩
  rw [made.table.register_of_decode accepted] at first second ran
  exact ⟨source, target, first, second, made.stores accepted ran⟩

theorem Made.stores_move (made : engine.Made)
    (accepted : engine.table.decode word = .ok decoded)
    (bound : decoded.entry.operation = .move) :
    ∃ source,
      engine.registers.read (decoded.entry.template.slotOf .source word) = .ok source ∧
      engine.Stores word ⟨decoded.mnemonic, none⟩
        [⟨decoded.entry.template.slotOf .destination word, source⟩] := by
  obtain ⟨source, first⟩ := made.read_exists accepted .source (by simp)
  have ran : decoded.entry.operation.run decoded.operands engine.registers = .ok {
      writes := [⟨decoded.operands.register FieldRole.destination.position, source⟩] } := by
    rw [bound]
    exact Operation.runMove_eq_ok_iff.mpr ⟨source, first, rfl⟩
  rw [made.table.register_of_decode accepted] at first ran
  exact ⟨source, first, made.stores accepted ran⟩

theorem Made.toInt_immediate (made : engine.Made)
    (accepted : engine.table.decode word = .ok decoded) :
    (decoded.operands.value 2).signedLowHalf.toInt =
      Word.signedImmediate (decoded.entry.template.slotOf .target word) := by
  have built := made.table.built (made.table.legal_of_decode accepted).member
  have number : (decoded.operands.value 2).toNat = decoded.entry.template.slotOf .target word :=
    made.table.register_of_decode accepted .target
  have small := built.slotOf_lt .target word
  rw [← number] at small ⊢
  exact Word.toInt_signedLowHalf small

/-- A sum with an immediate number is stored if it fits, and otherwise nothing is. -/
theorem Made.stores_addImmediate (made : engine.Made)
    (accepted : engine.table.decode word = .ok decoded)
    (bound : decoded.entry.operation = .addImmediate) :
    ∃ source,
      engine.registers.read (decoded.entry.template.slotOf .source word) = .ok source ∧
      ((∃ sum, sum.toInt = source.toInt +
            Word.signedImmediate (decoded.entry.template.slotOf .target word) ∧
          engine.Stores word ⟨decoded.mnemonic, none⟩
            [⟨decoded.entry.template.slotOf .destination word, sum⟩]) ∨
        (source.toInt + Word.signedImmediate (decoded.entry.template.slotOf .target word) <
            -2 ^ 31 ∨
          2 ^ 31 ≤ source.toInt +
            Word.signedImmediate (decoded.entry.template.slotOf .target word)) ∧
        engine.step word = (.failed (.fault ⟨decoded.mnemonic, some word, .arithmeticOverflow⟩),
          engine)) := by
  obtain ⟨source, first⟩ := made.read_exists accepted .source (by simp)
  have immediate := made.toInt_immediate accepted
  cases fits : Value.ofInt? (source.toInt + (decoded.operands.value 2).signedLowHalf.toInt) with
  | some sum =>
      have exact := Value.ofInt?_eq_some_iff.mp fits
      have ran : decoded.entry.operation.run decoded.operands engine.registers = .ok {
          writes := [⟨decoded.operands.register FieldRole.destination.position, sum⟩] } := by
        rw [bound]
        exact Operation.runAddImmediate_eq_ok_iff.mpr ⟨source, sum, first, exact, rfl⟩
      rw [immediate] at exact
      rw [made.table.register_of_decode accepted] at first ran
      exact ⟨source, first, .inl ⟨sum, exact, made.stores accepted ran⟩⟩
  | none =>
      have outside := Value.ofInt?_eq_none_iff.mp fits
      have ran : decoded.entry.operation.run decoded.operands engine.registers =
          .error (.fault .arithmeticOverflow) := by
        rw [bound]
        exact Operation.runAddImmediate_eq_fault_iff.mpr ⟨source, first, outside⟩
      rw [immediate] at outside
      rw [made.table.register_of_decode accepted] at first
      exact ⟨source, first, .inr ⟨outside, step_of_fault accepted ran⟩⟩

/-- What the built-in instructions for arithmetic and logic do, in exact integers.  They write
their destination only and say nothing, and only a sum with an immediate number can fault. -/
theorem step_arithmetic_exact (made : engine.Made) (builtIn : engine.table = CarAssembly.table)
    (accepted : engine.table.decode word = .ok decoded) :
    (∀ kind, decoded.mnemonic = CarAssembly.mnemonicOf (.arithmetic kind) →
      ∃ source target result,
        engine.registers.read (decoded.entry.template.slotOf .source word) = .ok source ∧
        engine.registers.read (decoded.entry.template.slotOf .target word) = .ok target ∧
        (∀ other, kind.Exact source target other ↔ other = result) ∧
        engine.Stores word ⟨decoded.mnemonic, none⟩
          [⟨decoded.entry.template.slotOf .destination word, result⟩]) ∧
    (decoded.mnemonic = "move" →
      ∃ source,
        engine.registers.read (decoded.entry.template.slotOf .source word) = .ok source ∧
        engine.Stores word ⟨decoded.mnemonic, none⟩
          [⟨decoded.entry.template.slotOf .destination word, source⟩]) ∧
    (decoded.mnemonic = "addi" →
      ∃ source sum,
        engine.registers.read (decoded.entry.template.slotOf .source word) = .ok source ∧
        sum = source.toInt +
          Word.signedImmediate (decoded.entry.template.slotOf .target word) ∧
        (-2 ^ 31 ≤ sum ∧ sum < 2 ^ 31 → ∃ result : Int32, result.toInt = sum ∧
          engine.Stores word ⟨decoded.mnemonic, none⟩
            [⟨decoded.entry.template.slotOf .destination word, result⟩]) ∧
        (¬ (-2 ^ 31 ≤ sum ∧ sum < 2 ^ 31) → engine.step word =
          (.failed (.fault ⟨decoded.mnemonic, some word, .arithmeticOverflow⟩), engine))) := by
  have member := (made.table.legal_of_decode accepted).member
  rw [builtIn] at member
  refine ⟨?arithmetic, ?move, ?immediate⟩
  case arithmetic =>
    intro kind named
    have bound := CarAssembly.operation_of_mnemonic member _ named
    -- an immediate number in place of the target would not be a register
    have direct : ¬ decoded.entry.template.TakesImmediate := by
      intro immediate
      have sum := CarAssembly.operation_of_takesImmediate member immediate
      simp [bound] at sum
    obtain ⟨source, target, first, second, stores⟩ :=
      made.stores_arithmetic accepted direct bound
    exact ⟨source, target, _, first, second, fun _ => Arithmetic.exact_iff, stores⟩
  case move =>
    intro named
    exact made.stores_move accepted
      (CarAssembly.operation_of_mnemonic member .move named)
  case immediate =>
    intro named
    obtain ⟨source, first, done⟩ := made.stores_addImmediate accepted
      (CarAssembly.operation_of_mnemonic member .addImmediate named)
    refine ⟨source, _, first, rfl, ?_, ?_⟩
    · intro fits
      rcases done with stored | ⟨outside, _⟩
      · exact stored
      · omega
    · intro outside
      rcases done with ⟨sum, exact, _⟩ | ⟨_, faulted⟩
      · have least := sum.le_toInt
        have greatest := sum.toInt_lt
        omega
      · exact faulted

/-- An engine with the least number in `$t0` and minus one in `$t1`. -/
def lowest : Engine where
  table := CarAssembly.expanded
  config := {}
  registers := .ofSlots (((List.replicate Registers.defaultSize 0).set 8 Int32.minValue).set 9 (-1))

/-- The one quotient that does not fit in 32 bits, written over its dividend. -/
theorem step_arithmetic_exact_lowest : lowest.Made ∧ lowest.table = CarAssembly.table ∧
    (∃ decoded, lowest.table.decode 0x0109401A = .ok decoded ∧ decoded.mnemonic = "div") ∧
    lowest.Stores 0x0109401A ⟨"div", none⟩ [⟨8, Int32.minValue⟩] := by
  have builtIn : lowest.table = CarAssembly.table := CarAssembly.table_eq_expanded.symm
  have made : lowest.Made := by
    refine made_of_room ?_ rfl (Nat.le_refl _) (by decide)
    rw [builtIn]
    exact CarAssembly.table_reachable _
  let decoded : Decoded := {
    word := some 0x0109401A
    entry := CarAssembly.entries[5]
    operands := ⟨[8, 8, 9], by decide⟩ }
  have accepted : lowest.table.decode 0x0109401A = .ok decoded := by decide +kernel
  obtain ⟨source, target, result, first, second, exact, stores⟩ :=
    (step_arithmetic_exact made builtIn accepted).1 .div rfl
  have dividend : lowest.registers.read (decoded.entry.template.slotOf .source 0x0109401A) =
      .ok Int32.minValue := by
    decide +kernel
  have divisor : lowest.registers.read (decoded.entry.template.slotOf .target 0x0109401A) =
      .ok (-1) := by
    decide +kernel
  rw [dividend] at first
  rw [divisor] at second
  cases first
  cases second
  have overflow : Arithmetic.div.apply Int32.minValue (-1) = Int32.minValue := by
    decide +kernel
  have quotient := Arithmetic.exact_iff.mp ((exact result).mpr rfl)
  rw [overflow] at quotient
  rw [quotient] at stores
  exact ⟨made, builtIn, ⟨decoded, accepted, rfl⟩, stores⟩

end Engine

end CarMachine
