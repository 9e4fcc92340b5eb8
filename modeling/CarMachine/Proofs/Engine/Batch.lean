import CarMachine.Proofs.Engine.Vehicle
import Mathlib.Algebra.Order.BigOperators.Group.List

namespace CarMachine

/-! Changes to the car in batches.

Three instructions add their operand to a car register and cut the sum off at two limits.
Changes that all go the same way meet at most one of the limits, and once they have met it they
stay there.  So it is enough to cut off the whole sum.
-/

namespace Vehicle

/-- A car register that an instruction changes by its operand, between two limits. -/
structure Dial where
  operation : Operation
  register : CarRegister
  least : Int
  greatest : Int

def dials : List Dial :=
  [{ operation := .throttle, register := .speed, least := 0, greatest := 2 ^ 31 - 1 },
    { operation := .steer, register := .steer, least := -90, greatest := 90 },
    { operation := .fillGas, register := .fuel, least := 0, greatest := 100 }]

namespace Dial

variable {dial : Dial} {current first later : Int}

def Within (dial : Dial) (value : Int) : Prop :=
  dial.least ≤ value ∧ value ≤ dial.greatest

instance (dial : Dial) (value : Int) : Decidable (dial.Within value) :=
  inferInstanceAs (Decidable (_ ∧ _))

def clamp (dial : Dial) (value : Int) : Int :=
  max dial.least (min value dial.greatest)

theorem clamp_of_within (inside : dial.Within current) : dial.clamp current = current := by
  obtain ⟨lower, upper⟩ := inside
  rw [clamp, min_eq_left upper, max_eq_right lower]

theorem within_clamp (inside : dial.Within current) (value : Int) :
    dial.Within (dial.clamp value) := by
  obtain ⟨lower, upper⟩ := inside
  exact ⟨le_max_left _ _, max_le (lower.trans upper) (min_le_right _ _)⟩

/-- A change that goes the same way as all later ones need not be cut off. -/
theorem clamp_clamp_add (inside : dial.Within current)
    (oneWay : 0 ≤ first ∧ 0 ≤ later ∨ first ≤ 0 ∧ later ≤ 0) :
    dial.clamp (dial.clamp (current + first) + later) =
      dial.clamp (current + (first + later)) := by
  obtain ⟨lower, upper⟩ := inside
  simp only [clamp]
  omega

end Dial

theorem sets_of_mem_dials {dial : Dial} (listed : dial ∈ dials) : ∃ line,
    dial.operation.Sets dial.register (fun current change => dial.clamp (current + change))
      line := by
  simp only [dials, List.mem_cons, List.not_mem_nil, or_false] at listed
  rcases listed with rfl | rfl | rfl
  case inl => exact ⟨_, sets_of_mem_rules rules[0] (List.getElem_mem _)⟩
  case inr.inl => exact ⟨_, sets_of_mem_rules rules[2] (List.getElem_mem _)⟩
  case inr.inr => exact ⟨_, sets_of_mem_rules rules[7] (List.getElem_mem _)⟩

end Vehicle

namespace Engine

/-- An amount for a register, and a word that is stepped once the amount is there. -/
structure Change where
  slot : Nat
  amount : Int32
  word : Word

/-- The word is that of the instruction that turns a dial, with a register for its operand that
is no car register. -/
structure Change.Turns (change : Change) (table : Table) (dial : Vehicle.Dial) : Prop where
  decoded : ∃ decoded, table.decode change.word = .ok decoded ∧
    decoded.mnemonic = CarAssembly.mnemonicOf dial.operation ∧
    decoded.entry.template.slotOf .destination change.word = change.slot
  general : ∀ register : CarRegister, change.slot ≠ register.slot

/-- The engine after a change: the amount is put into its register and the word is stepped.
There is none if the register is not there or the word does not retire. -/
def turn? (engine : Engine) (change : Change) : Option Engine :=
  match engine.registers.write change.slot change.amount with
  | .error _ => none
  | .ok registers =>
      match { engine with registers }.step change.word with
      | (.retired _, next) => some next
      | (.failed _, _) | (.crashed _, _) => none

def turnAll? (engine : Engine) (changes : List Change) : Option Engine :=
  changes.foldlM turn? engine

variable {engine : Engine} {change : Change} {changes : List Change} {dial : Vehicle.Dial}
  {current : Int32}

theorem Made.write (made : engine.Made) {slot : Nat} {value : Int32} {registers : Registers}
    (written : engine.registers.write slot value = .ok registers) :
    { engine with registers }.Made := by
  refine ⟨made.table, ?_⟩
  rw [Registers.size_of_write written]
  exact made.start

theorem turn?_of_retired {registers : Registers} {outcome : Outcome}
    (written : engine.registers.write change.slot change.amount = .ok registers)
    (retired : ({ engine with registers }.step change.word).1 = .retired outcome) :
    engine.turn? change = some ({ engine with registers }.step change.word).2 := by
  cases stepped : { engine with registers }.step change.word with
  | mk result next =>
      rw [stepped] at retired
      cases retired
      simp only [turn?, written, stepped]

theorem Made.turn? (made : engine.Made) (builtIn : engine.table = CarAssembly.table)
    (listed : dial ∈ Vehicle.dials) (turns : change.Turns engine.table dial)
    (own : engine.registers.readCar dial.register = .ok current) :
    ∃ next result, engine.turn? change = some next ∧ next.Made ∧ next.table = engine.table ∧
      next.registers.readCar dial.register = .ok result ∧
      result.toInt = dial.clamp (current.toInt + change.amount.toInt) := by
  obtain ⟨decoded, accepted, named, slot⟩ := turns.decoded
  have legal := made.table.legal_of_decode accepted
  have inside := made.register_lt legal FieldRole.destination.position
    (by simp [FieldRole.position])
  rw [made.table.register_of_decode accepted, slot] at inside
  obtain ⟨registers, written⟩ := Registers.write_exists change.amount inside
  have seeded := made.write written
  obtain ⟨line, sets⟩ := Vehicle.sets_of_mem_dials listed
  have member := legal.member
  rw [builtIn] at member
  rw [← CarAssembly.operation_of_mnemonic member _ named] at sets
  -- the operand is the amount, and the car register is not touched by it
  obtain ⟨operand, before, result, amount, alsoOwn, exact, stores⟩ :=
    seeded.stores_of_sets accepted sets
  simp only [slot, Registers.readCar, Registers.read_of_write written, if_true,
    if_neg (turns.general dial.register).symm, Except.ok.injEq] at amount alsoOwn
  rw [Registers.readCar, alsoOwn, Except.ok.injEq] at own
  refine ⟨({ engine with registers }.step change.word).2, result, ?next, ?made, ?table, ?value,
    by rw [exact, own, amount]⟩
  case next => exact turn?_of_retired written stores.retired
  case made => exact seeded.answer (.step change.word)
  case table => exact ({ engine with registers }.answer_keeps (.step change.word)).1
  case value => exact stores.written _ (List.mem_singleton_self _)

theorem Made.turnAll? (made : engine.Made) (builtIn : engine.table = CarAssembly.table)
    (listed : dial ∈ Vehicle.dials)
    (turns : ∀ change ∈ changes, change.Turns CarAssembly.table dial)
    (oneWay : (∀ change ∈ changes, 0 ≤ change.amount.toInt) ∨
      ∀ change ∈ changes, change.amount.toInt ≤ 0)
    (own : engine.registers.readCar dial.register = .ok current)
    (inside : dial.Within current.toInt) :
    ∃ last result, engine.turnAll? changes = some last ∧
      last.registers.readCar dial.register = .ok result ∧
      result.toInt =
        dial.clamp (current.toInt + (changes.map fun change => change.amount.toInt).sum) := by
  induction changes generalizing engine current with
  | nil =>
      refine ⟨engine, current, rfl, own, ?_⟩
      rw [List.map_nil, List.sum_nil, add_zero, Vehicle.Dial.clamp_of_within inside]
  | cons change rest ih =>
      rw [List.forall_mem_cons] at turns
      rw [List.forall_mem_cons, List.forall_mem_cons] at oneWay
      obtain ⟨next, middle, turned, nextMade, table, read, held⟩ :=
        made.turn? builtIn listed (by rw [builtIn]; exact turns.1) own
      have still : dial.Within middle.toInt := by
        rw [held]
        exact Vehicle.Dial.within_clamp inside _
      obtain ⟨last, result, completed, left, total⟩ :=
        ih nextMade (table.trans builtIn) turns.2 (oneWay.imp And.right And.right) read still
      refine ⟨last, result, ?_, left, ?_⟩
      · rw [Engine.turnAll?, List.foldlM_cons, turned]
        exact completed
      · have signs := oneWay.imp
          (fun upward => And.intro upward.1 (List.sum_nonneg (List.forall_mem_map.mpr upward.2)))
          (fun downward => And.intro downward.1 <|
            (List.sum_le_card_nsmul _ 0 (List.forall_mem_map.mpr downward.2)).trans_eq
              (nsmul_zero _))
        rw [total, held, Vehicle.Dial.clamp_clamp_add inside signs, List.map_cons, List.sum_cons]

/-- Changes that all go the same way can be made in any order.  What they leave behind is the
exact sum, cut off once. -/
theorem turnAll?_sum {amounts : List Int32} (made : engine.Made)
    (builtIn : engine.table = CarAssembly.table) (listed : dial ∈ Vehicle.dials)
    (oneWay : (∀ amount ∈ amounts, 0 ≤ amount) ∨ ∀ amount ∈ amounts, amount ≤ 0)
    (own : engine.registers.readCar dial.register = .ok current)
    (inside : dial.Within current.toInt)
    (turns : ∀ change ∈ changes, change.Turns CarAssembly.table dial)
    (ordered : (changes.map (·.amount)).Perm amounts) :
    ∃ last result, engine.turnAll? changes = some last ∧
      last.registers.readCar dial.register = .ok result ∧
      result.toInt = dial.clamp (current.toInt + (amounts.map (·.toInt)).sum) := by
  simp only [← ordered.mem_iff, List.forall_mem_map, Int32.le_iff_toInt_le,
    Int32.toInt_zero] at oneWay
  rw [← (ordered.map Int32.toInt).sum_eq, List.map_map]
  exact made.turnAll? builtIn listed turns oneWay own inside

/-- A word for `throttle` with the greatest amount that its register can hold. -/
def fullThrottle : Change where
  slot := 8
  amount := Int32.maxValue
  word := 0x01000010

theorem fullThrottle_turns : fullThrottle.Turns CarAssembly.table Vehicle.dials[0] := by
  let decoded : Decoded := {
    word := some 0x01000010
    entry := CarAssembly.entries[10]
    operands := ⟨[8], by decide⟩ }
  constructor
  case decoded =>
    refine ⟨decoded, ?_, rfl, by decide⟩
    rw [CarAssembly.table_eq_expanded]
    decide +kernel
  case general =>
    intro register
    cases register <;> decide

/-- Three times full throttle is more than 32 bits can hold. -/
theorem turnAll?_sum_persistent :
    persistent.registers.readCar .speed = .ok 0 ∧
    ∃ last, persistent.turnAll? (List.replicate 3 fullThrottle) = some last ∧
      last.registers.readCar .speed = .ok Int32.maxValue := by
  have listed : Vehicle.dials[0] ∈ Vehicle.dials := List.getElem_mem _
  have own : persistent.registers.readCar Vehicle.dials[0].register = .ok 0 := by rfl
  have turns : ∀ change ∈ List.replicate 3 fullThrottle,
      change.Turns CarAssembly.table Vehicle.dials[0] := by
    intro change member
    rw [List.eq_of_mem_replicate member]
    exact fullThrottle_turns
  have ordered : ((List.replicate 3 fullThrottle).map (·.amount)).Perm
      (List.replicate 3 Int32.maxValue) := .refl _
  have upward : ∀ amount ∈ List.replicate 3 Int32.maxValue, 0 ≤ amount := by
    intro amount member
    rw [List.eq_of_mem_replicate member]
    decide
  obtain ⟨last, result, turned, read, total⟩ :=
    turnAll?_sum persistent_made persistent_builtIn listed (.inl upward) own (by decide) turns
      ordered
  have greatest : result = Int32.maxValue := Int32.toInt_inj.mp total
  exact ⟨own, last, turned, greatest ▸ read⟩

end Engine

end CarMachine
