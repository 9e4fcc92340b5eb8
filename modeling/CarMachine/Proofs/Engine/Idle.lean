import CarMachine.Proofs.Engine.Append
import CarMachine.Proofs.Engine.Trace
import CarMachine.Proofs.Engine.Vehicle

namespace CarMachine

/-! Throttling by zero.

Whatever is added to the speed, the sum is cut off at zero.  With nothing to add this shows only
if the speed is negative.  A program can make it so, since arithmetic treats the slot of the speed
as any other.
-/

theorem Vehicle.sets_throttle : Operation.throttle.Sets .speed
    (fun speed change => max 0 (min (speed + change) (2 ^ 31 - 1)))
    (fun speed => some ("Your speed is now: " ++ toString speed ++ " \n")) :=
  sets_of_mem_rules rules[0] (List.getElem_mem _)

namespace Engine

variable {engine fresh : Engine} {config : Config} {words : List Word} {word : Word}
  {decoded : Decoded}

/-- With zero in its operand a throttle only cuts off the speed itself. -/
theorem Made.stores_idle (made : engine.Made) (builtIn : engine.table = CarAssembly.table)
    (accepted : engine.table.decode word = .ok decoded)
    (throttles : decoded.mnemonic = CarAssembly.mnemonicOf .throttle)
    (idle : engine.registers.read (decoded.entry.template.slotOf .destination word) = .ok 0) :
    ∃ speed floored outcome, engine.registers.readCar .speed = .ok speed ∧
      floored.toInt = max 0 speed.toInt ∧
      engine.Stores word outcome [⟨CarRegister.speed.slot, floored⟩] := by
  have member := (made.table.legal_of_decode accepted).member
  rw [builtIn] at member
  have bound := CarAssembly.operation_of_mnemonic member .throttle throttles
  obtain ⟨change, speed, floored, first, own, exact, stores⟩ :=
    made.stores_of_sets accepted (bound ▸ Vehicle.sets_throttle)
  rw [idle] at first
  cases first
  refine ⟨speed, floored, _, own, ?_, stores⟩
  have greatest := speed.toInt_lt
  rw [exact, Int32.toInt_zero]
  omega

theorem registers_eq_of_stores {outcome : Outcome} {slot : Nat} {value : Int32}
    (stores : engine.Stores word outcome [⟨slot, value⟩])
    (same : engine.registers.read slot = .ok value) :
    (engine.step word).2.registers = engine.registers := by
  refine Registers.ext (engine.answer_keeps (.step word)).2.2 fun other => ?_
  by_cases here : slot = other
  · rw [← here, same]
    exact stores.written _ (.head _)
  · exact stores.kept other (by simpa using here)

/-- Throttling by zero retires and leaves every register as it is, but for a negative speed,
which becomes zero. -/
theorem step_throttle_zero (made : make CarAssembly.table config = .ok fresh)
    (reached : fresh.after (words.map .step) = engine)
    (accepted : engine.table.decode word = .ok decoded)
    (throttles : decoded.mnemonic = "throttle")
    (idle : engine.registers.read (decoded.entry.template.slotOf .destination word) = .ok 0) :
    (engine.step word).1.isRetired = true ∧
    (∀ slot ≠ CarRegister.speed.slot,
      (engine.step word).2.registers.read slot = engine.registers.read slot) ∧
    ∃ speed, engine.registers.readCar .speed = .ok speed ∧
      (0 ≤ speed → (engine.step word).2.registers = engine.registers) ∧
      (speed < 0 → (engine.step word).2.registers.readCar .speed = .ok 0) := by
  subst reached
  obtain ⟨start, builtIn⟩ := made_of_make (CarAssembly.table_reachable _) made
  obtain ⟨speed, floored, outcome, own, exact, stores⟩ :=
    (start.after _).stores_idle (table_after.trans builtIn) accepted throttles idle
  refine ⟨?retires, ?others, speed, own, ?positive, ?negative⟩
  case retires =>
    rw [stores.retired]
    rfl
  case others => exact fun slot other => stores.kept slot (by simpa using other.symm)
  case positive =>
    intro positive
    have same : floored = speed := by
      rw [← Int32.toInt_inj, exact]
      exact Int.max_eq_right (Int32.le_iff_toInt_le.mp positive)
    exact registers_eq_of_stores stores (same ▸ own)
  case negative =>
    intro negative
    have zero : floored = 0 := by
      rw [← Int32.toInt_inj, exact]
      exact Int.max_eq_left (Int.le_of_lt (Int32.lt_iff_toInt_lt.mp negative))
    exact zero ▸ stores.written _ (.head _)

theorem make_persistent :
    make CarAssembly.table { faultPolicy := .proceed } = .ok persistent := by
  rw [CarAssembly.table_eq_expanded]
  rfl

/-- The throttle whose operand is the first register. -/
def idleThrottle : Decoded where
  word := some 0x10
  entry := CarAssembly.entries[10]
  operands := ⟨[0], by decide⟩

/-- A word that takes the speed below zero, and a throttle by zero that brings it back. -/
theorem throttle_zero_raises :
    make CarAssembly.table { faultPolicy := .proceed } = .ok persistent ∧
    (persistent.after [.step 0x2014FFFB]).table.decode 0x10 = .ok idleThrottle ∧
    idleThrottle.mnemonic = "throttle" ∧
    (persistent.after [.step 0x2014FFFB]).registers.read
      (idleThrottle.entry.template.slotOf .destination 0x10) = .ok 0 ∧
    (persistent.after [.step 0x2014FFFB]).registers.readCar .speed = .ok (-5) ∧
    ((persistent.after [.step 0x2014FFFB]).step 0x10).2.registers.readCar .speed = .ok 0 :=
  ⟨make_persistent, by decide +kernel, rfl, by decide +kernel, by decide +kernel,
    by decide +kernel⟩

/-- A speed above zero stays. -/
theorem step_throttle_zero_positive :
    (persistent.after [.step 0x2014003C]).registers.readCar .speed = .ok 60 ∧
    ((persistent.after [.step 0x2014003C]).step 0x10).2.registers =
      (persistent.after [.step 0x2014003C]).registers := by
  let words : List Word := [0x2014003C]
  have accepted : (persistent.after (words.map .step)).table.decode 0x10 = .ok idleThrottle := by
    decide +kernel
  have idle : (persistent.after (words.map .step)).registers.read
      (idleThrottle.entry.template.slotOf .destination 0x10) = .ok 0 := by
    decide +kernel
  have sixty : (persistent.after (words.map .step)).registers.readCar .speed = .ok 60 := by
    decide +kernel
  obtain ⟨_, _, speed, own, unchanged, _⟩ :=
    step_throttle_zero make_persistent rfl accepted rfl idle
  rw [sixty] at own
  cases own
  exact ⟨sixty, unchanged (by decide)⟩

end Engine

end CarMachine
