import CarMachine.Proofs.Effect.Commit
import CarMachine.Proofs.Operation.Exact

namespace CarMachine

/-! The writes of an operation.

Every operation writes one slot, except for the brake, which writes two slots of the car
after it has read one of them.  So its writes are done completely or not at all.
-/

namespace Vehicle

variable {value : Int} {low high : Int32}

theorem clamp_bounds (ordered : low ≤ high) :
    low ≤ clamp value low high ∧ clamp value low high ≤ high := by
  have exact := toInt_clamp ordered value
  rw [Int32.le_iff_toInt_le] at ordered
  rw [Int32.le_iff_toInt_le, Int32.le_iff_toInt_le, exact]
  omega

end Vehicle

namespace Operation

variable {operation : Operation} {operands : Operands} {registers after : Registers}
  {effect : Effect} {missing : MissingSlot}

/-- Whether an operation belongs to arithmetic and logic: it writes the slot that its first
operand names. -/
def isArithmeticLogic : Operation → Bool
  | .arithmetic _ | .move | .addImmediate => true
  | _ => false

theorem writes_of_one {slot : Nat} (one : operation.writes operands = [slot])
    (ran : operation.run operands registers = .ok effect) :
    ∃ value, effect.writes = [⟨slot, value⟩] := by
  have indices := writes_of_run ran
  rw [one, List.map_eq_singleton_iff] at indices
  obtain ⟨write, only, rfl⟩ := indices
  exact ⟨write.value, only⟩

theorem writes_of_not_brake (other : operation ≠ .emergencyBrake) :
    ∃ slot, operation.writes operands = [slot] := by
  cases operation <;> simp_all [writes]

theorem writes_of_adjust {register : CarRegister} {low high : Int32} {say : Int32 → String}
    (ordered : low ≤ high) (ran : adjust register low high say operands registers = .ok effect) :
    ∃ value, low ≤ value ∧ value ≤ high ∧ effect.writes = [⟨register.slot, value⟩] := by
  obtain ⟨_, _, _, _, rfl⟩ := adjust_eq_ok_iff.mp ran
  obtain ⟨least, greatest⟩ := Vehicle.clamp_bounds ordered
  exact ⟨_, least, greatest, rfl⟩

theorem writes_of_assign {register : CarRegister} {shape : Int32 → Int32}
    {say? : Int32 → Option String}
    (ran : assign register shape say? operands registers = .ok effect) :
    ∃ operand, registers.read (operands.register 0) = .ok operand ∧
      effect.writes = [⟨register.slot, shape operand⟩] := by
  obtain ⟨operand, present, rfl⟩ := assign_eq_ok_iff.mp ran
  exact ⟨operand, present, rfl⟩

theorem writes_of_runEmergencyBrake (ran : runEmergencyBrake registers = .ok effect) :
    ∃ status, registers.readCar .status = .ok status ∧
      effect.writes = [⟨CarRegister.speed.slot, 0⟩,
        ⟨CarRegister.status.slot, status ||| Vehicle.brakeFlag⟩] := by
  obtain ⟨status, present, rfl⟩ := runEmergencyBrake_eq_ok_iff.mp ran
  exact ⟨status, present, rfl⟩

theorem writes_of_runPopHood (ran : runPopHood registers = .ok effect) :
    ∃ status, registers.readCar .status = .ok status ∧
      effect.writes = [⟨CarRegister.status.slot, status ||| Vehicle.hoodFlag⟩] := by
  obtain ⟨status, present, rfl⟩ := runPopHood_eq_ok_iff.mp ran
  exact ⟨status, present, rfl⟩

/-- If a slot to write is not there, nothing is written. -/
theorem unchanged_of_missing (ran : operation.run operands registers = .ok effect)
    (missed : effect.commit registers = (after, .error missing)) : after = registers := by
  by_cases brake : operation = .emergencyBrake
  · subst brake
    obtain ⟨status, present, queued⟩ := writes_of_runEmergencyBrake ran
    have inside : CarRegister.status.slot < registers.size := Registers.lt_of_read present
    -- the slot of the speed stands before the one of the status, which has been read
    have before : CarRegister.speed.slot < registers.size :=
      Nat.lt_trans (by decide) inside
    have completed : (effect.commit registers).2 = .ok () := by
      refine Effect.commitWrites_completes ?_
      simp [queued, inside, before]
    simp [missed] at completed
  · obtain ⟨slot, one⟩ := writes_of_not_brake brake
    obtain ⟨value, queued⟩ := writes_of_one one ran
    rw [Effect.commit, queued] at missed
    cases written : registers.write slot value with
    | error absent =>
        simp only [Effect.commitWrites, written] at missed
        exact (congrArg Prod.fst missed).symm
    | ok next => simp [Effect.commitWrites, written] at missed

end Operation

end CarMachine
