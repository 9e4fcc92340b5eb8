import CarMachine.Proofs.Operation.Results

namespace CarMachine

/-! The slots that an operation asks for.

An operation reads its slots in a fixed order and queues writes to fixed slots.  So where
it breaks down is known from its operands: at the first slot to read that is not there.
What it answers otherwise depends on nothing but the slots that it reads.
-/

namespace Effect

variable {writes : List Write} {registers : Registers}

theorem size_commitWrites : (commitWrites writes registers).1.size = registers.size := by
  induction writes generalizing registers with
  | nil => rfl
  | cons write rest ih =>
      cases written : registers.write write.index write.value with
      | error missing => simp only [commitWrites, written]
      | ok next => simp only [commitWrites, written, ih, Registers.size_of_write written]

/-- Writes to slots that are there are all done. -/
theorem commitWrites_completes (inside : ∀ write ∈ writes, write.index < registers.size) :
    (commitWrites writes registers).2 = .ok () := by
  induction writes generalizing registers with
  | nil => rfl
  | cons write rest ih =>
      have here := inside write (by simp)
      cases written : registers.write write.index write.value with
      | error missing => simp [Registers.write, here] at written
      | ok next =>
          simp only [commitWrites, written]
          refine ih fun later member => ?_
          rw [Registers.size_of_write written]
          exact inside later (by simp [member])

end Effect

namespace Operation

variable {operation : Operation} {operands : Operands} {registers : Registers}
  {missing : MissingSlot} {effect : Effect}

/-- The slots that an operation reads, in the order in which it reads them. -/
def reads : Operation → Operands → List Nat
  | .arithmetic _, operands => [operands.register 1, operands.register 2]
  | .move, operands => [operands.register 1]
  | .addImmediate, operands => [operands.register 1]
  | .throttle, operands => [operands.register 0, CarRegister.speed.slot]
  | .setSpeed, operands => [operands.register 0]
  | .steer, operands => [operands.register 0, CarRegister.steer.slot]
  | .setSteer, operands => [operands.register 0]
  | .emergencyBrake, _ => [CarRegister.status.slot]
  | .lights, operands => [operands.register 0]
  | .airConditioning, operands => [operands.register 0]
  | .seat, operands => [operands.register 0]
  | .popHood, _ => [CarRegister.status.slot]
  | .fillGas, operands => [operands.register 0, CarRegister.fuel.slot]

/-- The slots to which an operation queues writes. -/
def writes : Operation → Operands → List Nat
  | .arithmetic _, operands => [operands.register 0]
  | .move, operands => [operands.register 0]
  | .addImmediate, operands => [operands.register 0]
  | .throttle, _ => [CarRegister.speed.slot]
  | .setSpeed, _ => [CarRegister.speed.slot]
  | .steer, _ => [CarRegister.steer.slot]
  | .setSteer, _ => [CarRegister.steer.slot]
  | .emergencyBrake, _ => [CarRegister.speed.slot, CarRegister.status.slot]
  | .lights, _ => [CarRegister.lights.slot]
  | .airConditioning, _ => [CarRegister.ac.slot]
  | .seat, _ => [CarRegister.seat.slot]
  | .popHood, _ => [CarRegister.status.slot]
  | .fillGas, _ => [CarRegister.fuel.slot]

/-- The first of some slots that a file of a given size does not have. -/
def firstMissing (size : Nat) : List Nat → Option Nat
  | [] => none
  | slot :: rest => if slot < size then firstMissing size rest else some slot

theorem adjust_missing_iff {register : CarRegister} {low high : Int32} {say : Int32 → String} :
    adjust register low high say operands registers = .error (.missingSlot missing) ↔
      firstMissing registers.size [operands.register 0, register.slot] =
        some missing.index := by
  obtain ⟨index⟩ := missing
  by_cases operand : operands.register 0 < registers.size
  · by_cases own : register.slot < registers.size <;>
      simp [adjust, firstMissing, Registers.fetch_eq, operand, own]
  · simp [adjust, firstMissing, Registers.fetch_eq, operand]

theorem assign_missing_iff {register : CarRegister} {shape : Int32 → Int32}
    {say? : Int32 → Option String} :
    assign register shape say? operands registers = .error (.missingSlot missing) ↔
      firstMissing registers.size [operands.register 0] = some missing.index := by
  obtain ⟨index⟩ := missing
  by_cases operand : operands.register 0 < registers.size <;>
    simp [assign, firstMissing, Registers.fetch_eq, operand]

/-- An operation breaks down at the first slot to read that is not there, and otherwise
not at all. -/
theorem run_missing_iff : operation.run operands registers = .error (.missingSlot missing) ↔
    firstMissing registers.size (operation.reads operands) = some missing.index := by
  cases operation with
  | arithmetic kind =>
      obtain ⟨index⟩ := missing
      by_cases source : operands.register 1 < registers.size
      · by_cases target : operands.register 2 < registers.size <;>
          simp [run, runArithmetic, reads, firstMissing, Registers.fetch_eq, source, target]
      · simp [run, runArithmetic, reads, firstMissing, Registers.fetch_eq, source]
  | move =>
      obtain ⟨index⟩ := missing
      by_cases source : operands.register 1 < registers.size <;>
        simp [run, runMove, reads, firstMissing, Registers.fetch_eq, source]
  | addImmediate =>
      obtain ⟨index⟩ := missing
      by_cases source : operands.register 1 < registers.size
      · simp only [run, runAddImmediate, reads, firstMissing, Registers.fetch_eq, source,
          if_true]
        split <;> simp
      · simp [run, runAddImmediate, reads, firstMissing, Registers.fetch_eq, source]
  | throttle | steer | fillGas =>
      simpa only [run, runThrottle, runSteer, runFillGas, reads] using adjust_missing_iff
  | setSpeed | setSteer | lights | airConditioning | seat =>
      simpa only [run, runSetSpeed, runSetSteer, runLights, runAirConditioning, runSeat, reads]
        using assign_missing_iff
  | emergencyBrake | popHood =>
      obtain ⟨index⟩ := missing
      by_cases status : CarRegister.status.slot < registers.size <;>
        simp [run, runEmergencyBrake, runPopHood, reads, firstMissing, Registers.fetch_eq,
          status]

theorem writes_of_run (ran : operation.run operands registers = .ok effect) :
    effect.writes.map (·.index) = operation.writes operands := by
  cases operation with
  | arithmetic kind =>
      obtain ⟨_, _, _, _, rfl⟩ := runArithmetic_eq_ok_iff.mp ran
      rfl
  | move =>
      obtain ⟨_, _, rfl⟩ := runMove_eq_ok_iff.mp ran
      rfl
  | addImmediate =>
      obtain ⟨_, _, _, _, rfl⟩ := runAddImmediate_eq_ok_iff.mp ran
      rfl
  | throttle | steer | fillGas =>
      simp only [run, runThrottle, runSteer, runFillGas] at ran
      obtain ⟨_, _, _, _, rfl⟩ := adjust_eq_ok_iff.mp ran
      rfl
  | setSpeed | setSteer | lights | airConditioning | seat =>
      simp only [run, runSetSpeed, runSetSteer, runLights, runAirConditioning, runSeat] at ran
      obtain ⟨_, _, rfl⟩ := assign_eq_ok_iff.mp ran
      rfl
  | emergencyBrake =>
      obtain ⟨_, _, rfl⟩ := runEmergencyBrake_eq_ok_iff.mp ran
      rfl
  | popHood =>
      obtain ⟨_, _, rfl⟩ := runPopHood_eq_ok_iff.mp ran
      rfl

end Operation

/-! ## What an operation depends on -/

theorem Registers.fetch_congr {registers other : Registers} {slot : Nat}
    (same : other.read slot = registers.read slot) : other.fetch slot = registers.fetch slot := by
  rw [fetch, fetch, same]

namespace Operation

variable {operation : Operation} {operands : Operands} {registers other : Registers}

theorem adjust_congr {register : CarRegister} {low high : Int32} {say : Int32 → String}
    (same : ∀ slot ∈ [operands.register 0, register.slot],
      other.read slot = registers.read slot) :
    adjust register low high say operands other =
      adjust register low high say operands registers := by
  have operand := Registers.fetch_congr (same (operands.register 0) (by simp))
  have own := Registers.fetch_congr (same register.slot (by simp))
  simp only [adjust, operand, own]

theorem assign_congr {register : CarRegister} {shape : Int32 → Int32}
    {say? : Int32 → Option String}
    (same : ∀ slot ∈ [operands.register 0], other.read slot = registers.read slot) :
    assign register shape say? operands other =
      assign register shape say? operands registers := by
  have operand := Registers.fetch_congr (same (operands.register 0) (by simp))
  simp only [assign, operand]

/-- Files that agree on the slots that an operation reads give it the same effect. -/
theorem run_congr (same : ∀ slot ∈ operation.reads operands,
      other.read slot = registers.read slot) :
    operation.run operands other = operation.run operands registers := by
  cases operation with
  | arithmetic kind =>
      have source := Registers.fetch_congr (same (operands.register 1) (by simp [reads]))
      have target := Registers.fetch_congr (same (operands.register 2) (by simp [reads]))
      simp only [run, runArithmetic, source, target]
  | move | addImmediate =>
      have source := Registers.fetch_congr (same (operands.register 1) (by simp [reads]))
      simp only [run, runMove, runAddImmediate, source]
  | throttle | steer | fillGas =>
      simp only [run, runThrottle, runSteer, runFillGas]
      exact adjust_congr same
  | setSpeed | setSteer | lights | airConditioning | seat =>
      simp only [run, runSetSpeed, runSetSteer, runLights, runAirConditioning, runSeat]
      exact assign_congr same
  | emergencyBrake | popHood =>
      have status := Registers.fetch_congr (same CarRegister.status.slot (by simp [reads]))
      simp only [run, runEmergencyBrake, runPopHood, status]

end Operation

end CarMachine
