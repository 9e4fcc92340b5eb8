import CarMachine.Proofs.Operation.Effects

namespace CarMachine

/-! The safety envelope.

The car's own instructions keep speed, steering and fuel within limits and never lower a
flag of the status register.  Arithmetic may write any slot, and a steering angle may be set
to any value, so these two have to stay away from what is guarded.
-/

namespace Vehicle

theorem getLsbD_brakeFlag (bit : Nat) : brakeFlag.toBitVec.getLsbD bit = decide (bit = 0) := by
  have flag : brakeFlag.toBitVec = BitVec.twoPow 32 0 := by decide
  rw [flag, BitVec.getLsbD_twoPow]
  simp [eq_comm]

theorem getLsbD_hoodFlag (bit : Nat) : hoodFlag.toBitVec.getLsbD bit = decide (bit = 1) := by
  have flag : hoodFlag.toBitVec = BitVec.twoPow 32 1 := by decide
  rw [flag, BitVec.getLsbD_twoPow]
  simp [eq_comm]

end Vehicle

namespace CarRegister

/-- The registers that arithmetic must not write. -/
def guarded : List CarRegister := [.speed, .steer, .status, .fuel]

theorem slot_injective {register other : CarRegister} (same : register.slot = other.slot) :
    register = other := by
  cases register <;> cases other <;> first | rfl | contradiction

/-- The values that may be written to a register, given what the registers hold. -/
def Permits (registers : Registers) : CarRegister → Int32 → Prop
  | .speed, value => 0 ≤ value ∧ value ≤ Int32.maxValue
  | .steer, value => -Vehicle.steeringLimit ≤ value ∧ value ≤ Vehicle.steeringLimit
  | .fuel, value => 0 ≤ value ∧ value ≤ Vehicle.fullTank
  | .status, value => ∃ status, registers.readCar .status = .ok status ∧
      (value = status ||| Vehicle.brakeFlag ∨ value = status ||| Vehicle.hoodFlag)
  | .lights, _ | .ac, _ | .seat, _ => True

end CarRegister

namespace Effect.Write

variable {registers : Registers}

/-- A write that keeps the envelope. -/
def Mild (write : Effect.Write) (registers : Registers) : Prop :=
  ∀ register : CarRegister, write.index = register.slot →
    register.Permits registers write.value

theorem mild_of_permits {register : CarRegister} {value : Int32}
    (permitted : register.Permits registers value) :
    Mild ⟨register.slot, value⟩ registers := by
  intro other same
  obtain rfl := CarRegister.slot_injective same
  exact permitted

theorem mild_of_unguarded {slot : Nat} {value : Int32}
    (away : ∀ register ∈ CarRegister.guarded, slot ≠ register.slot) :
    Mild ⟨slot, value⟩ registers := by
  intro register same
  have free : register ∉ CarRegister.guarded := fun listed => away register listed same
  cases register with
  | lights | ac | seat => trivial
  | speed | steer | status | fuel => exact absurd (by decide) free

end Effect.Write

namespace Operation

variable {operation : Operation} {operands : Operands} {registers after : Registers}
  {effect : Effect}

/-- Within the two conditions an operation writes only what keeps the envelope. -/
theorem mild_of_run (ran : operation.run operands registers = .ok effect)
    (destination : operation.isArithmeticLogic = true →
      ∀ register ∈ CarRegister.guarded, operands.register 0 ≠ register.slot)
    (angle : operation = .setSteer → ∀ angle,
      registers.read (operands.register 0) = .ok angle →
      -Vehicle.steeringLimit ≤ angle ∧ angle ≤ Vehicle.steeringLimit) :
    ∀ write ∈ effect.writes, write.Mild registers := by
  cases operation with
  | arithmetic _ | move | addImmediate =>
      obtain ⟨value, queued⟩ := writes_of_one rfl ran
      rw [queued, List.forall_mem_singleton]
      exact Effect.Write.mild_of_unguarded (destination rfl)
  | throttle | steer | fillGas =>
      simp only [run, runThrottle, runSteer, runFillGas] at ran
      obtain ⟨value, least, greatest, queued⟩ := writes_of_adjust (by decide) ran
      rw [queued, List.forall_mem_singleton]
      exact Effect.Write.mild_of_permits ⟨least, greatest⟩
  | setSpeed =>
      simp only [run, runSetSpeed] at ran
      obtain ⟨operand, _, queued⟩ := writes_of_assign ran
      rw [queued, List.forall_mem_singleton]
      refine Effect.Write.mild_of_permits ⟨?_, Int32.le_maxValue _⟩
      split
      · exact Int32.le_refl 0
      · exact Int32.not_lt.mp (by assumption)
  | setSteer =>
      simp only [run, runSetSteer] at ran
      obtain ⟨operand, present, queued⟩ := writes_of_assign ran
      rw [queued, List.forall_mem_singleton]
      exact Effect.Write.mild_of_permits (angle rfl operand present)
  | lights | airConditioning | seat =>
      simp only [run, runLights, runAirConditioning, runSeat] at ran
      obtain ⟨operand, _, queued⟩ := writes_of_assign ran
      rw [queued, List.forall_mem_singleton]
      exact Effect.Write.mild_of_permits trivial
  | emergencyBrake =>
      obtain ⟨status, present, queued⟩ := writes_of_runEmergencyBrake ran
      rw [queued, List.forall_mem_cons, List.forall_mem_singleton]
      exact ⟨Effect.Write.mild_of_permits ⟨Int32.le_refl 0, Int32.le_maxValue 0⟩,
        Effect.Write.mild_of_permits ⟨status, present, .inl rfl⟩⟩
  | popHood =>
      obtain ⟨status, present, queued⟩ := writes_of_runPopHood ran
      rw [queued, List.forall_mem_singleton]
      exact Effect.Write.mild_of_permits ⟨status, present, .inr rfl⟩

end Operation

namespace Registers

variable {registers after : Registers} {effect : Effect} {register : CarRegister}
  {low high : Int32}

/-- A car register holds a value between two limits. -/
def Within (registers : Registers) (register : CarRegister) (low high : Int32) : Prop :=
  ∃ value, registers.readCar register = .ok value ∧ low ≤ value ∧ value ≤ high

/-- The speed is not negative, the wheel is turned no further than it can be, and the tank
holds something between nothing and its capacity. -/
structure Roadworthy (registers : Registers) : Prop where
  speed : registers.Within .speed 0 Int32.maxValue
  steer : registers.Within .steer (-Vehicle.steeringLimit) Vehicle.steeringLimit
  fuel : registers.Within .fuel 0 Vehicle.fullTank

/-- A bit of the status register is set. -/
def StatusBit (registers : Registers) (bit : Nat) : Prop :=
  ∃ status, registers.readCar .status = .ok status ∧ status.toBitVec.getLsbD bit = true

/-- No bit of the status register is cleared, and only the flags of the brake and of the
hood are set. -/
structure Latched (before after : Registers) : Prop where
  kept : ∀ bit, before.StatusBit bit → after.StatusBit bit
  raised : ∀ bit, after.StatusBit bit → before.StatusBit bit ∨ bit = 0 ∨ bit = 1

theorem Within.commit (start : registers.Within register low high)
    (permitted : ∀ write ∈ effect.writes, write.index = register.slot →
      low ≤ write.value ∧ write.value ≤ high)
    (done : effect.commit registers = (after, .ok ())) : after.Within register low high := by
  rcases Effect.read_of_commit_cases done register.slot with
    unchanged | ⟨write, member, here, written⟩
  · obtain ⟨value, present, bounds⟩ := start
    exact ⟨value, unchanged.trans present, bounds⟩
  · exact ⟨write.value, written, permitted write member here⟩

theorem Roadworthy.commit (start : registers.Roadworthy)
    (mild : ∀ write ∈ effect.writes, write.Mild registers)
    (done : effect.commit registers = (after, .ok ())) : after.Roadworthy where
  speed := start.speed.commit (fun write member => mild write member .speed) done
  steer := start.steer.commit (fun write member => mild write member .steer) done
  fuel := start.fuel.commit (fun write member => mild write member .fuel) done

theorem Latched.refl (registers : Registers) : registers.Latched registers :=
  ⟨fun _ set => set, fun _ set => .inl set⟩

theorem Latched.trans {before middle after : Registers} (first : before.Latched middle)
    (second : middle.Latched after) : before.Latched after where
  kept bit set := second.kept bit (first.kept bit set)
  raised bit set := by
    rcases second.raised bit set with earlier | flag
    · exact first.raised bit earlier
    · exact .inr flag

theorem latched_of_commit (mild : ∀ write ∈ effect.writes, write.Mild registers)
    (done : effect.commit registers = (after, .ok ())) : registers.Latched after := by
  rcases Effect.read_of_commit_cases done CarRegister.status.slot with
    unchanged | ⟨write, member, here, written⟩
  · have same : ∀ bit, after.StatusBit bit ↔ registers.StatusBit bit := fun bit => by
      rw [StatusBit, readCar, unchanged]
      rfl
    exact ⟨fun bit => (same bit).mpr, fun bit set => .inl ((same bit).mp set)⟩
  · obtain ⟨status, present, changed⟩ := mild write member .status here
    have before : ∀ bit, registers.StatusBit bit ↔ status.toBitVec.getLsbD bit = true := by
      simp [StatusBit, present]
    have later : ∀ bit, after.StatusBit bit ↔ write.value.toBitVec.getLsbD bit = true := by
      simp [StatusBit, readCar, written]
    constructor
    · intro bit set
      rw [before] at set
      rcases changed with raised | raised <;>
        rw [later, raised, Int32.toBitVec_or, BitVec.getLsbD_or, set, Bool.true_or]
    · intro bit set
      rw [before]
      rw [later] at set
      rcases changed with raised | raised <;>
        rw [raised, Int32.toBitVec_or, BitVec.getLsbD_or, Bool.or_eq_true] at set
      · rw [Vehicle.getLsbD_brakeFlag, decide_eq_true_iff] at set
        exact set.imp_right .inl
      · rw [Vehicle.getLsbD_hoodFlag, decide_eq_true_iff] at set
        exact set.imp_right .inr

/-- A bit of a flag that is written last is set. -/
theorem statusBit_of_pending {status flag : Int32} {bit : Nat}
    (done : effect.commit registers = (after, .ok ()))
    (last : effect.pending CarRegister.status.slot = some (status ||| flag))
    (set : flag.toBitVec.getLsbD bit = true) : after.StatusBit bit := by
  refine ⟨status ||| flag, ?_, ?_⟩
  · rw [readCar, Effect.read_of_commit done, last]
    rfl
  · rw [Int32.toBitVec_or, BitVec.getLsbD_or, set, Bool.or_true]

end Registers

end CarMachine
