import CarMachine.Proofs.Engine.Append
import CarMachine.Proofs.Engine.Requests
import CarMachine.Proofs.Operation.Envelope

namespace CarMachine

/-! The safety envelope over whole sessions.

One call keeps the envelope if its instruction is careful, so it holds after every call of a
session, runs included.  A flag that was raised stays raised.
-/

namespace Decoded

variable {decoded : Decoded} {registers : Registers}

/-- An instruction retires with all its writes done, or it changes nothing. -/
theorem execute_atomic (decoded : Decoded) (registers : Registers) :
    ((decoded.execute registers).1.isRetired = false ∧
      (decoded.execute registers).2 = registers) ∨
    ∃ effect after,
      decoded.entry.operation.run decoded.operands registers = .ok effect ∧
      effect.commit registers = (after, .ok ()) ∧
      decoded.execute registers = (.retired ⟨decoded.mnemonic, effect.line⟩, after) := by
  cases ran : decoded.entry.operation.run decoded.operands registers with
  | error trap =>
      cases trap <;> exact .inl ⟨by simp only [execute, ran]; rfl, by simp only [execute, ran]⟩
  | ok effect =>
      cases committed : effect.commit registers with
      | mk after answer =>
          cases answer with
          | ok done =>
              exact .inr ⟨effect, after, rfl, committed, by simp only [execute, ran, committed]⟩
          | error missing =>
              have unchanged := Operation.unchanged_of_missing ran committed
              refine .inl ⟨?_, by simp only [execute, ran, committed, unchanged]⟩
              simp only [execute, ran, committed]
              rfl

/-- An instruction that leaves the guarded registers to the car's own instructions, unless it
fails, and does not set the wheel to an angle beyond the limit. -/
structure Careful (decoded : Decoded) (registers : Registers) : Prop where
  destination : decoded.entry.operation.isArithmeticLogic = true →
    (decoded.execute registers).1.isRetired = true →
    ∀ register ∈ CarRegister.guarded, decoded.operands.register 0 ≠ register.slot
  angle : decoded.entry.operation = .setSteer →
    ∀ angle ∈ (registers.read (decoded.operands.register 0)).toOption,
      -Vehicle.steeringLimit ≤ angle ∧ angle ≤ Vehicle.steeringLimit

instance (decoded : Decoded) (registers : Registers) : Decidable (decoded.Careful registers) :=
  -- the angle is looked at if there is one, and not every integer tried
  have : Decidable (∀ angle ∈ (registers.read (decoded.operands.register 0)).toOption,
      -Vehicle.steeringLimit ≤ angle ∧ angle ≤ Vehicle.steeringLimit) :=
    Option.decidableForallMem _
  decidable_of_iff (_ ∧ _)
    ⟨fun parts => Careful.mk parts.1 parts.2, fun careful => ⟨careful.destination, careful.angle⟩⟩

end Decoded

namespace Engine

/-- Every call executes a careful instruction, if any. -/
def Careful (engine : Engine) : List Call → Prop
  | [] => True
  | call :: rest =>
      (∀ decoded ∈ (call.decode engine.table).toOption, decoded.Careful engine.registers) ∧
        (engine.answer call).2.Careful rest

instance decidableCareful (engine : Engine) : (calls : List Call) → Decidable (engine.Careful calls)
  | [] => .isTrue trivial
  | call :: rest =>
      have : Decidable ((engine.answer call).2.Careful rest) := decidableCareful _ rest
      inferInstanceAs (Decidable (_ ∧ _))

/-- A call retires an instruction that is bound to an operation. -/
def Retires (engine : Engine) (call : Call) (operation : Operation) : Prop :=
  (engine.answer call).1.isRetired = true ∧
    ∃ decoded, call.decode engine.table = .ok decoded ∧ decoded.entry.operation = operation

variable {engine : Engine} {call : Call} {calls first rest : List Call}

theorem answer_keeps_envelope (start : engine.registers.Roadworthy)
    (careful : ∀ decoded ∈ (call.decode engine.table).toOption,
      decoded.Careful engine.registers) :
    (engine.answer call).2.registers.Roadworthy ∧
      engine.registers.Latched (engine.answer call).2.registers := by
  cases accepted : call.decode engine.table with
  | error refusal =>
      rw [answer_of_refused accepted]
      exact ⟨start, .refl _⟩
  | ok decoded =>
      have cautious := careful decoded (by rw [accepted]; rfl)
      rw [answer_of_decode accepted]
      rcases decoded.execute_atomic engine.registers with
        ⟨_, unchanged⟩ | ⟨effect, after, ran, done, executed⟩
      · rw [unchanged]
        exact ⟨start, .refl _⟩
      · have mild : ∀ write ∈ effect.writes, write.Mild engine.registers := by
          refine Operation.mild_of_run ran ?_ ?_
          · exact fun general => cautious.destination general (by rw [executed]; rfl)
          · exact fun sets angle present => cautious.angle sets angle (by rw [present]; rfl)
        rw [executed]
        exact ⟨start.commit mild done, Registers.latched_of_commit mild done⟩

theorem Retires.effect {operation : Operation} (retires : engine.Retires call operation) :
    ∃ operands effect after, operation.run operands engine.registers = .ok effect ∧
      effect.commit engine.registers = (after, .ok ()) ∧
      (engine.answer call).2.registers = after := by
  obtain ⟨retired, decoded, accepted, rfl⟩ := retires
  rw [answer_of_decode accepted] at retired ⊢
  rcases decoded.execute_atomic engine.registers with
    ⟨failed, _⟩ | ⟨effect, after, ran, done, executed⟩
  · rw [failed] at retired
    contradiction
  · exact ⟨decoded.operands, effect, after, ran, done, congrArg Prod.snd executed⟩

theorem statusBit_of_emergencyBrake (retires : engine.Retires call .emergencyBrake) :
    (engine.answer call).2.registers.StatusBit 0 := by
  obtain ⟨operands, effect, after, ran, done, rfl⟩ := retires.effect
  obtain ⟨status, _, queued⟩ := Operation.writes_of_runEmergencyBrake ran
  have last : effect.pending CarRegister.status.slot = some (status ||| Vehicle.brakeFlag) := by
    simp [Effect.pending, queued]
  exact Registers.statusBit_of_pending done last (Vehicle.getLsbD_brakeFlag 0)

theorem statusBit_of_popHood (retires : engine.Retires call .popHood) :
    (engine.answer call).2.registers.StatusBit 1 := by
  obtain ⟨operands, effect, after, ran, done, rfl⟩ := retires.effect
  obtain ⟨status, _, queued⟩ := Operation.writes_of_runPopHood ran
  have last : effect.pending CarRegister.status.slot = some (status ||| Vehicle.hoodFlag) := by
    simp [Effect.pending, queued]
  exact Registers.statusBit_of_pending done last (Vehicle.getLsbD_hoodFlag 1)

theorem careful_append : engine.Careful (first ++ rest) ↔
    engine.Careful first ∧ (engine.after first).Careful rest := by
  induction first generalizing engine with
  | nil => simp [Careful, after]
  | cons call first ih => simp only [List.cons_append, Careful, after, ih, and_assoc]

theorem after_keeps_envelope (start : engine.registers.Roadworthy)
    (careful : engine.Careful calls) :
    (engine.after calls).registers.Roadworthy ∧
      engine.registers.Latched (engine.after calls).registers := by
  induction calls generalizing engine with
  | nil => exact ⟨start, .refl _⟩
  | cons call rest ih =>
      obtain ⟨here, later⟩ := careful
      obtain ⟨next, step⟩ := answer_keeps_envelope start here
      obtain ⟨last, others⟩ := ih next later
      exact ⟨last, step.trans others⟩

/-- If all calls of a session are careful, the car is within its limits after each of them,
and no call lowers a flag or raises another one than those of the brake and the hood, which
stay raised from the first time that their instruction retires. -/
theorem envelope_of_careful (start : engine.registers.Roadworthy) (requests : List Request)
    (careful : engine.Careful (engine.calls requests)) :
    requests.foldl serve engine = engine.after (engine.calls requests) ∧
    (∀ earlier rest, engine.calls requests = earlier ++ rest →
      (engine.after earlier).registers.Roadworthy) ∧
    (∀ earlier between rest, engine.calls requests = earlier ++ (between ++ rest) →
      (engine.after earlier).registers.Latched
        (engine.after (earlier ++ between)).registers) ∧
    ∀ earlier call between rest,
      engine.calls requests = earlier ++ (call :: between ++ rest) →
      ((engine.after earlier).Retires call .emergencyBrake →
        (engine.after (earlier ++ call :: between)).registers.StatusBit 0) ∧
      ((engine.after earlier).Retires call .popHood →
        (engine.after (earlier ++ call :: between)).registers.StatusBit 1) := by
  have keeps : ∀ earlier between rest, engine.calls requests = earlier ++ (between ++ rest) →
      (engine.after earlier).registers.Roadworthy ∧
      (engine.after earlier).Careful between := by
    intro earlier between rest split
    rw [split, careful_append, careful_append] at careful
    exact ⟨(after_keeps_envelope start careful.1).1, careful.2.1⟩
  refine ⟨foldl_serve, ?_, ?_, ?_⟩
  · intro earlier rest split
    exact (keeps earlier [] rest split).1
  · intro earlier between rest split
    obtain ⟨roadworthy, cautious⟩ := keeps earlier between rest split
    rw [after_append]
    exact (after_keeps_envelope roadworthy cautious).2
  · intro earlier call between rest split
    obtain ⟨roadworthy, here, later⟩ := keeps earlier (call :: between) rest split
    have next := (answer_keeps_envelope roadworthy here).1
    have latched := (after_keeps_envelope next later).2
    rw [after_append]
    exact ⟨fun retires => latched.kept 0 (statusBit_of_emergencyBrake retires),
      fun retires => latched.kept 1 (statusBit_of_popHood retires)⟩

/-- A session in which the car is set going, turned and braked, and a word fails. -/
def ride : List Request :=
  [.run [0x20080032, 0x01000010, 0x01000013],
    .single (.execute "ebrake" .empty),
    .run [0xFFFFFFFF, 0x01000019, 0x18]]

theorem envelope_of_careful_ride :
    persistent.registers.Roadworthy ∧ persistent.Careful (persistent.calls ride) ∧
      (ride.foldl serve persistent).registers.Roadworthy ∧
      (ride.foldl serve persistent).registers.StatusBit 0 := by
  have start : persistent.registers.Roadworthy :=
    ⟨⟨0, by decide⟩, ⟨0, by decide⟩, ⟨0, by decide⟩⟩
  have careful : persistent.Careful (persistent.calls ride) := by decide +kernel
  obtain ⟨left, within, _, raised⟩ := envelope_of_careful start ride careful
  have listed : persistent.calls ride =
      [.step 0x20080032, .step 0x01000010, .step 0x01000013] ++
        (.execute "ebrake" .empty ::
          [.step 0xFFFFFFFF, .step 0x01000019, .step 0x18] ++ []) := by
    rfl
  have braked : (persistent.after
      [.step 0x20080032, .step 0x01000010, .step 0x01000013]).Retires
        (.execute "ebrake" .empty) .emergencyBrake :=
    ⟨by decide +kernel, _, rfl, by decide +kernel⟩
  rw [left]
  refine ⟨start, careful, within _ [] (List.append_nil _).symm, ?_⟩
  rw [listed]
  exact (raised _ _ _ _ listed).1 braked

end Engine

end CarMachine
