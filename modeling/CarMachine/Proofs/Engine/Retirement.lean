import CarMachine.Proofs.Effect.Commit
import CarMachine.Proofs.Engine.Crash

namespace CarMachine

/-! Words that retire.

What a step leaves behind is known once the effect of its operation is: the slots that are
written hold their values, all other slots are as before.  The operands of a word are the
numbers in its fields.
-/

theorem Operation.nodup_writes {operation : Operation} {operands : Operands} :
    (operation.writes operands).Nodup := by
  cases operation <;> simp [writes, CarRegister.slot]

theorem Table.Reachable.register_of_decode {table : Table} {word : Word} {decoded : Decoded}
    (reachable : table.Reachable Template.Built) (accepted : table.decode word = .ok decoded)
    (role : FieldRole) :
    decoded.operands.register role.position = decoded.entry.template.slotOf role word := by
  have legal := reachable.legal_of_decode accepted
  obtain ⟨entry, _, rfl⟩ := decode_eq_ok_iff.mp accepted
  exact (reachable.built legal.member).register_operandsOf role word

namespace Engine

/-- A step retires with an outcome and leaves the slots of some writes with their values and
all other slots as they are. -/
structure Stores (engine : Engine) (word : Word) (outcome : Outcome)
    (writes : List Effect.Write) : Prop where
  retired : (engine.step word).1 = .retired outcome
  written : ∀ write ∈ writes,
    (engine.step word).2.registers.read write.index = .ok write.value
  kept : ∀ slot, (∀ write ∈ writes, write.index ≠ slot) →
    (engine.step word).2.registers.read slot = engine.registers.read slot

variable {engine : Engine} {word : Word} {decoded : Decoded} {effect : Effect}

/-- A word whose operation answers with an effect retires and has that effect. -/
theorem Made.stores (made : engine.Made) (accepted : engine.table.decode word = .ok decoded)
    (ran : decoded.entry.operation.run decoded.operands engine.registers = .ok effect) :
    engine.Stores word ⟨decoded.mnemonic, effect.line⟩ effect.writes := by
  have legal := made.table.legal_of_decode accepted
  have stepped := step_of_decode accepted
  rcases Decoded.execute_cases (made.writes_inside legal) with
    ⟨missing, missed, _⟩ | ⟨cause, faulted, _⟩ | ⟨done, after, alsoRan, committed, executed⟩
  · simp [ran] at missed
  · simp [ran] at faulted
  · obtain rfl : effect = done := by simpa [ran] using alsoRan
    rw [executed] at stepped
    -- no slot is written twice, so every queued value is the one that is left
    have distinct : (effect.writes.map (·.index)).Nodup := by
      rw [Operation.writes_of_run ran]
      exact Operation.nodup_writes
    constructor
    case retired => rw [stepped]
    case written =>
      intro write member
      rw [stepped, Effect.read_of_commit committed, Effect.pending_of_mem distinct member]
      rfl
    case kept =>
      intro slot outside
      have untouched : (Effect.commitWrites effect.writes engine.registers).1.read slot =
          engine.registers.read slot :=
        Effect.read_commitWrites_of_not_mem outside
      rw [Effect.commit] at committed
      rw [committed] at untouched
      rw [stepped]
      exact untouched

theorem effect_of_retired {outcome : Outcome} (retired : (engine.step word).1 = .retired outcome) :
    ∃ decoded effect, engine.table.decode word = .ok decoded ∧
      decoded.entry.operation.run decoded.operands engine.registers = .ok effect ∧
      outcome = ⟨decoded.mnemonic, effect.line⟩ := by
  cases accepted : engine.table.decode word with
  | error refusal => simp [step_of_refused accepted] at retired
  | ok decoded =>
      rw [step_of_decode accepted] at retired
      cases ran : decoded.entry.operation.run decoded.operands engine.registers with
      | error trap => cases trap <;> simp [Decoded.execute, ran] at retired
      | ok effect =>
          cases committed : effect.commit engine.registers with
          | mk after answer =>
              cases answer with
              | error missing => simp [Decoded.execute, ran, committed] at retired
              | ok done =>
                  simp only [Decoded.execute, ran, committed, StepResult.retired.injEq] at retired
                  exact ⟨decoded, effect, rfl, ran, retired.symm⟩

/-- A word whose operation faults changes nothing. -/
theorem step_of_fault {cause : Fault.Cause} (accepted : engine.table.decode word = .ok decoded)
    (ran : decoded.entry.operation.run decoded.operands engine.registers =
      .error (.fault cause)) :
    engine.step word = (.failed (.fault ⟨decoded.mnemonic, some word, cause⟩), engine) := by
  have stepped := step_of_decode accepted
  obtain ⟨entry, _, rfl⟩ := Table.decode_eq_ok_iff.mp accepted
  rw [stepped, Decoded.execute, ran]

/-- Of the registers that the fields of a word name, only the target may not be there. -/
theorem Made.read_exists (made : engine.Made) (accepted : engine.table.decode word = .ok decoded)
    (role : FieldRole)
    (direct : role = .target → ¬ decoded.entry.template.TakesImmediate) :
    ∃ value, engine.registers.read (decoded.operands.register role.position) = .ok value := by
  have legal := made.table.legal_of_decode accepted
  refine Registers.read_exists (made.register_lt legal role.position fun second => direct ?_)
  cases role <;> simp [FieldRole.position] at second ⊢

end Engine

end CarMachine
