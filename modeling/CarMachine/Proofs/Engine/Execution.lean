import CarMachine.Engine
import CarMachine.Proofs.Operation.Access
import CarMachine.Proofs.Table.Codec

namespace CarMachine

/-! Executing one instruction.

An instruction comes to an engine as a word or as a mnemonic with operands.  Either way the
engine executes an entry of its table with operands that fit it, and only the values in the
registers can change.
-/

namespace Decoded

variable {decoded : Decoded} {registers : Registers} {missing : MissingSlot}

theorem size_execute : (decoded.execute registers).2.size = registers.size := by
  cases ran : decoded.entry.operation.run decoded.operands registers with
  | error trap => cases trap <;> simp only [execute, ran]
  | ok effect =>
      have size : (effect.commit registers).1.size = registers.size := Effect.size_commitWrites
      cases committed : effect.commit registers with
      | mk after done =>
          rw [committed] at size
          cases done <;> simpa only [execute, ran, committed] using size

/-- All that an instruction can do whose written slots are there: break down or fault with
nothing done, or retire with everything done. -/
theorem execute_cases (inside : ∀ slot ∈ decoded.entry.operation.writes decoded.operands,
      slot < registers.size) :
    (∃ missing,
      decoded.entry.operation.run decoded.operands registers = .error (.missingSlot missing) ∧
      decoded.execute registers = (.crashed missing, registers)) ∨
    (∃ cause,
      decoded.entry.operation.run decoded.operands registers = .error (.fault cause) ∧
      decoded.execute registers =
        (.failed (.fault ⟨decoded.mnemonic, decoded.word, cause⟩), registers)) ∨
    ∃ effect after,
      decoded.entry.operation.run decoded.operands registers = .ok effect ∧
      effect.commit registers = (after, .ok ()) ∧
      decoded.execute registers = (.retired ⟨decoded.mnemonic, effect.line⟩, after) := by
  cases ran : decoded.entry.operation.run decoded.operands registers with
  | error trap =>
      cases trap with
      | missingSlot missing =>
          exact .inl ⟨missing, rfl, by simp only [execute, ran]⟩
      | fault cause =>
          exact .inr (.inl ⟨cause, rfl, by simp only [execute, ran]⟩)
  | ok effect =>
      have indices := Operation.writes_of_run ran
      have done : (effect.commit registers).2 = .ok () := by
        refine Effect.commitWrites_completes fun write member => inside write.index ?_
        rw [← indices]
        exact List.mem_map_of_mem member
      cases committed : effect.commit registers with
      | mk after answer =>
          rw [committed] at done
          subst done
          exact .inr (.inr ⟨effect, after, rfl, committed, by simp only [execute, ran, committed]⟩)

/-- An instruction breaks down exactly if a slot that it reads is not there. -/
theorem execute_crashed_iff
    (inside : ∀ slot ∈ decoded.entry.operation.writes decoded.operands, slot < registers.size) :
    (decoded.execute registers).1 = .crashed missing ↔
      Operation.firstMissing registers.size
        (decoded.entry.operation.reads decoded.operands) = some missing.index := by
  rw [← Operation.run_missing_iff]
  rcases execute_cases inside with ⟨other, ran, executed⟩ | ⟨cause, ran, executed⟩ |
    ⟨effect, after, ran, _, executed⟩ <;> simp [ran, executed]

theorem registers_of_crashed
    (inside : ∀ slot ∈ decoded.entry.operation.writes decoded.operands, slot < registers.size)
    (crashed : (decoded.execute registers).1 = .crashed missing) :
    (decoded.execute registers).2 = registers := by
  rcases execute_cases inside with ⟨other, _, executed⟩ | ⟨cause, _, executed⟩ |
    ⟨effect, after, _, _, executed⟩ <;> simp_all

theorem registers_of_failed {error : StepFailure}
    (failed : (decoded.execute registers).1 = .failed error) :
    (decoded.execute registers).2 = registers := by
  cases ran : decoded.entry.operation.run decoded.operands registers with
  | error trap => cases trap <;> simp only [execute, ran]
  | ok effect =>
      cases committed : effect.commit registers with
      | mk after done =>
          -- once an effect is committed, the instruction can only retire or crash
          cases done <;> simp [execute, ran, committed] at failed

/-- An instruction is one of a table's, with operands that fit it. -/
structure Legal (decoded : Decoded) (table : Table) : Prop where
  member : decoded.entry ∈ table.entries
  checked : decoded.entry.template.check decoded.operands = .ok ()

end Decoded

/-- A call of an engine that executes at most one instruction. -/
inductive Engine.Call where
  | step (word : Word)
  | execute (mnemonic : String) (operands : Operands)

/-- The instruction that a call stands for. -/
def Engine.Call.decode (table : Table) : Engine.Call → Except Decoded.Error Decoded
  | .step word => table.decode word
  | .execute mnemonic operands => table.resolve mnemonic operands

namespace Engine

variable {engine : Engine} {call : Call} {decoded : Decoded}

def answer (engine : Engine) : Call → StepResult × Engine
  | .step word => engine.step word
  | .execute mnemonic operands => engine.execute mnemonic operands

theorem answer_eq_perform : engine.answer call = engine.perform (call.decode engine.table) := by
  cases call <;> rfl

theorem answer_of_decode (accepted : call.decode engine.table = .ok decoded) :
    engine.answer call = ((decoded.execute engine.registers).1,
      { engine with registers := (decoded.execute engine.registers).2 }) := by
  rw [answer_eq_perform, accepted]
  rfl

theorem answer_of_refused {error : Decoded.Error}
    (refused : call.decode engine.table = .error error) :
    engine.answer call = (.failed (.decode error), engine) := by
  rw [answer_eq_perform, refused]
  rfl

theorem step_of_decode {word : Word} (accepted : engine.table.decode word = .ok decoded) :
    engine.step word = ((decoded.execute engine.registers).1,
      { engine with registers := (decoded.execute engine.registers).2 }) :=
  @answer_of_decode engine (.step word) decoded accepted

theorem step_of_refused {word : Word} {error : Decoded.Error}
    (refused : engine.table.decode word = .error error) :
    engine.step word = (.failed (.decode error), engine) :=
  @answer_of_refused engine (.step word) error refused

/-- A call changes nothing about an engine but the values in its registers. -/
theorem answer_keeps (engine : Engine) (call : Call) :
    (engine.answer call).2.table = engine.table ∧
    (engine.answer call).2.config = engine.config ∧
    (engine.answer call).2.registers.size = engine.registers.size := by
  cases accepted : call.decode engine.table with
  | error error => simp [answer_of_refused accepted]
  | ok decoded => simp [answer_of_decode accepted, Decoded.size_execute]

end Engine

theorem Table.Reachable.legal {table : Table} {call : Engine.Call} {decoded : Decoded}
    (reachable : table.Reachable Template.Built) (accepted : call.decode table = .ok decoded) :
    decoded.Legal table := by
  cases call with
  | step word =>
      obtain ⟨entry, found, rfl⟩ := decode_eq_ok_iff.mp accepted
      have member := (reachable.invariant.lookup?_eq_some_iff.mp found).1
      exact ⟨member, (reachable.built member).check_operandsOf word⟩
  | execute mnemonic operands =>
      obtain ⟨entry, found, checked, rfl⟩ := resolve_eq_ok_iff.mp accepted
      exact ⟨(reachable.invariant.get?_eq_some_iff.mp found).1, checked⟩

theorem Table.Reachable.legal_of_decode {table : Table} {word : Word} {decoded : Decoded}
    (reachable : table.Reachable Template.Built) (accepted : table.decode word = .ok decoded) :
    decoded.Legal table :=
  @legal table (.step word) decoded reachable accepted

end CarMachine
