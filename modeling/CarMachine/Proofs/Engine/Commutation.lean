import CarMachine.Proofs.Effect.Commit
import CarMachine.Proofs.Engine.Policy
import CarMachine.Proofs.Operation.Access
import CarMachine.Proofs.Template.Registers

namespace CarMachine

/-! Instructions that do not share registers.

An instruction reads and writes the slots of its footprint and no others.  So two
instructions can be exchanged if neither writes a slot of the other.
-/

namespace Decoded

variable {decoded : Decoded} {registers other : Registers}

/-- The writes that an instruction asks for. -/
def queued (decoded : Decoded) (registers : Registers) : List Effect.Write :=
  match decoded.entry.operation.run decoded.operands registers with
  | .ok effect => effect.writes
  | .error _ => []

theorem registers_execute : (decoded.execute registers).2 =
    (Effect.commitWrites (decoded.queued registers) registers).1 := by
  cases ran : decoded.entry.operation.run decoded.operands registers with
  | error trap => cases trap <;> simp only [execute, queued, ran, Effect.commitWrites]
  | ok effect =>
      cases committed : effect.commit registers with
      | mk after done =>
          rw [Effect.commit] at committed
          cases done <;> simp only [execute, queued, ran, Effect.commit, committed]

theorem queued_inside : ∀ write ∈ decoded.queued registers,
    write.index ∈ decoded.entry.operation.writes decoded.operands := by
  intro write member
  cases ran : decoded.entry.operation.run decoded.operands registers with
  | error trap => simp [queued, ran] at member
  | ok effect =>
      simp only [queued, ran] at member
      rw [← Operation.writes_of_run ran]
      exact List.mem_map_of_mem member

/-- What an instruction answers and asks for depends on the slots that it reads. -/
theorem execute_congr (sizes : other.size = registers.size)
    (same : ∀ slot ∈ decoded.entry.operation.reads decoded.operands,
      other.read slot = registers.read slot) :
    (decoded.execute other).1 = (decoded.execute registers).1 ∧
      decoded.queued other = decoded.queued registers := by
  have ran := Operation.run_congr same
  refine ⟨?_, by rw [queued, queued, ran]⟩
  cases effects : decoded.entry.operation.run decoded.operands registers with
  | error trap => cases trap <;> simp only [execute, ran, effects]
  | ok effect =>
      have done : (effect.commit other).2 = (effect.commit registers).2 :=
        (Effect.commitWrites_congr sizes).1
      simp only [execute, ran, effects]
      cases committed : effect.commit registers with
      | mk after answer =>
          cases alsoCommitted : effect.commit other with
          | mk alsoAfter alsoAnswer =>
              rw [committed, alsoCommitted] at done
              subst done
              cases alsoAnswer <;> rfl

end Decoded

namespace Engine.Call

/-- The slots that a call reads.  A call without instruction reads none. -/
def reads (table : Table) (call : Call) : List Nat :=
  match call.decode table with
  | .ok decoded => decoded.entry.operation.reads decoded.operands
  | .error _ => []

/-- The slots that a call may write. -/
def writes (table : Table) (call : Call) : List Nat :=
  match call.decode table with
  | .ok decoded => decoded.entry.operation.writes decoded.operands
  | .error _ => []

/-- Neither of two calls writes a slot that the other one reads or writes. -/
structure Independent (table : Table) (first second : Call) : Prop where
  forward : ∀ slot ∈ first.writes table, slot ∉ second.reads table ∧ slot ∉ second.writes table
  backward : ∀ slot ∈ second.writes table, slot ∉ first.reads table ∧ slot ∉ first.writes table

theorem Independent.symm {table : Table} {first second : Call}
    (independent : first.Independent table second) : second.Independent table first :=
  ⟨independent.backward, independent.forward⟩

end Engine.Call

namespace Engine

variable {engine other : Engine} {call first second : Call} {slot : Nat}

/-- The writes that a call asks for. -/
def queued (engine : Engine) (call : Call) : List Effect.Write :=
  match call.decode engine.table with
  | .ok decoded => decoded.queued engine.registers
  | .error _ => []

theorem engine_of_answer : (engine.answer call).2 =
    { engine with
      registers := (Effect.commitWrites (engine.queued call) engine.registers).1 } := by
  cases accepted : call.decode engine.table with
  | error refusal => simp only [answer_of_refused accepted, queued, accepted, Effect.commitWrites]
  | ok decoded =>
      simp only [answer_of_decode accepted, queued, accepted, Decoded.registers_execute]

theorem queued_inside : ∀ write ∈ engine.queued call, write.index ∈ call.writes engine.table := by
  intro write member
  cases accepted : call.decode engine.table with
  | error refusal => simp [queued, accepted] at member
  | ok decoded =>
      simp only [queued, Call.writes, accepted] at member ⊢
      exact Decoded.queued_inside write member

/-- A call changes no slot that it does not write. -/
theorem read_of_answer (outside : slot ∉ call.writes engine.table) :
    (engine.answer call).2.registers.read slot = engine.registers.read slot := by
  rw [engine_of_answer]
  refine Effect.read_commitWrites_of_not_mem fun write member same => outside ?_
  rw [← same]
  exact queued_inside write member

/-- What a call answers and the writes it asks for depend on the slots that it reads. -/
theorem answer_congr (table : other.table = engine.table)
    (sizes : other.registers.size = engine.registers.size)
    (same : ∀ slot ∈ call.reads engine.table,
      other.registers.read slot = engine.registers.read slot) :
    (other.answer call).1 = (engine.answer call).1 ∧ other.queued call = engine.queued call := by
  cases accepted : call.decode engine.table with
  | error refusal =>
      have alsoRefused : call.decode other.table = .error refusal := by rw [table, accepted]
      simp only [answer_of_refused accepted, answer_of_refused alsoRefused, queued, accepted,
        alsoRefused, and_self]
  | ok decoded =>
      have alsoAccepted : call.decode other.table = .ok decoded := by rw [table, accepted]
      simp only [Call.reads, accepted] at same
      simp only [answer_of_decode accepted, answer_of_decode alsoAccepted, queued, accepted,
        alsoAccepted]
      exact Decoded.execute_congr sizes same

/-- A call does not notice another one that it is independent of. -/
theorem answer_after (independent : first.Independent engine.table second) :
    ((engine.answer first).2.answer second).1 = (engine.answer second).1 ∧
      (engine.answer first).2.queued second = engine.queued second := by
  obtain ⟨table, _, size⟩ := engine.answer_keeps first
  refine answer_congr table size fun slot member => read_of_answer ?_
  exact fun written => (independent.forward slot written).1 member

theorem answer_comm (independent : first.Independent engine.table second) :
    ((engine.answer first).2.answer second).2 = ((engine.answer second).2.answer first).2 := by
  have forward := (answer_after independent).2
  have backward := (answer_after independent.symm).2
  have apart : ∀ write ∈ engine.queued second, ∀ other ∈ engine.queued first,
      write.index ≠ other.index := by
    intro write member other listed same
    refine (independent.forward other.index (queued_inside other listed)).2 ?_
    rw [← same]
    exact queued_inside write member
  rw [engine_of_answer, forward, @engine_of_answer (engine.answer second).2, backward,
    engine_of_answer, @engine_of_answer _ second]
  simp only [Effect.commitWrites_comm apart]

/-- Words that share no written slot can be stepped in either order, and each answers alike
in both.  A step changes only slots that its word writes, and its answer and its writes are
determined by the slots that its word reads.  For the built-in instructions these are slots
of the car and the ones that the fields of the word name. -/
theorem step_comm (engine : Engine) :
    (∀ first second, Call.Independent engine.table (.step first) (.step second) →
      ((engine.step first).2.step second).2 = ((engine.step second).2.step first).2 ∧
      ((engine.step second).2.step first).1 = (engine.step first).1 ∧
      ((engine.step first).2.step second).1 = (engine.step second).1) ∧
    (∀ word slot, slot ∉ Call.writes engine.table (.step word) →
      (engine.step word).2.registers.read slot = engine.registers.read slot) ∧
    (∀ word, ∃ queued : List Effect.Write,
      (∀ write ∈ queued, write.index ∈ Call.writes engine.table (.step word)) ∧
      ∀ other : Engine, other.table = engine.table →
        other.registers.size = engine.registers.size →
        (∀ slot ∈ Call.reads engine.table (.step word),
          other.registers.read slot = engine.registers.read slot) →
        (other.step word).1 = (engine.step word).1 ∧
        (other.step word).2.registers = (Effect.commitWrites queued other.registers).1) ∧
    ∀ word decoded, CarAssembly.table.decode word = .ok decoded →
      decoded.operands.register 0 = decoded.entry.template.slotOf .destination word ∧
      decoded.operands.register 1 = decoded.entry.template.slotOf .source word ∧
      decoded.operands.register 2 = decoded.entry.template.slotOf .target word := by
  refine ⟨?_, fun word slot => read_of_answer, ?_, ?_⟩
  · intro first second independent
    exact ⟨answer_comm independent, (answer_after independent.symm).1,
      (answer_after independent).1⟩
  · intro word
    refine ⟨engine.queued (.step word), queued_inside, ?_⟩
    intro other table sizes same
    obtain ⟨answered, queued⟩ := answer_congr table sizes same
    refine ⟨answered, ?_⟩
    rw [← queued]
    exact congrArg Engine.registers (@engine_of_answer other (.step word))
  · intro word decoded accepted
    have reachable := CarAssembly.table_reachable Template.Built
    obtain ⟨entry, found, rfl⟩ := Table.decode_eq_ok_iff.mp accepted
    have member := (reachable.invariant.lookup?_eq_some_iff.mp found).1
    have built := reachable.built member
    exact ⟨built.register_operandsOf .destination word, built.register_operandsOf .source word,
      built.register_operandsOf .target word⟩

/-- A sum that overflows does so before and after the brake. -/
theorem step_comm_saturated :
    Call.Independent saturated.table (.step 0x21280001) (.step 0x14) ∧
      ((saturated.step 0x14).2.step 0x21280001).1 =
        .failed (.fault ⟨"addi", some 0x21280001, .arithmeticOverflow⟩) := by
  have sum : Call.reads saturated.table (.step 0x21280001) = [9] ∧
      Call.writes saturated.table (.step 0x21280001) = [8] := by
    decide +kernel
  have brake : Call.reads saturated.table (.step 0x14) = [25] ∧
      Call.writes saturated.table (.step 0x14) = [20, 25] := by
    decide +kernel
  have independent : Call.Independent saturated.table (.step 0x21280001) (.step 0x14) := by
    constructor
    · rw [sum.2, brake.1, brake.2]
      decide
    · rw [brake.2, sum.1, sum.2]
      decide
  have alone : (saturated.step 0x21280001).1 =
      .failed (.fault ⟨"addi", some 0x21280001, .arithmeticOverflow⟩) := by
    decide +kernel
  exact ⟨independent, ((step_comm saturated).1 _ _ independent).2.1.trans alone⟩

end Engine

end CarMachine
