import CarMachine.Proofs.Engine.Execution

namespace CarMachine

/-! Words and mnemonics.

A word is found in look-up order and a mnemonic in the index, and operands of a mnemonic are
checked where those of a word are not.  Still a word and what it decodes to are the same
instruction, and only a fault tells which of the two was executed.
-/

/-- Results of one instruction, executed from a word and by its mnemonic. -/
inductive StepResult.SameBut (word : Word) (mnemonic : String) :
    StepResult → StepResult → Prop where
  | retired (line : Option String) :
      SameBut word mnemonic (.retired ⟨mnemonic, line⟩) (.retired ⟨mnemonic, line⟩)
  | faulted (cause : Fault.Cause) :
      SameBut word mnemonic (.failed (.fault ⟨mnemonic, some word, cause⟩))
        (.failed (.fault ⟨mnemonic, none, cause⟩))
  | crashed (missing : MissingSlot) :
      SameBut word mnemonic (.crashed missing) (.crashed missing)

/-- The word of an instruction shows in nothing but a fault. -/
theorem Decoded.execute_sameBut (entry : Entry) (operands : Operands) (word : Word)
    (registers : Registers) :
    StepResult.SameBut word entry.mnemonic
        (Decoded.execute ⟨some word, entry, operands⟩ registers).1
        (Decoded.execute ⟨none, entry, operands⟩ registers).1 ∧
      (Decoded.execute ⟨some word, entry, operands⟩ registers).2 =
        (Decoded.execute ⟨none, entry, operands⟩ registers).2 := by
  cases ran : entry.operation.run operands registers with
  | error trap =>
      cases trap with
      | fault cause =>
          simp only [execute, ran, and_true]
          exact .faulted cause
      | missingSlot missing =>
          simp only [execute, ran, and_true]
          exact .crashed missing
  | ok effect =>
      cases committed : effect.commit registers with
      | mk after done =>
          cases done with
          | ok done =>
              simp only [execute, ran, committed, and_true]
              exact .retired effect.line
          | error missing =>
              simp only [execute, ran, committed, and_true]
              exact .crashed missing

namespace Engine

/-- A step on a word does what its instruction does when executed by mnemonic, and a word
without instruction does nothing. -/
theorem step_execute_agree {engine : Engine} (reachable : engine.table.Reachable Template.Built)
    (word : Word) :
    (∀ decoded, engine.table.decode word = .ok decoded →
      StepResult.SameBut word decoded.mnemonic (engine.step word).1
          (engine.execute decoded.mnemonic decoded.operands).1 ∧
        (engine.step word).2 = (engine.execute decoded.mnemonic decoded.operands).2) ∧
    ((∀ decoded, engine.table.decode word ≠ .ok decoded) →
      engine.step word = (.failed (.decode (.noMatch word)), engine)) := by
  constructor
  · intro decoded accepted
    have resolved := (reachable.faithful.resolve_of_decode word decoded accepted).1
    obtain ⟨entry, _, rfl⟩ := Table.decode_eq_ok_iff.mp accepted
    obtain ⟨result, registers⟩ :=
      Decoded.execute_sameBut entry (entry.template.operandsOf word) word engine.registers
    rw [step, execute, accepted, resolved]
    refine ⟨result, ?_⟩
    simp only [perform, registers]
  · intro unmatched
    cases found : engine.table.lookup? word with
    | some entry => exact absurd (Table.decode_eq_ok_iff.mpr ⟨entry, found, rfl⟩) (unmatched _)
    | none => simp only [step, Table.decode, found, perform]

/-- A sum that does not fit, as the only instruction. -/
def ofOverflow : Engine where
  table := Table.empty.extend [CarAssembly.definitions[3]]
  config := {}
  registers := .ofSlots (List.replicate 32 Int32.maxValue)

theorem step_execute_agree_overflow :
    ofOverflow.table.Reachable Template.Built ∧
      (ofOverflow.step 0x21280001).1 =
        .failed (.fault ⟨"addi", some 0x21280001, .arithmeticOverflow⟩) ∧
      (ofOverflow.execute "addi" ⟨[8, 9, 1], by decide⟩).1 =
        .failed (.fault ⟨"addi", none, .arithmeticOverflow⟩) := by
  have reachable : ofOverflow.table.Reachable Template.Built := Table.Reachable.empty.extend _
  have stepped : (ofOverflow.step 0x21280001).1 =
      .failed (.fault ⟨"addi", some 0x21280001, .arithmeticOverflow⟩) := by
    decide +kernel
  have accepted : ofOverflow.table.decode 0x21280001 =
      .ok ⟨some 0x21280001, CarAssembly.entries[3], ⟨[8, 9, 1], by decide⟩⟩ := by
    decide +kernel
  have same := ((step_execute_agree reachable 0x21280001).1 _ accepted).1
  have mnemonic : CarAssembly.entries[3].mnemonic = "addi" := by decide +kernel
  simp only [Decoded.mnemonic, mnemonic, stepped] at same
  refine ⟨reachable, stepped, ?_⟩
  generalize (ofOverflow.execute "addi" ⟨[8, 9, 1], by decide⟩).1 = result at same ⊢
  cases same
  rfl

end Engine

end CarMachine
