import CarMachine.CarAssembly
import CarMachine.Proofs.Template.Built

namespace CarMachine

/-! The tables that can come up.

A table starts empty and is changed by calls, each of which may be refused.  A call that
registers one instruction adds its entry, or it is refused and leaves the table as it was.  So
what accepted registrations keep, all calls keep.
-/

namespace Table

/-- A call that may change a table.  The built-in instructions are registered by the last
kind. -/
inductive Call where
  | register (template : Template) (operation : Operation)
  | define (definition : Definition)
  | defineAll (definitions : List Definition)

/-- Whether the template that a call brings along is admitted.  The other calls build
theirs from written patterns. -/
def Call.Admitted (admitted : Template → Prop) : Call → Prop
  | .register template _ => admitted template
  | .define _ => True
  | .defineAll _ => True

/-- The table after a call, with its answer. -/
def perform (table : Table) : Call → Table × Except Table.Error Unit
  | .register template operation => table.register template operation
  | .define definition => table.define definition
  | .defineAll definitions => table.defineAll definitions

/-- The tables that calls make out of the empty one, in any order and whether they are
accepted or refused.  Templates registered as they are have to be admitted. -/
inductive Reachable (admitted : Template → Prop) : Table → Prop where
  | empty : Reachable admitted .empty
  | call {table : Table} {call : Call} (before : Reachable admitted table)
      (allowed : call.Admitted admitted) : Reachable admitted (table.perform call).1

/-- A property of tables that every accepted registration keeps. -/
def KeptByRegister (admitted : Template → Prop) (property : Table → Prop) : Prop :=
  ∀ {table next : Table} {template : Template} {operation : Operation},
    property table → admitted template ∨ template.Built →
    table.register template operation = (next, .ok ()) → property next

section

variable {admitted : Template → Prop} {property : Table → Prop} {table next : Table}
  {template : Template} {operation : Operation} {definition : Definition} {error : Table.Error}

/-- All checks of a registration come before its only change. -/
theorem register_cases (table : Table) (template : Template) (operation : Operation) :
    table.register template operation = (table.push ⟨template, operation⟩, .ok ()) ∨
      ∃ error, table.register template operation = (table, .error error) := by
  rw [register]
  split
  · exact .inr ⟨_, rfl⟩
  · cases table.conflict? template.pattern with
    | some existing => exact .inr ⟨_, rfl⟩
    | none => exact .inl rfl

theorem register_of_error (refused : table.register template operation = (next, .error error)) :
    next = table := by
  rcases table.register_cases template operation with accepted | ⟨cause, unchanged⟩
  · rw [accepted] at refused
    cases refused
  · rw [unchanged] at refused
    cases refused
    rfl

theorem define_cases (table : Table) (definition : Definition) :
    (∃ next, table.define definition = (next, .ok ())) ∨
      ∃ error, table.define definition = (table, .error error) := by
  cases read : definition.template with
  | error cause =>
      right
      exact ⟨.badTemplate definition.mnemonic cause, by simp only [define, read]⟩
  | ok template =>
      simp only [define, read]
      rcases table.register_cases template definition.operation with accepted | unchanged
      · exact .inl ⟨_, accepted⟩
      · exact .inr unchanged

theorem define_of_error (refused : table.define definition = (next, .error error)) :
    next = table := by
  rcases table.define_cases definition with ⟨_, accepted⟩ | ⟨cause, unchanged⟩
  · rw [accepted] at refused
    cases refused
  · rw [unchanged] at refused
    cases refused
    rfl

theorem KeptByRegister.register (kept : KeptByRegister admitted property)
    (holds : property table) (allowed : admitted template ∨ template.Built) :
    property (table.register template operation).1 := by
  rcases table.register_cases template operation with accepted | ⟨error, unchanged⟩
  · rw [accepted]
    exact kept holds allowed accepted
  · rwa [unchanged]

theorem KeptByRegister.define (kept : KeptByRegister admitted property)
    (holds : property table) : property (table.define definition).1 := by
  cases read : definition.template with
  | error error => simpa only [Table.define, read] using holds
  | ok template =>
      simp only [Table.define, read]
      exact kept.register holds (.inr (Template.built_of_build read))

theorem KeptByRegister.defineAll (kept : KeptByRegister admitted property)
    (holds : property table) (definitions : List Definition) :
    property (table.defineAll definitions).1 := by
  induction definitions generalizing table with
  | nil => exact holds
  | cons definition rest ih =>
      rcases table.define_cases definition with ⟨next, step⟩ | ⟨error, step⟩ <;>
        simp only [Table.defineAll, step]
      · have first : property (table.define definition).1 := kept.define holds
        rw [step] at first
        exact ih first
      · exact holds

theorem KeptByRegister.perform (kept : KeptByRegister admitted property)
    (holds : property table) {call : Call} (allowed : call.Admitted admitted) :
    property (table.perform call).1 := by
  cases call with
  | register template operation => exact kept.register holds (.inl allowed)
  | define definition => exact kept.define holds
  | defineAll definitions => exact kept.defineAll holds definitions

/-- What holds of the empty table and is kept by accepted registrations holds of every
reachable table. -/
theorem Reachable.holds (reachable : table.Reachable admitted)
    (kept : KeptByRegister admitted property) (start : property .empty) :
    property table := by
  induction reachable with
  | empty => exact start
  | call before allowed ih => exact kept.perform ih allowed

theorem Reachable.extend (reachable : table.Reachable admitted)
    (definitions : List Definition) : (table.extend definitions).Reachable admitted := by
  have reached : (table.perform (.defineAll definitions)).1.Reachable admitted :=
    .call reachable trivial
  exact reached

end

end Table

theorem CarAssembly.table_reachable (admitted : Template → Prop) :
    CarAssembly.table.Reachable admitted :=
  Table.Reachable.empty.extend definitions

end CarMachine
