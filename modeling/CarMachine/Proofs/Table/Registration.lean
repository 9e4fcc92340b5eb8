import CarMachine.Proofs.CarAssembly.Entries
import CarMachine.Proofs.Table.Invariant

namespace CarMachine

/-! What a registration answers.

A template is refused if its mnemonic is taken, or if a word that it shares with an entry
would be left without a narrower choice.  The error tells which of the two it was, and a
refused call leaves the table as it was.
-/

/-- A word of both templates, if there is any, leaves the choice of the narrower one. -/
def Template.Unambiguous (first second : Template) : Prop :=
  (∃ word, first.Matches word ∧ second.Matches word) →
    first.pattern.words ⊂ second.pattern.words ∨ second.pattern.words ⊂ first.pattern.words

theorem Template.unambiguous_iff {first second : Template} :
    first.Unambiguous second ↔ first.pattern.Separable second.pattern := by
  have shared : (∃ word, first.Matches word ∧ second.Matches word) ↔
      ¬ Disjoint first.pattern.words second.pattern.words := by
    rw [Set.not_disjoint_iff]
    rfl
  rw [Unambiguous, shared]
  exact or_iff_not_imp_left.symm

namespace Table

variable {table next : Table} {template : Template} {operation : Operation}
  {existing : Entry} {error : Table.Error} {call : Call}

/-- Why a template is refused.  The mnemonic is looked at first, and of several entries in
the way the earliest is named. -/
inductive Refusal (table : Table) (template : Template) : Table.Error → Prop where
  | taken {entry : Entry} (member : entry ∈ table.entries)
      (named : entry.mnemonic = template.mnemonic) :
      Refusal table template (.taken template.mnemonic)
  | ambiguous {before after : List Entry} {existing : Entry}
      (free : ∀ entry ∈ table.entries, entry.mnemonic ≠ template.mnemonic)
      (split : table.entries = before ++ existing :: after)
      (clear : ∀ entry ∈ before, entry.template.Unambiguous template)
      (clash : ¬ existing.template.Unambiguous template) :
      Refusal table template (.ambiguous template.mnemonic existing.mnemonic)

/-- Whether a call registers one instruction. -/
def Call.Single : Call → Prop
  | .register _ _ => True
  | .define _ => True
  | .defineAll _ => False

theorem not_compatible_iff : (!existing.template.pattern.compatible template.pattern) = true ↔
    ¬ existing.template.Unambiguous template := by
  rw [Template.unambiguous_iff, ← Pattern.compatible_iff, Bool.not_eq_true', Bool.not_eq_true]

theorem conflict?_eq_some_iff : table.conflict? template.pattern = some existing ↔
    ∃ before after, table.entries = before ++ existing :: after ∧
      (∀ entry ∈ before, entry.template.Unambiguous template) ∧
      ¬ existing.template.Unambiguous template := by
  rw [conflict?, List.find?_eq_some_iff_append, not_compatible_iff]
  simp only [Bool.not_not, Pattern.compatible_iff, Template.unambiguous_iff]
  refine ⟨?_, ?_⟩
  · intro first
    obtain ⟨clash, before, after, split, clear⟩ := first
    exact ⟨before, after, split, clear, clash⟩
  · intro first
    obtain ⟨before, after, split, clear, clash⟩ := first
    exact ⟨clash, before, after, split, clear⟩

theorem Invariant.register_of_taken (invariant : table.Invariant)
    (taken : ∃ entry ∈ table.entries, entry.mnemonic = template.mnemonic) :
    table.register template operation = (table, .error (.taken template.mnemonic)) := by
  rw [Table.register, if_pos (invariant.taken_iff.mpr taken)]

theorem Invariant.register_of_conflict (invariant : table.Invariant)
    (free : ∀ entry ∈ table.entries, entry.mnemonic ≠ template.mnemonic)
    (found : table.conflict? template.pattern = some existing) :
    table.register template operation =
      (table, .error (.ambiguous template.mnemonic existing.mnemonic)) := by
  have absent : ¬ (table.positions.lookup template.mnemonic).isSome = true := by
    rw [invariant.taken_iff]
    exact fun ⟨entry, member, named⟩ => free entry member named
  simp only [Table.register, if_neg absent, found]

theorem Invariant.register_of_refusal (invariant : table.Invariant)
    (refusal : table.Refusal template error) :
    table.register template operation = (table, .error error) := by
  cases refusal with
  | taken member named => exact invariant.register_of_taken ⟨_, member, named⟩
  | ambiguous free split clear clash =>
      exact invariant.register_of_conflict free
        (conflict?_eq_some_iff.mpr ⟨_, _, split, clear, clash⟩)

theorem Invariant.refusal_of_register (invariant : table.Invariant)
    (refused : (table.register template operation).2 = .error error) :
    table.Refusal template error := by
  by_cases taken : ∃ entry ∈ table.entries, entry.mnemonic = template.mnemonic
  · rw [invariant.register_of_taken taken, Except.error.injEq] at refused
    obtain ⟨entry, member, named⟩ := taken
    exact refused ▸ .taken member named
  · have free : ∀ entry ∈ table.entries, entry.mnemonic ≠ template.mnemonic :=
      fun entry member named => taken ⟨entry, member, named⟩
    cases found : table.conflict? template.pattern with
    | none => simp [Table.register, mt invariant.taken_iff.mp taken, found] at refused
    | some existing =>
        obtain ⟨before, after, split, clear, clash⟩ := conflict?_eq_some_iff.mp found
        rw [invariant.register_of_conflict free found, Except.error.injEq] at refused
        exact refused ▸ .ambiguous free split clear clash

theorem Invariant.register_accepts_iff (invariant : table.Invariant) :
    (table.register template operation).2 = .ok () ↔
      (∀ entry ∈ table.entries, entry.mnemonic ≠ template.mnemonic) ∧
        ∀ entry ∈ table.entries, entry.template.Unambiguous template := by
  have answered : (table.register template operation).2 = .ok () ↔
      ∃ next, table.register template operation = (next, .ok ()) := by
    simp only [Prod.ext_iff, exists_and_right, exists_eq', true_and]
  simp only [answered, invariant.register_eq_ok_iff, Template.unambiguous_iff, exists_and_left,
    exists_eq, and_true]

theorem perform_of_error (single : call.Single)
    (refused : (table.perform call).2 = .error error) : (table.perform call).1 = table := by
  cases call with
  | register template operation => exact register_of_error (Prod.ext rfl refused)
  | define definition => exact define_of_error (Prod.ext rfl refused)
  | defineAll definitions => exact absurd single id

/-- A registration accepts exactly the templates that leave no word without a narrowest
match, answers with the cause of a refusal, and changes the table only if it accepts. -/
theorem register_unambiguous {admitted : Template → Prop} (reachable : table.Reachable admitted)
    (template : Template) (operation : Operation) :
    ((table.register template operation).2 = .ok () ↔
      (∀ entry ∈ table.entries, entry.mnemonic ≠ template.mnemonic) ∧
        ∀ entry ∈ table.entries, entry.template.Unambiguous template) ∧
    (∀ error, (table.register template operation).2 = .error error ↔
      table.Refusal template error) ∧
    (∀ next, table.register template operation = (next, .ok ()) →
      next.entries = table.entries ++ [⟨template, operation⟩]) ∧
    ∀ call error, call.Single → (table.perform call).2 = .error error →
      (table.perform call).1 = table := by
  have invariant := reachable.invariant
  refine ⟨invariant.register_accepts_iff, fun error => ⟨invariant.refusal_of_register, ?_⟩,
    ?_, ?_⟩
  · intro refusal
    rw [invariant.register_of_refusal refusal]
  · intro next accepted
    obtain ⟨_, _, rfl⟩ := invariant.register_eq_ok_iff.mp accepted
    rfl
  · intro call error single refused
    exact perform_of_error single refused

/-- A template whose pattern crosses that of `move`, the fifth built-in instruction: either
leaves a field open where the other has zeros. -/
def crossing : Template where
  mnemonic := "swap"
  usage := "swap $t1"
  description := ""
  layout := .oneRegister
  pattern := CarAssembly.shape 0xFFE0FFFF [⟨.destination, 16, 5⟩] 0x21

theorem register_unambiguous_crossing :
    CarAssembly.table.Reachable Template.Built ∧
      (CarAssembly.table.register crossing .move).2 = .error (.ambiguous "swap" "move") := by
  have reachable := CarAssembly.table_reachable Template.Built
  have refusal : CarAssembly.table.Refusal crossing (.ambiguous "swap" "move") := by
    have free : ∀ entry ∈ CarAssembly.table.entries, entry.mnemonic ≠ crossing.mnemonic := by
      rw [CarAssembly.table_entries]
      decide +kernel
    have split : CarAssembly.table.entries =
        CarAssembly.entries.take 4 ++ CarAssembly.entries[4] :: CarAssembly.entries.drop 5 := by
      rw [CarAssembly.table_entries]
      rfl
    refine .ambiguous free split ?_ ?_ <;>
      simp only [Template.unambiguous_iff, ← Pattern.compatible_iff] <;> decide +kernel
  exact ⟨reachable, ((register_unambiguous reachable crossing .move).2.1 _).mpr refusal⟩

end Table

end CarMachine
