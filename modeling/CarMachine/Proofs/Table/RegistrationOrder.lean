import CarMachine.Proofs.Table.Lookup

namespace CarMachine

/-! The order in which instructions are registered.

Whether a list is accepted depends on its pairs alone, and a table answers from the set of
its entries.  So a list and its permutations are accepted together, and the tables that
they make cannot be told apart by looking up words or mnemonics.
-/

/-- Whether two entries may stand in one table. -/
def Entry.Coexist (first second : Entry) : Prop :=
  first.mnemonic ≠ second.mnemonic ∧
    first.template.pattern.Separable second.template.pattern

theorem Entry.Coexist.symm {first second : Entry} (coexist : first.Coexist second) :
    second.Coexist first :=
  ⟨coexist.1.symm, coexist.2.symm⟩

namespace Table

/-- Registers entries in order up to the first that is refused. -/
def registerAll (table : Table) : List Entry → Table × Except Table.Error Unit
  | [] => (table, .ok ())
  | entry :: rest =>
      match table.register entry.template entry.operation with
      | (next, .ok _) => next.registerAll rest
      | (next, .error error) => (next, .error error)

variable {table next first second : Table} {entries : List Entry}

namespace Invariant

theorem pairwise_coexist (invariant : table.Invariant) :
    table.entries.Pairwise Entry.Coexist :=
  (List.pairwise_map.mp invariant.mnemonics).and invariant.separable

theorem register_entries (invariant : table.Invariant) {entry : Entry}
    (accepted : table.register entry.template entry.operation = (next, .ok ())) :
    next.entries = table.entries ++ [entry] := by
  obtain ⟨_, _, rfl⟩ := invariant.register_eq_ok_iff.mp accepted
  rfl

theorem registerAll (invariant : table.Invariant)
    (accepted : table.registerAll entries = (next, .ok ())) :
    next.Invariant ∧ next.entries = table.entries ++ entries := by
  induction entries generalizing table with
  | nil =>
      cases accepted
      exact ⟨invariant, (List.append_nil _).symm⟩
  | cons entry rest ih =>
      rcases table.register_cases entry.template entry.operation with step | ⟨error, step⟩ <;>
        simp only [Table.registerAll, step] at accepted
      · obtain ⟨holds, extended⟩ := ih (invariant.register step) accepted
        refine ⟨holds, ?_⟩
        rw [extended, invariant.register_entries step, List.append_assoc,
          List.singleton_append]
      · cases accepted

/-- A list is accepted exactly if all pairs may stand in one table. -/
theorem registerAll_accepts_iff (invariant : table.Invariant) :
    (table.registerAll entries).2 = .ok () ↔
      (table.entries ++ entries).Pairwise Entry.Coexist := by
  induction entries generalizing table with
  | nil => simp [Table.registerAll, invariant.pairwise_coexist]
  | cons entry rest ih =>
      rcases table.register_cases entry.template entry.operation with step | ⟨error, step⟩
      · have extended := invariant.register_entries step
        simp only [Table.registerAll, step, ih (invariant.register step), extended,
          List.append_assoc, List.singleton_append]
      · simp only [Table.registerAll, step, reduceCtorEq, false_iff]
        intro coexist
        have apart := (List.pairwise_append.mp coexist).2.2
        have accepted : table.register entry.template entry.operation =
            (table.push entry, .ok ()) :=
          invariant.register_eq_ok_iff.mpr
            ⟨fun other member => (apart other member entry (by simp)).1,
              fun other member => (apart other member entry (by simp)).2, rfl⟩
        simp [accepted] at step

theorem lookup?_congr (invariant : first.Invariant) (other : second.Invariant)
    (same : ∀ entry, entry ∈ first.entries ↔ entry ∈ second.entries) (word : Word) :
    first.lookup? word = second.lookup? word := by
  apply Option.ext
  intro entry
  rw [invariant.lookup?_eq_some_iff, other.lookup?_eq_some_iff]
  simp only [same]

theorem get?_congr (invariant : first.Invariant) (other : second.Invariant)
    (same : ∀ entry, entry ∈ first.entries ↔ entry ∈ second.entries) (mnemonic : String) :
    first.get? mnemonic = second.get? mnemonic := by
  apply Option.ext
  intro entry
  rw [invariant.get?_eq_some_iff, other.get?_eq_some_iff, same]

end Invariant

theorem registerAll_perm {entries shuffled : List Entry} (permuted : entries.Perm shuffled) :
    ((Table.empty.registerAll entries).2 = .ok () ↔
      (Table.empty.registerAll shuffled).2 = .ok ()) ∧
    ∀ first second, Table.empty.registerAll entries = (first, .ok ()) →
      Table.empty.registerAll shuffled = (second, .ok ()) →
      (∀ word, first.lookup? word = second.lookup? word) ∧
        ∀ mnemonic, first.get? mnemonic = second.get? mnemonic := by
  constructor
  · rw [invariant_empty.registerAll_accepts_iff, invariant_empty.registerAll_accepts_iff]
    exact permuted.pairwise_iff Entry.Coexist.symm
  · intro first second accepted shuffledAccepted
    obtain ⟨invariant, listed⟩ := invariant_empty.registerAll accepted
    obtain ⟨other, shuffledListed⟩ := invariant_empty.registerAll shuffledAccepted
    have same : ∀ entry, entry ∈ first.entries ↔ entry ∈ second.entries := by
      intro entry
      rw [listed, shuffledListed]
      exact permuted.mem_iff
    exact ⟨invariant.lookup?_congr other same, invariant.get?_congr other same⟩

/-- The built-in instructions are accepted in reverse order as well. -/
theorem registerAll_perm_reverse :
    CarAssembly.entries.Perm CarAssembly.entries.reverse ∧
      (Table.empty.registerAll CarAssembly.entries.reverse).2 = .ok () := by
  have permuted := CarAssembly.entries.reverse_perm.symm
  have accepted : (Table.empty.registerAll CarAssembly.entries).2 = .ok () := by
    decide +kernel
  exact ⟨permuted, (registerAll_perm permuted).1.mp accepted⟩

end Table

end CarMachine
