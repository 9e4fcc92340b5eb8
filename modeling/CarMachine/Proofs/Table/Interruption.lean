import CarMachine.Proofs.Table.Listing
import CarMachine.Proofs.Table.Registration
import CarMachine.Proofs.Table.RegistrationOrder

namespace CarMachine

/-! Registering several instructions at once.

A single registration that is refused leaves the table as it was.  A series of them is refused
with the same errors, but what was accepted before the refusal stays: only a series whose first
instruction is refused leaves the table as it was.
-/

/-- An entry is the instruction that a definition writes down. -/
structure Definition.Denotes (definition : Definition) (entry : Entry) : Prop where
  template : definition.template = .ok entry.template
  operation : definition.operation = entry.operation

namespace Table

/-- Two tables cannot be told apart by their entries or by what they find. -/
structure Alike (first second : Table) : Prop where
  entries : first.entries = second.entries
  get : ∀ mnemonic, first.get? mnemonic = second.get? mnemonic
  lookup : ∀ word, first.lookup? word = second.lookup? word

variable {table after : Table} {definition : Definition} {definitions : List Definition}
  {entry : Entry} {entries : List Entry} {error : Table.Error}

theorem Alike.refl (table : Table) : table.Alike table :=
  ⟨rfl, fun _ => rfl, fun _ => rfl⟩

theorem defineAll_eq (table : Table) (definitions : List Definition) :
    table.defineAll definitions =
      (table.extend definitions, (table.defineAll definitions).2) :=
  rfl

theorem define_of_denotes (denoted : definition.Denotes entry) :
    table.define definition = table.register entry.template entry.operation := by
  simp only [define, denoted.template, denoted.operation]

/-- A series of definitions is registered as the entries that it denotes. -/
theorem defineAll_of_denotes (denoted : List.Forall₂ Definition.Denotes definitions entries) :
    table.defineAll definitions = table.registerAll entries := by
  induction denoted generalizing table with
  | nil => rfl
  | @cons definition entry _ _ denoted _ ih =>
      rcases table.register_cases entry.template entry.operation with step | ⟨cause, step⟩ <;>
        simp only [defineAll, registerAll, define_of_denotes denoted, step, ih]

theorem denotes_of_defineAll (done : (table.defineAll definitions).2 = .ok ()) :
    ∃ entries, List.Forall₂ Definition.Denotes definitions entries := by
  induction definitions generalizing table with
  | nil => exact ⟨[], .nil⟩
  | cons definition rest ih =>
      cases read : definition.template with
      | error cause => simp [defineAll, define, read] at done
      | ok template =>
          rcases table.register_cases template definition.operation with
            step | ⟨cause, step⟩ <;> simp only [defineAll, define, read, step] at done
          · obtain ⟨entries, denoted⟩ := ih done
            exact ⟨⟨template, definition.operation⟩ :: entries, .cons ⟨read, rfl⟩ denoted⟩
          · cases done

/-- A series that ends in an error has registered the entries before the refused one. -/
theorem exists_refused (failed : table.registerAll entries = (after, .error error)) :
    ∃ accepted refused rest, entries = accepted ++ refused :: rest ∧
      table.registerAll accepted = (after, .ok ()) ∧
      after.register refused.template refused.operation = (after, .error error) := by
  induction entries generalizing table with
  | nil => simp [registerAll] at failed
  | cons entry rest ih =>
      rcases table.register_cases entry.template entry.operation with step | ⟨cause, step⟩ <;>
        simp only [registerAll, step] at failed
      · obtain ⟨accepted, refused, others, split, registered, refusal⟩ := ih failed
        refine ⟨entry :: accepted, refused, others, congrArg _ split, ?_, refusal⟩
        simp only [registerAll, step, registered]
      · cases failed
        exact ⟨[], entry, rest, rfl, rfl, step⟩

end Table

namespace CarAssembly

theorem denoted : List.Forall₂ Definition.Denotes definitions entries := by
  obtain ⟨others, denoted⟩ := Table.denotes_of_defineAll defineAll_definitions
  have accepted : Table.empty.registerAll others = (table, .ok ()) := by
    rw [← Table.defineAll_of_denotes denoted, Table.defineAll_eq, defineAll_definitions, table]
  have listed : table.entries = others := (Table.invariant_empty.registerAll accepted).2
  rwa [← listed, table_entries] at denoted

end CarAssembly

namespace Table

variable {table after : Table} {error : Table.Error}

/-- What is new in a table is found under its mnemonic, where nothing was found before. -/
theorem Invariant.get?_of_extended (invariant : table.Invariant) (holds : after.Invariant)
    {added : List Entry} (extended : after.entries = table.entries ++ added) {entry : Entry}
    (member : entry ∈ added) :
    table.get? entry.mnemonic = none ∧ after.get? entry.mnemonic = some entry := by
  have names := holds.mnemonics
  rw [extended, List.map_append, List.nodup_append'] at names
  constructor
  · cases found : table.get? entry.mnemonic with
    | none => rfl
    | some other =>
        obtain ⟨listed, named⟩ := invariant.get?_eq_some_iff.mp found
        have before := List.mem_map_of_mem (f := Entry.mnemonic) listed
        rw [named] at before
        exact absurd (List.mem_map_of_mem member) (names.2.2 before)
  · refine holds.get?_eq_some_iff.mpr ⟨?_, rfl⟩
    rw [extended]
    exact List.mem_append_right _ member

/-- If the built-in instructions are not all accepted, the table keeps those before the refused
one.  It is left as it was exactly if the first of them is refused. -/
theorem defineAll_interrupted {admitted : Template → Prop} (reachable : table.Reachable admitted)
    (failed : table.defineAll CarAssembly.definitions = (after, .error error)) :
    (∃ accepted refused rest, CarAssembly.entries = accepted ++ refused :: rest ∧
      after.entries = table.entries ++ accepted ∧
      (∀ entry ∈ accepted,
        table.get? entry.mnemonic = none ∧ after.get? entry.mnemonic = some entry) ∧
      after.Refusal refused.template error) ∧
    (after.Alike table ↔ ∃ cause, table.Refusal CarAssembly.entries[0].template cause) := by
  have invariant := reachable.invariant
  rw [defineAll_of_denotes CarAssembly.denoted] at failed
  obtain ⟨accepted, refused, rest, split, registered, refusal⟩ := exists_refused failed
  obtain ⟨holds, extended⟩ := invariant.registerAll registered
  have cause := holds.refusal_of_register (congrArg Prod.snd refusal)
  refine ⟨⟨accepted, refused, rest, split, extended, fun entry member =>
    invariant.get?_of_extended holds extended member, cause⟩, ?_, ?_⟩
  · intro alike
    have none : accepted = [] := by
      rw [alike.entries] at extended
      exact List.append_right_eq_self.mp extended.symm
    subst none
    cases registered
    have same : refused = CarAssembly.entries[0] := by simp [split]
    exact ⟨error, same ▸ cause⟩
  · rintro ⟨cause, refusal⟩
    have stopped : table.registerAll (CarAssembly.entries[0] :: CarAssembly.entries.tail) =
        (table, .error cause) := by
      simp only [registerAll, invariant.register_of_refusal refusal]
    cases stopped.symm.trans failed
    exact .refl table

/-- A table in which one mnemonic of the built-in instructions is taken, the second of them. -/
def subTaken : Table :=
  Table.empty.extend [{
    mnemonic := "sub"
    layout := .zeroRegister
    pattern := "11111111111111111111111111111111"
    operation := .popHood }]

/-- A series that is refused does not always leave the table as it was. -/
theorem defineAll_not_atomic : subTaken.Reachable Template.Built ∧
    (subTaken.defineAll CarAssembly.definitions).2 = .error (.taken "sub") ∧
    ¬ (subTaken.extend CarAssembly.definitions).Alike subTaken := by
  refine ⟨Reachable.empty.extend _, by decide +kernel, ?_⟩
  intro alike
  have before : subTaken.lookup? 0x20 = none := by decide +kernel
  have added : ((subTaken.extend CarAssembly.definitions).lookup? 0x20).isSome = true := by
    decide +kernel
  rw [alike.lookup, before] at added
  exact Bool.false_ne_true added

/-- A table with an instruction for the words of `addi`, the fourth built-in instruction. -/
def addiClaimed : Table :=
  Table.empty.extend [{
    mnemonic := "subi"
    layout := .threeRegister
    pattern := "001000 sssss fffff tttttttttttttttt"
    operation := .addImmediate }]

theorem defineAll_interrupted_addi : addiClaimed.Reachable Template.Built ∧
    addiClaimed.defineAll CarAssembly.definitions =
      (addiClaimed.extend CarAssembly.definitions, .error (.ambiguous "addi" "subi")) ∧
    ¬ (addiClaimed.extend CarAssembly.definitions).Alike addiClaimed := by
  have reachable : addiClaimed.Reachable Template.Built := Reachable.empty.extend _
  have refused : (addiClaimed.defineAll CarAssembly.definitions).2 =
      .error (.ambiguous "addi" "subi") := by
    decide +kernel
  have failed : addiClaimed.defineAll CarAssembly.definitions =
      (addiClaimed.extend CarAssembly.definitions, .error (.ambiguous "addi" "subi")) := by
    rw [defineAll_eq, refused]
  have unchanged := (defineAll_interrupted reachable failed).2
  refine ⟨reachable, failed, mt unchanged.mp ?_⟩
  rintro ⟨cause, refusal⟩
  have accepted :
      (addiClaimed.register CarAssembly.entries[0].template .popHood).2 = .ok () := by
    decide +kernel
  rw [reachable.invariant.register_of_refusal refusal] at accepted
  contradiction

end Table

end CarMachine
