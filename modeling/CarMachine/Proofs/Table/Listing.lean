import CarMachine.Proofs.Pattern.Rendering
import CarMachine.Proofs.Table.Invariant

namespace CarMachine

/-! The listing of a table.

A listing has everything that a registration asks for.  Registered in order, the listed
instructions make the table again; what was refused on the way to the table has left
nothing in it.
-/

/-- An entry as it is written down. -/
def Entry.definition (entry : Entry) : Definition where
  mnemonic := entry.mnemonic
  usage := entry.template.usage
  description := entry.template.description
  layout := entry.template.layout
  pattern := entry.template.pattern.render
  operation := entry.operation

theorem Template.Built.template_definition {entry : Entry} (built : entry.template.Built) :
    entry.definition.template = .ok entry.template := by
  obtain ⟨text, built⟩ := built
  obtain ⟨pattern, parsed, agree, same⟩ := Template.build_eq_ok_iff.mp built
  have read : Pattern.parse entry.template.pattern.render = .ok pattern := by
    rw [same]
    exact Pattern.parse_render parsed
  exact Template.build_eq_ok_iff.mpr ⟨pattern, read, agree, same⟩

namespace Table

variable {table next : Table} {entry : Entry}

def listing (table : Table) : List Definition :=
  table.entries.map Entry.definition

theorem define_definition (built : entry.template.Built) :
    table.define entry.definition = table.register entry.template entry.operation := by
  rw [define, built.template_definition]
  rfl

theorem defineAll_append (first second : List Definition)
    (accepted : table.defineAll first = (next, .ok ())) :
    table.defineAll (first ++ second) = next.defineAll second := by
  induction first generalizing table with
  | nil =>
      cases accepted
      rfl
  | cons definition rest ih =>
      rcases table.define_cases definition with ⟨middle, step⟩ | ⟨error, step⟩ <;>
        simp only [defineAll, step] at accepted
      · simp only [List.cons_append, defineAll, step, ih accepted]
      · cases accepted

/-- The listing of a table makes the table again, with its index and its look-up order. -/
theorem defineAll_listing (reachable : table.Reachable Template.Built) :
    Table.empty.defineAll table.listing = (table, .ok ()) := by
  -- What is kept along registrations, refused ones included: the listing so far makes the
  -- table so far.
  have kept : KeptByRegister Template.Built fun table =>
      table.Invariant ∧ Table.empty.defineAll table.listing = (table, .ok ()) := by
    intro table next template operation holds built accepted
    obtain ⟨invariant, replayed⟩ := holds
    let entry : Entry := ⟨template, operation⟩
    have last : table.define entry.definition = (next, .ok ()) :=
      (define_definition (built.elim id id)).trans accepted
    have listed : next.listing = table.listing ++ [entry.definition] := by
      obtain ⟨_, _, rfl⟩ := invariant.register_eq_ok_iff.mp accepted
      simp only [listing, push, List.map_append, List.map_singleton, entry]
    refine ⟨invariant.register accepted, ?_⟩
    rw [listed, defineAll_append _ _ replayed]
    simp only [defineAll, last]
  exact (reachable.holds kept ⟨invariant_empty, rfl⟩).2

theorem defineAll_listing_carAssembly :
    CarAssembly.table.Reachable Template.Built ∧
      Table.empty.defineAll CarAssembly.table.listing = (CarAssembly.table, .ok ()) :=
  have reachable := CarAssembly.table_reachable Template.Built
  ⟨reachable, defineAll_listing reachable⟩

end Table

end CarMachine
