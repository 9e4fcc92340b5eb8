import CarMachine.Proofs.CarAssembly.Entries
import CarMachine.Proofs.Table.Invariant

namespace CarMachine.Table

/-! Looking a word up.

The first match in look-up order has most literal bits among the matches.  As the matches
of one word are nested in each other, it is the narrowest of them.
-/

variable {table : Table} {word : Word} {entry : Entry} {admitted : Template → Prop}

/-- Whether a word of an entry is also one of a narrower entry. -/
def Shadowed (table : Table) (entry : Entry) (word : Word) : Prop :=
  ∃ narrower ∈ table.entries, narrower.template.Matches word ∧ narrower.words ⊂ entry.words

namespace Invariant

theorem lookup?_eq_none_iff (invariant : table.Invariant) :
    table.lookup? word = none ↔ ∀ entry ∈ table.entries, ¬ entry.template.Matches word := by
  simp only [lookup?, List.find?_eq_none, decide_eq_true_eq, invariant.mem_ordered]

/-- The matches of one word are nested in each other. -/
theorem nested (invariant : table.Invariant) {first second : Entry}
    (member : first ∈ table.entries) (other : second ∈ table.entries)
    (matched : first.template.Matches word) (alsoMatched : second.template.Matches word)
    (different : first ≠ second) :
    first.words ⊂ second.words ∨ second.words ⊂ first.words :=
  (invariant.separable_of_ne member other different).nested matched alsoMatched

theorem lookup?_sound (invariant : table.Invariant) (found : table.lookup? word = some entry) :
    entry ∈ table.entries ∧ entry.template.Matches word ∧
      ∀ other ∈ table.entries, other.template.Matches word → other ≠ entry →
        entry.words ⊂ other.words := by
  obtain ⟨matched, before, after, split, skipped⟩ := List.find?_eq_some_iff_append.mp found
  have member : entry ∈ table.entries := by
    rw [← invariant.mem_ordered, split]
    simp
  refine ⟨member, of_decide_eq_true matched, ?_⟩
  intro other otherMember alsoMatched different
  have later : other ∈ after := by
    have present := invariant.mem_ordered.mpr otherMember
    rw [split, List.mem_append, List.mem_cons] at present
    rcases present with earlier | same | later
    · simpa [alsoMatched] using skipped other earlier
    · exact absurd same different
    · exact later
  have fewer : other.literalCount ≤ entry.literalCount := by
    have sorted := invariant.sorted
    rw [split, List.pairwise_append, List.pairwise_cons] at sorted
    exact sorted.2.1.1 other later
  rcases invariant.nested member otherMember (of_decide_eq_true matched) alsoMatched
    different.symm with narrower | wider
  · exact narrower
  · exact absurd (Pattern.literalCount_lt wider) (Nat.not_lt.mpr fewer)

theorem lookup?_eq_some_iff (invariant : table.Invariant) :
    table.lookup? word = some entry ↔
      entry ∈ table.entries ∧ entry.template.Matches word ∧
        ∀ other ∈ table.entries, other.template.Matches word → other ≠ entry →
          entry.words ⊂ other.words := by
  refine ⟨invariant.lookup?_sound, ?_⟩
  intro narrowestMatch
  obtain ⟨member, matched, narrowest⟩ := narrowestMatch
  cases found : table.lookup? word with
  | none => exact absurd matched (invariant.lookup?_eq_none_iff.mp found entry member)
  | some first =>
      obtain ⟨firstMember, firstMatched, firstNarrowest⟩ := invariant.lookup?_sound found
      by_cases same : first = entry
      · rw [same]
      · have inside := narrowest first firstMember firstMatched same
        have around := firstNarrowest entry member matched (Ne.symm same)
        exact absurd (inside.trans around) (lt_irrefl _)

/-- The matches of one word form a chain. -/
theorem matching_chain (invariant : table.Invariant) (word : Word) :
    (table.entries.filter fun entry => decide (entry.template.Matches word)).Pairwise
      fun first second => first.words ⊂ second.words ∨ second.words ⊂ first.words := by
  have separable := invariant.separable.filter fun entry => decide (entry.template.Matches word)
  refine separable.imp_of_mem ?_
  intro first second member other apart
  exact apart.nested (of_decide_eq_true (List.mem_filter.mp member).2)
    (of_decide_eq_true (List.mem_filter.mp other).2)

/-- Without a narrower match an entry is found for its words. -/
theorem lookup?_of_not_shadowed (invariant : table.Invariant) (member : entry ∈ table.entries)
    (matched : entry.template.Matches word) (clear : ¬ table.Shadowed entry word) :
    table.lookup? word = some entry := by
  refine invariant.lookup?_eq_some_iff.mpr ⟨member, matched, ?_⟩
  intro other otherMember alsoMatched different
  rcases invariant.nested member otherMember matched alsoMatched different.symm with
    inside | around
  · exact inside
  · exact absurd ⟨other, otherMember, alsoMatched, around⟩ clear

theorem lookup?_of_shadowed (invariant : table.Invariant) (member : entry ∈ table.entries)
    (matched : entry.template.Matches word) (shadowed : table.Shadowed entry word) :
    ∃ narrower ∈ table.entries, narrower.template.Matches word ∧
      narrower.words ⊂ entry.words ∧ table.lookup? word = some narrower := by
  cases found : table.lookup? word with
  | none => exact absurd matched (invariant.lookup?_eq_none_iff.mp found entry member)
  | some first =>
      obtain ⟨firstMember, firstMatched, narrowest⟩ := invariant.lookup?_sound found
      refine ⟨first, firstMember, firstMatched, ?_, rfl⟩
      by_cases same : entry = first
      · obtain ⟨shadow, shadowMember, shadowMatched, inside⟩ := shadowed
        have different : shadow ≠ first := by
          intro alike
          rw [alike, same] at inside
          exact lt_irrefl _ inside
        exact absurd (inside.trans_subset (same ▸ (narrowest shadow shadowMember shadowMatched
          different).subset)) (lt_irrefl _)
      · exact narrowest entry member matched same

end Invariant

/-- Looking a word up finds nothing exactly if nothing matches, and otherwise the entry
that lies strictly inside all other matches, which form a chain. -/
theorem lookup?_narrowest (reachable : table.Reachable admitted) (word : Word) :
    (table.lookup? word = none ↔
      ∀ entry ∈ table.entries, ¬ entry.template.Matches word) ∧
    (∀ entry, table.lookup? word = some entry ↔
      entry ∈ table.entries ∧ entry.template.Matches word ∧
        ∀ other ∈ table.entries, other.template.Matches word → other ≠ entry →
          entry.words ⊂ other.words) ∧
    (table.entries.filter fun entry => decide (entry.template.Matches word)).Pairwise
      fun first second => first.words ⊂ second.words ∨ second.words ⊂ first.words :=
  have invariant := reachable.invariant
  ⟨invariant.lookup?_eq_none_iff, fun _ => invariant.lookup?_eq_some_iff,
    invariant.matching_chain word⟩

theorem lookup?_narrowest_popHood :
    CarAssembly.table.Reachable Template.Built ∧
      CarAssembly.table.lookup? 0x18 = some CarAssembly.popHood := by
  have reachable := CarAssembly.table_reachable Template.Built
  refine ⟨reachable, ((lookup?_narrowest reachable 0x18).2.1 _).mpr ?_⟩
  simp only [CarAssembly.table_entries, Entry.words_ssubset_iff]
  decide +kernel

end CarMachine.Table
