import CarMachine.Proofs.Pattern.Words
import CarMachine.Proofs.Table.Reachable
import Mathlib.Data.List.Pairwise

namespace CarMachine

/-! The representation of a table.

Entries, mnemonic index and look-up order stay in step through every call, and any two
entries stay separable although a registration compares only the new one with the others.
-/

/-- The words of an entry's pattern. -/
def Entry.words (entry : Entry) : Set Word :=
  entry.template.pattern.words

theorem Entry.words_ssubset_iff {narrow wide : Entry} : narrow.words ⊂ wide.words ↔
    wide.template.pattern.strictlyContains narrow.template.pattern = true :=
  Pattern.strictlyContains_iff.symm

namespace Table

variable {table next : Table} {template : Template} {operation : Operation} {new : Entry}

theorem insertBefore_perm (test : Nat → Bool) (position : Nat) (order : List Nat) :
    (insertBefore test position order).Perm (position :: order) := by
  induction order with
  | nil => exact .refl _
  | cons other rest ih =>
      simp only [insertBefore]
      split
      · exact .refl _
      · exact (ih.cons other).trans (.swap position other rest)

/-- Inserting keeps an order in which the test, once passed, is passed to the end. -/
theorem insertBefore_pairwise {related : Nat → Nat → Prop} {test : Nat → Bool}
    {position : Nat} {order : List Nat} (sorted : order.Pairwise related)
    (before : ∀ other ∈ order, test other = true → related position other)
    (after : ∀ other ∈ order, test other = false → related other position)
    (upward : ∀ first ∈ order, ∀ second ∈ order, related first second →
      test first = true → test second = true) :
    (insertBefore test position order).Pairwise related := by
  induction order with
  | nil => simp [insertBefore]
  | cons other rest ih =>
      obtain ⟨first, tail⟩ := List.pairwise_cons.mp sorted
      simp only [insertBefore]
      split
      · rename_i passed
        refine List.pairwise_cons.mpr ⟨?_, sorted⟩
        intro later member
        apply before later member
        rcases List.mem_cons.mp member with same | member
        · rwa [same]
        · exact upward other (by simp) later (by simp [member]) (first later member) passed
      · rename_i failed
        refine List.pairwise_cons.mpr ⟨?_, ih tail ?_ ?_ ?_⟩
        · intro later member
          rcases List.mem_cons.mp ((insertBefore_perm _ _ _).mem_iff.mp member) with same | member
          · rw [same]
            exact after other (by simp) (by simpa using failed)
          · exact first later member
        · exact fun later member => before later (by simp [member])
        · exact fun later member => after later (by simp [member])
        · exact fun earlier member later memberLater =>
            upward earlier (by simp [member]) later (by simp [memberLater])

/-- The three lists of a table are in step.  The index holds the position of every entry
under its mnemonic and nothing else, and the look-up order names every position once. -/
structure Invariant (table : Table) : Prop where
  mnemonics : (table.entries.map Entry.mnemonic).Nodup
  index : ∀ mnemonic position, table.positions.lookup mnemonic = some position ↔
    (table.entries[position]?).map Entry.mnemonic = some mnemonic
  order : table.decodeOrder.Perm (List.range table.entries.length)
  sorted : table.ordered.Pairwise fun earlier later =>
    later.literalCount ≤ earlier.literalCount
  separable : table.entries.Pairwise fun first second =>
    first.template.pattern.Separable second.template.pattern

theorem invariant_empty : Table.empty.Invariant where
  mnemonics := .nil
  index := by simp [Table.empty]
  order := .nil
  sorted := .nil
  separable := .nil

namespace Invariant

theorem mem_decodeOrder (invariant : table.Invariant) {position : Nat} :
    position ∈ table.decodeOrder ↔ position < table.entries.length := by
  rw [invariant.order.mem_iff, List.mem_range]

theorem mem_ordered (invariant : table.Invariant) {entry : Entry} :
    entry ∈ table.ordered ↔ entry ∈ table.entries := by
  rw [ordered, List.mem_filterMap, List.mem_iff_getElem?]
  constructor
  · intro listed
    obtain ⟨position, _, found⟩ := listed
    exact ⟨position, found⟩
  · intro present
    obtain ⟨position, found⟩ := present
    have bound := (List.getElem?_eq_some_iff.mp found).1
    exact ⟨position, invariant.mem_decodeOrder.mpr bound, found⟩

theorem separable_of_ne (invariant : table.Invariant) {first second : Entry}
    (member : first ∈ table.entries) (other : second ∈ table.entries)
    (different : first ≠ second) :
    first.template.pattern.Separable second.template.pattern := by
  have symmetric : Std.Symm fun first second : Entry =>
      first.template.pattern.Separable second.template.pattern :=
    ⟨fun _ _ separable => separable.symm⟩
  exact invariant.separable.forall member other different

theorem get?_eq_some_iff (invariant : table.Invariant) {mnemonic : String} {entry : Entry} :
    table.get? mnemonic = some entry ↔
      entry ∈ table.entries ∧ entry.mnemonic = mnemonic := by
  simp only [get?, Option.bind_eq_some_iff, invariant.index]
  constructor
  · intro indexed
    obtain ⟨position, named, found⟩ := indexed
    rw [found, Option.map_some, Option.some.injEq] at named
    exact ⟨List.mem_of_getElem? found, named⟩
  · intro present
    obtain ⟨member, named⟩ := present
    obtain ⟨position, found⟩ := List.mem_iff_getElem?.mp member
    exact ⟨position, by rw [found, Option.map_some, named], found⟩

theorem taken_iff (invariant : table.Invariant) {mnemonic : String} :
    (table.positions.lookup mnemonic).isSome = true ↔
      ∃ entry ∈ table.entries, entry.mnemonic = mnemonic := by
  rw [Option.isSome_iff_exists]
  constructor
  · intro indexed
    obtain ⟨position, found⟩ := indexed
    obtain ⟨entry, present, named⟩ := Option.map_eq_some_iff.mp ((invariant.index ..).mp found)
    exact ⟨entry, List.mem_of_getElem? present, named⟩
  · intro present
    obtain ⟨entry, member, named⟩ := present
    obtain ⟨position, present⟩ := List.mem_iff_getElem?.mp member
    exact ⟨position, (invariant.index ..).mpr (by rw [present, Option.map_some, named])⟩

/-- Everything that an accepted registration needs and does. -/
theorem register_eq_ok_iff (invariant : table.Invariant) :
    table.register template operation = (next, .ok ()) ↔
      (∀ entry ∈ table.entries, entry.mnemonic ≠ template.mnemonic) ∧
      (∀ entry ∈ table.entries, entry.template.pattern.Separable template.pattern) ∧
      next = table.push ⟨template, operation⟩ := by
  have free : (∀ entry ∈ table.entries, entry.mnemonic ≠ template.mnemonic) ↔
      ¬ (table.positions.lookup template.mnemonic).isSome = true := by
    rw [invariant.taken_iff]
    simp only [not_exists, not_and, ne_eq]
  have clear : (∀ entry ∈ table.entries,
      entry.template.pattern.Separable template.pattern) ↔
      table.conflict? template.pattern = none := by
    simp only [conflict?, List.find?_eq_none, Bool.not_eq_true, Bool.not_eq_false',
      Pattern.compatible_iff]
  rw [free, clear, register]
  by_cases taken : (table.positions.lookup template.mnemonic).isSome = true
  · simp [taken]
  · cases found : table.conflict? template.pattern with
    | none => simp [taken, eq_comm]
    | some existing => simp [taken]

/-- A position in look-up order has the entry that it has after a registration. -/
theorem entry_at (invariant : table.Invariant) {position : Nat}
    (member : position ∈ table.decodeOrder) (new : Entry) :
    ∃ entry, table.entries[position]? = some entry ∧
      (table.push new).entries[position]? = some entry := by
  have bound := invariant.mem_decodeOrder.mp member
  have found := List.getElem?_eq_getElem bound
  exact ⟨table.entries[position], found, (List.getElem?_append_left bound).trans found⟩

theorem index_push (invariant : table.Invariant)
    (fresh : ∀ entry ∈ table.entries, entry.mnemonic ≠ new.mnemonic)
    (mnemonic : String) (position : Nat) :
    (table.push new).positions.lookup mnemonic = some position ↔
      ((table.push new).entries[position]?).map Entry.mnemonic = some mnemonic := by
  simp only [Table.push, List.lookup_cons]
  have known := invariant.index mnemonic position
  by_cases named : mnemonic = new.mnemonic
  · simp only [named, BEq.rfl, Option.some.injEq]
    by_cases bound : position < table.entries.length
    · rw [List.getElem?_append_left bound, List.getElem?_eq_getElem bound, Option.map_some,
        Option.some.injEq]
      have other := fresh _ (List.getElem_mem bound)
      simp only [other, iff_false]
      omega
    · rw [List.getElem?_append_right (by omega), List.getElem?_singleton]
      split
      · simp only [Option.map_some, iff_true]
        omega
      · simp only [Option.map_none, reduceCtorEq, iff_false]
        omega
  · have other : (mnemonic == new.mnemonic) = false := beq_eq_false_iff_ne.mpr named
    simp only [other, known]
    by_cases bound : position < table.entries.length
    · rw [List.getElem?_append_left bound]
    · rw [List.getElem?_append_right (by omega), List.getElem?_singleton,
        List.getElem?_eq_none (by omega)]
      split
      · simp [Ne.symm named]
      · rfl

theorem order_push (invariant : table.Invariant) (new : Entry) :
    (table.push new).decodeOrder.Perm (List.range (table.push new).entries.length) := by
  have inserted := insertBefore_perm (table.fewerLiterals new) table.entries.length
    table.decodeOrder
  simp only [Table.push, List.length_append, List.length_singleton, List.range_succ]
  exact (inserted.trans (invariant.order.cons _)).trans (List.perm_append_singleton _ _).symm

theorem sorted_push (invariant : table.Invariant) (new : Entry) :
    (table.push new).ordered.Pairwise fun earlier later =>
      later.literalCount ≤ earlier.literalCount := by
  have last : (table.push new).entries[table.entries.length]? = some new := by
    simp [Table.push]
  have test : ∀ position ∈ table.decodeOrder, ∀ entry,
      (table.push new).entries[position]? = some entry →
      table.fewerLiterals new position = decide (entry.literalCount < new.literalCount) := by
    intro position member entry found
    obtain ⟨same, before, after⟩ := invariant.entry_at member new
    rw [found, Option.some.injEq] at after
    simp only [fewerLiterals, before, Option.any_some, after]
  rw [ordered, List.pairwise_filterMap]
  apply insertBefore_pairwise
  · refine (List.pairwise_filterMap.mp invariant.sorted).imp_of_mem ?_
    intro first second member other related entry found later foundLater
    obtain ⟨same, before, after⟩ := invariant.entry_at member new
    obtain ⟨sameLater, beforeLater, afterLater⟩ := invariant.entry_at other new
    rw [found, Option.some.injEq] at after
    rw [foundLater, Option.some.injEq] at afterLater
    exact related entry (after ▸ before) later (afterLater ▸ beforeLater)
  · intro other member passed entry found later foundLater
    rw [last, Option.some.injEq] at found
    rw [test other member later foundLater, decide_eq_true_eq] at passed
    subst found
    omega
  · intro other member failed entry found later foundLater
    rw [last, Option.some.injEq] at foundLater
    rw [test other member entry found, decide_eq_false_iff_not] at failed
    subst foundLater
    omega
  · intro first member second other related passed
    obtain ⟨entry, _, found⟩ := invariant.entry_at member new
    obtain ⟨later, _, foundLater⟩ := invariant.entry_at other new
    rw [test first member entry found, decide_eq_true_eq] at passed
    rw [test second other later foundLater, decide_eq_true_eq]
    exact Nat.lt_of_le_of_lt (related entry found later foundLater) passed

theorem push (invariant : table.Invariant)
    (fresh : ∀ entry ∈ table.entries, entry.mnemonic ≠ new.mnemonic)
    (apart : ∀ entry ∈ table.entries,
      entry.template.pattern.Separable new.template.pattern) :
    (table.push new).Invariant where
  mnemonics := by
    have absent : new.mnemonic ∉ table.entries.map Entry.mnemonic := by
      rw [List.mem_map]
      intro listed
      obtain ⟨entry, member, named⟩ := listed
      exact fresh entry member named
    simpa [Table.push, List.nodup_append, invariant.mnemonics] using absent
  index := invariant.index_push fresh
  order := invariant.order_push new
  sorted := invariant.sorted_push new
  separable := by
    simp only [Table.push, List.pairwise_append, invariant.separable, true_and]
    exact ⟨List.pairwise_singleton _ _, fun entry member other only =>
      List.mem_singleton.mp only ▸ apart entry member⟩

theorem register (invariant : table.Invariant)
    (accepted : table.register template operation = (next, .ok ())) : next.Invariant := by
  obtain ⟨fresh, apart, rfl⟩ := invariant.register_eq_ok_iff.mp accepted
  exact invariant.push fresh apart

/-- The narrower of two nested entries comes first in look-up order. -/
theorem narrower_first (invariant : table.Invariant) {inner outer : Nat}
    {narrow wide : Entry} (found : table.entries[inner]? = some narrow)
    (other : table.entries[outer]? = some wide) (narrower : narrow.words ⊂ wide.words) :
    table.decodeOrder.idxOf inner < table.decodeOrder.idxOf outer := by
  have fewer : wide.literalCount < narrow.literalCount := Pattern.literalCount_lt narrower
  have innerMember := invariant.mem_decodeOrder.mpr (List.getElem?_eq_some_iff.mp found).1
  have outerMember := invariant.mem_decodeOrder.mpr (List.getElem?_eq_some_iff.mp other).1
  by_contra late
  have ordered := List.pairwise_iff_getElem.mp (List.pairwise_filterMap.mp invariant.sorted)
    (table.decodeOrder.idxOf outer) (table.decodeOrder.idxOf inner)
    (List.idxOf_lt_length_of_mem outerMember) (List.idxOf_lt_length_of_mem innerMember)
  simp only [List.getElem_idxOf] at ordered
  rcases Nat.lt_or_eq_of_le (Nat.le_of_not_lt late) with before | same
  · exact absurd (ordered before wide other narrow found) (by omega)
  · have positions : outer = inner := by
      have atOuter := List.getElem_idxOf (List.idxOf_lt_length_of_mem outerMember)
      have atInner := List.getElem_idxOf (List.idxOf_lt_length_of_mem innerMember)
      simp only [same] at atOuter
      exact atOuter.symm.trans atInner
    rw [positions, found, Option.some.injEq] at other
    exact absurd fewer (by rw [other]; omega)

theorem perform (invariant : table.Invariant) (call : Call) :
    (table.perform call).1.Invariant := by
  have kept : KeptByRegister (fun _ => True) Invariant :=
    fun holds _ accepted => holds.register accepted
  apply kept.perform invariant
  cases call <;> trivial

end Invariant

theorem Reachable.invariant {admitted : Template → Prop} (reachable : table.Reachable admitted) :
    table.Invariant := by
  apply reachable.holds _ invariant_empty
  exact fun holds _ accepted => holds.register accepted

/-- The representation of every reachable table, and that no call breaks it.  In look-up
order a narrower entry stands before the entries around it. -/
theorem representation_invariant {admitted : Template → Prop}
    (reachable : table.Reachable admitted) :
    table.Invariant ∧
      (∀ mnemonic entry, table.get? mnemonic = some entry ↔
        entry ∈ table.entries ∧ entry.mnemonic = mnemonic) ∧
      (∀ inner outer narrow wide, table.entries[inner]? = some narrow →
        table.entries[outer]? = some wide → narrow.words ⊂ wide.words →
        table.decodeOrder.idxOf inner < table.decodeOrder.idxOf outer) ∧
      ∀ start : Table, start.Invariant → ∀ call, (start.perform call).1.Invariant := by
  have invariant := reachable.invariant
  refine ⟨invariant, fun mnemonic entry => invariant.get?_eq_some_iff, ?_, ?_⟩
  · intro inner outer narrow wide found other narrower
    exact invariant.narrower_first found other narrower
  · intro start holds call
    exact holds.perform call

theorem representation_invariant_of_carAssembly :
    CarAssembly.table.Reachable Template.Built ∧ CarAssembly.table.Invariant :=
  have reachable := CarAssembly.table_reachable Template.Built
  ⟨reachable, (representation_invariant reachable).1⟩

end Table

end CarMachine
