import CarMachine.Proofs.Table.Lookup
import CarMachine.Proofs.Template.Codec
import CarMachine.Table.Decoding

namespace CarMachine

/-! Decoding words and resolving operands.

Both lead to the same instruction, except for a word that belongs to a narrower entry: the
decoder answers with that one.  Among the built-in instructions this happens to a single
word.
-/

namespace Table

variable {table : Table} {mnemonic : String} {operands : Operands} {word : Word}
  {entry : Entry} {decoded : Decoded}

theorem decode_eq_ok_iff : table.decode word = .ok decoded ↔
    ∃ entry, table.lookup? word = some entry ∧
      decoded = { word := some word, entry, operands := entry.template.operandsOf word } := by
  cases found : table.lookup? word <;> simp [decode, found, eq_comm]

theorem resolve_eq_ok_iff : table.resolve mnemonic operands = .ok decoded ↔
    ∃ entry, table.get? mnemonic = some entry ∧ entry.template.check operands = .ok () ∧
      decoded = { word := none, entry, operands } := by
  cases found : table.get? mnemonic with
  | none => simp [resolve, found]
  | some entry =>
      cases checked : entry.template.check operands <;>
        simp [resolve, found, checked, eq_comm]

theorem Reachable.built (reachable : table.Reachable Template.Built)
    (member : entry ∈ table.entries) : entry.template.Built := by
  have kept : KeptByRegister Template.Built fun table =>
      table.Invariant ∧ ∀ entry ∈ table.entries, entry.template.Built := by
    intro table next template operation holds built accepted
    obtain ⟨invariant, all⟩ := holds
    refine ⟨invariant.register accepted, ?_⟩
    obtain ⟨_, _, rfl⟩ := invariant.register_eq_ok_iff.mp accepted
    intro entry member
    rcases List.mem_append.mp member with old | new
    · exact all entry old
    · rw [List.mem_singleton.mp new]
      exact built.elim id id
  have start : Table.empty.Invariant ∧
      ∀ entry ∈ Table.empty.entries, entry.template.Built :=
    ⟨invariant_empty, List.forall_mem_nil _⟩
  exact (reachable.holds kept start).2 entry member

/-- Decoding and resolving lead to the same instructions, up to narrower entries that take
the words of others. -/
structure Faithful (table : Table) : Prop where
  resolve_of_decode : ∀ word decoded, table.decode word = .ok decoded →
    table.resolve decoded.mnemonic decoded.operands = .ok { decoded with word := none } ∧
      decoded.entry.template.encode decoded.operands = .ok word
  resolves_iff : ∀ mnemonic entry operands, table.get? mnemonic = some entry →
    ((∃ resolved, table.resolve mnemonic operands = .ok resolved) ↔
      ∃ word, entry.template.Matches word ∧ entry.template.operandsOf word = operands)
  encode_of_resolve : ∀ mnemonic operands resolved,
    table.resolve mnemonic operands = .ok resolved →
    table.get? mnemonic = some resolved.entry ∧ resolved.operands = operands ∧
      ∃ word, resolved.entry.template.encode operands = .ok word ∧
        resolved.entry.template.Matches word ∧
        resolved.entry.template.operandsOf word = operands
  decode_of_encode : ∀ mnemonic entry operands word, table.get? mnemonic = some entry →
    entry.template.encode operands = .ok word → ¬ table.Shadowed entry word →
    table.decode word = .ok { word := some word, entry, operands }
  decode_of_shadowed : ∀ mnemonic entry operands word, table.get? mnemonic = some entry →
    entry.template.encode operands = .ok word → table.Shadowed entry word →
    ∃ narrower ∈ table.entries, narrower.template.Matches word ∧
      narrower.words ⊂ entry.words ∧
      table.decode word = .ok
        { word := some word, entry := narrower, operands := narrower.template.operandsOf word }

theorem Reachable.faithful (reachable : table.Reachable Template.Built) : table.Faithful := by
  have invariant := reachable.invariant
  have known : ∀ {mnemonic entry}, table.get? mnemonic = some entry →
      entry ∈ table.entries ∧ entry.template.Built := by
    intro mnemonic entry found
    have member := (invariant.get?_eq_some_iff.mp found).1
    exact ⟨member, reachable.built member⟩
  constructor
  case resolve_of_decode =>
    intro word decoded accepted
    obtain ⟨entry, found, rfl⟩ := decode_eq_ok_iff.mp accepted
    obtain ⟨member, matched, _⟩ := invariant.lookup?_eq_some_iff.mp found
    have built := reachable.built member
    have named : table.get? entry.mnemonic = some entry :=
      invariant.get?_eq_some_iff.mpr ⟨member, rfl⟩
    exact ⟨resolve_eq_ok_iff.mpr ⟨entry, named, built.check_operandsOf word, rfl⟩,
      built.encode_eq_ok_iff.mpr ⟨matched, rfl⟩⟩
  case resolves_iff =>
    intro mnemonic entry operands found
    obtain ⟨_, built⟩ := known found
    rw [← built.check_eq_ok_iff_exists]
    simp only [resolve_eq_ok_iff, found, Option.some.injEq, exists_eq_left']
    exact ⟨fun ⟨_, checked, _⟩ => checked, fun checked => ⟨_, checked, rfl⟩⟩
  case encode_of_resolve =>
    intro mnemonic operands resolved accepted
    obtain ⟨entry, found, checked, rfl⟩ := resolve_eq_ok_iff.mp accepted
    obtain ⟨_, built⟩ := known found
    obtain ⟨word, matched, held⟩ := built.check_eq_ok_iff_exists.mp checked
    exact ⟨found, rfl, word, built.encode_eq_ok_iff.mpr ⟨matched, held⟩, matched, held⟩
  case decode_of_encode =>
    intro mnemonic entry operands word found encoded clear
    obtain ⟨member, built⟩ := known found
    obtain ⟨matched, rfl⟩ := built.encode_eq_ok_iff.mp encoded
    exact decode_eq_ok_iff.mpr
      ⟨entry, invariant.lookup?_of_not_shadowed member matched clear, rfl⟩
  case decode_of_shadowed =>
    intro mnemonic entry operands word found encoded shadowed
    obtain ⟨member, built⟩ := known found
    obtain ⟨matched, _⟩ := built.encode_eq_ok_iff.mp encoded
    obtain ⟨narrower, present, also, inside, first⟩ :=
      invariant.lookup?_of_shadowed member matched shadowed
    exact ⟨narrower, present, also, inside, decode_eq_ok_iff.mpr ⟨narrower, first, rfl⟩⟩

end Table

namespace CarAssembly

variable {entry narrow wide : Entry} {operands : Operands} {word : Word}

/-- The only nesting among the built-in instructions. -/
theorem nested_iff (narrowMember : narrow ∈ table.entries) (wideMember : wide ∈ table.entries) :
    narrow.words ⊂ wide.words ↔ narrow = popHood ∧ wide = mul := by
  have all : ∀ narrow ∈ entries, ∀ wide ∈ entries,
      wide.template.pattern.strictlyContains narrow.template.pattern = true ↔
        narrow = popHood ∧ wide = mul := by
    decide +kernel
  rw [table_entries] at narrowMember wideMember
  rw [Entry.words_ssubset_iff]
  exact all narrow narrowMember wide wideMember

theorem matches_popHood : popHood.template.Matches word ↔ word = 0x18 := by
  have mask : popHood.template.pattern.mask = BitVec.allOnes 32 := by decide +kernel
  have bits : popHood.template.pattern.bits = 0x18 := by decide +kernel
  rw [Template.Matches, Pattern.Matches, mask, bits, BitVec.and_allOnes]

theorem mnemonic_eq_mul_iff (member : entry ∈ table.entries) :
    entry.mnemonic = "mul" ↔ entry = mul := by
  have all : ∀ entry ∈ entries, entry.mnemonic = "mul" ↔ entry = mul := by decide +kernel
  rw [table_entries] at member
  exact all entry member

/-- The one built-in instruction whose word belongs to another one. -/
theorem shadowed_iff (member : entry ∈ table.entries)
    (encoded : entry.template.encode operands = .ok word) :
    table.Shadowed entry word ↔ entry.mnemonic = "mul" ∧ operands.values = [0, 0, 0] := by
  have built := (table_reachable Template.Built).built member
  obtain ⟨matched, held⟩ := built.encode_eq_ok_iff.mp encoded
  rw [mnemonic_eq_mul_iff member]
  constructor
  · intro shadowed
    obtain ⟨narrower, narrowMember, narrowMatched, inside⟩ := shadowed
    obtain ⟨rfl, rfl⟩ := (nested_iff narrowMember member).mp inside
    rw [matches_popHood.mp narrowMatched] at held
    rw [← held]
    decide +kernel
  · intro exception
    obtain ⟨rfl, zeros⟩ := exception
    have assembled := (Template.encode_eq_ok_iff_check.mp encoded).2
    have popHoodMember : popHood ∈ table.entries := by
      rw [table_entries]
      decide +kernel
    refine ⟨popHood, popHoodMember, ?_, (nested_iff popHoodMember member).mpr ⟨rfl, rfl⟩⟩
    rw [matches_popHood, ← assembled, zeros]
    decide +kernel

def threeZeros : Operands := ⟨[0, 0, 0], by decide⟩

theorem decode_encode_iff {mnemonic : String} {resolved : Decoded}
    (accepted : table.resolve mnemonic operands = .ok resolved)
    (encoded : resolved.entry.template.encode operands = .ok word) :
    table.decode word = .ok { resolved with word := some word } ↔
      ¬ (mnemonic = "mul" ∧ operands = threeZeros) := by
  have reachable := table_reachable Template.Built
  have faithful := reachable.faithful
  obtain ⟨found, rfl, _⟩ := faithful.encode_of_resolve _ _ _ accepted
  obtain ⟨member, rfl⟩ := reachable.invariant.get?_eq_some_iff.mp found
  have exception : resolved.operands = threeZeros ↔ resolved.operands.values = [0, 0, 0] :=
    Operands.ext_iff
  rw [exception, ← shadowed_iff member encoded]
  constructor
  · intro decoded shadowed
    obtain ⟨narrower, _, _, inside, other⟩ :=
      faithful.decode_of_shadowed _ _ _ _ found encoded shadowed
    rw [decoded, Except.ok.injEq, Decoded.mk.injEq] at other
    exact inside.ne (congrArg Entry.words other.2.1.symm)
  · exact faithful.decode_of_encode _ _ _ _ found encoded

/-- The exception is real. -/
theorem decode_threeZeros : ∃ resolved decoded word,
    table.resolve "mul" threeZeros = .ok resolved ∧
      resolved.entry.template.encode threeZeros = .ok word ∧
      table.decode word = .ok decoded ∧ decoded.mnemonic = "pophood" := by
  have reachable := table_reachable Template.Built
  have member : mul ∈ table.entries := by
    rw [table_entries]
    decide +kernel
  have named : mul.mnemonic = "mul" := (mnemonic_eq_mul_iff member).mpr rfl
  have found : table.get? "mul" = some mul :=
    reachable.invariant.get?_eq_some_iff.mpr ⟨member, named⟩
  have checked : mul.template.check threeZeros = .ok () :=
    Template.check_eq_ok_iff.mpr (by decide +kernel)
  have encoded : mul.template.encode threeZeros = .ok 0x18 :=
    Template.encode_eq_ok_iff_check.mpr ⟨checked, by decide +kernel⟩
  have shadowed : table.Shadowed mul 0x18 := (shadowed_iff member encoded).mpr ⟨named, rfl⟩
  obtain ⟨narrower, narrowMember, _, inside, decoded⟩ :=
    reachable.faithful.decode_of_shadowed _ _ _ _ found encoded shadowed
  obtain ⟨rfl, _⟩ := (nested_iff narrowMember member).mp inside
  exact ⟨_, _, 0x18, Table.resolve_eq_ok_iff.mpr ⟨mul, found, checked, rfl⟩, encoded, decoded,
    by decide +kernel⟩

end CarAssembly

/-- The codec of every table with templates from written patterns, and its one exception
among the built-in instructions: `mul` on three zeros has the word of `pophood`. -/
theorem Table.decode_resolve {table : Table} (reachable : table.Reachable Template.Built) :
    table.Faithful ∧
    (∀ mnemonic operands resolved word,
      CarAssembly.table.resolve mnemonic operands = .ok resolved →
      resolved.entry.template.encode operands = .ok word →
      (CarAssembly.table.decode word = .ok { resolved with word := some word } ↔
        ¬ (mnemonic = "mul" ∧ operands = CarAssembly.threeZeros))) ∧
    ∃ resolved decoded word,
      CarAssembly.table.resolve "mul" CarAssembly.threeZeros = .ok resolved ∧
      resolved.entry.template.encode CarAssembly.threeZeros = .ok word ∧
      CarAssembly.table.decode word = .ok decoded ∧ decoded.mnemonic = "pophood" := by
  refine ⟨reachable.faithful, ?_, CarAssembly.decode_threeZeros⟩
  intro mnemonic operands resolved word accepted encoded
  exact CarAssembly.decode_encode_iff accepted encoded

theorem Table.decode_resolve_of_carAssembly :
    CarAssembly.table.Reachable Template.Built ∧ CarAssembly.table.Faithful :=
  have reachable := CarAssembly.table_reachable Template.Built
  ⟨reachable, (decode_resolve reachable).1⟩

end CarMachine
