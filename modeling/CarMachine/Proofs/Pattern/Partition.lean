import CarMachine.Proofs.Pattern.Field
import CarMachine.Proofs.Pattern.Reading

namespace CarMachine

/-! A read pattern divides the word.

Every position is literal or belongs to one field.  This rests on the symbols alone: the
last of them stands for bit 0, a letter stands in one run, and the run is where its field
lies.  The lists of symbols below are reversed, so that positions are bit numbers.
-/

namespace Symbol

variable {role : FieldRole} {symbols : List Symbol} {index : Nat} {found : Option BitField}

theorem getLsbD_marked (test : Symbol → Bool) (short : symbols.length ≤ 32) :
    (marked test symbols).getLsbD index = (symbols.reverse[index]?).any test := by
  induction symbols with
  | nil => simp [marked]
  | cons symbol rest ih =>
      have shorter : rest.length + 1 ≤ 32 := short
      have single : (if test symbol then (1 : Word) <<< rest.length else 0).getLsbD index =
          (test symbol && decide (index = rest.length)) := by
        cases test symbol with
        | false => simp
        | true =>
            simp only [if_true, BitVec.ofNat_eq_ofNat, BitVec.getLsbD_shiftLeft,
              BitVec.getLsbD_one, Bool.true_and, ← decide_not, ← Bool.decide_and,
              decide_eq_decide]
            omega
      rw [marked, BitVec.getLsbD_or, ih (by omega), List.reverse_cons, single]
      by_cases bound : index < rest.length
      · rw [List.getElem?_append_left (by simpa using bound)]
        simp [Nat.ne_of_lt bound]
      · rw [List.getElem?_append_right (by simpa using bound),
          List.getElem?_eq_none (by simpa using bound), List.length_reverse,
          List.getElem?_singleton]
        by_cases last : index = rest.length
        · simp [last]
        · have beyond : index - rest.length ≠ 0 := by omega
          simp [last, beyond]

/-- The field of a role lies where the letter stands, and only there. -/
theorem fieldOf?_shows (run : OneRun role symbols.reverse)
    (read : fieldOf? symbols role = .ok found) :
    (∀ field ∈ found, field.role = role ∧ field.shift + field.width ≤ symbols.length) ∧
      ∀ index, symbols.reverse[index]? = some (.field role) ↔
        ∃ field ∈ found, field.shift ≤ index ∧ index < field.shift + field.width := by
  obtain ⟨low, count, high, split, outside, beyond⟩ := run
  have length := congrArg List.length split
  simp only [List.length_reverse, List.length_append, List.length_replicate] at length
  rw [split]
  simp only [getElem?_run outside beyond]
  rcases (fieldOf?_eq_ok_iff split outside beyond).mp read with ⟨rfl, rfl⟩ | ⟨_, rfl⟩
  · simp
  · simp
    omega

end Symbol

namespace FieldRole

/-- Fields found by role are listed as their roles are. -/
theorem map_role_filterMap {find : FieldRole → Option BitField}
    (found : ∀ role, ∀ field ∈ find role, field.role = role) (roles : List FieldRole) :
    (roles.filterMap find).map (·.role) = roles.filter fun role => (find role).isSome := by
  induction roles with
  | nil => rfl
  | cons role rest ih =>
      cases here : find role with
      | none => simp [here, ih]
      | some field => simp [here, ih, found role field here]

end FieldRole

namespace Pattern

variable {pattern : Pattern} {symbols : List Symbol}

/-- The literal mask and the masks of the fields divide the word. -/
structure Partition (pattern : Pattern) : Prop where
  roles : pattern.roles.Nodup
  inside : ∀ field ∈ pattern.fields, field.shift + field.width ≤ 32
  literal : ∀ field ∈ pattern.fields, field.mask &&& pattern.mask = 0#32
  apart : ∀ first ∈ pattern.fields, ∀ second ∈ pattern.fields, first.role ≠ second.role →
    first.mask &&& second.mask = 0#32
  covered : ∀ index < 32, pattern.mask.getLsbD index = true ∨
    ∃ field ∈ pattern.fields, field.mask.getLsbD index = true

theorem Partition.field?_eq_some_iff (partition : pattern.Partition) {role : FieldRole}
    {field : BitField} :
    pattern.field? role = some field ↔ field ∈ pattern.fields ∧ field.role = role := by
  constructor
  · intro found
    have named := List.find?_some found
    exact ⟨List.mem_of_find?_eq_some found, by simpa using named⟩
  · intro present
    obtain ⟨member, named⟩ := present
    cases found : pattern.field? role with
    | none => exact absurd (beq_iff_eq.mpr named) (List.find?_eq_none.mp found field member)
    | some other =>
        have otherNamed := List.find?_some found
        have same := List.inj_on_of_nodup_map partition.roles
          (List.mem_of_find?_eq_some found) member (by simpa [named] using otherNamed)
        rw [same]

/-- Symbols show a pattern if literal symbols stand at the bits of its mask, and each
letter at the bits of the field of its role. -/
structure Shown (pattern : Pattern) (symbols : List Symbol) : Prop where
  roles : pattern.roles.Nodup
  inside : ∀ field ∈ pattern.fields, field.shift + field.width ≤ 32
  literal : ∀ index, pattern.mask.getLsbD index =
    (symbols.reverse[index]?).any Symbol.isLiteral
  field : ∀ field ∈ pattern.fields, ∀ index, field.mask.getLsbD index = true →
    symbols.reverse[index]? = some (.field field.role)
  present : ∀ role index, symbols.reverse[index]? = some (.field role) →
    ∃ field ∈ pattern.fields, field.mask.getLsbD index = true

theorem shown_of_symbols (runs : ∀ role, Symbol.OneRun role symbols.reverse)
    (length : symbols.length = 32) (accepted : ofSymbols symbols = .ok pattern) :
    pattern.Shown symbols := by
  obtain ⟨found, reads, mask, _, fields⟩ := ofSymbols_eq_ok_iff.mp accepted
  have shows := fun role => Symbol.fieldOf?_shows (runs role) (reads role)
  have roled : ∀ role, ∀ field ∈ found role, field.role = role :=
    fun role field member => ((shows role).1 field member).1
  have mem : ∀ field ∈ pattern.fields, found field.role = some field := by
    intro field member
    rw [fields, List.mem_filterMap] at member
    obtain ⟨role, _, here⟩ := member
    rwa [roled role field here]
  refine ⟨?_, ?_, ?_, ?_, ?_⟩
  · rw [Pattern.roles, fields, FieldRole.map_role_filterMap roled]
    exact List.Nodup.filter _ (by decide)
  · intro field member
    have bound := ((shows field.role).1 field (mem field member)).2
    omega
  · intro index
    rw [mask, Symbol.getLsbD_marked Symbol.isLiteral (by omega)]
  · intro field member index set
    rw [BitField.getLsbD_mask, decide_eq_true_eq] at set
    exact ((shows field.role).2 index).mpr ⟨field, mem field member, set.2⟩
  · intro role index shown
    have bound := (List.getElem?_eq_some_iff.mp shown).1
    obtain ⟨field, here, lower, upper⟩ := ((shows role).2 index).mp shown
    refine ⟨field, ?_, ?_⟩
    · rw [fields, List.mem_filterMap]
      exact ⟨role, FieldRole.mem_all role, here⟩
    · rw [List.length_reverse] at bound
      rw [BitField.getLsbD_mask, decide_eq_true_eq]
      omega

/-- One symbol stands at each bit, so nothing belongs to two masks or to none. -/
theorem Shown.partition (shown : pattern.Shown symbols) (length : symbols.length = 32) :
    pattern.Partition := by
  refine ⟨shown.roles, shown.inside, ?_, ?_, ?_⟩
  · intro field member
    apply BitVec.eq_of_getLsbD_eq
    intro index _
    rw [BitVec.getLsbD_and, shown.literal, BitVec.getLsbD_zero]
    cases set : field.mask.getLsbD index with
    | false => rfl
    | true => rw [shown.field field member index set]; rfl
  · intro first member second other different
    apply BitVec.eq_of_getLsbD_eq
    intro index _
    rw [BitVec.getLsbD_and, BitVec.getLsbD_zero]
    by_contra both
    simp only [Bool.not_eq_false, Bool.and_eq_true] at both
    have here := shown.field first member index both.1
    rw [shown.field second other index both.2, Option.some.injEq, Symbol.field.injEq] at here
    exact different here.symm
  · intro index bound
    cases here : symbols.reverse[index]? with
    | none =>
        have short := List.getElem?_eq_none_iff.mp here
        rw [List.length_reverse] at short
        omega
    | some symbol =>
        cases symbol with
        | literal value => exact .inl (by rw [shown.literal, here]; rfl)
        | field role => exact .inr (shown.present role index here)

/-- Every written pattern that can be read divides the word. -/
theorem partition_of_parse {text : String} (accepted : parse text = .ok pattern) :
    pattern.Partition := by
  obtain ⟨symbols, _, length, single, shown⟩ := parse_eq_ok_iff.mp accepted
  exact (shown_of_symbols single length shown).partition length

end Pattern

end CarMachine
