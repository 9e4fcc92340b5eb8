import CarMachine.Proofs.Pattern.Partition
import CarMachine.Proofs.Pattern.Reading
import CarMachine.Template.Basic
import Mathlib.Data.List.Perm.Basic

namespace CarMachine.Template

/-! Templates that come out of written patterns.

The fields of a pattern are compared with those of a layout.  They are met in listing order and
struck off a list in operand order, which loses its order on the way.  So the list is followed
up to permutation: the fields agree if the roles still missing are those of the fields still to
come, in whatever order.  No role is named twice on either side, and then a permutation is the
same as an equal set.

The fields of a template, taken in operand order, are those of its pattern, so together with
the literal bits they divide the word.
-/

section

open List (Perm)

variable {layout : OperandLayout} {pattern : Pattern} {role last : FieldRole}
  {roles front present : List FieldRole} {index : Nat} {comparison : Comparison}

theorem swapRemove_concat : swapRemove (front ++ [last]) index = front.set index last := by
  simp only [swapRemove, List.getLast?_concat]
  by_cases within : index < front.length
  · rw [List.set_append_left _ _ within, List.dropLast_concat]
  · have kept : front.set index last = front := List.set_eq_of_length_le (by omega)
    rw [List.set_append_right _ _ (by omega), kept]
    cases index - front.length <;> simp

/-- Nothing is lost but the role at the position. -/
theorem perm_swapRemove (here : roles[index]? = some role) :
    Perm roles (role :: swapRemove roles index) := by
  rcases List.eq_nil_or_concat' roles with rfl | ⟨front, last, rfl⟩
  · contradiction
  · rw [swapRemove_concat]
    refine (List.perm_append_singleton last front).trans ?_
    by_cases within : index < front.length
    · rw [List.getElem?_append_left within, List.getElem?_eq_getElem within,
        Option.some.injEq] at here
      subst here
      have taken := (List.getElem_cons_eraseIdx_perm within).symm.cons last
      have placed := (List.set_perm_cons_eraseIdx within last).symm.cons front[index]
      exact (taken.trans (Perm.swap _ _ _)).trans placed
    · -- The role is the last one itself.
      rw [List.getElem?_append_right (by omega), List.getElem?_singleton] at here
      have same : last = role := by
        split at here
        · simpa using here
        · contradiction
      rw [same, List.set_eq_of_length_le (by omega)]

theorem Comparison.meet_iff : (comparison.meet role).fitting = true ∧
      Perm (comparison.meet role).missing roles ↔
    comparison.fitting = true ∧ Perm comparison.missing (role :: roles) := by
  cases found : comparison.missing.idxOf? role with
  | none =>
      have absent := List.idxOf?_eq_none_iff.mp found
      have unlike : ¬ Perm comparison.missing (role :: roles) :=
        fun same => absent (same.mem_iff.mpr (by simp))
      simp [meet, found, unlike]
  | some index =>
      obtain ⟨bound, here, _⟩ := List.idxOf?_eq_some_iff.mp found
      have struck := perm_swapRemove (List.getElem?_eq_some_iff.mpr ⟨bound, here⟩)
      rw [Perm.congr_left struck, List.perm_cons]
      simp only [meet, found]

theorem Comparison.agrees_iff : (present.foldl meet comparison).agrees = true ↔
    comparison.fitting = true ∧ Perm comparison.missing present := by
  induction present generalizing comparison with
  | nil => simp [agrees]
  | cons role rest ih => rw [List.foldl_cons, ih, meet_iff]

/-- The fields agree exactly if the same roles are present as are named. -/
theorem fieldsAgree_iff : fieldsAgree layout pattern = true ↔
    ∀ role, (pattern.field? role).isSome = true ↔ role ∈ layout.fields := by
  have named : layout.fields.Nodup := by cases layout <;> decide
  have present : (FieldRole.all.filter fun role => (pattern.field? role).isSome).Nodup :=
    List.Nodup.filter _ (by decide)
  simp only [fieldsAgree, Comparison.agrees_iff, true_and,
    List.perm_ext_iff_of_nodup named present, List.mem_filter, FieldRole.mem_all]
  exact forall_congr' fun role => Iff.comm

end

/-! ## Templates with the fields of their layout -/

variable {template : Template} {layout : OperandLayout}

/-- Whether the template came out of a written pattern that has the fields of its layout. -/
def Built (template : Template) : Prop :=
  ∃ text, build template.mnemonic template.usage template.description template.layout
    text = .ok template

theorem build_eq_ok_iff {mnemonic usage description text : String} :
    build mnemonic usage description layout text = .ok template ↔
      ∃ pattern, Pattern.parse text = .ok pattern ∧ fieldsAgree layout pattern = true ∧
        template = { mnemonic, usage, description, layout, pattern } := by
  cases parsed : Pattern.parse text with
  | error error => simp [build, parsed]
  | ok pattern =>
      by_cases agree : fieldsAgree layout pattern = true
      · simp only [build, parsed, agree, if_true, Except.ok.injEq, exists_eq_left', true_and]
        exact eq_comm
      · simp [build, parsed, agree]

theorem built_of_build {mnemonic usage description text : String}
    (built : build mnemonic usage description layout text = .ok template) :
    template.Built := by
  obtain ⟨pattern, parsed, agree, rfl⟩ := build_eq_ok_iff.mp built
  exact ⟨text, built⟩

theorem Built.pattern_partition (built : template.Built) : template.pattern.Partition := by
  obtain ⟨text, built⟩ := built
  obtain ⟨pattern, parsed, _, same⟩ := build_eq_ok_iff.mp built
  rw [same]
  exact Pattern.partition_of_parse parsed

theorem Built.field_iff (built : template.Built) (role : FieldRole) :
    (template.pattern.field? role).isSome = true ↔ role ∈ template.layout.fields := by
  obtain ⟨text, built⟩ := built
  obtain ⟨pattern, _, agree, same⟩ := build_eq_ok_iff.mp built
  rw [same]
  exact fieldsAgree_iff.mp agree role

/-- The roles of the fields are those that the layout names, in its order. -/
theorem Built.roles (built : template.Built) :
    template.fields.map (·.role) = template.layout.fields := by
  have partition := built.pattern_partition
  have found : ∀ role, ∀ field ∈ template.pattern.field? role, field.role = role :=
    fun role field member => (partition.field?_eq_some_iff.mp member).2
  rw [Template.fields, FieldRole.map_role_filterMap found, List.filter_eq_self]
  exact fun role member => (built.field_iff role).mpr member

theorem Built.length_fields (built : template.Built) :
    template.fields.length = template.layout.arity := by
  rw [← List.length_map (·.role), built.roles, OperandLayout.arity]

theorem Built.mem_fields (built : template.Built) {field : BitField} :
    field ∈ template.fields ↔ field ∈ template.pattern.fields := by
  have partition := built.pattern_partition
  rw [Template.fields, List.mem_filterMap]
  constructor
  · intro listed
    obtain ⟨role, _, found⟩ := listed
    exact (partition.field?_eq_some_iff.mp found).1
  · intro member
    have found := partition.field?_eq_some_iff.mpr ⟨member, rfl⟩
    exact ⟨field.role, (built.field_iff _).mp (by rw [found]; rfl), found⟩

theorem Built.apart (built : template.Built) :
    template.fields.Pairwise fun first second => first.mask &&& second.mask = 0#32 := by
  have distinct : (template.fields.map (·.role)).Nodup := by
    rw [built.roles]
    cases template.layout <;> decide
  refine (List.pairwise_map.mp distinct).imp_of_mem ?_
  intro first second member other different
  exact built.pattern_partition.apart first (built.mem_fields.mp member)
    second (built.mem_fields.mp other) different

theorem Built.inside (built : template.Built) :
    ∀ field ∈ template.fields, field.shift + field.width ≤ 32 :=
  fun field member => built.pattern_partition.inside field (built.mem_fields.mp member)

theorem Built.literal (built : template.Built) :
    ∀ field ∈ template.fields, field.mask &&& template.pattern.mask = 0#32 :=
  fun field member => built.pattern_partition.literal field (built.mem_fields.mp member)

theorem Built.covered (built : template.Built) {index : Nat} (bound : index < 32) :
    template.pattern.mask.getLsbD index = true ∨
      ∃ field ∈ template.fields, field.mask.getLsbD index = true := by
  refine (built.pattern_partition.covered index bound).imp_right ?_
  intro inField
  obtain ⟨field, member, set⟩ := inField
  exact ⟨field, built.mem_fields.mpr member, set⟩

end CarMachine.Template
