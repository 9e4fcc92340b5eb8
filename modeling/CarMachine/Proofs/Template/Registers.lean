import CarMachine.Proofs.Template.Codec

namespace CarMachine

/-! Operands as register numbers.

A register field has five bits, so what it holds is below 32.  Only the target may be
wider, and then it stands for a number and not for a register.
-/

/-- Where the operand with a role stands. -/
def FieldRole.position : FieldRole → Nat
  | .destination => 0
  | .source => 1
  | .target => 2

namespace OperandLayout

theorem role_at_position {layout : OperandLayout} {role : FieldRole} :
    layout.fields[role.position]? = if role ∈ layout.fields then some role else none := by
  cases layout <;> cases role <;> rfl

theorem position_of_target {layout : OperandLayout} {position : Nat}
    (named : layout.fields[position]? = some .target) : position = 2 := by
  cases layout with
  | threeRegister =>
      match position, named with
      | 2, _ => rfl
  | twoRegister =>
      match position with
      | 0 | 1 | _ + 2 => contradiction
  | oneRegister =>
      match position with
      | 0 | _ + 1 => contradiction
  | zeroRegister => contradiction

end OperandLayout

namespace Template

variable {template : Template} {operands : Operands} {field : BitField} {position : Nat}

/-- Whether the target field has the width of an immediate number. -/
def TakesImmediate (template : Template) : Prop :=
  ∃ field, template.pattern.field? .target = some field ∧ field.width = 16

theorem Built.width (built : template.Built) (member : field ∈ template.fields) :
    field.width ∈ Symbol.allowedWidths field.role := by
  obtain ⟨text, accepted⟩ := id built
  obtain ⟨pattern, parsed, _, same⟩ := build_eq_ok_iff.mp accepted
  rw [built.mem_fields, same] at member
  exact Pattern.width_of_parse parsed field member

theorem Built.role_at (built : template.Built) (here : template.fields[position]? = some field) :
    template.layout.fields[position]? = some field.role := by
  rw [← built.roles, List.getElem?_map, here]
  rfl

/-- Apart from an immediate number every operand comes from a register field. -/
theorem Built.width_at (built : template.Built) (here : template.fields[position]? = some field)
    (direct : position = 2 → ¬ template.TakesImmediate) :
    field.width = BitField.registerWidth := by
  have member := List.mem_of_getElem? here
  have allowed := built.width member
  cases role : field.role with
  | source => simpa [role, Symbol.allowedWidths] using allowed
  | destination => simpa [role, Symbol.allowedWidths] using allowed
  | target =>
      have named := built.role_at here
      rw [role] at named
      rw [role, Symbol.allowedWidths, List.mem_pair] at allowed
      rcases allowed with register | immediate
      · exact register
      · have found := built.pattern_partition.field?_eq_some_iff.mpr
          ⟨built.mem_fields.mp member, role⟩
        exact absurd ⟨field, found, immediate⟩
          (direct (OperandLayout.position_of_target named))

theorem Built.register_lt (built : template.Built) (checked : template.check operands = .ok ())
    (direct : position = 2 → ¬ template.TakesImmediate) :
    operands.register position < 2 ^ BitField.registerWidth := by
  obtain ⟨counted, fits⟩ := check_eq_ok_iff.mp checked
  by_cases present : position < operands.values.length
  · have bound : position < template.fields.length := by
      rw [built.length_fields, ← counted]
      exact present
    have here := List.getElem?_eq_getElem bound
    have pair := (built.pair_at_iff counted).mpr ⟨here, rfl⟩
    have small := BitField.fits_iff_lt.mp (fits _ (List.mem_of_getElem? pair))
    rwa [built.width_at here direct] at small
  · have absent : operands.register position = 0 := by
      simp [Operands.register, Operands.value, present]
    rw [absent]
    decide

/-- A template without fields takes no operands. -/
theorem Built.register_of_no_fields (built : template.Built)
    (checked : template.check operands = .ok ()) (none : template.fields = []) :
    operands.register position = 0 := by
  obtain ⟨counted, _⟩ := check_eq_ok_iff.mp checked
  have length := built.length_fields.trans counted.symm
  rw [none] at length
  have empty : operands.values = [] := List.length_eq_zero_iff.mp length.symm
  simp [Operands.register, Operands.value, empty]

/-- The first field, if there is any, is a register field. -/
theorem Built.has_register_field (built : template.Built) (nonempty : template.fields ≠ []) :
    ∃ field ∈ template.fields, field.isImmediate = false := by
  obtain ⟨field, rest, listed⟩ := List.exists_cons_of_ne_nil nonempty
  have first : template.fields[0]? = some field := by
    rw [listed]
    rfl
  have width := built.width_at first (by simp)
  refine ⟨field, by simp [listed], ?_⟩
  rw [BitField.isImmediate, width]
  decide

/-- The number in the field with a role, or zero if there is none. -/
def slotOf (template : Template) (role : FieldRole) (word : Word) : Nat :=
  (template.pattern.field? role).elim 0 fun field => (field.read word).toNat

/-- The widest field is that of an immediate number. -/
theorem Built.slotOf_lt (built : template.Built) (role : FieldRole) (word : Word) :
    template.slotOf role word < 2 ^ BitField.immediateWidth := by
  cases found : template.pattern.field? role with
  | none =>
      rw [slotOf, found]
      exact Nat.two_pow_pos _
  | some field =>
      have listed := (built.pattern_partition.field?_eq_some_iff.mp found).1
      have allowed := built.width (built.mem_fields.mpr listed)
      have narrow : field.width ≤ BitField.immediateWidth := by
        revert allowed
        cases field.role <;>
          simp [Symbol.allowedWidths, BitField.immediateWidth, BitField.registerWidth] <;> omega
      have small := BitField.fits_iff_lt.mp (field.fits_read word)
      rw [slotOf, found]
      exact Nat.lt_of_lt_of_le small (Nat.pow_le_pow_right (by decide) narrow)

/-- The field at the position of a role is the one with that role. -/
theorem Built.field_at_role (built : template.Built) (role : FieldRole) :
    template.fields[role.position]? = template.pattern.field? role := by
  have roles : template.fields[role.position]?.map (·.role) =
      if role ∈ template.layout.fields then some role else none := by
    rw [← List.getElem?_map, built.roles, OperandLayout.role_at_position]
  cases here : template.fields[role.position]? with
  | none =>
      have absent : role ∉ template.layout.fields := by simpa [here] using roles
      rw [← built.field_iff, Bool.not_eq_true, Option.isSome_eq_false_iff] at absent
      exact (Option.isNone_iff_eq_none.mp absent).symm
  | some field =>
      have named : field.role = role := by
        rw [here] at roles
        split at roles
        · simpa using roles
        · contradiction
      have member := built.mem_fields.mp (List.mem_of_getElem? here)
      exact (built.pattern_partition.field?_eq_some_iff.mpr ⟨member, named⟩).symm

/-- The operands of a word stand in its fields. -/
theorem Built.register_operandsOf (built : template.Built) (role : FieldRole) (word : Word) :
    (template.operandsOf word).register role.position = template.slotOf role word := by
  have field := built.field_at_role role
  simp only [operandsOf, Operands.register, Operands.value, slotOf, List.getD_eq_getElem?_getD,
    List.getElem?_map, field]
  cases template.pattern.field? role <;> rfl

end Template

end CarMachine
