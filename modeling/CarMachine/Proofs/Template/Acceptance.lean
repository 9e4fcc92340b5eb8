import CarMachine.Proofs.Template.Codec
import Mathlib.Data.Finset.Dedup

namespace CarMachine

/-! Which templates can be built, and which operands they accept.

A written pattern makes a template if it has exactly the fields of the layout, in whatever
order it shows them.  The fields of the template then stand in operand order, one for each
operand, so the verdict on operands can be told position by position.
-/

theorem Pattern.isSome_field?_iff {pattern : Pattern} {role : FieldRole} :
    (pattern.field? role).isSome = true ↔ role ∈ pattern.roles := by
  simp [field?, roles]

namespace Template

variable {template : Template} {layout : OperandLayout} {pattern : Pattern}
  {operands : Operands} {verdict : Except Operands.Error Unit} {position : Nat}
  {field : BitField} {value : Word} {fields : List BitField} {values : List Word}

theorem fieldsAgree_iff_toFinset : fieldsAgree layout pattern = true ↔
    pattern.roles.toFinset = layout.fields.toFinset := by
  simp only [fieldsAgree_iff, Pattern.isSome_field?_iff, Finset.ext_iff, List.mem_toFinset]

/-- Whether the operand at a position, if a field stands there, has room in it. -/
def FitsAt (template : Template) (operands : Operands) (position : Nat) : Prop :=
  ∀ field, template.fields[position]? = some field →
    (operands.value position).toNat < 2 ^ field.width

instance : Decidable (template.FitsAt operands position) :=
  inferInstanceAs (Decidable (∀ field ∈ template.fields[position]?,
    (operands.value position).toNat < 2 ^ field.width))

/-- The verdict that operands deserve.  Their number comes before their values, and of
several values that do not fit the first one counts. -/
inductive Judges (template : Template) (operands : Operands) :
    Except Operands.Error Unit → Prop where
  | accepts (counted : operands.length = template.layout.arity)
      (fits : ∀ position, template.FitsAt operands position) :
      Judges template operands (.ok ())
  | miscounts (miscounted : operands.length ≠ template.layout.arity) :
      Judges template operands (.error (.count template.layout.arity operands.length))
  | misfits {position : Nat} {field : BitField}
      (counted : operands.length = template.layout.arity)
      (here : template.fields[position]? = some field)
      (wide : 2 ^ field.width ≤ (operands.value position).toNat)
      (before : ∀ earlier < position, template.FitsAt operands earlier) :
      Judges template operands
        (.error (.tooWide position (operands.value position) field.width))

theorem misfit?_eq_find? {start : Nat} :
    misfit? start fields values =
      (((fields.zip values).zipIdx start).find? fun (pair, _) => !pair.1.fits pair.2).map
        fun (pair, position) => .tooWide position pair.2 pair.1.width := by
  induction fields generalizing start values with
  | nil => rfl
  | cons field rest ih =>
      cases values with
      | nil => rfl
      | cons value values => cases fits : field.fits value <;> simp [misfit?, fits, ih]

theorem misfit?_eq_some_iff {error : Operands.Error} :
    misfit? 0 fields values = some error ↔
      ∃ index field value, (fields.zip values)[index]? = some (field, value) ∧
        field.fits value = false ∧
        (∀ earlier < index, ∀ pair, (fields.zip values)[earlier]? = some pair →
          pair.1.fits pair.2 = true) ∧
        error = .tooWide index value field.width := by
  rw [misfit?_eq_find?, Option.map_eq_some_iff]
  simp only [List.find?_eq_some_iff_getElem]
  constructor
  · intro found
    obtain ⟨⟨⟨field, value⟩, _⟩, ⟨wide, index, bound, here, before⟩, rfl⟩ := found
    -- The position that a pair was numbered with is the one at which it stands.
    simp only [List.getElem_zipIdx, Prod.mk.injEq, Nat.zero_add] at here
    obtain ⟨here, rfl⟩ := here
    rw [List.length_zipIdx] at bound
    refine ⟨index, field, value, ?_, by simpa using wide, ?_, rfl⟩
    · rw [List.getElem?_eq_getElem bound, here]
    · intro earlier less pair there
      obtain ⟨_, rfl⟩ := List.getElem?_eq_some_iff.mp there
      simpa using before earlier less
  · intro first
    obtain ⟨index, field, value, here, wide, before, rfl⟩ := first
    obtain ⟨bound, here⟩ := List.getElem?_eq_some_iff.mp here
    refine ⟨((field, value), index), ⟨by simp [wide], index, by simpa using bound, ?_, ?_⟩, rfl⟩
    · rw [List.getElem_zipIdx, here, Nat.zero_add]
    · intro earlier less
      have fits := before earlier less _ (List.getElem?_eq_getElem (by omega))
      simpa using fits

theorem Built.fitsAt_iff (built : template.Built)
    (counted : operands.length = template.layout.arity) :
    template.FitsAt operands position ↔
      ∀ pair, (template.fields.zip operands.values)[position]? = some pair →
        pair.1.fits pair.2 = true := by
  constructor
  · intro fits pair here
    obtain ⟨here, value⟩ := (built.pair_at_iff counted).mp here
    exact BitField.fits_iff_lt.mpr (value ▸ fits pair.1 here)
  · intro fits field here
    have pair := (built.pair_at_iff counted).mpr ⟨here, rfl⟩
    exact BitField.fits_iff_lt.mp (fits _ pair)

theorem Built.check_eq_ok_iff_fitsAt (built : template.Built)
    (counted : operands.length = template.layout.arity) :
    template.check operands = .ok () ↔ ∀ position, template.FitsAt operands position := by
  simp only [check_eq_ok_iff, counted, true_and, built.fitsAt_iff counted,
    List.mem_iff_getElem?]
  constructor
  · intro fits position pair here
    exact fits pair ⟨position, here⟩
  · intro fits pair placed
    obtain ⟨position, here⟩ := placed
    exact fits position pair here

theorem check_of_misfit {error : Operands.Error}
    (counted : operands.length = template.layout.arity)
    (found : misfit? 0 template.fields operands.values = some error) :
    template.check operands = .error error := by
  simp only [check, counted, found, ne_eq, not_true_eq_false, if_false]

theorem Built.check_eq_iff (built : template.Built) :
    template.check operands = verdict ↔ template.Judges operands verdict := by
  constructor
  · intro checked
    subst checked
    by_cases counted : operands.length = template.layout.arity
    · cases found : misfit? 0 template.fields operands.values with
      | none =>
          have accepted : template.check operands = .ok () := by
            rw [check_eq_ok_iff, ← misfit?_eq_none_iff]
            exact ⟨counted, found⟩
          rw [accepted]
          exact .accepts counted ((built.check_eq_ok_iff_fitsAt counted).mp accepted)
      | some error =>
          rw [check_of_misfit counted found]
          obtain ⟨position, field, _, pair, wide, before, rfl⟩ := misfit?_eq_some_iff.mp found
          obtain ⟨here, rfl⟩ := (built.pair_at_iff counted).mp pair
          rw [← Bool.not_eq_true, BitField.fits_iff_lt, Nat.not_lt] at wide
          exact .misfits counted here wide fun earlier less =>
            (built.fitsAt_iff counted).mpr (before earlier less)
    · rw [check, if_pos counted]
      exact .miscounts counted
  · intro deserved
    cases deserved with
    | accepts counted fits => exact (built.check_eq_ok_iff_fitsAt counted).mpr fits
    | miscounts miscounted => rw [check, if_pos miscounted]
    | misfits counted here wide before =>
        apply check_of_misfit counted
        rw [misfit?_eq_some_iff]
        refine ⟨_, _, _, (built.pair_at_iff counted).mpr ⟨here, rfl⟩, ?_, ?_, rfl⟩
        · rwa [← Bool.not_eq_true, BitField.fits_iff_lt, Nat.not_lt]
        · exact fun earlier less => (built.fitsAt_iff counted).mp (before earlier less)

/-- A template can be built exactly if its pattern can be read and has the set of fields that
the layout names, and a pattern with another set is refused for that.  The template has one
field for each operand, in operand order, so a word holds as many operands as the layout
takes, and operands are judged by their number and then by the room in their fields. -/
theorem build_check_exact (mnemonic usage description : String) (layout : OperandLayout)
    (text : String) :
    (∀ template, build mnemonic usage description layout text = .ok template ↔
      ∃ pattern, Pattern.parse text = .ok pattern ∧
        pattern.roles.toFinset = layout.fields.toFinset ∧
        template = { mnemonic, usage, description, layout, pattern }) ∧
    (∀ error, Pattern.parse text = .error error →
      build mnemonic usage description layout text = .error (.pattern error)) ∧
    (∀ pattern, Pattern.parse text = .ok pattern →
      pattern.roles.toFinset ≠ layout.fields.toFinset →
      build mnemonic usage description layout text =
        .error (.layoutMismatch layout pattern.roles)) ∧
    ∀ template, build mnemonic usage description layout text = .ok template →
      template.fields.map (·.role) = layout.fields ∧
      template.fields.length = layout.arity ∧
      (∀ word, (template.operandsOf word).length = layout.arity) ∧
      ∀ operands verdict,
        template.check operands = verdict ↔ template.Judges operands verdict := by
  refine ⟨?accepted, ?unreadable, ?mismatch, ?inOrder⟩
  case accepted =>
    intro template
    simp only [build_eq_ok_iff, fieldsAgree_iff_toFinset]
  case unreadable =>
    intro error unread
    rw [build, unread]
  case mismatch =>
    intro pattern parsed different
    have disagree := mt fieldsAgree_iff_toFinset.mp different
    simp only [build, parsed, if_neg disagree]
  case inOrder =>
    intro template accepted
    have built := built_of_build accepted
    obtain ⟨pattern, _, _, rfl⟩ := build_eq_ok_iff.mp accepted
    have length := built.length_fields
    refine ⟨built.roles, length, ?_, fun operands verdict => built.check_eq_iff⟩
    intro word
    simpa only [Operands.length, operandsOf, List.length_map] using length

/-- An instruction whose text shows its source first, and whose operands begin with the
destination. -/
def increment : Template where
  mnemonic := "addi"
  usage := ""
  description := ""
  layout := .threeRegister
  pattern := {
    mask := 0xFC000000
    bits := 0x20000000
    fields := [⟨.source, 21, 5⟩, ⟨.target, 0, 16⟩, ⟨.destination, 16, 5⟩]
    bits_within_mask := by decide }

/-- Of two operands that do not fit the one that stands first is reported. -/
theorem build_check_exact_increment :
    build "addi" "" "" .twoRegister "001000 sssss fffff tttttttttttttttt" =
      .error (.layoutMismatch .twoRegister [.source, .target, .destination]) ∧
    build "addi" "" "" .threeRegister "001000 sssss fffff tttttttttttttttt" = .ok increment ∧
    increment.fields.map (·.role) = [.destination, .source, .target] ∧
    increment.check ⟨[8, 9, 0xFFFF], by decide⟩ = .ok () ∧
    increment.check ⟨[8, 9, 0x10000], by decide⟩ = .error (.tooWide 2 0x10000 16) ∧
    increment.check ⟨[8, 32, 0x10000], by decide⟩ = .error (.tooWide 1 32 5) ∧
    increment.check ⟨[8, 32], by decide⟩ = .error (.count 3 2) := by
  have parsed : Pattern.parse "001000 sssss fffff tttttttttttttttt" = .ok increment.pattern := by
    decide +kernel
  obtain ⟨_, _, mismatch, _⟩ := build_check_exact "addi" "" "" .twoRegister
    "001000 sssss fffff tttttttttttttttt"
  obtain ⟨accepted, _, _, inOrder⟩ := build_check_exact "addi" "" "" .threeRegister
    "001000 sssss fffff tttttttttttttttt"
  have made := (accepted increment).mpr ⟨_, parsed, by decide, rfl⟩
  obtain ⟨roles, _, _, judged⟩ := inOrder increment made
  have source : increment.fields[1]? = some ⟨.source, 21, 5⟩ := rfl
  have target : increment.fields[2]? = some ⟨.target, 0, 16⟩ := rfl
  refine ⟨mismatch _ parsed (by decide), made, roles, ?_, ?_, ?_, ?_⟩
  · refine (judged _ _).mpr (.accepts rfl fun position => ?_)
    match position with
    | 0 | 1 | 2 => decide
    | _ + 3 => exact fun field here => nomatch here
  · refine (judged _ _).mpr (.misfits rfl target ?_ ?_) <;> decide
  · refine (judged _ _).mpr (.misfits rfl source ?_ ?_) <;> decide
  · exact (judged _ _).mpr (.miscounts (by decide))

end Template

end CarMachine
