import CarMachine.Proofs.Pattern.Words
import CarMachine.Proofs.Template.Built

namespace CarMachine

/-! Operands in words and back.

The fields of a template divide the positions that its pattern leaves open.  So a matching
word is the literal bits with its operands in their fields, and the operands of an
assembled word are the ones that went into it.
-/

namespace BitField

variable {fields : List BitField} {values : List Word} {word mask : Word}

/-- A word with values placed in fields, pair by pair. -/
def placeAll (fields : List BitField) (values : List Word) (word : Word) : Word :=
  (fields.zip values).foldl (fun word (field, value) => word ||| field.place value) word

theorem placeAll_cons {field : BitField} {value : Word} :
    placeAll (field :: fields) (value :: values) word =
      placeAll fields values (word ||| field.place value) :=
  rfl

/-- Placing leaves the bits outside all fields as they are. -/
theorem placeAll_and (outside : ∀ field ∈ fields, field.mask &&& mask = 0#32) :
    placeAll fields values word &&& mask = word &&& mask := by
  induction fields generalizing values word with
  | nil => rfl
  | cons field rest ih =>
      cases values with
      | nil => rfl
      | cons value values =>
          have here := place_and_of_disjoint value (outside field (by simp))
          have later : placeAll rest values (word ||| field.place value) &&& mask =
              (word ||| field.place value) &&& mask :=
            ih fun other member => outside other (by simp [member])
          rw [placeAll_cons, later, BitVec.and_or_distrib_right, here, BitVec.or_zero]

/-- Values that fit disjoint fields are read back from an empty part of a word. -/
theorem map_read_placeAll (length : fields.length = values.length)
    (apart : fields.Pairwise fun first second => first.mask &&& second.mask = 0#32)
    (inside : ∀ field ∈ fields, field.shift + field.width ≤ 32)
    (fits : ∀ pair ∈ fields.zip values, pair.1.fits pair.2 = true)
    (clear : ∀ field ∈ fields, word &&& field.mask = 0#32) :
    fields.map (·.read (placeAll fields values word)) = values := by
  induction fields generalizing values word with
  | nil => exact (List.length_eq_zero_iff.mp length.symm).symm
  | cons field rest ih =>
      cases values with
      | nil => contradiction
      | cons value values =>
          obtain ⟨first, tail⟩ := List.pairwise_cons.mp apart
          have fitting : field.fits value = true := fits (field, value) (by simp)
          have untouched : ∀ other ∈ rest, other.mask &&& field.mask = 0#32 :=
            fun other member => (BitVec.and_comm _ _).trans (first other member)
          have head : field.read (placeAll rest values (word ||| field.place value)) = value :=
            calc
              _ = field.read (word ||| field.place value) :=
                read_eq_of_and_mask (placeAll_and untouched)
              _ = field.read (field.place value) := by
                apply read_eq_of_and_mask
                rw [BitVec.and_or_distrib_right, clear field (by simp), BitVec.zero_or]
              _ = value := read_place_of_fits (inside field (by simp)) fitting
          have rested : ∀ other ∈ rest, (word ||| field.place value) &&& other.mask = 0#32 := by
            intro other member
            rw [BitVec.and_or_distrib_right, clear other (by simp [member]),
              place_and_of_disjoint value (first other member), BitVec.or_zero]
          rw [List.map_cons, placeAll_cons, head]
          refine congrArg _ (ih (Nat.succ.inj length) tail ?_ ?_ rested)
          · exact fun other member => inside other (by simp [member])
          · exact fun pair member => fits pair (by simp [member])

theorem fits_map_read (fields : List BitField) (word : Word) :
    ∀ pair ∈ fields.zip (fields.map (·.read word)), pair.1.fits pair.2 = true := by
  induction fields with
  | nil => simp
  | cons field rest ih =>
      rw [List.map_cons, List.zip_cons_cons, List.forall_mem_cons]
      exact ⟨field.fits_read word, ih⟩

/-- Placing what was read in a word copies the bits of the fields from it. -/
theorem getLsbD_placeAll_read (fields : List BitField) (source word : Word) (index : Nat) :
    (placeAll fields (fields.map (·.read source)) word).getLsbD index =
      (word.getLsbD index ||
        source.getLsbD index && fields.any fun field => field.mask.getLsbD index) := by
  induction fields generalizing word with
  | nil => simp [placeAll]
  | cons field rest ih =>
      have later := ih (word ||| source &&& field.mask)
      rw [BitVec.getLsbD_or, BitVec.getLsbD_and, Bool.or_assoc,
        ← Bool.and_or_distrib_left] at later
      rw [List.map_cons, placeAll_cons, List.any_cons, place_read, later]

end BitField

namespace Template

variable {template : Template} {operands : Operands} {word : Word}

theorem misfit?_eq_none_iff {position : Nat} {fields : List BitField} {values : List Word} :
    misfit? position fields values = none ↔
      ∀ pair ∈ fields.zip values, pair.1.fits pair.2 = true := by
  induction fields generalizing position values with
  | nil => simp [misfit?]
  | cons field rest ih =>
      cases values with
      | nil => simp [misfit?]
      | cons value values =>
          by_cases fits : field.fits value = true <;> simp [misfit?, fits, ih]

theorem check_eq_ok_iff : template.check operands = .ok () ↔
    operands.length = template.layout.arity ∧
      ∀ pair ∈ template.fields.zip operands.values, pair.1.fits pair.2 = true := by
  rw [check, ← @misfit?_eq_none_iff 0]
  by_cases counted : operands.length = template.layout.arity
  · cases found : misfit? 0 template.fields operands.values <;> simp [counted]
  · simp [counted]

theorem encode_eq_ok_iff_check : template.encode operands = .ok word ↔
    template.check operands = .ok () ∧ template.assemble operands.values = word := by
  rw [encode]
  cases checked : template.check operands with
  | error error => simp [Except.map]
  | ok done => simp [Except.map]

/-- Operands in the right number pair up with the fields. -/
theorem Built.pair_at_iff (built : template.Built) {position : Nat} {field : BitField}
    {value : Word}
    (counted : operands.length = template.layout.arity) :
    (template.fields.zip operands.values)[position]? = some (field, value) ↔
      template.fields[position]? = some field ∧ operands.value position = value := by
  have length : template.fields.length = operands.values.length :=
    built.length_fields.trans counted.symm
  rw [List.getElem?_zip_eq_some, Operands.value, List.getD_eq_getElem?_getD]
  refine and_congr_right fun here => ?_
  obtain ⟨bound, _⟩ := List.getElem?_eq_some_iff.mp here
  rw [List.getElem?_eq_getElem (by omega), Option.getD_some, Option.some.injEq]

theorem Built.check_operandsOf (built : template.Built) (word : Word) :
    template.check (template.operandsOf word) = .ok () := by
  rw [check_eq_ok_iff]
  constructor
  · simp only [Operands.length, operandsOf, List.length_map, built.length_fields]
  · exact BitField.fits_map_read template.fields word

theorem Built.matches_assemble (built : template.Built) (values : List Word) :
    template.Matches (template.assemble values) := by
  have kept : template.assemble values &&& template.pattern.mask =
      template.pattern.bits &&& template.pattern.mask :=
    BitField.placeAll_and built.literal
  exact kept.trans template.pattern.bits_within_mask

theorem Built.operandsOf_assemble (built : template.Built)
    (checked : template.check operands = .ok ()) :
    template.operandsOf (template.assemble operands.values) = operands := by
  obtain ⟨counted, fits⟩ := check_eq_ok_iff.mp checked
  have clear : ∀ field ∈ template.fields, template.pattern.bits &&& field.mask = 0#32 := by
    intro field member
    rw [← template.pattern.bits_within_mask, BitVec.and_assoc, BitVec.and_comm _ field.mask,
      built.literal field member, BitVec.and_zero]
  have values := BitField.map_read_placeAll (built.length_fields.trans counted.symm)
    built.apart built.inside fits clear
  exact Operands.ext values

theorem Built.assemble_operandsOf (built : template.Built) (matched : template.Matches word) :
    template.assemble (template.operandsOf word).values = word := by
  apply BitVec.eq_of_getLsbD_eq
  intro index bound
  refine (BitField.getLsbD_placeAll_read template.fields word _ index).trans ?_
  have literal := Pattern.matches_iff.mp matched index
  rcases built.covered bound with known | ⟨field, member, set⟩
  · have outside : (template.fields.any fun field => field.mask.getLsbD index) = false := by
      rw [List.any_eq_false]
      intro field member
      have apart := congrArg (BitVec.getLsbD · index) (built.literal field member)
      simpa [known] using apart
    rw [outside, Bool.and_false, Bool.or_false, literal known]
  · have inside : (template.fields.any fun field => field.mask.getLsbD index) = true :=
      List.any_eq_true.mpr ⟨field, member, set⟩
    have unset : template.pattern.bits.getLsbD index = false := by
      have apart := congrArg (BitVec.getLsbD · index) (built.literal field member)
      by_contra bit
      have known := Pattern.mask_of_bits (Bool.of_not_eq_false bit)
      simp [set, known] at apart
    rw [inside, unset, Bool.and_true, Bool.false_or]

/-- A word is the encoding of operands exactly if it matches and holds them. -/
theorem Built.encode_eq_ok_iff (built : template.Built) :
    template.encode operands = .ok word ↔
      template.Matches word ∧ template.operandsOf word = operands := by
  rw [encode_eq_ok_iff_check]
  constructor
  · intro accepted
    obtain ⟨checked, rfl⟩ := accepted
    exact ⟨built.matches_assemble _, built.operandsOf_assemble checked⟩
  · intro held
    obtain ⟨matched, rfl⟩ := held
    exact ⟨built.check_operandsOf word, built.assemble_operandsOf matched⟩

/-- The operands that are accepted are those that some matching word holds. -/
theorem Built.check_eq_ok_iff_exists (built : template.Built) :
    template.check operands = .ok () ↔
      ∃ word, template.Matches word ∧ template.operandsOf word = operands := by
  simp only [← built.encode_eq_ok_iff, encode_eq_ok_iff_check, exists_and_left, exists_eq',
    and_true]

end Template

end CarMachine
