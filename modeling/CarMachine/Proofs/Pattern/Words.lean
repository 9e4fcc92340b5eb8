import CarMachine.Pattern.Basic
import Mathlib.Data.Set.Lattice
import Mathlib.Order.CompletePartialOrder

namespace CarMachine

/-! The set of words that a pattern stands for.

The comparisons of patterns look only at masks.  Here each of them is shown to decide a
question about sets of words: whether they meet, whether one holds the other, whether
they are the same.  A narrower pattern has more literal bits, which is what the look-up
order of a table rests on.
-/

namespace Word

/-- Bits that are set in the smaller word and more make a larger count. -/
theorem bitCount_lt {fewer more : Word}
    (within : ∀ index, fewer.getLsbD index = true → more.getLsbD index = true)
    (different : fewer ≠ more) : fewer.bitCount < more.bitCount := by
  have extra : ∃ index ∈ List.range 32,
      more.getLsbD index = true ∧ fewer.getLsbD index = false := by
    by_contra none
    apply different
    apply BitVec.eq_of_getLsbD_eq
    intro index bound
    cases set : fewer.getLsbD index with
    | true => exact (within index set).symm
    | false =>
        cases other : more.getLsbD index with
        | false => rfl
        | true => exact absurd ⟨index, List.mem_range.mpr bound, other, set⟩ none
  unfold bitCount
  rw [List.countP_eq_countP_filter_add (List.range 32) (more.getLsbD ·) (fewer.getLsbD ·)]
  have same : (List.range 32).countP (fewer.getLsbD ·) =
      ((List.range 32).filter (fewer.getLsbD ·)).countP (more.getLsbD ·) := by
    rw [List.countP_filter]
    apply List.countP_congr
    intro index _
    simpa using within index
  have positive : 0 < ((List.range 32).filter (fun index => !fewer.getLsbD index)).countP
      (more.getLsbD ·) := by
    obtain ⟨index, bound, set, unset⟩ := extra
    exact List.countP_pos_iff.mpr ⟨index, List.mem_filter.mpr ⟨bound, by simp [unset]⟩, set⟩
  omega

end Word

namespace Pattern

variable {pattern first second wide narrow : Pattern} {word : Word} {index : Nat}

/-- The words that match a pattern. -/
def words (pattern : Pattern) : Set Word :=
  {word | pattern.Matches word}

@[simp] theorem mem_words : word ∈ pattern.words ↔ pattern.Matches word :=
  Iff.rfl

/-- Only literal positions carry a literal one. -/
theorem mask_of_bits (set : pattern.bits.getLsbD index = true) :
    pattern.mask.getLsbD index = true := by
  have here := congrArg (BitVec.getLsbD · index) pattern.bits_within_mask
  simp only [BitVec.getLsbD_and, Bool.and_eq_left_iff_imp] at here
  exact here set

/-- A word matches if it agrees with the pattern at the literal positions. -/
theorem matches_iff : pattern.Matches word ↔
    ∀ index, pattern.mask.getLsbD index = true →
      word.getLsbD index = pattern.bits.getLsbD index := by
  constructor
  · intro matched index literal
    have here := congrArg (BitVec.getLsbD · index) matched
    simpa only [BitVec.getLsbD_and, literal, Bool.and_true] using here
  · intro agree
    apply BitVec.eq_of_getLsbD_eq
    intro index _
    cases literal : pattern.mask.getLsbD index with
    | true => simp only [BitVec.getLsbD_and, literal, agree index literal, Bool.and_true]
    | false =>
        have unset : pattern.bits.getLsbD index = false := by
          by_contra set
          exact absurd (mask_of_bits (by simpa using set)) (by simp [literal])
        simp only [BitVec.getLsbD_and, literal, unset, Bool.and_false]

theorem overlaps_iff_agree : first.overlaps second = true ↔
    ∀ index, first.mask.getLsbD index = true → second.mask.getLsbD index = true →
      first.bits.getLsbD index = second.bits.getLsbD index := by
  simp only [overlaps, beq_iff_eq]
  constructor
  · intro clear index literal other
    have here := congrArg (BitVec.getLsbD · index) clear
    simpa [literal, other] using here
  · intro agree
    apply BitVec.eq_of_getLsbD_eq
    intro index _
    have here := agree index
    grind

/-- Two patterns overlap exactly when some word matches both. -/
theorem overlaps_iff : first.overlaps second = true ↔
    ∃ word, first.Matches word ∧ second.Matches word := by
  rw [overlaps_iff_agree]
  constructor
  · intro agree
    -- All literal ones of both patterns together make a shared word.
    refine ⟨first.bits ||| second.bits, matches_iff.mpr ?_, matches_iff.mpr ?_⟩
    · intro index literal
      have here := agree index literal
      have other := @mask_of_bits second index
      grind
    · intro index literal
      have here := fun known => agree index known literal
      have other := @mask_of_bits first index
      grind
  · intro shared index literal otherLiteral
    obtain ⟨word, matched, other⟩ := shared
    rw [← matches_iff.mp matched index literal, matches_iff.mp other index otherLiteral]

theorem overlaps_eq_false_iff : first.overlaps second = false ↔
    Disjoint first.words second.words := by
  rw [← Bool.not_eq_true, overlaps_iff, Set.disjoint_left]
  simp only [mem_words, not_exists, not_and]

theorem contains_iff_agree : wide.contains narrow = true ↔
    ∀ index, wide.mask.getLsbD index = true →
      narrow.mask.getLsbD index = true ∧
        narrow.bits.getLsbD index = wide.bits.getLsbD index := by
  simp only [contains, Bool.and_eq_true, beq_iff_eq]
  constructor
  · intro held index literal
    obtain ⟨masks, bits⟩ := held
    have here := congrArg (BitVec.getLsbD · index) masks
    have value := congrArg (BitVec.getLsbD · index) bits
    grind
  · intro agree
    constructor <;> apply BitVec.eq_of_getLsbD_eq <;> intro index _
    · have here := agree index
      grind
    · have here := agree index
      have value := @mask_of_bits wide index
      grind

/-- One pattern contains another exactly when it matches all its words. -/
theorem contains_iff : wide.contains narrow = true ↔ narrow.words ⊆ wide.words := by
  rw [contains_iff_agree]
  constructor
  · intro agree word matched
    rw [mem_words, matches_iff] at matched ⊢
    intro index literal
    obtain ⟨narrowLiteral, same⟩ := agree index literal
    rw [matched index narrowLiteral, same]
  · intro within index literal
    -- Zeros everywhere else in one word and ones in another leave no free position.
    have zeros := matches_iff.mp (within narrow.matches_bits) index literal
    have ones : narrow.Matches (narrow.bits ||| ~~~narrow.mask) := by
      rw [matches_iff]
      intro position known
      simp [known]
    have filled := matches_iff.mp (within ones) index literal
    have bound := BitVec.lt_of_getLsbD literal
    have value := @mask_of_bits narrow index
    grind

theorem equivalent_of_masks (masks : first.mask = second.mask)
    (agree : ∀ index, first.mask.getLsbD index = true →
      first.bits.getLsbD index = second.bits.getLsbD index) :
    first.equivalent second = true := by
  simp only [equivalent, masks, BEq.rfl, Bool.true_and, beq_iff_eq]
  apply BitVec.eq_of_getLsbD_eq
  intro index _
  have here := agree index
  have literal := @mask_of_bits first index
  have other := @mask_of_bits second index
  grind

/-- Patterns are equivalent exactly when they match the same words. -/
theorem equivalent_iff : first.equivalent second = true ↔ first.words = second.words := by
  constructor
  · intro same
    simp only [equivalent, Bool.and_eq_true, beq_iff_eq] at same
    ext word
    simp only [mem_words, Matches, same]
  · intro same
    have forward := contains_iff_agree.mp (contains_iff.mpr same.ge)
    have backward := contains_iff_agree.mp (contains_iff.mpr same.le)
    apply equivalent_of_masks
    · apply BitVec.eq_of_getLsbD_eq
      intro index _
      exact Bool.eq_iff_iff.mpr
        ⟨fun literal => (forward index literal).1, fun literal => (backward index literal).1⟩
    · intro index literal
      exact (forward index literal).2.symm

/-- One pattern strictly contains another exactly when it matches its words and more. -/
theorem strictlyContains_iff :
    wide.strictlyContains narrow = true ↔ narrow.words ⊂ wide.words := by
  rw [strictlyContains, Bool.and_eq_true, contains_iff, Bool.not_eq_true',
    ← Bool.not_eq_true, equivalent_iff, Set.ssubset_iff_subset_ne]
  exact and_congr_right fun _ => not_congr eq_comm

/-- The narrower pattern has more literal bits. -/
theorem literalCount_lt (narrower : narrow.words ⊂ wide.words) :
    wide.literalCount < narrow.literalCount := by
  have agree := contains_iff_agree.mp (contains_iff.mpr narrower.subset)
  apply Word.bitCount_lt (fun index literal => (agree index literal).1)
  intro masks
  have same := equivalent_of_masks masks fun index literal => (agree index literal).2.symm
  exact narrower.ne (equivalent_iff.mp same).symm

/-- Whether two patterns share no word, or one lies strictly inside the other. -/
def Separable (first second : Pattern) : Prop :=
  Disjoint first.words second.words ∨ first.words ⊂ second.words ∨
    second.words ⊂ first.words

theorem Separable.symm (separable : first.Separable second) : second.Separable first := by
  rcases separable with disjoint | inside | around
  · exact .inl disjoint.symm
  · exact .inr (.inr inside)
  · exact .inr (.inl around)

/-- Of two separable patterns that share a word one is the narrower. -/
theorem Separable.nested (separable : first.Separable second)
    (matched : first.Matches word) (other : second.Matches word) :
    first.words ⊂ second.words ∨ second.words ⊂ first.words :=
  separable.resolve_left fun disjoint => Set.disjoint_left.mp disjoint matched other

theorem compatible_iff : first.compatible second = true ↔ first.Separable second := by
  simp only [compatible, Bool.or_eq_true, Bool.not_eq_true', overlaps_eq_false_iff,
    strictlyContains_iff, Separable, or_assoc]
  exact or_congr_right or_comm

/-- The comparisons of two patterns decide questions about the words that match them, and
the narrower of two nested patterns has more literal bits. -/
theorem comparisons_decide (first second : Pattern) :
    (first.overlaps second = true ↔ ∃ word, first.Matches word ∧ second.Matches word) ∧
    (first.contains second = true ↔ ∀ word, second.Matches word → first.Matches word) ∧
    (first.equivalent second = true ↔ ∀ word, first.Matches word ↔ second.Matches word) ∧
    (first.equivalent second = true ↔
      first.contains second = true ∧ second.contains first = true) ∧
    (first.contains second = true → first.equivalent second = false →
      first.literalCount < second.literalCount) := by
  refine ⟨overlaps_iff, contains_iff, equivalent_iff.trans Set.ext_iff, ?_, ?_⟩
  · rw [equivalent_iff, contains_iff, contains_iff, Set.Subset.antisymm_iff, and_comm]
  · intro held different
    have strict : first.strictlyContains second = true := by
      rw [strictlyContains, held, different]
      rfl
    exact literalCount_lt (strictlyContains_iff.mp strict)

end Pattern

end CarMachine
