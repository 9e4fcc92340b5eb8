import CarMachine.Proofs.Pattern.Grammar

namespace CarMachine.Pattern

/-! Writing a pattern down again.

The writer goes through the bits of the masks, the reader went through the symbols of a
text.  A symbol stands at each bit, so the symbols of the text come back, without the white
space and underscores between them.
-/

variable {pattern : Pattern} {symbols : List Symbol} {symbol : Symbol} {text other : String}
  {index : Nat}

theorem Shown.symbolAt_eq (shown : pattern.Shown symbols)
    (bits : pattern.bits = Symbol.marked Symbol.isOne symbols) (length : symbols.length = 32)
    (here : symbols.reverse[index]? = some symbol) :
    pattern.symbolAt index = symbol.toChar := by
  have literal := shown.literal index
  rw [here, Option.any_some] at literal
  cases symbol with
  | literal value =>
      have one : pattern.bits.getLsbD index = value := by
        rw [bits, Symbol.getLsbD_marked _ (by omega), here]
        rfl
      cases value <;> simp [symbolAt, literal, one, Symbol.isLiteral, Symbol.toChar]
  | field role =>
      obtain ⟨field, member, set⟩ := shown.present role index here
      cases found : pattern.fields.find? fun field => field.mask.getLsbD index with
      | none => exact absurd set (List.find?_eq_none.mp found field member)
      | some first =>
          -- The field found may be another one than `field`, but both stand at this symbol.
          have firstSet := List.find?_some found
          have same := shown.field first (List.mem_of_find?_eq_some found) index firstSet
          rw [here, Option.some.injEq, Symbol.field.injEq] at same
          simp [symbolAt, literal, found, Symbol.isLiteral, Symbol.toChar, same]

theorem Shown.render_eq (shown : pattern.Shown symbols)
    (bits : pattern.bits = Symbol.marked Symbol.isOne symbols) (length : symbols.length = 32) :
    pattern.render = String.ofList (symbols.map Symbol.toChar) := by
  have upward : (List.range 32).map pattern.symbolAt = symbols.reverse.map Symbol.toChar := by
    apply List.ext_getElem (by simp [length])
    intro index bound other
    simp only [List.length_map, List.length_range, List.length_reverse] at bound other
    have here := List.getElem?_eq_getElem (l := symbols.reverse) (by simpa using other)
    simpa using shown.symbolAt_eq bits length here
  rw [render, List.map_reverse, upward, ← List.map_reverse, List.reverse_reverse]

/-- A read pattern is written as its text without white space and underscores. -/
theorem render_of_parse (accepted : parse text = .ok pattern) :
    pattern.render = String.ofList (significant text) := by
  obtain ⟨symbols, written, length, single, accepted⟩ := parse_eq_ok_iff.mp accepted
  obtain ⟨_, _, _, bits, _⟩ := ofSymbols_eq_ok_iff.mp accepted
  rw [(shown_of_symbols single length accepted).render_eq bits length, written]

theorem significant_ofList_significant (text : String) :
    significant (String.ofList (significant text)) = significant text := by
  simp only [significant, String.toList_ofList, List.filter_filter, Bool.and_self]

/-- The reader sees nothing but the significant characters. -/
theorem parse_congr (same : significant text = significant other) : parse text = parse other := by
  simp only [parse, same]

theorem parse_render (accepted : parse text = .ok pattern) :
    parse pattern.render = .ok pattern := by
  rw [render_of_parse accepted, parse_congr (significant_ofList_significant text), accepted]

/-- Patterns are the same if their texts are, up to white space and underscores. -/
theorem eq_iff_significant_eq {alsoPattern : Pattern} (accepted : parse text = .ok pattern)
    (alsoAccepted : parse other = .ok alsoPattern) :
    pattern = alsoPattern ↔ significant text = significant other := by
  constructor
  · intro same
    have written := congrArg render same
    rw [render_of_parse accepted, render_of_parse alsoAccepted] at written
    exact String.ofList_injective written
  · intro same
    rw [parse_congr same, alsoAccepted, Except.ok.injEq] at accepted
    exact accepted.symm

/-- Writing a pattern and reading it are inverse to each other.  A read pattern is written
as the 32 significant characters of its text, none of which is the mark of a bit that belongs
to nothing, and these are read as the same pattern again. -/
theorem render_inverts_parse (accepted : parse text = .ok pattern) :
    pattern.render = String.ofList (significant text) ∧ pattern.render.length = 32 ∧
    '?' ∉ pattern.render.toList ∧ parse pattern.render = .ok pattern ∧
    ∀ other alsoPattern, parse other = .ok alsoPattern →
      (pattern = alsoPattern ↔ significant text = significant other) := by
  have grammar := parse_accepts.mp ⟨pattern, accepted⟩
  have written := render_of_parse accepted
  refine ⟨written, ?_, ?_, parse_render accepted, ?_⟩
  · rw [written, String.length_ofList, grammar.length]
  · rw [written, String.toList_ofList]
    intro marked
    exact absurd (grammar.alphabet '?' marked) (by decide)
  · exact fun other alsoPattern => eq_iff_significant_eq accepted

/-- The pattern of two registers and an immediate number, from a text with filling of several
kinds. -/
theorem render_inverts_parse_immediate :
    ∃ pattern, parse " 001000 sssss\tfffff_tttttttt__tttttttt\n" = .ok pattern ∧
      pattern.render = "001000sssssffffftttttttttttttttt" ∧
      parse "001000sssssffffftttttttttttttttt" = .ok pattern := by
  have accepted : parse " 001000 sssss\tfffff_tttttttt__tttttttt\n" = .ok {
      mask := 0xFC000000
      bits := 0x20000000
      fields := [⟨.source, 21, 5⟩, ⟨.target, 0, 16⟩, ⟨.destination, 16, 5⟩]
      bits_within_mask := by decide } := by
    decide +kernel
  have plain : String.ofList (significant " 001000 sssss\tfffff_tttttttt__tttttttt\n") =
      "001000sssssffffftttttttttttttttt" := by
    decide +kernel
  obtain ⟨written, _, _, again, _⟩ := render_inverts_parse accepted
  rw [plain] at written
  rw [written] at again
  exact ⟨_, accepted, written, again⟩

end CarMachine.Pattern
