import CarMachine.Proofs.Text.Numeral
import CarMachine.Text.Basic

namespace CarMachine.Text

/-! Texts made of lines, and lines made of words.

A line is a text with one newline, at its end.  Lines that are joined can be told apart again
by cutting behind each newline.  White space separates words and belongs to none of them, so a
text can be cut at each white space without a change to its words.
-/

section

/-- A text is one line: it has one newline, and that is its last character. -/
structure IsLine (text : String) : Prop where
  one : text.toList.count '\n' = 1
  last : text.toList.getLast? = some '\n'

instance (text : String) : Decidable (IsLine text) :=
  decidable_of_iff (text.toList.count '\n' = 1 ∧ text.toList.getLast? = some '\n')
    ⟨fun parts => ⟨parts.1, parts.2⟩, fun isLine => ⟨isLine.one, isLine.last⟩⟩

/-- The pieces of a text that is cut behind each newline.  What stands after the last newline
is a piece of its own, unless nothing does. -/
def cutAfterNewlines : List Char → List (List Char)
  | [] => []
  | char :: rest =>
      if char = '\n' then [char] :: cutAfterNewlines rest
      else
        match cutAfterNewlines rest with
        | [] => [[char]]
        | piece :: pieces => (char :: piece) :: pieces

def piecesOf (text : String) : List String :=
  (cutAfterNewlines text.toList).map String.ofList

variable {words rest : List Char} {line text : String} {lines : List String}

theorem isLine_iff :
    IsLine text ↔ ∃ words, text.toList = words ++ ['\n'] ∧ '\n' ∉ words := by
  constructor
  · intro isLine
    obtain ⟨words, split⟩ := List.getLast?_eq_some_iff.mp isLine.last
    have one := isLine.one
    rw [split, List.count_append, List.count_singleton_self] at one
    exact ⟨words, split, List.count_eq_zero.mp (by omega)⟩
  · intro parts
    obtain ⟨words, split, free⟩ := parts
    constructor
    · rw [split, List.count_append, List.count_eq_zero.mpr free, List.count_singleton_self]
    · rw [split, List.getLast?_concat]

theorem cutAfterNewlines_append (free : '\n' ∉ words) :
    cutAfterNewlines (words ++ '\n' :: rest) =
      (words ++ ['\n']) :: cutAfterNewlines rest := by
  induction words with
  | nil => simp [cutAfterNewlines]
  | cons char words ih =>
      rw [List.mem_cons, not_or] at free
      obtain ⟨here, later⟩ := free
      simp [cutAfterNewlines, Ne.symm here, ih later]

theorem piecesOf_append (isLine : IsLine line) :
    piecesOf (line ++ text) = line :: piecesOf text := by
  obtain ⟨words, split, free⟩ := isLine_iff.mp isLine
  rw [piecesOf, String.toList_append, split, List.append_assoc, List.singleton_append,
    cutAfterNewlines_append free, ← split, List.map_cons, String.ofList_toList]
  rfl

/-- Lines that were joined are found again. -/
theorem piecesOf_join (isLine : ∀ line ∈ lines, IsLine line) : piecesOf (.join lines) = lines := by
  induction lines with
  | nil => rfl
  | cons line lines ih =>
      obtain ⟨here, later⟩ := List.forall_mem_cons.mp isLine
      rw [String.join_cons, piecesOf_append here, ih later]

end

/-! ## Words -/

def cutAtBlanks (chars : List Char) : List (List Char) :=
  (chars.splitOnP isBlank).filter (!·.isEmpty)

def wordsOf (text : String) : List String :=
  (cutAtBlanks text.toList).map String.ofList

variable {first rest blanks : List Char} {blank : Char} {text : String}

theorem cutAtBlanks_append (white : isBlank blank = true) (first rest : List Char) :
    cutAtBlanks (first ++ blank :: rest) = cutAtBlanks first ++ cutAtBlanks rest := by
  rw [cutAtBlanks, List.splitOnP_append_cons first rest white, List.filter_append]
  rfl

theorem cutAtBlanks_append_blanks (white : ∀ char ∈ blanks, isBlank char = true) :
    cutAtBlanks (first ++ blanks) = cutAtBlanks first := by
  induction blanks generalizing first with
  | nil => rw [List.append_nil]
  | cons blank blanks ih =>
      obtain ⟨here, later⟩ := List.forall_mem_cons.mp white
      have nothing : cutAtBlanks ([] ++ blanks) = [] := ih later
      rw [cutAtBlanks_append here, ← List.nil_append blanks, nothing, List.append_nil]

theorem wordsOf_append (white : isBlank blank = true) (first rest : String) :
    wordsOf (first ++ String.singleton blank ++ rest) = wordsOf first ++ wordsOf rest := by
  simp only [wordsOf, String.toList_append, String.toList_singleton, List.append_assoc,
    List.singleton_append, cutAtBlanks_append white, List.map_append]

theorem wordsOf_padRight (width : Nat) (text : String) :
    wordsOf (padRight width text) = wordsOf text := by
  have white : ∀ char ∈ List.replicate (width - text.length) ' ', isBlank char = true := by
    intro char member
    rw [List.eq_of_mem_replicate member]
    decide
  rw [wordsOf, padRight, String.toList_append, String.toList_ofList,
    cutAtBlanks_append_blanks white, wordsOf]

theorem mem_padRight {char : Char} {width : Nat} (member : char ∈ (padRight width text).toList) :
    char ∈ text.toList ∨ char = ' ' := by
  rw [padRight, String.toList_append, String.toList_ofList, List.mem_append] at member
  exact member.imp_right List.eq_of_mem_replicate

theorem wordsOf_of_plain (nonempty : text.toList ≠ [])
    (plain : ∀ char ∈ text.toList, isBlank char = false) : wordsOf text = [text] := by
  rw [wordsOf, cutAtBlanks, List.splitOnP_eq_singleton plain,
    List.filter_cons_of_pos (by simpa using nonempty), List.filter_nil, List.map_singleton,
    String.ofList_toList]

end CarMachine.Text
