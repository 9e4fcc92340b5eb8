import CarMachine.Program
import CarMachine.Proofs.Text.Layout
import Mathlib.Logic.Relation

namespace CarMachine

/-! Layouts of a program text.

What is read depends on the significant parts of the lines alone, line by line.  So programs can
be put one behind the other, and comments, white space and the kind of line break do not matter.
-/

namespace Program

/-- The same error in a line that stands further down. -/
def Error.shift (offset : Nat) (error : Program.Error) : Program.Error :=
  { error with line := error.line + offset }

/-- One change to the layout of a text: a comment at the end of a line, white space at either end
of a line, or a carriage return in front of a newline. -/
inductive Relaid : List Char → List Char → Prop where
  | comment {before words after : List Char} (free : '\n' ∉ words) (stop : Text.LineEnd after) :
      Relaid (before ++ after) (before ++ ('#' :: words ++ after))
  | padded {before blanks after : List Char} (free : '\n' ∉ blanks)
      (blank : ∀ char ∈ blanks, Text.isBlank char = true) (stop : Text.LineEnd after) :
      Relaid (before ++ after) (before ++ (blanks ++ after))
  | indented {before blanks after : List Char} (free : '\n' ∉ blanks)
      (blank : ∀ char ∈ blanks, Text.isBlank char = true) (start : Text.Terminated before) :
      Relaid (before ++ after) (before ++ (blanks ++ after))
  | lineBreak {before after : List Char} :
      Relaid (before ++ '\n' :: after) (before ++ '\r' :: '\n' :: after)

variable {number offset : Nat} {line blanks words : List Char} {lines first rest : List (List Char)}

theorem significant_append_comment : significant (line ++ '#' :: words) = significant line := by
  rw [significant, significant, List.takeWhile_append]
  split
  · rename_i length
    rw [(List.takeWhile_prefix _).eq_of_length length]
    simp
  · rfl

theorem significant_append_blank (blank : ∀ char ∈ blanks, Text.isBlank char = true) :
    significant (line ++ blanks) = significant line := by
  rw [significant, significant, List.takeWhile_append]
  split
  · rename_i length
    rw [(List.takeWhile_prefix _).eq_of_length length]
    exact Text.trimmed_append_right
      fun char member => blank char ((List.takeWhile_sublist _).subset member)
  · rfl

theorem significant_blank_append (blank : ∀ char ∈ blanks, Text.isBlank char = true) :
    significant (blanks ++ line) = significant line := by
  have uncommented : ∀ char ∈ blanks, (char != '#') = true := by
    intro char member
    rw [bne_iff_ne]
    rintro rfl
    exact absurd (blank '#' member) (by decide)
  rw [significant, List.takeWhile_append_of_pos uncommented, Text.trimmed_append_left blank,
    significant]

theorem readLines_congr (same : first.map significant = rest.map significant) :
    readLines number first = readLines number rest := by
  induction first generalizing number rest with
  | nil => rw [List.map_eq_nil_iff.mp same.symm]
  | cons line first ih =>
      cases rest with
      | nil => contradiction
      | cons other rest =>
          rw [List.map_cons, List.map_cons, List.cons.injEq] at same
          simp only [readLines, same.1, ih same.2]

theorem readLines_append : readLines number (first ++ rest) =
    (readLines number first).bind fun words =>
      (readLines (number + first.length) rest).map (words ++ ·) := by
  induction first generalizing number with
  | nil => cases known : readLines number rest <;> simp [readLines, known] <;> rfl
  | cons line first ih =>
      have position : number + (line :: first).length = number + 1 + first.length := by
        simp only [List.length_cons]
        omega
      simp only [List.cons_append, readLines, position]
      split
      · exact ih
      · split
        · rw [ih]
          cases readLines (number + 1) first with
          | error error => rfl
          | ok words => cases readLines (number + 1 + first.length) rest <;> rfl
        · rfl

/-- A blank piece at the end adds no word. -/
theorem readLines_concat_nil : readLines number (lines ++ [[]]) = readLines number lines := by
  rw [readLines_append]
  cases readLines number lines with
  | error error => rfl
  | ok words => exact congrArg Except.ok (List.append_nil words)

theorem readLines_add : readLines (number + offset) lines =
    (readLines number lines).mapError (.shift offset) := by
  induction lines generalizing number with
  | nil => rfl
  | cons line lines ih =>
      simp only [readLines, Nat.add_right_comm number offset 1, ih]
      split
      · rfl
      · split
        · cases readLines (number + 1) lines <;> rfl
        · rfl

theorem parse_append {first rest : String} (terminated : Text.Terminated first.toList) :
    parse (first ++ rest) = (parse first).bind fun words =>
      ((parse rest).mapError (.shift (first.toList.count '\n'))).map (words ++ ·) := by
  obtain ⟨earlier, lines, appended⟩ := terminated.exists_linesOf_append
  have count := Text.length_linesOf first.toList
  rw [lines, List.length_append, List.length_singleton, Nat.add_right_cancel_iff] at count
  have alone : parse first = readLines 1 earlier := by rw [parse, lines, readLines_concat_nil]
  rw [alone, parse, String.toList_append, appended, readLines_append, count, readLines_add, parse]

theorem parse_append_newline (text : String) : parse (text ++ "\n") = parse text := by
  have lines : Text.linesOf (text ++ "\n").toList = Text.linesOf text.toList ++ [[]] := by
    rw [String.toList_append]
    exact Text.linesOf_append_newline text.toList []
  rw [parse, lines, readLines_concat_nil, parse]

/-- At the end of a line something can be inserted that is not significant there. -/
theorem map_significant_insert {before inserted after : List Char} (free : '\n' ∉ inserted)
    (stop : Text.LineEnd after)
    (silent : ∀ last blanks, (∀ char ∈ blanks, Text.isBlank char = true) →
      significant (last ++ (inserted ++ blanks)) = significant last) :
    (Text.linesOf (before ++ (inserted ++ after))).map significant =
      (Text.linesOf (before ++ after)).map significant := by
  obtain ⟨line, lines, split, blank⟩ := stop.exists_linesOf
  obtain ⟨earlier, last, appended⟩ := Text.exists_linesOf_append before
  rw [appended _ _ _ (Text.linesOf_append_of_free free split), appended _ _ _ split]
  simp only [List.map_append, List.map_cons, silent last line blank,
    significant_append_blank blank]

theorem map_significant_pad {before after : List Char} (free : '\n' ∉ blanks)
    (blank : ∀ char ∈ blanks, Text.isBlank char = true) (stop : Text.LineEnd after) :
    (Text.linesOf (before ++ (blanks ++ after))).map significant =
      (Text.linesOf (before ++ after)).map significant := by
  refine map_significant_insert free stop fun last others alsoBlank => ?_
  rw [← List.append_assoc, significant_append_blank alsoBlank, significant_append_blank blank]

theorem Relaid.map_significant {text other : List Char} (relaid : Relaid text other) :
    (Text.linesOf other).map significant = (Text.linesOf text).map significant := by
  cases relaid with
  | comment free stop =>
      refine map_significant_insert (by simpa using free) stop fun last blanks _ => ?_
      exact significant_append_comment
  | padded free blank stop => exact map_significant_pad free blank stop
  | @indented before blanks after free blank start =>
      obtain ⟨earlier, _, appended⟩ := start.exists_linesOf_append
      obtain ⟨line, lines, split⟩ := Text.exists_linesOf after
      rw [appended, appended, Text.linesOf_append_of_free free split, split]
      simp only [List.map_append, List.map_cons, significant_blank_append blank]
  | @lineBreak before after =>
      change (Text.linesOf (before ++ (['\r'] ++ '\n' :: after))).map significant = _
      exact map_significant_pad (by decide) (List.forall_mem_singleton.mpr (by decide))
        (.newline after)

theorem map_significant_of_relaid {text other : List Char}
    (relaid : Relation.ReflTransGen Relaid text other) :
    (Text.linesOf other).map significant = (Text.linesOf text).map significant := by
  induction relaid with
  | refl => rfl
  | tail _ step ih => rw [step.map_significant, ih]

/-- A text behind whole lines is read as if it stood alone, with its errors further down.  What is
read stays the same under any changes to the layout. -/
theorem parse_layout :
    (∀ first rest : String, Text.Terminated first.toList →
      parse (first ++ rest) =
        match parse first with
        | .error error => .error error
        | .ok words =>
            match parse rest with
            | .error error => .error {
                line := error.line + first.toList.count '\n'
                text := error.text }
            | .ok others => .ok (words ++ others)) ∧
    ∀ text other : String, Relation.ReflTransGen Relaid text.toList other.toList →
      parse other = parse text := by
  constructor
  · intro first rest terminated
    rw [parse_append terminated]
    cases parse first with
    | error error => rfl
    | ok words => cases parse rest <;> rfl
  · intro text other relaid
    exact readLines_congr (map_significant_of_relaid relaid)

/-- The lines of a first text count, and so do their line breaks of either kind. -/
theorem parse_layout_throttle : parse ("14\n\n" ++ "throttle") = .error ⟨3, "throttle"⟩ ∧
    parse "14\r\n\nthrottle" = .error ⟨3, "throttle"⟩ := by
  have whole : parse ("14\n\n" ++ "throttle") = .error ⟨3, "throttle"⟩ := by
    have start : parse "14\n\n" = .ok [0x14] := by decide +kernel
    have finish : parse "throttle" = .error ⟨1, "throttle"⟩ := by decide +kernel
    rw [parse_layout.1 _ _ (by decide), start, finish]
    rfl
  have relaid : Relaid ("14\n\n" ++ "throttle").toList "14\r\n\nthrottle".toList :=
    @Relaid.lineBreak "14".toList "\nthrottle".toList
  exact ⟨whole, (parse_layout.2 _ _ (.single relaid)).trans whole⟩

end Program

end CarMachine
