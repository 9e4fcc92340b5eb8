import CarMachine.Text.Basic
import Mathlib

namespace CarMachine.Text

/-! Trimming a text and cutting it into lines.

White space goes from both ends of a text, and nothing else does.  The lines of a text do not
depend on what follows them, save the last one, which goes on with the first line of what
follows.
-/

section

variable {chars blanks core : List Char} {char : Char}

theorem isBlank_of_isAlphanum (alphanumeric : char.isAlphanum = true) : isBlank char = false := by
  have codes : '0'.val.toNat = 48 ∧ '9'.val.toNat = 57 ∧ 'a'.val.toNat = 97 ∧
      'z'.val.toNat = 122 ∧ 'A'.val.toNat = 65 ∧ 'Z'.val.toNat = 90 := by decide
  simp only [Char.isAlphanum, Char.isAlpha, Char.isUpper, Char.isLower, Char.isDigit,
    Bool.or_eq_true, Bool.and_eq_true, decide_eq_true_eq, ge_iff_le,
    UInt32.le_iff_toNat_le] at alphanumeric
  simp only [isBlank, blankRanges, List.any_cons, List.any_nil, Bool.or_false, Char.toNat,
    Bool.or_eq_false_iff, Bool.and_eq_false_iff, decide_eq_false_iff_not]
  omega

theorem isAlphanum_toLower (char : Char) : char.toLower.isAlphanum = char.isAlphanum := by
  by_cases capital : char.isUpper = true
  · have letter : char.isAlpha = true := by rw [Char.isAlpha, capital, Bool.true_or]
    rw [Char.isAlphanum, Char.isAlphanum, Char.isAlpha_toLower_eq_isAlpha, letter, Bool.true_or,
      Bool.true_or]
  · rw [Char.toLower_eq_of_not_isUpper capital]

theorem trimmed_eq (chars : List Char) :
    trimmed chars = (chars.dropWhile isBlank).rdropWhile isBlank :=
  rfl

theorem trimmed_append_left (blank : ∀ char ∈ blanks, isBlank char = true) :
    trimmed (blanks ++ chars) = trimmed chars := by
  rw [trimmed_eq, List.dropWhile_append_of_pos blank, ← trimmed_eq]

theorem trimmed_append_right (blank : ∀ char ∈ blanks, isBlank char = true) :
    trimmed (chars ++ blanks) = trimmed chars := by
  have reversed : ∀ char ∈ blanks.reverse, isBlank char = true :=
    fun char member => blank char (List.mem_reverse.mp member)
  simp only [trimmed, List.dropWhile_append]
  cases start : chars.dropWhile isBlank with
  | nil => simp [List.dropWhile_eq_nil_iff.mpr blank]
  | cons char rest =>
      rw [List.isEmpty_cons, if_neg Bool.false_ne_true, List.reverse_append,
        List.dropWhile_append_of_pos reversed]

theorem trimmed_of_plain (plain : ∀ char ∈ core, isBlank char = false) : trimmed core = core := by
  have first : core.dropWhile isBlank = core :=
    List.dropWhile_eq_self_iff.mpr fun inside => by simp [plain _ (List.getElem_mem inside)]
  rw [trimmed_eq, first, List.rdropWhile_eq_self_iff]
  intro nonempty
  simp [plain _ (List.getLast_mem nonempty)]

/-- What is trimmed off is white space at the ends. -/
theorem exists_trimmed (chars : List Char) : ∃ left right,
    chars = left ++ (trimmed chars ++ right) ∧
      (∀ char ∈ left, isBlank char = true) ∧ ∀ char ∈ right, isBlank char = true := by
  refine ⟨chars.takeWhile isBlank, (chars.dropWhile isBlank).rtakeWhile isBlank, ?_,
    fun _ => List.mem_takeWhile_imp, fun _ => List.mem_rtakeWhile_imp⟩
  rw [trimmed_eq, List.rdropWhile_append_rtakeWhile, List.takeWhile_append_dropWhile]

end

/-! ## Lines -/

/-- A text of whole lines: each of them ends with a newline. -/
def Terminated (chars : List Char) : Prop :=
  chars = [] ∨ chars.getLast? = some '\n'

instance (chars : List Char) : Decidable (Terminated chars) :=
  inferInstanceAs (Decidable (_ ∨ _))

/-- What stands behind the end of a line: nothing more, or a line break of either kind. -/
inductive LineEnd : List Char → Prop where
  | last : LineEnd []
  | newline (rest : List Char) : LineEnd ('\n' :: rest)
  | carriageReturn (rest : List Char) : LineEnd ('\r' :: '\n' :: rest)

variable {first rest words line : List Char} {lines : List (List Char)} {char : Char}

theorem exists_linesOf (chars : List Char) : ∃ line lines, linesOf chars = line :: lines :=
  List.exists_cons_of_ne_nil (linesOf_ne_nil chars)

@[simp] theorem linesOf_nil : linesOf [] = [[]] :=
  rfl

@[simp] theorem linesOf_newline : linesOf ('\n' :: rest) = [] :: linesOf rest := by
  simp [linesOf]

theorem linesOf_cons (other : char ≠ '\n') (split : linesOf rest = line :: lines) :
    linesOf (char :: rest) = (char :: line) :: lines := by
  simp [linesOf, other, split]

theorem linesOf_append_newline (first rest : List Char) :
    linesOf (first ++ '\n' :: rest) = linesOf first ++ linesOf rest := by
  induction first with
  | nil => simp [linesOf]
  | cons char first ih =>
      by_cases breaks : char = '\n'
      · simp [breaks, ih]
      · obtain ⟨line, lines, split⟩ := exists_linesOf first
        rw [split] at ih
        rw [List.cons_append, linesOf_cons breaks ih, linesOf_cons breaks split]
        rfl

theorem linesOf_append_of_free (free : '\n' ∉ words) (split : linesOf rest = line :: lines) :
    linesOf (words ++ rest) = (words ++ line) :: lines := by
  induction words with
  | nil => exact split
  | cons char words ih =>
      rw [List.mem_cons, not_or] at free
      exact linesOf_cons (Ne.symm free.1) (ih free.2)

theorem linesOf_of_free (free : '\n' ∉ words) : linesOf words = [words] := by
  simpa using linesOf_append_of_free free (linesOf_nil)

theorem linesOf_intercalate (nonempty : lines ≠ []) (free : ∀ line ∈ lines, '\n' ∉ line) :
    linesOf (['\n'].intercalate lines) = lines := by
  induction lines with
  | nil => contradiction
  | cons line rest ih =>
      rw [List.forall_mem_cons] at free
      cases rest with
      | nil => simpa using linesOf_of_free free.1
      | cons next rest =>
          rw [List.intercalate_cons_cons, List.append_assoc, List.singleton_append,
            linesOf_append_newline, linesOf_of_free free.1, ih (List.cons_ne_nil _ _) free.2]
          rfl

/-- The last line of a text goes on with the first line of what is appended. -/
theorem exists_linesOf_append (first : List Char) : ∃ earlier last, ∀ rest line lines,
    linesOf rest = line :: lines →
      linesOf (first ++ rest) = earlier ++ (last ++ line) :: lines := by
  induction first with
  | nil => exact ⟨[], [], fun rest line lines split => split⟩
  | cons char first ih =>
      obtain ⟨earlier, last, appended⟩ := ih
      by_cases breaks : char = '\n'
      · refine ⟨[] :: earlier, last, fun rest line lines split => ?_⟩
        simp [breaks, appended rest line lines split]
      · cases earlier with
        | nil =>
            refine ⟨[], char :: last, fun rest line lines split => ?_⟩
            exact linesOf_cons breaks (appended rest line lines split)
        | cons line earlier =>
            refine ⟨(char :: line) :: earlier, last, fun rest next lines split => ?_⟩
            exact linesOf_cons breaks (appended rest next lines split)

theorem Terminated.exists_linesOf_append (terminated : Terminated first) :
    ∃ earlier, linesOf first = earlier ++ [[]] ∧
      ∀ rest, linesOf (first ++ rest) = earlier ++ linesOf rest := by
  rcases terminated with rfl | last
  · exact ⟨[], rfl, fun rest => rfl⟩
  · obtain ⟨start, rfl⟩ := List.getLast?_eq_some_iff.mp last
    refine ⟨linesOf start, linesOf_append_newline start [], fun rest => ?_⟩
    rw [List.append_assoc, List.singleton_append, linesOf_append_newline]

/-- Before the end of a line there is at most the first half of a line break. -/
theorem LineEnd.exists_linesOf (stop : LineEnd rest) : ∃ line lines,
    linesOf rest = line :: lines ∧ ∀ char ∈ line, isBlank char = true := by
  cases stop with
  | last => exact ⟨[], [], rfl, by simp⟩
  | newline after => exact ⟨[], _, linesOf_newline, by simp⟩
  | carriageReturn after =>
      exact ⟨['\r'], _, linesOf_cons (by decide) linesOf_newline,
        List.forall_mem_singleton.mpr (by decide)⟩

theorem length_linesOf (chars : List Char) :
    (linesOf chars).length = chars.count '\n' + 1 := by
  induction chars with
  | nil => rfl
  | cons char rest ih =>
      by_cases breaks : char = '\n'
      · simp [breaks, ih]
      · obtain ⟨line, lines, split⟩ := exists_linesOf rest
        rw [split] at ih
        rw [linesOf_cons breaks split, List.count_cons_of_ne breaks]
        exact ih

end CarMachine.Text
