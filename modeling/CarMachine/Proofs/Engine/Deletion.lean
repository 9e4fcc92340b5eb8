import CarMachine.Proofs.Engine.Policy

namespace CarMachine

/-! Words that fail.

A word that fails leaves no trace but its error.  So a program without the words that were
reported to fail does the same and has nothing to report.
-/

/-- The words at chosen positions; the first word has the given one. -/
def Word.chosen (index : Nat) (choose : Nat → Bool) (words : List Word) : List Word :=
  ((words.zipIdx index).filter fun (_, position) => choose position).map (·.1)

theorem Word.chosen_cons {index : Nat} {choose : Nat → Bool} {word : Word} {rest : List Word} :
    Word.chosen index choose (word :: rest) =
      if choose index then word :: Word.chosen (index + 1) choose rest
      else Word.chosen (index + 1) choose rest := by
  cases choice : choose index <;> simp [Word.chosen, choice]

namespace Report

/-- The words of a program without those that a report lists among the errors. -/
def surviving (report : Report) (words : List Word) : List Word :=
  Word.chosen 0 (fun position => position ∉ report.errors.map (·.1)) words

variable {index start : Nat} {results : List StepResult}

theorem ofResults_filter :
    ofResults index (results.filter (·.isRetired)) =
      { ofResults start results with errors := [] } := by
  have output : (results.filter (·.isRetired)).filterMap (·.line?) =
      results.filterMap (·.line?) := by
    rw [List.filterMap_filter]
    refine List.filterMap_congr fun result _ => ?_
    cases result <;> rfl
  rw [ofResults_of_retired (by simp), output, ← List.countP_eq_length_filter]
  rfl

/-- A word is not among the errors exactly if it has retired. -/
theorem position_not_mem_errors_iff {position : Nat} {result : StepResult}
    (found : results[position]? = some result) (safe : result.GoesOn .proceed) :
    position ∉ (ofResults 0 results).errors.map (·.1) ↔ result.isRetired = true := by
  have reported : position ∈ (ofResults 0 results).errors.map (·.1) ↔
      ∃ error, results[position]? = some (.failed error) := by
    simp only [List.mem_map, Prod.exists, exists_eq_right, mem_errors_ofResults, Nat.zero_add,
      exists_eq_left', exists_and_right]
  rw [reported, found]
  cases result with
  | retired outcome => simp [StepResult.isRetired, StepResult.outcome?]
  | failed error => simp [StepResult.isRetired, StepResult.outcome?]
  | crashed missing => contradiction

end Report

namespace Engine

variable {engine : Engine} {words : List Word}

/-- Without the words that fail the others answer as before and leave the same engine. -/
theorem answers_of_chosen {choose : Nat → Bool} (index : Nat) (safe : engine.Safe words)
    (exact : ∀ offset result, (engine.answers (words.map .step))[offset]? = some result →
      choose (index + offset) = result.isRetired) :
    engine.answers ((Word.chosen index choose words).map .step) =
        (engine.answers (words.map .step)).filter (·.isRetired) ∧
      engine.after ((Word.chosen index choose words).map .step) =
        engine.after (words.map .step) := by
  induction words generalizing engine index with
  | nil => exact ⟨rfl, rfl⟩
  | cons word rest ih =>
      obtain ⟨here, later⟩ := safe
      have choice : choose index = (engine.answer (.step word)).1.isRetired := exact 0 _ rfl
      have others := ih (index + 1) later fun offset result found => by
        rw [Nat.add_right_comm, Nat.add_assoc]
        exact exact (offset + 1) result found
      cases answered : (engine.step word).1 with
      | crashed missing => exact absurd answered (here missing)
      | retired outcome =>
          have retired : (engine.answer (.step word)).1.isRetired = true := by
            simp only [answer, answered]
            rfl
          rw [retired] at choice
          simp only [Word.chosen_cons, choice, if_true, List.map_cons, answers,
            List.filter_cons, retired, after]
          exact ⟨congrArg _ others.1, others.2⟩
      | failed error =>
          have failed : (engine.answer (.step word)).1 = .failed error := answered
          have dropped : choose index = false := by
            rw [choice, failed]
            rfl
          have unchanged : (engine.step word).2 = engine := answer_of_failed failed
          rw [unchanged] at others
          simpa [Word.chosen_cons, dropped, answers, after, failed, answer_of_failed failed,
            StepResult.isRetired, StepResult.outcome?] using others

theorem answers_of_surviving (safe : engine.Safe words) :
    engine.answers (((Report.ofResults 0 (engine.answers (words.map .step))).surviving
        words).map .step) = (engine.answers (words.map .step)).filter (·.isRetired) ∧
      engine.after (((Report.ofResults 0 (engine.answers (words.map .step))).surviving
        words).map .step) = engine.after (words.map .step) := by
  refine answers_of_chosen 0 safe fun position result found => ?_
  have goes := safe_iff.mp safe result (List.mem_of_getElem? found)
  rw [Nat.zero_add, Bool.eq_iff_iff, decide_eq_true_iff]
  exact Report.position_not_mem_errors_iff found goes

/-- Without the words that were reported to fail a run is clean and otherwise the same, and
each of its words answers as before.  A word that fails anywhere takes nothing but its own
answer with it. -/
theorem run_surviving (safe : engine.Safe words) :
    (∃ report last, (engine.under .proceed).run words = (.ok report, last) ∧
      (engine.under .proceed).run (report.surviving words) =
        (.ok { report with errors := [] }, last) ∧
      engine.answers ((report.surviving words).map .step) =
        (engine.answers (words.map .step)).filter (·.isRetired)) ∧
    ∀ first word rest error, ((engine.after (first.map .step)).step word).1 = .failed error →
      engine.answers ((first ++ word :: rest).map .step) = engine.answers (first.map .step) ++
        .failed error :: (engine.after (first.map .step)).answers (rest.map .step) ∧
      engine.answers ((first ++ rest).map .step) = engine.answers (first.map .step) ++
        (engine.after (first.map .step)).answers (rest.map .step) ∧
      engine.after ((first ++ word :: rest).map .step) =
        engine.after ((first ++ rest).map .step) := by
  constructor
  · obtain ⟨answered, left⟩ := answers_of_surviving safe
    refine ⟨_, _, run_under_of_goesOn (safe_iff.mp safe), ?_, answered⟩
    have retired : ∀ result ∈ (engine.answers (words.map .step)).filter (·.isRetired),
        result.isRetired = true := fun result member => (List.mem_filter.mp member).2
    rw [← answered] at retired
    rw [run_under_of_retired retired, answered, left, Report.ofResults_filter]
  · intro first word rest error failed
    have answered : ((engine.after (first.map .step)).answer (.step word)).1 = .failed error :=
      failed
    simp only [List.map_append, List.map_cons]
    exact ⟨answers_of_failed answered, answers_append, after_of_failed answered⟩

theorem run_surviving_saturated :
    saturated.Safe [0x14, 0x21280001, 0xFFFFFFFF, 0x18] ∧
      ((saturated.under .proceed).run [0x14, 0x18]).1 = .ok {
        retired := 2
        output := ["Your car is now stopped \n", "the hood is now popped \n"] } := by
  have safe := saturated_safe [0x14, 0x21280001, 0xFFFFFFFF, 0x18]
  obtain ⟨report, last, ran, shortened, _⟩ := (run_surviving safe).1
  have whole : ((saturated.under .proceed).run [0x14, 0x21280001, 0xFFFFFFFF, 0x18]).1 = .ok {
      retired := 2
      output := ["Your car is now stopped \n", "the hood is now popped \n"]
      errors := [(1, .fault ⟨"addi", some 0x21280001, .arithmeticOverflow⟩),
        (2, .decode (.noMatch 0xFFFFFFFF))] } := by
    decide +kernel
  rw [ran] at whole
  cases whole
  have survivors : Report.surviving { errors :=
      [(1, .fault ⟨"addi", some 0x21280001, .arithmeticOverflow⟩),
        (2, .decode (.noMatch 0xFFFFFFFF))] } [0x14, 0x21280001, 0xFFFFFFFF, 0x18] =
      [0x14, 0x18] := by
    decide
  exact ⟨safe, by rw [← survivors]; exact congrArg Prod.fst shortened⟩

end Engine

end CarMachine
