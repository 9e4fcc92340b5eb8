import CarMachine.Proofs.Engine.Append
import CarMachine.Proofs.Engine.Trace

namespace CarMachine

/-! The two policies for errors.

A run that goes on after errors counts or reports every word.  A run that halts is the same
up to the first error, and there it ends.
-/

namespace Report

/-- A report on all of as many words: each has retired or stands among the errors. -/
structure Accounts (report : Report) (count : Nat) : Prop where
  going : report.halted = false
  increasing : (report.errors.map (·.1)).Pairwise (· < ·)
  inside : ∀ position ∈ report.errors.map (·.1), position < count
  complete : report.retired + report.errors.length = count

variable {index : Nat} {results : List StepResult}

theorem increasing_ofResults :
    ((ofResults index results).errors.map (·.1)).Pairwise (· < ·) := by
  have positions : (results.zipIdx index).Pairwise fun first second => first.2 < second.2 := by
    rw [← List.pairwise_map, List.zipIdx_map_snd]
    exact List.pairwise_lt_range'
  rw [List.pairwise_map, ofResults, List.pairwise_filterMap]
  refine positions.imp ?_
  intro first second before early found late alsoFound
  obtain ⟨_, _, rfl⟩ := Option.map_eq_some_iff.mp found
  obtain ⟨_, _, rfl⟩ := Option.map_eq_some_iff.mp alsoFound
  exact before

theorem complete_ofResults (safe : ∀ result ∈ results, result.GoesOn .proceed) :
    (ofResults index results).retired + (ofResults index results).errors.length =
      results.length := by
  induction results generalizing index with
  | nil => rfl
  | cons result rest ih =>
      obtain ⟨here, later⟩ := List.forall_mem_cons.mp safe
      have others := @ih (index + 1) later
      cases result with
      | retired outcome =>
          simp only [ofResults_retired, afterRetired, List.length_cons]
          omega
      | failed error =>
          simp only [ofResults_failed, afterFailed, List.length_cons]
          omega
      | crashed missing => contradiction

theorem accounts_ofResults (safe : ∀ result ∈ results, result.GoesOn .proceed) :
    (ofResults 0 results).Accounts results.length where
  going := rfl
  increasing := increasing_ofResults
  inside := by
    intro position listed
    obtain ⟨⟨_, error⟩, member, rfl⟩ := List.mem_map.mp listed
    obtain ⟨offset, rfl, found⟩ := mem_errors_ofResults.mp member
    rw [Nat.zero_add]
    exact (List.getElem?_eq_some_iff.mp found).1
  complete := complete_ofResults safe

theorem ofResults_of_retired (retired : ∀ result ∈ results, result.isRetired = true) :
    ofResults index results =
      { retired := results.length, output := results.filterMap (·.line?) } := by
  induction results generalizing index with
  | nil => rfl
  | cons result rest ih =>
      obtain ⟨here, later⟩ := List.forall_mem_cons.mp retired
      cases result with
      | retired outcome =>
          rw [ofResults_retired, ih later]
          cases line : outcome.line <;>
            simp [afterRetired, StepResult.line?, StepResult.outcome?, line]
      | failed error | crashed missing => contradiction

end Report

namespace Engine

variable {engine : Engine} {index : Nat} {word : Word} {words first rest : List Word}
  {error : StepFailure}

/-- A run either is clean, or there is a first word that fails. -/
theorem exists_first_failed (safe : engine.Safe words) :
    (∀ result ∈ engine.answers (words.map .step), result.isRetired = true) ∨
    ∃ first word rest error, words = first ++ word :: rest ∧
      (∀ result ∈ engine.answers (first.map .step), result.isRetired = true) ∧
      ((engine.after (first.map .step)).step word).1 = .failed error := by
  induction words generalizing engine with
  | nil => exact .inl (List.forall_mem_nil _)
  | cons word rest ih =>
      obtain ⟨here, later⟩ := safe
      cases answered : (engine.step word).1 with
      | crashed missing => exact absurd answered (here missing)
      | failed error => exact .inr ⟨[], word, rest, error, rfl, List.forall_mem_nil _, answered⟩
      | retired outcome =>
          have start : (engine.answer (.step word)).1.isRetired = true := by
            simp only [answer, answered]
            rfl
          rcases ih later with clean | ⟨first, bad, others, error, rfl, clean, failed⟩
          · exact .inl (List.forall_mem_cons.mpr ⟨start, clean⟩)
          · exact .inr ⟨word :: first, bad, others, error, rfl,
              List.forall_mem_cons.mpr ⟨start, clean⟩, failed⟩

theorem runAt_halt_of_failed (halts : engine.config.faultPolicy = .halt)
    (failed : (engine.step word).1 = .failed error) :
    engine.runAt index (word :: rest) =
      (.ok { errors := [(index, error)], halted := true }, engine) := by
  have answered : (engine.answer (.step word)).1 = .failed error := failed
  have unchanged : (engine.step word).2 = engine := answer_of_failed answered
  rw [runAt_cons, failed, unchanged, halts]
  rfl

/-- The first error in a report on all words is that of the first word that fails. -/
theorem errors_of_first_failed (rest : List Word)
    (clean : ∀ result ∈ engine.answers (first.map .step), result.isRetired = true)
    (failed : ((engine.after (first.map .step)).step word).1 = .failed error) :
    ∃ others, (Report.ofResults 0 (engine.answers ((first ++ word :: rest).map .step))).errors =
      (first.length, error) :: others := by
  have answered : ((engine.after (first.map .step)).answer (.step word)).1 = .failed error :=
    failed
  rw [List.map_append, List.map_cons, answers_of_failed answered, Report.ofResults_append,
    Report.ofResults_of_retired clean, Report.ofResults_failed, length_answers, List.length_map,
    Nat.zero_add]
  exact ⟨_, rfl⟩

/-- A run that halts at a word is the run of the words before it with one error added. -/
theorem run_halt_of_first_failed (rest : List Word)
    (clean : ∀ result ∈ engine.answers (first.map .step), result.isRetired = true)
    (failed : ((engine.after (first.map .step)).step word).1 = .failed error) :
    (engine.under .halt).run (first ++ word :: rest) =
      (.ok {
        retired := first.length
        output := (Report.ofResults 0 (engine.answers (first.map .step))).output
        errors := [(first.length, error)]
        halted := true }, (engine.after (first.map .step)).under .halt) := by
  have before := run_under_of_retired clean .halt
  have answered : (((engine.after (first.map .step)).under .halt).answer (.step word)).1 =
      .failed error := by
    rw [answer_under]
    exact failed
  rw [run] at before ⊢
  rw [runAt_append, before, goOnAt_going rfl, runAt_halt_of_failed rfl answered,
    Report.ofResults_of_retired clean, length_answers, List.length_map, Nat.zero_add]
  simp [Except.map, Report.join]

theorem under_self : engine.under engine.config.faultPolicy = engine :=
  rfl

/-- A run is halted exactly if the policy says so and some word does not retire. -/
theorem halted_iff {report : Report} {last : Engine} (safe : engine.Safe words)
    (ran : engine.run words = (.ok report, last)) :
    report.halted = true ↔ engine.config.faultPolicy = .halt ∧
      ∃ result ∈ engine.answers (words.map .step), result.isRetired = false := by
  rw [← @under_self engine] at ran
  cases policy : engine.config.faultPolicy with
  | proceed =>
      rw [policy, run_under_of_goesOn (safe_iff.mp safe)] at ran
      cases ran
      simp [Report.ofResults]
  | halt =>
      rw [policy] at ran
      rcases exists_first_failed safe with retired | ⟨first, word, rest, error, rfl, clean, failed⟩
      · rw [run_under_of_retired retired] at ran
        cases ran
        simpa [Report.ofResults] using retired
      · have answered : ((engine.after (first.map .step)).answer (.step word)).1 = .failed error :=
          failed
        rw [run_halt_of_first_failed rest clean failed] at ran
        cases ran
        rw [List.map_append, List.map_cons, answers_of_failed answered]
        exact ⟨fun _ => ⟨rfl, _, List.mem_append_right _ (.head _), rfl⟩, fun _ => rfl⟩

/-- The two policies part at the first error.  A run that goes on accounts for all words.  A
run that halts is the same if there is no error, and otherwise it is the run of the words
before the first error with that error added. -/
theorem run_halt_truncates (safe : engine.Safe words) :
    ∃ report,
      (engine.under .proceed).run words =
        (.ok report, (engine.after (words.map .step)).under .proceed) ∧
      report.Accounts words.length ∧
      (report.isClean = true → (engine.under .halt).run words =
        (.ok report, (engine.after (words.map .step)).under .halt)) ∧
      ∀ position error others, report.errors = (position, error) :: others →
        ∃ cut,
          (∀ policy, (engine.under policy).run (words.take position) =
            (.ok cut, (engine.after ((words.take position).map .step)).under policy)) ∧
          (engine.under .halt).run words =
            (.ok {
              retired := position
              output := cut.output
              errors := [(position, error)]
              halted := true }, (engine.after ((words.take position).map .step)).under .halt) := by
  have accounts := Report.accounts_ofResults (safe_iff.mp safe)
  rw [length_answers, List.length_map] at accounts
  refine ⟨_, run_under_of_goesOn (safe_iff.mp safe), accounts, ?_⟩
  rcases exists_first_failed safe with retired | ⟨first, word, rest, cause, rfl, clean, failed⟩
  · refine ⟨fun _ => run_under_of_retired retired .halt, ?_⟩
    intro position error others reported
    rw [Report.ofResults_of_retired retired] at reported
    contradiction
  · obtain ⟨later, errors⟩ := errors_of_first_failed rest clean failed
    rw [Report.isClean, errors]
    refine ⟨fun errorless => by contradiction, ?_⟩
    intro position error others reported
    cases reported
    rw [List.take_left]
    exact ⟨_, run_under_of_retired clean, run_halt_of_first_failed rest clean failed⟩

/-- An engine for the built-in instructions in whose registers nothing more fits. -/
def saturated : Engine where
  table := CarAssembly.expanded
  config := {}
  registers := .ofSlots (List.replicate Registers.defaultSize Int32.maxValue)

theorem saturated_builtIn : saturated.table = CarAssembly.table :=
  CarAssembly.table_eq_expanded.symm

theorem saturated_made : saturated.Made := by
  refine made_of_room ?_ rfl (Nat.le_refl _) (by decide)
  rw [saturated_builtIn]
  exact CarAssembly.table_reachable _

theorem saturated_safe (words : List Word) : saturated.Safe words :=
  CarAssembly.safe saturated_made saturated_builtIn words

theorem run_halt_truncates_saturated :
    saturated.Safe [0x14, 0x21280001, 0xFFFFFFFF] ∧
      ((saturated.under .halt).run [0x14, 0x21280001, 0xFFFFFFFF]).1 = .ok {
        retired := 1
        output := ["Your car is now stopped \n"]
        errors := [(1, .fault ⟨"addi", some 0x21280001, .arithmeticOverflow⟩)]
        halted := true } := by
  have safe := saturated_safe [0x14, 0x21280001, 0xFFFFFFFF]
  obtain ⟨report, ran, _, _, truncated⟩ := run_halt_truncates safe
  have whole : ((saturated.under .proceed).run [0x14, 0x21280001, 0xFFFFFFFF]).1 = .ok {
      retired := 1
      output := ["Your car is now stopped \n"]
      errors := [(1, .fault ⟨"addi", some 0x21280001, .arithmeticOverflow⟩),
        (2, .decode (.noMatch 0xFFFFFFFF))] } := by
    decide +kernel
  have start : ((saturated.under .halt).run [0x14]).1 = .ok {
      retired := 1
      output := ["Your car is now stopped \n"] } := by
    decide +kernel
  rw [ran] at whole
  cases whole
  obtain ⟨cut, before, halted⟩ := truncated _ _ _ rfl
  have first := before .halt
  rw [List.take_succ_cons, List.take_zero] at first
  rw [first] at start
  cases start
  exact ⟨safe, by rw [halted]⟩

end Engine

end CarMachine
