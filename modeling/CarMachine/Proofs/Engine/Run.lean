import CarMachine.Engine
import CarMachine.Proofs.Engine.Execution

namespace CarMachine

/-! Runs of a program, word by word and part by part.

Every run is a step and, unless the step ended it, the run of the other words.  From this
a program can be cut in two anywhere: the second part goes on where the first one stopped.
-/

namespace Report

/-- The same report on words that stand further back in a program. -/
def shift (offset : Nat) (report : Report) : Report :=
  { report with errors := report.errors.map fun (index, error) => (index + offset, error) }

/-- The report of a run that another run goes on with. -/
def join (first later : Report) : Report where
  retired := first.retired + later.retired
  output := first.output ++ later.output
  errors := first.errors ++ later.errors
  halted := later.halted

variable {index offset : Nat} {outcome : Outcome} {error : StepFailure}
  {report first middle later : Report}

@[simp] theorem shift_halted : (report.shift offset).halted = report.halted :=
  rfl

@[simp] theorem join_halted : (first.join later).halted = later.halted :=
  rfl

@[simp] theorem empty_join : join {} later = later := by
  simp [join]

theorem join_assoc : (first.join middle).join later = first.join (middle.join later) := by
  simp [join, Nat.add_assoc]

theorem shift_join :
    (first.join later).shift offset = (first.shift offset).join (later.shift offset) := by
  simp [shift, join]

theorem afterRetired_eq_join :
    afterRetired outcome = join { retired := 1, output := outcome.line.toList } := by
  funext report
  simp [afterRetired, join, Nat.add_comm]

theorem afterFailed_eq_join : afterFailed index error = join { errors := [(index, error)] } := by
  funext report
  simp [afterFailed, join]

end Report

namespace StepResult

variable {policy : FaultPolicy} {index offset : Nat} {result : StepResult} {missing : MissingSlot}

/-- The report of a run of one word, which has the given position. -/
def report (policy : FaultPolicy) (index : Nat) : StepResult → Except MissingSlot Report
  | .retired outcome => .ok { retired := 1, output := outcome.line.toList }
  | .failed error => .ok { errors := [(index, error)], halted := decide (policy = .halt) }
  | .crashed missing => .error missing

theorem report_add :
    result.report policy (index + offset) = (result.report policy index).map (.shift offset) := by
  cases result <;> rfl

theorem report_eq_error_iff :
    result.report policy index = .error missing ↔ result = .crashed missing := by
  cases result <;> simp [report]

end StepResult

namespace Engine

/-- What becomes of a run when more words follow, the first of which has the given
position. -/
def goOnAt (index : Nat) (rest : List Word) :
    Except MissingSlot Report × Engine → Except MissingSlot Report × Engine
  | (.error missing, engine) => (.error missing, engine)
  | (.ok report, engine) =>
      if report.halted then (.ok report, engine)
      else ((engine.runAt index rest).1.map report.join, (engine.runAt index rest).2)

theorem goOnAt_going {engine : Engine} {index : Nat} {rest : List Word} {report : Report}
    (going : report.halted = false) : goOnAt index rest (.ok report, engine) =
      ((engine.runAt index rest).1.map report.join, (engine.runAt index rest).2) := by
  simp [goOnAt, going]

theorem runAt_cons (engine : Engine) (index : Nat) (word : Word) (rest : List Word) :
    engine.runAt index (word :: rest) = goOnAt (index + 1) rest
      ((engine.step word).1.report engine.config.faultPolicy index, (engine.step word).2) := by
  have config : (engine.step word).2.config = engine.config :=
    (engine.answer_keeps (.step word)).2.1
  cases stepped : engine.step word with
  | mk result next =>
      rw [stepped] at config
      change next.config = engine.config at config
      cases result with
      | retired outcome =>
          simp [runAt, stepped, StepResult.report, goOnAt, Report.afterRetired_eq_join]
      | failed error =>
          cases policy : engine.config.faultPolicy with
          | halt => simp [runAt, stepped, config, policy, StepResult.report, goOnAt]
          | proceed =>
              simp [runAt, stepped, config, policy, StepResult.report, goOnAt,
                Report.afterFailed_eq_join]
      | crashed missing => simp [runAt, stepped, StepResult.report, goOnAt]

/-- Positions are only written down. -/
theorem runAt_add (engine : Engine) (index offset : Nat) (words : List Word) :
    engine.runAt (index + offset) words =
      ((engine.runAt index words).1.map (.shift offset), (engine.runAt index words).2) := by
  induction words generalizing engine index with
  | nil => rfl
  | cons word rest ih =>
      simp only [runAt_cons, StepResult.report_add]
      cases (engine.step word).1.report engine.config.faultPolicy index with
      | error missing => rfl
      | ok report =>
          simp only [Except.map, goOnAt, Report.shift_halted, Nat.add_right_comm index offset 1,
            ih]
          cases report.halted with
          | true => rfl
          | false =>
              cases ((engine.step word).2.runAt (index + 1) rest).1 <;>
                simp [Report.shift_join]

/-- What is reported before a run does not matter to how it goes on. -/
theorem goOnAt_join (report : Report) (index : Nat) (rest : List Word)
    (run : Except MissingSlot Report × Engine) :
    goOnAt index rest (run.1.map report.join, run.2) =
      ((goOnAt index rest run).1.map report.join, (goOnAt index rest run).2) := by
  obtain ⟨answer, engine⟩ := run
  cases answer with
  | error missing => rfl
  | ok first =>
      cases halted : first.halted with
      | true => simp [goOnAt, Except.map, halted]
      | false =>
          cases later : (engine.runAt index rest).1 <;>
            simp [goOnAt, Except.map, halted, later, Report.join_assoc]

theorem runAt_append (engine : Engine) (index : Nat) (first rest : List Word) :
    engine.runAt index (first ++ rest) =
      goOnAt (index + first.length) rest (engine.runAt index first) := by
  induction first generalizing engine index with
  | nil =>
      simp only [List.nil_append, List.length_nil, Nat.add_zero, runAt, goOnAt]
      cases engine.runAt index rest with
      | mk answer last => cases answer <;> simp [Except.map]
  | cons word first ih =>
      have position : index + (word :: first).length = index + 1 + first.length := by
        simp only [List.length_cons]
        omega
      rw [position, List.cons_append, runAt_cons, runAt_cons]
      cases (engine.step word).1.report engine.config.faultPolicy index with
      | error missing => rfl
      | ok report =>
          cases halted : report.halted with
          | true => simp [goOnAt, halted]
          | false =>
              rw [goOnAt_going halted, goOnAt_going halted, goOnAt_join, ih]

end Engine

end CarMachine
