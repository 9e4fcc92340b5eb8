import CarMachine.Proofs.Engine.Crash

namespace CarMachine

/-! Calls one after the other.

What a series of calls answers and leaves does not depend on the policy for errors.  The
policy only decides how far a run gets, so the report of a run that gets to its end can be
read off the answers of its words.
-/

namespace StepResult

def outcome? : StepResult → Option Outcome
  | .retired outcome => some outcome
  | _ => none

def error? : StepResult → Option StepFailure
  | .failed error => some error
  | _ => none

def isRetired (result : StepResult) : Bool :=
  result.outcome?.isSome

def line? (result : StepResult) : Option String :=
  result.outcome?.bind Outcome.line

@[simp] theorem isRetired_retired {outcome : Outcome} : (retired outcome).isRetired = true :=
  rfl

@[simp] theorem isRetired_failed {error : StepFailure} : (failed error).isRetired = false :=
  rfl

@[simp] theorem isRetired_crashed {missing : MissingSlot} :
    (crashed missing).isRetired = false :=
  rfl

@[simp] theorem line?_retired {outcome : Outcome} : (retired outcome).line? = outcome.line :=
  rfl

@[simp] theorem line?_failed {error : StepFailure} : (failed error).line? = none :=
  rfl

@[simp] theorem line?_crashed {missing : MissingSlot} : (crashed missing).line? = none :=
  rfl

/-- Whether a run goes on after a word with this result. -/
def GoesOn (policy : FaultPolicy) : StepResult → Prop
  | .retired _ => True
  | .failed _ => policy = .proceed
  | .crashed _ => False

theorem goesOn_of_isRetired {result : StepResult} (retired : result.isRetired = true)
    (policy : FaultPolicy) : result.GoesOn policy := by
  cases result with
  | retired outcome => trivial
  | failed error | crashed missing => contradiction

theorem goesOn_proceed_iff {result : StepResult} :
    result.GoesOn .proceed ↔ ∀ missing, result ≠ .crashed missing := by
  cases result <;> simp [GoesOn]

end StepResult

namespace Report

/-- The report of a run that gets to the end of its words, the first of which has the given
position. -/
def ofResults (index : Nat) (results : List StepResult) : Report where
  retired := results.countP (·.isRetired)
  output := results.filterMap (·.line?)
  errors := (results.zipIdx index).filterMap fun (result, position) =>
    result.error?.map (position, ·)

variable {index position : Nat} {error : StepFailure} {result : StepResult}
  {results first rest : List StepResult}

theorem ofResults_append : ofResults index (first ++ rest) =
    (ofResults index first).join (ofResults (index + first.length) rest) := by
  simp [ofResults, join, List.zipIdx_append, List.countP_append, List.filterMap_append]

theorem ofResults_cons : ofResults index (result :: rest) =
    (ofResults index [result]).join (ofResults (index + 1) rest) :=
  @ofResults_append index [result] rest

theorem ofResults_retired (outcome : Outcome) :
    ofResults index (.retired outcome :: rest) =
      (ofResults (index + 1) rest).afterRetired outcome := by
  cases line : outcome.line <;>
    simp [ofResults, afterRetired, StepResult.isRetired, StepResult.line?, StepResult.outcome?,
      StepResult.error?, line]

theorem ofResults_failed (error : StepFailure) :
    ofResults index (.failed error :: rest) =
      (ofResults (index + 1) rest).afterFailed index error := by
  simp [ofResults, afterFailed, StepResult.isRetired, StepResult.line?, StepResult.outcome?,
    StepResult.error?]

theorem mem_errors_ofResults : (position, error) ∈ (ofResults index results).errors ↔
    ∃ offset, position = index + offset ∧ results[offset]? = some (.failed error) := by
  constructor
  · intro member
    obtain ⟨⟨result, place⟩, listed, reported⟩ := List.mem_filterMap.mp member
    obtain ⟨reached, found⟩ := List.mk_mem_zipIdx_iff_le_and_getElem?_sub.mp listed
    cases result with
    | failed cause =>
        simp only [StepResult.error?, Option.map_some, Option.some.injEq, Prod.mk.injEq]
          at reported
        obtain ⟨rfl, rfl⟩ := reported
        exact ⟨place - index, by omega, found⟩
    | retired outcome | crashed missing => contradiction
  · intro placed
    obtain ⟨offset, rfl, found⟩ := placed
    refine List.mem_filterMap.mpr ⟨(.failed error, index + offset), ?_, rfl⟩
    rw [List.mk_mem_zipIdx_iff_le_and_getElem?_sub, Nat.add_sub_cancel_left]
    exact ⟨Nat.le_add_right _ _, found⟩

end Report

theorem StepResult.report_of_goesOn {policy : FaultPolicy} {result : StepResult}
    (goes : result.GoesOn policy) (index : Nat) :
    result.report policy index = .ok (Report.ofResults index [result]) := by
  cases result with
  | retired outcome =>
      rw [Report.ofResults_retired]
      simp [report, Report.ofResults, Report.afterRetired]
  | failed error =>
      obtain rfl : policy = .proceed := goes
      rfl
  | crashed missing => contradiction

namespace Engine

/-- The same engine with another policy for errors. -/
def under (engine : Engine) (policy : FaultPolicy) : Engine :=
  { engine with config := { engine.config with faultPolicy := policy } }

/-- The engine that is left by calls one after the other. -/
def after (engine : Engine) : List Call → Engine
  | [] => engine
  | call :: rest => (engine.answer call).2.after rest

def answers (engine : Engine) : List Call → List StepResult
  | [] => []
  | call :: rest => (engine.answer call).1 :: (engine.answer call).2.answers rest

variable {engine : Engine} {call : Call} {calls first rest : List Call} {words : List Word}
  {policy : FaultPolicy}

theorem after_append : engine.after (first ++ rest) = (engine.after first).after rest := by
  induction first generalizing engine with
  | nil => rfl
  | cons call first ih => exact ih

theorem table_after : (engine.after calls).table = engine.table := by
  induction calls generalizing engine with
  | nil => rfl
  | cons call rest ih => exact ih.trans (engine.answer_keeps call).1

theorem Made.after (made : engine.Made) (calls : List Call) : (engine.after calls).Made := by
  induction calls generalizing engine with
  | nil => exact made
  | cons call rest ih => exact ih (made.answer call)

theorem answers_append :
    engine.answers (first ++ rest) = engine.answers first ++ (engine.after first).answers rest := by
  induction first generalizing engine with
  | nil => rfl
  | cons call first ih => exact congrArg _ ih

@[simp] theorem length_answers : (engine.answers calls).length = calls.length := by
  induction calls generalizing engine with
  | nil => rfl
  | cons call rest ih => exact congrArg Nat.succ ih

theorem answer_under : (engine.under policy).answer call =
    ((engine.answer call).1, (engine.answer call).2.under policy) := by
  simp only [answer_eq_perform, under]
  cases call.decode engine.table <;> rfl

theorem answers_under : (engine.under policy).answers calls = engine.answers calls := by
  induction calls generalizing engine with
  | nil => rfl
  | cons call rest ih => simp only [answers, answer_under, ih]

theorem after_under : (engine.under policy).after calls = (engine.after calls).under policy := by
  induction calls generalizing engine with
  | nil => rfl
  | cons call rest ih => simp only [after, answer_under, ih]

/-- A call that fails changes nothing. -/
theorem answer_of_failed {error : StepFailure} (failed : (engine.answer call).1 = .failed error) :
    (engine.answer call).2 = engine := by
  cases accepted : call.decode engine.table with
  | error refusal => rw [answer_of_refused accepted]
  | ok decoded =>
      rw [answer_of_decode accepted] at failed ⊢
      rw [Decoded.registers_of_failed failed]

/-- After a call that fails, everything goes on as if it had not been made. -/
theorem answers_of_failed {error : StepFailure}
    (failed : ((engine.after first).answer call).1 = .failed error) :
    engine.answers (first ++ call :: rest) =
      engine.answers first ++ .failed error :: (engine.after first).answers rest := by
  rw [answers_append, answers, failed, answer_of_failed failed]

theorem after_of_failed {error : StepFailure}
    (failed : ((engine.after first).answer call).1 = .failed error) :
    engine.after (first ++ call :: rest) = engine.after (first ++ rest) := by
  rw [after_append, after, answer_of_failed failed, after_append]

theorem safe_iff : engine.Safe words ↔
    ∀ result ∈ engine.answers (words.map .step), result.GoesOn .proceed := by
  induction words generalizing engine with
  | nil => simp [Safe, answers]
  | cons word rest ih =>
      simp only [Safe, ih, List.map_cons, answers, List.forall_mem_cons,
        StepResult.goesOn_proceed_iff]
      rfl

/-- A run that no word stops. -/
theorem runAt_of_goesOn (index : Nat)
    (goes : ∀ result ∈ engine.answers (words.map .step),
      result.GoesOn engine.config.faultPolicy) :
    engine.runAt index words =
      (.ok (Report.ofResults index (engine.answers (words.map .step))),
        engine.after (words.map .step)) := by
  induction words generalizing engine index with
  | nil => rfl
  | cons word rest ih =>
      obtain ⟨here, later⟩ := List.forall_mem_cons.mp goes
      have first := StepResult.report_of_goesOn here index
      rw [← (engine.answer_keeps (.step word)).2.1] at later
      have onward := ih (index + 1) later
      simp only [answer] at first onward
      have whole : Report.ofResults index (engine.answers ((word :: rest).map .step)) =
          (Report.ofResults index [(engine.step word).1]).join
            (Report.ofResults (index + 1) ((engine.step word).2.answers (rest.map .step))) :=
        Report.ofResults_cons
      rw [runAt_cons, first, goOnAt_going rfl, onward, whole]
      rfl

theorem run_under_of_goesOn
    (goes : ∀ result ∈ engine.answers (words.map .step), result.GoesOn policy) :
    (engine.under policy).run words =
      (.ok (Report.ofResults 0 (engine.answers (words.map .step))),
        (engine.after (words.map .step)).under policy) := by
  rw [← answers_under] at goes
  rw [run, runAt_of_goesOn 0 goes, answers_under, after_under]

/-- The policy does not matter to a run without errors. -/
theorem run_under_of_retired
    (retired : ∀ result ∈ engine.answers (words.map .step), result.isRetired = true)
    (policy : FaultPolicy) :
    (engine.under policy).run words =
      (.ok (Report.ofResults 0 (engine.answers (words.map .step))),
        (engine.after (words.map .step)).under policy) :=
  run_under_of_goesOn fun result member =>
    StepResult.goesOn_of_isRetired (retired result member) policy

end Engine

end CarMachine
