import CarMachine.Proofs.Engine.Trace

namespace CarMachine

/-! Calls and whole runs in any order.

A run makes one call for each word that it gets to, so a series of requests is a series of
calls, and what holds after every call holds in the middle of a run as well.
-/

instance (policy : FaultPolicy) (result : StepResult) : Decidable (result.GoesOn policy) :=
  match result with
  | .retired _ => .isTrue trivial
  | .failed _ => inferInstanceAs (Decidable (policy = .proceed))
  | .crashed _ => .isFalse id

namespace Engine

/-- What can be asked of an engine. -/
inductive Request where
  | single (call : Call)
  | run (words : List Word)

/-- The words that a run gets to; the last one may be the one that ends it. -/
def stepped (engine : Engine) : List Word → List Word
  | [] => []
  | word :: rest =>
      if (engine.step word).1.GoesOn engine.config.faultPolicy then
        word :: (engine.step word).2.stepped rest
      else [word]

def serve (engine : Engine) : Request → Engine
  | .single call => (engine.answer call).2
  | .run words => (engine.run words).2

def Request.calls (engine : Engine) : Request → List Call
  | .single call => [call]
  | .run words => (engine.stepped words).map .step

/-- All calls that requests make one after the other. -/
def calls (engine : Engine) : List Request → List Call
  | [] => []
  | request :: rest => request.calls engine ++ (engine.serve request).calls rest

variable {engine : Engine} {policy : FaultPolicy} {result : StepResult} {word : Word}
  {rest words : List Word} {request : Request} {requests : List Request}

theorem goOnAt_stopped (index next : Nat) (stops : ¬ result.GoesOn policy) :
    (goOnAt next rest (result.report policy index, engine)).2 = engine := by
  cases result with
  | retired outcome => exact absurd trivial stops
  | failed error =>
      have halts : policy = .halt := by
        cases policy with
        | halt => rfl
        | proceed => exact absurd rfl stops
      simp [StepResult.report, goOnAt, halts]
  | crashed missing => rfl

theorem engine_of_runAt (index : Nat) :
    (engine.runAt index words).2 = engine.after ((engine.stepped words).map .step) := by
  induction words generalizing engine index with
  | nil => rfl
  | cons word rest ih =>
      rw [runAt_cons, stepped]
      by_cases goes : (engine.step word).1.GoesOn engine.config.faultPolicy
      · rw [StepResult.report_of_goesOn goes, goOnAt_going rfl, if_pos goes]
        exact ih (index + 1)
      · rw [goOnAt_stopped index (index + 1) goes, if_neg goes]
        rfl

/-- A run that no step breaks down reports on the words that it gets to. -/
theorem report_of_runAt (index : Nat) (safe : engine.Safe words) :
    ∃ halted, (engine.runAt index words).1 = .ok {
      Report.ofResults index (engine.answers ((engine.stepped words).map .step)) with halted } := by
  induction words generalizing engine index with
  | nil => exact ⟨false, rfl⟩
  | cons word rest ih =>
      obtain ⟨here, later⟩ := safe
      rw [runAt_cons, stepped]
      by_cases goes : (engine.step word).1.GoesOn engine.config.faultPolicy
      · obtain ⟨halted, reported⟩ := ih (index + 1) later
        have whole : Report.ofResults index
            (engine.answers ((word :: (engine.step word).2.stepped rest).map .step)) =
              (Report.ofResults index [(engine.step word).1]).join (Report.ofResults (index + 1)
                ((engine.step word).2.answers (((engine.step word).2.stepped rest).map .step))) :=
          Report.ofResults_cons
        rw [StepResult.report_of_goesOn goes, goOnAt_going rfl, reported, if_pos goes, whole]
        exact ⟨halted, rfl⟩
      · -- the word that ends the run is among those that it gets to
        rw [if_neg goes]
        cases answered : (engine.step word).1 with
        | retired outcome => exact absurd (by rw [answered]; trivial) goes
        | crashed missing => exact absurd answered (here missing)
        | failed error =>
            have halts : engine.config.faultPolicy = .halt := by
              cases policy : engine.config.faultPolicy with
              | halt => rfl
              | proceed => exact absurd (by rw [answered, policy]; rfl) goes
            have alone : engine.answers [.step word] = [.failed error] := by
              rw [← answered]
              rfl
            rw [List.map_singleton, alone, halts]
            exact ⟨true, rfl⟩

theorem serve_eq_after : engine.serve request = engine.after (request.calls engine) := by
  cases request with
  | single call => rfl
  | run words => exact engine_of_runAt 0

/-- Requests leave the engine that their calls leave. -/
theorem foldl_serve : requests.foldl serve engine = engine.after (engine.calls requests) := by
  induction requests generalizing engine with
  | nil => rfl
  | cons request rest ih =>
      rw [List.foldl_cons, ih, calls, after_append, serve_eq_after]

end Engine

end CarMachine
