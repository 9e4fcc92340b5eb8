import CarMachine.Proofs.Engine.Crash

namespace CarMachine

/-! Runs in parts.

A run that is cut in two anywhere leaves the same engine and, with the positions of the
second part set right, the same report.
-/

namespace Engine

/-- If no step crashes, a run of two lists of words is a run of the first one and, unless
an error ended it, a run of the second one from where the first one stopped. -/
theorem run_append (engine : Engine) :
    (∀ first rest, engine.Safe (first ++ rest) →
      ∃ report middle, engine.run first = (.ok report, middle) ∧
        (report.halted = true → engine.run (first ++ rest) = (.ok report, middle)) ∧
        (report.halted = false →
          ∃ later last, middle.run rest = (.ok later, last) ∧
            engine.run (first ++ rest) =
              (.ok (report.join (later.shift first.length)), last))) ∧
    (engine.Made → engine.table = CarAssembly.table → ∀ words, engine.Safe words) := by
  refine ⟨?_, CarAssembly.safe⟩
  intro first rest safe
  obtain ⟨whole, completed⟩ := safe.runAt_completes 0
  have appended := engine.runAt_append 0 first rest
  rw [Nat.zero_add] at appended
  rw [appended] at completed
  simp only [run, appended]
  cases ran : engine.runAt 0 first with
  | mk answer middle =>
      rw [ran] at completed
      cases answer with
      | error missing => simp [goOnAt] at completed
      | ok report =>
          refine ⟨report, middle, rfl, ?_, ?_⟩
          · intro halted
            simp [goOnAt, halted]
          · intro going
            have shifted := middle.runAt_add 0 first.length rest
            rw [Nat.zero_add] at shifted
            rw [goOnAt_going going, shifted] at completed ⊢
            cases resumed : middle.runAt 0 rest with
            | mk answer last =>
                rw [resumed] at completed
                cases answer with
                | error missing => simp [Except.map] at completed
                | ok later => exact ⟨later, last, rfl, rfl⟩

/-- An engine for the built-in instructions that goes on after errors. -/
def persistent : Engine where
  table := CarAssembly.expanded
  config := { faultPolicy := .proceed }
  registers := .zeroed Registers.defaultSize

theorem persistent_builtIn : persistent.table = CarAssembly.table :=
  CarAssembly.table_eq_expanded.symm

theorem persistent_made : persistent.Made := by
  refine made_of_room ?_ rfl (Nat.le_refl _) (by decide)
  rw [persistent_builtIn]
  exact CarAssembly.table_reachable _

theorem run_append_persistent :
    persistent.Made ∧ persistent.Safe ([0xFFFFFFFF, 0x14] ++ [0xFFFFFFFF]) ∧
      (persistent.run ([0xFFFFFFFF, 0x14] ++ [0xFFFFFFFF])).1 = .ok {
        retired := 1
        output := ["Your car is now stopped \n"]
        errors := [(0, .decode (.noMatch 0xFFFFFFFF)), (2, .decode (.noMatch 0xFFFFFFFF))] } := by
  have safe := (run_append persistent).2 persistent_made persistent_builtIn
    ([0xFFFFFFFF, 0x14] ++ [0xFFFFFFFF])
  refine ⟨persistent_made, safe, ?_⟩
  obtain ⟨report, middle, ran, _, going⟩ := (run_append persistent).1 _ _ safe
  have start : (persistent.run [0xFFFFFFFF, 0x14]).1 = .ok {
      retired := 1
      output := ["Your car is now stopped \n"]
      errors := [(0, .decode (.noMatch 0xFFFFFFFF))] } := by
    decide +kernel
  have finish : ((persistent.run [0xFFFFFFFF, 0x14]).2.run [0xFFFFFFFF]).1 = .ok {
      errors := [(0, .decode (.noMatch 0xFFFFFFFF))] } := by
    decide +kernel
  rw [ran] at start finish
  cases start
  obtain ⟨later, last, resumed, joined⟩ := going rfl
  rw [resumed] at finish
  cases finish
  rw [joined]
  rfl

end Engine

end CarMachine
