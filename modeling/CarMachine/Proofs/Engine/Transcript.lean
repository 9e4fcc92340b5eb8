import CarMachine.Proofs.Engine.Append
import CarMachine.Proofs.Engine.Requests
import CarMachine.Proofs.Engine.Retirement
import CarMachine.Proofs.Operation.Lines

namespace CarMachine

/-! The transcript of a run.

A run says what the words that it gets to say, each with the registers that it finds.  So its
lines are counted word by word: each instruction of the car that retires says one, unless it
sets several lights together.
-/

namespace CarAssembly

variable {entry : Entry}

/-- The mnemonics of the instructions that control the car. -/
def vehicleMnemonics : List String :=
  ["throttle", "setspd", "steer", "setsteer", "ebrake", "lights", "ac", "seat", "pophood",
    "fillgas"]

theorem mem_vehicleMnemonics_iff (member : entry ∈ table.entries) :
    entry.mnemonic ∈ vehicleMnemonics ↔ entry.operation.isArithmeticLogic = false := by
  have all : ∀ entry ∈ entries,
      (entry.mnemonic ∈ vehicleMnemonics ↔ entry.operation.isArithmeticLogic = false) := by
    decide +kernel
  rw [table_entries] at member
  exact all entry member

theorem mnemonic_eq_lights_iff (member : entry ∈ table.entries) :
    entry.mnemonic = "lights" ↔ entry.operation = .lights := by
  have all : ∀ entry ∈ entries, (entry.mnemonic = "lights" ↔ entry.operation = .lights) := by
    decide +kernel
  rw [table_entries] at member
  exact all entry member

end CarAssembly

namespace Engine

/-- A word with the engine that steps it. -/
structure Place where
  engine : Engine
  word : Word

namespace Place

variable {place : Place}

def result (place : Place) : StepResult :=
  (place.engine.step place.word).1

/-- The instruction of a word that retires. -/
def retired? (place : Place) : Option Decoded :=
  if place.result.isRetired then (place.engine.table.decode place.word).toOption else none

/-- An instruction of the car retires. -/
def drives (place : Place) : Bool :=
  place.retired?.any fun decoded => decide (decoded.mnemonic ∈ CarAssembly.vehicleMnemonics)

/-- An instruction retires that sets the lights to something for which there are no words. -/
def isSilent (place : Place) : Bool :=
  place.retired?.any fun decoded =>
    decide (decoded.mnemonic = "lights") &&
      (place.engine.registers.read
        (decoded.entry.template.slotOf .destination place.word)).toOption.any
          fun mask => decide (mask.toInt ∉ Vehicle.spokenLights)

/-- The engine has been made over the built-in table. -/
structure Sound (place : Place) : Prop where
  made : place.engine.Made
  builtIn : place.engine.table = CarAssembly.table

theorem retired?_of_result {outcome : Outcome} (answered : place.result = .retired outcome) :
    ∃ decoded effect, place.retired? = some decoded ∧
      place.engine.table.decode place.word = .ok decoded ∧
      decoded.entry.operation.run decoded.operands place.engine.registers = .ok effect ∧
      outcome = ⟨decoded.mnemonic, effect.line⟩ := by
  obtain ⟨decoded, effect, accepted, ran, same⟩ := effect_of_retired answered
  exact ⟨decoded, effect, by simp [retired?, answered, accepted, Except.toOption], accepted, ran,
    same⟩

theorem isSome_retired? : place.retired?.isSome = place.result.isRetired := by
  cases answered : place.result with
  | failed error | crashed missing => simp [retired?, answered]
  | retired outcome =>
      obtain ⟨decoded, _, instruction, _⟩ := retired?_of_result answered
      simp [instruction]

theorem isLine_of_result {text : String} (said : place.result.line? = some text) :
    Text.IsLine text := by
  cases answered : place.result with
  | failed error | crashed missing => simp [answered] at said
  | retired outcome =>
      obtain ⟨_, effect, _, _, ran, rfl⟩ := retired?_of_result answered
      rw [answered] at said
      exact Operation.isLine_of_run ran said

/-- A place counts as a line or as silent if an instruction of the car retires there, and
otherwise as neither. -/
theorem Sound.accounts (sound : place.Sound) :
    place.result.line?.isSome.toNat + place.isSilent.toNat = place.drives.toNat := by
  cases answered : place.result with
  | failed error | crashed missing => simp [drives, isSilent, retired?, answered]
  | retired outcome =>
      obtain ⟨decoded, effect, instruction, accepted, ran, rfl⟩ := retired?_of_result answered
      have member := (sound.made.table.legal_of_decode accepted).member
      rw [sound.builtIn] at member
      have operand := sound.made.table.register_of_decode accepted .destination
      have vehicle : decoded.mnemonic ∈ CarAssembly.vehicleMnemonics ↔ _ :=
        CarAssembly.mem_vehicleMnemonics_iff member
      have lights : decoded.mnemonic = "lights" ↔ _ := CarAssembly.mnemonic_eq_lights_iff member
      simp only [drives, isSilent, instruction, Option.any_some, vehicle, lights, ← operand,
        StepResult.line?_retired]
      rcases Operation.line_of_run ran with ⟨general, silent⟩ |
        ⟨bound, mask, present, looked⟩ | ⟨special, other, text, spoken, _⟩
      · have unlit : decoded.entry.operation ≠ .lights := by
          intro same
          simp [same, Operation.isArithmeticLogic] at general
        simp [general, silent, unlit]
      · have value : place.engine.registers.read
            (decoded.operands.register FieldRole.destination.position) = .ok mask := present
        simp only [bound, looked, value, Vehicle.isSome_lightsLine?]
        -- whether the place is a line or silent is up to the mask alone
        by_cases spoken : mask.toInt ∈ Vehicle.spokenLights <;>
          simp [spoken, Except.toOption, Operation.isArithmeticLogic]
      · simp [special, other, spoken]

end Place

/-- Words that are stepped one after the other, each with the engine that steps it. -/
def places (engine : Engine) : List Word → List Place
  | [] => []
  | word :: rest => ⟨engine, word⟩ :: (engine.step word).2.places rest

variable {engine : Engine} {words : List Word} {place : Place} {listed : List Place}

theorem answers_eq_map_result :
    engine.answers (words.map .step) = (engine.places words).map (·.result) := by
  induction words generalizing engine with
  | nil => rfl
  | cons word rest ih => exact congrArg _ ih

theorem Made.sound_of_mem_places (made : engine.Made) (builtIn : engine.table = CarAssembly.table)
    (member : place ∈ engine.places words) : place.Sound := by
  induction words generalizing engine with
  | nil => contradiction
  | cons word rest ih =>
      rcases List.mem_cons.mp member with rfl | later
      · exact ⟨made, builtIn⟩
      · exact ih (made.answer (.step word))
          ((engine.answer_keeps (.step word)).1.trans builtIn) later

theorem countP_drives (sound : ∀ place ∈ listed, place.Sound) :
    listed.countP (·.result.line?.isSome) + listed.countP (·.isSilent) =
      listed.countP (·.drives) := by
  have number : ∀ choice : Bool, (if choice = true then 1 else 0) = choice.toNat := by decide
  induction listed with
  | nil => rfl
  | cons place rest ih =>
      obtain ⟨here, later⟩ := List.forall_mem_cons.mp sound
      have accounts := here.accounts
      have others := ih later
      simp only [List.countP_cons, number]
      omega

/-- Over the built-in instructions every run has a report whose transcript can be cut back into
its lines.  There are as many lines as instructions of the car have retired, less those that
set the lights to something for which there are no words. -/
theorem run_transcript (made : engine.Made) (builtIn : engine.table = CarAssembly.table)
    (words : List Word) :
    ∃ report, (engine.run words).1 = .ok report ∧
      (∀ line ∈ report.output, Text.IsLine line) ∧
      Text.piecesOf report.transcript = report.output ∧
      report.retired = (engine.places (engine.stepped words)).countP (·.retired?.isSome) ∧
      report.output.length + (engine.places (engine.stepped words)).countP (·.isSilent) =
        (engine.places (engine.stepped words)).countP (·.drives) := by
  obtain ⟨halted, reported⟩ := report_of_runAt 0 (CarAssembly.safe made builtIn words)
  rw [answers_eq_map_result] at reported
  have lines : ∀ line ∈ ((engine.places (engine.stepped words)).map (·.result)).filterMap
      (·.line?), Text.IsLine line := by
    intro line member
    obtain ⟨result, listed, said⟩ := List.mem_filterMap.mp member
    obtain ⟨place, _, rfl⟩ := List.mem_map.mp listed
    exact Place.isLine_of_result said
  refine ⟨_, reported, lines, Text.piecesOf_join lines, ?retired, ?lines⟩
  case retired =>
    simp only [Report.ofResults, List.countP_map, Place.isSome_retired?]
    rfl
  case lines =>
    rw [Report.ofResults, List.length_filterMap_eq_countP, List.countP_map]
    exact countP_drives fun _ => made.sound_of_mem_places builtIn

/-- Two lights together are silent, and so is a word that fails. -/
theorem run_transcript_persistent :
    persistent.Made ∧ persistent.table = CarAssembly.table ∧
      (persistent.run [0x20080003, 0x01000015, 0xFFFFFFFF, 0x14]).1 = .ok {
        retired := 3
        output := ["Your car is now stopped \n"]
        errors := [(2, .decode (.noMatch 0xFFFFFFFF))] } ∧
      (persistent.places (persistent.stepped
        [0x20080003, 0x01000015, 0xFFFFFFFF, 0x14])).countP (·.isSilent) = 1 ∧
      (persistent.places (persistent.stepped
        [0x20080003, 0x01000015, 0xFFFFFFFF, 0x14])).countP (·.drives) = 2 := by
  obtain ⟨report, ran, _, _, _, counted⟩ := run_transcript persistent_made persistent_builtIn
    [0x20080003, 0x01000015, 0xFFFFFFFF, 0x14]
  have whole : (persistent.run [0x20080003, 0x01000015, 0xFFFFFFFF, 0x14]).1 = .ok {
      retired := 3
      output := ["Your car is now stopped \n"]
      errors := [(2, .decode (.noMatch 0xFFFFFFFF))] } := by
    decide +kernel
  have silent : (persistent.places (persistent.stepped
      [0x20080003, 0x01000015, 0xFFFFFFFF, 0x14])).countP (·.isSilent) = 1 := by
    decide +kernel
  rw [ran, Except.ok.injEq] at whole
  rw [whole, silent] at counted
  exact ⟨persistent_made, persistent_builtIn, by rw [ran, whole], silent, counted.symm⟩

end Engine

end CarMachine
