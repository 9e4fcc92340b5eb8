import CarMachine.CommandLine.Basic

namespace CarMachine

/-! What loading a program or settings comes to. -/

variable {files : Files} {path : String} {words : List Word} {arguments : RunArguments}
  {settings : Settings} {error : LoadError}

namespace Files

theorem mapError_eq_ok_iff {cause reason result : Type} {answer : Except cause result}
    {describe : cause → reason} {value : result} :
    answer.mapError describe = .ok value ↔ answer = .ok value := by
  cases answer with
  | error cause => exact ⟨nofun, nofun⟩
  | ok found =>
      constructor <;> intro same <;> cases same <;> rfl

theorem loadProgram_eq_ok_iff : files.loadProgram path = .ok words ↔
    ∃ text, files path = .ok text ∧ Program.parse text = .ok words := by
  rw [loadProgram]
  cases content : files path with
  | error reason => simp
  | ok text => simp [mapError_eq_ok_iff]

theorem loadProgram_error (failed : files.loadProgram path = .error error) :
    (∃ reason, files path = .error reason) ∨
      ∃ text cause, files path = .ok text ∧ Program.parse text = .error cause := by
  cases content : files path with
  | error reason => exact .inl ⟨reason, rfl⟩
  | ok text =>
      cases read : Program.parse text with
      | error cause => exact .inr ⟨text, cause, rfl, read⟩
      | ok words =>
          rw [loadProgram_eq_ok_iff.mpr ⟨text, content, read⟩] at failed
          contradiction

theorem program_sound (loaded : files.loadProgram path = .ok words) :
    (∀ reason, files path ≠ .error reason) ∧
      ∀ text cause, files path = .ok text → Program.parse text ≠ .error cause := by
  obtain ⟨text, content, parsed⟩ := loadProgram_eq_ok_iff.mp loaded
  constructor
  · intro reason unread
    cases content.symm.trans unread
  · intro other cause found invalid
    cases content.symm.trans found
    cases parsed.symm.trans invalid

end Files

namespace RunArguments

/-- Without a file of settings all of them are absent. -/
theorem settings_eq_ok_iff : arguments.settings files = .ok settings ↔
    (arguments.config = none ∧ settings = {}) ∨
      ∃ path text, arguments.config = some path ∧ files path = .ok text ∧
        Settings.parse? text = some settings := by
  rw [RunArguments.settings]
  cases named : arguments.config with
  | none => simp [eq_comm]
  | some path =>
      simp only [Files.loadSettings]
      cases content : files path with
      | error reason => simp [content]
      | ok text => cases read : Settings.parse? text <;> simp [content, read]

theorem settings_error (failed : arguments.settings files = .error error) :
    ∃ path, arguments.config = some path ∧
      ((∃ reason, files path = .error reason) ∨
        ∃ text, files path = .ok text ∧ Settings.parse? text = none) := by
  cases named : arguments.config with
  | none =>
      rw [settings_eq_ok_iff.mpr (.inl ⟨named, rfl⟩)] at failed
      contradiction
  | some path =>
      refine ⟨path, rfl, ?_⟩
      cases content : files path with
      | error reason => exact .inl ⟨reason, rfl⟩
      | ok text =>
          cases read : Settings.parse? text with
          | none => exact .inr ⟨text, rfl, read⟩
          | some found =>
              rw [settings_eq_ok_iff.mpr (.inr ⟨path, text, named, content, read⟩)] at failed
              contradiction

theorem settings_sound (loaded : arguments.settings files = .ok settings)
    (named : arguments.config = some path) :
    (∀ reason, files path ≠ .error reason) ∧
      ∀ text, files path = .ok text → Settings.parse? text ≠ none := by
  rcases settings_eq_ok_iff.mp loaded with ⟨absent, _⟩ | ⟨other, text, present, content, parsed⟩
  · simp [absent] at named
  · cases present.symm.trans named
    constructor
    · intro reason unread
      cases content.symm.trans unread
    · intro other found invalid
      cases content.symm.trans found
      cases parsed.symm.trans invalid

end RunArguments

end CarMachine
