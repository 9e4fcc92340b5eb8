import CarMachine.Proofs.Command.Start
import CarMachine.Proofs.Engine.Policy

namespace CarMachine

/-! How the program ends.

Each stage of an invocation comes behind those that load what it needs, and only the last one
prints.  So a stage that fails leaves the output as it found it, and the exit code tells
whether something that was asked for is missing.
-/

theorem RunCommand.run_of_error {table : Table} {words : List Word}
    {options : RunCommand.Options} {out : String} {error : RunCommand.Error}
    (failed : (run table words options out).2 = .error error) :
    (run table words options out).1 = out := by
  cases started : start table options with
  | error cause => simp only [run, started]
  | ok engine =>
      cases ran : engine.run words with
      | mk answer last =>
          cases answer with
          | error missing => simp only [run, started, ran]
          | ok report => simp [run, started, ran] at failed

theorem RunArguments.run_of_error {arguments : RunArguments} {files : Files} {out : String}
    {failure : Failure} (failed : (arguments.run files out).2 = .error failure) :
    (arguments.run files out).1 = out := by
  cases loaded : arguments.settings files with
  | error error => simp only [run, loaded]
  | ok settings =>
      cases merged : arguments.options settings with
      | error error => simp only [run, loaded, merged]
      | ok options =>
          cases program : files.loadProgram arguments.program with
          | error error => simp only [run, loaded, merged, program]
          | ok words =>
              simp only [run, loaded, merged, program] at failed ⊢
              cases answered : (RunCommand.run CarAssembly.table words options out).2 with
              | error error => exact RunCommand.run_of_error answered
              | ok report =>
                  rw [answered] at failed
                  cases failed

namespace Invocation

variable {files : Files} {invocation : Invocation} {arguments : RunArguments} {out : String}
  {failure : Failure}

theorem execute_of_run_error (failed : (arguments.run files out).2 = .error failure) :
    (Invocation.run arguments).execute files out = (out, .error failure) := by
  have silent := RunArguments.run_of_error failed
  have answered : arguments.run files out = (out, .error failure) := Prod.ext silent failed
  simp only [execute, answered, Except.map]

theorem execute_of_error (failed : (invocation.execute files out).2 = .error failure) :
    (invocation.execute files out).1 = out := by
  cases invocation with
  | version | list => cases failed
  | disasm path =>
      cases loaded : files.loadProgram path with
      | error error => simp only [execute, loaded]
      | ok words => simp [execute, loaded] at failed
  | run arguments =>
      cases answered : (arguments.run files out).2 with
      | error error => rw [execute_of_run_error answered]
      | ok report =>
          simp only [execute, answered] at failed
          cases failed

/-- An invocation that fails ends the program before anything is printed. -/
theorem perform_of_error (failed : (invocation.execute files "").2 = .error failure) :
    invocation.perform files = { code := failure.code, failure := some failure } := by
  have answered : invocation.execute files "" = ("", .error failure) :=
    Prod.ext (execute_of_error failed) failed
  rw [perform, answered]
  rfl

/-- The files that are named. -/
def paths : Invocation → List String
  | .run arguments => arguments.program :: arguments.config.toList
  | .disasm program => [program]
  | .version | .list => []

def program? : Invocation → Option String
  | .run arguments => some arguments.program
  | .disasm program => some program
  | .version | .list => none

/-- Something that is asked for is not there, or it is not valid. -/
inductive Refused (files : Files) : Invocation → Prop where
  | unreadable {invocation : Invocation} {path : String} {reason : FileError}
      (named : path ∈ invocation.paths) (unread : files path = .error reason) :
      Refused files invocation
  | program {invocation : Invocation} {path text : String} {error : Program.Error}
      (named : invocation.program? = some path) (content : files path = .ok text)
      (invalid : Program.parse text = .error error) : Refused files invocation
  | config {arguments : RunArguments} {path text : String}
      (named : arguments.config = some path) (content : files path = .ok text)
      (invalid : Settings.parse? text = none) : Refused files (.run arguments)
  | register {arguments : RunArguments} {settings : Settings} {entry : String × Int32}
      (loaded : arguments.settings files = .ok settings) (member : entry ∈ settings.registers)
      (unknown : RegisterName.resolve? entry.1 = none) : Refused files (.run arguments)
  | engine {arguments : RunArguments} {settings : Settings} {error : Engine.Error}
      (loaded : arguments.settings files = .ok settings)
      (unmade : Engine.make CarAssembly.table (arguments.merged settings) = .error error) :
      Refused files (.run arguments)

/-- A run is to halt, and some word of its program does not retire. -/
inductive Falters (files : Files) : Invocation → Prop where
  | run {arguments : RunArguments} {settings : Settings} {options : RunCommand.Options}
      {words : List Word} {engine : Engine} {result : StepResult}
      (loaded : arguments.settings files = .ok settings)
      (halts : arguments.policy settings = .halt)
      (merged : arguments.options settings = .ok options)
      (program : files.loadProgram arguments.program = .ok words)
      (started : RunCommand.start CarAssembly.table options = .ok engine)
      (answered : result ∈ engine.answers (words.map .step))
      (failed : result.isRetired = false) : Falters files (.run arguments)

/-- A run that comes to make its engine does not ask for more registers than there are
addresses. -/
def Addressable (files : Files) : Invocation → Prop
  | .run arguments => ∀ settings options words, arguments.settings files = .ok settings →
      arguments.options settings = .ok options →
      files.loadProgram arguments.program = .ok words →
      options.engine.registerCount ≤ Registers.greatestSize
  | _ => True

end Invocation

namespace RunArguments

variable {arguments : RunArguments} {files : Files} {settings : Settings}
  {given : List Assignment} {words : List Word} {engine : Engine}

/-- Everything that a run needs is there. -/
structure Ready (arguments : RunArguments) (files : Files) (settings : Settings)
    (given : List Assignment) (words : List Word) (engine : Engine) : Prop where
  loaded : arguments.settings files = .ok settings
  read : Settings.assignments settings.registers = .ok given
  program : files.loadProgram arguments.program = .ok words
  started : RunCommand.Started CarAssembly.table
    ⟨arguments.merged settings, given ++ arguments.set, arguments.dump⟩ engine

theorem refused_of_settings {error : LoadError} (failed : arguments.settings files = .error error) :
    Invocation.Refused files (.run arguments) := by
  obtain ⟨path, named, ⟨reason, unread⟩ | ⟨text, content, invalid⟩⟩ := settings_error failed
  · exact .unreadable (by simp [Invocation.paths, named]) unread
  · exact .config named content invalid

end RunArguments

theorem Invocation.refused_of_program {invocation : Invocation} {files : Files} {path : String}
    {error : LoadError} (named : invocation.program? = some path)
    (failed : files.loadProgram path = .error error) : invocation.Refused files := by
  rcases files.loadProgram_error failed with ⟨reason, unread⟩ | ⟨text, cause, content, invalid⟩
  · refine .unreadable ?_ unread
    cases invocation <;> simp_all [Invocation.program?, Invocation.paths]
  · exact .program named content invalid

theorem Engine.code_of_make {table : Table} {config : Config} {error : Engine.Error}
    (unmade : make table config = .error error)
    (addressable : config.registerCount ≤ Registers.greatestSize) :
    (Failure.run (.engine error)).code = 2 := by
  rw [make, Registers.ofSize] at unmade
  by_cases small : config.registerCount < Registers.leastSize
  · rw [if_pos small] at unmade
    cases unmade
    rfl
  · rw [if_neg small, if_neg (Nat.not_lt.mpr addressable)] at unmade
    simp only at unmade
    split at unmade
    · cases unmade
      rfl
    · contradiction

namespace RunArguments

variable {arguments : RunArguments} {files : Files} {settings : Settings}
  {given : List Assignment} {words : List Word} {engine : Engine} {out : String}

theorem Ready.not_refused (ready : arguments.Ready files settings given words engine) :
    ¬ Invocation.Refused files (.run arguments) := by
  intro refused
  cases refused with
  | unreadable named unread =>
      rcases List.mem_cons.mp named with rfl | configured
      · exact (Files.program_sound ready.program).1 _ unread
      · exact (settings_sound ready.loaded (Option.mem_toList.mp configured)).1 _ unread
  | program named content invalid =>
      cases named
      exact (Files.program_sound ready.program).2 _ _ content invalid
  | config named content invalid => exact (settings_sound ready.loaded named).2 _ content invalid
  | register loaded member unknown =>
      cases ready.loaded.symm.trans loaded
      have resolved := Settings.resolved_of_assignments ready.read
      exact Settings.known_of_resolved resolved _ member unknown
  | engine loaded unmade =>
      cases ready.loaded.symm.trans loaded
      have started := ready.started.start
      simp [RunCommand.start, unmade] at started

/-- A run has everything it needs, or it is refused and fails. -/
theorem ready_or_refused (written : ∀ assignment ∈ arguments.set, assignment.Written)
    (addressable : Invocation.Addressable files (.run arguments)) :
    (∃ settings given words engine, arguments.Ready files settings given words engine) ∨
      Invocation.Refused files (.run arguments) ∧
        ∃ failure, (arguments.run files out).2 = .error failure ∧ failure.code = 2 := by
  -- the stages of a run in their order; the first that fails decides
  cases loaded : arguments.settings files with
  | error error =>
      exact .inr ⟨refused_of_settings loaded, .load error, by simp only [run, loaded], rfl⟩
  | ok settings =>
      rcases Settings.assignments_cases settings.registers with
        ⟨given, read, resolved⟩ | ⟨before, bad, later, split, _, unknown, read⟩
      · have merged : arguments.options settings = .ok _ := options_of_assignments read
        cases program : files.loadProgram arguments.program with
        | error error =>
            refine .inr ⟨Invocation.refused_of_program rfl program, .load error, ?_, rfl⟩
            simp only [run, loaded, merged, program]
        | ok words =>
            cases made : Engine.make CarAssembly.table (arguments.merged settings) with
            | error error =>
                refine .inr ⟨.engine loaded made, .run (.engine error), ?_,
                  Engine.code_of_make made (addressable _ _ _ loaded merged program)⟩
                simp only [run, loaded, merged, program, RunCommand.run, RunCommand.start, made]
                rfl
            | ok fresh =>
                obtain ⟨engine, started⟩ := exists_started made written resolved
                exact .inl ⟨settings, given, words, engine, loaded, read, program, started⟩
      · refine .inr ⟨.register loaded (by simp [split]) unknown,
          .register (.unknownRegister bad.1), ?_, rfl⟩
        simp only [run, loaded, options, Settings.initialValues, read, Except.map]

theorem Ready.run (ready : arguments.Ready files settings given words engine) :
    ∃ report last, engine.run words = (.ok report, last) ∧
      ∀ out, arguments.run files out =
        (out ++ RunCommand.printed report last.registers arguments.dump, .ok report) := by
  obtain ⟨report, last, ran, answered⟩ := ready.started.run words
  refine ⟨report, last, ran, ?_⟩
  intro out
  simp only [RunArguments.run, ready.loaded, options_of_assignments ready.read, ready.program,
    answered]
  rfl

theorem Ready.falters_iff {report : Report} {last : Engine}
    (ready : arguments.Ready files settings given words engine)
    (ran : engine.run words = (.ok report, last)) :
    Invocation.Falters files (.run arguments) ↔ report.halted = true := by
  have safe := CarAssembly.safe ready.started.made ready.started.table_eq words
  have policy : engine.config.faultPolicy = arguments.policy settings := by
    rw [ready.started.config]
    rfl
  rw [Engine.halted_iff safe ran, policy]
  constructor
  · intro falters
    cases falters with
    | run loaded halts merged program started answered failed =>
        cases ready.loaded.symm.trans loaded
        cases (options_of_assignments ready.read).symm.trans merged
        cases ready.program.symm.trans program
        cases ready.started.start.symm.trans started
        exact ⟨halts, _, answered, failed⟩
  · rintro ⟨halts, result, answered, failed⟩
    exact .run ready.loaded halts (options_of_assignments ready.read) ready.program
      ready.started.start answered failed

end RunArguments

namespace Invocation

variable {files : Files}

/-- The three ways in which an invocation ends. -/
inductive Ends (files : Files) (invocation : Invocation) (ending : Ending) : Prop where
  | refused (refused : invocation.Refused files) (code : ending.code = 2)
      (silent : ending.printed = "")
  | faltered (accepted : ¬ invocation.Refused files) (falters : invocation.Falters files)
      (code : ending.code = 1)
  | succeeded (accepted : ¬ invocation.Refused files) (steady : ¬ invocation.Falters files)
      (code : ending.code = 0)

theorem not_refused_of_nothing {invocation : Invocation} (paths : invocation.paths = [])
    (program : invocation.program? = none)
    (plain : ∀ arguments, invocation ≠ .run arguments) : ¬ invocation.Refused files := by
  intro refused
  cases refused with
  | unreadable named _ => simp [paths] at named
  | program named _ _ => simp [program] at named
  | config | register | engine => exact absurd rfl (plain _)

theorem not_refused_of_program {path : String} {words : List Word}
    (loaded : files.loadProgram path = .ok words) : ¬ Refused files (.disasm path) := by
  intro refused
  cases refused with
  | unreadable named unread =>
      cases List.mem_singleton.mp named
      exact (Files.program_sound loaded).1 _ unread
  | program named content invalid =>
      cases named
      exact (Files.program_sound loaded).2 _ _ content invalid

theorem perform_ends (invocation : Invocation)
    (written : ∀ arguments, invocation = .run arguments →
      ∀ assignment ∈ arguments.set, assignment.Written)
    (addressable : invocation.Addressable files) :
    invocation.Ends files (invocation.perform files) := by
  cases invocation with
  | version | list =>
      exact .succeeded (not_refused_of_nothing rfl rfl (by simp)) (fun falters => by cases falters)
        rfl
  | disasm path =>
      cases loaded : files.loadProgram path with
      | error error =>
          have failed : ((Invocation.disasm path).execute files "").2 = .error (.load error) := by
            simp only [execute, loaded]
          rw [perform_of_error failed]
          exact .refused (refused_of_program rfl loaded) rfl rfl
      | ok words =>
          refine .succeeded (not_refused_of_program loaded) (fun falters => by cases falters) ?_
          simp only [perform, execute, loaded]
          rfl
  | run arguments =>
      rcases RunArguments.ready_or_refused (written arguments rfl) addressable with
        ⟨settings, given, words, engine, ready⟩ | ⟨refused, failure, failed, code⟩
      · obtain ⟨report, last, ran, answered⟩ := ready.run
        have falters := ready.falters_iff ran
        cases halted : report.halted with
        | true =>
            refine .faltered ready.not_refused (falters.mpr halted) ?_
            simp only [perform, execute, answered, Except.map, halted]
            rfl
        | false =>
            refine .succeeded ready.not_refused (by simp [falters, halted]) ?_
            simp only [perform, execute, answered, Except.map, halted]
            rfl
      · have failed := congrArg Prod.snd (execute_of_run_error failed)
        rw [perform_of_error failed]
        exact .refused refused code rfl

end Invocation

theorem commandLine_of_parse? {files : Files} {line : List String} {invocation : Invocation}
    (parsed : Arguments.parse? line = some invocation) :
    commandLine files line = invocation.perform files := by
  rw [commandLine, parsed]

/-- The exit code of accepted arguments, as long as there are addresses for the registers.  It
is 2 exactly if something that is asked for is not there or not valid, and then nothing is
printed.  It is 1 exactly if a run halts on a word, and otherwise it is 0. -/
theorem commandLine_code {files : Files} {line : List String} {invocation : Invocation}
    (parsed : Arguments.parse? line = some invocation)
    (addressable : invocation.Addressable files) :
    ((commandLine files line).code = 2 ↔ invocation.Refused files) ∧
    ((commandLine files line).code = 2 → (commandLine files line).printed = "") ∧
    ((commandLine files line).code = 1 ↔
      ¬ invocation.Refused files ∧ invocation.Falters files) ∧
    ((commandLine files line).code = 0 ↔
      ¬ invocation.Refused files ∧ ¬ invocation.Falters files) := by
  have written : ∀ arguments, invocation = .run arguments →
      ∀ assignment ∈ arguments.set, assignment.Written := by
    rintro arguments rfl
    exact Arguments.written_of_parse? parsed
  rw [commandLine_of_parse? parsed]
  cases invocation.perform_ends written addressable with
  | refused refused code silent => simp [refused, code, silent]
  | faltered accepted falters code => simp [accepted, falters, code]
  | succeeded accepted steady code => simp [accepted, steady, code]

/-- Programs whose second word overflows. -/
def overflowing : Files :=
  fun _ => .ok "00000014\n21280001\n"

/-- Arguments of a run on it. -/
def overflow : RunArguments where
  program := "drive.hex"
  set := [⟨9, Int32.maxValue⟩]

theorem commandLine_code_overflowing :
    Arguments.parse? ["run", "drive.hex", "--set=t1=0x7fffffff"] = some (.run overflow) ∧
    (Invocation.run overflow).Addressable overflowing ∧
    ¬ (Invocation.run overflow).Refused overflowing ∧
    (Invocation.run overflow).Falters overflowing := by
  have parsed : Arguments.parse? ["run", "drive.hex", "--set=t1=0x7fffffff"] =
      some (.run overflow) := by
    decide +kernel
  have addressable : (Invocation.run overflow).Addressable overflowing := by
    intro settings options words loaded merged program
    cases loaded
    cases merged
    decide
  have code : (commandLine overflowing ["run", "drive.hex", "--set=t1=0x7fffffff"]).code = 1 := by
    rw [commandLine_of_parse? parsed, Invocation.perform, Invocation.execute, RunArguments.run,
      CarAssembly.table_eq_expanded]
    decide +kernel
  obtain ⟨accepted, falters⟩ := (commandLine_code parsed addressable).2.2.1.mp code
  exact ⟨parsed, addressable, accepted, falters⟩

end CarMachine
