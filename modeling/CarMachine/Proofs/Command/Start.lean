import CarMachine.Proofs.CommandLine.Arguments
import CarMachine.Proofs.CommandLine.Files
import CarMachine.Proofs.Engine.Crash
import CarMachine.Proofs.Settings.Resolution

namespace CarMachine

/-! The register file from which a run starts. -/

theorem CarAssembly.table_requiredRegisters : table.requiredRegisters = 32 := by
  rw [table_eq_expanded]
  decide +kernel

/-- What a slot holds at the start of a run with these named values and with these assignments
after them. -/
inductive Seeded (named : List (String × Int32)) (set : List Assignment) (slot : Nat) :
    Int32 → Prop where
  | set {value : Int32} (last : Assignment.LastTo set slot value) : Seeded named set slot value
  | named {name : String} {value : Int32} (unset : ∀ other ∈ set, other.index ≠ slot)
      (wins : Settings.Wins named slot name value) : Seeded named set slot value
  | zero (unset : ∀ other ∈ set, other.index ≠ slot)
      (unnamed : ∀ entry ∈ named, RegisterName.resolve? entry.1 ≠ some slot) :
      Seeded named set slot 0

variable {named : List (String × Int32)} {given set : List Assignment} {slot : Nat}
  {value : Int32}

theorem seeded_iff
    (ordered : named.Pairwise fun first second => Text.bytesOf first.1 < Text.bytesOf second.1)
    (resolved : named.map Settings.assignment? = given.map some) :
    Seeded named set slot value ↔
      ((Assignment.effectOf (given ++ set)).pending slot).getD 0 = value := by
  rw [Assignment.pending_append]
  constructor
  · intro seeded
    cases seeded with
    | set last => rw [Assignment.pending_eq_some_iff.mpr last]; rfl
    | named unset wins =>
        have last := (Settings.lastTo_iff ordered resolved).mpr ⟨_, wins⟩
        rw [Assignment.pending_eq_none_iff.mpr unset, Assignment.pending_eq_some_iff.mpr last]
        rfl
    | zero unset unnamed =>
        have untouched := (Settings.untouched_iff resolved).mpr unnamed
        rw [Assignment.pending_eq_none_iff.mpr unset, Assignment.pending_eq_none_iff.mpr untouched]
        rfl
  · rintro rfl
    cases later : (Assignment.effectOf set).pending slot with
    | some last => exact .set (Assignment.pending_eq_some_iff.mp later)
    | none =>
        have unset := Assignment.pending_eq_none_iff.mp later
        cases earlier : (Assignment.effectOf given).pending slot with
        | some last =>
            obtain ⟨name, wins⟩ :=
              (Settings.lastTo_iff ordered resolved).mp (Assignment.pending_eq_some_iff.mp earlier)
            exact .named unset wins
        | none =>
            exact .zero unset
              ((Settings.untouched_iff resolved).mp (Assignment.pending_eq_none_iff.mp earlier))

namespace RunCommand

/-- An engine from which a run starts. -/
structure Started (table : Table) (options : RunCommand.Options) (engine : Engine) : Prop where
  start : start table options = .ok engine
  made : engine.Made
  table_eq : engine.table = table
  config : engine.config = options.engine
  size : engine.registers.size = options.engine.registerCount
  content : ∀ slot < engine.registers.size, engine.registers.read slot =
    .ok (((Assignment.effectOf options.registers).pending slot).getD 0)

variable {table : Table} {options : RunCommand.Options} {fresh engine : Engine}

theorem started_of_make (reachable : table.Reachable Template.Built)
    (made : Engine.make table options.engine = .ok fresh)
    (inside : ∀ assignment ∈ options.registers, assignment.index < options.engine.registerCount) :
    ∃ engine, Started table options engine := by
  obtain ⟨_, rfl⟩ := Engine.make_eq_ok_iff.mp made
  obtain ⟨registers, applied, committed⟩ :=
    @Assignment.applyAll_commits options.registers (.zeroed options.engine.registerCount) inside
  have size : registers.size = options.engine.registerCount := Effect.size_of_commit committed
  refine ⟨⟨table, options.engine, registers⟩, ?_, ?_, rfl, rfl, size, ?_⟩
  · simp only [start, made, applied]
  · exact ⟨reachable, _, made, size.symm⟩
  · intro slot inside
    have content := @Effect.read_of_commit _ slot _ _ committed
    rw [Registers.read_zeroed (Nat.lt_of_lt_of_eq inside size)] at content
    rw [content]
    cases (Assignment.effectOf options.registers).pending slot <;> rfl

/-- A run of built-in instructions that has started gets to a report. -/
theorem Started.run (started : Started CarAssembly.table options engine) (words : List Word) :
    ∃ report last, engine.run words = (.ok report, last) ∧
      ∀ out, run CarAssembly.table words options out =
        (out ++ printed report last.registers options.dump, .ok report) := by
  have safe := CarAssembly.safe started.made started.table_eq words
  obtain ⟨report, completed⟩ := safe.runAt_completes 0
  have ran : engine.run words = (.ok report, (engine.run words).2) := Prod.ext completed rfl
  refine ⟨report, (engine.run words).2, ran, ?_⟩
  intro out
  rw [RunCommand.run, started.start]
  simp only
  rw [ran]

end RunCommand

namespace RunArguments

variable {arguments : RunArguments} {settings : Settings} {files : Files}

/-- The policy of a run: the command line is asked first, then the settings. -/
def policy (arguments : RunArguments) (settings : Settings) : FaultPolicy :=
  if arguments.continueOnFault then .proceed else settings.faultPolicy.getD .halt

/-- The settings of the engine for a run. -/
def merged (arguments : RunArguments) (settings : Settings) : Engine.Config :=
  { settings.engine with faultPolicy := arguments.policy settings }

theorem options_of_assignments (read : Settings.assignments settings.registers = .ok given) :
    arguments.options settings = .ok {
      engine := arguments.merged settings
      registers := given ++ arguments.set
      dump := arguments.dump } := by
  rw [options, Settings.initialValues, read]
  rfl

theorem make_merged {table : Table} {fresh : Engine}
    (made : Engine.make table settings.engine = .ok fresh) :
    Engine.make table (arguments.merged settings) =
      .ok { fresh with config := arguments.merged settings } := by
  obtain ⟨room, rfl⟩ := Engine.make_eq_ok_iff.mp made
  exact Engine.make_eq_ok_iff.mpr ⟨room, rfl⟩

theorem exists_started {fresh : Engine}
    (made : Engine.make CarAssembly.table (arguments.merged settings) = .ok fresh)
    (written : ∀ assignment ∈ arguments.set, assignment.Written)
    (resolved : settings.registers.map Settings.assignment? = given.map some) :
    ∃ engine, RunCommand.Started CarAssembly.table
      ⟨arguments.merged settings, given ++ arguments.set, arguments.dump⟩ engine := by
  have required := (Engine.make_eq_ok_iff.mp made).1.2.1
  rw [CarAssembly.table_requiredRegisters] at required
  refine RunCommand.started_of_make (CarAssembly.table_reachable _) made ?_
  refine fun assignment member => Nat.lt_of_lt_of_le ?_ required
  rcases List.mem_append.mp member with named | later
  · exact Settings.index_lt_of_resolved resolved assignment named
  · exact (written assignment later).index_lt

theorem ordered_of_settings (loaded : arguments.settings files = .ok settings) :
    settings.Ordered := by
  rcases settings_eq_ok_iff.mp loaded with ⟨_, rfl⟩ | ⟨path, text, _, _, read⟩
  · exact Settings.ordered_empty
  · exact Settings.ordered_of_parse? read

theorem perform_of_unknown {entry : String × Int32}
    (loaded : arguments.settings files = .ok settings)
    (read : Settings.assignments settings.registers = .error (.unknownRegister entry.1)) :
    (Invocation.run arguments).perform files =
      { code := 2, failure := some (.register (.unknownRegister entry.1)) } := by
  simp only [Invocation.perform, Invocation.execute, run, loaded, options,
    Settings.initialValues, read, Except.map]
  rfl

/-- When all names in the settings stand for slots and there is an engine with that many slots,
every run starts, and from known values: the last assignment to a slot decides, without one the
last name for the slot in the order of bytes, and any other slot is zero.  A name that stands
for no slot ends the program before it prints anything.  Settings from files have their names in
the order of bytes, and assignments from the command line were read from texts. -/
theorem start_seeded (arguments : RunArguments) (settings : Settings) :
    (∀ files, arguments.settings files = .ok settings → settings.Ordered) ∧
    (∀ line, Arguments.parse? line = some (.run arguments) →
      ∀ assignment ∈ arguments.set, assignment.Written) ∧
    (settings.Ordered →
      (∀ entry ∈ settings.registers, RegisterName.resolve? entry.1 ≠ none) →
      (∀ assignment ∈ arguments.set, assignment.Written) →
      (∃ fresh, Engine.make CarAssembly.table settings.engine = .ok fresh) →
      ∃ options engine, arguments.options settings = .ok options ∧
        RunCommand.start CarAssembly.table options = .ok engine ∧
        engine.registers.size = settings.engine.registerCount ∧
        (∀ slot < engine.registers.size, ∀ value, engine.registers.read slot = .ok value ↔
          Seeded settings.registers arguments.set slot value) ∧
        ∀ words, ∃ report last, engine.run words = (.ok report, last) ∧
          ∀ out, RunCommand.run CarAssembly.table words options out =
            (out ++ RunCommand.printed report last.registers arguments.dump, .ok report)) ∧
    ∀ files, arguments.settings files = .ok settings →
      (∃ entry ∈ settings.registers, RegisterName.resolve? entry.1 = none) →
      ∃ before entry later, settings.registers = before ++ entry :: later ∧
        (∀ earlier ∈ before, RegisterName.resolve? earlier.1 ≠ none) ∧
        RegisterName.resolve? entry.1 = none ∧
        (Invocation.run arguments).perform files = {
          code := 2
          printed := ""
          failure := some (.register (.unknownRegister entry.1)) } := by
  refine ⟨fun files => ordered_of_settings, fun line => Arguments.written_of_parse?, ?_, ?_⟩
  · intro ordered known written accepted
    obtain ⟨fresh, made⟩ := accepted
    rcases Settings.assignments_cases settings.registers with
      ⟨given, read, resolved⟩ | ⟨before, bad, later, split, _, unknown, _⟩
    · obtain ⟨engine, started⟩ := exists_started (make_merged made) written resolved
      refine ⟨_, engine, options_of_assignments read, started.start, started.size, ?_,
        started.run⟩
      intro slot inside value
      rw [started.content slot inside, Except.ok.injEq]
      exact (seeded_iff ordered resolved).symm
    · exact absurd unknown (known bad (by simp [split]))
  · intro files loaded unresolved
    obtain ⟨entry, member, unknown⟩ := unresolved
    rcases Settings.assignments_cases settings.registers with
      ⟨given, read, resolved⟩ | ⟨before, bad, later, split, known, nameless, read⟩
    · exact absurd unknown (Settings.known_of_resolved resolved entry member)
    · exact ⟨before, bad, later, split, known, nameless, perform_of_unknown loaded read⟩

/-- Settings with four names for one slot. -/
def aliased : Settings where
  registers := [("$t0", 1), ("8", 2), ("T0", 3), ("fuel", 70), ("t0", 4)]

/-- Arguments that give a slot two values. -/
def twice : RunArguments where
  program := "drive.hex"
  config := some "car.toml"
  set := [⟨20, 5⟩, ⟨20, 10⟩]

theorem start_seeded_aliased :
    (∃ options engine, twice.options aliased = .ok options ∧
      RunCommand.start CarAssembly.table options = .ok engine ∧
      engine.registers.read 8 = .ok 4 ∧ engine.registers.read 20 = .ok 10 ∧
      engine.registers.read 31 = .ok 0) ∧
    (Invocation.run twice).perform (fun _ => .ok "[registers]\nhorn = 1\n") =
      { code := 2, failure := some (.register (.unknownRegister "horn")) } := by
  have ordered : aliased.Ordered := by
    rw [Settings.Ordered]
    decide +kernel
  have known : ∀ entry ∈ aliased.registers, RegisterName.resolve? entry.1 ≠ none := by
    decide +kernel
  have written : ∀ assignment ∈ twice.set, assignment.Written := by
    have first : Assignment.parse "speed=5" = .ok ⟨20, 5⟩ := by decide +kernel
    have second : Assignment.parse "speed=10" = .ok ⟨20, 10⟩ := by decide +kernel
    simp only [twice, List.forall_mem_cons, List.not_mem_nil, false_implies, implies_true, and_true]
    exact ⟨⟨_, first⟩, ⟨_, second⟩⟩
  have accepted : ∃ fresh, Engine.make CarAssembly.table aliased.engine = .ok fresh :=
    ⟨_, Engine.make_eq_ok_iff.mpr ⟨⟨by decide,
      by rw [CarAssembly.table_requiredRegisters]; decide, by decide⟩, rfl⟩⟩
  obtain ⟨options, engine, merged, started, size, seeded, _⟩ :=
    (start_seeded twice aliased).2.2.1 ordered known written accepted
  have slots : engine.registers.size = 32 := size
  have wins : Settings.Wins aliased.registers 8 "t0" 4 :=
    ⟨by decide, by decide +kernel, by decide +kernel⟩
  constructor
  · refine ⟨options, engine, merged, started, (seeded 8 (by omega) 4).mpr ?_,
      (seeded 20 (by omega) 10).mpr ?_, (seeded 31 (by omega) 0).mpr ?_⟩
    · exact .named (by decide) wins
    · exact .set ⟨[⟨20, 5⟩], [], rfl, List.forall_mem_nil _⟩
    · exact .zero (by decide) (by decide +kernel)
  · have loaded : twice.settings (fun _ => .ok "[registers]\nhorn = 1\n") =
        .ok { registers := [("horn", 1)] } := by
      decide +kernel
    obtain ⟨before, entry, later, split, _, _, ended⟩ :=
      (start_seeded twice _).2.2.2 _ loaded ⟨("horn", 1), .head _, by decide +kernel⟩
    have listed : entry ∈ before ++ entry :: later := by simp
    rw [← split] at listed
    cases List.mem_singleton.mp listed
    exact ended

end RunArguments

end CarMachine
