import CarMachine.CommandLine.Arguments
import CarMachine.Proofs.Assignment.Grammar

namespace CarMachine.Arguments

/-! Initial values among the arguments: each was read from a text. -/

namespace Given

variable {given next : Given} {subcommand : Subcommand} {letters : List Char}
  {name value path : String} {arguments : List String}

theorem set_of_setVerbose? (taken : given.setVerbose? = some next) : next.set = given.set := by
  rw [setVerbose?] at taken
  split at taken
  · contradiction
  · cases taken
    rfl

theorem set_of_short? (taken : given.short? letters = some next) : next.set = given.set := by
  fun_induction given.short? letters with
  | case1 =>
      cases taken
      rfl
  | case2 given rest ih =>
      obtain ⟨middle, first, others⟩ := Option.bind_eq_some_iff.mp taken
      rw [ih middle others, set_of_setVerbose? first]
  | case3 => contradiction

theorem set_of_switch? (taken : given.switch? subcommand name = some next) :
    next.set = given.set := by
  rw [switch?.eq_def] at taken
  split at taken
  case h_1 => exact set_of_setVerbose? taken
  case h_2 | h_3 =>
    split at taken
    · contradiction
    · cases taken
      rfl
  case h_4 => contradiction

theorem set_of_operand? (taken : given.operand? subcommand path = some next) :
    next.set = given.set := by
  rw [operand?.eq_def] at taken
  split at taken
  · contradiction
  · split at taken
    · contradiction
    · cases taken
      rfl

theorem written_of_option? (written : ∀ assignment ∈ given.set, assignment.Written)
    (taken : given.option? subcommand name value = some next) :
    ∀ assignment ∈ next.set, assignment.Written := by
  rw [option?.eq_def] at taken
  split at taken
  · split at taken
    · contradiction
    · cases taken
      exact written
  · split at taken
    · rename_i assignment read
      cases taken
      exact List.forall_mem_append.mpr ⟨written, List.forall_mem_singleton.mpr ⟨_, read⟩⟩
    · contradiction
  · contradiction

theorem set_of_operands {paths : List String}
    (taken : paths.foldlM (fun given path => given.operand? subcommand path) given = some next) :
    next.set = given.set := by
  induction paths generalizing given with
  | nil =>
      cases taken
      rfl
  | cons path rest ih =>
      rw [List.foldlM_cons] at taken
      obtain ⟨middle, first, others⟩ := Option.bind_eq_some_iff.mp taken
      rw [ih others, set_of_operand? first]

theorem written_of_read? (written : ∀ assignment ∈ given.set, assignment.Written)
    (taken : read? subcommand given arguments = some next) :
    ∀ assignment ∈ next.set, assignment.Written := by
  -- only an option can add an assignment, so the other arguments pass on what they are given
  fun_induction read? subcommand given arguments with
  | case1 =>
      cases taken
      exact written
  | case2 =>
      rw [set_of_operands taken]
      exact written
  | case3 _ _ _ _ _ ih =>
      obtain ⟨middle, first, others⟩ := Option.bind_eq_some_iff.mp taken
      exact ih middle (set_of_operand? first ▸ written) others
  | case4 _ _ _ _ _ ih =>
      obtain ⟨middle, first, others⟩ := Option.bind_eq_some_iff.mp taken
      exact ih middle (set_of_short? first ▸ written) others
  | case5 _ _ _ _ _ _ ih | case7 _ _ _ _ _ _ _ _ _ ih =>
      obtain ⟨middle, first, others⟩ := Option.bind_eq_some_iff.mp taken
      exact ih middle (written_of_option? written first) others
  | case6 | case8 => contradiction
  | case9 _ _ _ _ _ _ ih =>
      obtain ⟨middle, first, others⟩ := Option.bind_eq_some_iff.mp taken
      exact ih middle (set_of_switch? first ▸ written) others

end Given

variable {arguments : List String} {accepted : RunArguments} {verbose : Bool}

theorem version_of_leadingShort? {letters : List Char} {invocation : Invocation}
    (taken : leadingShort? verbose letters = some (.inl invocation)) : invocation = .version := by
  fun_induction leadingShort? verbose letters with
  | case1 => cases taken
  | case2 =>
      cases taken
      rfl
  | case3 | case5 => contradiction
  | case4 _ _ _ ih => exact ih taken

theorem written_of_invocation? {given : Given} {subcommand : Subcommand}
    (written : ∀ assignment ∈ given.set, assignment.Written)
    (taken : given.invocation? subcommand = some (.run accepted)) :
    ∀ assignment ∈ accepted.set, assignment.Written := by
  cases subcommand with
  | list => cases taken
  | disasm =>
      obtain ⟨program, _, same⟩ := Option.map_eq_some_iff.mp taken
      contradiction
  | run =>
      obtain ⟨program, _, same⟩ := Option.map_eq_some_iff.mp taken
      cases same
      exact written

theorem written_of_leading? (taken : leading? verbose arguments = some (.run accepted)) :
    ∀ assignment ∈ accepted.set, assignment.Written := by
  fun_induction leading? verbose arguments with
  | case1 | case3 | case5 | case9 | case10 => contradiction
  | case2 =>
      obtain ⟨given, read, asked⟩ := Option.bind_eq_some_iff.mp taken
      exact written_of_invocation? (Given.written_of_read? (List.forall_mem_nil _) read) asked
  | case4 => cases taken
  | case6 _ _ _ _ _ ih => exact ih taken
  | case7 _ _ _ _ _ _ short =>
      cases taken
      cases version_of_leadingShort? short
  | case8 _ _ _ _ _ _ _ ih => exact ih taken

theorem written_of_parse? (taken : parse? arguments = some (.run accepted)) :
    ∀ assignment ∈ accepted.set, assignment.Written :=
  written_of_leading? taken

end CarMachine.Arguments
