import CarMachine.Proofs.Engine.Run
import CarMachine.Proofs.Template.Registers

namespace CarMachine

/-! Crashes.

The size of a register file is checked once, when an engine is made, and against register
fields only.  That leaves one way to ask for a slot that is not there: an arithmetic
operation bound to a template with an immediate takes the number for a register.
-/

/-- An arithmetic operation takes an immediate number for a register that a file of the
given size does not have. -/
structure Decoded.Overreaches (decoded : Decoded) (size : Nat) : Prop where
  arithmetic : ∃ kind, decoded.entry.operation = .arithmetic kind
  immediate : decoded.entry.template.TakesImmediate
  beyond : size ≤ decoded.operands.register 2

/-- An engine that was made over a table, whatever its registers hold by now. -/
structure Engine.Made (engine : Engine) : Prop where
  table : engine.table.Reachable Template.Built
  start : ∃ start, Engine.make engine.table engine.config = .ok start ∧
    start.registers.size = engine.registers.size

namespace Engine

variable {engine : Engine} {call : Call} {decoded : Decoded} {missing : MissingSlot}
  {words : List Word}

/-- An engine is made exactly if its registers can be addressed, hold the car registers and
have a slot for every register field of the table. -/
theorem make_eq_ok_iff {table : Table} {config : Config} : make table config = .ok engine ↔
    (Registers.leastSize ≤ config.registerCount ∧
      table.requiredRegisters ≤ config.registerCount ∧
      config.registerCount ≤ Registers.greatestSize) ∧
    engine = { table, config, registers := .zeroed config.registerCount } := by
  have size : (Registers.zeroed config.registerCount).size = config.registerCount := rfl
  rw [make, Registers.ofSize]
  by_cases small : config.registerCount < Registers.leastSize
  · simp [small]
  · by_cases large : Registers.greatestSize < config.registerCount
    · simp [small, large]
    · by_cases short : config.registerCount < table.requiredRegisters
      · simp [small, large, short, size]
      · simp [small, large, short, size, eq_comm, Nat.le_of_not_lt]

theorem room_of_make {table : Table} {config : Config}
    (made : make table config = .ok engine) :
    Registers.leastSize ≤ engine.registers.size ∧
      table.requiredRegisters ≤ engine.registers.size := by
  obtain ⟨⟨least, required, _⟩, rfl⟩ := make_eq_ok_iff.mp made
  exact ⟨least, required⟩

/-- A file with a slot for every register number may hold anything. -/
theorem made_of_room (reachable : engine.table.Reachable Template.Built)
    (counted : engine.config.registerCount = engine.registers.size)
    (room : Registers.defaultSize ≤ engine.registers.size)
    (greatest : engine.registers.size ≤ Registers.greatestSize) : engine.Made := by
  have least : Registers.leastSize ≤ engine.registers.size :=
    Nat.le_trans (by decide) room
  have required : engine.table.requiredRegisters ≤ engine.registers.size := by
    rw [Table.requiredRegisters]
    split
    · exact room
    · exact Nat.zero_le _
  rw [← counted] at least required greatest
  exact ⟨reachable, _, make_eq_ok_iff.mpr ⟨⟨least, required, greatest⟩, rfl⟩, counted⟩

theorem made_of_make {table : Table} {config : Config}
    (reachable : table.Reachable Template.Built) (made : make table config = .ok engine) :
    engine.Made ∧ engine.table = table := by
  obtain ⟨_, rfl⟩ := make_eq_ok_iff.mp made
  exact ⟨⟨reachable, _, made, rfl⟩, rfl⟩

theorem Made.room (made : engine.Made) : Registers.leastSize ≤ engine.registers.size ∧
    engine.table.requiredRegisters ≤ engine.registers.size := by
  obtain ⟨start, accepted, size⟩ := made.start
  rw [← size]
  exact room_of_make accepted

theorem Made.answer (made : engine.Made) (call : Call) : (engine.answer call).2.Made := by
  obtain ⟨table, config, size⟩ := engine.answer_keeps call
  constructor
  · rw [table]
    exact made.table
  · rw [table, config, size]
    exact made.start

/-- Car registers have slots. -/
theorem Made.slot_lt (made : engine.Made) (register : CarRegister) :
    register.slot < engine.registers.size :=
  Nat.lt_of_lt_of_le (Registers.slot_lt_leastSize register) made.room.1

theorem Made.register_lt (made : engine.Made) (legal : decoded.Legal engine.table)
    (position : Nat)
    (direct : position = 2 → ¬ decoded.entry.template.TakesImmediate) :
    decoded.operands.register position < engine.registers.size := by
  have built := made.table.built legal.member
  obtain ⟨car, room⟩ := made.room
  by_cases none : decoded.entry.template.fields = []
  · rw [built.register_of_no_fields legal.checked none]
    exact Nat.lt_of_lt_of_le (by decide) car
  · obtain ⟨field, listed, register⟩ := built.has_register_field none
    have asked : (engine.table.entries.any fun entry =>
        entry.template.fields.any fun field => !field.isImmediate) = true := by
      simp only [List.any_eq_true]
      exact ⟨decoded.entry, legal.member, field, listed, by rw [register]; rfl⟩
    have required : engine.table.requiredRegisters = 2 ^ BitField.registerWidth := by
      simp only [Table.requiredRegisters, asked, if_true]
      rfl
    have small := built.register_lt legal.checked direct
    omega

/-- Every slot that an instruction writes is there. -/
theorem Made.writes_inside (made : engine.Made) (legal : decoded.Legal engine.table) :
    ∀ slot ∈ decoded.entry.operation.writes decoded.operands,
      slot < engine.registers.size := by
  have destination := made.register_lt legal 0 (by simp)
  cases decoded.entry.operation <;>
    simp [Operation.writes, made.slot_lt, destination]

/-- Of the slots that an instruction reads, only a target register may not be there. -/
theorem Made.firstMissing_reads (made : engine.Made) (legal : decoded.Legal engine.table)
    {index : Nat} :
    Operation.firstMissing engine.registers.size
        (decoded.entry.operation.reads decoded.operands) = some index ↔
      decoded.Overreaches engine.registers.size ∧ index = decoded.operands.register 2 := by
  have destination := made.register_lt legal 0 (by simp)
  have source := made.register_lt legal 1 (by simp)
  cases operation : decoded.entry.operation with
  | arithmetic kind =>
      simp only [Operation.reads, Operation.firstMissing, source, if_true]
      by_cases target : decoded.operands.register 2 < engine.registers.size
      · simp only [target, if_true, reduceCtorEq, false_iff]
        intro parts
        obtain ⟨overreaches, _⟩ := parts
        exact absurd overreaches.beyond (by omega)
      · have immediate : decoded.entry.template.TakesImmediate := by
          by_contra direct
          exact target (made.register_lt legal 2 fun _ => direct)
        simp only [target, if_false, Option.some.injEq]
        constructor
        · intro same
          subst same
          exact ⟨⟨⟨kind, operation⟩, immediate, Nat.le_of_not_lt target⟩, rfl⟩
        · intro parts
          exact parts.2.symm
  | _ =>
      have direct : ¬ decoded.Overreaches engine.registers.size := by
        intro overreaches
        obtain ⟨kind, arithmetic⟩ := overreaches.arithmetic
        simp [operation] at arithmetic
      simp [Operation.reads, Operation.firstMissing, source, destination, made.slot_lt, direct]

theorem Made.crashed_iff (made : engine.Made) : (engine.answer call).1 = .crashed missing ↔
    ∃ decoded, call.decode engine.table = .ok decoded ∧
      decoded.Overreaches engine.registers.size ∧
      missing.index = decoded.operands.register 2 := by
  cases accepted : call.decode engine.table with
  | error error => simp [answer_of_refused accepted]
  | ok decoded =>
      have legal := made.table.legal accepted
      simp only [answer_of_decode accepted, Except.ok.injEq, exists_eq_left',
        Decoded.execute_crashed_iff (made.writes_inside legal), made.firstMissing_reads legal]

theorem Made.unchanged_of_crashed (made : engine.Made)
    (crashed : (engine.answer call).1 = .crashed missing) :
    (engine.answer call).2 = engine := by
  cases accepted : call.decode engine.table with
  | error error => rw [answer_of_refused accepted]
  | ok decoded =>
      have inside := made.writes_inside (made.table.legal accepted)
      rw [answer_of_decode accepted] at crashed ⊢
      rw [Decoded.registers_of_crashed inside crashed]

/-- No step along a list of words crashes. -/
def Safe (engine : Engine) : List Word → Prop
  | [] => True
  | word :: rest =>
      (∀ missing, (engine.step word).1 ≠ .crashed missing) ∧ (engine.step word).2.Safe rest

theorem Safe.runAt_completes (safe : engine.Safe words) (index : Nat) :
    ∃ report, (engine.runAt index words).1 = .ok report := by
  induction words generalizing engine index with
  | nil => exact ⟨{}, rfl⟩
  | cons word rest ih =>
      obtain ⟨here, later⟩ := safe
      rw [runAt_cons]
      cases answer : (engine.step word).1.report engine.config.faultPolicy index with
      | error missing => exact absurd (StepResult.report_eq_error_iff.mp answer) (here missing)
      | ok report =>
          cases halted : report.halted with
          | true => exact ⟨report, by simp [goOnAt, halted]⟩
          | false =>
              obtain ⟨others, completed⟩ := ih later (index + 1)
              exact ⟨report.join others, by rw [goOnAt_going halted, completed]; rfl⟩

end Engine

namespace CarAssembly

/-- Only one built-in instruction takes an immediate number. -/
theorem operation_of_takesImmediate {entry : Entry} (member : entry ∈ table.entries)
    (immediate : entry.template.TakesImmediate) : entry.operation = .addImmediate := by
  have all : ∀ entry ∈ entries, ∀ field ∈ entry.template.pattern.fields,
      field.width = 16 → entry.operation = .addImmediate := by
    decide +kernel
  obtain ⟨field, found, wide⟩ := immediate
  rw [table_entries] at member
  exact all entry member field (List.mem_of_find?_eq_some found) wide

/-- No built-in arithmetic operation takes an immediate number. -/
theorem not_overreaches {decoded : Decoded} {size : Nat} (legal : decoded.Legal table) :
    ¬ decoded.Overreaches size := by
  intro overreaches
  obtain ⟨kind, arithmetic⟩ := overreaches.arithmetic
  have operation := operation_of_takesImmediate legal.member overreaches.immediate
  simp [arithmetic] at operation

variable {engine : Engine}

theorem not_crashed (made : engine.Made) (builtIn : engine.table = table)
    (call : Engine.Call) (missing : MissingSlot) :
    (engine.answer call).1 ≠ .crashed missing := by
  intro crashed
  obtain ⟨decoded, accepted, overreaches, _⟩ := made.crashed_iff.mp crashed
  have legal := made.table.legal accepted
  rw [builtIn] at legal
  exact not_overreaches legal overreaches

theorem safe (made : engine.Made) (builtIn : engine.table = table) (words : List Word) :
    engine.Safe words := by
  induction words generalizing engine with
  | nil => trivial
  | cons word rest ih =>
      have kept : (engine.answer (.step word)).2.table = table :=
        (engine.answer_keeps (.step word)).1.trans builtIn
      exact ⟨not_crashed made builtIn (.step word), ih (made.answer (.step word)) kept⟩

end CarAssembly

/-- An engine crashes in one situation only, and then it is left as it was.  Over the
built-in instructions the situation does not arise. -/
theorem Engine.answer_crashed_iff {engine : Engine} (made : engine.Made) :
    (∀ call missing, (engine.answer call).1 = .crashed missing ↔
      ∃ decoded, call.decode engine.table = .ok decoded ∧
        decoded.Overreaches engine.registers.size ∧
        missing.index = decoded.operands.register 2) ∧
    (∀ call missing, (engine.answer call).1 = .crashed missing →
      (engine.answer call).2 = engine) ∧
    (engine.table = CarAssembly.table →
      (∀ call missing, (engine.answer call).1 ≠ .crashed missing) ∧
      ∀ words, ∃ report, (engine.run words).1 = .ok report) := by
  refine ⟨fun call missing => made.crashed_iff, ?_, ?_⟩
  · intro call missing crashed
    exact made.unchanged_of_crashed crashed
  · intro builtIn
    refine ⟨CarAssembly.not_crashed made builtIn, ?_⟩
    intro words
    exact (CarAssembly.safe made builtIn words).runAt_completes 0

/-- A sum with an immediate number in place of its second register. -/
def immediateSum : Definition where
  mnemonic := "sum"
  layout := .threeRegister
  pattern := "001000 sssss fffff tttttttttttttttt"
  operation := .arithmetic .add

def Engine.ofImmediateSum : Engine where
  table := Table.empty.extend [immediateSum]
  config := {}
  registers := .zeroed 32

/-- The sum crashes on the first number that is no register. -/
theorem Engine.answer_crashed_iff_immediateSum : Engine.ofImmediateSum.Made ∧
    (Engine.ofImmediateSum.step 0x20000020).1 = .crashed ⟨32⟩ := by
  have made : Engine.ofImmediateSum.Made :=
    ⟨Table.Reachable.empty.extend _, Engine.ofImmediateSum, by decide +kernel, rfl⟩
  let decoded : Decoded := {
    word := some 0x20000020
    entry := {
      template := {
        mnemonic := "sum"
        usage := ""
        description := ""
        layout := .threeRegister
        pattern := CarAssembly.immediate 0x20000000 }
      operation := .arithmetic .add }
    operands := ⟨[0, 0, 32], by decide⟩ }
  have accepted : Engine.ofImmediateSum.table.decode 0x20000020 = .ok decoded := by
    decide +kernel
  have overreaches : decoded.Overreaches 32 :=
    ⟨⟨.add, rfl⟩, ⟨⟨.target, 0, 16⟩, by decide, rfl⟩, by decide⟩
  exact ⟨made, ((answer_crashed_iff made).1 (.step 0x20000020) ⟨32⟩).mpr
    ⟨decoded, accepted, overreaches, by decide⟩⟩

end CarMachine
