import CarMachine.Proofs.Effect.Commit
import CarMachine.Proofs.Json.Slots

namespace CarMachine.Registers

/-! Room for the car registers.

No write and no commit changes how many slots a file has, so what matters is where the file comes
from.  Of the three origins only a JSON text can give a file that is too small: it is taken with
as many slots as it lists.
-/

/-- Where a register file comes from. -/
inductive Origin where
  | ofSize (size : Nat)
  | default
  | text (json : String)

def Origin.file? : Origin → Option Registers
  | .ofSize size => (Registers.ofSize size).toOption
  | .default => some (.zeroed defaultSize)
  | .text json => (Json.read? json).bind ofJson?

/-- How many slots a JSON text lists, whatever stands in them. -/
def slotsListed? (json : String) : Option Nat := do
  match (← Json.read? json).record? ["slots"] with
  | some [some slots] => return (← slots.items?).length
  | _ => none

/-- A size asked for is checked; a text has to list enough slots by itself. -/
def Origin.Suffices : Origin → Prop
  | .ofSize _ | .default => True
  | .text json => ∃ count, slotsListed? json = some count ∧ leastSize ≤ count

/-- What becomes of a file by writes to its slots and by commits, also broken ones. -/
inductive Reaches (start : Registers) : Registers → Prop where
  | start : Reaches start start
  | write {registers after : Registers} {index : Nat} {value : Int32}
      (reached : Reaches start registers) (written : registers.write index value = .ok after) :
      Reaches start after
  | commit {registers after : Registers} {effect : Effect} {answer : Except MissingSlot Unit}
      (reached : Reaches start registers)
      (committed : effect.commit registers = (after, answer)) : Reaches start after

/-- Every car register is there, to read and to write. -/
structure HoldsCar (registers : Registers) : Prop where
  room : leastSize ≤ registers.size
  occupied : registers.isEmpty = false
  reads : ∀ register, ∃ value, registers.readCar register = .ok value
  writes : ∀ register value, ∃ after, registers.writeCar register value = .ok after
  status : ∀ flag, ∃ set, registers.hasStatus flag = .ok set

variable {origin : Origin} {start registers : Registers} {json : String}

theorem holdsCar_of_room (room : leastSize ≤ registers.size) : registers.HoldsCar where
  room
  occupied := by
    have nonzero : 0 < registers.size := Nat.lt_of_lt_of_le (by decide) room
    simpa [isEmpty] using Nat.ne_of_gt nonzero
  reads register := read_exists (Nat.lt_of_lt_of_le (slot_lt_leastSize register) room)
  writes register value :=
    write_exists value (Nat.lt_of_lt_of_le (slot_lt_leastSize register) room)
  status flag := by
    obtain ⟨value, found⟩ :=
      read_exists (Nat.lt_of_lt_of_le (slot_lt_leastSize .status) room)
    exact ⟨_, by rw [hasStatus, readCar, found]; rfl⟩

theorem Reaches.size_eq (reached : Reaches start registers) : registers.size = start.size := by
  induction reached with
  | start => rfl
  | write _ written ih => rw [size_of_write written, ih]
  | commit _ committed ih => rw [Effect.size_of_commit committed, ih]

theorem length_of_mapM {α β : Type} {read : α → Option β} {items : List α} {values : List β}
    (known : items.mapM read = some values) : values.length = items.length := by
  induction items generalizing values with
  | nil =>
      cases known
      rfl
  | cons item rest ih =>
      rw [List.mapM_cons] at known
      obtain ⟨value, _, remaining⟩ := Option.bind_eq_some_iff.mp known
      obtain ⟨others, later, joined⟩ := Option.bind_eq_some_iff.mp remaining
      cases joined
      rw [List.length_cons, List.length_cons, ih later]

theorem size_of_text (taken : (Origin.text json).file? = some start) :
    slotsListed? json = some start.size := by
  obtain ⟨value, parsed, shaped⟩ := Option.bind_eq_some_iff.mp taken
  simp only [ofJson?] at shaped
  split at shaped
  · rename_i slots fields
    obtain ⟨items, listed, rest⟩ := Option.bind_eq_some_iff.mp shaped
    obtain ⟨values, known, made⟩ := Option.bind_eq_some_iff.mp rest
    cases made
    have count := length_of_mapM known
    simp [slotsListed?, parsed, fields, listed, ofSlots, count]
  · contradiction

theorem room_of_ofSize {size : Nat} (made : (Origin.ofSize size).file? = some start) :
    leastSize ≤ start.size := by
  simp only [Origin.file?, ofSize] at made
  split at made
  · contradiction
  · rename_i enough
    split at made
    · contradiction
    · cases made
      exact Nat.le_of_not_lt enough

theorem room_iff_suffices (obtained : origin.file? = some start) :
    leastSize ≤ start.size ↔ origin.Suffices := by
  cases origin with
  | ofSize size => exact iff_of_true (room_of_ofSize obtained) trivial
  | default =>
      cases obtained
      exact iff_of_true (by decide) trivial
  | text json =>
      have listed := size_of_text obtained
      constructor
      · exact fun room => ⟨start.size, listed, room⟩
      · rintro ⟨count, alsoListed, enough⟩
        rw [listed] at alsoListed
        cases alsoListed
        exact enough

/-- A register file holds the car registers unless it goes back to a text that lists too few
slots.  No text is refused for that: every row of slots is the file of some text. -/
theorem holdsCar_iff (obtained : origin.file? = some start) (reached : Reaches start registers) :
    registers.size = start.size ∧ (registers.HoldsCar ↔ origin.Suffices) ∧
      ∀ slots, ∃ json, (Origin.text json).file? = some (ofSlots slots) := by
  have kept := reached.size_eq
  refine ⟨kept, ?_, fun slots => ⟨(ofSlots slots).toJson, ofJson?_toJson slots⟩⟩
  rw [← room_iff_suffices obtained, ← kept]
  exact ⟨fun holds => holds.room, holdsCar_of_room⟩

/-- A text with no slots at all is taken, and no car register can be used in its file. -/
theorem empty_of_text : ∃ start, (Origin.text "\x7b\"slots\":[]\x7d").file? = some start ∧
    start.isEmpty = true ∧ ¬ start.HoldsCar ∧
    (∀ register, start.readCar register = .error ⟨register.slot⟩) ∧
    (∀ register value, start.writeCar register value = .error ⟨register.slot⟩) ∧
    ∀ flag, start.hasStatus flag = .error ⟨CarRegister.status.slot⟩ :=
  ⟨ofSlots [], by decide +kernel, rfl, fun holds => absurd holds.room (by decide),
    fun _ => rfl, fun _ _ => rfl, fun _ => rfl⟩

/-- Whether there is room is settled when a file is made, and nothing done to it changes that. -/
theorem holdsCar_iff_written :
    (∃ start after, (Origin.text "\x7b\"slots\":[7,-1]\x7d").file? = some start ∧
      start.write 0 5 = .ok after ∧ after.size = 2 ∧ ¬ after.HoldsCar) ∧
    ∃ start after, (Origin.ofSize 27).file? = some start ∧
      ((({} : Effect).write 8 1).writeCar .fuel 9).commit start = (after, .ok ()) ∧
      after.HoldsCar := by
  constructor
  · have taken : (Origin.text "\x7b\"slots\":[7,-1]\x7d").file? = some (ofSlots [7, -1]) := by
      decide +kernel
    obtain ⟨after, written⟩ : ∃ after, (ofSlots [7, -1]).write 0 5 = .ok after :=
      write_exists 5 (by decide)
    obtain ⟨size, holds, _⟩ := holdsCar_iff taken (.write .start written)
    refine ⟨_, after, taken, written, size, fun held => ?_⟩
    obtain ⟨count, listed, enough⟩ := holds.mp held
    have two : slotsListed? "\x7b\"slots\":[7,-1]\x7d" = some 2 := by decide +kernel
    rw [two] at listed
    cases listed
    exact absurd enough (by decide)
  · have made : (Origin.ofSize 27).file? = some (.zeroed 27) := rfl
    obtain ⟨after, done⟩ : ∃ after,
        ((({} : Effect).write 8 1).writeCar .fuel 9).commit (.zeroed 27) = (after, .ok ()) :=
      ⟨_, Prod.ext rfl (Effect.commitWrites_completes (by decide))⟩
    obtain ⟨_, holds, _⟩ := holdsCar_iff made (.commit .start done)
    exact ⟨_, after, made, done, holds.mpr trivial⟩

end CarMachine.Registers
