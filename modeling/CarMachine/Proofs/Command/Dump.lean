import CarMachine.Command
import CarMachine.Proofs.Registers.Occupied
import CarMachine.Proofs.Registers.Spelling
import CarMachine.Proofs.Text.Lines

namespace CarMachine.RunCommand

/-! The dump of a register file.

Each slot that is not zero has a line.  Its words say which slot it is and what it holds, so
the dump leaves nothing open but the size of the file.
-/

/-- The alias of a slot, if it is that of a car register. -/
def aliases (slot : Nat) : List String :=
  ((CarRegister.ofSlot? slot).map (·.name)).toList

/-- The words of the line for a slot. -/
def dumpWords (cell : Nat × Int32) : List String :=
  RegisterName.display cell.1 :: aliases cell.1 ++ [Text.decimalInt cell.2.toInt]

variable {index : Nat} {value : Int32}

theorem wordsOf_display :
    Text.wordsOf (RegisterName.display index) = [RegisterName.display index] := by
  refine Text.wordsOf_of_plain ?_ (RegisterName.display_plain index)
  rw [RegisterName.toList_display]
  exact List.cons_ne_nil _ _

theorem wordsOf_decimalInt (number : Int) :
    Text.wordsOf (Text.decimalInt number) = [Text.decimalInt number] :=
  Text.wordsOf_of_plain (Text.toList_decimalInt_ne_nil number)
    (Text.writesInt_decimalInt number).isBlank_eq_false

theorem wordsOf_alias : Text.wordsOf (((CarRegister.ofSlot? index).map (·.name)).getD "") =
    aliases index := by
  rw [aliases]
  cases CarRegister.ofSlot? index with
  | none => decide
  | some register => cases register <;> decide

theorem dumpLine_eq (index : Nat) (value : Int32) : dumpLine index value =
    Text.padRight 6 (RegisterName.display index) ++ String.singleton ' ' ++
      (Text.padRight 7 (((CarRegister.ofSlot? index).map (·.name)).getD "") ++
        String.singleton ' ' ++
        (Text.decimalInt value.toInt ++ String.singleton '\n' ++ "")) := by
  simp only [dumpLine, String.append_assoc, String.append_empty]
  rfl

theorem wordsOf_dumpLine (index : Nat) (value : Int32) :
    Text.wordsOf (dumpLine index value) = dumpWords (index, value) := by
  have space : Text.isBlank ' ' = true := by decide
  have newline : Text.isBlank '\n' = true := by decide
  have nothing : Text.wordsOf "" = [] := by decide
  rw [dumpLine_eq, Text.wordsOf_append space, Text.wordsOf_append space,
    Text.wordsOf_append newline, Text.wordsOf_padRight, Text.wordsOf_padRight, wordsOf_display,
    wordsOf_alias, wordsOf_decimalInt, nothing, List.append_nil]
  rfl

theorem newline_not_mem_of_plain {chars : List Char}
    (plain : ∀ char ∈ chars, Text.isBlank char = false) : '\n' ∉ chars :=
  fun member => absurd (plain '\n' member) (by decide)

theorem isLine_dumpLine (index : Nat) (value : Int32) : Text.IsLine (dumpLine index value) := by
  have name := newline_not_mem_of_plain (RegisterName.display_plain index)
  have number := newline_not_mem_of_plain
    (Text.writesInt_decimalInt value.toInt).isBlank_eq_false
  have nickname : '\n' ∉ (((CarRegister.ofSlot? index).map (·.name)).getD "").toList := by
    cases CarRegister.ofSlot? index with
    | none => decide
    | some register => cases register <;> decide
  have padded : ∀ width text, '\n' ∉ text.toList → '\n' ∉ (Text.padRight width text).toList := by
    intro width text absent member
    rcases Text.mem_padRight member with inside | space
    · exact absent inside
    · exact absurd space (by decide)
  rw [Text.isLine_iff, dumpLine]
  refine ⟨_, String.toList_append, ?_⟩
  simp only [String.toList_append, List.mem_append, not_or]
  exact ⟨⟨⟨⟨padded _ _ name, by decide⟩, padded _ _ nickname⟩, by decide⟩, number⟩

theorem decimalInt_injective : Function.Injective Text.decimalInt := by
  intro first second same
  have read := Text.signed?_decimalInt first
  rw [same, Text.signed?_decimalInt] at read
  exact (Option.some.inj read).symm

theorem dumpWords_injective : Function.Injective dumpWords := by
  rintro ⟨slot, value⟩ ⟨other, number⟩ same
  obtain ⟨names, later⟩ := List.cons.inj same
  have slots : slot = other := RegisterName.display_injective names
  subst slots
  have shown := List.singleton_inj.mp (List.append_inj_right later rfl)
  have values : value = number := Int32.toInt_inj.mp (decimalInt_injective shown)
  rw [values]

theorem piecesOf_dump (registers : Registers) : Text.piecesOf (dump registers) =
    registers.occupied.map fun (slot, value) => dumpLine slot value := by
  rw [dump, registers.cells_eq_occupied]
  refine Text.piecesOf_join fun line member => ?_
  obtain ⟨⟨slot, value⟩, _, rfl⟩ := List.mem_map.mp member
  exact isLine_dumpLine slot value

theorem words_of_dump (registers : Registers) :
    (Text.piecesOf (dump registers)).map Text.wordsOf = registers.occupied.map dumpWords := by
  rw [piecesOf_dump, List.map_map]
  exact List.map_congr_left fun (slot, value) _ => wordsOf_dumpLine slot value

theorem dump_injective {first second : Registers} (sizes : first.size = second.size)
    (same : dump first = dump second) : first = second := by
  have words := words_of_dump first
  rw [same, words_of_dump] at words
  have cells : second.occupied = first.occupied :=
    List.map_injective_iff.mpr dumpWords_injective words
  rw [← Registers.cells_eq_occupied, ← Registers.cells_eq_occupied] at cells
  refine Registers.ext sizes fun slot => ?_
  rw [Registers.read, Registers.read, cells, sizes]

/-- A dump has one line for each slot that is not zero, by increasing number.  Its words are the
shown name of the slot, the alias if the slot has one, and the value in decimal.  Files of one
size with the same dump are the same. -/
theorem dump_lossless :
    (∀ first second : Registers, first.size = second.size → dump first = dump second →
      first = second) ∧
    ∀ registers : Registers,
      (∀ line ∈ Text.piecesOf (dump registers), Text.IsLine line) ∧
      (Text.piecesOf (dump registers)).map Text.wordsOf =
        registers.occupied.map fun (slot, value) =>
          RegisterName.display slot :: aliases slot ++ [Text.decimalInt value.toInt] := by
  refine ⟨fun _ _ => dump_injective, fun registers => ⟨?_, words_of_dump registers⟩⟩
  rw [piecesOf_dump]
  exact List.forall_mem_map.mpr fun (slot, value) _ => isLine_dumpLine slot value

/-- A file so large that the name of its last slot is wider than its column. -/
def wide : Registers where
  size := 1000001
  cells := [(20, -1), (1000000, 7)]
  within := ⟨by decide, by decide, by decide, by decide, by decide, by decide, trivial⟩

/-- The same file, filled from its end. -/
def wideAgain : Registers where
  size := 1000001
  cells := Cells.store 20 (-1) (Cells.store 1000000 7 [])
  within := wide.within

theorem dump_lossless_wide : wide.size = wideAgain.size ∧ dump wide = dump wideAgain ∧
    wide = wideAgain ∧
    (Text.piecesOf (dump wide)).map Text.wordsOf = [["$s4", "speed", "-1"], ["$1000000", "7"]] := by
  have same : dump wide = dump wideAgain := by decide +kernel
  obtain ⟨_, words⟩ := dump_lossless.2 wide
  rw [← Registers.cells_eq_occupied] at words
  have evaluated : wide.cells.map dumpWords = [["$s4", "speed", "-1"], ["$1000000", "7"]] := by
    decide +kernel
  exact ⟨rfl, same, dump_lossless.1 wide wideAgain rfl same, words.trans evaluated⟩

end CarMachine.RunCommand
