import CarMachine.Proofs.Toml.Keys
import CarMachine.Settings
import Mathlib.Data.String.Basic
import Mathlib.Tactic.SplitIfs

namespace CarMachine

/-! The order of the initial values in settings, which is the order of the bytes of their names.

The order of texts compares them character by character.  It is the order of their bytes, since
of two characters the greater one has the greater bytes.
-/

namespace Text

/-- The bytes of a text in UTF-8. -/
def bytesOf (text : String) : List UInt8 :=
  text.toUTF8.data.toList

variable {first second : Char} {left right : List Char}

theorem bytesOf_eq (text : String) : bytesOf text = text.toList.flatMap String.utf8EncodeChar := by
  rw [bytesOf, String.toUTF8_eq_toByteArray]
  conv => lhs; rw [← String.ofList_toList (s := text)]
  rw [String.toByteArray_ofList, List.utf8Encode, List.toList_data_toByteArray]

theorem toNat_lt (char : Char) : char.val.toNat < 0x110000 := by
  rcases char.valid with low | ⟨_, high⟩
  · exact Nat.lt_trans low (by decide)
  · exact high

/-- The first byte in which two characters differ decides, whatever follows. -/
theorem encode_lt (below : first < second) (rest others : List UInt8) :
    String.utf8EncodeChar first ++ rest < String.utf8EncodeChar second ++ others := by
  have less : first.val.toNat < second.val.toNat := below
  have bound := toNat_lt second
  -- characters of equal length differ in a digit of base 64, others in their first byte
  simp only [String.utf8EncodeChar]
  split_ifs <;>
    simp (disch := omega) only [List.cons_append, List.nil_append, List.cons_lt_cons_iff,
      UInt8.lt_iff_toNat_lt, ← UInt8.toNat_inj, UInt8.toNat_ofNat', Nat.mod_eq_of_lt] <;>
    omega

theorem flatMap_encode_lt (less : left < right) :
    left.flatMap String.utf8EncodeChar < right.flatMap String.utf8EncodeChar := by
  induction left generalizing right with
  | nil =>
      cases right with
      | nil => exact absurd less (List.not_lt_nil _)
      | cons other right =>
          obtain ⟨byte, rest, encoded⟩ :=
            List.exists_cons_of_ne_nil (@String.utf8EncodeChar_ne_nil other)
          rw [List.flatMap_cons, encoded]
          exact List.nil_lt_cons _ _
  | cons char left ih =>
      cases right with
      | nil => exact absurd less (List.not_lt_nil _)
      | cons other right =>
          rw [List.flatMap_cons, List.flatMap_cons]
          rcases List.cons_lt_cons_iff.mp less with below | ⟨rfl, later⟩
          · exact encode_lt below _ _
          · exact List.append_left_lt (ih later)

theorem bytesOf_lt {first second : String} (less : first < second) :
    bytesOf first < bytesOf second := by
  rw [bytesOf_eq, bytesOf_eq]
  exact flatMap_encode_lt (String.lt_iff.mp less)

theorem bytesOf_lt_iff {first second : String} :
    bytesOf first < bytesOf second ↔ first < second := by
  refine ⟨fun less => ?_, bytesOf_lt⟩
  rcases lt_trichotomy first second with below | rfl | above
  · exact below
  · exact absurd less (List.lt_irrefl _)
  · exact absurd less (List.lt_asymm (bytesOf_lt above))

end Text

namespace Settings

/-- The names stand in the order of their bytes, and none of them twice. -/
def Ordered (settings : Settings) : Prop :=
  settings.registers.Pairwise fun first second => Text.bytesOf first.1 < Text.bytesOf second.1

variable {settings next : Settings} {entries : Toml.Entries} {entry : String × Toml.Value}
  {named : List (String × Int32)} {value : Toml.Value}

theorem names_of_namedValues? (read : namedValues? entries = some named) :
    named.map (·.1) = entries.map (·.1) := by
  induction entries generalizing named with
  | nil =>
      cases read
      rfl
  | cons entry rest ih =>
      obtain ⟨number, _, others⟩ := Option.bind_eq_some_iff.mp read
      obtain ⟨later, found, same⟩ := Option.bind_eq_some_iff.mp others
      cases same
      rw [List.map_cons, List.map_cons, ih found]

theorem ordered_of_registersOf? (keyed : value.Keyed) (read : registersOf? value = some named) :
    named.Pairwise fun first second => Text.bytesOf first.1 < Text.bytesOf second.1 := by
  rw [registersOf?.eq_def] at read
  split at read
  · rename_i origin entries
    obtain ⟨given, found, rfl⟩ := Option.map_eq_some_iff.mp read
    have names : (given.map (·.1)).Nodup := by
      rw [names_of_namedValues? found]
      exact (Toml.Entries.keyed_table_iff.mp keyed).distinct
    have distinct := ((List.mergeSort_perm given
      fun first second => decide (first.1 ≤ second.1)).map (·.1)).nodup_iff.mpr names
    have sorted : (given.mergeSort fun first second => decide (first.1 ≤ second.1)).Pairwise
        fun first second => decide (first.1 ≤ second.1) = true :=
      List.pairwise_mergeSort
        (fun _ _ _ before after => by
          simpa using le_trans (of_decide_eq_true before) (of_decide_eq_true after))
        (fun first second => by simpa using le_total first.1 second.1) given
    rw [List.Nodup, List.pairwise_map] at distinct
    refine (sorted.and distinct).imp fun both => Text.bytesOf_lt_iff.mpr ?_
    exact lt_of_le_of_ne (of_decide_eq_true both.1) both.2
  · contradiction

theorem Ordered.withEntry? (ordered : settings.Ordered) (keyed : entry.2.Keyed)
    (taken : settings.withEntry? entry = some next) : next.Ordered := by
  rw [Settings.withEntry?.eq_def] at taken
  split at taken
  case h_1 | h_2 =>
    obtain ⟨_, _, same⟩ := Option.bind_eq_some_iff.mp taken
    cases same
    exact ordered
  case h_3 =>
    obtain ⟨named, read, same⟩ := Option.bind_eq_some_iff.mp taken
    cases same
    exact ordered_of_registersOf? keyed read
  case h_4 => contradiction

theorem Ordered.foldlM (ordered : settings.Ordered) (keyed : ∀ entry ∈ entries, entry.2.Keyed)
    (taken : entries.foldlM Settings.withEntry? settings = some next) : next.Ordered := by
  induction entries generalizing settings with
  | nil =>
      cases taken
      exact ordered
  | cons entry rest ih =>
      obtain ⟨here, later⟩ := List.forall_mem_cons.mp keyed
      rw [List.foldlM_cons] at taken
      obtain ⟨middle, first, others⟩ := Option.bind_eq_some_iff.mp taken
      exact ih (ordered.withEntry? here first) later others

theorem ordered_empty : Ordered {} :=
  .nil

theorem ordered_of_parse? {text : String} (read : parse? text = some settings) :
    settings.Ordered := by
  obtain ⟨entries, found, taken⟩ := Option.bind_eq_some_iff.mp read
  exact ordered_empty.foldlM (Toml.keyed_of_read? found).each taken

end Settings

end CarMachine
