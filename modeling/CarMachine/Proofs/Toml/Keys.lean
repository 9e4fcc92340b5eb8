import CarMachine.Toml.Document
import Mathlib.Data.List.Nodup

namespace CarMachine.Toml

/-! Keys of tables.

A document that can be read gives a value to a key only once, in each of its tables.  Tables
grow by one key at a time, and each step of the reader keeps all that are open as they should
be.
-/

/-- Neither a table nor one inside it holds a key twice. -/
inductive Value.Keyed : Value → Prop where
  | text (text : String) : Keyed (.text text)
  | integer (number : Int) : Keyed (.integer number)
  | emptyList : Keyed .emptyList
  | table {origin : Origin} {entries : List (String × Value)}
      (distinct : (entries.map (·.1)).Nodup) (each : ∀ entry ∈ entries, Keyed entry.2) :
      Keyed (.table origin entries)

namespace Entries

structure Keyed (entries : Entries) : Prop where
  distinct : (entries.map (·.1)).Nodup
  each : ∀ entry ∈ entries, entry.2.Keyed

variable {entries nested after : Entries} {key : String} {keys : List String} {value : Value}
  {origin : Origin}

theorem keyed_empty : Keyed [] :=
  ⟨List.nodup_nil, List.forall_mem_nil _⟩

theorem keyed_table_iff : (Value.table origin entries).Keyed ↔ entries.Keyed := by
  constructor
  · intro keyed
    cases keyed with
    | table distinct each => exact ⟨distinct, each⟩
  · intro keyed
    exact .table keyed.distinct keyed.each

theorem mem_of_get? (found : entries.get? key = some value) : (key, value) ∈ entries := by
  obtain ⟨⟨name, held⟩, first, rfl⟩ := Option.map_eq_some_iff.mp found
  have same : name = key := by simpa using List.find?_some first
  exact same ▸ List.mem_of_find?_eq_some first

theorem Keyed.table (keyed : entries.Keyed)
    (found : entries.get? key = some (.table origin nested)) : nested.Keyed :=
  keyed_table_iff.mp (keyed.each _ (mem_of_get? found))

theorem Keyed.push (keyed : entries.Keyed) (fresh : entries.get? key = none)
    (valued : value.Keyed) : Keyed (entries ++ [(key, value)]) := by
  have absent : key ∉ entries.map (·.1) := by
    intro member
    obtain ⟨entry, listed, same⟩ := List.mem_map.mp member
    have other := List.find?_eq_none.mp (Option.map_eq_none_iff.mp fresh) entry listed
    exact other (beq_iff_eq.mpr same)
  refine ⟨?_, List.forall_mem_append.mpr ⟨keyed.each, List.forall_mem_singleton.mpr valued⟩⟩
  rw [List.map_append, List.map_singleton, List.nodup_append]
  refine ⟨keyed.distinct, List.nodup_singleton key, fun name member other last same => ?_⟩
  rw [List.mem_singleton] at last
  rw [same, last] at member
  exact absent member

theorem Keyed.replace (keyed : entries.Keyed) (key : String) (valued : value.Keyed) :
    (entries.replace key value).Keyed := by
  have name : ∀ entry : String × Value,
      (if entry.1 == key then (key, value) else entry).1 = entry.1 := by
    intro entry
    split
    · rename_i here
      exact (beq_iff_eq.mp here).symm
    · rfl
  constructor
  · have names : (entries.replace key value).map (·.1) = entries.map (·.1) :=
      List.map_map.trans (List.map_congr_left fun entry _ => name entry)
    exact names ▸ keyed.distinct
  · intro entry member
    obtain ⟨old, listed, rfl⟩ := List.mem_map.mp member
    split
    · exact valued
    · exact keyed.each old listed

theorem Keyed.define? (keyed : entries.Keyed) (valued : value.Keyed)
    (defined : entries.define? value keys = some after) : after.Keyed := by
  fun_induction Entries.define? value keys entries generalizing after with
  | case2 key entries fresh =>
      cases defined
      exact keyed.push fresh valued
  | case4 key rest entries _ fresh ih =>
      obtain ⟨nested, made, rfl⟩ := Option.map_eq_some_iff.mp defined
      exact keyed.push fresh (keyed_table_iff.mpr (ih keyed_empty made))
  | case5 key rest entries _ origin nested found _ ih =>
      obtain ⟨grown, made, rfl⟩ := Option.map_eq_some_iff.mp defined
      exact keyed.replace key (keyed_table_iff.mpr (ih (keyed.table found) made))
  | case1 | case3 | case6 | case7 => contradiction

theorem Keyed.openTable? (keyed : entries.Keyed) (opened : entries.openTable? keys = some after) :
    after.Keyed := by
  fun_induction Entries.openTable? keys entries generalizing after with
  | case2 key entries fresh =>
      cases opened
      exact keyed.push fresh (keyed_table_iff.mpr keyed_empty)
  | case3 key entries nested found =>
      cases opened
      exact keyed.replace key (keyed_table_iff.mpr (keyed.table found))
  | case5 key rest entries _ fresh ih =>
      obtain ⟨nested, made, rfl⟩ := Option.map_eq_some_iff.mp opened
      exact keyed.push fresh (keyed_table_iff.mpr (ih keyed_empty made))
  | case7 key rest entries _ origin nested _ found ih =>
      obtain ⟨grown, made, rfl⟩ := Option.map_eq_some_iff.mp opened
      exact keyed.replace key (keyed_table_iff.mpr (ih (keyed.table found) made))
  | case1 | case4 | case6 | case8 => contradiction

theorem Keyed.change? {change : Entries → Option Entries}
    (kept : ∀ entries after, entries.Keyed → change entries = some after → after.Keyed)
    (keyed : entries.Keyed) (changed : entries.change? change keys = some after) :
    after.Keyed := by
  fun_induction Entries.change? change keys entries generalizing after with
  | case1 entries => exact kept entries after keyed changed
  | case2 key rest entries origin nested found ih =>
      obtain ⟨grown, made, rfl⟩ := Option.map_eq_some_iff.mp changed
      exact keyed.replace key (keyed_table_iff.mpr (ih (keyed.table found) made))
  | case3 => contradiction

end Entries

namespace Reading

/-- The document so far and the tables in braces that are still open. -/
structure Keyed (reading : Reading) : Prop where
  root : reading.root.Keyed
  frames : ∀ frame ∈ reading.frames, frame.entries.Keyed

variable {reading next : Reading} {key name : List String} {value : Value} {token : Token}
  {place : Place} {tokens : List Token} {entries : Entries}

theorem Keyed.goto (keyed : reading.Keyed) (gone : reading.goto place = some next) :
    next.Keyed := by
  cases gone
  exact ⟨keyed.root, keyed.frames⟩

theorem Keyed.define? (keyed : reading.Keyed) (valued : value.Keyed)
    (defined : reading.define? key value = some next) : next.Keyed := by
  rw [Reading.define?] at defined
  split at defined
  · rename_i closed
    obtain ⟨root, made, same⟩ := Option.bind_eq_some_iff.mp defined
    cases same
    refine ⟨keyed.root.change? (fun _ _ table => table.define? valued) made, ?_⟩
    rw [closed]
    exact List.forall_mem_nil _
  · rename_i frame frames opened
    obtain ⟨entries, made, same⟩ := Option.bind_eq_some_iff.mp defined
    cases same
    have inside := keyed.frames
    rw [opened, List.forall_mem_cons] at inside
    exact ⟨keyed.root, List.forall_mem_cons.mpr ⟨inside.1.define? valued made, inside.2⟩⟩

theorem Keyed.closeTable? (keyed : reading.Keyed) (closed : reading.closeTable? = some next) :
    next.Keyed := by
  rw [Reading.closeTable?] at closed
  split at closed
  · contradiction
  · rename_i frame frames opened
    have inside := keyed.frames
    rw [opened, List.forall_mem_cons] at inside
    have outer : Keyed { reading with frames } := ⟨keyed.root, inside.2⟩
    exact outer.define? (Entries.keyed_table_iff.mpr inside.1) closed

theorem Keyed.openTable? (keyed : reading.Keyed) (opened : reading.openTable? name = some next) :
    next.Keyed := by
  obtain ⟨root, made, same⟩ := Option.bind_eq_some_iff.mp opened
  cases same
  exact ⟨keyed.root.openTable? made, keyed.frames⟩

theorem keyed_scalar (read : scalar? token = some value) : value.Keyed := by
  rw [scalar?.eq_def] at read
  split at read
  · obtain ⟨number, _, rfl⟩ := Option.map_eq_some_iff.mp read
    exact .integer number
  · cases read
    exact .text _
  · contradiction

theorem Keyed.step? (keyed : reading.Keyed) (stepped : reading.step? token = some next) :
    next.Keyed := by
  unfold Reading.step? at stepped
  split at stepped
  -- a part of a key
  case h_3 | h_4 | h_8 =>
    obtain ⟨part, _, gone⟩ := Option.bind_eq_some_iff.mp stepped
    exact keyed.goto gone
  -- the end of a header
  case h_6 => exact keyed.openTable? stepped
  -- the end and the start of a table in braces
  case h_7 | h_17 => exact keyed.closeTable? stepped
  case h_12 =>
    cases stepped
    exact ⟨keyed.root, List.forall_mem_cons.mpr ⟨Entries.keyed_empty, keyed.frames⟩⟩
  -- a value that is no table
  case h_13 =>
    obtain ⟨value, read, defined⟩ := Option.bind_eq_some_iff.mp stepped
    exact keyed.define? (keyed_scalar read) defined
  case h_15 => exact keyed.define? .emptyList stepped
  case h_19 => contradiction
  all_goals exact keyed.goto stepped

theorem Keyed.readFrom? (keyed : reading.Keyed) (read : reading.readFrom? tokens = some entries) :
    entries.Keyed := by
  induction tokens generalizing reading with
  | nil =>
      rw [Reading.readFrom?, finish?] at read
      split at read
      · cases read
        exact keyed.root
      · cases read
        exact keyed.root
      · contradiction
  | cons token rest ih =>
      rw [Reading.readFrom?] at read
      cases stepped : reading.step? token with
      | none => simp [stepped] at read
      | some next =>
          rw [stepped] at read
          exact ih (keyed.step? stepped) read

end Reading

/-- In a document that was read no table holds a key twice. -/
theorem keyed_of_read? {text : String} {entries : Entries} (read : read? text = some entries) :
    entries.Keyed := by
  obtain ⟨tokens, _, read⟩ := Option.bind_eq_some_iff.mp read
  have start : Reading.Keyed {} := ⟨Entries.keyed_empty, List.forall_mem_nil _⟩
  exact start.readFrom? read

end CarMachine.Toml
