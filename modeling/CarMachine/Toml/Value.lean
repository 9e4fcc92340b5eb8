import CarMachine.Text.Basic

namespace CarMachine.Toml

/-! TOML values and the rules under which keys build tables.

Only the values that a setting can have are kept: texts, integers, tables and, where a
table may be left empty, the empty list.  How a table came to be decides what may still
be added to it.
-/

inductive Origin where
  /-- Named by a header. -/
  | header
  /-- Implied by the header of a table inside it. -/
  | path
  /-- Implied by a dotted key. -/
  | dotted
  /-- Written out in braces. -/
  | inline
deriving Repr, DecidableEq

inductive Value where
  | text (text : String)
  | integer (number : Int)
  | emptyList
  | table (origin : Origin) (entries : List (String × Value))
deriving Repr

/-- The entries of a table in the order in which they came. -/
abbrev Entries := List (String × Value)

namespace Entries

def get? (entries : Entries) (key : String) : Option Value :=
  (entries.find? fun entry => entry.1 == key).map (·.2)

def replace (entries : Entries) (key : String) (value : Value) : Entries :=
  entries.map fun entry => if entry.1 == key then (key, value) else entry

/-- Gives a value to a key.  A key has a value only once.  The tables on the way of a
dotted key must not have been defined otherwise: they are new, or they were implied, the
last of them by a dotted key too. -/
def define? (value : Value) : List String → Entries → Option Entries
  | [], _ => none
  | [key], entries =>
      match entries.get? key with
      | none => some (entries ++ [(key, value)])
      | some _ => none
  | key :: rest, entries =>
      match entries.get? key with
      | none => (define? value rest []).map fun inner => entries ++ [(key, .table .dotted inner)]
      | some (.table origin inner) =>
          if origin = .dotted ∨ (origin = .path ∧ 1 < rest.length) then
            (define? value rest inner).map fun inner =>
              entries.replace key (.table origin inner)
          else none
      | some _ => none

/-- Opens the table that a header names.  It must be new or implied by the header of a
table inside it. -/
def openTable? : List String → Entries → Option Entries
  | [], _ => none
  | [key], entries =>
      match entries.get? key with
      | none => some (entries ++ [(key, .table .header [])])
      | some (.table .path inner) => some (entries.replace key (.table .header inner))
      | some _ => none
  | key :: rest, entries =>
      match entries.get? key with
      | none => (openTable? rest []).map fun inner => entries ++ [(key, .table .path inner)]
      | some (.table .inline _) => none
      | some (.table origin inner) =>
          (openTable? rest inner).map fun inner => entries.replace key (.table origin inner)
      | some _ => none

def change? (change : Entries → Option Entries) : List String → Entries → Option Entries
  | [], entries => change entries
  | key :: rest, entries =>
      match entries.get? key with
      | some (.table origin inner) =>
          (change? change rest inner).map fun inner =>
            entries.replace key (.table origin inner)
      | _ => none

end Entries

namespace Integer

/-- Digits with single underscores between them, without the underscores. -/
def ungrouped? (chars : List Char) : Option (List Char) :=
  let groups := chars.splitOn '_'
  if groups.any List.isEmpty then none else some groups.flatten

/-- Decimal digits without a zero in front. -/
def decimal? (chars : List Char) : Option Nat :=
  match ungrouped? chars with
  | some ['0'] => some 0
  | some ('0' :: _) => none
  | some digits => Text.digitsValue? 10 digits
  | none => none

def based? (base : Nat) (chars : List Char) : Option Nat :=
  (ungrouped? chars).bind (Text.digitsValue? base)

def number? : List Char → Option Int
  | '0' :: 'x' :: digits => (based? 16 digits).map Int.ofNat
  | '0' :: 'o' :: digits => (based? 8 digits).map Int.ofNat
  | '0' :: 'b' :: digits => (based? 2 digits).map Int.ofNat
  | '-' :: digits => (decimal? digits).map fun number => -(number : Int)
  | '+' :: digits => (decimal? digits).map Int.ofNat
  | digits => (decimal? digits).map Int.ofNat

/-- The number that a bare token denotes, if 64 bits hold it. -/
def read? (chars : List Char) : Option Int :=
  (number? chars).filter fun number =>
    -0x8000000000000000 ≤ number ∧ number < 0x8000000000000000

end Integer

end CarMachine.Toml
