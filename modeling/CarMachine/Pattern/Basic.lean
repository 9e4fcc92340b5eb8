import CarMachine.Text.Shown
import CarMachine.Word

namespace CarMachine

/-! Bit patterns: the literal bits that a word must have and the fields that may vary.

A pattern stands for the set of words that carry its literal bits.  The comparisons
below decide questions about these sets from the masks alone; they rest on
`bits_within_mask`, without which a pattern could match no word at all.

A written pattern is 32 symbols, most significant bit first, with white space and
underscores anywhere between them.  `0` and `1` are literal bits, and a run of one
letter is a field.  `Pattern.parse` reads such a text and `Pattern.render` writes the 32
symbols.  Reading looks at the symbols; writing looks only at the masks and fields of the
pattern.
-/

structure Pattern where
  /-- The positions whose bits are literal. -/
  mask : Word
  bits : Word
  /-- The variable fields in source, target, destination order. -/
  fields : List BitField
  bits_within_mask : bits &&& mask = bits
deriving Repr, DecidableEq

namespace Pattern

def literalCount (pattern : Pattern) : Nat :=
  pattern.mask.bitCount

def field? (pattern : Pattern) (role : FieldRole) : Option BitField :=
  pattern.fields.find? fun field => field.role == role

/-- The roles of the fields present, in listing order. -/
def roles (pattern : Pattern) : List FieldRole :=
  pattern.fields.map (·.role)

def Matches (pattern : Pattern) (word : Word) : Prop :=
  word &&& pattern.mask = pattern.bits

instance (pattern : Pattern) (word : Word) : Decidable (pattern.Matches word) :=
  inferInstanceAs (Decidable (word &&& pattern.mask = pattern.bits))

/-- Whether some word matches both patterns: they agree wherever both are literal. -/
def overlaps (first second : Pattern) : Bool :=
  (first.bits ^^^ second.bits) &&& first.mask &&& second.mask == 0

/-- Whether every word of the second pattern matches the first. -/
def contains (wide narrow : Pattern) : Bool :=
  narrow.mask &&& wide.mask == wide.mask && narrow.bits &&& wide.mask == wide.bits

/-- Whether both patterns match the same words, whatever their fields are called. -/
def equivalent (first second : Pattern) : Bool :=
  first.mask == second.mask && first.bits == second.bits

/-- Whether the first pattern matches every word of the second and more. -/
def strictlyContains (wide narrow : Pattern) : Bool :=
  wide.contains narrow && !wide.equivalent narrow

def compatible (first second : Pattern) : Bool :=
  !first.overlaps second || first.strictlyContains second || second.strictlyContains first

/-- The literal bits themselves make a word of the pattern. -/
theorem matches_bits (pattern : Pattern) : pattern.Matches pattern.bits :=
  pattern.bits_within_mask

end Pattern

/-! ## Written patterns -/

inductive Pattern.Error where
  | wrongLength (bits : Nat)
  | notASymbol (char : Char) (position : Nat)
  | splitField (role : FieldRole)
  | badWidth (role : FieldRole) (width : Nat)
  | misplacedImmediate (role : FieldRole)
deriving Repr, DecidableEq

namespace Pattern.Error

def message : Pattern.Error → String
  | .wrongLength bits =>
      "pattern describes " ++ Text.decimal bits ++ " bits, expected 32"
  | .notASymbol char position =>
      "invalid pattern character " ++ Text.quotedChar char ++ " at bit "
        ++ Text.decimal position
  | .splitField role =>
      "field `" ++ role.letter.toString ++ "` is not contiguous"
  | .badWidth role width =>
      "field `" ++ role.letter.toString ++ "` is " ++ Text.decimal width ++ " bits wide"
  | .misplacedImmediate role =>
      "only the target field may be an immediate, found a 16-bit `"
        ++ role.letter.toString ++ "` field"

end Pattern.Error

inductive Symbol where
  | literal (value : Bool)
  | field (role : FieldRole)
deriving Repr, DecidableEq

namespace Symbol

def ofChar? : Char → Option Symbol
  | '0' => some (.literal false)
  | '1' => some (.literal true)
  | char => (FieldRole.ofLetter? char).map .field

def toChar : Symbol → Char
  | .literal false => '0'
  | .literal true => '1'
  | .field role => role.letter

def isLiteral : Symbol → Bool
  | .literal _ => true
  | .field _ => false

def isOne : Symbol → Bool
  | .literal value => value
  | .field _ => false

theorem isLiteral_of_isOne {symbol : Symbol} (one : symbol.isOne = true) :
    symbol.isLiteral = true := by
  cases symbol with
  | literal value => rfl
  | field role => contradiction

theorem ofChar?_toChar (symbol : Symbol) : ofChar? symbol.toChar = some symbol := by
  rcases symbol with (_ | _) | (_ | _ | _) <;> rfl

/-- The field whose run had already ended when this symbol came, given the symbols in
front of it with the nearest one first. -/
def reopens? (earlier : List Symbol) : Symbol → Option FieldRole
  | .literal _ => none
  | .field role =>
      if earlier.contains (.field role) && earlier.head? != some (.field role) then some role
      else none

/-- Reads the characters after some symbols already read, nearest first.  The first
character that is no symbol or reopens a field is refused. -/
def readAfter (earlier : List Symbol) : List Char → Except Pattern.Error (List Symbol)
  | [] => .ok earlier.reverse
  | char :: rest =>
      match ofChar? char with
      | none => .error (.notASymbol char earlier.length)
      | some symbol =>
          match symbol.reopens? earlier with
          | some role => .error (.splitField role)
          | none => readAfter (symbol :: earlier) rest

/-- The word whose set bits are the positions of the symbols that pass a test. -/
def marked (test : Symbol → Bool) : List Symbol → Word
  | [] => 0
  | symbol :: rest =>
      (if test symbol then (1 : Word) <<< rest.length else 0) ||| marked test rest

/-- A stricter test marks no further position. -/
theorem marked_and_marked {strict loose : Symbol → Bool}
    (implied : ∀ {symbol}, strict symbol = true → loose symbol = true)
    (symbols : List Symbol) :
    marked strict symbols &&& marked loose symbols = marked strict symbols := by
  induction symbols with
  | nil => simp [marked]
  | cons symbol rest ih =>
      apply BitVec.eq_of_getLsbD_eq
      intro index _
      have here := congrArg (BitVec.getLsbD · index) ih
      simp only [BitVec.getLsbD_and, Bool.and_eq_left_iff_imp] at here
      simp only [marked, BitVec.getLsbD_and, BitVec.getLsbD_or, Bool.and_eq_left_iff_imp,
        Bool.or_eq_true]
      intro either
      rcases either with first | later
      · cases passes : strict symbol with
        | true => exact .inl (by simpa only [passes, implied passes, if_true] using first)
        | false => simp [passes] at first
      · exact .inr (here later)

/-- The field of one role that the symbols show, if they show any.  A field is as wide
as a register number, or as wide as an immediate if it is the target; its shift is the
number of symbols after its last one. -/
def fieldOf? (symbols : List Symbol) (role : FieldRole) :
    Except Pattern.Error (Option BitField) :=
  let width := symbols.count (.field role)
  if width = 0 then .ok none
  else if width ≠ BitField.registerWidth ∧ width ≠ BitField.immediateWidth then
    .error (.badWidth role width)
  else if width = BitField.immediateWidth ∧ role ≠ .target then
    .error (.misplacedImmediate role)
  else
    let shift := (symbols.reverse.takeWhile (· != .field role)).length
    .ok (some { role, shift, width })

end Symbol

namespace Pattern

/-- What is left of a written pattern without white space and underscores. -/
def significant (text : String) : List Char :=
  text.toList.filter fun char => !Text.isBlank char && char != '_'

/-- The pattern that the symbols show.  Of several unfit fields the first in listing
order is reported. -/
def ofSymbols (symbols : List Symbol) : Except Pattern.Error Pattern := do
  let source ← Symbol.fieldOf? symbols .source
  let target ← Symbol.fieldOf? symbols .target
  let destination ← Symbol.fieldOf? symbols .destination
  return {
    mask := Symbol.marked Symbol.isLiteral symbols
    bits := Symbol.marked Symbol.isOne symbols
    fields := source.toList ++ target.toList ++ destination.toList
    bits_within_mask := Symbol.marked_and_marked Symbol.isLiteral_of_isOne symbols }

/-- Reads a written pattern.  The number of symbols is looked at first, then the symbols
from left to right, and last the widths of the fields. -/
def parse (text : String) : Except Pattern.Error Pattern :=
  let chars := significant text
  if chars.length = 32 then (Symbol.readAfter [] chars).bind ofSymbols
  else .error (.wrongLength chars.length)

/-- The character that shows one bit of the pattern; a bit that is neither literal nor
in a field shows as `?`. -/
def symbolAt (pattern : Pattern) (bit : Nat) : Char :=
  if pattern.mask.getLsbD bit then
    if pattern.bits.getLsbD bit then '1' else '0'
  else
    match pattern.fields.find? fun field => field.mask.getLsbD bit with
    | some field => field.role.letter
    | none => '?'

def render (pattern : Pattern) : String :=
  String.ofList ((List.range 32).reverse.map pattern.symbolAt)

end Pattern

end CarMachine
