import CarMachine.Json.Token

namespace CarMachine.Json

/-! JSON values, read from tokens by a machine that keeps the open arrays and objects on
a stack.  A number is kept as it is written.
-/

inductive Value where
  | null
  | bool (value : Bool)
  | number (chars : List Char)
  | string (units : List Nat)
  | array (items : List Value)
  | object (members : List (List Nat × Value))
deriving Repr

namespace Number

def isExponent : List Char → Bool
  | [] => true
  | mark :: rest =>
      let digits :=
        match rest with
        | '+' :: digits => digits
        | '-' :: digits => digits
        | digits => digits
      (mark == 'e' || mark == 'E') && !digits.isEmpty && digits.all Char.isDigit

def isFraction : List Char → Bool
  | '.' :: rest =>
      !(rest.takeWhile Char.isDigit).isEmpty && isExponent (rest.dropWhile Char.isDigit)
  | rest => isExponent rest

/-- Whole digits have no zero in front. -/
def isWhole : List Char → Bool
  | [] => false
  | [_] => true
  | first :: _ => first != '0'

/-- Whether the characters are a number: whole digits after an optional minus sign, a
fraction and an exponent. -/
def isWellFormed (chars : List Char) : Bool :=
  let digits :=
    match chars with
    | '-' :: rest => rest
    | rest => rest
  isWhole (digits.takeWhile Char.isDigit) && isFraction (digits.dropWhile Char.isDigit)

end Number

/-- An open array with its items, or an open object with its members and the key whose
value is read; the nearest item or member comes first. -/
inductive Frame where
  | array (items : List Value)
  | object (members : List (List Nat × Value)) (key : List Nat)
deriving Repr

/-- What the machine expects next. -/
inductive Place where
  /-- A value, or the end of an array that has just been opened. -/
  | atValue (mayClose : Bool)
  /-- A key, or the end of an object that has just been opened. -/
  | atKey (members : List (List Nat × Value)) (mayClose : Bool)
  | atColon (members : List (List Nat × Value)) (key : List Nat)
  /-- What may follow a value that is complete. -/
  | after (value : Value)
deriving Repr

namespace Place

def scalar? : Token → Option Value
  | .word ['n', 'u', 'l', 'l'] => some .null
  | .word ['t', 'r', 'u', 'e'] => some (.bool true)
  | .word ['f', 'a', 'l', 's', 'e'] => some (.bool false)
  | .number chars => if Number.isWellFormed chars then some (.number chars) else none
  | .string units => some (.string units)
  | _ => none

def step? : Place → List Frame → Token → Option (Place × List Frame)
  | .atValue _, frames, .openArray => some (.atValue true, .array [] :: frames)
  | .atValue _, frames, .openObject => some (.atKey [] true, frames)
  | .atValue true, .array items :: frames, .closeArray =>
      some (.after (.array items.reverse), frames)
  | .atValue _, frames, token => (scalar? token).map fun value => (.after value, frames)
  | .atKey members _, frames, .string key => some (.atColon members key, frames)
  | .atKey members true, frames, .closeObject =>
      some (.after (.object members.reverse), frames)
  | .atColon members key, frames, .colon => some (.atValue false, .object members key :: frames)
  | .after value, .array items :: frames, .comma =>
      some (.atValue false, .array (value :: items) :: frames)
  | .after value, .array items :: frames, .closeArray =>
      some (.after (.array (value :: items).reverse), frames)
  | .after value, .object members key :: frames, .comma =>
      some (.atKey ((key, value) :: members) false, frames)
  | .after value, .object members key :: frames, .closeObject =>
      some (.after (.object ((key, value) :: members).reverse), frames)
  | _, _, _ => none

def readFrom? (place : Place) (frames : List Frame) : List Token → Option Value
  | [] =>
      match place, frames with
      | .after value, [] => some value
      | _, _ => none
  | token :: rest =>
      match place.step? frames token with
      | some (next, frames) => readFrom? next frames rest
      | none => none

end Place

def read? (text : String) : Option Value :=
  (tokens? text).bind (Place.readFrom? (.atValue false) [])

namespace Value

/-- A whole number without a sign that is below a limit. -/
def natural? (limit : Nat) : Value → Option Nat
  | .number chars => (Text.digitsValue? 10 chars).filter (· < limit)
  | _ => none

/-- A whole number.  A zero with a minus sign is none. -/
def integer? : Value → Option Int
  | .number ('-' :: digits) =>
      match Text.digitsValue? 10 digits with
      | some 0 => none
      | some value => some (-(value : Int))
      | none => none
  | .number digits => (Text.digitsValue? 10 digits).map Int.ofNat
  | _ => none

def text? : Value → Option String
  | .string units => textOfUnits? units
  | _ => none

def bool? : Value → Option Bool
  | .bool value => some value
  | _ => none

def items? : Value → Option (List Value)
  | .array items => some items
  | _ => none

/-- The members with their keys as texts. -/
def members? : Value → Option (List (String × Value))
  | .object members =>
      members.mapM fun (key, value) => (textOfUnits? key).map fun key => (key, value)
  | _ => none

/-- The choice among names: a string, or an object whose only member has the name as its
key and nothing as its value. -/
def choice? (value : Value) : Option String :=
  match value, value.members? with
  | .string units, _ => textOfUnits? units
  | _, some [(name, .null)] => some name
  | _, _ => none

/-- The value of a field among members, or nothing if it is absent.  It may not come
twice. -/
def fieldOf? (members : List (String × Value)) (name : String) : Option (Option Value) :=
  match members.filter fun member => member.1 == name with
  | [] => some none
  | [(_, value)] => some (some value)
  | _ => none

/-- The fields of a record in the order of their names.  A record is an object, whose
other members do not count, or an array of its first fields. -/
def record? (names : List String) : Value → Option (List (Option Value))
  | .array items =>
      if items.length ≤ names.length then
        some (items.map some ++ List.replicate (names.length - items.length) none)
      else none
  | value => value.members?.bind fun members => names.mapM (fieldOf? members)

end Value

end CarMachine.Json
