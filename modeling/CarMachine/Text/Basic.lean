namespace CarMachine.Text

/-! Texts as lists of characters: white space, columns and lines, and numbers.

White space is what the Unicode property White_Space has.  The readers of this library
trim it from both ends of a text or drop it everywhere.  The zero-width characters are
not white space.

Digits of a number above nine are the letters from `a`; they are written in lower case and
read in either case.
-/

/-- The ranges of the property White_Space, both ends included. -/
def blankRanges : List (Nat × Nat) :=
  [(0x9, 0xd), (0x20, 0x20), (0x85, 0x85), (0xa0, 0xa0), (0x1680, 0x1680),
    (0x2000, 0x200a), (0x2028, 0x2029), (0x202f, 0x202f), (0x205f, 0x205f),
    (0x3000, 0x3000)]

def isBlank (char : Char) : Bool :=
  blankRanges.any fun (first, last) => first ≤ char.toNat && char.toNat ≤ last

def trimmed (chars : List Char) : List Char :=
  ((chars.dropWhile isBlank).reverse.dropWhile isBlank).reverse

def trim (text : String) : String :=
  String.ofList (trimmed text.toList)

/-! ## Columns and lines -/

def padRight (width : Nat) (text : String) : String :=
  text ++ String.ofList (List.replicate (width - text.length) ' ')

def padLeft (fill : Char) (width : Nat) (text : String) : String :=
  String.ofList (List.replicate (width - text.length) fill) ++ text

/-- Cuts a text at each newline; the newlines belong to no line. -/
def linesOf : List Char → List (List Char)
  | [] => [[]]
  | char :: rest =>
      if char = '\n' then [] :: linesOf rest
      else
        match linesOf rest with
        | [] => [[char]]
        | line :: lines => (char :: line) :: lines

theorem linesOf_ne_nil (chars : List Char) : linesOf chars ≠ [] := by
  cases chars with
  | nil => simp [linesOf]
  | cons char rest =>
      simp only [linesOf]
      split
      · simp
      · split <;> simp

/-! ## Numbers written in a base -/

/-- The value of a digit of the base, and nothing for any other character. -/
def digitValue? (base : Nat) (char : Char) : Option Nat :=
  let value? :=
    if '0' ≤ char ∧ char ≤ '9' then some (char.toNat - '0'.toNat)
    else if 'a' ≤ char ∧ char ≤ 'z' then some (char.toNat - 'a'.toNat + 10)
    else if 'A' ≤ char ∧ char ≤ 'Z' then some (char.toNat - 'A'.toNat + 10)
    else none
  value?.filter (· < base)

/-- Reads the digits after a number already read. -/
def digitsAfter? (base value : Nat) : List Char → Option Nat
  | [] => some value
  | char :: rest =>
      match digitValue? base char with
      | some digit => digitsAfter? base (value * base + digit) rest
      | none => none

/-- The number that the digits denote; there has to be at least one. -/
def digitsValue? (base : Nat) (chars : List Char) : Option Nat :=
  if chars.isEmpty then none else digitsAfter? base 0 chars

def withoutPlus : List Char → List Char
  | '+' :: rest => rest
  | chars => chars

/-- An optional plus sign and digits. -/
def unsigned? (base : Nat) (chars : List Char) : Option Nat :=
  digitsValue? base (withoutPlus chars)

/-- An optional sign and decimal digits. -/
def signed? : List Char → Option Int
  | '-' :: rest => (digitsValue? 10 rest).map fun value => -(value : Int)
  | chars => (unsigned? 10 chars).map Int.ofNat

/-- Drops the mark `0x` or `0X` in front of hexadecimal digits. -/
def withoutHexMark? : List Char → Option (List Char)
  | '0' :: 'x' :: rest => some rest
  | '0' :: 'X' :: rest => some rest
  | _ => none

def decimal (value : Nat) : String :=
  String.ofList (Nat.toDigits 10 value)

def decimalInt : Int → String
  | .ofNat value => decimal value
  | .negSucc value => "-" ++ decimal (value + 1)

def hex (value : Nat) : String :=
  String.ofList (Nat.toDigits 16 value)

end CarMachine.Text
