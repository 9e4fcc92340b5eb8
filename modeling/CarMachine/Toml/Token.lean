import CarMachine.Text.Basic

namespace CarMachine.Toml

/-! The tokens of a TOML text.

A machine takes one character at a time.  Line ends of both kinds count as one newline.
Outside of quotes a run of letters, digits, signs and underscores is one bare token, so
a dot always stands for itself; what has a dot in a value (a float or a date) is not
read.
-/

inductive Token where
  | newline
  | dot
  | equals
  | comma
  | openBracket
  | closeBracket
  | openBrace
  | closeBrace
  | bare (chars : List Char)
  | quoted (text : List Char) (isMultiline : Bool)
deriving Repr, DecidableEq

/-- Which quotes a text stands in.  Only double quotes allow escapes. -/
structure Quoting where
  quote : Char
  isMultiline : Bool
deriving Repr, DecidableEq

/-- Where the machine stands between two characters.  What is unfinished is kept with the
nearest character first. -/
inductive Lexing where
  | between
  | bare (chars : List Char)
  | comment
  /-- After one, two or three opening quotes. -/
  | opened (quote : Char) (count : Nat)
  /-- Inside a text, after some quotes that may yet close it. -/
  | text (quoting : Quoting) (chars : List Char) (quotes : Nat)
  | escape (quoting : Quoting) (chars : List Char)
  /-- After `\u` or `\U`, with some digits missing. -/
  | escapedCode (quoting : Quoting) (chars : List Char) (missing : Nat) (digits : List Char)
  /-- After a backslash at the end of a line, before or past the newline. -/
  | continuation (quoting : Quoting) (chars : List Char) (pastNewline : Bool)
deriving Repr, DecidableEq

namespace Lexing

def isSpace (char : Char) : Bool :=
  char == ' ' || char == '\t'

def isBare (char : Char) : Bool :=
  char.isAlphanum || char == '_' || char == '-' || char == '+'

/-- The control characters that may stand nowhere.  A tab is none of them. -/
def isControl (char : Char) : Bool :=
  (char.toNat < 0x20 && char != '\t') || char.toNat == 0x7f

/-- What a character outside of texts, bare tokens and comments begins or is. -/
def start? (char : Char) : Option (Lexing × List Token) :=
  if isSpace char then some (.between, [])
  else if isBare char then some (.bare [char], [])
  else if char = '\n' then some (.between, [.newline])
  else if char = '#' then some (.comment, [])
  else if char = '"' ∨ char = '\'' then some (.opened char 1, [])
  else if char = '.' then some (.between, [.dot])
  else if char = '=' then some (.between, [.equals])
  else if char = ',' then some (.between, [.comma])
  else if char = '[' then some (.between, [.openBracket])
  else if char = ']' then some (.between, [.closeBracket])
  else if char = '\x7b' then some (.between, [.openBrace])
  else if char = '\x7d' then some (.between, [.closeBrace])
  else none

def startAfter? (token : Token) (char : Char) : Option (Lexing × List Token) :=
  (start? char).map fun (next, tokens) => (next, token :: tokens)

/-- The text token with the characters, nearest first, after which some quotes came; all
but the closing ones belong to the text. -/
def textToken (quoting : Quoting) (chars : List Char) (quotes : Nat) : Token :=
  let closing := if quoting.isMultiline then 3 else 1
  .quoted (List.replicate (quotes - closing) quoting.quote ++ chars).reverse
    quoting.isMultiline

/-- Takes a character inside a text.  One quote closes a text on one line; a text of
several lines is closed by three quotes, and two more in front of them are its own. -/
def inText? (quoting : Quoting) (chars : List Char) (quotes : Nat) (char : Char) :
    Option (Lexing × List Token) :=
  if char = quoting.quote then
    if !quoting.isMultiline || quotes = 4 then
      some (.between, [textToken quoting chars (quotes + 1)])
    else some (.text quoting chars (quotes + 1), [])
  else if 3 ≤ quotes then startAfter? (textToken quoting chars quotes) char
  else
    let chars := List.replicate quotes quoting.quote ++ chars
    if char = '\\' ∧ quoting.quote = '"' then some (.escape quoting chars, [])
    else if char = '\n' then
      if quoting.isMultiline then some (.text quoting (char :: chars) 0, []) else none
    else if isControl char then none
    else some (.text quoting (char :: chars) 0, [])

def shortEscape? : Char → Option Char
  | 'b' => some '\x08'
  | 't' => some '\t'
  | 'n' => some '\n'
  | 'f' => some '\x0c'
  | 'r' => some '\r'
  | '"' => some '"'
  | '\\' => some '\\'
  | _ => none

def inEscape? (quoting : Quoting) (chars : List Char) (char : Char) : Option Lexing :=
  if char = 'u' then some (.escapedCode quoting chars 4 [])
  else if char = 'U' then some (.escapedCode quoting chars 8 [])
  else if quoting.isMultiline && isSpace char then some (.continuation quoting chars false)
  else if quoting.isMultiline && char == '\n' then some (.continuation quoting chars true)
  else (shortEscape? char).map fun escaped => .text quoting (escaped :: chars) 0

/-- Takes a digit of an escaped character, which has to exist once all digits are
there. -/
def inCode? (quoting : Quoting) (chars : List Char) (missing : Nat) (digits : List Char) :
    Option Lexing :=
  if missing = 0 then
    match Text.digitsValue? 16 digits.reverse with
    | some code =>
        if code.isValidChar then some (.text quoting (Char.ofNat code :: chars) 0) else none
    | none => none
  else some (.escapedCode quoting chars missing digits)

def step? : Lexing → Char → Option (Lexing × List Token)
  | .between, char => start? char
  | .bare chars, char =>
      if isBare char then some (.bare (char :: chars), [])
      else startAfter? (.bare chars.reverse) char
  | .comment, char =>
      if char = '\n' then some (.between, [.newline])
      else if isControl char then none
      else some (.comment, [])
  | .opened quote 1, char =>
      if char = quote then some (.opened quote 2, []) else inText? ⟨quote, false⟩ [] 0 char
  | .opened quote 2, char =>
      if char = quote then some (.opened quote 3, [])
      else startAfter? (.quoted [] false) char
  | .opened quote _, char =>
      if char = '\n' then some (.text ⟨quote, true⟩ [] 0, [])
      else inText? ⟨quote, true⟩ [] 0 char
  | .text quoting chars quotes, char => inText? quoting chars quotes char
  | .escape quoting chars, char => (inEscape? quoting chars char).map fun next => (next, [])
  | .escapedCode quoting chars missing digits, char =>
      (inCode? quoting chars (missing - 1) (char :: digits)).map fun next => (next, [])
  | .continuation quoting chars pastNewline, char =>
      if isSpace char then some (.continuation quoting chars pastNewline, [])
      else if char = '\n' then some (.continuation quoting chars true, [])
      else if pastNewline then inText? quoting chars 0 char
      else none

/-- The token that ends with the text, if everything that was opened is closed. -/
def finish? : Lexing → Option (List Token)
  | .between | .comment => some []
  | .bare chars => some [.bare chars.reverse]
  | .opened _ 2 => some [.quoted [] false]
  | .text quoting chars quotes =>
      if 3 ≤ quotes then some [textToken quoting chars quotes] else none
  | _ => none

def tokensFrom? (state : Lexing) : List Char → Option (List Token)
  | [] => state.finish?
  | char :: rest =>
      match state.step? char with
      | none => none
      | some (next, tokens) => (tokensFrom? next rest).map (tokens ++ ·)

end Lexing

/-- Drops the carriage returns that stand in front of a newline. -/
def withPlainNewlines : List Char → List Char
  | '\r' :: '\n' :: rest => '\n' :: withPlainNewlines rest
  | char :: rest => char :: withPlainNewlines rest
  | [] => []

/-- Drops one byte order mark in front of a text. -/
def withoutMark : List Char → List Char
  | '\ufeff' :: rest => rest
  | chars => chars

def tokens? (text : String) : Option (List Token) :=
  Lexing.tokensFrom? .between (withPlainNewlines (withoutMark text.toList))

end CarMachine.Toml
