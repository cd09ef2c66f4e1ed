import AstGrammar.Toml.DateTime
import AstGrammar.Toml.Number
import AstGrammar.Toml.Text

/-!
# Single values of TOML

Strings, and the words for truth values, numbers, dates and times.
-/

namespace AstGrammar.Toml

/-- A single value. -/
inductive Single where
  | scalar (value : Scalar)
  | dateTime

/-- A single value at its place. A date or time has parts but no settings, so
it is a table without entries. -/
def Single.setting (place : Text.Span) : Single → Setting
  | .scalar value => .scalar (some place) value
  | .dateTime => .table (some place) []

def word? (text : List Char) : Option Single :=
  match text with
  | ['t', 'r', 'u', 'e'] => some (.scalar (.boolean true))
  | ['f', 'a', 'l', 's', 'e'] => some (.scalar (.boolean false))
  | _ =>
      if isDateTime text then some .dateTime
      else (Number.ofWord? text).map fun number => .scalar number.scalar

/-- The characters that end a word. Quotes do not. -/
def endsWord (character : Char) : Bool :=
  isBlank character || character == '\n' || character == '\r' || character == ',' ||
    character == '[' || character == ']' || character == '\x7b' || character == '\x7d' ||
    character == '#' || character == '='

def takeWord (text : List Char) : List Char := text.takeWhile fun character => !endsWord character

def dropWord (text : List Char) : List Char := text.dropWhile fun character => !endsWord character

/-- A text whose first word is followed by a space and a digit. -/
def isSpaced (text : List Char) : Bool :=
  match dropWord text with
  | ' ' :: character :: _ => isDigit 10 character
  | _ => false

/-- Reads a value that is written as one word, or as two words for a date and a
time. -/
def readWord (text : List Char) : Option (Single × List Char) :=
  if isSpaced text then
    let time := (dropWord text).drop 1
    if isDateTime (takeWord text ++ ' ' :: takeWord time) then some (.dateTime, dropWord time)
    else none
  else (word? (takeWord text)).map fun value => (value, dropWord text)

def startsString (text : List Char) : Bool :=
  text.head? == some '"' || text.head? == some '\''

def readSingle (text : List Char) : Option (Single × List Char) :=
  if startsString text then
    (readString text).map fun (value, rest) => (.scalar (.text value), rest)
  else readWord text

end AstGrammar.Toml
