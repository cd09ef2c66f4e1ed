/-!
# Characters and strings of TOML

Blanks, line ends, controls and digits are told apart here. Strings stand
between single or double quotes, on one line or between three of them over
several lines. Only those between double quotes have escapes.
-/

namespace AstGrammar.Toml

def isBlank (character : Char) : Bool := character == ' ' || character == '\t'

def skipBlanks (text : List Char) : List Char := text.dropWhile isBlank

/-- Characters that may stand nowhere: controls other than the tab. -/
def isControl (character : Char) : Bool :=
  (character.toNat < 0x20 && character != '\t') || character.toNat == 0x7F

def skipLineEnd? : List Char → Option (List Char)
  | '\n' :: rest => some rest
  | '\r' :: '\n' :: rest => some rest
  | _ => none

def startsLineEnd (text : List Char) : Bool := (skipLineEnd? text).isSome

/-- The value of a digit in a base, if the character is one. -/
def digit? (base : Nat) (character : Char) : Option Nat :=
  let value :=
    if '0' ≤ character ∧ character ≤ '9' then some (character.toNat - '0'.toNat)
    else if 'a' ≤ character ∧ character ≤ 'f' then some (character.toNat - 'a'.toNat + 10)
    else if 'A' ≤ character ∧ character ≤ 'F' then some (character.toNat - 'A'.toNat + 10)
    else none
  value.filter (· < base)

def isDigit (base : Nat) (character : Char) : Bool := (digit? base character).isSome

/-- The number that digits of a base write, where no digits write nought. -/
def digitsValue? (base : Nat) (digits : List Char) : Option Nat :=
  digits.foldlM (fun value digit => (digit? base digit).map (value * base + ·)) 0

/-- The character that some hexadecimal digits write, unless they write half of
a surrogate pair or too large a number. -/
def hexCharacter? (digits : List Char) : Option Char := do
  let code ← digitsValue? 16 digits
  if code.isValidChar then some (Char.ofNat code) else none

/-- Reads a character written by a number of hexadecimal digits. -/
def readCode (count : Nat) (text : List Char) : Option (Char × List Char) :=
  if text.length < count then none
  else (hexCharacter? (text.take count)).map fun character => (character, text.drop count)

def readEscape : List Char → Option (Char × List Char)
  | 'b' :: rest => some ('\x08', rest)
  | 't' :: rest => some ('\t', rest)
  | 'n' :: rest => some ('\n', rest)
  | 'f' :: rest => some ('\x0c', rest)
  | 'r' :: rest => some ('\r', rest)
  | 'e' :: rest => some ('\x1b', rest)
  | '"' :: rest => some ('"', rest)
  | '\\' :: rest => some ('\\', rest)
  | 'x' :: rest => readCode 2 rest
  | 'u' :: rest => readCode 4 rest
  | 'U' :: rest => readCode 8 rest
  | _ => none

/-- Reads a string on one line behind its double quote. The characters so far
are kept in reverse, and `fuel` is at least the length of the text. -/
def readBasic : (fuel : Nat) → (taken : List Char) → List Char → Option (String × List Char)
  | 0, _, _ => none
  | _ + 1, _, [] => none
  | fuel + 1, taken, character :: rest =>
      if character = '"' then some (String.ofList taken.reverse, rest)
      else if character = '\\' then do
        let (escaped, rest) ← readEscape rest
        readBasic fuel (escaped :: taken) rest
      else if isControl character then none
      else readBasic fuel (character :: taken) rest

def skipLines : List Char → List Char
  | [] => []
  | '\r' :: '\n' :: rest => skipLines rest
  | character :: rest =>
      if isBlank character || character == '\n' then skipLines rest else character :: rest

/-- A text that a backslash at the end of a line joins to the next words: the
text behind the white space, if there is a line end in it. -/
def skipJoint? (text : List Char) : Option (List Char) :=
  (skipLineEnd? (skipBlanks text)).map skipLines

/-- The number of quotes that end a string over several lines: three, with up
to two more that belong to the string. -/
def closingQuotes (quote : Char) (text : List Char) : Nat :=
  min 5 (text.takeWhile (· == quote)).length

/-- Reads a string over several lines behind its double quotes. Line ends stay
as they are. -/
def readBasicLines :
    (fuel : Nat) → (taken : List Char) → List Char → Option (String × List Char)
  | 0, _, _ => none
  | _ + 1, _, [] => none
  | fuel + 1, taken, character :: rest =>
      let quotes := closingQuotes '"' (character :: rest)
      if 3 ≤ quotes then
        some (String.ofList (List.replicate (quotes - 3) '"' ++ taken).reverse,
          (character :: rest).drop quotes)
      else if character = '\\' then
        match skipJoint? rest with
        | some rest => readBasicLines fuel taken rest
        | none => do
            let (escaped, rest) ← readEscape rest
            readBasicLines fuel (escaped :: taken) rest
      else if isControl character && !startsLineEnd (character :: rest) then none
      else readBasicLines fuel (character :: taken) rest

/-- Reads a string without escapes on one line behind its quote. -/
def readLiteral (taken : List Char) : List Char → Option (String × List Char)
  | [] => none
  | '\'' :: rest => some (String.ofList taken.reverse, rest)
  | character :: rest =>
      if isControl character then none else readLiteral (character :: taken) rest

/-- Reads a string without escapes over several lines behind its quotes. -/
def readLiteralLines :
    (fuel : Nat) → (taken : List Char) → List Char → Option (String × List Char)
  | 0, _, _ => none
  | _ + 1, _, [] => none
  | fuel + 1, taken, character :: rest =>
      let quotes := closingQuotes '\'' (character :: rest)
      if 3 ≤ quotes then
        some (String.ofList (List.replicate (quotes - 3) '\'' ++ taken).reverse,
          (character :: rest).drop quotes)
      else if isControl character && !startsLineEnd (character :: rest) then none
      else readLiteralLines fuel (character :: taken) rest

/-- The text behind a line end that directly follows the opening quotes. -/
def skipFirstLineEnd (text : List Char) : List Char := (skipLineEnd? text).getD text

def readString (text : List Char) : Option (String × List Char) :=
  match text with
  | '"' :: '"' :: '"' :: rest => readBasicLines text.length [] (skipFirstLineEnd rest)
  | '"' :: rest => readBasic text.length [] rest
  | '\'' :: '\'' :: '\'' :: rest => readLiteralLines text.length [] (skipFirstLineEnd rest)
  | '\'' :: rest => readLiteral [] rest
  | _ => none

end AstGrammar.Toml
