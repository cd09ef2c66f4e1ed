import AstGrammar.Toml.Text

/-!
# Dates and times of TOML

A date, a time, or a date with a time, which may be followed by the distance to
universal time. No setting is one of them, so only their form is looked at.
-/

namespace AstGrammar.Toml

/-- Takes a number with so many digits from a text, if it lies within bounds. -/
def readField (count least greatest : Nat) (text : List Char) :
    Option (Nat × List Char) := do
  let digits := text.take count
  let value ← digitsValue? 10 digits
  if digits.length = count ∧ least ≤ value ∧ value ≤ greatest then some (value, text.drop count)
  else none

def skipMark? (mark : Char) : List Char → Option (List Char)
  | [] => none
  | character :: rest => if character = mark then some rest else none

def isLeapYear (year : Nat) : Bool :=
  year % 4 == 0 && (year % 100 != 0 || year % 400 == 0)

def daysInMonth (year month : Nat) : Nat :=
  if month = 2 then if isLeapYear year then 29 else 28
  else if month = 4 ∨ month = 6 ∨ month = 9 ∨ month = 11 then 30
  else 31

def skipDate? (text : List Char) : Option (List Char) := do
  let (year, rest) ← readField 4 0 9999 text
  let (month, rest) ← readField 2 1 12 (← skipMark? '-' rest)
  let (_, rest) ← readField 2 1 (daysInMonth year month) (← skipMark? '-' rest)
  return rest

/-- The text behind the parts of a second, if there are any. -/
def skipSecondParts? : List Char → Option (List Char)
  | '.' :: rest =>
      if (rest.head?.any (isDigit 10)) then some (rest.dropWhile (isDigit 10)) else none
  | text => some text

/-- The text behind the second and its parts, if they are written. -/
def skipSecond? : List Char → Option (List Char)
  | ':' :: rest => do
      let (_, rest) ← readField 2 0 60 rest
      skipSecondParts? rest
  | text => some text

def skipMinutes? (text : List Char) : Option (List Char) := do
  let (_, rest) ← readField 2 0 23 text
  let (_, rest) ← readField 2 0 59 (← skipMark? ':' rest)
  return rest

def skipTime? (text : List Char) : Option (List Char) := do skipSecond? (← skipMinutes? text)

/-- The distance to universal time, which may be missing. -/
def isDistance : List Char → Bool
  | [] => true
  | ['Z'] | ['z'] => true
  | '+' :: rest | '-' :: rest => skipMinutes? rest == some []
  | _ => false

def isTimeMark (character : Char) : Bool :=
  character == 'T' || character == 't' || character == ' '

def isDateTime (text : List Char) : Bool :=
  match skipDate? text with
  | some [] => true
  | some (mark :: rest) => isTimeMark mark && (skipTime? rest).any isDistance
  | none => skipTime? text == some []

end AstGrammar.Toml
