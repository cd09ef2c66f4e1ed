import AstGrammar.Decimal.Shortest
import AstGrammar.Settings.Setting
import AstGrammar.Toml.Text

/-!
# Numbers of TOML

A number is kept as it is written, without its underscores. Reading looks at
its form only, and not closely: an integer of another base may have no digits,
and behind the first underscore of a decimal integer anything may stand. Such
an integer has no value, and neither has a number that is too large. That shows
when the value is asked for.
-/

namespace AstGrammar.Toml

open Decimal

/-- A number as it is written, without sign and underscores. -/
inductive Number where
  | integer (isNegative : Bool) (base : Nat) (digits : List Char)
  /-- A number with digits in front of and behind a point and a power of ten. -/
  | fraction (isNegative : Bool) (whole places : List Char) (power : Int)
  | infinity (isNegative : Bool)
  | undefined

namespace Number

/-- Every underscore has a digit right in front of it and right behind it.
`isBehindDigit` says whether one may come first. -/
def areUnderscoresInside (base : Nat) : (isBehindDigit : Bool) → List Char → Bool
  | _, [] => true
  | isBehindDigit, '_' :: rest =>
      isBehindDigit && rest.head?.any (isDigit base) && areUnderscoresInside base false rest
  | _, character :: rest => areUnderscoresInside base (isDigit base character) rest

def withoutUnderscores (text : List Char) : List Char := text.filter (· != '_')

def isPadded : List Char → Bool
  | '0' :: _ :: _ => true
  | _ => false

/-- Takes decimal digits from a text, of which there must be at least one. A
nought in front of others is left to `mayPad`. -/
def readDigits (mayPad : Bool) (text : List Char) : Option (List Char × List Char) :=
  let isInside := fun character => isDigit 10 character || character == '_'
  let taken := text.takeWhile isInside
  let digits := withoutUnderscores taken
  if digits.isEmpty then none
  else if !mayPad && taken.head? == some '0' && 1 < digits.length then none
  else some (digits, text.dropWhile isInside)

/-- Takes a sign from a text and says whether it is a minus. -/
def readSign : List Char → Bool × List Char
  | '+' :: rest => (false, rest)
  | '-' :: rest => (true, rest)
  | text => (false, text)

/-- Takes a power of ten from a text, which is nought if none is written. -/
def readPower (text : List Char) : Option (Int × List Char) :=
  match text with
  | [] => some (0, [])
  | mark :: rest =>
      if mark = 'e' ∨ mark = 'E' then do
        let (isNegative, rest) := readSign rest
        let (digits, rest) ← readDigits true rest
        let power ← digitsValue? 10 digits
        return (if isNegative then -(power : Int) else power, rest)
      else some (0, text)

def fraction? (isNegative : Bool) (text : List Char) : Option Number := do
  let (whole, rest) ← readDigits false text
  let (places, rest) ←
    match rest with
    | '.' :: rest => readDigits true rest
    | rest => some ([], rest)
  let (power, rest) ← readPower rest
  if rest.isEmpty then some (.fraction isNegative whole places power) else none

/-- The characters that tell a fraction from an integer. -/
def isFractionMark (character : Char) : Bool :=
  character == '.' || character == 'e' || character == 'E'

/-- A decimal number behind its sign. An underscore may follow the sign, and
letters that are digits of some base may stand at an underscore. -/
def decimal? (isSigned isNegative : Bool) (text : List Char) : Option Number :=
  if text.any isFractionMark then
    if areUnderscoresInside 10 isSigned text then fraction? isNegative text else none
  else if text.isEmpty || isPadded text || !areUnderscoresInside 16 isSigned text then none
  else
    match text.dropWhile (isDigit 10) with
    | [] | '_' :: _ => some (.integer isNegative 10 (withoutUnderscores text))
    | _ => none

/-- An integer of another base behind the mark for the base. -/
def ofBase? (base : Nat) (text : List Char) : Option Number :=
  let digits := withoutUnderscores text
  if digits.all (isDigit base) && areUnderscoresInside base false text then
    some (.integer false base digits)
  else none

def signed? (isNegative : Bool) (text : List Char) : Option Number :=
  if text = ['i', 'n', 'f'] then some (.infinity isNegative)
  else if text = ['n', 'a', 'n'] then some .undefined
  else decimal? true isNegative text

def ofWord? (text : List Char) : Option Number :=
  match text with
  | '+' :: rest => signed? false rest
  | '-' :: rest => signed? true rest
  | '0' :: 'x' :: rest => ofBase? 16 rest
  | '0' :: 'o' :: rest => ofBase? 8 rest
  | '0' :: 'b' :: rest => ofBase? 2 rest
  | ['i', 'n', 'f'] => some (.infinity false)
  | ['n', 'a', 'n'] => some .undefined
  | _ => decimal? false false text

/-- Integers of 64 bits are integers; longer ones are called by their width. -/
def describeInteger? (isNegative : Bool) (magnitude : Nat) : Option String :=
  let sign := if isNegative && magnitude != 0 then "-" else ""
  let text := s!"integer `{sign}{magnitude}`"
  let wide := s!"integer `{sign}{magnitude}` as i128"
  if isNegative then
    if magnitude ≤ Nat.pow 2 63 then some text
    else if magnitude ≤ Nat.pow 2 127 then some wide
    else none
  else if magnitude < Nat.pow 2 64 then some text
  else if magnitude < Nat.pow 2 127 then some wide
  else if magnitude < Nat.pow 2 128 then some s!"integer `{magnitude}` as u128"
  else none

def decimalStyle : Style := ⟨-400, 400⟩

/-- The binary fraction next to a decimal one, if it is not too large. Powers
beyond the bound leave the range for all numbers with so many digits. -/
def magnitude? (whole places : List Char) (power : Int) : Option Binary64 := do
  let digits ← digitsValue? 10 (whole ++ places)
  let bound : Int := 400 + whole.length + places.length
  let exponent := max (-bound) (min bound (power - places.length))
  Binary64.ofQuotient? (digits * Nat.pow 10 exponent.toNat) (Nat.pow 10 (-exponent).toNat)

def description? : Number → Option String
  | .integer isNegative base digits =>
      if digits.isEmpty then none
      else (digitsValue? base digits).bind (describeInteger? isNegative)
  | .fraction isNegative whole places power =>
      (magnitude? whole places power).map fun magnitude =>
        let sign := if isNegative then "-" else ""
        s!"floating point `{sign}{String.ofList (magnitude.text decimalStyle)}`"
  | .infinity isNegative =>
      some (if isNegative then "floating point `-inf`" else "floating point `inf`")
  | .undefined => some "floating point `NaN`"

def scalar (number : Number) : Scalar :=
  match number.description? with
  | some description => .other description
  | none => .badNumber

end Number

end AstGrammar.Toml
