import AstGrammar.Json.Basic

/-!
# Printing JSON

The compact text of a value, without blanks. Strings escape only quotes,
backslashes and control characters; the members of an object keep their order.
-/

namespace AstGrammar.Json

def hexDigit (value : Nat) : Char :=
  if value < 10 then Char.ofNat ('0'.toNat + value) else Char.ofNat ('a'.toNat + (value - 10))

def printCharacter (character : Char) : List Char :=
  match character with
  | '"' => ['\\', '"']
  | '\\' => ['\\', '\\']
  | '\x08' => ['\\', 'b']
  | '\x0c' => ['\\', 'f']
  | '\n' => ['\\', 'n']
  | '\r' => ['\\', 'r']
  | '\t' => ['\\', 't']
  | _ =>
      if character.toNat < 0x20 then
        ['\\', 'u', '0', '0', hexDigit (character.toNat / 16), hexDigit (character.toNat % 16)]
      else [character]

def printString (text : String) : List Char :=
  '"' :: text.toList.flatMap printCharacter ++ ['"']

def Number.text : Number → List Char
  | .natural value => Nat.toDigits 10 value
  | .negative magnitude => '-' :: Nat.toDigits 10 magnitude
  | .fraction isNegative magnitude =>
      (if isNegative then ['-'] else []) ++ magnitude.text decimalStyle

mutual

/-- The compact text of a value as characters. -/
def print : Json → List Char
  | .null => ['n', 'u', 'l', 'l']
  | .bool true => ['t', 'r', 'u', 'e']
  | .bool false => ['f', 'a', 'l', 's', 'e']
  | .number value => value.text
  | .string text => printString text
  | .array items => '[' :: printItems items ++ [']']
  | .object members => '\x7b' :: printMembers members ++ ['\x7d']

def printItems : List Json → List Char
  | [] => []
  | [item] => print item
  | item :: next :: rest => print item ++ ',' :: printItems (next :: rest)

def printMembers : List (String × Json) → List Char
  | [] => []
  | [(name, value)] => printString name ++ ':' :: print value
  | (name, value) :: next :: rest =>
      printString name ++ ':' :: (print value ++ ',' :: printMembers (next :: rest))

end

/-- The compact text of a value. -/
def compact (value : Json) : String := String.ofList (print value)

end AstGrammar.Json
