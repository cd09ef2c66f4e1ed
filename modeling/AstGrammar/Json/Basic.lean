import AstGrammar.Decimal.Shortest
import AstGrammar.Text.Quoted

/-!
# JSON values

A JSON value with the members of its objects in their written order. Integers
of at most 64 bits are kept exactly; every other number is a binary fraction.
Reading keeps member names distinct, but the type does not demand it.
-/

namespace AstGrammar

namespace Json

/-- A JSON number. A negative integer has a magnitude of at least one, so that
minus nought is a binary fraction. -/
inductive Number where
  | natural (value : Nat)
  | negative (magnitude : Nat)
  | fraction (isNegative : Bool) (magnitude : Decimal.Binary64)
  deriving DecidableEq

/-- Fractions are positional from one hundred-thousandth up to sixteen digits
in front of the point. -/
def decimalStyle : Decimal.Style := ⟨-5, 15⟩

def Number.description : Number → String
  | .natural value => s!"integer `{value}`"
  | .negative magnitude => s!"integer `-{magnitude}`"
  | .fraction isNegative magnitude =>
      let sign := if isNegative then "-" else ""
      s!"floating point `{sign}{String.ofList (magnitude.text decimalStyle)}`"

end Json

/-- A JSON value. -/
inductive Json where
  | null
  | bool (value : Bool)
  | number (value : Json.Number)
  | string (text : String)
  | array (items : List Json)
  | object (members : List (String × Json))
  deriving Inhabited

namespace Json

def member? (name : String) (members : List (String × Json)) : Option Json :=
  members.lookup name

def isPresent : Json → Bool
  | .null => false
  | _ => true

def description : Json → String
  | .null => "null"
  | .bool true => "boolean `true`"
  | .bool false => "boolean `false`"
  | .number value => value.description
  | .string text => s!"string {Text.quoted text}"
  | .array _ => "sequence"
  | .object _ => "map"

end Json

end AstGrammar
