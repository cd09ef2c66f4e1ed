import AstGrammar.Json.Basic
import AstGrammar.Text.Span

/-!
# Values of a configuration

A configuration is a tree of tables, lists and single values, each with the
place where it is written if that is known. Settings are truth values and
texts; any other single value is kept only as what messages call it. A number
without a value spoils what it is part of when it is looked at.
-/

namespace AstGrammar

/-- A single value of a configuration. -/
inductive Scalar where
  | null
  | boolean (value : Bool)
  | text (value : String)
  | other (description : String)
  | badNumber
  deriving DecidableEq

def Scalar.description : Scalar → String
  | .null => "null"
  | .boolean value => s!"boolean `{value}`"
  | .text value => s!"string {Text.quoted value}"
  | .other description => description
  | .badNumber => "number"

/-- A value of a configuration with its place. -/
inductive Setting where
  | scalar (place : Option Text.Span) (value : Scalar)
  | list (place : Option Text.Span) (items : List Setting)
  | table (place : Option Text.Span) (entries : List (String × Setting))

namespace Setting

def place : Setting → Option Text.Span
  | .scalar place _ => place
  | .list place _ => place
  | .table place _ => place

def description : Setting → String
  | .scalar _ value => value.description
  | .list _ _ => "sequence"
  | .table _ _ => "map"

mutual

/-- The first number without a value in a value, with its place. -/
def badNumber? : Setting → Option (Option Text.Span)
  | .scalar place .badNumber => some place
  | .scalar _ _ => none
  | .list _ items => badAmongItems? items
  | .table _ entries => badAmongEntries? entries

def badAmongItems? : List Setting → Option (Option Text.Span)
  | [] => none
  | item :: rest => item.badNumber?.or (badAmongItems? rest)

def badAmongEntries? : List (String × Setting) → Option (Option Text.Span)
  | [] => none
  | (_, setting) :: rest => setting.badNumber?.or (badAmongEntries? rest)

end

mutual

/-- A JSON value as a value of a configuration, without places. -/
def ofJson : Json → Setting
  | .null => .scalar none .null
  | .bool value => .scalar none (.boolean value)
  | .number value => .scalar none (.other value.description)
  | .string text => .scalar none (.text text)
  | .array items => .list none (ofItems items)
  | .object members => .table none (ofMembers members)

/-- The items of a JSON list as values of a configuration. -/
def ofItems : List Json → List Setting
  | [] => []
  | item :: rest => ofJson item :: ofItems rest

/-- The members of a JSON object as entries of a table. -/
def ofMembers : List (String × Json) → List (String × Setting)
  | [] => []
  | (name, value) :: rest => (name, ofJson value) :: ofMembers rest

end

end Setting

end AstGrammar
