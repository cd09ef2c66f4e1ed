import AstGrammar.Json.Basic

/-!
# Why a value is no part of a grammar

What a reader of values expected and what it found instead.
-/

namespace AstGrammar.Codec

/-- What a reader of values expects. -/
inductive Expected where
  | string
  | sequence
  | map
  | boolean
  | path
  | record (name : String)
  deriving DecidableEq

def Expected.text : Expected → String
  | .string => "a string"
  | .sequence => "a sequence"
  | .map => "a map"
  | .boolean => "a boolean"
  | .path => "path string"
  | .record name => s!"struct {name}"

/-- Why a value cannot be read. -/
inductive DecodeError where
  | wrongType (found : String) (expected : Expected)
  /-- A list of fields ends in front of the field with an index. -/
  | missingElement (index : Nat) (record : String) (arity : Nat)
  /-- A list of fields has more items than there are fields. -/
  | excessElements (found : Nat)
  | missingField (name : String)
  | noArgument
  deriving DecidableEq

def DecodeError.message : DecodeError → String
  | .wrongType found expected => s!"invalid type: {found}, expected {expected.text}"
  | .missingElement index record arity =>
      s!"invalid length {index}, expected struct {record} with {arity} elements"
  | .excessElements found => s!"invalid length {found}, expected fewer elements in array"
  | .missingField name => s!"missing field `{name}`"
  | .noArgument => "data did not match any variant of untagged enum RawArgument"

/-- What reading a value gives: a part of a grammar, or why there is none. -/
abbrev Decoded (α : Type) : Type := Except DecodeError α

def refuse {α : Type} (found : Json) (expected : Expected) : Decoded α :=
  .error (.wrongType found.description expected)

def require {α : Type} (name : String) : Option α → Decoded α
  | some value => .ok value
  | none => .error (.missingField name)

/-- Demands that no items follow the `arity` fields of a list. -/
def requireEnd {α : Type} (arity : Nat) (value : α) : List Json → Decoded α
  | [] => .ok value
  | rest => .error (.excessElements (arity + rest.length))

end AstGrammar.Codec
