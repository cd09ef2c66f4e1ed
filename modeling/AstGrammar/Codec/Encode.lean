import AstGrammar.GrammarModel
import AstGrammar.Json.Basic

/-!
# Grammar models as JSON values

An expression is an object with its kind and its argument. Alternatives are
always objects, also those that are only a label. A named type has the members
of its expression, and its properties when there are any.
-/

namespace AstGrammar.Codec

mutual

/-- Writes an expression as an object with its kind and its argument. -/
def encodeExpression : TypeExpression → Json
  | .mk kind argument =>
      .object [("kind", .string kind.name), ("argument", encodeArgument argument)]

/-- Writes an argument: a label as a string, one expression as its object and
alternatives as a list. -/
def encodeArgument : Argument → Json
  | .label name => .string name
  | .nested inner => encodeExpression inner
  | .alternatives items => .array (encodeItems items)

def encodeItems : List TypeExpression → List Json
  | [] => []
  | item :: rest => encodeExpression item :: encodeItems rest

end

def encodeAttribute (field : Attribute) : Json :=
  .object [("name", .string field.name), ("type", encodeExpression field.type)]

def encodeAttributes (attributes : List Attribute) : Json :=
  .array (attributes.map encodeAttribute)

def encodeNames (names : List String) : Json := .array (names.map .string)

/-- Writes a node as an object with its three fields. -/
def encodeNode (node : Node) : Json :=
  .object [("parents", encodeNames node.parents), ("children", encodeNames node.children),
    ("attributes", encodeAttributes node.attributes)]

/-- The members that name the properties of a named type. -/
def encodeProperties : List Attribute → List (String × Json)
  | [] => []
  | properties => [("properties", encodeAttributes properties)]

/-- Writes a named type as the object of its expression, with its properties
behind when there are any. -/
def encodeNamedType (namedType : NamedType) : Json :=
  .object (("kind", .string namedType.expression.kind.name) ::
    ("argument", encodeArgument namedType.expression.argument) ::
      encodeProperties namedType.properties)

def encodeRegistry {α : Type} (encode : α → Json) (registry : Registry α) : Json :=
  .object (registry.entries.map fun entry => (entry.1, encode entry.2))

/-- Writes a model as an object of its two collections. -/
def encodeModel (model : GrammarModel) : Json :=
  .object [("nodes", encodeRegistry encodeNode model.nodes),
    ("namedTypes", encodeRegistry encodeNamedType model.namedTypes)]

def encodeEntry : Entry → Json
  | .node node => encodeNode node
  | .namedType namedType => encodeNamedType namedType

end AstGrammar.Codec
