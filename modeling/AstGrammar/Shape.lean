import AstGrammar.GrammarModel

/-!
# Shapes of entries and failures that concern one entry

An entry is a node or a named type. Before it is read, its shape shows in the
fields that are present: a node has parents, children and attributes, a named
type has a kind and an argument. An entry with the fields of both, or of
neither, has no shape.

An entry can also fail when it is looked up, edited or rendered. Every such
error names the entry.
-/

namespace AstGrammar

/-- Why there is no shape. -/
inductive ShapeFault where
  | absent
  | ambiguous
  | unrecognized
  deriving DecidableEq

def ShapeFault.message : ShapeFault → String
  | .absent => "no entry with this name exists"
  | .ambiguous => "entry carries both node fields and type-expression fields"
  | .unrecognized =>
      "entry needs either `parents`, `children` and `attributes`, or `kind` and `argument`"

/-- Which fields of an entry are present. -/
structure Presence where
  parents : Bool
  children : Bool
  attributes : Bool
  kind : Bool
  argument : Bool
  deriving DecidableEq

namespace Presence

def hasNodeFields (presence : Presence) : Bool :=
  presence.parents && presence.children && presence.attributes

def hasTypeFields (presence : Presence) : Bool :=
  presence.kind && presence.argument

/-- Decides the shape of an entry. It needs all fields of one shape, and not all
of the other. -/
def shape (presence : Presence) : Except ShapeFault Shape :=
  match presence.hasNodeFields, presence.hasTypeFields with
  | true, false => .ok .node
  | false, true => .ok .namedType
  | true, true => .error .ambiguous
  | false, false => .error .unrecognized

end Presence

def shapeOf : Option Entry → Except ShapeFault Shape
  | some entry => .ok entry.shape
  | none => .error .absent

/-- What in an entry cannot be rendered. -/
inductive RenderFault where
  | attributeWithAlternatives (name : String) (count : Nat)
  | alternativeWithoutLabel (index : Nat) (kind : TypeKind)
  deriving DecidableEq

def RenderFault.message : RenderFault → String
  | .attributeWithAlternatives name count =>
      s!"attribute `{name}` carries {count} alternatives " ++
        "where a label or a nested expression is expected"
  | .alternativeWithoutLabel index kind =>
      s!"alternative {index} of kind `{kind.name}` has no label to print"

/-- A failure that concerns the entry with a name. -/
inductive EntryError where
  | invalidShape (entry : String) (fault : ShapeFault)
  | malformedType (entry : String) (fault : RenderFault)
  /-- An edit would give an attribute a type with a fault. -/
  | rejectedType (entry field : String) (fault : TypeFault)
  deriving DecidableEq

/-- The text of an error, which names the entry. -/
def EntryError.message : EntryError → String
  | .invalidShape entry fault => s!"invalid entry shape for `{entry}`: {fault.message}"
  | .malformedType entry fault => s!"malformed type expression in `{entry}`: {fault.message}"
  | .rejectedType entry field fault =>
      s!"rejected type for attribute `{field}` of `{entry}`: {fault.message}"

end AstGrammar
