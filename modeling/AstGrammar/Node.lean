import AstGrammar.TypeExpression

/-!
# Attributes, nodes and named types

A node lists its supertypes, its structural children and its attributes in
display order. A named type is a type expression under a name; its properties
hold the attributes that edits give it.
-/

namespace AstGrammar

/-- A field of an entry with its type. -/
structure Attribute where
  name : String
  type : TypeExpression
  deriving DecidableEq

/-- One shape of a node in a syntax tree. -/
structure Node where
  parents : List String
  children : List String
  attributes : List Attribute
  deriving DecidableEq

/-- A type expression that is used under a name. -/
structure NamedType where
  expression : TypeExpression
  properties : List Attribute
  deriving DecidableEq

namespace Attribute

/-- The first attribute with a name. -/
def find? (name : String) (attributes : List Attribute) : Option Attribute :=
  attributes.find? fun field => field.name = name

/-- The place of the first attribute with a name. -/
def position? (name : String) (attributes : List Attribute) : Option Nat :=
  attributes.findIdx? fun field => field.name = name

/-- Searches for the first name that was there before, where `seen` holds the
names in front of the attributes. -/
def repeatedAfter? (seen : List String) : List Attribute → Option String
  | [] => none
  | field :: rest =>
      if field.name ∈ seen then some field.name
      else repeatedAfter? (field.name :: seen) rest

/-- The first name that stands a second time, if any does. -/
def repeated? (attributes : List Attribute) : Option String := repeatedAfter? [] attributes

/-- Takes the first attribute with a name out of a list. -/
def take? (name : String) : List Attribute → Option (Attribute × List Attribute)
  | [] => none
  | field :: rest =>
      if field.name = name then some (field, rest)
      else (take? name rest).map fun (found, others) => (found, field :: others)

/-- Attributes after the hinted ones were moved to the front. -/
structure Reordering where
  attributes : List Attribute
  /-- The hinted names without an attribute, in the order of the hints. -/
  unknown : List String
  deriving DecidableEq

/-- Moves the attributes with the hinted names to the front, in the order of
the hints. The others keep their order behind them. -/
def reorder : (hints : List String) → (attributes : List Attribute) → Reordering
  | [], attributes => ⟨attributes, []⟩
  | hint :: hints, attributes =>
      match take? hint attributes with
      | some (field, others) =>
          let reordered := reorder hints others
          ⟨field :: reordered.attributes, reordered.unknown⟩
      | none =>
          let reordered := reorder hints attributes
          ⟨reordered.attributes, hint :: reordered.unknown⟩

theorem perm_of_take? {name : String} {attributes others : List Attribute}
    {field : Attribute} (taken : take? name attributes = some (field, others)) :
    (field :: others).Perm attributes := by
  induction attributes generalizing others with
  | nil => simp [take?] at taken
  | cons first rest ih =>
      simp only [take?] at taken
      split at taken
      · cases taken
        exact .refl _
      · obtain ⟨⟨found, left⟩, takenRest, equal⟩ := Option.map_eq_some_iff.1 taken
        cases equal
        exact (List.Perm.swap first _ left).trans ((ih takenRest).cons first)

theorem reorder_perm (hints : List String) (attributes : List Attribute) :
    (reorder hints attributes).attributes.Perm attributes := by
  induction hints generalizing attributes with
  | nil => exact .refl _
  | cons hint hints ih =>
      simp only [reorder]
      split
      · next field others taken =>
          exact ((ih others).cons field).trans (perm_of_take? taken)
      · exact ih attributes

end Attribute

namespace Node

/-- Moves the attributes with the hinted names to the front. -/
def reorder (node : Node) (hints : List String) : Node :=
  { node with attributes := (Attribute.reorder hints node.attributes).attributes }

/-- The hinted names that move no attribute of a node. -/
def unknownHints (node : Node) (hints : List String) : List String :=
  (Attribute.reorder hints node.attributes).unknown

end Node

namespace NamedType

def ofExpression (expression : TypeExpression) : NamedType := ⟨expression, []⟩

end NamedType

end AstGrammar
