import AstGrammar.Node
import AstGrammar.Registry

/-!
# Grammar models

A grammar model holds nodes and named types in two registries. A name may
stand in both; looking up an entry by name then finds the node.
-/

namespace AstGrammar

/-- The nodes and the named types of a grammar. -/
structure GrammarModel where
  nodes : Registry Node
  namedTypes : Registry NamedType

/-- The shape of an entry. -/
inductive Shape where
  | node
  | namedType
  deriving DecidableEq

def Shape.text : Shape → String
  | .node => "node"
  | .namedType => "named type"

/-- A node or a named type. -/
inductive Entry where
  | node (node : Node)
  | namedType (namedType : NamedType)
  deriving DecidableEq

namespace Entry

def shape : Entry → Shape
  | .node _ => .node
  | .namedType _ => .namedType

/-- The attributes of a node, or the properties of a named type. -/
def attributes : Entry → List Attribute
  | .node held => held.attributes
  | .namedType held => held.properties

/-- Replaces the attributes of a node, or the properties of a named type. -/
def withAttributes (attributes : List Attribute) : Entry → Entry
  | .node held => .node { held with attributes := attributes }
  | .namedType held => .namedType { held with properties := attributes }

end Entry

namespace GrammarModel

def empty : GrammarModel := ⟨.empty, .empty⟩

/-- The names of all nodes and then of all named types. A name that stands in
both registries is listed twice. -/
def names (model : GrammarModel) : List String :=
  model.nodes.names ++ model.namedTypes.names

def node? (model : GrammarModel) (name : String) : Option Node := model.nodes.find? name

def namedType? (model : GrammarModel) (name : String) : Option NamedType :=
  model.namedTypes.find? name

/-- The entry under a name, which is the node when there are two. -/
def resolve (model : GrammarModel) (name : String) : Option Entry :=
  match model.node? name with
  | some node => some (.node node)
  | none => (model.namedType? name).map .namedType

/-- Enters a node, in the place of one that has the name. -/
def insertNode (model : GrammarModel) (name : String) (node : Node) : GrammarModel :=
  { model with nodes := model.nodes.insert name node }

/-- Enters a named type, in the place of one that has the name. -/
def insertNamedType (model : GrammarModel) (name : String) (namedType : NamedType) :
    GrammarModel :=
  { model with namedTypes := model.namedTypes.insert name namedType }

/-- Puts an entry in the place of the one with its shape and name. -/
def replace (model : GrammarModel) (name : String) : Entry → GrammarModel
  | .node node => { model with nodes := model.nodes.modify name fun _ => node }
  | .namedType namedType =>
      { model with namedTypes := model.namedTypes.modify name fun _ => namedType }

/-- Two models have equal entries. The order of entries does not count, the
order of attributes does. -/
def isEquivalent (first second : GrammarModel) : Bool :=
  first.nodes.isEquivalent second.nodes && first.namedTypes.isEquivalent second.namedTypes

end GrammarModel

end AstGrammar
