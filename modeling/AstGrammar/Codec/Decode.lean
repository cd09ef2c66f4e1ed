import AstGrammar.Codec.DecodeError
import AstGrammar.GrammarModel

/-!
# Grammar models from JSON values

A record is an object with named members or a list of its fields in order.
Members that have no meaning are passed over, and the others are read in the
order in which they are written; the first that cannot be read decides.

An argument is tried as a label, then as a list of alternatives, then as one
expression. So a list of two texts is two alternatives, not a kind with a
label.
-/

namespace AstGrammar.Codec

def decodeString : Json → Decoded String
  | .string text => .ok text
  | other => refuse other .string

def decodeKind (value : Json) : Decoded TypeKind :=
  (decodeString value).map .ofName

def decodeList {α : Type} (decode : Json → Decoded α) : Json → Decoded (List α)
  | .array items => items.mapM decode
  | other => refuse other .sequence

mutual

/-- Reads an expression: an object, or a list of a kind and an argument. -/
def decodeExpression : Json → Decoded TypeExpression
  | .array items => decodeExpressionItems items
  | .object members => decodeExpressionMembers none none members
  | other => refuse other (.record "TypeExpression")

/-- Reads an expression from the list of its kind and its argument. -/
def decodeExpressionItems : List Json → Decoded TypeExpression
  | [] => .error (.missingElement 1 "TypeExpression" 2)
  | [kind] =>
      match decodeKind kind with
      | .error error => .error error
      | .ok _ => .error (.missingElement 1 "TypeExpression" 2)
  | kind :: argument :: rest =>
      match decodeKind kind with
      | .error error => .error error
      | .ok kind =>
          match decodeArgument argument with
          | .error error => .error error
          | .ok argument => requireEnd 2 (.mk kind argument) rest

/-- Reads an expression from its members, given what was found so far. -/
def decodeExpressionMembers (kind : Option TypeKind) (argument : Option Argument) :
    List (String × Json) → Decoded TypeExpression
  | [] => (require "argument" argument).map (.mk (kind.getD .unspecified))
  | (name, value) :: rest =>
      if name = "kind" then
        match decodeKind value with
        | .error error => .error error
        | .ok kind => decodeExpressionMembers (some kind) argument rest
      else if name = "argument" then
        match decodeArgument value with
        | .error error => .error error
        | .ok argument => decodeExpressionMembers kind (some argument) rest
      else decodeExpressionMembers kind argument rest

/-- Reads an argument. A list is first tried as alternatives and then as the
fields of one expression; why both fail is not reported. -/
def decodeArgument : Json → Decoded Argument
  | .string name => .ok (.label name)
  | .array items =>
      match decodeAlternatives items with
      | .ok alternatives => .ok (.alternatives alternatives)
      | .error _ =>
          match decodeExpressionItems items with
          | .ok inner => .ok (.nested inner)
          | .error _ => .error .noArgument
  | .object members =>
      match decodeExpressionMembers none none members with
      | .ok inner => .ok (.nested inner)
      | .error _ => .error .noArgument
  | _ => .error .noArgument

/-- Reads alternatives, of which each is a label or an expression. -/
def decodeAlternatives : List Json → Decoded (List TypeExpression)
  | [] => .ok []
  | item :: rest =>
      match decodeAlternative item with
      | .error error => .error error
      | .ok item => (decodeAlternatives rest).map (item :: ·)

/-- Reads an alternative. A label has no kind. -/
def decodeAlternative : Json → Decoded TypeExpression
  | .string name => .ok (.labelled .unspecified name)
  | .array items => decodeExpressionItems items
  | .object members => decodeExpressionMembers none none members
  | other => refuse other (.record "TypeExpression")

end

/-- Reads an attribute from its members, given what was found so far. -/
def decodeAttributeMembers (name : Option String) (type : Option TypeExpression) :
    List (String × Json) → Decoded Attribute
  | [] => do return ⟨← require "name" name, ← require "type" type⟩
  | (member, value) :: rest =>
      if member = "name" then do
        decodeAttributeMembers (some (← decodeString value)) type rest
      else if member = "type" then do
        decodeAttributeMembers name (some (← decodeExpression value)) rest
      else decodeAttributeMembers name type rest

def decodeAttributeItems : List Json → Decoded Attribute
  | [] => .error (.missingElement 0 "Attribute" 2)
  | [name] => do
      let _ ← decodeString name
      .error (.missingElement 1 "Attribute" 2)
  | name :: type :: rest => do
      let name ← decodeString name
      let type ← decodeExpression type
      requireEnd 2 ⟨name, type⟩ rest

/-- Reads an attribute: an object, or a list of its name and its type. -/
def decodeAttribute : Json → Decoded Attribute
  | .array items => decodeAttributeItems items
  | .object members => decodeAttributeMembers none none members
  | other => refuse other (.record "Attribute")

/-- What was found so far of a node. -/
structure NodeParts where
  parents : Option (List String)
  children : Option (List String)
  attributes : Option (List Attribute)

def NodeParts.node (parts : NodeParts) : Decoded Node := do
  return ⟨← require "parents" parts.parents, ← require "children" parts.children,
    ← require "attributes" parts.attributes⟩

/-- Reads a node from its members, given what was found so far. -/
def decodeNodeMembers (parts : NodeParts) : List (String × Json) → Decoded Node
  | [] => parts.node
  | (member, value) :: rest =>
      if member = "parents" then do
        let parents ← decodeList decodeString value
        decodeNodeMembers { parts with parents := some parents } rest
      else if member = "children" then do
        let children ← decodeList decodeString value
        decodeNodeMembers { parts with children := some children } rest
      else if member = "attributes" then do
        let attributes ← decodeList decodeAttribute value
        decodeNodeMembers { parts with attributes := some attributes } rest
      else decodeNodeMembers parts rest

def decodeNodeItems : List Json → Decoded Node
  | [] => .error (.missingElement 0 "Node" 3)
  | parents :: rest => do
      let parents ← decodeList decodeString parents
      match rest with
      | [] => .error (.missingElement 1 "Node" 3)
      | children :: rest => do
          let children ← decodeList decodeString children
          match rest with
          | [] => .error (.missingElement 2 "Node" 3)
          | attributes :: rest => do
              let attributes ← decodeList decodeAttribute attributes
              requireEnd 3 ⟨parents, children, attributes⟩ rest

/-- Reads a node: an object, or a list of its parents, children and
attributes. -/
def decodeNode : Json → Decoded Node
  | .array items => decodeNodeItems items
  | .object members => decodeNodeMembers ⟨none, none, none⟩ members
  | other => refuse other (.record "Node")

/-- Reads the properties among the members of a named type. -/
def decodeProperties (properties : List Attribute) :
    List (String × Json) → Decoded (List Attribute)
  | [] => .ok properties
  | (member, value) :: rest =>
      if member = "properties" then do
        decodeProperties (← decodeList decodeAttribute value) rest
      else decodeProperties properties rest

/-- Reads a named type, its properties before its expression. There is no form
as a list of fields. -/
def decodeNamedType : Json → Decoded NamedType
  | .object members => do
      let properties ← decodeProperties [] members
      let expression ← decodeExpressionMembers none none members
      return ⟨expression, properties⟩
  | other => refuse other (.record "NamedType")

/-- Reads the members of an object as the entries of a registry. -/
def decodeEntries {α : Type} (decode : Json → Decoded α) (registry : Registry α) :
    List (String × Json) → Decoded (Registry α)
  | [] => .ok registry
  | (name, value) :: rest => do
      decodeEntries decode (registry.insert name (← decode value)) rest

def decodeRegistry {α : Type} (decode : Json → Decoded α) : Json → Decoded (Registry α)
  | .object members => decodeEntries decode .empty members
  | other => refuse other .map

/-- Reads a model from its members, given what was found so far. -/
def decodeModelMembers (nodes : Option (Registry Node))
    (namedTypes : Option (Registry NamedType)) :
    List (String × Json) → Decoded GrammarModel
  | [] => do return ⟨← require "nodes" nodes, ← require "namedTypes" namedTypes⟩
  | (member, value) :: rest =>
      if member = "nodes" then do
        decodeModelMembers (some (← decodeRegistry decodeNode value)) namedTypes rest
      else if member = "namedTypes" then do
        decodeModelMembers nodes (some (← decodeRegistry decodeNamedType value)) rest
      else decodeModelMembers nodes namedTypes rest

def decodeModelItems : List Json → Decoded GrammarModel
  | [] => .error (.missingElement 0 "GrammarModel" 2)
  | [nodes] => do
      let _ ← decodeRegistry decodeNode nodes
      .error (.missingElement 1 "GrammarModel" 2)
  | nodes :: namedTypes :: rest => do
      let nodes ← decodeRegistry decodeNode nodes
      let namedTypes ← decodeRegistry decodeNamedType namedTypes
      requireEnd 2 ⟨nodes, namedTypes⟩ rest

/-- Reads a model, without looking for faults in its types. -/
def decodeModel : Json → Decoded GrammarModel
  | .array items => decodeModelItems items
  | .object members => decodeModelMembers none none members
  | other => refuse other (.record "GrammarModel")

end AstGrammar.Codec
