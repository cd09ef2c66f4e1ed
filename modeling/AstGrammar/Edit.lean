import AstGrammar.Shape

/-!
# Editing attributes

An edit sets the type of one attribute of an entry. An attribute that is there
keeps its place; a new one comes last. An edit is refused when the new type
would have a fault, and then nothing changes.

Edits come in two forms. One gives back the edited model. The other is a program
that finds the entry, checks the type and writes into the model, in this order;
if it fails, all that it wrote before stays.
-/

namespace AstGrammar

/-- What an edit puts in the place of an attribute's type. -/
inductive Replacement where
  | argument (argument : Argument)
  | type (type : TypeExpression)
  deriving DecidableEq

/-- A new type for an attribute of the entry with a name. -/
structure Edit where
  entry : String
  field : String
  replacement : Replacement
  deriving DecidableEq

/-- Where an accepted edit put the attribute. -/
inductive EditOutcome where
  | updated (index : Nat)
  | appended (index : Nat)
  deriving DecidableEq

namespace EditOutcome

def index : EditOutcome → Nat
  | .updated index => index
  | .appended index => index

end EditOutcome

namespace Attribute

/-- Sets the type of the first attribute with a name, or adds one at the end. -/
def setType (name : String) (type : TypeExpression) : List Attribute → List Attribute
  | [] => [⟨name, type⟩]
  | first :: rest =>
      if first.name = name then ⟨first.name, type⟩ :: rest else first :: setType name type rest

/-- What setting the type of an attribute means for a list of attributes. -/
def outcomeOfSet (name : String) (attributes : List Attribute) : EditOutcome :=
  match position? name attributes with
  | some index => .updated index
  | none => .appended attributes.length

end Attribute

namespace Edit

/-- The type that an edit gives the attribute. A new attribute has no kind to
keep. -/
def newType (edit : Edit) (attributes : List Attribute) : TypeExpression :=
  match edit.replacement with
  | .type type => type
  | .argument argument =>
      match Attribute.find? edit.field attributes with
      | some held => .mk held.type.kind argument
      | none => .mk .unspecified argument

/-- Edits an entry that was looked up. The edit is refused when there is none, or
when the new type has a fault. -/
def apply (edit : Edit) : Option Entry → Except EntryError (Entry × EditOutcome)
  | none => .error (.invalidShape edit.entry .absent)
  | some entry =>
      let type := edit.newType entry.attributes
      match type.fault? with
      | some fault => .error (.rejectedType edit.entry edit.field fault)
      | none =>
          .ok (entry.withAttributes (Attribute.setType edit.field type entry.attributes),
            Attribute.outcomeOfSet edit.field entry.attributes)

end Edit

namespace GrammarModel

/-- Edits the entry under the name of an edit. A refused edit leaves no model. -/
def edit (model : GrammarModel) (edit : Edit) : Except EntryError (GrammarModel × EditOutcome) :=
  match edit.apply (model.resolve edit.entry) with
  | .error error => .error error
  | .ok (entry, outcome) => .ok (model.replace edit.entry entry, outcome)

/-- Edits the named type under the name of an edit, even when a node has the
name too. -/
def editNamedType (model : GrammarModel) (edit : Edit) :
    Except EntryError (GrammarModel × EditOutcome) :=
  match edit.apply ((model.namedType? edit.entry).map .namedType) with
  | .error error => .error error
  | .ok (entry, outcome) => .ok (model.replace edit.entry entry, outcome)

/-- The entry under a name as it is found for editing: the node if there is one,
and else the named type. -/
def resolveForEdit (model : GrammarModel) (name : String) : Option Entry :=
  if (model.node? name).isSome then (model.node? name).map .node
  else (model.namedType? name).map .namedType

end GrammarModel

/-- A program that changes a grammar model and can fail on the way. -/
abbrev Editing := EStateM EntryError GrammarModel

namespace Edit

/-- Demands that an entry was found. -/
def require (edit : Edit) : Option Entry → Editing Entry
  | some entry => return entry
  | none => throw (.invalidShape edit.entry .absent)

/-- Demands that a type has no fault. -/
def accept (edit : Edit) (type : TypeExpression) : Editing TypeExpression :=
  match type.check with
  | .ok () => return type
  | .error fault => throw (.rejectedType edit.entry edit.field fault)

/-- Writes the attributes of an entry where the entry stands in the model. -/
def write (edit : Edit) (entry : Entry) (attributes : List Attribute) : Editing Unit :=
  modify fun model => model.replace edit.entry (entry.withAttributes attributes)

/-- Writes a type over that of the first attribute with the name, or writes an
attribute behind all others. -/
def store (edit : Edit) (entry : Entry) (type : TypeExpression) : Editing EditOutcome :=
  match Attribute.position? edit.field entry.attributes with
  | some index => do
      edit.write entry (entry.attributes.modify index fun held => { held with type := type })
      return .updated index
  | none => do
      let grown := entry.attributes ++ [⟨edit.field, type⟩]
      edit.write entry grown
      return .appended (grown.length - 1)

/-- Edits in place an entry that was looked up. -/
def inPlace (edit : Edit) (held : Option Entry) : Editing EditOutcome := do
  let entry ← edit.require held
  let type ← edit.accept (edit.newType entry.attributes)
  edit.store entry type

end Edit

namespace GrammarModel

/-- Edits in place the entry under the name of an edit. -/
def editInPlace (edit : Edit) : Editing EditOutcome := do
  edit.inPlace ((← get).resolveForEdit edit.entry)

/-- Edits in place the named type under the name of an edit, even when a node has
the name too. -/
def editNamedTypeInPlace (edit : Edit) : Editing EditOutcome := do
  edit.inPlace (((← get).namedType? edit.entry).map .namedType)

end GrammarModel

end AstGrammar
