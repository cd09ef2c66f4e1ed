import AstGrammar.Codec.Encode
import AstGrammar.Shape
import AstGrammar.Json.Printer

/-!
# Rendering entries

The text of an entry starts with a line for its name. A node has one line for
each attribute, a named type one for its kind and one for its labels. Each line
ends with a line feed, and a blank line may follow. Expressions are unfolded
one level deep; what is nested deeper is shown as compact JSON.
-/

namespace AstGrammar

/-- The optional parts of a rendering. -/
structure RenderOptions where
  childrenFallback : Bool
  trailingBlankLine : Bool
  deriving DecidableEq

namespace RenderOptions

def standard : RenderOptions := ⟨true, true⟩

end RenderOptions

namespace Rendering

/-- An argument as it is written: its label, or compact JSON. -/
def argumentText : Argument → String
  | .label name => name
  | argument => (Codec.encodeArgument argument).compact

/-- The line of an attribute. An attribute with alternatives has none. -/
def attributeLine (field : Attribute) : Except RenderFault String :=
  match field.type.argument with
  | .label name => .ok s!"{field.name} : {name}"
  | .nested inner =>
      .ok s!"{field.name} : {field.type.kind.name} [ {argumentText inner.argument} ]"
  | .alternatives items => .error (.attributeWithAlternatives field.name items.length)

/-- The lines of attributes, or what is wrong with the first that has none. -/
def attributeLines : List Attribute → Except RenderFault (List String)
  | [] => .ok []
  | field :: rest =>
      match attributeLine field with
      | .error fault => .error fault
      | .ok line => (attributeLines rest).map (line :: ·)

/-- The lines of a node below its name: one for each attribute, or its children
when it has no attributes and the options ask for them. -/
def nodeLines (options : RenderOptions) (node : Node) : Except RenderFault (List String) :=
  if node.attributes.isEmpty && options.childrenFallback then
    .ok ("no attributes, children:" :: node.children)
  else attributeLines node.attributes

/-- The labels of alternatives, of which the first has an index. -/
def alternativeLabels (index : Nat) : List TypeExpression → Except RenderFault (List String)
  | [] => .ok []
  | item :: rest =>
      match item.argument.label? with
      | none => .error (.alternativeWithoutLabel index item.kind)
      | some label => (alternativeLabels (index + 1) rest).map (label :: ·)

/-- The labels of an argument. One nested expression counts as an alternative. -/
def argumentLabels : Argument → Except RenderFault (List String)
  | .label name => .ok [name]
  | .nested inner => alternativeLabels 0 [inner]
  | .alternatives items => alternativeLabels 0 items

def separator : TypeKind → String
  | .union => " | "
  | _ => " "

/-- The two lines of a named type below its name, of which the first has its
kind and the second its labels. -/
def namedTypeLines (namedType : NamedType) : Except RenderFault (List String) :=
  match argumentLabels namedType.expression.argument with
  | .error fault => .error fault
  | .ok labels =>
      let kind := namedType.expression.kind
      .ok [s!"kind: {kind.name}", (separator kind).intercalate labels]

/-- The lines of an entry below its name, or what in it cannot be rendered. -/
def entryLines (options : RenderOptions) : Entry → Except RenderFault (List String)
  | .node node => nodeLines options node
  | .namedType namedType => namedTypeLines namedType

def joinLines (lines : List String) : String := String.join (lines.map (· ++ "\n"))

/-- The text of an entry that was looked up under a name. There is none when the
lookup failed, or when a part of the entry has no line. -/
def render (options : RenderOptions) (name : String) :
    Option Entry → Except EntryError String
  | none => .error (.invalidShape name .absent)
  | some entry =>
      match entryLines options entry with
      | .error fault => .error (.malformedType name fault)
      | .ok lines =>
          .ok (joinLines (name :: lines) ++ (if options.trailingBlankLine then "\n" else ""))

/-- The texts of the entries with some names, one after the other. -/
def renderNames (options : RenderOptions) (model : GrammarModel) :
    List String → Except EntryError String
  | [] => .ok ""
  | name :: rest =>
      match render options name (model.resolve name) with
      | .error error => .error error
      | .ok text => (renderNames options model rest).map (text ++ ·)

end Rendering

end AstGrammar
