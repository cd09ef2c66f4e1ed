import AstGrammar.Codec.Decode
import AstGrammar.Document.Problem
import AstGrammar.Json.Reader

/-!
# Loading a grammar document

A document has an object of nodes and an object of named types. Every entry is
read by itself: its shape must be that of its collection, its fields must be
readable and its types without faults. The model is there only when no entry
has a problem; otherwise all problems are reported in the order of the
document, nodes first.
-/

namespace AstGrammar

namespace Document

/-- A member of an entry is present when it is there and not null. -/
def hasField (members : List (String × Json)) (name : String) : Bool :=
  ((Json.member? name members).map Json.isPresent).getD false

/-- Which fields of a raw entry are present. Only an object has fields. -/
def presence : Json → Presence
  | .object members =>
      ⟨hasField members "parents", hasField members "children", hasField members "attributes",
        hasField members "kind", hasField members "argument"⟩
  | _ => ⟨false, false, false, false, false⟩

/-- The problem with the shape of a raw entry in a collection. -/
def shapeProblem? (expected : Shape) (raw : Json) : Option EntryProblem :=
  match (presence raw).shape with
  | .error fault => some (.noShape fault)
  | .ok shape => if shape = expected then none else some (.misplaced shape expected)

/-- The problems with the types of attributes, in order. -/
def attributeProblems (attributes : List Attribute) : List EntryProblem :=
  attributes.filterMap fun field => field.type.fault?.map (.attributeType field.name)

/-- The problems of a node whose fields could be read: faults of types first,
and then the first name that is repeated. -/
def nodeProblems (node : Node) : List EntryProblem :=
  attributeProblems node.attributes ++
    ((Attribute.repeated? node.attributes).map EntryProblem.repeatedAttribute).toList

/-- The problems of a named type whose fields could be read. Properties are
taken as they are. -/
def namedTypeProblems (namedType : NamedType) : List EntryProblem :=
  (namedType.expression.fault?.map EntryProblem.definition).toList

/-- What loading an entry gives: a value without problems, or its problems. -/
def readEntry {α : Type} (expected : Shape) (decode : Json → Codec.Decoded α)
    (problems : α → List EntryProblem) (raw : Json) : Except (List EntryProblem) α :=
  match shapeProblem? expected raw with
  | some problem => .error [problem]
  | none =>
      match decode raw with
      | .error error => .error [.unreadable error]
      | .ok value =>
          match problems value with
          | [] => .ok value
          | found => .error found

/-- Reads a raw entry as a node. -/
def readNode (raw : Json) : Except (List EntryProblem) Node :=
  readEntry .node Codec.decodeNode nodeProblems raw

/-- Reads a raw entry as a named type. -/
def readNamedType (raw : Json) : Except (List EntryProblem) NamedType :=
  readEntry .namedType Codec.decodeNamedType namedTypeProblems raw

/-- A collection while it is loaded: the entries without problems, and the
problems of the others. -/
structure Loaded (α : Type) where
  registry : Registry α
  problems : List DocumentProblem

/-- Loads the entries of a collection one after the other. -/
def readMembers {α : Type} (read : Json → Except (List EntryProblem) α) (loaded : Loaded α) :
    List (String × Json) → Loaded α
  | [] => loaded
  | (name, raw) :: rest =>
      match read raw with
      | .ok value =>
          readMembers read { loaded with registry := loaded.registry.insert name value } rest
      | .error found =>
          readMembers read
            { loaded with problems := loaded.problems ++ found.map (DocumentProblem.entry name) }
            rest

/-- The members of the collection for a shape, if the document has it. -/
def collection? (shape : Shape) : Json → Option (List (String × Json))
  | .object members =>
      match Json.member? shape.collection members with
      | some (.object entries) => some entries
      | _ => none
  | _ => none

/-- The problem that a document has no collection for a shape. -/
def missing (shape : Shape) (document : Json) : List DocumentProblem :=
  match collection? shape document with
  | some _ => []
  | none => [.missingCollection shape]

/-- Loads the collection for a shape. A missing one has no entries. -/
def readCollection {α : Type} (shape : Shape) (read : Json → Except (List EntryProblem) α)
    (document : Json) : Loaded α :=
  readMembers read ⟨.empty, []⟩ ((collection? shape document).getD [])

/-- Reads a document: the model when nothing is wrong with it, and else all
problems. Missing collections come first, then nodes, then named types. -/
def readModel (document : Json) : Except (List DocumentProblem) GrammarModel :=
  let nodes := readCollection .node readNode document
  let namedTypes := readCollection .namedType readNamedType document
  match missing .node document ++ missing .namedType document ++
      nodes.problems ++ namedTypes.problems with
  | [] => .ok ⟨nodes.registry, namedTypes.registry⟩
  | problems => .error problems

end Document

/-- Why a text gives no model. -/
inductive LoadError where
  | rejected (diagnostics : List Diagnostic)
  /-- The text is no JSON, and the reported place falls inside a character. -/
  | unplaced (error : Json.SyntaxError)
  deriving DecidableEq

namespace GrammarModel

/-- Loads a model from the text of a document. A text that is no JSON has a
single diagnostic, any other that is rejected has one for each problem. -/
def load (text : String) : Except LoadError GrammarModel :=
  match Json.parse text with
  | .error error =>
      match error.diagnostic? text.toList with
      | some diagnostic => .error (.rejected [diagnostic])
      | none => .error (.unplaced error)
  | .ok document =>
      match Document.readModel document with
      | .ok model => .ok model
      | .error problems =>
          .error (.rejected (problems.map (DocumentProblem.diagnostic text.toList)))

end GrammarModel

end AstGrammar
