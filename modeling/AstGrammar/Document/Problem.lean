import AstGrammar.Codec.DecodeError
import AstGrammar.Diagnostic.Basic
import AstGrammar.Json.SyntaxError
import AstGrammar.Shape

/-!
# Problems of a grammar document

A document that is no grammar has a list of problems. Each is a cause; its
code, wording and place in the text follow from it. Parsed values carry no
places, so a problem points at the first member key in the text with the name
of the entry.
-/

namespace AstGrammar

def Shape.collection : Shape → String
  | .node => "nodes"
  | .namedType => "namedTypes"

/-- A problem of one entry. -/
inductive EntryProblem where
  | noShape (fault : ShapeFault)
  | misplaced (shape expected : Shape)
  | unreadable (error : Codec.DecodeError)
  | attributeType (field : String) (fault : TypeFault)
  | definition (fault : TypeFault)
  | repeatedAttribute (field : String)
  deriving DecidableEq

/-- A problem of a document. -/
inductive DocumentProblem where
  | missingCollection (shape : Shape)
  | entry (name : String) (problem : EntryProblem)
  deriving DecidableEq

def TypeFault.code : TypeFault → DiagnosticCode
  | .tooFewAlternatives _ => .tooFewAlternatives
  | .unexpectedAlternatives _ => .unexpectedAlternatives

namespace EntryProblem

def code : EntryProblem → DiagnosticCode
  | .noShape .ambiguous => .ambiguousEntryShape
  | .noShape _ => .invalidEntryShape
  | .misplaced _ _ => .misplacedEntry
  | .unreadable _ => .invalidEntryFields
  | .attributeType _ fault => fault.code
  | .definition fault => fault.code
  | .repeatedAttribute _ => .repeatedAttribute

def message (name : String) : EntryProblem → String
  | .noShape fault => s!"invalid entry shape for `{name}`: {fault.message}"
  | .misplaced shape expected =>
      s!"`{name}` is shaped like a {shape.text} but is listed as a {expected.text}"
  | .unreadable error => s!"entry `{name}` has invalid fields: {error.message}"
  | .attributeType field fault =>
      s!"type of attribute `{field}` of `{name}` is malformed: {fault.message}"
  | .definition fault => s!"type of `{name}` is malformed: {fault.message}"
  | .repeatedAttribute field => s!"attribute `{field}` of `{name}` is defined more than once"

def remark : EntryProblem → String
  | .noShape _ => "defined here"
  | .misplaced _ _ => "misplaced entry"
  | .repeatedAttribute _ => "in this node"
  | _ => "in this entry"

def help? : EntryProblem → Option String
  | .noShape _ =>
      some ("a node needs `parents`, `children` and `attributes`; " ++
        "a named type needs `kind` and `argument`")
  | .misplaced shape _ => some s!"move it to `{shape.collection}`"
  | .repeatedAttribute _ => some "attribute names must be unique within a node"
  | _ => none

end EntryProblem

namespace DocumentProblem

def code : DocumentProblem → DiagnosticCode
  | .missingCollection _ => .missingCollection
  | .entry _ problem => problem.code

def message : DocumentProblem → String
  | .missingCollection shape => s!"grammar document has no `{shape.collection}` object"
  | .entry name problem => problem.message name

def key : DocumentProblem → String
  | .missingCollection shape => shape.collection
  | .entry name _ => name

def remark : DocumentProblem → String
  | .missingCollection _ => "not an object"
  | .entry _ problem => problem.remark

def help? : DocumentProblem → Option String
  | .missingCollection _ => some "the top level needs both `nodes` and `namedTypes` objects"
  | .entry _ problem => problem.help?

/-- The diagnostic for a problem of a document with a text. -/
def diagnostic (text : List Char) (problem : DocumentProblem) : Diagnostic :=
  let labelled := (Diagnostic.error problem.code problem.message).withLabel?
    (Text.Span.ofKey text problem.key) problem.remark
  { labelled with help := problem.help? }

end DocumentProblem

/-- The diagnostic for a text that is no JSON. There is none where the reported
place falls inside a character, because no span starts there. -/
def Json.SyntaxError.diagnostic? (text : List Char) (error : Json.SyntaxError) :
    Option Diagnostic :=
  (Text.Span.atLineColumn text error.position.line error.position.column).map fun span =>
    (Diagnostic.error .invalidJson
      s!"grammar document is not valid JSON: {error.message}").withLabel span "here"

end AstGrammar
