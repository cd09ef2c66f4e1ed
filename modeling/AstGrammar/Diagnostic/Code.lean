/-!
# Codes of diagnostics

Each kind of problem in a grammar document or in a list of hints has a code
that stays the same when the wording changes.
-/

namespace AstGrammar

/-- The code of a diagnostic. -/
inductive DiagnosticCode where
  | invalidJson
  | missingCollection
  | invalidEntryShape
  | ambiguousEntryShape
  | misplacedEntry
  | invalidEntryFields
  | tooFewAlternatives
  | unexpectedAlternatives
  | repeatedAttribute
  | attributeOutsideSection
  | malformedHintLine
  | repeatedHint
  | repeatedSection
  | unknownNode
  | unknownAttribute
  deriving DecidableEq

namespace DiagnosticCode

def all : List DiagnosticCode :=
  [.invalidJson, .missingCollection, .invalidEntryShape, .ambiguousEntryShape, .misplacedEntry,
    .invalidEntryFields, .tooFewAlternatives, .unexpectedAlternatives, .repeatedAttribute,
    .attributeOutsideSection, .malformedHintLine, .repeatedHint, .repeatedSection, .unknownNode,
    .unknownAttribute]

def text : DiagnosticCode → String
  | .invalidJson => "E001"
  | .missingCollection => "E002"
  | .invalidEntryShape => "E100"
  | .ambiguousEntryShape => "E101"
  | .misplacedEntry => "E102"
  | .invalidEntryFields => "E103"
  | .tooFewAlternatives => "E104"
  | .unexpectedAlternatives => "E105"
  | .repeatedAttribute => "E106"
  | .attributeOutsideSection => "E200"
  | .malformedHintLine => "E201"
  | .repeatedHint => "E202"
  | .repeatedSection => "E203"
  | .unknownNode => "W300"
  | .unknownAttribute => "W301"

def description : DiagnosticCode → String
  | .invalidJson => "invalid JSON"
  | .missingCollection => "missing collection"
  | .invalidEntryShape => "invalid entry shape"
  | .ambiguousEntryShape => "ambiguous entry shape"
  | .misplacedEntry => "misplaced entry"
  | .invalidEntryFields => "invalid entry fields"
  | .tooFewAlternatives => "union with too few alternatives"
  | .unexpectedAlternatives => "alternatives on a non-union kind"
  | .repeatedAttribute => "duplicate attribute"
  | .attributeOutsideSection => "attribute outside node section"
  | .malformedHintLine => "malformed hint line"
  | .repeatedHint => "duplicate hinted attribute"
  | .repeatedSection => "duplicate node section"
  | .unknownNode => "unknown hinted node"
  | .unknownAttribute => "unknown hinted attribute"

def ofText? (text : String) : Option DiagnosticCode :=
  all.find? fun code => code.text == text

theorem mem_all (code : DiagnosticCode) : code ∈ all := by
  cases code <;> decide

theorem ofText?_text (code : DiagnosticCode) : ofText? code.text = some code := by
  cases code <;> decide

end DiagnosticCode

end AstGrammar
