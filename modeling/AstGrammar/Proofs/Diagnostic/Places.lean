import AstGrammar.Document.Problem
import AstGrammar.Proofs.Text.Span

/-!
# Places of diagnostics

A diagnostic lies in a text when each of its labels does.  The diagnostics of a document
lie in the text of the document, wherever the search for a key or for a line leads.  The
outline of a diagnostic keeps its code and its places and leaves its wording out.
-/

namespace AstGrammar

open Text

namespace Diagnostic

/-- What a diagnostic says apart from its wording. -/
structure Outline where
  severity : Severity
  code : Option String
  /-- The places it points at, marked where they are the problem itself. -/
  places : List (Span × Bool)
  deriving DecidableEq

def outline (diagnostic : Diagnostic) : Outline where
  severity := diagnostic.severity
  code := diagnostic.code.map DiagnosticCode.text
  places := diagnostic.labels.map fun label => (label.span, label.isPrimary)

variable {text : List Char} {diagnostic : Diagnostic} {span : Span} {message : String}

/-- Every label of the diagnostic lies in the text. -/
def IsIn (diagnostic : Diagnostic) (text : List Char) : Prop :=
  ∀ label ∈ diagnostic.labels, label.span.IsIn text

/-- The diagnostic is an error with a code, and lies in the text. -/
structure Rejects (diagnostic : Diagnostic) (text : List Char) : Prop where
  isError : diagnostic.severity = .error
  hasCode : diagnostic.code.isSome
  isIn : diagnostic.IsIn text

theorem isIn_error (code : DiagnosticCode) (message : String) (text : List Char) :
    (error code message).IsIn text := by
  intro label held
  cases held

theorem isIn_warning (code : DiagnosticCode) (message : String) (text : List Char) :
    (warning code message).IsIn text := by
  intro label held
  cases held

theorem IsIn.append {other : Diagnostic} {label : Label} (isIn : diagnostic.IsIn text)
    (labels : other.labels = diagnostic.labels ++ [label]) (labelIn : label.span.IsIn text) :
    other.IsIn text := by
  intro held member
  rw [labels] at member
  rcases List.mem_append.1 member with before | here
  · exact isIn held before
  · rw [List.mem_singleton.1 here]
    exact labelIn

theorem IsIn.withLabel (isIn : diagnostic.IsIn text) (spanIn : span.IsIn text) :
    (diagnostic.withLabel span message).IsIn text :=
  isIn.append rfl spanIn

theorem IsIn.withRelated (isIn : diagnostic.IsIn text) (spanIn : span.IsIn text) :
    (diagnostic.withRelated span message).IsIn text :=
  isIn.append rfl spanIn

theorem IsIn.withLabel? {found : Option Span} (isIn : diagnostic.IsIn text)
    (foundIn : ∀ span, found = some span → span.IsIn text) :
    (diagnostic.withLabel? found message).IsIn text := by
  cases found with
  | none => exact isIn
  | some span => exact isIn.withLabel (foundIn span rfl)

@[simp] theorem severity_withLabel? (diagnostic : Diagnostic) (found : Option Span)
    (message : String) :
    (diagnostic.withLabel? found message).severity = diagnostic.severity := by
  cases found <;> rfl

@[simp] theorem code_withLabel? (diagnostic : Diagnostic) (found : Option Span)
    (message : String) : (diagnostic.withLabel? found message).code = diagnostic.code := by
  cases found <;> rfl

/-- A warning with a code rejects its text when it is taken as an error. -/
theorem rejects_asError (hasCode : diagnostic.code.isSome) (isIn : diagnostic.IsIn text) :
    diagnostic.asError.Rejects text :=
  ⟨rfl, hasCode, isIn⟩

end Diagnostic

variable {text : List Char}

theorem DocumentProblem.rejects_diagnostic (problem : DocumentProblem) (text : List Char) :
    (problem.diagnostic text).Rejects text where
  isError := Diagnostic.severity_withLabel? _ _ _
  hasCode := congrArg Option.isSome (Diagnostic.code_withLabel? _ _ _)
  isIn := (Diagnostic.isIn_error _ _ text).withLabel? fun _ => Span.isIn_of_ofKey

theorem Json.SyntaxError.rejects_diagnostic? {error : Json.SyntaxError} {diagnostic : Diagnostic}
    (given : error.diagnostic? text = some diagnostic) : diagnostic.Rejects text := by
  obtain ⟨span, found, rfl⟩ := Option.map_eq_some_iff.1 given
  exact ⟨rfl, rfl, (Diagnostic.isIn_error _ _ text).withLabel (Span.isIn_of_atLineColumn found)⟩

end AstGrammar
