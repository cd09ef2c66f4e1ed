import AstGrammar.Diagnostic.Code
import AstGrammar.Text.Span

/-!
# Diagnostics

A diagnostic is a problem in a text, with labels for the places that matter
and perhaps advice. A rejected text has a list of them, in the order in which
they were found.
-/

namespace AstGrammar

/-- How serious a diagnostic is. -/
inductive Severity where
  | error
  | warning
  deriving DecidableEq

def Severity.text : Severity → String
  | .error => "error"
  | .warning => "warning"

/-- A remark on a place in a text. -/
structure Label where
  span : Text.Span
  message : String
  /-- The place of the problem itself, not of something related to it. -/
  isPrimary : Bool
  deriving DecidableEq

/-- A problem in a text. -/
structure Diagnostic where
  severity : Severity
  code : Option DiagnosticCode
  message : String
  labels : List Label
  help : Option String
  deriving DecidableEq

namespace Diagnostic

def error (code : DiagnosticCode) (message : String) : Diagnostic :=
  ⟨.error, some code, message, [], none⟩

def warning (code : DiagnosticCode) (message : String) : Diagnostic :=
  ⟨.warning, some code, message, [], none⟩

def withLabel (diagnostic : Diagnostic) (span : Text.Span) (message : String) : Diagnostic :=
  { diagnostic with labels := diagnostic.labels ++ [⟨span, message, true⟩] }

/-- Adds a label for the place of the problem, if the place is known. -/
def withLabel? (diagnostic : Diagnostic) (span : Option Text.Span) (message : String) :
    Diagnostic :=
  match span with
  | some span => diagnostic.withLabel span message
  | none => diagnostic

def withRelated (diagnostic : Diagnostic) (span : Text.Span) (message : String) : Diagnostic :=
  { diagnostic with labels := diagnostic.labels ++ [⟨span, message, false⟩] }

def withHelp (diagnostic : Diagnostic) (help : String) : Diagnostic :=
  { diagnostic with help := some help }

def asError (diagnostic : Diagnostic) : Diagnostic := { diagnostic with severity := .error }

/-- The diagnostic on one line: severity, code and message. -/
def text (diagnostic : Diagnostic) : String :=
  match diagnostic.code with
  | some code => s!"{diagnostic.severity.text}[{code.text}]: {diagnostic.message}"
  | none => s!"{diagnostic.severity.text}: {diagnostic.message}"

def errors (diagnostics : List Diagnostic) : List Diagnostic :=
  diagnostics.filter fun diagnostic => diagnostic.severity == .error

/-- The first diagnostic on one line, with the number of the others. -/
def summary : List Diagnostic → String
  | [] => ""
  | [diagnostic] => diagnostic.text
  | diagnostic :: rest => s!"{diagnostic.text} (+{rest.length} more)"

end Diagnostic

end AstGrammar
