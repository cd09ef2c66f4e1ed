import AstGrammar.CommandLine.Run

/-!
# Reports of errors

What is shown of an error: a rejected text gives one report for each of its
diagnostics, any other error gives one report.
-/

namespace AstGrammar

/-- Which kind of error a report is about. -/
inductive ReportKind where
  | diagnostic
  | error
  | configuration
  deriving DecidableEq

/-- A remark on a place in the text of a report. -/
structure ReportLabel where
  offset : Nat
  size : Nat
  isPrimary : Bool
  message : String
  deriving DecidableEq

/-- What is shown of an error. -/
structure Report where
  kind : ReportKind
  message : String
  code : Option String
  help : Option String
  severity : Option Severity
  labels : Option (List ReportLabel)
  text : Option String
  cause : Option String
  deriving DecidableEq

namespace Report

def ofLabel (label : Label) : ReportLabel :=
  ⟨label.span.start, label.span.size, label.isPrimary, label.message⟩

/-- The report of a diagnostic about a text. -/
def ofDiagnostic (text : String) (diagnostic : Diagnostic) : Report where
  kind := .diagnostic
  message := diagnostic.message
  code := diagnostic.code.map DiagnosticCode.text
  help := diagnostic.help
  severity := some diagnostic.severity
  labels := if diagnostic.labels.isEmpty then none else some (diagnostic.labels.map ofLabel)
  text := some text
  cause := none

def plain (message : String) (code help cause : Option String) : Report :=
  ⟨.error, message, code, help, none, none, none, cause⟩

def entryCode : EntryError → String
  | .invalidShape _ _ => "astshape::shape"
  | .malformedType _ _ => "astshape::type_expression"
  | .rejectedType _ _ _ => "astshape::edit"

def entryHelp? : EntryError → Option String
  | .invalidShape _ .absent =>
      some "names are case-sensitive; run without NAME to list every entry"
  | .rejectedType _ _ _ =>
      some "a union needs two or more alternatives; other kinds take a label or `kind:Label`"
  | _ => none

def entryCause? : EntryError → Option String
  | .rejectedType _ _ fault => some fault.message
  | _ => none

/-- The reports of a failed session. -/
def ofSessionError (error : SessionError) : List Report :=
  match error with
  | .source diagnostics text => diagnostics.map (ofDiagnostic text)
  | .file cause => [plain error.message (some "astshape::io") none (some cause.message)]
  | .entry entry =>
      [plain error.message (some (entryCode entry)) (entryHelp? entry) (entryCause? entry)]
  | .unplaced _ => [plain error.message none none none]

def configurationHelp? : ConfigurationError → Option String
  | .missing _ => some "check the path passed to --config"
  | .unreadable _ _ => none
  | .rejected _ _ _ =>
      some ("known sections are [source] (attribute_order, strict_order) and " ++
        "[render] (children_fallback, trailing_blank_line)")

/-- The label at the place of a fault in a configuration. -/
def configurationLabels? : ConfigurationError → Option (List ReportLabel)
  | .rejected _ _ fault =>
      fault.place?.map fun place => [⟨place.start, place.size, true, fault.message⟩]
  | _ => none

def configurationText? : ConfigurationError → Option String
  | .rejected _ text _ => some text
  | _ => none

def configurationCause? : ConfigurationError → Option String
  | .unreadable _ cause => some cause.message
  | _ => none

/-- The report of a configuration that gives no settings. -/
def ofConfigurationError (error : ConfigurationError) : Report where
  kind := .configuration
  message := error.message
  code := some "astshape::config"
  help := configurationHelp? error
  severity := none
  labels := configurationLabels? error
  text := configurationText? error
  cause := configurationCause? error

/-- The reports of a failed run. -/
def ofRunError : RunError → List Report
  | .configuration error => [ofConfigurationError error]
  | .session error => ofSessionError error

end Report

end AstGrammar
