import AstGrammar.CommandLine.Arguments
import AstGrammar.CommandLine.Configuration
import AstGrammar.Session

/-!
# A run of the program

A run finds the settings, reads the grammar and the hints, loads a session,
applies the assignments in order and renders the named entries, or all of them.
The text is written or shown last, so nothing is when a step fails.
-/

namespace AstGrammar

/-- Why a run fails. -/
inductive RunError where
  | configuration (error : ConfigurationError)
  | session (error : SessionError)
  deriving DecidableEq

def RunError.message : RunError → String
  | .configuration error => error.message
  | .session error => error.message

namespace Session

/-- Applies edits in order. The first that is refused decides. -/
def editAll (session : Session) : List Edit → Except EntryError Session
  | [] => .ok session
  | edit :: rest =>
      match session.edit edit with
      | .error error => .error error
      | .ok (edited, _) => edited.editAll rest

/-- Makes edits in place, in order, up to the first that is refused. -/
def editAllInPlace : List Edit → EStateM EntryError Session Unit
  | [] => return
  | edit :: rest => do
      let _ ← editInPlace edit
      editAllInPlace rest

/-- The text of a run: the edited session's entries with some names, or all of
them when none is given. -/
def report (session : Session) (edits : List Edit) (names : List String) :
    Except EntryError String :=
  match session.editAll edits with
  | .error error => .error error
  | .ok edited => if names.isEmpty then edited.renderAll else edited.renderNames names

end Session

namespace Arguments

/-- The settings with what the arguments say about the hints. -/
def override (arguments : Arguments) (settings : Settings) : Settings :=
  match arguments.order with
  | some path => settings.withAttributeOrder path
  | none => settings

/-- Reads the hints that settings name, if they name any. -/
def readHints {m : Type → Type} [Monad m] (files : FileAccess m) (settings : Settings) :
    m (Except FileError (Option String)) := do
  match settings.source.attributeOrder with
  | none => return .ok none
  | some path => return (← files.read path).map some

/-- The text that arguments ask for, with some settings. -/
def text {m : Type → Type} [Monad m] (arguments : Arguments) (files : FileAccess m)
    (settings : Settings) : m (Except SessionError String) := do
  let settings := arguments.override settings
  match ← files.read arguments.grammar with
  | .error error => return .error (.file error)
  | .ok grammar =>
      match ← readHints files settings with
      | .error error => return .error (.file error)
      | .ok hints =>
          match Session.load settings ⟨grammar, hints⟩ with
          | .error error => return .error error
          | .ok session =>
              return (session.report (arguments.assignments.map Assignment.edit)
                arguments.names).mapError .entry

end Arguments

/-- Runs with some arguments. The text is written to the output file, or is the
result when there is none. -/
def run {m : Type → Type} [Monad m] (files : FileAccess m) (directory : Option String)
    (arguments : Arguments) : m (Except RunError (Option String)) := do
  match ← Configuration.load files arguments.config directory with
  | .error error => return .error (.configuration error)
  | .ok settings =>
      match ← arguments.text files settings with
      | .error error => return .error (.session error)
      | .ok text =>
          match arguments.output with
          | none => return .ok (some text)
          | some path =>
              match ← files.write path text with
              | .error error => return .error (.session (.file error))
              | .ok () => return .ok none

/-- Runs with some arguments, and shows the text when there is no output file. -/
def program {m : Type → Type} [Monad m] (access : ProgramAccess m) (directory : Option String)
    (arguments : Arguments) : m (Except RunError Unit) := do
  match ← run access.toFileAccess directory arguments with
  | .error error => return .error error
  | .ok none => return .ok ()
  | .ok (some text) =>
      match ← access.print text with
      | .error error => return .error (.session (.file error))
      | .ok () => return .ok ()

end AstGrammar
