import AstGrammar.AttributeOrder.Basic
import AstGrammar.Document.Model
import AstGrammar.Edit
import AstGrammar.Files.Tree
import AstGrammar.Settings.Basic

/-!
# Sessions

A session holds one loaded model, the options of its renderings and the
warnings of loading. A grammar text is loaded first, then the hints are read,
and last they are applied; so a bad grammar hides bad hints.
-/

namespace AstGrammar

/-- The texts that a model is loaded from. -/
structure GrammarSource where
  grammar : String
  hints : Option String
  deriving DecidableEq

/-- The text in which a problem was found. -/
inductive Origin where
  | grammar
  | hints
  deriving DecidableEq

/-- Why the texts give no model. -/
structure SourceError where
  origin : Origin
  error : LoadError
  deriving DecidableEq

namespace GrammarSource

def textOf (source : GrammarSource) : Origin → String
  | .grammar => source.grammar
  | .hints => source.hints.getD ""

/-- Loads the grammar and applies the hints. The warnings are about hints. -/
def load (source : GrammarSource) : Except SourceError (GrammarModel × List Diagnostic) :=
  match GrammarModel.load source.grammar with
  | .error error => .error ⟨.grammar, error⟩
  | .ok model =>
      match source.hints with
      | none => .ok (model, [])
      | some hints =>
          match AttributeOrder.parse hints with
          | .error diagnostics => .error ⟨.hints, .rejected diagnostics⟩
          | .ok order => .ok (order.apply model)

end GrammarSource

/-- Why a session fails. -/
inductive SessionError where
  | file (error : FileError)
  | source (diagnostics : List Diagnostic) (text : String)
  | entry (error : EntryError)
  /-- The grammar is no JSON, and the reported place falls inside a character. -/
  | unplaced (error : Json.SyntaxError)
  deriving DecidableEq

def SessionError.message : SessionError → String
  | .file error => s!"I/O error: {error.message}"
  | .source diagnostics _ => Diagnostic.summary diagnostics
  | .entry error => error.message
  | .unplaced error => error.message

/-- A loaded model with the options of its renderings. -/
structure Session where
  model : GrammarModel
  options : RenderOptions
  warnings : List Diagnostic

namespace Session

/-- A session with a model that is there already, and without warnings. -/
def ofModel (model : GrammarModel) (settings : Settings) : Session :=
  ⟨model, settings.render, []⟩

/-- Loads a session. When hints are taken strictly, warnings reject them. -/
def load (settings : Settings) (source : GrammarSource) : Except SessionError Session :=
  match source.load with
  | .error ⟨origin, .rejected diagnostics⟩ =>
      .error (.source diagnostics (source.textOf origin))
  | .error ⟨_, .unplaced error⟩ => .error (.unplaced error)
  | .ok (model, warnings) =>
      if settings.source.strictOrder && !warnings.isEmpty then
        .error (.source (warnings.map Diagnostic.asError) (source.textOf .hints))
      else .ok { ofModel model settings with warnings := warnings }

/-- Reads the text of a grammar and of the hints that the settings name. -/
def readSource {m : Type → Type} [Monad m] (files : FileAccess m) (settings : Settings)
    (path : String) : m (Except FileError GrammarSource) := do
  match ← files.read path with
  | .error error => return .error error
  | .ok grammar =>
      match settings.source.attributeOrder with
      | none => return .ok ⟨grammar, none⟩
      | some path =>
          match ← files.read path with
          | .error error => return .error error
          | .ok hints => return .ok ⟨grammar, some hints⟩

/-- Loads a session from files. Both texts are read before anything is
loaded. -/
def ofFiles {m : Type → Type} [Monad m] (files : FileAccess m) (settings : Settings)
    (path : String) : m (Except SessionError Session) := do
  match ← readSource files settings path with
  | .error error => return .error (.file error)
  | .ok source => return load settings source

def names (session : Session) : List String := session.model.names

def resolve (session : Session) (name : String) : Option Entry := session.model.resolve name

def shapeOf (session : Session) (name : String) : Except EntryError Shape :=
  (AstGrammar.shapeOf (session.resolve name)).mapError (.invalidShape name)

/-- Renders the entry under a name with the options of the session. -/
def render (session : Session) (name : String) : Except EntryError String :=
  Rendering.render session.options name (session.resolve name)

/-- Renders the entries with some names, one after the other. The first that has
no text decides. -/
def renderNames (session : Session) (names : List String) : Except EntryError String :=
  Rendering.renderNames session.options session.model names

/-- Renders the names of a session in order. A name that stands twice is looked
up twice. -/
def renderAll (session : Session) : Except EntryError String :=
  session.renderNames session.names

/-- Edits the model of a session. A refused edit leaves no session. -/
def edit (session : Session) (edit : Edit) : Except EntryError (Session × EditOutcome) :=
  match session.model.edit edit with
  | .error error => .error error
  | .ok (model, outcome) => .ok ({ session with model := model }, outcome)

/-- Edits the model of a session in place. -/
def editInPlace (edit : Edit) : EStateM EntryError Session EditOutcome := fun session =>
  match (GrammarModel.editInPlace edit).run session.model with
  | .ok outcome model => .ok outcome { session with model := model }
  | .error error model => .error error { session with model := model }

end Session

end AstGrammar
