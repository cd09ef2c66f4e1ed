import AstGrammar.Files.Tree
import AstGrammar.Settings.Basic
import AstGrammar.Toml.Reader

/-!
# Finding the configuration

A path on the command line must name a file. Without one, the first file among
the local one and the user's own is taken, and standard settings apply when
there is neither.
-/

namespace AstGrammar

/-- Why the text of a configuration is not accepted. -/
inductive ConfigurationFault where
  | malformed
  | invalid (error : SettingError)
  deriving DecidableEq

def ConfigurationFault.message : ConfigurationFault → String
  | .malformed => "malformed TOML"
  | .invalid error => error.fault.message

def ConfigurationFault.place? : ConfigurationFault → Option Text.Span
  | .malformed => none
  | .invalid error => error.place

/-- Why there are no settings. -/
inductive ConfigurationError where
  | missing (path : String)
  | unreadable (path : String) (error : FileError)
  | rejected (path text : String) (fault : ConfigurationFault)
  deriving DecidableEq

def ConfigurationError.message : ConfigurationError → String
  | .missing path => s!"configuration file `{path}` does not exist"
  | .unreadable path _ => s!"cannot read configuration file `{path}`"
  | .rejected path _ fault => s!"invalid configuration in `{path}`: {fault.message}"

namespace Settings

/-- Reads settings from the text of a configuration. What a list has too much
is passed over. -/
def parse (text : String) : Except ConfigurationFault Settings :=
  match Toml.parse? text with
  | none => .error .malformed
  | some setting => (ofSetting false setting).mapError .invalid

end Settings

namespace Configuration

def localPath : String := "astshape/config.toml"

/-- The path of a user's own configuration in a directory for all of them. -/
def userPath (directory : String) : String := s!"{directory}/astshape/config.toml"

variable {m : Type → Type} [Monad m]

/-- The first of some paths that names a file. -/
def firstFile (files : FileAccess m) : List String → m (Option String)
  | [] => return none
  | path :: rest => do
      if ← files.isFile path then return some path
      else firstFile files rest

/-- Reads the settings from a file. -/
def readFile (files : FileAccess m) (path : String) :
    m (Except ConfigurationError Settings) := do
  match ← files.read path with
  | .error error => return .error (.unreadable path error)
  | .ok text => return (Settings.parse text).mapError (.rejected path text)

/-- Finds the settings. `explicit` is the path on the command line and
`directory` the one for the configurations of the user, if there are any. -/
def load (files : FileAccess m) (explicit directory : Option String) :
    m (Except ConfigurationError Settings) := do
  match explicit with
  | some path =>
      if ← files.isFile path then readFile files path
      else return .error (.missing path)
  | none =>
      match ← firstFile files (localPath :: (directory.map userPath).toList) with
      | some path => readFile files path
      | none => return .ok .standard

end Configuration

end AstGrammar
