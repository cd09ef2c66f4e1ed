import AstGrammar.CommandLine.Report

/-!
# The program

Reads the arguments, runs on the files of the system and shows the text or the
reports of the error.
-/

namespace AstGrammar.Main

def fileError : IO.Error → FileError
  | .noFileOrDirectory _ _ _ => .notFound
  | .inappropriateType _ _ _ => .isDirectory
  | error => .other (toString error)

def readFile (path : String) : IO (Except FileError String) := do
  try
    match String.fromUTF8? (← IO.FS.readBinFile path) with
    | some text => return .ok text
    | none => return .error .notUtf8
  catch error => return .error (fileError error)

def writeFile (path content : String) : IO (Except FileError Unit) := do
  try
    IO.FS.writeFile path content
    return .ok ()
  catch error => return .error (fileError error)

/-- A path names a file that is there, whether or not its text is accepted. -/
def isFile (path : String) : IO Bool := do
  match ← readFile path with
  | .ok _ => return true
  | .error .notUtf8 => return true
  | .error (.other _) => return true
  | .error _ => return false

def printText (text : String) : IO (Except FileError Unit) := do
  try
    IO.print text
    return .ok ()
  catch error => return .error (fileError error)

def access : ProgramAccess IO := ⟨⟨isFile, readFile, writeFile⟩, printText⟩

/-- The directory for the configurations of the user. Only an absolute one
counts. -/
def userDirectory : IO (Option String) := do
  match ← IO.getEnv "XDG_CONFIG_HOME" with
  | some directory =>
      if directory.toList.head? = some '/' then return some directory
      else return (← IO.getEnv "HOME").map (· ++ "/.config")
  | none => return (← IO.getEnv "HOME").map (· ++ "/.config")

def reportLines (report : Report) : List String :=
  let code := (report.code.map fun code => s!"[{code}]").getD ""
  let severity := (report.severity.map Severity.text).getD "error"
  let labels := (report.labels.getD []).map fun label =>
    s!"  at bytes {label.offset} to {label.offset + label.size}: {label.message}"
  [s!"{severity}{code}: {report.message}"] ++ labels ++
    (report.cause.map fun cause => s!"  caused by: {cause}").toList ++
    (report.help.map fun help => s!"  help: {help}").toList

/-- Shows a usage error. Help and version are no failures. -/
def showUsage (error : UsageError) : IO UInt32 := do
  match error with
  | .helpRequested => do
      IO.println error.message
      return 0
  | .versionRequested => do
      IO.println error.message
      return 0
  | _ => do
      IO.eprintln s!"error: {error.message}"
      return 2

/-- Runs with some words behind the name of the program. -/
def runWords (words : List String) : IO UInt32 := do
  match Arguments.parse words with
  | .error error => showUsage error
  | .ok arguments =>
      match ← program access (← userDirectory) arguments with
      | .ok () => return 0
      | .error error => do
          for report in Report.ofRunError error do
            for line in reportLines report do
              IO.eprintln line
          return 1

end AstGrammar.Main

def main (words : List String) : IO UInt32 := AstGrammar.Main.runWords words
