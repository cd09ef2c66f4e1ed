/-!
# Files

What a program needs of a file system: to ask whether a path names a file, to
read a file as text and to write one; and besides, to show a text. The
operations run in any monad, so the same program works on a tree of files that
is a value and on real files.

A tree of files is the list of its files with their paths; a directory is there
when some file lies below it. Paths are followed from the root of the tree. Of
what lies outside of it only the directories above the root are known.
-/

namespace AstGrammar

/-- Why a file cannot be read or written. -/
inductive FileError where
  | notFound
  | isDirectory
  | notDirectory
  | notUtf8
  | nulInPath
  | nameTooLong
  | other (text : String)
  deriving DecidableEq

def FileError.message : FileError → String
  | .notFound => "No such file or directory"
  | .isDirectory => "Is a directory"
  | .notDirectory => "Not a directory"
  | .notUtf8 => "stream did not contain valid UTF-8"
  | .nulInPath => "file name contained an unexpected NUL byte"
  | .nameTooLong => "File name too long"
  | .other text => text

/-- Operations on files in a monad. -/
structure FileAccess (m : Type → Type) where
  isFile : (path : String) → m Bool
  read : (path : String) → m (Except FileError String)
  write : (path content : String) → m (Except FileError Unit)

/-- Operations on files, and showing a text, in a monad. -/
structure ProgramAccess (m : Type → Type) extends FileAccess m where
  print : (text : String) → m (Except FileError Unit)

/-- The files of a tree by the names on their way from the root. -/
structure FileTree where
  files : List (List String × ByteArray)

namespace FileTree

def empty : FileTree := ⟨[]⟩

/-- What a place in a tree holds. -/
inductive Place where
  | file (content : ByteArray)
  | directory
  | nothing

def isAbove (names : List String) : Bool := names.all (· == "..")

/-- What the place with some names holds. The root and all above it are
directories. -/
def placeAt (tree : FileTree) (names : List String) : Place :=
  match tree.files.lookup names with
  | some content => .file content
  | none =>
      if isAbove names || tree.files.any fun entry => names.isPrefixOf entry.1 then .directory
      else .nothing

def greatestNameSize : Nat := 255

/-- The names of the place that a name leads to from a place with some names.
Two dots lead back, and above the root further up. -/
def extended (names : List String) (name : String) : List String :=
  if name = "" ∨ name = "." then names
  else if name = ".." then if isAbove names then names ++ [name] else names.dropLast
  else names ++ [name]

/-- One step along a path. Steps go from a directory only. -/
def step (tree : FileTree) (names : List String) (name : String) :
    Except FileError (List String) :=
  match tree.placeAt names with
  | .file _ => .error .notDirectory
  | .nothing => .error .notFound
  | .directory =>
      if greatestNameSize < name.utf8ByteSize then .error .nameTooLong
      else .ok (extended names name)

def splitSlashes : List Char → List (List Char)
  | [] => [[]]
  | character :: rest =>
      if character = '/' then [] :: splitSlashes rest
      else
        match splitSlashes rest with
        | [] => [[character]]
        | first :: others => (character :: first) :: others

def pathNames (path : String) : List String := (splitSlashes path.toList).map String.ofList

def walk (tree : FileTree) (names : List String) : Except FileError (List String) :=
  names.foldlM tree.step []

def greatestPathSize : Nat := 4095

/-- The place that a path leads to. Absolute paths start in a directory of which
nothing is known but that it is one. -/
def follow (tree : FileTree) (path : String) : Except FileError (List String) :=
  if path.toList.contains '\x00' then .error .nulInPath
  else if path = "" then .error .notFound
  else if greatestPathSize < path.utf8ByteSize then .error .nameTooLong
  else if path.toList.head? = some '/' then
    match empty.walk (pathNames path) with
    | .error error => .error error
    | .ok names => if isAbove names then .ok [] else .error .notFound
  else tree.walk (pathNames path)

def isFile (tree : FileTree) (path : String) : Bool :=
  match tree.follow path with
  | .ok names =>
      match tree.placeAt names with
      | .file _ => true
      | _ => false
  | .error _ => false

def read (tree : FileTree) (path : String) : Except FileError String :=
  match tree.follow path with
  | .error error => .error error
  | .ok names =>
      match tree.placeAt names with
      | .nothing => .error .notFound
      | .directory => .error .isDirectory
      | .file content =>
          match String.fromUTF8? content with
          | some text => .ok text
          | none => .error .notUtf8

/-- Puts a file at a place, instead of one that is there. -/
def put (tree : FileTree) (names : List String) (content : ByteArray) : FileTree :=
  ⟨(names, content) :: tree.files.filter fun entry => entry.1 ≠ names⟩

/-- The tree with files at some paths and all directories on their way. A later
file replaces an earlier one. -/
def ofFiles (files : List (String × ByteArray)) : FileTree :=
  files.foldl (fun tree (path, content) =>
    tree.put ((pathNames path).foldl extended []) content) empty

/-- The path of the directory that holds the last name of a path. -/
def parentPath (path : String) : String :=
  let names := path.toList.reverse.dropWhile (· == '/')
  String.ofList (names.dropWhile (· != '/')).reverse ++ "."

/-- The place where a path puts a file. A slash at the end asks for a directory
even when there is none. -/
def target (tree : FileTree) (path : String) : Except FileError (List String) :=
  if path.toList.getLast? = some '/' then
    match tree.follow (parentPath path) with
    | .error error => .error error
    | .ok _ => .error .isDirectory
  else tree.follow path

/-- Writes a text to the file at a path. The directory must be there. -/
def write (tree : FileTree) (path content : String) : Except FileError FileTree :=
  match tree.target path with
  | .error error => .error error
  | .ok names =>
      match tree.placeAt names with
      | .directory => .error .isDirectory
      | _ => .ok (tree.put names content.toUTF8)

/-- Access to the files of a tree that is the state of a computation. -/
def access : FileAccess (StateM FileTree) where
  isFile path := do return (← get).isFile path
  read path := do return (← get).read path
  write path content := do
    match (← get).write path content with
    | .ok tree => do
        set tree
        return .ok ()
    | .error error => return .error error

end FileTree

end AstGrammar
