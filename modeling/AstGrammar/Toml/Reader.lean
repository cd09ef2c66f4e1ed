import AstGrammar.Toml.Scalar
import AstGrammar.Toml.Table

/-!
# Reading TOML

A document is a sequence of lines: headers of tables, keys with values, blank
lines and comments. Reading gives one table with the place of every value, or
nothing when the document is malformed. The depth to which lists and tables in
braces may be nested is limited.
-/

namespace AstGrammar.Toml

/-- The text behind a comment and its number sign, up to the line end. -/
def skipComment? : List Char → Option (List Char)
  | [] => some []
  | '\n' :: rest => some ('\n' :: rest)
  | '\r' :: '\n' :: rest => some ('\r' :: '\n' :: rest)
  | character :: rest => if isControl character then none else skipComment? rest

/-- The text behind blanks and a comment, up to the line end. -/
def skipRemark? (text : List Char) : Option (List Char) :=
  match skipBlanks text with
  | '#' :: rest => skipComment? rest
  | rest => some rest

/-- The text behind a line of which all but a comment is read. -/
def skipLine? (text : List Char) : Option (List Char) := do
  match ← skipRemark? text with
  | [] => some []
  | rest => skipLineEnd? rest

/-- The text behind blanks, line ends and comments. `fuel` is at least the
length of the text. -/
def skipGap? : (fuel : Nat) → List Char → Option (List Char)
  | 0, text => some text
  | fuel + 1, text => do
      let rest ← skipRemark? text
      match skipLineEnd? rest with
      | some rest => skipGap? fuel rest
      | none => some rest

def isBareKey (character : Char) : Bool :=
  character.isAlphanum || character == '_' || character == '-'

/-- The place between the starts of two rests of a document. -/
def placeOf (total : Nat) (text rest : List Char) : Text.Span :=
  .between (total - Text.byteSize text) (total - Text.byteSize rest)

def readSimpleKey (total : Nat) (text : List Char) : Option (Key × List Char) :=
  match text with
  | '"' :: rest => named (readBasic text.length [] rest)
  | '\'' :: rest => named (readLiteral [] rest)
  | _ =>
      let name := text.takeWhile isBareKey
      if name.isEmpty then none
      else named (some (String.ofList name, text.dropWhile isBareKey))
where
  named : Option (String × List Char) → Option (Key × List Char)
    | some (name, rest) => some (⟨name, placeOf total text rest⟩, rest)
    | none => none

/-- How deep lists and tables in braces may be nested, and how many parts a key
may have. -/
def greatestDepth : Nat := 80

/-- Reads a key with dots between its parts, of which there may be so many. -/
def readKeyParts (total : Nat) : (count : Nat) → List Char → Option (List Key × List Char)
  | 0, _ => none
  | count + 1, text => do
      let (key, rest) ← readSimpleKey total (skipBlanks text)
      match skipBlanks rest with
      | '.' :: rest => do
          let (keys, rest) ← readKeyParts total count rest
          return (key :: keys, rest)
      | rest => some ([key], rest)

/-- Reads a key with dots between its parts. -/
def readKey (total : Nat) (text : List Char) : Option (List Key × List Char) :=
  readKeyParts total greatestDepth text

mutual

/-- Reads a value. Every list, table and item takes fuel. -/
def readValue (total : Nat) : (fuel depth : Nat) → List Char → Option (Setting × List Char)
  | 0, _, _ => none
  | fuel + 1, depth, text =>
      match text with
      | '[' :: rest =>
          if depth = 0 then none
          else do
            let (items, rest) ← readItems total fuel (depth - 1) [] rest
            return (.list (some (placeOf total text rest)) items, rest)
      | '\x7b' :: rest =>
          if depth = 0 then none
          else do
            let (entries, rest) ← readBraces total fuel (depth - 1) [] rest
            return (tableSetting (some (placeOf total text rest)) entries, rest)
      | _ => do
          let (value, rest) ← readSingle text
          return (value.setting (placeOf total text rest), rest)

/-- Reads the items of a list behind its bracket or a comma. The items so far
are kept in reverse. -/
def readItems (total : Nat) :
    (fuel depth : Nat) → (taken : List Setting) → List Char →
      Option (List Setting × List Char)
  | 0, _, _, _ => none
  | fuel + 1, depth, taken, text => do
      match ← skipGap? text.length text with
      | ']' :: rest => some (taken.reverse, rest)
      | rest => do
          let (item, rest) ← readValue total fuel depth rest
          match ← skipGap? rest.length rest with
          | ',' :: rest => readItems total fuel depth (item :: taken) rest
          | ']' :: rest => some ((item :: taken).reverse, rest)
          | _ => none

/-- Reads the entries of a table in braces behind its brace or a comma. Lines
may end on both sides of an equals sign. -/
def readBraces (total : Nat) :
    (fuel depth : Nat) → (entries : Entries) → List Char → Option (Entries × List Char)
  | 0, _, _, _ => none
  | fuel + 1, depth, entries, text => do
      match ← skipGap? text.length text with
      | '\x7d' :: rest => some (entries, rest)
      | rest => do
          let (keys, rest) ← readKey total rest
          match ← skipGap? rest.length rest with
          | '=' :: rest => do
              let (value, rest) ← readValue total fuel depth (← skipGap? rest.length rest)
              let entries ← setKey value keys entries
              match ← skipGap? rest.length rest with
              | ',' :: rest => readBraces total fuel depth entries rest
              | '\x7d' :: rest => some (entries, rest)
              | _ => none
          | _ => none

end

/-- A document while it is read: all entries, and the last header. -/
structure Document where
  entries : Entries
  header : List Key

/-- Reads the header of a table, or of a table in a list, behind its brackets. -/
def readHeader (total : Nat) (document : Document) (text : List Char)
    (isElement : Bool) : Option (Document × List Char) := do
  let inside := text.drop (if isElement then 2 else 1)
  let (keys, rest) ← readKey total inside
  let rest ←
    match isElement, rest with
    | true, ']' :: ']' :: rest => some rest
    | false, ']' :: rest => some rest
    | _, _ => none
  let place := placeOf total text rest
  let change := if isElement then openElement place else openTable place
  let entries ← alongHeader change keys document.entries
  return (⟨entries, keys⟩, rest)

/-- Reads a line with a key and a value into the table of the last header. -/
def readEntry (total : Nat) (document : Document) (text : List Char) :
    Option (Document × List Char) := do
  let (keys, rest) ← readKey total text
  match rest with
  | '=' :: rest => do
      let (value, rest) ← readValue total (4 * rest.length + 4) greatestDepth (skipBlanks rest)
      let entries ← inTable (setKey value keys) document.header document.entries
      return ({ document with entries := entries }, rest)
  | _ => none

/-- Reads the lines of a document. Every line takes fuel. -/
def readLines (total : Nat) : (fuel : Nat) → Document → List Char → Option Document
  | 0, _, _ => none
  | fuel + 1, document, text =>
      match skipBlanks text with
      | [] => some document
      | '[' :: '[' :: rest => do
          let (document, rest) ← readHeader total document ('[' :: '[' :: rest) true
          readLines total fuel document (← skipLine? rest)
      | '[' :: rest => do
          let (document, rest) ← readHeader total document ('[' :: rest) false
          readLines total fuel document (← skipLine? rest)
      | '#' :: rest => do readLines total fuel document (← skipLine? ('#' :: rest))
      | rest =>
          match skipLineEnd? rest with
          | some rest => readLines total fuel document rest
          | none => do
              let (document, rest) ← readEntry total document rest
              readLines total fuel document (← skipLine? rest)

def skipMark : List Char → List Char
  | '\ufeff' :: rest => rest
  | text => text

/-- Reads a text as TOML. There is nothing when it is malformed. -/
def parse? (text : String) : Option Setting :=
  let characters := text.toList
  (readLines (Text.byteSize characters) (characters.length + 1) ⟨[], []⟩
    (skipMark characters)).map fun document => tableSetting none document.entries

end AstGrammar.Toml
