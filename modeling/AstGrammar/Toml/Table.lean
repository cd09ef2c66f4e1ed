import AstGrammar.Entries
import AstGrammar.Settings.Setting

/-!
# Tables of TOML while they are read

A table is opened by a header, or comes into being because a longer header or a
dotted key leads through it. A header opens a table once and none that a dotted
key leads through, dotted keys do not reach into a table that a header opened,
and no key is set twice.
-/

namespace AstGrammar.Toml

/-- How a table came into being. -/
inductive TableKind where
  | opened
  | implied
  | dotted
  deriving DecidableEq

/-- A value in a table that is being read. -/
inductive Tree where
  | value (setting : Setting)
  | table (kind : TableKind) (place : Text.Span) (entries : List (String × Tree))
  | tables (place : Text.Span) (elements : List (List (String × Tree)))

/-- The entries of a table in the order in which they were written. -/
abbrev Entries : Type := List (String × Tree)

/-- A key with its place. -/
structure Key where
  name : String
  place : Text.Span

/-- Sets the value under a dotted key. A table that only longer headers lead
through is from now on one that a dotted key leads through. In a list of tables
the key leads through the last one, which gets no value of its own. -/
def setKey (value : Setting) : List Key → Entries → Option Entries
  | [], _ => none
  | [key], entries =>
      match entries.lookup key.name with
      | some _ => none
      | none => some (entries ++ [(key.name, .value value)])
  | key :: rest, entries =>
      match entries.lookup key.name with
      | none => do
          let inner ← setKey value rest []
          return entries ++ [(key.name, .table .dotted key.place inner)]
      | some (.table kind place inner) =>
          if kind = .opened then none
          else do
            let inner ← setKey value rest inner
            return AstGrammar.Entries.set key.name (.table .dotted place inner) entries
      | some (.tables place (last :: before)) =>
          if rest.length = 1 then none
          else do
            let last ← setKey value rest last
            return AstGrammar.Entries.set key.name (.tables place (last :: before)) entries
      | some _ => none

/-- Goes along all keys of a header but the last, and changes the entries there
by what happens to the last key. A table that comes into being on the way has
the place of its key. -/
def alongHeader (change : Key → Entries → Option Entries) :
    List Key → Entries → Option Entries
  | [], _ => none
  | [key], entries => change key entries
  | key :: rest, entries =>
      match entries.lookup key.name with
      | none => do
          let inner ← alongHeader change rest []
          return entries ++ [(key.name, .table .implied key.place inner)]
      | some (.table kind held inner) => do
          let inner ← alongHeader change rest inner
          return AstGrammar.Entries.set key.name (.table kind held inner) entries
      | some (.tables held (last :: before)) => do
          let last ← alongHeader change rest last
          return AstGrammar.Entries.set key.name (.tables held (last :: before)) entries
      | some _ => none

def openTable (place : Text.Span) (key : Key) (entries : Entries) : Option Entries :=
  match entries.lookup key.name with
  | none => some (entries ++ [(key.name, .table .opened place [])])
  | some (.table .implied _ inner) =>
      some (AstGrammar.Entries.set key.name (.table .opened place inner) entries)
  | some _ => none

/-- Adds a table to the list under the last key of a header. -/
def openElement (place : Text.Span) (key : Key) (entries : Entries) : Option Entries :=
  match entries.lookup key.name with
  | none => some (entries ++ [(key.name, .tables place [[]])])
  | some (.tables held elements) =>
      some (AstGrammar.Entries.set key.name (.tables held ([] :: elements)) entries)
  | some _ => none

/-- Changes the entries of the table that the last header opened. -/
def inTable (change : Entries → Option Entries) : List Key → Entries → Option Entries
  | [], entries => change entries
  | key :: rest, entries =>
      match entries.lookup key.name with
      | some (.table kind place inner) => do
          let inner ← inTable change rest inner
          return AstGrammar.Entries.set key.name (.table kind place inner) entries
      | some (.tables place (last :: before)) => do
          let last ← inTable change rest last
          return AstGrammar.Entries.set key.name (.tables place (last :: before)) entries
      | _ => none

def sortEntries (entries : List (String × Setting)) : List (String × Setting) :=
  entries.mergeSort fun first second => !(second.1 < first.1)

mutual

def Tree.setting : Tree → Setting
  | .value setting => setting
  | .table _ place entries => .table (some place) (sortEntries (entrySettings entries))
  | .tables place elements => .list (some place) (elementSettings place elements).reverse

def entrySettings : List (String × Tree) → List (String × Setting)
  | [] => []
  | (name, tree) :: rest => (name, tree.setting) :: entrySettings rest

def elementSettings (place : Text.Span) : List (List (String × Tree)) → List Setting
  | [] => []
  | entries :: rest =>
      .table (some place) (sortEntries (entrySettings entries)) :: elementSettings place rest

end

/-- The finished table with some entries. The entries of a table are taken in
the order of their names. -/
def tableSetting (place : Option Text.Span) (entries : Entries) : Setting :=
  .table place (sortEntries (entrySettings entries))

end AstGrammar.Toml
