import AstGrammar.AttributeOrder.Line
import AstGrammar.Diagnostic.Basic
import AstGrammar.GrammarModel

/-!
# Attribute orders

An attribute order lists, for some nodes, the attributes that come first. A
name at the start of a line opens the section of a node, and the indented names
below it are attributes of that node. A node has one section, and a section
lists an attribute once.

Applying an order only moves attributes: the hinted ones come first, in the
order of the hints. A hint that names no node, or no attribute of its node,
gives a warning.
-/

namespace AstGrammar

namespace AttributeOrder

/-- The hints for one node. -/
structure Section where
  span : Text.Span
  attributes : List Hint
  deriving DecidableEq

def Section.names (held : Section) : List String := held.attributes.map Hint.name

/-- A problem of hints whose lines are well formed. -/
inductive HintProblem where
  | outsideSection (hint : Hint)
  | repeatedSection (hint : Hint) (first : Text.Span)
  | repeatedAttribute (hint : Hint) (first : Text.Span)
  deriving DecidableEq

def HintProblem.diagnostic : HintProblem → Diagnostic
  | .outsideSection hint =>
      ((Diagnostic.error .attributeOutsideSection
        s!"attribute `{hint.name}` is listed outside of any node section").withLabel hint.span
          "no node to attach to").withHelp "start a section with an unindented node name"
  | .repeatedSection hint first =>
      (((Diagnostic.error .repeatedSection
        s!"node `{hint.name}` is ordered more than once").withLabel hint.span
          "listed again here").withRelated first "first listed here").withHelp
            "merge both sections into one"
  | .repeatedAttribute hint first =>
      ((Diagnostic.error .repeatedHint
        s!"attribute `{hint.name}` is listed more than once").withLabel hint.span
          "listed again here").withRelated first "first listed here"

def malformedDiagnostic (text unread : List Char) : Diagnostic :=
  ((Diagnostic.error .malformedHintLine "malformed attribute order line").withLabel
    (malformedSpan text unread) "unexpected text").withHelp
      "each line holds one identifier, optionally followed by a `#` comment"

end AttributeOrder

/-- The sections of a text of hints, by the names of their nodes. -/
structure AttributeOrder where
  sections : Registry AttributeOrder.Section

namespace AttributeOrder

def attributesFor? (order : AttributeOrder) (node : String) : Option (List String) :=
  (order.sections.find? node).map Section.names

/-- The sections and problems found so far, and the node whose section is open.
Below a repeated section no section is open. -/
structure Collecting where
  sections : Registry Section
  opened : Option String
  problems : List HintProblem

namespace Collecting

def start : Collecting := ⟨.empty, none, []⟩

def report (state : Collecting) (problem : HintProblem) : Collecting :=
  { state with problems := state.problems ++ [problem] }

/-- Opens the section of a node, unless the node has one already. -/
def openSection (state : Collecting) (hint : Hint) : Collecting :=
  match state.sections.find? hint.name with
  | some first =>
      { state.report (.repeatedSection hint first.span) with opened := none }
  | none =>
      { state with
        sections := state.sections.insert hint.name ⟨hint.span, []⟩
        opened := some hint.name }

/-- The section that is open, with the name of its node. -/
def openedSection? (state : Collecting) : Option (String × Section) := do
  let node ← state.opened
  return (node, ← state.sections.find? node)

/-- Adds a hint to the open section, unless the section holds its name already.
In front of all sections a hint is a problem, below a repeated one it is passed
over. -/
def addAttribute (state : Collecting) (hint : Hint) : Collecting :=
  match state.openedSection? with
  | none =>
      if state.sections.size = 0 then state.report (.outsideSection hint) else state
  | some (node, held) =>
      match held.attributes.find? fun other => other.name = hint.name with
      | some first => state.report (.repeatedAttribute hint first.span)
      | none =>
          { state with
            sections :=
              state.sections.insert node { held with attributes := held.attributes ++ [hint] } }

/-- Takes one line of hints. -/
def add (state : Collecting) : Line → Collecting
  | .blank => state
  | .heading hint => state.openSection hint
  | .indented hint => state.addAttribute hint

end Collecting

/-- Takes all lines of hints, from the first to the last. -/
def collect (lines : List Line) : Collecting := lines.foldl Collecting.add .start

/-- Reads a text of hints: the order, or the diagnostics of what is wrong. A
malformed line is reported alone. -/
def parse (text : String) : Except (List Diagnostic) AttributeOrder :=
  match readLines 0 text.toList with
  | .error unread => .error [malformedDiagnostic text.toList unread]
  | .ok lines =>
      let collected := collect lines
      match collected.problems with
      | [] => .ok ⟨collected.sections⟩
      | problems => .error (problems.map HintProblem.diagnostic)

def unknownNode (name : String) (held : Section) : Diagnostic :=
  (Diagnostic.warning .unknownNode s!"no node named `{name}` to order").withLabel held.span
    "unknown node"

/-- The warning for a hint without an attribute in its node. -/
def unknownAttribute (name : String) (held : Section) (hinted : String) : Diagnostic :=
  let hint := held.attributes.find? fun hint => hint.name = hinted
  (Diagnostic.warning .unknownAttribute s!"node `{name}` has no attribute `{hinted}`").withLabel?
    (hint.map Hint.span) "unknown attribute"

/-- The warnings of a section: its node is unknown, or some of its hints are. -/
def sectionWarnings (model : GrammarModel) (name : String) (held : Section) : List Diagnostic :=
  match model.node? name with
  | none => [unknownNode name held]
  | some node => (node.unknownHints held.names).map (unknownAttribute name held)

/-- Moves the attributes that a section hints to the front of its node. -/
def applySection (model : GrammarModel) (name : String) (held : Section) : GrammarModel :=
  { model with nodes := model.nodes.modify name fun node => node.reorder held.names }

/-- Applies sections one after the other and gathers their warnings. -/
def applySections : List (String × Section) → GrammarModel → GrammarModel × List Diagnostic
  | [], model => (model, [])
  | (name, held) :: rest, model =>
      let (ordered, warnings) := applySections rest (applySection model name held)
      (ordered, sectionWarnings model name held ++ warnings)

/-- Applies an order to a model, and warns about its hints without a node or an
attribute, in the order of the sections. -/
def apply (order : AttributeOrder) (model : GrammarModel) : GrammarModel × List Diagnostic :=
  applySections order.sections.entries model

end AttributeOrder

end AstGrammar
