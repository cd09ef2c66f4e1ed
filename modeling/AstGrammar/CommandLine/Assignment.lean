import AstGrammar.Edit
import AstGrammar.Text.Split

/-!
# Assignments on the command line

An edit is written as `NAME.ATTR=VALUE`. The name ends at the first point and
the attribute at the first equals sign. A value with a colon is a kind with a
label, any other value is a label.
-/

namespace AstGrammar

/-- A new argument for an attribute of an entry. -/
structure Assignment where
  entry : String
  field : String
  argument : Argument
  deriving DecidableEq

/-- Why a text is no assignment. -/
inductive AssignmentError where
  | noEqualsSign (text : String)
  | noPoint (target : String)
  | emptyName (text : String)
  | incompleteValue (value : String)
  | missingValue (text : String)
  deriving DecidableEq

def AssignmentError.message : AssignmentError → String
  | .noEqualsSign text => s!"expected NAME.ATTR=VALUE, got `{text}`"
  | .noPoint target => s!"expected NAME.ATTR before `=`, got `{target}`"
  | .emptyName text => s!"entry and attribute names must not be empty in `{text}`"
  | .incompleteValue value => s!"expected kind:Label, got `{value}`"
  | .missingValue text => s!"missing value in `{text}`"

namespace Assignment

/-- Reads the value of an assignment whose whole text is given. -/
def parseValue (text : String) (value : List Char) : Except AssignmentError Argument :=
  match Text.splitOnce ':' value with
  | some (kind, label) =>
      if kind.isEmpty || label.isEmpty then .error (.incompleteValue (String.ofList value))
      else .ok (.nested (.labelled (.ofName (String.ofList kind)) (String.ofList label)))
  | none =>
      if value.isEmpty then .error (.missingValue text)
      else .ok (.label (String.ofList value))

/-- Reads an assignment, none of whose parts may be empty. -/
def parse (text : String) : Except AssignmentError Assignment :=
  match Text.splitOnce '=' text.toList with
  | none => .error (.noEqualsSign text)
  | some (target, value) =>
      match Text.splitOnce '.' target with
      | none => .error (.noPoint (String.ofList target))
      | some (entry, field) =>
          if entry.isEmpty || field.isEmpty then .error (.emptyName text)
          else
            match parseValue text value with
            | .error error => .error error
            | .ok argument => .ok ⟨String.ofList entry, String.ofList field, argument⟩

/-- The text of a value. What has no text is shown as a question mark. -/
def valueText : Argument → String
  | .label name => name
  | .nested (.mk kind (.label name)) => s!"{kind.name}:{name}"
  | .nested (.mk kind _) => s!"{kind.name}:?"
  | .alternatives _ => "?"

/-- The assignment as it is written on the command line. -/
def text (assignment : Assignment) : String :=
  s!"{assignment.entry}.{assignment.field}={valueText assignment.argument}"

/-- The edit that an assignment asks for. -/
def edit (assignment : Assignment) : Edit :=
  ⟨assignment.entry, assignment.field, .argument assignment.argument⟩

end Assignment

end AstGrammar
