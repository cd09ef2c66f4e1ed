import AstGrammar.CommandLine.Assignment

/-!
# Arguments of the command line

The first word that is no option is the grammar, the others are names of
entries. Options may stand between them until a lone double dash. The value of
an option follows it, in the same word or in the next one.

Words are taken from left to right and the first problem decides. A value in a
word of its own is judged when the next option starts or the words end, and an
unknown option comes before that judgement.
-/

namespace AstGrammar

/-- The arguments of a run. -/
structure Arguments where
  grammar : String
  names : List String
  order : Option String
  assignments : List Assignment
  output : Option String
  config : Option String
  logLevel : String
  deriving DecidableEq

/-- Why there is no run: a fault in the words, or a request for information. -/
inductive UsageError where
  | missingGrammar
  | unknownOption
  | invalidAssignment (error : AssignmentError)
  | missingValue
  | repeatedOption
  | unexpectedValue
  | helpRequested
  | versionRequested
  deriving DecidableEq

def UsageError.message : UsageError → String
  | .missingGrammar => "the path of a grammar is missing"
  | .unknownOption => "there is no such option"
  | .invalidAssignment error => error.message
  | .missingValue => "an option has no value"
  | .repeatedOption => "an option is given twice"
  | .unexpectedValue => "an option takes no value"
  | .helpRequested =>
      "usage: GRAMMAR [NAME]... [--order FILE] [--set NAME.ATTR=VALUE]... [-o|--output FILE] " ++
        "[-c|--config FILE] [--log-level LEVEL]"
  | .versionRequested => "0.1.0"

namespace Arguments

/-- The options with a value. -/
inductive ValueOption where
  | order
  | set
  | output
  | config
  | logLevel
  deriving DecidableEq

/-- What an option asks for. -/
inductive Request where
  | value (option : ValueOption)
  | help
  | version
  deriving DecidableEq

def longOption? (name : String) : Option Request :=
  [("order", .value .order), ("set", .value .set), ("output", .value .output),
    ("config", .value .config), ("log-level", .value .logLevel), ("help", .help),
    ("version", .version)].lookup name

def shortOption? (letter : Char) : Option Request :=
  [('o', .value .output), ('c', .value .config), ('h', .help), ('V', .version)].lookup letter

/-- What was gathered from the words so far. -/
structure Gathering where
  positionals : List String
  values : List (ValueOption × String)
  assignments : List Assignment
  /-- The last option, when its value was to follow in a word of its own, with
  that word once it came. -/
  pending : Option (ValueOption × Option String)
  optionsEnded : Bool

namespace Gathering

def start : Gathering := ⟨[], [], [], none, false⟩

/-- Takes an option with its value. Only assignments may be given more than
once. -/
def take (state : Gathering) (option : ValueOption) (value : String) :
    Except UsageError Gathering :=
  match option with
  | .set =>
      match Assignment.parse value with
      | .error error => .error (.invalidAssignment error)
      | .ok assignment =>
          .ok { state with assignments := state.assignments ++ [assignment] }
  | _ =>
      match state.values.lookup option with
      | some _ => .error .repeatedOption
      | none => .ok { state with values := state.values ++ [(option, value)] }

/-- Takes the option that waits for its value. It is an error when no value
came. -/
def settle (state : Gathering) : Except UsageError Gathering :=
  match state.pending with
  | none => .ok state
  | some (_, none) => .error .missingValue
  | some (option, some value) => { state with pending := none }.take option value

def addPositional (state : Gathering) (word : String) : Except UsageError Gathering :=
  state.settle.map fun state => { state with positionals := state.positionals ++ [word] }

/-- Takes an option, with a value in the same word if there is one. -/
def addOption (state : Gathering) (request : Option Request) (value : Option String) :
    Except UsageError Gathering :=
  match request, value with
  | none, _ => .error .unknownOption
  | some (.value option), some value => do (← state.settle).take option value
  | some (.value option), none =>
      state.settle.map fun state => { state with pending := some (option, none) }
  | some .help, none => do
      let _ ← state.settle
      .error .helpRequested
  | some .version, none => do
      let _ ← state.settle
      .error .versionRequested
  | some _, some _ => .error .unexpectedValue

/-- Takes an option with a long name, behind its dashes. -/
def addLong (state : Gathering) (body : List Char) : Except UsageError Gathering :=
  match Text.splitOnce '=' body with
  | some (name, value) =>
      state.addOption (longOption? (String.ofList name)) (some (String.ofList value))
  | none => state.addOption (longOption? (String.ofList body)) none

/-- Takes an option with a letter. A value may follow in the same word, with or
without an equals sign; an option without a value ends the run at once. -/
def addShort (state : Gathering) (letter : Char) (rest : List Char) :
    Except UsageError Gathering :=
  match shortOption? letter with
  | some (.value option) =>
      let value :=
        match rest with
        | [] => none
        | '=' :: rest => some (String.ofList rest)
        | rest => some (String.ofList rest)
      state.addOption (some (.value option)) value
  | request => state.addOption request none

/-- Takes a plain word: the value of a pending option, or a positional. -/
def addPlain (state : Gathering) (word : String) : Except UsageError Gathering :=
  match state.pending with
  | some (option, none) => .ok { state with pending := some (option, some word) }
  | _ => state.addPositional word

/-- Takes one word. -/
def add (state : Gathering) (word : String) : Except UsageError Gathering :=
  if state.optionsEnded then state.addPositional word
  else
    match word.toList with
    | ['-', '-'] => .ok { state with optionsEnded := true }
    | '-' :: '-' :: body => state.addLong body
    | '-' :: letter :: rest => state.addShort letter rest
    | _ => state.addPlain word

/-- The arguments once there are no more words. The first positional is the
grammar, and the others are names. -/
def finish (state : Gathering) : Except UsageError Arguments := do
  let state ← state.settle
  match state.positionals with
  | [] => .error .missingGrammar
  | grammar :: names =>
      return {
        grammar := grammar
        names := names
        order := state.values.lookup .order
        assignments := state.assignments
        output := state.values.lookup .output
        config := state.values.lookup .config
        logLevel := (state.values.lookup .logLevel).getD "info" }

end Gathering

/-- Reads the words behind the name of the program. -/
def parse (words : List String) : Except UsageError Arguments := do
  (← words.foldlM Gathering.add .start).finish

end Arguments

end AstGrammar
