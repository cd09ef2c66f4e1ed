import AstGrammar.Session

/-!
# All that loading can come to

The texts are loaded when the grammar can be read and the hints can, if there
are any.  A session is then refused only when hints are taken strictly and there
are warnings about them.
-/

namespace AstGrammar

namespace GrammarSource

variable {source : GrammarSource}

/-- All texts that are loaded: a grammar without hints, or with hints that can
be read and are applied to it. -/
theorem load_eq_ok_iff {model : GrammarModel} {warnings : List Diagnostic} :
    source.load = .ok (model, warnings) ↔
      ∃ read, GrammarModel.load source.grammar = .ok read ∧
        (source.hints = none ∧ model = read ∧ warnings = [] ∨
          ∃ hints order, source.hints = some hints ∧ AttributeOrder.parse hints = .ok order ∧
            order.apply read = (model, warnings)) := by
  rw [load]
  cases GrammarModel.load source.grammar with
  | error error => simp
  | ok read =>
      cases source.hints with
      | none => simp [eq_comm]
      | some hints =>
          cases parsed : AttributeOrder.parse hints with
          | error diagnostics => simp [parsed]
          | ok order => simp [parsed]

/-- All texts that are refused: a bad grammar, whatever the hints, or bad hints
of a grammar that is good. -/
theorem load_eq_error_iff {origin : Origin} {error : LoadError} :
    source.load = .error ⟨origin, error⟩ ↔
      origin = .grammar ∧ GrammarModel.load source.grammar = .error error ∨
        origin = .hints ∧ ∃ model hints diagnostics,
          GrammarModel.load source.grammar = .ok model ∧ source.hints = some hints ∧
            AttributeOrder.parse hints = .error diagnostics ∧ error = .rejected diagnostics := by
  rw [load]
  cases GrammarModel.load source.grammar with
  | error error => simp [eq_comm]
  | ok read =>
      cases source.hints with
      | none => simp
      | some hints =>
          cases parsed : AttributeOrder.parse hints with
          | error diagnostics => simp [parsed, eq_comm]
          | ok order => simp [parsed]

theorem textOf_hints {hints : String} (given : source.hints = some hints) :
    source.textOf .hints = hints := by
  rw [textOf, given, Option.getD_some]

end GrammarSource

namespace Session

variable {settings : Settings} {source : GrammarSource}

/-- All sessions that are loaded: the model of the texts with the warnings about
them, of which there are none when hints are taken strictly. -/
theorem load_eq_ok_iff {session : Session} :
    load settings source = .ok session ↔
      ∃ model warnings, source.load = .ok (model, warnings) ∧
        (settings.source.strictOrder = true → warnings = []) ∧
        session = { ofModel model settings with warnings := warnings } := by
  rw [load]
  cases source.load with
  | error error =>
      obtain ⟨origin, cause⟩ := error
      cases cause <;> simp
  | ok result =>
      obtain ⟨model, warnings⟩ := result
      cases settings.source.strictOrder with
      | false => simp [and_assoc, eq_comm (a := session)]
      | true => cases warnings <;> simp [and_assoc, eq_comm (a := session)]

/-- All sessions that are refused over their texts: the texts are, or there are
warnings and hints are taken strictly. -/
theorem load_eq_error_source_iff {diagnostics : List Diagnostic} {text : String} :
    load settings source = .error (.source diagnostics text) ↔
      (∃ origin, source.load = .error ⟨origin, .rejected diagnostics⟩ ∧
        text = source.textOf origin) ∨
      ∃ model warnings, source.load = .ok (model, warnings) ∧
        settings.source.strictOrder = true ∧ warnings ≠ [] ∧
        diagnostics = warnings.map Diagnostic.asError ∧ text = source.textOf .hints := by
  rw [load]
  cases source.load with
  | error error =>
      obtain ⟨origin, cause⟩ := error
      cases cause with
      | rejected found => simp [and_assoc, eq_comm (a := text)]
      | unplaced error => simp
  | ok result =>
      obtain ⟨model, warnings⟩ := result
      cases settings.source.strictOrder with
      | false => simp
      | true =>
          cases warnings with
          | nil => simp
          | cons first rest =>
              simp [and_assoc, eq_comm (a := text), eq_comm (a := diagnostics)]

end Session

end AstGrammar
