import Mathlib.Data.List.Forall2
import AstGrammar.Proofs.AttributeOrder.Application
import AstGrammar.Proofs.Diagnostic.Places
import AstGrammar.Proofs.Session.Loading

/-!
# Taking hints strictly

Strict settings change what becomes of warnings and nothing else.  A session
without warnings is the same under both; one with warnings is refused strictly,
with its warnings as errors in the text of the hints; and texts that are refused
are refused in the same way.
-/

namespace AstGrammar

namespace Settings

def withStrictOrder (settings : Settings) (strict : Bool) : Settings :=
  { settings with source := { settings.source with strictOrder := strict } }

end Settings

namespace Diagnostic

/-- The second diagnostic is the first one, a warning, taken as an error. -/
structure IsHardened (warning error : Diagnostic) : Prop where
  isWarning : warning.severity = .warning
  isError : error.severity = .error
  code : error.code = warning.code
  message : error.message = warning.message
  labels : error.labels = warning.labels
  help : error.help = warning.help

theorem isHardened_asError {warning : Diagnostic} (isWarning : warning.severity = .warning) :
    warning.IsHardened warning.asError :=
  ⟨isWarning, rfl, rfl, rfl, rfl, rfl⟩

end Diagnostic

namespace AttributeOrder

theorem severity_of_mem_sectionWarnings {model : GrammarModel} {name : String} {held : Section}
    {warning : Diagnostic} (member : warning ∈ sectionWarnings model name held) :
    warning.severity = .warning := by
  rw [sectionWarnings] at member
  cases found : model.node? name with
  | none =>
      rw [found] at member
      rw [List.mem_singleton.1 member]
      rfl
  | some node =>
      rw [found] at member
      obtain ⟨hinted, -, rfl⟩ := List.mem_map.1 member
      exact Diagnostic.severity_withLabel? _ _ _

theorem severity_of_mem_apply {order : AttributeOrder} {model : GrammarModel}
    {warning : Diagnostic} (member : warning ∈ (order.apply model).2) :
    warning.severity = .warning := by
  rw [apply, warnings_applySections order.sections.nodup] at member
  obtain ⟨entry, -, warned⟩ := List.mem_flatMap.1 member
  exact severity_of_mem_sectionWarnings warned

end AttributeOrder

namespace GrammarSource

variable {source : GrammarSource}

/-- Texts are loaded exactly when both can be read. -/
theorem exists_load_iff :
    (∃ result, source.load = .ok result) ↔
      (∃ model, GrammarModel.load source.grammar = .ok model) ∧
        ∀ hints, source.hints = some hints → ∃ order, AttributeOrder.parse hints = .ok order := by
  constructor
  · rintro ⟨⟨model, warnings⟩, loaded⟩
    obtain ⟨read, grammar, withHints⟩ := load_eq_ok_iff.1 loaded
    refine ⟨⟨read, grammar⟩, fun hints given => ?_⟩
    rcases withHints with ⟨absent, -, -⟩ | ⟨held, order, present, parsed, -⟩
    · rw [absent] at given
      cases given
    · rw [present] at given
      cases given
      exact ⟨order, parsed⟩
  · rintro ⟨⟨model, grammar⟩, readable⟩
    cases given : source.hints with
    | none => exact ⟨(model, []), load_eq_ok_iff.2 ⟨model, grammar, .inl ⟨given, rfl, rfl⟩⟩⟩
    | some hints =>
        obtain ⟨order, parsed⟩ := readable hints given
        exact ⟨order.apply model,
          load_eq_ok_iff.2 ⟨model, grammar, .inr ⟨hints, order, given, parsed, rfl⟩⟩⟩

/-- What is said of texts that are loaded are warnings about hints. -/
theorem warnings_of_load {model : GrammarModel} {warnings : List Diagnostic}
    (loaded : source.load = .ok (model, warnings)) :
    (∀ warning ∈ warnings, warning.severity = .warning) ∧
      (warnings ≠ [] → ∃ hints, source.hints = some hints) := by
  obtain ⟨read, -, ⟨-, -, rfl⟩ | ⟨hints, order, given, -, applied⟩⟩ := load_eq_ok_iff.1 loaded
  · exact ⟨fun warning member => absurd member List.not_mem_nil, fun some => absurd rfl some⟩
  · have made : warnings = (order.apply read).2 := by rw [applied]
    refine ⟨fun warning member => ?_, fun _ => ⟨hints, given⟩⟩
    rw [made] at member
    exact AttributeOrder.severity_of_mem_apply member

/-- What a session says of texts that are refused. -/
def refusal (source : GrammarSource) : SourceError → SessionError
  | ⟨origin, .rejected diagnostics⟩ => .source diagnostics (source.textOf origin)
  | ⟨_, .unplaced error⟩ => .unplaced error

end GrammarSource

namespace Session

variable {settings : Settings} {source : GrammarSource}

/-- Texts that are refused are refused in the same way under all settings. -/
theorem load_of_error {error : SourceError} (refused : source.load = .error error)
    (settings : Settings) : load settings source = .error (source.refusal error) := by
  obtain ⟨origin, cause⟩ := error
  cases cause <;> rw [load, refused] <;> rfl

/-- A grammar that is refused decides, whatever the hints are. -/
theorem load_of_rejected_grammar {diagnostics : List Diagnostic}
    (rejected : GrammarModel.load source.grammar = .error (.rejected diagnostics))
    (settings : Settings) : load settings source = .error (.source diagnostics source.grammar) :=
  load_of_error (GrammarSource.load_eq_error_iff.2 (.inl ⟨rfl, rejected⟩)) settings

theorem load_of_rejected_hints {model : GrammarModel} {hints : String}
    {diagnostics : List Diagnostic} (loaded : GrammarModel.load source.grammar = .ok model)
    (given : source.hints = some hints)
    (rejected : AttributeOrder.parse hints = .error diagnostics) (settings : Settings) :
    load settings source = .error (.source diagnostics hints) := by
  have refused : source.load = .error ⟨.hints, .rejected diagnostics⟩ :=
    GrammarSource.load_eq_error_iff.2
      (.inr ⟨rfl, model, hints, diagnostics, loaded, given, rejected, rfl⟩)
  rw [load_of_error refused, GrammarSource.refusal, GrammarSource.textOf_hints given]

section Loaded

variable {model : GrammarModel} {warnings : List Diagnostic}

theorem load_lenient (settings : Settings) (loaded : source.load = .ok (model, warnings)) :
    load (settings.withStrictOrder false) source =
      .ok { ofModel model settings with warnings := warnings } :=
  load_eq_ok_iff.2 ⟨model, warnings, loaded, nofun, rfl⟩

theorem load_strict_of_nil (settings : Settings) (loaded : source.load = .ok (model, [])) :
    load (settings.withStrictOrder true) source =
      load (settings.withStrictOrder false) source := by
  rw [load_lenient settings loaded]
  exact load_eq_ok_iff.2 ⟨model, [], loaded, fun _ => rfl, rfl⟩

theorem load_strict_of_ne_nil (settings : Settings) (loaded : source.load = .ok (model, warnings))
    (nonempty : warnings ≠ []) :
    load (settings.withStrictOrder true) source =
      .error (.source (warnings.map Diagnostic.asError) (source.textOf .hints)) :=
  load_eq_error_source_iff.2 (.inr ⟨model, warnings, loaded, rfl, nonempty, rfl, rfl⟩)

end Loaded

/-- Lenient loading succeeds exactly when both texts can be read, and is refused
with what is wrong with the first that cannot. Strict loading succeeds exactly
when lenient loading gives a session without warnings, which is then the same;
it is refused with the warnings as errors when there are any, and as lenient
loading is when that is refused. -/
theorem load_strict_of_load_lenient (settings : Settings) (source : GrammarSource) :
    let lenient := load (settings.withStrictOrder false) source
    let strict := load (settings.withStrictOrder true) source
    ((∃ session, lenient = .ok session) ↔
      (∃ model, GrammarModel.load source.grammar = .ok model) ∧
        ∀ hints, source.hints = some hints → ∃ order, AttributeOrder.parse hints = .ok order) ∧
    (∀ diagnostics, GrammarModel.load source.grammar = .error (.rejected diagnostics) →
      lenient = .error (.source diagnostics source.grammar)) ∧
    (∀ model hints diagnostics, GrammarModel.load source.grammar = .ok model →
      source.hints = some hints → AttributeOrder.parse hints = .error diagnostics →
        lenient = .error (.source diagnostics hints)) ∧
    ((∃ session, strict = .ok session) ↔
      ∃ session, lenient = .ok session ∧ session.warnings = []) ∧
    match lenient with
    | .error error => strict = .error error
    | .ok session =>
        (session.warnings = [] → strict = .ok session) ∧
          (session.warnings ≠ [] → ∃ hints errors, source.hints = some hints ∧
            strict = .error (.source errors hints) ∧
              List.Forall₂ Diagnostic.IsHardened session.warnings errors) := by
  intro lenient strict
  have badGrammar : ∀ diagnostics,
      GrammarModel.load source.grammar = .error (.rejected diagnostics) →
        lenient = .error (.source diagnostics source.grammar) :=
    fun diagnostics rejected => load_of_rejected_grammar rejected _
  have badHints : ∀ model hints diagnostics, GrammarModel.load source.grammar = .ok model →
      source.hints = some hints → AttributeOrder.parse hints = .error diagnostics →
        lenient = .error (.source diagnostics hints) :=
    fun model hints diagnostics read given rejected =>
      load_of_rejected_hints read given rejected _
  rw [← GrammarSource.exists_load_iff]
  cases loaded : source.load with
  | error error =>
      have lenientFails : lenient = .error (source.refusal error) := load_of_error loaded _
      have strictFails : strict = .error (source.refusal error) := load_of_error loaded _
      refine ⟨?_, badGrammar, badHints, ?_, ?_⟩
      · simp [lenientFails]
      · simp [lenientFails, strictFails]
      · rw [lenientFails]
        exact strictFails
  | ok result =>
      obtain ⟨model, warnings⟩ := result
      have lenientLoads : lenient = .ok { ofModel model settings with warnings := warnings } :=
        load_lenient settings loaded
      by_cases silent : warnings = []
      · subst silent
        have strictLoads : strict = lenient := load_strict_of_nil settings loaded
        refine ⟨by simp [lenientLoads], badGrammar, badHints, ?_, ?_⟩
        · simp [strictLoads, lenientLoads]
        · rw [strictLoads, lenientLoads]
          exact ⟨fun _ => rfl, fun some => absurd rfl some⟩
      · have strictFails : strict =
            .error (.source (warnings.map Diagnostic.asError) (source.textOf .hints)) :=
          load_strict_of_ne_nil settings loaded silent
        refine ⟨by simp [lenientLoads], badGrammar, badHints, ?_, ?_⟩
        · simp [lenientLoads, strictFails, silent]
        · rw [lenientLoads, strictFails]
          refine ⟨fun none => absurd none silent, fun _ => ?_⟩
          obtain ⟨areWarnings, hasHints⟩ := GrammarSource.warnings_of_load loaded
          obtain ⟨hints, given⟩ := hasHints silent
          rw [GrammarSource.textOf_hints given]
          refine ⟨hints, warnings.map Diagnostic.asError, given, rfl, ?_⟩
          rw [List.forall₂_map_right_iff, List.forall₂_same]
          exact fun warning member => Diagnostic.isHardened_asError (areWarnings warning member)

end Session

end AstGrammar
