import AstGrammar.CommandLine.Report
import AstGrammar.Proofs.AttributeOrder.Places
import AstGrammar.Proofs.Document.Collection
import AstGrammar.Proofs.Session.Loading

/-!
# What is said about the texts of a session

A session that is not loaded is refused with errors that point into the text at fault, and
the warnings of one that is loaded point into the hints.  So each label of a report lies in
the text that is shown with it.
-/

namespace AstGrammar

open Text

namespace Report

/-- Every label of the report lies in the text that is shown, between boundaries. -/
def IsShown (report : Report) : Prop :=
  ∀ labels, report.labels = some labels → ∀ label ∈ labels,
    ∃ text, report.text = some text ∧ label.offset + label.size ≤ byteSize text.toList ∧
      IsBoundary text.toList label.offset ∧ IsBoundary text.toList (label.offset + label.size)

theorem isShown_ofDiagnostic {text : String} {diagnostic : Diagnostic}
    (isIn : diagnostic.IsIn text.toList) : (ofDiagnostic text diagnostic).IsShown := by
  intro labels given label member
  dsimp only [ofDiagnostic] at given
  split at given
  · cases given
  · cases given
    obtain ⟨remark, remarkMember, rfl⟩ := List.mem_map.1 member
    obtain ⟨ordered, inside, starts, stops⟩ := isIn remark remarkMember
    have size : remark.span.start + remark.span.size = remark.span.stop :=
      Nat.add_sub_of_le ordered
    refine ⟨text, rfl, ?_⟩
    dsimp only [ofLabel]
    rw [size]
    exact ⟨inside, starts, stops⟩

end Report

/-- A document that is refused has a problem. -/
theorem Document.readModel_ne_error_nil (document : Json) : readModel document ≠ .error [] := by
  rw [readModel]
  split
  · simp
  · next nonempty => exact fun refused => nonempty (Except.error.inj refused)

/-- A grammar that is refused is refused with errors that point into it. -/
theorem GrammarModel.rejects_of_load {text : String} {diagnostics : List Diagnostic}
    (refused : load text = .error (.rejected diagnostics)) :
    diagnostics ≠ [] ∧ ∀ diagnostic ∈ diagnostics, diagnostic.Rejects text.toList := by
  rw [load] at refused
  split at refused
  · split at refused
    · next given =>
        cases refused
        refine ⟨List.cons_ne_nil _ _, fun diagnostic held => ?_⟩
        rw [List.mem_singleton.1 held]
        exact Json.SyntaxError.rejects_diagnostic? given
    · cases refused
  · split at refused
    · cases refused
    · next problems found =>
        cases refused
        constructor
        · rintro empty
          rw [List.map_eq_nil_iff.1 empty] at found
          exact Document.readModel_ne_error_nil _ found
        · intro diagnostic held
          obtain ⟨problem, -, rfl⟩ := List.mem_map.1 held
          exact problem.rejects_diagnostic _

namespace GrammarSource

variable {source : GrammarSource}

theorem rejects_of_load {origin : Origin} {diagnostics : List Diagnostic}
    (refused : source.load = .error ⟨origin, .rejected diagnostics⟩) :
    diagnostics ≠ [] ∧ ∀ diagnostic ∈ diagnostics,
      diagnostic.Rejects (source.textOf origin).toList := by
  rcases load_eq_error_iff.1 refused with
    ⟨rfl, given⟩ | ⟨rfl, model, hints, found, -, held, given, same⟩
  · exact GrammarModel.rejects_of_load given
  · cases same
    rw [textOf_hints held]
    exact AttributeOrder.rejects_of_parse given

theorem isIn_of_load {model : GrammarModel} {warnings : List Diagnostic}
    (loaded : source.load = .ok (model, warnings)) {warning : Diagnostic}
    (member : warning ∈ warnings) :
    ∃ hints, source.hints = some hints ∧ warning.code.isSome ∧ warning.IsIn hints.toList := by
  obtain ⟨read, -, ⟨-, -, rfl⟩ | ⟨hints, order, given, parsed, applied⟩⟩ :=
    load_eq_ok_iff.1 loaded
  · exact absurd member List.not_mem_nil
  · have made : warnings = (order.apply read).2 := by rw [applied]
    rw [made] at member
    exact ⟨hints, given, AttributeOrder.isIn_of_mem_apply parsed read member⟩

end GrammarSource

namespace Session

variable {settings : Settings} {source : GrammarSource}

/-- What is refused is refused with errors that point into the text at fault. -/
theorem rejects_of_load {diagnostics : List Diagnostic} {text : String}
    (refused : load settings source = .error (.source diagnostics text)) :
    diagnostics ≠ [] ∧ ∀ diagnostic ∈ diagnostics, diagnostic.Rejects text.toList := by
  rcases load_eq_error_source_iff.1 refused with
    ⟨origin, given, rfl⟩ | ⟨model, warnings, loaded, -, nonempty, rfl, rfl⟩
  · exact GrammarSource.rejects_of_load given
  · refine ⟨by simpa using nonempty, fun diagnostic held => ?_⟩
    obtain ⟨warning, member, rfl⟩ := List.mem_map.1 held
    obtain ⟨hints, given, hasCode, isIn⟩ := GrammarSource.isIn_of_load loaded member
    rw [GrammarSource.textOf_hints given]
    exact Diagnostic.rejects_asError hasCode isIn

theorem isIn_of_mem_warnings {session : Session} (loaded : load settings source = .ok session)
    {warning : Diagnostic} (member : warning ∈ session.warnings) :
    ∃ hints, source.hints = some hints ∧ warning.IsIn hints.toList := by
  obtain ⟨model, warnings, given, -, rfl⟩ := load_eq_ok_iff.1 loaded
  obtain ⟨hints, held, -, isIn⟩ := GrammarSource.isIn_of_load given member
  exact ⟨hints, held, isIn⟩

/-- A session that is refused over its texts has errors with codes, all labels of which lie in
the text at fault, and so do those of its reports.  The labels of the warnings of a session
that is loaded lie in the hints. -/
theorem labels_isIn_of_load (settings : Settings) (source : GrammarSource) :
    (∀ diagnostics text, load settings source = .error (.source diagnostics text) →
      diagnostics ≠ [] ∧
        (∀ diagnostic ∈ diagnostics, diagnostic.severity = .error ∧ diagnostic.code.isSome ∧
          ∀ label ∈ diagnostic.labels, label.span.IsIn text.toList) ∧
        ∀ report ∈ Report.ofSessionError (.source diagnostics text),
          report.text = some text ∧ report.IsShown) ∧
      ∀ session, load settings source = .ok session → ∀ warning ∈ session.warnings,
        ∃ hints, source.hints = some hints ∧
          (∀ label ∈ warning.labels, label.span.IsIn hints.toList) ∧
          (Report.ofDiagnostic hints warning).IsShown := by
  constructor
  · intro diagnostics text refused
    obtain ⟨nonempty, rejects⟩ := rejects_of_load refused
    refine ⟨nonempty, fun diagnostic member => ?_, fun report member => ?_⟩
    · have given := rejects diagnostic member
      exact ⟨given.isError, given.hasCode, given.isIn⟩
    · obtain ⟨diagnostic, held, rfl⟩ := List.mem_map.1 member
      exact ⟨rfl, Report.isShown_ofDiagnostic (rejects diagnostic held).isIn⟩
  · intro session loaded warning member
    obtain ⟨hints, given, isIn⟩ := isIn_of_mem_warnings loaded member
    exact ⟨hints, given, isIn, Report.isShown_ofDiagnostic isIn⟩

end Session

end AstGrammar
