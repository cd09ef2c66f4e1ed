import AstGrammar.CommandLine.Run
import AstGrammar.Proofs.Rendering.Failures

/-!
# Reports of edited sessions

A report has a text exactly when every edit is accepted by the session that the
edits before it made, and every name has a text in the last session.  Otherwise
the first edit that is refused decides the error, or else the first name without
a text.
-/

namespace AstGrammar

namespace Session

/-- All edits are accepted, one after the other, and lead to the last session. -/
inductive Accepts : Session → List Edit → Session → Prop
  | nil (session : Session) : Accepts session [] session
  | cons {session next edited : Session} {edit : Edit} {outcome : EditOutcome}
      {rest : List Edit} (accepted : session.edit edit = .ok (next, outcome))
      (others : Accepts next rest edited) : Accepts session (edit :: rest) edited

/-- The first edit that is not accepted has an error. -/
def Refuses (session : Session) (edits : List Edit) (error : EntryError) : Prop :=
  ∃ front edit back reached, edits = front ++ edit :: back ∧ session.Accepts front reached ∧
    reached.edit edit = .error error

theorem accepts_cons_iff {session next edited : Session} {edit : Edit} {outcome : EditOutcome}
    {rest : List Edit} (accepted : session.edit edit = .ok (next, outcome)) :
    session.Accepts (edit :: rest) edited ↔ next.Accepts rest edited := by
  constructor
  · intro accepts
    cases accepts with
    | cons other others =>
        rw [accepted] at other
        cases other
        exact others
  · exact .cons accepted

theorem not_accepts_cons {session edited : Session} {edit : Edit} {error : EntryError}
    {rest : List Edit} (refused : session.edit edit = .error error) :
    ¬ session.Accepts (edit :: rest) edited := by
  intro accepts
  cases accepts with
  | cons accepted others =>
      rw [refused] at accepted
      cases accepted

theorem refuses_cons_iff {session next : Session} {edit : Edit} {outcome : EditOutcome}
    {rest : List Edit} {error : EntryError} (accepted : session.edit edit = .ok (next, outcome)) :
    session.Refuses (edit :: rest) error ↔ next.Refuses rest error := by
  constructor
  · rintro ⟨front, last, back, reached, cut, accepts, refused⟩
    cases front with
    | nil =>
        cases cut
        cases accepts
        rw [accepted] at refused
        cases refused
    | cons first front =>
        cases cut
        exact ⟨front, last, back, reached, rfl, (accepts_cons_iff accepted).1 accepts, refused⟩
  · rintro ⟨front, last, back, reached, rfl, accepts, refused⟩
    exact ⟨edit :: front, last, back, reached, rfl, .cons accepted accepts, refused⟩

theorem refuses_cons_of_error {session : Session} {edit : Edit} {rest : List Edit}
    {error found : EntryError} (refused : session.edit edit = .error found) :
    session.Refuses (edit :: rest) error ↔ found = error := by
  constructor
  · rintro ⟨front, last, back, reached, cut, accepts, other⟩
    cases front with
    | nil =>
        cases cut
        cases accepts
        rw [refused] at other
        cases other
        rfl
    | cons first front =>
        cases cut
        exact absurd accepts (not_accepts_cons refused)
  · rintro rfl
    exact ⟨[], edit, rest, session, rfl, .nil session, refused⟩

theorem editAll_eq_ok_iff {session edited : Session} {edits : List Edit} :
    session.editAll edits = .ok edited ↔ session.Accepts edits edited := by
  induction edits generalizing session with
  | nil =>
      constructor
      · intro same
        cases same
        exact .nil _
      · intro accepts
        cases accepts
        rfl
  | cons edit rest ih =>
      rw [editAll]
      cases step : session.edit edit with
      | error error => simp [not_accepts_cons step]
      | ok result => rw [accepts_cons_iff step, ← ih]

theorem editAll_eq_error_iff {session : Session} {edits : List Edit} {error : EntryError} :
    session.editAll edits = .error error ↔ session.Refuses edits error := by
  induction edits generalizing session with
  | nil => simp [editAll, Refuses]
  | cons edit rest ih =>
      rw [editAll]
      cases step : session.edit edit with
      | error found => rw [refuses_cons_of_error step, Except.error.injEq]
      | ok result => rw [refuses_cons_iff step, ← ih]

/-- The text that names ask for: the whole session when there is none, else what
the names have for texts, in their order and as often as they come. -/
inductive Prints (session : Session) : List String → String → Prop
  | all {text : String} (whole : session.renderAll = .ok text) : Prints session [] text
  | named {names texts : List String} (nonempty : names ≠ [])
      (each : List.Forall₂ (fun name text => session.render name = .ok text) names texts) :
      Prints session names (String.join texts)

/-- The session or, when names are given, the first of them that has no text
fails with an error. -/
inductive PrintFails (session : Session) : List String → EntryError → Prop
  | all {error : EntryError} (whole : session.renderAll = .error error) :
      PrintFails session [] error
  | named {front back : List String} {name : String} {error : EntryError}
      (before : ∀ other ∈ front, ∃ text, session.render other = .ok text)
      (fails : session.render name = .error error) :
      PrintFails session (front ++ name :: back) error

/-- What is rendered for a list of names. -/
def rendering (session : Session) (names : List String) : Except EntryError String :=
  if names.isEmpty then session.renderAll else session.renderNames names

theorem rendering_eq_ok_iff {session : Session} {names : List String} {text : String} :
    session.rendering names = .ok text ↔ session.Prints names text := by
  cases names with
  | nil =>
      constructor
      · exact .all
      · intro prints
        cases prints with
        | all whole => exact whole
        | named nonempty _ => exact absurd rfl nonempty
  | cons name rest =>
      have renders : session.rendering (name :: rest) = .ok text ↔
          ∃ texts, List.Forall₂ (fun name text => session.render name = .ok text)
            (name :: rest) texts ∧ text = String.join texts :=
        Rendering.renderNames_eq_ok_iff
      rw [renders]
      constructor
      · rintro ⟨texts, each, rfl⟩
        exact .named (List.cons_ne_nil name rest) each
      · intro prints
        cases prints with
        | named _ each => exact ⟨_, each, rfl⟩

theorem rendering_eq_error_iff {session : Session} {names : List String} {error : EntryError} :
    session.rendering names = .error error ↔ session.PrintFails names error := by
  cases names with
  | nil =>
      constructor
      · exact .all
      · generalize noNames : ([] : List String) = names
        intro fails
        cases fails with
        | all whole => exact whole
        | named _ _ => simp at noNames
  | cons name rest =>
      have fails : session.rendering (name :: rest) = .error error ↔
          ∃ front last back, name :: rest = front ++ last :: back ∧
            (∀ other ∈ front, ∃ text, session.render other = .ok text) ∧
            session.render last = .error error :=
        Rendering.renderNames_eq_error_iff
      rw [fails]
      constructor
      · rintro ⟨front, last, back, cut, before, lastFails⟩
        rw [cut]
        exact .named before lastFails
      · generalize given : name :: rest = names
        intro fails
        cases fails with
        | all _ => cases given
        | named before lastFails => exact ⟨_, _, _, rfl, before, lastFails⟩

theorem report_eq (session : Session) (edits : List Edit) (names : List String) :
    session.report edits names =
      (session.editAll edits).bind fun edited => edited.rendering names := by
  rw [report]
  cases session.editAll edits <;> rfl

/-- A report is the text of the session that all edits lead to. -/
theorem report_eq_ok_iff {session : Session} {edits : List Edit} {names : List String}
    {text : String} :
    session.report edits names = .ok text ↔
      ∃ edited, session.Accepts edits edited ∧ edited.Prints names text := by
  rw [report_eq]
  cases applied : session.editAll edits with
  | error error =>
      simp [Except.bind, ← editAll_eq_ok_iff, applied]
  | ok edited =>
      simp [Except.bind, ← editAll_eq_ok_iff, ← rendering_eq_ok_iff, applied]

/-- A report fails at the first edit that is refused, or behind all edits at the
first name without a text. -/
theorem report_eq_error_iff {session : Session} {edits : List Edit} {names : List String}
    {error : EntryError} :
    session.report edits names = .error error ↔
      session.Refuses edits error ∨
        ∃ edited, session.Accepts edits edited ∧ edited.PrintFails names error := by
  rw [report_eq]
  cases applied : session.editAll edits with
  | error found =>
      simp [Except.bind, ← editAll_eq_ok_iff, ← editAll_eq_error_iff, applied]
  | ok edited =>
      simp [Except.bind, ← editAll_eq_ok_iff, ← editAll_eq_error_iff,
        ← rendering_eq_error_iff, applied]

end Session

end AstGrammar
