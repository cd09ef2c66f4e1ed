import AstGrammar.Proofs.Edit.Commutation
import AstGrammar.Proofs.Session.Report

/-!
# Edits in place

An edit in place looks up an entry, checks the new type and writes last.  A program that fails
keeps what it wrote before, so a refused edit leaves the model as it was only because the steps
in front of the write do nothing but read.

The run of each step is found first.  From these it follows that both forms of an edit agree:
on models, on sessions and over a sequence of edits.
-/

namespace AstGrammar

/-- The state in which a program stops. -/
def stateOf {ε σ α : Type} : EStateM.Result ε σ α → σ
  | .ok _ state => state
  | .error _ state => state

namespace Attribute

/-- Setting a type writes over the type of the attribute at the position of the name, whose
name is the one that is given. -/
theorem setType_eq_modify (name : String) (type : TypeExpression) (attributes : List Attribute) :
    setType name type attributes =
      match position? name attributes with
      | some index => attributes.modify index fun held => { held with type := type }
      | none => attributes ++ [⟨name, type⟩] := by
  rw [setType_eq]
  cases found : position? name attributes with
  | none => rfl
  | some index =>
      have named := (position?_eq_some_iff.1 found).1
      rw [List.getElem?_map, Option.map_eq_some_iff] at named
      obtain ⟨held, stands, rfl⟩ := named
      simp only [List.modify_eq_set_getElem?, stands]
      rfl

end Attribute

namespace Edit

variable {edit : Edit} {type : TypeExpression} {model : GrammarModel}

/-- How an edit in place ends when it changes the state only if it succeeds. -/
def ending {σ : Type} (before : σ) :
    Except EntryError (σ × EditOutcome) → EStateM.Result EntryError σ EditOutcome
  | .ok (after, outcome) => .ok outcome after
  | .error error => .error error before

theorem ending_eq_error_iff {σ : Type} {before after : σ} {error : EntryError}
    {result : Except EntryError (σ × EditOutcome)} :
    ending before result = .error error after ↔ result = .error error ∧ after = before := by
  cases result with
  | error found => simp [ending, eq_comm]
  | ok pair => simp [ending]

theorem run_require_none (edit : Edit) (model : GrammarModel) :
    (edit.require none).run model = .error (.invalidShape edit.entry .absent) model :=
  rfl

theorem run_require_some (edit : Edit) (entry : Entry) (model : GrammarModel) :
    (edit.require (some entry)).run model = .ok entry model :=
  rfl

theorem run_accept_of_fault?_eq_none (clean : type.fault? = none) :
    (edit.accept type).run model = .ok type model := by
  rw [accept, (TypeExpression.check_eq_ok_iff type).2 clean]
  rfl

theorem run_accept_of_fault?_eq_some {fault : TypeFault} (faulty : type.fault? = some fault) :
    (edit.accept type).run model = .error (.rejectedType edit.entry edit.field fault) model := by
  rw [accept, TypeExpression.check, faulty]
  rfl

/-- The one step that writes: the attribute gets the type, and the place of the attribute is
reported. -/
theorem run_store (edit : Edit) (entry : Entry) (type : TypeExpression) (model : GrammarModel) :
    (edit.store entry type).run model =
      .ok (Attribute.outcomeOfSet edit.field entry.attributes)
        (model.replace edit.entry
          (entry.withAttributes (Attribute.setType edit.field type entry.attributes))) := by
  rw [store, Attribute.outcomeOfSet, Attribute.setType_eq_modify]
  cases Attribute.position? edit.field entry.attributes with
  | some index =>
      simp only [EStateM.run_bind, write, EStateM.run_modify, EStateM.run_pure]
  | none =>
      simp only [EStateM.run_bind, write, EStateM.run_modify, EStateM.run_pure,
        List.length_append, List.length_singleton, Nat.add_sub_cancel]

/-- An edit in place ends as the edit of the entry does, and writes the edited entry.  When it
fails, the model is the one that it started from. -/
theorem run_inPlace (edit : Edit) (held : Option Entry) (model : GrammarModel) :
    (edit.inPlace held).run model =
      match edit.apply held with
      | .ok (edited, outcome) => .ok outcome (model.replace edit.entry edited)
      | .error error => .error error model := by
  -- the steps in front of `store` give back the model that they were given
  cases held with
  | none => rw [inPlace, EStateM.run_bind, run_require_none, apply]
  | some entry =>
      rw [inPlace, EStateM.run_bind, run_require_some]
      simp only
      rw [EStateM.run_bind]
      cases found : (edit.newType entry.attributes).fault? with
      | some fault => rw [run_accept_of_fault?_eq_some found, apply_of_fault?_eq_some found]
      | none =>
          rw [run_accept_of_fault?_eq_none found, apply_of_fault?_eq_none found]
          exact run_store edit entry _ model

end Edit

namespace GrammarModel

variable {model left : GrammarModel} {edit : Edit} {error : EntryError}

/-- Editing and reading find the same entry under a name. -/
theorem resolveForEdit_eq_resolve (model : GrammarModel) (name : String) :
    model.resolveForEdit name = model.resolve name := by
  rw [resolveForEdit, resolve]
  cases model.node? name <;> rfl

theorem run_editInPlace (edit : Edit) (model : GrammarModel) :
    (editInPlace edit).run model = Edit.ending model (model.edit edit) := by
  rw [editInPlace, EStateM.run_bind, EStateM.run_get]
  simp only
  rw [resolveForEdit_eq_resolve, Edit.run_inPlace, GrammarModel.edit]
  cases edit.apply (model.resolve edit.entry) <;> rfl

theorem run_editNamedTypeInPlace (edit : Edit) (model : GrammarModel) :
    (editNamedTypeInPlace edit).run model = Edit.ending model (model.editNamedType edit) := by
  rw [editNamedTypeInPlace, EStateM.run_bind, EStateM.run_get]
  simp only
  rw [Edit.run_inPlace, editNamedType]
  cases edit.apply ((model.namedType? edit.entry).map .namedType) <;> rfl

/-- A refused edit in place leaves the model as it was. -/
theorem eq_of_run_editInPlace (refused : (editInPlace edit).run model = .error error left) :
    left = model := by
  rw [run_editInPlace] at refused
  exact (Edit.ending_eq_error_iff.1 refused).2

theorem stateOf_run_editInPlace (edit : Edit) (model : GrammarModel) :
    stateOf ((editInPlace edit).run model) = model.afterEdit edit := by
  rw [run_editInPlace, afterEdit]
  cases model.edit edit <;> rfl

end GrammarModel

namespace Session

variable {session reached left : Session} {edit : Edit} {edits front : List Edit}
  {error : EntryError}

theorem run_editInPlace (edit : Edit) (session : Session) :
    (editInPlace edit).run session = Edit.ending session (session.edit edit) := by
  rw [EStateM.run, editInPlace, GrammarModel.run_editInPlace, Session.edit]
  cases session.model.edit edit <;> rfl

/-- A refused edit in place leaves the session as it was. -/
theorem eq_of_run_editInPlace (refused : (editInPlace edit).run session = .error error left) :
    left = session := by
  rw [run_editInPlace] at refused
  exact (Edit.ending_eq_error_iff.1 refused).2

theorem stateOf_run_editInPlace (edit : Edit) (session : Session) :
    stateOf ((editInPlace edit).run session) = session.afterEdit edit := by
  rw [run_editInPlace, afterEdit]
  cases session.edit edit <;> rfl

/-- The states of a session are those that edits in place leave, one after the other, whether
they succeed or fail. -/
theorem states_eq_scanl (session : Session) (edits : List Edit) :
    session.states edits =
      edits.scanl (fun held edit => stateOf ((editInPlace edit).run held)) session := by
  induction edits generalizing session with
  | nil => rfl
  | cons edit rest ih => rw [states, List.scanl_cons, stateOf_run_editInPlace, ih]

theorem run_editAllInPlace_cons (edit : Edit) (rest : List Edit) (session : Session) :
    (editAllInPlace (edit :: rest)).run session =
      match session.edit edit with
      | .ok (next, _) => (editAllInPlace rest).run next
      | .error error => .error error session := by
  rw [editAllInPlace, EStateM.run_bind, run_editInPlace]
  cases session.edit edit <;> rfl

/-- Behind edits that are accepted a sequence goes on from the session that they lead to. -/
theorem Accepts.run_editAllInPlace_append (accepts : session.Accepts front reached)
    (back : List Edit) :
    (editAllInPlace (front ++ back)).run session = (editAllInPlace back).run reached := by
  induction accepts with
  | nil session => rfl
  | cons accepted others ih =>
      rw [List.cons_append, run_editAllInPlace_cons, accepted]
      exact ih

theorem Accepts.run_editAllInPlace (accepts : session.Accepts edits reached) :
    (editAllInPlace edits).run session = .ok () reached := by
  have run := accepts.run_editAllInPlace_append []
  rwa [List.append_nil] at run

/-- A sequence of edits in place stops at the first that is refused, in the session that the
edits in front of it lead to. -/
theorem Accepts.run_editAllInPlace_of_refused (accepts : session.Accepts front reached)
    (refused : reached.edit edit = .error error) (back : List Edit) :
    (editAllInPlace (front ++ edit :: back)).run session = .error error reached := by
  rw [accepts.run_editAllInPlace_append, run_editAllInPlace_cons, refused]

/-- A sequence of edits is accepted as a whole, or one edit is refused behind others that are
accepted. -/
theorem accepts_or_refused (session : Session) (edits : List Edit) :
    (∃ last, session.Accepts edits last) ∨
      ∃ front edit back reached error, edits = front ++ edit :: back ∧
        session.Accepts front reached ∧ reached.edit edit = .error error := by
  cases edited : session.editAll edits with
  | ok last => exact .inl ⟨last, editAll_eq_ok_iff.1 edited⟩
  | error error =>
      obtain ⟨front, edit, back, reached, cut, accepts, refused⟩ := editAll_eq_error_iff.1 edited
      exact .inr ⟨front, edit, back, reached, error, cut, accepts, refused⟩

theorem run_editAllInPlace_eq_ok_iff :
    (editAllInPlace edits).run session = .ok () left ↔ session.Accepts edits left := by
  constructor
  · intro succeeds
    rcases session.accepts_or_refused edits with
      ⟨last, accepts⟩ | ⟨front, edit, back, reached, error, rfl, accepts, refused⟩
    · rw [accepts.run_editAllInPlace] at succeeds
      cases succeeds
      exact accepts
    · rw [accepts.run_editAllInPlace_of_refused refused] at succeeds
      cases succeeds
  · exact Accepts.run_editAllInPlace

/-- A sequence of edits in place that fails keeps all that was written in front of the refused
edit, and nothing else. -/
theorem run_editAllInPlace_eq_error_iff :
    (editAllInPlace edits).run session = .error error left ↔
      ∃ front edit back, edits = front ++ edit :: back ∧ session.Accepts front left ∧
        left.edit edit = .error error := by
  constructor
  · intro fails
    rcases session.accepts_or_refused edits with
      ⟨last, accepts⟩ | ⟨front, edit, back, reached, found, rfl, accepts, refused⟩
    · rw [accepts.run_editAllInPlace] at fails
      cases fails
    · rw [accepts.run_editAllInPlace_of_refused refused] at fails
      cases fails
      exact ⟨front, edit, back, rfl, accepts, refused⟩
  · rintro ⟨front, edit, back, rfl, accepts, refused⟩
    exact accepts.run_editAllInPlace_of_refused refused back

end Session

end AstGrammar
