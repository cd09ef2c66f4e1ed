import AstGrammar.Proofs.AttributeList
import AstGrammar.Session

/-!
# What one edit does

An edit of an entry is accepted exactly when the type that it would store has
no fault.  It then changes nothing but the attributes of the entry, and in a
model or a session nothing but the entry that its name resolves to.  A refused
edit leaves a session as it is.
-/

namespace AstGrammar

namespace Entry

@[simp]
theorem attributes_withAttributes (entry : Entry) (attributes : List Attribute) :
    (entry.withAttributes attributes).attributes = attributes := by
  cases entry <;> rfl

end Entry

namespace Edit

def edited (edit : Edit) (entry : Entry) : Entry :=
  entry.withAttributes
    (Attribute.setType edit.field (edit.newType entry.attributes) entry.attributes)

@[simp]
theorem attributes_edited (edit : Edit) (entry : Entry) :
    (edit.edited entry).attributes =
      Attribute.setType edit.field (edit.newType entry.attributes) entry.attributes := by
  simp [edited]

theorem apply_of_fault?_eq_none {edit : Edit} {entry : Entry}
    (clean : (edit.newType entry.attributes).fault? = none) :
    edit.apply (some entry) =
      .ok (edit.edited entry, Attribute.outcomeOfSet edit.field entry.attributes) := by
  simp only [apply, clean]
  rfl

theorem apply_of_fault?_eq_some {edit : Edit} {entry : Entry} {fault : TypeFault}
    (faulty : (edit.newType entry.attributes).fault? = some fault) :
    edit.apply (some entry) = .error (.rejectedType edit.entry edit.field fault) := by
  simp only [apply, faulty]

/-- All that an accepted edit of an entry can be. -/
theorem apply_eq_ok_iff {edit : Edit} {held : Option Entry} {result : Entry}
    {outcome : EditOutcome} :
    edit.apply held = .ok (result, outcome) ↔
      ∃ entry, held = some entry ∧ (edit.newType entry.attributes).fault? = none ∧
        result = edit.edited entry ∧
        outcome = Attribute.outcomeOfSet edit.field entry.attributes := by
  cases held with
  | none => simp [apply]
  | some entry =>
      cases found : (edit.newType entry.attributes).fault? with
      | some fault => simp [apply_of_fault?_eq_some found, found]
      | none =>
          rw [apply_of_fault?_eq_none found]
          simp [found, eq_comm]

end Edit

namespace GrammarModel

/-- All that a name can resolve to: the node, or the named type when there is no
node. -/
theorem resolve_eq_some_iff {model : GrammarModel} {name : String} {entry : Entry} :
    model.resolve name = some entry ↔
      (∃ node, model.node? name = some node ∧ entry = .node node) ∨
        model.node? name = none ∧
          ∃ namedType, model.namedType? name = some namedType ∧ entry = .namedType namedType := by
  rw [resolve]
  cases model.node? name with
  | some node => simp [eq_comm]
  | none =>
      cases model.namedType? name with
      | some namedType => simp [eq_comm]
      | none => simp

/-- All that an accepted edit of a model can be. -/
theorem edit_eq_ok_iff {model result : GrammarModel} {edit : Edit} {outcome : EditOutcome} :
    model.edit edit = .ok (result, outcome) ↔
      ∃ entry, model.resolve edit.entry = some entry ∧
        (edit.newType entry.attributes).fault? = none ∧
        result = model.replace edit.entry (edit.edited entry) ∧
        outcome = Attribute.outcomeOfSet edit.field entry.attributes := by
  rw [GrammarModel.edit]
  cases applied : edit.apply (model.resolve edit.entry) with
  | error error =>
      simp only [reduceCtorEq, false_iff, not_exists, not_and]
      intro entry resolved clean
      rw [resolved, Edit.apply_of_fault?_eq_none clean] at applied
      cases applied
  | ok applying =>
      obtain ⟨entry, resolved, clean, editedEq, outcomeEq⟩ := Edit.apply_eq_ok_iff.1 applied
      simp only [Except.ok.injEq, Prod.mk.injEq, editedEq, outcomeEq]
      constructor
      · rintro ⟨resultEq, same⟩
        exact ⟨entry, resolved, clean, resultEq.symm, same.symm⟩
      · rintro ⟨other, otherResolved, -, resultEq, same⟩
        rw [resolved] at otherResolved
        cases otherResolved
        exact ⟨resultEq.symm, same.symm⟩

end GrammarModel

namespace Session

/-- The session after an edit. A refused edit changes nothing. -/
def afterEdit (session : Session) (edit : Edit) : Session :=
  match session.edit edit with
  | .ok (edited, _) => edited
  | .error _ => session

/-- The sessions that a sequence of edits passes through, the first one
included. -/
def states (session : Session) : List Edit → List Session
  | [] => [session]
  | edit :: rest => session :: (session.afterEdit edit).states rest

/-- An edit leaves the model as it is or is accepted by it. -/
theorem model_afterEdit_cases (session : Session) (edit : Edit) :
    (session.afterEdit edit).model = session.model ∨
      ∃ outcome, session.model.edit edit = .ok ((session.afterEdit edit).model, outcome) := by
  cases edited : session.model.edit edit with
  | error error =>
      left
      simp only [afterEdit, Session.edit, edited]
  | ok result =>
      right
      simp only [afterEdit, Session.edit, edited]
      exact ⟨result.2, rfl⟩

end Session

end AstGrammar
