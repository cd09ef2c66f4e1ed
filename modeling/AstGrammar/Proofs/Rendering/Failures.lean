import AstGrammar.Proofs.Rendering.Entries
import AstGrammar.Proofs.Rendering.EntryText
import AstGrammar.Proofs.TypeExpression.Subexpressions

/-!
# Entries that cannot be rendered

An entry has no text when it has an argument that its line has no place for:
alternatives in an attribute of a node, and an alternative or a nested
expression without a label in a named type.  The options have no part in it.
Names are rendered up to the first one without a text, which decides the error.
-/

namespace AstGrammar

namespace TypeExpression

/-- Where an expression has no fault, unions and alternatives go together. -/
theorem kind_eq_union_iff_of_check {expression : TypeExpression}
    (passes : expression.check = .ok ()) :
    expression.kind = .union ↔ ∃ items, expression.argument = .alternatives items := by
  have own : expression.ownFault? = none :=
    expression.fault?_eq_none_iff.1 ((check_eq_ok_iff expression).1 passes) expression
      expression.mem_subexpressions_self
  obtain ⟨kind, argument⟩ := expression
  cases argument with
  | label name => cases kind <;> simp_all [ownFault?]
  | nested inner => cases kind <;> simp_all [ownFault?]
  | alternatives items => cases kind <;> simp_all [ownFault?]

end TypeExpression

namespace Argument

/-- The argument has a part that a named type has no text for. -/
def HasNoLabels : Argument → Prop
  | .label _ => False
  | .nested inner => inner.argument.label? = none
  | .alternatives items => ∃ item ∈ items, item.argument.label? = none

end Argument

namespace Entry

/-- The entry has an argument without a place in its lines. -/
def HasNoLines : Entry → Prop
  | .node held => ∃ field ∈ held.attributes, ∃ items, field.type.argument = .alternatives items
  | .namedType held => held.expression.argument.HasNoLabels

end Entry

namespace Rendering

theorem hasNoLabels_iff {argument : Argument} :
    argument.HasNoLabels ↔ ∃ part ∈ argument.parts, HasNoLabel part := by
  cases argument <;> simp [Argument.HasNoLabels, Argument.parts, hasNoLabel_iff]

theorem exists_hasFault_iff (entry : Entry) :
    (∃ fault, HasFault entry fault) ↔ entry.HasNoLines := by
  cases entry with
  | node node =>
      have first : (∃ front field, IsFirst CarriesAlternatives node.attributes front field) ↔
          (Entry.node node).HasNoLines := exists_isFirst_iff
      rw [← first]
      constructor
      · rintro ⟨_, hasFault⟩
        cases hasFault with
        | ofAttribute first found => exact ⟨_, _, first⟩
      · rintro ⟨front, field, first⟩
        obtain ⟨items, found⟩ := first.is_bad
        exact ⟨_, .ofAttribute first found⟩
  | namedType namedType =>
      rw [Entry.HasNoLines, hasNoLabels_iff, ← exists_isFirst_iff]
      constructor
      · rintro ⟨_, hasFault⟩
        cases hasFault with
        | ofAlternative first => exact ⟨_, _, first⟩
      · rintro ⟨front, item, first⟩
        exact ⟨_, .ofAlternative first⟩

theorem entryLines_fails_iff (options : RenderOptions) (entry : Entry) :
    (∃ fault, entryLines options entry = .error fault) ↔ entry.HasNoLines := by
  simp only [entryLines_eq_error_iff, exists_hasFault_iff]

theorem render_fails_iff (options : RenderOptions) (name : String) (entry : Entry) :
    (∃ error, render options name (some entry) = .error error) ↔ entry.HasNoLines := by
  rw [← entryLines_fails_iff options]
  constructor
  · rintro ⟨error, fails⟩
    obtain ⟨fault, found, -⟩ := render_eq_error_iff.1 fails
    exact ⟨fault, found⟩
  · rintro ⟨fault, found⟩
    exact ⟨_, render_eq_error_iff.2 ⟨fault, found, rfl⟩⟩

/-- The first name without a text decides the error of a list of names. -/
theorem renderNames_eq_error_iff {options : RenderOptions} {model : GrammarModel}
    {names : List String} {error : EntryError} :
    renderNames options model names = .error error ↔
      ∃ front name back, names = front ++ name :: back ∧
        (∀ other ∈ front, ∃ text, render options other (model.resolve other) = .ok text) ∧
        render options name (model.resolve name) = .error error := by
  induction names with
  | nil => simp [renderNames]
  | cons first rest ih =>
      rw [renderNames]
      cases rendered : render options first (model.resolve first) with
      | error found =>
          constructor
          · intro fails
            cases fails
            exact ⟨[], first, rest, rfl, fun _ member => absurd member List.not_mem_nil, rendered⟩
          · rintro ⟨front, name, back, cut, renders, fails⟩
            cases front with
            | nil =>
                cases cut
                rw [rendered] at fails
                exact fails
            | cons other front =>
                cases cut
                obtain ⟨text, renders⟩ := renders first List.mem_cons_self
                rw [rendered] at renders
                cases renders
      | ok text =>
          dsimp only
          rw [map_eq_error_iff, ih]
          constructor
          · rintro ⟨front, name, back, rfl, renders, fails⟩
            refine ⟨first :: front, name, back, rfl, ?_, fails⟩
            intro other member
            rcases List.mem_cons.1 member with rfl | later
            · exact ⟨text, rendered⟩
            · exact renders other later
          · rintro ⟨front, name, back, cut, renders, fails⟩
            cases front with
            | nil =>
                cases cut
                rw [rendered] at fails
                cases fails
            | cons other front =>
                cases cut
                exact ⟨front, name, back, rfl,
                  fun other member => renders other (List.mem_cons_of_mem _ member), fails⟩

theorem renderNames_fails_iff (options : RenderOptions) (model : GrammarModel)
    (names : List String) :
    (∃ error, renderNames options model names = .error error) ↔
      ∃ name ∈ names, ∃ error, render options name (model.resolve name) = .error error := by
  induction names with
  | nil => simp [renderNames]
  | cons name rest ih =>
      rw [List.exists_mem_cons_iff, ← ih, renderNames]
      cases render options name (model.resolve name) with
      | error error => simp
      | ok text => simp

end Rendering

end AstGrammar
