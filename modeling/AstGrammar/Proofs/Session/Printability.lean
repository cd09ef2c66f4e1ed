import AstGrammar.Proofs.Rendering.Failures
import AstGrammar.Proofs.Session.Soundness

/-!
# The entries of a session that can be printed

The types of a loaded session stay without faults through all edits, so what an
entry lacks to be printed can be read off its kinds: a node has no attribute
that is a union, and a named type has labels where its kind puts them.
-/

namespace AstGrammar

namespace Entry

/-- A node has an attribute that is a union. A named type is a union with an
alternative that has no label, or holds a nested expression without one. -/
def IsUnprintable : Entry → Prop
  | .node held => ∃ field ∈ held.attributes, field.type.kind = .union
  | .namedType held =>
      (held.expression.kind = .union ∧
        ∃ items, held.expression.argument = .alternatives items ∧
          ∃ item ∈ items, item.argument.label? = none) ∨
      held.expression.kind ≠ .union ∧
        ∃ inner, held.expression.argument = .nested inner ∧ inner.argument.label? = none

/-- Where no type has a fault, kinds tell which arguments have no text. -/
theorem IsSound.hasNoLines_iff {entry : Entry} (sound : entry.IsSound) :
    entry.HasNoLines ↔ entry.IsUnprintable := by
  cases entry with
  | node node =>
      have kinds : ∀ field ∈ node.attributes,
          (∃ items, field.type.argument = .alternatives items) ↔ field.type.kind = .union :=
        fun field member => (TypeExpression.kind_eq_union_iff_of_check (sound.2 field member)).symm
      simp only [HasNoLines, IsUnprintable]
      constructor
      · rintro ⟨field, member, hasItems⟩
        exact ⟨field, member, (kinds field member).1 hasItems⟩
      · rintro ⟨field, member, isUnion⟩
        exact ⟨field, member, (kinds field member).2 isUnion⟩
  | namedType namedType =>
      have isUnion := TypeExpression.kind_eq_union_iff_of_check sound
      simp only [HasNoLines, IsUnprintable, ne_eq, isUnion]
      cases namedType.expression.argument with
      | label name => simp [Argument.HasNoLabels]
      | nested inner => simp [Argument.HasNoLabels]
      | alternatives items => simp [Argument.HasNoLabels]

end Entry

namespace GrammarModel

/-- Every name of a model resolves. -/
theorem exists_resolve_of_mem_names {model : GrammarModel} {name : String}
    (member : name ∈ model.names) : ∃ entry, model.resolve name = some entry := by
  have listed : (name, model.resolve name) ∈
      model.shownEntries.map fun entry => (entry.1, some entry.2) := by
    rw [← model.map_resolve_names]
    exact List.mem_map_of_mem member
  obtain ⟨entry, -, same⟩ := List.mem_map.1 listed
  exact ⟨entry.2, (congrArg Prod.snd same).symm⟩

end GrammarModel

namespace Session

variable {settings : Settings} {source : GrammarSource} {session : Session}

theorem render_fails_iff (sound : session.model.EveryEntry Entry.IsSound) {name : String}
    {entry : Entry} (resolved : session.resolve name = some entry) :
    (∃ error, session.render name = .error error) ↔ entry.IsUnprintable := by
  rw [render, resolved, Rendering.render_fails_iff]
  exact (sound.of_resolve resolved).hasNoLines_iff

theorem malformed_of_render {name : String} {entry : Entry} {error : EntryError}
    (resolved : session.resolve name = some entry) (fails : session.render name = .error error) :
    ∃ fault, error = .malformedType name fault := by
  rw [render, resolved] at fails
  obtain ⟨fault, -, named⟩ := Rendering.render_eq_error_iff.1 fails
  exact ⟨fault, named⟩

/-- In every state that edits of a loaded session pass through, and under all
options, what a name resolves to fails to be rendered exactly when it is
unprintable, and an unresolved name always fails. The whole session fails
exactly when one of its names resolves to something unprintable. The errors name
the entry. -/
theorem render_fails_iff_of_mem_states (loaded : load settings source = .ok session)
    (edits : List Edit) :
    ∀ state ∈ session.states edits, ∀ options : RenderOptions,
      let shown : Session := { state with options := options }
      (∀ name entry, shown.resolve name = some entry →
        ((∃ error, shown.render name = .error error) ↔ entry.IsUnprintable) ∧
          ∀ error, shown.render name = .error error →
            ∃ fault, error = .malformedType name fault) ∧
      (∀ name, shown.resolve name = none → ∃ error, shown.render name = .error error) ∧
      ((∃ error, shown.renderAll = .error error) ↔
        ∃ name ∈ shown.names, ∃ entry, shown.resolve name = some entry ∧ entry.IsUnprintable) ∧
      ∀ error, shown.renderAll = .error error →
        ∃ name ∈ shown.names, ∃ entry fault, shown.resolve name = some entry ∧
          entry.IsUnprintable ∧ error = .malformedType name fault := by
  intro state member options shown
  have sound : shown.model.EveryEntry Entry.IsSound :=
    everyEntry_isSound_of_mem_states loaded edits state member
  refine ⟨?resolved, ?unresolved, ?all, ?allError⟩
  case resolved =>
    intro name entry resolved
    exact ⟨render_fails_iff sound resolved, fun error => malformed_of_render resolved⟩
  case unresolved =>
    intro name absent
    exact ⟨.invalidShape name .absent, by rw [render, absent, Rendering.render]⟩
  case all =>
    have fails := Rendering.renderNames_fails_iff shown.options shown.model shown.names
    rw [renderAll, renderNames, fails]
    constructor
    · rintro ⟨name, listed, nameFails⟩
      obtain ⟨entry, resolved⟩ := GrammarModel.exists_resolve_of_mem_names listed
      exact ⟨name, listed, entry, resolved, (render_fails_iff sound resolved).1 nameFails⟩
    · rintro ⟨name, listed, entry, resolved, unprintable⟩
      exact ⟨name, listed, (render_fails_iff sound resolved).2 unprintable⟩
  case allError =>
    intro error fails
    obtain ⟨front, name, back, cut, -, nameFails⟩ := Rendering.renderNames_eq_error_iff.1 fails
    have listed : name ∈ shown.names := by
      rw [cut]
      exact List.mem_append_right front List.mem_cons_self
    obtain ⟨entry, resolved⟩ := GrammarModel.exists_resolve_of_mem_names listed
    obtain ⟨fault, named⟩ := malformed_of_render resolved nameFails
    exact ⟨name, listed, entry, fault, resolved,
      (render_fails_iff sound resolved).1 ⟨error, nameFails⟩, named⟩

/-- The node of calls has a union before and after each edit, accepted or not. -/
theorem render_callEdits_fails :
    ∃ session, load .standard callSource = .ok session ∧
      ∀ state ∈ session.states callEdits, ∀ options : RenderOptions,
        ∃ fault, { state with options := options }.render "Call" =
          .error (.malformedType "Call" fault) := by
  let hasUnion : Entry → Bool
    | .node held => held.attributes.any fun field => field.type.kind == .union
    | .namedType _ => false
  have loads : (load .standard callSource).toOption.map (fun session =>
      (session.states callEdits).all fun state => (state.resolve "Call").any hasUnion) =
        some true := by
    decide +kernel
  obtain ⟨session, loaded, unions⟩ := Option.map_eq_some_iff.1 loads
  have sessionLoaded := eq_ok_of_toOption_eq_some loaded
  refine ⟨session, sessionLoaded, fun state member options => ?_⟩
  obtain ⟨byName, -⟩ := render_fails_iff_of_mem_states sessionLoaded callEdits state member options
  obtain ⟨entry, resolved, isUnion⟩ :=
    (Option.any_eq_true _ _).1 (List.all_eq_true.1 unions state member)
  have unprintable : entry.IsUnprintable := by
    cases entry with
    | namedType held => cases isUnion
    | node held =>
        obtain ⟨field, fieldMember, kind⟩ := List.any_eq_true.1 isUnion
        exact ⟨field, fieldMember, eq_of_beq kind⟩
  obtain ⟨fails, named⟩ := byName "Call" entry resolved
  obtain ⟨error, callFails⟩ := fails.2 unprintable
  obtain ⟨fault, rfl⟩ := named error callFails
  exact ⟨fault, callFails⟩

end Session

end AstGrammar
