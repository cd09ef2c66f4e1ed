import AstGrammar.Proofs.Codec.Canonical
import AstGrammar.Proofs.Codec.RoundTrip
import AstGrammar.Proofs.Session.Soundness

/-!
# Reloading a session

The model of a session, written as a document, is loaded again without a
problem and unchanged.  Two invariants carry this: soundness gives the checks
of the loader, and canonical kinds make decoding undo encoding.
-/

namespace AstGrammar

namespace Codec

theorem encodeArgument_ne_null (argument : Argument) : encodeArgument argument ≠ .null := by
  cases argument with
  | label name => simp [encodeArgument]
  | nested inner =>
      cases inner with
      | mk kind argument => simp [encodeArgument, encodeExpression]
  | alternatives items => simp [encodeArgument]

end Codec

namespace Document

open Codec

theorem hasField_of_member? {members : List (String × Json)} {name : String} {value : Json}
    (found : Json.member? name members = some value) (present : value ≠ .null) :
    (Json.object members).HasField name :=
  ⟨members, value, rfl, found, present⟩

theorem not_hasField_of_member? {members : List (String × Json)} {name : String}
    (absent : Json.member? name members = none) : ¬ (Json.object members).HasField name := by
  rintro ⟨others, value, equal, found, -⟩
  cases equal
  rw [absent] at found
  cases found

theorem isNode_encodeNode {node : Node} (sound : (Entry.node node).IsSound)
    (canonical : (Entry.node node).IsCanonical) : IsNode (encodeNode node) node where
  parents := hasField_of_member? rfl (by simp [encodeNames])
  children := hasField_of_member? rfl (by simp [encodeNames])
  attributes := hasField_of_member? rfl (by simp [encodeAttributes])
  unambiguous := fun both => not_hasField_of_member? rfl both.1
  decoded := decodeNode_encodeNode canonical
  names_nodup := sound.1
  types_pass := sound.2

theorem member?_parents_encodeProperties (properties : List Attribute) :
    Json.member? "parents" (encodeProperties properties) = none := by
  cases properties with
  | nil => rfl
  | cons first rest => rfl

theorem isNamedType_encodeNamedType {namedType : NamedType}
    (sound : (Entry.namedType namedType).IsSound)
    (canonical : (Entry.namedType namedType).IsCanonical) :
    IsNamedType (encodeNamedType namedType) namedType where
  kind := hasField_of_member? rfl (by simp)
  argument := hasField_of_member? rfl (encodeArgument_ne_null _)
  unambiguous := by
    intro all
    apply not_hasField_of_member? _ all.1
    exact member?_parents_encodeProperties namedType.properties
  decoded := decodeNamedType_encodeNamedType canonical
  definition_passes := sound

theorem reads_map_entries {α : Type} {read : Json → Except (List EntryProblem) α}
    {encode : α → Json} {registry : Registry α}
    (accepted : ∀ entry ∈ registry.entries, read (encode entry.2) = .ok entry.2) :
    Reads read (registry.entries.map fun entry => (entry.1, encode entry.2)) registry := by
  rw [Reads, List.map_map]
  apply List.map_congr_left
  intro entry member
  rw [Function.comp_apply, accepted entry member]

theorem collection?_node_encodeModel (model : GrammarModel) :
    collection? .node (encodeModel model) =
      some (model.nodes.entries.map fun entry => (entry.1, encodeNode entry.2)) :=
  rfl

theorem collection?_namedType_encodeModel (model : GrammarModel) :
    collection? .namedType (encodeModel model) =
      some (model.namedTypes.entries.map fun entry => (entry.1, encodeNamedType entry.2)) :=
  rfl

theorem hasDistinctEntries_encodeModel (model : GrammarModel) :
    HasDistinctEntries (encodeModel model) := by
  intro shape members found
  cases shape with
  | node =>
      rw [collection?_node_encodeModel, Option.some.injEq] at found
      rw [← found, List.map_map]
      exact model.nodes.nodup
  | namedType =>
      rw [collection?_namedType_encodeModel, Option.some.injEq] at found
      rw [← found, List.map_map]
      exact model.namedTypes.nodup

/-- A model whose entries are sound and canonical is loaded from its own
encoding. -/
theorem readModel_encodeModel {model : GrammarModel} (sound : model.EveryEntry Entry.IsSound)
    (canonical : model.EveryEntry Entry.IsCanonical) :
    readModel (encodeModel model) = .ok model := by
  rw [readModel_eq_ok_iff (hasDistinctEntries_encodeModel model)]
  refine ⟨⟨_, collection?_node_encodeModel model, ?_⟩,
    _, collection?_namedType_encodeModel model, ?_⟩
  · apply reads_map_entries
    intro entry member
    rw [readNode_eq_ok_iff]
    exact isNode_encodeNode (sound.nodes entry member) (canonical.nodes entry member)
  · apply reads_map_entries
    intro entry member
    rw [readNamedType_eq_ok_iff]
    exact isNamedType_encodeNamedType (sound.namedTypes entry member)
      (canonical.namedTypes entry member)

end Document

namespace Session

variable {settings : Settings} {source : GrammarSource} {session : Session}

theorem everyEntry_isCanonical_of_mem_states (loaded : load settings source = .ok session)
    {edits : List Edit} (canonical : ∀ edit ∈ edits, edit.IsCanonical) :
    ∀ state ∈ session.states edits, state.model.EveryEntry Entry.IsCanonical := by
  apply everyEntry_of_mem_states
  · apply everyEntry_of_load _ _ _ loaded
    · intro raw node read
      exact Codec.isCanonical_of_decodeNode (Document.readNode_eq_ok_iff.1 read).decoded
    · intro raw namedType read
      exact Codec.isCanonical_of_decodeNamedType
        (Document.readNamedType_eq_ok_iff.1 read).decoded
    · exact fun node hints canonical => canonical.reorder hints
  · exact fun edit member entry held _ => held.edited (canonical edit member)

/-- In every state that edits of a loaded session pass through, the model is
loaded from its own encoding without a problem and unchanged, when all kinds
that the edits give are written the canonical way. -/
theorem readModel_encodeModel_of_mem_states (loaded : load settings source = .ok session)
    {edits : List Edit} (canonical : ∀ edit ∈ edits, edit.IsCanonical) :
    ∀ state ∈ session.states edits,
      Document.readModel (Codec.encodeModel state.model) = .ok state.model := by
  intro state member
  apply Document.readModel_encodeModel
  · exact everyEntry_isSound_of_mem_states loaded edits state member
  · exact everyEntry_isCanonical_of_mem_states loaded canonical state member

theorem readModel_encodeModel_of_callEdits :
    (∀ edit ∈ callEdits, edit.IsCanonical) ∧
      ∃ session, load .standard callSource = .ok session ∧
        ∀ state ∈ session.states callEdits,
          Document.readModel (Codec.encodeModel state.model) = .ok state.model := by
  have canonical : ∀ edit ∈ callEdits, edit.IsCanonical := by decide
  obtain ⟨session, loaded⟩ := exists_load_callSource
  exact ⟨canonical, session, loaded, readModel_encodeModel_of_mem_states loaded canonical⟩

end Session

end AstGrammar
