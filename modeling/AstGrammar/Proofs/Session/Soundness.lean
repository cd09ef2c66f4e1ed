import AstGrammar.Proofs.Document.Entry
import AstGrammar.Proofs.Session.Invariant
import AstGrammar.Proofs.TypeExpression.Subexpressions

/-!
# Soundness of a session

In every state of a loaded session the attribute names of a node are distinct
and no type has a fault, at any depth: the document is checked for it, hints
only move attributes, and an edit is accepted only with a type that passes.
-/

namespace AstGrammar

/-- A node has distinct attribute names and types without faults, and a named
type has a definition without faults. -/
def Entry.IsSound : Entry → Prop
  | .node held =>
      (held.attributes.map Attribute.name).Nodup ∧
        ∀ field ∈ held.attributes, field.type.check = .ok ()
  | .namedType held => held.expression.check = .ok ()

namespace Entry

theorem isSound_of_readNode {raw : Json} {node : Node}
    (read : Document.readNode raw = .ok node) : (Entry.node node).IsSound := by
  have isNode := Document.readNode_eq_ok_iff.1 read
  exact ⟨isNode.names_nodup, isNode.types_pass⟩

theorem isSound_of_readNamedType {raw : Json} {namedType : NamedType}
    (read : Document.readNamedType raw = .ok namedType) :
    (Entry.namedType namedType).IsSound :=
  (Document.readNamedType_eq_ok_iff.1 read).definition_passes

theorem IsSound.reorder {node : Node} (sound : (Entry.node node).IsSound)
    (hints : List String) : (Entry.node (node.reorder hints)).IsSound := by
  obtain ⟨nodup, pass⟩ := sound
  have perm := Attribute.reorder_perm hints node.attributes
  refine ⟨(perm.map Attribute.name).nodup_iff.2 nodup, ?_⟩
  intro field member
  exact pass field (perm.mem_iff.1 member)

/-- An accepted edit stores a type that passes and repeats no name. -/
theorem IsSound.edited {entry : Entry} (sound : entry.IsSound) {edit : Edit}
    (clean : (edit.newType entry.attributes).fault? = none) :
    (edit.edited entry).IsSound := by
  cases entry with
  | node node =>
      have valid : Attribute.AreValid node.attributes := ⟨sound.1, sound.2⟩
      have edited := valid.setType edit.field clean
      exact ⟨edited.names_nodup, edited.types_pass⟩
  | namedType namedType => exact sound

end Entry

namespace Session

variable {settings : Settings} {source : GrammarSource} {session : Session}

theorem everyEntry_isSound_of_mem_states (loaded : load settings source = .ok session)
    (edits : List Edit) :
    ∀ state ∈ session.states edits, state.model.EveryEntry Entry.IsSound := by
  apply everyEntry_of_mem_states
  · apply everyEntry_of_load _ _ _ loaded
    · exact fun raw node read => Entry.isSound_of_readNode read
    · exact fun raw namedType read => Entry.isSound_of_readNamedType read
    · exact fun node hints sound => sound.reorder hints
  · exact fun edit _ entry sound clean => sound.edited clean

/-- In every state that edits of a loaded session pass through, accepted or
refused, the attribute names of each node are distinct, the types of its
attributes pass the check at every depth, and so does the definition of each
named type. -/
theorem nodup_names_and_check_of_mem_states (loaded : load settings source = .ok session)
    (edits : List Edit) :
    ∀ state ∈ session.states edits,
      (∀ entry ∈ state.model.nodes.entries,
        (entry.2.attributes.map Attribute.name).Nodup ∧
          ∀ field ∈ entry.2.attributes, ∀ part ∈ field.type.subexpressions,
            part.check = .ok ()) ∧
      ∀ entry ∈ state.model.namedTypes.entries,
        ∀ part ∈ entry.2.expression.subexpressions, part.check = .ok () := by
  intro state member
  have sound := everyEntry_isSound_of_mem_states loaded edits state member
  refine ⟨fun entry entryMember => ?_, fun entry entryMember => ?_⟩
  · obtain ⟨nodup, pass⟩ := sound.nodes entry entryMember
    refine ⟨nodup, fun field fieldMember => ?_⟩
    exact field.type.check_eq_ok_iff_forall_subexpressions.1 (pass field fieldMember)
  · have passes : entry.2.expression.check = .ok () := sound.namedTypes entry entryMember
    exact entry.2.expression.check_eq_ok_iff_forall_subexpressions.1 passes

theorem nodup_names_and_check_of_callEdits :
    ∃ session, load .standard callSource = .ok session ∧
      ∀ state ∈ session.states callEdits,
        (∀ entry ∈ state.model.nodes.entries,
          (entry.2.attributes.map Attribute.name).Nodup ∧
            ∀ field ∈ entry.2.attributes, ∀ part ∈ field.type.subexpressions,
              part.check = .ok ()) ∧
        ∀ entry ∈ state.model.namedTypes.entries,
          ∀ part ∈ entry.2.expression.subexpressions, part.check = .ok () := by
  obtain ⟨session, loaded⟩ := exists_load_callSource
  exact ⟨session, loaded, nodup_names_and_check_of_mem_states loaded callEdits⟩

end Session

end AstGrammar
