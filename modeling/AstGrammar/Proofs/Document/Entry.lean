import AstGrammar.Document.Model
import AstGrammar.Proofs.AttributeList

/-!
# Acceptable entries of a document

What a raw entry of either collection must look like to be accepted, said
without the probe and the lists of problems, and the proof that loading an
entry accepts exactly these and gives back what they hold.
-/

namespace AstGrammar

namespace Json

/-- The value is an object with a member of that name that is not null. -/
def HasField (raw : Json) (name : String) : Prop :=
  ∃ members value, raw = .object members ∧ member? name members = some value ∧ value ≠ .null

end Json

namespace Document

structure IsNode (raw : Json) (node : Node) : Prop where
  parents : raw.HasField "parents"
  children : raw.HasField "children"
  attributes : raw.HasField "attributes"
  unambiguous : ¬ (raw.HasField "kind" ∧ raw.HasField "argument")
  decoded : Codec.decodeNode raw = .ok node
  names_nodup : (node.attributes.map Attribute.name).Nodup
  types_pass : ∀ field ∈ node.attributes, field.type.check = .ok ()

structure IsNamedType (raw : Json) (namedType : NamedType) : Prop where
  kind : raw.HasField "kind"
  argument : raw.HasField "argument"
  unambiguous :
    ¬ (raw.HasField "parents" ∧ raw.HasField "children" ∧ raw.HasField "attributes")
  decoded : Codec.decodeNamedType raw = .ok namedType
  definition_passes : namedType.expression.check = .ok ()

theorem isPresent_iff (value : Json) : value.isPresent = true ↔ value ≠ .null := by
  cases value <;> simp [Json.isPresent]

theorem hasField_iff (members : List (String × Json)) (name : String) :
    hasField members name = true ↔ (Json.object members).HasField name := by
  simp only [hasField, Json.HasField, Json.object.injEq]
  cases found : Json.member? name members with
  | none =>
      simp only [Option.map_none, Option.getD_none, Bool.false_eq_true, false_iff]
      rintro ⟨others, value, rfl, held, -⟩
      rw [found] at held
      cases held
  | some value =>
      simp only [Option.map_some, Option.getD_some, isPresent_iff]
      constructor
      · intro present
        exact ⟨members, value, rfl, found, present⟩
      · rintro ⟨others, held, rfl, heldFound, present⟩
        rw [found] at heldFound
        cases heldFound
        exact present

/-- The presence of a raw entry records which fields it has. -/
theorem presence_iff (raw : Json) :
    ((presence raw).parents = true ↔ raw.HasField "parents") ∧
      ((presence raw).children = true ↔ raw.HasField "children") ∧
      ((presence raw).attributes = true ↔ raw.HasField "attributes") ∧
      ((presence raw).kind = true ↔ raw.HasField "kind") ∧
      ((presence raw).argument = true ↔ raw.HasField "argument") := by
  cases raw with
  | object members =>
      exact ⟨hasField_iff members _, hasField_iff members _, hasField_iff members _,
        hasField_iff members _, hasField_iff members _⟩
  | _ => simp [presence, Json.HasField]

theorem hasNodeFields_iff (raw : Json) :
    (presence raw).hasNodeFields = true ↔
      raw.HasField "parents" ∧ raw.HasField "children" ∧ raw.HasField "attributes" := by
  obtain ⟨parents, children, attributes, -, -⟩ := presence_iff raw
  simp only [Presence.hasNodeFields, Bool.and_eq_true, parents, children, attributes, and_assoc]

theorem hasTypeFields_iff (raw : Json) :
    (presence raw).hasTypeFields = true ↔ raw.HasField "kind" ∧ raw.HasField "argument" := by
  obtain ⟨-, -, -, kind, argument⟩ := presence_iff raw
  simp only [Presence.hasTypeFields, Bool.and_eq_true, kind, argument]

theorem shape_eq_ok_node_iff (presence : Presence) :
    presence.shape = .ok .node ↔
      presence.hasNodeFields = true ∧ ¬ presence.hasTypeFields = true := by
  unfold Presence.shape
  cases presence.hasNodeFields <;> cases presence.hasTypeFields <;> simp

theorem shape_eq_ok_namedType_iff (presence : Presence) :
    presence.shape = .ok .namedType ↔
      presence.hasTypeFields = true ∧ ¬ presence.hasNodeFields = true := by
  unfold Presence.shape
  cases presence.hasNodeFields <;> cases presence.hasTypeFields <;> simp

theorem shapeProblem?_eq_none_iff (expected : Shape) (raw : Json) :
    shapeProblem? expected raw = none ↔ (presence raw).shape = .ok expected := by
  unfold shapeProblem?
  cases (presence raw).shape with
  | error fault => simp
  | ok shape => simp

theorem attributeProblems_eq_nil_iff (attributes : List Attribute) :
    attributeProblems attributes = [] ↔
      ∀ field ∈ attributes, field.type.check = .ok () := by
  simp only [attributeProblems, List.filterMap_eq_nil_iff, Option.map_eq_none_iff,
    TypeExpression.check_eq_ok_iff]

theorem nodeProblems_eq_nil_iff (node : Node) :
    nodeProblems node = [] ↔
      (node.attributes.map Attribute.name).Nodup ∧
        ∀ field ∈ node.attributes, field.type.check = .ok () := by
  rw [nodeProblems, List.append_eq_nil_iff, attributeProblems_eq_nil_iff,
    Option.toList_eq_nil_iff, Option.map_eq_none_iff, Attribute.repeated?_eq_none_iff]
  exact and_comm

theorem namedTypeProblems_eq_nil_iff (namedType : NamedType) :
    namedTypeProblems namedType = [] ↔ namedType.expression.check = .ok () := by
  rw [namedTypeProblems, Option.toList_eq_nil_iff, Option.map_eq_none_iff,
    TypeExpression.check_eq_ok_iff]

/-- An entry is accepted when its shape fits, its fields can be read and what
was read has no problems. -/
theorem readEntry_eq_ok_iff {α : Type} {expected : Shape} {decode : Json → Codec.Decoded α}
    {problems : α → List EntryProblem} {raw : Json} {value : α} :
    readEntry expected decode problems raw = .ok value ↔
      (presence raw).shape = .ok expected ∧ decode raw = .ok value ∧ problems value = [] := by
  rw [← shapeProblem?_eq_none_iff, readEntry]
  cases shapeProblem? expected raw with
  | some problem => simp
  | none =>
      cases decoded : decode raw with
      | error error => simp
      | ok held =>
          dsimp only
          cases found : problems held with
          | nil =>
              simp only [Except.ok.injEq, true_and]
              constructor
              · rintro rfl
                exact ⟨rfl, found⟩
              · exact fun accepted => accepted.1
          | cons problem others =>
              simp only [reduceCtorEq, Except.ok.injEq, true_and, false_iff, not_and]
              rintro rfl
              simp [found]

theorem readNode_eq_ok_iff {raw : Json} {node : Node} :
    readNode raw = .ok node ↔ IsNode raw node := by
  rw [readNode, readEntry_eq_ok_iff, shape_eq_ok_node_iff, hasNodeFields_iff,
    hasTypeFields_iff, nodeProblems_eq_nil_iff]
  constructor
  · rintro ⟨⟨⟨parents, children, attributes⟩, unambiguous⟩, decoded, nodup, pass⟩
    exact ⟨parents, children, attributes, unambiguous, decoded, nodup, pass⟩
  · intro isNode
    exact ⟨⟨⟨isNode.parents, isNode.children, isNode.attributes⟩, isNode.unambiguous⟩,
      isNode.decoded, isNode.names_nodup, isNode.types_pass⟩

theorem readNamedType_eq_ok_iff {raw : Json} {namedType : NamedType} :
    readNamedType raw = .ok namedType ↔ IsNamedType raw namedType := by
  rw [readNamedType, readEntry_eq_ok_iff, shape_eq_ok_namedType_iff, hasNodeFields_iff,
    hasTypeFields_iff, namedTypeProblems_eq_nil_iff]
  constructor
  · rintro ⟨⟨⟨kind, argument⟩, unambiguous⟩, decoded, passes⟩
    exact ⟨kind, argument, unambiguous, decoded, passes⟩
  · intro isNamedType
    exact ⟨⟨⟨isNamedType.kind, isNamedType.argument⟩, isNamedType.unambiguous⟩,
      isNamedType.decoded, isNamedType.definition_passes⟩

end Document

end AstGrammar
