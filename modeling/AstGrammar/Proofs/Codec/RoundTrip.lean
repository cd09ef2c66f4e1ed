import AstGrammar.Codec.Decode
import AstGrammar.Codec.Encode
import AstGrammar.Proofs.TypeExpression.Canonical

/-!
# Encoding and decoding

Whatever has only canonical kinds is decoded from its own encoding.  A label
is encoded as a text, a nested expression as an object and alternatives as a
list of objects, so the first form of an argument that fits is the one that
was encoded.
-/

namespace AstGrammar.Codec

theorem decodeKind_name {kind : TypeKind} (canonical : kind.IsCanonical) :
    decodeKind (.string kind.name) = .ok kind := by
  rw [decodeKind, decodeString, Except.map, TypeKind.ofName_name canonical]

section Members

variable {kind : TypeKind} {argument : Argument} {rest : List (String × Json)}

/-- Members that are no fields of an expression are passed over. -/
theorem decodeExpressionMembers_foreign
    (foreign : ∀ member ∈ rest, member.1 ≠ "kind" ∧ member.1 ≠ "argument") :
    decodeExpressionMembers (some kind) (some argument) rest = .ok (.mk kind argument) := by
  induction rest with
  | nil =>
      rw [decodeExpressionMembers]
      rfl
  | cons member rest ih =>
      obtain ⟨name, value⟩ := member
      rw [List.forall_mem_cons] at foreign
      rw [decodeExpressionMembers, if_neg foreign.1.1, if_neg foreign.1.2]
      exact ih foreign.2

theorem decodeExpressionMembers_fields {raw : Json} (canonical : kind.IsCanonical)
    (decoded : decodeArgument raw = .ok argument)
    (foreign : ∀ member ∈ rest, member.1 ≠ "kind" ∧ member.1 ≠ "argument") :
    decodeExpressionMembers none none (("kind", .string kind.name) :: ("argument", raw) :: rest) =
      .ok (.mk kind argument) := by
  rw [decodeExpressionMembers, if_pos rfl, decodeKind_name canonical]
  dsimp only
  rw [decodeExpressionMembers, if_neg (by decide), if_pos rfl, decoded]
  exact decodeExpressionMembers_foreign foreign

end Members

/-- An encoded expression is an object, so an argument in its place is nested. -/
theorem decodeArgument_of_decodeExpression {expression decoded : TypeExpression}
    (read : decodeExpression (encodeExpression expression) = .ok decoded) :
    decodeArgument (encodeExpression expression) = .ok (.nested decoded) := by
  cases expression with
  | mk kind argument =>
      rw [encodeExpression] at read ⊢
      rw [decodeExpression] at read
      rw [decodeArgument, read]

theorem decodeAlternative_encodeExpression (expression : TypeExpression) :
    decodeAlternative (encodeExpression expression) =
      decodeExpression (encodeExpression expression) := by
  cases expression with
  | mk kind argument => rw [encodeExpression, decodeAlternative, decodeExpression]

mutual

/-- A canonical expression is decoded from its own encoding. -/
theorem decodeExpression_encodeExpression {expression : TypeExpression}
    (canonical : expression.IsCanonical) :
    decodeExpression (encodeExpression expression) = .ok expression := by
  match expression with
  | .mk kind argument =>
      rw [TypeExpression.isCanonical_mk_iff] at canonical
      rw [encodeExpression, decodeExpression]
      apply decodeExpressionMembers_fields canonical.1
      · exact decodeArgument_encodeArgument canonical.2
      · exact fun member held => absurd held List.not_mem_nil

theorem decodeArgument_encodeArgument {argument : Argument} (canonical : argument.IsCanonical) :
    decodeArgument (encodeArgument argument) = .ok argument := by
  match argument with
  | .label name => rw [encodeArgument, decodeArgument]
  | .nested inner =>
      rw [Argument.isCanonical_nested_iff] at canonical
      rw [encodeArgument]
      exact decodeArgument_of_decodeExpression (decodeExpression_encodeExpression canonical)
  | .alternatives items =>
      rw [Argument.isCanonical_alternatives_iff] at canonical
      rw [encodeArgument, decodeArgument, decodeAlternatives_encodeItems canonical]

theorem decodeAlternatives_encodeItems {items : List TypeExpression}
    (canonical : ∀ item ∈ items, item.IsCanonical) :
    decodeAlternatives (encodeItems items) = .ok items := by
  match items with
  | [] => rw [encodeItems, decodeAlternatives]
  | item :: rest =>
      rw [List.forall_mem_cons] at canonical
      rw [encodeItems, decodeAlternatives, decodeAlternative_encodeExpression,
        decodeExpression_encodeExpression canonical.1]
      dsimp only
      rw [decodeAlternatives_encodeItems canonical.2]
      rfl

end

theorem decodeAttribute_encodeAttribute {field : Attribute}
    (canonical : field.type.IsCanonical) :
    decodeAttribute (encodeAttribute field) = .ok field := by
  rw [encodeAttribute, decodeAttribute, decodeAttributeMembers, if_pos rfl, decodeString]
  change decodeAttributeMembers (some field.name) none _ = _
  rw [decodeAttributeMembers, if_neg (by decide), if_pos rfl,
    decodeExpression_encodeExpression canonical]
  rfl

/-- A list whose items are decoded from their encodings is decoded from its
own. -/
theorem decodeList_map {α : Type} {decode : Json → Decoded α} {encode : α → Json}
    {values : List α} (inverse : ∀ value ∈ values, decode (encode value) = .ok value) :
    decodeList decode (.array (values.map encode)) = .ok values := by
  rw [decodeList]
  induction values with
  | nil => rfl
  | cons value rest ih =>
      rw [List.forall_mem_cons] at inverse
      rw [List.map_cons, List.mapM_cons, inverse.1, ih inverse.2]
      rfl

theorem decodeList_encodeNames (names : List String) :
    decodeList decodeString (encodeNames names) = .ok names :=
  decodeList_map fun _ _ => rfl

theorem decodeList_encodeAttributes {attributes : List Attribute}
    (canonical : Attribute.AreCanonical attributes) :
    decodeList decodeAttribute (encodeAttributes attributes) = .ok attributes :=
  decodeList_map fun field member => decodeAttribute_encodeAttribute (canonical field member)

theorem decodeNode_encodeNode {node : Node} (canonical : (Entry.node node).IsCanonical) :
    decodeNode (encodeNode node) = .ok node := by
  have attributes := decodeList_encodeAttributes canonical
  rw [encodeNode, decodeNode, decodeNodeMembers, if_pos rfl, decodeList_encodeNames]
  change decodeNodeMembers _ _ = _
  rw [decodeNodeMembers, if_neg (by decide), if_pos rfl, decodeList_encodeNames]
  change decodeNodeMembers _ _ = _
  rw [decodeNodeMembers, if_neg (by decide), if_neg (by decide), if_pos rfl, attributes]
  rfl

theorem decodeProperties_encodeProperties {properties : List Attribute}
    (canonical : Attribute.AreCanonical properties) :
    decodeProperties [] (encodeProperties properties) = .ok properties := by
  cases properties with
  | nil => rfl
  | cons first rest =>
      rw [encodeProperties, decodeProperties, if_pos rfl,
        decodeList_encodeAttributes canonical]
      · rfl
      · exact List.cons_ne_nil first rest

theorem foreign_encodeProperties (properties : List Attribute) :
    ∀ member ∈ encodeProperties properties, member.1 ≠ "kind" ∧ member.1 ≠ "argument" := by
  intro member held
  cases properties with
  | nil => exact absurd held List.not_mem_nil
  | cons first rest =>
      rw [List.mem_singleton.1 held]
      dsimp only
      decide

theorem decodeNamedType_encodeNamedType {namedType : NamedType}
    (canonical : (Entry.namedType namedType).IsCanonical) :
    decodeNamedType (encodeNamedType namedType) = .ok namedType := by
  obtain ⟨⟨kind, argument⟩, properties⟩ := namedType
  obtain ⟨definition, propertyTypes⟩ := canonical
  rw [TypeExpression.isCanonical_mk_iff] at definition
  have decodedArgument := decodeArgument_encodeArgument definition.2
  have decodedProperties := decodeProperties_encodeProperties propertyTypes
  rw [encodeNamedType, decodeNamedType, decodeProperties, if_neg (by decide), decodeProperties,
    if_neg (by decide), decodedProperties]
  change (decodeExpressionMembers none none _ >>= _) = _
  rw [TypeExpression.kind_mk, TypeExpression.argument_mk,
    decodeExpressionMembers_fields definition.1 decodedArgument
      (foreign_encodeProperties properties)]
  rfl

end AstGrammar.Codec
