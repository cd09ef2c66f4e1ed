import AstGrammar.Codec.Decode
import AstGrammar.Proofs.TypeExpression.Canonical

/-!
# Decoded kinds

A kind is decoded from its name, so whatever is decoded has only canonical
kinds.  The readers of members carry what was found so far; it is canonical
when they start without anything.
-/

namespace AstGrammar.Codec

theorem isCanonical_of_decodeKind {raw : Json} {kind : TypeKind}
    (decoded : decodeKind raw = .ok kind) : kind.IsCanonical := by
  rw [decodeKind] at decoded
  cases name : decodeString raw with
  | error error =>
      rw [name] at decoded
      cases decoded
  | ok name' =>
      rw [name] at decoded
      cases decoded
      exact TypeKind.ofName_canonical name'

theorem bind_eq_ok_iff {α β : Type} {first : Decoded α} {next : α → Decoded β} {result : β} :
    first >>= next = .ok result ↔ ∃ value, first = .ok value ∧ next value = .ok result := by
  cases first with
  | error error => simp [bind, Except.bind]
  | ok value => simp [bind, Except.bind]

theorem require_eq_ok_iff {α : Type} {name : String} {found : Option α} {result : α} :
    require name found = .ok result ↔ found = some result := by
  cases found <;> simp [require]

theorem requireEnd_eq_ok_iff {α : Type} {arity : Nat} {value result : α} {rest : List Json} :
    requireEnd arity value rest = .ok result ↔ rest = [] ∧ value = result := by
  cases rest <;> simp [requireEnd]

mutual

/-- Every kind in a decoded expression is written the canonical way. -/
theorem isCanonical_of_decodeExpression {raw : Json} {expression : TypeExpression}
    (decoded : decodeExpression raw = .ok expression) : expression.IsCanonical := by
  match raw with
  | .array items =>
      rw [decodeExpression] at decoded
      exact isCanonical_of_decodeExpressionItems decoded
  | .object members =>
      rw [decodeExpression] at decoded
      exact isCanonical_of_decodeExpressionMembers (by simp) (by simp) decoded
  | .null | .bool _ | .number _ | .string _ => simp [decodeExpression, refuse] at decoded

theorem isCanonical_of_decodeExpressionItems {items : List Json} {expression : TypeExpression}
    (decoded : decodeExpressionItems items = .ok expression) : expression.IsCanonical := by
  match items with
  | [] => simp [decodeExpressionItems] at decoded
  | [rawKind] =>
      rw [decodeExpressionItems] at decoded
      split at decoded <;> cases decoded
  | rawKind :: rawArgument :: rest =>
      rw [decodeExpressionItems] at decoded
      cases kindDecoded : decodeKind rawKind with
      | error error => simp [kindDecoded] at decoded
      | ok kind =>
          cases argumentDecoded : decodeArgument rawArgument with
          | error error => simp [kindDecoded, argumentDecoded] at decoded
          | ok argument =>
              simp only [kindDecoded, argumentDecoded] at decoded
              rw [← (requireEnd_eq_ok_iff.1 decoded).2, TypeExpression.isCanonical_mk_iff]
              exact ⟨isCanonical_of_decodeKind kindDecoded,
                isCanonical_of_decodeArgument argumentDecoded⟩

theorem isCanonical_of_decodeExpressionMembers {kind : Option TypeKind}
    {argument : Option Argument} {members : List (String × Json)} {expression : TypeExpression}
    (kindCanonical : ∀ found, kind = some found → found.IsCanonical)
    (argumentCanonical : ∀ found, argument = some found → found.IsCanonical)
    (decoded : decodeExpressionMembers kind argument members = .ok expression) :
    expression.IsCanonical := by
  match members with
  | [] =>
      rw [decodeExpressionMembers] at decoded
      cases argument with
      | none => simp [require, Except.map] at decoded
      | some found =>
          simp only [require, Except.map, Except.ok.injEq] at decoded
          rw [← decoded, TypeExpression.isCanonical_mk_iff]
          refine ⟨?_, argumentCanonical found rfl⟩
          cases kind with
          | none => exact TypeKind.known_canonical (by decide)
          | some kind => exact kindCanonical kind rfl
  | (name, value) :: rest =>
      rw [decodeExpressionMembers] at decoded
      split at decoded
      · cases kindDecoded : decodeKind value with
        | error error => simp [kindDecoded] at decoded
        | ok found =>
            simp only [kindDecoded] at decoded
            refine isCanonical_of_decodeExpressionMembers ?_ argumentCanonical decoded
            rintro _ ⟨⟩
            exact isCanonical_of_decodeKind kindDecoded
      · split at decoded
        · cases argumentDecoded : decodeArgument value with
          | error error => simp [argumentDecoded] at decoded
          | ok found =>
              simp only [argumentDecoded] at decoded
              refine isCanonical_of_decodeExpressionMembers kindCanonical ?_ decoded
              rintro _ ⟨⟩
              exact isCanonical_of_decodeArgument argumentDecoded
        · exact isCanonical_of_decodeExpressionMembers kindCanonical argumentCanonical decoded

theorem isCanonical_of_decodeArgument {raw : Json} {argument : Argument}
    (decoded : decodeArgument raw = .ok argument) : argument.IsCanonical := by
  match raw with
  | .string name =>
      rw [decodeArgument] at decoded
      cases decoded
      exact Argument.isCanonical_label name
  | .array items =>
      rw [decodeArgument] at decoded
      cases alternativesDecoded : decodeAlternatives items with
      | ok alternatives =>
          simp only [alternativesDecoded, Except.ok.injEq] at decoded
          rw [← decoded, Argument.isCanonical_alternatives_iff]
          exact isCanonical_of_decodeAlternatives alternativesDecoded
      | error error =>
          cases innerDecoded : decodeExpressionItems items with
          | error error => simp [alternativesDecoded, innerDecoded] at decoded
          | ok inner =>
              simp only [alternativesDecoded, innerDecoded, Except.ok.injEq] at decoded
              rw [← decoded, Argument.isCanonical_nested_iff]
              exact isCanonical_of_decodeExpressionItems innerDecoded
  | .object members =>
      rw [decodeArgument] at decoded
      cases innerDecoded : decodeExpressionMembers none none members with
      | error error => simp [innerDecoded] at decoded
      | ok inner =>
          simp only [innerDecoded, Except.ok.injEq] at decoded
          rw [← decoded, Argument.isCanonical_nested_iff]
          exact isCanonical_of_decodeExpressionMembers (by simp) (by simp) innerDecoded
  | .null | .bool _ | .number _ => simp [decodeArgument] at decoded

theorem isCanonical_of_decodeAlternatives {items : List Json}
    {alternatives : List TypeExpression}
    (decoded : decodeAlternatives items = .ok alternatives) :
    ∀ item ∈ alternatives, item.IsCanonical := by
  match items with
  | [] =>
      rw [decodeAlternatives] at decoded
      cases decoded
      exact fun item member => absurd member List.not_mem_nil
  | raw :: rest =>
      rw [decodeAlternatives] at decoded
      cases itemDecoded : decodeAlternative raw with
      | error error => simp [itemDecoded] at decoded
      | ok item =>
          cases restDecoded : decodeAlternatives rest with
          | error error => simp [itemDecoded, restDecoded, Except.map] at decoded
          | ok others =>
              simp only [itemDecoded, restDecoded, Except.map, Except.ok.injEq] at decoded
              rw [← decoded, List.forall_mem_cons]
              exact ⟨isCanonical_of_decodeAlternative itemDecoded,
                isCanonical_of_decodeAlternatives restDecoded⟩

theorem isCanonical_of_decodeAlternative {raw : Json} {expression : TypeExpression}
    (decoded : decodeAlternative raw = .ok expression) : expression.IsCanonical := by
  match raw with
  | .string name =>
      rw [decodeAlternative] at decoded
      cases decoded
      apply TypeExpression.isCanonical_mk_iff.2
      exact ⟨TypeKind.known_canonical (by decide), Argument.isCanonical_label name⟩
  | .array items =>
      rw [decodeAlternative] at decoded
      exact isCanonical_of_decodeExpressionItems decoded
  | .object members =>
      rw [decodeAlternative] at decoded
      exact isCanonical_of_decodeExpressionMembers (by simp) (by simp) decoded
  | .null | .bool _ | .number _ => simp [decodeAlternative, refuse] at decoded

end

/-- What holds of everything that is decoded holds of all items of a decoded
list. -/
theorem forall_of_decodeList {α : Type} {decode : Json → Decoded α} {holds : α → Prop}
    (itemHolds : ∀ raw value, decode raw = .ok value → holds value) {raw : Json}
    {values : List α} (decoded : decodeList decode raw = .ok values) :
    ∀ value ∈ values, holds value := by
  cases raw with
  | array items =>
      rw [decodeList] at decoded
      induction items generalizing values with
      | nil =>
          cases decoded
          exact fun value member => absurd member List.not_mem_nil
      | cons item rest ih =>
          rw [List.mapM_cons, bind_eq_ok_iff] at decoded
          obtain ⟨value, itemDecoded, decoded⟩ := decoded
          rw [bind_eq_ok_iff] at decoded
          obtain ⟨others, restDecoded, equal⟩ := decoded
          cases equal
          rw [List.forall_mem_cons]
          exact ⟨itemHolds item value itemDecoded, ih restDecoded⟩
  | _ => simp [decodeList, refuse] at decoded

theorem isCanonical_of_decodeAttributeMembers {name : Option String}
    {type : Option TypeExpression} {members : List (String × Json)} {field : Attribute}
    (typeCanonical : ∀ found, type = some found → found.IsCanonical)
    (decoded : decodeAttributeMembers name type members = .ok field) :
    field.type.IsCanonical := by
  induction members generalizing name type with
  | nil =>
      simp only [decodeAttributeMembers, bind_eq_ok_iff, require_eq_ok_iff] at decoded
      obtain ⟨_, _, found, typeFound, equal⟩ := decoded
      cases equal
      exact typeCanonical found typeFound
  | cons member rest ih =>
      obtain ⟨member, value⟩ := member
      rw [decodeAttributeMembers] at decoded
      split at decoded
      · obtain ⟨_, _, restDecoded⟩ := bind_eq_ok_iff.1 decoded
        exact ih typeCanonical restDecoded
      · split at decoded
        · obtain ⟨found, typeDecoded, restDecoded⟩ := bind_eq_ok_iff.1 decoded
          refine ih ?_ restDecoded
          rintro _ ⟨⟩
          exact isCanonical_of_decodeExpression typeDecoded
        · exact ih typeCanonical decoded

theorem isCanonical_of_decodeAttribute {raw : Json} {field : Attribute}
    (decoded : decodeAttribute raw = .ok field) : field.type.IsCanonical := by
  match raw with
  | .array [] => simp [decodeAttribute, decodeAttributeItems] at decoded
  | .array [rawName] =>
      rw [decodeAttribute, decodeAttributeItems, bind_eq_ok_iff] at decoded
      obtain ⟨_, _, impossible⟩ := decoded
      cases impossible
  | .array (rawName :: rawType :: rest) =>
      simp only [decodeAttribute, decodeAttributeItems, bind_eq_ok_iff,
        requireEnd_eq_ok_iff] at decoded
      obtain ⟨_, _, type, typeDecoded, _, equal⟩ := decoded
      rw [← equal]
      exact isCanonical_of_decodeExpression typeDecoded
  | .object members =>
      rw [decodeAttribute] at decoded
      exact isCanonical_of_decodeAttributeMembers (by simp) decoded
  | .null | .bool _ | .number _ | .string _ => simp [decodeAttribute, refuse] at decoded

theorem areCanonical_of_decodeList {raw : Json} {attributes : List Attribute}
    (decoded : decodeList decodeAttribute raw = .ok attributes) :
    Attribute.AreCanonical attributes :=
  forall_of_decodeList (fun _ _ => isCanonical_of_decodeAttribute) decoded

theorem isCanonical_of_decodeNodeMembers {parts : NodeParts} {members : List (String × Json)}
    {node : Node}
    (partsCanonical : ∀ found, parts.attributes = some found → Attribute.AreCanonical found)
    (decoded : decodeNodeMembers parts members = .ok node) : (Entry.node node).IsCanonical := by
  induction members generalizing parts with
  | nil =>
      simp only [decodeNodeMembers, NodeParts.node, bind_eq_ok_iff,
        require_eq_ok_iff] at decoded
      obtain ⟨_, _, _, _, found, attributesFound, equal⟩ := decoded
      cases equal
      exact partsCanonical found attributesFound
  | cons member rest ih =>
      obtain ⟨member, value⟩ := member
      rw [decodeNodeMembers] at decoded
      split at decoded
      · obtain ⟨_, _, restDecoded⟩ := bind_eq_ok_iff.1 decoded
        refine ih ?_ restDecoded
        exact partsCanonical
      · split at decoded
        · obtain ⟨_, _, restDecoded⟩ := bind_eq_ok_iff.1 decoded
          refine ih ?_ restDecoded
          exact partsCanonical
        · split at decoded
          · obtain ⟨found, attributesDecoded, restDecoded⟩ := bind_eq_ok_iff.1 decoded
            refine ih ?_ restDecoded
            rintro _ ⟨⟩
            exact areCanonical_of_decodeList attributesDecoded
          · exact ih partsCanonical decoded

theorem isCanonical_of_decodeNode {raw : Json} {node : Node}
    (decoded : decodeNode raw = .ok node) : (Entry.node node).IsCanonical := by
  match raw with
  | .array [] => simp [decodeNode, decodeNodeItems] at decoded
  | .array [parents] =>
      rw [decodeNode, decodeNodeItems, bind_eq_ok_iff] at decoded
      obtain ⟨_, _, impossible⟩ := decoded
      cases impossible
  | .array [parents, children] =>
      simp only [decodeNode, decodeNodeItems, bind_eq_ok_iff] at decoded
      obtain ⟨_, _, _, _, impossible⟩ := decoded
      cases impossible
  | .array (parents :: children :: rawAttributes :: rest) =>
      simp only [decodeNode, decodeNodeItems, bind_eq_ok_iff, requireEnd_eq_ok_iff] at decoded
      obtain ⟨_, _, _, _, attributes, attributesDecoded, _, equal⟩ := decoded
      rw [← equal]
      exact areCanonical_of_decodeList attributesDecoded
  | .object members =>
      rw [decodeNode] at decoded
      exact isCanonical_of_decodeNodeMembers (by simp) decoded
  | .null | .bool _ | .number _ | .string _ => simp [decodeNode, refuse] at decoded

theorem areCanonical_of_decodeProperties {properties decodedProperties : List Attribute}
    {members : List (String × Json)} (canonical : Attribute.AreCanonical properties)
    (decoded : decodeProperties properties members = .ok decodedProperties) :
    Attribute.AreCanonical decodedProperties := by
  induction members generalizing properties with
  | nil =>
      cases decoded
      exact canonical
  | cons member rest ih =>
      obtain ⟨member, value⟩ := member
      rw [decodeProperties] at decoded
      split at decoded
      · obtain ⟨found, propertiesDecoded, restDecoded⟩ := bind_eq_ok_iff.1 decoded
        exact ih (areCanonical_of_decodeList propertiesDecoded) restDecoded
      · exact ih canonical decoded

theorem isCanonical_of_decodeNamedType {raw : Json} {namedType : NamedType}
    (decoded : decodeNamedType raw = .ok namedType) :
    (Entry.namedType namedType).IsCanonical := by
  cases raw with
  | object members =>
      simp only [decodeNamedType, bind_eq_ok_iff] at decoded
      obtain ⟨properties, propertiesDecoded, expression, expressionDecoded, equal⟩ := decoded
      cases equal
      have none : Attribute.AreCanonical [] := fun field member => absurd member List.not_mem_nil
      exact ⟨isCanonical_of_decodeExpressionMembers (by simp) (by simp) expressionDecoded,
        areCanonical_of_decodeProperties none propertiesDecoded⟩
  | _ => simp [decodeNamedType, refuse] at decoded

end AstGrammar.Codec
