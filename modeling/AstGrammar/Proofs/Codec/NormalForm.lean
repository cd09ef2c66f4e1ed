import Mathlib.Tactic.TFAE
import AstGrammar.Proofs.Codec.Canonical
import AstGrammar.Proofs.Codec.RoundTrip
import AstGrammar.Proofs.Session.Invariant

/-!
# Normal forms

Several values are decoded as the same expression: a label alone, a list of fields, members
in any order.  The encoding of what is decoded is one of them, and decoding it gives the same
again, so encoding what was decoded is a normal form.  The expressions, attributes, entries
and models that are decoded from any value at all are those with canonical kinds, sound or
not, and each of them is decoded from its own encoding.
-/

namespace AstGrammar.Codec

section Registries

variable {α : Type} {decode : Json → Decoded α} {encode : α → Json}

/-- Entries with new names are decoded to entries behind those that are there. -/
theorem exists_decodeEntries_map (registry : Registry α) {entries : List (String × α)}
    (nodup : ((registry.entries ++ entries).map Prod.fst).Nodup)
    (inverse : ∀ entry ∈ entries, decode (encode entry.2) = .ok entry.2) :
    ∃ result, decodeEntries decode registry
        (entries.map fun entry => (entry.1, encode entry.2)) = .ok result ∧
      result.entries = registry.entries ++ entries := by
  induction entries generalizing registry with
  | nil => exact ⟨registry, rfl, (List.append_nil _).symm⟩
  | cons entry rest ih =>
      obtain ⟨name, value⟩ := entry
      rw [List.forall_mem_cons] at inverse
      have fresh : name ∉ registry.names := by
        rw [List.map_append, List.map_cons, List.nodup_append] at nodup
        exact fun member => nodup.2.2 name member name List.mem_cons_self rfl
      have inserted := Registry.entries_insert_of_notMem value fresh
      have same : (registry.insert name value).entries ++ rest =
          registry.entries ++ (name, value) :: rest := by
        rw [inserted, List.append_assoc, List.singleton_append]
      rw [← same] at nodup ⊢
      obtain ⟨result, decoded, entriesEq⟩ := ih (registry.insert name value) nodup inverse.2
      refine ⟨result, ?_, entriesEq⟩
      rw [List.map_cons, decodeEntries, inverse.1]
      exact decoded

/-- A registry whose values are decoded from their encodings is decoded from its own. -/
theorem decodeRegistry_encodeRegistry {registry : Registry α}
    (inverse : ∀ entry ∈ registry.entries, decode (encode entry.2) = .ok entry.2) :
    decodeRegistry decode (encodeRegistry encode registry) = .ok registry := by
  obtain ⟨result, decoded, entriesEq⟩ :=
    exists_decodeEntries_map .empty registry.nodup inverse
  rw [encodeRegistry, decodeRegistry, decoded, Registry.eq_of_entries_eq entriesEq]

/-- What holds of everything that is decoded holds of all values of a decoded registry. -/
theorem forall_of_decodeRegistry {holds : α → Prop}
    (valueHolds : ∀ raw value, decode raw = .ok value → holds value) {raw : Json}
    {registry : Registry α} (decoded : decodeRegistry decode raw = .ok registry) :
    ∀ entry ∈ registry.entries, holds entry.2 := by
  have run {members : List (String × Json)} {start result : Registry α}
      (startHolds : ∀ entry ∈ start.entries, holds entry.2)
      (decoded : decodeEntries decode start members = .ok result) :
      ∀ entry ∈ result.entries, holds entry.2 := by
    induction members generalizing start with
    | nil =>
        cases decoded
        exact startHolds
    | cons member rest ih =>
        obtain ⟨name, raw⟩ := member
        rw [decodeEntries, bind_eq_ok_iff] at decoded
        obtain ⟨value, valueDecoded, restDecoded⟩ := decoded
        refine ih ?_ restDecoded
        intro entry member
        rcases Entries.mem_set member with held | rfl
        · exact startHolds entry held
        · exact valueHolds raw value valueDecoded
  cases raw with
  | object members => exact run (fun entry member => absurd member List.not_mem_nil) decoded
  | _ => cases decoded

end Registries

section Models

theorem decodeModel_encodeModel {model : GrammarModel}
    (canonical : model.EveryEntry Entry.IsCanonical) :
    decodeModel (encodeModel model) = .ok model := by
  have nodes : decodeRegistry decodeNode (encodeRegistry encodeNode model.nodes) =
      .ok model.nodes :=
    decodeRegistry_encodeRegistry fun entry member =>
      decodeNode_encodeNode (canonical.nodes entry member)
  have namedTypes :
      decodeRegistry decodeNamedType (encodeRegistry encodeNamedType model.namedTypes) =
        .ok model.namedTypes :=
    decodeRegistry_encodeRegistry fun entry member =>
      decodeNamedType_encodeNamedType (canonical.namedTypes entry member)
  rw [encodeModel, decodeModel, decodeModelMembers, if_pos rfl, nodes]
  change decodeModelMembers (some model.nodes) none _ = _
  rw [decodeModelMembers, if_neg (by decide), if_pos rfl, namedTypes]
  rfl

theorem forall_canonical_of_decodeNodes {raw : Json} {nodes : Registry Node}
    (decoded : decodeRegistry decodeNode raw = .ok nodes) :
    ∀ entry ∈ nodes.entries, (Entry.node entry.2).IsCanonical :=
  forall_of_decodeRegistry (fun _ _ => isCanonical_of_decodeNode) decoded

theorem forall_canonical_of_decodeNamedTypes {raw : Json} {namedTypes : Registry NamedType}
    (decoded : decodeRegistry decodeNamedType raw = .ok namedTypes) :
    ∀ entry ∈ namedTypes.entries, (Entry.namedType entry.2).IsCanonical :=
  forall_of_decodeRegistry (fun _ _ => isCanonical_of_decodeNamedType) decoded

theorem isCanonical_of_decodeModelMembers {nodes : Option (Registry Node)}
    {namedTypes : Option (Registry NamedType)} {members : List (String × Json)}
    {model : GrammarModel}
    (nodesCanonical : ∀ found, nodes = some found →
      ∀ entry ∈ found.entries, (Entry.node entry.2).IsCanonical)
    (namedTypesCanonical : ∀ found, namedTypes = some found →
      ∀ entry ∈ found.entries, (Entry.namedType entry.2).IsCanonical)
    (decoded : decodeModelMembers nodes namedTypes members = .ok model) :
    model.EveryEntry Entry.IsCanonical := by
  induction members generalizing nodes namedTypes with
  | nil =>
      simp only [decodeModelMembers, bind_eq_ok_iff, require_eq_ok_iff] at decoded
      obtain ⟨foundNodes, nodesFound, foundNamedTypes, namedTypesFound, equal⟩ := decoded
      cases equal
      exact ⟨nodesCanonical foundNodes nodesFound,
        namedTypesCanonical foundNamedTypes namedTypesFound⟩
  | cons member rest ih =>
      obtain ⟨name, value⟩ := member
      rw [decodeModelMembers] at decoded
      split at decoded
      · obtain ⟨found, nodesDecoded, restDecoded⟩ := bind_eq_ok_iff.1 decoded
        refine ih ?_ namedTypesCanonical restDecoded
        rintro _ ⟨⟩
        exact forall_canonical_of_decodeNodes nodesDecoded
      · split at decoded
        · obtain ⟨found, namedTypesDecoded, restDecoded⟩ := bind_eq_ok_iff.1 decoded
          refine ih nodesCanonical ?_ restDecoded
          rintro _ ⟨⟩
          exact forall_canonical_of_decodeNamedTypes namedTypesDecoded
        · exact ih nodesCanonical namedTypesCanonical decoded

theorem isCanonical_of_decodeModel {raw : Json} {model : GrammarModel}
    (decoded : decodeModel raw = .ok model) : model.EveryEntry Entry.IsCanonical := by
  match raw with
  | .array [] => simp [decodeModel, decodeModelItems] at decoded
  | .array [nodes] =>
      rw [decodeModel, decodeModelItems, bind_eq_ok_iff] at decoded
      obtain ⟨_, _, impossible⟩ := decoded
      cases impossible
  | .array (rawNodes :: rawNamedTypes :: rest) =>
      simp only [decodeModel, decodeModelItems, bind_eq_ok_iff, requireEnd_eq_ok_iff] at decoded
      obtain ⟨nodes, nodesDecoded, namedTypes, namedTypesDecoded, _, equal⟩ := decoded
      rw [← equal]
      exact ⟨forall_canonical_of_decodeNodes nodesDecoded,
        forall_canonical_of_decodeNamedTypes namedTypesDecoded⟩
  | .object members =>
      rw [decodeModel] at decoded
      exact isCanonical_of_decodeModelMembers (by simp) (by simp) decoded
  | .null | .bool _ | .number _ | .string _ => simp [decodeModel, refuse] at decoded

end Models

/-- When the canonical values are decoded from their encodings, and only canonical values are
decoded, a value is canonical exactly when its encoding is a normal form, and exactly when
it is decoded from some value. -/
theorem tfae_of_inverse {α : Type} {encode : α → Json} {decode : Json → Decoded α}
    {canonical : α → Prop}
    (inverse : ∀ value, canonical value → decode (encode value) = .ok value)
    (image : ∀ raw value, decode raw = .ok value → canonical value) (value : α) :
    [canonical value, decode (encode value) = .ok value,
      ∃ raw, decode raw = .ok value].TFAE := by
  tfae_have 1 → 2 := inverse value
  tfae_have 2 → 3 := fun decoded => ⟨encode value, decoded⟩
  tfae_have 3 → 1 := fun ⟨raw, decoded⟩ => image raw value decoded
  tfae_finish

/-- The expressions, attributes, nodes, named types and models in which no kind hides a name
with a meaning are those that are decoded from their own encoding, and they are those that
are decoded from any value at all. -/
theorem canonical_tfae_decoded :
    (∀ expression : TypeExpression, [expression.IsCanonical,
      decodeExpression (encodeExpression expression) = .ok expression,
      ∃ raw, decodeExpression raw = .ok expression].TFAE) ∧
    (∀ field : Attribute, [field.type.IsCanonical,
      decodeAttribute (encodeAttribute field) = .ok field,
      ∃ raw, decodeAttribute raw = .ok field].TFAE) ∧
    (∀ node : Node, [(Entry.node node).IsCanonical,
      decodeNode (encodeNode node) = .ok node,
      ∃ raw, decodeNode raw = .ok node].TFAE) ∧
    (∀ namedType : NamedType, [(Entry.namedType namedType).IsCanonical,
      decodeNamedType (encodeNamedType namedType) = .ok namedType,
      ∃ raw, decodeNamedType raw = .ok namedType].TFAE) ∧
    ∀ model : GrammarModel, [model.EveryEntry Entry.IsCanonical,
      decodeModel (encodeModel model) = .ok model,
      ∃ raw, decodeModel raw = .ok model].TFAE :=
  ⟨tfae_of_inverse (fun _ => decodeExpression_encodeExpression)
      fun _ _ => isCanonical_of_decodeExpression,
    tfae_of_inverse (fun _ => decodeAttribute_encodeAttribute)
      fun _ _ => isCanonical_of_decodeAttribute,
    tfae_of_inverse (fun _ => decodeNode_encodeNode) fun _ _ => isCanonical_of_decodeNode,
    tfae_of_inverse (fun _ => decodeNamedType_encodeNamedType)
      fun _ _ => isCanonical_of_decodeNamedType,
    tfae_of_inverse (fun _ => decodeModel_encodeModel) fun _ _ => isCanonical_of_decodeModel⟩

-- An expression that is written as a list is encoded with its fields.
example : (decodeExpression (.array [.string "list", .string "Name"])).map encodeExpression =
    .ok (.object [("kind", .string "list"), ("argument", .string "Name")]) := rfl

end AstGrammar.Codec
