import AstGrammar.Proofs.Codec.Canonical
import AstGrammar.Proofs.Registry

/-!
# Records from the values of their fields

A record is read member by member, and what was found of it so far is carried along.  When no
name of a field is repeated, the record depends only on the values that stand under these
names: neither the order of the members nor the other members play a part.
-/

namespace AstGrammar.Codec

/-- At most one member has the name. -/
def IsOnce (name : String) (members : List (String × Json)) : Prop :=
  (members.map Prod.fst).count name ≤ 1

/-- What is found of a field: the value under its name is read, and without one it stays as it
was before. -/
def readField {α : Type} (decode : Json → Decoded α) (name : String) (before : Option α)
    (members : List (String × Json)) : Decoded (Option α) :=
  match Json.member? name members with
  | none => .ok before
  | some value => (decode value).map some

section Fields

variable {α : Type} {decode : Json → Decoded α} {name other : String} {value : Json}
  {before : Option α} {rest : List (String × Json)}

theorem IsOnce.of_cons {member : String × Json} (once : IsOnce name (member :: rest)) :
    IsOnce name rest := by
  rw [IsOnce, List.map_cons, List.count_cons] at once
  exact Nat.le_trans (Nat.le_add_right _ _) once

theorem IsOnce.notMem (once : IsOnce name ((name, value) :: rest)) :
    name ∉ rest.map Prod.fst := by
  rw [IsOnce, List.map_cons, List.count_cons_self] at once
  exact List.count_eq_zero.1 (by omega)

/-- Under a name that is not repeated stands the value of the only member with the name. -/
theorem IsOnce.member?_eq_some_iff {members : List (String × Json)} (once : IsOnce name members) :
    Json.member? name members = some value ↔ (name, value) ∈ members := by
  refine ⟨Entries.mem_of_lookup, fun held => ?_⟩
  induction members with
  | nil => cases held
  | cons member rest ih =>
      obtain ⟨first, firstValue⟩ := member
      rw [Json.member?, List.lookup_cons]
      rcases List.mem_cons.1 held with same | later
      · cases same
        rw [BEq.rfl]
      · have different : name ≠ first := by
          rintro rfl
          exact once.notMem (List.mem_map_of_mem later)
        rw [beq_false_of_ne different]
        exact ih once.of_cons later

theorem IsOnce.member?_eq_of_perm {members others : List (String × Json)}
    (once : IsOnce name members) (perm : members.Perm others) :
    Json.member? name members = Json.member? name others := by
  have onceAfter : IsOnce name others := by
    rw [IsOnce, ← (perm.map Prod.fst).count_eq]
    exact once
  apply Option.ext
  intro value
  rw [once.member?_eq_some_iff, onceAfter.member?_eq_some_iff, perm.mem_iff]

@[simp] theorem readField_nil : readField decode name before [] = .ok before := rfl

@[simp] theorem readField_cons_self :
    readField decode name before ((name, value) :: rest) = (decode value).map some := by
  simp [readField, Json.member?]

theorem readField_cons_of_ne (different : name ≠ other) :
    readField decode name before ((other, value) :: rest) = readField decode name before rest := by
  rw [readField, Json.member?, List.lookup_cons, beq_false_of_ne different]
  rfl

theorem readField_of_notMem (absent : name ∉ rest.map Prod.fst) :
    readField decode name before rest = .ok before := by
  rw [readField, Json.member?, Entries.lookup_eq_none_iff.2 absent]

end Fields

section Records

variable {members : List (String × Json)}

theorem decodeExpressionMembers_eq_ok_iff {kind : Option TypeKind} {argument : Option Argument}
    {expression : TypeExpression} (kindOnce : IsOnce "kind" members)
    (argumentOnce : IsOnce "argument" members) :
    decodeExpressionMembers kind argument members = .ok expression ↔
      ∃ foundKind foundArgument,
        readField decodeKind "kind" kind members = .ok foundKind ∧
        readField decodeArgument "argument" argument members = .ok (some foundArgument) ∧
        expression = .mk (foundKind.getD .unspecified) foundArgument := by
  induction members generalizing kind argument with
  | nil =>
      rw [decodeExpressionMembers]
      cases argument <;> simp [require, Except.map, eq_comm]
  | cons member rest ih =>
      obtain ⟨name, value⟩ := member
      have ih := fun kind argument => @ih kind argument kindOnce.of_cons argumentOnce.of_cons
      rw [decodeExpressionMembers]
      by_cases isKind : name = "kind"
      · subst isKind
        rw [if_pos rfl, readField_cons_self, readField_cons_of_ne (by decide)]
        cases decodeKind value with
        | error error => simp [Except.map]
        | ok found =>
            dsimp only
            rw [ih, readField_of_notMem kindOnce.notMem]
            simp [Except.map]
      · rw [if_neg isKind, readField_cons_of_ne (Ne.symm isKind)]
        by_cases isArgument : name = "argument"
        · subst isArgument
          rw [if_pos rfl, readField_cons_self]
          cases decodeArgument value with
          | error error => simp [Except.map]
          | ok found =>
              dsimp only
              rw [ih, readField_of_notMem argumentOnce.notMem]
              simp [Except.map]
        · rw [if_neg isArgument, readField_cons_of_ne (Ne.symm isArgument), ih]

theorem decodeAttributeMembers_eq_ok_iff {name : Option String} {type : Option TypeExpression}
    {field : Attribute} (nameOnce : IsOnce "name" members) (typeOnce : IsOnce "type" members) :
    decodeAttributeMembers name type members = .ok field ↔
      readField decodeString "name" name members = .ok (some field.name) ∧
        readField decodeExpression "type" type members = .ok (some field.type) := by
  induction members generalizing name type with
  | nil =>
      simp only [decodeAttributeMembers, bind_eq_ok_iff, require_eq_ok_iff, readField_nil,
        Except.ok.injEq]
      constructor
      · rintro ⟨name, rfl, type, rfl, equal⟩
        cases equal
        exact ⟨rfl, rfl⟩
      · rintro ⟨rfl, rfl⟩
        exact ⟨_, rfl, _, rfl, rfl⟩
  | cons member rest ih =>
      obtain ⟨held, value⟩ := member
      have ih := fun name type => @ih name type nameOnce.of_cons typeOnce.of_cons
      rw [decodeAttributeMembers]
      by_cases isName : held = "name"
      · subst isName
        rw [if_pos rfl, readField_cons_self, readField_cons_of_ne (by decide), bind_eq_ok_iff]
        simp only [ih, readField_of_notMem nameOnce.notMem]
        cases decodeString value <;> simp [Except.map]
      · rw [if_neg isName, readField_cons_of_ne (Ne.symm isName)]
        by_cases isType : held = "type"
        · subst isType
          rw [if_pos rfl, readField_cons_self, bind_eq_ok_iff]
          simp only [ih, readField_of_notMem typeOnce.notMem]
          cases decodeExpression value <;> simp [Except.map]
        · rw [if_neg isType, readField_cons_of_ne (Ne.symm isType), ih]

theorem decodeNodeMembers_eq_ok_iff {parts : NodeParts} {node : Node}
    (parentsOnce : IsOnce "parents" members) (childrenOnce : IsOnce "children" members)
    (attributesOnce : IsOnce "attributes" members) :
    decodeNodeMembers parts members = .ok node ↔
      readField (decodeList decodeString) "parents" parts.parents members =
          .ok (some node.parents) ∧
        readField (decodeList decodeString) "children" parts.children members =
          .ok (some node.children) ∧
        readField (decodeList decodeAttribute) "attributes" parts.attributes members =
          .ok (some node.attributes) := by
  induction members generalizing parts with
  | nil =>
      simp only [decodeNodeMembers, NodeParts.node, bind_eq_ok_iff, require_eq_ok_iff,
        readField_nil, Except.ok.injEq]
      constructor
      · rintro ⟨parents, parentsFound, children, childrenFound, attributes, found, equal⟩
        cases equal
        exact ⟨parentsFound, childrenFound, found⟩
      · rintro ⟨parents, children, attributes⟩
        exact ⟨_, parents, _, children, _, attributes, rfl⟩
  | cons member rest ih =>
      obtain ⟨held, value⟩ := member
      have ih := fun parts =>
        @ih parts parentsOnce.of_cons childrenOnce.of_cons attributesOnce.of_cons
      rw [decodeNodeMembers]
      by_cases isParents : held = "parents"
      · subst isParents
        rw [if_pos rfl, readField_cons_self, readField_cons_of_ne (by decide),
          readField_cons_of_ne (by decide), bind_eq_ok_iff]
        simp only [ih, readField_of_notMem parentsOnce.notMem]
        cases decodeList decodeString value <;> simp [Except.map]
      rw [if_neg isParents, readField_cons_of_ne (Ne.symm isParents)]
      by_cases isChildren : held = "children"
      · subst isChildren
        rw [if_pos rfl, readField_cons_self, readField_cons_of_ne (by decide), bind_eq_ok_iff]
        simp only [ih, readField_of_notMem childrenOnce.notMem]
        cases decodeList decodeString value <;> simp [Except.map]
      rw [if_neg isChildren, readField_cons_of_ne (Ne.symm isChildren)]
      by_cases isAttributes : held = "attributes"
      · subst isAttributes
        rw [if_pos rfl, readField_cons_self, bind_eq_ok_iff]
        simp only [ih, readField_of_notMem attributesOnce.notMem]
        cases decodeList decodeAttribute value <;> simp [Except.map]
      · rw [if_neg isAttributes, readField_cons_of_ne (Ne.symm isAttributes), ih]

theorem decodeProperties_eq_ok_iff {before properties : List Attribute}
    (once : IsOnce "properties" members) :
    decodeProperties before members = .ok properties ↔
      readField (decodeList decodeAttribute) "properties" (some before) members =
        .ok (some properties) := by
  induction members generalizing before with
  | nil => simp [decodeProperties]
  | cons member rest ih =>
      obtain ⟨held, value⟩ := member
      have ih := fun before => @ih before once.of_cons
      rw [decodeProperties]
      by_cases isProperties : held = "properties"
      · subst isProperties
        rw [if_pos rfl, readField_cons_self, bind_eq_ok_iff]
        simp only [ih, readField_of_notMem once.notMem]
        cases decodeList decodeAttribute value <;> simp [Except.map]
      · rw [if_neg isProperties, readField_cons_of_ne (Ne.symm isProperties), ih]

end Records

end AstGrammar.Codec
