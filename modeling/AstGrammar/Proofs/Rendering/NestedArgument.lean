import AstGrammar.Proofs.Codec.RoundTrip
import AstGrammar.Proofs.Json.RoundTrip
import AstGrammar.Proofs.Rendering.EntryText

/-!
# What is nested deeper than one level

Below the level that is unfolded, the line of an attribute shows the argument as JSON.  The
value that is printed there is a tree of texts, so the reader gets it back from the line, and
the argument is decoded from it: nothing of an expression is lost in its text.
-/

namespace AstGrammar

namespace Codec

mutual

theorem isTextTree_encodeExpression (expression : TypeExpression) :
    (encodeExpression expression).IsTextTree := by
  match expression with
  | .mk kind argument =>
      rw [encodeExpression]
      refine .object (by simp) fun member held => ?_
      rcases List.mem_cons.1 held with rfl | held
      · exact .string kind.name
      · rw [List.mem_singleton.1 held]
        exact isTextTree_encodeArgument argument

theorem isTextTree_encodeArgument (argument : Argument) :
    (encodeArgument argument).IsTextTree := by
  match argument with
  | .label name =>
      rw [encodeArgument]
      exact .string name
  | .nested inner =>
      rw [encodeArgument]
      exact isTextTree_encodeExpression inner
  | .alternatives items =>
      rw [encodeArgument]
      exact .array (isTextTree_encodeItems items)

theorem isTextTree_encodeItems (items : List TypeExpression) :
    ∀ item ∈ encodeItems items, item.IsTextTree := by
  match items with
  | [] => simp [encodeItems]
  | item :: rest =>
      rw [encodeItems, List.forall_mem_cons]
      exact ⟨isTextTree_encodeExpression item, isTextTree_encodeItems rest⟩

end

/-- An argument is read and decoded from its compact text. -/
theorem exists_parse_compact_encodeArgument {argument : Argument}
    (canonical : argument.IsCanonical) (shallow : (encodeArgument argument).depth ≤ 127) :
    ∃ value, Json.parse (encodeArgument argument).compact = .ok value ∧
      decodeArgument value = .ok argument :=
  ⟨encodeArgument argument, Json.parse_compact (isTextTree_encodeArgument argument) shallow,
    decodeArgument_encodeArgument canonical⟩

end Codec

namespace Rendering

/-- The lines of a node have the line of an attribute at the place of the attribute. -/
theorem getElem?_of_nodeLines {options : RenderOptions} {node : Node} {index : Nat}
    {field : Attribute} {lines : List String} (held : node.attributes[index]? = some field)
    (shown : nodeLines options node = .ok lines) :
    ∃ line, lines[index]? = some line ∧ attributeLine field = .ok line := by
  obtain ⟨bound, found⟩ := List.getElem?_eq_some_iff.1 held
  rcases nodeLines_eq_ok_iff.1 shown with ⟨-, areLines⟩ | ⟨bare, -⟩
  · have inLines : index < lines.length := areLines.length_eq ▸ bound
    refine ⟨lines[index], List.getElem?_eq_getElem inLines, attributeLine_eq_ok_iff.2 ?_⟩
    rw [← found]
    exact areLines.get bound inLines
  · rw [bare] at bound
    exact absurd bound (Nat.not_lt_zero index)

/-- The line of an attribute is faithful below the level that is unfolded: between the
brackets stands a JSON text without control characters, from which the argument is read and
decoded again.  This line stands in its place wherever a node with the attribute is shown. -/
theorem exists_json_of_nested {node : Node} {index : Nat} {field : Attribute}
    {inner : TypeExpression} (held : node.attributes[index]? = some field)
    (nested : field.type.argument = .nested inner)
    (noLabel : ∀ label, inner.argument ≠ .label label)
    (canonical : inner.argument.IsCanonical)
    (shallow : (Codec.encodeArgument inner.argument).depth ≤ 127) :
    ∃ json : String,
      attributeLine field = .ok s!"{field.name} : {field.type.kind.name} [ {json} ]" ∧
      (∀ options lines, entryLines options (.node node) = .ok lines →
        lines[index]? = some s!"{field.name} : {field.type.kind.name} [ {json} ]") ∧
      (∀ character ∈ json.toList, 0x20 ≤ character.toNat) ∧
      ∃ value, Json.parse json = .ok value ∧ Codec.decodeArgument value = .ok inner.argument := by
  let json := (Codec.encodeArgument inner.argument).compact
  have isJson : argumentText inner.argument = json :=
    (isInner_iff.1 (.json (hasNoLabel_iff.1 noLabel))).symm
  have line : attributeLine field = .ok s!"{field.name} : {field.type.kind.name} [ {json} ]" := by
    rw [attributeLine, nested]
    simp only [isJson]
  refine ⟨json, line, fun options lines shown => ?_, ?_,
    Codec.exists_parse_compact_encodeArgument canonical shallow⟩
  · obtain ⟨own, stands, isOwn⟩ := getElem?_of_nodeLines held shown
    rw [line, Except.ok.injEq] at isOwn
    rw [stands, isOwn]
  · simp only [json, Json.compact, String.toList_ofList]
    exact Json.isPrintable_print (Codec.isTextTree_encodeArgument inner.argument)

/-- A nullable list of two alternatives, whose kinds and labels hold quotes, a backslash,
control characters and characters of several bytes. -/
def quotingNode : Node where
  parents := []
  children := []
  attributes := [⟨"name", .labelled .value "String"⟩,
    ⟨"body", .around .nullable (.mk .list (.nested (.mk .union (.alternatives
      [.labelled (.other "\"kind\"") "back\\slash\n\x01\x1f",
        .around .list (.labelled .namedType "é𝄞/\x7f")]))))⟩]

theorem exists_json_of_quotingNode :
    ∃ field inner, quotingNode.attributes[1]? = some field ∧
      field.type.argument = .nested inner ∧ (∀ label, inner.argument ≠ .label label) ∧
      ∃ json : String,
        attributeLine field = .ok s!"body : nullable [ {json} ]" ∧
        (∀ options lines, entryLines options (.node quotingNode) = .ok lines →
          lines[1]? = some s!"body : nullable [ {json} ]") ∧
        (∀ character ∈ json.toList, 0x20 ≤ character.toNat) ∧
        ∃ value, Json.parse json = .ok value ∧
          Codec.decodeArgument value = .ok inner.argument := by
  have noLabel (items : List TypeExpression) (label : String) :
      Argument.nested (.mk .union (.alternatives items)) ≠ .label label := nofun
  exact ⟨_, _, rfl, rfl, noLabel _,
    exists_json_of_nested rfl rfl (noLabel _) (by decide) (by decide)⟩

end Rendering

end AstGrammar
