import AstGrammar.Proofs.Codec.Alternatives
import AstGrammar.Proofs.Registry

/-!
# The values that are decoded

The values that are read as an argument or as an expression, as a grammar that does not
mention reading: three kinds of values that are built from one another.  The readers try one
form after the other, and still they refuse nothing that the grammar derives and accept
nothing else.  A list can have two forms, alternatives and an expression, only when it is a
pair of a text and an alternative, and it is then read as two alternatives.
-/

namespace AstGrammar.Codec

mutual

/-- The value of an argument: a label, a list of alternatives or an expression. -/
inductive IsArgumentForm : Json → Prop
  | label (name : String) : IsArgumentForm (.string name)
  | alternatives {items : List Json} (each : ∀ item ∈ items, IsAlternativeForm item) :
      IsArgumentForm (.array items)
  | nested {raw : Json} (inner : IsExpressionForm raw) : IsArgumentForm raw

/-- The value of one of several alternatives: a label or an expression. -/
inductive IsAlternativeForm : Json → Prop
  | label (name : String) : IsAlternativeForm (.string name)
  | expression {raw : Json} (inner : IsExpressionForm raw) : IsAlternativeForm raw

/-- The value of an expression: an object with an argument, in which a kind is a text, or a
pair of a text and an argument.  Where an object repeats a name, this is demanded of every
member with the name. -/
inductive IsExpressionForm : Json → Prop
  | object {members : List (String × Json)} {value : Json} (held : ("argument", value) ∈ members)
      (arguments : ∀ value, ("argument", value) ∈ members → IsArgumentForm value)
      (kinds : ∀ value, ("kind", value) ∈ members → ∃ name, value = .string name) :
      IsExpressionForm (.object members)
  | pair (kind : String) {value : Json} (argument : IsArgumentForm value) :
      IsExpressionForm (.array [.string kind, value])

end

section Objects

variable {members : List (String × Json)} {name : String} {value : Json}

theorem mem_iff_member? (nodup : (members.map Prod.fst).Nodup) :
    (name, value) ∈ members ↔ Json.member? name members = some value :=
  ⟨Entries.lookup_of_mem nodup, Entries.mem_of_lookup⟩

theorem eq_of_member? {other : Json} (nodup : (members.map Prod.fst).Nodup)
    (found : Json.member? name members = some value) (held : (name, other) ∈ members) :
    other = value := by
  have same := (mem_iff_member? nodup).1 held
  rw [found] at same
  exact (Option.some.inj same).symm

/-- In an object that repeats no name, there is an argument, and the kind is absent or a
text. -/
theorem isExpressionForm_object_iff (nodup : (members.map Prod.fst).Nodup) :
    IsExpressionForm (.object members) ↔
      (∃ value, Json.member? "argument" members = some value ∧ IsArgumentForm value) ∧
      (Json.member? "kind" members = none ∨
        ∃ name, Json.member? "kind" members = some (.string name)) := by
  constructor
  · rintro (⟨held, arguments, kinds⟩ | _)
    refine ⟨⟨_, (mem_iff_member? nodup).1 held, arguments _ held⟩, ?_⟩
    cases found : Json.member? "kind" members with
    | none => exact .inl rfl
    | some value =>
        obtain ⟨name, rfl⟩ := kinds value ((mem_iff_member? nodup).2 found)
        exact .inr ⟨name, rfl⟩
  · rintro ⟨⟨value, found, argument⟩, kind⟩
    refine .object ((mem_iff_member? nodup).2 found) (fun other held => ?_) fun other held => ?_
    · rwa [eq_of_member? nodup found held]
    · rcases kind with absent | ⟨name, present⟩
      · rw [(mem_iff_member? nodup).1 held] at absent
        cases absent
      · exact ⟨name, eq_of_member? nodup present held⟩

end Objects

section Steps

variable {raw : Json} {items : List Json} {members : List (String × Json)}

theorem exists_decodeKind_iff :
    (∃ kind, decodeKind raw = .ok kind) ↔ ∃ name, raw = .string name := by
  cases raw <;> simp [decodeKind, decodeString, refuse, Except.map]

/-- The members of an expression are read when each kind and each argument among them is, and
an argument was found before or is among them. -/
theorem exists_decodeExpressionMembers_iff {kind : Option TypeKind} {argument : Option Argument} :
    (∃ expression, decodeExpressionMembers kind argument members = .ok expression) ↔
      (argument.isSome ∨ ∃ value, ("argument", value) ∈ members) ∧
      (∀ value, ("argument", value) ∈ members → ∃ found, decodeArgument value = .ok found) ∧
      ∀ value, ("kind", value) ∈ members → ∃ name, value = .string name := by
  induction members generalizing kind argument with
  | nil =>
      rw [decodeExpressionMembers]
      cases argument <;> simp [require, Except.map]
  | cons member rest ih =>
      obtain ⟨name, value⟩ := member
      rw [decodeExpressionMembers]
      by_cases isKind : name = "kind"
      · subst isKind
        rw [if_pos rfl]
        cases decoded : decodeKind value with
        | error error =>
            refine iff_of_false (by simp) ?_
            rintro ⟨-, -, kinds⟩
            obtain ⟨name, rfl⟩ := kinds value List.mem_cons_self
            cases decoded
        | ok found =>
            have text := exists_decodeKind_iff.1 ⟨found, decoded⟩
            simp [ih, text]
      · rw [if_neg isKind]
        by_cases isArgument : name = "argument"
        · subst isArgument
          rw [if_pos rfl]
          cases decoded : decodeArgument value with
          | error error =>
              refine iff_of_false (by simp) ?_
              rintro ⟨-, arguments, -⟩
              obtain ⟨found, read⟩ := arguments value List.mem_cons_self
              rw [decoded] at read
              cases read
          | ok found => simp [ih, decoded]
        · simp [if_neg isArgument, ih, Ne.symm isKind, Ne.symm isArgument]

theorem exists_decodeExpression_object_iff :
    (∃ expression, decodeExpression (.object members) = .ok expression) ↔
      (∃ value, ("argument", value) ∈ members) ∧
      (∀ value, ("argument", value) ∈ members → ∃ found, decodeArgument value = .ok found) ∧
      ∀ value, ("kind", value) ∈ members → ∃ name, value = .string name := by
  simp only [decodeExpression, exists_decodeExpressionMembers_iff]
  simp

theorem exists_decodeExpression_array_iff :
    (∃ expression, decodeExpression (.array items) = .ok expression) ↔
      ∃ kind value, items = [.string kind, value] ∧ ∃ found, decodeArgument value = .ok found := by
  simp only [decodeExpression, decodeExpressionItems_eq_ok_iff]
  constructor
  · rintro ⟨expression, kind, value, argument, rfl, read, -⟩
    exact ⟨kind, value, rfl, argument, read⟩
  · rintro ⟨kind, value, rfl, argument, read⟩
    exact ⟨_, kind, value, argument, rfl, read, rfl⟩

theorem exists_isAlternative_iff :
    (∃ item, IsAlternative raw item) ↔
      (∃ name, raw = .string name) ∨ ∃ expression, decodeExpression raw = .ok expression := by
  constructor
  · rintro ⟨item, ⟨name, rfl, -⟩ | read⟩
    · exact .inl ⟨name, rfl⟩
    · exact .inr ⟨item, read⟩
  · rintro (⟨name, rfl⟩ | ⟨expression, read⟩)
    · exact ⟨_, .inl ⟨name, rfl, rfl⟩⟩
    · exact ⟨expression, .inr read⟩

/-- A list of alternatives is read when each of its items is. -/
theorem exists_forall₂_isAlternative_iff :
    (∃ alternatives, List.Forall₂ IsAlternative items alternatives) ↔
      ∀ item ∈ items, ∃ alternative, IsAlternative item alternative := by
  induction items with
  | nil => simp
  | cons item rest ih =>
      rw [List.forall_mem_cons, ← ih]
      constructor
      · rintro ⟨alternatives, each⟩
        cases each with
        | cons first others => exact ⟨⟨_, first⟩, _, others⟩
      · rintro ⟨⟨first, isFirst⟩, others, areOthers⟩
        exact ⟨first :: others, .cons isFirst areOthers⟩

/-- An argument is read when it has one of its three forms. -/
theorem exists_decodeArgument_iff :
    (∃ argument, decodeArgument raw = .ok argument) ↔
      (∃ name, raw = .string name) ∨
      (∃ items, raw = .array items ∧
        ∀ item ∈ items, ∃ alternative, IsAlternative item alternative) ∨
      ∃ expression, decodeExpression raw = .ok expression := by
  cases raw with
  | string name => simp [decodeArgument]
  | object members =>
      rw [decodeArgument, decodeExpression]
      cases decodeExpressionMembers none none members <;> simp
  | array items =>
      simp only [← exists_forall₂_isAlternative_iff]
      by_cases each : ∃ alternatives, List.Forall₂ IsAlternative items alternatives
      · obtain ⟨alternatives, areAlternatives⟩ := each
        refine iff_of_true ⟨_, decodeArgument_of_alternatives areAlternatives⟩ ?_
        exact .inr (.inl ⟨items, rfl, alternatives, areAlternatives⟩)
      · simp only [decodeArgument_eq_ok_iff_of_forall_not (not_exists.1 each)]
        simp [each]
  | _ => simp [decodeArgument, decodeExpression, refuse]

end Steps

theorem sizeOf_lt_of_mem_members {members : List (String × Json)} {name : String} {value : Json}
    (member : (name, value) ∈ members) : sizeOf value < sizeOf members := by
  have inside := List.sizeOf_lt_of_mem member
  rw [Prod.mk.sizeOf_spec] at inside
  omega

mutual

/-- What is read as an argument is derived as one, by induction on the value. -/
theorem isArgumentForm_of_decodeArgument (raw : Json)
    (decoded : ∃ argument, decodeArgument raw = .ok argument) : IsArgumentForm raw := by
  rcases exists_decodeArgument_iff.1 decoded with ⟨name, rfl⟩ | ⟨items, rfl, each⟩ | expression
  · exact .label name
  · refine .alternatives fun item member => ?_
    rcases exists_isAlternative_iff.1 (each item member) with ⟨name, rfl⟩ | expression
    · exact .label name
    · exact .expression (isExpressionForm_of_decodeExpression item expression)
  · exact .nested (isExpressionForm_of_decodeExpression raw expression)
termination_by (sizeOf raw, 1)

theorem isExpressionForm_of_decodeExpression (raw : Json)
    (decoded : ∃ expression, decodeExpression raw = .ok expression) : IsExpressionForm raw := by
  match raw with
  | .object members =>
      obtain ⟨⟨value, held⟩, arguments, kinds⟩ := exists_decodeExpression_object_iff.1 decoded
      refine .object held (fun value member => ?_) kinds
      have smaller := sizeOf_lt_of_mem_members member
      exact isArgumentForm_of_decodeArgument value (arguments value member)
  | .array items =>
      obtain ⟨kind, value, rfl, argument⟩ := exists_decodeExpression_array_iff.1 decoded
      exact .pair kind (isArgumentForm_of_decodeArgument value argument)
  | .null | .bool _ | .number _ | .string _ => simp [decodeExpression, refuse] at decoded
termination_by (sizeOf raw, 0)

end

mutual

theorem exists_decodeArgument_of_isArgumentForm {raw : Json} (form : IsArgumentForm raw) :
    ∃ argument, decodeArgument raw = .ok argument := by
  rw [exists_decodeArgument_iff]
  match form with
  | .label name => exact .inl ⟨name, rfl⟩
  | .alternatives each =>
      refine .inr (.inl ⟨_, rfl, fun item member => ?_⟩)
      exact exists_isAlternative_of_isAlternativeForm (each item member)
  | .nested inner => exact .inr (.inr (exists_decodeExpression_of_isExpressionForm inner))

theorem exists_isAlternative_of_isAlternativeForm {raw : Json} (form : IsAlternativeForm raw) :
    ∃ item, IsAlternative raw item := by
  rw [exists_isAlternative_iff]
  match form with
  | .label name => exact .inl ⟨name, rfl⟩
  | .expression inner => exact .inr (exists_decodeExpression_of_isExpressionForm inner)

theorem exists_decodeExpression_of_isExpressionForm {raw : Json} (form : IsExpressionForm raw) :
    ∃ expression, decodeExpression raw = .ok expression := by
  match form with
  | .object held arguments kinds =>
      refine exists_decodeExpression_object_iff.2 ⟨⟨_, held⟩, fun value member => ?_, kinds⟩
      exact exists_decodeArgument_of_isArgumentForm (arguments value member)
  | .pair kind argument =>
      exact exists_decodeExpression_array_iff.2
        ⟨kind, _, rfl, exists_decodeArgument_of_isArgumentForm argument⟩

end

theorem exists_decodeArgument_iff_form (raw : Json) :
    (∃ argument, decodeArgument raw = .ok argument) ↔ IsArgumentForm raw :=
  ⟨isArgumentForm_of_decodeArgument raw, exists_decodeArgument_of_isArgumentForm⟩

theorem exists_decodeExpression_iff_form (raw : Json) :
    (∃ expression, decodeExpression raw = .ok expression) ↔ IsExpressionForm raw :=
  ⟨isExpressionForm_of_decodeExpression raw, exists_decodeExpression_of_isExpressionForm⟩

theorem exists_isAlternative_iff_form (raw : Json) :
    (∃ item, IsAlternative raw item) ↔ IsAlternativeForm raw := by
  refine ⟨fun alternative => ?_, exists_isAlternative_of_isAlternativeForm⟩
  rcases exists_isAlternative_iff.1 alternative with ⟨name, rfl⟩ | expression
  · exact .label name
  · exact .expression ((exists_decodeExpression_iff_form raw).1 expression)

section Pairs

variable {items : List Json} {kind : String} {second : Json}

/-- What is an alternative is an argument as well. -/
theorem IsAlternativeForm.isArgumentForm (form : IsAlternativeForm second) :
    IsArgumentForm second := by
  cases form with
  | label name => exact .label name
  | expression inner => exact .nested inner

theorem has_both_forms_iff :
    ((∃ alternatives, decodeAlternatives items = .ok alternatives) ∧
      ∃ expression, decodeExpression (.array items) = .ok expression) ↔
      ∃ kind second, items = [.string kind, second] ∧ IsAlternativeForm second := by
  simp only [decodeAlternatives_eq_ok_iff, exists_forall₂_isAlternative_iff,
    exists_isAlternative_iff_form, exists_decodeExpression_array_iff]
  constructor
  · rintro ⟨each, kind, second, rfl, -⟩
    exact ⟨kind, second, rfl, each second (by simp)⟩
  · rintro ⟨kind, second, rfl, form⟩
    refine ⟨?_, kind, second, rfl, exists_decodeArgument_of_isArgumentForm form.isArgumentForm⟩
    simpa using ⟨.label kind, form⟩

/-- A text and an alternative are two alternatives, and only they are. -/
theorem decodeArgument_pair_iff (item : TypeExpression) :
    decodeArgument (.array [.string kind, second]) =
        .ok (.alternatives [.labelled .unspecified kind, item]) ↔
      IsAlternative second item := by
  constructor
  · intro decoded
    by_cases each : ∃ alternatives, List.Forall₂ IsAlternative [.string kind, second] alternatives
    · obtain ⟨alternatives, areAlternatives⟩ := each
      rw [decodeArgument_of_alternatives areAlternatives] at decoded
      cases decoded
      cases areAlternatives with
      | cons _ others =>
          cases others with
          | cons isSecond _ => exact isSecond
    · obtain ⟨inner, -, nested⟩ :=
        (decodeArgument_eq_ok_iff_of_forall_not (not_exists.1 each)).1 decoded
      cases nested
  · intro isSecond
    exact decodeArgument_of_alternatives
      (.cons (.inl ⟨kind, rfl, rfl⟩) (.cons isSecond .nil))

end Pairs

/-- Reading accepts exactly the grammar: arguments and expressions are read from their forms
and from nothing else.  In an object that repeats no name, the form of an expression is an
argument with an optional kind.  A list has two readings exactly when it is a text and an
alternative, and a text and an alternative are read as two alternatives. -/
theorem decoded_iff_form :
    (∀ raw, (∃ argument, decodeArgument raw = .ok argument) ↔ IsArgumentForm raw) ∧
    (∀ raw, (∃ expression, decodeExpression raw = .ok expression) ↔ IsExpressionForm raw) ∧
    (∀ members : List (String × Json), (members.map Prod.fst).Nodup →
      (IsExpressionForm (.object members) ↔
        (∃ value, Json.member? "argument" members = some value ∧ IsArgumentForm value) ∧
        (Json.member? "kind" members = none ∨
          ∃ name, Json.member? "kind" members = some (.string name)))) ∧
    (∀ items, (∃ alternatives, decodeAlternatives items = .ok alternatives) ∧
        (∃ expression, decodeExpression (.array items) = .ok expression) ↔
      ∃ kind second, items = [.string kind, second] ∧ IsAlternativeForm second) ∧
    ∀ kind second item, decodeArgument (.array [.string kind, second]) =
        .ok (.alternatives [.labelled .unspecified kind, item]) ↔
      IsAlternative second item := by
  refine ⟨exists_decodeArgument_iff_form, exists_decodeExpression_iff_form, ?_, ?_, ?_⟩
  · exact fun members nodup => isExpressionForm_object_iff nodup
  · exact fun items => has_both_forms_iff
  · exact fun kind second item => decodeArgument_pair_iff item

/-- A list of names and paths, with its kind behind its argument. -/
theorem decoded_iff_form_list :
    let items : List Json := [.string "Name", .object [("argument", .string "Path")]]
    let members : List (String × Json) := [("argument", .array items), ("kind", .string "list")]
    (members.map Prod.fst).Nodup ∧ IsExpressionForm (.object members) ∧
      (∃ value, Json.member? "argument" members = some value ∧ IsArgumentForm value) ∧
      ∃ kind second, items = [.string kind, second] ∧ IsAlternativeForm second := by
  intro items members
  obtain ⟨-, expressions, objects, both, -⟩ := decoded_iff_form
  have nodup : (members.map Prod.fst).Nodup := by decide
  have form : IsExpressionForm (.object members) := (expressions _).1 ⟨_, rfl⟩
  exact ⟨nodup, form, ((objects members nodup).1 form).1, (both items).1 ⟨⟨_, rfl⟩, _, rfl⟩⟩

end AstGrammar.Codec
