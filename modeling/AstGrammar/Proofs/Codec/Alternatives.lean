import Mathlib.Data.List.Forall2
import AstGrammar.Proofs.Codec.Canonical

/-!
# Lists in the place of an argument

A list in the place of an argument is read as alternatives, one for each item, if each item
is an alternative.  Otherwise it may still be read as one expression, which is the case for
a kind with a list of alternatives that is no expression itself: such a pair is nested.
-/

namespace AstGrammar.Codec

/-- A value is read as a label, which has no kind, or as an expression. -/
def IsAlternative (raw : Json) (item : TypeExpression) : Prop :=
  (∃ name, raw = .string name ∧ item = .labelled .unspecified name) ∨
    decodeExpression raw = .ok item

theorem decodeAlternative_eq_ok_iff {raw : Json} {item : TypeExpression} :
    decodeAlternative raw = .ok item ↔ IsAlternative raw item := by
  cases raw with
  | string name =>
      simp [IsAlternative, decodeAlternative, decodeExpression, refuse, eq_comm]
  | array items => simp [IsAlternative, decodeAlternative, decodeExpression]
  | object members => simp [IsAlternative, decodeAlternative, decodeExpression]
  | _ => simp [IsAlternative, decodeAlternative, decodeExpression, refuse]

theorem isAlternative_array_iff {items : List Json} {item : TypeExpression} :
    IsAlternative (.array items) item ↔ decodeExpression (.array items) = .ok item := by
  simp [IsAlternative]

/-- Alternatives are read one for each item, in their order. -/
theorem decodeAlternatives_eq_ok_iff {items : List Json} {alternatives : List TypeExpression} :
    decodeAlternatives items = .ok alternatives ↔
      List.Forall₂ IsAlternative items alternatives := by
  induction items generalizing alternatives with
  | nil => simp [decodeAlternatives, eq_comm]
  | cons raw rest ih =>
      rw [decodeAlternatives, List.forall₂_cons_left_iff]
      simp only [← decodeAlternative_eq_ok_iff, ← ih]
      cases decodeAlternative raw with
      | error error => simp
      | ok item =>
          cases decodeAlternatives rest with
          | error error => simp [Except.map]
          | ok others => simp [Except.map, eq_comm]

/-- An expression that is a list has a kind and an argument, and no more. -/
theorem decodeExpressionItems_eq_ok_iff {items : List Json} {expression : TypeExpression} :
    decodeExpressionItems items = .ok expression ↔
      ∃ kind raw argument, items = [.string kind, raw] ∧ decodeArgument raw = .ok argument ∧
        expression = .mk (.ofName kind) argument := by
  match items with
  | [] => simp [decodeExpressionItems]
  | [kind] =>
      rw [decodeExpressionItems]
      cases decodeKind kind <;> simp
  | first :: raw :: rest =>
      rw [decodeExpressionItems]
      cases first with
      | string kind =>
          have read : decodeKind (.string kind) = .ok (.ofName kind) := rfl
          rw [read]
          cases decoded : decodeArgument raw with
          | error error => simp [decoded]
          | ok argument =>
              dsimp only
              rw [requireEnd_eq_ok_iff]
              constructor
              · rintro ⟨rfl, rfl⟩
                exact ⟨kind, raw, argument, rfl, decoded, rfl⟩
              · rintro ⟨other, held, inner, split, read, rfl⟩
                cases split
                rw [decoded] at read
                cases read
                exact ⟨rfl, rfl⟩
      | _ => simp [decodeKind, decodeString, refuse, Except.map]

section Lists

variable {raw : Json} {items : List Json} {argument : Argument}
  {alternatives : List TypeExpression}

theorem decodeArgument_of_alternatives (each : List.Forall₂ IsAlternative items alternatives) :
    decodeArgument (.array items) = .ok (.alternatives alternatives) := by
  rw [decodeArgument, decodeAlternatives_eq_ok_iff.2 each]

/-- Where not each item is an alternative, a list may be one expression. -/
theorem decodeArgument_eq_ok_iff_of_forall_not
    (none : ∀ alternatives, ¬ List.Forall₂ IsAlternative items alternatives) :
    decodeArgument (.array items) = .ok argument ↔
      ∃ inner, decodeExpression (.array items) = .ok inner ∧ argument = .nested inner := by
  rw [decodeArgument, decodeExpression]
  cases read : decodeAlternatives items with
  | ok alternatives => exact absurd (decodeAlternatives_eq_ok_iff.1 read) (none alternatives)
  | error error => cases decodeExpressionItems items <;> simp [eq_comm]

/-- What is read as an argument, but is no alternative, is a list of alternatives. -/
theorem exists_alternatives_of_decodeArgument (decoded : decodeArgument raw = .ok argument)
    (unread : ∀ item, ¬ IsAlternative raw item) :
    ∃ items alternatives, raw = .array items ∧
      List.Forall₂ IsAlternative items alternatives ∧ argument = .alternatives alternatives := by
  cases raw with
  | string name => exact absurd (.inl ⟨name, rfl, rfl⟩) (unread _)
  | array items =>
      by_cases each : ∃ alternatives, List.Forall₂ IsAlternative items alternatives
      · obtain ⟨alternatives, each⟩ := each
        rw [decodeArgument_of_alternatives each] at decoded
        exact ⟨items, alternatives, rfl, each, (Except.ok.inj decoded).symm⟩
      · have none := not_exists.1 each
        obtain ⟨inner, read, -⟩ := (decodeArgument_eq_ok_iff_of_forall_not none).1 decoded
        exact absurd (.inr read) (unread inner)
  | object members =>
      rw [decodeArgument] at decoded
      cases read : decodeExpressionMembers none none members with
      | error error => rw [read] at decoded; cases decoded
      | ok inner => exact absurd (.inr (by rw [decodeExpression, read])) (unread inner)
  | _ => cases decoded

/-- A pair of a text and a value is no list of alternatives if the value is none. -/
theorem not_forall₂_isAlternative_pair (kind : String)
    (unread : ∀ item, ¬ IsAlternative raw item) :
    ¬ List.Forall₂ IsAlternative [.string kind, raw] alternatives := by
  intro each
  cases each with
  | cons _ others =>
      cases others with
      | cons second _ => exact unread _ second

end Lists

/-- A list is read as alternatives, one for each item, or as a kind with a list of
alternatives that is no expression. -/
theorem decodeArgument_array_eq_ok_iff (items : List Json) (argument : Argument) :
    decodeArgument (.array items) = .ok argument ↔
      (∃ alternatives, List.Forall₂ IsAlternative items alternatives ∧
        argument = .alternatives alternatives) ∨
      ∃ kind others alternatives, items = [.string kind, .array others] ∧
        (∀ inner, decodeExpression (.array others) ≠ .ok inner) ∧
        List.Forall₂ IsAlternative others alternatives ∧
        argument = .nested (.mk (.ofName kind) (.alternatives alternatives)) := by
  constructor
  · intro decoded
    by_cases each : ∃ alternatives, List.Forall₂ IsAlternative items alternatives
    · obtain ⟨alternatives, each⟩ := each
      rw [decodeArgument_of_alternatives each] at decoded
      exact .inl ⟨alternatives, each, (Except.ok.inj decoded).symm⟩
    · obtain ⟨inner, read, rfl⟩ :=
        (decodeArgument_eq_ok_iff_of_forall_not (not_exists.1 each)).1 decoded
      rw [decodeExpression, decodeExpressionItems_eq_ok_iff] at read
      obtain ⟨kind, raw, held, rfl, heldRead, rfl⟩ := read
      -- The kind alone is an alternative, so its argument is none.
      have unread : ∀ item, ¬ IsAlternative raw item := fun item second =>
        each ⟨[_, item], .cons (.inl ⟨kind, rfl, rfl⟩) (.cons second .nil)⟩
      obtain ⟨others, alternatives, rfl, othersEach, rfl⟩ :=
        exists_alternatives_of_decodeArgument heldRead unread
      have noExpression : ∀ inner, decodeExpression (.array others) ≠ .ok inner :=
        fun inner read => unread inner (isAlternative_array_iff.2 read)
      exact .inr ⟨kind, others, alternatives, rfl, noExpression, othersEach, rfl⟩
  · rintro (⟨alternatives, each, rfl⟩ | ⟨kind, others, alternatives, rfl, unread, each, rfl⟩)
    · exact decodeArgument_of_alternatives each
    · have apart : ∀ item, ¬ IsAlternative (.array others) item := fun item second =>
        unread item (isAlternative_array_iff.1 second)
      have unlisted : ∀ items, ¬ List.Forall₂ IsAlternative [.string kind, .array others] items :=
        fun _ => not_forall₂_isAlternative_pair kind apart
      rw [decodeArgument_eq_ok_iff_of_forall_not unlisted]
      have argument := decodeArgument_of_alternatives each
      exact ⟨_, decodeExpressionItems_eq_ok_iff.2 ⟨kind, _, _, rfl, argument, rfl⟩, rfl⟩

/-- A union in a list with its alternatives is nested, and is not two alternatives. -/
theorem decodeArgument_union_pair :
    decodeArgument (.array [.string "union", .array [.string "A", .string "B", .string "C"]]) =
        .ok (.nested (.mk .union (.alternatives [.labelled .unspecified "A",
          .labelled .unspecified "B", .labelled .unspecified "C"]))) ∧
      ¬ ∀ items argument, decodeArgument (.array items) = .ok argument →
        ∃ alternatives, argument = .alternatives alternatives ∧
          alternatives.length = items.length := by
  have nested : decodeArgument
      (.array [.string "union", .array [.string "A", .string "B", .string "C"]]) =
        .ok (.nested (.mk .union (.alternatives [.labelled .unspecified "A",
          .labelled .unspecified "B", .labelled .unspecified "C"]))) := by
    rfl
  refine ⟨nested, fun always => ?_⟩
  obtain ⟨alternatives, equal, -⟩ := always _ _ nested
  cases equal

end AstGrammar.Codec
