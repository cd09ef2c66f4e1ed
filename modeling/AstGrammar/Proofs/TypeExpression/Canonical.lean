import AstGrammar.Proofs.Edit.Step
import AstGrammar.Proofs.TypeExpression.Subexpressions

/-!
# Canonical kinds

A kind is written the canonical way when no name of a kind with a meaning is
hidden in it.  Here this is demanded of all kinds in an expression, an entry
or an edit, at any depth.  Hints and edits with canonical kinds preserve it.
-/

namespace AstGrammar

namespace TypeKind

theorem isCanonical_iff (kind : TypeKind) : kind.IsCanonical ↔ ofName kind.name = kind := by
  constructor
  · exact ofName_name
  · intro equal
    rw [← equal]
    exact ofName_canonical kind.name

instance (kind : TypeKind) : Decidable kind.IsCanonical :=
  decidable_of_iff _ kind.isCanonical_iff.symm

end TypeKind

/-- Every kind inside the argument is written the canonical way. -/
def Argument.IsCanonical (argument : Argument) : Prop :=
  ∀ part ∈ argument.subexpressions, part.kind.IsCanonical

instance (argument : Argument) : Decidable argument.IsCanonical :=
  inferInstanceAs (Decidable (∀ part ∈ argument.subexpressions, part.kind.IsCanonical))

namespace TypeExpression

def IsCanonical (expression : TypeExpression) : Prop :=
  ∀ part ∈ expression.subexpressions, part.kind.IsCanonical

instance (expression : TypeExpression) : Decidable expression.IsCanonical :=
  inferInstanceAs (Decidable (∀ part ∈ expression.subexpressions, part.kind.IsCanonical))

theorem isCanonical_mk_iff {kind : TypeKind} {argument : Argument} :
    (TypeExpression.mk kind argument).IsCanonical ↔
      kind.IsCanonical ∧ argument.IsCanonical := by
  rw [IsCanonical, subexpressions_mk, List.forall_mem_cons, kind_mk, Argument.IsCanonical]

theorem IsCanonical.kind {expression : TypeExpression} (canonical : expression.IsCanonical) :
    expression.kind.IsCanonical :=
  canonical expression expression.mem_subexpressions_self

end TypeExpression

namespace Argument

theorem isCanonical_label (name : String) : (Argument.label name).IsCanonical := by
  intro part member
  rw [subexpressions, TypeExpression.argumentSubexpressions] at member
  exact absurd member List.not_mem_nil

theorem isCanonical_nested_iff {inner : TypeExpression} :
    (Argument.nested inner).IsCanonical ↔ inner.IsCanonical := by
  rw [IsCanonical, subexpressions, TypeExpression.argumentSubexpressions,
    TypeExpression.IsCanonical]

theorem isCanonical_alternatives_iff {items : List TypeExpression} :
    (Argument.alternatives items).IsCanonical ↔ ∀ item ∈ items, item.IsCanonical := by
  rw [IsCanonical, subexpressions, TypeExpression.argumentSubexpressions,
    TypeExpression.itemsSubexpressions_eq_flatMap]
  constructor
  · intro canonical item itemMember part partMember
    exact canonical part (List.mem_flatMap.2 ⟨item, itemMember, partMember⟩)
  · intro canonical part member
    obtain ⟨item, itemMember, partMember⟩ := List.mem_flatMap.1 member
    exact canonical item itemMember part partMember

end Argument

/-- Every type of an attribute is canonical. -/
def Attribute.AreCanonical (attributes : List Attribute) : Prop :=
  ∀ field ∈ attributes, field.type.IsCanonical

namespace Entry

def IsCanonical : Entry → Prop
  | .node held => Attribute.AreCanonical held.attributes
  | .namedType held =>
      held.expression.IsCanonical ∧ Attribute.AreCanonical held.properties

theorem IsCanonical.attributes {entry : Entry} (canonical : entry.IsCanonical) :
    Attribute.AreCanonical entry.attributes := by
  cases entry with
  | node held => exact canonical
  | namedType held => exact canonical.2

theorem IsCanonical.withAttributes {entry : Entry} (canonical : entry.IsCanonical)
    {attributes : List Attribute} (given : Attribute.AreCanonical attributes) :
    (entry.withAttributes attributes).IsCanonical := by
  cases entry with
  | node held => exact given
  | namedType held => exact ⟨canonical.1, given⟩

theorem IsCanonical.reorder {node : Node} (canonical : (Entry.node node).IsCanonical)
    (hints : List String) : (Entry.node (node.reorder hints)).IsCanonical := by
  intro field member
  have perm := Attribute.reorder_perm hints node.attributes
  exact canonical field (perm.mem_iff.1 member)

end Entry

namespace Edit

/-- Every kind that the edit gives is written the canonical way. -/
def IsCanonical (edit : Edit) : Prop :=
  match edit.replacement with
  | .argument given => given.IsCanonical
  | .type given => given.IsCanonical

instance : (edit : Edit) → Decidable edit.IsCanonical
  | ⟨_, _, .argument given⟩ => inferInstanceAs (Decidable given.IsCanonical)
  | ⟨_, _, .type given⟩ => inferInstanceAs (Decidable given.IsCanonical)

/-- An edit with canonical kinds stores a canonical type, whether it keeps the
old kind or not. -/
theorem IsCanonical.newType {edit : Edit} (canonical : edit.IsCanonical)
    {attributes : List Attribute} (held : Attribute.AreCanonical attributes) :
    (edit.newType attributes).IsCanonical := by
  rw [IsCanonical] at canonical
  rw [Edit.newType]
  cases replacement : edit.replacement with
  | type given =>
      rw [replacement] at canonical
      exact canonical
  | argument given =>
      rw [replacement] at canonical
      cases found : Attribute.find? edit.field attributes with
      | none =>
          apply TypeExpression.isCanonical_mk_iff.2
          refine ⟨?_, canonical⟩
          exact TypeKind.known_canonical (by decide)
      | some field =>
          have fieldMember := (Attribute.mem_of_find? found).1
          exact TypeExpression.isCanonical_mk_iff.2 ⟨(held field fieldMember).kind, canonical⟩

end Edit

theorem Entry.IsCanonical.edited {entry : Entry} (canonical : entry.IsCanonical) {edit : Edit}
    (given : edit.IsCanonical) : (edit.edited entry).IsCanonical := by
  apply canonical.withAttributes
  intro field member
  rcases Attribute.mem_setType member with held | stored
  · exact canonical.attributes field held
  · rw [stored]
    exact given.newType canonical.attributes

end AstGrammar
