import AstGrammar.TypeExpression

/-!
# The expressions inside an expression

The subexpressions of an expression are itself and those inside its argument,
in pre-order.  The check of an expression is the search for the first of them
that has a fault of its own, so an expression passes exactly when all of its
subexpressions do.  What holds of an expression whenever it holds of the parts
of its argument holds of all expressions.
-/

namespace AstGrammar

namespace TypeExpression

mutual

/-- The expression itself and the ones inside it, in pre-order. -/
def subexpressions : TypeExpression → List TypeExpression
  | .mk kind argument => .mk kind argument :: argumentSubexpressions argument

def argumentSubexpressions : Argument → List TypeExpression
  | .label _ => []
  | .nested inner => subexpressions inner
  | .alternatives items => itemsSubexpressions items

def itemsSubexpressions : List TypeExpression → List TypeExpression
  | [] => []
  | item :: rest => subexpressions item ++ itemsSubexpressions rest

end

end TypeExpression

/-- The expressions that stand directly in an argument. -/
def Argument.parts : Argument → List TypeExpression
  | .label _ => []
  | .nested inner => [inner]
  | .alternatives items => items

def Argument.subexpressions (argument : Argument) : List TypeExpression :=
  TypeExpression.argumentSubexpressions argument

namespace TypeExpression

theorem subexpressions_mk (kind : TypeKind) (argument : Argument) :
    (TypeExpression.mk kind argument).subexpressions =
      .mk kind argument :: argument.subexpressions := by
  rw [subexpressions, Argument.subexpressions]

theorem mem_subexpressions_self (expression : TypeExpression) :
    expression ∈ expression.subexpressions := by
  cases expression with
  | mk kind argument =>
      rw [subexpressions_mk]
      exact List.mem_cons_self

theorem itemsSubexpressions_eq_flatMap (items : List TypeExpression) :
    itemsSubexpressions items = items.flatMap subexpressions := by
  induction items with
  | nil => rfl
  | cons item rest ih => rw [itemsSubexpressions, ih, List.flatMap_cons]

theorem sizeOf_lt_of_mem_parts {expression part : TypeExpression}
    (member : part ∈ expression.argument.parts) : sizeOf part < sizeOf expression := by
  obtain ⟨kind, argument⟩ := expression
  cases argument with
  | label name => cases member
  | nested inner =>
      rw [List.mem_singleton.1 member]
      simp only [mk.sizeOf_spec, Argument.nested.sizeOf_spec]
      omega
  | alternatives items =>
      have smaller := List.sizeOf_lt_of_mem member
      simp only [argument_mk, Argument.parts] at smaller
      simp only [mk.sizeOf_spec, Argument.alternatives.sizeOf_spec]
      omega

/-- What passes from the parts of every expression to the expression itself
holds of all expressions. -/
theorem induction_on_parts {motive : TypeExpression → Prop}
    (step : ∀ expression, (∀ part ∈ expression.argument.parts, motive part) →
      motive expression)
    (expression : TypeExpression) : motive expression :=
  step expression fun part _ => induction_on_parts step part
termination_by sizeOf expression
decreasing_by exact sizeOf_lt_of_mem_parts ‹_›

theorem subexpressions_eq_cons_flatMap (expression : TypeExpression) :
    expression.subexpressions =
      expression :: expression.argument.parts.flatMap subexpressions := by
  obtain ⟨kind, argument⟩ := expression
  rw [subexpressions_mk, argument_mk, Argument.subexpressions]
  cases argument with
  | label name => rfl
  | nested inner => simp [argumentSubexpressions, Argument.parts]
  | alternatives items =>
      rw [argumentSubexpressions, itemsSubexpressions_eq_flatMap, Argument.parts]

/-- Whatever is inside a subexpression is inside the expression. -/
theorem subexpressions_subset {outer inner : TypeExpression}
    (member : inner ∈ outer.subexpressions) :
    inner.subexpressions ⊆ outer.subexpressions := by
  induction outer using induction_on_parts with
  | step outer ih =>
      rw [subexpressions_eq_cons_flatMap, List.mem_cons, List.mem_flatMap] at member
      rcases member with rfl | ⟨next, nextMember, inside⟩
      · exact List.Subset.refl _
      · intro part partMember
        have partInside := ih next nextMember inside partMember
        rw [subexpressions_eq_cons_flatMap outer]
        exact List.mem_cons_of_mem _ (List.mem_flatMap.2 ⟨next, nextMember, partInside⟩)

mutual

/-- The fault of an expression is the first fault that a subexpression has by
itself. -/
theorem fault?_eq_findSome? (expression : TypeExpression) :
    expression.fault? = expression.subexpressions.findSome? ownFault? := by
  match expression with
  | .mk kind argument =>
      rw [fault?, subexpressions, List.findSome?_cons]
      cases own : ownFault? (.mk kind argument) with
      | some fault => rfl
      | none => exact argumentFault?_eq_findSome? argument

theorem argumentFault?_eq_findSome? (argument : Argument) :
    argumentFault? argument =
      (argumentSubexpressions argument).findSome? ownFault? := by
  match argument with
  | .label _ => rfl
  | .nested inner =>
      rw [argumentFault?, argumentSubexpressions]
      exact fault?_eq_findSome? inner
  | .alternatives items =>
      rw [argumentFault?, argumentSubexpressions]
      exact itemsFault?_eq_findSome? items

theorem itemsFault?_eq_findSome? (items : List TypeExpression) :
    itemsFault? items = (itemsSubexpressions items).findSome? ownFault? := by
  match items with
  | [] => rfl
  | item :: rest =>
      rw [itemsFault?, itemsSubexpressions, List.findSome?_append,
        fault?_eq_findSome? item, itemsFault?_eq_findSome? rest]
      cases item.subexpressions.findSome? ownFault? <;> rfl

end

theorem fault?_eq_none_iff (expression : TypeExpression) :
    expression.fault? = none ↔
      ∀ part ∈ expression.subexpressions, part.ownFault? = none := by
  rw [fault?_eq_findSome?, List.findSome?_eq_none_iff]

theorem fault?_eq_none_of_mem {outer inner : TypeExpression}
    (clean : outer.fault? = none) (member : inner ∈ outer.subexpressions) :
    inner.fault? = none := by
  rw [fault?_eq_none_iff] at clean ⊢
  intro part partMember
  exact clean part (subexpressions_subset member partMember)

/-- An expression passes the check exactly when everything inside it does. -/
theorem check_eq_ok_iff_forall_subexpressions (expression : TypeExpression) :
    expression.check = .ok () ↔
      ∀ part ∈ expression.subexpressions, part.check = .ok () := by
  constructor
  · intro passes part member
    rw [check_eq_ok_iff] at passes ⊢
    exact fault?_eq_none_of_mem passes member
  · intro passes
    exact passes expression expression.mem_subexpressions_self

end TypeExpression

end AstGrammar
