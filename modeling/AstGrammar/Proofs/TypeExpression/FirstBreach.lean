import Mathlib.Data.List.Lex
import Mathlib.Order.Bounds.Basic
import AstGrammar.Proofs.TypeExpression.Subexpressions

/-!
# The first breach of the rule for alternatives

A union has at least two alternatives, and any other kind has a label or one nested expression.
This is a rule on one expression alone.  An address leads from an expression to one inside it,
and the order of addresses is lexicographic, so an expression comes before those inside it and
what is inside an earlier alternative before what is inside a later one.  The check accepts an
expression exactly when the rule holds at all addresses, and otherwise reports the breach at the
least address where it does not hold.
-/

namespace AstGrammar.TypeExpression

/-- The expression at an address: each step of the address is the place of a part in the
argument. -/
def at? (expression : TypeExpression) : List Nat → Option TypeExpression
  | [] => some expression
  | place :: address => expression.argument.parts[place]?.bind fun part => part.at? address

/-- The rule for one expression, whatever stands inside it. -/
inductive ObeysRule : TypeExpression → Prop
  | union {items : List TypeExpression} (enough : 2 ≤ items.length) :
      ObeysRule (.mk .union (.alternatives items))
  | label {kind : TypeKind} (noUnion : kind ≠ .union) (name : String) :
      ObeysRule (.mk kind (.label name))
  | nested {kind : TypeKind} (noUnion : kind ≠ .union) (inner : TypeExpression) :
      ObeysRule (.mk kind (.nested inner))

/-- How an expression breaks the rule.  A union without a sequence of alternatives counts as one
alternative. -/
inductive Breaks : TypeExpression → TypeFault → Prop
  | alternatives {items : List TypeExpression} (few : items.length < 2) :
      Breaks (.mk .union (.alternatives items)) (.tooFewAlternatives items.length)
  | label (name : String) : Breaks (.mk .union (.label name)) (.tooFewAlternatives 1)
  | nested (inner : TypeExpression) : Breaks (.mk .union (.nested inner)) (.tooFewAlternatives 1)
  | unexpected {kind : TypeKind} (noUnion : kind ≠ .union) (items : List TypeExpression) :
      Breaks (.mk kind (.alternatives items)) (.unexpectedAlternatives kind)

/-- The addresses at which the rule is broken. -/
def breaches (expression : TypeExpression) : Set (List Nat) :=
  {address | ∃ part, expression.at? address = some part ∧ ¬ part.ObeysRule}

section OneExpression

variable {expression : TypeExpression} {fault : TypeFault}

theorem obeysRule_or_breaks (expression : TypeExpression) :
    expression.ObeysRule ∨ ∃ fault, expression.Breaks fault := by
  obtain ⟨kind, argument⟩ := expression
  by_cases union : kind = .union
  · subst union
    cases argument with
    | label name => exact .inr ⟨_, .label name⟩
    | nested inner => exact .inr ⟨_, .nested inner⟩
    | alternatives items =>
        rcases Nat.lt_or_ge items.length 2 with few | enough
        · exact .inr ⟨_, .alternatives few⟩
        · exact .inl (.union enough)
  · cases argument with
    | label name => exact .inl (.label union name)
    | nested inner => exact .inl (.nested union inner)
    | alternatives items => exact .inr ⟨_, .unexpected union items⟩

theorem ObeysRule.ownFault?_eq (obeys : expression.ObeysRule) : ownFault? expression = none := by
  cases obeys with
  | union enough => rw [ownFault?, if_neg (Nat.not_lt.2 enough)]
  | label noUnion name => simp [ownFault?]
  | nested noUnion inner => simp [ownFault?]

theorem Breaks.ownFault?_eq (breaks : expression.Breaks fault) :
    ownFault? expression = some fault := by
  cases breaks with
  | alternatives few => rw [ownFault?, if_pos few]
  | label name => rfl
  | nested inner => rfl
  | unexpected noUnion items =>
      rw [ownFault?]
      exact noUnion

theorem ownFault?_eq_none_iff : ownFault? expression = none ↔ expression.ObeysRule := by
  constructor
  · intro clean
    rcases expression.obeysRule_or_breaks with obeys | ⟨fault, breaks⟩
    · exact obeys
    · rw [breaks.ownFault?_eq] at clean
      cases clean
  · exact ObeysRule.ownFault?_eq

theorem ownFault?_eq_some_iff : ownFault? expression = some fault ↔ expression.Breaks fault := by
  constructor
  · intro found
    rcases expression.obeysRule_or_breaks with obeys | ⟨other, breaks⟩
    · rw [obeys.ownFault?_eq] at found
      cases found
    · rw [breaks.ownFault?_eq] at found
      cases found
      exact breaks
  · exact Breaks.ownFault?_eq

theorem Breaks.not_obeysRule (breaks : expression.Breaks fault) : ¬ expression.ObeysRule := by
  intro obeys
  have found := breaks.ownFault?_eq
  rw [obeys.ownFault?_eq] at found
  cases found

end OneExpression

section Parts

theorem itemsFault?_eq_findSome?_fault? (items : List TypeExpression) :
    itemsFault? items = items.findSome? fault? := by
  induction items with
  | nil => rfl
  | cons item rest ih =>
      rw [itemsFault?, List.findSome?_cons, ih]
      cases item.fault? <;> rfl

theorem argumentFault?_eq_findSome?_parts (argument : Argument) :
    argumentFault? argument = argument.parts.findSome? fault? := by
  cases argument with
  | label name => rfl
  | nested inner => simp [argumentFault?, Argument.parts]
  | alternatives items => exact itemsFault?_eq_findSome?_fault? items

/-- The first fault is the expression's own one, else that of the first part that has any. -/
theorem fault?_eq_or (expression : TypeExpression) :
    expression.fault? =
      (ownFault? expression).or (expression.argument.parts.findSome? fault?) := by
  obtain ⟨kind, argument⟩ := expression
  rw [fault?, argumentFault?_eq_findSome?_parts]
  cases ownFault? (mk kind argument) <;> rfl

end Parts

section Addresses

variable {expression part : TypeExpression} {place : Nat} {address : List Nat}

theorem at?_cons_eq_some_iff :
    expression.at? (place :: address) = some part ↔
      ∃ next, expression.argument.parts[place]? = some next ∧ next.at? address = some part := by
  rw [at?, Option.bind_eq_some_iff]

/-- What has an address in an expression is inside it, and the other way round. -/
theorem mem_subexpressions_iff :
    part ∈ expression.subexpressions ↔ ∃ address, expression.at? address = some part := by
  induction expression using induction_on_parts with
  | step expression ih =>
      rw [subexpressions_eq_cons_flatMap, List.mem_cons, List.mem_flatMap]
      constructor
      · rintro (rfl | ⟨next, nextMember, member⟩)
        · exact ⟨[], rfl⟩
        · obtain ⟨address, held⟩ := (ih next nextMember).1 member
          obtain ⟨place, nextHeld⟩ := List.mem_iff_getElem?.1 nextMember
          exact ⟨place :: address, at?_cons_eq_some_iff.2 ⟨next, nextHeld, held⟩⟩
      · rintro ⟨address, held⟩
        cases address with
        | nil =>
            cases held
            exact .inl rfl
        | cons place address =>
            obtain ⟨next, nextHeld, held⟩ := at?_cons_eq_some_iff.1 held
            have nextMember := List.mem_of_getElem? nextHeld
            exact .inr ⟨next, nextMember, (ih next nextMember).2 ⟨address, held⟩⟩

theorem fault?_eq_none_iff_obeysRule :
    expression.fault? = none ↔
      ∀ address part, expression.at? address = some part → part.ObeysRule := by
  rw [fault?_eq_none_iff]
  constructor
  · intro clean address part held
    exact ownFault?_eq_none_iff.1 (clean part (mem_subexpressions_iff.2 ⟨address, held⟩))
  · intro obeys part member
    obtain ⟨address, held⟩ := mem_subexpressions_iff.1 member
    exact ownFault?_eq_none_iff.2 (obeys address part held)

theorem breaches_eq_empty_iff : expression.breaches = ∅ ↔ expression.fault? = none := by
  simp only [fault?_eq_none_iff_obeysRule, breaches, Set.eq_empty_iff_forall_notMem,
    Set.mem_ofPred_eq, not_exists, not_and, not_not]

theorem nil_mem_breaches_iff : [] ∈ expression.breaches ↔ ¬ expression.ObeysRule := by
  simp [breaches, at?]

theorem cons_mem_breaches_iff :
    place :: address ∈ expression.breaches ↔
      ∃ next, expression.argument.parts[place]? = some next ∧ address ∈ next.breaches := by
  simp only [breaches, Set.mem_ofPred_eq, at?_cons_eq_some_iff]
  constructor
  · rintro ⟨part, ⟨next, nextHeld, held⟩, broken⟩
    exact ⟨next, nextHeld, part, held, broken⟩
  · rintro ⟨next, nextHeld, part, held, broken⟩
    exact ⟨part, ⟨next, nextHeld, held⟩, broken⟩

theorem isLeast_breaches_nil (broken : ¬ expression.ObeysRule) :
    IsLeast expression.breaches [] :=
  ⟨nil_mem_breaches_iff.2 broken, fun other _ => not_lt.1 (List.not_lt_nil other)⟩

/-- Where an expression obeys the rule, its first breach is the one in its first part with any. -/
theorem isLeast_breaches_cons {front back : List TypeExpression}
    (obeys : expression.ObeysRule) (parts : expression.argument.parts = front ++ part :: back)
    (clean : ∀ earlier ∈ front, earlier.breaches = ∅) (least : IsLeast part.breaches address) :
    IsLeast expression.breaches (front.length :: address) := by
  constructor
  · exact cons_mem_breaches_iff.2 ⟨part, by simp [parts], least.1⟩
  · intro other otherMember
    cases other with
    | nil => exact absurd obeys (nil_mem_breaches_iff.1 otherMember)
    | cons place rest =>
        obtain ⟨next, nextHeld, restMember⟩ := cons_mem_breaches_iff.1 otherMember
        rw [parts] at nextHeld
        -- The other address leads into a later part, into the same one or into an earlier one.
        rcases lt_trichotomy front.length place with behind | rfl | inFront
        · exact (List.cons_lt_cons_iff.2 (.inl behind)).le
        · have same : part = next := by simpa using nextHeld
          exact List.cons_le_cons _ (least.2 (same ▸ restMember))
        · rw [List.getElem?_append_left inFront] at nextHeld
          have empty := clean next (List.mem_of_getElem? nextHeld)
          rw [empty] at restMember
          cases restMember

/-- The fault that is found is the one at the least address of a breach. -/
theorem exists_isLeast_breaches {fault : TypeFault} (found : expression.fault? = some fault) :
    ∃ address part, IsLeast expression.breaches address ∧
      expression.at? address = some part ∧ part.Breaks fault := by
  induction expression using induction_on_parts with
  | step expression ih =>
      rw [fault?_eq_or] at found
      rcases Option.or_eq_some_iff.1 found with own | ⟨clean, inside⟩
      · have breaks := ownFault?_eq_some_iff.1 own
        exact ⟨[], expression, isLeast_breaches_nil breaks.not_obeysRule, rfl, breaks⟩
      · obtain ⟨front, next, back, parts, nextFound, frontClean⟩ :=
          List.findSome?_eq_some_iff.1 inside
        obtain ⟨address, part, least, held, breaks⟩ := ih next (by simp [parts]) nextFound
        have obeys := ownFault?_eq_none_iff.1 clean
        have noBreaches : ∀ earlier ∈ front, earlier.breaches = ∅ := fun earlier member =>
          breaches_eq_empty_iff.2 (frontClean earlier member)
        refine ⟨front.length :: address, part,
          isLeast_breaches_cons obeys parts noBreaches least, ?_, breaks⟩
        exact at?_cons_eq_some_iff.2 ⟨next, by simp [parts], held⟩

theorem fault?_eq_some_iff {fault : TypeFault} :
    expression.fault? = some fault ↔
      ∃ address part, IsLeast expression.breaches address ∧
        expression.at? address = some part ∧ part.Breaks fault := by
  constructor
  · exact exists_isLeast_breaches
  · rintro ⟨address, part, least, held, breaks⟩
    cases found : expression.fault? with
    | none =>
        rw [breaches_eq_empty_iff.2 found] at least
        exact absurd least.1 (Set.notMem_empty address)
    | some other =>
        obtain ⟨otherAddress, otherPart, otherLeast, otherHeld, otherBreaks⟩ :=
          exists_isLeast_breaches found
        rw [← least.unique otherLeast, held] at otherHeld
        cases otherHeld
        rw [← otherBreaks.ownFault?_eq, breaks.ownFault?_eq]

end Addresses

theorem check_eq_error_iff {expression : TypeExpression} {fault : TypeFault} :
    expression.check = .error fault ↔ expression.fault? = some fault := by
  rw [check]
  cases expression.fault? <;> simp

/-- The check accepts an expression exactly when everything inside it obeys the rule.  Otherwise
it reports how the rule is broken at the least address where it is. -/
theorem check_finds_first_breach (expression : TypeExpression) :
    (expression.check = .ok () ↔
        ∀ address part, expression.at? address = some part → part.ObeysRule) ∧
      ∀ fault, expression.check = .error fault ↔
        ∃ address part, IsLeast expression.breaches address ∧
          expression.at? address = some part ∧ part.Breaks fault := by
  constructor
  · rw [check_eq_ok_iff, fault?_eq_none_iff_obeysRule]
  · intro fault
    rw [check_eq_error_iff, fault?_eq_some_iff]

/-- The breach at `[0, 0]` comes before the one at `[1]`, though it is the deeper one. -/
example :
    (mk .union (.alternatives
      [mk .list (.nested (mk .union (.label "Name"))), mk .node (.alternatives [])])).check =
        .error (.tooFewAlternatives 1) := by
  decide

end AstGrammar.TypeExpression
