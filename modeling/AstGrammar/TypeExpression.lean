import AstGrammar.TypeKind

/-!
# Type expressions

A type expression is a kind with an argument: a label that names a type, one
nested expression, or a sequence of alternatives. A union has at least two
alternatives, and no other kind has any; `TypeExpression.check` finds the first
expression that breaks this rule, from the outside in and from left to right.
-/

namespace AstGrammar

mutual

/-- A kind with an argument. -/
inductive TypeExpression where
  | mk (kind : TypeKind) (argument : Argument)

/-- What a kind is applied to. -/
inductive Argument where
  | label (name : String)
  | nested (inner : TypeExpression)
  | alternatives (items : List TypeExpression)

end

namespace Argument

def label? : Argument → Option String
  | .label name => some name
  | _ => none

end Argument

/-- How an expression breaks the rule for alternatives. -/
inductive TypeFault where
  | tooFewAlternatives (found : Nat)
  | unexpectedAlternatives (kind : TypeKind)
  deriving DecidableEq

def TypeFault.message : TypeFault → String
  | .tooFewAlternatives found => s!"a union needs at least two alternatives, found {found}"
  | .unexpectedAlternatives kind =>
      s!"kind `{kind.name}` cannot carry a sequence of alternatives"

namespace TypeExpression

def kind : TypeExpression → TypeKind
  | .mk kind _ => kind

def argument : TypeExpression → Argument
  | .mk _ argument => argument

@[simp] theorem kind_mk (kind : TypeKind) (argument : Argument) :
    (TypeExpression.mk kind argument).kind = kind := rfl

@[simp] theorem argument_mk (kind : TypeKind) (argument : Argument) :
    (TypeExpression.mk kind argument).argument = argument := rfl

def labelled (kind : TypeKind) (name : String) : TypeExpression := .mk kind (.label name)

def around (kind : TypeKind) (inner : TypeExpression) : TypeExpression := .mk kind (.nested inner)

/-- The fault that an expression has by itself, whatever stands inside it. -/
def ownFault? : TypeExpression → Option TypeFault
  | .mk .union (.alternatives items) =>
      if items.length < 2 then some (.tooFewAlternatives items.length) else none
  | .mk .union _ => some (.tooFewAlternatives 1)
  | .mk kind (.alternatives _) => some (.unexpectedAlternatives kind)
  | .mk _ _ => none

mutual

/-- The first fault in an expression, from the outside in. -/
def fault? (expression : TypeExpression) : Option TypeFault :=
  match expression with
  | .mk kind argument =>
      match ownFault? (.mk kind argument) with
      | some fault => some fault
      | none => argumentFault? argument

def argumentFault? : Argument → Option TypeFault
  | .label _ => none
  | .nested inner => fault? inner
  | .alternatives items => itemsFault? items

def itemsFault? : List TypeExpression → Option TypeFault
  | [] => none
  | item :: rest =>
      match fault? item with
      | some fault => some fault
      | none => itemsFault? rest

end

/-- Accepts an expression without faults, or reports the first fault. -/
def check (expression : TypeExpression) : Except TypeFault Unit :=
  match expression.fault? with
  | some fault => .error fault
  | none => .ok ()

/-- A union of alternatives, if it has no faults. -/
def union (alternatives : List TypeExpression) : Except TypeFault TypeExpression :=
  let expression : TypeExpression := .mk .union (.alternatives alternatives)
  match expression.fault? with
  | some fault => .error fault
  | none => .ok expression

mutual

def decideEq (first second : TypeExpression) : Decidable (first = second) :=
  match first, second with
  | .mk firstKind firstArgument, .mk secondKind secondArgument =>
      if kinds : firstKind = secondKind then
        match decideArgumentEq firstArgument secondArgument with
        | .isTrue arguments => .isTrue (by rw [kinds, arguments])
        | .isFalse different => .isFalse (by
            intro equal
            injection equal with _ arguments
            exact different arguments)
      else .isFalse (by
        intro equal
        injection equal with equalKinds
        exact kinds equalKinds)

def decideArgumentEq (first second : Argument) : Decidable (first = second) :=
  match first, second with
  | .label firstName, .label secondName =>
      if names : firstName = secondName then .isTrue (by rw [names])
      else .isFalse (by
        intro equal
        injection equal with equalNames
        exact names equalNames)
  | .nested firstInner, .nested secondInner =>
      match decideEq firstInner secondInner with
      | .isTrue inners => .isTrue (by rw [inners])
      | .isFalse different => .isFalse (by
          intro equal
          injection equal with inners
          exact different inners)
  | .alternatives firstItems, .alternatives secondItems =>
      match decideItemsEq firstItems secondItems with
      | .isTrue items => .isTrue (by rw [items])
      | .isFalse different => .isFalse (by
          intro equal
          injection equal with items
          exact different items)
  | .label _, .nested _ => .isFalse nofun
  | .label _, .alternatives _ => .isFalse nofun
  | .nested _, .label _ => .isFalse nofun
  | .nested _, .alternatives _ => .isFalse nofun
  | .alternatives _, .label _ => .isFalse nofun
  | .alternatives _, .nested _ => .isFalse nofun

def decideItemsEq (first second : List TypeExpression) : Decidable (first = second) :=
  match first, second with
  | [], [] => .isTrue rfl
  | [], _ :: _ => .isFalse nofun
  | _ :: _, [] => .isFalse nofun
  | firstItem :: firstRest, secondItem :: secondRest =>
      match decideEq firstItem secondItem, decideItemsEq firstRest secondRest with
      | .isTrue items, .isTrue rests => .isTrue (by rw [items, rests])
      | .isFalse different, _ => .isFalse (by
          intro equal
          injection equal with items
          exact different items)
      | _, .isFalse different => .isFalse (by
          intro equal
          injection equal with _ rests
          exact different rests)

end

instance : DecidableEq TypeExpression := decideEq

end TypeExpression

instance : DecidableEq Argument := TypeExpression.decideArgumentEq

namespace TypeExpression

/-- An expression is accepted exactly when it has no fault. -/
theorem check_eq_ok_iff (expression : TypeExpression) :
    expression.check = .ok () ↔ expression.fault? = none := by
  unfold check
  split <;> simp_all

end TypeExpression

end AstGrammar
