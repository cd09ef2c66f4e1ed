/-!
# Kinds of type expressions

The kind of a type expression is an open set of names. Seven of them have a
meaning here; any other name is kept as it is.
-/

namespace AstGrammar

/-- The kind of a type expression. -/
inductive TypeKind where
  | value
  | node
  | namedType
  | nullable
  | list
  | union
  | unspecified
  | other (name : String)
  deriving DecidableEq, Inhabited

namespace TypeKind

def name : TypeKind → String
  | .value => "value"
  | .node => "node"
  | .namedType => "namedType"
  | .nullable => "nullable"
  | .list => "list"
  | .union => "union"
  | .unspecified => "unspecified"
  | .other name => name

def known : List TypeKind :=
  [.value, .node, .namedType, .nullable, .list, .union, .unspecified]

/-- The kind with a name, which is one of its own when the name has no meaning
here. -/
def ofName (name : String) : TypeKind :=
  (known.find? fun kind => kind.name == name).getD (.other name)

/-- One of the seven kinds has the name. -/
def isReserved (name : String) : Bool :=
  known.any fun kind => kind.name == name

/-- No kind is written with a name that already means another one. -/
def IsCanonical (kind : TypeKind) : Prop :=
  ∀ name, kind = .other name → isReserved name = false

@[simp] theorem name_ofName (name : String) : (ofName name).name = name := by
  unfold ofName
  cases found : known.find? fun kind => kind.name == name with
  | none => rfl
  | some kind => simpa using List.find?_some found

theorem known_canonical {kind : TypeKind} (member : kind ∈ known) : kind.IsCanonical := by
  intro name equal
  subst equal
  simp [known] at member

/-- The kind with a name is written the canonical way. -/
theorem ofName_canonical (name : String) : (ofName name).IsCanonical := by
  unfold ofName
  cases found : known.find? fun kind => kind.name == name with
  | none =>
      intro other equal
      cases equal
      simpa [isReserved] using found
  | some kind => exact known_canonical (List.mem_of_find?_eq_some found)

/-- A kind written the canonical way is the kind with its name. -/
theorem ofName_name {kind : TypeKind} (canonical : kind.IsCanonical) :
    ofName kind.name = kind := by
  cases kind with
  | other name =>
      have free := canonical name rfl
      unfold ofName
      rw [show known.find? (fun kind => kind.name == (TypeKind.other name).name) = none by
        simpa [isReserved, TypeKind.name] using free]
      rfl
  | _ => decide

end TypeKind

end AstGrammar
