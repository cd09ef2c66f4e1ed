import AstGrammar.Proofs.Edit.Step

/-!
# Edits of an entry as an insertion-ordered map

The attributes of an entry after a sequence of edits follow from the original
ones and from the accepted edits alone.  The names are the original ones and
then each new one in the order of its first edit; the last edit of a name gives
its argument, and the last edit of it that gives a kind gives its kind.

The two views of this file, names in order and type by name, determine a list
of attributes with distinct names.  `EditHistory.Describes` says that a list
has them, and one accepted edit preserves it.
-/

namespace AstGrammar

namespace Replacement

def givenArgument : Replacement → Argument
  | .argument given => given
  | .type given => given.argument

/-- The kind that a replacement gives, if it gives one. -/
def givenKind? : Replacement → Option TypeKind
  | .argument _ => none
  | .type given => some given.kind

end Replacement

/-- The original attributes of an entry with the edits accepted since. -/
structure EditHistory where
  original : List Attribute
  accepted : List Edit

namespace EditHistory

/-- The original names and then each new one, at its first accepted edit. -/
def names (history : EditHistory) : List String :=
  history.original.map Attribute.name ++
    ((history.accepted.map Edit.field).removeAll
      (history.original.map Attribute.name)).eraseDups

def editsOf (history : EditHistory) (name : String) : List Edit :=
  history.accepted.filter fun edit => edit.field = name

/-- The argument of the last accepted edit of a name, else the original one. -/
def argument? (history : EditHistory) (name : String) : Option Argument :=
  ((history.editsOf name).map fun edit => edit.replacement.givenArgument).getLast?.or
    ((Attribute.find? name history.original).map fun field => field.type.argument)

/-- The kind of the last accepted edit of a name that gives one, else the
original one, else none in particular. -/
def kind (history : EditHistory) (name : String) : TypeKind :=
  (((history.editsOf name).filterMap fun edit => edit.replacement.givenKind?).getLast?.or
    ((Attribute.find? name history.original).map fun field => field.type.kind)).getD .unspecified

def storedType (history : EditHistory) (edit : Edit) : TypeExpression :=
  .mk (edit.replacement.givenKind?.getD (history.kind edit.field)) edit.replacement.givenArgument

def accept (history : EditHistory) (edit : Edit) : EditHistory :=
  { history with accepted := history.accepted ++ [edit] }

/-- The attributes have the names and types of the history. -/
structure Describes (history : EditHistory) (attributes : List Attribute) : Prop where
  nodup : (attributes.map Attribute.name).Nodup
  names : attributes.map Attribute.name = history.names
  types : ∀ name, (Attribute.find? name attributes).map Attribute.type =
    (history.argument? name).map (.mk (history.kind name))

variable {history : EditHistory} {edit : Edit} {attributes : List Attribute} {name : String}

theorem describes_original (nodup : (attributes.map Attribute.name).Nodup) :
    (EditHistory.mk attributes []).Describes attributes := by
  refine ⟨nodup, by simp [names], fun name => ?_⟩
  simp only [argument?, kind, editsOf, List.filter_nil, List.map_nil, List.filterMap_nil,
    List.getLast?_nil, Option.none_or]
  cases Attribute.find? name attributes with
  | none => rfl
  | some field =>
      obtain ⟨_, fieldKind, fieldArgument⟩ := field
      rfl

private theorem removeAll_concat (names removed : List String) (name : String) :
    (names ++ [name]).removeAll removed =
      if name ∈ removed then names.removeAll removed else names.removeAll removed ++ [name] := by
  by_cases held : name ∈ removed
  · simp [List.removeAll, held]
  · simp [List.removeAll, held]

private theorem eraseDups_concat (names : List String) (name : String) :
    (names ++ [name]).eraseDups =
      if name ∈ names then names.eraseDups else names.eraseDups ++ [name] := by
  rw [List.eraseDups_append]
  by_cases held : name ∈ names
  · simp [List.removeAll, held]
  · simp [List.removeAll, held, List.eraseDups_cons]

private theorem insertionOrder_concat (originals edited : List String) (name : String) :
    originals ++ ((edited ++ [name]).removeAll originals).eraseDups =
      if name ∈ originals ++ (edited.removeAll originals).eraseDups then
        originals ++ (edited.removeAll originals).eraseDups
      else originals ++ (edited.removeAll originals).eraseDups ++ [name] := by
  rw [removeAll_concat]
  by_cases original : name ∈ originals
  · simp [original]
  · rw [if_neg original, eraseDups_concat]
    have member : name ∈ originals ++ (edited.removeAll originals).eraseDups ↔
        name ∈ edited.removeAll originals := by
      simp [original]
    by_cases again : name ∈ edited.removeAll originals
    · rw [if_pos again, if_pos (member.2 again)]
    · rw [if_neg again, if_neg (mt member.1 again), List.append_assoc]

theorem names_accept (history : EditHistory) (edit : Edit) :
    (history.accept edit).names =
      if edit.field ∈ history.names then history.names else history.names ++ [edit.field] := by
  have added := insertionOrder_concat (history.original.map Attribute.name)
    (history.accepted.map Edit.field) edit.field
  rw [names, accept, List.map_append]
  exact added

theorem editsOf_accept_self (history : EditHistory) (edit : Edit) :
    (history.accept edit).editsOf edit.field = history.editsOf edit.field ++ [edit] := by
  simp [editsOf, accept]

theorem editsOf_accept_of_ne (different : name ≠ edit.field) :
    (history.accept edit).editsOf name = history.editsOf name := by
  simp [editsOf, accept, different.symm]

theorem argument?_accept_self (history : EditHistory) (edit : Edit) :
    (history.accept edit).argument? edit.field = some edit.replacement.givenArgument := by
  simp [argument?, editsOf_accept_self]

theorem kind_accept_self (history : EditHistory) (edit : Edit) :
    (history.accept edit).kind edit.field =
      edit.replacement.givenKind?.getD (history.kind edit.field) := by
  rw [kind, editsOf_accept_self, List.filterMap_append]
  cases given : edit.replacement.givenKind? with
  | none => simp [given, kind, accept]
  | some kind => simp [given]

theorem argument?_accept_of_ne (different : name ≠ edit.field) :
    (history.accept edit).argument? name = history.argument? name := by
  rw [argument?, editsOf_accept_of_ne different, argument?]
  rfl

theorem kind_accept_of_ne (different : name ≠ edit.field) :
    (history.accept edit).kind name = history.kind name := by
  rw [kind, editsOf_accept_of_ne different, kind]
  rfl

/-- Without an argument there is neither an edit nor an original kind. -/
theorem kind_of_argument?_eq_none (absent : history.argument? name = none) :
    history.kind name = .unspecified := by
  simp only [argument?, Option.or_eq_none_iff, List.getLast?_eq_none_iff, List.map_eq_nil_iff,
    Option.map_eq_none_iff] at absent
  simp [kind, absent.1, absent.2]

/-- The type that an edit stores follows from the history. -/
theorem Describes.newType_eq (describes : history.Describes attributes) (edit : Edit) :
    edit.newType attributes = history.storedType edit := by
  rw [Edit.newType, storedType]
  cases edit.replacement with
  | type type =>
      cases type with
      | mk kind argument => rfl
  | argument argument =>
      have held := describes.types edit.field
      cases found : Attribute.find? edit.field attributes with
      | none =>
          rw [found, Option.map_none, eq_comm, Option.map_eq_none_iff] at held
          simp [kind_of_argument?_eq_none held, Replacement.givenKind?,
            Replacement.givenArgument]
      | some field =>
          rw [found, Option.map_some, eq_comm, Option.map_eq_some_iff] at held
          obtain ⟨fieldArgument, -, fieldType⟩ := held
          simp [← fieldType, Replacement.givenKind?, Replacement.givenArgument]

/-- An accepted edit stores its type as the history says. -/
theorem Describes.accept (describes : history.Describes attributes) (edit : Edit) :
    (history.accept edit).Describes
      (Attribute.setType edit.field (edit.newType attributes) attributes) := by
  refine ⟨Attribute.nodup_names_setType describes.nodup, ?_, fun name => ?_⟩
  · rw [names_accept, ← describes.names]
    by_cases present : edit.field ∈ attributes.map Attribute.name
    · rw [if_pos present, Attribute.names_setType_of_mem present]
    · rw [if_neg present, Attribute.names_setType_of_notMem present]
  · by_cases edited : name = edit.field
    · rw [edited, Attribute.find?_setType_self, argument?_accept_self, kind_accept_self,
        describes.newType_eq]
      rfl
    · rw [Attribute.find?_setType_of_ne _ _ edited, argument?_accept_of_ne edited,
        kind_accept_of_ne edited]
      exact describes.types name

end EditHistory

namespace Entry

/-- The entry after an edit. A refused edit changes nothing. -/
def afterEdit (entry : Entry) (edit : Edit) : Entry :=
  match edit.apply (some entry) with
  | .ok (edited, _) => edited
  | .error _ => entry

def afterEdits (entry : Entry) (edits : List Edit) : Entry := edits.foldl afterEdit entry

def acceptedEdits (entry : Entry) : List Edit → List Edit
  | [] => []
  | edit :: rest =>
      match edit.apply (some entry) with
      | .ok (edited, _) => edit :: edited.acceptedEdits rest
      | .error _ => entry.acceptedEdits rest

variable {entry : Entry}

/-- What a history describes is described by the history with the edits that
are accepted from there on. -/
theorem describes_afterEdits {original : List Attribute} {past : List Edit}
    (describes : (EditHistory.mk original past).Describes entry.attributes)
    (edits : List Edit) :
    (EditHistory.mk original (past ++ entry.acceptedEdits edits)).Describes
      (entry.afterEdits edits).attributes := by
  induction edits generalizing entry past with
  | nil =>
      rw [acceptedEdits, List.append_nil]
      exact describes
  | cons edit rest ih =>
      rw [acceptedEdits, afterEdits, List.foldl_cons, ← afterEdits, afterEdit]
      cases found : (edit.newType entry.attributes).fault? with
      | some fault =>
          simp only [Edit.apply_of_fault?_eq_some found]
          exact ih describes
      | none =>
          simp only [Edit.apply_of_fault?_eq_none found]
          have step := describes.accept edit
          rw [← Edit.attributes_edited] at step
          have run := ih step
          rw [List.append_assoc] at run
          exact run

/-- The attributes after a sequence of edits are those of an insertion-ordered
map, and the next edit is accepted exactly when the type that it would store
passes the check. It then updates the name at its place or appends it. -/
theorem attributes_afterEdits (entry : Entry) (edits : List Edit)
    (nodup : (entry.attributes.map Attribute.name).Nodup) :
    let history : EditHistory := ⟨entry.attributes, entry.acceptedEdits edits⟩
    let current := entry.afterEdits edits
    current.attributes.map Attribute.name = history.names ∧
      (∀ field ∈ current.attributes,
        history.argument? field.name = some field.type.argument ∧
          history.kind field.name = field.type.kind) ∧
      ∀ edit : Edit,
        ((∃ result, edit.apply (some current) = .ok result) ↔
          (history.storedType edit).check = .ok ()) ∧
        ∀ edited outcome, edit.apply (some current) = .ok (edited, outcome) →
          (∀ index, history.names[index]? = some edit.field → outcome = .updated index) ∧
            (edit.field ∉ history.names → outcome = .appended history.names.length) := by
  intro history current
  have describes : history.Describes current.attributes :=
    describes_afterEdits (EditHistory.describes_original nodup) edits
  refine ⟨describes.names, fun field member => ?_, fun edit => ⟨?_, ?_⟩⟩
  · have held := describes.types field.name
    rw [Attribute.find?_of_mem describes.nodup member, Option.map_some, eq_comm,
      Option.map_eq_some_iff] at held
    obtain ⟨argument, found, equal⟩ := held
    rw [found, ← equal]
    exact ⟨rfl, rfl⟩
  · rw [TypeExpression.check_eq_ok_iff, ← describes.newType_eq]
    constructor
    · rintro ⟨⟨edited, outcome⟩, applied⟩
      obtain ⟨_, same, clean, -, -⟩ := Edit.apply_eq_ok_iff.1 applied
      cases same
      exact clean
    · intro clean
      exact ⟨_, Edit.apply_of_fault?_eq_none clean⟩
  · intro edited outcome applied
    obtain ⟨_, same, -, -, outcomeEq⟩ := Edit.apply_eq_ok_iff.1 applied
    cases same
    rw [outcomeEq, Attribute.outcomeOfSet, ← describes.names]
    constructor
    · intro index found
      have position : Attribute.position? edit.field current.attributes = some index := by
        rw [Attribute.position?_eq_some_iff]
        refine ⟨found, fun earlier inFront again => ?_⟩
        have bound := (List.getElem?_eq_some_iff.1 found).1
        have same := (List.getElem?_inj (Nat.lt_trans inFront bound) describes.nodup).1
          (again.trans found.symm)
        exact Nat.ne_of_lt inFront same
      rw [position]
    · intro absent
      rw [Attribute.position?_eq_none_iff.2 absent, List.length_map]

/-- A function with a new attribute, a new body and, between the two, a union
that is refused. -/
theorem names_afterEdits_function :
    let function : Entry := .node ⟨[], [], [⟨"name", .labelled .value "Name"⟩,
      ⟨"body", .labelled .node "Block"⟩]⟩
    let edits : List Edit := [⟨"Function", "result", .argument (.label "Type")⟩,
      ⟨"Function", "result", .type (.mk .union (.alternatives []))⟩,
      ⟨"Function", "body", .argument (.label "Statement")⟩]
    (function.attributes.map Attribute.name).Nodup ∧
      (function.afterEdits edits).attributes.map Attribute.name = ["name", "body", "result"] ∧
      ∀ field ∈ (function.afterEdits edits).attributes, field.name = "body" →
        field.type.kind = .node ∧ some field.type.argument = some (.label "Statement") := by
  intro function edits
  have nodup : (function.attributes.map Attribute.name).Nodup := by decide
  obtain ⟨names, types, -⟩ := attributes_afterEdits function edits nodup
  refine ⟨nodup, ?_, ?_⟩
  · rw [names]
    decide
  · intro field member named
    obtain ⟨argument, kind⟩ := types field member
    rw [named] at argument kind
    rw [← argument, ← kind]
    decide

end Entry

end AstGrammar
