import AstGrammar.Proofs.Edit.Step
import AstGrammar.Proofs.Rendering.Entries

/-!
# What an edit leaves alone

An accepted edit gives one attribute of one entry a type: the entry that the
name of the edit resolves to, which is the node where there are two.  The other
attributes of the entry, all that it holds besides them, all other entries and
the order of the entries stay.  A refused edit changes nothing.
-/

namespace AstGrammar

namespace EditOutcome

/-- The outcome says where the name stands: at its first place among the
attributes, or behind all of them when it is new. -/
def Fits (outcome : EditOutcome) (name : String) (attributes : List Attribute) : Prop :=
  match outcome with
  | .updated index =>
      (attributes.map Attribute.name)[index]? = some name ∧
        ∀ earlier < index, (attributes.map Attribute.name)[earlier]? ≠ some name
  | .appended index => index = attributes.length ∧ name ∉ attributes.map Attribute.name

end EditOutcome

namespace Attribute

variable {name : String} {type : TypeExpression} {attributes : List Attribute}

theorem fits_outcomeOfSet (name : String) (attributes : List Attribute) :
    (outcomeOfSet name attributes).Fits name attributes := by
  rw [outcomeOfSet]
  cases found : position? name attributes with
  | some index => exact position?_eq_some_iff.1 found
  | none => exact ⟨rfl, position?_eq_none_iff.1 found⟩

/-- The attribute at the place that an outcome reports is the one that is found
under the name, and there is none when the name is new. -/
theorem getElem?_index_outcomeOfSet (name : String) (attributes : List Attribute) :
    attributes[(outcomeOfSet name attributes).index]? = find? name attributes := by
  rw [outcomeOfSet, position?, find?, List.find?_eq_bind_findIdx?_getElem?]
  cases attributes.findIdx? fun field => decide (field.name = name) with
  | some index => rfl
  | none => exact List.getElem?_eq_none (Nat.le_refl _)

theorem getElem?_setType_index (name : String) (type : TypeExpression)
    (attributes : List Attribute) :
    (setType name type attributes)[(outcomeOfSet name attributes).index]? =
      some ⟨name, type⟩ := by
  rw [setType_eq, outcomeOfSet]
  cases found : position? name attributes with
  | none => exact List.getElem?_concat_length
  | some index =>
      have held := (position?_eq_some_iff.1 found).1
      have bound : index < attributes.length := by
        simpa using (List.getElem?_eq_some_iff.1 held).1
      exact List.getElem?_set_self bound

theorem getElem?_setType_of_ne {index : Nat}
    (different : index ≠ (outcomeOfSet name attributes).index) :
    (setType name type attributes)[index]? = attributes[index]? := by
  rw [outcomeOfSet] at different
  rw [setType_eq]
  cases found : position? name attributes with
  | some position =>
      rw [found] at different
      exact List.getElem?_set_ne different.symm
  | none =>
      rw [found] at different
      have notLast : index ≠ attributes.length := different
      rcases Nat.lt_or_gt_of_ne notLast with inside | behind
      · exact List.getElem?_append_left inside
      · have pastOld : attributes.length ≤ index := by omega
        have pastNew : (attributes ++ [(⟨name, type⟩ : Attribute)]).length ≤ index := by
          simp only [List.length_append, List.length_singleton]
          omega
        rw [List.getElem?_eq_none pastOld]
        exact List.getElem?_eq_none pastNew

/-- After the edit the name is first found where the outcome says. -/
theorem position?_setType (name : String) (type : TypeExpression) (attributes : List Attribute) :
    position? name (setType name type attributes) = some (outcomeOfSet name attributes).index := by
  rw [position?_eq_some_iff]
  constructor
  · rw [List.getElem?_map, getElem?_setType_index]
    rfl
  · intro earlier inFront
    have kept : (setType name type attributes)[earlier]? = attributes[earlier]? :=
      getElem?_setType_of_ne (Nat.ne_of_lt inFront)
    rw [List.getElem?_map, kept, ← List.getElem?_map]
    have fits := fits_outcomeOfSet name attributes
    cases outcome : outcomeOfSet name attributes with
    | updated index =>
        rw [outcome] at fits inFront
        exact fits.2 earlier inFront
    | appended index =>
        rw [outcome] at fits
        exact fun held => fits.2 (List.mem_of_getElem? held)

end Attribute

namespace Replacement

/-- The type that a replacement gives in the place of an attribute, if there is
one: an argument keeps the kind that is there. -/
def typeOver (replacement : Replacement) (held : Option Attribute) : TypeExpression :=
  match replacement with
  | .type given => given
  | .argument given => .mk ((held.map fun field => field.type.kind).getD .unspecified) given

end Replacement

namespace Edit

/-- The second entry is the first one after the edit, with the outcome: it has
the type of the edit at one place and else nothing new. -/
structure Changes (edit : Edit) (outcome : EditOutcome) (before after : Entry) : Prop where
  rest : after = before.withAttributes after.attributes
  fits : outcome.Fits edit.field before.attributes
  others : ∀ index, index ≠ outcome.index → after.attributes[index]? = before.attributes[index]?
  stored : after.attributes[outcome.index]? =
    some ⟨edit.field, edit.replacement.typeOver before.attributes[outcome.index]?⟩
  found : Attribute.position? edit.field after.attributes = some outcome.index
  passes : (edit.replacement.typeOver before.attributes[outcome.index]?).check = .ok ()

/-- Why an edit of what its name resolves to is refused. -/
def IsRefused (edit : Edit) : Option Entry → EntryError → Prop
  | none, error => error = .invalidShape edit.entry .absent
  | some entry, error =>
      ∃ fault,
        (edit.replacement.typeOver (Attribute.find? edit.field entry.attributes)).check =
          .error fault ∧
        error = .rejectedType edit.entry edit.field fault

variable {edit : Edit}

theorem newType_eq_typeOver (edit : Edit) (attributes : List Attribute) :
    edit.newType attributes =
      edit.replacement.typeOver (Attribute.find? edit.field attributes) := by
  rw [newType]
  cases edit.replacement with
  | type given => rfl
  | argument given => cases Attribute.find? edit.field attributes <;> rfl

/-- An accepted edit changes the entry at the place that its outcome reports. -/
theorem changes_edited {entry : Entry}
    (clean : (edit.newType entry.attributes).fault? = none) :
    edit.Changes (Attribute.outcomeOfSet edit.field entry.attributes) entry
      (edit.edited entry) where
  rest := by rw [attributes_edited, edited]
  fits := Attribute.fits_outcomeOfSet edit.field entry.attributes
  others := by
    intro index different
    rw [attributes_edited]
    exact Attribute.getElem?_setType_of_ne different
  stored := by
    rw [attributes_edited, Attribute.getElem?_setType_index,
      Attribute.getElem?_index_outcomeOfSet, newType_eq_typeOver]
  found := by
    rw [attributes_edited]
    exact Attribute.position?_setType edit.field _ entry.attributes
  passes := by
    rw [Attribute.getElem?_index_outcomeOfSet, ← newType_eq_typeOver]
    exact (TypeExpression.check_eq_ok_iff _).2 clean

theorem isRefused_of_apply {held : Option Entry} {error : EntryError}
    (refused : edit.apply held = .error error) : edit.IsRefused held error := by
  cases held with
  | none =>
      cases refused
      rfl
  | some entry =>
      cases found : (edit.newType entry.attributes).fault? with
      | none =>
          rw [apply_of_fault?_eq_none found] at refused
          cases refused
      | some fault =>
          rw [apply_of_fault?_eq_some found] at refused
          cases refused
          rw [newType_eq_typeOver] at found
          refine ⟨fault, ?_, rfl⟩
          rw [TypeExpression.check, found]

@[simp]
theorem shape_edited (edit : Edit) (entry : Entry) : (edit.edited entry).shape = entry.shape := by
  cases entry <;> rfl

end Edit

namespace GrammarModel

variable {model : GrammarModel} {name : String} {entry result : Entry}

/-- An entry of the same shape that is put under a name takes the place of the
one that the name resolves to. -/
theorem exists_entries_replace (resolved : model.resolve name = some entry)
    (sameShape : result.shape = entry.shape) :
    ∃ front back, model.entries = front ++ (name, entry) :: back ∧
      (model.replace name result).entries = front ++ (name, result) :: back := by
  rcases resolve_eq_some_iff.1 resolved with ⟨held, found, rfl⟩ | ⟨-, held, found, rfl⟩
  · cases result with
    | namedType namedType => cases sameShape
    | node node =>
        obtain ⟨front, back, before, after⟩ :=
          Registry.exists_entries_modify found fun _ => node
        refine ⟨front.map fun entry => (entry.1, .node entry.2),
          back.map (fun entry => (entry.1, .node entry.2)) ++
            model.namedTypes.entries.map fun entry => (entry.1, .namedType entry.2), ?_, ?_⟩
        · simp [entries, before]
        · simp [entries, replace, after]
  · cases result with
    | node node => cases sameShape
    | namedType namedType =>
        obtain ⟨front, back, before, after⟩ :=
          Registry.exists_entries_modify found fun _ => namedType
        refine ⟨model.nodes.entries.map (fun entry => (entry.1, .node entry.2)) ++
            front.map fun entry => (entry.1, .namedType entry.2),
          back.map fun entry => (entry.1, .namedType entry.2), ?_, ?_⟩
        · simp [entries, before]
        · simp [entries, replace, after]

/-- The name resolves to what was put in the place of what it resolved to. -/
theorem resolve_replace (resolved : model.resolve name = some entry)
    (sameShape : result.shape = entry.shape) :
    (model.replace name result).resolve name = some result := by
  rw [resolve_eq_some_iff]
  rcases resolve_eq_some_iff.1 resolved with ⟨held, found, rfl⟩ | ⟨absent, held, found, rfl⟩
  · cases result with
    | namedType namedType => cases sameShape
    | node node =>
        refine Or.inl ⟨node, ?_, rfl⟩
        rw [node?] at found
        rw [node?, replace, Registry.find?_modify_self, found]
        rfl
  · cases result with
    | node node => cases sameShape
    | namedType namedType =>
        refine Or.inr ⟨absent, namedType, ?_, rfl⟩
        rw [namedType?] at found
        rw [namedType?, replace, Registry.find?_modify_self, found]
        rfl

theorem apply_of_edit_eq_error {edit : Edit} {error : EntryError}
    (refused : model.edit edit = .error error) :
    edit.apply (model.resolve edit.entry) = .error error := by
  rw [GrammarModel.edit] at refused
  cases applied : edit.apply (model.resolve edit.entry) with
  | error found =>
      rw [applied] at refused
      cases refused
      rfl
  | ok result =>
      rw [applied] at refused
      cases refused

end GrammarModel

namespace Session

/-- A refused edit has an unknown name or a type with a fault and leaves the
session as it is. An accepted one changes the entry that its name resolves to,
at the place that its outcome reports, and leaves all other entries, their order
and the rest of the session as they are. -/
theorem edit_changes_one_attribute (session : Session) (edit : Edit) :
    match session.edit edit with
    | .error error =>
        session.afterEdit edit = session ∧ edit.IsRefused (session.resolve edit.entry) error
    | .ok (edited, outcome) =>
        session.afterEdit edit = edited ∧ edited.options = session.options ∧
          edited.warnings = session.warnings ∧
          ∃ before after front back,
            session.resolve edit.entry = some before ∧
            (∀ node, session.model.node? edit.entry = some node → before = .node node) ∧
            session.model.entries = front ++ (edit.entry, before) :: back ∧
            edited.model.entries = front ++ (edit.entry, after) :: back ∧
            edited.resolve edit.entry = some after ∧ edit.Changes outcome before after := by
  cases applied : session.model.edit edit with
  | error error =>
      have refused : edit.apply (session.resolve edit.entry) = .error error :=
        GrammarModel.apply_of_edit_eq_error applied
      have edits : session.edit edit = .error error := by rw [Session.edit, applied]
      rw [afterEdit, edits]
      exact ⟨rfl, Edit.isRefused_of_apply refused⟩
  | ok result =>
      obtain ⟨model, outcome⟩ := result
      obtain ⟨before, resolved, clean, rfl, rfl⟩ := GrammarModel.edit_eq_ok_iff.1 applied
      have sameShape := edit.shape_edited before
      obtain ⟨front, back, cut, replaced⟩ :=
        GrammarModel.exists_entries_replace resolved sameShape
      have isNode : ∀ node, session.model.node? edit.entry = some node → before = .node node := by
        intro node found
        rw [GrammarModel.resolve, found] at resolved
        exact (Option.some.inj resolved).symm
      have edits : session.edit edit =
          .ok ({ session with model := session.model.replace edit.entry (edit.edited before) },
            Attribute.outcomeOfSet edit.field before.attributes) := by
        rw [Session.edit, applied]
      rw [afterEdit, edits]
      exact ⟨rfl, rfl, rfl, before, edit.edited before, front, back, resolved, isNode, cut,
        replaced, GrammarModel.resolve_replace resolved sameShape, Edit.changes_edited clean⟩

end Session

end AstGrammar
