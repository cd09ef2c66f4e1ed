import AstGrammar.Proofs.Edit.Frame
import AstGrammar.Proofs.Edit.OrderedMap

/-!
# Independence of edits

An edit reads one attribute of an entry and writes no other, so edits of different
attributes of an entry do not see each other: each is accepted or refused as it would be
alone, and the entry is the same in either order.  Only two new attributes stand in the order
of their edits.  An edit that is made again finds what it wrote.

The laws of writing in one place twice and in two places are shown for lists of attributes
first, and then for entries.
-/

namespace AstGrammar

namespace Attribute

variable {name other : String} {attributes : List Attribute}

theorem setType_of_notMem (absent : name ∉ attributes.map Attribute.name)
    (type : TypeExpression) : setType name type attributes = attributes ++ [⟨name, type⟩] := by
  rw [setType_eq, position?_eq_none_iff.2 absent]

/-- The type that was set last stays. -/
theorem setType_setType (name : String) (first second : TypeExpression)
    (attributes : List Attribute) :
    setType name second (setType name first attributes) = setType name second attributes := by
  induction attributes with
  | nil => simp [setType]
  | cons held rest ih =>
      by_cases equal : held.name = name
      · simp [setType, equal]
      · simp [setType, equal, ih]

/-- The types of two names are set in either order when one of the names is there. -/
theorem setType_comm (different : name ≠ other)
    (present : name ∈ attributes.map Attribute.name ∨ other ∈ attributes.map Attribute.name)
    (first second : TypeExpression) :
    setType other second (setType name first attributes) =
      setType name first (setType other second attributes) := by
  induction attributes with
  | nil => simp at present
  | cons held rest ih =>
      by_cases isName : held.name = name
      · have notOther : held.name ≠ other := fun equal => different (isName.symm.trans equal)
        simp [setType, isName, different]
      · by_cases isOther : held.name = other
        · simp [setType, isOther, different.symm]
        · have inRest : name ∈ rest.map Attribute.name ∨ other ∈ rest.map Attribute.name := by
            simpa [Ne.symm isName, Ne.symm isOther] using present
          simp [setType, isName, isOther, ih inRest]

/-- Where a name would be set depends on the names alone. -/
theorem outcomeOfSet_congr {others : List Attribute}
    (same : others.map Attribute.name = attributes.map Attribute.name) :
    outcomeOfSet name others = outcomeOfSet name attributes := by
  have position (held : List Attribute) :
      position? name held = (held.map Attribute.name).findIdx? fun found => found = name := by
    rw [List.findIdx?_map]
    rfl
  have length : others.length = attributes.length := by simpa using congrArg List.length same
  rw [outcomeOfSet, outcomeOfSet, position, position, same, length]

/-- A name stays where it is, and the end of the attributes stays where it is unless two names
are new. -/
theorem outcomeOfSet_setType
    (present : name ∈ attributes.map Attribute.name ∨ other ∈ attributes.map Attribute.name)
    (type : TypeExpression) :
    outcomeOfSet name (setType other type attributes) = outcomeOfSet name attributes := by
  by_cases held : other ∈ attributes.map Attribute.name
  · exact outcomeOfSet_congr (names_setType_of_mem held)
  · have inside : name ∈ attributes.map Attribute.name := present.resolve_right held
    rw [setType_of_notMem held, outcomeOfSet, outcomeOfSet]
    cases found : position? name attributes with
    | none => exact absurd inside (position?_eq_none_iff.1 found)
    | some index =>
        have kept : position? name (attributes ++ [⟨other, type⟩]) = some index := by
          rw [position?] at found ⊢
          rw [List.findIdx?_append, found]
          rfl
        rw [kept]

end Attribute

namespace Entry

@[simp]
theorem withAttributes_withAttributes (entry : Entry) (first second : List Attribute) :
    (entry.withAttributes first).withAttributes second = entry.withAttributes second := by
  cases entry <;> rfl

end Entry

namespace Edit

variable {first second edit : Edit} {entry : Entry}

/-- The attribute that an edit adds where its name is new. -/
def added (edit : Edit) : Attribute := ⟨edit.field, edit.replacement.typeOver none⟩

/-- An edit of another attribute does not change what an edit stores. -/
theorem newType_edited_of_ne (different : first.field ≠ second.field) (entry : Entry) :
    first.newType (second.edited entry).attributes = first.newType entry.attributes := by
  rw [newType_eq_typeOver, newType_eq_typeOver, attributes_edited,
    Attribute.find?_setType_of_ne _ _ different]

/-- An edit stores the same type again: an argument keeps the kind it was stored with. -/
theorem newType_edited_self (edit : Edit) (entry : Entry) :
    edit.newType (edit.edited entry).attributes = edit.newType entry.attributes := by
  rw [newType_eq_typeOver, attributes_edited, Attribute.find?_setType_self,
    newType_eq_typeOver]
  cases edit.replacement <;> rfl

theorem edited_edited_self (edit : Edit) (entry : Entry) :
    edit.edited (edit.edited entry) = edit.edited entry := by
  rw [edited, newType_edited_self, attributes_edited, Attribute.setType_setType, edited,
    Entry.withAttributes_withAttributes]

theorem edited_comm (different : first.field ≠ second.field)
    (present : first.field ∈ entry.attributes.map Attribute.name ∨
      second.field ∈ entry.attributes.map Attribute.name) :
    second.edited (first.edited entry) = first.edited (second.edited entry) := by
  rw [edited, newType_edited_of_ne different.symm, attributes_edited,
    Attribute.setType_comm different present, ← attributes_edited second,
    ← newType_edited_of_ne different entry]
  simp [edited]

/-- What an edit reports: where it put the attribute, or why it is refused. -/
def outcome (edit : Edit) (held : Option Entry) : Except EntryError EditOutcome :=
  (edit.apply held).map Prod.snd

def verdict (edit : Edit) (held : Option Entry) : Except EntryError Unit :=
  (edit.outcome held).map fun _ => ()

/-- The edit is accepted and its name is new in the entry. -/
def Adds (edit : Edit) (entry : Entry) : Prop :=
  (edit.newType entry.attributes).fault? = none ∧
    edit.field ∉ entry.attributes.map Attribute.name

theorem outcome_of_fault?_eq_none (clean : (edit.newType entry.attributes).fault? = none) :
    edit.outcome (some entry) = .ok (Attribute.outcomeOfSet edit.field entry.attributes) := by
  rw [outcome, apply_of_fault?_eq_none clean]
  rfl

theorem outcome_of_fault?_eq_some {fault : TypeFault}
    (faulty : (edit.newType entry.attributes).fault? = some fault) :
    edit.outcome (some entry) = .error (.rejectedType edit.entry edit.field fault) := by
  rw [outcome, apply_of_fault?_eq_some faulty]
  rfl

/-- The report of an edit depends on the type that it stores and on the place of its name, and
a refusal on the type alone. -/
theorem outcome_congr {other : Entry}
    (sameType : edit.newType other.attributes = edit.newType entry.attributes)
    (samePlace : (edit.newType entry.attributes).fault? = none →
      Attribute.outcomeOfSet edit.field other.attributes =
        Attribute.outcomeOfSet edit.field entry.attributes) :
    edit.outcome (some other) = edit.outcome (some entry) := by
  cases found : (edit.newType entry.attributes).fault? with
  | some fault =>
      have faulty : (edit.newType other.attributes).fault? = some fault := sameType ▸ found
      rw [outcome_of_fault?_eq_some found, outcome_of_fault?_eq_some faulty]
  | none =>
      have clean : (edit.newType other.attributes).fault? = none := sameType ▸ found
      rw [outcome_of_fault?_eq_none found, outcome_of_fault?_eq_none clean, samePlace found]

/-- Whether an edit is accepted depends on the type that it stores alone. -/
theorem verdict_some (edit : Edit) (entry : Entry) :
    edit.verdict (some entry) =
      match (edit.newType entry.attributes).fault? with
      | some fault => .error (.rejectedType edit.entry edit.field fault)
      | none => .ok () := by
  rw [verdict]
  cases found : (edit.newType entry.attributes).fault? with
  | some fault =>
      rw [outcome_of_fault?_eq_some found]
      rfl
  | none =>
      rw [outcome_of_fault?_eq_none found]
      rfl

theorem adds_iff :
    edit.Adds entry ↔ ∃ index, edit.outcome (some entry) = .ok (.appended index) := by
  cases found : (edit.newType entry.attributes).fault? with
  | some fault => simp [Adds, outcome_of_fault?_eq_some found, found]
  | none =>
      rw [outcome_of_fault?_eq_none found, Attribute.outcomeOfSet, Adds,
        ← Attribute.position?_eq_none_iff]
      cases Attribute.position? edit.field entry.attributes <;> simp [found]

/-- Of two accepted edits that do not both add an attribute, one finds its name. -/
theorem mem_names_or_of_not_adds (firstClean : (first.newType entry.attributes).fault? = none)
    (secondClean : (second.newType entry.attributes).fault? = none)
    (apart : ¬ (first.Adds entry ∧ second.Adds entry)) :
    first.field ∈ entry.attributes.map Attribute.name ∨
      second.field ∈ entry.attributes.map Attribute.name := by
  by_contra! absent
  exact apart ⟨⟨firstClean, absent.1⟩, secondClean, absent.2⟩

/-- New attributes come in the order of their edits. -/
theorem edited_edited_of_adds (different : first.field ≠ second.field)
    (firstAdds : first.Adds entry) (secondAdds : second.Adds entry) :
    second.edited (first.edited entry) =
      entry.withAttributes (entry.attributes ++ [first.added, second.added]) := by
  have firstType : first.newType entry.attributes = first.replacement.typeOver none := by
    rw [newType_eq_typeOver, Attribute.find?_eq_none_iff.2 firstAdds.2]
  have secondType : second.newType entry.attributes = second.replacement.typeOver none := by
    rw [newType_eq_typeOver, Attribute.find?_eq_none_iff.2 secondAdds.2]
  have firstAttributes : (first.edited entry).attributes = entry.attributes ++ [first.added] := by
    rw [attributes_edited, Attribute.setType_of_notMem firstAdds.2, firstType, added]
  have secondNew : second.field ∉ (first.edited entry).attributes.map Attribute.name := by
    simpa [firstAttributes, added, different.symm] using secondAdds.2
  rw [edited, newType_edited_of_ne different.symm, Attribute.setType_of_notMem secondNew,
    firstAttributes, secondType, List.append_assoc]
  exact Entry.withAttributes_withAttributes _ _ _

end Edit

namespace Entry

variable {first second edit : Edit} {entry : Entry}

theorem afterEdit_of_fault?_eq_none (clean : (edit.newType entry.attributes).fault? = none) :
    entry.afterEdit edit = edit.edited entry := by
  rw [afterEdit, Edit.apply_of_fault?_eq_none clean]

theorem afterEdit_of_fault?_eq_some {fault : TypeFault}
    (faulty : (edit.newType entry.attributes).fault? = some fault) :
    entry.afterEdit edit = entry := by
  rw [afterEdit, Edit.apply_of_fault?_eq_some faulty]

/-- An edit is refused and leaves an entry as it is, or is accepted. -/
theorem afterEdit_cases (entry : Entry) (edit : Edit) :
    (∃ fault, (edit.newType entry.attributes).fault? = some fault ∧
        entry.afterEdit edit = entry) ∨
      (edit.newType entry.attributes).fault? = none ∧ entry.afterEdit edit = edit.edited entry := by
  cases found : (edit.newType entry.attributes).fault? with
  | some fault => exact .inl ⟨fault, rfl, afterEdit_of_fault?_eq_some found⟩
  | none => exact .inr ⟨rfl, afterEdit_of_fault?_eq_none found⟩

@[simp]
theorem shape_afterEdit (entry : Entry) (edit : Edit) :
    (entry.afterEdit edit).shape = entry.shape := by
  rcases entry.afterEdit_cases edit with ⟨fault, -, same⟩ | ⟨-, same⟩
  · rw [same]
  · rw [same, Edit.shape_edited]

/-- An edit of another attribute does not change what an edit stores, so it does not decide
whether the edit is accepted. -/
theorem newType_afterEdit_of_ne (different : first.field ≠ second.field) (entry : Entry) :
    first.newType (entry.afterEdit second).attributes = first.newType entry.attributes := by
  rcases entry.afterEdit_cases second with ⟨fault, -, same⟩ | ⟨-, same⟩
  · rw [same]
  · rw [same, Edit.newType_edited_of_ne different]

theorem verdict_afterEdit_of_ne (different : first.field ≠ second.field) (entry : Entry) :
    first.verdict (some (entry.afterEdit second)) = first.verdict (some entry) := by
  rw [Edit.verdict_some, Edit.verdict_some, newType_afterEdit_of_ne different entry]

/-- The place of an attribute is the same after another edit, unless both edits add one. -/
theorem outcome_afterEdit_of_ne (different : first.field ≠ second.field)
    (apart : ¬ (first.Adds entry ∧ second.Adds entry)) :
    first.outcome (some (entry.afterEdit second)) = first.outcome (some entry) := by
  refine Edit.outcome_congr (newType_afterEdit_of_ne different entry) fun firstClean => ?_
  rcases entry.afterEdit_cases second with ⟨fault, -, kept⟩ | ⟨secondClean, edited⟩
  · rw [kept]
  · have present := Edit.mem_names_or_of_not_adds firstClean secondClean apart
    rw [edited, Edit.attributes_edited, Attribute.outcomeOfSet_setType present]

theorem afterEdit_comm (different : first.field ≠ second.field)
    (apart : ¬ (first.Adds entry ∧ second.Adds entry)) :
    (entry.afterEdit first).afterEdit second = (entry.afterEdit second).afterEdit first := by
  have firstSame := newType_afterEdit_of_ne different entry
  have secondSame := newType_afterEdit_of_ne different.symm entry
  rcases entry.afterEdit_cases first with ⟨fault, faulty, kept⟩ | ⟨firstClean, firstEdited⟩
  · have refused := afterEdit_of_fault?_eq_some (firstSame ▸ faulty)
    rw [kept, refused]
  · rcases entry.afterEdit_cases second with ⟨fault, faulty, kept⟩ | ⟨secondClean, secondEdited⟩
    · have refused := afterEdit_of_fault?_eq_some (secondSame ▸ faulty)
      rw [kept, refused]
    · have present := Edit.mem_names_or_of_not_adds firstClean secondClean apart
      have firstLater := afterEdit_of_fault?_eq_none (firstSame ▸ firstClean)
      have secondLater := afterEdit_of_fault?_eq_none (secondSame ▸ secondClean)
      rw [firstLater, secondLater, firstEdited, secondEdited, Edit.edited_comm different present]

theorem afterEdit_afterEdit_of_adds (different : first.field ≠ second.field)
    (firstAdds : first.Adds entry) (secondAdds : second.Adds entry) :
    (entry.afterEdit first).afterEdit second =
      entry.withAttributes (entry.attributes ++ [first.added, second.added]) := by
  have secondSame := newType_afterEdit_of_ne different.symm entry
  have secondLater := afterEdit_of_fault?_eq_none (secondSame ▸ secondAdds.1)
  rw [secondLater, afterEdit_of_fault?_eq_none firstAdds.1,
    Edit.edited_edited_of_adds different firstAdds secondAdds]

/-- An edit that is made again changes nothing and is refused again, or updates the attribute
at the place that it reported. -/
theorem afterEdit_afterEdit_self (entry : Entry) (edit : Edit) :
    (entry.afterEdit edit).afterEdit edit = entry.afterEdit edit ∧
      edit.outcome (some (entry.afterEdit edit)) =
        (edit.outcome (some entry)).map fun outcome => .updated outcome.index := by
  rcases entry.afterEdit_cases edit with ⟨fault, faulty, kept⟩ | ⟨clean, edited⟩
  · rw [kept, kept, Edit.outcome_of_fault?_eq_some faulty]
    exact ⟨rfl, rfl⟩
  · have again : (edit.newType (edit.edited entry).attributes).fault? = none := by
      rw [Edit.newType_edited_self, clean]
    rw [edited, afterEdit_of_fault?_eq_none again, Edit.edited_edited_self]
    refine ⟨rfl, ?_⟩
    rw [Edit.outcome_of_fault?_eq_none again, Edit.outcome_of_fault?_eq_none clean,
      Edit.attributes_edited, Attribute.outcomeOfSet, Attribute.position?_setType]
    rfl

end Entry

end AstGrammar
