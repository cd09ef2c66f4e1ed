import Mathlib.Data.List.Induction
import AstGrammar.Edit

/-!
# Lists of attributes

How setting a type, moving hinted attributes to the front and searching for a
repeated name act on the names in a list of attributes and on the attribute
that is found under a name.
-/

namespace AstGrammar

/-- Where no key is repeated, every item is found under its key. -/
theorem find?_key_of_mem {α : Type} (key : α → String) {items : List α} {item : α}
    (nodup : (items.map key).Nodup) (member : item ∈ items) :
    items.find? (fun other => key other = key item) = some item := by
  induction items with
  | nil => simp at member
  | cons first rest ih =>
      rw [List.map_cons, List.nodup_cons] at nodup
      rw [List.find?_cons]
      rcases List.mem_cons.1 member with rfl | later
      · simp
      · have different : key first ≠ key item := by
          intro equal
          apply nodup.1
          rw [equal]
          exact List.mem_map_of_mem later
        simp only [different, decide_false]
        exact ih nodup.2 later

namespace Attribute

variable {name other : String} {type : TypeExpression} {attributes : List Attribute}

theorem mem_of_find? {field : Attribute} (found : find? name attributes = some field) :
    field ∈ attributes ∧ field.name = name := by
  refine ⟨List.mem_of_find?_eq_some found, ?_⟩
  simpa using List.find?_some found

theorem find?_eq_none_iff :
    find? name attributes = none ↔ name ∉ attributes.map Attribute.name := by
  simp [find?]

/-- Where no name is repeated, every attribute is found under its name. -/
theorem find?_of_mem {field : Attribute} (nodup : (attributes.map Attribute.name).Nodup)
    (member : field ∈ attributes) : find? field.name attributes = some field :=
  find?_key_of_mem Attribute.name nodup member

theorem position?_eq_none_iff :
    position? name attributes = none ↔ name ∉ attributes.map Attribute.name := by
  simp only [position?, List.findIdx?_eq_none_iff, decide_eq_false_iff_not, List.mem_map,
    not_exists, not_and]

/-- The position of a name holds an attribute with the name, and none stands
in front of it. -/
theorem position?_eq_some_iff {index : Nat} :
    position? name attributes = some index ↔
      (attributes.map Attribute.name)[index]? = some name ∧
        ∀ earlier < index, (attributes.map Attribute.name)[earlier]? ≠ some name := by
  rw [position?, List.findIdx?_eq_some_iff_getElem]
  constructor
  · rintro ⟨bound, found, before⟩
    refine ⟨by simpa [bound] using found, ?_⟩
    intro earlier inFront
    have := before earlier inFront
    simpa [Nat.lt_trans inFront bound] using this
  · rintro ⟨found, before⟩
    obtain ⟨bound, equal⟩ := List.getElem?_eq_some_iff.1 found
    rw [List.length_map] at bound
    refine ⟨bound, by simpa using equal, ?_⟩
    intro earlier inFront
    have := before earlier inFront
    simpa [Nat.lt_trans inFront bound] using this

/-- Setting a type changes the attribute at the position of the name, or adds
one at the end. -/
theorem setType_eq (name : String) (type : TypeExpression) (attributes : List Attribute) :
    setType name type attributes =
      match position? name attributes with
      | some index => attributes.set index ⟨name, type⟩
      | none => attributes ++ [⟨name, type⟩] := by
  induction attributes with
  | nil => rfl
  | cons first rest ih =>
      rw [setType, position?, List.findIdx?_cons]
      by_cases equal : first.name = name
      · simp [equal]
      · simp only [equal, if_false, decide_false]
        rw [ih, position?]
        cases rest.findIdx? fun field => decide (field.name = name) <;> rfl

theorem names_setType_of_mem (present : name ∈ attributes.map Attribute.name) :
    (setType name type attributes).map Attribute.name = attributes.map Attribute.name := by
  rw [setType_eq]
  cases found : position? name attributes with
  | none => exact absurd present (position?_eq_none_iff.1 found)
  | some index =>
      have held := (position?_eq_some_iff.1 found).1
      obtain ⟨bound, equal⟩ := List.getElem?_eq_some_iff.1 held
      simp only [List.map_set]
      rw [← equal, List.set_getElem_self]

theorem names_setType_of_notMem (absent : name ∉ attributes.map Attribute.name) :
    (setType name type attributes).map Attribute.name =
      attributes.map Attribute.name ++ [name] := by
  rw [setType_eq, position?_eq_none_iff.2 absent]
  simp

theorem nodup_names_setType (nodup : (attributes.map Attribute.name).Nodup) :
    ((setType name type attributes).map Attribute.name).Nodup := by
  by_cases present : name ∈ attributes.map Attribute.name
  · rw [names_setType_of_mem present]
    exact nodup
  · rw [names_setType_of_notMem present, List.nodup_append]
    refine ⟨nodup, by simp, ?_⟩
    intro held heldMember added addedMember
    rw [List.mem_singleton.1 addedMember]
    exact fun equal => present (equal ▸ heldMember)

theorem mem_setType {field : Attribute} (member : field ∈ setType name type attributes) :
    field ∈ attributes ∨ field = ⟨name, type⟩ := by
  rw [setType_eq] at member
  cases found : position? name attributes with
  | none => simpa [found] using member
  | some index =>
      rw [found] at member
      exact List.mem_or_eq_of_mem_set member

/-- The names are distinct and no type has a fault. -/
structure AreValid (attributes : List Attribute) : Prop where
  names_nodup : (attributes.map Attribute.name).Nodup
  types_pass : ∀ field ∈ attributes, field.type.check = .ok ()

/-- Setting a type without faults keeps attributes valid. -/
theorem AreValid.setType (valid : AreValid attributes) (name : String)
    (clean : type.fault? = none) : AreValid (setType name type attributes) where
  names_nodup := nodup_names_setType valid.names_nodup
  types_pass := by
    intro field member
    rcases mem_setType member with held | stored
    · exact valid.types_pass field held
    · rw [stored]
      exact (TypeExpression.check_eq_ok_iff _).2 clean

theorem find?_setType_self (name : String) (type : TypeExpression)
    (attributes : List Attribute) :
    find? name (setType name type attributes) = some ⟨name, type⟩ := by
  induction attributes with
  | nil => simp [find?, setType]
  | cons first rest ih =>
      rw [setType]
      by_cases equal : first.name = name
      · simp [find?, equal]
      · simp only [equal, if_false]
        rw [find?, List.find?_cons]
        simp only [equal, decide_false]
        exact ih

theorem find?_setType_of_ne (type : TypeExpression) (attributes : List Attribute)
    (different : other ≠ name) :
    find? other (setType name type attributes) = find? other attributes := by
  induction attributes with
  | nil => simp [find?, setType, different.symm]
  | cons first rest ih =>
      rw [setType]
      by_cases equal : first.name = name
      · simp [find?, equal, different.symm]
      · simp only [equal, if_false]
        rw [find?, find?, List.find?_cons, List.find?_cons]
        cases decide (first.name = other)
        · exact ih
        · rfl

theorem repeatedAfter?_eq_none_iff (seen : List String) :
    repeatedAfter? seen attributes = none ↔
      (attributes.map Attribute.name).Nodup ∧
        ∀ name ∈ attributes.map Attribute.name, name ∉ seen := by
  induction attributes generalizing seen with
  | nil => simp [repeatedAfter?]
  | cons first rest ih =>
      rw [repeatedAfter?, List.map_cons, List.nodup_cons]
      by_cases held : first.name ∈ seen
      · simp [held]
      · simp only [held, if_false, ih, List.mem_cons, not_or]
        constructor
        · rintro ⟨nodup, free⟩
          refine ⟨⟨fun again => (free first.name again).1 rfl, nodup⟩, ?_⟩
          rintro name (equal | later)
          · rw [equal]
            exact held
          · exact (free name later).2
        · rintro ⟨⟨fresh, nodup⟩, free⟩
          refine ⟨nodup, fun name later => ⟨?_, free name (Or.inr later)⟩⟩
          exact fun equal => fresh (equal ▸ later)

theorem repeated?_eq_none_iff :
    repeated? attributes = none ↔ (attributes.map Attribute.name).Nodup := by
  rw [repeated?, repeatedAfter?_eq_none_iff]
  simp

theorem repeatedAfter?_append (seen : List String) (front back : List Attribute) :
    repeatedAfter? seen (front ++ back) =
      (repeatedAfter? seen front).or
        (repeatedAfter? ((front.map Attribute.name).reverse ++ seen) back) := by
  induction front generalizing seen with
  | nil => rfl
  | cons first rest ih =>
      rw [List.cons_append, repeatedAfter?, repeatedAfter?]
      split
      · rfl
      · rw [ih]
        simp

/-- The name of an attribute stands in front of it, and no name does so before. -/
def IsFirstRepeated (name : String) (attributes : List Attribute) : Prop :=
  ∃ front field back, attributes = front ++ field :: back ∧ field.name = name ∧
    name ∈ front.map Attribute.name ∧ (front.map Attribute.name).Nodup

theorem repeated?_eq_some_iff :
    repeated? attributes = some name ↔ IsFirstRepeated name attributes := by
  constructor
  · intro found
    induction attributes using List.reverseRecOn with
    | nil => cases found
    | append_singleton front last ih =>
        rw [repeated?, repeatedAfter?_append, Option.or_eq_some_iff] at found
        rcases found with inFront | ⟨nodup, atLast⟩
        · obtain ⟨start, field, back, rfl, rest⟩ := ih inFront
          exact ⟨start, field, back ++ [last], by simp, rest⟩
        · rw [repeatedAfter?] at atLast
          split at atLast
          · next held =>
              obtain rfl := Option.some.inj atLast
              exact ⟨front, last, [], rfl, rfl, by simpa using held,
                repeated?_eq_none_iff.1 nodup⟩
          · cases atLast
  · rintro ⟨front, field, back, rfl, rfl, held, nodup⟩
    have clean : repeatedAfter? [] front = none := repeated?_eq_none_iff.2 nodup
    have again : field.name ∈ (front.map Attribute.name).reverse ++ [] := by simpa using held
    rw [repeated?, repeatedAfter?_append, clean, Option.none_or, repeatedAfter?, if_pos again]

end Attribute

end AstGrammar
