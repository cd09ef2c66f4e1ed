import AstGrammar.Proofs.AttributeList

/-!
# Hinted attributes first, with repeated names

Names may be repeated in the attributes and in the hints.  Each hint takes the first attribute
with its name that no earlier hint took, and is unknown when there is none left.  So the taken
attributes and the unknown hints share the list of hints between them, the attributes of one
name are taken and left in their order, and a name is unknown as often as it is hinted more
often than it occurs.  The arranged attributes are taken in the same way again.
-/

namespace AstGrammar

/-- The items of a list are divided into two lists, both in the order of the whole. -/
inductive IsDivided {α : Type} : List α → List α → List α → Prop
  | nil : IsDivided [] [] []
  | first {item : α} {whole first second : List α} (rest : IsDivided whole first second) :
      IsDivided (item :: whole) (item :: first) second
  | second {item : α} {whole first second : List α} (rest : IsDivided whole first second) :
      IsDivided (item :: whole) first (item :: second)

namespace Attribute

variable {name : String} {attributes others : List Attribute} {field : Attribute}

theorem take?_eq_none_iff :
    take? name attributes = none ↔ name ∉ attributes.map Attribute.name := by
  induction attributes with
  | nil => simp [take?]
  | cons first rest ih =>
      rw [take?]
      by_cases equal : first.name = name
      · simp [equal]
      · simp [equal, Ne.symm equal, ih]

/-- The attribute that is taken out is the first one with the name, and the others keep their
order. -/
theorem take?_eq_some_iff :
    take? name attributes = some (field, others) ↔
      ∃ front back, attributes = front ++ field :: back ∧ field.name = name ∧
        name ∉ front.map Attribute.name ∧ others = front ++ back := by
  constructor
  · intro taken
    induction attributes generalizing others with
    | nil => cases taken
    | cons first rest ih =>
        rw [take?] at taken
        split at taken
        · next equal =>
            cases taken
            exact ⟨[], rest, rfl, equal, List.not_mem_nil, rfl⟩
        · next different =>
            obtain ⟨⟨found, left⟩, takenRest, equal⟩ := Option.map_eq_some_iff.1 taken
            cases equal
            obtain ⟨front, back, rfl, named, absent, rfl⟩ := ih takenRest
            refine ⟨first :: front, back, rfl, named, ?_, rfl⟩
            simpa [Ne.symm different] using absent
  · rintro ⟨front, back, rfl, named, absent, rfl⟩
    induction front with
    | nil => simp [take?, named]
    | cons first front ih =>
        rw [List.map_cons, List.mem_cons, not_or] at absent
        rw [List.cons_append, take?, if_neg (Ne.symm absent.1), ih absent.2]
        rfl

/-- Taking an attribute out and putting it first keeps the order of each name. -/
theorem filter_name_of_take? (taken : take? name attributes = some (field, others))
    (other : String) :
    (field :: others).filter (fun held => held.name = other) =
      attributes.filter fun held => held.name = other := by
  obtain ⟨front, back, rfl, named, absent, rfl⟩ := take?_eq_some_iff.1 taken
  by_cases same : name = other
  · have none : front.filter (fun held => held.name = other) = [] := by
      rw [List.filter_eq_nil_iff]
      intro held member
      have : held.name ≠ other := fun equal =>
        absent (same.trans equal.symm ▸ List.mem_map_of_mem member)
      simpa using this
    simp [List.filter_append, none, named.trans same]
  · have different : field.name ≠ other := fun equal => same (named.symm.trans equal)
    simp [List.filter_append, different]

section Steps

variable {hint : String} {hints : List String}

/-- A hint that finds no attribute is unknown. -/
theorem reorder_cons_of_take?_eq_none (absent : take? hint attributes = none) :
    reorder (hint :: hints) attributes =
      ⟨(reorder hints attributes).attributes, hint :: (reorder hints attributes).unknown⟩ := by
  rw [reorder, absent]

/-- A hint that finds an attribute puts it in front of what the other hints make of the
others. -/
theorem reorder_cons_of_take?_eq_some (taken : take? hint attributes = some (field, others)) :
    reorder (hint :: hints) attributes =
      ⟨field :: (reorder hints others).attributes, (reorder hints others).unknown⟩ := by
  rw [reorder, taken]

end Steps

/-- Taken attributes stand in front of the rest, which keeps its order, and they share the
hints with the unknown names. -/
theorem exists_reorder_eq (hints : List String) (attributes : List Attribute) :
    ∃ taken rest, (reorder hints attributes).attributes = taken ++ rest ∧
      IsDivided hints (taken.map Attribute.name) (reorder hints attributes).unknown ∧
      rest.Sublist attributes := by
  induction hints generalizing attributes with
  | nil => exact ⟨[], attributes, rfl, .nil, .refl _⟩
  | cons hint hints ih =>
      cases found : take? hint attributes with
      | none =>
          rw [reorder_cons_of_take?_eq_none found]
          obtain ⟨taken, rest, equal, divided, sublist⟩ := ih attributes
          exact ⟨taken, rest, equal, .second divided, sublist⟩
      | some result =>
          obtain ⟨field, others⟩ := result
          rw [reorder_cons_of_take?_eq_some found]
          obtain ⟨front, back, rfl, rfl, -, rfl⟩ := take?_eq_some_iff.1 found
          obtain ⟨taken, rest, equal, divided, sublist⟩ := ih (front ++ back)
          have kept := (List.sublist_cons_self field back).append_left front
          refine ⟨field :: taken, rest, ?_, .first divided, sublist.trans kept⟩
          rw [List.cons_append, ← equal]

/-- Attributes of one name keep their order. -/
theorem filter_name_reorder (hints : List String) (attributes : List Attribute) (name : String) :
    (reorder hints attributes).attributes.filter (fun field => field.name = name) =
      attributes.filter fun field => field.name = name := by
  induction hints generalizing attributes with
  | nil => rfl
  | cons hint hints ih =>
      cases found : take? hint attributes with
      | none =>
          rw [reorder_cons_of_take?_eq_none found]
          exact ih attributes
      | some result =>
          obtain ⟨field, others⟩ := result
          rw [reorder_cons_of_take?_eq_some found]
          calc
            _ = (field :: others).filter (fun held => held.name = name) := by
              rw [List.filter_cons, List.filter_cons, ih others]
            _ = _ := filter_name_of_take? found name

/-- A name is unknown as often as it is hinted more often than it occurs. -/
theorem count_unknown_reorder (hints : List String) (attributes : List Attribute)
    (name : String) :
    (reorder hints attributes).unknown.count name =
      hints.count name - (attributes.map Attribute.name).count name := by
  induction hints generalizing attributes with
  | nil => simp [reorder]
  | cons hint hints ih =>
      cases found : take? hint attributes with
      | none =>
          have absent : (attributes.map Attribute.name).count hint = 0 :=
            List.count_eq_zero_of_not_mem (take?_eq_none_iff.1 found)
          rw [reorder_cons_of_take?_eq_none found, List.count_cons, List.count_cons,
            ih attributes]
          by_cases same : hint = name
          · subst same
            simp [absent]
          · simp [same]
      | some result =>
          obtain ⟨field, others⟩ := result
          obtain ⟨_, _, _, named, _⟩ := take?_eq_some_iff.1 found
          have counted : (attributes.map Attribute.name).count name =
              (hint :: others.map Attribute.name).count name := by
            rw [← named, ← List.map_cons]
            exact ((perm_of_take? found).map Attribute.name).symm.count_eq name
          rw [reorder_cons_of_take?_eq_some found, ih others, counted, List.count_cons,
            List.count_cons]
          omega

/-- The arranged attributes are taken in the same way again. -/
theorem reorder_reorder (hints : List String) (attributes : List Attribute) :
    reorder hints (reorder hints attributes).attributes = reorder hints attributes := by
  induction hints generalizing attributes with
  | nil => rfl
  | cons hint hints ih =>
      cases found : take? hint attributes with
      | none =>
          have names := (reorder_perm hints attributes).map Attribute.name
          have again : take? hint (reorder hints attributes).attributes = none :=
            take?_eq_none_iff.2 (mt names.mem_iff.1 (take?_eq_none_iff.1 found))
          rw [reorder_cons_of_take?_eq_none found, reorder_cons_of_take?_eq_none again,
            ih attributes]
      | some result =>
          obtain ⟨field, others⟩ := result
          obtain ⟨_, _, _, named, _⟩ := take?_eq_some_iff.1 found
          have again : take? hint (field :: (reorder hints others).attributes) =
              some (field, (reorder hints others).attributes) := by
            rw [take?, if_pos named]
          rw [reorder_cons_of_take?_eq_some found, reorder_cons_of_take?_eq_some again, ih others]

end Attribute

namespace Node

/-- Reordering takes attributes out in the order of the hints and puts them in front of the
others.  Taken and unknown names share the hints between them, no attribute is lost or added,
attributes of one name keep their order and so does the rest, the unknown names are those that
are hinted too often, and the node is the same otherwise.  Doing it again changes nothing. -/
theorem reorder_divides_hints (node : Node) (hints : List String) :
    (∃ taken rest, (node.reorder hints).attributes = taken ++ rest ∧
      IsDivided hints (taken.map Attribute.name) (node.unknownHints hints) ∧
      rest.Sublist node.attributes) ∧
    (node.reorder hints).attributes.Perm node.attributes ∧
    (∀ name, (node.reorder hints).attributes.filter (fun field => field.name = name) =
      node.attributes.filter fun field => field.name = name) ∧
    (∀ name, (node.unknownHints hints).count name =
      hints.count name - (node.attributes.map Attribute.name).count name) ∧
    (node.reorder hints).parents = node.parents ∧
    (node.reorder hints).children = node.children ∧
    (node.reorder hints).reorder hints = node.reorder hints ∧
    (node.reorder hints).unknownHints hints = node.unknownHints hints := by
  have again := Attribute.reorder_reorder hints node.attributes
  refine ⟨Attribute.exists_reorder_eq hints node.attributes,
    Attribute.reorder_perm hints node.attributes,
    Attribute.filter_name_reorder hints node.attributes,
    Attribute.count_unknown_reorder hints node.attributes, rfl, rfl, ?_, ?_⟩
  · simp only [reorder, again]
  · simp only [unknownHints, reorder, again]

end Node

end AstGrammar
