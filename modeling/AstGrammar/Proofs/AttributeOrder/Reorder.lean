import Mathlib.Data.List.Basic
import AstGrammar.Proofs.AttributeList

/-!
# Hinted attributes first

Where no name is repeated, in the attributes or in the hints, taking hinted
attributes out one after the other gives them in the order of the hints, and
leaves the others as they were.  The result depends on the names that are looked
up and on the order of the others alone, so reordering again changes nothing.
-/

namespace AstGrammar.Attribute

/-- The hinted attributes in the order of the hints, and then the others in their
own order. -/
def arrange (hints : List String) (attributes : List Attribute) : List Attribute :=
  hints.filterMap (find? · attributes) ++ attributes.filter fun field => field.name ∉ hints

variable {name hint : String} {hints : List String} {attributes others : List Attribute}
  {field : Attribute}

theorem find?_eq_some_iff (nodup : (attributes.map Attribute.name).Nodup) :
    find? name attributes = some field ↔ field ∈ attributes ∧ field.name = name := by
  constructor
  · exact mem_of_find?
  · rintro ⟨member, rfl⟩
    exact find?_of_mem nodup member

/-- Taking an attribute out leaves those with other names. -/
theorem take?_eq_of_nodup (nodup : (attributes.map Attribute.name).Nodup) :
    take? name attributes =
      (find? name attributes).map fun field =>
        (field, attributes.filter fun other => other.name ≠ name) := by
  induction attributes with
  | nil => rfl
  | cons first rest ih =>
      rw [List.map_cons, List.nodup_cons] at nodup
      rw [take?, find?, List.find?_cons, List.filter_cons]
      by_cases equal : first.name = name
      · have untouched : rest.filter (fun other => other.name ≠ name) = rest := by
          rw [List.filter_eq_self]
          intro other member
          have : other.name ≠ name := by
            rintro rfl
            exact nodup.1 (equal ▸ List.mem_map_of_mem member)
          simpa using this
        rw [untouched]
        simp [equal]
      · simp only [equal, if_false, decide_false]
        rw [ih nodup.2, find?]
        cases rest.find? fun field => decide (field.name = name) <;> simp [equal]

theorem find?_filter_of_ne (different : name ≠ hint) :
    find? name (attributes.filter fun other => other.name ≠ hint) = find? name attributes := by
  rw [find?, find?, List.find?_filter]
  congr 1
  funext field
  by_cases equal : field.name = name <;> simp [equal, different]

theorem arrange_cons_of_notMem (absent : hint ∉ attributes.map Attribute.name) :
    arrange (hint :: hints) attributes = arrange hints attributes := by
  have kept : attributes.filter (fun field => field.name ∉ hint :: hints) =
      attributes.filter fun field => field.name ∉ hints := by
    apply List.filter_congr
    intro field member
    have : field.name ≠ hint := by
      rintro rfl
      exact absent (List.mem_map_of_mem member)
    simp [this]
  rw [arrange, arrange, List.filterMap_cons, find?_eq_none_iff.2 absent, kept]

theorem arrange_cons_of_find? (fresh : hint ∉ hints) (found : find? hint attributes = some field) :
    arrange (hint :: hints) attributes =
      field :: arrange hints (attributes.filter fun other => other.name ≠ hint) := by
  have sameFound : hints.filterMap (find? · (attributes.filter fun other => other.name ≠ hint)) =
      hints.filterMap (find? · attributes) := by
    apply List.filterMap_congr
    intro other member
    apply find?_filter_of_ne
    rintro rfl
    exact fresh member
  have sameOthers : (attributes.filter fun other => other.name ≠ hint).filter
        (fun field => field.name ∉ hints) =
      attributes.filter fun field => field.name ∉ hint :: hints := by
    rw [List.filter_filter]
    apply List.filter_congr
    intro field _
    simp [Bool.and_comm]
  rw [arrange, arrange, List.filterMap_cons, found, sameFound, sameOthers, List.cons_append]

/-- Reordering arranges the attributes and finds the hints without an attribute. -/
theorem reorder_eq_of_nodup (hintsNodup : hints.Nodup)
    (nodup : (attributes.map Attribute.name).Nodup) :
    reorder hints attributes =
      ⟨arrange hints attributes,
        hints.filter fun hint => hint ∉ attributes.map Attribute.name⟩ := by
  induction hints generalizing attributes with
  | nil =>
      simp only [reorder, arrange, List.filterMap_nil, List.nil_append, List.filter_nil]
      simp
  | cons hint hints ih =>
      obtain ⟨fresh, restNodup⟩ := List.nodup_cons.1 hintsNodup
      rw [reorder, take?_eq_of_nodup nodup]
      cases found : find? hint attributes with
      | none =>
          have absent := find?_eq_none_iff.1 found
          rw [arrange_cons_of_notMem absent, List.filter_cons_of_pos (by simpa using absent)]
          rw [Option.map_none]
          dsimp only
          rw [ih restNodup nodup]
      | some field =>
          have present : hint ∈ attributes.map Attribute.name := by
            obtain ⟨member, rfl⟩ := mem_of_find? found
            exact List.mem_map_of_mem member
          have othersNodup : ((attributes.filter fun other => other.name ≠ hint).map
              Attribute.name).Nodup :=
            nodup.sublist (List.filter_sublist.map _)
          have sameUnknown : hints.filter (fun other => other ∉
                (attributes.filter fun other => other.name ≠ hint).map Attribute.name) =
              hints.filter fun other => other ∉ attributes.map Attribute.name := by
            apply List.filter_congr
            intro other member
            have different : other ≠ hint := by
              rintro rfl
              exact fresh member
            simp only [← find?_eq_none_iff, find?_filter_of_ne different]
          rw [arrange_cons_of_find? fresh found, List.filter_cons_of_neg (by simpa using present)]
          rw [Option.map_some]
          dsimp only
          rw [ih restNodup othersNodup, sameUnknown]

theorem arrange_perm (hintsNodup : hints.Nodup) (nodup : (attributes.map Attribute.name).Nodup) :
    (arrange hints attributes).Perm attributes := by
  have perm := reorder_perm hints attributes
  rwa [reorder_eq_of_nodup hintsNodup nodup] at perm

theorem find?_of_perm (nodup : (attributes.map Attribute.name).Nodup)
    (perm : others.Perm attributes) : find? name others = find? name attributes := by
  apply Option.ext
  intro field
  have othersNodup : (others.map Attribute.name).Nodup := (perm.map _).nodup_iff.2 nodup
  rw [find?_eq_some_iff nodup, find?_eq_some_iff othersNodup, perm.mem_iff]

/-- Arranged attributes are arranged already. -/
theorem arrange_arrange (hintsNodup : hints.Nodup)
    (nodup : (attributes.map Attribute.name).Nodup) :
    arrange hints (arrange hints attributes) = arrange hints attributes := by
  have sameFound : hints.filterMap (find? · (arrange hints attributes)) =
      hints.filterMap (find? · attributes) :=
    List.filterMap_congr fun name _ => find?_of_perm nodup (arrange_perm hintsNodup nodup)
  have noHinted : (hints.filterMap (find? · attributes)).filter
      (fun field => field.name ∉ hints) = [] := by
    rw [List.filter_eq_nil_iff]
    intro field member
    obtain ⟨hint, hintMember, found⟩ := List.mem_filterMap.1 member
    simpa [(mem_of_find? found).2] using hintMember
  rw [arrange, sameFound]
  simp only [arrange, List.filter_append, noHinted, List.nil_append, List.filter_filter,
    Bool.and_self]

end AstGrammar.Attribute
