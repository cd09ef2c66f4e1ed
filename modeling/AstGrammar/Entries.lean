/-!
# Entries by name

A list of values with names. Setting the value under a name keeps its place
when the name is there and adds it at the end when it is not.
-/

namespace AstGrammar.Entries

variable {α : Type}

/-- Sets the value under a name: in its place when the name is there, else at
the end. -/
def set (name : String) (value : α) : List (String × α) → List (String × α)
  | [] => [(name, value)]
  | (other, held) :: rest =>
      if other = name then (other, value) :: rest
      else (other, held) :: set name value rest

theorem mem_names_set {name other : String} {value : α} {entries : List (String × α)}
    (member : other ∈ (set name value entries).map Prod.fst) :
    other = name ∨ other ∈ entries.map Prod.fst := by
  induction entries with
  | nil => exact Or.inl (by simpa [set] using member)
  | cons first rest ih =>
      obtain ⟨held, kept⟩ := first
      simp only [set] at member
      split at member
      · exact Or.inr (by simpa using member)
      · simp only [List.map_cons, List.mem_cons] at member ⊢
        rcases member with equal | later
        · exact Or.inr (Or.inl equal)
        · rcases ih later with equal | earlier
          · exact Or.inl equal
          · exact Or.inr (Or.inr earlier)

theorem nodup_set {name : String} {value : α} {entries : List (String × α)}
    (nodup : (entries.map Prod.fst).Nodup) :
    ((set name value entries).map Prod.fst).Nodup := by
  induction entries with
  | nil => simp [set]
  | cons first rest ih =>
      obtain ⟨held, kept⟩ := first
      simp only [List.map_cons, List.nodup_cons] at nodup
      simp only [set]
      split
      · simpa using nodup
      · next different =>
          simp only [List.map_cons, List.nodup_cons]
          refine ⟨fun member => ?_, ih nodup.2⟩
          rcases mem_names_set member with equal | earlier
          · exact different equal
          · exact nodup.1 earlier

@[simp] theorem lookup_set_self (name : String) (value : α) (entries : List (String × α)) :
    (set name value entries).lookup name = some value := by
  induction entries with
  | nil => simp [set]
  | cons first rest ih =>
      obtain ⟨held, kept⟩ := first
      simp only [set]
      split
      · next equal => simp [equal]
      · next different =>
          simp only [List.lookup_cons, beq_false_of_ne (Ne.symm different)]
          exact ih

theorem lookup_set_of_ne {name other : String} (value : α) (entries : List (String × α))
    (different : other ≠ name) :
    (set name value entries).lookup other = entries.lookup other := by
  induction entries with
  | nil => simp [set, List.lookup_cons, beq_false_of_ne different]
  | cons first rest ih =>
      obtain ⟨held, kept⟩ := first
      simp only [set]
      split
      · next equal =>
          subst equal
          simp [List.lookup_cons, beq_false_of_ne different]
      · simp only [List.lookup_cons]
        split
        · rfl
        · exact ih

end AstGrammar.Entries
