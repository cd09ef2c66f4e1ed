import AstGrammar.Registry

/-!
# Entries of a registry

Entering a value under a new name adds it at the end.  Looking a name up and
being an entry say the same, because the names are distinct.
-/

namespace AstGrammar

variable {α : Type} {name : String} {value : α}

namespace Entries

theorem set_append_of_notMem {entries rest : List (String × α)}
    (fresh : name ∉ entries.map Prod.fst) :
    set name value (entries ++ rest) = entries ++ set name value rest := by
  induction entries with
  | nil => rfl
  | cons first others ih =>
      obtain ⟨held, kept⟩ := first
      simp only [List.map_cons, List.mem_cons, not_or] at fresh
      rw [List.cons_append, set, if_neg (Ne.symm fresh.1), ih fresh.2, List.cons_append]

theorem set_of_notMem {entries : List (String × α)} (fresh : name ∉ entries.map Prod.fst) :
    set name value entries = entries ++ [(name, value)] := by
  have appended : set name value (entries ++ []) = entries ++ set name value [] :=
    set_append_of_notMem fresh
  rwa [List.append_nil] at appended

theorem mem_set {entries : List (String × α)} {entry : String × α}
    (member : entry ∈ set name value entries) : entry ∈ entries ∨ entry = (name, value) := by
  induction entries with
  | nil => exact Or.inr (by simpa [set] using member)
  | cons first rest ih =>
      obtain ⟨held, kept⟩ := first
      rw [set] at member
      by_cases equal : held = name
      · rw [if_pos equal, List.mem_cons] at member
        rcases member with here | later
        · exact Or.inr (by rw [here, equal])
        · exact Or.inl (List.mem_cons_of_mem _ later)
      · rw [if_neg equal, List.mem_cons] at member
        rcases member with here | later
        · exact Or.inl (here ▸ List.mem_cons_self)
        · exact (ih later).imp (List.mem_cons_of_mem _) id

theorem mem_of_lookup {entries : List (String × α)} (found : entries.lookup name = some value) :
    (name, value) ∈ entries := by
  induction entries with
  | nil => simp at found
  | cons first rest ih =>
      obtain ⟨held, kept⟩ := first
      rw [List.lookup_cons] at found
      by_cases equal : name = held
      · simp only [equal, BEq.rfl, Option.some.injEq] at found
        rw [equal, found]
        exact List.mem_cons_self
      · rw [beq_false_of_ne equal] at found
        exact List.mem_cons_of_mem _ (ih found)

/-- Under distinct names, every value is found under its name. -/
theorem lookup_of_mem {entries : List (String × α)} (nodup : (entries.map Prod.fst).Nodup)
    (member : (name, value) ∈ entries) : entries.lookup name = some value := by
  induction entries with
  | nil => simp at member
  | cons first rest ih =>
      obtain ⟨held, kept⟩ := first
      rw [List.map_cons, List.nodup_cons] at nodup
      rw [List.lookup_cons]
      rcases List.mem_cons.1 member with here | later
      · cases here
        simp
      · have different : name ≠ held := by
          intro equal
          apply nodup.1
          rw [← equal]
          exact List.mem_map.2 ⟨(name, value), later, rfl⟩
        rw [beq_false_of_ne different]
        exact ih nodup.2 later

theorem lookup_eq_none_iff {entries : List (String × α)} :
    entries.lookup name = none ↔ name ∉ entries.map Prod.fst := by
  simp only [List.lookup_eq_none_iff, bne_iff_ne, List.mem_map, not_exists, not_and]
  exact forall₂_congr fun entry _ => ⟨Ne.symm, Ne.symm⟩

/-- Changing values in place changes what is found under each name. -/
theorem lookup_map_values {β : Type} (change : String → α → β) (entries : List (String × α)) :
    (entries.map fun entry => (entry.1, change entry.1 entry.2)).lookup name =
      (entries.lookup name).map (change name) := by
  induction entries with
  | nil => rfl
  | cons first rest ih =>
      obtain ⟨held, kept⟩ := first
      rw [List.map_cons, List.lookup_cons, List.lookup_cons]
      by_cases equal : name = held
      · simp [equal]
      · simp only [beq_false_of_ne equal]
        exact ih

end Entries

namespace Registry

theorem eq_of_entries_eq {first second : Registry α} (equal : first.entries = second.entries) :
    first = second := by
  cases first with
  | mk entries nodup =>
      cases equal
      rfl

theorem entries_insert_of_notMem {registry : Registry α} (value : α)
    (fresh : name ∉ registry.names) :
    (registry.insert name value).entries = registry.entries ++ [(name, value)] :=
  Entries.set_of_notMem fresh

/-- Entering a value under the last name puts it in the place of the last one. -/
theorem entries_insert_of_last {registry : Registry α} {earlier : List (String × α)} {held : α}
    (last : registry.entries = earlier ++ [(name, held)]) (value : α) :
    (registry.insert name value).entries = earlier ++ [(name, value)] := by
  have fresh : name ∉ earlier.map Prod.fst := by
    have nodup := registry.nodup
    rw [last, List.map_append, List.nodup_append] at nodup
    intro member
    exact nodup.2.2 name member name (by simp) rfl
  change Entries.set name value registry.entries = earlier ++ [(name, value)]
  rw [last, Entries.set_append_of_notMem fresh, Entries.set, if_pos rfl]

theorem mem_entries_of_find? {registry : Registry α} (found : registry.find? name = some value) :
    (name, value) ∈ registry.entries :=
  Entries.mem_of_lookup found

theorem find?_of_mem_entries {registry : Registry α} (member : (name, value) ∈ registry.entries) :
    registry.find? name = some value :=
  Entries.lookup_of_mem registry.nodup member

theorem find?_eq_none_iff {registry : Registry α} :
    registry.find? name = none ↔ name ∉ registry.names :=
  Entries.lookup_eq_none_iff

theorem entries_modify (registry : Registry α) (name : String) (change : α → α) :
    (registry.modify name change).entries =
      registry.entries.map fun entry =>
        (entry.1, if entry.1 = name then change entry.2 else entry.2) := by
  apply List.map_congr_left
  intro entry _
  split <;> rfl

theorem find?_modify_self (registry : Registry α) (name : String) (change : α → α) :
    (registry.modify name change).find? name = (registry.find? name).map change := by
  rw [find?, entries_modify, Entries.lookup_map_values fun held value =>
    if held = name then change value else value]
  simp [find?]

/-- Changing the value under a name changes nothing under other names. -/
theorem find?_modify_of_ne {registry : Registry α} {change : α → α} {other : String}
    (different : other ≠ name) :
    (registry.modify name change).find? other = registry.find? other := by
  rw [find?, entries_modify, Entries.lookup_map_values fun held value =>
    if held = name then change value else value]
  simp [different, find?]

theorem mem_entries_modify {registry : Registry α} {change : α → α} {entry : String × α}
    (member : entry ∈ (registry.modify name change).entries) :
    entry ∈ registry.entries ∨
      ∃ held, (name, held) ∈ registry.entries ∧ entry = (name, change held) := by
  obtain ⟨source, sourceMember, equal⟩ := List.mem_map.1 member
  by_cases named : source.1 = name
  · rw [if_pos named] at equal
    exact Or.inr ⟨source.2, named ▸ sourceMember, by rw [← equal, named]⟩
  · rw [if_neg named] at equal
    exact Or.inl (equal ▸ sourceMember)

/-- A value that is there is changed in its place, and all other entries stay. -/
theorem exists_entries_modify {registry : Registry α} (found : registry.find? name = some value)
    (change : α → α) :
    ∃ front back, registry.entries = front ++ (name, value) :: back ∧
      (registry.modify name change).entries = front ++ (name, change value) :: back := by
  obtain ⟨front, back, cut⟩ := List.append_of_mem (mem_entries_of_find? found)
  have nodup := registry.nodup
  rw [cut, List.map_append, List.map_cons, List.nodup_append, List.nodup_cons] at nodup
  obtain ⟨-, ⟨notBehind, -⟩, apart⟩ := nodup
  have notInFront : name ∉ front.map Prod.fst :=
    fun member => apart name member name List.mem_cons_self rfl
  have kept (others : List (String × α)) (absent : name ∉ others.map Prod.fst) :
      others.map (fun entry => (entry.1, if entry.1 = name then change entry.2 else entry.2)) =
        others := by
    calc
      _ = others.map id := by
        apply List.map_congr_left
        intro entry member
        have different : entry.1 ≠ name := fun same => absent (same ▸ List.mem_map_of_mem member)
        rw [if_neg different, id]
      _ = others := List.map_id others
  refine ⟨front, back, cut, ?_⟩
  rw [entries_modify, cut, List.map_append, List.map_cons, kept front notInFront,
    kept back notBehind, if_pos rfl]

/-- Of two changes under one name the second one is made to the result of the first. -/
theorem modify_modify_self (registry : Registry α) (name : String) (first second : α → α) :
    (registry.modify name first).modify name second =
      registry.modify name fun value => second (first value) := by
  apply eq_of_entries_eq
  simp only [entries_modify, List.map_map]
  apply List.map_congr_left
  intro entry _
  by_cases named : entry.1 = name <;> simp [named]

/-- Changes under two names are made in either order. -/
theorem modify_comm {registry : Registry α} {first second : α → α} {other : String}
    (different : name ≠ other) :
    (registry.modify name first).modify other second =
      (registry.modify other second).modify name first := by
  apply eq_of_entries_eq
  simp only [entries_modify, List.map_map]
  apply List.map_congr_left
  intro entry _
  by_cases named : entry.1 = name
  · simp [named, different]
  · simp [named]

/-- Putting a value where it is changes nothing. -/
theorem modify_of_find? {registry : Registry α} (found : registry.find? name = some value) :
    (registry.modify name fun _ => value) = registry := by
  obtain ⟨front, back, before, after⟩ := exists_entries_modify found fun _ => value
  exact eq_of_entries_eq (after.trans before.symm)

end Registry

end AstGrammar
