import AstGrammar.Entries

/-!
# Registries

A registry keeps values under distinct names, in the order in which the names
were first entered.
-/

namespace AstGrammar

/-- Values under distinct names, in order of entry. -/
structure Registry (α : Type) where
  entries : List (String × α)
  nodup : (entries.map Prod.fst).Nodup

namespace Registry

variable {α : Type}

def empty : Registry α := ⟨[], List.nodup_nil⟩

def names (registry : Registry α) : List String := registry.entries.map Prod.fst

def size (registry : Registry α) : Nat := registry.entries.length

def find? (registry : Registry α) (name : String) : Option α :=
  registry.entries.lookup name

/-- Enters a value under a name, in the place of a value that is there. -/
def insert (registry : Registry α) (name : String) (value : α) : Registry α :=
  ⟨Entries.set name value registry.entries, Entries.nodup_set registry.nodup⟩

/-- The registry with entries inserted one after the other. -/
def ofList (entries : List (String × α)) : Registry α :=
  entries.foldl (fun registry entry => registry.insert entry.1 entry.2) empty

/-- Changes the value under a name, which keeps its place. -/
def modify (registry : Registry α) (name : String) (change : α → α) : Registry α where
  entries := registry.entries.map fun entry =>
    if entry.1 = name then (entry.1, change entry.2) else entry
  nodup := by
    have same : ∀ entry : String × α,
        (if entry.1 = name then (entry.1, change entry.2) else entry).1 = entry.1 := by
      intro entry
      split <;> rfl
    simpa [List.map_map, Function.comp_def, same] using registry.nodup

/-- Two registries hold equal values under the same names, in any order. -/
def isEquivalent [BEq α] (first second : Registry α) : Bool :=
  first.size == second.size &&
    first.entries.all fun entry => second.find? entry.1 == some entry.2

@[simp] theorem find?_empty (name : String) : (empty : Registry α).find? name = none := rfl

@[simp] theorem find?_insert_self (registry : Registry α) (name : String) (value : α) :
    (registry.insert name value).find? name = some value :=
  Entries.lookup_set_self name value registry.entries

/-- Entering a value changes nothing under other names. -/
theorem find?_insert_of_ne (registry : Registry α) {name other : String} (value : α)
    (different : other ≠ name) :
    (registry.insert name value).find? other = registry.find? other :=
  Entries.lookup_set_of_ne value registry.entries different

/-- Changing values keeps the names. -/
@[simp] theorem names_modify (registry : Registry α) (name : String) (change : α → α) :
    (registry.modify name change).names = registry.names := by
  simp only [names, modify, List.map_map]
  apply List.map_congr_left
  intro entry _
  simp only [Function.comp_apply]
  split <;> rfl

end Registry

end AstGrammar
