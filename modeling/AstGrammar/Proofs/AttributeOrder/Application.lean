import Mathlib.Data.List.Basic
import AstGrammar.AttributeOrder.Basic
import AstGrammar.Proofs.Registry

/-!
# Applying an order, section by section

Sections of different nodes do not meet: applying one leaves the nodes of all
others as they are, so each node is reordered by its own section alone and each
section warns about the nodes as they were before.
-/

namespace AstGrammar.AttributeOrder

section Sections

variable {sections : List (String × Section)} {model : GrammarModel}

theorem namedTypes_applySections (sections : List (String × Section)) (model : GrammarModel) :
    (applySections sections model).1.namedTypes = model.namedTypes := by
  induction sections generalizing model with
  | nil => rfl
  | cons first rest ih =>
      obtain ⟨name, held⟩ := first
      exact ih (applySection model name held)

/-- Each node is reordered by its own section. -/
theorem nodes_applySections (distinct : (sections.map Prod.fst).Nodup) (model : GrammarModel) :
    (applySections sections model).1.nodes.entries =
      model.nodes.entries.map fun entry =>
        (entry.1, (sections.lookup entry.1).elim entry.2 fun held =>
          entry.2.reorder held.names) := by
  induction sections generalizing model with
  | nil => simp [applySections]
  | cons first rest ih =>
      obtain ⟨name, held⟩ := first
      obtain ⟨fresh, restDistinct⟩ := List.nodup_cons.1 distinct
      change (applySections rest (applySection model name held)).1.nodes.entries = _
      rw [ih restDistinct, applySection, Registry.entries_modify, List.map_map]
      apply List.map_congr_left
      intro entry _
      simp only [Function.comp_apply, List.lookup_cons]
      by_cases own : entry.1 = name
      · simp [own, Entries.lookup_eq_none_iff.2 fresh]
      · simp [own, beq_false_of_ne own]

/-- Each section warns about the model as it was before all of them. -/
theorem warnings_applySections (distinct : (sections.map Prod.fst).Nodup)
    (model : GrammarModel) :
    (applySections sections model).2 =
      sections.flatMap fun entry => sectionWarnings model entry.1 entry.2 := by
  induction sections generalizing model with
  | nil => rfl
  | cons first rest ih =>
      obtain ⟨name, held⟩ := first
      obtain ⟨fresh, restDistinct⟩ := List.nodup_cons.1 distinct
      have unmoved : ∀ entry ∈ rest,
          sectionWarnings (applySection model name held) entry.1 entry.2 =
            sectionWarnings model entry.1 entry.2 := by
        intro entry member
        have different : entry.1 ≠ name := by
          intro equal
          exact fresh (List.mem_map.2 ⟨entry, member, equal⟩)
        rw [sectionWarnings, sectionWarnings, GrammarModel.node?, GrammarModel.node?,
          applySection, Registry.find?_modify_of_ne different]
      change sectionWarnings model name held ++
        (applySections rest (applySection model name held)).2 = _
      rw [ih restDistinct, List.flatMap_congr unmoved, List.flatMap_cons]

end Sections

end AstGrammar.AttributeOrder
