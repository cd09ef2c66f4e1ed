import AstGrammar.Proofs.AttributeOrder.PlacedLine
import AstGrammar.Proofs.AttributeOrder.Sections

/-!
# Reading an order

A text of hints is read exactly when each of its lines spells something and every
line may stand where it does.  The order that is read has the sections which the
lines write, and each name in it is found in the text where its span points.
-/

namespace AstGrammar.AttributeOrder

open Text

/-- The lines that write an order. -/
def lines (order : AttributeOrder) : List Line := sectionLines order.sections.entries

/-- The names of an order, those of its nodes and those of their attributes, in
the order of their places. -/
def hints (order : AttributeOrder) : List Hint := order.lines.filterMap Line.hint?

variable {text : String} {order : AttributeOrder}

theorem parse_eq_ok_iff_collect :
    parse text = .ok order ↔
      ∃ lines, List.Forall₂ PlacedLine.Spells (placedLines text) lines ∧ IsOrderly lines ∧
        order = ⟨(collect lines).sections⟩ := by
  simp only [placedLines, ← readLines_eq_ok_iff, ← problems_collect_eq_nil_iff]
  rw [parse]
  cases readLines 0 text.toList with
  | error unread => simp
  | ok lines =>
      dsimp only
      cases problems : (collect lines).problems with
      | nil =>
          constructor
          · intro equal
            cases equal
            exact ⟨lines, rfl, problems, rfl⟩
          · rintro ⟨_, equal, -, rfl⟩
            cases equal
            rfl
      | cons first rest => simp [problems]

/-- An order that was read, and the lines of its text. -/
theorem exists_lines_of_parse (parsed : parse text = .ok order) :
    ∃ lines, List.Forall₂ PlacedLine.Spells (placedLines text) lines ∧
      order.lines = lines.filter (· ≠ .blank) ∧
      ∀ entry ∈ order.sections.entries, entry.2.names.Nodup := by
  obtain ⟨lines, spelled, orderly, rfl⟩ := parse_eq_ok_iff_collect.1 parsed
  exact ⟨lines, spelled, orderly.collects.lines_eq.symm, orderly.collects.names_nodup⟩

theorem hints_eq_filterMap {lines : List Line} (written : order.lines = lines.filter (· ≠ .blank)) :
    order.hints = lines.filterMap Line.hint? := by
  rw [hints, written, List.filterMap_filter]
  apply List.filterMap_congr
  intro line _
  cases line <;> rfl

/-- No section lists an attribute twice. -/
theorem nodup_names_of_parse (parsed : parse text = .ok order) :
    ∀ entry ∈ order.sections.entries, entry.2.names.Nodup := by
  obtain ⟨_, _, _, nodup⟩ := exists_lines_of_parse parsed
  exact nodup

/-- The names of an order stand in the text one behind the other. -/
theorem pairwise_start_hints (parsed : parse text = .ok order) :
    order.hints.Pairwise fun earlier later => earlier.span.start < later.span.start := by
  obtain ⟨lines, spelled, written, -⟩ := exists_lines_of_parse parsed
  rw [hints_eq_filterMap written]
  exact pairwise_start_of_spells (pairwise_cutLines _ _ _) spelled

/-- Every name of an order is found in the text where its span points. -/
theorem text?_of_mem_hints (parsed : parse text = .ok order) {hint : Hint}
    (member : hint ∈ order.hints) : hint.span.text? text.toList = some hint.name.toList := by
  obtain ⟨lines, spelled, written, -⟩ := exists_lines_of_parse parsed
  rw [hints_eq_filterMap written] at member
  obtain ⟨line, lineMember, given⟩ := List.mem_filterMap.1 member
  obtain ⟨placed, placedMember, spells⟩ := exists_spells_of_mem spelled lineMember
  exact text?_of_spells placedMember spells given

/-- Hints are read exactly when each line spells something and may stand where it
does. Then the sections are those that the lines write, in their order and with
nothing lost, and each name stands in the text where its span points. -/
theorem parse_eq_ok_iff_isOrderly (text : String) :
    ((∃ order, parse text = .ok order) ↔
      ∃ lines, List.Forall₂ PlacedLine.Spells (placedLines text) lines ∧ IsOrderly lines) ∧
    ∀ order, parse text = .ok order →
      (∃ lines, List.Forall₂ PlacedLine.Spells (placedLines text) lines ∧
        order.lines = lines.filter (· ≠ .blank)) ∧
      ∀ hint ∈ order.hints, hint.span.text? text.toList = some hint.name.toList := by
  refine ⟨⟨?_, ?_⟩, ?_⟩
  · rintro ⟨order, parsed⟩
    obtain ⟨lines, spelled, orderly, -⟩ := parse_eq_ok_iff_collect.1 parsed
    exact ⟨lines, spelled, orderly⟩
  · rintro ⟨lines, spelled, orderly⟩
    exact ⟨_, parse_eq_ok_iff_collect.2 ⟨lines, spelled, orderly, rfl⟩⟩
  · intro order parsed
    obtain ⟨lines, spelled, written, -⟩ := exists_lines_of_parse parsed
    exact ⟨⟨lines, spelled, written⟩, fun hint => text?_of_mem_hints parsed⟩

end AstGrammar.AttributeOrder
