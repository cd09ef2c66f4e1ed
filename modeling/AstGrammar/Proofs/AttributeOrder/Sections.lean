import Mathlib.Data.List.Induction
import Mathlib.Data.List.Nodup
import AstGrammar.AttributeOrder.Basic
import AstGrammar.Proofs.Registry

/-!
# Sections of lines

A line may stand behind others when its name is new there and, if it is indented,
some section is open.  As long as every line may stand where it does, the sections
collected are those that the lines write, in their order and with nothing lost.
The first line that may not stand where it does is a problem, and problems stay.
-/

namespace AstGrammar.AttributeOrder

/-- The attribute stands behind the last heading of the lines. -/
def InLastSection (lines : List Line) (hint : Hint) : Prop :=
  ∃ above below, lines = above ++ .indented hint :: below ∧
    ∀ heading, .heading heading ∉ below

/-- A line may stand behind the lines in front of it: a section must be new, and
an attribute needs a section and must be new in the last one. -/
def Line.Fits (front : List Line) : Line → Prop
  | .blank => True
  | .heading hint => ∀ other, .heading other ∈ front → other.name ≠ hint.name
  | .indented hint =>
      (∃ heading, .heading heading ∈ front) ∧
        ∀ other, InLastSection front other → other.name ≠ hint.name

/-- Every line may stand where it does. -/
def IsOrderly (lines : List Line) : Prop :=
  ∀ front line back, lines = front ++ line :: back → line.Fits front

/-- The lines that write a section. -/
def Section.lines (name : String) (held : Section) : List Line :=
  .heading ⟨name, held.span⟩ :: held.attributes.map .indented

def sectionLines (sections : List (String × Section)) : List Line :=
  sections.flatMap fun entry => entry.2.lines entry.1

section Lines

variable {sections : List (String × Section)} {name : String} {held : Section}
  {front : List Line} {line : Line} {other : Hint}

theorem sectionLines_append_singleton (sections : List (String × Section)) (name : String)
    (held : Section) :
    sectionLines (sections ++ [(name, held)]) = sectionLines sections ++ held.lines name := by
  simp [sectionLines]

theorem Section.lines_append_attribute (name : String) (held : Section) (hint : Hint) :
    Section.lines name { held with attributes := held.attributes ++ [hint] } =
      held.lines name ++ [.indented hint] := by
  simp [Section.lines]

theorem mem_names_iff_exists_heading :
    name ∈ sections.map Prod.fst ↔
      ∃ hint : Hint, .heading hint ∈ sectionLines sections ∧ hint.name = name := by
  constructor
  · intro member
    obtain ⟨⟨name, held⟩, entryMember, rfl⟩ := List.mem_map.1 member
    exact ⟨⟨name, held.span⟩, List.mem_flatMap.2 ⟨_, entryMember, List.mem_cons_self⟩, rfl⟩
  · rintro ⟨hint, member, rfl⟩
    obtain ⟨⟨name, held⟩, entryMember, lineMember⟩ := List.mem_flatMap.1 member
    rcases List.mem_cons.1 lineMember with opening | listed
    · cases opening
      exact List.mem_map_of_mem entryMember
    · simp at listed

/-- Blank lines do not move attributes to another section. -/
theorem inLastSection_filter_iff :
    InLastSection (front.filter (· ≠ .blank)) other ↔ InLastSection front other := by
  constructor
  · rintro ⟨above, below, equal, last⟩
    obtain ⟨start, rest, rfl, rfl, restEq⟩ := List.filter_eq_append_iff.1 equal
    obtain ⟨blanks, behind, rfl, -, -, rfl⟩ := List.filter_eq_cons_iff.1 restEq
    refine ⟨start ++ blanks, behind, by simp, ?_⟩
    intro heading member
    exact last heading (List.mem_filter.2 ⟨member, by simp⟩)
  · rintro ⟨above, below, rfl, last⟩
    refine ⟨above.filter (· ≠ .blank), below.filter (· ≠ .blank), by simp, ?_⟩
    intro heading member
    exact last heading (List.mem_filter.1 member).1

theorem inLastSection_append_lines_iff :
    InLastSection (front ++ held.lines name) other ↔ other ∈ held.attributes := by
  constructor
  · rintro ⟨above, below, equal, last⟩
    -- The attribute is not in front of the heading, as then the heading is behind it.
    have behindHeading : ∀ between, Line.indented other :: below ≠ between ++ held.lines name := by
      intro between beginning
      rcases List.cons_eq_append_iff.1 beginning with ⟨-, heading⟩ | ⟨rest, -, belowEq⟩
      · cases heading
      · apply last ⟨name, held.span⟩
        rw [belowEq]
        exact List.mem_append_right _ List.mem_cons_self
    rcases List.append_eq_append_iff.1 equal with ⟨between, -, linesEq⟩ | ⟨between, -, belowEq⟩
    · have member : Line.indented other ∈ held.lines name := by
        rw [linesEq]
        exact List.mem_append_right _ List.mem_cons_self
      simpa [Section.lines] using member
    · exact absurd belowEq (behindHeading between)
  · intro member
    obtain ⟨earlier, later, attributesEq⟩ := List.append_of_mem member
    refine ⟨front ++ .heading ⟨name, held.span⟩ :: earlier.map .indented, later.map .indented,
      ?_, by simp⟩
    simp [Section.lines, attributesEq]

theorem isOrderly_append_singleton_iff :
    IsOrderly (front ++ [line]) ↔ IsOrderly front ∧ line.Fits front := by
  constructor
  · intro orderly
    refine ⟨?_, orderly front line [] rfl⟩
    rintro start inner back rfl
    exact orderly start inner (back ++ [line]) (by simp)
  · rintro ⟨orderly, fits⟩ start inner back equal
    rcases List.eq_nil_or_concat back with rfl | ⟨rest, last, rfl⟩
    · obtain ⟨rfl, rfl⟩ := List.append_singleton_inj.1 equal
      exact fits
    · have split : front ++ [line] = (start ++ inner :: rest) ++ [last] := by simpa using equal
      exact orderly start inner rest (List.append_singleton_inj.1 split).1

end Lines

/-- What is collected from lines without a problem: the lines without the blank
ones are those of the sections, and the last section is open. -/
structure Collects (front : List Line) (state : Collecting) : Prop where
  problems_eq : state.problems = []
  lines_eq : front.filter (· ≠ .blank) = sectionLines state.sections.entries
  opened_eq : state.openedSection? = state.sections.entries.getLast?
  names_nodup : ∀ entry ∈ state.sections.entries, entry.2.names.Nodup

theorem Collecting.openedSection?_eq_some_iff {state : Collecting} {node : String}
    {held : Section} :
    state.openedSection? = some (node, held) ↔
      state.opened = some node ∧ state.sections.find? node = some held := by
  simp only [openedSection?, Option.bind_eq_bind, Option.pure_def, Option.bind_eq_some_iff,
    Option.some.injEq, Prod.mk.injEq]
  constructor
  · rintro ⟨name, opened, _, found, rfl, rfl⟩
    exact ⟨opened, found⟩
  · rintro ⟨opened, found⟩
    exact ⟨node, opened, held, found, rfl, rfl⟩

theorem collects_start : Collects [] .start where
  problems_eq := rfl
  lines_eq := rfl
  opened_eq := rfl
  names_nodup := by simp [Collecting.start, Registry.empty]

section Step

variable {front : List Line} {state : Collecting} {line : Line} {hint : Hint} {node : String}
  {held : Section}

theorem Collects.fits_heading_iff (collected : Collects front state) :
    (Line.heading hint).Fits front ↔ state.sections.find? hint.name = none := by
  rw [Registry.find?_eq_none_iff, Registry.names, mem_names_iff_exists_heading,
    ← collected.lines_eq]
  simp [Line.Fits]

theorem Collects.exists_entries_eq (collected : Collects front state)
    (opened : state.openedSection? = some (node, held)) :
    ∃ earlier, state.sections.entries = earlier ++ [(node, held)] := by
  rw [collected.opened_eq] at opened
  exact List.getLast?_eq_some_iff.1 opened

theorem Collects.entries_eq_nil (collected : Collects front state)
    (opened : state.openedSection? = none) : state.sections.entries = [] := by
  rw [collected.opened_eq] at opened
  exact List.getLast?_eq_none_iff.1 opened

theorem Collects.inLastSection_iff (collected : Collects front state)
    (opened : state.openedSection? = some (node, held)) {other : Hint} :
    InLastSection front other ↔ other ∈ held.attributes := by
  obtain ⟨earlier, entries⟩ := collected.exists_entries_eq opened
  rw [← inLastSection_filter_iff, collected.lines_eq, entries, sectionLines_append_singleton,
    inLastSection_append_lines_iff]

theorem Collects.fits_indented_iff (collected : Collects front state) :
    (Line.indented hint).Fits front ↔
      ∃ node held, state.openedSection? = some (node, held) ∧ hint.name ∉ held.names := by
  have mem_front : ∀ {heading}, Line.heading heading ∈ front ↔
      .heading heading ∈ sectionLines state.sections.entries := by
    intro heading
    rw [← collected.lines_eq]
    simp
  cases opened : state.openedSection? with
  | none => simp [Line.Fits, mem_front, collected.entries_eq_nil opened, sectionLines]
  | some entry =>
      obtain ⟨node, held⟩ := entry
      obtain ⟨earlier, entries⟩ := collected.exists_entries_eq opened
      have heads : ∃ heading, Line.heading heading ∈ front := by
        refine ⟨⟨node, held.span⟩, mem_front.2 ?_⟩
        rw [entries, sectionLines_append_singleton]
        exact List.mem_append_right _ List.mem_cons_self
      simp [Line.Fits, heads, collected.inLastSection_iff opened, Section.names]

/-- A new section comes last and is open. -/
theorem Collects.openSection (collected : Collects front state)
    (fits : (Line.heading hint).Fits front) :
    Collects (front ++ [.heading hint]) (state.openSection hint) := by
  have fresh := collected.fits_heading_iff.1 fits
  have entries := Registry.entries_insert_of_notMem (⟨hint.span, []⟩ : Section)
    (Registry.find?_eq_none_iff.1 fresh)
  rw [Collecting.openSection, fresh]
  refine ⟨collected.problems_eq, ?_, ?_, ?_⟩
  · dsimp only
    rw [entries, sectionLines_append_singleton, ← collected.lines_eq]
    simp [Section.lines]
  · dsimp only
    rw [entries, List.getLast?_concat, Collecting.openedSection?_eq_some_iff]
    exact ⟨rfl, Registry.find?_insert_self _ _ _⟩
  · dsimp only
    rw [entries]
    intro entry member
    rcases List.mem_append.1 member with earlier | last
    · exact collected.names_nodup entry earlier
    · rw [List.mem_singleton.1 last]
      exact List.nodup_nil

/-- A new attribute comes last in the open section. -/
theorem Collects.addAttribute (collected : Collects front state)
    (fits : (Line.indented hint).Fits front) :
    Collects (front ++ [.indented hint]) (state.addAttribute hint) := by
  obtain ⟨node, held, opened, fresh⟩ := collected.fits_indented_iff.1 fits
  obtain ⟨earlier, entries⟩ := collected.exists_entries_eq opened
  let extended : Section := { held with attributes := held.attributes ++ [hint] }
  have inserted := Registry.entries_insert_of_last entries extended
  have unlisted : held.attributes.find? (fun other => other.name = hint.name) = none := by
    simpa [Section.names] using fresh
  rw [Collecting.addAttribute, opened]
  dsimp only
  rw [unlisted]
  refine ⟨collected.problems_eq, ?_, ?_, ?_⟩
  · dsimp only
    rw [inserted, sectionLines_append_singleton, Section.lines_append_attribute,
      List.filter_append, collected.lines_eq, entries, sectionLines_append_singleton]
    simp
  · dsimp only
    rw [inserted, List.getLast?_concat, Collecting.openedSection?_eq_some_iff]
    exact ⟨(Collecting.openedSection?_eq_some_iff.1 opened).1, Registry.find?_insert_self _ _ _⟩
  · dsimp only
    rw [inserted]
    intro entry member
    have kept := collected.names_nodup
    rw [entries] at kept
    rcases List.mem_append.1 member with before | last
    · exact kept entry (List.mem_append_left _ before)
    · have heldNodup := kept (node, held) (by simp)
      rw [List.mem_singleton.1 last]
      simpa [extended, Section.names] using List.Nodup.concat fresh heldNodup

theorem Collects.add (collected : Collects front state) (fits : line.Fits front) :
    Collects (front ++ [line]) (state.add line) := by
  cases line with
  | blank =>
      refine ⟨collected.problems_eq, ?_, collected.opened_eq, collected.names_nodup⟩
      rw [List.filter_append, collected.lines_eq]
      simp [Collecting.add]
  | heading hint => exact collected.openSection fits
  | indented hint => exact collected.addAttribute fits

/-- A line that may not stand where it does is reported. -/
theorem Collects.problems_add_ne_nil (collected : Collects front state)
    (unfit : ¬ line.Fits front) : (state.add line).problems ≠ [] := by
  cases line with
  | blank => exact absurd trivial unfit
  | heading hint =>
      rw [collected.fits_heading_iff, ← Ne, Option.ne_none_iff_exists'] at unfit
      obtain ⟨first, found⟩ := unfit
      simp [Collecting.add, Collecting.openSection, found, Collecting.report]
  | indented hint =>
      rw [collected.fits_indented_iff] at unfit
      cases opened : state.openedSection? with
      | none =>
          have empty := collected.entries_eq_nil opened
          simp [Collecting.add, Collecting.addAttribute, opened, Registry.size, empty,
            Collecting.report]
      | some entry =>
          obtain ⟨node, held⟩ := entry
          have listed : hint.name ∈ held.names := by
            by_contra fresh
            exact unfit ⟨node, held, opened, fresh⟩
          obtain ⟨first, found⟩ : ∃ first, held.attributes.find?
              (fun other => other.name = hint.name) = some first := by
            rw [← Option.ne_none_iff_exists', Ne, List.find?_eq_none]
            simpa [Section.names] using listed
          simp [Collecting.add, Collecting.addAttribute, opened, found, Collecting.report]

/-- Problems stay. -/
theorem Collecting.problems_prefix_add (state : Collecting) (line : Line) :
    state.problems <+: (state.add line).problems := by
  cases line with
  | blank => exact List.prefix_rfl
  | heading hint =>
      rw [add, openSection]
      split
      · exact List.prefix_append _ _
      · exact List.prefix_rfl
  | indented hint =>
      rw [add, addAttribute]
      split
      · split
        · exact List.prefix_append _ _
        · exact List.prefix_rfl
      · split
        · exact List.prefix_append _ _
        · exact List.prefix_rfl

end Step

section Run

variable {lines : List Line}

theorem collect_append_singleton (front : List Line) (line : Line) :
    collect (front ++ [line]) = (collect front).add line := by
  simp [collect]

theorem IsOrderly.collects (orderly : IsOrderly lines) : Collects lines (collect lines) := by
  induction lines using List.reverseRecOn with
  | nil => exact collects_start
  | append_singleton front line ih =>
      obtain ⟨frontOrderly, fits⟩ := isOrderly_append_singleton_iff.1 orderly
      rw [collect_append_singleton]
      exact (ih frontOrderly).add fits

/-- Lines are collected without a problem exactly when they are orderly. -/
theorem problems_collect_eq_nil_iff : (collect lines).problems = [] ↔ IsOrderly lines := by
  refine ⟨?_, fun orderly => orderly.collects.problems_eq⟩
  intro clean
  induction lines using List.reverseRecOn with
  | nil =>
      intro front line back equal
      simp at equal
  | append_singleton front line ih =>
      rw [collect_append_singleton] at clean
      have stays := (collect front).problems_prefix_add line
      rw [clean] at stays
      have orderly := ih (List.prefix_nil.1 stays)
      refine isOrderly_append_singleton_iff.2 ⟨orderly, ?_⟩
      by_contra unfit
      exact orderly.collects.problems_add_ne_nil unfit clean

end Run

end AstGrammar.AttributeOrder
