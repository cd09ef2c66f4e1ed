import Mathlib.Data.List.DropRight
import AstGrammar.Proofs.AttributeOrder.Parse
import AstGrammar.Proofs.Diagnostic.Places

/-!
# Reported hints

Each line is reported for what stands above it, and at most once: a name at the start of a
line for an earlier one that opened its section, an indented name for standing above all
sections or for an earlier one in its section.  Below a repeated section nothing is
reported.  The lines are collected with exactly these reports, in their order, and they
are read when there are none.
-/

namespace AstGrammar.AttributeOrder

def Line.heading? : Line → Option Hint
  | .heading hint => some hint
  | _ => none

def Line.indented? : Line → Option Hint
  | .indented hint => some hint
  | _ => none

/-- The names that open sections or try to. -/
def headings (lines : List Line) : List Hint := lines.filterMap Line.heading?

/-- The indented names behind the last heading. -/
def listedBelow (lines : List Line) : List Hint :=
  (lines.rtakeWhile fun line => line.heading?.isNone).filterMap Line.indented?

/-- The first hint with a name. -/
def firstNamed? (name : String) (hints : List Hint) : Option Hint :=
  hints.find? fun hint => hint.name = name

/-- What is reported for a line behind the lines in front of it. -/
inductive Line.Reports (front : List Line) : Line → HintProblem → Prop
  | outsideSection {hint : Hint} (outside : headings front = []) :
      Reports front (.indented hint) (.outsideSection hint)
  | repeatedSection {hint first : Hint}
      (opened : firstNamed? hint.name (headings front) = some first) :
      Reports front (.heading hint) (.repeatedSection hint first.span)
  | repeatedAttribute {hint first heading : Hint} {above : List Hint}
      (last : headings front = above ++ [heading])
      (fresh : firstNamed? heading.name above = none)
      (listed : firstNamed? hint.name (listedBelow front) = some first) :
      Reports front (.indented hint) (.repeatedAttribute hint first.span)

/-- The reports for lines, one line after the other. -/
inductive Reported : List Line → List HintProblem → Prop
  | start : Reported [] []
  | silent {front : List Line} {line : Line} {problems : List HintProblem}
      (reported : Reported front problems) (fits : ∀ problem, ¬ line.Reports front problem) :
      Reported (front ++ [line]) problems
  | report {front : List Line} {line : Line} {problems : List HintProblem}
      {problem : HintProblem} (reported : Reported front problems)
      (reports : line.Reports front problem) :
      Reported (front ++ [line]) (problems ++ [problem])

section Names

variable {name : String} {hints front : List Hint} {hint : Hint}

theorem firstNamed?_eq_none_iff :
    firstNamed? name hints = none ↔ ∀ hint ∈ hints, hint.name ≠ name := by
  simp [firstNamed?]

theorem firstNamed?_append_singleton (name : String) (hints : List Hint) (hint : Hint) :
    firstNamed? name (hints ++ [hint]) =
      (firstNamed? name hints).or (if hint.name = name then some hint else none) := by
  rw [firstNamed?, List.find?_append, List.find?_singleton]
  simp [firstNamed?]

end Names

section Above

variable {lines : List Line} {hint : Hint}

@[simp]
theorem headings_append_blank : headings (lines ++ [.blank]) = headings lines := by
  simp [headings, Line.heading?]

@[simp]
theorem headings_append_heading :
    headings (lines ++ [.heading hint]) = headings lines ++ [hint] := by
  simp [headings, Line.heading?]

@[simp]
theorem headings_append_indented : headings (lines ++ [.indented hint]) = headings lines := by
  simp [headings, Line.heading?]

@[simp]
theorem listedBelow_append_blank : listedBelow (lines ++ [.blank]) = listedBelow lines := by
  simp [listedBelow, Line.heading?, Line.indented?]

@[simp]
theorem listedBelow_append_heading : listedBelow (lines ++ [.heading hint]) = [] := by
  simp [listedBelow, Line.heading?]

@[simp]
theorem listedBelow_append_indented :
    listedBelow (lines ++ [.indented hint]) = listedBelow lines ++ [hint] := by
  simp [listedBelow, Line.heading?, Line.indented?]

end Above

/-- How the sections that were collected belong to the lines: a section has the place of the
first heading with its name, and the section of the last heading is open, with the first
attribute of each name, unless the heading repeats it. -/
structure Tracks (front : List Line) (state : Collecting) : Prop where
  span_eq : ∀ name, (state.sections.find? name).map Section.span =
    (firstNamed? name (headings front)).map Hint.span
  closed_of_nil : headings front = [] → state.openedSection? = none
  closed_of_repeated : ∀ {above heading}, headings front = above ++ [heading] →
    firstNamed? heading.name above ≠ none → state.openedSection? = none
  opened_of_fresh : ∀ {above heading}, headings front = above ++ [heading] →
    firstNamed? heading.name above = none → ∃ held,
      state.openedSection? = some (heading.name, held) ∧
        ∀ name, firstNamed? name held.attributes = firstNamed? name (listedBelow front)

theorem tracks_start : Tracks [] .start where
  span_eq _ := rfl
  closed_of_nil _ := rfl
  closed_of_repeated last := by simp [headings] at last
  opened_of_fresh last := by simp [headings] at last

namespace Tracks

variable {front : List Line} {state : Collecting} {line : Line} {hint : Hint}
  {problem : HintProblem} {node : String} {held : Section}

theorem find?_eq_none_iff (tracks : Tracks front state) {name : String} :
    state.sections.find? name = none ↔ firstNamed? name (headings front) = none := by
  rw [← Option.map_eq_none_iff, tracks.span_eq, Option.map_eq_none_iff]

theorem size_eq_zero_iff (tracks : Tracks front state) :
    state.sections.size = 0 ↔ headings front = [] := by
  constructor
  · intro empty
    apply List.eq_nil_iff_forall_not_mem.2
    intro heading member
    have absent : state.sections.find? heading.name = none := by
      rw [Registry.find?, List.eq_nil_of_length_eq_zero empty, List.lookup_nil]
    exact firstNamed?_eq_none_iff.1 (tracks.find?_eq_none_iff.1 absent) heading member rfl
  · intro outside
    apply List.length_eq_zero_iff.2
    apply List.eq_nil_iff_forall_not_mem.2
    intro entry member
    have absent : state.sections.find? entry.1 = none := by
      rw [tracks.find?_eq_none_iff, outside]
      rfl
    rw [Registry.find?_of_mem_entries member] at absent
    cases absent

/-- The open section is that of the last heading. -/
theorem exists_last_of_opened (tracks : Tracks front state)
    (opened : state.openedSection? = some (node, held)) :
    ∃ above heading, headings front = above ++ [heading] ∧
      firstNamed? heading.name above = none ∧ node = heading.name ∧
        ∀ name, firstNamed? name held.attributes = firstNamed? name (listedBelow front) := by
  rcases List.eq_nil_or_concat (headings front) with outside | ⟨above, heading, last⟩
  · rw [tracks.closed_of_nil outside] at opened
    cases opened
  · rw [List.concat_eq_append] at last
    cases repeated : firstNamed? heading.name above with
    | some first =>
        rw [tracks.closed_of_repeated last (by simp [repeated])] at opened
        cases opened
    | none =>
        obtain ⟨other, openedOther, listed⟩ := tracks.opened_of_fresh last repeated
        rw [openedOther] at opened
        cases opened
        exact ⟨above, heading, last, repeated, rfl, listed⟩

theorem problems_add_of_reports (tracks : Tracks front state)
    (reports : line.Reports front problem) :
    (state.add line).problems = state.problems ++ [problem] := by
  cases reports with
  | outsideSection outside =>
      rw [Collecting.add, Collecting.addAttribute, tracks.closed_of_nil outside]
      dsimp only
      rw [if_pos (tracks.size_eq_zero_iff.2 outside)]
      rfl
  | @repeatedSection hint first opened =>
      have place := tracks.span_eq hint.name
      rw [opened, Option.map_some, Option.map_eq_some_iff] at place
      obtain ⟨held, found, span⟩ := place
      rw [Collecting.add, Collecting.openSection, found, ← span]
      rfl
  | repeatedAttribute last fresh listed =>
      obtain ⟨held, opened, attributes⟩ := tracks.opened_of_fresh last fresh
      rw [← attributes, firstNamed?] at listed
      rw [Collecting.add, Collecting.addAttribute, opened]
      dsimp only
      rw [listed]
      rfl

theorem problems_add_of_silent (tracks : Tracks front state)
    (silent : ∀ problem, ¬ line.Reports front problem) :
    (state.add line).problems = state.problems := by
  cases line with
  | blank => rfl
  | heading hint =>
      have fresh : state.sections.find? hint.name = none := by
        rw [tracks.find?_eq_none_iff, ← Option.not_isSome_iff_eq_none, Option.isSome_iff_exists]
        rintro ⟨first, opened⟩
        exact silent _ (.repeatedSection opened)
      rw [Collecting.add, Collecting.openSection, fresh]
  | indented hint =>
      rw [Collecting.add, Collecting.addAttribute]
      cases opened : state.openedSection? with
      | none =>
          have inside : state.sections.size ≠ 0 := by
            rw [Ne, tracks.size_eq_zero_iff]
            exact fun outside => silent _ (.outsideSection outside)
          dsimp only
          rw [if_neg inside]
      | some entry =>
          obtain ⟨node, held⟩ := entry
          obtain ⟨above, heading, last, fresh, -, attributes⟩ := tracks.exists_last_of_opened opened
          dsimp only
          cases listed : held.attributes.find? fun other => other.name = hint.name with
          | none => rfl
          | some first =>
              have repeats : firstNamed? hint.name (listedBelow front) = some first := by
                rw [← attributes]
                exact listed
              exact absurd (.repeatedAttribute last fresh repeats) (silent _)

theorem report (tracks : Tracks front state) (problem : HintProblem) :
    Tracks front (state.report problem) :=
  ⟨tracks.span_eq, tracks.closed_of_nil, tracks.closed_of_repeated, tracks.opened_of_fresh⟩

theorem blank (tracks : Tracks front state) : Tracks (front ++ [.blank]) state where
  span_eq name := by
    rw [headings_append_blank]
    exact tracks.span_eq name
  closed_of_nil outside := tracks.closed_of_nil (headings_append_blank ▸ outside)
  closed_of_repeated last := tracks.closed_of_repeated (headings_append_blank ▸ last)
  opened_of_fresh last fresh := by
    rw [listedBelow_append_blank]
    exact tracks.opened_of_fresh (headings_append_blank ▸ last) fresh

/-- A repeated section changes no section and is not open. -/
theorem openSection_of_repeated (tracks : Tracks front state) {first : Section}
    (found : state.sections.find? hint.name = some first) :
    Tracks (front ++ [.heading hint]) (state.openSection hint) := by
  have repeated : firstNamed? hint.name (headings front) ≠ none := by
    rw [Ne, ← tracks.find?_eq_none_iff, found]
    simp
  rw [Collecting.openSection, found]
  refine ⟨fun name => ?_, fun _ => rfl, fun _ _ => rfl, fun last fresh => ?_⟩
  · rw [headings_append_heading, firstNamed?_append_singleton]
    by_cases named : hint.name = name
    · subst named
      rw [Option.or_of_isSome (Option.isSome_iff_ne_none.2 repeated)]
      exact tracks.span_eq hint.name
    · rw [if_neg named, Option.or_none]
      exact tracks.span_eq name
  · rw [headings_append_heading] at last
    obtain ⟨rfl, rfl⟩ := List.append_singleton_inj.1 last
    exact absurd fresh repeated

/-- A new section is open and has no attributes yet. -/
theorem openSection_of_fresh (tracks : Tracks front state)
    (unused : state.sections.find? hint.name = none) :
    Tracks (front ++ [.heading hint]) (state.openSection hint) := by
  have fresh := tracks.find?_eq_none_iff.1 unused
  rw [Collecting.openSection, unused]
  refine ⟨fun name => ?_, fun outside => ?_, fun last repeated => ?_, fun last _ => ?_⟩
  · rw [headings_append_heading, firstNamed?_append_singleton]
    by_cases named : hint.name = name
    · subst named
      rw [Registry.find?_insert_self, fresh, if_pos rfl]
      rfl
    · rw [Registry.find?_insert_of_ne _ _ (Ne.symm named), if_neg named, Option.or_none]
      exact tracks.span_eq name
  · simp at outside
  · rw [headings_append_heading] at last
    obtain ⟨rfl, rfl⟩ := List.append_singleton_inj.1 last
    exact absurd fresh repeated
  · rw [headings_append_heading] at last
    obtain ⟨rfl, rfl⟩ := List.append_singleton_inj.1 last
    refine ⟨⟨hint.span, []⟩, ?_, fun name => by rw [listedBelow_append_heading]⟩
    exact Collecting.openedSection?_eq_some_iff.2 ⟨rfl, Registry.find?_insert_self _ _ _⟩

/-- Where no section is open, an attribute changes none. -/
theorem addAttribute_of_closed (tracks : Tracks front state)
    (closed : state.openedSection? = none) :
    Tracks (front ++ [.indented hint]) (state.addAttribute hint) := by
  have unmoved : Tracks (front ++ [.indented hint]) state := by
    refine ⟨?_, fun _ => closed, fun _ _ => closed, fun last fresh => ?_⟩
    · simpa using tracks.span_eq
    · rw [headings_append_indented] at last
      obtain ⟨held, opened, -⟩ := tracks.opened_of_fresh last fresh
      rw [closed] at opened
      cases opened
  rw [Collecting.addAttribute, closed]
  dsimp only
  split
  · exact unmoved.report _
  · exact unmoved

/-- The open section gets an attribute unless it has one with that name. -/
theorem addAttribute_of_opened (tracks : Tracks front state)
    (opened : state.openedSection? = some (node, held)) :
    Tracks (front ++ [.indented hint]) (state.addAttribute hint) := by
  obtain ⟨above, heading, last, fresh, rfl, attributes⟩ := tracks.exists_last_of_opened opened
  have onlyLast {others : List Hint} {other : Hint}
      (otherLast : headings (front ++ [.indented hint]) = others ++ [other]) :
      others = above ∧ other = heading := by
    rw [headings_append_indented, last] at otherLast
    obtain ⟨rfl, rfl⟩ := List.append_singleton_inj.1 otherLast
    exact ⟨rfl, rfl⟩
  have inside : headings (front ++ [.indented hint]) ≠ [] := by simp [last]
  rw [Collecting.addAttribute, opened]
  dsimp only
  cases listed : held.attributes.find? fun other => other.name = hint.name with
  | some first =>
      apply report
      refine ⟨by simpa using tracks.span_eq, fun outside => absurd outside inside,
        fun otherLast repeated => ?_, fun otherLast _ => ?_⟩
      · obtain ⟨rfl, rfl⟩ := onlyLast otherLast
        exact absurd fresh repeated
      · obtain ⟨rfl, rfl⟩ := onlyLast otherLast
        refine ⟨held, opened, fun name => ?_⟩
        rw [listedBelow_append_indented, firstNamed?_append_singleton, ← attributes]
        by_cases named : hint.name = name
        · subst named
          rw [firstNamed?, listed, Option.some_or]
        · rw [if_neg named, Option.or_none]
  | none =>
      have found := (Collecting.openedSection?_eq_some_iff.1 opened).2
      refine ⟨fun name => ?_, fun outside => absurd outside inside,
        fun otherLast repeated => ?_, fun otherLast _ => ?_⟩
      · rw [headings_append_indented, ← tracks.span_eq]
        by_cases named : name = heading.name
        · subst named
          rw [Registry.find?_insert_self, found]
          rfl
        · rw [Registry.find?_insert_of_ne _ _ named]
      · obtain ⟨rfl, rfl⟩ := onlyLast otherLast
        exact absurd fresh repeated
      · obtain ⟨rfl, rfl⟩ := onlyLast otherLast
        refine ⟨{ held with attributes := held.attributes ++ [hint] }, ?_, fun name => ?_⟩
        · exact Collecting.openedSection?_eq_some_iff.2
            ⟨(Collecting.openedSection?_eq_some_iff.1 opened).1, Registry.find?_insert_self _ _ _⟩
        · rw [listedBelow_append_indented, firstNamed?_append_singleton,
            firstNamed?_append_singleton, attributes]

theorem add (tracks : Tracks front state) (line : Line) :
    Tracks (front ++ [line]) (state.add line) := by
  cases line with
  | blank => exact tracks.blank
  | heading hint =>
      cases found : state.sections.find? hint.name with
      | some first => exact tracks.openSection_of_repeated found
      | none => exact tracks.openSection_of_fresh found
  | indented hint =>
      cases opened : state.openedSection? with
      | none => exact tracks.addAttribute_of_closed opened
      | some entry => exact tracks.addAttribute_of_opened opened

end Tracks

section Run

variable {lines : List Line} {problems : List HintProblem}

theorem tracks_collect (lines : List Line) : Tracks lines (collect lines) := by
  induction lines using List.reverseRecOn with
  | nil => exact tracks_start
  | append_singleton front line ih =>
      rw [collect_append_singleton]
      exact ih.add line

theorem reported_collect (lines : List Line) : Reported lines (collect lines).problems := by
  induction lines using List.reverseRecOn with
  | nil => exact .start
  | append_singleton front line ih =>
      rw [collect_append_singleton]
      by_cases reports : ∃ problem, line.Reports front problem
      · obtain ⟨problem, reports⟩ := reports
        rw [(tracks_collect front).problems_add_of_reports reports]
        exact ih.report reports
      · have silent := not_exists.1 reports
        rw [(tracks_collect front).problems_add_of_silent silent]
        exact ih.silent silent

/-- The problems of lines are the reports for them. -/
theorem reported_iff : Reported lines problems ↔ problems = (collect lines).problems := by
  constructor
  · intro reported
    induction reported with
    | start => rfl
    | @silent front line problems _ silent ih =>
        rw [collect_append_singleton, (tracks_collect front).problems_add_of_silent silent, ih]
    | @report front line problems problem _ reports ih =>
        rw [collect_append_singleton, (tracks_collect front).problems_add_of_reports reports, ih]
  · rintro rfl
    exact reported_collect lines

end Run

/-- A report points at the name on its line, and from there to the name that it repeats. -/
def HintProblem.outline : HintProblem → Diagnostic.Outline
  | .outsideSection hint => ⟨.error, some "E200", [(hint.span, true)]⟩
  | .repeatedSection hint first => ⟨.error, some "E203", [(hint.span, true), (first, false)]⟩
  | .repeatedAttribute hint first => ⟨.error, some "E202", [(hint.span, true), (first, false)]⟩

theorem HintProblem.outline_diagnostic (problem : HintProblem) :
    problem.diagnostic.outline = problem.outline := by
  cases problem <;> rfl

/-- Where every line of a text spells something, the text is refused with the diagnostics of
the reports for its lines, in their order, or it is read and there are none.  The
diagnostics point at the names that the lines spell. -/
theorem parse_eq_error_iff_reported {text : String} {lines : List Line}
    (spelled : List.Forall₂ PlacedLine.Spells (placedLines text) lines) :
    (∀ diagnostics, parse text = .error diagnostics ↔
      ∃ problems, Reported lines problems ∧ problems ≠ [] ∧
        diagnostics = problems.map HintProblem.diagnostic) ∧
    ((∃ order, parse text = .ok order) ↔ Reported lines []) ∧
    (∃! problems, Reported lines problems) ∧
    (∀ problem : HintProblem, problem.diagnostic.outline = problem.outline) ∧
    ∀ line ∈ lines, ∀ hint ∈ line.hint?, hint.span.text? text.toList = some hint.name.toList := by
  have read := readLines_eq_ok_iff.2 spelled
  refine ⟨fun diagnostics => ?_, ?_, ?_, HintProblem.outline_diagnostic, ?_⟩
  · rw [parse, read]
    cases problems : (collect lines).problems with
    | nil => simp [reported_iff, problems]
    | cons first rest => simpa [reported_iff, problems] using eq_comm
  · rw [parse, read, reported_iff]
    cases problems : (collect lines).problems <;> simp [problems]
  · exact ⟨_, reported_collect lines, fun _ => reported_iff.1⟩
  · intro line member hint given
    obtain ⟨placed, placedMember, spells⟩ := exists_spells_of_mem spelled member
    exact text?_of_spells placedMember spells given

/-- Hints with an attribute above all sections, one that is listed twice and a section that
is, all with blanks or comments around them. -/
def repeatedHints : String := "\tx # é\nA\r\n y\n\ty\nA # again\n y\n"

theorem parse_repeatedHints :
    ∃ lines problems, List.Forall₂ PlacedLine.Spells (placedLines repeatedHints) lines ∧
      Reported lines problems ∧
      problems.map (fun problem => problem.outline.code) = [some "E200", some "E202", some "E203"] ∧
      parse repeatedHints = .error (problems.map HintProblem.diagnostic) := by
  have readable : (readLines 0 repeatedHints.toList).isOk = true := by decide +kernel
  have codes : (match parse repeatedHints with
      | .ok _ => []
      | .error diagnostics => diagnostics.map fun diagnostic =>
          diagnostic.outline.code) = [some "E200", some "E202", some "E203"] := by
    decide +kernel
  cases read : readLines 0 repeatedHints.toList with
  | error unread =>
      rw [read] at readable
      cases readable
  | ok lines =>
      have spelled := readLines_eq_ok_iff.1 read
      obtain ⟨refused, -, -, outlines, -⟩ := parse_eq_error_iff_reported spelled
      cases parsed : parse repeatedHints with
      | ok order =>
          rw [parsed] at codes
          cases codes
      | error diagnostics =>
          obtain ⟨problems, reported, -, rfl⟩ := (refused diagnostics).1 parsed
          rw [parsed] at codes
          refine ⟨lines, problems, spelled, reported, ?_, rfl⟩
          simpa only [List.map_map, Function.comp_def, outlines] using codes

end AstGrammar.AttributeOrder
