import AstGrammar.Proofs.AttributeOrder.Application
import AstGrammar.Proofs.AttributeOrder.Parse
import AstGrammar.Proofs.Diagnostic.Places

/-!
# Places of hints

The names of hints lie in their text, and each of them is kept with its place or reported
with it.  So whatever is said about hints, when they are read and when they are applied,
points into their text.
-/

namespace AstGrammar.AttributeOrder

open Text

variable {text : List Char}

def Line.IsIn (text : List Char) (line : Line) : Prop :=
  ∀ hint ∈ line.hint?, hint.span.IsIn text

def Section.IsIn (text : List Char) (held : Section) : Prop :=
  held.span.IsIn text ∧ ∀ hint ∈ held.attributes, hint.span.IsIn text

/-- The places that a problem points at lie in the text. -/
def HintProblem.IsIn (text : List Char) : HintProblem → Prop
  | .outsideSection hint => hint.span.IsIn text
  | .repeatedSection hint first | .repeatedAttribute hint first =>
      hint.span.IsIn text ∧ first.IsIn text

theorem HintProblem.IsIn.rejects {problem : HintProblem} (isIn : problem.IsIn text) :
    problem.diagnostic.Rejects text := by
  cases problem with
  | outsideSection hint =>
      exact ⟨rfl, rfl, (Diagnostic.isIn_error _ _ _).withLabel isIn⟩
  | repeatedSection hint first =>
      exact ⟨rfl, rfl, ((Diagnostic.isIn_error _ _ _).withLabel isIn.1).withRelated isIn.2⟩
  | repeatedAttribute hint first =>
      exact ⟨rfl, rfl, ((Diagnostic.isIn_error _ _ _).withLabel isIn.1).withRelated isIn.2⟩

namespace Collecting

/-- Everything collected so far points into the text. -/
structure IsIn (text : List Char) (state : Collecting) : Prop where
  sections : ∀ entry ∈ state.sections.entries, entry.2.IsIn text
  problems : ∀ problem ∈ state.problems, problem.IsIn text

variable {state : Collecting} {hint : Hint}

theorem isIn_start : start.IsIn text where
  sections _ held := absurd held List.not_mem_nil
  problems _ held := absurd held List.not_mem_nil

theorem IsIn.report {problem : HintProblem} (isIn : state.IsIn text)
    (problemIn : problem.IsIn text) : (state.report problem).IsIn text where
  sections := isIn.sections
  problems other held := by
    rcases List.mem_append.1 held with before | here
    · exact isIn.problems other before
    · rw [List.mem_singleton.1 here]
      exact problemIn

/-- The sections stay in the text when one that is in it is entered. -/
theorem IsIn.insert {name : String} {held : Section} (isIn : state.IsIn text)
    (heldIn : held.IsIn text) :
    ∀ entry ∈ (state.sections.insert name held).entries, entry.2.IsIn text := by
  intro entry member
  rcases Entries.mem_set member with before | here
  · exact isIn.sections entry before
  · rw [here]
    exact heldIn

theorem IsIn.openSection (isIn : state.IsIn text) (hintIn : hint.span.IsIn text) :
    (state.openSection hint).IsIn text := by
  rw [Collecting.openSection]
  cases found : state.sections.find? hint.name with
  | some first =>
      have firstIn := isIn.sections _ (Registry.mem_entries_of_find? found)
      have reported : (state.report (.repeatedSection hint first.span)).IsIn text :=
        isIn.report ⟨hintIn, firstIn.1⟩
      exact ⟨reported.sections, reported.problems⟩
  | none =>
      exact ⟨isIn.insert ⟨hintIn, fun _ held => absurd held List.not_mem_nil⟩, isIn.problems⟩

theorem IsIn.addAttribute (isIn : state.IsIn text) (hintIn : hint.span.IsIn text) :
    (state.addAttribute hint).IsIn text := by
  rw [Collecting.addAttribute]
  cases opened : state.openedSection? with
  | none =>
      dsimp only
      split
      · exact isIn.report hintIn
      · exact isIn
  | some entry =>
      obtain ⟨node, held⟩ := entry
      have found := (openedSection?_eq_some_iff.1 opened).2
      have heldIn := isIn.sections _ (Registry.mem_entries_of_find? found)
      dsimp only
      cases repeated : held.attributes.find? fun other => other.name = hint.name with
      | some first =>
          exact isIn.report ⟨hintIn, heldIn.2 first (List.mem_of_find?_eq_some repeated)⟩
      | none =>
          refine ⟨isIn.insert ⟨heldIn.1, fun other member => ?_⟩, isIn.problems⟩
          rcases List.mem_append.1 member with before | here
          · exact heldIn.2 other before
          · rw [List.mem_singleton.1 here]
            exact hintIn

theorem IsIn.add {line : Line} (isIn : state.IsIn text) (lineIn : line.IsIn text) :
    (state.add line).IsIn text := by
  cases line with
  | blank => exact isIn
  | heading hint => exact isIn.openSection (lineIn hint rfl)
  | indented hint => exact isIn.addAttribute (lineIn hint rfl)

end Collecting

theorem isIn_collect {lines : List Line} (linesIn : ∀ line ∈ lines, line.IsIn text) :
    (collect lines).IsIn text := by
  induction lines using List.reverseRecOn with
  | nil => exact Collecting.isIn_start
  | append_singleton front line ih =>
      have frontIn := ih fun other held => linesIn other (List.mem_append_left _ held)
      rw [collect_append_singleton]
      exact frontIn.add (linesIn line (by simp))

section Lines

variable {offset : Nat} {lines : List Line}

/-- A line end stands in front of the text behind it. -/
theorem exists_append_of_lineEnd? {rest : List Char} {size : Nat}
    (found : lineEnd? text = some (size, rest)) :
    ∃ ending, text = ending ++ rest ∧ byteSize ending = size := by
  unfold lineEnd? at found
  split at found
  · cases found
    exact ⟨['\n'], rfl, rfl⟩
  · cases found
    exact ⟨['\r', '\n'], rfl, rfl⟩
  · cases found

theorem isSuffix_rest_readLine (offset : Nat) (text : List Char) :
    (readLine offset text).rest <:+ text := by
  obtain ⟨parts, textEq, -⟩ := exists_parts_readLine offset text
  exact ⟨parts.characters, textEq.symm⟩

/-- What is malformed is the rest of the text from some place on. -/
theorem isSuffix_of_readLines {unread : List Char}
    (refused : readLines offset text = .error unread) : unread <:+ text := by
  fun_induction readLines offset text with
  | case1 => cases refused
  | case2 offset text reading size rest found _ _ _ later ih =>
      have line := isSuffix_rest_readLine offset text
      obtain ⟨ending, cut, -⟩ := exists_append_of_lineEnd? found
      have behindEnd : rest <:+ reading.rest := ⟨ending, cut.symm⟩
      exact (ih (later.trans refused)).trans (behindEnd.trans line)
  | case3 => cases refused
  | case4 offset text =>
      cases refused
      exact isSuffix_rest_readLine offset text

/-- The names in the lines of a text lie in it. -/
theorem isIn_of_readLines {source : String} (read : readLines 0 source.toList = .ok lines) :
    ∀ line ∈ lines, line.IsIn source.toList := by
  intro line member hint given
  obtain ⟨placed, placedMember, spells⟩ :=
    exists_spells_of_mem (readLines_eq_ok_iff.1 read) member
  exact Span.isIn_of_text? (text?_of_spells placedMember spells given)

theorem isIn_malformedSpan {unread : List Char} (suffix : unread <:+ text) :
    (malformedSpan text unread).IsIn text := by
  obtain ⟨front, rfl⟩ := suffix
  have place := Span.isIn_ofPiece front (unread.takeWhile fun character => !isLineEnd character)
    (unread.dropWhile fun character => !isLineEnd character)
  rw [List.takeWhile_append_dropWhile] at place
  rw [malformedSpan, byteSize_append, Nat.add_sub_cancel]
  exact place

end Lines

section Texts

variable {source : String} {order : AttributeOrder}

/-- Hints that are refused are refused with an error that points into their text. -/
theorem rejects_of_parse {diagnostics : List Diagnostic}
    (refused : parse source = .error diagnostics) :
    diagnostics ≠ [] ∧ ∀ diagnostic ∈ diagnostics, diagnostic.Rejects source.toList := by
  rw [parse] at refused
  cases read : readLines 0 source.toList with
  | error unread =>
      rw [read] at refused
      cases refused
      refine ⟨List.cons_ne_nil _ _, fun diagnostic held => ?_⟩
      rw [List.mem_singleton.1 held]
      have span := isIn_malformedSpan (isSuffix_of_readLines read)
      exact ⟨rfl, rfl, (Diagnostic.isIn_error _ _ _).withLabel span⟩
  | ok lines =>
      rw [read] at refused
      have collected := isIn_collect (isIn_of_readLines read)
      dsimp only at refused
      split at refused
      · cases refused
      · next nonempty =>
          cases refused
          refine ⟨by simpa using nonempty, fun diagnostic held => ?_⟩
          obtain ⟨problem, member, rfl⟩ := List.mem_map.1 held
          exact (collected.problems problem member).rejects

theorem sections_isIn_of_parse (parsed : parse source = .ok order) :
    ∀ entry ∈ order.sections.entries, entry.2.IsIn source.toList := by
  obtain ⟨lines, spelled, -, rfl⟩ := parse_eq_ok_iff_collect.1 parsed
  exact (isIn_collect (isIn_of_readLines (readLines_eq_ok_iff.2 spelled))).sections

/-- What warns about a section points into its text. -/
theorem isIn_of_mem_sectionWarnings {model : GrammarModel} {name : String} {held : Section}
    (heldIn : held.IsIn text) {warning : Diagnostic}
    (member : warning ∈ sectionWarnings model name held) :
    warning.code.isSome ∧ warning.IsIn text := by
  rw [sectionWarnings] at member
  split at member
  · rw [List.mem_singleton.1 member]
    exact ⟨rfl, (Diagnostic.isIn_warning _ _ _).withLabel heldIn.1⟩
  · obtain ⟨hinted, -, rfl⟩ := List.mem_map.1 member
    refine ⟨congrArg Option.isSome (Diagnostic.code_withLabel? _ _ _), ?_⟩
    refine (Diagnostic.isIn_warning _ _ _).withLabel? fun span found => ?_
    obtain ⟨hint, hintFound, rfl⟩ := Option.map_eq_some_iff.1 found
    exact heldIn.2 hint (List.mem_of_find?_eq_some hintFound)

/-- Warnings about hints point into the text of the hints. -/
theorem isIn_of_mem_apply (parsed : parse source = .ok order) (model : GrammarModel)
    {warning : Diagnostic} (member : warning ∈ (order.apply model).2) :
    warning.code.isSome ∧ warning.IsIn source.toList := by
  rw [apply, warnings_applySections order.sections.nodup] at member
  obtain ⟨entry, entryMember, warned⟩ := List.mem_flatMap.1 member
  exact isIn_of_mem_sectionWarnings (sections_isIn_of_parse parsed entry entryMember) warned

end Texts

end AstGrammar.AttributeOrder
