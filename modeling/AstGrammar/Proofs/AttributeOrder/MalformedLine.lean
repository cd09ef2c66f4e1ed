import Mathlib.Data.List.TakeWhile
import AstGrammar.Proofs.AttributeOrder.Places

/-!
# Malformed lines

A text with a malformed line is refused for the first such line alone.  Reading stops
behind the longest piece of it that consists of blanks, perhaps a name, and blanks, also
where a comment follows that a carriage return breaks: such a comment is not read at all.
What is reported reaches from there to the next carriage return or line feed.
-/

namespace AstGrammar.AttributeOrder

open Text

/-- What a line may start with in front of a comment. -/
def LineParts.lead (parts : LineParts) : List Char := parts.indent ++ (parts.name ++ parts.gap)

/-- The longest piece in front of a text that is blanks, perhaps a name, and blanks. -/
structure IsLongestLead (lead text : List Char) : Prop where
  starts : lead <+: text
  is_lead : ∃ parts : LineParts, lead = parts.lead
  longest : ∀ parts : LineParts, parts.lead <+: text → parts.lead.length ≤ lead.length

/-- The line spells nothing. -/
def PlacedLine.IsMalformed (placed : PlacedLine) : Prop := ∀ line, ¬ placed.Spells line

/-- The text behind blanks, a name if there is one, and blanks. -/
def behindLead (text : List Char) : List Char :=
  ((text.dropWhile isIndent).dropWhile isIdentifier).dropWhile isIndent

variable {offset : Nat} {text unread : List Char}

section Lead

theorem length_dropWhile_run_le {test : Char → Bool} {run rest : List Char}
    (pass : ∀ character ∈ run, test character = true) :
    ((run ++ rest).dropWhile test).length ≤ rest.length := by
  rw [List.dropWhile_append_of_pos pass]
  exact List.length_dropWhile_le test rest

/-- No lead reaches further than the text behind the lead. -/
theorem length_behindLead_le (parts : LineParts) (rest : List Char) :
    (behindLead (parts.lead ++ rest)).length ≤ rest.length := by
  rw [behindLead, LineParts.lead, List.append_assoc, List.append_assoc,
    List.dropWhile_append_of_pos parts.indent_blank]
  cases named : parts.name with
  | nil =>
      have shorter : ((parts.gap ++ rest).dropWhile isIndent).length ≤ rest.length :=
        length_dropWhile_run_le parts.gap_blank
      have second := List.length_dropWhile_le isIdentifier ((parts.gap ++ rest).dropWhile isIndent)
      have third := List.length_dropWhile_le isIndent
        (((parts.gap ++ rest).dropWhile isIndent).dropWhile isIdentifier)
      rw [List.nil_append]
      omega
  | cons first others =>
      have identifier := parts.name_identifier
      rw [named] at identifier
      have atName : ((first :: others) ++ (parts.gap ++ rest)).dropWhile isIndent =
          (first :: others) ++ (parts.gap ++ rest) := by
        apply dropWhile_eq_self
        rintro character ⟨⟩
        exact isIndent_of_isIdentifier (identifier first List.mem_cons_self)
      rw [atName, List.dropWhile_append_of_pos identifier]
      cases gap : parts.gap with
      | nil =>
          have second := List.length_dropWhile_le isIdentifier rest
          have third := List.length_dropWhile_le isIndent (rest.dropWhile isIdentifier)
          rw [List.nil_append]
          omega
      | cons blank blanks =>
          have blankGap := parts.gap_blank
          rw [gap] at blankGap
          have atGap : ((blank :: blanks) ++ rest).dropWhile isIdentifier =
              (blank :: blanks) ++ rest := by
            apply dropWhile_eq_self
            rintro character ⟨⟩
            exact isIdentifier_of_isIndent (blankGap blank List.mem_cons_self)
          rw [atGap]
          exact length_dropWhile_run_le blankGap

/-- The longest lead is what stands in front of the text behind it, and has no line ends. -/
theorem exists_longest_lead (text : List Char) :
    ∃ lead, text = lead ++ behindLead text ∧ IsLongestLead lead text ∧
      ∀ character ∈ lead, isLineEnd character = false := by
  let behindIndent := text.dropWhile isIndent
  let behindName := behindIndent.dropWhile isIdentifier
  let parts : LineParts :=
    { indent := text.takeWhile isIndent
      name := behindIndent.takeWhile isIdentifier
      gap := behindName.takeWhile isIndent
      comment := []
      indent_blank := List.all_eq_true.1 List.all_takeWhile
      name_identifier := List.all_eq_true.1 List.all_takeWhile
      gap_blank := List.all_eq_true.1 List.all_takeWhile
      comment_marked := by simp }
  have cut : text = parts.lead ++ behindLead text := by
    simp [parts, LineParts.lead, behindLead, behindIndent, behindName]
  refine ⟨parts.lead, cut, ⟨⟨_, cut.symm⟩, ⟨parts, rfl⟩, ?_⟩, ?_⟩
  · rintro others ⟨rest, otherCut⟩
    have bound := length_behindLead_le others rest
    rw [otherCut] at bound
    have size := congrArg List.length (otherCut.trans cut)
    rw [List.length_append, List.length_append] at size
    omega
  · intro character member
    rcases List.mem_append.1 member with inIndent | inRest
    · exact isLineEnd_of_isIndent (parts.indent_blank character inIndent)
    · rcases List.mem_append.1 inRest with inName | inGap
      · exact isLineEnd_of_isIdentifier (parts.name_identifier character inName)
      · exact isLineEnd_of_isIndent (parts.gap_blank character inGap)

end Lead

/-- A comment that is skipped ends with its line, so reading stops in front of one that does
not. -/
theorem skipComment_eq_self (stuck : atLineEnd (skipComment text) = false) :
    skipComment text = text := by
  have either : skipComment text = text ∨ atLineEnd (skipComment text) = true := by
    unfold skipComment
    split
    · next rest =>
        dsimp only
        split
        · next ends => exact Or.inr ends
        · exact Or.inl rfl
    · exact Or.inl rfl
  rcases either with same | ends
  · exact same
  · rw [ends] at stuck
    cases stuck

/-- The text is unread from behind the lead of a line on, which is the first that spells
nothing. -/
structure StopsBehind (offset : Nat) (text unread : List Char) (earlier : List PlacedLine)
    (placed : PlacedLine) (lead : List Char) : Prop where
  earlier_spell : ∀ other ∈ earlier, ∃ line, other.Spells line
  malformed : placed.IsMalformed
  lead_longest : IsLongestLead lead placed.characters
  unread_behind : ∃ front, text = front ++ unread ∧
    offset + byteSize front = placed.offset + byteSize lead

/-- Where reading stops in the first line, all of the text behind its lead is unread. -/
theorem exists_stopsBehind_of_stuck (stuck : atLineEnd (readLine offset text).rest = false) :
    ∃ placed later lead, cutLines offset [] text = placed :: later ∧
      StopsBehind offset text (readLine offset text).rest [] placed lead := by
  obtain ⟨lead, textEq, longest, unbroken⟩ := exists_longest_lead text
  have rest : (readLine offset text).rest = behindLead text := skipComment_eq_self stuck
  obtain ⟨piece, tail, behindEq, noFeed, ends, cut⟩ :=
    exists_first_cutLines offset lead (behindLead text)
  have lineEq : text = (lead ++ piece) ++ tail := by
    rw [List.append_assoc, ← behindEq]
    exact textEq
  have lineNoFeed : '\n' ∉ lead ++ piece := by
    rw [List.mem_append, not_or]
    refine ⟨fun member => ?_, noFeed⟩
    have broken := unbroken _ member
    revert broken
    decide
  have cutText := cutLines_append offset [] unbroken (behindLead text)
  rw [← textEq, List.nil_append, cut] at cutText
  refine ⟨_, _, lead, cutText, ?_⟩
  exact {
    earlier_spell := fun other member => absurd member List.not_mem_nil
    malformed := by
      intro line spells
      rw [lineEq, atLineEnd_of_spells lineNoFeed ends spells] at stuck
      cases stuck
    lead_longest := by
      refine ⟨List.prefix_append _ _, longest.is_lead, fun parts starts => ?_⟩
      apply longest.longest
      rw [lineEq]
      exact starts.trans (List.prefix_append _ _)
    unread_behind := ⟨lead, by rw [rest]; exact textEq, rfl⟩ }

/-- A line in front that spells something moves no place behind it. -/
theorem StopsBehind.behind_line {parts : LineParts} {tail rest lead : List Char} {size : Nat}
    {earlier : List PlacedLine} {placed : PlacedLine}
    (unbroken : ∀ character ∈ parts.characters, isLineEnd character = false)
    (found : lineEnd? tail = some (size, rest))
    (stops : StopsBehind (offset + byteSize parts.characters + size) rest unread earlier placed
      lead) :
    StopsBehind offset (parts.characters ++ tail) unread
      (⟨offset, parts.characters⟩ :: earlier) placed lead where
  earlier_spell := by
    rw [List.forall_mem_cons]
    exact ⟨⟨_, (spells_characters_iff unbroken).2 rfl⟩, stops.earlier_spell⟩
  malformed := stops.malformed
  lead_longest := stops.lead_longest
  unread_behind := by
    obtain ⟨ending, rfl, rfl⟩ := exists_append_of_lineEnd? found
    obtain ⟨front, rfl, place⟩ := stops.unread_behind
    refine ⟨parts.characters ++ (ending ++ front), by simp, ?_⟩
    rw [byteSize_append, byteSize_append, ← place]
    omega

theorem exists_stopsBehind_of_readLines (refused : readLines offset text = .error unread) :
    ∃ earlier placed later lead, cutLines offset [] text = earlier ++ placed :: later ∧
      StopsBehind offset text unread earlier placed lead := by
  induction size : text.length using Nat.strongRecOn generalizing offset text with
  | ind bound ih =>
      cases ends : atLineEnd (readLine offset text).rest with
      | false =>
          rw [readLines_of_not_atLineEnd ends, Except.error.injEq] at refused
          subst refused
          obtain ⟨placed, later, lead, cut, stops⟩ := exists_stopsBehind_of_stuck ends
          exact ⟨[], placed, later, lead, cut, stops⟩
      | true =>
          obtain ⟨parts, textEq, -, unbroken⟩ := exists_parts_readLine offset text
          generalize (readLine offset text).rest = tail at textEq ends
          subst textEq
          rw [readLines_append unbroken ends] at refused
          cases found : lineEnd? tail with
          | none => simp [found] at refused
          | some reading =>
              obtain ⟨length, rest⟩ := reading
              have shorter := length_of_lineEnd? found
              rw [List.length_append] at size
              rw [found] at refused
              cases read : readLines (offset + byteSize parts.characters + length) rest with
              | ok lines => simp [read, Except.map] at refused
              | error other =>
                  simp only [read, Except.map, Except.error.injEq] at refused
                  subst refused
                  obtain ⟨earlier, placed, later, lead, cut, stops⟩ :=
                    ih rest.length (by omega) read rfl
                  refine ⟨⟨offset, parts.characters⟩ :: earlier, placed, later, lead, ?_,
                    stops.behind_line unbroken found⟩
                  rw [cutLines_append _ _ unbroken, List.nil_append,
                    cutLines_of_atLineEnd _ _ ends, linesBehind, found]
                  dsimp only
                  rw [cut, List.cons_append]

/-- The span reaches from its start up to the next carriage return or line feed, or up to
the end of the text. -/
def ReachesLineEnd (span : Span) (text : List Char) : Prop :=
  ∃ front piece behind, text = front ++ (piece ++ behind) ∧
    span.start = byteSize front ∧ span.stop = byteSize (front ++ piece) ∧
    (∀ character ∈ piece, character ≠ '\r' ∧ character ≠ '\n') ∧
    ∀ character ∈ behind.head?, character = '\r' ∨ character = '\n'

theorem reachesLineEnd_malformedSpan (front unread : List Char) :
    ReachesLineEnd (malformedSpan (front ++ unread) unread) (front ++ unread) := by
  refine ⟨front, unread.takeWhile fun character => !isLineEnd character,
    unread.dropWhile fun character => !isLineEnd character, ?_, ?_, ?_, ?_, ?_⟩
  · rw [List.takeWhile_append_dropWhile]
  · rw [malformedSpan, Span.ofPiece, byteSize_append, Nat.add_sub_cancel]
  · rw [malformedSpan, Span.ofPiece, byteSize_append, byteSize_append, Nat.add_sub_cancel]
  · intro character member
    have inside := List.all_eq_true.1 List.all_takeWhile character member
    rwa [Bool.not_eq_true', isLineEnd_eq_false_iff] at inside
  · intro character head
    have stops := List.head?_dropWhile_not (fun character => !isLineEnd character) unread
    rw [Option.mem_def.1 head] at stops
    simpa [isLineEnd, or_iff_not_imp_left] using stops

/-- A text with malformed lines is refused with one diagnostic for the first of them.  It
points behind the longest piece of that line that is blanks, perhaps a name, and blanks,
and reaches from there up to a line end or a carriage return; both its ends are boundaries
of the text. -/
theorem parse_eq_error_of_malformed {text : String}
    (malformed : ∃ placed ∈ placedLines text, placed.IsMalformed) :
    ∃ earlier placed later lead diagnostic span,
      placedLines text = earlier ++ placed :: later ∧
      (∀ other ∈ earlier, ¬ other.IsMalformed) ∧ placed.IsMalformed ∧
      IsLongestLead lead placed.characters ∧
      parse text = .error [diagnostic] ∧
      diagnostic.outline = ⟨.error, some "E201", [(span, true)]⟩ ∧
      span.start = placed.offset + byteSize lead ∧
      ReachesLineEnd span text.toList ∧ span.IsIn text.toList := by
  cases read : readLines 0 text.toList with
  | ok lines =>
      -- The lines that are read spell all lines of the text.
      obtain ⟨placed, member, nothing⟩ := malformed
      obtain ⟨index, bound, rfl⟩ := List.getElem_of_mem member
      have spelled := readLines_eq_ok_iff.1 read
      exact absurd (spelled.get bound (spelled.length_eq ▸ bound)) (nothing _)
  | error unread =>
      obtain ⟨earlier, placed, later, lead, cut, stops⟩ := exists_stopsBehind_of_readLines read
      obtain ⟨front, textEq, place⟩ := stops.unread_behind
      refine ⟨earlier, placed, later, lead, malformedDiagnostic text.toList unread,
        malformedSpan text.toList unread, cut, ?_, stops.malformed, stops.lead_longest, ?_, rfl,
        ?_, ?_, isIn_malformedSpan (isSuffix_of_readLines read)⟩
      · intro other member nothing
        obtain ⟨line, spells⟩ := stops.earlier_spell other member
        exact nothing line spells
      · rw [parse, read]
      · rw [Nat.zero_add] at place
        rw [malformedSpan, textEq, byteSize_append, Nat.add_sub_cancel, ← place]
        rfl
      · rw [textEq]
        exact reachesLineEnd_malformedSpan front unread

/-- Hints in which a carriage return breaks the comment of the second line, and two names
stand in the last one. -/
def brokenHints : String := "é\n\tñ # x\ry\r\nz z"

theorem parse_brokenHints :
    (∃ placed ∈ placedLines brokenHints, placed.IsMalformed) ∧
      ∃ diagnostic span, parse brokenHints = .error [diagnostic] ∧
        diagnostic.outline = ⟨.error, some "E201", [(span, true)]⟩ ∧
        (span.start, span.stop) = (7, 10) ∧ span.IsIn brokenHints.toList := by
  have cut : (placedLines brokenHints).map PlacedLine.characters =
      ["é".toList, "\tñ # x\ry".toList, "z z".toList] := by
    decide +kernel
  have places : (match parse brokenHints with
      | .ok _ => []
      | .error diagnostics => diagnostics.map fun diagnostic =>
          diagnostic.labels.map fun label => (label.span.start, label.span.stop)) =
        [[(7, 10)]] := by
    decide +kernel
  have malformed : ∃ placed ∈ placedLines brokenHints, placed.IsMalformed := by
    have second : "\tñ # x\ry".toList ∈ (placedLines brokenHints).map PlacedLine.characters := by
      rw [cut]
      simp
    obtain ⟨placed, member, characters⟩ := List.mem_map.1 second
    refine ⟨placed, member, fun line spells => spells.1 ?_⟩
    rw [characters]
    decide
  obtain ⟨-, -, -, -, diagnostic, span, -, -, -, -, parsed, outline, -, -, isIn⟩ :=
    parse_eq_error_of_malformed malformed
  refine ⟨malformed, diagnostic, span, parsed, outline, ?_, isIn⟩
  have marked := congrArg Diagnostic.Outline.places outline
  obtain ⟨label, labels, labelEq⟩ := List.map_eq_singleton_iff.1 marked
  rw [parsed] at places
  simp only [List.map_cons, List.map_nil, labels, List.cons.injEq, and_true] at places
  rw [← places, ← (Prod.mk.inj labelEq).1]

end AstGrammar.AttributeOrder
