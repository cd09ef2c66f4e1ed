import Mathlib.Data.List.Forall2
import AstGrammar.Proofs.AttributeOrder.WrittenLine

/-!
# The lines of a text

A text is cut into lines at its line ends.  Reading the lines of a text succeeds
exactly when each of them is written as it should be, and then gives what they
spell.  The names in them are found where their spans point, and the spans follow
each other as the names do.
-/

namespace AstGrammar.AttributeOrder

open Text

/-- A line without its line end, and the offset at which it starts. -/
structure PlacedLine where
  offset : Nat
  characters : List Char

/-- The line has no carriage return, and its parts say this. -/
def PlacedLine.Spells (placed : PlacedLine) (line : Line) : Prop :=
  '\r' ∉ placed.characters ∧
    ∃ parts : LineParts, placed.characters = parts.characters ∧ line = parts.line placed.offset

/-- Cuts a text into lines at each line feed, with a carriage return in front
of it if there is one. The first line starts at the offset, and `front` is what
it holds in front of the text. -/
def cutLines (offset : Nat) (front : List Char) : List Char → List PlacedLine
  | [] => [⟨offset, front⟩]
  | '\n' :: rest => ⟨offset, front⟩ :: cutLines (offset + byteSize front + 1) [] rest
  | '\r' :: '\n' :: rest => ⟨offset, front⟩ :: cutLines (offset + byteSize front + 2) [] rest
  | character :: rest => cutLines offset (front ++ [character]) rest

def placedLines (text : String) : List PlacedLine := cutLines 0 [] text.toList

/-- The lines behind the line that ends at the offset. -/
def linesBehind (offset : Nat) (tail : List Char) : List PlacedLine :=
  match lineEnd? tail with
  | some (size, rest) => cutLines (offset + size) [] rest
  | none => []

variable {offset : Nat} {front text tail : List Char}

theorem cutLines_of_atLineEnd (offset : Nat) (front : List Char)
    (ends : atLineEnd tail = true) :
    cutLines offset front tail =
      ⟨offset, front⟩ :: linesBehind (offset + byteSize front) tail := by
  rcases atLineEnd_cases ends with rfl | ⟨rest, rfl⟩ | ⟨rest, rfl⟩ <;>
    simp [cutLines, linesBehind, lineEnd?]

/-- A piece without line ends belongs to the first line. -/
theorem cutLines_append (offset : Nat) (front : List Char) {piece : List Char}
    (unbroken : ∀ character ∈ piece, isLineEnd character = false) (text : List Char) :
    cutLines offset front (piece ++ text) = cutLines offset (front ++ piece) text := by
  induction piece generalizing front with
  | nil => simp
  | cons first rest ih =>
      obtain ⟨noReturn, noFeed⟩ := isLineEnd_eq_false_iff.1 (unbroken first List.mem_cons_self)
      have restUnbroken : ∀ character ∈ rest, isLineEnd character = false :=
        fun character member => unbroken character (List.mem_cons_of_mem _ member)
      rw [List.cons_append, cutLines.eq_4 _ _ _ _ noFeed fun _ equal _ => noReturn equal,
        ih _ restUnbroken, List.append_assoc, List.singleton_append]

/-- The first line reaches up to the first line end. -/
theorem exists_first_cutLines (offset : Nat) (front text : List Char) :
    ∃ piece tail, text = piece ++ tail ∧ '\n' ∉ piece ∧ atLineEnd tail = true ∧
      cutLines offset front text =
        ⟨offset, front ++ piece⟩ :: linesBehind (offset + byteSize (front ++ piece)) tail := by
  induction text generalizing front with
  | nil =>
      refine ⟨[], [], rfl, List.not_mem_nil, rfl, ?_⟩
      rw [List.append_nil]
      exact cutLines_of_atLineEnd offset front rfl
  | cons first rest ih =>
      by_cases ends : atLineEnd (first :: rest) = true
      · refine ⟨[], first :: rest, rfl, List.not_mem_nil, ends, ?_⟩
        rw [List.append_nil]
        exact cutLines_of_atLineEnd offset front ends
      · have noFeed : first ≠ '\n' := by
          rintro rfl
          exact ends rfl
        have noReturn : ∀ others, first = '\r' → rest = '\n' :: others → False := by
          rintro others rfl rfl
          exact ends rfl
        obtain ⟨piece, tail, rfl, unbroken, tailEnds, cut⟩ := ih (front ++ [first])
        refine ⟨first :: piece, tail, rfl, ?_, tailEnds, ?_⟩
        · exact List.not_mem_cons_of_ne_of_not_mem (Ne.symm noFeed) unbroken
        · rw [cutLines.eq_4 _ _ _ _ noFeed noReturn, cut, List.append_assoc,
            List.singleton_append]

/-- A line with these parts spells what they say, and nothing else. -/
theorem spells_characters_iff {parts : LineParts}
    (unbroken : ∀ character ∈ parts.characters, isLineEnd character = false) {line : Line} :
    PlacedLine.Spells ⟨offset, parts.characters⟩ line ↔ line = parts.line offset := by
  constructor
  · rintro ⟨-, others, equal, rfl⟩
    have ends : atLineEnd [] = true := rfl
    have read := readLine_append unbroken ends offset
    dsimp only at equal
    rw [equal] at read unbroken
    rw [readLine_append unbroken ends offset] at read
    exact congrArg LineReading.line read
  · rintro rfl
    refine ⟨fun member => ?_, parts, rfl, rfl⟩
    have broken := unbroken '\r' member
    revert broken
    decide

/-- Reading goes on behind the line end. -/
theorem readLines_append {parts : LineParts}
    (unbroken : ∀ character ∈ parts.characters, isLineEnd character = false)
    (ends : atLineEnd tail = true) (offset : Nat) :
    readLines offset (parts.characters ++ tail) =
      match lineEnd? tail with
      | some (size, rest) =>
          (readLines (offset + byteSize parts.characters + size) rest).map
            (parts.line offset :: ·)
      | none => .ok [parts.line offset] := by
  have size : byteSize (parts.characters ++ tail) - byteSize tail =
      byteSize parts.characters := by
    rw [byteSize_append]
    omega
  rw [readLines]
  simp only [readLine_append unbroken ends offset, size]
  split
  · next length rest found =>
      rw [readLine_append unbroken ends offset] at found
      dsimp only at found
      rw [found]
      dsimp only
      cases readLines (offset + byteSize parts.characters + length) rest <;> rfl
  · next found =>
      rw [readLine_append unbroken ends offset] at found
      dsimp only at found
      rw [atLineEnd, found, Option.isSome_none, Bool.or_false] at ends
      rw [found, if_pos ends]

/-- Reading stops where a line does not go on. -/
theorem readLines_of_not_atLineEnd
    (stuck : atLineEnd (readLine offset text).rest = false) :
    readLines offset text = .error (readLine offset text).rest := by
  rw [atLineEnd, Bool.or_eq_false_iff, Option.isSome_eq_false_iff, Option.isNone_iff_eq_none]
    at stuck
  rw [readLines]
  dsimp only
  split
  · next found =>
      rw [stuck.2] at found
      cases found
  · rw [stuck.1]
    rfl

/-- A line that spells something is read up to its end. -/
theorem atLineEnd_of_spells {piece : List Char} {line : Line} (noFeed : '\n' ∉ piece)
    (ends : atLineEnd tail = true) (spells : PlacedLine.Spells ⟨offset, piece⟩ line) :
    atLineEnd (readLine offset (piece ++ tail)).rest = true := by
  obtain ⟨noReturn, parts, characters, -⟩ := spells
  dsimp only at noReturn characters
  have unbroken : ∀ character ∈ parts.characters, isLineEnd character = false := by
    rw [← characters]
    intro character member
    rw [isLineEnd_eq_false_iff]
    constructor
    · rintro rfl
      exact noReturn member
    · rintro rfl
      exact noFeed member
  rw [characters, readLine_append unbroken ends]
  exact ends

/-- The lines of a text are read exactly when each spells something, and then as
what they spell. -/
theorem readLines_eq_ok_iff {lines : List Line} :
    readLines offset text = .ok lines ↔
      List.Forall₂ PlacedLine.Spells (cutLines offset [] text) lines := by
  induction size : text.length using Nat.strongRecOn generalizing offset text lines with
  | ind bound ih =>
      obtain ⟨parts, textEq, -, unbroken⟩ := exists_parts_readLine offset text
      cases ends : atLineEnd (readLine offset text).rest with
      | false =>
          rw [readLines_of_not_atLineEnd ends]
          simp only [reduceCtorEq, false_iff]
          intro spelled
          obtain ⟨piece, tail, pieceEq, noFeed, tailEnds, cut⟩ :=
            exists_first_cutLines offset [] text
          rw [cut, List.nil_append] at spelled
          cases spelled with
          | cons first _ =>
              rw [pieceEq, atLineEnd_of_spells noFeed tailEnds first] at ends
              cases ends
      | true =>
          generalize (readLine offset text).rest = tail at textEq ends
          rw [textEq, readLines_append unbroken ends, cutLines_append _ _ unbroken,
            List.nil_append, cutLines_of_atLineEnd _ _ ends, List.forall₂_cons_left_iff,
            linesBehind]
          cases found : lineEnd? tail with
          | none => simp [spells_characters_iff unbroken, eq_comm]
          | some reading =>
              obtain ⟨length, rest⟩ := reading
              have shorter : rest.length < bound := by
                have := length_of_lineEnd? found
                have := congrArg List.length textEq
                rw [List.length_append] at this
                omega
              dsimp only
              simp only [← ih rest.length shorter rfl, spells_characters_iff unbroken]
              cases readLines (offset + byteSize parts.characters + length) rest with
              | error unread => simp [Except.map]
              | ok others => simp [Except.map, eq_comm]

/-- The name that a line gives, with its place. -/
def Line.hint? : Line → Option Hint
  | .blank => none
  | .heading hint => some hint
  | .indented hint => some hint

theorem LineParts.eq_hint_of_mem {parts : LineParts} {hint : Hint}
    (given : hint ∈ (parts.line offset).hint?) : hint = parts.hint offset := by
  rw [LineParts.line] at given
  split at given
  · cases given
  · split at given <;> exact (Option.some.inj given).symm

/-- Every line stands in the text at its offset. -/
theorem exists_append_of_mem_cutLines {placed : PlacedLine}
    (member : placed ∈ cutLines offset front text) :
    ∃ before behind, front ++ text = before ++ (placed.characters ++ behind) ∧
      placed.offset = offset + byteSize before := by
  fun_induction cutLines offset front text with
  | case1 offset front =>
      rw [List.mem_singleton.1 member]
      exact ⟨[], [], rfl, rfl⟩
  | case2 offset front rest ih =>
      rcases List.mem_cons.1 member with here | later
      · rw [here]
        exact ⟨[], '\n' :: rest, rfl, rfl⟩
      · obtain ⟨before, behind, restEq, offsetEq⟩ := ih later
        refine ⟨front ++ '\n' :: before, behind, ?_, ?_⟩
        · simpa using restEq
        · simp [offsetEq, Char.utf8Size]
          omega
  | case3 offset front rest ih =>
      rcases List.mem_cons.1 member with here | later
      · rw [here]
        exact ⟨[], '\r' :: '\n' :: rest, rfl, rfl⟩
      · obtain ⟨before, behind, restEq, offsetEq⟩ := ih later
        refine ⟨front ++ '\r' :: '\n' :: before, behind, ?_, ?_⟩
        · simpa using restEq
        · simp [offsetEq, Char.utf8Size]
          omega
  | case4 offset front character rest _ _ ih =>
      obtain ⟨before, behind, restEq, offsetEq⟩ := ih member
      exact ⟨before, behind, by simpa using restEq, offsetEq⟩

/-- Each line starts behind the end of the lines in front of it. -/
theorem pairwise_cutLines (offset : Nat) (front text : List Char) :
    (cutLines offset front text).Pairwise fun earlier later =>
      earlier.offset + byteSize earlier.characters < later.offset := by
  have behind : ∀ {start size : Nat} {rest : List Char},
      ∀ placed ∈ cutLines (start + size) [] rest, start + size ≤ placed.offset := by
    intro start size rest placed member
    obtain ⟨before, -, -, offsetEq⟩ := exists_append_of_mem_cutLines member
    omega
  fun_induction cutLines offset front text with
  | case1 => exact List.pairwise_singleton _ _
  | case2 offset front rest ih =>
      refine List.pairwise_cons.2 ⟨fun placed member => ?_, ih⟩
      exact behind placed member
  | case3 offset front rest ih =>
      refine List.pairwise_cons.2 ⟨fun placed member => ?_, ih⟩
      exact Nat.lt_of_succ_lt (behind placed member)
  | case4 offset front character rest _ _ ih => exact ih

section Places

variable {placed : PlacedLine} {line : Line} {hint : Hint}

/-- The name in a line is found where its span points. -/
theorem text?_of_spells {source : String} (member : placed ∈ placedLines source)
    (spelled : placed.Spells line) (given : hint ∈ line.hint?) :
    hint.span.text? source.toList = some hint.name.toList := by
  obtain ⟨-, parts, characters, rfl⟩ := spelled
  obtain ⟨before, behind, sourceEq, offsetEq⟩ := exists_append_of_mem_cutLines member
  have start : placed.offset + byteSize parts.indent = byteSize (before ++ parts.indent) := by
    rw [byteSize_append]
    omega
  have split : source.toList =
      (before ++ parts.indent) ++ (parts.name ++ (parts.gap ++ parts.comment ++ behind)) := by
    simpa [characters, LineParts.characters] using sourceEq
  rw [LineParts.eq_hint_of_mem given, LineParts.hint, start, split, String.toList_ofList]
  exact Span.text?_ofPiece _ _ _

/-- The name in a line starts in it. -/
theorem start_of_spells (spelled : placed.Spells line) (given : hint ∈ line.hint?) :
    placed.offset ≤ hint.span.start ∧
      hint.span.start ≤ placed.offset + byteSize placed.characters := by
  obtain ⟨-, parts, characters, rfl⟩ := spelled
  have start : hint.span.start = placed.offset + byteSize parts.indent :=
    congrArg (·.span.start) (LineParts.eq_hint_of_mem given)
  have size : byteSize placed.characters = byteSize parts.indent +
      byteSize (parts.name ++ (parts.gap ++ parts.comment)) := by
    rw [characters, LineParts.characters, byteSize_append]
  omega

theorem exists_spells_of_mem {cut : List PlacedLine} {lines : List Line}
    (spelled : List.Forall₂ PlacedLine.Spells cut lines) (member : line ∈ lines) :
    ∃ placed ∈ cut, placed.Spells line := by
  induction spelled with
  | nil => cases member
  | @cons first _ _ _ here _ ih =>
      rcases List.mem_cons.1 member with rfl | later
      · exact ⟨first, List.mem_cons_self, here⟩
      · obtain ⟨placed, placedMember, spells⟩ := ih later
        exact ⟨placed, List.mem_cons_of_mem _ placedMember, spells⟩

/-- The names of lines that follow each other start one behind the other. -/
theorem pairwise_start_of_spells {cut : List PlacedLine} {lines : List Line}
    (apart : cut.Pairwise fun earlier later =>
      earlier.offset + byteSize earlier.characters < later.offset)
    (spelled : List.Forall₂ PlacedLine.Spells cut lines) :
    (lines.filterMap Line.hint?).Pairwise fun earlier later =>
      earlier.span.start < later.span.start := by
  induction spelled with
  | nil => exact List.Pairwise.nil
  | @cons first line rest lines here later ih =>
      obtain ⟨inFront, restApart⟩ := List.pairwise_cons.1 apart
      rw [List.filterMap_cons]
      cases given : line.hint? with
      | none => exact ih restApart
      | some hint =>
          refine List.pairwise_cons.2 ⟨?_, ih restApart⟩
          intro other member
          obtain ⟨otherLine, otherMember, otherGiven⟩ := List.mem_filterMap.1 member
          obtain ⟨placed, placedMember, spells⟩ := exists_spells_of_mem later otherMember
          have ends := (start_of_spells here given).2
          have starts := (start_of_spells spells otherGiven).1
          have between := inFront placed placedMember
          omega

end Places

end AstGrammar.AttributeOrder
