import Mathlib.Data.List.Induction
import AstGrammar.Proofs.Text.Boundary

/-!
# Lines and columns of a text

The line of an offset counts the line feeds in front of it, and its column counts the bytes
behind the last of them.  Adding up the lines in front and the column gives the offset back,
so the span at a line and a column is that of the byte in front of the offset, or of the
offset itself where the line starts.
-/

namespace AstGrammar.Text

/-- The byte that ends a line. -/
def lineFeed : UInt8 := 10

/-- The lines of a text, each with the line feed that ends it. -/
def lines : List Char → List (List Char)
  | [] => []
  | character :: rest =>
      if character = '\n' then [character] :: lines rest
      else
        match lines rest with
        | [] => [[character]]
        | line :: others => (character :: line) :: others

/-- The line of an offset: one more than the line feeds in front of it. -/
def lineAt (text : List Char) (offset : Nat) : Nat :=
  ((utf8 text).take offset).count lineFeed + 1

/-- The column of an offset: the bytes in front of it that are behind the last line feed. -/
def columnAt (text : List Char) (offset : Nat) : Nat :=
  (((utf8 text).take offset).reverse.takeWhile fun byte => byte != lineFeed).length

/-- The byte in front of an offset, or the offset itself where its line starts. -/
def pointedAt (text : List Char) (offset : Nat) : Nat :=
  if columnAt text offset = 0 then offset else offset - 1

theorem linesSize_eq (text : List Char) (count : Nat) :
    linesSize text count = byteSize ((lines text).take count).flatten := by
  induction text generalizing count with
  | nil => cases count <;> simp [linesSize, lines]
  | cons character rest ih =>
      cases count with
      | zero => simp [linesSize]
      | succ count =>
          rw [linesSize, lines]
          by_cases ends : character = '\n'
          · rw [if_pos ends, if_pos ends, ih]
            simp
          · rw [if_neg ends, if_neg ends, ih]
            cases lines rest with
            | nil => simp
            | cons line others => simp

section Bytes

variable {character : Char}

theorem lineFeed_eq_ofNat_iff {value : Nat} (small : value < 0x100) :
    lineFeed = UInt8.ofNat value ↔ value = 10 := by
  rw [← UInt8.toNat_inj, UInt8.toNat_ofNat', Nat.mod_eq_of_lt small]
  exact eq_comm

/-- The byte of a line feed is written for no other character. -/
theorem lineFeed_notMem_utf8EncodeChar (other : character ≠ '\n') :
    lineFeed ∉ String.utf8EncodeChar character := by
  unfold String.utf8EncodeChar
  dsimp only
  split
  · rw [List.mem_singleton, lineFeed_eq_ofNat_iff (by omega)]
    exact fun value => other (Char.toNat_inj.1 value)
  · split
    · simp (disch := omega) only [List.mem_cons, List.not_mem_nil, or_false,
        lineFeed_eq_ofNat_iff]
      omega
    · split <;>
      · simp (disch := omega) only [List.mem_cons, List.not_mem_nil, or_false,
          lineFeed_eq_ofNat_iff]
        omega

end Bytes

namespace Position

/-- Moves a position over one byte. -/
def pass (position : Position) (byte : UInt8) : Position :=
  if byte = lineFeed then ⟨position.line + 1, 0⟩ else ⟨position.line, position.column + 1⟩

theorem foldl_pass_of_notMem {position : Position} {bytes : List UInt8}
    (absent : lineFeed ∉ bytes) :
    bytes.foldl pass position = ⟨position.line, position.column + bytes.length⟩ := by
  induction bytes generalizing position with
  | nil => rfl
  | cons byte rest ih =>
      rw [List.mem_cons, not_or] at absent
      rw [List.foldl_cons, pass, if_neg (Ne.symm absent.1), ih absent.2, List.length_cons,
        Nat.add_assoc, Nat.add_comm 1]

/-- A position moves over characters as it moves over their bytes, one by one. -/
theorem advance_eq_foldl (position : Position) (text : List Char) (offset : Nat) :
    position.advance text offset = ((utf8 text).take offset).foldl pass position := by
  induction text generalizing position offset with
  | nil => simp [advance]
  | cons character rest ih =>
      have size : (String.utf8EncodeChar character).length = character.utf8Size :=
        String.length_utf8EncodeChar character
      rw [advance, utf8_cons, List.take_append, size, List.foldl_append]
      split
      · next within =>
          -- The offset cuts the character, and a part of one holds no line feed.
          have absent : lineFeed ∉ (String.utf8EncodeChar character).take offset := by
            intro taken
            have other : character ≠ '\n' := by
              rintro rfl
              rw [Nat.lt_one_iff.1 within] at taken
              exact absurd taken List.not_mem_nil
            exact lineFeed_notMem_utf8EncodeChar other (List.mem_of_mem_take taken)
          rw [foldl_pass_of_notMem absent, List.length_take_of_le (by omega),
            Nat.sub_eq_zero_of_le (by omega), List.take_zero, List.foldl_nil]
      · next passed =>
          rw [List.take_of_length_le (by omega)]
          split
          · next ends =>
              subst ends
              exact ih _ _
          · next other =>
              rw [foldl_pass_of_notMem (lineFeed_notMem_utf8EncodeChar other), size]
              exact ih _ _

/-- The bytes in front of an offset give its line and its column. -/
theorem ofOffset_eq (text : List Char) (offset : Nat) :
    ofOffset text offset = ⟨lineAt text offset, columnAt text offset⟩ := by
  rw [ofOffset, advance_eq_foldl, lineAt, columnAt]
  induction (utf8 text).take offset using List.reverseRecOn with
  | nil => rfl
  | append_singleton bytes byte ih =>
      rw [List.foldl_append, ih, List.foldl_cons, List.foldl_nil, pass, List.count_append,
        List.reverse_concat]
      by_cases ends : byte = lineFeed
      · simp [ends]
      · simp [ends]

end Position

namespace Span

variable {text : List Char} {span : Span} {offset : Nat}

/-- The span starts at an offset and ends behind the character there, or where it starts if
the text ends there. -/
def IsCharacterAt (span : Span) (text : List Char) (offset : Nat) : Prop :=
  span.start = offset ∧
    ((∃ front character back, text = front ++ character :: back ∧ byteSize front = offset ∧
        span.stop = offset + character.utf8Size) ∨
      (offset = byteSize text ∧ span.stop = offset))

/-- At a boundary stands a character or the end of the text. -/
theorem isCharacterAt_ofPiece {rest : List Char} (dropped : dropBytes text offset = some rest) :
    (ofPiece offset (rest.take 1)).IsCharacterAt text offset := by
  obtain ⟨front, rfl, size⟩ := eq_append_of_dropBytes dropped
  refine ⟨rfl, ?_⟩
  cases rest with
  | nil => exact .inr ⟨by simp [size], by simp [ofPiece]⟩
  | cons character back => exact .inl ⟨front, character, back, rfl, size, by simp [ofPiece]⟩

/-- The line and the column of an offset lead back to the byte in front of it, or to the
offset where its line starts. -/
theorem offsetAt_lineAt_columnAt (inside : offset ≤ byteSize text) :
    offsetAt text (lineAt text offset) (columnAt text offset) = pointedAt text offset := by
  have counted := linesSize_add_column_ofOffset inside
  rw [Position.ofOffset_eq] at counted
  dsimp only at counted
  rw [offsetAt, pointedAt]
  split <;> omega

/-- The span at the line and the column of an offset is the character that starts at the byte
in front of it, or at the offset itself where its line starts, provided that a character
starts there.  A line and a column that lead to the end of the text or behind it give the
empty span at the end. -/
theorem atLineColumn_places (text : List Char) :
    (∀ offset ≤ byteSize text,
      IsBoundary text (pointedAt text offset) →
        ∃ span, atLineColumn text (lineAt text offset) (columnAt text offset) = some span ∧
          span.IsCharacterAt text (pointedAt text offset)) ∧
    ∀ line column,
      byteSize text ≤ byteSize ((lines text).take (line - 1)).flatten + (column - 1) →
        ∃ span, atLineColumn text line column = some span ∧ span.isEmpty = true ∧
          span.start = byteSize text := by
  refine ⟨fun offset inside boundary => ?_, fun line column behind => ?_⟩
  · obtain ⟨rest, dropped⟩ := Option.ne_none_iff_exists'.1 (isBoundary_iff.1 boundary)
    refine ⟨ofPiece _ (rest.take 1), ?_, isCharacterAt_ofPiece dropped⟩
    rw [atLineColumn, offsetAt_lineAt_columnAt inside, dropped]
    rfl
  · have atEnd : offsetAt text line column = byteSize text := by
      rw [offsetAt, linesSize_eq]
      exact Nat.min_eq_right behind
    have dropped : dropBytes text (byteSize text) = some [] := by
      simpa using dropBytes_byteSize_append text []
    refine ⟨ofPiece (byteSize text) [], ?_, by simp [isEmpty, ofPiece], rfl⟩
    rw [atLineColumn, atEnd, dropped]
    rfl

/-- An offset inside the last character of a text, and a line behind its last one. -/
theorem atLineColumn_insideCharacter :
    let text := ['{', '\n', 'é']
    (3 ≤ byteSize text ∧ IsBoundary text (pointedAt text 3) ∧
      ∃ span, atLineColumn text (lineAt text 3) (columnAt text 3) = some span ∧
        span.IsCharacterAt text 2) ∧
    byteSize text ≤ byteSize ((lines text).take (3 - 1)).flatten + (9 - 1) ∧
      ∃ span, atLineColumn text 3 9 = some span ∧ span.isEmpty = true ∧ span.start = 4 := by
  intro text
  have inside : 3 ≤ byteSize text := by decide
  have boundary : IsBoundary text (pointedAt text 3) := ⟨['{', '\n'], ['é'], rfl, by decide⟩
  have behind : byteSize text ≤ byteSize ((lines text).take (3 - 1)).flatten + (9 - 1) := by
    decide
  obtain ⟨characters, ends⟩ := atLineColumn_places text
  exact ⟨⟨inside, boundary, characters 3 inside boundary⟩, behind, ends 3 9 behind⟩

end Span

end AstGrammar.Text
