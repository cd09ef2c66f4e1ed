import AstGrammar.Text.Span

/-!
# Boundaries between characters

An offset into a text is a boundary between characters or falls inside one, and it falls
inside one exactly when the byte at it continues a character.  Line and column of an
offset lead back to the byte in front of it, or to the offset itself at the start of a
line; so whether there is a span for them depends on the byte in front of the offset.
-/

namespace AstGrammar.Text

/-- The bytes of a text in UTF-8. -/
def utf8 (text : List Char) : List UInt8 := text.flatMap String.utf8EncodeChar

/-- A byte of UTF-8 that continues a character. -/
def IsContinuation (byte : UInt8) : Prop := 0x80 ≤ byte.toNat ∧ byte.toNat < 0xC0

/-- The offset is that of a character or of the end of the text. -/
def IsBoundary (text : List Char) (offset : Nat) : Prop :=
  ∃ front back, text = front ++ back ∧ byteSize front = offset

section Bytes

variable {text : List Char} {offset : Nat}

@[simp] theorem utf8_nil : utf8 [] = [] := rfl

@[simp] theorem utf8_cons (character : Char) (rest : List Char) :
    utf8 (character :: rest) = String.utf8EncodeChar character ++ utf8 rest := rfl

theorem length_utf8 (text : List Char) : (utf8 text).length = byteSize text := by
  induction text with
  | nil => rfl
  | cons character rest ih =>
      rw [utf8_cons, List.length_append, String.length_utf8EncodeChar, ih, byteSize_cons]

theorem isContinuation_ofNat_iff {value : Nat} (small : value < 0x100) :
    IsContinuation (UInt8.ofNat value) ↔ 0x80 ≤ value ∧ value < 0xC0 := by
  rw [IsContinuation, UInt8.toNat_ofNat', Nat.mod_eq_of_lt small]

/-- A character is one byte that continues none, and then bytes that continue it. -/
theorem exists_utf8EncodeChar_eq (character : Char) :
    ∃ first others, String.utf8EncodeChar character = first :: others ∧
      ¬ IsContinuation first ∧ ∀ byte ∈ others, IsContinuation byte := by
  have continues (value : Nat) : IsContinuation (UInt8.ofNat (value % 0x40 + 0x80)) := by
    rw [isContinuation_ofNat_iff (by omega)]
    omega
  unfold String.utf8EncodeChar
  dsimp only
  split
  · refine ⟨_, [], rfl, ?_, by simp⟩
    rw [isContinuation_ofNat_iff (by omega)]
    omega
  · split
    · refine ⟨_, _, rfl, ?_, ?_⟩
      · rw [isContinuation_ofNat_iff (by omega)]
        omega
      · simp only [List.forall_mem_cons, continues, List.not_mem_nil, false_imp_iff,
          implies_true, and_self]
    · split
      · refine ⟨_, _, rfl, ?_, ?_⟩
        · rw [isContinuation_ofNat_iff (by omega)]
          omega
        · simp only [List.forall_mem_cons, continues, List.not_mem_nil, false_imp_iff,
            implies_true, and_self]
      · refine ⟨_, _, rfl, ?_, ?_⟩
        · rw [isContinuation_ofNat_iff (by omega)]
          omega
        · simp only [List.forall_mem_cons, continues, List.not_mem_nil, false_imp_iff,
            implies_true, and_self]

theorem dropBytes_append_add (front back : List Char) (offset : Nat) :
    dropBytes (front ++ back) (byteSize front + offset) = dropBytes back offset := by
  induction front with
  | nil => simp
  | cons character rest ih =>
      have positive := Char.utf8Size_pos character
      obtain ⟨size, sizeEq⟩ :
          ∃ size, byteSize (character :: rest) + offset = size + 1 :=
        ⟨character.utf8Size + byteSize rest + offset - 1, by rw [byteSize_cons]; omega⟩
      rw [byteSize_cons] at sizeEq
      rw [List.cons_append, byteSize_cons, sizeEq, dropBytes, if_neg (by omega),
        show size + 1 - character.utf8Size = byteSize rest + offset by omega]
      exact ih

theorem isBoundary_iff : IsBoundary text offset ↔ dropBytes text offset ≠ none := by
  constructor
  · rintro ⟨front, back, rfl, rfl⟩
    rw [dropBytes_byteSize_append]
    exact Option.some_ne_none back
  · intro found
    obtain ⟨back, backFound⟩ := Option.ne_none_iff_exists'.1 found
    obtain ⟨front, textEq, sizeEq⟩ := eq_append_of_dropBytes backFound
    exact ⟨front, back, textEq, sizeEq⟩

theorem le_byteSize_of_isBoundary (boundary : IsBoundary text offset) :
    offset ≤ byteSize text := by
  obtain ⟨front, back, rfl, rfl⟩ := boundary
  rw [byteSize_append]
  exact Nat.le_add_right _ _

theorem isBoundary_append (front back : List Char) :
    IsBoundary (front ++ back) (byteSize front) :=
  ⟨front, back, rfl, rfl⟩

/-- The offset in front of the last byte of a character is a boundary only if it has no
others. -/
theorem isBoundary_sub_one_iff {front back : List Char} {last : Char} :
    IsBoundary (front ++ last :: back) (byteSize front + last.utf8Size - 1) ↔
      last.utf8Size = 1 := by
  have positive := Char.utf8Size_pos last
  rw [isBoundary_iff, Nat.add_sub_assoc positive, dropBytes_append_add]
  cases before : last.utf8Size - 1 with
  | zero =>
      have single : last.utf8Size = 1 := by omega
      simp [single]
  | succ size =>
      have within : size + 1 < last.utf8Size := by omega
      have several : last.utf8Size ≠ 1 := by omega
      simp [dropBytes, within, several]

/-- An offset inside a text is no boundary exactly when the byte at it continues a
character. -/
theorem not_isBoundary_iff (inside : offset ≤ byteSize text) :
    ¬ IsBoundary text offset ↔ ∃ byte ∈ (utf8 text)[offset]?, IsContinuation byte := by
  rw [isBoundary_iff, Ne, Decidable.not_not]
  induction text generalizing offset with
  | nil =>
      have atStart : offset = 0 := Nat.le_zero.1 inside
      simp [atStart]
  | cons character rest ih =>
      obtain ⟨first, others, encoded, starts, continue'⟩ := exists_utf8EncodeChar_eq character
      have size : others.length + 1 = character.utf8Size := by
        rw [← String.length_utf8EncodeChar, encoded, List.length_cons]
      rw [byteSize_cons] at inside
      rw [utf8_cons, encoded]
      cases offset with
      | zero => simp [starts]
      | succ offset =>
          rw [dropBytes, List.cons_append, List.getElem?_cons_succ]
          split
          · next within =>
              have bound : offset < others.length := by omega
              rw [List.getElem?_append_left bound, List.getElem?_eq_getElem bound]
              simp [continue' _ (List.getElem_mem bound)]
          · next behind =>
              rw [List.getElem?_append_right (by omega),
                show offset + 1 - character.utf8Size = offset - others.length by omega]
              exact ih (by omega)

end Bytes

section Positions

variable {text : List Char} {offset : Nat}

/-- Lines and columns count bytes: those of the lines that were passed and those behind
the start of the line together are the bytes that were passed. -/
theorem linesSize_add_column_advance (position : Position) (inside : offset ≤ byteSize text) :
    position.line ≤ (position.advance text offset).line ∧
      linesSize text ((position.advance text offset).line - position.line) +
          (position.advance text offset).column =
        offset + if (position.advance text offset).line = position.line then position.column
          else 0 := by
  induction text generalizing position offset with
  | nil =>
      have atStart : offset = 0 := Nat.le_zero.1 inside
      simp [Position.advance, atStart, linesSize]
  | cons character rest ih =>
      rw [byteSize_cons] at inside
      rw [Position.advance]
      split
      · simp [linesSize, Nat.add_comm]
      · next passed =>
          split
          · next lineFeed =>
              have size : character.utf8Size = 1 := by rw [lineFeed]; rfl
              have left : offset - 1 ≤ byteSize rest := by omega
              obtain ⟨later, counted⟩ := ih ⟨position.line + 1, 0⟩ left
              dsimp only at later counted
              generalize Position.advance ⟨position.line + 1, 0⟩ rest (offset - 1) = reached
                at later counted
              obtain ⟨lines, linesEq⟩ : ∃ lines, reached.line - position.line = lines + 1 :=
                ⟨reached.line - position.line - 1, by omega⟩
              rw [linesEq, linesSize, if_pos lineFeed, if_neg (by omega)]
              rw [show reached.line - (position.line + 1) = lines by omega] at counted
              refine ⟨by omega, ?_⟩
              split at counted <;> omega
          · next lineFeed =>
              have left : offset - character.utf8Size ≤ byteSize rest := by omega
              obtain ⟨later, counted⟩ :=
                ih ⟨position.line, position.column + character.utf8Size⟩ left
              dsimp only at later counted
              generalize Position.advance ⟨position.line, position.column + character.utf8Size⟩
                rest (offset - character.utf8Size) = reached at later counted
              refine ⟨later, ?_⟩
              cases lines : reached.line - position.line with
              | zero =>
                  have sameLine : reached.line = position.line := by omega
                  rw [lines, if_pos sameLine] at counted
                  rw [if_pos sameLine]
                  simp only [linesSize] at counted ⊢
                  omega
              | succ count =>
                  have otherLine : reached.line ≠ position.line := by omega
                  rw [lines, if_neg otherLine] at counted
                  rw [if_neg otherLine, linesSize, if_neg lineFeed]
                  omega

theorem linesSize_add_column_ofOffset (inside : offset ≤ byteSize text) :
    linesSize text ((Position.ofOffset text offset).line - 1) +
      (Position.ofOffset text offset).column = offset := by
  have counted := (linesSize_add_column_advance ⟨1, 0⟩ inside).2
  rw [Position.ofOffset]
  simpa using counted

/-- Only where a line starts does no byte of it stand in front. -/
theorem column_advance_eq_zero {position : Position} (inside : offset ≤ byteSize text)
    (first : (position.advance text offset).column = 0) :
    (offset = 0 ∧ position.column = 0) ∨
      ∃ front back, text = front ++ '\n' :: back ∧ byteSize front + 1 = offset := by
  induction text generalizing position offset with
  | nil => exact Or.inl ⟨Nat.le_zero.1 inside, first⟩
  | cons character rest ih =>
      rw [byteSize_cons] at inside
      rw [Position.advance] at first
      split at first
      · exact Or.inl (And.comm.1 (Nat.add_eq_zero_iff.1 first))
      · have positive := Char.utf8Size_pos character
        split at first
        · next lineFeed =>
            have size : character.utf8Size = 1 := by rw [lineFeed]; rfl
            rcases ih (by omega) first with ⟨atStart, -⟩ | ⟨front, back, restEq, offsetEq⟩
            · exact Or.inr ⟨[], rest, by simp [lineFeed], by rw [byteSize_nil]; omega⟩
            · refine Or.inr ⟨character :: front, back, by simp [restEq], ?_⟩
              rw [byteSize_cons]
              omega
        · rcases ih (by omega) first with ⟨-, column⟩ | ⟨front, back, restEq, offsetEq⟩
          · dsimp only at column
            omega
          · refine Or.inr ⟨character :: front, back, by simp [restEq], ?_⟩
            rw [byteSize_cons]
            omega

/-- Line and column of an offset have no span exactly when the byte in front of the offset
continues a character. -/
theorem atLineColumn_ofOffset_eq_none_iff (inside : offset ≤ byteSize text) :
    Span.atLineColumn text (Position.ofOffset text offset).line
        (Position.ofOffset text offset).column = none ↔
      ¬ IsBoundary text (offset - 1) := by
  have counted := linesSize_add_column_ofOffset inside
  rw [Span.atLineColumn, Option.map_eq_none_iff, Span.offsetAt, isBoundary_iff, Ne,
    Decidable.not_not]
  by_cases first : (Position.ofOffset text offset).column = 0
  · -- At the start of a line the offset and the one in front of it are both boundaries.
    have start : min (linesSize text ((Position.ofOffset text offset).line - 1) +
        ((Position.ofOffset text offset).column - 1)) (byteSize text) = offset := by omega
    rw [start]
    rcases column_advance_eq_zero inside first with ⟨rfl, -⟩ | ⟨front, back, rfl, rfl⟩
    · rfl
    · have behind : IsBoundary (front ++ '\n' :: back) (byteSize front + 1) :=
        ⟨front ++ ['\n'], back, by simp, by simp [Char.utf8Size]⟩
      have before : IsBoundary (front ++ '\n' :: back) (byteSize front + 1 - 1) :=
        ⟨front, '\n' :: back, rfl, rfl⟩
      rw [isBoundary_iff] at behind before
      simp only [behind, before]
  · have start : min (linesSize text ((Position.ofOffset text offset).line - 1) +
        ((Position.ofOffset text offset).column - 1)) (byteSize text) = offset - 1 := by omega
    rw [start]

end Positions

end AstGrammar.Text
