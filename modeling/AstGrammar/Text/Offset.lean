/-!
# Byte offsets into a text

Places in a text are counted in UTF-8 bytes. A character takes one to four
bytes, so an offset may fall inside a character; everything here says what
happens then instead of assuming that it does not.
-/

namespace AstGrammar.Text

def byteSize : List Char → Nat
  | [] => 0
  | character :: rest => character.utf8Size + byteSize rest

/-- The rest of a text from a byte offset on, or nothing where the offset
falls inside a character or behind the end. -/
def dropBytes : List Char → Nat → Option (List Char)
  | text, 0 => some text
  | [], _ + 1 => none
  | character :: rest, offset + 1 =>
      if offset + 1 < character.utf8Size then none
      else dropBytes rest (offset + 1 - character.utf8Size)

/-- The start of a text up to a byte offset, or nothing where the offset
falls inside a character or behind the end. -/
def takeBytes : List Char → Nat → Option (List Char)
  | _, 0 => some []
  | [], _ + 1 => none
  | character :: rest, offset + 1 =>
      if offset + 1 < character.utf8Size then none
      else (takeBytes rest (offset + 1 - character.utf8Size)).map (character :: ·)

/-- The characters between two byte offsets, if both are boundaries. -/
def slice (text : List Char) (start stop : Nat) : Option (List Char) := do
  takeBytes (← dropBytes text start) (stop - start)

/-- The number of bytes in the first `count` lines, each with its line feed.
A text with fewer lines is counted whole. -/
def linesSize : List Char → Nat → Nat
  | _, 0 => 0
  | [], _ + 1 => 0
  | character :: rest, count + 1 =>
      character.utf8Size + linesSize rest (if character = '\n' then count else count + 1)

@[simp] theorem byteSize_nil : byteSize [] = 0 := rfl

@[simp] theorem byteSize_cons (character : Char) (rest : List Char) :
    byteSize (character :: rest) = character.utf8Size + byteSize rest := rfl

@[simp] theorem byteSize_append (front back : List Char) :
    byteSize (front ++ back) = byteSize front + byteSize back := by
  induction front with
  | nil => simp
  | cons character rest ih => simp [ih, Nat.add_assoc]

theorem byteSize_toList (text : String) : byteSize text.toList = text.utf8ByteSize := by
  have sizeOf : ∀ characters : List Char,
      byteSize characters = (String.ofList characters).utf8ByteSize := by
    intro characters
    induction characters with
    | nil => rfl
    | cons character rest ih =>
        have split : String.ofList (character :: rest) =
            String.singleton character ++ String.ofList rest := by
          rw [String.singleton_eq_ofList, ← String.ofList_append]
          rfl
        rw [byteSize_cons, ih, split, String.utf8ByteSize_append, String.utf8ByteSize_singleton]
  rw [sizeOf, String.ofList_toList]

@[simp] theorem dropBytes_zero (text : List Char) : dropBytes text 0 = some text := by
  cases text <;> rfl

@[simp] theorem takeBytes_zero (text : List Char) : takeBytes text 0 = some [] := by
  cases text <;> rfl

/-- The offset behind a front part is a boundary, and the back part follows it. -/
theorem dropBytes_byteSize_append (front back : List Char) :
    dropBytes (front ++ back) (byteSize front) = some back := by
  induction front with
  | nil => simp
  | cons character rest ih =>
      have positive := Char.utf8Size_pos character
      obtain ⟨size, sizeEq⟩ : ∃ size, character.utf8Size + byteSize rest = size + 1 :=
        ⟨character.utf8Size + byteSize rest - 1, by omega⟩
      simp only [List.cons_append, byteSize_cons, sizeEq, dropBytes]
      rw [if_neg (by omega), show size + 1 - character.utf8Size = byteSize rest by omega]
      exact ih

/-- The text in front of the offset behind a front part is that part. -/
theorem takeBytes_byteSize_append (front back : List Char) :
    takeBytes (front ++ back) (byteSize front) = some front := by
  induction front with
  | nil => simp
  | cons character rest ih =>
      have positive := Char.utf8Size_pos character
      obtain ⟨size, sizeEq⟩ : ∃ size, character.utf8Size + byteSize rest = size + 1 :=
        ⟨character.utf8Size + byteSize rest - 1, by omega⟩
      simp only [List.cons_append, byteSize_cons, sizeEq, takeBytes]
      rw [if_neg (by omega), show size + 1 - character.utf8Size = byteSize rest by omega, ih]
      rfl

/-- A piece of a text is cut out between the offsets in front of and behind it. -/
theorem slice_append (front piece back : List Char) :
    slice (front ++ (piece ++ back)) (byteSize front) (byteSize front + byteSize piece) =
      some piece := by
  rw [slice, dropBytes_byteSize_append, Nat.add_sub_cancel_left]
  exact takeBytes_byteSize_append piece back

/-- An offset is a boundary only behind some front part of the text. -/
theorem eq_append_of_dropBytes {text back : List Char} {offset : Nat}
    (found : dropBytes text offset = some back) :
    ∃ front, text = front ++ back ∧ byteSize front = offset := by
  induction text generalizing offset with
  | nil =>
      cases offset with
      | zero => exact ⟨[], by simpa using found, rfl⟩
      | succ offset => simp [dropBytes] at found
  | cons character rest ih =>
      cases offset with
      | zero => exact ⟨[], by simpa using found, rfl⟩
      | succ offset =>
          simp only [dropBytes] at found
          split at found
          · simp at found
          · obtain ⟨front, textEq, sizeEq⟩ := ih found
            refine ⟨character :: front, by simp [textEq], ?_⟩
            simp only [byteSize_cons, sizeEq]
            omega

end AstGrammar.Text
