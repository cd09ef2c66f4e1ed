import AstGrammar.Text.CharacterClass
import AstGrammar.Text.Span

/-!
# Lines of attribute-order hints

A line may hold blanks, an identifier, more blanks and a comment from a number
sign up to its end. Lines end with a line feed or with a carriage return and a
line feed; any other carriage return is malformed, also in a comment.
-/

namespace AstGrammar.AttributeOrder

open Text

/-- A name with the place where it is written. -/
structure Hint where
  name : String
  span : Span
  deriving DecidableEq

/-- One line of hints. -/
inductive Line where
  | blank
  | heading (hint : Hint)
  | indented (hint : Hint)
  deriving DecidableEq

def isIndent (character : Char) : Bool := character == ' ' || character == '\t'

def isIdentifier (character : Char) : Bool :=
  isAlphanumeric character || character == '_' || character == '$'

def isLineEnd (character : Char) : Bool := character == '\r' || character == '\n'

/-- The text behind the line end that it starts with, and the size of that
line end. -/
def lineEnd? : List Char → Option (Nat × List Char)
  | '\n' :: rest => some (1, rest)
  | '\r' :: '\n' :: rest => some (2, rest)
  | _ => none

/-- A text that starts with a line end or is at its end. -/
def atLineEnd (text : List Char) : Bool := text.isEmpty || (lineEnd? text).isSome

/-- The text behind a comment, if one stands in front. A comment that meets a
carriage return without a line feed is none. -/
def skipComment (text : List Char) : List Char :=
  match text with
  | '#' :: rest =>
      let behind := rest.dropWhile fun character => !isLineEnd character
      if atLineEnd behind then behind else text
  | _ => text

/-- A line and the text behind it. -/
structure LineReading where
  line : Line
  rest : List Char

/-- Reads a line from the text that starts at an offset. What is left starts at
the line end, or at the first character that does not fit. -/
def readLine (offset : Nat) (text : List Char) : LineReading :=
  let indent := text.takeWhile isIndent
  let behindIndent := text.dropWhile isIndent
  let identifier := behindIndent.takeWhile isIdentifier
  let behind := (behindIndent.dropWhile isIdentifier).dropWhile isIndent
  let hint : Hint :=
    ⟨String.ofList identifier, .ofPiece (offset + byteSize indent) identifier⟩
  let line : Line :=
    if identifier.isEmpty then .blank
    else if indent.isEmpty then .heading hint
    else .indented hint
  ⟨line, skipComment behind⟩

theorem length_skipComment_le (text : List Char) :
    (skipComment text).length ≤ text.length := by
  unfold skipComment
  split
  · next rest =>
      have shorter := (List.dropWhile_sublist (l := rest) fun character =>
        !isLineEnd character).length_le
      simp only
      split
      · simp only [List.length_cons]
        omega
      · exact Nat.le_refl _
  · exact Nat.le_refl _

theorem length_readLine_le (offset : Nat) (text : List Char) :
    (readLine offset text).rest.length ≤ text.length := by
  simp only [readLine]
  let named := text.dropWhile isIndent
  let behind := named.dropWhile isIdentifier
  have first : named.length ≤ text.length := (List.dropWhile_sublist isIndent).length_le
  have second : behind.length ≤ named.length := (List.dropWhile_sublist isIdentifier).length_le
  have third : (behind.dropWhile isIndent).length ≤ behind.length :=
    (List.dropWhile_sublist isIndent).length_le
  have fourth := length_skipComment_le (behind.dropWhile isIndent)
  exact Nat.le_trans (Nat.le_trans fourth third) (Nat.le_trans second first)

theorem length_of_lineEnd? {text rest : List Char} {size : Nat}
    (found : lineEnd? text = some (size, rest)) : rest.length < text.length := by
  unfold lineEnd? at found
  split at found
  · cases found
    simp
  · cases found
    simp only [List.length_cons]
    omega
  · simp at found

/-- Reads all lines of the text that starts at an offset, or finds the rest of
the text from the first character that does not fit. -/
def readLines (offset : Nat) (text : List Char) : Except (List Char) (List Line) :=
  let reading := readLine offset text
  match found : lineEnd? reading.rest with
  | some (size, rest) =>
      have := length_of_lineEnd? found
      have : reading.rest.length ≤ text.length := length_readLine_le offset text
      match readLines (offset + (byteSize text - byteSize reading.rest) + size) rest with
      | .ok lines => .ok (reading.line :: lines)
      | .error unread => .error unread
  | none => if reading.rest.isEmpty then .ok [reading.line] else .error reading.rest
termination_by text.length

/-- The place of the malformed text: from the first character that does not fit
up to the end of its line. -/
def malformedSpan (text unread : List Char) : Span :=
  .ofPiece (byteSize text - byteSize unread)
    (unread.takeWhile fun character => !isLineEnd character)

end AstGrammar.AttributeOrder
