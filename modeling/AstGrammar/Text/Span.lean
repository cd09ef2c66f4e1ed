import AstGrammar.Text.Offset
import AstGrammar.Text.CharacterClass

/-!
# Spans and positions in a text

A span is a half-open range of byte offsets. A position is a line counted from
one and the number of bytes between the start of that line and the place.
-/

namespace AstGrammar.Text

/-- A half-open range of byte offsets. -/
structure Span where
  start : Nat
  stop : Nat
  start_le_stop : start ≤ stop := by omega
  deriving DecidableEq

namespace Span

/-- The span between two offsets, empty at the first when they are reversed. -/
def between (start stop : Nat) : Span where
  start := start
  stop := max start stop

/-- The span of a piece of text that starts at an offset. -/
def ofPiece (start : Nat) (piece : List Char) : Span where
  start := start
  stop := start + byteSize piece

def size (span : Span) : Nat := span.stop - span.start

def isEmpty (span : Span) : Bool := span.start == span.stop

/-- The text that a span covers, if both its ends are boundaries. -/
def text? (span : Span) (source : List Char) : Option (List Char) :=
  slice source span.start span.stop

theorem text?_ofPiece (front piece back : List Char) :
    (ofPiece (byteSize front) piece).text? (front ++ (piece ++ back)) = some piece :=
  slice_append front piece back

end Span

/-- A line counted from one and the bytes from its start. -/
structure Position where
  line : Nat
  column : Nat
  deriving DecidableEq

namespace Position

/-- Moves a position over the first `offset` bytes of a text. -/
def advance (position : Position) : List Char → Nat → Position
  | [], _ => position
  | character :: rest, offset =>
      if offset < character.utf8Size then ⟨position.line, position.column + offset⟩
      else if character = '\n' then advance ⟨position.line + 1, 0⟩ rest (offset - 1)
      else
        advance ⟨position.line, position.column + character.utf8Size⟩ rest
          (offset - character.utf8Size)

/-- The position of a byte offset. Only a line feed ends a line. -/
def ofOffset (text : List Char) (offset : Nat) : Position :=
  advance ⟨1, 0⟩ text offset

end Position

namespace Span

/-- The offset at a line and a column, both counted from one. Zero counts as
one, and places behind the end of the text move to its end. -/
def offsetAt (text : List Char) (line column : Nat) : Nat :=
  min (linesSize text (line - 1) + (column - 1)) (byteSize text)

/-- The span of the character at a line and a column, both counted from one;
empty at the end of the text. There is none where the place falls inside a
character. -/
def atLineColumn (text : List Char) (line column : Nat) : Option Span :=
  let start := offsetAt text line column
  (dropBytes text start).map fun rest => ofPiece start (rest.take 1)

def startsWithColon (text : List Char) : Bool :=
  (text.dropWhile isBlank).head? == some ':'

/-- Searches a text for a quoted key with a colon behind it. `offset` is the
offset of the text, and `skipped` counts the characters that still belong to a
match without a colon: matches do not overlap. -/
def findKey (quoted : List Char) : List Char → (offset skipped : Nat) → Option Span
  | [], _, _ => none
  | character :: rest, offset, skipped + 1 =>
      findKey quoted rest (offset + character.utf8Size) skipped
  | character :: rest, offset, 0 =>
      if quoted.isPrefixOf (character :: rest) then
        if startsWithColon ((character :: rest).drop quoted.length) then
          some (ofPiece offset quoted)
        else findKey quoted rest (offset + character.utf8Size) (quoted.length - 1)
      else findKey quoted rest (offset + character.utf8Size) 0

/-- The span of the first member key in an object notation, quotes included.
The key is searched as it stands, without escapes. -/
def ofKey (text : List Char) (key : String) : Option Span :=
  findKey ('"' :: key.toList ++ ['"']) text 0 0

end Span

end AstGrammar.Text
