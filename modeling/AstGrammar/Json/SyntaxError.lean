import AstGrammar.Text.Span

/-!
# Why a text is no JSON

A reader that gives up says why, which text it had not read, and how many
bytes of that text it had looked at. The reported position is that many bytes
behind the place where the unread text starts, but never behind the end.
-/

namespace AstGrammar.Json

/-- Why a text is no JSON. -/
inductive SyntaxFault where
  | endInValue
  | endInList
  | endInObject
  | endInString
  | expectedValue
  | expectedWord
  | expectedColon
  | expectedCommaOrBracket
  | expectedCommaOrBrace
  | trailingComma
  | trailingCharacters
  | keyIsNoString
  | controlCharacter
  | invalidEscape
  | loneSurrogate
  | unfinishedSurrogatePair
  | invalidNumber
  | numberOutOfRange
  | nestedTooDeep
  deriving DecidableEq

def SyntaxFault.message : SyntaxFault → String
  | .endInValue => "EOF while parsing a value"
  | .endInList => "EOF while parsing a list"
  | .endInObject => "EOF while parsing an object"
  | .endInString => "EOF while parsing a string"
  | .expectedValue => "expected value"
  | .expectedWord => "expected ident"
  | .expectedColon => "expected `:`"
  | .expectedCommaOrBracket => "expected `,` or `]`"
  | .expectedCommaOrBrace => "expected `,` or `\x7d`"
  | .trailingComma => "trailing comma"
  | .trailingCharacters => "trailing characters"
  | .keyIsNoString => "key must be a string"
  | .controlCharacter => "control character (\\u0000-\\u001F) found while parsing a string"
  | .invalidEscape => "invalid escape"
  | .loneSurrogate => "lone leading surrogate in hex escape"
  | .unfinishedSurrogatePair => "unexpected end of hex escape"
  | .invalidNumber => "invalid number"
  | .numberOutOfRange => "number out of range"
  | .nestedTooDeep => "recursion limit exceeded"

/-- Where a reader gave up: the text it had not read, and how many bytes of it
the reader had looked at. -/
structure Stop where
  fault : SyntaxFault
  unread : List Char
  seen : Nat
  deriving DecidableEq

/-- Stops in front of a text, with its first byte as the offending one. -/
def Stop.at (fault : SyntaxFault) (unread : List Char) : Stop := ⟨fault, unread, 1⟩

def Stop.behind (fault : SyntaxFault) (unread : List Char) : Stop := ⟨fault, unread, 0⟩

def Stop.offset (stop : Stop) (text : List Char) : Nat :=
  min (Text.byteSize text) (Text.byteSize text - Text.byteSize stop.unread + stop.seen)

/-- A fault with the position where it was found. -/
structure SyntaxError where
  fault : SyntaxFault
  position : Text.Position
  deriving DecidableEq

def Stop.toError (stop : Stop) (text : List Char) : SyntaxError :=
  ⟨stop.fault, .ofOffset text (stop.offset text)⟩

def SyntaxError.message (error : SyntaxError) : String :=
  s!"{error.fault.message} at line {error.position.line} column {error.position.column}"

end AstGrammar.Json
