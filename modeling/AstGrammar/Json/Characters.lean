import AstGrammar.Json.SyntaxError

/-!
# Characters and strings of JSON

Blanks, digits and the characters between the quotes of a string. A reader
returns what it read and the rest of the text; the lemmas say that the rest is
no longer, or shorter, than the text.
-/

namespace AstGrammar.Json

/-- What a reader returns: a value and the rest of the text, or where it
stopped. -/
abbrev Reading (α : Type) : Type := Except Stop (α × List Char)

def isBlank (character : Char) : Bool :=
  character == ' ' || character == '\t' || character == '\n' || character == '\r'

def skipBlanks (text : List Char) : List Char := text.dropWhile isBlank

theorem length_skipBlanks_le (text : List Char) :
    (skipBlanks text).length ≤ text.length :=
  (List.dropWhile_sublist isBlank).length_le

def digitValue (character : Char) : Nat := character.toNat - '0'.toNat

def hexValue? (character : Char) : Option Nat :=
  if '0' ≤ character ∧ character ≤ '9' then some (character.toNat - '0'.toNat)
  else if 'a' ≤ character ∧ character ≤ 'f' then some (character.toNat - 'a'.toNat + 10)
  else if 'A' ≤ character ∧ character ≤ 'F' then some (character.toNat - 'A'.toNat + 10)
  else none

def hexUnit? (first second third fourth : Char) : Option Nat := do
  return (((← hexValue? first) * 16 + (← hexValue? second)) * 16 + (← hexValue? third)) * 16 +
    (← hexValue? fourth)

/-- Stops where four hexadecimal digits should be. Four bytes are looked at,
which may end inside a character; a shorter text is taken whole. -/
def stopInUnit (text : List Char) : Stop :=
  if Text.byteSize text < 4 then .behind .endInString []
  else ⟨.invalidEscape, text, 4⟩

def readUnit : List Char → Reading Nat
  | first :: second :: third :: fourth :: rest =>
      match hexUnit? first second third fourth with
      | some unit => .ok (unit, rest)
      | none => .error (stopInUnit (first :: second :: third :: fourth :: rest))
  | text => .error (stopInUnit text)

theorem length_of_readUnit {text rest : List Char} {unit : Nat}
    (read : readUnit text = .ok (unit, rest)) : rest.length < text.length := by
  unfold readUnit at read
  split at read
  · split at read
    · cases read
      simp only [List.length_cons]
      omega
    · cases read
  · cases read

def isLowSurrogate (unit : Nat) : Bool := 0xDC00 ≤ unit && unit ≤ 0xDFFF

def isHighSurrogate (unit : Nat) : Bool := 0xD800 ≤ unit && unit ≤ 0xDBFF

def pairCharacter (high low : Nat) : Char :=
  Char.ofNat ((high - 0xD800) * 0x400 + (low - 0xDC00) + 0x10000)

/-- Reads the second half of a pair, whose first half is given. -/
def readLowSurrogate (high : Nat) : List Char → Reading Char
  | '\\' :: 'u' :: rest =>
      match readUnit rest with
      | .ok (low, rest) =>
          if isLowSurrogate low then .ok (pairCharacter high low, rest)
          else .error (.behind .loneSurrogate rest)
      | .error stop => .error stop
  | '\\' :: [] => .error (.behind .endInString [])
  | '\\' :: rest => .error (.at .unfinishedSurrogatePair rest)
  | [] => .error (.behind .endInString [])
  | text => .error (.at .unfinishedSurrogatePair text)

theorem length_of_readLowSurrogate {high : Nat} {text rest : List Char} {character : Char}
    (read : readLowSurrogate high text = .ok (character, rest)) :
    rest.length < text.length := by
  unfold readLowSurrogate at read
  split at read
  · split at read
    · next unitRead =>
        split at read
        · simp only [Except.ok.injEq, Prod.mk.injEq] at read
          obtain ⟨_, rfl⟩ := read
          have := length_of_readUnit unitRead
          simp only [List.length_cons]
          omega
        · simp at read
    · simp at read
  all_goals simp at read

/-- Reads the digits of an escape by code unit, and a second one when they are
the first half of a pair. -/
def readUnicodeEscape (text : List Char) : Reading Char :=
  match readUnit text with
  | .ok (unit, rest) =>
      if isLowSurrogate unit then .error (.behind .loneSurrogate rest)
      else if isHighSurrogate unit then readLowSurrogate unit rest
      else .ok (Char.ofNat unit, rest)
  | .error stop => .error stop

theorem length_of_readUnicodeEscape {text rest : List Char} {character : Char}
    (read : readUnicodeEscape text = .ok (character, rest)) : rest.length < text.length := by
  unfold readUnicodeEscape at read
  split at read
  · next unitRead =>
      have shorter := length_of_readUnit unitRead
      split at read
      · cases read
      · split at read
        · have := length_of_readLowSurrogate read
          omega
        · simp only [Except.ok.injEq, Prod.mk.injEq] at read
          obtain ⟨_, rfl⟩ := read
          exact shorter
  · cases read

def readEscape : List Char → Reading Char
  | [] => .error (.behind .endInString [])
  | '"' :: rest => .ok ('"', rest)
  | '\\' :: rest => .ok ('\\', rest)
  | '/' :: rest => .ok ('/', rest)
  | 'b' :: rest => .ok ('\x08', rest)
  | 'f' :: rest => .ok ('\x0c', rest)
  | 'n' :: rest => .ok ('\n', rest)
  | 'r' :: rest => .ok ('\r', rest)
  | 't' :: rest => .ok ('\t', rest)
  | 'u' :: rest => readUnicodeEscape rest
  | text => .error (.at .invalidEscape text)

theorem length_of_readEscape {text rest : List Char} {character : Char}
    (read : readEscape text = .ok (character, rest)) : rest.length < text.length := by
  unfold readEscape at read
  split at read
  case h_10 =>
    have := length_of_readUnicodeEscape read
    simp only [List.length_cons]
    omega
  all_goals cases read <;> simp

/-- Reads the characters of a string behind its opening quote. The characters
read so far are kept in reverse. -/
def readString (taken : List Char) : List Char → Reading String
  | [] => .error (.behind .endInString [])
  | '"' :: rest => .ok (String.ofList taken.reverse, rest)
  | '\\' :: rest =>
      match read : readEscape rest with
      | .ok (character, rest) =>
          have := length_of_readEscape read
          readString (character :: taken) rest
      | .error stop => .error stop
  | character :: rest =>
      if character.toNat < 0x20 then .error (.at .controlCharacter (character :: rest))
      else readString (character :: taken) rest
termination_by text => text.length
decreasing_by all_goals simp only [List.length_cons]; omega

theorem length_of_readString {taken text rest : List Char} {string : String}
    (read : readString taken text = .ok (string, rest)) : rest.length < text.length := by
  fun_induction readString taken text with
  | case1 => cases read
  | case2 taken after => cases read; simp
  | case3 taken after character behind escapeRead shorter ih =>
      have := ih read
      simp only [List.length_cons]
      omega
  | case4 => cases read
  | case5 => cases read
  | case6 taken character after _ _ _ ih =>
      have := ih read
      simp only [List.length_cons]
      omega

end AstGrammar.Json
