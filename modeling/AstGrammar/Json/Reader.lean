import AstGrammar.Entries
import AstGrammar.Json.Numbers

/-!
# Reading JSON

A text is one value with blanks around it. Lists and objects may be nested
127 deep. A name that is repeated in an object keeps its first place and takes
its last value. The readers of the levels are built from the inside out, each
from a reader that takes at least one character for every value.
-/

namespace AstGrammar.Json

/-- A reader of values that takes at least one character for each. -/
structure ValueReader where
  read : List Char → Reading Json
  shrinks : ∀ {text rest : List Char} {value : Json},
    read text = .ok (value, rest) → rest.length < text.length

/-- Reads the letters of a word that stands for a value. -/
def readWord (value : Json) : (letters text : List Char) → Reading Json
  | [], text => .ok (value, text)
  | _ :: _, [] => .error (.behind .endInValue [])
  | letter :: letters, character :: rest =>
      if character = letter then readWord value letters rest
      else .error (.at .expectedWord (character :: rest))

/-- Reads the items of a list behind a place where one must follow. The items
read so far are kept in reverse. -/
def readItems (inner : ValueReader) (taken : List Json) (text : List Char) :
    Reading (List Json) :=
  match read : inner.read (skipBlanks text) with
  | .error stop => .error stop
  | .ok (item, rest) =>
      have := inner.shrinks read
      have := length_skipBlanks_le text
      have := length_skipBlanks_le rest
      match next : skipBlanks rest with
      | [] => .error (.at .endInList [])
      | ']' :: rest => .ok ((item :: taken).reverse, rest)
      | ',' :: rest =>
          have := congrArg List.length next
          match skipBlanks rest with
          | ']' :: rest => .error (.at .trailingComma (']' :: rest))
          | _ => readItems inner (item :: taken) rest
      | rest => .error (.at .expectedCommaOrBracket rest)
termination_by text.length
decreasing_by simp only [List.length_cons] at *; omega

/-- Reads the items of a list behind its bracket. -/
def readList (inner : ValueReader) (text : List Char) : Reading (List Json) :=
  match skipBlanks text with
  | [] => .error (.at .endInList [])
  | ']' :: rest => .ok ([], rest)
  | _ => readItems inner [] text

/-- Reads one member behind the quote that opens its name. -/
def readMember (inner : ValueReader) (text : List Char) : Reading (String × Json) :=
  match readString [] text with
  | .error stop => .error stop
  | .ok (name, rest) =>
      match skipBlanks rest with
      | [] => .error (.at .endInObject [])
      | ':' :: rest =>
          match inner.read (skipBlanks rest) with
          | .error stop => .error stop
          | .ok (value, rest) => .ok ((name, value), rest)
      | rest => .error (.at .expectedColon rest)

theorem length_of_readMember {inner : ValueReader} {text rest : List Char}
    {member : String × Json} (read : readMember inner text = .ok (member, rest)) :
    rest.length < text.length := by
  unfold readMember at read
  split at read
  · simp at read
  · next name after nameRead =>
      have := length_of_readString nameRead
      have := length_skipBlanks_le after
      split at read
      · simp at read
      · next behind equal =>
          have := congrArg List.length equal
          split at read
          · simp at read
          · next value _ valueRead =>
              have := inner.shrinks valueRead
              have := length_skipBlanks_le behind
              simp only [Except.ok.injEq, Prod.mk.injEq] at read
              obtain ⟨_, rfl⟩ := read
              simp only [List.length_cons] at *
              omega
      · simp at read

/-- Reads the members of an object behind the quote that opens a name. The
members read so far are given. -/
def readMembers (inner : ValueReader) (taken : List (String × Json)) (text : List Char) :
    Reading (List (String × Json)) :=
  match read : readMember inner text with
  | .error stop => .error stop
  | .ok ((name, value), rest) =>
      have := length_of_readMember read
      have := length_skipBlanks_le rest
      match next : skipBlanks rest with
      | [] => .error (.at .endInObject [])
      | '\x7d' :: rest => .ok (Entries.set name value taken, rest)
      | ',' :: rest =>
          have := congrArg List.length next
          have := length_skipBlanks_le rest
          match quote : skipBlanks rest with
          | '"' :: rest =>
              have := congrArg List.length quote
              readMembers inner (Entries.set name value taken) rest
          | '\x7d' :: rest => .error (.at .trailingComma ('\x7d' :: rest))
          | [] => .error (.at .endInValue [])
          | rest => .error (.at .keyIsNoString rest)
      | rest => .error (.at .expectedCommaOrBrace rest)
termination_by text.length
decreasing_by simp only [List.length_cons] at *; omega

/-- Reads the members of an object behind its brace. -/
def readObject (inner : ValueReader) (text : List Char) : Reading (List (String × Json)) :=
  match skipBlanks text with
  | [] => .error (.at .endInObject [])
  | '\x7d' :: rest => .ok ([], rest)
  | '"' :: rest => readMembers inner [] rest
  | rest => .error (.at .keyIsNoString rest)

def Reading.map {α β : Type} (function : α → β) : Reading α → Reading β
  | .ok (value, rest) => .ok (function value, rest)
  | .error stop => .error stop

theorem Reading.map_eq_ok_iff {α β : Type} {function : α → β} {reading : Reading α} {result : β}
    {rest : List Char} :
    reading.map function = .ok (result, rest) ↔
      ∃ value, reading = .ok (value, rest) ∧ function value = result := by
  cases reading with
  | error stop => simp [Reading.map]
  | ok held =>
      obtain ⟨value, behind⟩ := held
      simp only [Reading.map, Except.ok.injEq, Prod.mk.injEq]
      constructor
      · rintro ⟨equal, same⟩
        exact ⟨value, ⟨rfl, same⟩, equal⟩
      · rintro ⟨other, ⟨rfl, same⟩, equal⟩
        exact ⟨equal, same⟩

/-- Reads a value in front of which no blanks stand. Lists and objects are read
with the reader of the level below, and are refused where there is none. -/
def readValue (inner : Option ValueReader) (text : List Char) : Reading Json :=
  match text with
  | [] => .error (.at .endInValue [])
  | 'n' :: rest => readWord .null ['u', 'l', 'l'] rest
  | 't' :: rest => readWord (.bool true) ['r', 'u', 'e'] rest
  | 'f' :: rest => readWord (.bool false) ['a', 'l', 's', 'e'] rest
  | '-' :: rest => (readNumber true rest).map .number
  | '"' :: rest => (readString [] rest).map .string
  | '[' :: rest =>
      match inner with
      | none => .error (.at .nestedTooDeep text)
      | some inner => (readList inner rest).map .array
  | '\x7b' :: rest =>
      match inner with
      | none => .error (.at .nestedTooDeep text)
      | some inner => (readObject inner rest).map .object
  | character :: _ =>
      if character.isDigit then (readNumber false text).map .number
      else .error (.at .expectedValue text)

section Lengths

variable {inner : ValueReader} {text rest : List Char}

theorem length_of_readWord {value result : Json} {letters : List Char}
    (read : readWord value letters text = .ok (result, rest)) :
    rest.length ≤ text.length := by
  induction letters generalizing text with
  | nil =>
      simp only [readWord, Except.ok.injEq, Prod.mk.injEq] at read
      exact Nat.le_of_eq (congrArg List.length read.2.symm)
  | cons letter letters ih =>
      cases text with
      | nil => simp [readWord] at read
      | cons character after =>
          simp only [readWord] at read
          split at read
          · have := ih read
            simp only [List.length_cons]
            omega
          · simp at read

theorem length_of_readItems {taken items : List Json}
    (read : readItems inner taken text = .ok (items, rest)) : rest.length < text.length := by
  fun_induction readItems inner taken text with
  | case1 => simp at read
  | case2 => simp at read
  | case3 taken text item after itemRead _ _ _ behind equal =>
      simp only [Except.ok.injEq, Prod.mk.injEq] at read
      obtain ⟨_, rfl⟩ := read
      have := length_skipBlanks_le after
      have := congrArg List.length equal
      simp only [List.length_cons] at *
      omega
  | case4 => simp at read
  | case5 taken text item after itemRead _ _ _ behind equal _ _ ih =>
      have := ih read
      have := length_skipBlanks_le after
      have := congrArg List.length equal
      simp only [List.length_cons] at *
      omega
  | case6 => simp at read

theorem length_of_readList {items : List Json}
    (read : readList inner text = .ok (items, rest)) : rest.length < text.length := by
  unfold readList at read
  split at read
  · simp at read
  · next equal =>
      simp only [Except.ok.injEq, Prod.mk.injEq] at read
      obtain ⟨_, rfl⟩ := read
      have := congrArg List.length equal
      have := length_skipBlanks_le text
      simp only [List.length_cons] at *
      omega
  · exact length_of_readItems read

theorem length_of_readMembers {taken members : List (String × Json)}
    (read : readMembers inner taken text = .ok (members, rest)) :
    rest.length < text.length := by
  fun_induction readMembers inner taken text <;> simp_all <;> omega

theorem length_of_readObject {members : List (String × Json)}
    (read : readObject inner text = .ok (members, rest)) : rest.length < text.length := by
  have := length_skipBlanks_le text
  unfold readObject at read
  split at read
  · simp at read
  · next equal =>
      simp only [Except.ok.injEq, Prod.mk.injEq] at read
      obtain ⟨_, rfl⟩ := read
      have := congrArg List.length equal
      simp only [List.length_cons] at *
      omega
  · next equal =>
      have := length_of_readMembers read
      have := congrArg List.length equal
      simp only [List.length_cons] at *
      omega
  · simp at read

theorem length_of_readValue {inner : Option ValueReader} {value : Json}
    (read : readValue inner text = .ok (value, rest)) : rest.length < text.length := by
  unfold readValue at read
  split at read
  case h_1 => simp at read
  case h_2 | h_3 | h_4 =>
    have := length_of_readWord read
    simp only [List.length_cons]
    omega
  case h_5 =>
    obtain ⟨number, numberRead, -⟩ := Reading.map_eq_ok_iff.1 read
    have := length_of_readNumber numberRead
    simp only [List.length_cons]
    omega
  case h_6 =>
    obtain ⟨string, stringRead, -⟩ := Reading.map_eq_ok_iff.1 read
    have := length_of_readString stringRead
    simp only [List.length_cons]
    omega
  case h_7 =>
    split at read
    · simp at read
    · obtain ⟨items, itemsRead, -⟩ := Reading.map_eq_ok_iff.1 read
      have := length_of_readList itemsRead
      simp only [List.length_cons]
      omega
  case h_8 =>
    split at read
    · simp at read
    · obtain ⟨members, membersRead, -⟩ := Reading.map_eq_ok_iff.1 read
      have := length_of_readObject membersRead
      simp only [List.length_cons]
      omega
  case h_9 =>
    split at read
    · obtain ⟨number, numberRead, -⟩ := Reading.map_eq_ok_iff.1 read
      exact length_of_readNumber numberRead
    · simp at read

end Lengths

/-- The reader of values in which lists and objects are nested at most `depth`
deep. -/
def reader : (depth : Nat) → ValueReader
  | 0 => ⟨readValue none, length_of_readValue⟩
  | depth + 1 => ⟨readValue (some (reader depth)), length_of_readValue⟩

/-- How deep lists and objects may be nested. -/
def greatestDepth : Nat := 127

/-- Reads a text that holds one value and nothing else but blanks. -/
def readText (text : List Char) : Except Stop Json :=
  match (reader greatestDepth).read (skipBlanks text) with
  | .error stop => .error stop
  | .ok (value, rest) =>
      match skipBlanks rest with
      | [] => .ok value
      | rest => .error (.at .trailingCharacters rest)

/-- Reads a text as JSON, or gives what is wrong with it and where reading
stopped. -/
def parse (text : String) : Except SyntaxError Json :=
  match readText text.toList with
  | .ok value => .ok value
  | .error stop => .error (stop.toError text.toList)

end AstGrammar.Json
