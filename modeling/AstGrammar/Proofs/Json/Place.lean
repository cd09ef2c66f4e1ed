import AstGrammar.Json.Reader
import AstGrammar.Proofs.Text.Boundary

/-!
# Places in strings and between them

A place in a JSON text is outside of strings or in one, perhaps behind a backslash.  What
a reader takes leads from one place to another, and where a reader stops, it has taken
everything in front; outside of strings only characters of one byte are taken.  So a
reader looks into the middle of a character only in a string.
-/

namespace AstGrammar.Json

open Text

/-- Where a place in a JSON text is. -/
inductive Place where
  | outside
  | inside
  /-- In a string, behind a backslash that starts an escape. -/
  | escaped
  deriving DecidableEq

namespace Place

/-- The place behind a character. Outside of strings no character has more than one byte. -/
def next? : Place → Char → Option Place
  | .outside, character =>
      if character = '"' then some .inside
      else if character.utf8Size = 1 then some .outside
      else none
  | .inside, character =>
      if character = '"' then some .outside
      else if character = '\\' then some .escaped
      else some .inside
  | .escaped, _ => some .inside

/-- The place behind a text that starts at a place. -/
def behind? : Place → List Char → Option Place
  | place, [] => some place
  | place, character :: rest => (place.next? character).bind (·.behind? rest)

@[simp] theorem behind?_nil (place : Place) : place.behind? [] = some place := rfl

@[simp] theorem behind?_cons (place : Place) (character : Char) (rest : List Char) :
    place.behind? (character :: rest) = (place.next? character).bind (·.behind? rest) := rfl

theorem behind?_append (place : Place) (front back : List Char) :
    place.behind? (front ++ back) = (place.behind? front).bind (·.behind? back) := by
  induction front generalizing place with
  | nil => rfl
  | cons character rest ih =>
      rw [List.cons_append, behind?_cons, behind?_cons]
      cases place.next? character with
      | none => rfl
      | some next => exact ih next

variable {place : Place} {front : List Char} {last : Char}

theorem behind?_concat :
    place.behind? (front ++ [last]) = (place.behind? front).bind (·.next? last) := by
  rw [behind?_append]
  cases place.behind? front with
  | none => rfl
  | some next =>
      rw [Option.bind_some, Option.bind_some, behind?_cons]
      cases next.next? last <;> rfl

/-- A string is left, and the text between strings goes on, with a character of one byte. -/
theorem utf8Size_of_next?_eq_outside (reached : place.next? last = some .outside) :
    last.utf8Size = 1 := by
  cases place with
  | outside =>
      simp only [next?] at reached
      split at reached
      · cases reached
      · split at reached
        · assumption
        · cases reached
  | inside =>
      simp only [next?] at reached
      split at reached
      · next quote =>
          rw [quote]
          rfl
      · split at reached <;> cases reached
  | escaped => cases reached

theorem next?_outside {character : Char} (narrow : character.utf8Size = 1)
    (noQuote : character ≠ '"') : Place.outside.next? character = some .outside := by
  rw [next?, if_neg noQuote, if_pos narrow]

theorem next?_inside {character : Char} (noQuote : character ≠ '"')
    (noEscape : character ≠ '\\') : Place.inside.next? character = some .inside := by
  rw [next?, if_neg noQuote, if_neg noEscape]

end Place

/-- What is taken off a text, up to the rest of it, leads from one place to another. -/
def Takes (start finish : Place) (text rest : List Char) : Prop :=
  ∃ taken, text = taken ++ rest ∧ start.behind? taken = some finish

namespace Takes

variable {start middle finish : Place} {text behind rest : List Char} {character : Char}

theorem refl (place : Place) (text : List Char) : Takes place place text text :=
  ⟨[], rfl, rfl⟩

theorem trans (first : Takes start middle text behind) (second : Takes middle finish behind rest) :
    Takes start finish text rest := by
  obtain ⟨taken, rfl, reached⟩ := first
  obtain ⟨others, rfl, finished⟩ := second
  refine ⟨taken ++ others, by rw [List.append_assoc], ?_⟩
  rw [Place.behind?_append, reached]
  exact finished

theorem step (reached : start.next? character = some finish) (text : List Char) :
    Takes start finish (character :: text) text := by
  refine ⟨[character], rfl, ?_⟩
  rw [Place.behind?_cons, reached]
  rfl

theorem cons (reached : start.next? character = some middle)
    (others : Takes middle finish text rest) : Takes start finish (character :: text) rest :=
  (step reached text).trans others

/-- A run of characters of one byte is taken between strings. -/
theorem dropWhile {test : Char → Bool}
    (plain : ∀ character, test character = true →
      Place.outside.next? character = some .outside) (text : List Char) :
    Takes .outside .outside text (text.dropWhile test) := by
  induction text with
  | nil => exact refl _ _
  | cons character rest ih =>
      rw [List.dropWhile_cons]
      split
      · next passes => exact cons (plain character passes) ih
      · exact refl _ _

end Takes

/-- How a reader may stop that starts at a place with a text. -/
inductive StopsIn (start : Place) (text : List Char) : Stop → Prop
  /-- Between strings, with at most the next byte seen. -/
  | outside {stop : Stop} (taken : Takes start .outside text stop.unread)
      (seen : stop.seen ≤ 1) : StopsIn start text stop
  /-- With the first byte of some character seen. -/
  | character {fault : SyntaxFault} {front rest : List Char} {character : Char}
      (split : text = front ++ character :: rest) :
      StopsIn start text (.at fault (character :: rest))
  /-- Behind a character of one byte. -/
  | narrow {fault : SyntaxFault} {front rest : List Char} {last : Char}
      (split : text = front ++ last :: rest) (size : last.utf8Size = 1) :
      StopsIn start text (.behind fault rest)
  /-- In a string, at the end. -/
  | ending {place : Place} (taken : Takes start place text []) (inString : place ≠ .outside) :
      StopsIn start text (.behind .endInString [])
  /-- Where a string has no digits of an escape by code unit. -/
  | unit {rest : List Char} (taken : Takes start .inside text ('\\' :: 'u' :: rest)) :
      StopsIn start text (stopInUnit rest)

theorem StopsIn.behind {start middle : Place} {text rest : List Char} {stop : Stop}
    (taken : Takes start middle text rest) (stops : StopsIn middle rest stop) :
    StopsIn start text stop := by
  cases stops with
  | outside later seen => exact .outside (taken.trans later) seen
  | character split =>
      obtain ⟨front, rfl, -⟩ := taken
      rw [split, ← List.append_assoc]
      exact .character rfl
  | narrow split size =>
      obtain ⟨front, rfl, -⟩ := taken
      rw [split, ← List.append_assoc]
      exact .narrow rfl size
  | ending later inString => exact .ending (taken.trans later) inString
  | unit later => exact .unit (taken.trans later)

/-- A reader that starts at a place with a text ends at another place, or stops as it may. -/
def Reading.Follows {α : Type} (start finish : Place) (text : List Char) : Reading α → Prop
  | .ok (_, rest) => Takes start finish text rest
  | .error stop => StopsIn start text stop

theorem Reading.Follows.behind {α : Type} {start middle finish : Place} {text rest : List Char}
    {reading : Reading α} (taken : Takes start middle text rest)
    (follows : reading.Follows middle finish rest) : reading.Follows start finish text := by
  cases reading with
  | ok held => exact taken.trans follows
  | error stop => exact StopsIn.behind taken follows

section Strings

/-- A hexadecimal digit has one byte, and neither ends a string nor starts an escape. -/
theorem plain_of_hexValue? {character : Char} {value : Nat}
    (found : hexValue? character = some value) :
    character.utf8Size = 1 ∧ Place.inside.next? character = some .inside := by
  have small : character.val ≤ 127 := by
    unfold hexValue? at found
    split at found
    · next range => exact UInt32.le_trans (Char.le_def.1 range.2) (by decide)
    · split at found
      · next range => exact UInt32.le_trans (Char.le_def.1 range.2) (by decide)
      · split at found
        · next range => exact UInt32.le_trans (Char.le_def.1 range.2) (by decide)
        · cases found
  have noQuote : character ≠ '"' := by
    rintro rfl
    cases found
  have noEscape : character ≠ '\\' := by
    rintro rfl
    cases found
  exact ⟨Char.utf8Size_eq_one_iff.2 small, Place.next?_inside noQuote noEscape⟩

theorem exists_of_hexUnit? {first second third fourth : Char} {unit : Nat}
    (found : hexUnit? first second third fourth = some unit) :
    (∃ value, hexValue? first = some value) ∧ (∃ value, hexValue? second = some value) ∧
      (∃ value, hexValue? third = some value) ∧ ∃ value, hexValue? fourth = some value := by
  simp only [hexUnit?, Option.bind_eq_bind, Option.bind_eq_some_iff] at found
  obtain ⟨one, oneFound, two, twoFound, three, threeFound, four, fourFound, -⟩ := found
  exact ⟨⟨one, oneFound⟩, ⟨two, twoFound⟩, ⟨three, threeFound⟩, four, fourFound⟩

/-- An escape by code unit takes four digits of one byte each. -/
theorem exists_of_readUnit {text rest : List Char} {unit : Nat}
    (read : readUnit text = .ok (unit, rest)) :
    ∃ front last, text = front ++ last :: rest ∧ last.utf8Size = 1 ∧
      Takes .inside .inside text rest := by
  unfold readUnit at read
  split at read
  · next first second third fourth behind =>
      split at read
      · next found =>
          simp only [Except.ok.injEq, Prod.mk.injEq] at read
          obtain ⟨-, rfl⟩ := read
          obtain ⟨⟨_, one⟩, ⟨_, two⟩, ⟨_, three⟩, _, four⟩ := exists_of_hexUnit? found
          refine ⟨[first, second, third], fourth, rfl, (plain_of_hexValue? four).1, ?_⟩
          exact .cons (plain_of_hexValue? one).2 (.cons (plain_of_hexValue? two).2
            (.cons (plain_of_hexValue? three).2 (.step (plain_of_hexValue? four).2 behind)))
      · cases read
  · cases read

theorem eq_stopInUnit_of_readUnit {text : List Char} {stop : Stop}
    (read : readUnit text = .error stop) : stop = stopInUnit text := by
  unfold readUnit at read
  split at read
  · split at read
    · cases read
    · exact (Except.error.inj read).symm
  · exact (Except.error.inj read).symm

/-- A reader may stop with the first byte of the text seen. -/
theorem StopsIn.atHead {start : Place} {text : List Char} (nonempty : text ≠ [])
    (fault : SyntaxFault) : StopsIn start text (.at fault text) := by
  cases text with
  | nil => exact absurd rfl nonempty
  | cons character rest => exact .character (List.nil_append _).symm

/-- An escape is two characters of its string, the backslash and one more. -/
theorem takes_escape (character : Char) (rest : List Char) :
    Takes .inside .inside ('\\' :: character :: rest) rest :=
  .cons rfl (.step rfl rest)

theorem follows_readLowSurrogate (high : Nat) (text : List Char) :
    (readLowSurrogate high text).Follows .inside .inside text := by
  fun_cases readLowSurrogate high text with
  | case1 rest low behind read =>
      obtain ⟨_, _, -, -, digits⟩ := exists_of_readUnit read
      exact (takes_escape 'u' rest).trans digits
  | case2 rest low behind read =>
      obtain ⟨_, _, split, size, -⟩ := exists_of_readUnit read
      exact StopsIn.behind (takes_escape 'u' rest) (.narrow split size)
  | case3 rest stop read =>
      rw [eq_stopInUnit_of_readUnit read]
      exact .unit (.refl _ _)
  | case4 => exact .ending (.step rfl []) (by decide)
  | case5 rest _ nonempty =>
      exact StopsIn.behind (.step rfl rest) (.atHead nonempty _)
  | case6 => exact .ending (.refl _ _) (by decide)
  | case7 text _ _ _ nonempty => exact .atHead nonempty _

theorem follows_readUnicodeEscape (text : List Char) :
    (readUnicodeEscape text).Follows .inside .inside ('\\' :: 'u' :: text) := by
  have escape := takes_escape 'u' text
  fun_cases readUnicodeEscape text with
  | case1 unit rest read =>
      obtain ⟨_, _, split, size, -⟩ := exists_of_readUnit read
      exact StopsIn.behind escape (.narrow split size)
  | case2 unit rest read =>
      obtain ⟨_, _, -, -, digits⟩ := exists_of_readUnit read
      exact .behind (escape.trans digits) (follows_readLowSurrogate unit rest)
  | case3 unit rest read =>
      obtain ⟨_, _, -, -, digits⟩ := exists_of_readUnit read
      exact escape.trans digits
  | case4 stop read =>
      rw [eq_stopInUnit_of_readUnit read]
      exact .unit (.refl _ _)

theorem follows_readEscape (text : List Char) :
    (readEscape text).Follows .inside .inside ('\\' :: text) := by
  fun_cases readEscape text with
  | case1 => exact .ending (.step rfl []) (by decide)
  | case10 rest => exact follows_readUnicodeEscape rest
  | case11 text nonempty => exact StopsIn.behind (.step rfl text) (.atHead nonempty _)
  | _ => exact takes_escape _ _

theorem follows_readString (taken text : List Char) :
    (readString taken text).Follows .inside .outside text := by
  fun_induction readString taken text with
  | case1 taken => exact .ending (.refl _ _) (by decide)
  | case2 taken rest => exact .step rfl rest
  | case3 taken text character rest read _ ih =>
      have escape := follows_readEscape text
      rw [read] at escape
      exact .behind escape ih
  | case4 taken text stop read =>
      have escape := follows_readEscape text
      rw [read] at escape
      exact escape
  | case5 => exact .atHead (List.cons_ne_nil _ _) _
  | case6 taken character rest noQuote noEscape _ ih =>
      exact .behind (.step (Place.next?_inside noQuote noEscape) rest) ih

end Strings

end AstGrammar.Json
