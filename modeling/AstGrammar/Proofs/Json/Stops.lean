import AstGrammar.Proofs.Json.Place

/-!
# Where reading stops

The readers of numbers and values start and end between strings, and stop where a reader
may stop.  Hence the place that is reported for a text falls inside a character only if
it is in a string: at the end behind a last character of several bytes, or behind four
bytes of an escape by code unit that end in the middle of one.
-/

namespace AstGrammar.Json

open Text

section Words

theorem next?_of_isBlank {character : Char} (blank : isBlank character = true) :
    Place.outside.next? character = some .outside := by
  simp only [isBlank, Bool.or_eq_true, beq_iff_eq] at blank
  rcases blank with ((rfl | rfl) | rfl) | rfl <;> rfl

theorem takes_skipBlanks (text : List Char) : Takes .outside .outside text (skipBlanks text) :=
  .dropWhile (fun _ => next?_of_isBlank) text

/-- Digits and small letters are characters of one byte. -/
theorem next?_of_le {character : Char} (small : character.val ≤ 122) (noQuote : character ≠ '"') :
    Place.outside.next? character = some .outside := by
  have narrow : character.val ≤ 127 := UInt32.le_trans small (by decide)
  exact Place.next?_outside (Char.utf8Size_eq_one_iff.2 narrow) noQuote

theorem next?_of_isDigit {character : Char} (digit : character.isDigit = true) :
    Place.outside.next? character = some .outside := by
  simp only [Char.isDigit, Bool.and_eq_true, decide_eq_true_eq] at digit
  refine next?_of_le (UInt32.le_trans digit.2 (by decide)) ?_
  rintro rfl
  exact absurd digit.1 (by decide)

theorem next?_of_isLower {character : Char} (lower : character.isLower = true) :
    Place.outside.next? character = some .outside := by
  change (decide ('a'.val ≤ character.val) && decide (character.val ≤ 'z'.val)) = true at lower
  simp only [Bool.and_eq_true, decide_eq_true_eq] at lower
  refine next?_of_le lower.2 ?_
  rintro rfl
  exact absurd lower.1 (by decide)

theorem takes_skipDigits (text : List Char) : Takes .outside .outside text (skipDigits text) :=
  .dropWhile (fun _ => next?_of_isDigit) text

theorem takes_of_takeDigits {significand taken : Nat} {text rest : List Char}
    (read : takeDigits significand text = (taken, rest)) : Takes .outside .outside text rest := by
  fun_induction takeDigits significand text with
  | case1 | case3 =>
      cases read
      exact .refl _ _
  | case2 significand character behind fits ih => exact .cons (next?_of_isDigit fits.1) (ih read)

/-- Between strings a reader may stop in front of the text, with its first byte seen or not. -/
theorem stopsIn_at (fault : SyntaxFault) (text : List Char) :
    StopsIn .outside text (.at fault text) :=
  .outside (.refl _ _) (Nat.le_refl 1)

theorem stopsIn_behind (fault : SyntaxFault) (text : List Char) :
    StopsIn .outside text (.behind fault text) :=
  .outside (.refl _ _) (Nat.zero_le 1)

end Words

section Numbers

variable (isNegative powerIsNegative : Bool) (significand power : Nat) (places : Int)
  (text : List Char)

theorem follows_endFraction (power : Int) :
    (endFraction isNegative significand power text).Follows .outside .outside text := by
  fun_cases endFraction isNegative significand power text with
  | case1 => exact .refl _ _
  | case2 => exact stopsIn_behind _ text

theorem follows_readPower :
    (readPower isNegative significand places powerIsNegative power text).Follows
      .outside .outside text := by
  fun_induction readPower isNegative significand places powerIsNegative power text with
  | case1 => exact follows_endFraction _ _ _ _
  | case2 _ character rest digit _ ih =>
      exact .behind (.step (next?_of_isDigit digit) rest) ih
  | case3 _ character rest digit =>
      exact StopsIn.behind (.step (next?_of_isDigit digit) rest) (stopsIn_behind _ rest)
  | case4 _ character rest digit => exact .cons (next?_of_isDigit digit) (takes_skipDigits rest)
  | case5 => exact follows_endFraction _ _ _ _

theorem follows_readFirstPower :
    (readFirstPower isNegative significand places powerIsNegative text).Follows
      .outside .outside text := by
  fun_cases readFirstPower isNegative significand places powerIsNegative text with
  | case1 => exact stopsIn_behind _ []
  | case2 character rest digit =>
      exact .behind (.step (next?_of_isDigit digit) rest) (follows_readPower _ _ _ _ _ _)
  | case3 character rest _ => exact stopsIn_at _ (character :: rest)

theorem follows_readExponent :
    (readExponent isNegative significand places text).Follows .outside .outside text := by
  fun_cases readExponent isNegative significand places text with
  | case1 rest => exact .behind (.step rfl rest) (follows_readFirstPower _ _ _ _ _)
  | case2 rest => exact .behind (.step rfl rest) (follows_readFirstPower _ _ _ _ _)
  | case3 => exact follows_readFirstPower _ _ _ _ _

theorem follows_readAfterDigits :
    (readAfterDigits isNegative significand places text).Follows .outside .outside text := by
  fun_cases readAfterDigits isNegative significand places text with
  | case1 rest => exact .behind (.step rfl rest) (follows_readExponent _ _ _ _)
  | case2 rest => exact .behind (.step rfl rest) (follows_readExponent _ _ _ _)
  | case3 => exact follows_endFraction _ _ _ _

theorem follows_readPlaces :
    (readPlaces isNegative significand places text).Follows .outside .outside text := by
  cases digit : startsWithDigit text with
  | true =>
      have digits : Takes .outside .outside text (skipDigits (takeDigits significand text).2) :=
        (takes_of_takeDigits rfl).trans (takes_skipDigits _)
      simp only [readPlaces, digit, if_true]
      exact .behind digits (follows_readAfterDigits _ _ _ _)
  | false =>
      simp only [readPlaces, digit]
      cases text with
      | nil => exact stopsIn_behind _ []
      | cons character rest => exact stopsIn_at _ (character :: rest)

theorem follows_readAfterInteger :
    (readAfterInteger isNegative significand text).Follows .outside .outside text := by
  have digits := takes_skipDigits text
  -- What follows the digits that were dropped is read as if they were not there.
  refine Reading.Follows.behind digits ?_
  fun_cases readAfterInteger isNegative significand text with
  | case1 _ _ rest split =>
      change skipDigits text = _ at split
      rw [split]
      exact .behind (.step rfl rest) (follows_readPlaces _ _ _ _)
  | case2 _ _ rest split =>
      change skipDigits text = _ at split
      rw [split]
      exact .behind (.step rfl rest) (follows_readExponent _ _ _ _)
  | case3 _ _ rest split =>
      change skipDigits text = _ at split
      rw [split]
      exact .behind (.step rfl rest) (follows_readExponent _ _ _ _)
  | case4 => exact follows_endFraction _ _ _ _
  | case5 => exact .refl _ _
  | case6 => exact follows_endFraction _ _ _ _
  | case7 => exact .refl _ _

theorem follows_readNumber : (readNumber isNegative text).Follows .outside .outside text := by
  fun_cases readNumber isNegative text with
  | case1 => exact stopsIn_behind _ []
  | case2 rest _ => exact StopsIn.behind (.step rfl rest) (stopsIn_at _ rest)
  | case3 rest _ => exact .behind (.step rfl rest) (follows_readAfterInteger _ _ _)
  | case4 character rest _ digit taken behind read =>
      have digits := (takes_of_takeDigits read)
      exact .behind (.cons (next?_of_isDigit digit) digits) (follows_readAfterInteger _ _ _)
  | case5 character rest _ _ => exact stopsIn_at _ (character :: rest)

end Numbers

namespace Reading.Follows

variable {α β : Type} {start finish : Place} {text rest : List Char} {reading : Reading α}

theorem takes {value : α} (follows : reading.Follows start finish text)
    (read : reading = .ok (value, rest)) : Takes start finish text rest := by
  rw [read] at follows
  exact follows

theorem stops {stop : Stop} (follows : reading.Follows start finish text)
    (read : reading = .error stop) : StopsIn start text stop := by
  rw [read] at follows
  exact follows

theorem map (follows : reading.Follows start finish text) (function : α → β) :
    (reading.map function).Follows start finish text := by
  cases reading with
  | ok held => exact follows
  | error stop => exact follows

end Reading.Follows

/-- A reader of values takes them between strings. -/
def ValueReader.Follows (reader : ValueReader) : Prop :=
  ∀ text, (reader.read text).Follows .outside .outside text

section Values

variable {inner : ValueReader}

theorem takes_of_skipBlanks {text rest : List Char} (equal : skipBlanks text = rest) :
    Takes .outside .outside text rest :=
  equal ▸ takes_skipBlanks text

/-- Blanks and a character between strings that stands behind them are taken together. -/
theorem takes_behindBlanks {finish : Place} {text rest : List Char} {character : Char}
    (equal : skipBlanks text = character :: rest)
    (reached : Place.outside.next? character = some finish) :
    Takes .outside finish text rest :=
  (takes_of_skipBlanks equal).trans (.step reached rest)

theorem stopsIn_atBlanks (fault : SyntaxFault) {text rest : List Char}
    (equal : skipBlanks text = rest) : StopsIn .outside text (.at fault rest) :=
  .behind (takes_of_skipBlanks equal) (stopsIn_at fault rest)

theorem follows_readWord (value : Json) {letters : List Char}
    (lower : letters.all Char.isLower = true) (text : List Char) :
    (readWord value letters text).Follows .outside .outside text := by
  fun_induction readWord value letters text with
  | case1 text => exact .refl _ text
  | case2 => exact stopsIn_behind _ []
  | case3 letters letter rest ih =>
      rw [List.all_cons, Bool.and_eq_true] at lower
      exact .behind (.step (next?_of_isLower lower.1) rest) (ih lower.2)
  | case4 => exact stopsIn_at _ _

/-- Blanks and a value behind them are taken together. -/
theorem ValueReader.Follows.takes_value (innerFollows : inner.Follows) {text rest : List Char}
    {value : Json} (read : inner.read (skipBlanks text) = .ok (value, rest)) :
    Takes .outside .outside text rest :=
  (takes_skipBlanks text).trans ((innerFollows _).takes read)

theorem ValueReader.Follows.stops_value (innerFollows : inner.Follows) {text : List Char}
    {stop : Stop} (read : inner.read (skipBlanks text) = .error stop) :
    StopsIn .outside text stop :=
  .behind (takes_skipBlanks text) ((innerFollows _).stops read)

theorem follows_readItems (innerFollows : inner.Follows) (taken : List Json) (text : List Char) :
    (readItems inner taken text).Follows .outside .outside text := by
  fun_induction readItems inner taken text with
  | case1 taken text stop read =>
      exact innerFollows.stops_value read
  | case2 taken text item rest read _ _ _ next =>
      have value := innerFollows.takes_value read
      exact StopsIn.behind value (stopsIn_atBlanks _ next)
  | case3 taken text item rest read _ _ _ behind next =>
      have value := innerFollows.takes_value read
      exact value.trans (takes_behindBlanks next rfl)
  | case4 taken text item rest read _ _ _ behind next _ after closed =>
      have value := innerFollows.takes_value read
      have comma := value.trans (takes_behindBlanks next rfl)
      exact StopsIn.behind comma (stopsIn_atBlanks _ closed)
  | case5 taken text item rest read _ _ _ behind next _ _ ih =>
      have value := innerFollows.takes_value read
      exact .behind (value.trans (takes_behindBlanks next rfl)) ih
  | case6 taken text item rest read =>
      have value := innerFollows.takes_value read
      exact StopsIn.behind value (stopsIn_atBlanks _ rfl)

theorem follows_readList (innerFollows : inner.Follows) (text : List Char) :
    (readList inner text).Follows .outside .outside text := by
  fun_cases readList inner text with
  | case1 next => exact stopsIn_atBlanks _ next
  | case2 rest next => exact takes_behindBlanks next rfl
  | case3 => exact follows_readItems innerFollows [] text

theorem follows_readMember (innerFollows : inner.Follows) (text : List Char) :
    (readMember inner text).Follows .inside .outside text := by
  have name := follows_readString [] text
  fun_cases readMember inner text with
  | case1 stop nameRead => exact name.stops nameRead
  | case2 _ rest nameRead next =>
      exact StopsIn.behind (name.takes nameRead) (stopsIn_atBlanks _ next)
  | case3 _ rest nameRead behind next stop valueRead =>
      have colon := (name.takes nameRead).trans (takes_behindBlanks next rfl)
      exact StopsIn.behind colon (innerFollows.stops_value valueRead)
  | case4 _ rest nameRead behind next value after valueRead =>
      have colon := (name.takes nameRead).trans (takes_behindBlanks next rfl)
      exact colon.trans (innerFollows.takes_value valueRead)
  | case5 _ rest nameRead => exact StopsIn.behind (name.takes nameRead) (stopsIn_atBlanks _ rfl)

theorem follows_readMembers (innerFollows : inner.Follows) (taken : List (String × Json))
    (text : List Char) : (readMembers inner taken text).Follows .inside .outside text := by
  fun_induction readMembers inner taken text with
  | case1 taken text stop read => exact (follows_readMember innerFollows text).stops read
  | case2 taken text name value rest read _ _ next =>
      have member := (follows_readMember innerFollows text).takes read
      exact StopsIn.behind member (stopsIn_atBlanks _ next)
  | case3 taken text name value rest read _ _ behind next =>
      have member := (follows_readMember innerFollows text).takes read
      exact member.trans (takes_behindBlanks next rfl)
  | case4 taken text name value rest read _ _ behind next _ _ after quote _ ih =>
      have member := (follows_readMember innerFollows text).takes read
      have comma := member.trans (takes_behindBlanks next rfl)
      exact .behind (comma.trans (takes_behindBlanks quote rfl)) ih
  | case5 taken text name value rest read _ _ behind next _ _ after closed =>
      have member := (follows_readMember innerFollows text).takes read
      have comma := member.trans (takes_behindBlanks next rfl)
      exact StopsIn.behind comma (stopsIn_atBlanks _ closed)
  | case6 taken text name value rest read _ _ behind next _ _ ended =>
      have member := (follows_readMember innerFollows text).takes read
      have comma := member.trans (takes_behindBlanks next rfl)
      exact StopsIn.behind comma (stopsIn_atBlanks _ ended)
  | case7 taken text name value rest read _ _ behind next =>
      have member := (follows_readMember innerFollows text).takes read
      have comma := member.trans (takes_behindBlanks next rfl)
      exact StopsIn.behind comma (stopsIn_atBlanks _ rfl)
  | case8 taken text name value rest read =>
      have member := (follows_readMember innerFollows text).takes read
      exact StopsIn.behind member (stopsIn_atBlanks _ rfl)

theorem follows_readObject (innerFollows : inner.Follows) (text : List Char) :
    (readObject inner text).Follows .outside .outside text := by
  fun_cases readObject inner text with
  | case1 next => exact stopsIn_atBlanks _ next
  | case2 rest next => exact takes_behindBlanks next rfl
  | case3 rest next =>
      exact .behind (takes_behindBlanks next rfl) (follows_readMembers innerFollows [] rest)
  | case4 => exact stopsIn_atBlanks _ rfl

theorem follows_readValue {inner : Option ValueReader}
    (innerFollows : ∀ reader ∈ inner, reader.Follows) (text : List Char) :
    (readValue inner text).Follows .outside .outside text := by
  fun_cases readValue inner text with
  | case1 => exact stopsIn_at _ []
  | case2 _ rest => exact .behind (.step rfl rest) (follows_readWord _ rfl rest)
  | case3 _ rest => exact .behind (.step rfl rest) (follows_readWord _ rfl rest)
  | case4 _ rest => exact .behind (.step rfl rest) (follows_readWord _ rfl rest)
  | case5 _ rest => exact .behind (.step rfl rest) ((follows_readNumber true rest).map _)
  | case6 _ rest => exact .behind (.step rfl rest) ((follows_readString [] rest).map _)
  | case7 rest => exact stopsIn_at _ _
  | case8 rest reader =>
      have items := follows_readList (innerFollows reader rfl) rest
      exact .behind (.step rfl rest) (items.map _)
  | case9 rest => exact stopsIn_at _ _
  | case10 rest reader =>
      have members := follows_readObject (innerFollows reader rfl) rest
      exact .behind (.step rfl rest) (members.map _)
  | case11 => exact (follows_readNumber false _).map _
  | case12 => exact stopsIn_at _ _

end Values

theorem follows_reader (depth : Nat) : (reader depth).Follows := by
  induction depth with
  | zero =>
      intro text
      change (readValue none text).Follows _ _ _
      refine follows_readValue (fun inner same => ?_) text
      cases same
  | succ depth ih =>
      intro text
      change (readValue (some (reader depth)) text).Follows _ _ _
      refine follows_readValue (fun inner same => ?_) text
      cases same
      exact ih

/-- Where a text is refused, its reader has stopped as it may. -/
theorem stopsIn_of_readText {text : List Char} {stop : Stop}
    (refused : readText text = .error stop) : StopsIn .outside text stop := by
  have value := follows_reader greatestDepth
  unfold readText at refused
  split at refused
  · next read =>
      cases refused
      exact value.stops_value read
  · next read =>
      split at refused
      · cases refused
      · cases refused
        exact StopsIn.behind (value.takes_value read) (stopsIn_atBlanks _ rfl)

end AstGrammar.Json
