import AstGrammar.Document.Model
import AstGrammar.Proofs.Json.Stops

/-!
# Placing what is no JSON

A text that is no JSON is reported with the character in front of the place where reading
stopped.  There is none where that place falls behind a byte that another byte of the same
character follows, and then loading has no answer.  Reading stops at such a place only in
a string: at the end behind a character of several bytes, or behind the four bytes of a
broken escape when they end in the middle of a character.
-/

namespace AstGrammar

namespace Json

open Text

/-- A text ends in a string, perhaps in an escape by code unit that lacks some of its four
bytes. -/
def EndsInString (text : List Char) : Prop :=
  (∃ place, Place.outside.behind? text = some place ∧ place ≠ .outside) ∨
    ∃ front short, text = front ++ '\\' :: 'u' :: short ∧
      Place.outside.behind? front = some .inside ∧ byteSize short < 4

def IsHexDigit (byte : UInt8) : Prop := (hexValue? (Char.ofUInt8 byte)).isSome

namespace Stop

variable {text : List Char} {stop : Stop}

/-- Reading stops in a string at the end of a text, whose last character has several bytes. -/
def EndsWide (text : List Char) (stop : Stop) : Prop :=
  stop.offset text = byteSize text ∧ EndsInString text ∧
    ∃ last ∈ text.getLast?, 1 < last.utf8Size

/-- Reading stops in a string behind the four bytes of an escape by code unit, which are not
all hexadecimal digits and of which the fourth continues a character. -/
def BreaksUnit (text : List Char) (stop : Stop) : Prop :=
  ∃ front rest, text = front ++ '\\' :: 'u' :: rest ∧
    Place.outside.behind? front = some .inside ∧ stop.offset text = byteSize front + 2 + 4 ∧
    (¬ ∀ byte ∈ (utf8 rest).take 4, IsHexDigit byte) ∧
    ∃ byte ∈ (utf8 rest)[3]?, IsContinuation byte

theorem offset_le (stop : Stop) (text : List Char) : stop.offset text ≤ byteSize text :=
  Nat.min_le_left _ _

theorem offset_append (fault : SyntaxFault) (front unread : List Char) (seen : Nat) :
    (Stop.mk fault unread seen).offset (front ++ unread) =
      byteSize front + min (byteSize unread) seen := by
  rw [offset, byteSize_append, Nat.add_sub_cancel, Nat.add_min_add_left]

theorem offset_at (fault : SyntaxFault) (front rest : List Char) (character : Char) :
    (Stop.at fault (character :: rest)).offset (front ++ character :: rest) =
      byteSize front + 1 := by
  have positive := Char.utf8Size_pos character
  rw [Stop.at, offset_append, byteSize_cons, Nat.min_eq_right (by omega)]

theorem offset_behind (fault : SyntaxFault) (front unread : List Char) :
    (Stop.behind fault unread).offset (front ++ unread) = byteSize front := by
  rw [Stop.behind, offset_append, Nat.min_zero, Nat.add_zero]

theorem offset_behind_nil (fault : SyntaxFault) (text : List Char) :
    (Stop.behind fault []).offset text = byteSize text := by
  have whole := offset_behind fault text []
  rwa [List.append_nil] at whole

/-- A stop at the fourth byte of an escape by code unit. -/
theorem offset_unit (fault : SyntaxFault) (front : List Char) {rest : List Char}
    (long : 4 ≤ byteSize rest) :
    (Stop.mk fault rest 4).offset (front ++ '\\' :: 'u' :: rest) = byteSize front + 2 + 4 := by
  have split : front ++ '\\' :: 'u' :: rest = (front ++ ['\\', 'u']) ++ rest := by simp
  rw [split, offset_append, byteSize_append, Nat.min_eq_right long]
  rfl

end Stop

/-- Reading a text stops in a string in one of the two ways that fall inside a character. -/
def StopsInCharacter (text : List Char) : Prop :=
  ∃ stop, readText text = .error stop ∧ (stop.EndsWide text ∨ stop.BreaksUnit text)

section Places

variable {text front back : List Char} {stop : Stop}

/-- What is taken between strings ends with a character of one byte. -/
theorem isBoundary_of_behind?_eq_outside (back : List Char)
    (reached : Place.outside.behind? front = some .outside) :
    IsBoundary (front ++ back) (byteSize front - 1) := by
  rcases List.eq_nil_or_concat front with rfl | ⟨others, last, rfl⟩
  · exact isBoundary_append [] back
  · rw [List.concat_eq_append] at reached ⊢
    rw [Place.behind?_concat, Option.bind_eq_some_iff] at reached
    obtain ⟨place, -, reached⟩ := reached
    have narrow := Place.utf8Size_of_next?_eq_outside reached
    rw [List.append_assoc, byteSize_append, byteSize_cons, byteSize_nil, Nat.add_zero]
    exact isBoundary_sub_one_iff.2 narrow

/-- Between strings reading stops behind a character of one byte or in one. -/
theorem isBoundary_of_takes_outside (taken : Takes .outside .outside text stop.unread)
    (seen : stop.seen ≤ 1) : IsBoundary text (stop.offset text - 1) := by
  obtain ⟨fault, unread, seen⟩ := stop
  obtain ⟨front, rfl, reached⟩ := taken
  rw [Stop.offset_append]
  cases unread with
  | nil => simpa using isBoundary_of_behind?_eq_outside [] reached
  | cons character rest =>
      have positive := Char.utf8Size_pos character
      have unreadSize : 0 < byteSize (character :: rest) := by
        rw [byteSize_cons]
        omega
      rcases Nat.le_one_iff_eq_zero_or_eq_one.1 seen with rfl | rfl
      · rw [Nat.min_zero, Nat.add_zero]
        exact isBoundary_of_behind?_eq_outside _ reached
      · rw [Nat.min_eq_right unreadSize, Nat.add_sub_cancel]
        exact isBoundary_append _ _

/-- Where the last byte of a text is no boundary, the last character has others. -/
theorem exists_getLast?_of_not_isBoundary (within : ¬ IsBoundary text (byteSize text - 1)) :
    ∃ last ∈ text.getLast?, 1 < last.utf8Size := by
  rcases List.eq_nil_or_concat text with rfl | ⟨front, last, rfl⟩
  · exact absurd (isBoundary_append [] []) within
  · have positive := Char.utf8Size_pos last
    rw [List.concat_eq_append, byteSize_append, byteSize_cons, byteSize_nil, Nat.add_zero,
      isBoundary_sub_one_iff] at within
    exact ⟨last, by simp, by omega⟩

theorem endsWide_of_not_isBoundary (atEnd : stop.offset text = byteSize text)
    (inString : EndsInString text) (within : ¬ IsBoundary text (stop.offset text - 1)) :
    stop.EndsWide text := by
  rw [atEnd] at within
  exact ⟨atEnd, inString, exists_getLast?_of_not_isBoundary within⟩

theorem not_isBoundary_of_endsWide (wide : stop.EndsWide text) :
    ¬ IsBoundary text (stop.offset text - 1) := by
  obtain ⟨atEnd, -, last, isLast, several⟩ := wide
  obtain ⟨front, rfl⟩ := List.getLast?_eq_some_iff.1 isLast
  rw [atEnd, byteSize_append, byteSize_cons, byteSize_nil, Nat.add_zero, isBoundary_sub_one_iff]
  omega

/-- No byte that continues a character is a digit. -/
theorem not_isContinuation_of_isHexDigit {byte : UInt8} (digit : IsHexDigit byte) :
    ¬ IsContinuation byte := by
  obtain ⟨value, found⟩ := Option.isSome_iff_exists.1 digit
  have narrow := Char.utf8Size_eq_one_iff.1 (plain_of_hexValue? found).1
  have small : byte.toUInt32.toNat ≤ 127 := UInt32.le_iff_toNat_le.1 narrow
  rw [UInt8.toNat_toUInt32] at small
  exact fun continues => absurd continues.1 (by omega)

/-- The fourth byte behind the start of an escape by code unit is no boundary exactly when it
continues a character. -/
theorem not_isBoundary_unit_iff {rest : List Char} (long : 4 ≤ byteSize rest) :
    ¬ IsBoundary (front ++ '\\' :: 'u' :: rest) (byteSize front + 2 + 4 - 1) ↔
      ∃ byte ∈ (utf8 rest)[3]?, IsContinuation byte := by
  have split : front ++ '\\' :: 'u' :: rest = (front ++ ['\\', 'u']) ++ rest := by simp
  have size : byteSize (front ++ ['\\', 'u']) = byteSize front + 2 := by
    rw [byteSize_append]
    rfl
  rw [← not_isBoundary_iff (by omega), isBoundary_iff, isBoundary_iff, split, ← size,
    Nat.add_sub_assoc (by decide), dropBytes_append_add]

theorem not_isBoundary_of_breaksUnit (breaks : stop.BreaksUnit text) :
    ¬ IsBoundary text (stop.offset text - 1) := by
  obtain ⟨front, rest, rfl, -, atFourth, -, byte, held, continues⟩ := breaks
  have long : 4 ≤ byteSize rest := by
    rw [← length_utf8]
    exact (List.getElem?_eq_some_iff.1 held).1
  rw [atFourth, not_isBoundary_unit_iff long]
  exact ⟨byte, held, continues⟩

theorem breaksUnit_of_not_isBoundary {fault : SyntaxFault} {rest : List Char}
    (reached : Place.outside.behind? front = some .inside) (long : 4 ≤ byteSize rest)
    (within : ¬ IsBoundary (front ++ '\\' :: 'u' :: rest) (byteSize front + 2 + 4 - 1)) :
    (Stop.mk fault rest 4).BreaksUnit (front ++ '\\' :: 'u' :: rest) := by
  obtain ⟨byte, held, continues⟩ := (not_isBoundary_unit_iff long).1 within
  have fourth : byte ∈ (utf8 rest).take 4 := by
    rw [List.mem_take_iff_getElem]
    obtain ⟨bound, equal⟩ := List.getElem?_eq_some_iff.1 held
    exact ⟨3, by omega, equal⟩
  have broken : ¬ ∀ byte ∈ (utf8 rest).take 4, IsHexDigit byte := fun digits =>
    not_isContinuation_of_isHexDigit (digits byte fourth) continues
  exact ⟨front, rest, rfl, reached, Stop.offset_unit fault front long, broken, byte, held,
    continues⟩

/-- Reading that stops inside a character stops in a string in one of two ways. -/
theorem endsWide_or_breaksUnit (stops : StopsIn .outside text stop)
    (within : ¬ IsBoundary text (stop.offset text - 1)) :
    stop.EndsWide text ∨ stop.BreaksUnit text := by
  cases stops with
  | outside taken seen => exact absurd (isBoundary_of_takes_outside taken seen) within
  | character split =>
      rw [split, Stop.offset_at] at within
      exact absurd (isBoundary_append _ _) within
  | @narrow fault front rest last split size =>
      have behind : text = (front ++ [last]) ++ rest := by simp [split]
      rw [behind, Stop.offset_behind, byteSize_append, byteSize_cons, byteSize_nil, size,
        List.append_assoc] at within
      exact absurd (isBoundary_append _ _) within
  | ending taken inString =>
      obtain ⟨front, split, reached⟩ := taken
      rw [List.append_nil] at split
      have unclosed : EndsInString text := .inl ⟨_, split ▸ reached, inString⟩
      exact .inl (endsWide_of_not_isBoundary (Stop.offset_behind_nil _ _) unclosed within)
  | @unit rest taken =>
      obtain ⟨front, rfl, reached⟩ := taken
      unfold stopInUnit at within ⊢
      split
      · next short =>
          rw [if_pos short] at within
          have unclosed : EndsInString _ := .inr ⟨front, rest, rfl, reached, short⟩
          exact .inl (endsWide_of_not_isBoundary (Stop.offset_behind_nil _ _) unclosed within)
      · next long =>
          have four : 4 ≤ byteSize rest := Nat.le_of_not_lt long
          rw [if_neg long, Stop.offset_unit _ front four] at within
          exact .inr (breaksUnit_of_not_isBoundary reached four within)

/-- Reading stops inside a character exactly at a wide end and at a broken escape. -/
theorem not_isBoundary_offset_iff (stops : StopsIn .outside text stop) :
    ¬ IsBoundary text (stop.offset text - 1) ↔ stop.EndsWide text ∨ stop.BreaksUnit text := by
  refine ⟨endsWide_or_breaksUnit stops, ?_⟩
  rintro (wide | breaks)
  · exact not_isBoundary_of_endsWide wide
  · exact not_isBoundary_of_breaksUnit breaks

/-- Reading that stops between strings stops at no place inside a character. -/
theorem isBoundary_of_unread_outside (stops : StopsIn .outside text stop)
    (taken : Takes .outside .outside text stop.unread) :
    IsBoundary text (stop.offset text - 1) := by
  cases stops with
  | outside _ seen => exact isBoundary_of_takes_outside taken seen
  | character => exact isBoundary_of_takes_outside taken (Nat.le_refl 1)
  | narrow => exact isBoundary_of_takes_outside taken (Nat.zero_le 1)
  | ending => exact isBoundary_of_takes_outside taken (Nat.zero_le 1)
  | @unit rest inString =>
      unfold stopInUnit at taken ⊢
      split
      · next short =>
          rw [if_pos short] at taken
          exact isBoundary_of_takes_outside taken (Nat.zero_le 1)
      · next long =>
          rw [if_neg long] at taken
          obtain ⟨others, split, reached⟩ := taken
          obtain ⟨front, textEq, inside⟩ := inString.trans (takes_escape 'u' rest)
          have same : others = front := List.append_cancel_right (split.symm.trans textEq)
          rw [same, inside] at reached
          cases reached

end Places

end Json

namespace GrammarModel

/-- Loading a text gives a model or says what is wrong with the text. -/
def HasAnswer (text : String) : Prop :=
  (∃ model, load text = .ok model) ∨ ∃ diagnostics, load text = .error (.rejected diagnostics)

section Answers

variable {text : String}

theorem hasAnswer_iff : HasAnswer text ↔ ¬ ∃ error, load text = .error (.unplaced error) := by
  unfold HasAnswer
  cases load text with
  | ok model => simp
  | error error => cases error <;> simp

/-- What is JSON is never without a place. -/
theorem load_ne_unplaced_of_parse {document : Json} (parsed : Json.parse text = .ok document) :
    ¬ ∃ error, load text = .error (.unplaced error) := by
  rintro ⟨error, unplaced⟩
  simp only [load, parsed] at unplaced
  split at unplaced <;> cases unplaced

/-- A text that is no JSON has no answer where reading stopped behind a byte that another byte
of the same character follows. -/
theorem load_eq_unplaced_iff_of_refused {stop : Json.Stop}
    (refused : Json.readText text.toList = .error stop) :
    (∃ error, load text = .error (.unplaced error)) ↔
      ¬ Text.IsBoundary text.toList (stop.offset text.toList - 1) := by
  have parsed : Json.parse text = .error (stop.toError text.toList) := by
    rw [Json.parse, refused]
  rw [← Text.atLineColumn_ofOffset_eq_none_iff (stop.offset_le text.toList)]
  simp only [load, parsed, Json.SyntaxError.diagnostic?, Json.Stop.toError]
  cases Text.Span.atLineColumn text.toList _ _ with
  | none => simp
  | some span => simp

/-- Loading has no answer exactly for a text that reading leaves in a string, at its end
behind a character of several bytes or behind a broken escape that ends in the middle of a
character. -/
theorem load_eq_unplaced_iff (text : String) :
    (∃ error, load text = .error (.unplaced error)) ↔ Json.StopsInCharacter text.toList := by
  unfold Json.StopsInCharacter
  cases read : Json.readText text.toList with
  | ok document =>
      have parsed : Json.parse text = .ok document := by rw [Json.parse, read]
      simp only [load_ne_unplaced_of_parse parsed, reduceCtorEq, false_and, exists_false]
  | error stop =>
      have stops := Json.stopsIn_of_readText read
      rw [load_eq_unplaced_iff_of_refused read, Json.not_isBoundary_offset_iff stops]
      simp

end Answers

/-- Loading has no answer exactly for a text that reading leaves in a string, at its end
behind a character of several bytes or behind a broken escape that ends in the middle of a
character.  It has one for every other text, among them what is JSON and what stops being
JSON between strings. -/
theorem hasAnswer_unless_stops_in_character (text : String) :
    ((∃ error, load text = .error (.unplaced error)) ↔ Json.StopsInCharacter text.toList) ∧
      (¬ Json.StopsInCharacter text.toList → HasAnswer text) ∧
      (∀ document, Json.parse text = .ok document → HasAnswer text) ∧
      (∀ stop, Json.readText text.toList = .error stop →
        Json.Takes .outside .outside text.toList stop.unread → HasAnswer text) := by
  have unplaced := load_eq_unplaced_iff text
  refine ⟨unplaced, fun others => ?_, fun document parsed => ?_, fun stop refused taken => ?_⟩
  · exact hasAnswer_iff.2 fun found => others (unplaced.1 found)
  · exact hasAnswer_iff.2 (load_ne_unplaced_of_parse parsed)
  · have boundary := Json.isBoundary_of_unread_outside (Json.stopsIn_of_readText refused) taken
    exact hasAnswer_iff.2 fun found =>
      (load_eq_unplaced_iff_of_refused refused).1 found boundary

example : (match load "\"\\u00é\"" with | .error error => some error | .ok _ => none) =
    some (.unplaced ⟨.invalidEscape, 1, 7⟩) := by
  decide +kernel

end GrammarModel

end AstGrammar
