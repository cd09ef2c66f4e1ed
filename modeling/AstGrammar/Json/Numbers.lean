import AstGrammar.Json.Basic
import AstGrammar.Json.Characters

/-!
# Numbers of JSON

An integer that fits into 64 bits is kept exactly. Any other number is held as
a significand of at most 64 bits with a power of ten: digits that do not fit
any more only raise the power in front of the point and are dropped behind it.
The binary fraction is the rounded significand times or divided by the rounded
power.
-/

namespace AstGrammar.Json

open Decimal

def greatestSignificand : Nat := Nat.pow 2 64 - 1

/-- Takes digits into a significand as long as they fit. -/
def takeDigits (significand : Nat) : List Char → Nat × List Char
  | [] => (significand, [])
  | character :: rest =>
      if character.isDigit ∧ significand * 10 + digitValue character ≤ greatestSignificand then
        takeDigits (significand * 10 + digitValue character) rest
      else (significand, character :: rest)

theorem length_takeDigits_le (significand : Nat) (text : List Char) :
    (takeDigits significand text).2.length ≤ text.length := by
  induction text generalizing significand with
  | nil => simp [takeDigits]
  | cons character rest ih =>
      unfold takeDigits
      split
      · have := ih (significand * 10 + digitValue character)
        simp only [List.length_cons]
        omega
      · simp

def skipDigits (text : List Char) : List Char := text.dropWhile Char.isDigit

theorem length_skipDigits_le (text : List Char) :
    (skipDigits text).length ≤ text.length :=
  (List.dropWhile_sublist Char.isDigit).length_le

def startsWithDigit : List Char → Bool
  | [] => false
  | character :: _ => character.isDigit

def powerOfTen? (power : Nat) : Option Binary64 := Binary64.ofNat? (Nat.pow 10 power)

/-- The greatest power of ten that is a binary fraction. -/
def greatestFinitePower : Nat := 308

/-- Divides by the greatest finite power of ten as often as asked, unless
nothing is left to divide. -/
def divideOften (value : Binary64) : (count : Nat) → Option Binary64
  | 0 => some value
  | count + 1 =>
      if value.significand = 0 then some value
      else
        match (powerOfTen? greatestFinitePower).bind value.div? with
        | none => none
        | some smaller => divideOften smaller count

/-- Divides by a power of ten, the greatest finite power first. -/
def divideByPower (value : Binary64) (power : Nat) : Option Binary64 :=
  let count := (power - 1) / greatestFinitePower
  match divideOften value count with
  | none => none
  | some smaller => (powerOfTen? (power - count * greatestFinitePower)).bind smaller.div?

/-- The binary fraction for a significand and a power of ten, or nothing when
it is too large. -/
def scaleByPower (significand : Nat) (power : Int) : Option Binary64 :=
  match Binary64.ofNat? significand with
  | none => none
  | some value =>
      if power < 0 then divideByPower value power.natAbs
      else if power ≤ greatestFinitePower then (powerOfTen? power.natAbs).bind value.mul?
      else if value.significand = 0 then some value
      else none

def endFraction (isNegative : Bool) (significand : Nat) (power : Int) (rest : List Char) :
    Reading Number :=
  match scaleByPower significand power with
  | some magnitude => .ok (.fraction isNegative magnitude, rest)
  | none => .error (.behind .numberOutOfRange rest)

def greatestPower : Nat := Nat.pow 2 31 - 1

/-- Reads the further digits of a power of ten. A power that is too large to be
counted makes the number nought or puts it out of range. -/
def readPower (isNegative : Bool) (significand : Nat) (places : Int) (powerIsNegative : Bool)
    (power : Nat) : List Char → Reading Number
  | [] => endFraction isNegative significand (signed power) []
  | character :: rest =>
      if character.isDigit then
        if power * 10 + digitValue character ≤ greatestPower then
          readPower isNegative significand places powerIsNegative
            (power * 10 + digitValue character) rest
        else if significand ≠ 0 ∧ !powerIsNegative then
          .error (.behind .numberOutOfRange rest)
        else .ok (.fraction isNegative .zero, skipDigits rest)
      else endFraction isNegative significand (signed power) (character :: rest)
where
  /-- The whole power of ten, with the places behind the point. -/
  signed (power : Nat) : Int := places + (if powerIsNegative then -(power : Int) else power)

/-- Reads the digits of a power of ten, of which one must be there. -/
def readFirstPower (isNegative : Bool) (significand : Nat) (places : Int)
    (powerIsNegative : Bool) : List Char → Reading Number
  | [] => .error (.behind .endInValue [])
  | character :: rest =>
      if character.isDigit then
        readPower isNegative significand places powerIsNegative (digitValue character) rest
      else .error (.at .invalidNumber (character :: rest))

def readExponent (isNegative : Bool) (significand : Nat) (places : Int) :
    List Char → Reading Number
  | '+' :: rest => readFirstPower isNegative significand places false rest
  | '-' :: rest => readFirstPower isNegative significand places true rest
  | text => readFirstPower isNegative significand places false text

/-- Reads what may follow the digits of a number that is no integer. -/
def readAfterDigits (isNegative : Bool) (significand : Nat) (places : Int) :
    List Char → Reading Number
  | 'e' :: rest => readExponent isNegative significand places rest
  | 'E' :: rest => readExponent isNegative significand places rest
  | text => endFraction isNegative significand places text

/-- Reads the digits behind a point, of which one must be there. -/
def readPlaces (isNegative : Bool) (significand : Nat) (places : Int) (text : List Char) :
    Reading Number :=
  let (taken, rest) := takeDigits significand text
  if startsWithDigit text then
    readAfterDigits isNegative taken (places - (text.length - rest.length : Nat)) (skipDigits rest)
  else
    match text with
    | [] => .error (.behind .endInValue [])
    | _ => .error (.at .invalidNumber text)

/-- Reads what follows the digits in front of the point. -/
def readAfterInteger (isNegative : Bool) (significand : Nat) (text : List Char) :
    Reading Number :=
  let rest := skipDigits text
  let dropped := text.length - rest.length
  match rest with
  | '.' :: rest => readPlaces isNegative significand dropped rest
  | 'e' :: rest => readExponent isNegative significand dropped rest
  | 'E' :: rest => readExponent isNegative significand dropped rest
  | rest =>
      if 0 < dropped then endFraction isNegative significand dropped rest
      else if !isNegative then .ok (.natural significand, rest)
      else if significand = 0 ∨ Nat.pow 2 63 < significand then
        endFraction isNegative significand 0 rest
      else .ok (.negative significand, rest)

/-- Reads a number behind its sign. -/
def readNumber (isNegative : Bool) : List Char → Reading Number
  | [] => .error (.behind .endInValue [])
  | character :: rest =>
      if character = '0' then
        if startsWithDigit rest then .error (.at .invalidNumber rest)
        else readAfterInteger isNegative 0 rest
      else if character.isDigit then
        let (significand, rest) := takeDigits (digitValue character) rest
        readAfterInteger isNegative significand rest
      else .error (.at .invalidNumber (character :: rest))

section Lengths

variable {isNegative powerIsNegative : Bool} {significand power : Nat} {places : Int}
variable {text rest : List Char} {number : Number}

theorem length_of_endFraction (power : Int)
    (read : endFraction isNegative significand power text = .ok (number, rest)) :
    rest.length ≤ text.length := by
  unfold endFraction at read
  split at read
  · simp only [Except.ok.injEq, Prod.mk.injEq] at read
    obtain ⟨_, rfl⟩ := read
    exact Nat.le_refl _
  · simp at read

theorem length_of_readPower
    (read : readPower isNegative significand places powerIsNegative power text =
      .ok (number, rest)) :
    rest.length ≤ text.length := by
  induction text generalizing power with
  | nil =>
      have := length_of_endFraction _ read
      simpa using this
  | cons character after ih =>
      simp only [readPower] at read
      split at read
      · split at read
        · have := ih read
          simp only [List.length_cons]
          omega
        · split at read
          · simp at read
          · simp only [Except.ok.injEq, Prod.mk.injEq] at read
            obtain ⟨_, rfl⟩ := read
            have := length_skipDigits_le after
            simp only [List.length_cons]
            omega
      · exact length_of_endFraction _ read

theorem length_of_readFirstPower
    (read : readFirstPower isNegative significand places powerIsNegative text =
      .ok (number, rest)) :
    rest.length ≤ text.length := by
  unfold readFirstPower at read
  split at read
  · simp at read
  · split at read
    · have := length_of_readPower read
      simp only [List.length_cons]
      omega
    · simp at read

theorem length_of_readExponent
    (read : readExponent isNegative significand places text = .ok (number, rest)) :
    rest.length ≤ text.length := by
  unfold readExponent at read
  split at read
  · have := length_of_readFirstPower read
    simp only [List.length_cons]
    omega
  · have := length_of_readFirstPower read
    simp only [List.length_cons]
    omega
  · exact length_of_readFirstPower read

theorem length_of_readAfterDigits
    (read : readAfterDigits isNegative significand places text = .ok (number, rest)) :
    rest.length ≤ text.length := by
  unfold readAfterDigits at read
  split at read
  · have := length_of_readExponent read
    simp only [List.length_cons]
    omega
  · have := length_of_readExponent read
    simp only [List.length_cons]
    omega
  · exact length_of_endFraction _ read

theorem length_of_readPlaces
    (read : readPlaces isNegative significand places text = .ok (number, rest)) :
    rest.length ≤ text.length := by
  simp only [readPlaces] at read
  split at read
  · have := length_of_readAfterDigits read
    have := length_skipDigits_le (takeDigits significand text).2
    have := length_takeDigits_le significand text
    omega
  · split at read <;> simp at read

theorem length_of_readAfterInteger
    (read : readAfterInteger isNegative significand text = .ok (number, rest)) :
    rest.length ≤ text.length := by
  have skipped := length_skipDigits_le text
  simp only [readAfterInteger] at read
  split at read
  · next equal =>
      have := length_of_readPlaces read
      have := congrArg List.length equal
      simp only [List.length_cons] at this
      omega
  · next equal =>
      have := length_of_readExponent read
      have := congrArg List.length equal
      simp only [List.length_cons] at this
      omega
  · next equal =>
      have := length_of_readExponent read
      have := congrArg List.length equal
      simp only [List.length_cons] at this
      omega
  · split at read
    · have := length_of_endFraction _ read
      omega
    · split at read
      · simp only [Except.ok.injEq, Prod.mk.injEq] at read
        obtain ⟨_, rfl⟩ := read
        exact skipped
      · split at read
        · have := length_of_endFraction _ read
          omega
        · simp only [Except.ok.injEq, Prod.mk.injEq] at read
          obtain ⟨_, rfl⟩ := read
          exact skipped

theorem length_of_readNumber
    (read : readNumber isNegative text = .ok (number, rest)) :
    rest.length < text.length := by
  unfold readNumber at read
  split at read
  · simp at read
  · next character after =>
      split at read
      · split at read
        · simp at read
        · have := length_of_readAfterInteger read
          simp only [List.length_cons]
          omega
      · split at read
        · have := length_of_readAfterInteger read
          have := length_takeDigits_le (digitValue character) after
          simp only [List.length_cons]
          omega
        · simp at read

end Lengths

end AstGrammar.Json
