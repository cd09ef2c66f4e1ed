import AstGrammar.Decimal.Binary64

/-!
# Shortest decimals

The decimal text of a binary fraction has the fewest digits that still read
back as the same fraction. The digits come from the coarsest decimal grid with
a point nearer to the fraction than to its neighbours.
-/

namespace AstGrammar.Decimal

/-- A decimal number `digits * 10 ^ exponent`. -/
structure Numeral where
  digits : Nat
  exponent : Int
  deriving DecidableEq

/-- An exact fraction with a positive denominator. -/
structure Fraction where
  numerator : Nat
  denominator : Nat

namespace Fraction

def scaled (significand base : Nat) (exponent : Int) : Fraction :=
  ⟨significand * Nat.pow base exponent.toNat, Nat.pow base (-exponent).toNat⟩

def isLess (first second : Fraction) : Bool :=
  first.numerator * second.denominator < second.numerator * first.denominator

/-- Compares twice a fraction with the sum of two others. -/
def compareDouble (middle first second : Fraction) : Ordering :=
  compare (2 * middle.numerator * (first.denominator * second.denominator))
    ((first.numerator * second.denominator + second.numerator * first.denominator) *
      middle.denominator)

end Fraction

/-- The lower end of the numbers that round to a binary fraction. The gap is
half as wide below a power of two. -/
def lowerEnd (number : Binary64) : Fraction :=
  if number.significand = Nat.pow 2 52 ∧ -1074 < number.exponent then
    .scaled (4 * number.significand - 1) 2 (number.exponent - 2)
  else .scaled (2 * number.significand - 1) 2 (number.exponent - 1)

/-- The upper end of the numbers that round to a binary fraction. -/
def upperEnd (number : Binary64) : Fraction :=
  .scaled (2 * number.significand + 1) 2 (number.exponent - 1)

/-- A decimal rounds to a binary fraction. The ends count for an even
significand. -/
def roundsTo (decimal : Numeral) (number : Binary64) : Bool :=
  let value := Fraction.scaled decimal.digits 10 decimal.exponent
  if number.significand % 2 = 0 then
    !value.isLess (lowerEnd number) && !(upperEnd number).isLess value
  else (lowerEnd number).isLess value && value.isLess (upperEnd number)

/-- The point of a decimal grid that stands for a binary fraction: of its two
neighbours on the grid the one that rounds to it, and the nearer if both do. A
tie goes to the even digit. -/
def onGrid? (number : Binary64) (exponent : Int) : Option Numeral :=
  let value := Fraction.scaled number.significand 2 number.exponent
  let unit := Fraction.scaled 1 10 exponent
  let floor := value.numerator * unit.denominator / (value.denominator * unit.numerator)
  let below : Numeral := ⟨floor, exponent⟩
  let above : Numeral := ⟨floor + 1, exponent⟩
  if roundsTo below number then
    if roundsTo above number then
      match value.compareDouble (.scaled floor 10 exponent) (.scaled (floor + 1) 10 exponent) with
      | .lt => some below
      | .gt => some above
      | .eq => some (if floor % 2 = 0 then below else above)
    else some below
  else if roundsTo above number then some above
  else none

/-- The first hit among `count` grids, from a coarse one to finer ones. -/
def firstOnGrids (number : Binary64) : (count : Nat) → (exponent : Int) → Numeral
  | 0, exponent => ⟨0, exponent⟩
  | count + 1, exponent =>
      match onGrid? number exponent with
      | some decimal => decimal
      | none => firstOnGrids number count (exponent - 1)

/-- The decimal with the fewest digits that rounds to a binary fraction. Every
such fraction lies on a grid between `10 ^ 309` and `10 ^ -324`. -/
def shortest (number : Binary64) : Numeral :=
  if number.significand = 0 then ⟨0, 0⟩ else firstOnGrids number 634 309

/-- How decimals are written: the range of powers of ten for which the first
digit stands in positional notation. Other numbers have an exponent. -/
structure Style where
  leastPositional : Int
  greatestPositional : Int

/-- A point behind the first `places` digits, with noughts where digits are
missing and at least one digit on either side. -/
def positional (digits : List Char) (places : Int) : List Char :=
  if places ≤ 0 then
    '0' :: '.' :: List.replicate (-places).toNat '0' ++ digits
  else if digits.length ≤ places.toNat then
    digits ++ List.replicate (places.toNat - digits.length) '0' ++ ['.', '0']
  else digits.take places.toNat ++ '.' :: digits.drop places.toNat

/-- One digit, a point and the other digits, and a signed power of ten. -/
def scientific (digits : List Char) (power : Int) : List Char :=
  let sign := if power < 0 then '-' else '+'
  let fraction :=
    match digits.drop 1 with
    | [] => []
    | rest => '.' :: rest
  digits.take 1 ++ fraction ++ 'e' :: sign :: Nat.toDigits 10 power.natAbs

def Numeral.text (style : Style) (decimal : Numeral) : List Char :=
  let digits := Nat.toDigits 10 decimal.digits
  let places := digits.length + decimal.exponent
  let power := places - 1
  if style.leastPositional ≤ power ∧ power ≤ style.greatestPositional then
    positional digits places
  else scientific digits power

def Binary64.text (style : Style) (number : Binary64) : List Char :=
  (shortest number).text style

end AstGrammar.Decimal
