/-!
# Finite binary fractions of double precision

A nonnegative number `significand * 2 ^ exponent` with at most 53 bits and an
exponent of at least -1074. Every result is the nearest such number to an
exact quotient, with a tie going to the even significand. Numbers that would
round to `2 ^ 1024` or more have no result.
-/

namespace AstGrammar.Decimal

/-- The nonnegative number `significand * 2 ^ exponent`. -/
structure Binary64 where
  significand : Nat
  exponent : Int
  deriving DecidableEq

/-- The nearest integer to a quotient, a tie going to the even one. -/
def roundQuotient (numerator denominator : Nat) : Nat :=
  let quotient := numerator / denominator
  let doubled := 2 * (numerator % denominator)
  if doubled < denominator then quotient
  else if denominator < doubled then quotient + 1
  else quotient + quotient % 2

namespace Binary64

def zero : Binary64 := ⟨0, -1074⟩

def numerator (number : Binary64) : Nat :=
  number.significand * Nat.pow 2 number.exponent.toNat

def denominator (number : Binary64) : Nat :=
  Nat.pow 2 (-number.exponent).toNat

/-- The exponent for which a quotient has 53 bits in front of the point, but
no less than -1074. -/
def fittingExponent (numerator denominator : Nat) : Int :=
  let estimate : Int := (Nat.log2 numerator : Int) - Nat.log2 denominator - 52
  let short :=
    numerator * Nat.pow 2 (-estimate).toNat <
      Nat.pow 2 52 * (denominator * Nat.pow 2 estimate.toNat)
  max (if short then estimate - 1 else estimate) (-1074)

/-- The nearest number to a quotient, or nothing when that is too large. -/
def ofQuotient? (numerator denominator : Nat) : Option Binary64 :=
  if numerator = 0 then some zero
  else
    let exponent := fittingExponent numerator denominator
    let significand :=
      roundQuotient (numerator * Nat.pow 2 (-exponent).toNat)
        (denominator * Nat.pow 2 exponent.toNat)
    let rounded : Binary64 :=
      if significand = Nat.pow 2 53 then ⟨Nat.pow 2 52, exponent + 1⟩
      else ⟨significand, exponent⟩
    if 971 < rounded.exponent then none else some rounded

def ofNat? (value : Nat) : Option Binary64 :=
  ofQuotient? value 1

def mul? (first second : Binary64) : Option Binary64 :=
  ofQuotient? (first.numerator * second.numerator) (first.denominator * second.denominator)

def div? (first second : Binary64) : Option Binary64 :=
  ofQuotient? (first.numerator * second.denominator) (first.denominator * second.numerator)

end Binary64

end AstGrammar.Decimal
