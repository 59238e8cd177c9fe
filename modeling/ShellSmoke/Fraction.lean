/-
This file holds fractions of natural numbers, which are compared, rounded and scaled exactly.
-/

namespace ShellSmoke

/-- A fraction that is not negative; the denominator is not zero where one is made in this
library. -/
structure Fraction where
  numerator : Nat
  denominator : Nat
deriving DecidableEq, Repr, Inhabited

namespace Fraction

/-- Whether one fraction is strictly below another. -/
def below (first second : Fraction) : Bool :=
  first.numerator * second.denominator < second.numerator * first.denominator

/-- The sum of two fractions. -/
def plus (first second : Fraction) : Fraction :=
  ⟨first.numerator * second.denominator + second.numerator * first.denominator,
    first.denominator * second.denominator⟩

/-- The largest whole number that is not larger. -/
def whole (fraction : Fraction) : Nat := fraction.numerator / fraction.denominator

/-- What is left of the numerator beside the whole number. -/
def remainder (fraction : Fraction) : Nat := fraction.numerator % fraction.denominator

/-- The nearest whole number; of two that are as near, the even one. -/
def rounded (fraction : Fraction) : Nat :=
  let twice := 2 * fraction.remainder
  if fraction.denominator < twice ∨ (twice = fraction.denominator ∧ fraction.whole % 2 = 1) then
    fraction.whole + 1
  else fraction.whole

/-- A fraction times a power of a base. -/
def scaled (fraction : Fraction) (base : Nat) (exponent : Int) : Fraction :=
  if 0 ≤ exponent then ⟨fraction.numerator * Nat.pow base exponent.toNat, fraction.denominator⟩
  else ⟨fraction.numerator, fraction.denominator * Nat.pow base (-exponent).toNat⟩

/-- The exponent of the first decimal place that is not zero. -/
def firstPlace (fraction : Fraction) : Int :=
  let digits (number : Nat) : Nat := (Nat.toDigits 10 number).length
  if fraction.numerator = 0 then 0
  else if 0 < fraction.whole then (digits fraction.whole : Int) - 1
  else
    let guess := digits fraction.denominator - digits fraction.numerator
    let reaches (places : Nat) : Bool :=
      decide (fraction.denominator ≤ fraction.numerator * Nat.pow 10 places)
    let places := ([guess - 1, guess].find? reaches).getD (guess + 1)
    0 - (places : Int)

end Fraction

end ShellSmoke
