/-
# `Keypad.Number.Rounding` — rounding a quotient, and the double nearest to one

One rule rounds everything in this library: `roundQuotient` takes a quotient of
two natural numbers to the nearest natural number.  Only an exact half needs a
decision, and it is a parameter (`Tie`).

The double nearest to a quotient follows.  Count the quotient in least steps of
2^-1074; drop as many binary places as it has beyond 53; round what is left.
The rounded significand and the number of places dropped make the magnitude by
mere addition, and a carry out of the significand lands where it should, in the
next exponent.  What would lie beyond the greatest double is infinity.
-/
import Keypad.Number.Double

namespace Keypad

/-! ## Quotients -/

/-- What becomes of an exact half. -/
inductive Tie where
  | toEven
  | up
  deriving DecidableEq, Repr

/-- The natural number nearest to `num / den`. -/
def roundQuotient (tie : Tie) (num den : Nat) : Nat :=
  let low := num / den
  let rest := 2 * (num % den)
  if rest < den then low
  else if den < rest then low + 1
  else match tie with
    | .toEven => low + low % 2
    | .up => low + 1

/-- A quotient that is a natural number is rounded to itself. -/
theorem roundQuotient_mul {tie : Tie} {den : Nat} (n : Nat) (h : 0 < den) :
    roundQuotient tie (n * den) den = n := by
  simp [roundQuotient, Nat.mul_div_cancel n h, h]

/-! ## Doubles -/

namespace Double

/-- The magnitude of the double nearest to `num / den`, ties to the even one. -/
def nearest (num den : Nat) : Nat :=
  let scaled := num * Nat.pow 2 depth
  let dropped := (scaled / den).log2 + 1 - 53
  min infinity (roundQuotient .toEven scaled (den * Nat.pow 2 dropped) + dropped * span)

/-- The product of two magnitudes, rounded. -/
def product (a b : Nat) : Nat := nearest (steps a * steps b) (Nat.pow 2 (2 * depth))

/-- The quotient of two magnitudes, rounded. -/
def quotient (a b : Nat) : Nat := nearest (steps a) (steps b)

/-- The magnitude of the double nearest to `coefficient × 10 ^ exponent`, where
`coefficient` has at most `count` digits.

The two tests at the front change no answer: from 10^309 on every number is
nearest to infinity, and below 10^-324 every number is nearest to zero.  They
keep the powers of ten small whatever exponent was written. -/
def nearestDecimal (coefficient count : Nat) (exponent : Int) : Nat :=
  if coefficient = 0 then 0
  else if 309 ≤ exponent then infinity
  else if exponent + count ≤ -324 then 0
  else match exponent with
    | .ofNat e => nearest (coefficient * Nat.pow 10 e) 1
    | .negSucc e => nearest coefficient (Nat.pow 10 (e + 1))

end Double

end Keypad
