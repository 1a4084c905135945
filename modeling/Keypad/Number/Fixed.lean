/-
# `Keypad.Number.Fixed` — a double rounded to a fixed number of decimals

The exact value of the double is rounded, not some shorter decimal that stands
for it: with one decimal 0.25 gives 0.2 and 0.35, which lies a little below its
name, gives 0.3.  An exact half goes to the even digit.  The result is a natural
number of units of the last place, and its digits are read off in two parts.
-/
import Keypad.Number.Rounding

namespace Keypad

/-- The digits of a number with a fixed number of decimals. -/
structure Fixed where
  /-- The digits before the point, without leading zeros: at least one. -/
  whole : List Char
  /-- The digits after the point, all of them. -/
  fraction : List Char
  deriving DecidableEq, Repr

namespace Fixed

/-- The digits of `units` counted in units of the last of `places` decimals. -/
def ofUnits (places units : Nat) : Fixed :=
  let low := Nat.toDigits 10 (units % Nat.pow 10 places)
  { whole := Nat.toDigits 10 (units / Nat.pow 10 places)
    fraction := if places = 0 then []
      else List.replicate (places - low.length) '0' ++ low }

/-- A finite magnitude in units of the last of `places` decimals, to the nearest. -/
def units (places b : Nat) : Nat :=
  roundQuotient .toEven (Double.steps b * Nat.pow 10 places) (Nat.pow 2 Double.depth)

def ofMagnitude (places b : Nat) : Fixed := ofUnits places (units places b)

/-- The digits with a point between the parts, if there is anything after it. -/
def text (f : Fixed) : List Char :=
  if f.fraction.isEmpty then f.whole else f.whole ++ '.' :: f.fraction

/-- A double with `places` decimals.  Every number whose sign bit is set has a
sign, also one that is rounded to zero. -/
def write (places : Nat) (x : Float) : String :=
  if x.isNaN then "NaN"
  else
    let b := Double.magnitude x
    let unsigned : List Char :=
      if b = Double.infinity then ['i', 'n', 'f'] else (ofMagnitude places b).text
    String.ofList (if Double.negative x then '-' :: unsigned else unsigned)

example : write 1 0.25 = "0.2" := by decide +kernel
example : write 1 0.35 = "0.3" := by decide +kernel
example : write 1 (-0.04) = "-0.0" := by decide +kernel
example : write 0 2.5 = "2" := by decide +kernel

end Fixed

end Keypad
