/-
# `Keypad.FixedPoint` — numbers with a bounded count of decimals

The everyday format of the display.  A number is rounded to the greatest count
of decimals allowed, and zeros at its end are dropped as far as the least count
allows; zeros are put before it up to the least count of integer digits.  There
is no exponent and no grouping, and the mark between the two parts is at choice.

Two rules are about zero.  A number that comes out as zero has no sign.  And a
lone zero before the mark is dropped when no integer digit is asked for, but not
when it is all there is, so the text is never empty.

The counts are independent of each other: a least count of decimals above the
greatest is taken down to it.
-/
import Keypad.Number.Fixed
import Keypad.NumberFormat

namespace Keypad

/-- The settings of the everyday format. -/
structure FixedPoint where
  /-- Numbers are rounded to this many decimals. -/
  maximumFractionDigits : Nat
  /-- Zeros at the end are kept up to this many decimals. -/
  minimumFractionDigits : Nat
  /-- Zeros are put in front up to this many integer digits. -/
  minimumIntegerDigits : Nat
  /-- The mark between the integer digits and the decimals. -/
  decimalSeparator : Char
  deriving DecidableEq, Repr

namespace FixedPoint

/-- Six decimals, none of them forced, at least one integer digit, and a point. -/
def standard : FixedPoint := ⟨6, 0, 1, '.'⟩

/-! ## Writing -/

/-- The number of digits up to the last one that is not zero. -/
def significant (digits : List Char) : Nat :=
  (digits.reverse.dropWhile (· == '0')).length

/-- The decimals that are shown. -/
def kept (s : FixedPoint) (fraction : List Char) : List Char :=
  fraction.take (max (significant fraction) (min s.minimumFractionDigits fraction.length))

/-- The integer digits that are shown before the decimals `fraction`. -/
def padded (s : FixedPoint) (whole fraction : List Char) : List Char :=
  if s.minimumIntegerDigits = 0 ∧ whole = ['0'] ∧ fraction ≠ [] then []
  else List.replicate (s.minimumIntegerDigits - whole.length) '0' ++ whole

/-- The digits of a number that is rounded already, with its sign. -/
def setDigits (s : FixedPoint) (negative : Bool) (digits : Fixed) : List Char :=
  let fraction := s.kept digits.fraction
  let zero := (digits.whole ++ fraction).all (· == '0')
  let unsigned := s.padded digits.whole fraction ++
    (if fraction.isEmpty then [] else s.decimalSeparator :: fraction)
  if negative && !zero then '-' :: unsigned else unsigned

def format (s : FixedPoint) (x : Float) : String :=
  if x.isNaN then "NaN"
  else
    let b := Double.magnitude x
    if b = Double.infinity then if Double.negative x then "-∞" else "∞"
    else String.ofList
      (s.setDigits (Double.negative x) (Fixed.ofMagnitude s.maximumFractionDigits b))

/-! ## Reading -/

/-- A number as it is typed: blanks around it do not matter, and the mark stands
for the point. -/
def parse (s : FixedPoint) (text : String) : Option Float :=
  Reading.number?
    ((Text.trim text.toList).map fun c => if c = s.decimalSeparator then '.' else c)

def toNumberFormat (s : FixedPoint) : NumberFormat where
  format := s.format
  parse := s.parse

/-! ## Zero, rounding and padding -/

example : standard.format (2.0 / 3.0) = "0.666667" := by decide +kernel
example : standard.format (-0.0000001) = "0" := by decide +kernel
example : (FixedPoint.mk 3 2 2 ',').format (-4.0) = "-04,00" := by decide +kernel
example : (FixedPoint.mk 6 0 0 '.').format 0.25 = ".25" := by decide +kernel
example : (FixedPoint.mk 6 0 0 '.').format 0.0 = "0" := by decide +kernel
example : (FixedPoint.mk 6 0 1 ',').parse " ,75 " = some 0.75 := by decide +kernel
example : standard.parse "1.2.3" = none := by decide +kernel

end FixedPoint

end Keypad
