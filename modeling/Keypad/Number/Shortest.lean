/-
# `Keypad.Number.Shortest` — the fewest digits that read back

A double is the nearest one to every number in a certain interval around it,
which reaches halfway to its two neighbours.  Any decimal in that interval reads
back as the double.  To print it, take one with as few digits as possible, and
of those the nearest.

The search below is exact and has no notion of a floating-point error.  One
least step 2^-1074 is 5^1074 units of 10^-1074, so in those units the double,
the two ends of its interval and every point of a decimal grid are natural
numbers.  The grids are tried from the coarsest down.  A grid that meets the
interval does so in one of the two points that enclose the double, so only these
are tested; and the finest grid, of single units, holds the double itself, so
the search ends with a hit.

The ends belong to the interval when the significand is even, since a number
halfway between two doubles reads as the even one.
-/
import Keypad.Number.Rounding

namespace Keypad

/-- A decimal number: a coefficient, and the place of its last digit counted in
powers of ten from 10^-1074. -/
structure Decimal where
  coefficient : Nat
  place : Nat
  deriving DecidableEq, Repr

namespace Double

/-- The decimals that read back as one double, given by twice the double and by
the two ends doubled as well, all in units of 10^-1074. -/
structure Interval where
  low : Nat
  double : Nat
  high : Nat
  closed : Bool

/-- The interval of a magnitude. -/
def interval (b : Nat) : Interval where
  low := (steps (b - 1) + steps b) * Nat.pow 5 depth
  double := 2 * steps b * Nat.pow 5 depth
  high := (steps b + steps (b + 1)) * Nat.pow 5 depth
  closed := b % 2 == 0

/-- Whether a number, doubled and in units of 10^-1074, reads back. -/
def Interval.holds (v : Interval) (x : Nat) : Bool :=
  if v.closed then v.low ≤ x && x ≤ v.high else v.low < x && x < v.high

/-- The coarsest grid point that reads back, over the grids below `10 ^ place`.
Of two on one grid the nearer is taken, and `tie` settles an exact tie. -/
def Interval.coarsest (v : Interval) (tie : Tie) : (place : Nat) → Decimal
  | 0 => ⟨v.double / 2, 0⟩
  | place + 1 =>
    let unit := 2 * Nat.pow 10 place
    let below := v.double / unit
    match v.holds (below * unit), v.holds ((below + 1) * unit) with
    | true, true => ⟨roundQuotient tie v.double unit, place⟩
    | true, false => ⟨below, place⟩
    | false, true => ⟨below + 1, place⟩
    | false, false => v.coarsest tie place

/-- A number of decimal places that is enough for a natural number: three digits
for every ten bits would fall just short, and this bound just does not. -/
def decimalPlaces (n : Nat) : Nat := (n.log2 + 1) * 30103 / 100000 + 1

/-- The shortest decimal that reads back as a positive finite magnitude. -/
def shortest (tie : Tie) (b : Nat) : Decimal :=
  let v := interval b
  v.coarsest tie (decimalPlaces v.double + 1)

end Double

end Keypad
