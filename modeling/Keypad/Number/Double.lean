/-
# `Keypad.Number.Double` — a finite double is a whole number of least steps

The numbers of the calculator are IEEE doubles.  Everything that turns one into
text, or text into one, has to be exact to the last digit, so it is done on
natural numbers: forget the sign, and the bit pattern of a double is a natural
number below 2^63, its *magnitude*.  Three facts make this the right view.

* Patterns are ordered as the numbers are, so the neighbours of a magnitude `b`
  are `b - 1` and `b + 1`.
* Every finite double is a whole multiple of 2^-1074, the least positive one.
  `steps b` says how many times.  It needs no exponent and no fraction.
* The pattern of infinity is the first one that is not finite, and `steps` goes
  on through it without a break: the value it gives there, 2^1024, is just the
  neighbour that the greatest finite double would have had.

So "halfway to the next double" is a statement about two natural numbers.
-/

namespace Keypad.Double

/-- The number of magnitudes that share an exponent. -/
def span : Nat := Nat.pow 2 52

/-- The least positive double is 2^-1074. -/
def depth : Nat := 1074

/-- The magnitude of infinity: the first one that is not finite. -/
def infinity : Nat := 2047 * Nat.pow 2 52

/-- The size of a magnitude, counted in units of 2^-1074. -/
def steps (b : Nat) : Nat :=
  if b < span then b else (span + b % span) * Nat.pow 2 (b / span - 1)

/-- The magnitude of a double: its bit pattern without the sign. -/
def magnitude (x : Float) : Nat := x.toBits.toNat % Nat.pow 2 63

/-- Whether the sign bit is set.  It is for `-0.0`, and never for a NaN, of which
there is only one. -/
def negative (x : Float) : Bool := decide (Nat.pow 2 63 ≤ x.toBits.toNat)

def ofMagnitude (negative : Bool) (b : Nat) : Float :=
  Float.ofBits (UInt64.ofNat (if negative then Nat.pow 2 63 + b else b))

def nan : Float := Float.ofBits 0x7FF8000000000000

/-! ## The steps below the first full span are the magnitudes themselves -/

theorem steps_of_lt {b : Nat} (h : b < span) : steps b = b := by simp [steps, h]

theorem steps_zero : steps 0 = 0 := rfl

/-- At infinity the count of steps is that of 2^1024. -/
theorem steps_infinity : steps infinity = Nat.pow 2 (1024 + depth) := by decide +kernel

end Keypad.Double
