/-
# `Keypad.Draws` — the numbers that the `Ran` key draws

A replay that meets `Ran` takes the next number of an endless supply, so chance
is an argument like any other: what is said of every supply is said of every
outcome.  Computations that may draw return what is left of the supply with
their result (`Drawing`).

`Draws.uniform` is a supply to run with.  Its numbers are the multiples of 2^-53
in [0, 1), made by mixing the bits of a counter.
-/

namespace Keypad

/-- An endless supply of numbers, and how many of them have been drawn. -/
structure Draws where
  number : Nat → Float
  drawn : Nat

/-- A computation that may draw numbers. -/
abbrev Drawing (α : Type) := StateM Draws α

def Draws.next (draws : Draws) : Float × Draws :=
  (draws.number draws.drawn, { draws with drawn := draws.drawn + 1 })

/-- A mixture of the bits of a word in which every bit depends on all of them. -/
def mixBits (word : UInt64) : UInt64 :=
  let a := (word ^^^ (word >>> 30)) * 0xBF58476D1CE4E5B9
  let b := (a ^^^ (a >>> 27)) * 0x94D049BB133111EB
  b ^^^ (b >>> 31)

/-- A number of [0, 1) with 53 random bits. -/
def unitInterval (word : UInt64) : Float := (word >>> 11).toFloat / 9007199254740992.0

def Draws.uniform (seed : UInt64) : Draws where
  number n := unitInterval (mixBits (seed + (UInt64.ofNat (n + 1)) * 0x9E3779B97F4A7C15))
  drawn := 0

end Keypad
