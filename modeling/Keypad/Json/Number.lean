/-
# `Keypad.Json.Number` — numbers in JSON

A `Numeral` is the text of a number taken apart.  What it is worth depends on
who asks.  A count has to be written as a plain whole number below 2^64.  A
number of a stored program may have a fraction and an exponent, and there the
reading is quick and not always the nearest double:

1. The digits are collected into one natural number below 2^64, first those of
   the integer part and then those of the fraction.  In each part the first
   digit for which there is no room ends the collecting.
2. The power of ten follows from the digits left out of the integer part, the
   digits taken from the fraction, and the exponent.
3. The collected number is rounded to a double, and the double is multiplied or
   divided by that power of ten, itself rounded to a double; for a power below
   10^-308 the division is done in portions of 10^308.

So a number suffers up to three roundings.  It suffers at most one, and is the
nearest double, when the collected number is at most 2^53 and the power of ten
at most 10^22 either way, because then both are doubles.  A number that comes
out infinite is refused, so what has been read is always finite.
-/
import Keypad.Number.Layout
import Keypad.Number.Reading

namespace Keypad.Json

/-! ## The text of a number -/

/-- The parts of a number as it is written. -/
structure Numeral where
  negative : Bool
  whole : List Char
  fraction : Option (List Char)
  exponent : Option Int
  deriving DecidableEq

namespace Numeral

/-- The integer part at the front of a text: no zero in front of another digit. -/
def readWhole (cs : List Char) : Option (List Char × List Char) :=
  match Reading.digits cs with
  | ([], _) => none
  | ('0' :: _ :: _, _) => none
  | (ds, rest) => some (ds, rest)

/-- The fraction at the front of a text, if there is a point. -/
def readFraction : List Char → Option (Option (List Char) × List Char)
  | '.' :: cs => match Reading.digits cs with
    | ([], _) => none
    | (ds, rest) => some (some ds, rest)
  | cs => some (none, cs)

/-- The exponent at the front of a text, if there is an `e`. -/
def readExponent : List Char → Option (Option Int × List Char)
  | [] => some (none, [])
  | c :: cs =>
    if c = 'e' ∨ c = 'E' then
      let (minus, after) := Reading.sign cs
      match Reading.digits after with
      | ([], _) => none
      | (ds, rest) =>
        let n : Int := Reading.value ds
        some (some (if minus then -n else n), rest)
    else some (none, c :: cs)

/-- A number at the front of a text, and what follows it. -/
def read (cs : List Char) : Option (Numeral × List Char) := do
  let (negative, cs) := match cs with
    | '-' :: rest => (true, rest)
    | _ => (false, cs)
  let (whole, cs) ← readWhole cs
  let (fraction, cs) ← readFraction cs
  let (exponent, cs) ← readExponent cs
  return (⟨negative, whole, fraction, exponent⟩, cs)

/-! ## What follows a number is shorter -/

theorem length_of_digits {cs ds rest : List Char} (h : Reading.digits cs = (ds, rest)) :
    ds.length + rest.length = cs.length := by
  have := congrArg List.length (List.takeWhile_append_dropWhile (p := Char.isDigit) (l := cs))
  simp only [Reading.digits, Prod.mk.injEq] at h
  rw [← h.1, ← h.2, ← List.length_append, this]

theorem length_of_readWhole {cs ds rest : List Char} (h : readWhole cs = some (ds, rest)) :
    rest.length < cs.length := by
  unfold readWhole at h
  split at h
  · cases h
  · cases h
  · rename_i ds' rest' hne _ heq
    simp only [Option.some.injEq, Prod.mk.injEq] at h
    obtain ⟨rfl, rfl⟩ := h
    have hlen := length_of_digits heq
    match ds', hne with
    | [], hne => exact (hne rfl).elim
    | _ :: _, _ => simp only [List.length_cons] at hlen; omega

theorem length_of_readFraction {cs rest : List Char} {f : Option (List Char)}
    (h : readFraction cs = some (f, rest)) : rest.length ≤ cs.length := by
  unfold readFraction at h
  split at h
  · split at h
    · cases h
    · rename_i heq
      simp only [Option.some.injEq, Prod.mk.injEq] at h
      obtain ⟨_, rfl⟩ := h
      have := length_of_digits heq
      simp only [List.length_cons]
      omega
  · simp only [Option.some.injEq, Prod.mk.injEq] at h
    obtain ⟨_, rfl⟩ := h
    exact Nat.le_refl _

theorem length_sign_le (cs : List Char) : (Reading.sign cs).2.length ≤ cs.length := by
  unfold Reading.sign
  split <;> simp

theorem length_of_readExponent {cs rest : List Char} {e : Option Int}
    (h : readExponent cs = some (e, rest)) : rest.length ≤ cs.length := by
  unfold readExponent at h
  split at h
  · simp only [Option.some.injEq, Prod.mk.injEq] at h
    obtain ⟨_, rfl⟩ := h
    exact Nat.le_refl _
  · rename_i c cs
    split at h
    · have hs := length_sign_le cs
      simp only at h
      split at h
      · cases h
      · rename_i heq
        simp only [Option.some.injEq, Prod.mk.injEq] at h
        obtain ⟨_, rfl⟩ := h
        have := length_of_digits heq
        simp only [List.length_cons]
        omega
    · simp only [Option.some.injEq, Prod.mk.injEq] at h
      obtain ⟨_, rfl⟩ := h
      exact Nat.le_refl _

theorem length_of_read {cs rest : List Char} {n : Numeral} (h : read cs = some (n, rest)) :
    rest.length < cs.length := by
  unfold read at h
  obtain ⟨⟨whole, cs₁⟩, hw, h⟩ := Option.bind_eq_some_iff.1 h
  obtain ⟨⟨fraction, cs₂⟩, hf, h⟩ := Option.bind_eq_some_iff.1 h
  obtain ⟨⟨exponent, cs₃⟩, he, h⟩ := Option.bind_eq_some_iff.1 h
  simp only [pure, Option.some.injEq, Prod.mk.injEq] at h
  obtain ⟨_, rfl⟩ := h
  have h₁ := length_of_readWhole hw
  have h₂ := length_of_readFraction hf
  have h₃ := length_of_readExponent he
  have h₀ : (match cs with
      | '-' :: rest => (true, rest)
      | _ => (false, cs)).2.length ≤ cs.length := by
    split <;> simp
  omega

/-! ## What a number is worth -/

def count? (n : Numeral) : Option Nat :=
  let value := Reading.value n.whole
  if n.negative || n.fraction.isSome || n.exponent.isSome || Nat.pow 2 64 ≤ value then none
  else some value

/-- Collects digits as long as there is room, and gives those that are left. -/
def collect (n : Nat) : List Char → Nat × List Char
  | [] => (n, [])
  | d :: ds =>
    let more := 10 * n + (d.toNat - '0'.toNat)
    if more < Nat.pow 2 64 then collect more ds else (n, d :: ds)

def powerOfTen (k : Nat) : Nat := Double.nearest (Nat.pow 10 k) 1

/-- A magnitude times `10 ^ x`, unless that is infinite. -/
def scale (f : Nat) (x : Int) : Option Nat :=
  if x.natAbs ≤ 308 then
    if 0 ≤ x then
      let product := Double.product f (powerOfTen x.natAbs)
      if product = Double.infinity then none else some product
    else some (Double.quotient f (powerOfTen x.natAbs))
  else if f = 0 then some 0
  else if 0 < x then none
  else scale (Double.quotient f (powerOfTen 308)) (x + 308)
termination_by (-x).toNat

/-- The magnitude of the number as a number of a stored program. -/
def magnitude? (n : Numeral) : Option Nat :=
  let fraction := n.fraction.getD []
  let (upper, spare) := collect 0 n.whole
  let (all, unused) := collect upper fraction
  let taken : Int := (fraction.length - unused.length : Nat)
  scale (Double.nearest all 1) (spare.length - taken + n.exponent.getD 0)

/-- The number as a number of a stored program. -/
def toFloat? (n : Numeral) : Option Float :=
  n.magnitude?.map (Double.ofMagnitude n.negative)

example : (read "0.1".toList).bind (toFloat? ·.1) = some 0.1 := by decide +kernel
/-- Not the nearest double, which is 6.6737e-21. -/
example : (read "66.737e-22".toList).bind (toFloat? ·.1) = some 6.673699999999999e-21 := by
  decide +kernel
example : (read "1e400".toList).bind (toFloat? ·.1) = none := by decide +kernel
example : (read "-0".toList).bind (toFloat? ·.1) = some (-0.0) := by decide +kernel

end Numeral

/-- A number as it is written.  What is not finite has no form in JSON, and the
word for nothing stands for it. -/
def writeNumber (x : Float) : List Char :=
  if x.isFinite then (Layout.stored.write x).toList else ['n', 'u', 'l', 'l']

end Keypad.Json
