/-
# `Keypad.Number.Reading` — the double that a text names

The notation read here is that of the keypad and of the display: an optional
sign, then digits with at most one point among them, then an optional exponent.
The point may stand first or last, but one digit there must be.  The words
`inf`, `infinity` and `nan` are numbers too, in any mixture of cases.

The result is the double nearest to the decimal that was written, however many
digits there are; what is too large is infinite and what is too small is zero,
neither being an error.
-/
import Keypad.Number.Rounding

namespace Keypad.Reading

/-! ## Digits -/

/-- The digits at the front of a text, and what follows them. -/
def digits (cs : List Char) : List Char × List Char :=
  (cs.takeWhile Char.isDigit, cs.dropWhile Char.isDigit)

def value (ds : List Char) : Nat :=
  ds.foldl (fun n d => 10 * n + (d.toNat - '0'.toNat)) 0

/-- A sign at the front, if there is one, and what follows it. -/
def sign : List Char → Bool × List Char
  | '-' :: cs => (true, cs)
  | '+' :: cs => (false, cs)
  | cs => (false, cs)

/-! ## Numbers -/

/-- The exponent after a coefficient.  Nothing at all stands for zero; anything
else has to be a complete exponent and the end of the text. -/
def exponent : List Char → Option Int
  | [] => some 0
  | c :: cs =>
    if c = 'e' ∨ c = 'E' then
      let (minus, rest) := sign cs
      let (ds, after) := digits rest
      if ds.isEmpty ∨ ¬after.isEmpty then none
      else some (if minus then -(value ds : Int) else value ds)
    else none

/-- The magnitude of an unsigned decimal number. -/
def decimal (cs : List Char) : Option Nat :=
  let (whole, rest) := digits cs
  let (fraction, tail) := match rest with
    | '.' :: after => digits after
    | _ => ([], rest)
  let all := whole ++ fraction
  if all.isEmpty then none
  else (exponent tail).map fun e =>
    Double.nearestDecimal (value all) all.length (e - fraction.length)

/-- The magnitude of an unsigned number, a word or a decimal; `none` inside for
the one that is not a number. -/
def unsigned (cs : List Char) : Option (Option Nat) :=
  let word := cs.map Char.toLower
  if word = ['i', 'n', 'f'] ∨ word = ['i', 'n', 'f', 'i', 'n', 'i', 't', 'y'] then
    some (some Double.infinity)
  else if word = ['n', 'a', 'n'] then some none
  else (decimal cs).map some

/-- The double that a text names. -/
def number? (text : List Char) : Option Float :=
  let (minus, cs) := sign text
  (unsigned cs).map fun
    | some b => Double.ofMagnitude minus b
    | none => Double.nan

end Keypad.Reading
