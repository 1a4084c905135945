/-
# `Keypad.Number.Layout` — writing a double with its shortest digits

Three places write doubles with the fewest digits that read back: error texts,
inspection texts, and stored programs.  They agree on the digits and differ in
how they set them, so there is one writer (`Layout.write`) and one record for
each of the three.

| | positional for | whole numbers | exponents |
| :-- | :-- | :-- | :-- |
| `Layout.plain` | every number | `7` | never |
| `Layout.inspection` | 10^-4 up to 10^16 | `7.0` | `1e16` `1.5e-7` |
| `Layout.stored` | 10^-5 up to 10^16 | `7.0` | `1e+16` `1.5e-7` |

The sign is written whenever the sign bit is set, so negative zero keeps it.
-/
import Keypad.Number.Shortest

namespace Keypad

/-- How a double is set in text. -/
structure Layout where
  /-- Whether a number d.ddd × 10^e is written without an exponent. -/
  positional : Int → Bool
  /-- Whether a whole number ends in `.0`. -/
  pointZero : Bool
  /-- Whether a positive exponent carries its sign. -/
  plusSign : Bool
  /-- Which of two shortest decimals is taken when they are equally near. -/
  tie : Tie

namespace Layout

/-- Plain decimal notation, whatever the size. -/
def plain : Layout := ⟨fun _ => true, false, false, .up⟩

/-- The notation of inspection texts, in which a number is seen not to be whole
by nature. -/
def inspection : Layout := ⟨fun e => -4 ≤ e && e ≤ 15, true, false, .up⟩

/-- The notation of stored programs. -/
def stored : Layout := ⟨fun e => -5 ≤ e && e ≤ 15, true, true, .toEven⟩

/-- Digits `d₀d₁d₂…` standing for d₀.d₁d₂… × 10^e, without an exponent. -/
def setPositional (l : Layout) (digits : List Char) : (e : Int) → List Char
  | .negSucc e => '0' :: '.' :: (List.replicate e '0' ++ digits)
  | .ofNat e =>
    let whole := digits.take (e + 1) ++ List.replicate (e + 1 - digits.length) '0'
    match digits.drop (e + 1) with
    | [] => if l.pointZero then whole ++ ['.', '0'] else whole
    | fraction => whole ++ '.' :: fraction

/-- The same digits with the exponent written out. -/
def setExponent (l : Layout) (digits : List Char) (e : Int) : List Char :=
  let power := Nat.toDigits 10 e.natAbs
  let signed := if e < 0 then '-' :: power else if l.plusSign then '+' :: power else power
  match digits with
  | [] => []
  | [d] => d :: 'e' :: signed
  | d :: fraction => d :: '.' :: (fraction ++ 'e' :: signed)

/-- A positive finite magnitude in text. -/
def setMagnitude (l : Layout) (b : Nat) : List Char :=
  let shortest := Double.shortest l.tie b
  let digits := Nat.toDigits 10 shortest.coefficient
  let e : Int := (digits.length + shortest.place : Nat) - (Double.depth + 1 : Nat)
  if l.positional e then l.setPositional digits e else l.setExponent digits e

def write (l : Layout) (x : Float) : String :=
  if x.isNaN then "NaN"
  else
    let b := Double.magnitude x
    let unsigned : List Char :=
      if b = 0 then if l.pointZero then ['0', '.', '0'] else ['0']
      else if b = Double.infinity then ['i', 'n', 'f']
      else l.setMagnitude b
    String.ofList (if Double.negative x then '-' :: unsigned else unsigned)

/-! ## The three layouts at their borders -/

example : plain.write 1e21 = "1000000000000000000000" := by decide +kernel
example : plain.write 0.0000001 = "0.0000001" := by decide +kernel
example : inspection.write 1e15 = "1000000000000000.0" := by decide +kernel
example : inspection.write 1e16 = "1e16" := by decide +kernel
example : inspection.write 0.00015 = "0.00015" := by decide +kernel
example : inspection.write 0.000015 = "1.5e-5" := by decide +kernel
example : stored.write 0.000015 = "0.000015" := by decide +kernel
example : stored.write 1.5e16 = "1.5e+16" := by decide +kernel
example : stored.write (-0.0) = "-0.0" := by decide +kernel
example : stored.write 5e-324 = "5e-324" := by decide +kernel

end Layout

end Keypad
