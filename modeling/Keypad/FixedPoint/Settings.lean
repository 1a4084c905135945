/-
# `Keypad.FixedPoint.Settings` — the four settings by their names

Settings come from texts in which each has a name, any of them may be missing,
and none may be given twice.  What has been given so far is a `Given`; what is
missing in the end is taken from the standard settings.
-/
import Keypad.FixedPoint

namespace Keypad.FixedPoint

inductive Setting where
  | maximumFractionDigits
  | minimumFractionDigits
  | minimumIntegerDigits
  | decimalSeparator
  deriving DecidableEq, Repr

namespace Setting

def name : Setting → String
  | .maximumFractionDigits => "maximum_fraction_digits"
  | .minimumFractionDigits => "minimum_fraction_digits"
  | .minimumIntegerDigits => "minimum_integer_digits"
  | .decimalSeparator => "decimal_separator"

/-- All settings, in the order in which they are written. -/
def all : List Setting :=
  [.maximumFractionDigits, .minimumFractionDigits, .minimumIntegerDigits, .decimalSeparator]

def ofName? (name : String) : Option Setting := all.find? fun s => s.name == name

end Setting

inductive Assignment where
  | maximumFractionDigits (n : Nat)
  | minimumFractionDigits (n : Nat)
  | minimumIntegerDigits (n : Nat)
  | decimalSeparator (c : Char)
  deriving DecidableEq, Repr

/-- The settings that a text has given so far. -/
structure Given where
  maximumFractionDigits : Option Nat
  minimumFractionDigits : Option Nat
  minimumIntegerDigits : Option Nat
  decimalSeparator : Option Char

namespace Given

def nothing : Given := ⟨none, none, none, none⟩

/-- One more setting, unless it was given before. -/
def put (g : Given) : Assignment → Option Given
  | .maximumFractionDigits n =>
    if g.maximumFractionDigits.isSome then none
    else some { g with maximumFractionDigits := some n }
  | .minimumFractionDigits n =>
    if g.minimumFractionDigits.isSome then none
    else some { g with minimumFractionDigits := some n }
  | .minimumIntegerDigits n =>
    if g.minimumIntegerDigits.isSome then none
    else some { g with minimumIntegerDigits := some n }
  | .decimalSeparator c =>
    if g.decimalSeparator.isSome then none
    else some { g with decimalSeparator := some c }

/-- The settings given, and the standard ones for those that are missing. -/
def complete (g : Given) : FixedPoint where
  maximumFractionDigits := g.maximumFractionDigits.getD standard.maximumFractionDigits
  minimumFractionDigits := g.minimumFractionDigits.getD standard.minimumFractionDigits
  minimumIntegerDigits := g.minimumIntegerDigits.getD standard.minimumIntegerDigits
  decimalSeparator := g.decimalSeparator.getD standard.decimalSeparator

end Given

end Keypad.FixedPoint
