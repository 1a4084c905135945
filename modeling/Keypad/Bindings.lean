/-
# `Keypad.Bindings` — what the variables stand for

Bindings are a finite map from names to numbers, kept in the order of the names.
A variable without a binding counts as zero.
-/
import Std.Data.TreeMap

namespace Keypad

abbrev Bindings := Std.TreeMap String Float

/-- The value of a variable, zero when it has none. -/
def Bindings.value (bindings : Bindings) (name : String) : Float :=
  bindings.getD name 0.0

end Keypad
