/-
# `Keypad.NumberFormat` — turning numbers into text and back

What the calculator needs of a display is two functions and nothing else, so the
type is those two functions.  `Keypad.FixedPoint` has the format in daily use;
any way of writing numbers makes another one, with the standard way of reading
(`NumberFormat.ofWriter`).
-/
import Keypad.Number.Reading
import Keypad.Text.Blank

namespace Keypad

/-- A way to write numbers and to read them. -/
structure NumberFormat where
  format : Float → String
  parse : String → Option Float

/-- The standard way to read a number: blanks around it do not matter. -/
def standardParse (text : String) : Option Float :=
  Reading.number? (Text.trim text.toList)

/-- A way to write numbers, together with the standard way to read them. -/
def NumberFormat.ofWriter (format : Float → String) : NumberFormat where
  format := format
  parse := standardParse

end Keypad
