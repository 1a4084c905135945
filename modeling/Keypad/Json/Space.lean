/-
# `Keypad.Json.Space` — the space between the parts of a JSON text

Four characters may stand between any two parts of a JSON text and mean nothing
there: the space, the tab, the line feed and the carriage return.
-/

namespace Keypad.Json

def isSpace (c : Char) : Bool := c == ' ' || c == '\t' || c == '\n' || c == '\r'

/-- A text without the space in front of it. -/
def skipSpace (cs : List Char) : List Char := cs.dropWhile isSpace

theorem length_skipSpace_le (cs : List Char) : (skipSpace cs).length ≤ cs.length :=
  (List.dropWhile_suffix isSpace).length_le

/-- What follows the first character that is not space is shorter. -/
theorem length_of_skipSpace {cs rest : List Char} {c : Char} (h : skipSpace cs = c :: rest) :
    rest.length < cs.length := by
  have := length_skipSpace_le cs
  rw [h, List.length_cons] at this
  omega

end Keypad.Json
