/-
# `Keypad.Text.Blank` — white space at the ends of a text

The characters here are those with the Unicode property White_Space.  It takes
in the line and paragraph separators, the no-break spaces and the ideographic
space, and leaves out what only looks like a space: zero-width spaces, the
byte-order mark and the separators of fields and records below U+0020.
-/

namespace Keypad.Text

def isBlank (c : Char) : Bool :=
  let n := c.toNat
  (0x09 ≤ n && n ≤ 0x0D) || n == 0x20 || n == 0x85 || n == 0xA0 || n == 0x1680 ||
    (0x2000 ≤ n && n ≤ 0x200A) || n == 0x2028 || n == 0x2029 || n == 0x202F ||
    n == 0x205F || n == 0x3000

/-- A text without the blanks at its two ends. -/
def trim (cs : List Char) : List Char :=
  ((cs.dropWhile isBlank).reverse.dropWhile isBlank).reverse

end Keypad.Text
