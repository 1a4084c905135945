/-
# `Keypad.Text.Quoted` — texts and characters between quotes

In an inspection text every string stands between double quotes and every
single character between single ones, and what stands between them can be told
apart by eye.  The quote in use and the backslash are escaped, and so are tab,
newline, carriage return and NUL.  A character that could not be seen in its
place, or that would join the one before it, is written by its code point.
Everything else stands for itself, the other kind of quote included.
-/
import Keypad.Text.Printable
import Keypad.Text.GraphemeExtend

namespace Keypad.Text

/-- A character by its code point, in lower-case hexadecimal. -/
def codePoint (c : Char) : List Char :=
  ['\\', 'u', '{'] ++ Nat.toDigits 16 c.toNat ++ ['}']

/-- A character as it stands between quotes of the kind `quote`. -/
def escaped (quote c : Char) : List Char :=
  if c = quote ∨ c = '\\' then ['\\', c]
  else if c = '\x00' then ['\\', '0']
  else if c = '\t' then ['\\', 't']
  else if c = '\n' then ['\\', 'n']
  else if c = '\r' then ['\\', 'r']
  else if joinsPrevious c || !isPrintable c then codePoint c
  else [c]

def quoted (text : String) : String :=
  String.ofList ('"' :: (text.toList.flatMap (escaped '"') ++ ['"']))

def quotedChar (c : Char) : String :=
  String.ofList ('\'' :: (escaped '\'' c ++ ['\'']))

end Keypad.Text
