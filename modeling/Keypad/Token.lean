/-
# `Keypad.Token` — what is recorded, and what of it is stored

Every press that counts is recorded as a token: an operand, which is a number or
the name of a variable, or the symbol of a key.  Tokens keep symbols and names
and no values, so that a program can be replayed under other bindings.

A stored program is poorer.  It has numbers and texts only, and a text may be a
symbol or a name; the table of keys decides on the way back.  The two directions
are `Token.toPrimitive` and `Primitive.toToken`.  Going out and in again
(`toPrimitive_toToken`) loses nothing of a primitive; a token loses something in
one case only, when a variable bears the symbol of a key.

`==` on these types compares numbers as IEEE 754 does, so a token that holds a
NaN differs from itself and the two zeros are alike; `=` compares the bits.
-/
import Keypad.Key

namespace Keypad

/-- An operand: a number, or a variable that is looked up at every replay. -/
inductive Literal where
  | value (x : Float)
  | named (name : String)
  deriving BEq, DecidableEq

/-- One entry of a program. -/
inductive Token where
  | operand (literal : Literal)
  | operation (symbol : String)
  deriving BEq, DecidableEq

/-- One entry of a stored program. -/
inductive Primitive where
  | number (x : Float)
  | text (s : String)
  deriving BEq, DecidableEq

/-- What is stored for a token. -/
def Token.toPrimitive : Token → Primitive
  | .operand (.value x) => .number x
  | .operand (.named name) => .text name
  | .operation symbol => .text symbol

/-- The token that a stored entry stands for: a text is the symbol of a key if
there is such a key, and the name of a variable otherwise. -/
def Primitive.toToken : Primitive → Token
  | .number x => .operand (.value x)
  | .text s => if (Key.ofSymbol? s).isSome then .operation s else .operand (.named s)

/-- Reading a stored entry and storing it again gives it back. -/
theorem Primitive.toPrimitive_toToken : ∀ p : Primitive, p.toToken.toPrimitive = p
  | .number _ => rfl
  | .text s => by
    by_cases h : (Key.ofSymbol? s).isSome <;> simp [toToken, Token.toPrimitive, h]

end Keypad
