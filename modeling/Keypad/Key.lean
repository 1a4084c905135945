/-
# `Keypad.Key` — the keys that act on a calculation

A keypad has two sorts of keys.  Digits and the names of variables make
operands; they are the business of `Keypad.Token`.  The other sort carries a
printed symbol and acts on the calculation as it stands.  There are fifteen of
these, in five kinds:

| kind | keys | acts by |
| :-- | :-- | :-- |
| constant | `π` `e` | entering a fixed number |
| unary | `√` `1/x` `%` `cos` `sin` `tan` `±` | changing the number just entered |
| binary | `×` `÷` `+` `−` | waiting for a second number |
| draw | `Ran` | entering a number drawn from [0, 1) |
| equals | `=` | resolving the binary key that waits |

A key and its symbol determine each other (`Key.ofSymbol?_eq_some`): a recorded
program may therefore hold symbols only, and what they do is looked up again
when the program is replayed.  The minus key is U+2212 and not the ASCII hyphen,
so `-` is no key at all.

Arithmetic is that of IEEE doubles throughout.  Nothing is trapped: a division
by zero is an infinity and a root of a negative number is not a number, and the
calculation goes on with them.
-/

namespace Keypad

/-! ## The three kinds that come in several keys -/

/-- The numbers that a single key enters. -/
inductive Constant where
  | pi
  | e
  deriving DecidableEq, Repr

/-- The keys that change the number just entered. -/
inductive Unary where
  | squareRoot
  | reciprocal
  | percent
  | cosine
  | sine
  | tangent
  | negate
  deriving DecidableEq, Repr

/-- The keys that wait for a second number. -/
inductive Binary where
  | times
  | divide
  | plus
  | minus
  deriving DecidableEq, Repr

def Constant.symbol : Constant → String
  | .pi => "π"
  | .e => "e"

/-- The double nearest to the constant. -/
def Constant.value : Constant → Float
  | .pi => 3.141592653589793
  | .e => 2.718281828459045

def Unary.symbol : Unary → String
  | .squareRoot => "√"
  | .reciprocal => "1/x"
  | .percent => "%"
  | .cosine => "cos"
  | .sine => "sin"
  | .tangent => "tan"
  | .negate => "±"

/-- What a unary key makes of a number.  Angles are in radians. -/
def Unary.apply : Unary → Float → Float
  | .squareRoot, x => x.sqrt
  | .reciprocal, x => 1.0 / x
  | .percent, x => x / 100.0
  | .cosine, x => x.cos
  | .sine, x => x.sin
  | .tangent, x => x.tan
  | .negate, x => -x

def Binary.symbol : Binary → String
  | .times => "×"
  | .divide => "÷"
  | .plus => "+"
  | .minus => "−"

/-- What a binary key makes of the number that waited and the number that came. -/
def Binary.apply : Binary → Float → Float → Float
  | .times, x, y => x * y
  | .divide, x, y => x / y
  | .plus, x, y => x + y
  | .minus, x, y => x - y

/-! ## All keys, and the way back from a symbol -/

/-- A key that acts on the calculation. -/
inductive Key where
  | constant (c : Constant)
  | unary (u : Unary)
  | binary (b : Binary)
  | draw
  | equals
  deriving DecidableEq, Repr

namespace Key

def symbol : Key → String
  | .constant c => c.symbol
  | .unary u => u.symbol
  | .binary b => b.symbol
  | .draw => "Ran"
  | .equals => "="

/-- Every key, in the order of the symbols. -/
def all : List Key :=
  [.unary .percent, .binary .plus, .unary .reciprocal, .equals, .draw,
   .unary .cosine, .constant .e, .unary .sine, .unary .tangent, .unary .negate,
   .binary .times, .binary .divide, .constant .pi, .binary .minus,
   .unary .squareRoot]

/-- The key that carries a symbol, if there is one. -/
def ofSymbol? (symbol : String) : Option Key :=
  all.find? fun key => key.symbol == symbol

/-- No key is missing from the table. -/
theorem mem_all : ∀ key : Key, key ∈ all
  | .constant c => by cases c <;> decide
  | .unary u => by cases u <;> decide
  | .binary b => by cases b <;> decide
  | .draw => by decide
  | .equals => by decide

/-- Reading back the symbol of a key gives that key: no two keys share one. -/
theorem ofSymbol?_symbol : ∀ key : Key, ofSymbol? key.symbol = some key
  | .constant c => by cases c <;> decide
  | .unary u => by cases u <;> decide
  | .binary b => by cases b <;> decide
  | .draw => by decide
  | .equals => by decide

/-- A symbol belongs to exactly the key that carries it. -/
theorem ofSymbol?_eq_some {symbol : String} {key : Key} :
    ofSymbol? symbol = some key ↔ key.symbol = symbol :=
  ⟨fun h => by simpa using List.find?_some h, fun h => h ▸ ofSymbol?_symbol key⟩

end Key

end Keypad
