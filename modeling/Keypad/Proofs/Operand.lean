/-
# `Keypad.Proofs.Operand` — the forms that a press can take

An operand is a number, a variable, or the key of a constant (`Leaf`).  The engine
takes the first two along one way and the third along another, but every one of
them is entered as a number with a text (`Leaf.effect?_token`).

A press that draws nothing enters an operand, is one of a unary, a binary or the
equals key, or is of no key at all (`Token.form`).  What is to be shown of every
press is shown form by form.
-/
import Keypad.Proofs.Chance

namespace Keypad

/-! ## Operands -/

def Literal.text (format : NumberFormat) : Literal → String
  | .value x => format.format x
  | .named name => name

def Literal.number (bindings : Bindings) : Literal → Float
  | .value x => x
  | .named name => bindings.value name

theorem Literal.entry_eq (format : NumberFormat) (bindings : Bindings) :
    ∀ l : Literal, l.entry format bindings = .operand (l.number bindings) (l.text format)
  | .value _ => rfl
  | .named _ => rfl

theorem Key.eq_of_symbol_eq {a b : Key} (h : a.symbol = b.symbol) : a = b :=
  Option.some.inj ((Key.ofSymbol?_eq_some.mpr h).symm.trans (Key.ofSymbol?_symbol b))

/-- An operand as it is entered: a literal, or the key of a constant. -/
inductive Leaf where
  | literal (l : Literal)
  | constant (c : Constant)

namespace Leaf

def value (bindings : Bindings) : Leaf → Float
  | .literal l => l.number bindings
  | .constant c => c.value

def text (format : NumberFormat) : Leaf → String
  | .literal l => l.text format
  | .constant c => c.symbol

def token : Leaf → Token
  | .literal l => .operand l
  | .constant c => .operation c.symbol

theorem kind?_token : ∀ x : Leaf, x.token.kind? = some .operand
  | .literal _ => rfl
  | .constant c => Token.kind?_symbol (.constant c)

theorem effect?_token (format : NumberFormat) (bindings : Bindings) :
    ∀ x : Leaf, x.token.effect? format bindings = some (.operand (x.value bindings) (x.text format))
  | .literal l => congrArg some (l.entry_eq format bindings)
  | .constant c => Token.effect?_symbol format bindings (.constant c)

theorem token_ne_symbol (key : Key) (h : key.kind ≠ .operand) :
    ∀ x : Leaf, x.token ≠ .operation key.symbol := by
  intro x same
  have kind := x.kind?_token
  rw [same, Token.kind?_symbol] at kind
  exact h (Option.some.inj kind)

theorem token_ne_ran : ∀ x : Leaf, x.token ≠ .ran
  | .literal _ => Token.noConfusion
  | .constant c => fun same => by
      have keys : Key.constant c = .draw := Key.eq_of_symbol_eq (Token.operation.inj same)
      cases keys

end Leaf

/-! ## Presses -/

def Token.equals : Token := .operation (Key.symbol .equals)

theorem Key.token_ne_equals {key : Key} (h : key ≠ .equals) :
    Token.operation key.symbol ≠ .equals := by
  intro same
  exact h (Key.eq_of_symbol_eq (Token.operation.inj same))

/-- The forms that a press can take. -/
inductive Token.Form : Token → Prop
  | leaf (x : Leaf) : Form x.token
  | unary (u : Unary) : Form (.operation (Key.unary u).symbol)
  | binary (b : Binary) : Form (.operation (Key.binary b).symbol)
  | equals : Form .equals
  | unknown {symbol : String} : Key.ofSymbol? symbol = none → Form (.operation symbol)

theorem Token.form : ∀ {token : Token}, token ≠ .ran → token.Form
  | .operand l, _ => .leaf (.literal l)
  | .operation symbol, certain => by
      cases known : Key.ofSymbol? symbol with
      | none => exact .unknown known
      | some key =>
          obtain rfl := Key.ofSymbol?_eq_some.mp known
          cases key with
          | constant c => exact .leaf (.constant c)
          | unary u => exact .unary u
          | binary b => exact .binary b
          | draw => exact absurd rfl certain
          | equals => exact .equals

end Keypad
