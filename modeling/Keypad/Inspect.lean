/-
# `Keypad.Inspect` — values as a programmer wants to see them

Inspection texts show the structure of a value: the name of its kind, its fields
by name, texts in quotes, numbers that are seen to be floating-point numbers.
They go into events and into diagnostic output.  Nothing reads them back.
-/
import Keypad.Error
import Keypad.Evaluation
import Keypad.FixedPoint
import Keypad.Text.Quoted

namespace Keypad

def inspectFloat (x : Float) : String := Layout.inspection.write x

def inspectOption {α : Type} (inspect : α → String) : Option α → String
  | some a => "Some(" ++ inspect a ++ ")"
  | none => "None"

def inspectList {α : Type} (inspect : α → String) (as : List α) : String :=
  "[" ++ ", ".intercalate (as.map inspect) ++ "]"

def Literal.inspect : Literal → String
  | .value x => "Value(" ++ inspectFloat x ++ ")"
  | .named name => "Variable(" ++ Text.quoted name ++ ")"

def Token.inspect : Token → String
  | .operand literal => "Operand(" ++ literal.inspect ++ ")"
  | .operation symbol => "Operation(" ++ Text.quoted symbol ++ ")"

/-- Variables with their values, in the order of the names. -/
def Bindings.inspect (bindings : Bindings) : String :=
  let pairs := bindings.toList.map fun (name, x) => Text.quoted name ++ ": " ++ inspectFloat x
  "\x7b" ++ ", ".intercalate pairs ++ "\x7d"

def Evaluation.inspect (e : Evaluation) : String :=
  "Evaluation \x7b result: " ++ inspectOption inspectFloat e.result ++
    ", is_pending: " ++ toString e.isPending ++
    ", description: " ++ Text.quoted e.description ++ " \x7d"

def FixedPoint.inspect (s : FixedPoint) : String :=
  "NumberFormatter \x7b maximum_fraction_digits: " ++ toString s.maximumFractionDigits ++
    ", minimum_fraction_digits: " ++ toString s.minimumFractionDigits ++
    ", minimum_integer_digits: " ++ toString s.minimumIntegerDigits ++
    ", decimal_separator: " ++ Text.quotedChar s.decimalSeparator ++ " \x7d"

def Error.inspect : Error → String
  | .persistence fault => "Persistence(" ++ Text.quoted fault.text ++ ")"
  | .config fault => "Config(" ++ Text.quoted fault.text ++ ")"

end Keypad
