/-
# `Keypad.Event` — what an engine reports of its work

An engine reports every change of its program and every press that it passes
over, in the order in which they happen.  An event is a value of its own and
carries what it is about; level, message and fields, which a log prints, are
computed from it.  Applied in order to the program that was there before, the
events of entries and of undoing give the program that is there afterwards.
-/
import Keypad.Inspect

namespace Keypad

inductive Event where
  | appendedOperand (literal : Literal)
  | appendedOperation (symbol : String)
  /-- The program, of that many entries, was dropped for a new expression. -/
  | startedOver (dropped : Nat)
  | undone (token : Token)
  /-- That many variables took the place of the former ones. -/
  | replacedBindings (bound : Nat)
  | plotted (x : Float) (y : Option Float)
  /-- The symbol of no key was pressed. -/
  | unknownKey (symbol : String)
  /-- A key was pressed that had nothing to act on. -/
  | missingOperand (symbol : String)
  | saved (key : String) (tokens : Nat)
  | nothingSaved (key : String)
  | loaded (key : String) (tokens : Nat)
  /-- A program was not stored on account of a number in it. -/
  | refusedToSave (key : String) (x : Float)
  /-- A stored program that was taken over holds a number that it should not. -/
  | storedNonFinite (x : Float)

inductive Level where
  | trace
  | debug
  | info
  | warn
  deriving DecidableEq, Repr

inductive Field where
  | text (s : String)
  | count (n : Nat)
  | number (x : Float)

namespace Event

def level : Event → Level
  | .unknownKey _ | .missingOperand _ | .saved .. | .nothingSaved _ => .debug
  | .loaded .. => .info
  | .refusedToSave .. | .storedNonFinite _ => .warn
  | _ => .trace

def message : Event → String
  | .appendedOperand _ => "appending operand"
  | .appendedOperation _ => "appending operation"
  | .startedOver _ => "starting a new expression"
  | .undone _ => "undo"
  | .replacedBindings _ => "replacing variable bindings"
  | .plotted .. => "plotted point"
  | .unknownKey _ => "ignoring unknown operation"
  | .missingOperand _ => "ignoring operation without operand"
  | .saved .. => "saved program"
  | .nothingSaved _ => "no saved program"
  | .loaded .. => "loaded program"
  | .refusedToSave .. => "refusing to save a non-finite operand"
  | .storedNonFinite _ => "stored program holds a non-finite number"

def fields : Event → List (String × Field)
  | .appendedOperand literal => [("operand", .text literal.inspect)]
  | .appendedOperation symbol | .unknownKey symbol | .missingOperand symbol =>
    [("symbol", .text symbol)]
  | .startedOver dropped => [("dropped", .count dropped)]
  | .undone token => [("token", .text token.inspect)]
  | .replacedBindings bound => [("bound", .count bound)]
  | .plotted x y => [("x", .number x), ("y", .text (inspectOption inspectFloat y))]
  | .saved key tokens | .loaded key tokens =>
    [("key", .text key), ("tokens", .count tokens)]
  | .nothingSaved key => [("key", .text key)]
  | .refusedToSave key x => [("key", .text key), ("value", .number x)]
  | .storedNonFinite x => [("value", .number x)]

end Event

end Keypad
