/-
# `Keypad.Engine` — recording keys, and answering from the record

An engine is a program, the bindings of its variables and a number format.  The
program is the list of tokens that were entered since the last new expression,
oldest first; it is all that is known of the calculation.

A press is recorded if it would have an effect at the end of the program, and
that is found out by replaying the program and trying.  An operand, a constant
or a draw that comes while no binary key waits begins a new expression, and the
program so far is dropped.

Because the program is all there is, undoing an entry is dropping it.

Operations that change an engine give an `Outcome`: the engine afterwards and
the events reported on the way, in order.  Those that replay a program draw
numbers for its `Ran` keys, so they are computations that may draw.
-/
import Keypad.Event

namespace Keypad

structure Engine where
  program : List Token
  bindings : Bindings
  format : NumberFormat

/-- What is left by an operation that changes an engine. -/
structure Outcome (α : Type) where
  result : α
  engine : Engine
  events : List Event

namespace Engine

def withFormat (format : NumberFormat) : Engine := ⟨[], ∅, format⟩

def new : Engine := withFormat FixedPoint.standard.toNumberFormat

/-! ## Questions -/

/-- The state at the end of the program, with given values of the variables. -/
def replayWith (e : Engine) (bindings : Bindings) : Drawing Replay := do
  return Replay.blank.run (← entries e.format bindings e.program)

/-- The state at the end of the program. -/
def replay (e : Engine) : Drawing Replay := e.replayWith e.bindings

/-- Where the calculation stands for given values of the variables; the engine's
own are neither used nor changed. -/
def evaluateWith (e : Engine) (bindings : Bindings) : Drawing Evaluation := do
  return (← e.replayWith bindings).evaluation

/-- Where the calculation stands. -/
def evaluate (e : Engine) : Drawing Evaluation := e.evaluateWith e.bindings

/-- Whether a binary key waits for its second operand. -/
def isPending (e : Engine) : Drawing Bool := do
  return (← e.replay).isPending

def binding? (e : Engine) (name : String) : Option Float := e.bindings[name]?

/-- The program in the form in which it is stored. -/
def stored (e : Engine) : List Primitive := e.program.map Token.toPrimitive

/-! ## Entries -/

/-- The engine with an empty program, and the report if there was anything in
it. -/
def startOver (e : Engine) : Outcome Unit :=
  if e.program.isEmpty then ⟨(), e, []⟩
  else ⟨(), { e with program := [] }, [.startedOver e.program.length]⟩

/-- The engine ready for an operand: a new expression, unless a binary key
waits. -/
def makeRoom (e : Engine) : Drawing (Outcome Unit) := do
  return if ← e.isPending then ⟨(), e, []⟩ else e.startOver

def append (e : Engine) (token : Token) : Engine :=
  { e with program := e.program ++ [token] }

def enterLiteral (e : Engine) (literal : Literal) : Drawing (Outcome Unit) := do
  let room ← e.makeRoom
  return ⟨(), room.engine.append (.operand literal),
    room.events ++ [.appendedOperand literal]⟩

def enterNumber (e : Engine) (x : Float) : Drawing (Outcome Unit) :=
  e.enterLiteral (.value x)

def enterVariable (e : Engine) (name : String) : Drawing (Outcome Unit) :=
  e.enterLiteral (.named name)

def entersOperand : Key → Bool
  | .constant _ | .draw => true
  | .unary _ | .binary _ | .equals => false

/-- Presses a key that exists.  The trial is made after room was made for the
operand that the key enters, if it enters one. -/
def pressKey (e : Engine) (key : Key) : Drawing (Outcome Unit) := do
  let room ← if entersOperand key then e.makeRoom else pure ⟨(), e, []⟩
  let state ← room.engine.replay
  let entry ← key.entry
  return if (state.enter entry).isSome then
    ⟨(), room.engine.append (.operation key.symbol),
      room.events ++ [.appendedOperation key.symbol]⟩
  else ⟨(), room.engine, room.events ++ [.missingOperand key.symbol]⟩

/-- Presses the key with a given symbol.  A symbol that no key carries leaves the
program as it is, and so does a key that has nothing to act on. -/
def press (e : Engine) (symbol : String) : Drawing (Outcome Unit) :=
  match Key.ofSymbol? symbol with
  | some key => e.pressKey key
  | none => pure ⟨(), e, [.unknownKey symbol]⟩

/-! ## Other changes -/

/-- Takes back the last entry and says where the calculation stands then, if
there was one. -/
def undo (e : Engine) : Drawing (Outcome (Option Evaluation)) :=
  match e.program.getLast? with
  | none => pure ⟨none, e, []⟩
  | some token => do
    let earlier := { e with program := e.program.dropLast }
    return ⟨some (← earlier.evaluate), earlier, [.undone token]⟩

/-- Forgets the program and the variables, and keeps the format. -/
def clear (e : Engine) : Engine := { e with program := [], bindings := ∅ }

def setVariable (e : Engine) (name : String) (x : Float) : Engine :=
  { e with bindings := e.bindings.insert name x }

/-- Replaces all bindings and says where the calculation stands then. -/
def evaluateUsing (e : Engine) (bindings : Bindings) : Drawing (Outcome Evaluation) := do
  let rebound := { e with bindings := bindings }
  return ⟨← rebound.evaluate, rebound, [.replacedBindings bindings.size]⟩

def setFormat (e : Engine) (format : NumberFormat) : Engine := { e with format := format }

/-- The report on a stored entry, if it is a number that should not be there. -/
def reportStored : Primitive → Option Event
  | .number x => if x.isFinite then none else some (.storedNonFinite x)
  | .text _ => none

def setProgram (e : Engine) (stored : List Primitive) : Outcome Unit :=
  ⟨(), { e with program := stored.map Primitive.toToken }, stored.filterMap reportStored⟩

/-- An engine with the parts that tell engines apart by what was entered. -/
def inspect (e : Engine) : String :=
  "Engine \x7b program: " ++ inspectList Token.inspect e.program ++
    ", variables: " ++ Bindings.inspect e.bindings ++ " \x7d"

end Engine

end Keypad
