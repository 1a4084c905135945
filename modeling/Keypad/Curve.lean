/-
# `Keypad.Curve` — a program as a function of one of its variables

A program with something in it and no key waiting is a curve: bind one variable
to x, and the result is y.  The engine's own value of that variable does not
matter and is not changed.  Where the result is missing, infinite or not a
number the curve has a gap.

The bindings of the engine are taken over once for the whole curve, and from point
to point the variable is bound anew in them.
-/
import Keypad.Engine

namespace Keypad.Engine

def isPlottable (e : Engine) : Drawing Bool := do
  return !e.program.isEmpty && !(← e.isPending)

/-- The height of the curve where the variables are bound as given. -/
def height (e : Engine) (bindings : Bindings) : Drawing (Option Float) := do
  return (← e.evaluateWith bindings).result.filter Float.isFinite

/-- The points of the curve for given values of a variable, in their order, with the
bindings that the point before left. -/
def plotFrom (e : Engine) (name : String) :
    Bindings → List Float → Drawing (List (Float × Option Float))
  | _, [] => pure []
  | bindings, x :: xs => do
    let bound := bindings.insert name x
    let y ← e.height bound
    return (x, y) :: (← e.plotFrom name bound xs)

/-- The points of the curve for given values of a variable, in their order. -/
def plot (e : Engine) (name : String) (xs : List Float) : Drawing (List (Float × Option Float)) :=
  e.plotFrom name e.bindings xs

def plotEvents (points : List (Float × Option Float)) : List Event :=
  points.map fun (x, y) => .plotted x y

end Keypad.Engine
