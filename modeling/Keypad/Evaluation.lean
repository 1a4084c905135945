/-
# `Keypad.Evaluation` — the answer to "where do we stand?"

A replay is asked three things: what number stands, whether a binary key still
waits for its second operand, and how everything entered reads in one line.  The
history line adds an ellipsis while a key waits and an equals sign otherwise; if
nothing was entered there is no line.
-/
import Keypad.Replay

namespace Keypad

/-- What a replay comes to.  `==` compares results as IEEE 754 does. -/
structure Evaluation where
  result : Option Float
  isPending : Bool
  description : String
  deriving BEq, DecidableEq

def Replay.evaluation (r : Replay) : Evaluation where
  result := r.result
  isPending := r.isPending
  description := r.description

/-- The line for a history of calculations. -/
def Evaluation.line (e : Evaluation) : String :=
  if e.description.isEmpty then ""
  else e.description ++ if e.isPending then "..." else "="

end Keypad
