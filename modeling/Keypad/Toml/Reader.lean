/-
# `Keypad.Toml.Reader` — small readers and how they combine

A reader takes something from the front of a text and leaves the rest, or fails
and takes nothing.  Readers form a monad, so "this and then that" is `do`;
`r <|> s` is "this or else that" from the same place, and `optional r` is "this,
if it is there".  The rules of TOML can then be written down about as the standard
has them.

Repetition is the one combinator that recurses.  It ends because a round that
takes nothing is the last one.
-/

namespace Keypad.Toml

/-- Takes something from the front of a text. -/
abbrev Reader := StateT (List Char) Option

namespace Reader

def satisfy (p : Char → Bool) : Reader Char
  | [] => none
  | c :: cs => if p c then some (c, cs) else none

def char (c : Char) : Reader Unit := do
  let _ ← satisfy (· == c)

def chars : List Char → Reader Unit
  | [] => pure ()
  | c :: cs => do
    char c
    chars cs

/-- Takes as many characters of a class as there are. -/
def takeWhile (p : Char → Bool) : Reader (List Char) :=
  fun cs => some (cs.takeWhile p, cs.dropWhile p)

/-- Takes as many characters of a class as there are, one at least. -/
def takeWhile₁ (p : Char → Bool) : Reader (List Char) := do
  let taken ← takeWhile p
  if taken.isEmpty then failure else return taken

/-- Takes nothing, and goes on only if something holds. -/
def require (b : Bool) : Reader Unit := if b then pure () else failure

/-- Looks whether something is there, and takes nothing. -/
def ahead {α : Type} (r : Reader α) : Reader Unit :=
  fun cs => (r cs).map fun _ => ((), cs)

def finish : Reader Unit
  | [] => some ((), [])
  | _ => none

/-- What a reader takes from a text again and again, and the rest. -/
def repeated {α : Type} (r : Reader α) (cs : List Char) : List α × List Char :=
  match r cs with
  | none => ([], cs)
  | some (a, rest) =>
    if rest.length < cs.length then
      let (as, last) := repeated r rest
      (a :: as, last)
    else ([], cs)
termination_by cs.length

/-- Takes something as often as it is there. -/
def many {α : Type} (r : Reader α) : Reader (List α) := fun cs => some (repeated r cs)

/-- Takes something once or more often, with separators between. -/
def separated {α : Type} (r : Reader α) (separator : Reader Unit) : Reader (List α) := do
  let first ← r
  let more ← many (do separator; r)
  return first :: more

end Reader

end Keypad.Toml
