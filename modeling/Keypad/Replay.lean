/-
# `Keypad.Replay` — going through a program from the start

Nothing of a calculation is kept but its program.  Each question replays it from
the beginning, so the result and its description cannot drift apart from what
was entered.

A replay goes in two steps.  First every token is turned into an `Entry`: names
are looked up, numbers are written out, and chance is drawn upon, once for each
`Ran` key of the program.  From then on an operand is a number with a text, and
it no longer matters where either came from.  Then the entries act in order on a
`Replay`, which holds

* the accumulator, the number just entered or computed;
* the binary key that waits, with the number that came before it;
* the fragments of the description, the latest first.

An entry that has nothing to act on has no effect (`Replay.enter` gives `none`)
and is passed over.  The same function decides whether a key that is pressed is
recorded at all.

## How the description grows

Operands, constants and binary symbols are fragments of their own.  A unary key
wraps what it acts on: with nothing waiting that is everything entered so far,
so an opening goes before the first fragment and a closing after the last; with
a binary key waiting it is the second operand alone, the latest fragment.  The
equals key adds nothing.  An operand that finds nothing waiting starts a new
expression, and all fragments go.
-/
import Keypad.Bindings
import Keypad.Draws
import Keypad.NumberFormat
import Keypad.Token

namespace Keypad

/-! ## Tokens with their operands known -/

/-- One act of a replay. -/
inductive Entry where
  | operand (x : Float) (text : String)
  | unary (u : Unary)
  | binary (b : Binary)
  | equals

/-- What pressing a key amounts to.  The `Ran` key takes a number of the supply. -/
def Key.entry : Key → Drawing Entry
  | .constant c => pure (.operand c.value c.symbol)
  | .unary u => pure (.unary u)
  | .binary b => pure (.binary b)
  | .draw => do return .operand (← Draws.next) (Key.symbol .draw)
  | .equals => pure .equals

def Literal.entry (format : NumberFormat) (bindings : Bindings) : Literal → Entry
  | .value x => .operand x (format.format x)
  | .named name => .operand (bindings.value name) name

/-- What a recorded token amounts to; nothing, if it is the symbol of no key. -/
def Token.entry (format : NumberFormat) (bindings : Bindings) : Token → Drawing (Option Entry)
  | .operand literal => pure (some (literal.entry format bindings))
  | .operation symbol => match Key.ofSymbol? symbol with
    | some key => do return some (← key.entry)
    | none => pure none

/-- What a program amounts to. -/
def entries (format : NumberFormat) (bindings : Bindings) : List Token → Drawing (List Entry)
  | [] => pure []
  | token :: program => do
    let entry ← token.entry format bindings
    let rest ← entries format bindings program
    return entry.toList ++ rest

/-! ## The state of a replay -/

/-- A binary key that waits for its second operand. -/
structure Pending where
  operation : Binary
  first : Float

/-- The waiting key with its second operand at hand. -/
def Pending.perform (p : Pending) (second : Float) : Float :=
  p.operation.apply p.first second

/-- The working state of a replay. -/
structure Replay where
  accumulator : Option Float
  pending : Option Pending
  /-- The description in parts, the latest first. -/
  fragments : List String

namespace Replay

def blank : Replay := ⟨none, none, []⟩

/-- The fragments with a unary symbol around the latest operand. -/
def wrapLatest (symbol : String) : List String → List String
  | [] => [symbol ++ "(" ++ ")"]
  | latest :: earlier => (symbol ++ "(" ++ latest ++ ")") :: earlier

/-- The fragments with a unary symbol around all of them. -/
def wrapAll (symbol : String) (fragments : List String) : List String :=
  ")" :: (fragments ++ [symbol ++ "("])

/-- The effect of an entry, if it has one. -/
def enter (r : Replay) : Entry → Option Replay
  | .operand x text =>
    some { r with
      accumulator := some x
      fragments := if r.pending.isSome then text :: r.fragments else [text] }
  | .unary u => r.accumulator.map fun x =>
    { r with
      accumulator := some (u.apply x)
      fragments := if r.pending.isSome then wrapLatest u.symbol r.fragments
        else wrapAll u.symbol r.fragments }
  | .binary b => r.accumulator.map fun x =>
    { accumulator := none
      pending := some ⟨b, match r.pending with
        | some waiting => waiting.perform x
        | none => x⟩
      fragments := b.symbol :: r.fragments }
  | .equals => match r.pending, r.accumulator with
    | some waiting, some x =>
      some { r with accumulator := some (waiting.perform x), pending := none }
    | _, _ => none

/-- The state after an entry, which an entry without effect leaves as it was. -/
def step (r : Replay) (entry : Entry) : Replay := (r.enter entry).getD r

/-- The state after a row of entries. -/
def run (r : Replay) (es : List Entry) : Replay := es.foldl step r

def isPending (r : Replay) : Bool := r.pending.isSome

/-- The number that stands: the accumulator, or the number that a waiting binary
key holds as long as no second one came. -/
def result (r : Replay) : Option Float :=
  r.accumulator.or (r.pending.map Pending.first)

/-- The description in one piece. -/
def description (r : Replay) : String := String.join r.fragments.reverse

/-! ## One entry after another -/

@[simp] theorem run_nil (r : Replay) : r.run [] = r := rfl

@[simp] theorem run_cons (r : Replay) (e : Entry) (es : List Entry) :
    r.run (e :: es) = (r.step e).run es := rfl

theorem run_append (r : Replay) (es fs : List Entry) :
    r.run (es ++ fs) = (r.run es).run fs := List.foldl_append

end Replay

end Keypad
