/-
# `Keypad` — a calculator that remembers keys and nothing else

A calculation is the list of what was entered (`Keypad.Token`).  An engine
(`Keypad.Engine`) records it, replays it for every question (`Keypad.Replay`) and
answers with the number that stands and a line that describes it
(`Keypad.Evaluation`).  A program can be drawn as a curve (`Keypad.Curve`) and
kept in a store as JSON (`Keypad.Store`).

Numbers are shown and read by a number format (`Keypad.NumberFormat`), of which
`Keypad.FixedPoint` is the one in daily use; its settings come from JSON or TOML.

The theory is in `Keypad.Proofs`.  It says what a press records
(`Keypad.Proofs.Recording`) and that the record replays to what the presses do
(`Keypad.Proofs.Chance`), and from there that an expression tree explains the
answer (`Keypad.Proofs.Expression`), but for a second operand that is entered
twice (`Keypad.Proofs.Reentry`).

A session is more than presses (`Keypad.Proofs.Session`).  At the keypad, with
undoing and clearing, replaying is a stack of snapshots (`Keypad.Proofs.Snapshots`),
and a stored program is a row of presses until something is undone
(`Keypad.Proofs.StoredProgram`).  The programs that a session can lead to are the
paths of an automaton (`Keypad.Proofs.Automaton`); taking back a press undoes it,
unless it began a new expression (`Keypad.Proofs.Undoing`); what is recorded does not
depend on any number (`Keypad.Proofs.Independence`); a variable, a constant or a draw
may be replaced by the number that it stands for (`Keypad.Proofs.Interchange`), and so
each point of a curve depends on its own x only (`Keypad.Proofs.Plotting`); the events
tell what became of the program (`Keypad.Proofs.Journal`); and that nothing was entered
looks the same from all sides (`Keypad.Proofs.Emptiness`).  What the fragments of a
description are (`Keypad.Proofs.Fragments`), and that its parentheses are balanced
(`Keypad.Proofs.Parentheses`), is said of any program.

The numbers are a theory of their own.  The nearest double is the one whose
interval holds the number (`Keypad.Proofs.Nearest`), and seventeen digits are
enough to tell which one that is (`Keypad.Proofs.Shortest`).  Reading rounds three
times, which is exact for few digits and fails for none that were written
(`Keypad.Proofs.Scaling`).  With the text around the digits
(`Keypad.Proofs.WrittenNumber`, `Keypad.Proofs.Rereading`,
`Keypad.Proofs.StoredText`) this says what a saved program is when it comes back
(`Keypad.Proofs.Saving`): nothing that was saved is lost to the reader
(`Keypad.Proofs.Restoring`), and among engines that share a store every step does all
of what it is meant to do or nothing (`Keypad.Proofs.SharedStore`).  What is lost on
the way to the stored form, apart from its text, is said in `Keypad.Proofs.Flattening`.

Anything may lie in a store.  Which texts are numbers (`Keypad.Proofs.NumeralText`) and
which are programs (`Keypad.Proofs.StoredGrammar`) is said by a grammar, and loading goes by
it (`Keypad.Proofs.Loading`).

What the two roundings of a display are meant to compute is said of rational numbers
(`Keypad.Proofs.ExactValue`).  This describes what is shown of a number
(`Keypad.Proofs.Display`), and that it stays when it is read back and shown again
(`Keypad.Proofs.Redisplay`).  It does not stay for every number and under every mark
(`Keypad.Proofs.Symmetry`).
-/
import Keypad.Curve
import Keypad.FixedPoint.Json
import Keypad.FixedPoint.Toml
import Keypad.Store
import Keypad.Proofs.Reentry
import Keypad.Proofs.Snapshots
import Keypad.Proofs.StoredProgram
import Keypad.Proofs.Automaton
import Keypad.Proofs.Independence
import Keypad.Proofs.Undoing
import Keypad.Proofs.SharedStore
import Keypad.Proofs.Flattening
import Keypad.Proofs.Loading
import Keypad.Proofs.Interchange
import Keypad.Proofs.Redisplay
import Keypad.Proofs.Symmetry
import Keypad.Proofs.Plotting
import Keypad.Proofs.Journal
import Keypad.Proofs.Parentheses
import Keypad.Proofs.Emptiness
