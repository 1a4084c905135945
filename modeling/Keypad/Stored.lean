/-
# `Keypad.Stored` — the text of a stored program

A program is stored as a JSON array of its entries, numbers and strings, with no
space between them.  Reading is strict about the array and generous about space:
any JSON array of numbers and strings is a program, and nothing else is.  In
particular there is no way to store an infinity or a NaN, so a program that holds
one has to be refused before it is written (`firstNonFinite`), and a program that
has been read holds none.
-/
import Keypad.Json.Number
import Keypad.Json.Space
import Keypad.Json.Text
import Keypad.Token

namespace Keypad.Stored

open Json

/-! ## Writing -/

def writeItem : Primitive → List Char
  | .number x => writeNumber x
  | .text s => writeText s

/-- A program as it is written. -/
def write (program : List Primitive) : String :=
  String.ofList ('[' :: ([','].intercalate (program.map writeItem) ++ [']']))

/-- The first number of a program that has no written form. -/
def firstNonFinite (program : List Primitive) : Option Float :=
  program.findSome? fun
    | .number x => if x.isFinite then none else some x
    | .text _ => none

/-! ## Reading -/

/-- An entry at the front of a text, and what follows it. -/
def readItem : List Char → Option (Primitive × List Char)
  | '"' :: cs => (readText cs).map fun (s, rest) => (.text (String.ofList s), rest)
  | cs => do
    let (numeral, rest) ← Numeral.read cs
    let x ← numeral.toFloat?
    return (.number x, rest)

theorem length_of_readItem {cs rest : List Char} {p : Primitive}
    (h : readItem cs = some (p, rest)) : rest.length < cs.length := by
  unfold readItem at h
  split at h
  · obtain ⟨⟨_, _⟩, hr, he⟩ := Option.map_eq_some_iff.1 h
    cases he
    have := length_of_readText hr
    simp only [List.length_cons]
    omega
  · obtain ⟨⟨n, after⟩, hn, h⟩ := Option.bind_eq_some_iff.1 h
    obtain ⟨x, _, h⟩ := Option.bind_eq_some_iff.1 h
    simp only [pure, Option.some.injEq, Prod.mk.injEq] at h
    obtain ⟨_, rfl⟩ := h
    exact Numeral.length_of_read hn

/-- The entries from the first one to the bracket that closes the array, and what
follows the bracket. -/
def readItems (cs : List Char) : Option (List Primitive × List Char) :=
  match hi : readItem (skipSpace cs) with
  | none => none
  | some (item, rest) =>
    match hr : skipSpace rest with
    | ',' :: more =>
      have : more.length < cs.length := by
        have h₁ := length_skipSpace_le cs
        have h₂ := length_of_readItem hi
        have h₃ := length_of_skipSpace hr
        omega
      (readItems more).map fun (items, last) => (item :: items, last)
    | ']' :: last => some ([item], last)
    | _ => none
termination_by cs.length

def read (text : String) : Option (List Primitive) :=
  match skipSpace text.toList with
  | '[' :: cs => do
    let (program, rest) ← match skipSpace cs with
      | ']' :: rest => some ([], rest)
      | _ => readItems cs
    if (skipSpace rest).isEmpty then some program else none
  | _ => none

end Keypad.Stored
