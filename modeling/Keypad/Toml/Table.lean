/-
# `Keypad.Toml.Table` — tables, and what may be added to them

A TOML text builds its tables bit by bit, from headers and from keys with dots,
and most of the standard is about what may not be added any more.  The rules come
down to how a table came to be (`Origin`):

* a table with a header of its own takes no second header, and no dotted key
  reaches into it from outside;
* a table that only lies on the way of a header may still get one, and its
  entries come under that header;
* a table that lies on the way of a dotted key grows by further dotted keys
  alone, although headers may lead through it.

A series of tables, from headers in double brackets, grows at its last table.
Values, inline tables and arrays among them, never grow.
-/
import Keypad.Toml.Scalar

namespace Keypad.Toml

/-- How a table came to be. -/
inductive Origin where
  | header
  | path
  | dotted
  deriving DecidableEq, Repr

/-- What a key stands for.  Of a series only the last table can still matter. -/
inductive Node where
  | value (v : Value)
  | table (origin : Origin) (entries : List (String × Node))
  | series (last : List (String × Node))

/-- The entries of a table, in the order in which they were added. -/
abbrev Entries := List (String × Node)

namespace Entries

def replace (entries : Entries) (key : String) (node : Node) : Entries :=
  entries.map fun (k, old) => if k = key then (k, node) else (k, old)

/-- Adds a value under a dotted key, given as the path before the last part and
that part.  `open` says whether entries may be added here. -/
def put (key : String) (v : Value) : (path : List String) → (isOpen : Bool) → Entries →
    Option Entries
  | [], isOpen, entries =>
    if isOpen && (entries.lookup key).isNone then some (entries ++ [(key, .value v)])
    else none
  | k :: path, _, entries => match entries.lookup k with
    | none => do
      return entries ++ [(k, .table .dotted (← put key v path true []))]
    | some (.table .header _) | some (.value _) => none
    | some (.table .path inner) => do
      return entries.replace k (.table .path (← put key v path false inner))
    | some (.table .dotted inner) => do
      return entries.replace k (.table .dotted (← put key v path true inner))
    | some (.series last) => do
      return entries.replace k (.series (← put key v path false last))

/-- Changes the table at the end of a path of headers.  Tables that are missing
on the way are made. -/
def within (change : Entries → Option Entries) : (path : List String) → Entries → Option Entries
  | [], entries => change entries
  | k :: path, entries => match entries.lookup k with
    | none => do return entries ++ [(k, .table .path (← within change path []))]
    | some (.value _) => none
    | some (.table origin inner) => do
      return entries.replace k (.table origin (← within change path inner))
    | some (.series last) => do
      return entries.replace k (.series (← within change path last))

/-- Gives a table its header. -/
def openTable (key : String) (entries : Entries) : Option Entries :=
  match entries.lookup key with
  | none => some (entries ++ [(key, .table .header [])])
  | some (.table .path inner) => some (entries.replace key (.table .header inner))
  | some _ => none

/-- Adds a table to a series, or begins one. -/
def openSeries (key : String) (entries : Entries) : Option Entries :=
  match entries.lookup key with
  | none => some (entries ++ [(key, .series [])])
  | some (.series _) => some (entries.replace key (.series []))
  | some _ => none

end Entries

end Keypad.Toml
