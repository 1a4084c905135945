/-
# `Keypad.Toml.Document` — TOML texts

A text is read in two steps.  It is first taken apart into statements, which are
headers and assignments, and then the statements build the tables one after
another.  A text is refused if either step fails.

Arrays and inline tables nest, and may do so less than eighty deep; the budget
makes the reading of values a structural recursion.  An inline table is checked
by the same rules as other tables (`Entries.put`), and is closed for good when its
brace is.
-/
import Keypad.Toml.Table

namespace Keypad.Toml

open Reader

/-! ## Values that hold others -/

/-- An array of values.  A comma may follow the last one. -/
def array (value : Reader Value) : Reader Value := do
  char '['
  let element : Reader Unit := do
    gap
    let _ ← value
    gap
  let _ ← optional (do
    let _ ← separated element (char ',')
    optional (char ','))
  gap
  char ']'
  return .other

/-- A key, given as the path before its last part and that part, and what it
stands for. -/
structure Binding where
  path : List String
  key : String
  value : Value

/-- A key and a value with an equals sign between them. -/
def binding (value : Reader Value) : Reader Binding := do
  let path ← keyPath
  char '='
  space
  let v ← value
  match path.getLast? with
  | some key => return ⟨path.dropLast, key, v⟩
  | none => failure

/-- A table on one line. -/
def inlineTable (value : Reader Value) : Reader Value := do
  char '\x7b'
  let member : Reader Binding := do
    let b ← binding value
    space
    return b
  let members ← optional (separated member (char ','))
  space
  char '\x7d'
  let filled := (members.getD []).foldlM (fun entries b => Entries.put b.key b.value b.path true entries) []
  require filled.isSome
  return .other

/-- A value in which others nest up to a given depth. -/
def valueUpTo : (depth : Nat) → Reader Value
  | 0 => scalar
  | depth + 1 => array (valueUpTo depth) <|> inlineTable (valueUpTo depth) <|> scalar

def value : Reader Value := valueUpTo 79

/-! ## Statements -/

inductive Statement where
  | header (path : List String)
  | seriesHeader (path : List String)
  | assignment (binding : Binding)

/-- A header or an assignment, with the rest of its line. -/
def statement : Reader Statement := do
  let seriesHeader : Reader Statement := do
    chars ['[', '[']
    let path ← keyPath
    chars [']', ']']
    return .seriesHeader path
  let header : Reader Statement := do
    char '['
    let path ← keyPath
    char ']'
    return .header path
  let assignment : Reader Statement := do return .assignment (← binding value)
  let s ← seriesHeader <|> header <|> assignment
  lineRest
  return s

/-- All statements of a text, which a byte-order mark may precede. -/
def statements : Reader (List Statement) := do
  let _ ← optional (char '\uFEFF')
  space
  let empty : Reader (Option Statement) := do
    newline <|> (do comment; lineEnd)
    return none
  let lines ← many (do
    let line ← empty <|> some <$> statement
    space
    return line)
  finish
  return lines.filterMap id

/-! ## Building the tables -/

/-- The tables built so far, and the path of the header in force. -/
structure Document where
  root : Entries
  current : List String

/-- The tables after one more statement. -/
def Document.step (d : Document) : Statement → Option Document
  | .header path => do
    let key ← path.getLast?
    return ⟨← Entries.within (Entries.openTable key) path.dropLast d.root, path⟩
  | .seriesHeader path => do
    let key ← path.getLast?
    return ⟨← Entries.within (Entries.openSeries key) path.dropLast d.root, path⟩
  | .assignment b => do
    return { d with root := ← Entries.within (Entries.put b.key b.value b.path true) d.current d.root }

/-- The entries of the outermost table, if the text is a TOML text. -/
def read (text : String) : Option Entries := do
  let (lines, _) ← statements text.toList
  let document ← lines.foldlM Document.step ⟨[], []⟩
  return document.root

end Keypad.Toml
