/-
# `Keypad.Toml.Scalar` — numbers, dates and truth values

Settings ask for integers and strings.  The other scalars are read as strictly,
because a text with a malformed date anywhere in it is no TOML text, and then
only their kind is kept.

Underscores may stand between digits, one at a time.  An integer has to fit in 64
bits with a sign; a float must not overflow upwards.  A date has to exist in the
calendar, and the last minute of a day may have a sixty-first second.
-/
import Keypad.Number.Reading
import Keypad.Toml.Lexical

namespace Keypad.Toml

open Reader

/-! ## Numbers -/

/-- Digits of a class, with single underscores between them, which are left
out. -/
def digitsOf (p : Char → Bool) : Reader (List Char) :=
  separated (takeWhile₁ p) (char '_') >>= fun groups => return groups.flatten

def sign : Reader (List Char) := do
  return (← optional (satisfy fun c => c == '+' || c == '-')).toList

/-- A decimal integer: no zero in front of another digit. -/
def decimalInteger : Reader (List Char) := do
  let s ← sign
  let zero : Reader (List Char) := do char '0'; return ['0']
  let ds ← zero <|> digitsOf Char.isDigit
  return s ++ ds

def integerValue : List Char → Int
  | '-' :: ds => -(Reading.value ds : Int)
  | '+' :: ds => Reading.value ds
  | ds => Reading.value ds

def valueInBase (base : Nat) (ds : List Char) : Nat :=
  ds.foldl (fun n d => base * n + (Json.hexDigit? d).getD 0) 0

/-- An integer in another base, with its mark in front. -/
def basedInteger (mark : Char) (base : Nat) : Reader Int := do
  chars ['0', mark]
  let ds ← digitsOf fun c => (Json.hexDigit? c).any (· < base)
  return valueInBase base ds

/-- An integer of 64 bits with a sign. -/
def integer : Reader Int := do
  let n ← basedInteger 'x' 16 <|> basedInteger 'o' 8 <|> basedInteger 'b' 2 <|>
    integerValue <$> decimalInteger
  require (-Int.pow 2 63 ≤ n && n < Int.pow 2 63)
  return n

def exponent : Reader (List Char) := do
  let e ← satisfy fun c => c == 'e' || c == 'E'
  let s ← sign
  return e :: (s ++ (← digitsOf Char.isDigit))

def fraction : Reader (List Char) := do
  char '.'
  return '.' :: (← digitsOf Char.isDigit)

/-- A float in digits: a fraction, an exponent, or both. -/
def decimalFloat : Reader Unit := do
  let whole ← decimalInteger
  let rest ← exponent <|> (do return (← fraction) ++ ((← optional exponent).getD []))
  match Reading.number? (whole ++ rest) with
  | some x => require (Double.negative x || Double.magnitude x != Double.infinity)
  | none => failure

def specialFloat : Reader Unit := do
  let _ ← sign
  chars ['i', 'n', 'f'] <|> chars ['n', 'a', 'n']

/-! ## Dates and times -/

/-- A number of exactly so many digits, within bounds. -/
def field (count low high : Nat) : Reader Nat := fun cs => do
  let ds := cs.take count
  let n := Reading.value ds
  if ds.length = count ∧ ds.all Char.isDigit ∧ low ≤ n ∧ n ≤ high then
    some (n, cs.drop count)
  else none

/-- The number of days in a month of the Gregorian calendar. -/
def daysIn (year month : Nat) : Nat :=
  if month = 2 then
    if year % 4 = 0 ∧ (year % 100 ≠ 0 ∨ year % 400 = 0) then 29 else 28
  else if month = 4 ∨ month = 6 ∨ month = 9 ∨ month = 11 then 30
  else 31

def date : Reader Unit := do
  let year ← field 4 0 9999
  char '-'
  let month ← field 2 1 12
  char '-'
  let _ ← field 2 1 (daysIn year month)

def time : Reader Unit := do
  let _ ← field 2 0 23
  char ':'
  let _ ← field 2 0 59
  char ':'
  let _ ← field 2 0 60
  let _ ← optional (do char '.'; takeWhile₁ Char.isDigit)

/-- The distance from universal time. -/
def offset : Reader Unit := do
  let zulu : Reader Unit := do
    let _ ← satisfy fun c => c == 'Z' || c == 'z'
  let distance : Reader Unit := do
    let _ ← satisfy fun c => c == '+' || c == '-'
    let _ ← field 2 0 23
    char ':'
    let _ ← field 2 0 59
  zulu <|> distance

/-- A date, a time of day, or both, the latter with or without an offset. -/
def dateTime : Reader Unit :=
  let timeOfDate : Reader Unit := do
    let _ ← satisfy fun c => c == 'T' || c == 't' || c == ' '
    time
    let _ ← optional offset
  (do date; let _ ← optional timeOfDate) <|> time

/-! ## Scalars -/

/-- A value, as far as settings can use it. -/
inductive Value where
  | integer (n : Int)
  | text (s : String)
  /-- Something else, whose form has been checked and whose content is not kept. -/
  | other
  deriving DecidableEq, Repr

def scalar : Reader Value :=
  let other (r : Reader Unit) : Reader Value := do r; return .other
  (do return .text (String.ofList (← string))) <|>
    other dateTime <|> other decimalFloat <|> other specialFloat <|>
    (do return .integer (← integer)) <|>
    other (chars ['t', 'r', 'u', 'e']) <|> other (chars ['f', 'a', 'l', 's', 'e'])

end Keypad.Toml
