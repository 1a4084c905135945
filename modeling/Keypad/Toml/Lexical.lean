/-
# `Keypad.Toml.Lexical` — space, comments, strings and keys

The smallest parts of a TOML text.  Two rules run through all of them: a line
ends with a line feed, which a carriage return may precede but not replace; and
of the control characters only the tab may stand in a comment or a string.

There are four kinds of strings.  Basic strings, in double quotes, have escapes;
literal strings, in single quotes, have none.  Each kind may be opened with three
quotes, and then lines may end inside; an end of line right after the opening
does not count, every other one counts as a line feed, and one or two quotes may
stand by themselves, even right before the closing.
-/
import Keypad.Json.Text
import Keypad.Toml.Reader

namespace Keypad.Toml

open Reader

/-! ## Space and comments -/

def space : Reader Unit := do
  let _ ← takeWhile fun c => c == ' ' || c == '\t'

def newline : Reader Unit := chars ['\n'] <|> chars ['\r', '\n']

/-- Whether a character may stand in a comment or a string. -/
def isPlain (c : Char) : Bool := c == '\t' || (0x20 ≤ c.toNat && c.toNat ≠ 0x7F)

/-- A comment, up to the end of the line. -/
def comment : Reader Unit := do
  char '#'
  let _ ← takeWhile isPlain

def lineEnd : Reader Unit := newline <|> finish

/-- What may follow a complete statement on its line, and the end of the line. -/
def lineRest : Reader Unit := do
  space
  let _ ← optional comment
  lineEnd

/-- What may stand between the parts of an array: space, ends of lines, and
comments with the ends of theirs. -/
def gap : Reader Unit := do
  let oneSpace : Reader Unit := do
    let _ ← takeWhile₁ fun c => c == ' ' || c == '\t'
  let _ ← many (oneSpace <|> newline <|> (do comment; newline))

/-! ## Strings -/

/-- A character by a given number of hexadecimal digits. -/
def codePoint (count : Nat) : Reader Char := fun cs => do
  let digits := cs.take count
  let n ← Json.hexValue? digits
  if digits.length = count ∧ (n < 0xD800 ∨ (0xDFFF < n ∧ n < 0x110000)) then
    some (Char.ofNat n, cs.drop count)
  else none

/-- An escape in a basic string. -/
def escaped : Reader Char := do
  char '\\'
  let c ← satisfy fun _ => true
  match c with
  | 'b' => return '\x08'
  | 't' => return '\t'
  | 'n' => return '\n'
  | 'f' => return '\x0c'
  | 'r' => return '\r'
  | '"' => return '"'
  | '\\' => return '\\'
  | 'u' => codePoint 4
  | 'U' => codePoint 8
  | _ => failure

/-- A character of a basic string that stands for itself. -/
def basicChar : Reader Char := satisfy fun c => isPlain c && c != '"' && c != '\\'

def literalChar : Reader Char := satisfy fun c => isPlain c && c != '\''

/-- A basic string on one line. -/
def basicString : Reader (List Char) := do
  char '"'
  let text ← many (basicChar <|> escaped)
  char '"'
  return text

/-- A literal string on one line. -/
def literalString : Reader (List Char) := do
  char '\''
  let text ← many literalChar
  char '\''
  return text

/-- An end of line that is escaped, with all space after it; it stands for
nothing. -/
def escapedNewline : Reader Unit := do
  char '\\'
  space
  newline
  let oneSpace : Reader Unit := do
    let _ ← satisfy fun c => c == ' ' || c == '\t'
  let _ ← many (oneSpace <|> newline)

/-- One or two quotes that stand by themselves before something else. -/
def quotes {α : Type} (quote : Char) (before : Reader α) : Reader (List Char) :=
  (do chars [quote, quote]; ahead before; return [quote, quote]) <|>
    (do char quote; ahead before; return [quote])

/-- A string between triple quotes, of parts that are given. -/
def tripleQuoted (quote : Char) (part : Reader (List Char)) : Reader (List Char) := do
  let delimiter := chars [quote, quote, quote]
  delimiter
  let _ ← optional newline
  let lineFeed : Reader (List Char) := do newline; return ['\n']
  let parts ← many (part <|> lineFeed <|> quotes quote (satisfy (· != quote)))
  let last ← optional (quotes quote delimiter)
  delimiter
  return parts.flatten ++ last.getD []

def string : Reader (List Char) :=
  let one (r : Reader Char) : Reader (List Char) := do return [← r]
  let nothing : Reader (List Char) := do escapedNewline; return []
  tripleQuoted '"' (one basicChar <|> nothing <|> one escaped) <|> basicString <|>
    tripleQuoted '\'' (one literalChar) <|> literalString

/-! ## Keys -/

/-- Whether a character may stand in a key without quotes. -/
def isBareKey (c : Char) : Bool := c.isAlphanum || c == '_' || c == '-'

def key : Reader String := do
  return String.ofList (← takeWhile₁ isBareKey <|> basicString <|> literalString)

/-- Keys with dots between them, fewer than eighty, with space around each. -/
def keyPath : Reader (List String) := do
  let spaced : Reader String := do
    space
    let k ← key
    space
    return k
  let path ← separated spaced (char '.')
  require (path.length < 80)
  return path

end Keypad.Toml
