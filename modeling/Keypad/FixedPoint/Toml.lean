/-
# `Keypad.FixedPoint.Toml` — settings as TOML

Settings are the entries of the outermost table.  Entries with other names are
passed over, tables included, but the whole text has to be TOML.  What is read is
checked for sense: no more decimals may be forced than are allowed.
-/
import Keypad.Error
import Keypad.FixedPoint.Settings
import Keypad.Toml.Document

namespace Keypad.FixedPoint

def countOfToml? : Toml.Node → Option Nat
  | .value (.integer (.ofNat n)) => some n
  | _ => none

def separatorOfToml? : Toml.Node → Option Char
  | .value (.text s) => match s.toList with
    | [c] => some c
    | _ => none
  | _ => none

/-- What an entry of the outermost table gives, if its name is that of a
setting. -/
def assignmentOfToml? (setting : Setting) (node : Toml.Node) : Option Assignment :=
  match setting with
  | .maximumFractionDigits => (countOfToml? node).map .maximumFractionDigits
  | .minimumFractionDigits => (countOfToml? node).map .minimumFractionDigits
  | .minimumIntegerDigits => (countOfToml? node).map .minimumIntegerDigits
  | .decimalSeparator => (separatorOfToml? node).map .decimalSeparator

/-- The settings given so far, and what one more entry gives. -/
def putToml (given : Given) (entry : String × Toml.Node) : Option Given :=
  match Setting.ofName? entry.1 with
  | some setting => do given.put (← assignmentOfToml? setting entry.2)
  | none => some given

/-- The settings that the entries of a table give. -/
def ofEntries? (entries : Toml.Entries) : Option FixedPoint :=
  (entries.foldlM putToml .nothing).map Given.complete

/-- The settings that a TOML text gives, if it gives settings that make sense. -/
def ofToml (text : String) : Except Error FixedPoint :=
  match (Toml.read text).bind ofEntries? with
  | none => .error (.config .unreadable)
  | some s =>
    if s.maximumFractionDigits < s.minimumFractionDigits then
      .error (.config
        (.minimumExceedsMaximum s.minimumFractionDigits s.maximumFractionDigits))
    else .ok s

end Keypad.FixedPoint
