/-
# `Keypad.Error` — refusing data from outside

Keys never fail: one that is unknown or has nothing to act on is passed over.
Errors come from two places only, programs that cannot be stored or read back,
and settings that cannot be read.  Each error is its cause; the wording is made
from the cause in one place.
-/
import Keypad.Number.Layout

namespace Keypad

/-- Why a program was not stored or not read back. -/
inductive PersistenceFault where
  /-- An infinity or a NaN among the operands: the stored form has no such
  numbers. -/
  | nonFinite (x : Float)
  /-- The stored text is not a program. -/
  | unreadable
  /-- A fault in the words of whoever keeps the store. -/
  | stated (text : String)

/-- Why settings were refused. -/
inductive ConfigFault where
  /-- More decimals are forced than are allowed. -/
  | minimumExceedsMaximum (minimum maximum : Nat)
  /-- The text is not a table of settings. -/
  | unreadable
  /-- A fault in the words of whoever supplies the settings. -/
  | stated (text : String)

inductive Error where
  | persistence (fault : PersistenceFault)
  | config (fault : ConfigFault)

def PersistenceFault.text : PersistenceFault → String
  | .nonFinite x => "cannot store non-finite operand " ++ Layout.plain.write x
  | .unreadable => "not a stored program"
  | .stated words => words

def ConfigFault.text : ConfigFault → String
  | .minimumExceedsMaximum minimum maximum =>
    "minimum_fraction_digits (" ++ toString minimum ++
      ") exceeds maximum_fraction_digits (" ++ toString maximum ++ ")"
  | .unreadable => "not a table of settings"
  | .stated words => words

def Error.message : Error → String
  | .persistence fault => "PersistenceError: " ++ fault.text
  | .config fault => "ConfigError: " ++ fault.text

end Keypad
