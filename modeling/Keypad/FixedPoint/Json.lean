/-
# `Keypad.FixedPoint.Json` — settings as JSON

Settings are written as an object with all four members.  Two forms are read: an
object, whose unknown members are passed over, and an array, which has the values
alone in the order of `Setting.all` and may stop early.  Neither form is checked
for sense: more forced decimals than are allowed is no error here.
-/
import Keypad.FixedPoint.Settings
import Keypad.Json.Skip

namespace Keypad.FixedPoint

open Json

/-! ## Writing -/

/-- The settings as an object without space. -/
def toJson (s : FixedPoint) : String :=
  let member (setting : Setting) (value : List Char) : List Char :=
    writeText setting.name ++ ':' :: value
  let members := [
    member .maximumFractionDigits (Nat.toDigits 10 s.maximumFractionDigits),
    member .minimumFractionDigits (Nat.toDigits 10 s.minimumFractionDigits),
    member .minimumIntegerDigits (Nat.toDigits 10 s.minimumIntegerDigits),
    member .decimalSeparator (writeText (String.singleton s.decimalSeparator))]
  String.ofList ('\x7b' :: ([','].intercalate members ++ ['\x7d']))

/-! ## Reading the value of a setting -/

/-- A count at the front of a text, and what follows it. -/
def readCount (cs : List Char) : Option (Nat × List Char) := do
  let (numeral, rest) ← Numeral.read cs
  return (← numeral.count?, rest)

/-- A string of one character at the front of a text, and what follows it. -/
def readSeparator : List Char → Option (Char × List Char)
  | '"' :: cs => match readText cs with
    | some ([c], rest) => some (c, rest)
    | _ => none
  | _ => none

/-- The value of a setting, with space allowed before it, and what follows it. -/
def readValue (setting : Setting) (cs : List Char) : Option (Assignment × List Char) :=
  let cs := skipSpace cs
  match setting with
  | .maximumFractionDigits =>
    (readCount cs).map fun (n, rest) => (.maximumFractionDigits n, rest)
  | .minimumFractionDigits =>
    (readCount cs).map fun (n, rest) => (.minimumFractionDigits n, rest)
  | .minimumIntegerDigits =>
    (readCount cs).map fun (n, rest) => (.minimumIntegerDigits n, rest)
  | .decimalSeparator =>
    (readSeparator cs).map fun (c, rest) => (.decimalSeparator c, rest)

theorem length_of_readCount {cs rest : List Char} {n : Nat}
    (h : readCount cs = some (n, rest)) : rest.length < cs.length := by
  unfold readCount at h
  obtain ⟨⟨numeral, after⟩, hn, h⟩ := Option.bind_eq_some_iff.1 h
  obtain ⟨_, _, h⟩ := Option.bind_eq_some_iff.1 h
  simp only [pure, Option.some.injEq, Prod.mk.injEq] at h
  obtain ⟨_, rfl⟩ := h
  exact Numeral.length_of_read hn

theorem length_of_readSeparator {cs rest : List Char} {c : Char}
    (h : readSeparator cs = some (c, rest)) : rest.length < cs.length := by
  unfold readSeparator at h
  split at h
  · split at h
    · rename_i hr
      simp only [Option.some.injEq, Prod.mk.injEq] at h
      obtain ⟨_, rfl⟩ := h
      have := length_of_readText hr
      simp only [List.length_cons]
      omega
    · cases h
  · cases h

theorem length_of_readValue {setting : Setting} {cs rest : List Char} {a : Assignment}
    (h : readValue setting cs = some (a, rest)) : rest.length < cs.length := by
  refine Nat.lt_of_lt_of_le ?_ (length_skipSpace_le cs)
  cases setting with
  | maximumFractionDigits =>
    obtain ⟨⟨n, last⟩, hr, he⟩ := Option.map_eq_some_iff.1 h
    cases he
    exact length_of_readCount hr
  | minimumFractionDigits =>
    obtain ⟨⟨n, last⟩, hr, he⟩ := Option.map_eq_some_iff.1 h
    cases he
    exact length_of_readCount hr
  | minimumIntegerDigits =>
    obtain ⟨⟨n, last⟩, hr, he⟩ := Option.map_eq_some_iff.1 h
    cases he
    exact length_of_readCount hr
  | decimalSeparator =>
    obtain ⟨⟨c, last⟩, hr, he⟩ := Option.map_eq_some_iff.1 h
    cases he
    exact length_of_readSeparator hr

/-! ## Reading an object -/

/-- The key of a member and its colon, with space allowed before each, and what
follows them. -/
def readKey (cs : List Char) : Option (String × List Char) :=
  match skipSpace cs with
  | '"' :: quoted => do
    let (key, rest) ← readText quoted
    match skipSpace rest with
    | ':' :: after => some (String.ofList key, after)
    | _ => none
  | _ => none

theorem length_of_readKey {cs rest : List Char} {key : String}
    (h : readKey cs = some (key, rest)) : rest.length < cs.length := by
  unfold readKey at h
  split at h
  · rename_i quoted hq
    obtain ⟨⟨key', after⟩, ht, h⟩ := Option.bind_eq_some_iff.1 h
    simp only at h
    split at h
    · rename_i last hl
      simp only [Option.some.injEq, Prod.mk.injEq] at h
      obtain ⟨_, rfl⟩ := h
      have h₁ := length_of_skipSpace hq
      have h₂ := length_of_readText ht
      have h₃ := length_of_skipSpace hl
      omega
    · cases h
  · cases h

/-- A member, and the settings with what it gives. -/
def readMember (given : Given) (cs : List Char) : Option (Given × List Char) := do
  let (key, cs) ← readKey cs
  match Setting.ofName? key with
  | some setting =>
    let (assignment, rest) ← readValue setting cs
    return (← given.put assignment, rest)
  | none => return (given, ← skip cs)

theorem length_of_readMember {given given' : Given} {cs rest : List Char}
    (h : readMember given cs = some (given', rest)) : rest.length < cs.length := by
  unfold readMember at h
  obtain ⟨⟨key, after⟩, hk, h⟩ := Option.bind_eq_some_iff.1 h
  have h₁ := length_of_readKey hk
  simp only at h
  split at h
  · obtain ⟨⟨a, last⟩, hv, h⟩ := Option.bind_eq_some_iff.1 h
    obtain ⟨_, _, h⟩ := Option.bind_eq_some_iff.1 h
    simp only [pure, Option.some.injEq, Prod.mk.injEq] at h
    obtain ⟨_, rfl⟩ := h
    have h₂ := length_of_readValue hv
    omega
  · obtain ⟨last, hv, h⟩ := Option.bind_eq_some_iff.1 h
    simp only [pure, Option.some.injEq, Prod.mk.injEq] at h
    obtain ⟨_, rfl⟩ := h
    have h₂ := length_of_skipValue hv
    omega

/-- The members from here to the closing brace, and what follows it. -/
def readMembers (given : Given) (cs : List Char) : Option (Given × List Char) :=
  match hm : readMember given cs with
  | none => none
  | some (given, rest) =>
    match hr : skipSpace rest with
    | ',' :: more =>
      have := length_of_readMember hm
      have := length_of_skipSpace hr
      readMembers given more
    | '\x7d' :: last => some (given, last)
    | _ => none
termination_by cs.length

/-! ## Reading an array -/

/-- The values from here to the closing bracket, for the settings that are left,
and what follows the bracket. -/
def readElements (given : Given) : List Setting → List Char → Option (Given × List Char)
  | [], _ => none
  | setting :: settings, cs => do
    let (assignment, rest) ← readValue setting cs
    let given ← given.put assignment
    match skipSpace rest with
    | ',' :: more => readElements given settings more
    | ']' :: last => some (given, last)
    | _ => none

/-! ## Reading either -/

/-- The settings that a JSON text gives, if it is an object or an array of
them. -/
def ofJson? (text : String) : Option FixedPoint := do
  let (given, rest) ← match skipSpace text.toList with
    | '\x7b' :: cs => match skipSpace cs with
      | '\x7d' :: rest => some (Given.nothing, rest)
      | _ => readMembers .nothing cs
    | '[' :: cs => match skipSpace cs with
      | ']' :: rest => some (Given.nothing, rest)
      | _ => readElements .nothing Setting.all cs
    | _ => none
  if (skipSpace rest).isEmpty then some given.complete else none

end Keypad.FixedPoint
