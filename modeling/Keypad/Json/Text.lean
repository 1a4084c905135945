/-
# `Keypad.Json.Text` — strings in JSON

A string stands between double quotes.  Written, it escapes as little as it may:
the quote, the backslash and the characters below U+0020, with the five short
escapes where there is one.  Read, it may escape anything, and a character
outside the basic plane may come as two escapes of four digits, a high and a low
surrogate.  A surrogate that has no partner stands for no character, and such a
string is refused.

Where a value is passed over without being used its strings are not taken apart:
the escapes have to be complete, and which characters they stand for is not asked
(`skipText`).
-/

namespace Keypad.Json

/-! ## Writing -/

/-- A character as it is written inside a string. -/
def escape (c : Char) : List Char :=
  if c = '"' ∨ c = '\\' then ['\\', c]
  else if c = '\x08' then ['\\', 'b']
  else if c = '\t' then ['\\', 't']
  else if c = '\n' then ['\\', 'n']
  else if c = '\x0c' then ['\\', 'f']
  else if c = '\r' then ['\\', 'r']
  else if c.toNat < 0x20 then
    ['\\', 'u', '0', '0', Nat.digitChar (c.toNat / 16), Nat.digitChar (c.toNat % 16)]
  else [c]

/-- A string in quotes. -/
def writeText (s : String) : List Char := '"' :: (s.toList.flatMap escape ++ ['"'])

/-! ## Hexadecimal digits -/

def hexDigit? (c : Char) : Option Nat :=
  if c.isDigit then some (c.toNat - '0'.toNat)
  else if 'a' ≤ c ∧ c ≤ 'f' then some (c.toNat - 'a'.toNat + 10)
  else if 'A' ≤ c ∧ c ≤ 'F' then some (c.toNat - 'A'.toNat + 10)
  else none

def hexValue? (ds : List Char) : Option Nat :=
  ds.foldlM (fun n d => (hexDigit? d).map (16 * n + ·)) 0

/-- Four hexadecimal digits at the front of a text, and what follows them. -/
def hexQuad : List Char → Option (Nat × List Char)
  | a :: b :: c :: d :: rest => (hexValue? [a, b, c, d]).map fun n => (n, rest)
  | _ => none

/-! ## Reading -/

/-- The character of an escape with one letter. -/
def shortEscape? : Char → Option Char
  | '"' => some '"'
  | '\\' => some '\\'
  | '/' => some '/'
  | 'b' => some '\x08'
  | 'f' => some '\x0c'
  | 'n' => some '\n'
  | 'r' => some '\r'
  | 't' => some '\t'
  | _ => none

/-- The character of an escape in hexadecimal digits, which stand at the front,
and what follows.  A high surrogate needs a low one right after it. -/
def readCodePoint (cs : List Char) : Option (Char × List Char) := do
  let (high, rest) ← hexQuad cs
  if 0xD800 ≤ high ∧ high < 0xDC00 then
    match rest with
    | '\\' :: 'u' :: more =>
      let (low, rest) ← hexQuad more
      if 0xDC00 ≤ low ∧ low < 0xE000 then
        some (Char.ofNat (0x10000 + (high - 0xD800) * 0x400 + (low - 0xDC00)), rest)
      else none
    | _ => none
  else if 0xDC00 ≤ high ∧ high < 0xE000 then none
  else some (Char.ofNat high, rest)

/-- The character of an escape, whose backslash is read already, and what
follows. -/
def readEscape : List Char → Option (Char × List Char)
  | [] => none
  | 'u' :: rest => readCodePoint rest
  | c :: rest => (shortEscape? c).map fun d => (d, rest)

theorem length_of_hexQuad {cs rest : List Char} {n : Nat} (h : hexQuad cs = some (n, rest)) :
    rest.length < cs.length := by
  unfold hexQuad at h
  split at h
  · obtain ⟨_, _, he⟩ := Option.map_eq_some_iff.1 h
    cases he
    simp only [List.length_cons]
    omega
  · cases h

theorem length_of_readCodePoint {cs rest : List Char} {c : Char}
    (h : readCodePoint cs = some (c, rest)) : rest.length < cs.length := by
  unfold readCodePoint at h
  obtain ⟨⟨high, after⟩, hq, h⟩ := Option.bind_eq_some_iff.1 h
  have hlen := length_of_hexQuad hq
  simp only at h
  split at h
  · split at h
    · obtain ⟨⟨low, last⟩, hl, h⟩ := Option.bind_eq_some_iff.1 h
      have := length_of_hexQuad hl
      simp only at h
      split at h
      · simp only [Option.some.injEq, Prod.mk.injEq] at h
        obtain ⟨_, rfl⟩ := h
        simp only [List.length_cons] at hlen
        omega
      · cases h
    · cases h
  · split at h
    · cases h
    · simp only [Option.some.injEq, Prod.mk.injEq] at h
      obtain ⟨_, rfl⟩ := h
      exact hlen

theorem length_of_readEscape {cs rest : List Char} {c : Char}
    (h : readEscape cs = some (c, rest)) : rest.length < cs.length := by
  unfold readEscape at h
  split at h
  · cases h
  · have := length_of_readCodePoint h
    simp only [List.length_cons]
    omega
  · obtain ⟨_, _, he⟩ := Option.map_eq_some_iff.1 h
    cases he
    simp

/-- The rest of a string whose opening quote is read already: its characters, and
what follows the closing quote. -/
def readText (cs : List Char) : Option (List Char × List Char) :=
  match cs with
  | [] => none
  | '"' :: rest => some ([], rest)
  | '\\' :: rest =>
    match h : readEscape rest with
    | none => none
    | some (c, after) =>
      have : after.length < rest.length := length_of_readEscape h
      (readText after).map fun (text, last) => (c :: text, last)
  | c :: rest =>
    if c.toNat < 0x20 then none
    else (readText rest).map fun (text, last) => (c :: text, last)
termination_by cs.length

/-- What follows a string whose opening quote is read already, when nobody wants
the string. -/
def skipText (cs : List Char) : Option (List Char) :=
  match cs with
  | [] => none
  | '"' :: rest => some rest
  | '\\' :: 'u' :: rest =>
    match h : hexQuad rest with
    | none => none
    | some (_, after) =>
      have : after.length < rest.length := length_of_hexQuad h
      skipText after
  | '\\' :: c :: rest => if (shortEscape? c).isSome then skipText rest else none
  | c :: rest => if c.toNat < 0x20 ∨ c = '\\' then none else skipText rest
termination_by cs.length

theorem length_of_readText {cs text rest : List Char} (h : readText cs = some (text, rest)) :
    rest.length < cs.length := by
  fun_induction readText cs generalizing text with
  | case1 => cases h
  | case2 => cases h; simp
  | case3 => cases h
  | case4 rest _ _ _ this ih =>
    obtain ⟨⟨_, _⟩, hr, he⟩ := Option.map_eq_some_iff.1 h
    cases he
    have := ih hr
    simp only [List.length_cons]
    omega
  | case5 => cases h
  | case6 _ _ _ _ _ ih =>
    obtain ⟨⟨_, _⟩, hr, he⟩ := Option.map_eq_some_iff.1 h
    cases he
    have := ih hr
    simp only [List.length_cons]
    omega

theorem length_of_skipText {cs rest : List Char} (h : skipText cs = some rest) :
    rest.length < cs.length := by
  fun_induction skipText cs with
  | case1 => cases h
  | case2 => cases h; simp
  | case3 => cases h
  | case4 _ _ _ _ _ ih =>
    have := ih h
    simp only [List.length_cons]
    omega
  | case5 _ _ _ _ ih =>
    have := ih h
    simp only [List.length_cons]
    omega
  | case6 => cases h
  | case7 => cases h
  | case8 _ _ _ _ _ _ ih =>
    have := ih h
    simp only [List.length_cons]
    omega

end Keypad.Json
