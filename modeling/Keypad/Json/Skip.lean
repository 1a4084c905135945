/-
# `Keypad.Json.Skip` — passing over a value that nobody wants

Settings may come with entries that mean nothing to this program, and those hold
values of any kind.  A value is passed over by checking its form alone: brackets
match, members have keys, numbers and words are complete.  How large a number is
and which characters a string holds is not asked.

Values nest without limit, so the open brackets are kept in a list, the innermost
first, and the reading goes straight through the text.
-/
import Keypad.Json.Number
import Keypad.Json.Space
import Keypad.Json.Text

namespace Keypad.Json

/-- A bracket that is open. -/
inductive Frame where
  | array
  | object
  deriving DecidableEq

/-- What follows a value that holds no other value. -/
def skipScalar : List Char → Option (List Char)
  | '"' :: cs => skipText cs
  | 't' :: 'r' :: 'u' :: 'e' :: cs => some cs
  | 'f' :: 'a' :: 'l' :: 's' :: 'e' :: cs => some cs
  | 'n' :: 'u' :: 'l' :: 'l' :: cs => some cs
  | cs => (Numeral.read cs).map Prod.snd

/-- What follows the key of a member and its colon. -/
def skipKey (cs : List Char) : Option (List Char) :=
  match skipSpace cs with
  | '"' :: rest => do
    match skipSpace (← skipText rest) with
    | ':' :: after => some after
    | _ => none
  | _ => none

theorem length_of_skipScalar {cs rest : List Char} (h : skipScalar cs = some rest) :
    rest.length < cs.length := by
  unfold skipScalar at h
  split at h
  · have := length_of_skipText h
    simp only [List.length_cons]
    omega
  · cases h; simp only [List.length_cons]; omega
  · cases h; simp only [List.length_cons]; omega
  · cases h; simp only [List.length_cons]; omega
  · obtain ⟨⟨_, _⟩, hn, rfl⟩ := Option.map_eq_some_iff.1 h
    exact Numeral.length_of_read hn

theorem length_of_skipKey {cs rest : List Char} (h : skipKey cs = some rest) :
    rest.length < cs.length := by
  unfold skipKey at h
  split at h
  · rename_i quoted hq
    obtain ⟨after, ht, h⟩ := Option.bind_eq_some_iff.1 h
    split at h
    · rename_i last hl
      cases h
      have h₁ := length_of_skipSpace hq
      have h₂ := length_of_skipText ht
      have h₃ := length_of_skipSpace hl
      omega
    · cases h
  · cases h

mutual

/-- What follows a value that begins here, and with it all that is open. -/
def skipValue (frames : List Frame) (cs : List Char) : Option (List Char) :=
  match hc : skipSpace cs with
  | '[' :: rest =>
    have := length_of_skipSpace hc
    match hr : skipSpace rest with
    | ']' :: after =>
      have := length_of_skipSpace hr
      skipRest frames after
    | _ => skipValue (.array :: frames) rest
  | '\x7b' :: rest =>
    have := length_of_skipSpace hc
    match hr : skipSpace rest with
    | '\x7d' :: after =>
      have := length_of_skipSpace hr
      skipRest frames after
    | _ => match hk : skipKey rest with
      | some after =>
        have := length_of_skipKey hk
        skipValue (.object :: frames) after
      | none => none
  | trimmed => match hs : skipScalar trimmed with
    | some after =>
      have := length_of_skipScalar hs
      have := length_skipSpace_le cs
      have := congrArg List.length hc
      skipRest frames after
    | none => none
termination_by cs.length

/-- What follows all that is open, after a value has ended here. -/
def skipRest (frames : List Frame) (cs : List Char) : Option (List Char) :=
  match frames with
  | [] => some cs
  | frame :: outer => match hc : skipSpace cs with
    | ',' :: rest =>
      have := length_of_skipSpace hc
      match frame with
      | .array => skipValue (frame :: outer) rest
      | .object => match hk : skipKey rest with
        | some after =>
          have := length_of_skipKey hk
          skipValue (frame :: outer) after
        | none => none
    | ']' :: rest =>
      have := length_of_skipSpace hc
      if frame = .array then skipRest outer rest else none
    | '\x7d' :: rest =>
      have := length_of_skipSpace hc
      if frame = .object then skipRest outer rest else none
    | _ => none
termination_by cs.length

end

mutual

theorem length_of_skipValue {frames : List Frame} {cs rest : List Char}
    (h : skipValue frames cs = some rest) : rest.length < cs.length := by
  unfold skipValue at h
  split at h
  · rename_i inner hc
    have hi := length_of_skipSpace hc
    simp only at h
    split at h
    · rename_i after hr
      have := length_of_skipSpace hr
      have := length_of_skipRest h
      omega
    · have := length_of_skipValue h
      omega
  · rename_i inner hc
    have hi := length_of_skipSpace hc
    simp only at h
    split at h
    · rename_i after hr
      have := length_of_skipSpace hr
      have := length_of_skipRest h
      omega
    · split at h
      · rename_i after hk
        have := length_of_skipKey hk
        have := length_of_skipValue h
        omega
      · cases h
  · split at h
    · rename_i after hs
      have := length_of_skipScalar hs
      have := length_skipSpace_le cs
      have := length_of_skipRest h
      omega
    · cases h
termination_by cs.length

theorem length_of_skipRest {frames : List Frame} {cs rest : List Char}
    (h : skipRest frames cs = some rest) : rest.length ≤ cs.length := by
  unfold skipRest at h
  split at h
  · cases h; exact Nat.le_refl _
  · split at h
    · rename_i inner hc
      have hi := length_of_skipSpace hc
      simp only at h
      split at h
      · have := length_of_skipValue h
        omega
      · split at h
        · rename_i after hk
          have := length_of_skipKey hk
          have := length_of_skipValue h
          omega
        · cases h
    · rename_i inner hc
      have hi := length_of_skipSpace hc
      simp only at h
      split at h
      · have := length_of_skipRest h
        omega
      · cases h
    · rename_i inner hc
      have hi := length_of_skipSpace hc
      simp only at h
      split at h
      · have := length_of_skipRest h
        omega
      · cases h
    · cases h
termination_by cs.length

end

/-- What follows a value at the front of a text. -/
def skip (cs : List Char) : Option (List Char) := skipValue [] cs

end Keypad.Json
