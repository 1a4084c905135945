/-
# `Keypad.Proofs.StoredGrammar` — which texts are stored programs

A stored program is an array of strings and numbers, in the strict grammar of JSON: every
element but the last is followed by a comma, and space may stand between any two parts.
The grammar is written down here as inductive relations between a text and what it stands
for, level by level: the characters of a string (`CharText`), strings (`TextBody`), entries
(`ItemText`), the inside of an array (`ItemsText`) and the array (`ArrayText`).

At each level the reader is shown to take just the texts of that level off the front, in
two halves: it reads a text of the grammar, with whatever may follow it, and what it takes
is a text of the grammar.  Strings, arrays and the space before a part have an end of their
own.  A number has not, and the reader takes as much as it can; but in an array it is
followed by space, a comma or the bracket, and none of these continues it (`ends_space`).

So the texts that are read are those of the grammar, and each stands for one program only
(`read_eq_some_iff`).
-/
import Keypad.Proofs.NumeralText
import Keypad.Stored

namespace Keypad

namespace Json

/-! ## Space -/

/-- What may stand between two parts of a text. -/
def Space (cs : List Char) : Prop := ∀ c ∈ cs, isSpace c = true

/-- A text that does not begin with space. -/
def Black (cs : List Char) : Prop := ∀ c ∈ cs.head?, isSpace c = false

variable {a cs rest : List Char} {c : Char}

theorem black_cons (black : isSpace c = false) (cs : List Char) : Black (c :: cs) := by
  rintro _ ⟨⟩
  exact black

theorem skipSpace_append (space : Space a) (black : Black cs) : skipSpace (a ++ cs) = cs := by
  rw [skipSpace, List.dropWhile_append_of_pos space]
  cases cs with
  | nil => rfl
  | cons c cs => exact List.dropWhile_cons_of_neg (Bool.not_eq_true _ ▸ black c rfl)

theorem exists_space_append (cs : List Char) : ∃ a, Space a ∧ cs = a ++ skipSpace cs :=
  ⟨cs.takeWhile isSpace, fun _ mem => List.mem_takeWhile_imp mem,
    List.takeWhile_append_dropWhile.symm⟩

theorem space_of_skipSpace (none_left : (skipSpace cs).isEmpty = true) : Space cs := by
  obtain ⟨a, space, parts⟩ := exists_space_append cs
  rw [List.isEmpty_iff.mp none_left, List.append_nil] at parts
  rwa [parts]

theorem isSpace_iff : isSpace c = true ↔ c = ' ' ∨ c = '\t' ∨ c = '\n' ∨ c = '\r' := by
  simp [isSpace, or_assoc]

/-! ## The characters of a string -/

/-- What may follow the backslash of an escape.  There is no way to write half of a pair of
surrogates, which is no character. -/
inductive EscapeText : List Char → Char → Prop
  | short (letter : Char) {c : Char} : shortEscape? letter = some c → EscapeText [letter] c
  | code {digits : List Char} {c : Char} : digits.length = 4 → hexValue? digits = some c.toNat →
      EscapeText ('u' :: digits) c
  | pair {upper lower : List Char} {high low : Nat} {c : Char} :
      upper.length = 4 → hexValue? upper = some (0xD800 + high) → high < 0x400 →
      lower.length = 4 → hexValue? lower = some (0xDC00 + low) → low < 0x400 →
      c.toNat = 0x10000 + high * 0x400 + low →
      EscapeText ('u' :: (upper ++ '\\' :: 'u' :: lower)) c

/-- How a character may be written in a string. -/
inductive CharText : List Char → Char → Prop
  | plain (c : Char) : c ≠ '"' → c ≠ '\\' → 0x20 ≤ c.toNat → CharText [c] c
  | escape {text : List Char} {c : Char} : EscapeText text c → CharText ('\\' :: text) c

/-- The inside of a string, and the characters that it stands for. -/
inductive TextBody : List Char → List Char → Prop
  | nil : TextBody [] []
  | cons {text body s : List Char} {c : Char} : CharText text c → TextBody body s →
      TextBody (text ++ body) (c :: s)

/-! ### Such a text is read -/

theorem readText_quote (rest : List Char) : readText ('"' :: rest) = some ([], rest) := by
  rw [readText]

theorem readText_backslash (escaped : readEscape cs = some (c, rest)) :
    readText ('\\' :: cs) = (readText rest).map fun (text, last) => (c :: text, last) := by
  rw [readText]
  split
  · rename_i none_read
    rw [escaped] at none_read
    cases none_read
  · rename_i c' after read
    rw [escaped] at read
    cases read
    rfl

theorem readText_plain (quote : c ≠ '"') (backslash : c ≠ '\\')
    (printable : ¬c.toNat < 0x20) (rest : List Char) :
    readText (c :: rest) = (readText rest).map fun (text, last) => (c :: text, last) := by
  rw [readText, if_neg printable]
  · exact quote
  · exact backslash

theorem hexQuad_append {digits : List Char} (four : digits.length = 4) (rest : List Char) :
    hexQuad (digits ++ rest) = (hexValue? digits).map fun n => (n, rest) := by
  obtain ⟨p, q, r, s, rfl⟩ := List.length_eq_four.mp four
  rfl

/-- No character lies among the surrogates. -/
theorem not_surrogate (c : Char) : ¬(0xD800 ≤ c.toNat ∧ c.toNat < 0xE000) := by
  have valid := c.valid
  simp only [UInt32.isValidChar, Nat.isValidChar] at valid
  simp only [Char.toNat]
  omega

theorem EscapeText.readEscape {text : List Char} (h : EscapeText text c) (rest : List Char) :
    readEscape (text ++ rest) = some (c, rest) := by
  cases h with
  | short letter escape =>
      rw [List.singleton_append, Json.readEscape, escape, Option.map_some]
      rintro rfl
      cases escape
  | code four value =>
      have single := not_surrogate c
      rw [List.cons_append, Json.readEscape, readCodePoint, hexQuad_append four, value]
      simp only [Option.map_some, Option.bind_eq_bind, Option.bind_some]
      rw [if_neg (by omega), if_neg (by omega), Char.ofNat_toNat]
  | pair four upper upper_bound four' lower lower_bound value =>
      rw [List.cons_append, Json.readEscape, readCodePoint, List.append_assoc,
        hexQuad_append four, upper]
      simp only [Option.map_some, Option.bind_eq_bind, Option.bind_some, List.cons_append]
      rw [if_pos (by omega), hexQuad_append four', lower]
      simp only [Option.map_some, Option.bind_some]
      rw [if_pos (by omega), Nat.add_sub_cancel_left, Nat.add_sub_cancel_left, ← value,
        Char.ofNat_toNat]

theorem CharText.readText {text : List Char} (h : CharText text c) (rest : List Char) :
    readText (text ++ rest) = (readText rest).map fun (text, last) => (c :: text, last) := by
  cases h with
  | plain _ quote backslash printable =>
      exact readText_plain quote backslash (Nat.not_lt.mpr printable) rest
  | escape escaped => exact readText_backslash (escaped.readEscape rest)

/-- The inside of a string is read up to the quote that ends it. -/
theorem TextBody.readText {body s : List Char} (h : TextBody body s) (rest : List Char) :
    readText (body ++ '"' :: rest) = some (s, rest) := by
  induction h with
  | nil => exact readText_quote rest
  | cons char _ ih =>
      rw [List.append_assoc, char.readText, ih]
      rfl

/-! ### Nothing else is read -/

theorem of_hexQuad_eq {n : Nat} (taken : hexQuad cs = some (n, rest)) :
    ∃ digits, digits.length = 4 ∧ hexValue? digits = some n ∧ cs = digits ++ rest := by
  unfold hexQuad at taken
  split at taken
  · rename_i p q r s _
    obtain ⟨_, value, same⟩ := Option.map_eq_some_iff.mp taken
    cases same
    exact ⟨[p, q, r, s], rfl, value, rfl⟩
  · cases taken

theorem hexDigit?_lt {n : Nat} (digit : hexDigit? c = some n) : n < 16 := by
  unfold hexDigit? at digit
  split at digit
  · rename_i decimal
    have bounds := Char.isDigit_iff_toNat.mp decimal
    cases digit
    simp at bounds ⊢
    omega
  · split at digit
    · rename_i letter
      obtain ⟨-, bound⟩ := letter
      have bound : c.toNat ≤ 102 := bound
      cases digit
      simp
      omega
    · split at digit
      · rename_i letter
        obtain ⟨-, bound⟩ := letter
        have bound : c.toNat ≤ 70 := bound
        cases digit
        simp
        omega
      · cases digit

theorem hexValue?_lt {digits : List Char} {n : Nat} (value : hexValue? digits = some n) :
    n < 16 ^ digits.length := by
  induction digits using List.reverseRecOn generalizing n with
  | nil =>
      cases value
      exact one_pos
  | append_singleton digits d ih =>
      rw [hexValue?, List.foldlM_append] at value
      obtain ⟨m, front, value⟩ := Option.bind_eq_some_iff.mp value
      obtain ⟨k, last, rfl⟩ : ∃ k, hexDigit? d = some k ∧ 16 * m + k = n := by simpa using value
      have bound := hexDigit?_lt last
      have front := ih front
      rw [List.length_append, List.length_singleton, pow_succ]
      omega

theorem toNat_ofNat_of_not_surrogate {n : Nat} (bound : n < 0x110000)
    (single : ¬(0xD800 ≤ n ∧ n < 0xE000)) : (Char.ofNat n).toNat = n := by
  have valid : n.isValidChar := by
    rw [Nat.isValidChar]
    omega
  rw [Char.ofNat, dif_pos valid]
  rfl

theorem exists_escapeText_of_readCodePoint (taken : readCodePoint cs = some (c, rest)) :
    ∃ text, EscapeText ('u' :: text) c ∧ cs = text ++ rest := by
  unfold readCodePoint at taken
  obtain ⟨⟨high, after⟩, first, decided⟩ := Option.bind_eq_some_iff.mp taken
  obtain ⟨upper, four, upper_value, rfl⟩ := of_hexQuad_eq first
  have bound := hexValue?_lt upper_value
  rw [four] at bound
  simp only at decided
  split at decided
  · split at decided
    · obtain ⟨⟨low, last⟩, second, paired⟩ := Option.bind_eq_some_iff.mp decided
      obtain ⟨lower, four', lower_value, rfl⟩ := of_hexQuad_eq second
      simp only at paired
      split at paired
      · simp only [Option.some.injEq, Prod.mk.injEq] at paired
        obtain ⟨rfl, rfl⟩ := paired
        rw [← Nat.add_sub_cancel' (m := 0xD800) (n := high) (by omega)] at upper_value
        rw [← Nat.add_sub_cancel' (m := 0xDC00) (n := low) (by omega)] at lower_value
        have value := toNat_ofNat_of_not_surrogate
          (n := 0x10000 + (high - 0xD800) * 0x400 + (low - 0xDC00)) (by omega) (by omega)
        refine ⟨_, .pair four upper_value (by omega) four' lower_value (by omega) value, ?_⟩
        rw [List.append_assoc]
        rfl
      · cases paired
    · cases decided
  · split at decided
    · cases decided
    · cases decided
      refine ⟨upper, .code four ?_, rfl⟩
      rw [upper_value, toNat_ofNat_of_not_surrogate (by omega) (by omega)]

theorem exists_escapeText (taken : readEscape cs = some (c, rest)) :
    ∃ text, EscapeText text c ∧ cs = text ++ rest := by
  unfold readEscape at taken
  split at taken
  · cases taken
  · obtain ⟨text, escaped, rfl⟩ := exists_escapeText_of_readCodePoint taken
    exact ⟨_, escaped, rfl⟩
  · rename_i letter after _
    obtain ⟨_, escape, same⟩ := Option.map_eq_some_iff.mp taken
    cases same
    exact ⟨[letter], .short letter escape, rfl⟩

theorem exists_textBody {s : List Char} (taken : readText cs = some (s, rest)) :
    ∃ body, TextBody body s ∧ cs = body ++ '"' :: rest := by
  fun_induction readText cs generalizing s with
  | case1 => cases taken
  | case2 rest' =>
      cases taken
      exact ⟨[], .nil, rfl⟩
  | case3 => cases taken
  | case4 cs c after escaped _ ih =>
      obtain ⟨⟨s, last⟩, inner, same⟩ := Option.map_eq_some_iff.mp taken
      cases same
      obtain ⟨text, escape, rfl⟩ := exists_escapeText escaped
      obtain ⟨body, written, rfl⟩ := ih inner
      exact ⟨_, .cons (.escape escape) written, by simp⟩
  | case5 => cases taken
  | case6 c cs quote backslash printable ih =>
      obtain ⟨⟨s, last⟩, inner, same⟩ := Option.map_eq_some_iff.mp taken
      cases same
      obtain ⟨body, written, rfl⟩ := ih inner
      exact ⟨_, .cons (.plain c quote backslash (Nat.not_lt.mp printable)) written, rfl⟩

end Json

namespace Stored

open Json

variable {a b cs rest text body : List Char} {p : Primitive} {ps : List Primitive}

/-! ## Entries -/

/-- The text of an entry: a string in quotes, or a number that is in range. -/
inductive ItemText : List Char → Primitive → Prop
  | text {body s : List Char} : TextBody body s →
      ItemText ('"' :: (body ++ ['"'])) (.text (String.ofList s))
  | number {n : Numeral} {cs : List Char} {x : Float} : n.WrittenAs cs → n.toFloat? = some x →
      ItemText cs (.number x)

/-- The character with which an entry begins. -/
theorem ItemText.exists_cons_eq (h : ItemText text p) :
    ∃ c cs, text = c :: cs ∧ isSpace c = false ∧ c ≠ ']' := by
  cases h with
  | text _ => exact ⟨'"', _, rfl, rfl, by decide⟩
  | number written _ =>
      obtain ⟨c, cs, rfl, rfl | digit⟩ := written.exists_cons_eq
      · exact ⟨'-', cs, rfl, rfl, by decide⟩
      · refine ⟨c, cs, rfl, ?_, ?_⟩
        · rw [← Bool.not_eq_true, isSpace_iff]
          rintro (rfl | rfl | rfl | rfl) <;> exact absurd digit (by decide)
        · rintro rfl
          exact absurd digit (by decide)

theorem ItemText.black (h : ItemText text p) (rest : List Char) : Black (text ++ rest) := by
  obtain ⟨c, cs, rfl, black, -⟩ := h.exists_cons_eq
  exact black_cons black _

/-- No number begins with a quote. -/
theorem read_quote (cs : List Char) : Numeral.read ('"' :: cs) = none := by
  rw [Numeral.read_of_ne (by simp), Numeral.readUnsigned]
  rfl

/-- An entry is read up to what follows it, if that does not continue a number. -/
theorem ItemText.readItem (h : ItemText text p) (ends : Numeral.Ends rest) :
    readItem (text ++ rest) = some (p, rest) := by
  cases h with
  | text body =>
      rw [List.cons_append, List.append_assoc, Stored.readItem]
      rw [List.singleton_append, body.readText, Option.map_some]
  | number written value =>
      have read := written.read ends
      rw [Stored.readItem]
      · rw [read]
        simp only [Option.bind_eq_bind, Option.bind_some, value]
        rfl
      · intro cs begins
        rw [begins, read_quote] at read
        cases read

theorem exists_itemText (taken : readItem cs = some (p, rest)) :
    ∃ text, ItemText text p ∧ cs = text ++ rest := by
  unfold readItem at taken
  split at taken
  · obtain ⟨⟨s, last⟩, inner, same⟩ := Option.map_eq_some_iff.mp taken
    cases same
    obtain ⟨body, written, rfl⟩ := exists_textBody inner
    exact ⟨_, .text written, by simp⟩
  · obtain ⟨⟨n, last⟩, first, inner⟩ := Option.bind_eq_some_iff.mp taken
    obtain ⟨x, value, same⟩ := Option.bind_eq_some_iff.mp inner
    cases same
    obtain ⟨text, written, parts⟩ := Numeral.exists_writtenAs first
    exact ⟨text, .number written value, parts⟩

/-! ## Arrays -/

/-- The entries of an array that has any, with the commas between them. -/
inductive ItemsText : List Char → List Primitive → Prop
  | last {a text b : List Char} {p : Primitive} : Space a → ItemText text p → Space b →
      ItemsText (a ++ (text ++ b)) [p]
  | more {a text b body : List Char} {p : Primitive} {ps : List Primitive} : Space a →
      ItemText text p → Space b → ItemsText body ps →
      ItemsText (a ++ (text ++ (b ++ ',' :: body))) (p :: ps)

/-- An array. -/
inductive ArrayText : List Char → List Primitive → Prop
  | empty {a : List Char} : Space a → ArrayText ('[' :: (a ++ [']'])) []
  | items {body : List Char} {ps : List Primitive} : ItemsText body ps →
      ArrayText ('[' :: (body ++ [']'])) ps

/-- The text of a program: an array with space around it. -/
def Denotes (text : String) (program : List Primitive) : Prop :=
  ∃ a body b, Space a ∧ ArrayText body program ∧ Space b ∧ text.toList = a ++ (body ++ b)

/-! ### What follows an entry -/

theorem ends_comma (cs : List Char) : Numeral.Ends (',' :: cs) :=
  ⟨by simp [Reading.Stops], by simp, by simp⟩

theorem ends_bracket (cs : List Char) : Numeral.Ends (']' :: cs) :=
  ⟨by simp [Reading.Stops], by simp, by simp⟩

/-- Space does not continue a number either. -/
theorem ends_space (space : Space b) (ends : Numeral.Ends rest) : Numeral.Ends (b ++ rest) := by
  cases b with
  | nil => exact ends
  | cons c b =>
      have first := isSpace_iff.mp (space c List.mem_cons_self)
      refine ⟨?_, ?_, ?_, ?_⟩
      · rintro _ ⟨⟩
        rcases first with rfl | rfl | rfl | rfl <;> rfl
      all_goals
        rintro ⟨⟩
        revert first
        decide

/-! ### Such a text is read -/

theorem readItems_more {more : List Char} (item : readItem (skipSpace cs) = some (p, rest))
    (comma : skipSpace rest = ',' :: more) :
    readItems cs = (readItems more).map fun (items, last) => (p :: items, last) := by
  rw [readItems]
  split
  · rename_i none_read
    rw [item] at none_read
    cases none_read
  · rename_i read
    rw [item] at read
    cases read
    split
    · rename_i same
      rw [comma] at same
      cases same
      rfl
    · rename_i same
      rw [comma] at same
      cases same
    · rename_i other _
      exact absurd comma (other more)

theorem readItems_last {last : List Char} (item : readItem (skipSpace cs) = some (p, rest))
    (bracket : skipSpace rest = ']' :: last) : readItems cs = some ([p], last) := by
  rw [readItems]
  split
  · rename_i none_read
    rw [item] at none_read
    cases none_read
  · rename_i read
    rw [item] at read
    cases read
    split
    · rename_i same
      rw [bracket] at same
      cases same
    · rename_i same
      rw [bracket] at same
      cases same
      rfl
    · rename_i other
      exact absurd bracket (other last)

/-- The inside of an array is read up to the bracket that ends it. -/
theorem ItemsText.readItems (h : ItemsText body ps) (rest : List Char) :
    readItems (body ++ ']' :: rest) = some (ps, rest) := by
  induction h with
  | last before item after =>
      refine readItems_last ?_ (skipSpace_append after (black_cons (c := ']') rfl rest))
      rw [List.append_assoc, List.append_assoc, skipSpace_append before (item.black _)]
      exact item.readItem (ends_space after (ends_bracket rest))
  | @more a text b body p ps before item after _ ih =>
      have comma := black_cons (c := ',') rfl (body ++ ']' :: rest)
      rw [readItems_more (p := p) ?_ (skipSpace_append after comma), ih]
      · rfl
      · rw [List.append_assoc, List.append_assoc, List.append_assoc,
          skipSpace_append before (item.black _)]
        exact item.readItem (ends_space after (ends_comma _))

/-- What the inside of an array begins with is not the bracket that ends it. -/
theorem ItemsText.skipSpace_ne (h : ItemsText body ps) (rest last : List Char) :
    skipSpace (body ++ rest) ≠ ']' :: last := by
  have begins {a text : List Char} {p : Primitive} (before : Space a) (item : ItemText text p)
      (tail : List Char) : skipSpace (a ++ (text ++ tail)) ≠ ']' :: last := by
    rw [skipSpace_append before (item.black tail)]
    obtain ⟨c, cs, rfl, -, other⟩ := item.exists_cons_eq
    exact fun same => other (List.cons.inj same).1
  cases h with
  | last before item after =>
      rw [List.append_assoc, List.append_assoc]
      exact begins before item _
  | more before item after _ =>
      rw [List.append_assoc, List.append_assoc]
      exact begins before item _

theorem Denotes.read {text : String} (h : Denotes text ps) : read text = some ps := by
  obtain ⟨a, body, b, before, array, after, parts⟩ := h
  have ending : skipSpace b = [] := by
    have skipped := skipSpace_append after (show Black [] by rintro _ ⟨⟩)
    rwa [List.append_nil] at skipped
  cases array with
  | empty inner =>
      have bracket := black_cons (c := ']') rfl b
      rw [Stored.read, parts, List.cons_append,
        skipSpace_append before (black_cons (c := '[') rfl _), List.append_assoc,
        List.singleton_append]
      simp only [skipSpace_append inner bracket, Option.bind_eq_bind, Option.bind_some, ending,
        List.isEmpty_nil, if_true]
  | @items body _ items =>
      rw [Stored.read, parts, List.cons_append,
        skipSpace_append before (black_cons (c := '[') rfl _), List.append_assoc,
        List.singleton_append]
      split
      · rename_i same
        cases same
        -- the reader looks for the bracket of an empty array first
        split
        · rename_i same
          exact absurd same (items.skipSpace_ne _ _)
        · rw [items.readItems]
          simp only [Option.bind_eq_bind, Option.bind_some, ending, List.isEmpty_nil, if_true]
      · rename_i other
        exact absurd rfl (other _)

/-! ### Nothing else is read -/

theorem exists_itemsText (taken : readItems cs = some (ps, rest)) :
    ∃ body, ItemsText body ps ∧ cs = body ++ ']' :: rest := by
  -- one round of the reader takes an entry with the space around it, and what ends it
  fun_induction readItems cs generalizing ps with
  | case1 => cases taken
  | case2 cs item after read more comma _ ih =>
      obtain ⟨⟨items, last⟩, inner, same⟩ := Option.map_eq_some_iff.mp taken
      cases same
      obtain ⟨body, written, rfl⟩ := ih inner
      obtain ⟨a, before, parts⟩ := exists_space_append cs
      obtain ⟨text, entry, parts'⟩ := exists_itemText read
      obtain ⟨b, between, parts''⟩ := exists_space_append after
      refine ⟨_, .more before entry between written, ?_⟩
      rw [parts, parts', parts'', comma]
      simp
  | case3 cs item after read last bracket =>
      cases taken
      obtain ⟨a, before, parts⟩ := exists_space_append cs
      obtain ⟨text, entry, parts'⟩ := exists_itemText read
      obtain ⟨b, between, parts''⟩ := exists_space_append after
      refine ⟨_, .last before entry between, ?_⟩
      rw [parts, parts', parts'', bracket]
      simp
  | case4 => cases taken

theorem denotes_of_read {text : String} (taken : read text = some ps) : Denotes text ps := by
  obtain ⟨a, before, parts⟩ := exists_space_append text.toList
  unfold read at taken
  split at taken
  · rename_i cs opening
    obtain ⟨between, space, inside⟩ := exists_space_append cs
    split at taken
    · rename_i rest bracket
      simp only [Option.bind_eq_bind, Option.bind_some, Option.ite_none_right_eq_some] at taken
      obtain ⟨finished, same⟩ := taken
      cases same
      refine ⟨a, _, rest, before, .empty space, space_of_skipSpace finished, ?_⟩
      rw [parts, opening, inside, bracket]
      simp
    · obtain ⟨⟨program, rest⟩, inner, ending⟩ := Option.bind_eq_some_iff.mp taken
      simp only [Option.ite_none_right_eq_some] at ending
      obtain ⟨finished, same⟩ := ending
      cases same
      obtain ⟨body, items, rfl⟩ := exists_itemsText inner
      refine ⟨a, _, rest, before, .items items, space_of_skipSpace finished, ?_⟩
      rw [parts, opening]
      simp
  · cases taken

/-- The texts that are read are those of the grammar. -/
theorem read_eq_some_iff {text : String} : read text = some ps ↔ Denotes text ps :=
  ⟨denotes_of_read, Denotes.read⟩

theorem read_eq_none_iff {text : String} : read text = none ↔ ¬∃ ps, Denotes text ps := by
  rw [Option.eq_none_iff_forall_ne_some, not_exists]
  exact forall_congr' fun ps => not_congr read_eq_some_iff

end Stored

end Keypad
