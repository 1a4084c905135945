/-
# `Keypad.Proofs.NumeralText` — which texts are numbers

The reader of numbers goes through a text from the front and takes what it can.  Here the
texts are described without it (`Numeral.WrittenAs`): a sign or none, digits without a zero
in front, perhaps a point and more digits, perhaps an exponent, which may have any sign
and any zeros.  A numeral has several texts, for a plus and a capital `E` mean nothing.

The reader takes nothing but such texts off the front (`exists_writtenAs`).  It takes as
much as it can, so it finds a number only where the number ends: what comes next must not
continue it (`WrittenAs.read`).
-/
import Keypad.Json.Number
import Mathlib

namespace Keypad

namespace Reading

/-! ## Rows of digits and signs -/

variable {ds rest : List Char}

/-- A text that does not go on with a digit. -/
def Stops (rest : List Char) : Prop := ∀ c ∈ rest.head?, c.isDigit = false

theorem digits_append (all : ∀ c ∈ ds, c.isDigit = true) (stops : Stops rest) :
    digits (ds ++ rest) = (ds, rest) := by
  rw [digits, List.takeWhile_append_of_pos all, List.dropWhile_append_of_pos all]
  cases rest with
  | nil => simp
  | cons c rest =>
      have stop := stops c rfl
      simp [stop]

theorem of_digits_eq {cs : List Char} (taken : digits cs = (ds, rest)) :
    cs = ds ++ rest ∧ ∀ c ∈ ds, c.isDigit = true := by
  rw [digits, Prod.mk.injEq] at taken
  obtain ⟨rfl, rfl⟩ := taken
  exact ⟨List.takeWhile_append_dropWhile.symm, fun c mem => List.mem_takeWhile_imp mem⟩

/-- A sign, of which the minus counts. -/
inductive SignText : List Char → Bool → Prop
  | absent : SignText [] false
  | plus : SignText ['+'] false
  | minus : SignText ['-'] true

variable {minus : Bool}

theorem SignText.sign_append {s : List Char} (h : SignText s minus)
    (all : ∀ c ∈ ds, c.isDigit = true) (some_digit : ds ≠ []) :
    sign (s ++ (ds ++ rest)) = (minus, ds ++ rest) := by
  cases h with
  | plus => rfl
  | minus => rfl
  | absent =>
      obtain ⟨d, ds, rfl⟩ := List.exists_cons_of_ne_nil some_digit
      have digit := all d List.mem_cons_self
      rw [List.nil_append, List.cons_append, sign]
      · rintro _ ⟨⟩
        exact absurd digit (by decide)
      · rintro _ ⟨⟩
        exact absurd digit (by decide)

theorem exists_signText {cs : List Char} (taken : sign cs = (minus, rest)) :
    ∃ s, SignText s minus ∧ cs = s ++ rest := by
  unfold sign at taken
  split at taken
  · cases taken
    exact ⟨_, .minus, rfl⟩
  · cases taken
    exact ⟨_, .plus, rfl⟩
  · cases taken
    exact ⟨_, .absent, rfl⟩

end Reading

namespace Json.Numeral

open Reading

/-! ## Numerals and their texts -/

def writeSign (negative : Bool) : List Char := if negative then ['-'] else []

def writeFraction : Option (List Char) → List Char
  | none => []
  | some ds => '.' :: ds

/-- The text of an exponent. -/
inductive ExponentText : List Char → Option Int → Prop
  | absent : ExponentText [] none
  | present (mark : Char) {s ds : List Char} {minus : Bool} : mark = 'e' ∨ mark = 'E' →
      SignText s minus → ds ≠ [] → (∀ c ∈ ds, c.isDigit = true) →
      ExponentText (mark :: (s ++ ds)) (some (if minus then -(value ds : Int) else value ds))

/-- What a numeral needs for its text to be a number. -/
structure WellFormed (n : Numeral) : Prop where
  whole_ne_nil : n.whole ≠ []
  whole_zero : n.whole.head? = some '0' → n.whole = ['0']
  whole_digits : ∀ c ∈ n.whole, c.isDigit = true
  fraction_ne_nil : n.fraction ≠ some []
  fraction_digits : ∀ ds, n.fraction = some ds → ∀ c ∈ ds, c.isDigit = true

/-- The texts of a numeral. -/
inductive WrittenAs (n : Numeral) : List Char → Prop
  | intro {tail : List Char} : n.WellFormed → ExponentText tail n.exponent →
      n.WrittenAs (writeSign n.negative ++ (n.whole ++ (writeFraction n.fraction ++ tail)))

/-- A text that does not continue a number. -/
structure Ends (rest : List Char) : Prop where
  no_digit : Stops rest
  no_point : rest.head? ≠ some '.'
  no_exponent : rest.head? ≠ some 'e' ∧ rest.head? ≠ some 'E'

theorem ends_nil : Ends [] := ⟨by simp [Stops], by simp, by simp⟩

/-- Reading what comes after the sign. -/
def readUnsigned (negative : Bool) (cs : List Char) : Option (Numeral × List Char) := do
  let (whole, cs) ← readWhole cs
  let (fraction, cs) ← readFraction cs
  let (exponent, cs) ← readExponent cs
  return (⟨negative, whole, fraction, exponent⟩, cs)

theorem read_minus (cs : List Char) : read ('-' :: cs) = readUnsigned true cs := rfl

theorem read_of_ne {cs : List Char} (h : cs.head? ≠ some '-') :
    read cs = readUnsigned false cs := by
  rw [read]
  · rfl
  · rintro rest rfl
    exact h rfl

variable {n : Numeral} {rest text tail : List Char} {e : Option Int}

theorem WrittenAs.exists_cons_eq (written : n.WrittenAs text) :
    ∃ c cs, text = c :: cs ∧ (c = '-' ∨ c.isDigit = true) := by
  obtain ⟨negative, whole, fraction, exponent⟩ := n
  cases written with
  | intro formed _ =>
      obtain ⟨d, ds, rfl⟩ := List.exists_cons_of_ne_nil formed.whole_ne_nil
      cases negative with
      | true => exact ⟨'-', _, rfl, .inl rfl⟩
      | false => exact ⟨d, _, rfl, .inr (formed.whole_digits d List.mem_cons_self)⟩

/-! ## Such a text is read -/

theorem ExponentText.readExponent (h : ExponentText tail e) (ends : Ends rest) :
    readExponent (tail ++ rest) = some (e, rest) := by
  cases h with
  | absent =>
      cases rest with
      | nil => rfl
      | cons c rest =>
          have other : ¬ (c = 'e' ∨ c = 'E') := by
            have := ends.no_exponent
            simpa using this
          exact if_neg other
  | @present mark s ds minus letter signed some_digit all =>
      have after : sign (s ++ (ds ++ rest)) = (minus, ds ++ rest) :=
        signed.sign_append all some_digit
      have taken := digits_append all ends.no_digit
      rw [List.cons_append, List.append_assoc, Numeral.readExponent, if_pos letter]
      simp only [after, taken]

theorem readFraction_write {f : Option (List Char)} (some_digit : f ≠ some [])
    (all : ∀ ds, f = some ds → ∀ c ∈ ds, c.isDigit = true) (stops : Stops rest)
    (no_point : rest.head? ≠ some '.') :
    readFraction (writeFraction f ++ rest) = some (f, rest) := by
  cases f with
  | none =>
      rw [writeFraction, List.nil_append, readFraction]
      rintro cs rfl
      exact no_point rfl
  | some ds =>
      have taken := digits_append (all ds rfl) stops
      obtain ⟨d, ds, rfl⟩ :=
        List.exists_cons_of_ne_nil fun empty => some_digit (congrArg some empty)
      simp only [writeFraction, List.cons_append, readFraction]
      rw [← List.cons_append, taken]

theorem readWhole_append {ds : List Char} (some_digit : ds ≠ [])
    (zero : ds.head? = some '0' → ds = ['0']) (all : ∀ c ∈ ds, c.isDigit = true)
    (stops : Stops rest) : readWhole (ds ++ rest) = some (ds, rest) := by
  rw [readWhole, digits_append all stops]
  split
  · rename_i same
    cases same
    exact absurd rfl some_digit
  · rename_i same
    cases same
    exact absurd (zero rfl) (by simp)
  · rename_i same
    cases same
    rfl

theorem ExponentText.stops (h : ExponentText tail e) (ends : Ends rest) :
    Stops (tail ++ rest) ∧ (tail ++ rest).head? ≠ some '.' := by
  cases h with
  | absent => exact ⟨ends.no_digit, ends.no_point⟩
  | present mark letter signed some_digit all =>
      constructor
      · rintro c ⟨⟩
        rcases letter with rfl | rfl <;> rfl
      · rintro ⟨⟩
        rcases letter with letter | letter <;> exact absurd letter (by decide)

theorem stops_writeFraction (stops : Stops tail) (f : Option (List Char)) :
    Stops (writeFraction f ++ tail) := by
  cases f with
  | none => exact stops
  | some ds =>
      rintro c ⟨⟩
      rfl

/-- The text of a numeral is taken apart into the numeral, if the number ends there. -/
theorem WrittenAs.read (written : n.WrittenAs text) (ends : Ends rest) :
    read (text ++ rest) = some (n, rest) := by
  obtain ⟨negative, whole, fraction, exponent⟩ := n
  cases written with
  | @intro tail formed after =>
      obtain ⟨stops, no_point⟩ := after.stops ends
      have parts : readUnsigned negative (whole ++ (writeFraction fraction ++ (tail ++ rest)))
          = some (⟨negative, whole, fraction, exponent⟩, rest) := by
        rw [readUnsigned, readWhole_append formed.whole_ne_nil formed.whole_zero
          formed.whole_digits (stops_writeFraction stops _), Option.bind_eq_bind, Option.bind_some]
        simp only [readFraction_write formed.fraction_ne_nil formed.fraction_digits stops no_point,
          after.readExponent ends, Option.bind_eq_bind, Option.bind_some, Option.pure_def]
      rw [List.append_assoc, List.append_assoc, List.append_assoc]
      cases negative with
      | true => exact (read_minus _).trans parts
      | false =>
          refine (read_of_ne ?_).trans parts
          obtain ⟨d, ds, rfl⟩ := List.exists_cons_of_ne_nil formed.whole_ne_nil
          rintro ⟨⟩
          exact absurd (formed.whole_digits '-' List.mem_cons_self) (by decide)

/-! ## Nothing else is read -/

variable {cs : List Char}

theorem of_readWhole_eq {ds : List Char} (taken : readWhole cs = some (ds, rest)) :
    cs = ds ++ rest ∧ ds ≠ [] ∧ (ds.head? = some '0' → ds = ['0']) ∧
      ∀ c ∈ ds, c.isDigit = true := by
  unfold readWhole at taken
  split at taken
  · cases taken
  · cases taken
  · rename_i ds' rest' some_digit no_zero row
    cases taken
    obtain ⟨parts, all⟩ := of_digits_eq row
    refine ⟨parts, some_digit, fun zero => ?_, all⟩
    obtain ⟨_, tail, rfl⟩ := List.exists_cons_of_ne_nil (l := ds) (by rintro rfl; cases zero)
    cases zero
    cases tail with
    | nil => rfl
    | cons d tail => exact (no_zero d tail rfl).elim

theorem of_readFraction_eq {f : Option (List Char)} (taken : readFraction cs = some (f, rest)) :
    cs = writeFraction f ++ rest ∧ f ≠ some [] ∧
      ∀ ds, f = some ds → ∀ c ∈ ds, c.isDigit = true := by
  unfold readFraction at taken
  split at taken
  · split at taken
    · cases taken
    · rename_i ds rest' some_digit row
      cases taken
      obtain ⟨rfl, all⟩ := of_digits_eq row
      refine ⟨rfl, ?_, ?_⟩
      · rintro ⟨⟩
        exact some_digit rfl
      · rintro _ ⟨⟩
        exact all
  · cases taken
    exact ⟨rfl, by simp, by simp⟩

theorem exists_exponentText (taken : readExponent cs = some (e, rest)) :
    ∃ tail, ExponentText tail e ∧ cs = tail ++ rest := by
  unfold readExponent at taken
  split at taken
  · cases taken
    exact ⟨[], .absent, rfl⟩
  · rename_i mark after
    split at taken
    · rename_i letter
      obtain ⟨s, signed, parts⟩ :=
        exists_signText (show sign after = ((sign after).1, (sign after).2) from rfl)
      simp only at taken
      split at taken
      · cases taken
      · rename_i ds rest' some_digit row
        cases taken
        obtain ⟨digits, all⟩ := of_digits_eq row
        refine ⟨_, .present mark letter signed ?_ all, ?_⟩
        · rintro rfl
          exact some_digit rfl
        · rw [List.cons_append, List.append_assoc, ← digits, ← parts]
    · cases taken
      exact ⟨[], .absent, rfl⟩

theorem exists_writtenAs_of_readUnsigned {negative : Bool}
    (taken : readUnsigned negative cs = some (n, rest)) :
    ∃ text, n.WrittenAs text ∧ writeSign negative ++ cs = text ++ rest := by
  obtain ⟨⟨whole, cs₁⟩, first, taken⟩ := Option.bind_eq_some_iff.mp taken
  obtain ⟨⟨fraction, cs₂⟩, second, taken⟩ := Option.bind_eq_some_iff.mp taken
  obtain ⟨⟨exponent, cs₃⟩, third, taken⟩ := Option.bind_eq_some_iff.mp taken
  cases taken
  obtain ⟨rfl, whole_ne_nil, whole_zero, whole_digits⟩ := of_readWhole_eq first
  obtain ⟨rfl, fraction_ne_nil, fraction_digits⟩ := of_readFraction_eq second
  obtain ⟨tail, written, rfl⟩ := exists_exponentText third
  refine ⟨_, .intro ⟨whole_ne_nil, whole_zero, whole_digits, fraction_ne_nil, fraction_digits⟩
    written, ?_⟩
  simp only [List.append_assoc]

/-- What the reader takes off a text is the text of the numeral that it finds. -/
theorem exists_writtenAs (taken : read cs = some (n, rest)) :
    ∃ text, n.WrittenAs text ∧ cs = text ++ rest := by
  by_cases minus : cs.head? = some '-'
  · obtain ⟨_, cs, rfl⟩ := List.exists_cons_of_ne_nil (l := cs) (by rintro rfl; cases minus)
    cases minus
    rw [read_minus] at taken
    exact exists_writtenAs_of_readUnsigned taken
  · rw [read_of_ne minus] at taken
    exact exists_writtenAs_of_readUnsigned taken

/-- A text is read to its end just if it is the text of a number. -/
theorem read_eq_iff : read text = some (n, []) ↔ n.WrittenAs text := by
  constructor
  · intro taken
    obtain ⟨text', written, parts⟩ := exists_writtenAs taken
    rw [parts, List.append_nil]
    exact written
  · intro written
    have taken := written.read ends_nil
    rwa [List.append_nil] at taken

end Json.Numeral

end Keypad
