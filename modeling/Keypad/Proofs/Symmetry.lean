/-
# `Keypad.Proofs.Symmetry` — which numbers can be read back from the display

The display is meant to be read by the format that wrote it.  Settings that come from a
text are checked for one thing only, that no more decimals are forced than are allowed, and
this is not enough for reading.

* The sign of infinity is no number to the reader, under any settings.
* The word for what is not a number is read, unless the mark is one of its letters.
* A finite number is read, and shown again as it was, unless the mark is taken for something
  else: for a digit, for the minus, or for a blank before the first digit
  (`FixedPoint.Legible`).  Under settings with such a mark there is always a number that is
  refused or read as another.

The last point needs a number for each kind of mark.  If the mark is a digit, a number with
that digit twice has two points in it; if it is the minus, so has a negative number with a
fraction, and a whole one loses its sign; and if it is a blank, one half loses the mark and is
read as five.
-/
import Keypad.FixedPoint.Toml
import Keypad.Proofs.Redisplay

namespace Keypad

/-! ## A number has one point at most -/

namespace Reading

variable {cs : List Char}

/-- The points are in what follows the digits. -/
theorem count_point_digits (cs : List Char) : (digits cs).2.count '.' = cs.count '.' := by
  obtain ⟨parts, all⟩ := of_digits_eq (show digits cs = ((digits cs).1, (digits cs).2) from rfl)
  have none_before : (digits cs).1.count '.' = 0 :=
    List.count_eq_zero.mpr fun mem => absurd (all '.' mem) (by decide)
  conv_rhs => rw [parts, List.count_append, none_before, Nat.zero_add]

theorem count_point_sign (cs : List Char) : (sign cs).2.count '.' = cs.count '.' := by
  unfold sign
  split <;> simp

theorem count_point_exponent {e : Int} (read : exponent cs = some e) : cs.count '.' = 0 := by
  unfold exponent at read
  split at read
  · rfl
  · rename_i mark after
    split at read
    · rename_i letter
      simp only [Option.ite_none_left_eq_some, not_or, not_not, List.isEmpty_iff] at read
      have no_point : mark ≠ '.' := by
        rintro rfl
        revert letter
        decide
      rw [List.count_cons_of_ne no_point, ← count_point_sign, ← count_point_digits, read.1.2]
      rfl
    · cases read

theorem count_point_decimal {b : Nat} (read : decimal cs = some b) : cs.count '.' ≤ 1 := by
  unfold decimal at read
  simp only [Option.ite_none_left_eq_some, Option.map_eq_some_iff] at read
  obtain ⟨-, e, tail, -⟩ := read
  have none_left := count_point_exponent tail
  rw [← count_point_digits]
  split at none_left
  · rename_i after point
    rw [point, List.count_cons_self, ← count_point_digits, none_left]
  · rw [none_left]
    exact Nat.zero_le 1

theorem count_point_unsigned {b : Option Nat} (read : unsigned cs = some b) :
    cs.count '.' ≤ 1 := by
  have no_word {word : List Char} (no_point : '.' ∉ word) (same : cs.map Char.toLower = word) :
      cs.count '.' ≤ 1 := by
    rw [List.count_eq_zero.mpr fun mem => no_point (same ▸ List.mem_map_of_mem mem)]
    exact Nat.zero_le 1
  unfold unsigned at read
  simp only at read
  split at read
  · rename_i same
    rcases same with same | same <;> exact no_word (by decide) same
  · split at read
    · rename_i same
      exact no_word (by decide) same
    · obtain ⟨b, number, -⟩ := Option.map_eq_some_iff.mp read
      exact count_point_decimal number

theorem count_point_number? {x : Float} (read : number? cs = some x) : cs.count '.' ≤ 1 := by
  obtain ⟨b, number, -⟩ := Option.map_eq_some_iff.mp read
  rw [← count_point_sign]
  exact count_point_unsigned number

end Reading

/-! ## Numbers to try the marks with -/

namespace Double

theorem nearest_whole_lt {n : Nat} (small : n ≤ 2 ^ 53) : nearest n 1 < infinity := by
  have greatest : nearest (2 ^ 53) 1 < infinity := by decide +kernel
  exact (Json.Numeral.nearest_whole_le small).trans_lt greatest

/-- The magnitude of one half. -/
def half : Nat := 1022 * span

theorem half_lt : half < infinity := by decide +kernel

theorem steps_half : 2 * steps half = Nat.pow 2 depth := by decide +kernel

end Double

namespace Fixed

theorem units_of_steps {places b m : Nat}
    (exact_value : Double.steps b * 10 ^ places = m * 2 ^ Double.depth) : units places b = m := by
  rw [units, Nat.pow_eq, Nat.pow_eq, exact_value]
  generalize Double.depth = depth
  exact roundQuotient_mul m (pow_pos two_pos depth)

theorem units_whole {n : Nat} (places : Nat) (small : n ≤ 2 ^ 53) :
    units places (Double.nearest n 1) = n * 10 ^ places := by
  refine units_of_steps ?_
  rw [Double.steps_nearest_whole small]
  ring

theorem units_half (q : Nat) : units (q + 1) Double.half = 5 * 10 ^ q := by
  refine units_of_steps ?_
  have whole : 2 ^ Double.depth = 2 * Double.steps Double.half := by
    rw [Double.steps_half, Nat.pow_eq]
  rw [whole, pow_succ]
  ring

theorem pow_le_units {b : Nat} (places : Nat) (large : 2 ^ Double.depth ≤ Double.steps b) :
    10 ^ places ≤ units places b := by
  have one : (1 : ℚ) ≤ Double.worth b := by
    rw [Double.worth, one_le_div Double.two_pow_depth_pos]
    exact_mod_cast large
  have near := (abs_le.mp (rounds_units places b).near).1
  have unit : (10 : ℚ) ^ places ≤ Double.worth b * 10 ^ places :=
    le_mul_of_one_le_left (by positivity) one
  have below : ((10 ^ places : Nat) : ℚ) < (units places b + 1 : Nat) := by
    push_cast
    linarith
  exact Nat.le_of_lt_succ (by exact_mod_cast below)

end Fixed

namespace FixedPoint

variable {s : FixedPoint}

theorem format_ofMagnitude (s : FixedPoint) (minus : Bool) {b : Nat}
    (finite : b < Double.infinity) :
    s.format (Double.ofMagnitude minus b) = String.ofList
      ((s.shown minus (Fixed.units s.maximumFractionDigits b)).text s.decimalSeparator) := by
  rw [s.format_of_finite (Double.isFinite_ofMagnitude minus finite), display,
    Double.negative_ofMagnitude _ finite, Double.magnitude_ofMagnitude _ finite]

/-- Without decimals a number is a whole one. -/
theorem pow_dvd_units {negative : Bool} {units : Nat}
    (no_decimal : (s.shown negative units).fraction = []) :
    10 ^ s.maximumFractionDigits ∣ units := by
  have worth := s.value_append_shown negative units
    (Reading.value_toDigits (units / 10 ^ s.maximumFractionDigits))
  rw [no_decimal, List.length_nil, Nat.sub_zero] at worth
  exact Dvd.intro_left _ worth

theorem fraction_half_ne_nil {q : Nat} (some_place : s.maximumFractionDigits = q + 1)
    (negative : Bool) : (s.shown negative (5 * 10 ^ q)).fraction ≠ [] := by
  intro no_decimal
  have divides := pow_dvd_units no_decimal
  rw [some_place, pow_succ, Nat.mul_comm] at divides
  have five := Nat.dvd_of_mul_dvd_mul_right (pow_pos (by omega) q) divides
  exact absurd (Nat.le_of_dvd (by omega) five) (by omega)

theorem front_of_pos {n : Nat} (pos : 0 < n) (fraction : List Char) :
    s.front n fraction = (Nat.toDigits 10 n).leftpad s.minimumIntegerDigits '0' :=
  if_neg fun dropped => pos.ne' dropped.2.1

theorem whole_shown_ne_nil {negative : Bool} {units : Nat}
    (large : 10 ^ s.maximumFractionDigits ≤ units) : (s.shown negative units).whole ≠ [] := by
  rw [whole_shown, front_of_pos (Nat.div_pos large (pow_pos (by omega) _))]
  exact Reading.leftpad_ne_nil _ _

/-! ## Marks that are taken for something else -/

/-- What is shown of the number is read, and shown again in the same way. -/
def ReadsBack (s : FixedPoint) (x : Float) : Prop :=
  ∃ w, s.parse (s.format x) = some w ∧ s.format w = s.format x

theorem parse_text_eq_none {d : Shown} (formed : d.WellFormed)
    (black : Text.isBlank s.decimalSeparator = false)
    (twice : 2 ≤ (d.text s.decimalSeparator).count s.decimalSeparator) :
    s.parse (String.ofList (d.text s.decimalSeparator)) = none := by
  rw [parse, String.toList_ofList,
    formed.trim_text fun blank => absurd blank (Bool.eq_false_iff.mp black)]
  cases read : Reading.number? _ with
  | none => rfl
  | some w =>
      have once := Reading.count_point_number? read
      have more := List.count_le_count_map (l := d.text s.decimalSeparator)
        (f := fun c => if c = s.decimalSeparator then '.' else c) (x := s.decimalSeparator)
      rw [if_pos rfl] at more
      omega

/-- A text with the mark in it twice is refused. -/
theorem not_readsBack_of_twice (black : Text.isBlank s.decimalSeparator = false) (minus : Bool)
    {b : Nat} (finite : b < Double.infinity)
    (twice : 2 ≤ ((s.shown minus (Fixed.units s.maximumFractionDigits b)).text
      s.decimalSeparator).count s.decimalSeparator) :
    ¬s.ReadsBack (Double.ofMagnitude minus b) := by
  rintro ⟨w, read, -⟩
  rw [s.format_ofMagnitude minus finite, parse_text_eq_none (s.wellFormed_shown _ _) black twice]
    at read
  cases read

/-! ### Digits -/

/-- There is a number in which a given digit stands twice. -/
theorem exists_digit_twice {c : Char} (digit : c.isDigit = true) :
    ∃ n, 0 < n ∧ n ≤ 2 ^ 53 ∧ 2 ≤ (Nat.toDigits 10 n).count c := by
  have twice : ∀ k < 10, 2 ≤ (Nat.toDigits 10 (100 + 11 * k)).count (Char.ofNat (48 + k)) := by
    decide
  obtain ⟨low, high⟩ := Reading.toNat_of_isDigit digit
  have zero : '0'.toNat = 48 := rfl
  have nine : '9'.toNat = 57 := rfl
  have digits := twice (c.toNat - 48) (by omega)
  rw [Nat.add_sub_cancel' (by omega), Char.ofNat_toNat] at digits
  exact ⟨100 + 11 * (c.toNat - 48), by omega, by omega, digits⟩

theorem exists_not_readsBack_of_digit (digit : s.decimalSeparator.isDigit = true) :
    ∃ x : Float, x.isFinite = true ∧ ¬s.ReadsBack x := by
  obtain ⟨n, pos, small, twice⟩ := exists_digit_twice digit
  have below := Double.nearest_whole_lt small
  refine ⟨_, Double.isFinite_ofMagnitude false below,
    not_readsBack_of_twice (isBlank_of_isDigit digit) false below ?_⟩
  have unit : 0 < 10 ^ s.maximumFractionDigits := pow_pos (by omega) _
  rw [Fixed.units_whole _ small, Shown.text, Shown.unsigned, whole_shown,
    Nat.mul_div_cancel n unit, front_of_pos pos, List.leftpad]
  simp only [List.count_append]
  omega

/-! ### Minus -/

theorem text_of_no_decimal {d : Shown} (no_decimal : d.fraction = []) (mark : Char) :
    d.text mark = (if d.minus then ['-'] else []) ++ d.whole := by
  rw [Shown.text, Shown.unsigned, if_pos no_decimal, List.append_nil]

theorem wellFormed_whole {ds : List Char} (minus : Bool) (all : ∀ c ∈ ds, c.isDigit = true)
    (some_digit : ds ≠ []) : Shown.WellFormed ⟨minus, ds, []⟩ := by
  rw [← List.append_nil ds] at all some_digit
  exact ⟨all, some_digit⟩

theorem trim_digits {ds : List Char} (all : ∀ c ∈ ds, c.isDigit = true) : Text.trim ds = ds :=
  trim_eq_self (fun c first => isBlank_of_isDigit (all c (List.mem_of_mem_head? first)))
    fun c last => isBlank_of_isDigit (all c (List.mem_of_getLast? last))

/-- If the sign is the mark, the digits after it are read as decimals. -/
theorem parse_of_minus (minus : s.decimalSeparator = '-') {ds : List Char}
    (all : ∀ c ∈ ds, c.isDigit = true) (some_digit : ds ≠ []) :
    s.parse (String.ofList ('-' :: ds)) = some (Double.ofMagnitude false
      (Double.nearest (Reading.value ds) (10 ^ ds.length))) := by
  have decimals : Shown.WellFormed ⟨false, [], ds⟩ := ⟨all, some_digit⟩
  have trimmed : Text.trim ('-' :: ds) = '-' :: ds := by
    have text : Shown.text '-' ⟨true, ds, []⟩ = '-' :: ds := text_of_no_decimal rfl '-'
    rw [← text]
    exact (wellFormed_whole true all some_digit).trim_text fun _ => .inr rfl
  have other : ∀ c ∈ ds, c ≠ '-' := by
    rintro _ mem rfl
    exact absurd (all '-' mem) (by decide)
  have text : Shown.text '.' ⟨false, [], ds⟩ = '.' :: ds := by
    rw [Shown.text, Shown.unsigned, if_neg some_digit]
    rfl
  rw [parse, String.toList_ofList, trimmed, minus, List.map_cons, if_pos rfl,
    Shown.map_mark_eq_self other, ← text, decimals.number?_text]
  rfl

theorem isDigit_whole_shown (minus : Bool) (units : Nat) :
    ∀ c ∈ (s.shown minus units).whole, c.isDigit = true :=
  (List.forall_mem_append.mp (s.all_digits_shown minus units)).1

/-- Without decimals only a negative number has a minus in its text. -/
theorem format_ofMagnitude_of_no_place (none_allowed : s.maximumFractionDigits = 0) {b : Nat}
    (finite : b < Double.infinity) (ds : List Char) :
    s.format (Double.ofMagnitude false b) ≠ String.ofList ('-' :: ds) := by
  intro shown
  rw [s.format_ofMagnitude false finite, String.ofList_inj,
    text_of_no_decimal (fraction_shown_of_no_place none_allowed _ _)] at shown
  have digit := isDigit_whole_shown false _ '-' (shown ▸ List.mem_cons_self)
  exact absurd digit (by decide)

/-- Minus one is read as a fraction that is not negative. -/
theorem exists_not_readsBack_of_minus_whole (minus : s.decimalSeparator = '-')
    (none_allowed : s.maximumFractionDigits = 0) :
    ∃ x : Float, x.isFinite = true ∧ ¬s.ReadsBack x := by
  have one : 1 ≤ 2 ^ 53 := by omega
  have below := Double.nearest_whole_lt one
  refine ⟨_, Double.isFinite_ofMagnitude true below, ?_⟩
  rintro ⟨w, read, again⟩
  have worth : Reading.value (s.shown true 1).whole = 1 := by
    rw [whole_shown, value_front, none_allowed]
    rfl
  have some_digit : (s.shown true 1).whole ≠ [] := by
    intro empty
    rw [empty] at worth
    cases worth
  have text : s.format (Double.ofMagnitude true (Double.nearest 1 1))
      = String.ofList ('-' :: (s.shown true 1).whole) := by
    rw [s.format_ofMagnitude true below, Fixed.units_whole _ one, none_allowed,
      text_of_no_decimal (fraction_shown_of_no_place none_allowed _ _)]
    rfl
  have fraction : Double.nearest 1 (10 ^ (s.shown true 1).whole.length) < Double.infinity := by
    refine (Double.nearest_le_nearest (pow_pos (by omega) _) one_pos ?_).trans_lt below
    exact Nat.mul_le_mul_left 1 (Nat.one_le_pow _ _ (by omega))
  rw [text, parse_of_minus minus (isDigit_whole_shown true 1) some_digit, worth] at read
  obtain rfl := Option.some.inj read
  exact format_ofMagnitude_of_no_place none_allowed fraction _ (again.trans text)

/-- The text of minus one half has two marks in it. -/
theorem exists_not_readsBack_of_minus (minus : s.decimalSeparator = '-') :
    ∃ x : Float, x.isFinite = true ∧ ¬s.ReadsBack x := by
  rcases places : s.maximumFractionDigits with _ | q
  · exact exists_not_readsBack_of_minus_whole minus places
  · have black : Text.isBlank s.decimalSeparator = false := by
      rw [minus]
      rfl
    refine ⟨_, Double.isFinite_ofMagnitude true Double.half_lt,
      not_readsBack_of_twice black true Double.half_lt ?_⟩
    have some_decimal := fraction_half_ne_nil places true
    have sign : (s.shown true (5 * 10 ^ q)).minus = true := by
      have unit : 5 * 10 ^ q ≠ 0 := by positivity
      simp [shown, unit]
    rw [places, Fixed.units_half, Shown.text, Shown.unsigned, if_pos sign, if_neg some_decimal,
      minus]
    simp only [List.count_append, List.count_cons_self]
    omega

/-! ### Blanks -/

/-- A blank in front of the digits is trimmed, and they are read as a whole number. -/
theorem parse_of_blank (blank : Text.isBlank s.decimalSeparator = true) {ds : List Char}
    (all : ∀ c ∈ ds, c.isDigit = true) (some_digit : ds ≠ []) :
    s.parse (String.ofList (s.decimalSeparator :: ds)) = some (Double.ofMagnitude false
      (Double.nearest (Reading.value ds) 1)) := by
  have text (mark : Char) : Shown.text mark ⟨false, ds, []⟩ = ds := text_of_no_decimal rfl mark
  have trimmed : Text.trim (s.decimalSeparator :: ds) = ds := by
    have again := trim_digits all
    rwa [Text.trim, List.dropWhile_cons_of_pos blank]
  have other : ∀ c ∈ ds, c ≠ s.decimalSeparator := by
    rintro _ mem rfl
    rw [isBlank_of_isDigit (all _ mem)] at blank
    cases blank
  have read := (wellFormed_whole false all some_digit).number?_text
  rw [text] at read
  rw [parse, String.toList_ofList, trimmed, Shown.map_mark_eq_self other, read]
  simp [Shown.digits]

theorem format_of_infinite (s : FixedPoint) {x : Float} (infinite : x.isFinite = false)
    (number : x.isNaN = false) :
    s.format x = if Double.negative x then "-∞" else "∞" := by
  rw [format, if_neg (Bool.eq_false_iff.mp number),
    if_pos (Double.magnitude_eq_infinity infinite number)]

/-- What is shown of a number that is one at least does not begin with a blank. -/
theorem format_ofMagnitude_ne (blank : Text.isBlank s.decimalSeparator = true) {b : Nat}
    (bounded : b ≤ Double.infinity) (large : 2 ^ Double.depth ≤ Double.steps b)
    (ds : List Char) :
    s.format (Double.ofMagnitude false b) ≠ String.ofList (s.decimalSeparator :: ds) := by
  intro shown
  rcases bounded.lt_or_eq with below | rfl
  · rw [s.format_ofMagnitude false below, String.ofList_inj] at shown
    have first : s.decimalSeparator ∈ ((s.shown false (Fixed.units s.maximumFractionDigits b)).text
        s.decimalSeparator).head? := by
      rw [shown]
      rfl
    rcases (s.wellFormed_shown _ _).head?_text first with minus | digit | ⟨-, no_digit, -⟩
    · rw [minus] at blank
      cases blank
    · rw [isBlank_of_isDigit digit] at blank
      cases blank
    · exact whole_shown_ne_nil (Fixed.pow_le_units _ large) no_digit
  · -- so many zeros were asked for that the digits are read as infinity
    have infinite : (Double.ofMagnitude false Double.infinity).isFinite = false := by
      decide +kernel
    have number : (Double.ofMagnitude false Double.infinity).isNaN = false := by decide +kernel
    have first := congrArg String.toList shown
    rw [s.format_of_infinite infinite number, String.toList_ofList] at first
    have own : s.decimalSeparator = '-' ∨ s.decimalSeparator = '∞' := by
      split at first
      · exact .inl (List.cons.inj (show ['-', '∞'] = _ from first)).1.symm
      · exact .inr (List.cons.inj (show ['∞'] = _ from first)).1.symm
    rcases own with own | own
    all_goals
      rw [own] at blank
      revert blank
      decide

/-- The blank before one half is trimmed, and five is read, or five with zeros. -/
theorem exists_not_readsBack_of_blank (blank : Text.isBlank s.decimalSeparator = true)
    (none_asked : s.minimumIntegerDigits = 0) (some_allowed : s.maximumFractionDigits ≠ 0) :
    ∃ x : Float, x.isFinite = true ∧ ¬s.ReadsBack x := by
  obtain ⟨q, places⟩ : ∃ q, s.maximumFractionDigits = q + 1 :=
    Nat.exists_eq_succ_of_ne_zero some_allowed
  have unit : 0 < 10 ^ q := pow_pos (by omega) q
  have less_than_one : 5 * 10 ^ q / 10 ^ s.maximumFractionDigits = 0 := by
    rw [Nat.div_eq_zero_iff, places, pow_succ]
    omega
  have some_decimal := fraction_half_ne_nil places false
  have digits := (List.forall_mem_append.mp (s.all_digits_shown false (5 * 10 ^ q))).2
  have some_size : 1 ≤ Reading.value (s.shown false (5 * 10 ^ q)).fraction := by
    have nothing : Reading.value [] = 5 * 10 ^ q / 10 ^ s.maximumFractionDigits :=
      less_than_one.symm
    have worth := s.value_append_shown false (5 * 10 ^ q) nothing
    by_contra zero
    rw [List.nil_append, Nat.lt_one_iff.mp (Nat.not_le.mp zero), Nat.zero_mul] at worth
    omega
  have text : s.format (Double.ofMagnitude false Double.half)
      = String.ofList (s.decimalSeparator :: (s.shown false (5 * 10 ^ q)).fraction) := by
    have no_digit : (s.shown false (5 * 10 ^ q)).whole = [] := by
      rw [whole_shown, less_than_one, front, if_pos ⟨none_asked, rfl, some_decimal⟩]
    rw [s.format_ofMagnitude false Double.half_lt, places, Fixed.units_half, Shown.text,
      Shown.unsigned, no_digit, if_neg some_decimal]
    rfl
  refine ⟨_, Double.isFinite_ofMagnitude false Double.half_lt, ?_⟩
  rintro ⟨w, read, again⟩
  rw [text, parse_of_blank blank digits some_decimal] at read
  rw [text] at again
  obtain rfl := Option.some.inj read
  refine format_ofMagnitude_ne blank (Nat.min_le_left _ _) ?_ _ again
  have one := Double.steps_nearest_whole (m := 1) (by omega)
  rw [Nat.one_mul] at one
  rw [← one]
  exact Double.strictMono_steps.monotone (Json.Numeral.nearest_whole_le some_size)

/-! ## What is not a number, and what is not finite -/

theorem parse_of_infinite (s : FixedPoint) {x : Float} (infinite : x.isFinite = false)
    (number : x.isNaN = false) : s.parse (s.format x) = none := by
  have plus : Text.trim ['∞'] = ['∞'] := rfl
  have minus : Text.trim ['-', '∞'] = ['-', '∞'] := rfl
  rw [s.format_of_infinite infinite number]
  split
  · show Reading.number? ((Text.trim ['-', '∞']).map _) = none
    rw [minus, List.map_cons, List.map_cons, List.map_nil]
    split_ifs <;> decide
  · show Reading.number? ((Text.trim ['∞']).map _) = none
    rw [plus, List.map_cons, List.map_nil]
    split_ifs <;> decide

theorem format_of_isNaN (s : FixedPoint) {x : Float} (nan : x.isNaN = true) :
    s.format x = "NaN" := by
  rw [format, if_pos nan]

theorem parse_NaN (s : FixedPoint) :
    s.parse "NaN" = if s.decimalSeparator = 'N' ∨ s.decimalSeparator = 'a' then none
      else some Double.nan := by
  have word : Text.trim ['N', 'a', 'N'] = ['N', 'a', 'N'] := rfl
  show Reading.number? ((Text.trim ['N', 'a', 'N']).map _) = _
  rw [word, List.map_cons, List.map_cons, List.map_cons, List.map_nil]
  by_cases upper : s.decimalSeparator = 'N'
  · rw [upper]
    decide
  · by_cases lower : s.decimalSeparator = 'a'
    · rw [lower]
      decide
    · rw [if_neg (Ne.symm upper), if_neg (Ne.symm lower), if_neg (not_or.mpr ⟨upper, lower⟩)]
      rfl

theorem readsBack_iff_of_isNaN (s : FixedPoint) {x : Float} (nan : x.isNaN = true) :
    s.ReadsBack x ↔ s.decimalSeparator ≠ 'N' ∧ s.decimalSeparator ≠ 'a' := by
  have own : Double.nan.isNaN = true := by decide +kernel
  rw [ReadsBack, s.format_of_isNaN nan, s.parse_NaN, ← not_or]
  split
  · rename_i letter
    exact iff_of_false (fun ⟨_, read, _⟩ => by cases read) (not_not.mpr letter)
  · rename_i other
    exact iff_of_true ⟨_, rfl, s.format_of_isNaN own⟩ other

/-! ## The settings that can be given -/

/-- Each kind of mark has a number that does not come back. -/
theorem exists_not_readsBack (illegible : ¬s.Legible) :
    ∃ x : Float, x.isFinite = true ∧ ¬s.ReadsBack x := by
  by_cases digit : s.decimalSeparator.isDigit = true
  · exact exists_not_readsBack_of_digit digit
  by_cases minus : s.decimalSeparator = '-'
  · exact exists_not_readsBack_of_minus minus
  by_cases blank : Text.isBlank s.decimalSeparator = true
  · by_cases none_asked : s.minimumIntegerDigits = 0
    · by_cases none_allowed : s.maximumFractionDigits = 0
      · exact absurd ⟨Bool.eq_false_iff.mpr digit, minus, fun _ => .inr none_allowed⟩ illegible
      · exact exists_not_readsBack_of_blank blank none_asked none_allowed
    · refine absurd ⟨Bool.eq_false_iff.mpr digit, minus, fun _ => .inl ?_⟩ illegible
      exact Nat.pos_of_ne_zero none_asked
  · exact absurd ⟨Bool.eq_false_iff.mpr digit, minus, fun own => absurd own blank⟩ illegible

/-- A text gives settings just if it can be read and they pass the one check. -/
theorem ofToml_eq_ok_iff {text : String} :
    ofToml text = .ok s ↔ (Toml.read text).bind ofEntries? = some s ∧
      s.minimumFractionDigits ≤ s.maximumFractionDigits := by
  rw [ofToml]
  cases read : (Toml.read text).bind ofEntries? with
  | none => simp
  | some s' =>
      simp only [Option.some.injEq]
      split
      · rename_i more
        refine iff_of_false (by simp) ?_
        rintro ⟨rfl, fewer⟩
        exact absurd more (Nat.not_lt.mpr fewer)
      · rename_i fewer
        rw [Except.ok.injEq]
        refine ⟨?_, And.left⟩
        rintro rfl
        exact ⟨rfl, Nat.not_lt.mp fewer⟩

/-- Settings that are accepted from a text do not force more decimals than they allow, and
that is all that is asked of them.  Under any of them infinity is shown and not read; what is
not a number is read, unless the mark is a letter of its word; and finite numbers are all
read, as nearest to what was shown, and shown again as they were, if the mark is not taken
for something else.  If it is, one of them is not. -/
theorem symmetry_of_ofToml {text : String} (accepted : ofToml text = .ok s) :
    s.minimumFractionDigits ≤ s.maximumFractionDigits ∧
    (∀ x : Float, x.isFinite = false → x.isNaN = false → s.parse (s.format x) = none) ∧
    (∀ x : Float, x.isNaN = true →
      (s.ReadsBack x ↔ s.decimalSeparator ≠ 'N' ∧ s.decimalSeparator ≠ 'a')) ∧
    (s.Legible → ∀ x : Float, x.isFinite = true →
      ∃ w, s.parse (s.format x) = some w ∧ w.isFinite = true ∧
        Double.IsNearestTo w (s.display x).value ∧ s.format w = s.format x) ∧
    (¬s.Legible → ∃ x : Float, x.isFinite = true ∧ ¬s.ReadsBack x) :=
  ⟨(ofToml_eq_ok_iff.mp accepted).2, fun _ => s.parse_of_infinite,
    fun _ => s.readsBack_iff_of_isNaN, fun legible _ => legible.exists_parse_format,
    exists_not_readsBack⟩

/-- A comma for a mark, and a zero. -/
theorem symmetry_of_ofToml_comma :
    ∃ comma zero : FixedPoint,
      ofToml "decimal_separator = ','" = .ok comma ∧ comma.Legible ∧
      comma.format 12.5 = "12,5" ∧ comma.ReadsBack 12.5 ∧ comma.ReadsBack Double.nan ∧
      comma.parse (comma.format (Double.ofMagnitude true Double.infinity)) = none ∧
      ofToml "decimal_separator = '0'" = .ok zero ∧ ¬zero.Legible ∧
      ∃ x : Float, x.isFinite = true ∧ ¬zero.ReadsBack x := by
  have comma : ofToml "decimal_separator = ','" = .ok ⟨6, 0, 1, ','⟩ :=
    ofToml_eq_ok_iff.mpr ⟨by decide +kernel, by decide⟩
  have zero : ofToml "decimal_separator = '0'" = .ok ⟨6, 0, 1, '0'⟩ :=
    ofToml_eq_ok_iff.mpr ⟨by decide +kernel, by decide⟩
  have legible : (FixedPoint.mk 6 0 1 ',').Legible := ⟨by decide, by decide, by decide⟩
  have illegible : ¬(FixedPoint.mk 6 0 1 '0').Legible := fun legible =>
    absurd legible.no_digit (by decide)
  obtain ⟨-, infinite, nan, finite, -⟩ := symmetry_of_ofToml comma
  obtain ⟨w, read, -, -, again⟩ := finite legible 12.5 (by decide +kernel)
  exact ⟨_, _, comma, legible, by decide +kernel, ⟨w, read, again⟩,
    (nan _ (by decide +kernel)).mpr (by decide), infinite _ (by decide +kernel) (by decide +kernel),
    zero, illegible, (symmetry_of_ofToml zero).2.2.2.2 illegible⟩

/-- Infinity is shown by the standard settings, and not read; and if the mark is a zero, ten
is shown as it should be, and read as one. -/
theorem not_readsBack_of_standard :
    ofToml "" = .ok standard ∧
      standard.format (Double.ofMagnitude false Double.infinity) = "∞" ∧
      standard.parse "∞" = none ∧
      ¬standard.ReadsBack (Double.ofMagnitude false Double.infinity) ∧
      ofToml "decimal_separator = '0'" = .ok ⟨6, 0, 1, '0'⟩ ∧
      (FixedPoint.mk 6 0 1 '0').format 10 = "10" ∧
      (FixedPoint.mk 6 0 1 '0').parse "10" = some 1 ∧
      ¬(FixedPoint.mk 6 0 1 '0').ReadsBack 10 := by
  have infinite : standard.format (Double.ofMagnitude false Double.infinity) = "∞" := by
    decide +kernel
  have ten : (FixedPoint.mk 6 0 1 '0').format 10 = "10" := by decide +kernel
  have refused : standard.parse "∞" = none := by decide +kernel
  have one : (FixedPoint.mk 6 0 1 '0').parse "10" = some 1 := by decide +kernel
  have other : (FixedPoint.mk 6 0 1 '0').format 1 ≠ "10" := by decide +kernel
  refine ⟨ofToml_eq_ok_iff.mpr ⟨by decide +kernel, by decide⟩, infinite, refused, ?_,
    ofToml_eq_ok_iff.mpr ⟨by decide +kernel, by decide⟩, ten, one, ?_⟩
  · rintro ⟨w, read, -⟩
    rw [infinite, refused] at read
    cases read
  · rintro ⟨w, read, again⟩
    rw [ten, one] at read
    obtain rfl := Option.some.inj read
    rw [ten] at again
    exact other again

end FixedPoint

end Keypad
