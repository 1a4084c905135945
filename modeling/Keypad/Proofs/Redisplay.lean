/-
# `Keypad.Proofs.Redisplay` — reading a number back from the display

A number that is shown has lost its last digits, so reading it back gives another
double.  Shown again, that double gives the same text.

Three things have to be seen.

* The text reads as the number it shows, if the mark is not taken for anything else
  (`PlainMark`).
* The double that is read is finite, although a decimal above the greatest double may be
  shown.  It is above by half a unit at most, and the doubles there are far more than a
  unit apart (`rounded_lt_infinity`).
* It is not rounded to other decimals than the double shown before.  Being nearest to the
  decimal shown, it is at least as near as that double; and what is as near to a decimal
  as a number that is rounded to it is rounded to it too (`Rounds.of_nearer`).

So however often a number is read back and shown, the display does not change
(`FixedPoint.redisplay_format`).
-/
import Keypad.Proofs.Display

namespace Keypad

/-! ## The text reads as the number shown -/

/-- A mark that is not taken for anything else. -/
structure PlainMark (mark : Char) : Prop where
  no_digit : mark.isDigit = false
  no_minus : mark ≠ '-'
  no_blank : Text.isBlank mark = false

theorem toLower_of_isDigit {c : Char} (digit : c.isDigit = true) : c.toLower = c := by
  have bound : c.val.toNat ≤ '9'.toNat := (Reading.toNat_of_isDigit digit).2
  have above : '9'.toNat < 'A'.val.toNat := by decide
  refine dif_neg fun upper => ?_
  have upper : 'A'.val.toNat ≤ c.val.toNat := UInt32.le_iff_toNat_le.mp upper.1
  omega

theorem isBlank_of_isDigit {c : Char} (digit : c.isDigit = true) : Text.isBlank c = false := by
  have bounds := Reading.toNat_of_isDigit digit
  have zero : '0'.toNat = 48 := rfl
  have nine : '9'.toNat = 57 := rfl
  simp only [Text.isBlank, Bool.or_eq_false_iff, Bool.and_eq_false_iff, decide_eq_false_iff_not,
    beq_eq_false_iff_ne]
  omega

/-- There is nothing to trim where no blank stands at either end. -/
theorem trim_eq_self {cs : List Char} (first : ∀ c ∈ cs.head?, Text.isBlank c = false)
    (last : ∀ c ∈ cs.getLast?, Text.isBlank c = false) : Text.trim cs = cs := by
  have none_dropped {cs : List Char} (first : ∀ c ∈ cs.head?, Text.isBlank c = false) :
      cs.dropWhile Text.isBlank = cs := by
    cases cs with
    | nil => rfl
    | cons c cs => simp [first c rfl]
  rw [Text.trim, none_dropped first, none_dropped (List.head?_reverse ▸ last),
    List.reverse_reverse]

namespace Shown

variable {d : Shown} {mark : Char}

theorem WellFormed.mem_unsigned (formed : d.WellFormed) {c : Char} (mem : c ∈ d.unsigned mark) :
    c.isDigit = true ∨ c = mark := by
  obtain ⟨whole, fraction⟩ := List.forall_mem_append.mp formed.all_digits
  rcases List.mem_append.mp mem with front | back
  · exact .inl (whole c front)
  · split at back
    · exact absurd back List.not_mem_nil
    · exact (List.mem_cons.mp back).symm.imp_left (fraction c)

/-- The text begins with a minus, a digit or, if there are no digits before it, the mark. -/
theorem WellFormed.head?_text (formed : d.WellFormed) {c : Char}
    (first : c ∈ (d.text mark).head?) :
    c = '-' ∨ c.isDigit = true ∨ c = mark ∧ d.whole = [] ∧ d.fraction ≠ [] := by
  obtain ⟨minus, whole, fraction⟩ := d
  cases minus with
  | true =>
      cases first
      exact .inl rfl
  | false =>
      cases whole with
      | cons digit whole =>
          cases first
          exact .inr (.inl (formed.all_digits c List.mem_cons_self))
      | nil =>
          have some_decimal : fraction ≠ [] := formed.some_digit
          rw [text, unsigned, if_neg some_decimal] at first
          cases first
          exact .inr (.inr ⟨rfl, rfl, some_decimal⟩)

/-- The text ends with a digit. -/
theorem WellFormed.getLast?_text (formed : d.WellFormed) {c : Char}
    (last : c ∈ (d.text mark).getLast?) : c.isDigit = true := by
  obtain ⟨whole, fraction⟩ := List.forall_mem_append.mp formed.all_digits
  rw [text, List.getLast?_append_of_ne_nil _ (formed.unsigned_ne_nil mark), unsigned] at last
  by_cases no_decimal : d.fraction = []
  · rw [if_pos no_decimal, List.append_nil] at last
    exact whole c (List.mem_of_getLast? last)
  · rw [if_neg no_decimal, List.getLast?_append_of_ne_nil _ (List.cons_ne_nil _ _),
      List.getLast?_cons_of_ne_nil no_decimal] at last
    exact fraction c (List.mem_of_getLast? last)

/-- A mark that is a blank is trimmed only where no digit stands before it. -/
theorem WellFormed.trim_text (formed : d.WellFormed)
    (inside : Text.isBlank mark = true → d.whole ≠ [] ∨ d.fraction = []) :
    Text.trim (d.text mark) = d.text mark := by
  refine trim_eq_self (fun c first => ?_) fun c last => ?_
  · rcases formed.head?_text first with rfl | digit | ⟨rfl, no_digit, some_decimal⟩
    · rfl
    · exact isBlank_of_isDigit digit
    · by_contra blank
      rcases inside (Bool.eq_true_of_not_eq_false blank) with digit | none
      · exact digit no_digit
      · exact some_decimal none
  · exact isBlank_of_isDigit (formed.getLast?_text last)

/-- Nothing is replaced where the mark does not stand. -/
theorem map_mark_eq_self {cs : List Char} (other : ∀ c ∈ cs, c ≠ mark) :
    cs.map (fun c => if c = mark then '.' else c) = cs :=
  (List.map_congr_left fun c mem => if_neg (other c mem)).trans (List.map_id cs)

/-- Only the mark is replaced by the point. -/
theorem WellFormed.map_text (formed : d.WellFormed) (no_digit : mark.isDigit = false)
    (no_minus : mark ≠ '-') :
    (d.text mark).map (fun c => if c = mark then '.' else c) = d.text '.' := by
  obtain ⟨whole, fraction⟩ := List.forall_mem_append.mp formed.all_digits
  have other {c : Char} (digit : c.isDigit = true) : c ≠ mark := by
    rintro rfl
    exact absurd digit (Bool.eq_false_iff.mp no_digit)
  rw [text, text, unsigned, unsigned, List.map_append, List.map_append,
    map_mark_eq_self fun c mem => other (whole c mem)]
  congr 1
  · split
    · rw [map_mark_eq_self fun c mem => List.mem_singleton.mp mem ▸ no_minus.symm]
    · rfl
  · split
    · rfl
    · rw [List.map_cons, if_pos rfl, map_mark_eq_self fun c mem => other (fraction c mem)]

theorem WellFormed.sign_text (formed : d.WellFormed) :
    Reading.sign (d.text '.') = (d.minus, d.unsigned '.') := by
  rw [text]
  cases d.minus with
  | true => rfl
  | false =>
      obtain ⟨c, cs, first⟩ := List.exists_cons_of_ne_nil (formed.unsigned_ne_nil '.')
      have number := formed.mem_unsigned (first ▸ List.mem_cons_self : c ∈ d.unsigned '.')
      have no_sign : c ≠ '-' ∧ c ≠ '+' := by
        constructor
        all_goals
          rintro rfl
          exact absurd number (by decide)
      show Reading.sign (d.unsigned '.') = _
      rw [first, Reading.sign]
      · exact fun _ minus => absurd (List.cons.inj minus).1 no_sign.1
      · exact fun _ plus => absurd (List.cons.inj plus).1 no_sign.2

/-- There is an n in each of the words that are numbers. -/
theorem WellFormed.unsigned_unsigned (formed : d.WellFormed) :
    Reading.unsigned (d.unsigned '.') = (Reading.decimal (d.unsigned '.')).map some := by
  have no_word : 'n' ∉ (d.unsigned '.').map Char.toLower := by
    rw [List.mem_map]
    rintro ⟨c, mem, lower⟩
    rcases formed.mem_unsigned mem with digit | rfl
    · rw [toLower_of_isDigit digit] at lower
      exact absurd (lower ▸ digit) (by decide)
    · exact absurd lower (by decide)
  have other {word : List Char} (letter : 'n' ∈ word) : (d.unsigned '.').map Char.toLower ≠ word :=
    fun same => no_word (same ▸ letter)
  rw [Reading.unsigned, if_neg (by simp [other]), if_neg (other (by simp))]

theorem WellFormed.decimal_unsigned (formed : d.WellFormed) :
    Reading.decimal (d.unsigned '.') = some
      (Double.nearestDecimal (Reading.value d.digits) d.digits.length (0 - d.fraction.length)) := by
  obtain ⟨whole, fraction⟩ := List.forall_mem_append.mp formed.all_digits
  have some_digit : ¬(d.whole ++ d.fraction).isEmpty = true := by
    rw [List.isEmpty_iff]
    exact formed.some_digit
  have ending : Reading.Stops [] := by simp [Reading.Stops]
  rw [unsigned]
  split
  case isTrue no_fraction =>
    have front := Reading.digits_append whole ending
    rw [no_fraction] at some_digit
    simp only [Reading.decimal, front, if_neg some_digit, digits, no_fraction]
    rfl
  case isFalse =>
    have mark_stops : Reading.Stops ('.' :: d.fraction) := by simp [Reading.Stops]
    have front := Reading.digits_append whole mark_stops
    have back := Reading.digits_append fraction ending
    rw [List.append_nil] at back
    simp only [Reading.decimal, front, back, if_neg some_digit, digits]
    rfl

end Shown

/-! ## The double that is read -/

namespace Double

theorem nearest_zero {den : Nat} (pos : 0 < den) : nearest 0 den = 0 := by
  rw [nearest_of_steps (b := 0) pos (by rw [steps_zero, Nat.zero_mul, Nat.zero_mul]),
    Nat.min_zero]

/-- A decimal that is written out with its decimals is neither too large nor too small to
be looked at. -/
theorem nearestDecimal_eq (c : Nat) {count k : Nat} (enough : k ≤ count) :
    nearestDecimal c count (0 - k) = nearest c (10 ^ k) := by
  have unit : 0 < 10 ^ k := pow_pos (by omega) k
  unfold nearestDecimal
  by_cases zero : c = 0
  · rw [if_pos zero, zero, nearest_zero unit]
  · rw [if_neg zero, if_neg (by omega), if_neg (by omega)]
    cases k with
    | zero =>
        show nearest (c * 1) 1 = nearest c 1
        rw [Nat.mul_one]
    | succ e =>
        have power : (0 : Int) - (e + 1 : Nat) = Int.negSucc e := by omega
        rw [power]
        rfl

end Double

/-- What is read is the double nearest to what is shown, with the sign that is shown. -/
theorem Shown.WellFormed.number?_text {d : Shown} (formed : d.WellFormed) :
    Reading.number? (d.text '.') = some (Double.ofMagnitude d.minus
      (Double.nearest (Reading.value d.digits) (10 ^ d.fraction.length))) := by
  have enough : d.fraction.length ≤ d.digits.length := by
    rw [Shown.digits, List.length_append]
    omega
  rw [Reading.number?, formed.sign_text]
  simp only [formed.unsigned_unsigned, formed.decimal_unsigned, Double.nearestDecimal_eq _ enough]
  rfl

/-! ## The marks that can be read -/

/-- Settings by which a number that is shown can be read.  A mark that is a blank is no
hindrance as long as it stands between digits. -/
structure FixedPoint.Legible (s : FixedPoint) : Prop where
  no_digit : s.decimalSeparator.isDigit = false
  no_minus : s.decimalSeparator ≠ '-'
  inside : Text.isBlank s.decimalSeparator = true →
    0 < s.minimumIntegerDigits ∨ s.maximumFractionDigits = 0

theorem PlainMark.legible {s : FixedPoint} (ok : PlainMark s.decimalSeparator) : s.Legible where
  no_digit := ok.no_digit
  no_minus := ok.no_minus
  inside blank := absurd blank (Bool.eq_false_iff.mp ok.no_blank)

namespace FixedPoint

variable {s : FixedPoint}

theorem front_ne_nil_of_pos (asked : 0 < s.minimumIntegerDigits) (n : Nat) (fraction : List Char) :
    s.front n fraction ≠ [] := by
  rw [front, if_neg fun dropped => asked.ne' dropped.1]
  exact Reading.leftpad_ne_nil _ n

theorem fraction_shown_of_no_place (none_allowed : s.maximumFractionDigits = 0) (negative : Bool)
    (units : Nat) : (s.shown negative units).fraction = [] := by
  have fewer := s.length_fraction_shown_le negative units
  exact List.eq_nil_of_length_eq_zero (by omega)

theorem Legible.inside_shown (legible : s.Legible) (negative : Bool) (units : Nat)
    (blank : Text.isBlank s.decimalSeparator = true) :
    (s.shown negative units).whole ≠ [] ∨ (s.shown negative units).fraction = [] := by
  rcases legible.inside blank with asked | none_allowed
  · rw [whole_shown]
    exact .inl (front_ne_nil_of_pos asked _ _)
  · exact .inr (fraction_shown_of_no_place none_allowed negative units)

/-- A number on display can be read. -/
theorem Legible.parse_text (legible : s.Legible) {d : Shown} (formed : d.WellFormed)
    (inside : Text.isBlank s.decimalSeparator = true → d.whole ≠ [] ∨ d.fraction = []) :
    s.parse (String.ofList (d.text s.decimalSeparator)) = some (Double.ofMagnitude d.minus
      (Double.nearest (Reading.value d.digits) (10 ^ d.fraction.length))) := by
  rw [parse, String.toList_ofList, formed.trim_text inside,
    formed.map_text legible.no_digit legible.no_minus, formed.number?_text]

end FixedPoint

/-! ## It is finite -/

namespace Double

theorem worth_infinity_sub_one : worth (infinity - 1) + 1 < worth infinity := by
  have apart : steps (infinity - 1) + 2 ^ depth < steps infinity := by decide +kernel
  have one : (1 : ℚ) = 2 ^ depth / 2 ^ depth := (div_self two_pow_depth_pos.ne').symm
  rw [worth, worth, one, ← add_div]
  exact div_lt_div_of_pos_right (by exact_mod_cast apart) two_pow_depth_pos

/-- What lies above a double by half a unit at most is not nearest to infinity. -/
theorem rounded_lt_infinity {num den a : Nat} (pos : 0 < den) {q : ℚ}
    (same : q = num / (den * 2 ^ depth)) (finite : a < infinity) (near : q ≤ worth a + 1 / 2) :
    rounded num den < infinity := by
  by_contra large
  rw [Nat.not_lt] at large
  obtain ⟨low, -⟩ := (isNearest_rounded num pos).halfway pos same
  have greatest : worth a ≤ worth (infinity - 1) :=
    strictMono_worth.monotone (Nat.le_sub_one_of_lt finite)
  have below : worth (infinity - 1) ≤ worth (rounded num den - 1) :=
    strictMono_worth.monotone (Nat.sub_le_sub_right large 1)
  have above : worth infinity ≤ worth (rounded num den) := strictMono_worth.monotone large
  linarith [worth_infinity_sub_one]

end Double

/-! ## It is rounded as before -/

namespace Fixed

variable (places a : Nat)

theorem units_div_le : (units places a : ℚ) / 10 ^ places ≤ Double.worth a + 1 / 2 := by
  have unit : (1 : ℚ) ≤ 10 ^ places := one_le_pow₀ (by norm_num)
  have near := (abs_le.mp (rounds_units places a).near).2
  rw [div_le_iff₀ (by positivity), add_mul]
  linarith

/-- What is at least as near to the rounded number is rounded to the same. -/
theorem units_eq_of_nearer {b : Nat}
    (nearer : |Double.worth b - units places a / 10 ^ places| ≤
      |Double.worth a - units places a / 10 ^ places|) :
    units places b = units places a := by
  have unit : (0 : ℚ) < 10 ^ places := by positivity
  have scaled (q : ℚ) : |units places a - q * 10 ^ places| =
      |q - units places a / 10 ^ places| * 10 ^ places :=
    calc |units places a - q * 10 ^ places|
        = |(q - units places a / 10 ^ places) * 10 ^ places| := by
          rw [sub_mul, div_mul_cancel₀ _ unit.ne', abs_sub_comm]
      _ = |q - units places a / 10 ^ places| * 10 ^ places := by rw [abs_mul, abs_of_pos unit]
  refine (rounds_units places b).unique ((rounds_units places a).of_nearer ?_)
  rw [scaled, scaled]
  exact mul_le_mul_of_nonneg_right nearer unit.le

end Fixed

/-- What is shown, counted in least steps. -/
theorem Shown.size_eq (d : Shown) :
    d.size = (Reading.value d.digits * 2 ^ Double.depth : Nat) /
      ((10 ^ d.fraction.length : Nat) * 2 ^ Double.depth) := by
  rw [size, Nat.cast_mul, Nat.cast_pow, Nat.cast_pow]
  exact (mul_div_mul_right _ _ Double.two_pow_depth_pos.ne').symm

namespace FixedPoint

variable (s : FixedPoint)

/-- The sign of what is shown takes the place of the number's own. -/
theorem shown_minus (negative : Bool) (units : Nat) :
    s.shown (s.shown negative units).minus units = s.shown negative units := by
  simp [shown]

/-- A double that is at least as near to what is shown is shown in the same way. -/
theorem display_of_nearer {x : Float} {b : Nat} (bounded : b < Double.infinity)
    (nearer : |Double.worth b - (s.display x).size| ≤
      |Double.worth (Double.magnitude x) - (s.display x).size|) :
    s.display (Double.ofMagnitude (s.display x).minus b) = s.display x := by
  rw [size_display] at nearer
  rw [display, Double.negative_ofMagnitude _ bounded, Double.magnitude_ofMagnitude _ bounded,
    Fixed.units_eq_of_nearer _ _ nearer, display, shown_minus]

variable {s} in
/-- Reading a number from the display gives the double nearest to what is shown, and that
is shown in the same way. -/
theorem Legible.exists_parse_format (legible : s.Legible) {x : Float}
    (finite : x.isFinite = true) :
    ∃ w, s.parse (s.format x) = some w ∧ w.isFinite = true ∧
      Double.IsNearestTo w (s.display x).value ∧ s.format w = s.format x := by
  have formed := s.wellFormed_display x
  have pos : 0 < 10 ^ (s.display x).fraction.length := pow_pos (by omega) _
  have same := (s.display x).size_eq
  have near : (s.display x).size ≤ Double.worth (Double.magnitude x) + 1 / 2 := by
    rw [size_display]
    exact Fixed.units_div_le _ _
  have nearest := Double.isNearest_rounded
    (Reading.value (s.display x).digits * 2 ^ Double.depth) pos
  have bounded := Double.rounded_lt_infinity pos same ((Double.isFinite_iff x).mp finite) near
  refine ⟨_, ?_, Double.isFinite_ofMagnitude (s.display x).minus bounded,
    nearest.isNearestTo pos same _ bounded, ?_⟩
  · rw [s.format_of_finite finite, legible.parse_text formed (legible.inside_shown _ _),
      Double.nearest_eq_rounded, Nat.min_eq_right bounded.le]
  · rw [s.format_of_finite (Double.isFinite_ofMagnitude _ bounded), s.format_of_finite finite,
      s.display_of_nearer bounded (nearest.abs_sub_le pos same _).1]

theorem exists_parse_format (ok : PlainMark s.decimalSeparator) {x : Float}
    (finite : x.isFinite = true) :
    ∃ w, s.parse (s.format x) = some w ∧ w.isFinite = true ∧
      Double.IsNearestTo w (s.display x).value ∧ s.format w = s.format x :=
  ok.legible.exists_parse_format finite

/-- The text after it was read and shown `n` times. -/
def redisplay : Nat → String → Option String
  | 0, text => some text
  | n + 1, text => (s.parse text).bind fun w => redisplay n (s.format w)

/-- However often a number is read from the display and shown again, the display stays. -/
theorem redisplay_format (s : FixedPoint) (ok : PlainMark s.decimalSeparator) {x : Float}
    (finite : x.isFinite = true) :
    ∃ (d : Shown) (w : Float),
      s.format x = String.ofList (d.text s.decimalSeparator) ∧ d.WellFormed ∧
      s.parse (s.format x) = some w ∧ w.isFinite = true ∧ Double.IsNearestTo w d.value ∧
      s.format w = s.format x ∧ ∀ n, s.redisplay n (s.format x) = some (s.format x) := by
  obtain ⟨w, read, bounded, nearest, again⟩ := s.exists_parse_format ok finite
  refine ⟨s.display x, w, s.format_of_finite finite, s.wellFormed_display x, read, bounded,
    nearest, again, fun n => ?_⟩
  induction n with
  | zero => rfl
  | succ n ih => rw [redisplay, read, Option.bind_some, again, ih]

/-- A tie, a zero that is left out, and digits that do not come back. -/
theorem redisplay_format_tie :
    PlainMark ',' ∧ (-0.125 : Float).isFinite = true ∧
      (FixedPoint.mk 2 0 0 ',').format (-0.125) = "-,12" ∧
      (FixedPoint.mk 2 0 0 ',').parse "-,12" = some (-0.12) ∧
      ∃ (d : Shown) (w : Float),
        (FixedPoint.mk 2 0 0 ',').format (-0.125) = String.ofList (d.text ',') ∧ d.WellFormed ∧
        (FixedPoint.mk 2 0 0 ',').parse ((FixedPoint.mk 2 0 0 ',').format (-0.125)) = some w ∧
        w.isFinite = true ∧ Double.IsNearestTo w d.value ∧
        (FixedPoint.mk 2 0 0 ',').format w = (FixedPoint.mk 2 0 0 ',').format (-0.125) ∧
        ∀ n, (FixedPoint.mk 2 0 0 ',').redisplay n ((FixedPoint.mk 2 0 0 ',').format (-0.125)) =
          some ((FixedPoint.mk 2 0 0 ',').format (-0.125)) :=
  have ok : PlainMark ',' := ⟨by decide, by decide, by decide⟩
  have finite : (-0.125 : Float).isFinite = true := by decide +kernel
  ⟨ok, finite, by decide +kernel, by decide +kernel,
    redisplay_format (FixedPoint.mk 2 0 0 ',') ok finite⟩

end FixedPoint

end Keypad
