/-
# `Keypad.Proofs.Display` — what the everyday format shows

A number that is shown is a sign, a row of digits before the mark and a row after it
(`Shown`).  The format chooses them in one pass over the digits of the rounded number;
here they are described one by one (`FixedPoint.Sets`), by what a reader of the display
can check:

| | |
| :-- | :-- |
| rounded number | nearest to the size of the number, ties to even, in units of the last decimal allowed |
| sign | for a number below zero that does not round to zero |
| before the mark | the whole part, with zeros put in front as far as asked for, or nothing |
| after the mark | as few of the decimals as the least count allows, with no digit lost that is not zero |

These four leave no choice (`FixedPoint.Sets.unique`).  The main statement,
`FixedPoint.format_shows`, is that they describe what is shown of every finite number,
and nothing else; that this is worth what the number was rounded to; and that it is not
nothing.
-/
import Keypad.FixedPoint
import Keypad.Proofs.ExactValue
import Keypad.Proofs.WrittenNumber

namespace Keypad

/-! ## Rounding to decimals -/

namespace Fixed

theorem rounds_units (places b : Nat) :
    Rounds (Double.worth b * 10 ^ places) (units places b) := by
  rw [Double.worth, units, Nat.pow_eq, Nat.pow_eq]
  generalize Double.depth = depth
  have pos : 0 < 2 ^ depth := pow_pos (by omega) _
  have quotient : (Double.steps b : ℚ) / 2 ^ depth * 10 ^ places =
      (Double.steps b * 10 ^ places : Nat) / (2 ^ depth : Nat) := by
    push_cast
    ring
  rw [quotient]
  exact rounds_roundQuotient _ pos

theorem units_zero (places : Nat) : units places 0 = 0 := by
  have zero : Rounds 0 0 := ⟨by norm_num, fun _ => rfl⟩
  refine (rounds_units places 0).unique ?_
  rwa [Double.worth_zero, zero_mul]

end Fixed

/-! ## Rows of digits -/

namespace Reading

variable {ds es : List Char}

theorem toNat_of_isDigit {c : Char} (digit : c.isDigit = true) :
    '0'.toNat ≤ c.toNat ∧ c.toNat ≤ '9'.toNat := by
  simp only [Char.isDigit, Bool.and_eq_true, decide_eq_true_eq] at digit
  exact ⟨UInt32.le_iff_toNat_le.mp digit.1, UInt32.le_iff_toNat_le.mp digit.2⟩

theorem value_append_singleton (ds : List Char) (d : Char) :
    value (ds ++ [d]) = 10 * value ds + (d.toNat - '0'.toNat) := by
  simp [value]

/-- A row of digits is worth nothing just if there are only zeros in it. -/
theorem value_eq_zero_iff (all : ∀ c ∈ ds, c.isDigit = true) :
    value ds = 0 ↔ ∀ c ∈ ds, c = '0' := by
  induction ds using List.reverseRecOn with
  | nil => exact iff_of_true rfl fun _ mem => absurd mem List.not_mem_nil
  | append_singleton ds d ih =>
      rw [List.forall_mem_append, List.forall_mem_singleton] at all ⊢
      have digit := (toNat_of_isDigit all.2).1
      rw [value_append_singleton, ← ih all.1, Nat.add_eq_zero_iff]
      refine and_congr (by omega) ⟨fun zero => Char.toNat_inj.mp (by omega), ?_⟩
      rintro rfl
      rfl

/-- Two rows of digits that are as long and worth as much are the same. -/
theorem eq_of_value_eq (length : ds.length = es.length) (all : ∀ c ∈ ds, c.isDigit = true)
    (all' : ∀ c ∈ es, c.isDigit = true) (same : value ds = value es) :
    ds = es := by
  induction ds using List.reverseRecOn generalizing es with
  | nil => exact (List.eq_nil_of_length_eq_zero length.symm).symm
  | append_singleton ds d ih =>
      rcases List.eq_nil_or_concat es with rfl | ⟨es, e, rfl⟩
      · simp at length
      rw [List.concat_eq_append] at *
      rw [List.forall_mem_append, List.forall_mem_singleton] at all all'
      have bounds := toNat_of_isDigit all.2
      have bounds' := toNat_of_isDigit all'.2
      have nine : '9'.toNat = '0'.toNat + 9 := rfl
      rw [value_append_singleton, value_append_singleton] at same
      have front := ih (by simpa using length) all.1 all'.1 (by omega)
      have last : d = e := Char.toNat_inj.mp (by omega)
      rw [front, last]

theorem isDigit_leftpad (k n : Nat) :
    ∀ c ∈ (Nat.toDigits 10 n).leftpad k '0', c.isDigit = true := by
  rw [List.leftpad, List.forall_mem_append]
  exact ⟨isDigit_replicate_zero _, isDigit_toDigits n⟩

/-- Zeros in front do not count. -/
theorem value_leftpad (k n : Nat) :
    value ((Nat.toDigits 10 n).leftpad k '0') = n := by
  rw [List.leftpad, value_append, value_replicate_zero, value_toDigits,
    Nat.mul_zero, Nat.zero_add]

theorem leftpad_ne_nil (k n : Nat) : (Nat.toDigits 10 n).leftpad k '0' ≠ [] :=
  fun empty => Nat.toDigits_ne_nil (List.append_eq_nil_iff.mp empty).2

end Reading

/-- The digits after the point of a number of so many units in the last place. -/
structure Decimals (places units : Nat) (ds : List Char) : Prop where
  all_digits : ∀ c ∈ ds, c.isDigit = true
  length_eq : ds.length = places
  value_eq : Reading.value ds = units % 10 ^ places

theorem decimals_ofUnits (places units : Nat) :
    Decimals places units (Fixed.ofUnits places units).fraction := by
  rcases Nat.eq_zero_or_pos places with rfl | some_place
  · exact ⟨by simp [Fixed.ofUnits], rfl, by rw [pow_zero, Nat.mod_one]; rfl⟩
  · have fraction : (Fixed.ofUnits places units).fraction =
        (Nat.toDigits 10 (units % 10 ^ places)).leftpad places '0' :=
      if_neg some_place.ne'
    have fits : (Nat.toDigits 10 (units % 10 ^ places)).length ≤ places :=
      (Nat.length_toDigits_le_iff (by omega) some_place).mpr
        (Nat.mod_lt units (pow_pos (by omega) places))
    rw [fraction]
    exact ⟨Reading.isDigit_leftpad _ _, List.length_leftpad.trans (max_eq_left fits),
      Reading.value_leftpad _ _⟩

/-- Decimals that are all zero can be left out. -/
theorem Decimals.value_append_take {places units k : Nat} {whole ds : List Char}
    (decimals : Decimals places units ds) (front : Reading.value whole = units / 10 ^ places)
    (rest : ∀ c ∈ ds.drop k, c = '0') :
    Reading.value (whole ++ ds.take k) * 10 ^ (places - k) = units := by
  have tail_digits : ∀ c ∈ ds.drop k, c.isDigit = true := fun c mem =>
    decimals.all_digits c (List.mem_of_mem_drop mem)
  have tail : Reading.value (ds.drop k) = 0 := (Reading.value_eq_zero_iff tail_digits).mpr rest
  have length : (ds.drop k).length = places - k := by rw [List.length_drop, decimals.length_eq]
  calc Reading.value (whole ++ ds.take k) * 10 ^ (places - k)
      = Reading.value (whole ++ ds.take k ++ ds.drop k) := by
        rw [Reading.value_append _ (ds.drop k), tail, length, Nat.add_zero, Nat.mul_comm]
    _ = Reading.value (whole ++ ds) := by rw [List.append_assoc, List.take_append_drop]
    _ = 10 ^ places * (units / 10 ^ places) + units % 10 ^ places := by
        rw [Reading.value_append, front, decimals.value_eq, decimals.length_eq]
    _ = units := Nat.div_add_mod units (10 ^ places)

namespace FixedPoint

theorem significant_append_zero (ds : List Char) : significant (ds ++ ['0']) = significant ds := by
  simp [significant]

theorem significant_le_length (ds : List Char) : significant ds ≤ ds.length := by
  rw [significant]
  exact (List.dropWhile_sublist _).length_le.trans List.length_reverse.le

theorem significant_append_of_ne (ds : List Char) {d : Char} (other : d ≠ '0') :
    significant (ds ++ [d]) = ds.length + 1 := by
  simp [significant, other]

/-- The significant digits are followed by zeros only, and by no fewer digits is this so. -/
theorem significant_le_iff (ds : List Char) (k : Nat) :
    significant ds ≤ k ↔ ∀ c ∈ ds.drop k, c = '0' := by
  induction ds using List.reverseRecOn with
  | nil => simp [significant]
  | append_singleton ds d ih =>
      rw [List.drop_append, List.forall_mem_append, ← ih]
      by_cases zero : d = '0'
      · subst zero
        rw [significant_append_zero, and_iff_left]
        exact fun c mem => List.mem_singleton.mp (List.mem_of_mem_drop mem)
      · rw [significant_append_of_ne ds zero]
        rcases Nat.lt_or_ge k (ds.length + 1) with short | long
        · have none_dropped : k - ds.length = 0 := by omega
          rw [none_dropped, List.drop_zero]
          exact iff_of_false (by omega) fun both => zero (both.2 d List.mem_cons_self)
        · have fewer : significant ds ≤ ds.length := significant_le_length ds
          have none_left : [d].drop (k - ds.length) = [] :=
            List.drop_eq_nil_of_le (Nat.le_sub_of_add_le (by simpa [Nat.add_comm] using long))
          rw [none_left]
          exact iff_of_true long ⟨by omega, fun _ mem => absurd mem List.not_mem_nil⟩

/-! ## The decimals that are kept -/

/-- No digit but zeros is lost when only `k` of the decimals are shown, and they are not
fewer than asked for. -/
structure Suffices (s : FixedPoint) (decimals : List Char) (k : Nat) : Prop where
  asked : min s.minimumFractionDigits s.maximumFractionDigits ≤ k
  allowed : k ≤ s.maximumFractionDigits
  rest : ∀ c ∈ decimals.drop k, c = '0'

section Kept

variable (s : FixedPoint) {ds : List Char}

theorem length_kept (ds : List Char) :
    (s.kept ds).length = max (significant ds) (min s.minimumFractionDigits ds.length) := by
  have fewer := significant_le_length ds
  rw [kept, List.length_take]
  omega

theorem kept_eq_take (ds : List Char) : s.kept ds = ds.take (s.kept ds).length := by
  rw [length_kept, kept]

theorem isLeast_kept (all : ds.length = s.maximumFractionDigits) :
    IsLeast {k | s.Suffices ds k} (s.kept ds).length := by
  have fewer := significant_le_length ds
  rw [length_kept, all]
  refine ⟨⟨by omega, by omega, (significant_le_iff ds _).mp (by omega)⟩, fun k enough => ?_⟩
  exact max_le ((significant_le_iff ds k).mpr enough.rest) enough.asked

end Kept

end FixedPoint

/-! ## What is shown of a number -/

/-- A number on display: its sign, the digits before the mark and those after it. -/
@[ext]
structure Shown where
  minus : Bool
  whole : List Char
  fraction : List Char

namespace Shown

def digits (d : Shown) : List Char := d.whole ++ d.fraction

/-- The mark is there if something comes after it. -/
def unsigned (mark : Char) (d : Shown) : List Char :=
  d.whole ++ if d.fraction = [] then [] else mark :: d.fraction

def text (mark : Char) (d : Shown) : List Char :=
  (if d.minus then ['-'] else []) ++ d.unsigned mark

/-- The number that a reader takes the digits for. -/
def size (d : Shown) : ℚ := Reading.value d.digits / 10 ^ d.fraction.length

def value (d : Shown) : ℚ := signed d.minus d.size

/-- There are digits in it and nothing else. -/
structure WellFormed (d : Shown) : Prop where
  all_digits : ∀ c ∈ d.digits, c.isDigit = true
  some_digit : d.digits ≠ []

theorem WellFormed.unsigned_ne_nil {d : Shown} (formed : d.WellFormed) (mark : Char) :
    d.unsigned mark ≠ [] := by
  intro empty
  obtain ⟨no_whole, no_mark⟩ := List.append_eq_nil_iff.mp empty
  refine formed.some_digit (List.append_eq_nil_iff.mpr ⟨no_whole, ?_⟩)
  by_contra some_decimal
  rw [if_neg some_decimal] at no_mark
  exact absurd no_mark (List.cons_ne_nil _ _)

end Shown

namespace FixedPoint

/-- The digits before the mark, when the whole part of the number is `n`. -/
def front (s : FixedPoint) (n : Nat) (fraction : List Char) : List Char :=
  if s.minimumIntegerDigits = 0 ∧ n = 0 ∧ fraction ≠ [] then []
  else (Nat.toDigits 10 n).leftpad s.minimumIntegerDigits '0'

section Front

variable (s : FixedPoint) (n : Nat) (fraction : List Char)

theorem value_front : Reading.value (s.front n fraction) = n := by
  rw [front]
  split
  · next dropped => exact dropped.2.1.symm
  · exact Reading.value_leftpad _ _

theorem isDigit_front : ∀ c ∈ s.front n fraction, c.isDigit = true := by
  rw [front]
  split
  · exact fun _ mem => absurd mem List.not_mem_nil
  · exact Reading.isDigit_leftpad _ _

/-- A lone zero is not left out. -/
theorem front_ne_nil : s.front n [] ≠ [] := by
  rw [front, if_neg fun dropped => dropped.2.2 rfl]
  exact Reading.leftpad_ne_nil _ n

end Front

/-- What the settings make of a number that was rounded to so many units in the last
place. -/
structure Sets (s : FixedPoint) (q : ℚ) (units : Nat) (d : Shown) : Prop where
  rounds : Rounds (|q| * 10 ^ s.maximumFractionDigits) units
  minus : d.minus = true ↔ q < 0 ∧ units ≠ 0
  whole : d.whole = s.front (units / 10 ^ s.maximumFractionDigits) d.fraction
  fraction : ∃ decimals, Decimals s.maximumFractionDigits units decimals ∧
    IsLeast {k | s.Suffices decimals k} d.fraction.length ∧
    d.fraction = decimals.take d.fraction.length

/-- The description leaves no choice. -/
theorem Sets.unique {s : FixedPoint} {q : ℚ} {units units' : Nat} {d d' : Shown}
    (h : s.Sets q units d) (h' : s.Sets q units' d') : d = d' := by
  obtain rfl := h.rounds.unique h'.rounds
  obtain ⟨ds, decimals, least, taken⟩ := h.fraction
  obtain ⟨es, decimals', least', taken'⟩ := h'.fraction
  obtain rfl : ds = es :=
    Reading.eq_of_value_eq (decimals.length_eq.trans decimals'.length_eq.symm) decimals.all_digits
      decimals'.all_digits (decimals.value_eq.trans decimals'.value_eq.symm)
  have fraction : d.fraction = d'.fraction := by rw [taken, taken', least.unique least']
  have whole : d.whole = d'.whole := by rw [h.whole, h'.whole, fraction]
  have minus : d.minus = d'.minus := Bool.eq_iff_iff.mpr (h.minus.trans h'.minus.symm)
  exact Shown.ext minus whole fraction

/-! ## The format does it -/

variable (s : FixedPoint) (negative : Bool) (units : Nat)

/-- The sign and the digits as the format chooses them. -/
def shown : Shown :=
  let digits := Fixed.ofUnits s.maximumFractionDigits units
  let fraction := s.kept digits.fraction
  { minus := negative && units != 0
    whole := s.padded digits.whole fraction
    fraction := fraction }

theorem whole_shown : (s.shown negative units).whole =
    s.front (units / 10 ^ s.maximumFractionDigits) (s.shown negative units).fraction := by
  have lone_zero (n : Nat) : Nat.toDigits 10 n = ['0'] ↔ n = 0 := by
    refine ⟨fun same => ?_, fun zero => zero ▸ rfl⟩
    rw [← Reading.value_toDigits n, same]
    rfl
  show s.padded (Nat.toDigits 10 (units / 10 ^ s.maximumFractionDigits)) _ = _
  simp only [padded, front, lone_zero]
  rfl

theorem decimals_shown : ∃ decimals, Decimals s.maximumFractionDigits units decimals ∧
    IsLeast {k | s.Suffices decimals k} (s.shown negative units).fraction.length ∧
    (s.shown negative units).fraction = decimals.take (s.shown negative units).fraction.length :=
  have decimals := decimals_ofUnits s.maximumFractionDigits units
  ⟨_, decimals, s.isLeast_kept decimals.length_eq, s.kept_eq_take _⟩

/-- The digits before the decimals, with zeros in front or without, and the decimals kept
are the digits of the rounded number. -/
theorem value_append_shown {whole : List Char}
    (same : Reading.value whole = units / 10 ^ s.maximumFractionDigits) :
    Reading.value (whole ++ (s.shown negative units).fraction) *
      10 ^ (s.maximumFractionDigits - (s.shown negative units).fraction.length) = units := by
  obtain ⟨ds, decimals, ⟨enough, -⟩, taken⟩ := s.decimals_shown negative units
  have worth := decimals.value_append_take same enough.rest
  rwa [← taken] at worth

theorem all_digits_shown : ∀ c ∈ (s.shown negative units).digits, c.isDigit = true := by
  obtain ⟨ds, decimals, -, taken⟩ := s.decimals_shown negative units
  rw [Shown.digits, List.forall_mem_append, whole_shown, taken]
  exact ⟨s.isDigit_front _ _, fun c mem => decimals.all_digits c (List.mem_of_mem_take mem)⟩

theorem wellFormed_shown : (s.shown negative units).WellFormed where
  all_digits := s.all_digits_shown negative units
  some_digit empty := by
    obtain ⟨no_whole, no_fraction⟩ := List.append_eq_nil_iff.mp empty
    rw [whole_shown, no_fraction] at no_whole
    exact s.front_ne_nil _ no_whole

theorem length_fraction_shown_le :
    (s.shown negative units).fraction.length ≤ s.maximumFractionDigits := by
  obtain ⟨_, _, ⟨enough, _⟩, _⟩ := s.decimals_shown negative units
  exact enough.allowed

/-- Trimming and padding do not change which number it is. -/
theorem size_shown :
    (s.shown negative units).size = units / 10 ^ s.maximumFractionDigits := by
  have fewer := s.length_fraction_shown_le negative units
  have whole : Reading.value (s.shown negative units).whole =
      units / 10 ^ s.maximumFractionDigits := by
    rw [whole_shown, value_front]
  have worth : (Reading.value (s.shown negative units).digits : ℚ) *
      10 ^ (s.maximumFractionDigits - (s.shown negative units).fraction.length) = units := by
    exact_mod_cast s.value_append_shown negative units whole
  rw [Shown.size, div_eq_div_iff (by positivity) (by positivity), ← worth, mul_assoc, ← pow_add,
    Nat.sub_add_cancel fewer]

/-- There are only zeros if the number was rounded to zero. -/
theorem all_zero_shown : ((Fixed.ofUnits s.maximumFractionDigits units).whole ++
    (s.shown negative units).fraction).all (· == '0') = decide (units = 0) := by
  have worth := s.value_append_shown negative units
    (Reading.value_toDigits (units / 10 ^ s.maximumFractionDigits))
  have unit : 10 ^ (s.maximumFractionDigits - (s.shown negative units).fraction.length) ≠ 0 :=
    (pow_pos (by omega) _).ne'
  have all_digits := List.forall_mem_append.mpr
    ⟨Reading.isDigit_toDigits (units / 10 ^ s.maximumFractionDigits),
      (List.forall_mem_append.mp (s.all_digits_shown negative units)).2⟩
  rw [Bool.eq_iff_iff, List.all_eq_true, decide_eq_true_iff]
  simp only [beq_iff_eq]
  calc (∀ c ∈ Nat.toDigits 10 (units / 10 ^ s.maximumFractionDigits) ++
          (s.shown negative units).fraction, c = '0')
      ↔ Reading.value (Nat.toDigits 10 (units / 10 ^ s.maximumFractionDigits) ++
          (s.shown negative units).fraction) = 0 := (Reading.value_eq_zero_iff all_digits).symm
    _ ↔ units = 0 := by
        conv_rhs => rw [← worth]
        rw [Nat.mul_eq_zero, or_iff_left unit]

/-- The pass over the digits arrives at the same text. -/
theorem setDigits_ofUnits :
    s.setDigits negative (Fixed.ofUnits s.maximumFractionDigits units) =
      (s.shown negative units).text s.decimalSeparator := by
  have minus : (s.shown negative units).minus =
      (negative && !((Fixed.ofUnits s.maximumFractionDigits units).whole ++
        (s.shown negative units).fraction).all (· == '0')) := by
    rw [all_zero_shown]
    rfl
  have signed_text (b : Bool) (cs : List Char) :
      (if b then ['-'] else []) ++ cs = if b then '-' :: cs else cs := by
    cases b <;> rfl
  rw [Shown.text, Shown.unsigned, signed_text, minus]
  simp only [← List.isEmpty_iff]
  rfl

/-- What is shown of a finite number: its sign, and the number it is rounded to. -/
def display (s : FixedPoint) (x : Float) : Shown :=
  s.shown (Double.negative x) (Fixed.units s.maximumFractionDigits (Double.magnitude x))

theorem wellFormed_display (x : Float) : (s.display x).WellFormed := s.wellFormed_shown _ _

theorem size_display (x : Float) : (s.display x).size =
    Fixed.units s.maximumFractionDigits (Double.magnitude x) / 10 ^ s.maximumFractionDigits :=
  s.size_shown _ _

theorem format_of_finite {x : Float} (finite : x.isFinite = true) :
    s.format x = String.ofList ((s.display x).text s.decimalSeparator) := by
  have number : ¬x.isNaN = true := Bool.eq_false_iff.mp (Double.isNaN_eq_false finite)
  have bounded : Double.magnitude x ≠ Double.infinity := ((Double.isFinite_iff x).mp finite).ne
  rw [format, if_neg number, if_neg bounded, Fixed.ofMagnitude, setDigits_ofUnits, display]

theorem sets_display (x : Float) :
    s.Sets (Double.value x) (Fixed.units s.maximumFractionDigits (Double.magnitude x))
      (s.display x) where
  rounds := by
    rw [Double.abs_value]
    exact Fixed.rounds_units _ _
  minus := by
    have nonzero : Fixed.units s.maximumFractionDigits (Double.magnitude x) ≠ 0 →
        Double.magnitude x ≠ 0 := fun units zero => units (by rw [zero, Fixed.units_zero])
    rw [Double.value_neg_iff, display, shown, Bool.and_eq_true, bne_iff_ne]
    exact ⟨fun ⟨minus, units⟩ => ⟨⟨minus, nonzero units⟩, units⟩,
      fun ⟨⟨minus, _⟩, units⟩ => ⟨minus, units⟩⟩
  whole := s.whole_shown _ _
  fraction := s.decimals_shown _ _

/-- A finite number is shown as the settings say and in no other way, and what is shown is
worth what it was rounded to. -/
theorem format_shows (s : FixedPoint) {x : Float} (finite : x.isFinite = true) :
    ∃ units d, s.Sets (Double.value x) units d ∧
      (∀ units' d', s.Sets (Double.value x) units' d' → d' = d) ∧
      s.format x = String.ofList (d.text s.decimalSeparator) ∧
      d.value = signed d.minus (units / 10 ^ s.maximumFractionDigits) ∧
      s.format x ≠ "" := by
  refine ⟨_, _, s.sets_display x, fun _ _ other => other.unique (s.sets_display x),
    s.format_of_finite finite, ?_, fun empty => ?_⟩
  · rw [Shown.value, size_display]
  · rw [s.format_of_finite finite, ← String.ofList_nil, String.ofList_inj] at empty
    exact (s.wellFormed_display x).unsigned_ne_nil _ (List.append_eq_nil_iff.mp empty).2

/-- A carry into the whole part, a zero in front of it, and more decimals asked for than
are allowed. -/
theorem format_shows_carry :
    (-0.9996 : Float).isFinite = true ∧
      (FixedPoint.mk 3 5 2 ',').format (-0.9996) = "-01,000" ∧
      ∃ units d, (FixedPoint.mk 3 5 2 ',').Sets (Double.value (-0.9996)) units d ∧
        (∀ units' d', (FixedPoint.mk 3 5 2 ',').Sets (Double.value (-0.9996)) units' d' → d' = d) ∧
        (FixedPoint.mk 3 5 2 ',').format (-0.9996) = String.ofList (d.text ',') ∧
        d.value = signed d.minus (units / 10 ^ 3) ∧
        (FixedPoint.mk 3 5 2 ',').format (-0.9996) ≠ "" :=
  have finite : (-0.9996 : Float).isFinite = true := by decide +kernel
  ⟨finite, by decide +kernel, format_shows (FixedPoint.mk 3 5 2 ',') finite⟩

end FixedPoint

end Keypad
