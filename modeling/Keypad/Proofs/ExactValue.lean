/-
# `Keypad.Proofs.ExactValue` — doubles and their roundings as rational numbers

Displaying rounds a double to a decimal, and reading rounds a decimal to a double.
The computations do both on natural numbers.  What they are meant to compute is said
here of rational numbers and distances between them, once for each direction.

* A natural number is what a rational number rounds to if it is no farther away than
  a half, and even if it is just a half away (`Rounds`).  There is only one such number
  (`Rounds.unique`), and dividing natural numbers finds it (`rounds_roundQuotient`).
* A double is nearest to a rational number if no finite double is nearer, and even if
  another one is as near (`IsNearestTo`).  The halfway points of `IsNearest` come to the
  same (`IsNearest.isNearestTo`).
-/
import Keypad.Proofs.Bits
import Keypad.Proofs.Nearest

namespace Keypad

/-- A number with a sign. -/
def signed (minus : Bool) (q : ℚ) : ℚ := if minus then -q else q

theorem abs_signed (minus : Bool) (q : ℚ) : |signed minus q| = |q| := by
  cases minus
  · rfl
  · exact abs_neg q

theorem abs_signed_sub (minus : Bool) (p q : ℚ) : |signed minus p - signed minus q| = |p - q| := by
  cases minus
  · rfl
  · show |-p - -q| = |p - q|
    rw [← neg_sub', abs_neg]

theorem abs_signed_sub_of_ne {minus minus' : Bool} (other : minus ≠ minus') (p q : ℚ) :
    |signed minus p - signed minus' q| = |p + q| := by
  cases minus <;> cases minus'
  · exact absurd rfl other
  · show |p - -q| = |p + q|
    rw [sub_neg_eq_add]
  · show |-p - q| = |p + q|
    rw [← neg_add', abs_neg]
  · exact absurd rfl other

/-! ## Rounding to a natural number -/

/-- The natural number nearest to `q`, and the even one of two that are. -/
structure Rounds (q : ℚ) (n : Nat) : Prop where
  near : |n - q| ≤ 1 / 2
  tie : |n - q| = 1 / 2 → n % 2 = 0

theorem Rounds.le {q : ℚ} {m n : Nat} (h : Rounds q m) (h' : Rounds q n) : m ≤ n := by
  by_contra less
  have step : (n : ℚ) + 1 ≤ m := by exact_mod_cast Nat.not_le.mp less
  obtain ⟨-, high⟩ := abs_le.mp h.near
  obtain ⟨low, -⟩ := abs_le.mp h'.near
  -- two numbers within a half of `q` are neighbours, and `q` is in the middle
  have above : |(m : ℚ) - q| = 1 / 2 := by rw [abs_of_nonneg] <;> linarith
  have below : |(n : ℚ) - q| = 1 / 2 := by rw [abs_of_nonpos] <;> linarith
  have next : (m : ℚ) = n + 1 := by linarith
  have next : m = n + 1 := by exact_mod_cast next
  have even := h.tie above
  have even' := h'.tie below
  omega

theorem Rounds.unique {q : ℚ} {m n : Nat} (h : Rounds q m) (h' : Rounds q n) : m = n :=
  Nat.le_antisymm (h.le h') (h'.le h)

/-- What is at least as near to `n` as a number that rounds to it rounds to it too. -/
theorem Rounds.of_nearer {q q' : ℚ} {n : Nat} (h : Rounds q n) (nearer : |n - q'| ≤ |n - q|) :
    Rounds q' n where
  near := nearer.trans h.near
  tie half := h.tie (le_antisymm h.near (half ▸ nearer))

theorem rounds_down {q r : ℚ} {n : Nat} (parts : q = n + r) (nonneg : 0 ≤ r)
    (side : r < 1 / 2 ∨ r = 1 / 2 ∧ n % 2 = 0) : Rounds q n := by
  have distance : |(n : ℚ) - q| = r := by
    rw [parts, sub_add_cancel_left, abs_neg, abs_of_nonneg nonneg]
  rcases side with less | ⟨half, even⟩
  · exact ⟨distance ▸ less.le, fun half => absurd (distance.symm.trans half) less.ne⟩
  · exact ⟨distance ▸ half.le, fun _ => even⟩

theorem rounds_up {q r : ℚ} {n : Nat} (parts : q = n + r) (below : r ≤ 1)
    (side : 1 / 2 < r ∨ r = 1 / 2 ∧ n % 2 = 1) : Rounds q (n + 1) := by
  have distance : |((n + 1 : Nat) : ℚ) - q| = 1 - r := by
    rw [parts, Nat.cast_add_one, add_sub_add_left_eq_sub, abs_of_nonneg (sub_nonneg.mpr below)]
  rcases side with more | ⟨half, odd⟩
  · exact ⟨by linarith, fun half => by linarith⟩
  · exact ⟨by linarith, fun _ => by omega⟩

/-- Dividing natural numbers and looking at the rest rounds their quotient. -/
theorem rounds_roundQuotient (num : Nat) {den : Nat} (pos : 0 < den) :
    Rounds (num / den) (roundQuotient .toEven num den) := by
  have positive : (0 : ℚ) < den := by exact_mod_cast pos
  have parts : (num : ℚ) / den = (num / den : Nat) + (num % den : Nat) / den := by
    have whole : (num : ℚ) = den * (num / den : Nat) + (num % den : Nat) := by
      exact_mod_cast (Nat.div_add_mod num den).symm
    rw [div_eq_iff positive.ne', add_mul, div_mul_cancel₀ _ positive.ne', mul_comm _ (den : ℚ)]
    exact whole
  have nonneg : (0 : ℚ) ≤ (num % den : Nat) / den := by positivity
  have below : (num % den : Nat) / (den : ℚ) ≤ 1 :=
    (div_le_one positive).mpr (by exact_mod_cast (Nat.mod_lt num pos).le)
  have middle : 2 * (num % den) = den → ((num % den : Nat) : ℚ) / den = 1 / 2 := fun half => by
    rw [div_eq_div_iff positive.ne' two_ne_zero, one_mul, mul_comm]
    exact_mod_cast half
  rcases roundQuotient_toEven num den with ⟨down, side⟩ | ⟨up, side⟩
  · rw [down]
    refine rounds_down parts nonneg (side.imp (fun less => ?_) (And.imp_left middle))
    rw [div_lt_div_iff₀ positive two_pos, one_mul, mul_comm]
    exact_mod_cast less
  · rw [up]
    refine rounds_up parts below (side.imp (fun more => ?_) (And.imp_left middle))
    rw [div_lt_div_iff₀ two_pos positive, one_mul, mul_comm]
    exact_mod_cast more

namespace Double

/-! ## What a double is worth -/

/-- The number that a magnitude stands for. -/
def worth (b : Nat) : ℚ := steps b / 2 ^ depth

/-- The number that a finite double stands for. -/
def value (x : Float) : ℚ := signed (negative x) (worth (magnitude x))

theorem two_pow_depth_pos : (0 : ℚ) < 2 ^ depth := pow_pos two_pos depth

theorem worth_nonneg (b : Nat) : 0 ≤ worth b := div_nonneg (Nat.cast_nonneg _) two_pow_depth_pos.le

theorem strictMono_worth : StrictMono worth := fun _ _ less =>
  div_lt_div_of_pos_right (by exact_mod_cast strictMono_steps less) two_pow_depth_pos

theorem worth_zero : worth 0 = 0 := by rw [worth, steps_zero, Nat.cast_zero, zero_div]

theorem worth_pos_iff (b : Nat) : 0 < worth b ↔ b ≠ 0 := by
  rw [← worth_zero, strictMono_worth.lt_iff_lt, Nat.pos_iff_ne_zero]

theorem abs_value (x : Float) : |value x| = worth (magnitude x) := by
  rw [value, abs_signed, abs_of_nonneg (worth_nonneg _)]

theorem value_neg_iff (x : Float) : value x < 0 ↔ negative x = true ∧ magnitude x ≠ 0 := by
  rw [value, signed, ← worth_pos_iff]
  cases negative x with
  | true => simp
  | false => simpa using worth_nonneg (magnitude x)

theorem value_ofMagnitude (minus : Bool) {b : Nat} (finite : b < infinity) :
    value (ofMagnitude minus b) = signed minus (worth b) := by
  rw [value, negative_ofMagnitude minus finite, magnitude_ofMagnitude minus finite]

/-! ## The nearest double -/

/-- The double nearest to `q`, and the even one of two that are. -/
structure IsNearestTo (w : Float) (q : ℚ) : Prop where
  near : ∀ y : Float, y.isFinite = true → |value w - q| ≤ |value y - q|
  tie : ∀ y : Float, y.isFinite = true → |value w - q| = |value y - q| →
    value y = value w ∨ magnitude w % 2 = 0

/-- The halfway points around a magnitude, as rational numbers. -/
theorem IsNearest.halfway {num den b : Nat} (h : IsNearest num den b) (pos : 0 < den) {q : ℚ}
    (same : q = num / (den * 2 ^ depth)) :
    worth (b - 1) + worth b ≤ 2 * q ∧ 2 * q ≤ worth b + worth (b + 1) ∧
      (2 * q = worth (b - 1) + worth b ∨ 2 * q = worth b + worth (b + 1) → b % 2 = 0) := by
  have unit : (0 : ℚ) < den * 2 ^ depth := mul_pos (by exact_mod_cast pos) two_pow_depth_pos
  have twice : 2 * q = (2 * num : Nat) / (den * 2 ^ depth) := by
    rw [same]
    push_cast
    ring
  have sum (a c : Nat) :
      worth a + worth c = ((steps a + steps c) * den : Nat) / (den * 2 ^ depth) := by
    have nonzero : (den : ℚ) ≠ 0 := by exact_mod_cast pos.ne'
    rw [worth, worth]
    push_cast
    field_simp
  rw [twice, sum, sum, div_le_div_iff_of_pos_right unit, div_le_div_iff_of_pos_right unit,
    div_left_inj' unit.ne', div_left_inj' unit.ne']
  exact ⟨by exact_mod_cast h.low, by exact_mod_cast h.high, by exact_mod_cast h.tie⟩

/-- No magnitude is nearer, and one that is as near is another one only if this one is
even. -/
theorem IsNearest.abs_sub_le {num den b : Nat} (h : IsNearest num den b) (pos : 0 < den) {q : ℚ}
    (same : q = num / (den * 2 ^ depth)) (b' : Nat) :
    |worth b - q| ≤ |worth b' - q| ∧ (|worth b - q| = |worth b' - q| → b' = b ∨ b % 2 = 0) := by
  obtain ⟨low, high, tie⟩ := h.halfway pos same
  rcases lt_trichotomy b' b with less | rfl | more
  · have below : worth b' ≤ worth (b - 1) := strictMono_worth.monotone (Nat.le_sub_one_of_lt less)
    have apart : worth (b - 1) < worth b := strictMono_worth (by omega)
    rw [abs_of_nonpos (show worth b' - q ≤ 0 by linarith)]
    refine ⟨abs_le.mpr ⟨by linarith, by linarith⟩, fun equal => .inr (tie (.inl ?_))⟩
    rcases abs_cases (worth b - q) with ⟨distance, -⟩ | ⟨distance, -⟩ <;> linarith
  · exact ⟨le_rfl, fun _ => .inl rfl⟩
  · have above : worth (b + 1) ≤ worth b' := strictMono_worth.monotone more
    have apart : worth b < worth (b + 1) := strictMono_worth (Nat.lt_succ_self b)
    rw [abs_of_nonneg (show 0 ≤ worth b' - q by linarith)]
    refine ⟨abs_le.mpr ⟨by linarith, by linarith⟩, fun equal => .inr (tie (.inr ?_))⟩
    rcases abs_cases (worth b - q) with ⟨distance, -⟩ | ⟨distance, -⟩ <;> linarith

/-- A number is as far away as its opposite only if it is zero. -/
theorem IsNearest.eq_zero_of_opposite {num den b : Nat} (h : IsNearest num den b) (pos : 0 < den)
    {q : ℚ} (same : q = num / (den * 2 ^ depth)) (equal : |worth b - q| = worth b + q) :
    b = 0 := by
  by_contra nonzero
  have positive := (worth_pos_iff b).mpr nonzero
  have zero : q = 0 := by
    rcases abs_cases (worth b - q) with ⟨distance, -⟩ | ⟨distance, -⟩ <;> linarith
  have near := (h.abs_sub_le pos same 0).1
  rw [worth_zero, zero, sub_zero, sub_zero, abs_zero, abs_of_pos positive] at near
  exact near.not_gt positive

/-- A sign does not change which double is nearest. -/
theorem IsNearest.isNearestTo {num den b : Nat} (h : IsNearest num den b) (pos : 0 < den) {q : ℚ}
    (same : q = num / (den * 2 ^ depth)) (minus : Bool) (finite : b < infinity) :
    IsNearestTo (ofMagnitude minus b) (signed minus q) := by
  have nonneg : 0 ≤ q := by
    rw [same]
    positivity
  have within (b' : Nat) : |worth b' - q| ≤ |worth b' + q| := by
    rw [abs_of_nonneg (add_nonneg (worth_nonneg b') nonneg)]
    exact abs_le.mpr ⟨by linarith [worth_nonneg b'], by linarith⟩
  have distance : |value (ofMagnitude minus b) - signed minus q| = |worth b - q| := by
    rw [value_ofMagnitude minus finite, abs_signed_sub]
  refine ⟨fun y _ => ?_, fun y _ equal => ?_⟩
  · obtain ⟨near, -⟩ := h.abs_sub_le pos same (magnitude y)
    rw [distance, value]
    by_cases sign : negative y = minus
    · rwa [sign, abs_signed_sub]
    · rw [abs_signed_sub_of_ne sign]
      exact near.trans (within _)
  · obtain ⟨near, tie⟩ := h.abs_sub_le pos same (magnitude y)
    rw [distance] at equal
    rw [magnitude_ofMagnitude minus finite, value_ofMagnitude minus finite, value]
    by_cases sign : negative y = minus
    · rw [value, sign, abs_signed_sub] at equal
      exact (tie equal).imp_left fun same => by rw [sign, same]
    · rw [value, abs_signed_sub_of_ne sign] at equal
      rcases tie (near.antisymm (equal ▸ within _)) with own | even
      · rw [own, abs_of_nonneg (add_nonneg (worth_nonneg b) nonneg)] at equal
        exact .inr (by rw [h.eq_zero_of_opposite pos same equal])
      · exact .inr even

end Double

end Keypad
