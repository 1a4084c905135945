/-
# `Keypad.Proofs.Scaling` — reading digits and a power of ten

A stored number is read in three roundings: of its digits, of the power of ten, and
of their product or quotient.  Three things are shown of it.

* As long as the digits are at most 2^53 and the power is at most 10^22 either way,
  the first two roundings change nothing.  What is left is one rounding of the true
  value, so the double nearest to it is read (`scale_exact`).
* Digits that were written for a finite double are never refused, though the three
  roundings may err upwards (`exists_scale`).  A negative power only makes the
  number smaller.  With a positive one the value is at most that of the greatest
  double as it is written, and the seventeen powers at which this decides are tried
  one by one.
* What is read is finite, whatever the text was (`magnitude?_lt_infinity`).  The digits
  are collected below 2^64, a quotient is no more than what is divided, and an infinite
  product is refused.
-/
import Keypad.Json.Number
import Keypad.Proofs.Shortest

namespace Keypad

namespace Double

/-! ## Whole numbers that are doubles -/

/-- A significand of 53 places, with any number of zeros after it, is a double. -/
theorem exists_steps_eq (E : Nat) : ∀ {m : Nat}, m ≤ 2 * span → ∃ b, steps b = m * 2 ^ E := by
  induction E with
  | zero =>
      intro m small
      refine ⟨m, ?_⟩
      have own := steps_add (E := 0) small (.inl rfl)
      rwa [Nat.zero_mul, Nat.add_zero] at own
  | succ E ih =>
      intro m small
      rcases Nat.lt_or_ge m span with less | more
      · obtain ⟨b, own⟩ := ih (m := 2 * m) (by omega)
        refine ⟨b, own.trans ?_⟩
        rw [pow_succ]
        ring
      · exact ⟨_, steps_add small (.inr more)⟩

theorem steps_infinity_eq : steps infinity = 2 ^ 1024 * 2 ^ depth := by
  rw [steps_infinity, Nat.pow_eq, pow_add]

/-- Such a number is rounded to itself, unless it is far too large. -/
theorem steps_nearest_of_significand {m k : Nat} (small : m ≤ 2 * span) (bounded : k ≤ 900) :
    steps (nearest (m * 2 ^ k) 1) = m * 2 ^ k * 2 ^ depth := by
  obtain ⟨b, own⟩ := exists_steps_eq (k + depth) small
  rw [pow_add, ← mul_assoc] at own
  have finite : b < infinity := by
    refine strictMono_steps.lt_iff_lt.mp ?_
    rw [own, steps_infinity_eq]
    refine Nat.mul_lt_mul_of_pos_right ?_ (pow_pos two_pos depth)
    calc m * 2 ^ k ≤ 2 * span * 2 ^ 900 :=
          Nat.mul_le_mul small (pow_le_pow_right₀ one_le_two bounded)
      _ < 2 ^ 1024 := by decide +kernel
  rw [nearest_of_steps one_pos (own.symm.trans (mul_one _).symm), Nat.min_eq_right finite.le, own]

theorem steps_nearest_whole {m : Nat} (small : m ≤ 2 ^ 53) :
    steps (nearest m 1) = m * 2 ^ depth := by
  have own := steps_nearest_of_significand (m := m) (k := 0) small (Nat.zero_le _)
  rwa [pow_zero, mul_one] at own

/-! ## Products and quotients -/

variable {a a' c c' b m n : Nat}

theorem IsNearest.congr {num den num' den' : Nat} (h : IsNearest num den b) (pos : 0 < den)
    (pos' : 0 < den') (same : num * den' = num' * den) : IsNearest num' den' b := by
  have nearest := isNearest_rounded num' pos'
  obtain rfl : b = rounded num' den' :=
    Nat.le_antisymm (h.mono nearest pos pos' same.le) (nearest.mono h pos' pos same.ge)
  exact nearest

theorem product_eq (left : steps a = m * 2 ^ depth) (right : steps c = n * 2 ^ depth)
    (h : IsNearest (m * n * 2 ^ depth) 1 b) : product a c = min infinity b := by
  have unit : 0 < 2 ^ depth := pow_pos two_pos depth
  have square : Nat.pow 2 (2 * depth) = 2 ^ depth * 2 ^ depth := by
    rw [Nat.pow_eq, two_mul, pow_add]
  rw [product, left, right, square]
  refine nearest_eq (Nat.mul_pos unit unit) (h.congr one_pos (Nat.mul_pos unit unit) ?_)
  ring

theorem quotient_eq (left : steps a = m * 2 ^ depth) (right : steps c = n * 2 ^ depth)
    (pos : 0 < n) (h : IsNearest (m * 2 ^ depth) n b) : quotient a c = min infinity b := by
  have unit : 0 < 2 ^ depth := pow_pos two_pos depth
  rw [quotient, left, right]
  refine nearest_eq (Nat.mul_pos pos unit) (h.congr pos (Nat.mul_pos pos unit) ?_)
  ring

theorem product_le_product (le : a ≤ a') (le' : c ≤ c') : product a c ≤ product a' c' := by
  have unit : 0 < Nat.pow 2 (2 * depth) := by
    rw [Nat.pow_eq]
    exact pow_pos two_pos _
  refine nearest_le_nearest unit unit (Nat.mul_le_mul_right _ (Nat.mul_le_mul ?_ ?_))
  · exact strictMono_steps.monotone le
  · exact strictMono_steps.monotone le'

theorem quotient_le (large : 2 ^ depth ≤ steps c) : quotient a c ≤ a := by
  have unit : 0 < 2 ^ depth := pow_pos two_pos depth
  have divided : nearest (steps a) (steps c) ≤ nearest (steps a) (2 ^ depth) :=
    nearest_le_nearest (unit.trans_le large) unit (Nat.mul_le_mul_left _ large)
  rw [nearest_of_steps (b := a) unit rfl] at divided
  exact divided.trans (Nat.min_le_right _ _)

end Double

namespace Json.Numeral

open Double

/-! ## Powers of ten -/

theorem powerOfTen_le {j k : Nat} (le : j ≤ k) : powerOfTen j ≤ powerOfTen k := by
  refine nearest_le_nearest one_pos one_pos (Nat.mul_le_mul_right _ ?_)
  rw [Nat.pow_eq, Nat.pow_eq]
  exact pow_le_pow_right₀ (by omega) le

/-- Up to 10^22 a power of ten is a double. -/
theorem steps_powerOfTen {k : Nat} (small : k ≤ 22) :
    steps (powerOfTen k) = 10 ^ k * 2 ^ depth := by
  have factors : 10 ^ k = 5 ^ k * 2 ^ k := mul_pow 5 2 k
  have fives : 5 ^ k ≤ 2 * span := by
    calc 5 ^ k ≤ 5 ^ 22 := pow_le_pow_right₀ (by omega) small
      _ ≤ 2 * span := by decide +kernel
  rw [powerOfTen, Nat.pow_eq, factors]
  exact steps_nearest_of_significand fives (by omega)

theorem le_steps_powerOfTen (k : Nat) : 2 ^ depth ≤ steps (powerOfTen k) := by
  have least := strictMono_steps.monotone (powerOfTen_le (Nat.zero_le k))
  rw [steps_powerOfTen (Nat.zero_le 22)] at least
  simpa only [pow_zero, one_mul] using least

/-! ## Exact reading -/

/-- The number `s × 10 ^ x` and the decimal `d` are the same. -/
def IsWorth (s : Nat) (x : Int) (d : Decimal) : Prop :=
  s * 10 ^ x.toNat * 10 ^ depth = d.coefficient * 10 ^ d.place * 10 ^ (-x).toNat

theorem ten_pow (k : Nat) : 10 ^ k = 2 ^ k * 5 ^ k := mul_pow 2 5 k

variable {s b : Nat} {x : Int} {d : Decimal}

theorem IsWorth.isNearest_product {k : Nat} (worth : IsWorth s k d)
    (h : IsNearest (d.coefficient * 10 ^ d.place) (5 ^ depth) b) :
    IsNearest (s * 10 ^ k * 2 ^ depth) 1 b := by
  refine h.congr pow_five_depth_pos one_pos ?_
  rw [IsWorth, Int.toNat_natCast, Int.toNat_neg_natCast, pow_zero, mul_one, ten_pow depth] at worth
  rw [mul_one, ← worth, mul_assoc (s * 10 ^ k)]

theorem IsWorth.isNearest_quotient {k : Nat} (worth : IsWorth s (-k) d)
    (h : IsNearest (d.coefficient * 10 ^ d.place) (5 ^ depth) b) :
    IsNearest (s * 2 ^ depth) (10 ^ k) b := by
  refine h.congr pow_five_depth_pos (pow_pos (by omega) k) ?_
  rw [IsWorth, neg_neg, Int.toNat_natCast, Int.toNat_neg_natCast, pow_zero, mul_one,
    ten_pow depth] at worth
  rw [← worth, mul_assoc s]

/-- Few digits and a small power of ten are read as the nearest double. -/
theorem scale_exact (digits : s ≤ 2 ^ 53) (power : x.natAbs ≤ 22) (worth : IsWorth s x d)
    (h : IsNearest (d.coefficient * 10 ^ d.place) (5 ^ depth) b) (finite : b < infinity) :
    scale (nearest s 1) x = some b := by
  have whole := steps_nearest_whole digits
  have tens := steps_powerOfTen power
  have least : min infinity b = b := Nat.min_eq_right finite.le
  rw [scale, if_pos (power.trans (by omega))]
  split
  · rename_i nonneg
    obtain ⟨k, rfl⟩ := Int.eq_ofNat_of_zero_le nonneg
    rw [Int.natAbs_natCast] at tens ⊢
    rw [product_eq whole tens (worth.isNearest_product h), least]
    exact if_neg finite.ne
  · rename_i negative
    obtain ⟨k, rfl⟩ : ∃ k : Nat, x = -k := ⟨x.natAbs, by omega⟩
    rw [Int.natAbs_neg, Int.natAbs_natCast] at tens ⊢
    rw [quotient_eq whole tens (pow_pos (by omega) k) (worth.isNearest_quotient h), least]

/-! ## Reading never fails on what was written -/

/-- With a negative power of ten, what is read is no more than the digits. -/
theorem exists_scale_of_neg (f : Nat) (x : Int) (negative : x < 0) :
    ∃ r ≤ f, scale f x = some r := by
  fun_induction scale f x with
  | case1 | case2 => omega
  | case3 => exact ⟨_, quotient_le (le_steps_powerOfTen _), rfl⟩
  | case4 => exact ⟨0, Nat.zero_le _, rfl⟩
  | case5 => omega
  | case6 f x _ _ _ ih =>
      obtain ⟨r, le, read⟩ := ih (by omega)
      exact ⟨r, le.trans (quotient_le (le_steps_powerOfTen _)), read⟩

theorem product_lt_of_small :
    product (nearest (10 ^ 17) 1) (powerOfTen 291) < infinity := by decide +kernel

/-- At these powers of ten the digits of the greatest double are cut off, and the
product is still finite each time. -/
theorem product_lt_of_large :
    ∀ k < 17, product (nearest (greatestCoefficient / 10 ^ k) 1) (powerOfTen (292 + k))
      < infinity := by
  decide +kernel

theorem nearest_whole_le {s s' : Nat} (le : s ≤ s') : nearest s 1 ≤ nearest s' 1 :=
  nearest_le_nearest one_pos one_pos (Nat.mul_le_mul_right 1 le)

theorem le_div_of_mul_pow_le {t e j : Nat} (le : s * 10 ^ (e + j) ≤ t * 10 ^ e) :
    s ≤ t / 10 ^ j := by
  rw [Nat.le_div_iff_mul_le (pow_pos (by omega) j)]
  refine Nat.le_of_mul_le_mul_right (c := 10 ^ e) ?_ (pow_pos (by omega) e)
  rwa [mul_assoc, ← pow_add, Nat.add_comm]

/-- Digits that are worth no more than the greatest double as it is written do not
exceed it when they are multiplied. -/
theorem product_lt_infinity {k : Nat} (digits : s < 10 ^ 17) (power : k ≤ 308)
    (le : s * 10 ^ k ≤ greatestCoefficient * 10 ^ 292) :
    product (nearest s 1) (powerOfTen k) < infinity := by
  rcases Nat.lt_or_ge k 292 with small | large
  · exact (product_le_product (nearest_whole_le digits.le) (powerOfTen_le (by omega))).trans_lt
      product_lt_of_small
  · obtain ⟨j, rfl⟩ := Nat.exists_eq_add_of_le large
    have cut := le_div_of_mul_pow_le le
    exact (product_le_product (nearest_whole_le cut) le_rfl).trans_lt
      (product_lt_of_large j (by omega))

theorem power_le {k : Nat} (pos : 0 < s) (le : s * 10 ^ k ≤ greatestCoefficient * 10 ^ 292) :
    k ≤ 308 := by
  by_contra large
  have huge : 10 ^ 309 ≤ s * 10 ^ k :=
    (pow_le_pow_right₀ (by omega) (by omega)).trans (Nat.le_mul_of_pos_left _ pos)
  exact absurd (huge.trans le) (by decide +kernel)

theorem IsWorth.mul_pow_le {k t e : Nat} (worth : IsWorth s k d)
    (le : d.coefficient * 10 ^ d.place ≤ t * 10 ^ (e + depth)) : s * 10 ^ k ≤ t * 10 ^ e := by
  rw [IsWorth, Int.toNat_natCast, Int.toNat_neg_natCast, pow_zero, mul_one] at worth
  rw [← worth, pow_add, ← mul_assoc t] at le
  exact Nat.le_of_mul_le_mul_right le (pow_pos (by omega) depth)

/-- What was written for a finite double is read as a finite double. -/
theorem exists_scale (digits : s < 10 ^ 17) (pos : 0 ≤ x → 0 < s) (worth : IsWorth s x d)
    (le : d.coefficient * 10 ^ d.place ≤ greatestCoefficient * 10 ^ (292 + depth)) :
    ∃ r < infinity, scale (nearest s 1) x = some r := by
  rcases lt_or_ge x 0 with negative | nonneg
  · obtain ⟨r, below, read⟩ := exists_scale_of_neg (nearest s 1) x negative
    have finite : nearest (10 ^ 17) 1 < infinity := by decide +kernel
    exact ⟨r, below.trans_lt ((nearest_whole_le digits.le).trans_lt finite), read⟩
  · obtain ⟨k, rfl⟩ := Int.eq_ofNat_of_zero_le nonneg
    have whole := worth.mul_pow_le le
    have power := power_le (pos nonneg) whole
    have finite := product_lt_infinity digits power whole
    refine ⟨_, finite, ?_⟩
    rw [scale, Int.natAbs_natCast, if_pos power, if_pos nonneg]
    exact if_neg finite.ne

/-! ## Reading never gives an infinity -/

/-- What has been collected stays below 2^64, however many digits there are. -/
theorem collect_lt (ds : List Char) :
    ∀ {init : Nat}, init < Nat.pow 2 64 → (collect init ds).1 < Nat.pow 2 64 := by
  induction ds with
  | nil => exact id
  | cons d ds ih =>
      intro init room
      rw [collect]
      split
      · rename_i more
        exact ih more
      · exact room

theorem scale_lt_infinity {f r : Nat} (finite : f < infinity) (read : scale f x = some r) :
    r < infinity := by
  fun_induction scale f x with
  | case1 => cases read
  | case2 f x _ _ product other =>
      rw [← Option.some.inj read]
      exact lt_of_le_of_ne (Nat.min_le_left _ _) other
  | case3 =>
      cases read
      exact (quotient_le (le_steps_powerOfTen _)).trans_lt finite
  | case4 =>
      cases read
      exact finite
  | case5 => cases read
  | case6 f x _ _ _ ih => exact ih ((quotient_le (le_steps_powerOfTen _)).trans_lt finite) read

theorem magnitude?_lt_infinity {n : Numeral} {r : Nat} (read : n.magnitude? = some r) :
    r < infinity := by
  have greatest : nearest (2 ^ 64) 1 < infinity := by decide +kernel
  have collected := collect_lt (n.fraction.getD []) (collect_lt n.whole (Nat.two_pow_pos 64))
  exact scale_lt_infinity ((nearest_whole_le collected.le).trans_lt greatest) read

end Json.Numeral

end Keypad
