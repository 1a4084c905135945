/-
# `Keypad.Proofs.Nearest` — what the nearest double is

`Double.nearest` computes: it counts a quotient in least steps, drops binary
places, rounds, and puts the two numbers it has together.  What it computes can be
said without any of that.  A magnitude is the nearest one to a number if the number
lies between the two points that are halfway to its neighbours, and lies on one of
these points only if the magnitude is even (`IsNearest`).

No number has two such magnitudes, and a greater number has no lesser one
(`IsNearest.mono`).  So whatever satisfies the condition is what is computed
(`nearest_eq`), and rounding never changes an order (`nearest_le_nearest`).
-/
import Keypad.Number.Rounding
import Mathlib.Order.Monotone.Basic
import Mathlib.Tactic.Linarith
import Mathlib.Tactic.Ring

namespace Keypad

/-- A quotient is rounded down or up, to the side that is nearer, and from the
middle to the even side. -/
theorem roundQuotient_toEven (num den : Nat) :
    (roundQuotient .toEven num den = num / den ∧
        (2 * (num % den) < den ∨ 2 * (num % den) = den ∧ num / den % 2 = 0)) ∨
      (roundQuotient .toEven num den = num / den + 1 ∧
        (den < 2 * (num % den) ∨ 2 * (num % den) = den ∧ num / den % 2 = 1)) := by
  simp only [roundQuotient]
  split
  · omega
  · split <;> omega

/-- Whatever becomes of an exact half, it goes to one of its two neighbours. -/
theorem roundQuotient_eq_or (tie : Tie) (num den : Nat) :
    roundQuotient tie num den = num / den ∨ roundQuotient tie num den = num / den + 1 := by
  simp only [roundQuotient]
  split
  · exact .inl rfl
  · split
    · exact .inr rfl
    · cases tie
      · rcases Nat.mod_two_eq_zero_or_one (num / den) with even | odd <;> simp [*]
      · exact .inr rfl

namespace Double

theorem span_pos : 0 < span := Nat.two_pow_pos 52

/-! ## Every magnitude is a significand and a number of dropped places -/

theorem steps_full {r : Nat} (h : r < span) (E : Nat) :
    steps (r + (E + 1) * span) = (span + r) * 2 ^ E := by
  have large : ¬ r + (E + 1) * span < span := by
    have := Nat.le_mul_of_pos_left span (Nat.add_one_pos E)
    omega
  rw [steps, if_neg large, Nat.add_mul_mod_self_right, Nat.mod_eq_of_lt h,
    Nat.add_mul_div_right _ _ span_pos, Nat.div_eq_of_lt h, Nat.zero_add, Nat.add_sub_cancel]
  rfl

/-- The steps of a magnitude that is given by a significand and the number of
dropped places.  A significand of 54 places is let in; it is the carry. -/
theorem steps_add {M E : Nat} (small : M ≤ 2 * span) (full : E = 0 ∨ span ≤ M) :
    steps (M + E * span) = M * 2 ^ E := by
  rcases Nat.lt_or_ge M span with less | more
  · have none_dropped : E = 0 := full.resolve_right (Nat.not_le.mpr less)
    subst none_dropped
    rw [Nat.zero_mul, Nat.add_zero, steps_of_lt less, Nat.pow_zero, Nat.mul_one]
  · rcases Nat.lt_or_ge M (2 * span) with within | carry
    · have parts := steps_full (r := M - span) (by omega) E
      rwa [show M - span + (E + 1) * span = M + E * span by rw [Nat.succ_mul]; omega,
        show span + (M - span) = M by omega] at parts
    · obtain rfl : M = 2 * span := Nat.le_antisymm small carry
      have next := steps_full (r := 0) span_pos (E + 1)
      rw [show 0 + (E + 1 + 1) * span = 2 * span + E * span by ring] at next
      rw [next]
      ring

theorem exists_significand (b : Nat) :
    ∃ M E : Nat, b = M + E * span ∧ M < 2 * span ∧ (E = 0 ∨ span ≤ M) := by
  rcases Nat.lt_or_ge b span with less | more
  · exact ⟨b, 0, by omega, by omega, .inl rfl⟩
  · have parts := Nat.div_add_mod' b span
    have rest := Nat.mod_lt b span_pos
    have one : 1 ≤ b / span := (Nat.one_le_div_iff span_pos).mpr more
    refine ⟨span + b % span, b / span - 1, ?_, by omega, .inr (Nat.le_add_right _ _)⟩
    have whole : (b / span - 1) * span + span = b / span * span := by
      rw [← Nat.succ_mul, Nat.succ_eq_add_one, Nat.sub_add_cancel one]
    omega

theorem strictMono_steps : StrictMono steps := by
  refine strictMono_nat_of_lt_succ fun b => ?_
  obtain ⟨M, E, rfl, small, full⟩ := exists_significand b
  have next := steps_add (M := M + 1) (E := E) small (full.imp_right Nat.le_succ_of_le)
  rw [Nat.add_right_comm] at next
  rw [steps_add small.le full, next]
  exact Nat.mul_lt_mul_of_pos_right M.lt_succ_self (Nat.two_pow_pos E)

/-! ## Nearness -/

/-- The magnitude `b` is the nearest one to `num / den` least steps, and the even
one of two that are equally near. -/
structure IsNearest (num den b : Nat) : Prop where
  low : (steps (b - 1) + steps b) * den ≤ 2 * num
  high : 2 * num ≤ (steps b + steps (b + 1)) * den
  tie : 2 * num = (steps (b - 1) + steps b) * den ∨ 2 * num = (steps b + steps (b + 1)) * den →
    b % 2 = 0

/-- The order of two numbers is the order of the magnitudes nearest to them. -/
theorem IsNearest.mono {num den b num' den' b' : Nat} (h : IsNearest num den b)
    (h' : IsNearest num' den' b') (pos : 0 < den) (pos' : 0 < den')
    (le : num * den' ≤ num' * den) : b ≤ b' := by
  by_contra less
  rw [Nat.not_le] at less
  have above : steps (b' + 1) ≤ steps b := strictMono_steps.monotone less
  have below : steps b' ≤ steps (b - 1) := strictMono_steps.monotone (Nat.le_sub_one_of_lt less)
  -- both numbers lie on the point halfway from `b'` to `b`, as there is no room between
  have least : 2 * num' * den ≤ (steps b' + steps (b' + 1)) * den' * den :=
    Nat.mul_le_mul_right den h'.high
  have greatest : (steps (b - 1) + steps b) * den * den' ≤ 2 * num * den' :=
    Nat.mul_le_mul_right den' h.low
  have room : (steps b' + steps (b' + 1)) * (den * den')
      ≤ (steps (b - 1) + steps b) * (den * den') :=
    Nat.mul_le_mul_right _ (Nat.add_le_add below above)
  have both : (steps (b - 1) + steps b) * (den * den')
      ≤ (steps b' + steps (b' + 1)) * (den * den') := by
    linarith
  have middle := Nat.le_of_mul_le_mul_right both (Nat.mul_pos pos pos')
  have adjacent : b = b' + 1 := strictMono_steps.injective (by omega)
  have even : b % 2 = 0 :=
    h.tie (.inl (Nat.eq_of_mul_eq_mul_right pos' (by linarith)))
  have even' : b' % 2 = 0 :=
    h'.tie (.inr (Nat.eq_of_mul_eq_mul_right pos (by linarith)))
  omega

theorem IsNearest.unique {num den b b' : Nat} (h : IsNearest num den b)
    (h' : IsNearest num den b') (pos : 0 < den) : b = b' :=
  Nat.le_antisymm (h.mono h' pos pos (Nat.le_refl _)) (h'.mono h pos pos (Nat.le_refl _))

/-- A whole number of steps that is a magnitude's own is nearest to it. -/
theorem isNearest_steps {den : Nat} (pos : 0 < den) (b : Nat) :
    IsNearest (steps b * den) den b where
  low := by
    have below := Nat.mul_le_mul_right den (strictMono_steps.monotone (Nat.sub_le b 1))
    linarith
  high := by
    have above := Nat.mul_le_mul_right den (strictMono_steps.monotone (Nat.le_succ b))
    linarith
  tie := by
    have twice : 2 * (steps b * den) = (steps b + steps b) * den := by ring
    rw [twice]
    rintro (same | same)
    · have := Nat.eq_of_mul_eq_mul_right pos same
      have : b = b - 1 := strictMono_steps.injective (by omega)
      omega
    · have := Nat.eq_of_mul_eq_mul_right pos same
      have : b = b + 1 := strictMono_steps.injective (by omega)
      omega

/-- A number between two neighbours that is nearer to the lower one. -/
theorem isNearest_lower {num den b u r : Nat} (pos : 0 < den) (number : num = steps b * den + r)
    (gap : steps (b + 1) * den = steps b * den + u)
    (side : 2 * r < u ∨ 2 * r = u ∧ b % 2 = 0) : IsNearest num den b := by
  have below : steps (b - 1) * den ≤ steps b * den :=
    Nat.mul_le_mul_right den (strictMono_steps.monotone (Nat.sub_le b 1))
  refine ⟨?_, ?_, ?_⟩
  · rw [Nat.add_mul]
    omega
  · rw [Nat.add_mul]
    omega
  · rw [Nat.add_mul, Nat.add_mul]
    rintro (low | high)
    · -- the neighbour below is the magnitude itself only at zero
      have same : steps (b - 1) * den = steps b * den := by omega
      have zero := strictMono_steps.injective (Nat.eq_of_mul_eq_mul_right pos same)
      omega
    · omega

/-- A number between two neighbours that is nearer to the upper one. -/
theorem isNearest_upper {num den b u r : Nat} (pos : 0 < den) (number : num = steps b * den + r)
    (gap : steps (b + 1) * den = steps b * den + u) (within : r ≤ u)
    (side : u < 2 * r ∨ 2 * r = u ∧ b % 2 = 1) : IsNearest num den (b + 1) := by
  have above : steps (b + 1) * den < steps (b + 1 + 1) * den :=
    Nat.mul_lt_mul_of_pos_right (strictMono_steps (Nat.lt_succ_self _)) pos
  refine ⟨?_, ?_, ?_⟩
  · rw [Nat.add_sub_cancel, Nat.add_mul]
    omega
  · rw [Nat.add_mul]
    omega
  · rw [Nat.add_sub_cancel, Nat.add_mul, Nat.add_mul]
    omega

/-! ## The computation finds it -/

/-- The binary places that a number of steps has beyond 53. -/
def dropped (num den : Nat) : Nat := (num / den).log2 + 1 - 53

/-- The magnitude nearest to `num / den` least steps, if there were no greatest
one. -/
def rounded (num den : Nat) : Nat :=
  roundQuotient .toEven num (den * 2 ^ dropped num den) + dropped num den * span

theorem nearest_eq_rounded (num den : Nat) :
    nearest num den = min infinity (rounded (num * 2 ^ depth) den) := by
  simp only [nearest, rounded, dropped, Nat.pow_eq]

/-- What is left when the places are dropped is a significand. -/
theorem significand_of_dropped (num den : Nat) :
    num / (den * 2 ^ dropped num den) < 2 * span ∧
      (dropped num den = 0 ∨ span ≤ num / (den * 2 ^ dropped num den)) := by
  rw [← Nat.div_div_eq_div_mul, dropped, show span = 2 ^ 52 from rfl]
  generalize num / den = q
  have below : q < 2 ^ (q.log2 + 1) := Nat.lt_log2_self
  rcases Nat.lt_or_ge q.log2 53 with short | long
  · have all_kept : q.log2 + 1 - 53 = 0 := by omega
    rw [all_kept, Nat.pow_zero, Nat.div_one]
    have := Nat.pow_le_pow_right (n := 2) (by omega) (show q.log2 + 1 ≤ 53 by omega)
    exact ⟨by omega, .inl rfl⟩
  · have positive : q ≠ 0 := by
      rintro rfl
      exact absurd long (by decide)
    have above : 2 ^ q.log2 ≤ q := Nat.log2_self_le positive
    have pos : 0 < 2 ^ (q.log2 + 1 - 53) := Nat.two_pow_pos _
    refine ⟨?_, .inr ?_⟩
    · rw [Nat.div_lt_iff_lt_mul pos, ← Nat.pow_succ', ← Nat.pow_add,
        show 53 + (q.log2 + 1 - 53) = q.log2 + 1 by omega]
      exact below
    · rw [Nat.le_div_iff_mul_le pos, ← Nat.pow_add,
        show 52 + (q.log2 + 1 - 53) = q.log2 by omega]
      exact above

theorem isNearest_rounded (num : Nat) {den : Nat} (pos : 0 < den) :
    IsNearest num den (rounded num den) := by
  obtain ⟨small, full⟩ := significand_of_dropped num den
  have parts := Nat.div_add_mod num (den * 2 ^ dropped num den)
  have rest := Nat.mod_lt num (Nat.mul_pos pos (Nat.two_pow_pos (dropped num den)))
  have rounds := roundQuotient_toEven num (den * 2 ^ dropped num den)
  rw [rounded]
  revert small full parts rest rounds
  generalize dropped num den = E
  generalize unit : den * 2 ^ E = u
  generalize num / u = M
  generalize num % u = r
  intro small full parts rest rounds
  have here := steps_add small.le full
  have next := steps_add (M := M + 1) (E := E) small (full.imp_right Nat.le_succ_of_le)
  have successor : M + 1 + E * span = M + E * span + 1 := Nat.add_right_comm _ _ _
  have parity : (M + E * span) % 2 = M % 2 := by
    rw [Nat.add_mod, Nat.mul_mod, show span % 2 = 0 from rfl, Nat.mul_zero, Nat.zero_mod,
      Nat.add_zero, Nat.mod_mod]
  have number : num = steps (M + E * span) * den + r := by rw [here, ← parts, ← unit]; ring
  have gap : steps (M + E * span + 1) * den = steps (M + E * span) * den + u := by
    rw [← successor, next, here, ← unit]
    ring
  rcases rounds with ⟨down, side⟩ | ⟨up, side⟩
  · rw [down]
    exact isNearest_lower pos number gap (parity ▸ side)
  · rw [up, successor]
    exact isNearest_upper pos number gap rest.le (parity ▸ side)

/-- What is nearest is what is computed, but for what lies beyond the greatest
double. -/
theorem nearest_eq {num den b : Nat} (pos : 0 < den) (h : IsNearest (num * 2 ^ depth) den b) :
    nearest num den = min infinity b := by
  rw [nearest_eq_rounded, (isNearest_rounded _ pos).unique h pos]

/-- Rounding keeps the order. -/
theorem nearest_le_nearest {num den num' den' : Nat} (pos : 0 < den) (pos' : 0 < den')
    (le : num * den' ≤ num' * den) : nearest num den ≤ nearest num' den' := by
  have scaled : num * 2 ^ depth * den' ≤ num' * 2 ^ depth * den := by
    rw [Nat.mul_right_comm, Nat.mul_right_comm num']
    exact Nat.mul_le_mul_right _ le
  have le := (isNearest_rounded _ pos).mono (isNearest_rounded _ pos') pos pos' scaled
  rw [nearest_eq_rounded, nearest_eq_rounded]
  omega

/-- A quotient that is a double is rounded to it. -/
theorem nearest_of_steps {num den b : Nat} (pos : 0 < den)
    (exact_value : num * 2 ^ depth = steps b * den) : nearest num den = min infinity b := by
  refine nearest_eq pos ?_
  rw [exact_value]
  exact isNearest_steps pos b

end Double

end Keypad
