/-
# `Keypad.Proofs.Shortest` — what the search for the fewest digits finds

The search goes down from coarse grids to fine ones and stops at the first that
meets the interval.  So what it finds reads back, and the grid before it misses
the interval altogether (`Interval.Finds`).

The second half bounds the digits.  A grid of tens that misses the interval is at
least as wide as the interval, and the interval of a double with its 53 places is
no narrower than 10^-16 of it: seventeen digits are enough
(`shortest_coefficient_lt`).  What is found for a finite magnitude is never more
than what is found for the greatest one (`shortest_le`); next to infinity that is
the bound that matters, for there are decimals of seventeen digits beyond it.
-/
import Keypad.Number.Shortest
import Keypad.Proofs.Nearest

namespace Keypad.Double

/-! ## The search -/

namespace Interval

variable {v : Interval}

/-- Whether neither of the two grid points that enclose the double reads back. -/
def misses (v : Interval) (place : Nat) : Prop :=
  let unit := 2 * 10 ^ place
  v.holds (v.double / unit * unit) = false ∧ v.holds ((v.double / unit + 1) * unit) = false

/-- What is known of the point that a search over the grids up to `10 ^ place`
finds. -/
structure Finds (v : Interval) (place : Nat) (d : Decimal) : Prop where
  holds : v.holds (d.coefficient * (2 * 10 ^ d.place)) = true
  encloses : d.coefficient ≤ v.double / (2 * 10 ^ d.place) + 1
  coarsest : d.place = place ∨ v.misses (d.place + 1)

/-- One grid: a point of it is found, or the next finer one is tried. -/
theorem coarsest_succ (v : Interval) (tie : Tie) (place : Nat) :
    (v.misses place ∧ v.coarsest tie (place + 1) = v.coarsest tie place) ∨
      v.Finds place (v.coarsest tie (place + 1)) := by
  rw [coarsest]
  simp only [Nat.pow_eq]
  split
  · rename_i below above
    refine .inr ⟨?_, ?_, .inl rfl⟩
    · rcases roundQuotient_eq_or tie v.double (2 * 10 ^ place) with down | up
      · rw [down]
        exact below
      · rw [up]
        exact above
    · rcases roundQuotient_eq_or tie v.double (2 * 10 ^ place) with down | up
      · exact down ▸ Nat.le_succ _
      · exact up ▸ Nat.le_refl _
  · rename_i below _
    exact .inr ⟨below, Nat.le_succ _, .inl rfl⟩
  · rename_i _ above
    exact .inr ⟨above, Nat.le_refl _, .inl rfl⟩
  · rename_i below above
    exact .inl ⟨⟨below, above⟩, rfl⟩

/-- The search ends with a hit, since the finest grid holds the double itself. -/
theorem finds_coarsest (tie : Tie) (own : v.holds v.double = true) (even : v.double % 2 = 0)
    (place : Nat) : v.Finds place (v.coarsest tie (place + 1)) := by
  induction place with
  | zero =>
      refine (v.coarsest_succ tie 0).resolve_left fun missed => ?_
      have reached := missed.1.1
      rw [Nat.pow_zero, Nat.mul_one, Nat.div_mul_cancel (Nat.dvd_of_mod_eq_zero even), own]
        at reached
      cases reached
  | succ place ih =>
      rcases v.coarsest_succ tie (place + 1) with ⟨missed, next⟩ | found
      · rw [next]
        refine ⟨ih.holds, ih.encloses, .inr ?_⟩
        refine ih.coarsest.elim (fun last => ?_) id
        rw [last]
        exact missed
      · exact found

/-- A grid that misses the interval is at least as wide. -/
theorem width_le_of_misses {place : Nat} (own : v.holds v.double = true)
    (missed : v.misses place) : v.high ≤ v.low + 2 * 10 ^ place := by
  obtain ⟨low, high⟩ := missed
  have pos : 0 < 2 * 10 ^ place := Nat.mul_pos Nat.two_pos (Nat.pow_pos (by omega))
  revert pos low high
  generalize 2 * 10 ^ place = unit
  intro low high pos
  have below : v.double / unit * unit ≤ v.double := Nat.div_mul_le_self _ _
  have above : v.double < v.double / unit * unit + unit := by
    rw [← Nat.add_one_mul, Nat.mul_comm]
    exact Nat.lt_mul_div_succ _ pos
  rw [Nat.add_one_mul] at high
  revert below above low high own
  generalize v.double / unit * unit = point
  simp only [holds]
  split <;> simp only [Bool.and_eq_true, Bool.and_eq_false_iff, decide_eq_true_eq,
    decide_eq_false_iff_not] <;> omega

end Interval

/-! ## The interval of a magnitude -/

theorem pow_five_depth_pos : 0 < 5 ^ depth := Nat.pow_pos (by omega)

/-- What an interval holds, in whatever units its ends are given. -/
theorem Interval.holds_iff {v : Interval} {b unit x : Nat}
    (low : v.low = (steps (b - 1) + steps b) * unit)
    (high : v.high = (steps b + steps (b + 1)) * unit) (closed : v.closed = (b % 2 == 0)) :
    v.holds (2 * x) = true ↔ IsNearest x unit b := by
  rw [Interval.holds, low, high, closed]
  split
  · rename_i even
    rw [Bool.and_eq_true, decide_eq_true_eq, decide_eq_true_eq]
    exact ⟨fun h => ⟨h.1, h.2, fun _ => beq_iff_eq.mp even⟩, fun h => ⟨h.low, h.high⟩⟩
  · rename_i odd
    rw [beq_iff_eq] at odd
    rw [Bool.and_eq_true, decide_eq_true_eq, decide_eq_true_eq]
    refine ⟨fun h => ⟨h.1.le, h.2.le, ?_⟩, fun h => ⟨?_, ?_⟩⟩
    · rintro (same | same)
      · exact absurd same h.1.ne'
      · exact absurd same h.2.ne
    · exact h.low.lt_of_ne fun same => odd (h.tie (.inl same.symm))
    · exact h.high.lt_of_ne fun same => odd (h.tie (.inr same))

theorem low_interval (b : Nat) :
    (interval b).low = (steps (b - 1) + steps b) * 5 ^ depth := by
  simp only [interval, Nat.pow_eq]

theorem high_interval (b : Nat) :
    (interval b).high = (steps b + steps (b + 1)) * 5 ^ depth := by
  simp only [interval, Nat.pow_eq]

/-- A number reads back as the magnitude that is nearest to it. -/
theorem holds_interval_iff {b x : Nat} :
    (interval b).holds (2 * x) = true ↔ IsNearest x (5 ^ depth) b :=
  Interval.holds_iff (low_interval b) (high_interval b) (by rw [interval])

theorem holds_interval_double (b : Nat) : (interval b).holds (interval b).double = true := by
  have double : (interval b).double = 2 * (steps b * 5 ^ depth) := by
    simp only [interval, Nat.pow_eq]
    ring
  rw [double, holds_interval_iff]
  exact isNearest_steps pow_five_depth_pos b

theorem even_interval_double (b : Nat) : (interval b).double % 2 = 0 := by
  simp only [interval, Nat.mul_assoc]
  exact Nat.mul_mod_right 2 _

/-- The interval of a magnitude is wide against the magnitude. -/
theorem high_lt_width {b : Nat} (pos : 0 < b) :
    10 * (steps b + steps (b + 1)) + 10 ^ 17 * (steps (b - 1) + steps b)
      < 10 ^ 17 * (steps b + steps (b + 1)) := by
  obtain ⟨M, E, rfl, small, full⟩ := exists_significand b
  have span_eq : span = 4503599627370496 := rfl
  have unit : 0 < 2 ^ E := Nat.two_pow_pos E
  have here := steps_add small.le full
  have next := steps_add (M := M + 1) (E := E) small (full.imp_right Nat.le_succ_of_le)
  rw [Nat.add_right_comm, Nat.add_one_mul] at next
  have narrow : M * 2 ^ E < 9007199254740992 * 2 ^ E :=
    Nat.mul_lt_mul_of_pos_right (by omega) unit
  by_cases edge : M = span ∧ E ≠ 0
  · -- the neighbour below has a smaller exponent, so only that it is below is used
    have below : steps (M + E * span - 1) ≤ M * 2 ^ E := by
      rw [← here]
      exact strictMono_steps.monotone (Nat.sub_le _ 1)
    have least : M * 2 ^ E = 4503599627370496 * 2 ^ E := by rw [edge.1, span_eq]
    rw [here, next]
    linarith only [below, least, unit]
  · obtain ⟨m, rfl⟩ : ∃ m, M = m + 1 := by
      refine Nat.exists_eq_succ_of_ne_zero ?_
      rintro rfl
      rcases full with rfl | large
      · omega
      · exact absurd large (by decide)
    have before := steps_add (M := m) (E := E) (by omega) (by omega)
    have successor : (m + 1) * 2 ^ E = m * 2 ^ E + 2 ^ E := Nat.add_one_mul _ _
    rw [show m + 1 + E * span - 1 = m + E * span by omega, before, here, next, successor]
    linarith only [narrow, successor, unit]

/-! ## The number of digits -/

theorem two_pow_le_ten_pow : 2 ^ 100000 ≤ 10 ^ 30103 := by decide +kernel

theorem lt_ten_pow_decimalPlaces (n : Nat) : n < 10 ^ decimalPlaces n := by
  have binary : n < 2 ^ (n.log2 + 1) := Nat.lt_log2_self
  refine binary.trans_le ((Nat.pow_le_pow_iff_left (n := 100000) (by omega)).mp ?_)
  have places : 30103 * (n.log2 + 1) ≤ decimalPlaces n * 100000 := by
    rw [decimalPlaces]
    omega
  calc (2 ^ (n.log2 + 1)) ^ 100000
      = (2 ^ 100000) ^ (n.log2 + 1) := pow_right_comm 2 _ _
    _ ≤ (10 ^ 30103) ^ (n.log2 + 1) := Nat.pow_le_pow_left two_pow_le_ten_pow _
    _ = 10 ^ (30103 * (n.log2 + 1)) := (pow_mul 10 _ _).symm
    _ ≤ 10 ^ (decimalPlaces n * 100000) := Nat.pow_le_pow_right (by omega) places
    _ = (10 ^ decimalPlaces n) ^ 100000 := pow_mul 10 _ _

variable {tie : Tie} {b : Nat}

theorem finds_shortest (tie : Tie) (b : Nat) :
    (interval b).Finds (decimalPlaces (interval b).double) (shortest tie b) :=
  Interval.finds_coarsest tie (holds_interval_double b) (even_interval_double b) _

/-- The shortest decimal of a magnitude reads back as it. -/
theorem isNearest_shortest (tie : Tie) (b : Nat) :
    IsNearest ((shortest tie b).coefficient * 10 ^ (shortest tie b).place) (5 ^ depth) b := by
  rw [← holds_interval_iff, Nat.mul_left_comm]
  exact (finds_shortest tie b).holds

theorem shortest_coefficient_pos (tie : Tie) (pos : 0 < b) : 0 < (shortest tie b).coefficient := by
  refine Nat.pos_of_ne_zero fun zero => ?_
  have low := (isNearest_shortest tie b).low
  have positive : 0 < steps b := strictMono_steps.lt_iff_lt.mpr pos
  rw [zero, Nat.zero_mul, Nat.mul_zero, Nat.le_zero] at low
  exact (Nat.mul_pos (Nat.add_pos_right _ positive) pow_five_depth_pos).ne' low

/-- A grid point within a wide interval has few digits, if the next coarser grid is
as wide as the interval. -/
theorem coefficient_lt_of_width {low high unit grid c : Nat} (pos : 0 < unit)
    (within : 2 * (c * grid) ≤ high * unit) (width : high * unit ≤ low * unit + 2 * (10 * grid))
    (wide : 10 * high + 10 ^ 17 * low < 10 ^ 17 * high) : c < 10 ^ 17 := by
  have wide := Nat.mul_lt_mul_of_pos_right wide pos
  refine Nat.lt_of_mul_lt_mul_right (a := 20 * grid) ?_
  linarith only [within, width, wide]

theorem shortest_coefficient_lt (tie : Tie) (pos : 0 < b) :
    (shortest tie b).coefficient < 10 ^ 17 := by
  have found := finds_shortest tie b
  rcases found.coarsest with first | missed
  · -- the first grid is wider than the double itself
    have large := lt_ten_pow_decimalPlaces (interval b).double
    rw [← first] at large
    have encloses := found.encloses
    rw [Nat.div_eq_of_lt (large.trans_le (Nat.le_mul_of_pos_left _ Nat.two_pos))] at encloses
    exact encloses.trans_lt (by decide)
  · have width := Interval.width_le_of_misses (holds_interval_double b) missed
    rw [pow_succ', low_interval, high_interval] at width
    exact coefficient_lt_of_width pow_five_depth_pos (isNearest_shortest tie b).high width
      (high_lt_width pos)

/-! ## The greatest double -/

/-- The coefficient of the greatest double, which is that many times 10^292. -/
def greatestCoefficient : Nat := 17976931348623157

theorem shortest_greatest :
    shortest .toEven (infinity - 1) = ⟨greatestCoefficient, 292 + depth⟩ := by decide +kernel

theorem isNearest_greatest :
    IsNearest (greatestCoefficient * 10 ^ (292 + depth)) (5 ^ depth) (infinity - 1) := by
  have nearest := isNearest_shortest .toEven (infinity - 1)
  simp only [shortest_greatest] at nearest
  exact nearest

/-- No finite magnitude has a greater shortest decimal than the greatest one. -/
theorem shortest_le (finite : b < infinity) :
    (shortest .toEven b).coefficient * 10 ^ (shortest .toEven b).place
      ≤ greatestCoefficient * 10 ^ (292 + depth) := by
  rcases Nat.lt_or_ge b (infinity - 1) with less | equal
  · refine Nat.le_of_not_lt fun greater => Nat.not_le.mpr less ?_
    exact isNearest_greatest.mono (isNearest_shortest .toEven b) pow_five_depth_pos
      pow_five_depth_pos (Nat.mul_le_mul_right _ greater.le)
  · obtain rfl : b = infinity - 1 := by omega
    simp only [shortest_greatest, Nat.le_refl]

end Keypad.Double
