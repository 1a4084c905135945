/-
# `Keypad.Proofs.WrittenNumber` — the numeral that a number is written as

Between a double and its text stands a `Numeral`: the digits before and after the
point, and the exponent.  The layout of stored programs chooses it (`Setting`), and it
is put down without further choice (`Numeral.write`).

What a numeral is worth is settled by two numbers: the digits without the point,
and the power of ten that makes up for it (`significand` and `power`).  However
the point is set, these two give the shortest decimal of the double, and the digits
are at most seventeen (`Setting.standsFor`).
-/
import Keypad.Proofs.NumeralText
import Keypad.Proofs.Scaling

namespace Keypad

/-! ## Rows of digits -/

namespace Reading

theorem value_eq (ds : List Char) : value ds = Nat.ofDigitChars 10 ds 0 := rfl

theorem value_toDigits (n : Nat) : value (Nat.toDigits 10 n) = n := Nat.ofDigitChars_ten_toDigits

theorem value_append (ds es : List Char) :
    value (ds ++ es) = 10 ^ es.length * value ds + value es := by
  rw [value_eq, Nat.ofDigitChars_append, Nat.ofDigitChars_eq_ofDigitChars_zero]
  rfl

theorem value_replicate_zero (k : Nat) : value (List.replicate k '0') = 0 := by
  rw [value_eq, Nat.ofDigitChars_replicate_zero, Nat.mul_zero]

theorem isDigit_toDigits (n : Nat) : ∀ c ∈ Nat.toDigits 10 n, c.isDigit = true :=
  fun _ mem => Nat.isDigit_of_mem_toDigits (by omega) (by omega) mem

theorem isDigit_replicate_zero (k : Nat) : ∀ c ∈ List.replicate k '0', c.isDigit = true := by
  intro c mem
  rw [List.eq_of_mem_replicate mem]
  rfl

/-- No positive number is written with a zero in front. -/
theorem head?_toDigits_ne_zero {n : Nat} (pos : 0 < n) : (Nat.toDigits 10 n).head? ≠ some '0' := by
  induction n using Nat.strong_induction_on with
  | h n ih =>
      rcases Nat.lt_or_ge n 10 with single | more
      · have digit : ∀ d < 10, 0 < d → [Nat.digitChar d].head? ≠ some '0' := by decide
        rw [Nat.toDigits_of_lt_base single]
        exact digit n single pos
      · have first := ih (n / 10) (by omega) (by omega)
        obtain ⟨d, ds, parts⟩ :=
          List.exists_cons_of_ne_nil (Nat.toDigits_ne_nil (n := n / 10) (b := 10))
        rw [Nat.toDigits_of_base_le (by omega) more, parts, List.cons_append]
        rwa [parts] at first

theorem lt_ten_pow_length (n : Nat) : n < 10 ^ (Nat.toDigits 10 n).length :=
  (Nat.length_toDigits_le_iff (by omega) Nat.length_toDigits_pos).mp le_rfl

end Reading

namespace Json.Numeral

open Reading Double

/-! ## Putting a numeral down -/

def writeExponent : Option Int → List Char
  | none => []
  | some e => 'e' :: (if e < 0 then '-' else '+') :: Nat.toDigits 10 e.natAbs

/-- The text that is chosen for a numeral. -/
def write (n : Numeral) : List Char :=
  writeSign n.negative ++ (n.whole ++ (writeFraction n.fraction ++ writeExponent n.exponent))

variable {n : Numeral}

theorem exponentText_write (e : Option Int) : ExponentText (writeExponent e) e := by
  cases e with
  | none => exact .absent
  | some e =>
      have row := isDigit_toDigits e.natAbs
      have some_digit : Nat.toDigits 10 e.natAbs ≠ [] := Nat.toDigits_ne_nil
      rcases lt_or_ge e 0 with negative | nonneg
      · have text := ExponentText.present 'e' (.inl rfl) .minus some_digit row
        rw [value_toDigits, if_pos rfl, show (-(e.natAbs : Int)) = e by omega] at text
        rw [writeExponent, if_pos negative]
        exact text
      · have text := ExponentText.present 'e' (.inl rfl) .plus some_digit row
        rw [value_toDigits, if_neg Bool.false_ne_true, show (e.natAbs : Int) = e by omega] at text
        rw [writeExponent, if_neg nonneg.not_gt]
        exact text

theorem WellFormed.writtenAs_write (formed : n.WellFormed) : n.WrittenAs n.write :=
  .intro formed (exponentText_write n.exponent)

/-! ## What a numeral is worth -/

/-- The digits of a numeral, as if there were no point. -/
def significand (n : Numeral) : Nat := Reading.value (n.whole ++ n.fraction.getD [])

/-- The power of ten that makes up for the point. -/
def power (n : Numeral) : Int := n.exponent.getD 0 - (n.fraction.getD []).length

theorem le_ofDigitChars (ds : List Char) (init : Nat) : init ≤ Nat.ofDigitChars 10 ds init := by
  rw [Nat.ofDigitChars_eq_ofDigitChars_zero]
  exact (Nat.le_mul_of_pos_left _ (Nat.pow_pos (by omega))).trans (Nat.le_add_right _ _)

/-- Digits for which there is room are all collected. -/
theorem collect_eq (ds : List Char) :
    ∀ {init : Nat}, Nat.ofDigitChars 10 ds init < Nat.pow 2 64 →
      collect init ds = (Nat.ofDigitChars 10 ds init, []) := by
  induction ds with
  | nil => intro init _; rfl
  | cons d ds ih =>
      intro init room
      have next : 10 * init + (d.toNat - '0'.toNat) < Nat.pow 2 64 :=
        (le_ofDigitChars ds _).trans_lt room
      rw [collect, if_pos next]
      exact ih room

/-- A numeral with few digits is read as its digits and its power of ten. -/
theorem magnitude?_eq (n : Numeral) (room : n.significand < Nat.pow 2 64) :
    n.magnitude? = scale (nearest n.significand 1) n.power := by
  have split : n.significand = Nat.ofDigitChars 10 (n.fraction.getD []) (Reading.value n.whole) :=
    Nat.ofDigitChars_append 0
  have first : collect 0 n.whole = (Reading.value n.whole, []) :=
    collect_eq n.whole ((le_ofDigitChars _ _).trans_lt (split ▸ room))
  have second : collect (Reading.value n.whole) (n.fraction.getD []) = (n.significand, []) := by
    rw [split]
    exact collect_eq _ (split ▸ room)
  rw [magnitude?, first]
  simp only [second]
  congr 1
  rw [power]
  simp only [List.length_nil, Nat.sub_zero]
  omega

/-! ## The five ways to set the point -/

/-- The numerals that the layout of stored programs makes of digits d₀d₁d₂…
standing for d₀.d₁d₂… × 10^e. -/
inductive Setting (negative : Bool) (digits : List Char) (e : Int) : Numeral → Prop
  | small (k : Nat) : e + (k + 1 : Nat) = 0 →
      Setting negative digits e ⟨negative, ['0'], some (List.replicate k '0' ++ digits), none⟩
  | whole (zeros : Nat) : e + 1 = (digits.length + zeros : Nat) → e ≤ 15 →
      Setting negative digits e ⟨negative, digits ++ List.replicate zeros '0', some ['0'], none⟩
  | within (ds fs : List Char) : digits = ds ++ fs → ds ≠ [] → fs ≠ [] → e + 1 = ds.length →
      Setting negative digits e ⟨negative, ds, some fs, none⟩
  | single (d : Char) : digits = [d] → Setting negative digits e ⟨negative, [d], none, some e⟩
  | several (d : Char) (fs : List Char) : digits = d :: fs → fs ≠ [] →
      Setting negative digits e ⟨negative, [d], some fs, some e⟩

variable {negative : Bool} {digits : List Char} {e : Int}

theorem exists_setting_positional (positional : Layout.stored.positional e) :
    ∃ n, Setting negative digits e n ∧
      n.write = writeSign negative ++ Layout.stored.setPositional digits e := by
  have range : -5 ≤ e ∧ e ≤ 15 := by simpa [Layout.stored] using positional
  cases e with
  | negSucc k =>
      refine ⟨_, .small k (by omega), ?_⟩
      simp [write, writeFraction, writeExponent, Layout.setPositional]
  | ofNat k =>
      rw [Layout.setPositional]
      cases rest : digits.drop (k + 1) with
      | nil =>
          have short : digits.length ≤ k + 1 := List.drop_eq_nil_iff.mp rest
          refine ⟨_, .whole (k + 1 - digits.length) ?_ range.2, ?_⟩
          · rw [Int.ofNat_eq_natCast]
            omega
          · simp [write, writeFraction, writeExponent, Layout.stored, List.take_of_length_le short]
      | cons f fs =>
          have long : k + 1 < digits.length := by
            have := congrArg List.length rest
            rw [List.length_drop, List.length_cons] at this
            omega
          refine ⟨_, .within (digits.take (k + 1)) (f :: fs) ?_ ?_ (List.cons_ne_nil f fs) ?_, ?_⟩
          · rw [← rest, List.take_append_drop]
          · refine List.ne_nil_of_length_pos ?_
            rw [List.length_take]
            omega
          · rw [List.length_take, Int.ofNat_eq_natCast]
            omega
          · simp [write, writeFraction, writeExponent, Nat.sub_eq_zero_of_le long.le]

theorem exists_setting_exponent (some_digit : digits ≠ []) (e : Int) :
    ∃ n, Setting negative digits e n ∧
      n.write = writeSign negative ++ Layout.stored.setExponent digits e := by
  have signed : Layout.stored.plusSign = true := rfl
  obtain ⟨d, ds, rfl⟩ := List.exists_cons_of_ne_nil some_digit
  cases ds with
  | nil =>
      refine ⟨_, .single d rfl, ?_⟩
      rw [Layout.setExponent, signed]
      simp only [write, writeFraction, writeExponent]
      split <;> rfl
  | cons f fs =>
      refine ⟨_, .several d (f :: fs) rfl (List.cons_ne_nil f fs), ?_⟩
      rw [Layout.setExponent, signed]
      · simp only [write, writeFraction, writeExponent]
        split <;> simp
      · simp

/-- Whichever way the layout chooses, a numeral is put down. -/
theorem exists_setting (negative : Bool) (some_digit : digits ≠ []) (e : Int) :
    ∃ n, Setting negative digits e n ∧ n.write = writeSign negative ++
      (if Layout.stored.positional e then Layout.stored.setPositional digits e
        else Layout.stored.setExponent digits e) := by
  split
  · rename_i positional
    exact exists_setting_positional positional
  · exact exists_setting_exponent some_digit e

theorem Setting.negative_eq {n : Numeral} (h : Setting negative digits e n) :
    n.negative = negative := by
  cases h <;> rfl

theorem Setting.wellFormed {n : Numeral} (h : Setting negative digits e n)
    (all : ∀ c ∈ digits, c.isDigit = true) (some_digit : digits ≠ [])
    (nonzero : digits.head? ≠ some '0') : n.WellFormed := by
  have zeros := isDigit_replicate_zero
  cases h with
  | small k =>
      refine ⟨by simp, fun _ => rfl, by simp, by simp [some_digit], ?_⟩
      intro ds same c mem
      cases same
      rcases List.mem_append.mp mem with zero | digit
      · exact zeros k c zero
      · exact all c digit
  | whole k =>
      obtain ⟨d, ds, rfl⟩ := List.exists_cons_of_ne_nil some_digit
      refine ⟨by simp, fun zero => absurd zero nonzero, ?_, by simp, by simp⟩
      intro c mem
      rcases List.mem_append.mp mem with digit | zero
      · exact all c digit
      · exact zeros k c zero
  | within ds fs parts first more =>
      subst parts
      obtain ⟨d, ds, rfl⟩ := List.exists_cons_of_ne_nil first
      refine ⟨first, fun zero => absurd zero nonzero, ?_, by simp [more], ?_⟩
      · exact fun c mem => all c (List.mem_append_left fs mem)
      · intro fs' same c mem
        cases same
        exact all c (List.mem_append_right (d :: ds) mem)
  | single d one =>
      subst one
      exact ⟨some_digit, fun zero => absurd zero nonzero, all, by simp, by simp⟩
  | several d fs parts more =>
      subst parts
      refine ⟨List.cons_ne_nil d [], fun zero => absurd zero nonzero, ?_, by simp [more], ?_⟩
      · intro c mem
        rw [List.mem_singleton.mp mem]
        exact all d List.mem_cons_self
      · intro fs' same c mem
        cases same
        exact all c (List.mem_cons_of_mem d mem)

/-- The digits and the power of ten are those of the decimal, unless zeros were
added up to the point and one beyond it. -/
theorem Setting.significand_power {n : Numeral} (h : Setting negative digits e n) :
    (n.significand = Reading.value digits ∧ n.power + digits.length = e + 1) ∨
      ∃ k : Nat, n.significand = 10 ^ (k + 1) * Reading.value digits ∧ n.power = -1 ∧
        e + 1 = (digits.length + k : Nat) ∧ e ≤ 15 := by
  cases h with
  | small k exponent =>
      refine .inl ⟨?_, ?_⟩
      · show Reading.value ('0' :: (List.replicate k '0' ++ digits)) = _
        rw [← List.cons_append, ← List.replicate_succ, value_append, value_replicate_zero,
          Nat.mul_zero, Nat.zero_add]
      · simp only [power, Option.getD_none, Option.getD_some, List.length_append,
          List.length_replicate]
        omega
  | whole k exponent bounded =>
      refine .inr ⟨k, ?_, rfl, exponent, bounded⟩
      show Reading.value (digits ++ List.replicate k '0' ++ ['0']) = _
      rw [List.append_assoc, ← List.replicate_succ', value_append, value_replicate_zero,
        List.length_replicate, Nat.add_zero]
  | within ds fs parts first more exponent =>
      subst parts
      refine .inl ⟨rfl, ?_⟩
      simp only [power, Option.getD_none, Option.getD_some, List.length_append]
      omega
  | single d one =>
      subst one
      refine .inl ⟨rfl, ?_⟩
      simp [power]
  | several d fs parts more =>
      subst parts
      refine .inl ⟨rfl, ?_⟩
      simp only [power, Option.getD_some, List.length_cons]
      omega

/-! ## The numeral of a decimal, and of a number -/

/-- What a numeral that was chosen for a decimal has. -/
structure StandsFor (n : Numeral) (d : Decimal) : Prop where
  formed : n.WellFormed
  worth : IsWorth n.significand n.power d
  digits : n.significand < 10 ^ 17
  pos : 0 ≤ n.power → 0 < n.significand

theorem isWorth_of_place {c place : Nat} {x : Int} (power : x + depth = place) :
    IsWorth c x ⟨c, place⟩ := by
  have balance : x.toNat + depth = place + (-x).toNat := by omega
  rw [IsWorth, mul_assoc, mul_assoc, ← pow_add, ← pow_add, balance]

theorem isWorth_of_zeros {c place k : Nat} (zeros : place = depth + k) :
    IsWorth (10 ^ (k + 1) * c) (-1) ⟨c, place⟩ := by
  subst zeros
  rw [IsWorth, pow_add, pow_add]
  simp only [Int.reduceNeg, Int.neg_neg, Int.toNat_one, Int.reduceToNat, pow_zero, pow_one, mul_one]
  ring

theorem Setting.standsFor {n : Numeral} {d : Decimal}
    (h : Setting negative (Nat.toDigits 10 d.coefficient) e n) (pos : 0 < d.coefficient)
    (short : d.coefficient < 10 ^ 17)
    (exponent : e = ((Nat.toDigits 10 d.coefficient).length + d.place : Nat) - (depth + 1 : Nat)) :
    n.StandsFor d := by
  have formed := h.wellFormed (isDigit_toDigits _) Nat.toDigits_ne_nil (head?_toDigits_ne_zero pos)
  have below := lt_ten_pow_length d.coefficient
  rcases h.significand_power with ⟨digits, power⟩ | ⟨k, digits, power, length, bounded⟩
  · rw [value_toDigits] at digits
    refine ⟨formed, ?_, digits ▸ short, fun _ => digits ▸ pos⟩
    rw [digits]
    exact isWorth_of_place (by omega)
  · rw [value_toDigits] at digits
    refine ⟨formed, ?_, ?_, fun nonneg => ?_⟩
    · rw [digits, power]
      exact isWorth_of_zeros (by omega)
    · calc n.significand = 10 ^ (k + 1) * d.coefficient := digits
        _ < 10 ^ (k + 1) * 10 ^ (Nat.toDigits 10 d.coefficient).length :=
          Nat.mul_lt_mul_of_pos_left below (pow_pos (by omega) _)
        _ = 10 ^ (k + 1 + (Nat.toDigits 10 d.coefficient).length) := (pow_add ..).symm
        _ ≤ 10 ^ 17 := pow_le_pow_right₀ (by omega) (by omega)
    · omega

end Json.Numeral

end Keypad
