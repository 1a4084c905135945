/-
# `Keypad.Proofs.Rereading` — a number that is written and read again

Every finite number is written as a numeral (`exists_writtenAs_writeNumber`), so it is
read again wherever it stands in an array, and what is read is a finite number with the
same sign.  It need not be the same number (`reread`), for the three roundings of reading
do not always lead to the nearest double.  They do when the digits of the text, taken
without the point, are at most 2^53 and the power of ten that makes up for the point is
at most 10^22 either way (`ReadsExactly.reread_eq`).
-/
import Keypad.Proofs.Bits
import Keypad.Proofs.WrittenNumber

namespace Keypad.Json

open Numeral Double

/-- What the text of a number is read as. -/
def reread (x : Float) : Float :=
  ((Numeral.read (writeNumber x)).bind fun (numeral, _) => numeral.toFloat?).getD x

/-! ## The numeral of a number -/

/-- What is known of the numeral that stands for a number. -/
structure Writes (x : Float) (n : Numeral) (d : Decimal) : Prop where
  text : writeNumber x = n.write
  negative : n.negative = Double.negative x
  stands : n.StandsFor d
  nearest : IsNearest (d.coefficient * 10 ^ d.place) (5 ^ depth) (magnitude x)
  bounded : d.coefficient * 10 ^ d.place ≤ greatestCoefficient * 10 ^ (292 + depth)

theorem writeNumber_eq {x : Float} (finite : x.isFinite = true) :
    writeNumber x = writeSign (Double.negative x) ++
      (if magnitude x = 0 then ['0', '.', '0'] else Layout.stored.setMagnitude (magnitude x)) := by
  have below : magnitude x ≠ infinity := ((isFinite_iff x).mp finite).ne
  have pointZero : Layout.stored.pointZero = true := rfl
  rw [writeNumber, if_pos finite, Layout.write, isNaN_eq_false finite]
  simp only [Bool.false_eq_true, if_false, below, pointZero, if_true, String.toList_ofList,
    writeSign]
  split <;> rfl

theorem standsFor_zero (negative : Bool) :
    StandsFor ⟨negative, ['0'], some ['0'], none⟩ ⟨0, 0⟩ where
  formed := ⟨by simp, fun _ => rfl, by simp, by simp, by simp⟩
  worth := by
    have zero : Numeral.significand ⟨negative, ['0'], some ['0'], none⟩ = 0 := rfl
    rw [IsWorth, zero, zero_mul, zero_mul, zero_mul, zero_mul]
  digits := by
    show 0 < 10 ^ 17
    exact pow_pos (by omega) 17
  pos := by
    have power : Numeral.power ⟨negative, ['0'], some ['0'], none⟩ = -1 := rfl
    omega

/-- The numeral that the layout of stored programs chooses for a positive finite
magnitude. -/
theorem exists_standsFor (negative : Bool) {b : Nat} (pos : 0 < b) :
    ∃ n : Numeral, n.negative = negative ∧ n.StandsFor (shortest .toEven b) ∧
      n.write = writeSign negative ++ Layout.stored.setMagnitude b := by
  obtain ⟨n, setting, text⟩ := exists_setting negative
    (Nat.toDigits_ne_nil (n := (shortest .toEven b).coefficient) (b := 10))
    (((Nat.toDigits 10 (shortest .toEven b).coefficient).length + (shortest .toEven b).place : Nat)
      - (depth + 1 : Nat))
  exact ⟨n, setting.negative_eq, setting.standsFor (shortest_coefficient_pos .toEven pos)
    (shortest_coefficient_lt .toEven pos) rfl, text⟩

theorem writes_zero {x : Float} (finite : x.isFinite = true) (zero : magnitude x = 0) :
    Writes x ⟨Double.negative x, ['0'], some ['0'], none⟩ ⟨0, 0⟩ where
  text := by
    rw [writeNumber_eq finite, if_pos zero]
    rfl
  negative := rfl
  stands := standsFor_zero _
  nearest := by
    have own := isNearest_steps pow_five_depth_pos 0
    rw [steps_zero] at own
    simpa only [zero, zero_mul] using own
  bounded := by simp only [zero_mul, Nat.zero_le]

/-- Every finite number is written as a numeral that stands for its shortest
decimal. -/
theorem exists_writes {x : Float} (finite : x.isFinite = true) : ∃ n d, Writes x n d := by
  by_cases zero : magnitude x = 0
  · exact ⟨_, _, writes_zero finite zero⟩
  · obtain ⟨n, negative, stands, text⟩ :=
      exists_standsFor (Double.negative x) (Nat.pos_of_ne_zero zero)
    refine ⟨n, _, ?_, negative, stands, isNearest_shortest .toEven _,
      shortest_le ((isFinite_iff x).mp finite)⟩
    rw [writeNumber_eq finite, if_neg zero, text]

/-! ## Reading it again -/

section

variable {x : Float} {n : Numeral} {d : Decimal}

theorem Writes.read (w : Writes x n d) : Numeral.read (writeNumber x) = some (n, []) := by
  rw [w.text]
  exact read_eq_iff.mpr w.stands.formed.writtenAs_write

theorem Writes.numeral_eq (w : Writes x n d) {n' : Numeral}
    (parts : Numeral.read (writeNumber x) = some (n', [])) : n' = n := by
  have own := w.read
  rw [parts] at own
  cases own
  rfl

theorem Writes.magnitude?_eq (w : Writes x n d) :
    n.magnitude? = scale (Double.nearest n.significand 1) n.power :=
  Numeral.magnitude?_eq n (w.stands.digits.trans (by decide))

/-- The numeral of a finite number is read as a finite number of the same sign. -/
theorem Writes.exists_toFloat? (w : Writes x n d) :
    ∃ r < infinity, n.toFloat? = some (ofMagnitude (Double.negative x) r) := by
  obtain ⟨r, finite, scaled⟩ := exists_scale w.stands.digits w.stands.pos w.stands.worth w.bounded
  refine ⟨r, finite, ?_⟩
  rw [toFloat?, w.magnitude?_eq, scaled, w.negative]
  rfl

theorem Writes.toFloat? (w : Writes x n d) : n.toFloat? = some (reread x) := by
  obtain ⟨r, -, read⟩ := w.exists_toFloat?
  simp only [reread, w.read, Option.bind_some, read, Option.getD_some]

/-- A finite number is written as a numeral that is in range. -/
theorem exists_writtenAs_writeNumber (finite : x.isFinite = true) :
    ∃ n : Numeral, n.WrittenAs (writeNumber x) ∧ n.toFloat? = some (reread x) := by
  obtain ⟨n, d, w⟩ := exists_writes finite
  refine ⟨n, ?_, w.toFloat?⟩
  rw [w.text]
  exact w.stands.formed.writtenAs_write

theorem exists_reread_eq (finite : x.isFinite = true) :
    ∃ r < infinity, reread x = ofMagnitude (Double.negative x) r := by
  obtain ⟨n, d, w⟩ := exists_writes finite
  obtain ⟨r, below, read⟩ := w.exists_toFloat?
  exact ⟨r, below, Option.some.inj (w.toFloat?.symm.trans read)⟩

theorem isFinite_reread (finite : x.isFinite = true) : (reread x).isFinite = true := by
  obtain ⟨r, below, same⟩ := exists_reread_eq finite
  rw [same]
  exact isFinite_ofMagnitude _ below

theorem negative_reread (finite : x.isFinite = true) :
    Double.negative (reread x) = Double.negative x := by
  obtain ⟨r, below, same⟩ := exists_reread_eq finite
  rw [same]
  exact negative_ofMagnitude _ below

/-- A number whose text has digits that are at most 2^53, taken without the point,
and a power of ten of at most 10^22 either way. -/
def ReadsExactly (x : Float) : Prop :=
  ∃ n : Numeral, Numeral.read (writeNumber x) = some (n, []) ∧
    n.significand ≤ 2 ^ 53 ∧ n.power.natAbs ≤ 22

/-- Such a number is read as it was. -/
theorem ReadsExactly.reread_eq (h : ReadsExactly x) (finite : x.isFinite = true) :
    reread x = x := by
  obtain ⟨n, parts, digits, power⟩ := h
  obtain ⟨n', d, w⟩ := exists_writes finite
  obtain rfl := w.numeral_eq parts
  have scaled := scale_exact digits power w.stands.worth w.nearest ((isFinite_iff x).mp finite)
  have read : n.toFloat? = some x := by
    rw [Numeral.toFloat?, w.magnitude?_eq, scaled, w.negative, Option.map_some,
      ofMagnitude_magnitude]
  exact Option.some.inj (w.toFloat?.symm.trans read)

end

end Keypad.Json
