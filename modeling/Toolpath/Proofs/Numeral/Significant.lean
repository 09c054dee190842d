/-
Toolpath/Proofs/Numeral/Significant.lean

Rounding to six significant digits.  A number that is not zero has six digits before the point in
units of just one power of ten, and there it is rounded to the nearest integer (`SixDigits`); this
is what is written of it (`exists_sixDigits`), in whatever digits its decimal was given.

So a number has the text of `n · 10 ^ p`, where `n` has six digits and is even, just if it is at
most half a unit of the sixth digit away (`write_eq_iff`): the ends belong to it because a tie goes
to the even digit.
-/
import Mathlib.Algebra.Order.Ring.Abs
import Mathlib.Tactic.Linarith
import Toolpath.Number.Significant
import Toolpath.Proofs.Double.WholePart
import Toolpath.Proofs.Numeral.Layout

namespace Toolpath

open Double

/-! ### Rounding a quotient -/

open Float.Model.UnpackedFloat in
/-- A quotient is rounded as the arithmetic of doubles rounds what lies beyond a mantissa, to the
nearest integer and in the middle to the even one. -/
theorem nearestEven_roundDiv (num : ℕ) {den : ℕ} (hd : 0 < den) :
    NearestEven (num / den) (roundDiv num den) := by
  have beyond := (approximates_div num hd).nearestEven_round
  have same : (accuracyOfFraction (num % den) den).roundToNearestEven (num / den)
      = roundDiv num den := by
    rw [accuracyOfFraction, roundDiv]
    generalize num / den = q
    generalize num % den = r
    by_cases none : r = 0
    · rw [if_pos none, if_pos (.inl (by omega))]
      rfl
    rw [if_neg none]
    rcases lt_trichotomy (2 * r) den with less | half | more
    · rw [compare_lt_iff_lt.2 less, if_pos (.inl less)]
      rfl
    · rw [compare_eq_iff_eq.2 half]
      show q + q % 2 = if 2 * r < den ∨ (2 * r = den ∧ q % 2 = 0) then q else q + 1
      split <;> omega
    · rw [compare_gt_iff_gt.2 more, if_neg (by omega)]
      rfl
  rwa [same] at beyond

theorem roundDiv_one (n : ℕ) : roundDiv n 1 = n := by
  simpa using roundDiv_mul_self n Nat.one_pos

/-! ### Powers of ten -/

theorem ten_zpow_pos (p : ℤ) : (0 : ℚ) < 10 ^ p :=
  zpow_pos (by norm_num) p

/-- Six digits in one unit can be less than six digits in another one only if it is no larger. -/
theorem le_of_mul_ten_zpow_lt {p t : ℤ} (h : (10 : ℚ) ^ 5 * 10 ^ p < 10 ^ 6 * 10 ^ t) : p ≤ t := by
  have powers : (10 : ℚ) ^ (5 + p) < 10 ^ (6 + t) := by
    rw [zpow_add₀ (by norm_num), zpow_add₀ (by norm_num)]
    exact h
  have := (zpow_lt_zpow_iff_right₀ (by norm_num)).1 powers
  omega

namespace Significant

/-! ### Six digits -/

/-- In units of `10 ^ p` the number `r` has six digits before the point and is rounded to `n`. -/
structure SixDigits (r : ℚ) (n : ℕ) (p : ℤ) : Prop where
  lower : 10 ^ 5 * 10 ^ p ≤ r
  upper : r < 10 ^ 6 * 10 ^ p
  near : |r - n * 10 ^ p| ≤ 10 ^ p / 2
  even : |r - n * 10 ^ p| = 10 ^ p / 2 → Even n

namespace SixDigits

variable {r : ℚ} {n : ℕ} {p : ℤ}

/-- The distance in units of `10 ^ p`. -/
theorem abs_sub_mul_ten_zpow (r : ℚ) (n : ℕ) (p : ℤ) :
    |r - n * 10 ^ p| = |r / 10 ^ p - n| * 10 ^ p := by
  have unit := ten_zpow_pos p
  have split : r - n * 10 ^ p = (r / 10 ^ p - n) * 10 ^ p := by
    rw [sub_mul, div_mul_cancel₀ r unit.ne']
  rw [split, abs_mul, abs_of_pos unit]

/-- The integer nearest to the number in these units. -/
theorem nearestEven_div_iff :
    NearestEven (r / 10 ^ p) n
      ↔ |r - n * 10 ^ p| ≤ 10 ^ p / 2 ∧ (|r - n * 10 ^ p| = 10 ^ p / 2 → Even n) := by
  have unit := ten_zpow_pos p
  have half : (10 : ℚ) ^ p / 2 = 1 / 2 * 10 ^ p := by ring
  rw [abs_sub_mul_ten_zpow, half, mul_le_mul_iff_left₀ unit, mul_left_inj' unit.ne']
  exact ⟨fun h => ⟨h.near, h.even⟩, fun h => ⟨h.1, h.2⟩⟩

theorem nearestEven (h : SixDigits r n p) : NearestEven (r / 10 ^ p) n :=
  nearestEven_div_iff.2 ⟨h.near, h.even⟩

theorem pos (h : SixDigits r n p) : 0 < r := by
  have unit := ten_zpow_pos p
  have lower := h.lower
  linarith

/-- Rounding may lead to a million, but to no less than six digits. -/
theorem le_natCast (h : SixDigits r n p) : 10 ^ 5 ≤ n ∧ n ≤ 10 ^ 6 := by
  have unit := ten_zpow_pos p
  obtain ⟨below, above⟩ := abs_le.1 h.nearestEven.near
  have lower : (10 : ℚ) ^ 5 ≤ r / 10 ^ p := (le_div_iff₀ unit).2 h.lower
  have upper : r / 10 ^ p < 10 ^ 6 := (div_lt_iff₀ unit).2 h.upper
  have least : (10 : ℚ) ^ 5 < n + 1 := by linarith
  have most : (n : ℚ) < 10 ^ 6 + 1 := by linarith
  have least : 10 ^ 5 < n + 1 := by exact_mod_cast least
  have most : n < 10 ^ 6 + 1 := by exact_mod_cast most
  omega

theorem mul_bounds (h : SixDigits r n p) :
    (10 : ℚ) ^ 5 * 10 ^ p ≤ n * 10 ^ p ∧ (n : ℚ) * 10 ^ p ≤ 10 ^ 6 * 10 ^ p := by
  obtain ⟨least, most⟩ := h.le_natCast
  have unit := ten_zpow_pos p
  exact ⟨mul_le_mul_of_nonneg_right (by exact_mod_cast least) unit.le,
    mul_le_mul_of_nonneg_right (by exact_mod_cast most) unit.le⟩

/-- A number has six digits in one unit only, and is rounded to one number. -/
theorem unique {k : ℕ} {t : ℤ} (h : SixDigits r n p) (h' : SixDigits r k t) : n = k ∧ p = t := by
  obtain rfl := le_antisymm (le_of_mul_ten_zpow_lt (h.lower.trans_lt h'.upper))
    (le_of_mul_ten_zpow_lt (h'.lower.trans_lt h.upper))
  exact ⟨h.nearestEven.unique h'.nearestEven, rfl⟩

/-- Rounded to a million, a number above it has six digits in the next unit. -/
theorem of_million (above : 10 ^ 6 * 10 ^ p ≤ r) (near : r - 10 ^ 6 * 10 ^ p ≤ 10 ^ p / 2) :
    SixDigits r (10 ^ 5) (p + 1) := by
  have unit := ten_zpow_pos p
  have coarser : (10 : ℚ) ^ (p + 1) = 10 * 10 ^ p := by
    rw [zpow_add_one₀ (by norm_num), mul_comm]
  have close : |r - (10 ^ 5 : ℕ) * 10 ^ (p + 1)| < 10 ^ (p + 1) / 2 := by
    rw [coarser]
    push_cast
    exact abs_lt.2 ⟨by linarith, by linarith⟩
  refine ⟨?_, ?_, close.le, fun half => absurd half close.ne⟩
  · rw [coarser]
    linarith
  · rw [coarser]
    linarith

/-- Just below the least six digits a number has six digits in the unit before. -/
theorem of_below (below : r < 10 ^ 5 * 10 ^ p) (near : 20 * (10 ^ 5 * 10 ^ p - r) ≤ 10 ^ p) :
    SixDigits r (10 ^ 6) (p - 1) := by
  have unit := ten_zpow_pos (p - 1)
  have finer : (10 : ℚ) ^ p = 10 * 10 ^ (p - 1) := by
    rw [← zpow_one_add₀ (by norm_num), add_sub_cancel]
  rw [finer] at below near
  refine ⟨?_, ?_, ?_, fun _ => by decide⟩
  · linarith
  · linarith
  · push_cast
    exact abs_le.2 ⟨by linarith, by linarith⟩

/-- What has six digits itself is not rounded. -/
theorem of_natCast (least : 10 ^ 5 ≤ n) (most : n < 10 ^ 6) (p : ℤ) :
    SixDigits (n * 10 ^ p) n p := by
  have unit := ten_zpow_pos p
  have least : (10 : ℚ) ^ 5 ≤ n := by exact_mod_cast least
  have most : (n : ℚ) < 10 ^ 6 := by exact_mod_cast most
  have exact : |(n : ℚ) * 10 ^ p - n * 10 ^ p| = 0 := by rw [sub_self, abs_zero]
  exact ⟨mul_le_mul_of_nonneg_right least unit.le, mul_lt_mul_of_pos_right most unit,
    exact ▸ (half_pos unit).le, fun half => absurd (exact.symm.trans half) (half_pos unit).ne⟩

end SixDigits

/-! ### Rounding to six digits -/

/-- The number of digits that are rounded away. -/
def surplus (d : Decimal) : ℕ :=
  (Decimal.digits d.coefficient).length - digitCount

theorem coefficient_lt (d : Decimal) : d.coefficient < 10 ^ (6 + surplus d) := by
  refine (Nat.length_toDigits_le_iff (by decide) (by omega)).1 ?_
  show (Decimal.digits d.coefficient).length ≤ 6 + ((Decimal.digits d.coefficient).length - 6)
  omega

/-- What is rounded has six digits at least. -/
theorem le_coefficient {d : Decimal} (h : 0 < surplus d) :
    10 ^ (5 + surplus d) ≤ d.coefficient := by
  refine Nat.not_lt.1 fun small => ?_
  have few := (Nat.length_toDigits_le_iff (by decide) (by omega)).2 small
  have many : surplus d = (Nat.toDigits 10 d.coefficient).length - 6 := rfl
  omega

@[simp] theorem negative_round (d : Decimal) : (round d).negative = d.negative := rfl

/-- A number with six digits or fewer is kept. -/
theorem size_round_of_short {d : Decimal} (h : surplus d = 0) : (round d).size = d.size := by
  have coefficient : (round d).coefficient = d.coefficient := by
    show roundDiv d.coefficient (10 ^ surplus d) = _
    rw [h, Nat.pow_zero, roundDiv_one]
  have exponent : (round d).exponent = d.exponent := by
    show d.exponent + surplus d = _
    rw [h, Nat.cast_zero, add_zero]
  rw [Decimal.size, Decimal.size, coefficient, exponent]

theorem size_round_of_zero {d : Decimal} (h : d.coefficient = 0) : (round d).size = 0 := by
  have short : surplus d = 0 := by
    rw [surplus, h]
    decide
  rw [size_round_of_short short, Decimal.size, h, Nat.cast_zero, zero_mul]

/-- A number below a million gets six digits from zeros at its end. -/
theorem exists_mul_ten_pow {c : ℕ} (h0 : 0 < c) (hc : c < 10 ^ 6) :
    ∃ k, 10 ^ 5 ≤ c * 10 ^ k ∧ c * 10 ^ k < 10 ^ 6 := by
  by_cases h1 : c < 10
  · exact ⟨5, by omega, by omega⟩
  by_cases h2 : c < 10 ^ 2
  · exact ⟨4, by omega, by omega⟩
  by_cases h3 : c < 10 ^ 3
  · exact ⟨3, by omega, by omega⟩
  by_cases h4 : c < 10 ^ 4
  · exact ⟨2, by omega, by omega⟩
  by_cases h5 : c < 10 ^ 5
  · exact ⟨1, by omega, by omega⟩
  · exact ⟨0, by omega, by omega⟩

/-- A decimal with few digits has six digits itself, when zeros are put after them. -/
theorem exists_sixDigits_of_short {d : Decimal} (h0 : d.coefficient ≠ 0) (short : surplus d = 0) :
    ∃ n p, SixDigits d.size n p ∧ d.size = n * 10 ^ p := by
  have few : d.coefficient < 10 ^ 6 := by
    have few := coefficient_lt d
    rwa [short] at few
  obtain ⟨k, least, most⟩ := exists_mul_ten_pow (Nat.pos_of_ne_zero h0) few
  have size : d.size = (d.coefficient * 10 ^ k : ℕ) * 10 ^ (d.exponent - k) := by
    rw [Decimal.size, zpow_sub₀ (by norm_num), zpow_natCast]
    push_cast
    field_simp
  refine ⟨d.coefficient * 10 ^ k, d.exponent - k, ?_, size⟩
  rw [size]
  exact .of_natCast least most _

/-- Of a decimal with more digits those after the sixth are rounded away. -/
theorem sixDigits_of_long {d : Decimal} (long : 0 < surplus d) :
    SixDigits d.size (round d).coefficient (round d).exponent := by
  show SixDigits d.size (roundDiv d.coefficient (10 ^ surplus d)) (d.exponent + surplus d)
  have place : (0 : ℚ) < (10 ^ surplus d : ℕ) := by positivity
  have unit := ten_zpow_pos (d.exponent + surplus d)
  have size : d.size = d.coefficient / (10 ^ surplus d : ℕ) * 10 ^ (d.exponent + surplus d) := by
    rw [Decimal.size, zpow_add₀ (by norm_num), zpow_natCast]
    push_cast
    field_simp
  have least : (10 : ℚ) ^ 5 ≤ d.coefficient / (10 ^ surplus d : ℕ) := by
    rw [le_div_iff₀ place]
    have least := le_coefficient long
    rw [Nat.pow_add] at least
    exact_mod_cast least
  have most : (d.coefficient : ℚ) / (10 ^ surplus d : ℕ) < 10 ^ 6 := by
    rw [div_lt_iff₀ place]
    have most := coefficient_lt d
    rw [Nat.pow_add] at most
    exact_mod_cast most
  have positive : 0 < 10 ^ surplus d := Nat.pow_pos (by decide)
  have rounded := nearestEven_roundDiv d.coefficient positive
  rw [← mul_div_cancel_right₀ ((d.coefficient : ℚ) / (10 ^ surplus d : ℕ)) unit.ne',
    ← size, SixDigits.nearestEven_div_iff] at rounded
  refine ⟨?_, ?_, rounded.1, rounded.2⟩
  · rw [size]
    exact mul_le_mul_of_nonneg_right least unit.le
  · rw [size]
    exact mul_lt_mul_of_pos_right most unit

/-- Every decimal but zero is rounded to six digits. -/
theorem exists_sixDigits {d : Decimal} (h0 : d.coefficient ≠ 0) :
    ∃ n p, SixDigits d.size n p ∧ (round d).size = n * 10 ^ p := by
  rcases (surplus d).eq_zero_or_pos with short | long
  · rw [size_round_of_short short]
    exact exists_sixDigits_of_short h0 short
  · exact ⟨_, _, sixDigits_of_long long, rfl⟩

theorem SixDigits.size_round {d : Decimal} {n : ℕ} {p : ℤ} (h : SixDigits d.size n p) :
    (round d).size = n * 10 ^ p := by
  have h0 : d.coefficient ≠ 0 := by
    intro zero
    have pos := h.pos
    rw [Decimal.size, zero, Nat.cast_zero, zero_mul] at pos
    exact pos.false
  obtain ⟨k, t, six, rounded⟩ := exists_sixDigits h0
  obtain ⟨rfl, rfl⟩ := h.unique six
  exact rounded

/-- Rounded to six digits, a number is an even one of six digits, in units of any place, just if it
is half a unit away at most. -/
theorem size_round_eq_iff {d : Decimal} {n : ℕ} (even : n % 2 = 0) (least : 10 ^ 5 < n)
    (most : n < 10 ^ 6) (p : ℤ) :
    (round d).size = n * 10 ^ p ↔ |d.size - n * 10 ^ p| ≤ 10 ^ p / 2 := by
  have unit := ten_zpow_pos p
  have least : (10 : ℚ) ^ 5 + 1 ≤ n := by exact_mod_cast least
  have most : (n : ℚ) + 1 ≤ 10 ^ 6 := by exact_mod_cast most
  have lower := mul_le_mul_of_nonneg_right least unit.le
  have upper := mul_le_mul_of_nonneg_right most unit.le
  constructor
  · intro rounded
    have h0 : d.coefficient ≠ 0 := by
      intro zero
      rw [size_round_of_zero zero] at rounded
      linarith
    obtain ⟨k, t, six, size⟩ := exists_sixDigits h0
    have same : (k : ℚ) * 10 ^ t = n * 10 ^ p := size.symm.trans rounded
    -- both have six digits, so the units are the same
    obtain ⟨lower', upper'⟩ := six.mul_bounds
    obtain rfl : t = p := le_antisymm (le_of_mul_ten_zpow_lt (by linarith))
      (le_of_mul_ten_zpow_lt (by linarith))
    rw [← same]
    exact six.near
  · intro near
    obtain ⟨below, above⟩ := abs_le.1 near
    have six : SixDigits d.size n p :=
      ⟨by linarith, by linarith, near, fun _ => Nat.even_iff.2 even⟩
    exact six.size_round

/-! ### Texts with six digits -/

/-- The size of a number with its sign. -/
theorem toRat_eq_size (d : Decimal) : d.toRat = if d.negative then -d.size else d.size := rfl

/-- The text of a finite double is that of its decimal, rounded. -/
theorem write_of_reading {x : Float} {d : Decimal} (hd : Reading.ofFloat x = .finite d) :
    write x = layout.write (round d) := by
  rw [write, hd]
  rfl

/-- A number is written like an even number of six digits, in units of any place, just if it is half
a unit away at most. -/
theorem write_eq_iff {x : Float} {r : ℚ} (hx : number? x = some r) {n : ℕ} (even : n % 2 = 0)
    (least : 10 ^ 5 < n) (most : n < 10 ^ 6) (p : ℤ) :
    write x = layout.write ⟨false, n, p⟩ ↔ |r - n * 10 ^ p| ≤ 10 ^ p / 2 := by
  obtain ⟨d, hd, rfl⟩ := exists_of_number? hx
  have unit : (0 : ℚ) < 10 ^ p := zpow_pos (by norm_num) p
  rw [write_of_reading hd, Layout.write_eq_write_iff, toRat_eq_size]
  cases hn : d.negative with
  | false =>
    have sign : (round d).negative = false := hn
    rw [sign, if_neg Bool.false_ne_true]
    exact (and_iff_right rfl).trans (size_round_eq_iff even least most p)
  | true =>
    -- a negative number is far away
    have sign : (round d).negative = true := hn
    have size : 0 ≤ d.size := mul_nonneg (Nat.cast_nonneg _) (zpow_pos (by norm_num) _).le
    have large : (10 : ℚ) ^ p ≤ n * 10 ^ p :=
      le_mul_of_one_le_left unit.le (by exact_mod_cast (by omega : 1 ≤ n))
    refine iff_of_false (fun h => ?_) fun near => ?_
    · exact Bool.noConfusion (sign.symm.trans h.1)
    · have := (abs_le.1 near).1
      rw [if_pos rfl] at this
      linarith

end Significant

end Toolpath
