/-
Toolpath/Proofs/Numeral/ReadBack.lean

A double that is written with six significant digits, and read and written again.  The double that
is read is the one nearest to the six digits, so it is no farther from them than the double that was
written, and mostly it is rounded to the same six digits (`SixDigits.of_nearer`).

It may be not, where the decimal is a power of ten and the double that is read lies below it: six
digits are ten times finer there.  But a double in which this can be seen has fewer than six digits
itself, and they are binary ones at the least step.  The step and the powers of ten are so that this
happens for one size only (`SixDigits.again`), and so for two doubles (`write_value_write`).
-/
import Toolpath.Proofs.Double.Identity
import Toolpath.Proofs.Numeral.Significant

namespace Toolpath

open Double

/-- The limit of the doubles, in six digits. -/
theorem limit_bounds : (179769 : ℚ) * 10 ^ (303 : ℤ) < limit ∧
    limit < (179769 + 1 / 2) * 10 ^ (303 : ℤ) := by
  have whole : limit = ((2 ^ 54 - 1) * 2 ^ 970 : ℕ) := by
    have double : (2 : ℚ) ^ (971 : ℤ) = 2 ^ 970 * 2 := by
      rw [show (971 : ℤ) = (970 : ℕ) + 1 by norm_num, zpow_add_one₀ two_ne_zero, zpow_natCast]
    have digits : ((2 ^ 54 - 1 : ℕ) : ℚ) = 2 * (2 ^ 53 - 1 / 2) := by norm_num
    rw [limit, double, Nat.cast_mul, digits, Nat.cast_pow, Nat.cast_ofNat]
    generalize (2 : ℚ) ^ 970 = step
    ring
  have unit : (10 : ℚ) ^ (303 : ℤ) = (10 ^ 303 : ℕ) := by
    rw [Nat.cast_pow, ← zpow_natCast]
    rfl
  have lower : 179769 * 10 ^ 303 < (2 ^ 54 - 1) * 2 ^ 970 := by decide +kernel
  have upper : 2 * ((2 ^ 54 - 1) * 2 ^ 970) < 359539 * 10 ^ 303 := by decide +kernel
  rw [whole, unit]
  generalize (2 ^ 54 - 1) * 2 ^ 970 = l at lower upper ⊢
  generalize 10 ^ 303 = u at lower upper ⊢
  qify at lower upper
  constructor <;> linarith

/-- The least step of the doubles, in units of the power of ten after it. -/
theorem least_step_bounds : (202402 : ℚ) * 2 ^ (-1074 : ℤ) < 10 ^ 5 * 10 ^ (-323 : ℤ) ∧
    (10 ^ 5 + 1 / 2) * 10 ^ (-323 : ℤ) < (202404 : ℚ) * 2 ^ (-1074 : ℤ) := by
  have step : (2 : ℚ) ^ (-1074 : ℤ) = ((2 ^ 1074 : ℕ) : ℚ)⁻¹ := by
    rw [Nat.cast_pow, ← zpow_natCast, ← zpow_neg]
    rfl
  have unit : (10 : ℚ) ^ (-323 : ℤ) = ((10 ^ 323 : ℕ) : ℚ)⁻¹ := by
    rw [Nat.cast_pow, ← zpow_natCast, ← zpow_neg]
    rfl
  have lower : 202402 * 10 ^ 323 < 10 ^ 5 * 2 ^ 1074 := by decide +kernel
  have upper : 200001 * 2 ^ 1074 < 404808 * 10 ^ 323 := by decide +kernel
  have positive : 0 < 2 ^ 1074 := by decide +kernel
  have positive' : 0 < 10 ^ 323 := by decide +kernel
  rw [step, unit]
  generalize 2 ^ 1074 = s at *
  generalize 10 ^ 323 = t at *
  qify at lower upper positive positive'
  simp only [← div_eq_mul_inv, div_lt_div_iff₀ positive positive',
    div_lt_div_iff₀ positive' positive]
  constructor <;> linarith

namespace Significant

/-! ### The decimal that was written -/

namespace SixDigits

variable {r r' : ℚ} {n : ℕ} {p : ℤ}

/-- Between the largest double and the limit, half a step above it, there is no number with six
digits; so none is read as infinite. -/
theorem lt_limit (h : SixDigits r n p) (hr : r < limit) : n * 10 ^ p < limit := by
  by_contra beyond
  have beyond := not_lt.1 beyond
  obtain ⟨lower, upper⟩ := limit_bounds
  have unit := ten_zpow_pos p
  -- the unit is told by the bounds
  obtain rfl : p = 303 := by
    have unit' := ten_zpow_pos 303
    have above : (10 : ℚ) ^ 5 * 10 ^ p < 10 ^ 6 * 10 ^ (303 : ℤ) := by
      have below := h.lower
      generalize (10 : ℚ) ^ (303 : ℤ) = u at upper unit' ⊢
      linarith only [below, hr, upper, unit']
    have below : (10 : ℚ) ^ 5 * 10 ^ (303 : ℤ) < 10 ^ 6 * 10 ^ p := by
      have size := h.mul_bounds.2
      generalize (10 : ℚ) ^ (303 : ℤ) = u at lower unit' ⊢
      linarith only [size, beyond, lower, unit']
    exact le_antisymm (le_of_mul_ten_zpow_lt above) (le_of_mul_ten_zpow_lt below)
  have near := (abs_le.1 h.near).1
  generalize (10 : ℚ) ^ (303 : ℤ) = u at *
  have digits : 179769 < n := by
    have digits := lt_of_mul_lt_mul_right (lower.trans_le beyond) unit.le
    exact_mod_cast digits
  have size : (179769 + 1) * u ≤ n * u :=
    mul_le_mul_of_nonneg_right (by exact_mod_cast digits) unit.le
  linarith

/-- A number that is no farther from the six digits than the one that was rounded is rounded to
them, too, unless they are a one and zeros and it is well below them. -/
theorem of_nearer (h : SixDigits r n p) (near : |r' - n * 10 ^ p| ≤ |r - n * 10 ^ p|) :
    (∃ k t, SixDigits r' k t ∧ (k : ℚ) * 10 ^ t = n * 10 ^ p) ∨
      n = 10 ^ 5 ∧ 10 ^ p < 20 * (n * 10 ^ p - r') := by
  have unit := ten_zpow_pos p
  obtain ⟨least, most⟩ := h.le_natCast
  obtain ⟨bound, bound'⟩ := abs_le.1 (near.trans h.near)
  rcases lt_or_ge r' (10 ^ 5 * 10 ^ p) with below | lower
  · -- the six digits are the least ones
    have digits : (n : ℚ) < 10 ^ 5 + 1 := lt_of_mul_lt_mul_right (by linarith) unit.le
    have digits : n < 10 ^ 5 + 1 := by exact_mod_cast digits
    obtain rfl : n = 10 ^ 5 := by omega
    rcases le_or_gt (20 * (((10 ^ 5 : ℕ) : ℚ) * 10 ^ p - r')) (10 ^ p) with close | far
    · push_cast at close
      refine .inl ⟨10 ^ 6, p - 1, .of_below below close, ?_⟩
      rw [zpow_sub_one₀ (by norm_num)]
      push_cast
      ring
    · exact .inr ⟨rfl, far⟩
  rcases lt_or_ge r' (10 ^ 6 * 10 ^ p) with upper | above
  · -- the unit is the same
    refine .inl ⟨n, p, ⟨lower, upper, near.trans h.near, fun half => h.even ?_⟩, rfl⟩
    exact le_antisymm h.near (half ▸ near)
  · -- the six digits are a million
    have digits : (10 : ℚ) ^ 6 < n + 1 := lt_of_mul_lt_mul_right (by linarith) unit.le
    have digits : 10 ^ 6 < n + 1 := by exact_mod_cast digits
    obtain rfl : n = 10 ^ 6 := by omega
    push_cast at bound' ⊢
    refine .inl ⟨10 ^ 5, p + 1, .of_million above (by linarith), ?_⟩
    rw [zpow_add_one₀ (by norm_num)]
    push_cast
    ring

/-- The power of ten next to the least step. -/
theorem eq_of_least_step_le (lower : (2 : ℚ) ^ (-1074 : ℤ) ≤ 10 ^ p)
    (upper : (10 : ℚ) ^ p < 10 * 2 ^ (-1074 : ℤ)) : p = -323 := by
  obtain ⟨below, above⟩ := least_step_bounds
  have unit := ten_zpow_pos (-323)
  generalize (2 : ℚ) ^ (-1074 : ℤ) = u at *
  refine le_antisymm (le_of_mul_ten_zpow_lt ?_) (le_of_mul_ten_zpow_lt ?_)
  · generalize (10 : ℚ) ^ (-323 : ℤ) = e at *
    linarith
  · generalize (10 : ℚ) ^ (-323 : ℤ) = e at *
    linarith

/-- The one multiple of the least step that is rounded to the power of ten next to it. -/
theorem eq_of_least_step {m : ℕ} (h : SixDigits (m * 2 ^ (-1074 : ℤ)) (10 ^ 5) (-323)) :
    m = 202403 := by
  have lower := h.lower
  have upper := (abs_le.1 h.near).2
  obtain ⟨below, above⟩ := least_step_bounds
  have positive := two_zpow_pos (-1074)
  generalize (2 : ℚ) ^ (-1074 : ℤ) = u at *
  generalize (10 : ℚ) ^ (-323 : ℤ) = e at *
  push_cast at upper
  have least : (202402 : ℚ) < m := lt_of_mul_lt_mul_right (by linarith) positive.le
  have most : (m : ℚ) < 202404 := lt_of_mul_lt_mul_right (by linarith) positive.le
  have least : 202402 < m := by exact_mod_cast least
  have most : m < 202404 := by exact_mod_cast most
  omega

/-- If a double is rounded to a one and zeros, and the double that is read then lies well below
them, then it is known which double it is. -/
theorem eq_of_far {m m' : ℕ} {q q' : ℤ} (hc : Canonical m q) (hc' : Canonical m' q')
    (h : SixDigits (m * 2 ^ q) (10 ^ 5) p) (near : Nearest (((10 ^ 5 : ℕ) : ℚ) * 10 ^ p) m' q')
    (far : 10 ^ p < 20 * (((10 ^ 5 : ℕ) : ℚ) * 10 ^ p - m' * 2 ^ q')) :
    m = 202403 ∧ q = -1074 := by
  have unit := ten_zpow_pos p
  have lower := h.lower
  have upper := (abs_le.1 h.near).2
  have nearer := (near m q hc.toIsSize).1
  push_cast at far upper nearer
  -- the double that is read lies below the power of ten, and the one that was written above it
  rw [abs_of_pos (by linarith), abs_sub_comm, abs_of_nonneg (by linarith)] at nearer
  have half := near.sub_le_half hc' hc (by linarith)
  push_cast at half
  -- so the step between them is the least one, and both are multiples of it
  obtain rfl : q' = -1074 := hc'.eq_least (by linarith [two_zpow_pos q']) le_rfl
  have positive := two_zpow_pos (-1074)
  have few : (m : ℚ) * 2 ^ q < 2 ^ 52 * 2 ^ (-1074 : ℤ) := by
    generalize (2 : ℚ) ^ (-1074 : ℤ) = u at *
    linarith
  obtain rfl : q = -1074 := hc.eq_least few hc.min_le
  -- they are a step apart at least, and less than a unit of the sixth digit
  have less : (m' : ℚ) < m := by
    refine lt_of_mul_lt_mul_right ?_ positive.le
    linarith
  have less : (m' : ℚ) + 1 ≤ m := by exact_mod_cast less
  have apart := mul_le_mul_of_nonneg_right less positive.le
  obtain rfl : p = -323 := by
    apply eq_of_least_step_le
    · generalize (2 : ℚ) ^ (-1074 : ℤ) = u at *
      linarith
    · generalize (2 : ℚ) ^ (-1074 : ℤ) = u at *
      linarith
  exact ⟨eq_of_least_step h, rfl⟩

/-- The double that is nearest to the six digits of another one has the same six digits, but for one
double. -/
theorem again {m m' : ℕ} {q q' : ℤ} (hc : Canonical m q) (hc' : Canonical m' q')
    (h : SixDigits (m * 2 ^ q) n p) (near : Nearest (n * 10 ^ p) m' q') :
    (∃ k t, SixDigits (m' * 2 ^ q') k t ∧ (k : ℚ) * 10 ^ t = n * 10 ^ p) ∨
      m = 202403 ∧ q = -1074 := by
  have nearer := (near m q hc.toIsSize).1
  rw [abs_sub_comm, abs_sub_comm (n * 10 ^ p : ℚ)] at nearer
  rcases h.of_nearer nearer with same | ⟨digits, far⟩
  · exact .inl same
  · rw [digits] at h near far
    exact .inr (h.eq_of_far hc hc' near far)

end SixDigits

/-! ### The double that is read -/

open Numeral Float.Model.UnpackedFloat

/-- The text of a finite double spells its decimal, rounded. -/
theorem spells_write {x : Float} {d : Decimal} (hd : Reading.ofFloat x = .finite d) :
    Spells (write x) d.negative (round d).size := by
  rw [write_of_reading hd]
  exact layout.spells_write (round d)

/-- A zero is read back with its sign. -/
theorem value_write_of_zero {x : Float} {s : Sign} (hx : x.toModel.unpack = .zero s) :
    value (write x) = x := by
  have reading : Reading.ofFloat x = .finite ⟨isMinus s, 0, 0⟩ := by
    rw [Reading.ofFloat, hx]
  have read := rounds_value (spells_write reading)
  rw [size_round_of_zero rfl] at read
  refine read.unique ?_
  rw [Rounds, hx]
  exact roundsTo_zero s

section Finite

variable {x : Float} {s : Sign} {m : ℕ} {q : ℤ} {hm : 0 < m}

theorem reading_of_unpack (hx : x.toModel.unpack = .finite s m q hm) :
    Reading.ofFloat x = .finite (.ofBinary (isMinus s) m q) := by
  rw [Reading.ofFloat, hx]

/-- Six digits of a double are read as a double with the same sign that is neither zero nor
infinite, and it is the nearest one. -/
theorem SixDigits.exists_finite {n : ℕ} {p : ℤ} (h : SixDigits (m * 2 ^ q) n p)
    (stored : Canonical m q) (hm : 0 < m) {u : Float.Model.UnpackedFloat}
    (read : RoundsTo (isMinus s) (n * 10 ^ p) u) :
    ∃ m' q' hm', u = .finite s m' q' hm' ∧ Nearest (n * 10 ^ p) m' q' := by
  cases u with
  | notANumber => exact read.elim
  | infinity s' =>
    exact absurd (h.lt_limit (roundsTo_self s hm stored).2.1) (not_lt.2 read.2)
  | zero s' =>
    -- the double that was written is nearer
    have nearer := (read.2.2 m q stored.toIsSize).1
    rw [Nat.cast_zero, zero_mul, sub_zero, abs_sub_comm] at nearer
    have near := (abs_le.1 (nearer.trans h.near)).2
    linarith [h.mul_bounds.1, ten_zpow_pos p]
  | finite s' m' q' hm' =>
    have sign : s' = s := by
      have sign := read.1
      cases s' <;> cases s <;> first | rfl | cases sign
    exact ⟨m', q', hm', by rw [sign], read.2.2.2⟩

/-- A double that is not zero is read back as the double nearest to its six digits. -/
theorem exists_unpack_value_write (hx : x.toModel.unpack = .finite s m q hm) :
    ∃ n p m' q' hm', SixDigits (m * 2 ^ q) n p ∧ Nearest (n * 10 ^ p) m' q' ∧
      (value (write x)).toModel.unpack = .finite s m' q' hm' := by
  have size : (Decimal.ofBinary (isMinus s) m q).size = m * 2 ^ q := Decimal.size_ofBinary _ m q
  have nonzero : (Decimal.ofBinary (isMinus s) m q).coefficient ≠ 0 := by
    have positive : (0 : ℚ) < m * 2 ^ q := mul_pos (by exact_mod_cast hm) (two_zpow_pos q)
    intro zero
    rw [Decimal.size, zero, Nat.cast_zero, zero_mul] at size
    exact positive.ne size
  obtain ⟨n, p, six, rounded⟩ := exists_sixDigits nonzero
  rw [size] at six
  have read := rounds_value (spells_write (reading_of_unpack hx))
  rw [rounded, Decimal.negative_ofBinary] at read
  obtain ⟨m', q', hm', hy, near⟩ := six.exists_finite (canonical_of_unpack hx) hm read
  exact ⟨n, p, m', q', hm', six, near, hy⟩

/-- The doubles of which the six digits may not be written again. -/
theorem eq_or_eq_neg_of_unpack (hx : x.toModel.unpack = .finite s m q hm) (digits : m = 202403)
    (step : q = -1074) : x = 1.000004e-318 ∨ x = -1.000004e-318 := by
  subst digits step
  have packed := ofModel_pack_unpack x
  rw [hx] at packed
  cases s with
  | positive =>
    have value : Float.ofModel (.pack (.finite .positive 202403 (-1074) (by decide)))
        = 1.000004e-318 := by decide +kernel
    exact .inl (packed.symm.trans value)
  | negative =>
    have value : Float.ofModel (.pack (.finite .negative 202403 (-1074) (by decide)))
        = -1.000004e-318 := by decide +kernel
    exact .inr (packed.symm.trans value)

/-- The double that is read has the text of the one that was written, but for two doubles. -/
theorem write_value_write_of_finite (hx : x.toModel.unpack = .finite s m q hm) :
    write (value (write x)) = write x ∨ x = 1.000004e-318 ∨ x = -1.000004e-318 := by
  obtain ⟨n, p, m', q', hm', six, near, hy⟩ := exists_unpack_value_write hx
  rcases six.again (canonical_of_unpack hx) (canonical_of_unpack hy) near
    with ⟨k, t, six', same⟩ | ⟨digits, step⟩
  · left
    rw [← Decimal.size_ofBinary (isMinus s)] at six six'
    rw [write_of_reading (reading_of_unpack hy), write_of_reading (reading_of_unpack hx)]
    refine layout.write_congr (by simp) ?_
    exact six'.size_round.trans (same.trans six.size_round.symm)
  · exact .inr (eq_or_eq_neg_of_unpack hx digits step)

end Finite

/-- A finite double that is written and read is finite, and it is written again as it was, but for
one double and its opposite. -/
theorem write_value_write {x : Float} (hx : x.isFinite = true) :
    (value (write x)).isFinite = true ∧
      (write (value (write x)) = write x ↔ x ≠ 1.000004e-318 ∧ x ≠ -1.000004e-318) := by
  -- these two are written with the size `1e-318`, and what is read of that with `9.99999e-319`
  have other : write (value (write 1.000004e-318)) ≠ write 1.000004e-318 ∧
      write (value (write (-1.000004e-318))) ≠ write (-1.000004e-318) := by decide +kernel
  have known (same : write (value (write x)) = write x) :
      x ≠ 1.000004e-318 ∧ x ≠ -1.000004e-318 := by
    constructor
    · rintro rfl
      exact other.1 same
    · rintro rfl
      exact other.2 same
  cases hu : x.toModel.unpack with
  | notANumber | infinity s =>
    rw [← isSome_number?, number?, hu] at hx
    cases hx
  | zero s =>
    have same := value_write_of_zero hu
    exact ⟨same.symm ▸ hx, known, fun _ => congrArg write same⟩
  | finite s m q hm =>
    obtain ⟨-, -, m', q', hm', -, -, hy⟩ := exists_unpack_value_write hu
    have finite : (value (write x)).isFinite = true := by
      rw [← isSome_number?, number?, hy]
      rfl
    refine ⟨finite, known, fun h => ?_⟩
    exact (write_value_write_of_finite hu).resolve_right fun least => least.elim h.1 h.2

end Significant

end Toolpath
