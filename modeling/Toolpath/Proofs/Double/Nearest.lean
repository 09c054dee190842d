/-
Toolpath/Proofs/Double/Nearest.lean

The double nearest to a rational number.  The sizes of the finite doubles are the numbers
`m · 2 ^ q` with `m < 2 ^ 53` and `-1074 ≤ q ≤ 971`; they do not lie on one grid, since the
step `2 ^ q` grows with the number.

To round a number it is enough to look at one grid all the same.  If its step is such that the
number has 53 digits before the point in units of it, or if no smaller step is left, then the
integer nearest to the number in these units gives the nearest double, and among doubles that
are equally near the even one (`nearest_of_nearestEven`): a double with a smaller step lies
below `2 ^ 52` of these units, and that point is on the grid and nearer.

There is only one nearest double (`Nearest.unique`), because between two doubles with even
mantissas there is always a third.  And it is at most half a step below the number
(`Nearest.sub_le_half`), unless no double is larger.
-/
import Mathlib.Algebra.Order.Field.Power
import Mathlib.Algebra.Order.Field.Rat
import Mathlib.Algebra.Ring.Parity
import Mathlib.Tactic.FieldSimp
import Mathlib.Tactic.Linarith
import Mathlib.Tactic.Positivity
import Mathlib.Tactic.Ring

namespace Toolpath.Double

/-! ### The nearest integer -/

/-- `n` is an integer nearest to `x`, and the even one if there are two. -/
structure NearestEven (x : ℚ) (n : ℕ) : Prop where
  near : |x - n| ≤ 1 / 2
  even : |x - n| = 1 / 2 → Even n

/-- Two integers are at least one apart, so they are not both nearer than half a unit. -/
theorem one_le_abs_add_abs (x : ℚ) {n k : ℤ} (h : k ≠ n) : 1 ≤ |x - n| + |x - k| := by
  have apart : (1 : ℚ) ≤ |(k : ℚ) - n| := by
    exact_mod_cast Int.one_le_abs (sub_ne_zero.2 h)
  have triangle : |(k : ℚ) - n| ≤ |x - n| + |x - k| := by
    rw [show (k : ℚ) - n = (x - n) - (x - k) by ring]
    exact abs_sub _ _
  exact apart.trans triangle

namespace NearestEven

variable {x : ℚ} {n : ℕ}

/-- No integer is nearer. -/
theorem abs_sub_le (h : NearestEven x n) (k : ℤ) : |x - n| ≤ |x - k| := by
  by_cases hk : k = n
  · simp [hk]
  · have apart := one_le_abs_add_abs x hk
    rw [Int.cast_natCast] at apart
    linarith [h.near]

/-- If another integer is as near, then `n` is even. -/
theorem even_of_abs_sub_eq (h : NearestEven x n) {k : ℤ} (hk : k ≠ n)
    (he : |x - n| = |x - k|) : Even n := by
  have apart := one_le_abs_add_abs x hk
  rw [Int.cast_natCast] at apart
  exact h.even (le_antisymm h.near (by linarith))

/-- There is one such integer: two that are equally near are neighbours, and not both even. -/
theorem unique {k : ℕ} (h : NearestEven x n) (h' : NearestEven x k) : n = k := by
  by_contra hne
  have apart := one_le_abs_add_abs x (n := n) (k := k) (by exact_mod_cast Ne.symm hne)
  rw [Int.cast_natCast, Int.cast_natCast] at apart
  have near := h.near
  have near' := h'.near
  have even := Nat.even_iff.1 (h.even (by linarith))
  have even' := Nat.even_iff.1 (h'.even (by linarith))
  -- they are one apart at most
  obtain ⟨below, above⟩ := abs_le.1 near
  obtain ⟨below', above'⟩ := abs_le.1 near'
  have lower : (k : ℚ) ≤ n + 1 := by linarith
  have upper : (n : ℚ) ≤ k + 1 := by linarith
  have lower : k ≤ n + 1 := by exact_mod_cast lower
  have upper : n ≤ k + 1 := by exact_mod_cast upper
  omega

end NearestEven

/-! ### The nearest double -/

/-- `m · 2 ^ q` is the size of a finite double. -/
structure IsSize (m : ℕ) (q : ℤ) : Prop where
  lt : m < 2 ^ 53
  min_le : -1074 ≤ q
  le_max : q ≤ 971

/-- No finite double is nearer to `r` than `m · 2 ^ q`, and if another one is as near then `m` is
even. -/
def Nearest (r : ℚ) (m : ℕ) (q : ℤ) : Prop :=
  ∀ m' q', IsSize m' q' →
    |r - m * 2 ^ q| ≤ |r - m' * 2 ^ q'| ∧
      (|r - m * 2 ^ q| = |r - m' * 2 ^ q'| → (m : ℚ) * 2 ^ q = m' * 2 ^ q' ∨ Even m)

theorem two_zpow_pos (q : ℤ) : (0 : ℚ) < 2 ^ q :=
  zpow_pos two_pos q

/-- A distance in units of `2 ^ t`. -/
theorem abs_sub_mul_zpow (r a : ℚ) (t : ℤ) : |r - a * 2 ^ t| = |r / 2 ^ t - a| * 2 ^ t := by
  have hp := two_zpow_pos t
  rw [← abs_of_pos hp, ← abs_mul, abs_of_pos hp, sub_mul, div_mul_cancel₀ r hp.ne']

/-- A larger step is a multiple of a smaller one. -/
theorem mul_zpow_eq_of_le (m : ℕ) {t q : ℤ} (h : t ≤ q) :
    (m : ℚ) * 2 ^ q = ((m * 2 ^ (q - t).toNat : ℕ) : ℤ) * 2 ^ t := by
  obtain ⟨k, rfl⟩ := Int.le.dest h
  rw [zpow_add₀ two_ne_zero, zpow_natCast]
  simp
  ring

/-- A mantissa on a smaller step stays below the first of 53 digits on a larger one. -/
theorem mul_zpow_lt_of_lt {m : ℕ} {q t : ℤ} (hm : m < 2 ^ 53) (h : q < t) :
    (m : ℚ) * 2 ^ q < 2 ^ 52 * 2 ^ t := by
  have hm' : (m : ℚ) < 2 ^ 53 := by exact_mod_cast hm
  calc (m : ℚ) * 2 ^ q < 2 ^ 53 * 2 ^ q := mul_lt_mul_of_pos_right hm' (two_zpow_pos q)
    _ = 2 ^ 52 * 2 ^ (q + 1) := by
      rw [zpow_add_one₀ two_ne_zero]
      ring
    _ ≤ 2 ^ 52 * 2 ^ t := by
      gcongr
      · exact one_le_two
      · omega

/-- The step `2 ^ t` suits `r`: counted in steps `r` has 53 digits before the point, or fewer if
there is no smaller step. -/
structure Suits (r : ℚ) (t : ℤ) : Prop where
  min_le : -1074 ≤ t
  lt : r / 2 ^ t < 2 ^ 53
  full : t = -1074 ∨ 2 ^ 52 ≤ r / 2 ^ t

/-- The nearest point of a grid whose step suits the number is the nearest double. -/
theorem nearest_of_nearestEven {r : ℚ} {n : ℕ} {t : ℤ} (hn : NearestEven (r / 2 ^ t) n)
    (ht : Suits r t) : Nearest r n t := by
  intro m q hs
  have hp := two_zpow_pos t
  by_cases hq : t ≤ q
  · -- the other double is on the grid
    rw [mul_zpow_eq_of_le m hq]
    generalize ((m * 2 ^ (q - t).toNat : ℕ) : ℤ) = k
    rw [abs_sub_mul_zpow, abs_sub_mul_zpow]
    refine ⟨mul_le_mul_of_nonneg_right (hn.abs_sub_le k) hp.le, ?_⟩
    intro he
    by_cases hk : k = n
    · exact Or.inl (by simp [hk])
    · exact Or.inr (hn.even_of_abs_sub_eq hk (mul_right_cancel₀ hp.ne' he))
  · -- it lies below the grid point `2 ^ 52`, which is nearer
    have hx : (2 : ℚ) ^ 52 * 2 ^ t ≤ r := by
      rw [← le_div_iff₀ hp]
      apply ht.full.resolve_left
      intro h
      exact hq (h ▸ hs.min_le)
    have below := mul_zpow_lt_of_lt hs.lt (not_le.1 hq)
    have near : |r - n * 2 ^ t| ≤ r - 2 ^ 52 * 2 ^ t := by
      have h := mul_le_mul_of_nonneg_right (hn.abs_sub_le (2 ^ 52)) hp.le
      rw [← abs_sub_mul_zpow, ← abs_sub_mul_zpow, Int.cast_pow, Int.cast_ofNat] at h
      rwa [abs_of_nonneg (sub_nonneg.2 hx)] at h
    have far : r - 2 ^ 52 * 2 ^ t < |r - m * 2 ^ q| :=
      (sub_lt_sub_left below r).trans_le (le_abs_self _)
    have nearer := near.trans_lt far
    refine ⟨nearer.le, ?_⟩
    intro he
    exact absurd he nearer.ne

/-! ### There is one nearest double -/

/-- The form in which the size of a double is stored: 53 digits, or fewer at the least step. -/
structure Canonical (m : ℕ) (q : ℤ) : Prop extends IsSize m q where
  full : q = -1074 ∨ 2 ^ 52 ≤ m

/-- A number with less than 53 digits, counted in its own step or in a smaller one, has the least
step. -/
theorem Canonical.eq_least {m : ℕ} {q t : ℤ} (h : Canonical m q)
    (few : (m : ℚ) * 2 ^ q < 2 ^ 52 * 2 ^ t) (ht : t ≤ q) : q = -1074 := by
  refine h.full.resolve_right fun full => few.not_ge ?_
  have full : (2 : ℚ) ^ 52 ≤ m := by exact_mod_cast full
  have step : (2 : ℚ) ^ t ≤ 2 ^ q := zpow_le_zpow_right₀ one_le_two ht
  exact mul_le_mul full step (two_zpow_pos t).le (Nat.cast_nonneg m)

/-- The larger step belongs to the larger number. -/
theorem Canonical.mul_zpow_lt {m m' : ℕ} {q q' : ℤ} (h : Canonical m q) (h' : Canonical m' q')
    (hq : q < q') : (m : ℚ) * 2 ^ q < m' * 2 ^ q' := by
  have least := h.min_le
  have full : (2 : ℚ) ^ 52 ≤ m' := by exact_mod_cast h'.full.resolve_left (by omega)
  calc (m : ℚ) * 2 ^ q < 2 ^ 52 * 2 ^ q' := mul_zpow_lt_of_lt h.lt hq
    _ ≤ m' * 2 ^ q' := mul_le_mul_of_nonneg_right full (two_zpow_pos q').le

/-- Between two doubles with even mantissas there is another one. -/
theorem Canonical.exists_between {m m' : ℕ} {q q' : ℤ} (h : Canonical m q) (h' : Canonical m' q')
    (he : Even m) (he' : Even m') (hlt : (m : ℚ) * 2 ^ q < m' * 2 ^ q') :
    ∃ k, IsSize k q ∧ (m : ℚ) * 2 ^ q < k * 2 ^ q ∧ (k : ℚ) * 2 ^ q < m' * 2 ^ q' := by
  -- the next mantissa is a double, since the last one of 53 digits is odd
  have fits : m + 1 < 2 ^ 53 := by
    have hm := h.lt
    have odd : m + 1 ≠ 2 ^ 53 := by
      intro hm
      have := Nat.even_iff.1 he
      omega
    omega
  have next : Canonical (m + 1) q :=
    ⟨⟨fits, h.min_le, h.le_max⟩, h.full.imp_right fun hm => by omega⟩
  have above : (m : ℚ) * 2 ^ q < (m + 1 : ℕ) * 2 ^ q := by
    refine mul_lt_mul_of_pos_right ?_ (two_zpow_pos q)
    exact_mod_cast Nat.lt_succ_self m
  refine ⟨m + 1, next.toIsSize, above, ?_⟩
  rcases lt_trichotomy q q' with hq | rfl | hq
  · exact next.mul_zpow_lt h' hq
  · -- the next mantissa is odd
    have hm : m < m' := by exact_mod_cast lt_of_mul_lt_mul_right hlt (two_zpow_pos q).le
    have odd : m + 1 ≠ m' := by
      rintro rfl
      have := Nat.even_iff.1 he
      have := Nat.even_iff.1 he'
      omega
    refine mul_lt_mul_of_pos_right ?_ (two_zpow_pos q)
    exact_mod_cast lt_of_le_of_ne (Nat.succ_le_of_lt hm) odd
  · exact absurd (h'.mul_zpow_lt h hq) hlt.not_gt

/-- A number has one canonical form. -/
theorem Canonical.eq_of_mul_zpow_eq {m m' : ℕ} {q q' : ℤ} (h : Canonical m q)
    (h' : Canonical m' q') (he : (m : ℚ) * 2 ^ q = m' * 2 ^ q') : m = m' ∧ q = q' := by
  rcases lt_trichotomy q q' with hq | rfl | hq
  · exact absurd he (h.mul_zpow_lt h' hq).ne
  · exact ⟨by exact_mod_cast mul_right_cancel₀ (two_zpow_pos q).ne' he, rfl⟩
  · exact absurd he (h'.mul_zpow_lt h hq).ne'

/-- Of two nearest doubles neither is the smaller one: one between them would be nearer. -/
theorem Nearest.mul_zpow_le {r : ℚ} {m m' : ℕ} {q q' : ℤ} (h : Canonical m q)
    (h' : Canonical m' q') (hn : Nearest r m q) (hn' : Nearest r m' q') :
    (m' : ℚ) * 2 ^ q' ≤ m * 2 ^ q := by
  by_contra hle
  have hlt := not_le.1 hle
  have le := hn m' q' h'.toIsSize
  have ge := hn' m q h.toIsSize
  -- both are equally near, so both are even and another one is between them
  have same := le_antisymm le.1 ge.1
  have he : Even m := (le.2 same).resolve_left hlt.ne
  have he' : Even m' := (ge.2 same.symm).resolve_left hlt.ne'
  obtain ⟨k, hk, lower, upper⟩ := h.exists_between h' he he' hlt
  have nearest := (hn k q hk).1
  generalize (m : ℚ) * 2 ^ q = u at *
  generalize (m' : ℚ) * 2 ^ q' = v at *
  generalize (k : ℚ) * 2 ^ q = w at *
  -- `r` lies in the middle, and `w` is nearer to it than the ends
  have middle : r - u = -(r - v) := by
    apply (abs_eq_abs.1 same).resolve_left
    intro hr
    linarith
  have half : |r - u| = (v - u) / 2 := by
    rw [abs_of_pos (by linarith)]
    linarith
  have nearer : |r - w| < (v - u) / 2 := abs_lt.2 ⟨by linarith, by linarith⟩
  linarith

/-- There is one nearest double. -/
theorem Nearest.unique {r : ℚ} {m m' : ℕ} {q q' : ℤ} (h : Canonical m q) (h' : Canonical m' q')
    (hn : Nearest r m q) (hn' : Nearest r m' q') : m = m' ∧ q = q' :=
  h.eq_of_mul_zpow_eq h'
    (le_antisymm (mul_zpow_le h' h hn' hn) (mul_zpow_le h h' hn hn'))

/-! ### The step to the next double -/

/-- Above a double that is not the largest one, the next one is a step away. -/
theorem Canonical.exists_succ {m k : ℕ} {q t : ℤ} (h : Canonical m q) (hk : Canonical k t)
    (above : (m : ℚ) * 2 ^ q < k * 2 ^ t) :
    ∃ m' q', IsSize m' q' ∧ (m' : ℚ) * 2 ^ q' = m * 2 ^ q + 2 ^ q := by
  have least := h.min_le
  have most := h.le_max
  rcases (Nat.succ_le_of_lt h.lt).lt_or_eq with fits | full
  · refine ⟨m + 1, q, ⟨fits, least, most⟩, ?_⟩
    push_cast
    ring
  · -- the next double begins the next step, and there is one if a double is larger
    have largest : (m : ℚ) = 2 ^ 53 - 1 := by
      rw [eq_sub_iff_add_eq]
      exact_mod_cast full
    have room : q + 1 ≤ 971 := by
      by_contra none
      have ht := hk.le_max
      have hq : q = 971 := by omega
      have hkm : (k : ℚ) ≤ m := by
        have hlt := hk.lt
        exact_mod_cast (by omega : k ≤ m)
      have step : (2 : ℚ) ^ t ≤ 2 ^ q := zpow_le_zpow_right₀ one_le_two (by omega)
      have below : (k : ℚ) * 2 ^ t ≤ m * 2 ^ q :=
        mul_le_mul hkm step (two_zpow_pos t).le (Nat.cast_nonneg m)
      exact above.not_ge below
    refine ⟨2 ^ 52, q + 1, ⟨by decide, by omega, room⟩, ?_⟩
    rw [zpow_add_one₀ two_ne_zero, largest]
    push_cast
    ring

/-- A double nearest to a number above it is at most half a step away, if it is not the largest. -/
theorem Nearest.sub_le_half {r : ℚ} {m k : ℕ} {q t : ℤ} (hn : Nearest r m q) (h : Canonical m q)
    (hk : Canonical k t) (above : (m : ℚ) * 2 ^ q < k * 2 ^ t) : r - m * 2 ^ q ≤ 2 ^ q / 2 := by
  obtain ⟨m', q', size, next⟩ := h.exists_succ hk above
  have near := (hn m' q' size).1
  rw [next] at near
  have step := two_zpow_pos q
  generalize (m : ℚ) * 2 ^ q = v at near ⊢
  generalize (2 : ℚ) ^ q = u at near step ⊢
  by_contra far
  have far := not_le.1 far
  -- the next double would be nearer, on whichever side of it the number is
  have nearer : |r - (v + u)| < r - v := abs_lt.2 ⟨by linarith, by linarith⟩
  exact (nearer.trans_le (le_abs_self _)).not_ge near

end Toolpath.Double
