/-
Toolpath/Proofs/Double/Identity.lean

The factor one.  A double times `1.0` is the double itself, whatever it is (`mul_one`): the product
is the exact number before it is rounded, and a double is the double nearest to its own number
(`roundsTo_self`).  So a unit of one leaves all lengths of a program as they are.
-/
import Toolpath.Proofs.Double.Decimal

namespace Toolpath.Double

open Float.Model Float.Model.UnpackedFloat

/-- A finite double is nearest to the number it stands for. -/
theorem roundsTo_self (s : Sign) {m : ℕ} {q : ℤ} (hm : 0 < m) (h : Canonical m q) :
    RoundsTo (isMinus s) (m * 2 ^ q) (.finite s m q hm) := by
  have size : (m : ℚ) * 2 ^ q / 2 ^ q = m := mul_div_cancel_right₀ _ (two_zpow_pos q).ne'
  have lt : (m : ℚ) < 2 ^ 53 := by exact_mod_cast h.lt
  have suits : Suits (m * 2 ^ q) q := by
    refine ⟨h.min_le, size.symm ▸ lt, h.full.imp_right fun hl => ?_⟩
    rw [size]
    exact_mod_cast hl
  have near : NearestEven ((m : ℚ) * 2 ^ q / 2 ^ q) m := by
    rw [size]
    exact ⟨by norm_num, by norm_num⟩
  have least := h.le_max
  have below := h.lt
  exact ⟨rfl, suits.lt_limit near (by omega), h, nearest_of_nearestEven near suits⟩

/-- And a zero, with its sign. -/
theorem roundsTo_zero (s : Sign) : RoundsTo (isMinus s) 0 (.zero s) := by
  have suits : Suits 0 (-1074) := ⟨le_rfl, by norm_num, Or.inl rfl⟩
  have near : NearestEven ((0 : ℚ) / 2 ^ (-1074 : ℤ)) 0 := by
    rw [zero_div]
    exact ⟨by norm_num, by norm_num⟩
  exact ⟨rfl, suits.lt_limit near (by norm_num), nearest_of_nearestEven near suits⟩

theorem unpack_one :
    (1.0 : Float).toModel.unpack = .finite .positive (2 ^ 52) (-52) (by decide) := rfl

theorem mul_positive (s : Sign) : s * .positive = s := by
  cases s <;> rfl

/-- One is neutral, also for the numbers that are not finite. -/
theorem mul_one (x : Float) : x * 1.0 = x := by
  obtain ⟨u, hu, hx⟩ := exists_isStored x.toModel
  have unpack : x.toModel.unpack = u := hx ▸ unpack_pack hu
  have product : x * 1.0
      = .ofModel (.pack (UnpackedFloat.mul Format.binary64 u
          (.finite .positive (2 ^ 52) (-52) (by decide)))) := by
    rw [← unpack, ← unpack_one]
    rfl
  cases u with
  | finite s m q hm =>
    -- the exact product is the number itself, and both are rounded to it
    have exact : Approximates (m * 2 ^ 52) .exact ((m * 2 ^ 52 : ℕ) : ℚ) := rfl
    have enough : 2 ^ 52 ≤ m * 2 ^ 52 := Nat.le_mul_of_pos_left _ hm
    have rounded := rounds_roundWithAccuracy s exact (e := q + -52) (Or.inl enough)
    have number : ((m * 2 ^ 52 : ℕ) : ℚ) * 2 ^ (q + -52) = m * 2 ^ q := by
      rw [zpow_add₀ two_ne_zero]
      push_cast
      field_simp
      norm_num
    have self : Rounds (isMinus s) (m * 2 ^ q) x := by
      rw [Rounds, unpack]
      exact roundsTo_self s hm hu
    rw [number] at rounded
    rw [product, UnpackedFloat.mul, mul_positive]
    exact rounded.unique self
  | infinity s =>
    apply eq_of_unpack_eq
    rw [product, unpack, UnpackedFloat.mul, mul_positive]
    exact unpack_pack hu
  | zero s =>
    apply eq_of_unpack_eq
    rw [product, unpack, UnpackedFloat.mul, mul_positive]
    exact unpack_pack hu
  | notANumber =>
    apply eq_of_unpack_eq
    rw [product, unpack, UnpackedFloat.mul]
    exact unpack_pack hu

end Toolpath.Double
