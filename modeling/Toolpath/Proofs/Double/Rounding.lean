/-
Toolpath/Proofs/Double/Rounding.lean

What the rounding step of double arithmetic does.  It gets a number as a mantissa, an exponent
and a note on what lies beyond the mantissa, drops bits until the mantissa fits, and rounds by
the note (`Approximates`).  Dropping a bit halves the number and keeps the note true
(`approximates_shiftRight`), so in the end the mantissa is the integer nearest to the number
in units of the last bit kept (`nearestEven_round`), and by `nearest_of_nearestEven` the double
is the nearest one.

The step aimed at is one that suits the number (`suits_target`), provided that there are bits
enough to drop.  A mantissa that is rounded up to `2 ^ 53` is halved once more, which changes
the form of the result and not its size (`stored`).
-/
import Mathlib
import Toolpath.Proofs.Double.Nearest

namespace Toolpath.Double

open Float.Model Float.Model.UnpackedFloat

/-! ### A mantissa and what lies beyond it -/

/-- The number `x` is the integer `m` and a fraction of which only this is known. -/
def Approximates (m : ℕ) : Accuracy → ℚ → Prop
  | .exact, x => x = m
  | .inexact .lt, x => m < x ∧ x < m + 1 / 2
  | .inexact .eq, x => x = m + 1 / 2
  | .inexact .gt, x => m + 1 / 2 < x ∧ x < m + 1

namespace Approximates

variable {m : ℕ} {a : Accuracy} {x : ℚ}

/-- The integer is the whole part. -/
theorem bounds (h : Approximates m a x) : (m : ℚ) ≤ x ∧ x < m + 1 := by
  rcases a with - | (- | - | -)
  · obtain rfl : x = m := h
    constructor <;> linarith
  · obtain ⟨hl, hu⟩ : (m : ℚ) < x ∧ x < m + 1 / 2 := h
    constructor <;> linarith
  · obtain rfl : x = m + 1 / 2 := h
    constructor <;> linarith
  · obtain ⟨hl, hu⟩ : (m : ℚ) + 1 / 2 < x ∧ x < m + 1 := h
    constructor <;> linarith

/-- Rounding by the note gives the nearest integer. -/
theorem nearestEven_round (h : Approximates m a x) : NearestEven x (a.roundToNearestEven m) := by
  rcases a with - | (- | - | -)
  · obtain rfl : x = m := h
    constructor <;> norm_num [Accuracy.roundToNearestEven]
  · -- below the middle
    obtain ⟨hl, hu⟩ : (m : ℚ) < x ∧ x < m + 1 / 2 := h
    have off : |x - m| < 1 / 2 := by
      rw [abs_of_pos (by linarith)]
      linarith
    refine ⟨off.le, ?_⟩
    intro he
    exact absurd he off.ne
  · -- in the middle, where the even neighbour is taken
    obtain rfl : x = m + 1 / 2 := h
    rcases Nat.mod_two_eq_zero_or_one m with he | ho
    · have round : Accuracy.roundToNearestEven m (.inexact .eq) = m := by
        rw [Accuracy.roundToNearestEven, he, Nat.add_zero]
      rw [round]
      exact ⟨by norm_num, fun _ => Nat.even_iff.2 he⟩
    · have round : Accuracy.roundToNearestEven m (.inexact .eq) = m + 1 := by
        rw [Accuracy.roundToNearestEven, ho]
      rw [round]
      refine ⟨?_, fun _ => Nat.even_iff.2 (by omega)⟩
      push_cast
      norm_num
  · -- above the middle
    obtain ⟨hl, hu⟩ : (m : ℚ) + 1 / 2 < x ∧ x < m + 1 := h
    have off : |x - (m + 1 : ℕ)| < 1 / 2 := by
      push_cast
      rw [abs_of_neg (by linarith)]
      linarith
    refine ⟨off.le, ?_⟩
    intro he
    exact absurd he off.ne

end Approximates

/-! ### Dropping bits -/

theorem mantissa_ofMantissaAndAccuracy (m : ℕ) (a : Accuracy) :
    (ExtendedMantissa.ofMantissaAndAccuracy m a).mantissa = m := by
  rcases a with - | (- | - | -) <;> rfl

theorem accuracy_ofMantissaAndAccuracy (m : ℕ) (a : Accuracy) :
    (ExtendedMantissa.ofMantissaAndAccuracy m a).accuracy = a := by
  rcases a with - | (- | - | -) <;> rfl

/-- A number that is not its whole part lies above it. -/
theorem Approximates.lt {m : ℕ} {o : Ordering} {x : ℚ} (h : Approximates m (.inexact o) x) :
    (m : ℚ) < x := by
  rcases o with - | - | -
  · exact (show (m : ℚ) < x ∧ x < m + 1 / 2 from h).1
  · have hx : x = m + 1 / 2 := h
    linarith
  · have hx := (show (m : ℚ) + 1 / 2 < x ∧ x < m + 1 from h).1
    linarith

/-- The bit that is dropped goes into the note: it tells on which side of the middle the rest
lies, and what was noted before tells whether it lies in the middle. -/
theorem approximates_shiftRightOne {em : ExtendedMantissa} {x : ℚ}
    (h : Approximates em.mantissa em.accuracy x) :
    Approximates em.shiftRightOne.mantissa em.shiftRightOne.accuracy (x / 2) := by
  rcases em with ⟨m, r, s⟩
  have half : (m : ℚ) = 2 * ((m / 2 : ℕ) : ℚ) + ((m % 2 : ℕ) : ℚ) := by
    exact_mod_cast (Nat.div_add_mod m 2).symm
  by_cases hrs : r = false ∧ s = false
  · -- nothing lay beyond the mantissa
    obtain ⟨rfl, rfl⟩ := hrs
    obtain rfl : x = m := h
    rcases Nat.mod_two_eq_zero_or_one m with hm | hm <;> rw [hm] at half
    · have acc : (ExtendedMantissa.mk m false false).shiftRightOne.accuracy = .exact := by
        simp [ExtendedMantissa.shiftRightOne, ExtendedMantissa.accuracy, hm]
      rw [acc]
      show (m : ℚ) / 2 = ((m / 2 : ℕ) : ℚ)
      push_cast at half
      linarith
    · have acc : (ExtendedMantissa.mk m false false).shiftRightOne.accuracy = .inexact .eq := by
        simp [ExtendedMantissa.shiftRightOne, ExtendedMantissa.accuracy, hm]
      rw [acc]
      show (m : ℚ) / 2 = ((m / 2 : ℕ) : ℚ) + 1 / 2
      push_cast at half
      linarith
  · -- something lay beyond it, and the middle is not hit
    have sticky : (r || s) = true := by
      rcases r with - | - <;> rcases s with - | - <;> simp at hrs ⊢
    have upper : x < m + 1 := h.bounds.2
    have lower : (m : ℚ) < x := by
      rcases r with - | - <;> rcases s with - | -
      · exact absurd ⟨rfl, rfl⟩ hrs
      · exact Approximates.lt h
      · exact Approximates.lt h
      · exact Approximates.lt h
    rcases Nat.mod_two_eq_zero_or_one m with hm | hm <;> rw [hm] at half
    · have acc : (ExtendedMantissa.mk m r s).shiftRightOne.accuracy = .inexact .lt := by
        simp [ExtendedMantissa.shiftRightOne, ExtendedMantissa.accuracy, hm, sticky]
      rw [acc]
      show ((m / 2 : ℕ) : ℚ) < x / 2 ∧ x / 2 < ((m / 2 : ℕ) : ℚ) + 1 / 2
      push_cast at half
      constructor <;> linarith
    · have acc : (ExtendedMantissa.mk m r s).shiftRightOne.accuracy = .inexact .gt := by
        simp [ExtendedMantissa.shiftRightOne, ExtendedMantissa.accuracy, hm, sticky]
      rw [acc]
      show ((m / 2 : ℕ) : ℚ) + 1 / 2 < x / 2 ∧ x / 2 < ((m / 2 : ℕ) : ℚ) + 1
      push_cast at half
      constructor <;> linarith

theorem approximates_shiftRight {em : ExtendedMantissa} {x : ℚ}
    (h : Approximates em.mantissa em.accuracy x) (k : ℕ) :
    Approximates (em >>> k).mantissa (em >>> k).accuracy (x / 2 ^ k) := by
  show Approximates (k.repeat ExtendedMantissa.shiftRightOne em).mantissa
    (k.repeat ExtendedMantissa.shiftRightOne em).accuracy (x / 2 ^ k)
  induction k with
  | zero => simpa [Nat.repeat] using h
  | succ k ih =>
      rw [Nat.repeat, pow_succ, ← div_div]
      exact approximates_shiftRightOne ih

/-! ### The step of the last bit kept -/

/-- The exponent that rounding aims at. -/
theorem targetExponent_eq (m : ℕ) (e : ℤ) :
    Format.binary64.targetExponent (totalExponent m e) = max (m.log2 + e - 52) (-1074) := by
  rw [Format.targetExponent, totalExponent]
  show max ((m.log2 : ℤ) + 1 + e - 53) (-1074) = max (m.log2 + e - 52) (-1074)
  congr 1
  omega

/-- The step that rounding aims at suits the number. -/
theorem suits_target {m : ℕ} {a : Accuracy} {x : ℚ} (h : Approximates m a x) {e : ℤ}
    (he : 2 ^ 52 ≤ m ∨ e ≤ -1074) : Suits (x * 2 ^ e) (max (m.log2 + e - 52) (-1074)) := by
  obtain ⟨lower, upper⟩ := h.bounds
  have below : x < 2 ^ (m.log2 + 1) := by
    have hm : m + 1 ≤ 2 ^ (m.log2 + 1) := Nat.lt_log2_self
    exact upper.trans_le (by exact_mod_cast hm)
  refine ⟨le_max_right _ _, ?_, ?_⟩
  · rw [div_lt_iff₀ (two_zpow_pos _)]
    calc x * 2 ^ e < 2 ^ (m.log2 + 1) * 2 ^ e := mul_lt_mul_of_pos_right below (two_zpow_pos e)
      _ = 2 ^ ((m.log2 : ℤ) + 1 + e) := by
        rw [← zpow_natCast, ← zpow_add₀ two_ne_zero]
        push_cast
        rfl
      _ ≤ 2 ^ (53 + max (m.log2 + e - 52) (-1074)) := zpow_le_zpow_right₀ one_le_two (by omega)
      _ = 2 ^ 53 * 2 ^ max (m.log2 + e - 52) (-1074) := by
        rw [zpow_add₀ two_ne_zero]
        norm_cast
  · by_cases ht : m.log2 + e - 52 ≤ -1074
    · exact Or.inl (max_eq_right ht)
    · -- the first digit of the mantissa is the first of the 53
      right
      have hm : m ≠ 0 := by
        rintro rfl
        rw [Nat.log2_zero] at ht
        omega
      have first : (2 : ℚ) ^ m.log2 ≤ x := by
        have hl : 2 ^ m.log2 ≤ m := Nat.log2_self_le hm
        exact le_trans (by exact_mod_cast hl) lower
      rw [max_eq_left (by omega), le_div_iff₀ (two_zpow_pos _)]
      calc (2 : ℚ) ^ 52 * 2 ^ ((m.log2 : ℤ) + e - 52) = 2 ^ m.log2 * 2 ^ e := by
            rw [← zpow_natCast, ← zpow_natCast, ← zpow_add₀ two_ne_zero, ← zpow_add₀ two_ne_zero]
            congr 1
            push_cast
            omega
        _ ≤ x * 2 ^ e := mul_le_mul_of_nonneg_right first (two_zpow_pos e).le

/-! ### The form in which doubles are stored -/

/-- The double `n · 2 ^ t` for a mantissa that rounding leaves, which is at most `2 ^ 53`. -/
def stored (s : Sign) (n : ℕ) (t : ℤ) : UnpackedFloat :=
  if n = 2 ^ 53 then .finite s (2 ^ 52) (t + 1) (by decide)
  else if h : n = 0 then .zero s
  else .finite s n t (Nat.pos_of_ne_zero h)

theorem shiftToTargetExponent_of_lt {n : ℕ} {t : ℤ} (hn : n < 2 ^ 53) (ht : -1074 ≤ t)
    (a : Accuracy) :
    shiftToTargetExponent Format.binary64 n t a
      = (ExtendedMantissa.ofMantissaAndAccuracy n a, t) := by
  have digits : n.log2 ≤ 52 := by
    rcases eq_or_ne n 0 with rfl | h0
    · simp
    · exact Nat.lt_succ_iff.1 ((Nat.log2_lt h0).2 hn)
  have stay : (max ((n.log2 : ℤ) + t - 52) (-1074) - t).toNat = 0 := by
    omega
  rw [shiftToTargetExponent, shiftToExponent, targetExponent_eq, stay]
  show (ExtendedMantissa.ofMantissaAndAccuracy n a, t + (0 : ℤ)) = _
  rw [add_zero]

theorem shiftToTargetExponent_two_pow {t : ℤ} (ht : -1074 ≤ t) :
    shiftToTargetExponent Format.binary64 (2 ^ 53) t .exact = (⟨2 ^ 52, false, false⟩, t + 1) := by
  have digits : (2 ^ 53 : ℕ).log2 = 53 := Nat.log2_two_pow
  have one : (max ((53 : ℕ) + t - 52) (-1074) - t).toNat = 1 := by
    omega
  rw [shiftToTargetExponent, shiftToExponent, targetExponent_eq, digits, one]
  rfl

/-- A number with 53 digits before the point is not rounded above `2 ^ 53`. -/
theorem NearestEven.le_two_pow {x : ℚ} {n : ℕ} (h : NearestEven x n) (hx : x < 2 ^ 53) :
    n ≤ 2 ^ 53 := by
  have near := (abs_le.1 h.near).1
  have below : (n : ℚ) < 2 ^ 53 + 1 := by linarith
  exact Nat.lt_succ_iff.1 (by exact_mod_cast below)

/-- Rounding takes the nearest integer in units of the step it aims at. -/
theorem roundWithAccuracy_eq (s : Sign) {m : ℕ} {a : Accuracy} {x : ℚ} (h : Approximates m a x)
    {e : ℤ} (he : 2 ^ 52 ≤ m ∨ e ≤ -1074) :
    ∃ n t, Suits (x * 2 ^ e) t ∧ NearestEven (x * 2 ^ e / 2 ^ t) n ∧
      roundWithAccuracy Format.binary64 s m e a = stored s n t := by
  have suits := suits_target h he
  -- the mantissa is moved to that step, which is not below its own
  obtain ⟨k, hk⟩ : ∃ k : ℕ, e + k = max ((m.log2 : ℤ) + e - 52) (-1074) := by
    have large : e ≤ max ((m.log2 : ℤ) + e - 52) (-1074) := by
      rcases he with hm | he
      · have := (Nat.le_log2 (by omega)).2 hm
        omega
      · omega
    exact Int.le.dest large
  rw [← hk] at suits
  have scaled : x * 2 ^ e / 2 ^ (e + k : ℤ) = x / 2 ^ k := by
    rw [zpow_add₀ two_ne_zero, zpow_natCast]
    field_simp
  have shifted : shiftToTargetExponent Format.binary64 m e a
      = (ExtendedMantissa.ofMantissaAndAccuracy m a >>> k, e + k) := by
    rw [shiftToTargetExponent, shiftToExponent, targetExponent_eq, ← hk]
    simp
  -- and there it is rounded
  have near : NearestEven (x / 2 ^ k)
      (ExtendedMantissa.ofMantissaAndAccuracy m a >>> k).roundedMantissa := by
    refine (approximates_shiftRight ?_ k).nearestEven_round
    rw [mantissa_ofMantissaAndAccuracy, accuracy_ofMantissaAndAccuracy]
    exact h
  rw [roundWithAccuracy, shifted]
  simp only
  generalize (ExtendedMantissa.ofMantissaAndAccuracy m a >>> k).roundedMantissa = n at near ⊢
  refine ⟨n, e + k, suits, scaled ▸ near, ?_⟩
  rcases (near.le_two_pow (scaled ▸ suits.lt)).lt_or_eq with hn | rfl
  · -- the rounded mantissa fits
    have again := shiftToTargetExponent_of_lt hn suits.min_le .exact
    have kept : (ExtendedMantissa.ofMantissaAndAccuracy n .exact).mantissa = n := rfl
    rw [stored, if_neg hn.ne]
    simp only [again, kept]
  · -- it was rounded up to one bit more
    rw [stored, if_pos rfl]
    simp only [shiftToTargetExponent_two_pow suits.min_le]
    rfl

end Toolpath.Double
