/-
Toolpath/Proofs/Double/Decimal.lean

Decimals are read as the nearest doubles.  A decimal is turned into a double by one product or
one quotient of two doubles, of which one stands for its digits and the other for a power of ten.
Both stand for their numbers exactly, and the product or quotient is rounded once
(`rounds_mul`, `rounds_div`), so the result is the double nearest to the decimal
(`rounds_toFloat`).

Powers of ten that are out of reach of every double are not computed: above them everything but
zero is infinite, and below them everything is zero.
-/
import Toolpath.Proofs.Double.Storage

namespace Toolpath.Double

open Float.Model Float.Model.UnpackedFloat

/-! ### One product and one quotient -/

/-- What rounding leaves is stored as the nearest double. -/
theorem rounds_roundWithAccuracy (s : Sign) {m : ℕ} {a : Accuracy} {x : ℚ}
    (h : Approximates m a x) {e : ℤ} (he : 2 ^ 52 ≤ m ∨ e ≤ -1074) :
    Rounds (isMinus s) (x * 2 ^ e)
      (.ofModel (.pack (roundWithAccuracy Format.binary64 s m e a))) := by
  obtain ⟨n, t, hs, hn, eq⟩ := roundWithAccuracy_eq s h he
  rw [eq]
  exact rounds_stored s hs hn

section

variable {m₁ m₂ : ℕ} {e₁ e₂ : ℤ}

/-- A product with bits enough is rounded to the nearest double. -/
theorem rounds_mul (h₁ : 0 < m₁) (h₂ : 0 < m₂) (h : 2 ^ 52 ≤ m₁) :
    Rounds false ((m₁ * 2 ^ e₁) * (m₂ * 2 ^ e₂))
      (.ofModel (.pack (UnpackedFloat.mul Format.binary64 (.finite .positive m₁ e₁ h₁)
        (.finite .positive m₂ e₂ h₂)))) := by
  have exact : Approximates (m₁ * m₂) .exact ((m₁ * m₂ : ℕ) : ℚ) := rfl
  have enough : 2 ^ 52 ≤ m₁ * m₂ := h.trans (Nat.le_mul_of_pos_right _ h₂)
  have rounded := rounds_roundWithAccuracy .positive exact (e := e₁ + e₂) (Or.inl enough)
  have eq : ((m₁ * m₂ : ℕ) : ℚ) * 2 ^ (e₁ + e₂) = (m₁ * 2 ^ e₁) * (m₂ * 2 ^ e₂) := by
    rw [zpow_add₀ two_ne_zero]
    push_cast
    ring
  rw [← eq]
  exact rounded

/-- The remainder of a division tells what lies beyond the quotient. -/
theorem approximates_div (n : ℕ) {d : ℕ} (hd : 0 < d) :
    Approximates (n / d) (accuracyOfFraction (n % d) d) ((n : ℚ) / d) := by
  have hd' : (0 : ℚ) < d := by exact_mod_cast hd
  -- the division with remainder, as an equation of rational numbers
  have whole : (n : ℚ) / d = ((n / d : ℕ) : ℚ) + ((n % d : ℕ) : ℚ) / d := by
    have hn : ((d * (n / d) + n % d : ℕ) : ℚ) = n := by rw [Nat.div_add_mod]
    rw [← hn]
    push_cast
    field_simp
  have small : n % d < d := Nat.mod_lt n hd
  rw [whole, accuracyOfFraction]
  generalize n / d = k
  generalize n % d = l at small ⊢
  by_cases h0 : l = 0
  · rw [if_pos h0, h0]
    show (k : ℚ) + ((0 : ℕ) : ℚ) / d = k
    simp
  · rw [if_neg h0]
    have above : 0 < (l : ℚ) / d := div_pos (by exact_mod_cast Nat.pos_of_ne_zero h0) hd'
    rcases lt_trichotomy (2 * l) d with hl | hl | hl
    · -- less than half of a unit is left
      rw [compare_lt_iff_lt.2 hl]
      have below : (l : ℚ) / d < 1 / 2 := by
        rw [div_lt_div_iff₀ hd' two_pos]
        exact_mod_cast (by omega : l * 2 < 1 * d)
      exact ⟨by linarith, by linarith⟩
    · -- half of a unit is left
      rw [compare_eq_iff_eq.2 hl]
      have middle : (l : ℚ) / d = 1 / 2 := by
        rw [div_eq_div_iff hd'.ne' two_ne_zero]
        exact_mod_cast (by omega : l * 2 = 1 * d)
      show (k : ℚ) + (l : ℚ) / d = k + 1 / 2
      rw [middle]
    · -- more than half of a unit is left
      rw [compare_gt_iff_gt.2 hl]
      have beyond : 1 / 2 < (l : ℚ) / d := by
        rw [div_lt_div_iff₀ two_pos hd']
        exact_mod_cast (by omega : 1 * d < l * 2)
      have below : (l : ℚ) / d < 1 := (div_lt_one hd').2 (by exact_mod_cast small)
      exact ⟨by linarith, by linarith⟩

/-- A quotient is rounded to the nearest double. -/
theorem rounds_div (h₁ : 0 < m₁) (h₂ : 0 < m₂) :
    Rounds false ((m₁ * 2 ^ e₁) / (m₂ * 2 ^ e₂))
      (.ofModel (.pack (UnpackedFloat.div Format.binary64 (.finite .positive m₁ e₁ h₁)
        (.finite .positive m₂ e₂ h₂)))) := by
  show Rounds false _ (.ofModel (.pack (roundWithAccuracy Format.binary64 .positive
    (divCore Format.binary64 m₁ e₁ m₂ e₂).1 (divCore Format.binary64 m₁ e₁ m₂ e₂).2.1
    (divCore Format.binary64 m₁ e₁ m₂ e₂).2.2)))
  rw [divCore]
  simp only
  generalize ht : min (e₁ - e₂)
    (Format.binary64.targetExponent (totalExponent m₁ e₁ - totalExponent m₂ e₂)) = t
  have hle : t ≤ e₁ - e₂ := ht ▸ min_le_left _ _
  obtain ⟨k, hk⟩ := Int.le.dest hle
  have shift : (e₁ - e₂ - t).toNat = k := by omega
  rw [shift]
  -- the quotient has bits enough, and what lies beyond it is known
  have beyond := approximates_div (m₁ <<< k) h₂
  have enough : 2 ^ 52 ≤ m₁ <<< k / m₂ ∨ t ≤ -1074 := by
    by_cases least : t ≤ -1074
    · exact Or.inr least
    · -- the first number was moved until it has 53 digits more than the second
      have digits : 53 + m₂.log2 ≤ m₁.log2 + k := by
        have aim : t ≤ max (totalExponent m₁ e₁ - totalExponent m₂ e₂ - 53) (-1074) :=
          ht ▸ min_le_right _ _
        simp only [totalExponent] at aim
        omega
      left
      rw [Nat.le_div_iff_mul_le h₂, Nat.shiftLeft_eq]
      calc 2 ^ 52 * m₂ ≤ 2 ^ 52 * 2 ^ (m₂.log2 + 1) :=
            Nat.mul_le_mul_left _ Nat.lt_log2_self.le
        _ = 2 ^ (53 + m₂.log2) := by ring
        _ ≤ 2 ^ (m₁.log2 + k) := Nat.pow_le_pow_right two_pos digits
        _ = 2 ^ m₁.log2 * 2 ^ k := by ring
        _ ≤ m₁ * 2 ^ k := Nat.mul_le_mul_right _ (Nat.log2_self_le h₁.ne')
  have rounded := rounds_roundWithAccuracy .positive beyond enough
  have eq : ((m₁ <<< k : ℕ) : ℚ) / m₂ * 2 ^ t = (m₁ * 2 ^ e₁) / (m₂ * 2 ^ e₂) := by
    have h₂' : (m₂ : ℚ) ≠ 0 := by exact_mod_cast h₂.ne'
    have powers : (2 : ℚ) ^ e₁ = 2 ^ k * 2 ^ t * 2 ^ e₂ := by
      rw [← zpow_natCast, ← zpow_add₀ two_ne_zero, ← zpow_add₀ two_ne_zero]
      congr 1
      omega
    rw [Nat.shiftLeft_eq, powers]
    push_cast
    field_simp
  rw [← eq]
  exact rounded

end

/-! ### The two numbers -/

/-- Nothing is rounded that has at most 53 digits. -/
theorem roundWithAccuracy_of_lt (s : Sign) {m : ℕ} {q : ℤ} (h0 : 0 < m) (hm : m < 2 ^ 53)
    (hq : -1074 ≤ q) :
    roundWithAccuracy Format.binary64 s m q .exact = .finite s m q h0 := by
  have stay := shiftToTargetExponent_of_lt hm hq .exact
  have kept : (ExtendedMantissa.ofMantissaAndAccuracy m .exact).roundedMantissa = m := rfl
  have whole : (ExtendedMantissa.ofMantissaAndAccuracy m .exact).mantissa = m := rfl
  rw [roundWithAccuracy]
  simp only [stay, kept, whole, dif_neg h0.ne']

/-- A natural number of at most 53 digits is stored exactly, moved until it has 53. -/
theorem unpack_toFloat {m : ℕ} (h0 : 0 < m) (hm : m < 2 ^ 53) :
    ∃ (k : ℕ) (hk : 0 < m * 2 ^ k),
      m.toUInt64.toFloat.toModel.unpack = .finite .positive (m * 2 ^ k) (-k : ℤ) hk ∧
        2 ^ 52 ≤ m * 2 ^ k := by
  have digits : m.log2 ≤ 52 := Nat.lt_succ_iff.1 ((Nat.log2_lt h0.ne').2 hm)
  obtain ⟨k, hk⟩ := Nat.exists_eq_add_of_le digits
  have lower : 2 ^ 52 ≤ m * 2 ^ k := by
    rw [hk, pow_add]
    exact Nat.mul_le_mul_right _ (Nat.log2_self_le h0.ne')
  have upper : m * 2 ^ k < 2 ^ 53 := by
    rw [show 53 = m.log2 + 1 + k by omega, pow_add]
    exact Nat.mul_lt_mul_of_pos_right Nat.lt_log2_self (Nat.two_pow_pos k)
  have positive : 0 < m * 2 ^ k := Nat.mul_pos h0 (Nat.two_pow_pos k)
  -- the conversion moves the number so far that nothing is rounded
  have value : UnpackedFloat.ofUInt64 Format.binary64 m.toUInt64
      = .finite .positive (m * 2 ^ k) (-k) positive := by
    have same : m.toUInt64.toNat = m := Nat.mod_eq_of_lt (hm.trans (by decide))
    have above : compare (m : ℤ) 0 = .gt := compare_gt_iff_gt.2 (by omega)
    have aim : (0 - max ((m.log2 : ℤ) + 0 - 52) (-1074)).toNat = k := by omega
    show UnpackedFloat.normalize Format.binary64 (m.toUInt64.toNat : ℤ) 0 .positive = _
    rw [same, UnpackedFloat.normalize]
    simp only [above]
    rw [UnpackedFloat.round]
    simp only [decreaseExponent, Int.toNat_natCast, targetExponent_eq, aim, Nat.shiftLeft_eq]
    rw [zero_sub]
    exact roundWithAccuracy_of_lt .positive positive upper (by omega)
  refine ⟨k, positive, ?_, lower⟩
  show (Float.Model.pack (UnpackedFloat.ofUInt64 Format.binary64 m.toUInt64)).unpack = _
  rw [value]
  exact unpack_pack ⟨⟨upper, by omega, by omega⟩, Or.inr lower⟩

/-- The double is this power of ten. -/
def isPowerOfTen (e : ℕ) : UnpackedFloat → Bool
  | .finite .positive m q _ => m * 2 ^ q.toNat = 10 ^ e * 2 ^ (-q).toNat
  | _ => false

/-- The table holds the powers of ten. -/
theorem isPowerOfTen_table : ∀ e : Fin 23,
    isPowerOfTen e (Float.exactlyRepresentablePowersOfTen[e]).toModel.unpack = true := by
  decide +kernel

theorem unpack_powerOfTen {e : ℕ} (he : e < Float.exactlyRepresentablePowersOfTen.size) :
    ∃ m q hm, (Float.exactlyRepresentablePowersOfTen[e]).toModel.unpack
        = .finite .positive m q hm ∧ (m : ℚ) * 2 ^ q = 10 ^ e := by
  have table : isPowerOfTen e (Float.exactlyRepresentablePowersOfTen[e]).toModel.unpack = true :=
    isPowerOfTen_table ⟨e, he⟩
  generalize (Float.exactlyRepresentablePowersOfTen[e]).toModel.unpack = u at table
  rcases u with s | - | s | ⟨- | -, m, q, hm⟩
  case finite.positive =>
    have whole : (m : ℚ) * 2 ^ q.toNat = 10 ^ e * 2 ^ (-q).toNat := by
      exact_mod_cast of_decide_eq_true table
    refine ⟨m, q, hm, rfl, ?_⟩
    have split : q = q.toNat - (-q).toNat := by omega
    have nonzero : (2 : ℚ) ^ (-q).toNat ≠ 0 := pow_ne_zero _ two_ne_zero
    rw [split, zpow_sub₀ two_ne_zero, zpow_natCast, zpow_natCast, ← mul_div_assoc,
      div_eq_iff nonzero]
    exact whole
  all_goals cases table

/-! ### Decimals out of reach -/

/-- What is at most half the least step is rounded to zero. -/
theorem rounds_zero {r : ℚ} (h0 : 0 ≤ r) (hr : r / 2 ^ (-1074 : ℤ) ≤ 1 / 2) :
    Rounds false r (.ofModel (.pack (.zero .positive))) := by
  have suits : Suits r (-1074) := ⟨le_rfl, by linarith, Or.inl rfl⟩
  have near : NearestEven (r / 2 ^ (-1074 : ℤ)) 0 := by
    refine ⟨?_, fun _ => Even.zero⟩
    rw [Nat.cast_zero, sub_zero, abs_of_nonneg (div_nonneg h0 (two_zpow_pos _).le)]
    exact hr
  have zero : stored .positive 0 (-1074) = .zero .positive := by
    rw [stored, if_neg (by decide), dif_pos rfl]
  rw [← zero]
  exact rounds_stored .positive suits near

theorem limit_le_of_large {m : ℕ} {e : ℤ} (h0 : 0 < m) (he : 2 ^ 11 < e) :
    limit ≤ m * 10 ^ e := by
  have one : (1 : ℚ) ≤ m := by exact_mod_cast h0
  have ten : (2 : ℚ) ≤ 10 := by norm_num
  calc limit ≤ 2 ^ (53 : ℤ) * 2 ^ (971 : ℤ) :=
        mul_le_mul_of_nonneg_right (by norm_num) (two_zpow_pos _).le
    _ = 2 ^ (53 + 971 : ℤ) := (zpow_add₀ two_ne_zero _ _).symm
    _ ≤ 2 ^ e := zpow_le_zpow_right₀ one_le_two (by omega)
    _ ≤ 10 ^ e := zpow_le_zpow_left₀ (by omega) two_pos.le ten
    _ ≤ m * 10 ^ e := le_mul_of_one_le_left (zpow_pos (by norm_num) e).le one

theorem least_of_small {m : ℕ} {e : ℤ} (he : e < -(2 ^ 11 + m.log2)) :
    (m : ℚ) * 10 ^ e / 2 ^ (-1074 : ℤ) ≤ 1 / 2 := by
  have digits : (m : ℚ) ≤ 2 ^ ((m.log2 : ℤ) + 1) := by
    have hm : m ≤ 2 ^ (m.log2 + 1) := Nat.lt_log2_self.le
    exact_mod_cast hm
  have tens : (10 : ℚ) ^ e ≤ 2 ^ e := by
    rw [← inv_le_inv₀ (two_zpow_pos e) (zpow_pos (by norm_num) e), ← zpow_neg, ← zpow_neg]
    exact zpow_le_zpow_left₀ (by omega) two_pos.le (by norm_num)
  rw [div_le_iff₀ (two_zpow_pos _)]
  calc (m : ℚ) * 10 ^ e ≤ 2 ^ ((m.log2 : ℤ) + 1) * 2 ^ e :=
        mul_le_mul digits tens (zpow_pos (by norm_num) e).le (two_zpow_pos _).le
    _ = 2 ^ ((m.log2 : ℤ) + 1 + e) := (zpow_add₀ two_ne_zero _ _).symm
    _ ≤ 2 ^ (-1 + -1074 : ℤ) := zpow_le_zpow_right₀ one_le_two (by omega)
    _ = 1 / 2 * 2 ^ (-1074 : ℤ) := by
      rw [zpow_add₀ two_ne_zero]
      norm_num

/-! ### Decimals -/

/-- Large numbers are read by way of the exact product or quotient. -/
theorem rounds_model (m : ℕ) (e : ℤ) :
    Rounds false (m * 10 ^ e) (.ofModel (.ofScientific m e)) := by
  show Rounds false _ (.ofModel (.pack (UnpackedFloat.ofScientific Format.binary64 m e)))
  rw [UnpackedFloat.ofScientific]
  by_cases hm : m = 0
  · rw [dif_pos hm, hm]
    exact rounds_zero (by simp) (by simp)
  have h0 : 0 < m := Nat.pos_of_ne_zero hm
  rw [dif_neg hm]
  by_cases large : 2 ^ 11 < e
  · -- no double is as large
    rw [if_pos large]
    have infinite : RoundsTo false (m * 10 ^ e) (.infinity .positive) :=
      ⟨rfl, limit_le_of_large h0 large⟩
    exact rounds_pack infinite
  rw [if_neg large]
  by_cases small : e < -(2 ^ 11 + m.log2)
  · -- no double but zero is as small
    rw [if_pos small]
    exact rounds_zero (by positivity) (least_of_small small)
  rw [if_neg small]
  by_cases sign : 0 ≤ e
  · -- the digits, moved by 53 places, times the power of ten
    rw [if_pos sign]
    obtain ⟨k, rfl⟩ := Int.eq_ofNat_of_zero_le sign
    have shifted : (m : ℚ) * (10 : ℚ) ^ (k : ℤ)
        = ((m <<< 53 : ℕ) * 2 ^ (-53 : ℤ)) * ((10 ^ k : ℕ) * 2 ^ (0 : ℤ)) := by
      rw [Nat.shiftLeft_eq, zpow_neg, zpow_natCast]
      push_cast
      field_simp
    rw [shifted]
    exact rounds_mul _ _ (by
      rw [Nat.shiftLeft_eq]
      omega)
  · -- the digits over the power of ten
    rw [if_neg sign]
    obtain ⟨k, rfl⟩ := Int.exists_eq_neg_ofNat (not_le.1 sign).le
    have whole : (m : ℚ) * (10 : ℚ) ^ (-k : ℤ)
        = (m * 2 ^ (0 : ℤ)) / ((10 ^ k : ℕ) * 2 ^ (0 : ℤ)) := by
      push_cast
      rw [zpow_neg, zpow_natCast]
      field_simp
    rw [whole]
    have back : (- -(k : ℤ)).toNat = k := by omega
    simp only [back]
    exact rounds_div h0 _

/-- With digits and a power of ten that are doubles one product or quotient of doubles is enough. -/
theorem rounds_table {m e : ℕ} (hm : m < 2 ^ 53)
    (he : e < Float.exactlyRepresentablePowersOfTen.size) :
    Rounds false (m * 10 ^ e) (m.toUInt64.toFloat * Float.exactlyRepresentablePowersOfTen[e]) ∧
      Rounds false (m / 10 ^ e)
        (m.toUInt64.toFloat / Float.exactlyRepresentablePowersOfTen[e]) := by
  obtain ⟨p, q, hp, power, value⟩ := unpack_powerOfTen he
  generalize Float.exactlyRepresentablePowersOfTen[e] = y at power ⊢
  generalize hx : m.toUInt64.toFloat = x
  show Rounds false _ (.ofModel (.pack (UnpackedFloat.mul Format.binary64 x.toModel.unpack
      y.toModel.unpack))) ∧
    Rounds false _ (.ofModel (.pack (UnpackedFloat.div Format.binary64 x.toModel.unpack
      y.toModel.unpack)))
  rw [power, ← value, ← hx]
  rcases Nat.eq_zero_or_pos m with rfl | h0
  · -- zero, whatever the power
    have zero : (0 : ℕ).toUInt64.toFloat.toModel.unpack = .zero .positive :=
      unpack_packedZero .positive
    rw [zero]
    exact ⟨rounds_zero (by simp) (by simp), rounds_zero (by simp) (by simp)⟩
  · obtain ⟨k, hk, digits, full⟩ := unpack_toFloat h0 hm
    have same : (m : ℚ) = (m * 2 ^ k : ℕ) * 2 ^ (-k : ℤ) := by
      rw [zpow_neg, zpow_natCast]
      push_cast
      field_simp
    rw [digits, same]
    exact ⟨rounds_mul hk hp full, rounds_div hk hp⟩

/-- The size of a decimal is read as the double nearest to it. -/
theorem rounds_ofScientific (m : ℕ) (e : ℤ) :
    Rounds false (m * 10 ^ e) (Float.ofScientific m (e < 0) e.natAbs) := by
  rw [Float.ofScientific]
  split
  · -- digits and power are both doubles
    next h =>
      have table := rounds_table h.1
        (show e.natAbs < Float.exactlyRepresentablePowersOfTen.size from Nat.lt_succ_of_le h.2)
      by_cases sign : e < 0
      · obtain ⟨k, rfl⟩ := Int.exists_eq_neg_ofNat sign.le
        have quotient : (m : ℚ) * (10 : ℚ) ^ (-k : ℤ) = m / 10 ^ k := by
          rw [zpow_neg, zpow_natCast, div_eq_mul_inv]
        rw [quotient]
        simp only [sign, decide_true, if_true]
        simp only [Int.natAbs_neg, Int.natAbs_natCast] at table ⊢
        exact table.2
      · obtain ⟨k, rfl⟩ := Int.eq_ofNat_of_zero_le (not_lt.1 sign)
        simp only [sign, decide_false, Bool.false_eq_true, if_false]
        simp only [Int.natAbs_natCast] at table ⊢
        rw [zpow_natCast]
        exact table.1
  · -- one of them is not
    by_cases sign : e < 0
    · have back : Int.negOfNat e.natAbs = e := by
        rw [Int.negOfNat_eq]
        show -(e.natAbs : ℤ) = e
        omega
      simp only [sign, decide_true, if_true, back]
      exact rounds_model m e
    · have back : Int.ofNat e.natAbs = e := by
        show (e.natAbs : ℤ) = e
        omega
      simp only [sign, decide_false, Bool.false_eq_true, if_false, back]
      exact rounds_model m e

/-- A decimal is read as the double nearest to it. -/
theorem rounds_toFloat (d : Decimal) :
    Rounds d.negative (d.coefficient * 10 ^ d.exponent) d.toFloat := by
  have size := rounds_ofScientific d.coefficient d.exponent
  rw [Decimal.toFloat]
  cases hn : d.negative with
  | false => exact size
  | true => exact size.neg

end Toolpath.Double
