/-
Toolpath/Proofs/Double/WholePart.lean

The number that a double stands for (`number?`), and its whole part.  A double is read as a decimal,
and the fraction of the decimal is dropped; since the decimal is the number itself
(`toRat_ofBinary`), what is left is the number rounded toward zero (`integerPart?_eq`).
-/
import Mathlib.Data.Rat.Floor
import Mathlib.Tactic.Ring
import Toolpath.Number.Decimal

namespace Toolpath

/-- A rational number without its fraction. -/
def towardZero (r : ℚ) : ℤ :=
  if 0 ≤ r then ⌊r⌋ else ⌈r⌉

theorem towardZero_of_nonneg {r : ℚ} (h : 0 ≤ r) : towardZero r = ⌊r⌋ :=
  if_pos h

/-- The fraction is dropped in the same way on either side of zero. -/
theorem towardZero_neg {r : ℚ} (h : 0 ≤ r) : towardZero (-r) = -⌊r⌋ := by
  rcases h.eq_or_lt with rfl | h
  · rfl
  · rw [towardZero, if_neg (by simpa using h), Int.ceil_neg]

namespace Decimal

/-- The number that a decimal stands for. -/
def toRat (d : Decimal) : ℚ :=
  if d.negative then -(d.coefficient * 10 ^ d.exponent) else d.coefficient * 10 ^ d.exponent

/-- Shifting the point drops digits of the coefficient, or puts zeros after it. -/
theorem floor_mul_ten_zpow (m : ℕ) (e : ℤ) :
    ⌊(m * 10 ^ e : ℚ)⌋
      = ((if e < 0 then m / 10 ^ e.natAbs else m * 10 ^ e.natAbs : ℕ) : ℤ) := by
  split
  · next he =>
    have quotient : (m * 10 ^ e : ℚ) = m / (10 ^ e.natAbs : ℕ) := by
      rw [show e = -(e.natAbs : ℤ) by omega, zpow_neg, zpow_natCast, Int.natAbs_neg,
        Int.natAbs_natCast, div_eq_mul_inv]
      push_cast
      rfl
    rw [quotient, Rat.floor_natCast_div_natCast, Int.natCast_div]
  · next he =>
    have product : (m * 10 ^ e : ℚ) = ((m * 10 ^ e.natAbs : ℕ) : ℤ) := by
      rw [show e = (e.natAbs : ℤ) by omega, zpow_natCast, Int.natAbs_natCast]
      push_cast
      rfl
    rw [product, Int.floor_intCast]

/-- The integer part of a decimal is its number without the fraction. -/
theorem truncate_eq (d : Decimal) : d.truncate = towardZero d.toRat := by
  have size : (0 : ℚ) ≤ d.coefficient * 10 ^ d.exponent :=
    mul_nonneg d.coefficient.cast_nonneg (zpow_nonneg (by norm_num) _)
  have part : ⌊(d.coefficient * 10 ^ d.exponent : ℚ)⌋ = _ :=
    floor_mul_ten_zpow d.coefficient d.exponent
  rw [truncate, toRat]
  split
  · rw [towardZero_neg size, part]
    rfl
  · rw [towardZero_of_nonneg size, part]
    rfl

/-- Nothing is lost when a binary number is written as a decimal. -/
theorem size_ofBinary (negative : Bool) (m : ℕ) (q : ℤ) :
    ((ofBinary negative m q).coefficient * 10 ^ (ofBinary negative m q).exponent : ℚ)
      = m * 2 ^ q := by
  rw [ofBinary]
  split
  · next hq =>
    show ((m * 5 ^ q.natAbs : ℕ) * 10 ^ q : ℚ) = m * 2 ^ q
    rw [show q = -(q.natAbs : ℤ) by omega, zpow_neg, zpow_neg, zpow_natCast, zpow_natCast,
      Int.natAbs_neg, Int.natAbs_natCast, show (10 : ℚ) = 2 * 5 by norm_num, mul_pow]
    push_cast
    field_simp
  · next hq =>
    show ((m * 2 ^ q.natAbs : ℕ) * 10 ^ (0 : ℤ) : ℚ) = m * 2 ^ q
    rw [show q = (q.natAbs : ℤ) by omega, zpow_natCast, Int.natAbs_natCast, zpow_zero, mul_one]
    push_cast
    rfl

@[simp] theorem negative_ofBinary (negative : Bool) (m : ℕ) (q : ℤ) :
    (ofBinary negative m q).negative = negative := by
  rw [ofBinary]
  split <;> rfl

theorem toRat_ofBinary (negative : Bool) (m : ℕ) (q : ℤ) :
    (ofBinary negative m q).toRat = if negative then -(m * 2 ^ q : ℚ) else m * 2 ^ q := by
  rw [toRat, size_ofBinary, negative_ofBinary]

end Decimal

/-- The number that a double stands for, if it stands for one. -/
def number? (x : Float) : Option ℚ :=
  match x.toModel.unpack with
  | .notANumber => none
  | .infinity _ => none
  | .zero _ => some 0
  | .finite s m q _ => some (if isMinus s then -(m * 2 ^ q) else m * 2 ^ q)

/-- The finite doubles are those that stand for a number. -/
theorem isSome_number? (x : Float) : (number? x).isSome = x.isFinite := by
  show (number? x).isSome = x.toModel.unpack.isFinite
  rw [number?]
  cases x.toModel.unpack <;> rfl

/-- The number that is read, if it is one. -/
def Reading.number? : Reading → Option ℚ
  | .finite d => some d.toRat
  | _ => none

/-- A double is read as the number that it stands for. -/
theorem number?_eq (x : Float) : number? x = (Reading.ofFloat x).number? := by
  rw [number?, Reading.ofFloat]
  cases x.toModel.unpack with
  | notANumber | infinity s => rfl
  | zero s => cases s <;> simp [Reading.number?, Decimal.toRat]
  | finite s m q =>
    show some _ = some _
    rw [Decimal.toRat_ofBinary]

theorem exists_of_number? {x : Float} {r : ℚ} (h : number? x = some r) :
    ∃ d, Reading.ofFloat x = .finite d ∧ d.toRat = r := by
  rw [number?_eq] at h
  cases hd : Reading.ofFloat x with
  | undefined | infinite negative =>
    rw [hd] at h
    cases h
  | finite d =>
    rw [hd] at h
    exact ⟨d, rfl, Option.some.inj h⟩

/-- The integer part of a double is its number without the fraction, if it stands for one. -/
theorem integerPart?_eq (x : Float) : integerPart? x = (number? x).map towardZero := by
  rw [number?_eq, integerPart?]
  cases Reading.ofFloat x with
  | undefined | infinite negative => rfl
  | finite d => exact congrArg some (Decimal.truncate_eq d)

/-- So the finite doubles are those with an integer part. -/
theorem isSome_integerPart? (x : Float) : (integerPart? x).isSome = x.isFinite := by
  rw [integerPart?_eq, Option.isSome_map, isSome_number?]

end Toolpath
