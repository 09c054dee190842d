/-
Toolpath/Number/Rounding.lean

Rounding a quotient of natural numbers to the nearest integer.  Of two integers that
are equally near the even one is taken, so rounding is off by at most half a unit
(`roundDiv_near`) and exact quotients are kept (`roundDiv_mul_self`).
-/
namespace Toolpath

/-- The integer nearest to `num / den`; a tie goes to the even one. -/
def roundDiv (num den : Nat) : Nat :=
  let quotient := num / den
  let twice := 2 * (num % den)
  if twice < den ∨ (twice = den ∧ quotient % 2 = 0) then quotient else quotient + 1

/-- Rounding keeps the quotient or goes one above it. -/
theorem roundDiv_eq (num den : Nat) :
    roundDiv num den = num / den ∨ roundDiv num den = num / den + 1 := by
  rw [roundDiv]
  by_cases h : 2 * (num % den) < den ∨ (2 * (num % den) = den ∧ num / den % 2 = 0)
  · exact Or.inl (if_pos h)
  · exact Or.inr (if_neg h)

/-- A quotient that is an integer is kept. -/
theorem roundDiv_mul_self (n : Nat) {den : Nat} (h : 0 < den) : roundDiv (n * den) den = n := by
  simp [roundDiv, h]

/-- The result is at most half a unit away from the quotient. -/
theorem roundDiv_near (num : Nat) {den : Nat} (h : 0 < den) :
    2 * num ≤ (2 * roundDiv num den + 1) * den ∧ 2 * roundDiv num den * den ≤ 2 * num + den := by
  have split : den * (num / den) + num % den = num := Nat.div_add_mod num den
  have small : num % den < den := Nat.mod_lt num h
  rw [roundDiv]
  generalize num / den = q at *
  generalize num % den = r at *
  subst split
  by_cases hr : 2 * r < den ∨ (2 * r = den ∧ q % 2 = 0)
  · -- rounded down: the remainder is at most half the divisor
    simp only [hr, if_true, Nat.add_mul, Nat.mul_add, Nat.mul_assoc, Nat.one_mul,
      Nat.mul_comm den q]
    omega
  · -- rounded up: the remainder is at least half the divisor
    simp only [hr, if_false, Nat.add_mul, Nat.mul_add, Nat.mul_assoc, Nat.one_mul,
      Nat.mul_comm den q]
    omega

end Toolpath
