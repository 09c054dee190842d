/-
Toolpath/Proofs/Double/Equality.lean

Doubles that are equal as numbers.  They are the same double, unless they are the two zeros
(`eq_or_zero_of_beq`); so a number that compares equal to one that is finite and not zero is that
number (`beq_iff_eq_of_finite`), and no comparison tells the two zeros apart (`beq_congr`).

Every double is equal to itself but the one that is no number.  Rounding does not lead there, and
neither does a product with a finite factor (`beq_self_mul`).
-/
import Toolpath.Proofs.Double.Decimal

namespace Toolpath.Double

open Float.Model Float.Model.UnpackedFloat

theorem eq_or_zero_of_compare {u v : UnpackedFloat} (h : u.compare v = some .eq) :
    u = v ∨ ∃ s s', u = .zero s ∧ v = .zero s' := by
  cases u with
  | notANumber => cases h
  | infinity s =>
    cases v with
    | infinity s' => cases s <;> cases s' <;> first | exact .inl rfl | exact absurd h (by decide)
    | notANumber => cases h
    | zero s' | finite s' m q hm => cases s <;> cases h
  | zero s =>
    cases v with
    | zero s' => exact .inr ⟨s, s', rfl, rfl⟩
    | notANumber => cases h
    | infinity s' | finite s' m q hm => cases s' <;> cases h
  | finite s m q hm =>
    cases v with
    | finite s' m' q' hm' =>
      -- with one sign the exponents and the numbers before them are compared
      have same : s = s' ∧ (Ord.compare q q').then (Ord.compare m m') = .eq := by
        cases s <;> cases s'
        case positive.positive => exact ⟨rfl, Option.some.inj h⟩
        case negative.negative => exact ⟨rfl, Ordering.swap_eq_eq.1 (Option.some.inj h)⟩
        all_goals cases h
      obtain ⟨rfl, same⟩ := same
      obtain ⟨hq, hm⟩ := Ordering.then_eq_eq.1 same
      obtain rfl := Std.compare_eq_iff_eq.1 hq
      obtain rfl := Std.compare_eq_iff_eq.1 hm
      exact .inl rfl
    | notANumber => cases h
    | infinity s' => cases s' <;> cases h
    | zero s' => cases s <;> cases h

/-- Equal numbers are the same double, or both are zero. -/
theorem eq_or_zero_of_beq {x y : Float} (h : (x == y) = true) :
    x = y ∨ ∃ s s', x.toModel.unpack = .zero s ∧ y.toModel.unpack = .zero s' := by
  have equal : x.toModel.unpack.compare y.toModel.unpack = some .eq := by
    change (x.toModel.unpack.compare y.toModel.unpack == some .eq) = true at h
    exact eq_of_beq h
  exact (eq_or_zero_of_compare equal).imp_left eq_of_unpack_eq

theorem beq_iff_eq_of_finite {x : Float} {s : Sign} {m : ℕ} {q : ℤ} {hm : 0 < m}
    (hx : x.toModel.unpack = .finite s m q hm) (y : Float) : (x == y) = true ↔ y = x := by
  constructor
  · intro h
    rcases eq_or_zero_of_beq h with rfl | ⟨s', -, hz, -⟩
    · rfl
    · cases hx.symm.trans hz
  · rintro rfl
    show (y.toModel.unpack.compare y.toModel.unpack == some .eq) = true
    rw [hx]
    cases s <;> simp [UnpackedFloat.compare]

/-- No comparison tells apart what is equal. -/
theorem beq_congr {x y : Float} (h : (x == y) = true) (z : Float) : (z == x) = (z == y) := by
  rcases eq_or_zero_of_beq h with rfl | ⟨s, s', hx, hy⟩
  · rfl
  · show (z.toModel.unpack.compare x.toModel.unpack == some .eq)
      = (z.toModel.unpack.compare y.toModel.unpack == some .eq)
    rw [hx, hy]
    rcases z.toModel.unpack with ⟨- | -⟩ | - | s | ⟨- | -, m, q, hm⟩ <;> rfl

/-! ### Doubles that are equal to themselves -/

theorem beq_self_iff {x : Float} : (x == x) = true ↔ x.toModel.unpack ≠ .notANumber := by
  show (x.toModel.unpack.compare x.toModel.unpack == some .eq) = true ↔ _
  generalize x.toModel.unpack = u
  cases u with
  | notANumber => simp [UnpackedFloat.compare]
  | infinity s => cases s <;> exact iff_of_true rfl nofun
  | zero s => exact iff_of_true rfl nofun
  | finite s m q hm => cases s <;> simp [UnpackedFloat.compare]

/-- What a number is rounded to is a number, be it infinite. -/
theorem Rounds.beq_self {negative : Bool} {r : ℚ} {x : Float} (h : Rounds negative r x) :
    (x == x) = true := by
  refine beq_self_iff.2 fun none => ?_
  rw [Rounds, none] at h
  exact h

/-- A finite factor makes no number undefined. -/
theorem beq_self_mul {x y : Float} {s : Sign} {m : ℕ} {q : ℤ} {hm : 0 < m}
    (hx : (x == x) = true) (hy : y.toModel.unpack = .finite s m q hm) (full : 2 ^ 52 ≤ m) :
    (x * y == x * y) = true := by
  have product : x * y
      = .ofModel (.pack (UnpackedFloat.mul Format.binary64 x.toModel.unpack (.finite s m q hm))) :=
    hy ▸ rfl
  have number := beq_self_iff.1 hx
  rw [product]
  generalize x.toModel.unpack = u at number ⊢
  cases u with
  | notANumber => exact absurd rfl number
  | infinity s' =>
    refine beq_self_iff.2 ?_
    show (Float.Model.pack (.infinity (s' * s))).unpack ≠ .notANumber
    rw [unpack_pack (u := .infinity _) trivial]
    exact nofun
  | zero s' =>
    refine beq_self_iff.2 ?_
    show (Float.Model.pack (.zero (s' * s))).unpack ≠ .notANumber
    rw [unpack_pack (u := .zero _) trivial]
    exact nofun
  | finite s' m' q' hm' =>
    have exact : Approximates (m' * m) .exact ((m' * m : ℕ) : ℚ) := rfl
    have enough : 2 ^ 52 ≤ m' * m := full.trans (Nat.le_mul_of_pos_left _ hm')
    exact (rounds_roundWithAccuracy (s' * s) exact (e := q' + q) (Or.inl enough)).beq_self

end Toolpath.Double
