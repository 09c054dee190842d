/-
Toolpath/Proofs/Numeral/Layout.lean

What a layout writes of a decimal.  The text spells the decimal itself, sign and size
(`Layout.spells_write`): the zeros that are dropped at the end of its digits are put back by the
exponent, and wherever the point stands, each digit keeps its worth.  And the text depends on the
number alone, not on the digits it was given in (`Layout.write_congr`), since only digits that
matter are written.  So two decimals are written alike just if they have the same sign and the same
size (`Layout.write_eq_write_iff`).
-/
import Mathlib.Data.List.DropRight
import Toolpath.Proofs.Numeral.Written

namespace Toolpath

open Text Numeral

namespace Numeral

/-! ### Zeros among digits -/

theorem natural_zeros (k : ℕ) : natural (Layout.zeros k) = 0 := by
  rw [natural_eq_ofDigitChars, Layout.zeros, ← List.append_nil (List.replicate k '0'),
    Nat.ofDigitChars_append, Nat.ofDigitChars_replicate_zero]
  · simp
  · intro c hc
    rw [List.eq_of_mem_replicate hc]
    rfl

/-- Zeros after digits move them. -/
theorem natural_append_zeros (ds : Text) (k : ℕ) :
    natural (ds ++ Layout.zeros k) = natural ds * 10 ^ k := by
  rw [natural_append, natural_zeros, Layout.zeros, List.length_replicate, Nat.add_zero]

/-- Zeros before digits are worth nothing. -/
theorem natural_zeros_append (k : ℕ) (ds : Text) :
    natural (Layout.zeros k ++ ds) = natural ds := by
  rw [natural_append, natural_zeros, Nat.zero_mul, Nat.zero_add]

end Numeral

namespace Layout

theorem isDigit_of_mem_zeros {k : ℕ} {c : Char} (h : c ∈ zeros k) : isDigit c = true := by
  rw [List.eq_of_mem_replicate h]
  decide

/-- The zeros that are dropped at the end of digits. -/
theorem exists_trimZeros_append (ds : Text) : ∃ k, trimZeros ds ++ zeros k = ds := by
  have cut : trimZeros ds ++ ds.rtakeWhile (· == '0') = ds := List.rdropWhile_append_rtakeWhile
  refine ⟨(ds.rtakeWhile (· == '0')).length, ?_⟩
  have zero : ∀ c ∈ ds.rtakeWhile (· == '0'), c = '0' :=
    fun c hc => eq_of_beq (List.mem_rtakeWhile_imp (p := (· == '0')) hc)
  have zeros : zeros (ds.rtakeWhile (· == '0')).length = ds.rtakeWhile (· == '0') :=
    (List.eq_replicate_of_mem zero).symm
  rw [zeros, cut]

/-- The digits of a number that are written, and the zeros at its end that are not. -/
theorem exists_trimZeros_digits {n : ℕ} (hn : n ≠ 0) :
    ∃ k, n = natural (trimZeros (Decimal.digits n)) * 10 ^ k ∧
      (Decimal.digits n).length = (trimZeros (Decimal.digits n)).length + k ∧
      (∀ c ∈ trimZeros (Decimal.digits n), isDigit c = true) ∧
      trimZeros (Decimal.digits n) ≠ [] := by
  obtain ⟨k, hk⟩ := exists_trimZeros_append (Decimal.digits n)
  have number : n = natural (trimZeros (Decimal.digits n)) * 10 ^ k := by
    rw [← natural_append_zeros, hk, natural_digits]
  refine ⟨k, number, ?_, fun c hc => ?_, fun nothing => ?_⟩
  · conv_lhs => rw [← hk, List.length_append, zeros, List.length_replicate]
  · exact isDigit_of_ascii (Decimal.isDigit_of_mem_digits (hk ▸ List.mem_append_left _ hc))
  · rw [nothing] at number
    exact hn (number.trans (Nat.zero_mul _))

theorem trimZeros_append_zero (ds : Text) : trimZeros (ds ++ ['0']) = trimZeros ds :=
  List.rdropWhile_concat_pos _ _ _ rfl

/-! ### What is written of digits -/

/-- Digits in positions, with zeros between them and a point that they do not reach. -/
theorem spells_positional (l : Layout) {ds : Text} (hne : ds ≠ [])
    (hd : ∀ c ∈ ds, isDigit c = true) (exponent : ℤ) :
    MantissaSpells (l.positional ds exponent) (natural ds * 10 ^ (exponent + 1 - ds.length)) := by
  have zero (k : ℕ) : ∀ c ∈ zeros k, isDigit c = true := fun _ hc => isDigit_of_mem_zeros hc
  rw [positional]
  split
  · next before =>
    -- the point stands before the digits
    have spells := mantissaSpells_point (List.cons_ne_nil '0' []) (zero 1)
      (List.forall_mem_append.2 ⟨zero (exponent.natAbs - 1), hd⟩)
    have moved : (-(zeros (exponent.natAbs - 1) ++ ds).length : ℤ)
        = exponent + 1 - ds.length := by
      rw [List.length_append, zeros, List.length_replicate]
      omega
    rw [show ['0'] = zeros 1 from rfl, natural_zeros_append, natural_zeros_append, moved] at spells
    rwa [List.append_assoc]
  · next after =>
    dsimp only
    split
    · next short =>
      -- the point stands after the digits
      have whole : ∀ c ∈ ds ++ zeros (exponent.natAbs + 1 - ds.length), isDigit c = true :=
        List.forall_mem_append.2 ⟨hd, zero _⟩
      have nonempty : ds ++ zeros (exponent.natAbs + 1 - ds.length) ≠ [] :=
        fun h => hne (List.append_eq_nil_iff.1 h).1
      have moved : ((exponent.natAbs + 1 - ds.length : ℕ) : ℤ) = exponent + 1 - ds.length := by
        omega
      split
      · have spells := mantissaSpells_point nonempty whole (zero 1)
        have same : ((natural ds * 10 ^ (exponent.natAbs + 1 - ds.length) * 10 ^ 1 : ℕ) : ℚ)
            * 10 ^ (-(zeros 1).length : ℤ) = natural ds * 10 ^ (exponent + 1 - ds.length) := by
          rw [Nat.cast_mul, Nat.cast_mul, Nat.cast_pow, ← zpow_natCast, moved]
          norm_num [zeros]
          ring
        rwa [natural_append_zeros, natural_append_zeros, same] at spells
      · have spells := MantissaSpells.whole nonempty whole
        rw [natural_append_zeros, Nat.cast_mul, Nat.cast_pow, ← zpow_natCast, moved] at spells
        rwa [List.append_nil]
    · next long =>
      -- the point stands among the digits
      have nonempty : ds.take (exponent.natAbs + 1) ≠ [] := by
        rw [← List.length_pos_iff, List.length_take]
        omega
      have spells := mantissaSpells_point nonempty (fun c hc => hd c (List.mem_of_mem_take hc))
        (f := ds.drop (exponent.natAbs + 1)) (fun c hc => hd c (List.mem_of_mem_drop hc))
      have moved : (-(ds.drop (exponent.natAbs + 1)).length : ℤ) = exponent + 1 - ds.length := by
        rw [List.length_drop]
        omega
      rwa [List.take_append_drop, moved] at spells

/-- The exponent that is written after the digits. -/
theorem spells_exponentText (exponent : ℤ) : ExponentSpells (exponentText exponent) exponent := by
  have number := natural_leftpad_digits exponent.natAbs 2
  have nonempty : (Decimal.digits exponent.natAbs).leftpad 2 '0' ≠ [] := by
    rw [← List.length_pos_iff, List.length_leftpad]
    omega
  have digits : ∀ c ∈ (Decimal.digits exponent.natAbs).leftpad 2 '0', isDigit c = true :=
    fun c => isDigit_of_mem_leftpad_digits
  rw [exponentText]
  split
  · next below =>
    have spells := ExponentSpells.minus (c := 'e') rfl nonempty digits
    rwa [number, show -(exponent.natAbs : ℤ) = exponent by omega] at spells
  · next above =>
    have spells := ExponentSpells.plus (c := 'e') rfl nonempty digits
    rwa [number, show (exponent.natAbs : ℤ) = exponent by omega] at spells

/-- Digits with one of them before the point, and the exponent of that one. -/
theorem exists_spells_scientific {ds : Text} (hne : ds ≠ []) (hd : ∀ c ∈ ds, isDigit c = true)
    (exponent : ℤ) :
    ∃ m r, scientific ds exponent = m ++ exponentText exponent ∧ MantissaSpells m r ∧
      r * 10 ^ exponent = natural ds * 10 ^ (exponent + 1 - ds.length) := by
  rcases ds with - | ⟨c, - | ⟨c', more⟩⟩
  · exact absurd rfl hne
  · exact ⟨[c], natural [c], rfl, .whole hne hd, by norm_num⟩
  · obtain ⟨hc, hm⟩ := List.forall_mem_cons.1 hd
    refine ⟨_, _, rfl, mantissaSpells_point (List.cons_ne_nil c [])
      (List.forall_mem_singleton.2 hc) hm, ?_⟩
    have places : (-(c' :: more).length : ℤ) + exponent
        = exponent + 1 - (c :: c' :: more).length := by
      rw [List.length_cons (a := c)]
      omega
    rw [mul_assoc, ← zpow_add₀ (by norm_num), places]
    rfl

/-! ### What is written of a decimal -/

/-- A layout writes the decimal that it is given, exactly. -/
theorem spells_write (l : Layout) (d : Decimal) : Spells (l.write d) d.negative d.size := by
  rw [write, Decimal.size]
  split
  · next zero =>
    have spells := spells_sign d.negative (l.spells_positional (List.cons_ne_nil '0' [])
      (List.forall_mem_singleton.2 rfl) 0) .none
    have nothing : natural ['0'] = 0 := natural_zeros 1
    rw [List.append_nil, nothing] at spells
    rw [zero]
    simpa using spells
  · next nonzero =>
    dsimp only
    obtain ⟨k, number, length, digits, nonempty⟩ := exists_trimZeros_digits nonzero
    generalize trimZeros (Decimal.digits d.coefficient) = body at *
    -- the exponent puts the zeros back that are not written
    have size : (natural body : ℚ)
          * 10 ^ (d.exponent + (Decimal.digits d.coefficient).length - 1 + 1 - body.length)
        = d.coefficient * 10 ^ d.exponent := by
      rw [length, number, Nat.cast_mul, Nat.cast_pow, Nat.cast_ofNat, ← zpow_natCast, mul_assoc,
        ← zpow_add₀ (by norm_num)]
      congr 2
      push_cast
      ring
    rw [← size]
    split
    · have spells := spells_sign d.negative (l.spells_positional nonempty digits
        (d.exponent + (Decimal.digits d.coefficient).length - 1)) .none
      rwa [List.append_nil, zpow_zero, mul_one] at spells
    · obtain ⟨m, r, text, hm, value⟩ := exists_spells_scientific nonempty digits
        (d.exponent + (Decimal.digits d.coefficient).length - 1)
      rw [text, ← value]
      exact spells_sign d.negative hm (spells_exponentText _)

/-! ### Decimals that are written alike -/

/-- It makes no difference whether a zero stands in the coefficient or counts in the exponent. -/
theorem write_mul_ten (l : Layout) (negative : Bool) (n : ℕ) (e : ℤ) :
    l.write ⟨negative, n * 10, e⟩ = l.write ⟨negative, n, e + 1⟩ := by
  rcases n.eq_zero_or_pos with rfl | pos
  · rfl
  · have digits : Decimal.digits (n * 10) = Decimal.digits n ++ ['0'] := by
      rw [Nat.mul_comm]
      exact (Nat.toDigits_append_toDigits (d := 0) (by decide) pos (by decide)).symm
    rw [write, write, if_neg (Nat.mul_ne_zero pos.ne' (by decide)), if_neg pos.ne']
    simp only [digits, trimZeros_append_zero, List.length_append, List.length_singleton]
    have exponent : e + ((Decimal.digits n).length + 1 : ℕ) - 1
        = e + 1 + (Decimal.digits n).length - 1 := by
      omega
    rw [exponent]

theorem write_mul_ten_pow (l : Layout) (negative : Bool) (n k : ℕ) (e : ℤ) :
    l.write ⟨negative, n * 10 ^ k, e⟩ = l.write ⟨negative, n, e + k⟩ := by
  induction k generalizing e with
  | zero => simp
  | succ k ih =>
    rw [Nat.pow_succ, ← Nat.mul_assoc, write_mul_ten, ih]
    congr 2
    push_cast
    ring

/-- The text depends on the number alone. -/
theorem write_congr (l : Layout) {d d' : Decimal} (hn : d.negative = d'.negative)
    (hs : d.size = d'.size) : l.write d = l.write d' := by
  wlog le : d.exponent ≤ d'.exponent generalizing d d'
  · exact (this hn.symm hs.symm (by omega)).symm
  obtain ⟨k, hk⟩ := Int.le.dest le
  have coefficient : d.coefficient = d'.coefficient * 10 ^ k := by
    have power : (10 : ℚ) ^ d.exponent ≠ 0 := zpow_ne_zero _ (by norm_num)
    rw [Decimal.size, Decimal.size, ← hk, zpow_add₀ (by norm_num), zpow_natCast,
      mul_left_comm, mul_comm (10 ^ d.exponent)] at hs
    have cancelled := mul_right_cancel₀ power hs
    exact_mod_cast cancelled
  rcases d with ⟨negative, n, e⟩
  rcases d' with ⟨negative', n', e'⟩
  obtain rfl : negative = negative' := hn
  obtain rfl : n = n' * 10 ^ k := coefficient
  obtain rfl : e + k = e' := hk
  exact l.write_mul_ten_pow negative n' k e

/-- Decimals are written alike just if they are the same number, with the same sign. -/
theorem write_eq_write_iff (l : Layout) {d d' : Decimal} :
    l.write d = l.write d' ↔ d.negative = d'.negative ∧ d.size = d'.size := by
  refine ⟨fun h => ?_, fun h => l.write_congr h.1 h.2⟩
  exact (l.spells_write d).unique (h ▸ l.spells_write d')

end Layout

end Toolpath
