/-
Toolpath/Proofs/Numeral/Written.lean

What is written of a number is a numeral.  With a fixed number of places the numeral spells the
exact value rounded to that many places (`Fixed.spells_writeDecimal`).
-/
import Toolpath.Number.Fixed
import Toolpath.Number.Shortest
import Toolpath.Proofs.Double.WholePart
import Toolpath.Proofs.Numeral.Value

namespace Toolpath

open Text Numeral

/-! ### Numbers -/

/-- A finite double is read as a decimal. -/
theorem exists_of_isFinite {x : Float} (h : x.isFinite = true) :
    ∃ d, Reading.ofFloat x = .finite d := by
  rw [← isSome_number?] at h
  obtain ⟨r, hr⟩ := Option.isSome_iff_exists.1 h
  obtain ⟨d, hd, -⟩ := exists_of_number? hr
  exact ⟨d, hd⟩

/-! ### Digits -/

namespace Decimal

theorem isDigit_of_mem_digits {n : ℕ} {c : Char} (h : c ∈ digits n) : c.isDigit = true :=
  Nat.isDigit_of_mem_toDigits (by decide) (by decide) h

end Decimal

namespace Numeral

/-- A digit of ASCII is worth its distance from the zero of ASCII. -/
theorem digit?_of_ascii {c : Char} (h : c.isDigit = true) : digit? c = some (c.toNat - 48) := by
  simp only [Char.isDigit, Bool.and_eq_true, decide_eq_true_eq] at h
  have lower : 48 ≤ c.toNat := UInt32.le_iff_toNat_le.1 h.1
  have upper : c.toNat < 58 := Nat.lt_succ_of_le (UInt32.le_iff_toNat_le.1 h.2)
  have zeros : digitZeros = 48 :: digitZeros.tail := rfl
  rw [digit?, zeros]
  simp [lower, upper]

theorem natural_eq_ofDigitChars {ds : Text} (h : ∀ c ∈ ds, c.isDigit = true) :
    natural ds = Nat.ofDigitChars 10 ds 0 := by
  rw [natural, Nat.ofDigitChars_eq_foldl]
  refine List.foldl_ext _ _ 0 fun n c hc => ?_
  rw [digit?_of_ascii (h c hc)]
  rfl

/-- Digits spell the number they were written for, also with zeros in front. -/
theorem natural_leftpad_digits (n k : ℕ) :
    natural ((Decimal.digits n).leftpad k '0') = n := by
  rw [natural_eq_ofDigitChars, List.leftpad, Nat.ofDigitChars_append,
    Nat.ofDigitChars_replicate_zero, Nat.mul_zero]
  · exact Nat.ofDigitChars_ten_toDigits
  · intro c hc
    rcases List.mem_append.1 hc with hc | hc
    · rw [List.eq_of_mem_replicate hc]
      rfl
    · exact Decimal.isDigit_of_mem_digits hc

theorem natural_digits (n : ℕ) : natural (Decimal.digits n) = n := by
  have padded := natural_leftpad_digits n 0
  rwa [List.leftpad, Nat.zero_sub, List.replicate_zero, List.nil_append] at padded

end Numeral

theorem isDigit_of_mem_leftpad_digits {n k : ℕ} {c : Char}
    (h : c ∈ (Decimal.digits n).leftpad k '0') : isDigit c = true := by
  rcases List.mem_append.1 h with hc | hc
  · rw [List.eq_of_mem_replicate hc]
    decide
  · exact isDigit_of_ascii (Decimal.isDigit_of_mem_digits hc)

/-- A natural number is written as a numeral that spells it. -/
theorem spells_digits (n : ℕ) : Spells (Decimal.digits n) false n := by
  have digits : ∀ c ∈ Decimal.digits n, isDigit c = true :=
    fun _ hc => isDigit_of_ascii (Decimal.isDigit_of_mem_digits hc)
  have nonempty : Decimal.digits n ≠ [] := Nat.toDigits_ne_nil
  have spells := Spells.parts (Or.inl rfl) (.whole nonempty digits) .none
  rwa [List.nil_append, List.append_nil, zpow_zero, mul_one, natural_digits] at spells

/-! ### A fixed number of places -/

theorem sign_mem_optional (negative : Bool) : Layout.sign negative ∈ optional sign := by
  cases negative
  · exact Or.inl rfl
  · exact Or.inr ⟨'-', rfl, rfl⟩

/-- A sign is written in front of the digits. -/
theorem spells_sign (negative : Bool) {m x : Text} {r : ℚ} {e : ℤ} (hm : MantissaSpells m r)
    (hx : ExponentSpells x e) :
    Spells (Layout.sign negative ++ (m ++ x)) negative (r * 10 ^ e) := by
  have minus : (decide (Layout.sign negative = ['-'])) = negative := by
    cases negative <;> rfl
  have spells := Spells.parts (sign_mem_optional negative) hm hx
  rwa [List.append_assoc, minus] at spells

namespace Fixed

/-- The digits before the point and those after it spell the decimal rounded to so many places. -/
theorem spells_writeDecimal (places : ℕ) (d : Decimal) :
    Spells (writeDecimal places d) d.negative (d.scaled places / 10 ^ places) := by
  rw [writeDecimal]
  have total := natural_leftpad_digits (d.scaled places) (places + 1)
  have long : places + 1
      ≤ ((Decimal.digits (d.scaled places)).leftpad (places + 1) '0').length := by
    rw [List.length_leftpad]
    exact Nat.le_max_left _ _
  have digits : ∀ c ∈ (Decimal.digits (d.scaled places)).leftpad (places + 1) '0',
      isDigit c = true := fun c => isDigit_of_mem_leftpad_digits
  generalize (Decimal.digits (d.scaled places)).leftpad (places + 1) '0' = ds at *
  rw [List.append_assoc]
  split
  · -- no point, and all digits stand before where it would be
    next none =>
      subst none
      have spells := spells_sign d.negative (.whole (List.ne_nil_of_length_pos (by omega)) digits)
        .none
      rw [total] at spells
      simpa using spells
  · have nonempty : ds.take (ds.length - places) ≠ [] := by
      rw [← List.length_pos_iff, List.length_take]
      omega
    have after : (ds.drop (ds.length - places)).length = places := by
      rw [List.length_drop]
      omega
    have spells := spells_sign d.negative (mantissaSpells_point nonempty
      (fun c hc => digits c (List.mem_of_mem_take hc)) fun c hc =>
        digits c (List.mem_of_mem_drop (i := ds.length - places) hc)) .none
    rw [List.take_append_drop, total, after, zpow_zero, mul_one, List.append_nil, zpow_neg,
      zpow_natCast, ← div_eq_mul_inv] at spells
    exact spells

/-- Every number is written as a numeral. -/
theorem write_mem_language (places : ℕ) {x : Float} (h : x.isFinite = true) :
    write places x ∈ language := by
  obtain ⟨d, hd⟩ := exists_of_isFinite h
  rw [write, hd]
  exact (spells_writeDecimal places d).mem

end Fixed

/-- The number that is read back when `x` was written to so many places. -/
def printed (places : ℕ) (x : Float) : Float :=
  value (Fixed.write places x)

/-! ### The characters of other ways of writing -/

namespace Layout

/-- All characters of the text can stand in a numeral. -/
def Plain (t : Text) : Prop :=
  ∀ c ∈ t, isNumeralChar c = true

namespace Plain

variable {s t : Text}

theorem append (hs : Plain s) (ht : Plain t) : Plain (s ++ t) :=
  List.forall_mem_append.2 ⟨hs, ht⟩

theorem cons {c : Char} (hc : isNumeralChar c = true) (ht : Plain t) : Plain (c :: t) :=
  List.forall_mem_cons.2 ⟨hc, ht⟩

theorem of_subset (ht : Plain t) (h : s ⊆ t) : Plain s := fun c hc => ht c (h hc)

end Plain

theorem plain_of_isDigit {t : Text} (h : ∀ c ∈ t, isDigit c = true) : Plain t :=
  fun _ hc => isNumeralChar_of_digits h hc

theorem plain_sign (negative : Bool) : Plain (sign negative) := by
  cases negative
  · exact List.forall_mem_nil _
  · exact List.forall_mem_singleton.2 rfl

theorem plain_zeros (n : ℕ) : Plain (zeros n) := by
  intro c hc
  rw [List.eq_of_mem_replicate hc]
  rfl

theorem plain_digits (n : ℕ) : Plain (Decimal.digits n) :=
  plain_of_isDigit fun _ hc => isDigit_of_ascii (Decimal.isDigit_of_mem_digits hc)

theorem plain_trimZeros {ds : Text} (h : Plain ds) : Plain (trimZeros ds) :=
  h.of_subset fun _ hc =>
    List.mem_reverse.1 ((List.dropWhile_suffix _).subset (List.mem_reverse.1 hc))

theorem plain_positional (l : Layout) {ds : Text} (h : Plain ds) (exponent : ℤ) :
    Plain (l.positional ds exponent) := by
  rw [positional]
  split
  · exact ((Plain.append (.cons rfl (.cons rfl (List.forall_mem_nil _))) (plain_zeros _)).append h)
  · simp only
    split
    · refine (h.append (plain_zeros _)).append ?_
      split
      · exact .cons rfl (.cons rfl (List.forall_mem_nil _))
      · exact List.forall_mem_nil _
    · exact (h.of_subset (List.take_subset _ _)).append
        (.cons rfl (h.of_subset (List.drop_subset _ _)))

theorem plain_scientific {ds : Text} (h : Plain ds) (exponent : ℤ) :
    Plain (scientific ds exponent) := by
  have last : Plain (exponentText exponent) := by
    refine .cons rfl (.cons (by split <;> rfl) ?_)
    exact plain_of_isDigit fun c => isDigit_of_mem_leftpad_digits
  unfold scientific
  split
  · exact h.append last
  · next d more _ =>
      obtain ⟨hd, hm⟩ := List.forall_mem_cons.1 h
      exact .cons hd (.cons rfl (Plain.append hm last))
  · exact last

/-- A layout uses the characters of numerals only. -/
theorem plain_write (l : Layout) (d : Decimal) : Plain (l.write d) := by
  rw [write]
  split
  · exact (plain_sign _).append (l.plain_positional (.cons rfl (List.forall_mem_nil _)) 0)
  · have body := plain_trimZeros (plain_digits d.coefficient)
    refine (plain_sign _).append ?_
    split
    · exact l.plain_positional body _
    · exact plain_scientific body _

end Layout

theorem Shortest.plain_write {x : Float} (h : x.isFinite = true) : Layout.Plain (write x) := by
  obtain ⟨d, hd⟩ := exists_of_isFinite h
  rw [write, hd]
  exact Layout.plain_write _ _

end Toolpath
