/-
Toolpath/Proofs/Numeral/Value.lean

The number that a numeral spells, by its parts: the digits before the point count ones, those
after it fractions, and the exponent moves the point (`Spells`).  Every numeral spells a number
(`exists_spells`), and its value is the double nearest to that number (`rounds_value`).

`toDecimal` looks for the exponent mark and for the point and reads the digits around the point
as one natural number, which is the same number with the point moved behind its last digit
(`natural_append`).
-/
import Toolpath.Proofs.Double.Decimal
import Toolpath.Proofs.Numeral.Grammar

namespace Toolpath

/-- The number that a decimal stands for, without its sign. -/
def Decimal.size (d : Decimal) : ℚ :=
  d.coefficient * 10 ^ d.exponent

namespace Numeral

open Text

/-! ### What the parts spell -/

/-- Digits with at most one point, and the number they spell. -/
inductive MantissaSpells : Text → ℚ → Prop
  | whole {w : Text} (hne : w ≠ []) (hw : ∀ c ∈ w, isDigit c = true) :
      MantissaSpells w (natural w)
  | point {w f : Text} (hne : ¬(w = [] ∧ f = [])) (hw : ∀ c ∈ w, isDigit c = true)
      (hf : ∀ c ∈ f, isDigit c = true) :
      MantissaSpells (w ++ '.' :: f) (natural w + natural f / 10 ^ f.length)

/-- An exponent with its mark, if there is one, and the power of ten it stands for. -/
inductive ExponentSpells : Text → ℤ → Prop
  | none : ExponentSpells [] 0
  | up {c : Char} {ds : Text} (hc : isExponentMark c = true) (hne : ds ≠ [])
      (hd : ∀ c ∈ ds, isDigit c = true) : ExponentSpells (c :: ds) (natural ds)
  | plus {c : Char} {ds : Text} (hc : isExponentMark c = true) (hne : ds ≠ [])
      (hd : ∀ c ∈ ds, isDigit c = true) : ExponentSpells (c :: '+' :: ds) (natural ds)
  | minus {c : Char} {ds : Text} (hc : isExponentMark c = true) (hne : ds ≠ [])
      (hd : ∀ c ∈ ds, isDigit c = true) : ExponentSpells (c :: '-' :: ds) (-natural ds)

/-- A numeral, and the sign and size of the number it spells. -/
inductive Spells : Text → Bool → ℚ → Prop
  | parts {s m x : Text} {r : ℚ} {e : ℤ} (hs : s ∈ optional sign) (hm : MantissaSpells m r)
      (hx : ExponentSpells x e) : Spells (s ++ m ++ x) (s = ['-']) (r * 10 ^ e)

theorem MantissaSpells.mem {m : Text} {r : ℚ} (h : MantissaSpells m r) : m ∈ mantissa := by
  cases h with
  | whole hne hw => exact mem_mantissa.2 (Or.inl ⟨hne, hw⟩)
  | point hne hw hf => exact mem_mantissa.2 (Or.inr ⟨_, _, hw, hf, hne, rfl⟩)

theorem exists_mantissaSpells {m : Text} (hm : m ∈ mantissa) : ∃ r, MantissaSpells m r := by
  rcases mem_mantissa.1 hm with ⟨hne, h⟩ | ⟨w, f, hw, hf, hne, rfl⟩
  · exact ⟨_, .whole hne h⟩
  · exact ⟨_, .point hne hw hf⟩

/-- A sign is a plus or a minus. -/
theorem mem_sign {s : Text} : s ∈ sign ↔ s = ['+'] ∨ s = ['-'] := by
  constructor
  · rintro ⟨c, hc, rfl⟩
    simpa [isSign] using hc
  · rintro (rfl | rfl)
    · exact ⟨'+', rfl, rfl⟩
    · exact ⟨'-', rfl, rfl⟩

theorem exists_exponentSpells {x : Text} (hx : x ∈ optional exponent) :
    ∃ e, ExponentSpells x e := by
  rcases hx with rfl | hx
  · exact ⟨0, .none⟩
  · obtain ⟨c, s, ds, hc, hs, hne, hd, rfl⟩ := mem_exponent.1 hx
    rcases hs with rfl | hs
    · exact ⟨_, .up hc hne hd⟩
    · rcases mem_sign.1 hs with rfl | rfl
      · exact ⟨_, .plus hc hne hd⟩
      · exact ⟨_, .minus hc hne hd⟩

theorem ExponentSpells.mem {x : Text} {e : ℤ} (h : ExponentSpells x e) :
    x ∈ optional exponent := by
  cases h with
  | none => exact Or.inl rfl
  | up hc hne hd => exact Or.inr (mem_exponent.2 ⟨_, [], _, hc, Or.inl rfl, hne, hd, rfl⟩)
  | plus hc hne hd =>
    exact Or.inr (mem_exponent.2 ⟨_, _, _, hc, Or.inr (mem_sign.2 (Or.inl rfl)), hne, hd, rfl⟩)
  | minus hc hne hd =>
    exact Or.inr (mem_exponent.2 ⟨_, _, _, hc, Or.inr (mem_sign.2 (Or.inr rfl)), hne, hd, rfl⟩)

/-- What spells a number is a numeral. -/
theorem Spells.mem {p : Text} {negative : Bool} {r : ℚ} (h : Spells p negative r) :
    p ∈ language := by
  cases h with
  | parts hs hm hx => exact mem_language.2 ⟨_, _, _, hs, hm.mem, hx.mem, rfl⟩

/-- Every numeral spells a number. -/
theorem exists_spells {p : Text} (hp : p ∈ language) : ∃ negative r, Spells p negative r := by
  obtain ⟨s, m, x, hs, hm, hx, rfl⟩ := mem_language.1 hp
  obtain ⟨r, hr⟩ := exists_mantissaSpells hm
  obtain ⟨e, he⟩ := exists_exponentSpells hx
  exact ⟨_, _, .parts hs hr he⟩

/-! ### Reading the parts -/

/-- Two runs of digits as one: the first is moved by the places of the second. -/
theorem natural_append (w f : Text) :
    natural (w ++ f) = natural w * 10 ^ f.length + natural f := by
  -- the fold begins with the value of the first run
  have fold : ∀ n, f.foldl (fun n c => 10 * n + (digit? c).getD 0) n
      = n * 10 ^ f.length + natural f := by
    induction f with
    | nil => simp [natural]
    | cons c f ih =>
        intro n
        rw [natural, List.foldl_cons, List.foldl_cons, ih, ih, List.length_cons]
        ring
  rw [natural, List.foldl_append, fold]
  rfl

/-- A point among digits moves all of them by those after it. -/
theorem mantissaSpells_point {w f : Text} (hne : w ≠ []) (hw : ∀ c ∈ w, isDigit c = true)
    (hf : ∀ c ∈ f, isDigit c = true) :
    MantissaSpells (w ++ '.' :: f) (natural (w ++ f) * 10 ^ (-f.length : ℤ)) := by
  have value : (natural (w ++ f) : ℚ) * 10 ^ (-f.length : ℤ)
      = natural w + natural f / 10 ^ f.length := by
    rw [natural_append, zpow_neg, zpow_natCast]
    push_cast
    field_simp
  rw [value]
  exact .point (fun h => hne h.1) hw hf

theorem ne_point_of_isDigit {c : Char} (h : isDigit c = true) : (c != '.') = true := by
  refine bne_iff_ne.2 ?_
  rintro rfl
  exact absurd h (by decide)

/-- An exponent is read after its mark. -/
theorem ExponentSpells.integer_drop {x : Text} {e : ℤ} (h : ExponentSpells x e) :
    integer (x.drop 1) = e := by
  cases h with
  | none => rfl
  | @up c ds hc hne hd =>
    have unsigned : splitSign ds = ([], ds) := by
      obtain ⟨c', u, rfl⟩ := List.exists_cons_of_ne_nil hne
      exact splitSign_append (Or.inl rfl)
        (stops_cons.2 (isSign_of_isDigit (hd c' List.mem_cons_self)))
    simp [integer, unsigned]
  | plus hc hne hd => simp [integer, splitSign, isSign]
  | minus hc hne hd => simp [integer, splitSign, isSign]

/-- An exponent begins with its mark. -/
theorem ExponentSpells.stops {x : Text} {e : ℤ} (h : ExponentSpells x e) :
    Stops (! isExponentMark ·) x := by
  cases h with
  | none => exact stops_nil _
  | up hc => exact stops_cons.2 (by simp [hc])
  | plus hc => exact stops_cons.2 (by simp [hc])
  | minus hc => exact stops_cons.2 (by simp [hc])

/-- The digits of a mantissa as one number, which is moved by the places after the point. -/
theorem MantissaSpells.natural_mul {m : Text} {r : ℚ} (h : MantissaSpells m r) :
    (natural (m.takeWhile (· != '.') ++ (m.dropWhile (· != '.')).drop 1) : ℚ)
        / 10 ^ ((m.dropWhile (· != '.')).drop 1).length = r := by
  cases h with
  | whole hne hw =>
    have all : ∀ c ∈ m, (c != '.') = true := fun c hc => ne_point_of_isDigit (hw c hc)
    rw [List.takeWhile_eq_self_iff.2 all, List.dropWhile_eq_nil_iff.2 all]
    simp
  | @point w f hne hw hf =>
    have all : ∀ c ∈ w, (c != '.') = true := fun c hc => ne_point_of_isDigit (hw c hc)
    have before : (w ++ '.' :: f).takeWhile (· != '.') = w := by
      rw [List.takeWhile_append_of_pos all]
      simp
    have after : ((w ++ '.' :: f).dropWhile (· != '.')).drop 1 = f := by
      rw [List.dropWhile_append_of_pos all]
      simp
    rw [before, after, natural_append]
    push_cast
    field_simp

/-- The decimal of a numeral by its parts. -/
theorem toDecimal_parts {s m x : Text} {r : ℚ} {e : ℤ} (hs : s ∈ optional sign)
    (hm : MantissaSpells m r) (hx : ExponentSpells x e) :
    toDecimal (s ++ m ++ x)
      = { negative := s = ['-']
          coefficient :=
            natural (m.takeWhile (· != '.') ++ (m.dropWhile (· != '.')).drop 1)
          exponent := e - ((m.dropWhile (· != '.')).drop 1).length } := by
  -- the exponent is found at its mark, and there is no mark before it
  have stop : x.takeWhile (! isExponentMark ·) = [] ∧ x.dropWhile (! isExponentMark ·) = x := by
    rcases x with - | ⟨c, x⟩
    · exact ⟨rfl, rfl⟩
    · have hc := stops_cons.1 hx.stops
      simp only [List.takeWhile_cons, List.dropWhile_cons, hc]
      exact ⟨rfl, rfl⟩
  have unmarked : ∀ c ∈ m, (! isExponentMark c) = true := by
    intro c hc
    rw [not_isExponentMark_of_mem_mantissa hm.mem hc]
    rfl
  rw [List.append_assoc, toDecimal, splitSign_append hs (stops_isSign_of_mantissa hm.mem x)]
  simp only [List.takeWhile_append_of_pos unmarked, List.dropWhile_append_of_pos unmarked,
    stop.1, stop.2, List.append_nil, hx.integer_drop]

/-- The decimal of a numeral is the number that it spells. -/
theorem Spells.toDecimal {p : Text} {negative : Bool} {r : ℚ} (h : Spells p negative r) :
    (toDecimal p).negative = negative ∧ (toDecimal p).size = r := by
  cases h with
  | @parts s m x r e hs hm hx =>
    rw [toDecimal_parts hs hm hx, Decimal.size, ← hm.natural_mul]
    refine ⟨rfl, ?_⟩
    -- the places after the point count against the exponent
    rw [zpow_sub₀ (by norm_num), zpow_natCast]
    ring

/-- A numeral spells one number. -/
theorem Spells.unique {p : Text} {n n' : Bool} {r r' : ℚ} (h : Spells p n r)
    (h' : Spells p n' r') : n = n' ∧ r = r' :=
  ⟨h.toDecimal.1.symm.trans h'.toDecimal.1, h.toDecimal.2.symm.trans h'.toDecimal.2⟩

/-- The value of a numeral is the double nearest to the number it spells. -/
theorem rounds_value {p : Text} {negative : Bool} {r : ℚ} (h : Spells p negative r) :
    Double.Rounds negative r (value p) := by
  have rounds := Double.rounds_toFloat (toDecimal p)
  rwa [h.toDecimal.1, ← Decimal.size, h.toDecimal.2] at rounds

end Numeral

end Toolpath
