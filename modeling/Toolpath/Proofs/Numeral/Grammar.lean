/-
Toolpath/Proofs/Numeral/Grammar.lean

The numerals as a regular language, and `split?` as its longest match.

    [+-]? (D+ [.]? D* | [.] D+) ([eE] [+-]? D+)?        D a decimal digit of any script

The splitters of `Toolpath.Numeral` are greedy and never go back, while an expression with an
alternative and three optional parts may be matched in many ways.  The two agree because each
part can be told by the character it begins with: what a splitter takes is always in the
language of its part, and whatever of that language the text begins with is the beginning of
what the splitter takes (`mem_language_of_split?`, `prefix_split?_of_mem`).  So `split?` finds
the longest numeral at the front of a text, and none just where there is none
(`split?_eq_some_iff`, `split?_eq_none_iff`).

What comes after a numeral can only prolong it through a digit, a point or an exponent
(`split?_append`, `split?_append_of_exponent`).
-/
import Mathlib.Computability.Language
import Mathlib.Data.List.TakeWhile
import Toolpath.Number.Numeral

namespace Toolpath.Numeral

open Text
open scoped Computability

/-! ### The language -/

/-- The texts of one character that satisfies `p`. -/
def anyOf (p : Char → Bool) : Language Char :=
  {t | ∃ c, p c = true ∧ t = [c]}

/-- The words of a language, or nothing. -/
def optional (l : Language Char) : Language Char :=
  1 + l

/-- One digit. -/
def digit : Language Char := anyOf isDigit

/-- The point. -/
def point : Language Char := anyOf (· == '.')

/-- A sign. -/
def sign : Language Char := anyOf isSign

/-- What stands before the exponent, without the sign. -/
def mantissa : Language Char :=
  digit * digit∗ * optional point * digit∗ + point * (digit * digit∗)

/-- An exponent with its mark. -/
def exponent : Language Char :=
  anyOf isExponentMark * optional sign * (digit * digit∗)

/-- The numerals. -/
def language : Language Char :=
  optional sign * mantissa * optional exponent

/-! ### Membership -/

/-- Any number of characters of a kind. -/
theorem mem_kstar_anyOf {p : Char → Bool} {t : Text} :
    t ∈ (anyOf p)∗ ↔ ∀ c ∈ t, p c = true := by
  constructor
  · rintro ⟨parts, rfl, hp⟩ c hc
    obtain ⟨part, hm, hc⟩ := List.mem_flatten.1 hc
    obtain ⟨c', hc', rfl⟩ := hp part hm
    obtain rfl := List.mem_singleton.1 hc
    exact hc'
  · intro h
    refine ⟨t.map fun c => [c], ?_, ?_⟩
    · induction t with
      | nil => rfl
      | cons c t ih => simpa using ih fun c hc => h c (List.mem_cons_of_mem _ hc)
    · intro part hm
      obtain ⟨c, hc, rfl⟩ := List.mem_map.1 hm
      exact ⟨c, h c hc, rfl⟩

/-- At least one character of a kind. -/
theorem mem_anyOf_mul_kstar {p : Char → Bool} {t : Text} :
    t ∈ anyOf p * (anyOf p)∗ ↔ t ≠ [] ∧ ∀ c ∈ t, p c = true := by
  constructor
  · rintro ⟨_, ⟨c, hc, rfl⟩, u, hu, rfl⟩
    refine ⟨List.cons_ne_nil c u, ?_⟩
    rintro x (_ | ⟨_, hx⟩)
    · exact hc
    · exact mem_kstar_anyOf.1 hu x hx
  · rintro ⟨hne, h⟩
    obtain ⟨c, u, rfl⟩ := List.exists_cons_of_ne_nil hne
    exact ⟨[c], ⟨c, h c List.mem_cons_self, rfl⟩, u,
      mem_kstar_anyOf.2 fun x hx => h x (List.mem_cons_of_mem _ hx), rfl⟩

/-- A mantissa is a run of digits, or two runs with the point between them, of which one may
be empty. -/
theorem mem_mantissa {m : Text} :
    m ∈ mantissa ↔
      (m ≠ [] ∧ ∀ c ∈ m, isDigit c = true) ∨
      ∃ whole fraction, (∀ c ∈ whole, isDigit c = true) ∧ (∀ c ∈ fraction, isDigit c = true) ∧
        ¬(whole = [] ∧ fraction = []) ∧ m = whole ++ '.' :: fraction := by
  constructor
  · rintro (⟨_, ⟨whole, hw, q, hq, rfl⟩, fraction, hf, rfl⟩ | ⟨q, hq, fraction, hf, rfl⟩)
    · have hw := mem_anyOf_mul_kstar.1 hw
      have hf := mem_kstar_anyOf.1 hf
      rcases hq with rfl | ⟨c, hc, rfl⟩
      · -- no point: both runs are one
        refine Or.inl ⟨by simp [hw.1], ?_⟩
        simpa [or_imp, forall_and] using ⟨hw.2, hf⟩
      · -- the point, and digits before it
        obtain rfl := beq_iff_eq.1 hc
        exact Or.inr ⟨whole, fraction, hw.2, hf, fun h => hw.1 h.1, by simp⟩
    · -- the point, and digits after it only
      have hf := mem_anyOf_mul_kstar.1 hf
      obtain ⟨c, hc, rfl⟩ := hq
      obtain rfl := beq_iff_eq.1 hc
      exact Or.inr ⟨[], fraction, by simp, hf.2, fun h => hf.1 h.2, rfl⟩
  · rintro (h | ⟨whole, fraction, hw, hf, hne, rfl⟩)
    · exact Or.inl ⟨m, ⟨m, mem_anyOf_mul_kstar.2 h, [], Or.inl rfl, by simp⟩, [],
        mem_kstar_anyOf.2 (by simp), by simp⟩
    · have hpoint : ['.'] ∈ point := ⟨'.', rfl, rfl⟩
      by_cases h : whole = []
      · subst h
        exact Or.inr ⟨['.'], hpoint, fraction,
          mem_anyOf_mul_kstar.2 ⟨fun h => hne ⟨rfl, h⟩, hf⟩, rfl⟩
      · exact Or.inl ⟨whole ++ ['.'],
          ⟨whole, mem_anyOf_mul_kstar.2 ⟨h, hw⟩, ['.'], Or.inr hpoint, rfl⟩, fraction,
          mem_kstar_anyOf.2 hf, by simp⟩

/-- An exponent mark is neither a digit nor the point. -/
theorem not_isDigit_of_isExponentMark {c : Char} (h : isExponentMark c = true) :
    isDigit c = false ∧ (c == '.') = false := by
  rcases (by simpa [isExponentMark] using h : c = 'e' ∨ c = 'E') with rfl | rfl
  · exact ⟨by decide, by decide⟩
  · exact ⟨by decide, by decide⟩

/-- There is no exponent mark in a mantissa. -/
theorem not_isExponentMark_of_mem_mantissa {m : Text} (hm : m ∈ mantissa) {c : Char}
    (hc : c ∈ m) : isExponentMark c = false := by
  apply Bool.eq_false_iff.2
  intro hmark
  obtain ⟨noDigit, noPoint⟩ := not_isDigit_of_isExponentMark hmark
  rcases mem_mantissa.1 hm with ⟨-, h⟩ | ⟨whole, fraction, hw, hf, -, rfl⟩
  · simp [h c hc] at noDigit
  · rcases List.mem_append.1 hc with hc | hc
    · simp [hw c hc] at noDigit
    · rcases List.mem_cons.1 hc with rfl | hc
      · simp at noPoint
      · simp [hf c hc] at noDigit

/-- Nor in a sign. -/
theorem not_isExponentMark_of_optional_sign {s : Text} (hs : s ∈ optional sign) {c : Char}
    (hc : c ∈ s) : isExponentMark c = false := by
  rcases hs with rfl | ⟨c', hc', rfl⟩
  · cases hc
  · obtain rfl := List.mem_singleton.1 hc
    rcases (by simpa [isSign] using hc' : c = '+' ∨ c = '-') with rfl | rfl <;> rfl

theorem mem_exponent {x : Text} :
    x ∈ exponent ↔ ∃ c s ds, isExponentMark c = true ∧ s ∈ optional sign ∧ ds ≠ [] ∧
      (∀ c ∈ ds, isDigit c = true) ∧ x = c :: s ++ ds := by
  constructor
  · rintro ⟨_, ⟨_, ⟨c, hc, rfl⟩, s, hs, rfl⟩, ds, hd, rfl⟩
    have hd := mem_anyOf_mul_kstar.1 hd
    exact ⟨c, s, ds, hc, hs, hd.1, hd.2, rfl⟩
  · rintro ⟨c, s, ds, hc, hs, hne, hd, rfl⟩
    exact ⟨[c] ++ s, ⟨[c], ⟨c, hc, rfl⟩, s, hs, rfl⟩, ds, mem_anyOf_mul_kstar.2 ⟨hne, hd⟩, rfl⟩

theorem mem_language {p : Text} :
    p ∈ language ↔ ∃ s m x, s ∈ optional sign ∧ m ∈ mantissa ∧ x ∈ optional exponent ∧
      p = s ++ m ++ x := by
  constructor
  · rintro ⟨_, ⟨s, hs, m, hm, rfl⟩, x, hx, rfl⟩
    exact ⟨s, m, x, hs, hm, hx, rfl⟩
  · rintro ⟨s, m, x, hs, hm, hx, rfl⟩
    exact ⟨s ++ m, ⟨s, hs, m, hm, rfl⟩, x, hx, rfl⟩

theorem nil_not_mem_mantissa : [] ∉ mantissa := by
  intro h
  rcases mem_mantissa.1 h with ⟨hne, -⟩ | ⟨whole, fraction, -, -, -, he⟩
  · exact hne rfl
  · simp at he

/-- A numeral has a character. -/
theorem nil_not_mem_language : [] ∉ language := by
  intro h
  obtain ⟨s, m, x, -, hm, -, he⟩ := mem_language.1 h
  have hm' : m = [] := by
    rw [eq_comm, List.append_eq_nil_iff, List.append_eq_nil_iff] at he
    exact he.1.2
  exact nil_not_mem_mantissa (hm' ▸ hm)

/-- The characters of a numeral. -/
def isNumeralChar (c : Char) : Bool :=
  isDigit c || isSign c || c == '.' || isExponentMark c

theorem isNumeralChar_of_digits {ds : Text} (h : ∀ c ∈ ds, isDigit c = true) {c : Char}
    (hc : c ∈ ds) : isNumeralChar c = true := by
  simp [isNumeralChar, h c hc]

theorem isNumeralChar_of_optional_sign {s : Text} (hs : s ∈ optional sign) {c : Char}
    (hc : c ∈ s) : isNumeralChar c = true := by
  rcases hs with rfl | ⟨c', hc', rfl⟩
  · cases hc
  · obtain rfl := List.mem_singleton.1 hc
    simp [isNumeralChar, hc']

/-- A numeral has no other characters. -/
theorem isNumeralChar_of_mem_language {p : Text} (hp : p ∈ language) {c : Char} (hc : c ∈ p) :
    isNumeralChar c = true := by
  obtain ⟨s, m, x, hs, hm, hx, rfl⟩ := mem_language.1 hp
  rcases List.mem_append.1 hc with hc | hc
  · rcases List.mem_append.1 hc with hc | hc
    · exact isNumeralChar_of_optional_sign hs hc
    · rcases mem_mantissa.1 hm with ⟨-, h⟩ | ⟨whole, fraction, hw, hf, -, rfl⟩
      · exact isNumeralChar_of_digits h hc
      · rcases List.mem_append.1 hc with hc | hc
        · exact isNumeralChar_of_digits hw hc
        · rcases List.mem_cons.1 hc with rfl | hc
          · rfl
          · exact isNumeralChar_of_digits hf hc
  · rcases hx with rfl | hx
    · cases hc
    · obtain ⟨mark, s', ds, hmark, hs', -, hd, rfl⟩ := mem_exponent.1 hx
      rcases List.mem_append.1 hc with hc | hc
      · rcases List.mem_cons.1 hc with rfl | hc
        · simp [isNumeralChar, hmark]
        · exact isNumeralChar_of_optional_sign hs' hc
      · exact isNumeralChar_of_digits hd hc

/-! ### What the splitters take is in the language -/

theorem splitSign_mem (t : Text) : (splitSign t).1 ∈ optional sign := by
  rcases t with - | ⟨c, t⟩
  · exact Or.inl rfl
  · rw [splitSign]
    split
    · next h => exact Or.inr ⟨c, h, rfl⟩
    · exact Or.inl rfl

theorem isDigit_of_mem_splitDigits {t : Text} {c : Char} (h : c ∈ (splitDigits t).1) :
    isDigit c = true :=
  List.mem_takeWhile_imp h

theorem mem_mantissa_of_splitMantissa? {t m r : Text} (h : splitMantissa? t = some (m, r)) :
    m ∈ mantissa := by
  rw [splitMantissa?] at h
  simp only at h
  split at h
  · next after _ =>
      split at h
      · cases h
      · next hne =>
          cases h
          exact mem_mantissa.2 (Or.inr ⟨_, _, fun c => isDigit_of_mem_splitDigits,
            fun c => isDigit_of_mem_splitDigits, hne, rfl⟩)
  · split at h
    · cases h
    · next hne =>
        cases h
        exact mem_mantissa.2 (Or.inl ⟨hne, fun c => isDigit_of_mem_splitDigits⟩)

theorem splitExponent_mem (t : Text) : (splitExponent t).1 ∈ optional exponent := by
  rcases t with - | ⟨c, t⟩
  · exact Or.inl rfl
  · rw [splitExponent]
    simp only
    split
    · next h =>
        exact Or.inr (mem_exponent.2 ⟨c, _, _, h.1, splitSign_mem t, h.2,
          fun c => isDigit_of_mem_splitDigits, rfl⟩)
    · exact Or.inl rfl

/-- What `split?` takes is a numeral. -/
theorem mem_language_of_split? {t p r : Text} (h : split? t = some (p, r)) : p ∈ language := by
  rw [split?] at h
  obtain ⟨⟨m, u⟩, hm, he⟩ := Option.map_eq_some_iff.1 h
  obtain ⟨rfl, rfl⟩ := Prod.mk.injEq .. ▸ he
  exact mem_language.2 ⟨_, m, _, splitSign_mem t, mem_mantissa_of_splitMantissa? hm,
    splitExponent_mem u, rfl⟩

/-! ### The splitters take as much as there is -/

/-- The text does not begin with a character that satisfies `p`. -/
def Stops (p : Char → Bool) (t : Text) : Prop :=
  ∀ c ∈ t.head?, p c = false

theorem stops_nil (p : Char → Bool) : Stops p [] := by
  simp [Stops]

theorem stops_cons {p : Char → Bool} {c : Char} {t : Text} : Stops p (c :: t) ↔ p c = false := by
  simp [Stops]

/-- A run of digits is taken whole, and so are the digits after it. -/
theorem splitDigits_append {ds : Text} (h : ∀ c ∈ ds, isDigit c = true) (t : Text) :
    splitDigits (ds ++ t) = (ds ++ (splitDigits t).1, (splitDigits t).2) := by
  rw [splitDigits, List.takeWhile_append_of_pos h, List.dropWhile_append_of_pos h]
  rfl

theorem splitDigits_of_stops {t : Text} (h : Stops isDigit t) : splitDigits t = ([], t) := by
  rcases t with - | ⟨c, t⟩
  · rfl
  · have hc := stops_cons.1 h
    simp [splitDigits, hc]

/-- A sign is taken, and only one. -/
theorem splitSign_append {s t : Text} (hs : s ∈ optional sign) (ht : Stops isSign t) :
    splitSign (s ++ t) = (s, t) := by
  rcases hs with rfl | ⟨c, hc, rfl⟩
  · rcases t with - | ⟨c, t⟩
    · rfl
    · simp [splitSign, stops_cons.1 ht]
  · simp [splitSign, hc]

/-- A sign is no digit. -/
theorem isSign_of_isDigit {c : Char} (h : isDigit c = true) : isSign c = false := by
  apply Bool.eq_false_iff.2
  intro hs
  rcases (by simpa [isSign] using hs : c = '+' ∨ c = '-') with rfl | rfl
  · exact absurd h (by decide)
  · exact absurd h (by decide)

/-- A mantissa begins with a digit or with the point, never with a sign. -/
theorem stops_isSign_of_mantissa {m : Text} (hm : m ∈ mantissa) (t : Text) :
    Stops isSign (m ++ t) := by
  rcases mem_mantissa.1 hm with ⟨hne, h⟩ | ⟨whole, fraction, hw, -, -, rfl⟩
  · obtain ⟨c, u, rfl⟩ := List.exists_cons_of_ne_nil hne
    exact stops_cons.2 (isSign_of_isDigit (h c List.mem_cons_self))
  · rcases whole with - | ⟨c, u⟩
    · exact stops_cons.2 rfl
    · exact stops_cons.2 (isSign_of_isDigit (hw c List.mem_cons_self))

theorem splitMantissa?_of_point {t w after : Text} (h : splitDigits t = (w, '.' :: after))
    (hne : ¬(w = [] ∧ (splitDigits after).1 = [])) :
    splitMantissa? t = some (w ++ '.' :: (splitDigits after).1, (splitDigits after).2) := by
  rw [splitMantissa?]
  simp only [h]
  exact if_neg hne

theorem splitMantissa?_of_no_point {t w r : Text} (h : splitDigits t = (w, r))
    (hr : Stops (· == '.') r) (hne : w ≠ []) : splitMantissa? t = some (w, r) := by
  rw [splitMantissa?]
  simp only [h]
  split
  · exact absurd (stops_cons.1 hr) (by decide)
  · exact if_neg hne

/-- A mantissa at the front of a text is the beginning of what is taken. -/
theorem prefix_splitMantissa? {m : Text} (hm : m ∈ mantissa) (t : Text) :
    ∃ m' r, splitMantissa? (m ++ t) = some (m', r) ∧ m <+: m' := by
  rcases mem_mantissa.1 hm with ⟨hne, h⟩ | ⟨whole, fraction, hw, hf, hne, rfl⟩
  · -- a run of digits, which may go on, and may have a fraction
    have run := splitDigits_append h t
    by_cases hp : Stops (· == '.') (splitDigits t).2
    · exact ⟨_, _, splitMantissa?_of_no_point run hp (by simp [hne]), List.prefix_append m _⟩
    · obtain ⟨after, ha⟩ : ∃ after, (splitDigits t).2 = '.' :: after := by
        rcases hr : (splitDigits t).2 with - | ⟨c, after⟩
        · exact absurd (hr ▸ stops_nil _) hp
        · rw [hr, stops_cons] at hp
          obtain rfl : c = '.' := by simpa using hp
          exact ⟨after, rfl⟩
      refine ⟨_, _, splitMantissa?_of_point (ha ▸ run) (by simp [hne]), ?_⟩
      rw [List.append_assoc]
      exact List.prefix_append m _
  · -- two runs, the second of which may go on
    have run : splitDigits (whole ++ '.' :: (fraction ++ t)) = (whole, '.' :: (fraction ++ t)) := by
      rw [splitDigits_append hw, splitDigits_of_stops (stops_cons.2 (by decide)), List.append_nil]
    have more := splitDigits_append hf t
    -- one of the runs has a digit, and keeps it
    have some_digit : ¬(whole = [] ∧ (splitDigits (fraction ++ t)).1 = []) := by
      rw [more]
      intro h
      exact hne ⟨h.1, (List.append_eq_nil_iff.1 h.2).1⟩
    rw [show whole ++ '.' :: fraction ++ t = whole ++ '.' :: (fraction ++ t) by simp]
    refine ⟨_, _, splitMantissa?_of_point run some_digit, ?_⟩
    rw [more, ← List.cons_append, ← List.append_assoc]
    exact List.prefix_append _ _

/-- A mantissa is taken as it is where neither a digit nor the point comes after it. -/
theorem splitMantissa?_append {m t : Text} (hm : m ∈ mantissa) (hd : Stops isDigit t)
    (hp : Stops (· == '.') t) : splitMantissa? (m ++ t) = some (m, t) := by
  rcases mem_mantissa.1 hm with ⟨hne, h⟩ | ⟨whole, fraction, hw, hf, hne, rfl⟩
  · have run := splitDigits_append h t
    rw [splitDigits_of_stops hd, List.append_nil] at run
    exact splitMantissa?_of_no_point run hp hne
  · have run : splitDigits (whole ++ '.' :: (fraction ++ t)) = (whole, '.' :: (fraction ++ t)) := by
      rw [splitDigits_append hw, splitDigits_of_stops (stops_cons.2 (by decide)), List.append_nil]
    have more := splitDigits_append hf t
    rw [splitDigits_of_stops hd, List.append_nil] at more
    have point := splitMantissa?_of_point run (by rwa [more])
    rwa [more, ← List.cons_append, ← List.append_assoc] at point

/-- An exponent is taken, and so are the digits after it. -/
theorem splitExponent_append {x : Text} (hx : x ∈ exponent) (t : Text) :
    splitExponent (x ++ t) = (x ++ (splitDigits t).1, (splitDigits t).2) := by
  obtain ⟨c, s, ds, hc, hs, hne, hd, rfl⟩ := mem_exponent.1 hx
  -- the sign ends where the digits begin
  have sign : splitSign (s ++ (ds ++ t)) = (s, ds ++ t) := by
    refine splitSign_append hs ?_
    obtain ⟨c', u, rfl⟩ := List.exists_cons_of_ne_nil hne
    exact stops_cons.2 (isSign_of_isDigit (hd c' List.mem_cons_self))
  have run := splitDigits_append hd t
  rw [show (c :: s ++ ds) ++ t = c :: (s ++ (ds ++ t)) by simp, splitExponent]
  simp only [sign, run]
  rw [if_pos ⟨hc, by simp [hne]⟩]
  simp

/-- Without a mark there is no exponent. -/
theorem splitExponent_of_stops {t : Text} (h : Stops isExponentMark t) :
    splitExponent t = ([], t) := by
  rcases t with - | ⟨c, t⟩
  · rfl
  · rw [splitExponent]
    simp [stops_cons.1 h]

/-- Nor where no digit comes after the mark and the sign. -/
theorem splitExponent_of_no_digit (c : Char) {s t : Text} (hs : s ∈ optional sign)
    (ht : Stops isSign t) (hd : Stops isDigit t) :
    splitExponent (c :: (s ++ t)) = ([], c :: (s ++ t)) := by
  rw [splitExponent]
  simp only [splitSign_append hs ht, splitDigits_of_stops hd]
  simp

/-- Where neither a digit nor the point comes there is no mantissa. -/
theorem splitMantissa?_of_stops {t : Text} (hd : Stops isDigit t) (hp : Stops (· == '.') t) :
    splitMantissa? t = none := by
  rw [splitMantissa?]
  simp only [splitDigits_of_stops hd]
  split
  · exact absurd (stops_cons.1 hp) (by decide)
  · rfl

/-! ### The longest numeral -/

/-- A numeral without its exponent, and then whatever exponent there is. -/
theorem split?_append {s m t : Text} (hs : s ∈ optional sign) (hm : m ∈ mantissa)
    (hd : Stops isDigit t) (hp : Stops (· == '.') t) :
    split? (s ++ m ++ t) = some (s ++ m ++ (splitExponent t).1, (splitExponent t).2) := by
  rw [List.append_assoc, split?, splitSign_append hs (stops_isSign_of_mantissa hm t)]
  simp only [splitMantissa?_append hm hd hp, Option.map_some]

/-- A numeral with its exponent, which only digits prolong. -/
theorem split?_append_of_exponent {s m x : Text} (hs : s ∈ optional sign) (hm : m ∈ mantissa)
    (hx : x ∈ exponent) (t : Text) :
    split? (s ++ m ++ x ++ t) = some (s ++ m ++ x ++ (splitDigits t).1, (splitDigits t).2) := by
  -- the exponent begins with its mark, where the mantissa ends
  have mark : Stops isDigit (x ++ t) ∧ Stops (· == '.') (x ++ t) := by
    obtain ⟨c, s, ds, hc, -, -, -, rfl⟩ := mem_exponent.1 hx
    have hc := not_isDigit_of_isExponentMark hc
    exact ⟨stops_cons.2 hc.1, stops_cons.2 hc.2⟩
  rw [List.append_assoc _ x t, split?_append hs hm mark.1 mark.2, splitExponent_append hx]
  simp only [List.append_assoc]

/-- A numeral at the front of a text is the beginning of what is taken. -/
theorem prefix_split?_of_mem {q : Text} (hq : q ∈ language) (t : Text) :
    ∃ p r, split? (q ++ t) = some (p, r) ∧ q <+: p := by
  obtain ⟨s, m, x, hs, hm, hx, rfl⟩ := mem_language.1 hq
  rcases hx with rfl | hx
  · -- without an exponent the mantissa may go on
    obtain ⟨m', r, hm', hpre⟩ := prefix_splitMantissa? hm t
    refine ⟨s ++ m' ++ (splitExponent r).1, (splitExponent r).2, ?_, ?_⟩
    · rw [List.append_nil, List.append_assoc, split?,
        splitSign_append hs (stops_isSign_of_mantissa hm t)]
      simp only [hm', Option.map_some]
    · rw [List.append_nil, List.append_assoc]
      exact (List.prefix_append_right_inj s).2 (hpre.trans (List.prefix_append m' _))
  · -- with one, only its digits may
    exact ⟨_, _, split?_append_of_exponent hs hm hx t, List.prefix_append _ _⟩

/-- `p` is the longest text of the language that `t` begins with. -/
structure LongestPrefix (l : Language Char) (t p : Text) : Prop where
  isPrefix : p <+: t
  mem : p ∈ l
  longest : ∀ q, q <+: t → q ∈ l → q.length ≤ p.length

theorem LongestPrefix.unique {l : Language Char} {t p q : Text} (hp : LongestPrefix l t p)
    (hq : LongestPrefix l t q) : p = q := by
  have length : p.length = q.length :=
    Nat.le_antisymm (hq.longest p hp.isPrefix hp.mem) (hp.longest q hq.isPrefix hq.mem)
  exact (List.prefix_of_prefix_length_le hp.isPrefix hq.isPrefix length.le).eq_of_length length

/-- A numeral does not reach into a text that begins with no character of one. -/
theorem prefix_append_iff {s : Text} (hs : Stops isNumeralChar s) {p t : Text}
    (hp : p ∈ language) : p <+: t ++ s ↔ p <+: t := by
  refine ⟨fun hpre => ?_, fun hpre => hpre.trans (List.prefix_append t s)⟩
  rcases List.prefix_or_prefix_of_prefix hpre (List.prefix_append t s) with hpre | ⟨q, rfl⟩
  · exact hpre
  have hq := (List.prefix_append_right_inj t).1 hpre
  rcases q with - | ⟨c, q⟩
  · rw [List.append_nil]
  · -- the first character of `s` would be in the numeral
    obtain ⟨u, rfl⟩ := hq
    have char := isNumeralChar_of_mem_language hp (List.mem_append_right t List.mem_cons_self)
    exact absurd char (Bool.eq_false_iff.1 (stops_cons.1 hs))

/-- No numeral begins where no character of one comes. -/
theorem not_mem_language_of_stops {s p : Text} (hs : Stops isNumeralChar s) (hp : p <+: s) :
    p ∉ language := by
  intro hm
  have hp := (prefix_append_iff hs (t := []) hm).1 hp
  exact nil_not_mem_language (List.prefix_nil.1 hp ▸ hm)

theorem LongestPrefix.append {s t p : Text} (hs : Stops isNumeralChar s)
    (hp : LongestPrefix language t p) : LongestPrefix language (t ++ s) p :=
  ⟨(prefix_append_iff hs hp.mem).2 hp.isPrefix, hp.mem,
    fun q hq hm => hp.longest q ((prefix_append_iff hs hm).1 hq) hm⟩

/-- What `split?` takes is the longest numeral at the front of the text. -/
theorem longestPrefix_of_split? {t p r : Text} (h : split? t = some (p, r)) :
    LongestPrefix language t p := by
  refine ⟨⟨r, append_of_split? h⟩, mem_language_of_split? h, ?_⟩
  rintro q ⟨u, rfl⟩ hq
  obtain ⟨p', r', h', hpre⟩ := prefix_split?_of_mem hq u
  obtain ⟨rfl, rfl⟩ := Prod.mk.injEq .. ▸ Option.some.inj (h.symm.trans h')
  exact hpre.length_le

/-- Nothing is taken just where the text does not begin with a numeral. -/
theorem split?_eq_none_iff {t : Text} : split? t = none ↔ ∀ p, p <+: t → p ∉ language := by
  constructor
  · rintro h p ⟨u, rfl⟩ hp
    obtain ⟨p', r, h', -⟩ := prefix_split?_of_mem hp u
    exact nomatch h.symm.trans h'
  · intro h
    refine Option.eq_none_iff_forall_ne_some.2 ?_
    rintro ⟨p, r⟩ hs
    have hl := longestPrefix_of_split? hs
    exact h p hl.isPrefix hl.mem

/-- A text that begins with a numeral is split after the longest one. -/
theorem split?_eq_some_iff {t p r : Text} :
    split? t = some (p, r) ↔ LongestPrefix language t p ∧ p ++ r = t := by
  constructor
  · intro h
    exact ⟨longestPrefix_of_split? h, append_of_split? h⟩
  · rintro ⟨hl, rfl⟩
    rcases hs : split? (p ++ r) with - | ⟨p', r'⟩
    · exact absurd hl.mem (split?_eq_none_iff.1 hs p hl.isPrefix)
    · obtain rfl := (longestPrefix_of_split? hs).unique hl
      obtain rfl := List.append_cancel_left (append_of_split? hs)
      rfl

end Toolpath.Numeral
