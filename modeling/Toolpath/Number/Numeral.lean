/-
Toolpath/Number/Numeral.lean

Decimal numerals at the front of a text: an optional sign, digits with at most one
point among, before or after them, and an optional exponent.  `split?` takes the longest
numeral a text begins with; the digits may be those of any script.  An exponent mark
that no digit follows is not part of the numeral, so `1e` is `1` before an `e`.
-/
import Toolpath.Text.DecimalDigit
import Toolpath.Number.Decimal

namespace Toolpath.Numeral

open Text

/-! ### The parts of a numeral -/

/-- Whether `c` is a sign. -/
def isSign (c : Char) : Bool :=
  c == '+' || c == '-'

/-- Whether `c` announces an exponent. -/
def isExponentMark (c : Char) : Bool :=
  c == 'e' || c == 'E'

/-- An optional sign, and the text after it. -/
def splitSign : Text → Text × Text
  | [] => ([], [])
  | c :: t => if isSign c then ([c], t) else ([], c :: t)

/-- The longest run of digits, and the text after it. -/
def splitDigits (t : Text) : Text × Text :=
  (t.takeWhile isDigit, t.dropWhile isDigit)

/-- Digits with at most one point, at least one digit, and the text after them. -/
def splitMantissa? (t : Text) : Option (Text × Text) :=
  let (whole, rest) := splitDigits t
  match rest with
  | '.' :: after =>
    -- a point needs digits on one side at least
    let (fraction, rest) := splitDigits after
    if whole = [] ∧ fraction = [] then none else some (whole ++ '.' :: fraction, rest)
  | _ => if whole = [] then none else some (whole, rest)

/-- An optional exponent, and the text after it.  A mark without digits is left. -/
def splitExponent : Text → Text × Text
  | [] => ([], [])
  | c :: t =>
    let (sign, after) := splitSign t
    let (ds, rest) := splitDigits after
    if isExponentMark c ∧ ds ≠ [] then (c :: sign ++ ds, rest) else ([], c :: t)

/-- The longest numeral the text begins with, and the text after it. -/
def split? (t : Text) : Option (Text × Text) :=
  let sign := splitSign t
  (splitMantissa? sign.2).map fun mantissa =>
    let exponent := splitExponent mantissa.2
    (sign.1 ++ mantissa.1 ++ exponent.1, exponent.2)

/-! ### Nothing is lost -/

theorem append_splitSign (t : Text) : (splitSign t).1 ++ (splitSign t).2 = t := by
  rcases t with - | ⟨c, t⟩
  · rfl
  · rw [splitSign]
    split <;> rfl

theorem append_splitDigits (t : Text) : (splitDigits t).1 ++ (splitDigits t).2 = t :=
  List.takeWhile_append_dropWhile

theorem append_of_splitMantissa? {t m r : Text} (h : splitMantissa? t = some (m, r)) :
    m ++ r = t := by
  have ht := append_splitDigits t
  rw [splitMantissa?] at h
  rcases hd : splitDigits t with ⟨whole, rest⟩
  rw [hd] at h ht
  simp only at h ht
  split at h
  · next after =>
      have ha := append_splitDigits after
      rcases hf : splitDigits after with ⟨fraction, rest⟩
      rw [hf] at h ha
      simp only at h ha
      split at h
      · cases h
      · cases h
        rw [← ht, ← ha]
        simp
  · split at h
    · cases h
    · cases h
      exact ht

theorem append_splitExponent (t : Text) : (splitExponent t).1 ++ (splitExponent t).2 = t := by
  rcases t with - | ⟨c, t⟩
  · rfl
  · have hs := append_splitSign t
    have hd := append_splitDigits (splitSign t).2
    rw [splitExponent]
    simp only
    split
    · show (c :: (splitSign t).1 ++ _) ++ _ = _
      rw [List.append_assoc, hd, List.cons_append, hs]
    · rfl

/-- The numeral and what follows it are the text. -/
theorem append_of_split? {t p r : Text} (h : split? t = some (p, r)) : p ++ r = t := by
  rw [split?] at h
  obtain ⟨⟨m, u⟩, hm, he⟩ := Option.map_eq_some_iff.1 h
  have hs := append_splitSign t
  have hu := append_of_splitMantissa? hm
  have hx := append_splitExponent u
  obtain ⟨rfl, rfl⟩ := Prod.mk.injEq .. ▸ he
  rw [List.append_assoc, List.append_assoc, hx, hu, hs]

/-- A mantissa has a character. -/
theorem ne_nil_of_splitMantissa? {t m r : Text} (h : splitMantissa? t = some (m, r)) : m ≠ [] := by
  rw [splitMantissa?] at h
  rcases hd : splitDigits t with ⟨whole, rest⟩
  rw [hd] at h
  simp only at h
  split at h
  · split at h
    · cases h
    · cases h
      simp
  · split at h
    · cases h
    · cases h
      assumption

/-- A numeral has a character. -/
theorem ne_nil_of_split? {t p r : Text} (h : split? t = some (p, r)) : p ≠ [] := by
  rw [split?] at h
  obtain ⟨⟨m, u⟩, hm, he⟩ := Option.map_eq_some_iff.1 h
  obtain ⟨rfl, -⟩ := Prod.mk.injEq .. ▸ he
  simp [ne_nil_of_splitMantissa? hm]

/-! ### The value of a numeral -/

/-- The number that digits of any script spell. -/
def natural (ds : Text) : Nat :=
  ds.foldl (fun n c => 10 * n + (digit? c).getD 0) 0

/-- The number that a sign and digits spell. -/
def integer (t : Text) : Int :=
  let (sign, ds) := splitSign t
  if sign = ['-'] then -(natural ds : Int) else natural ds

/-- The decimal that a numeral spells: its digits as one number, moved by the exponent
and by the places after the point. -/
def toDecimal (p : Text) : Decimal :=
  let (sign, unsigned) := splitSign p
  let mantissa := unsigned.takeWhile (! isExponentMark ·)
  let exponent := (unsigned.dropWhile (! isExponentMark ·)).drop 1
  let whole := mantissa.takeWhile (· != '.')
  let fraction := (mantissa.dropWhile (· != '.')).drop 1
  { negative := sign = ['-']
    coefficient := natural (whole ++ fraction)
    exponent := integer exponent - fraction.length }

/-- The double nearest to the number that a numeral spells. -/
def value (p : Text) : Float :=
  (toDecimal p).toFloat

end Toolpath.Numeral
