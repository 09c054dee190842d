/-
Toolpath/Proofs/Word/Printed.lean

The text of a word, read as a line.  It is a letter and a numeral, so one word is read and nothing
is left (`next?_text`), also where the letter is an `E` and the numeral has an exponent of its own:
the letter comes first and is no part of the number.

The value that is read is not the one that was written, of which only six digits were kept, but it
is written alike, with two exceptions (`exists_next?_text`).  The exceptions are real:
`G1.000004e-318` has the text `G1e-318`, and the word that is read from that has another
(`text_ne_of_next?_text`).
-/
import Toolpath.Proofs.Numeral.ReadBack
import Toolpath.Proofs.Word.Spaced

namespace Toolpath.Word

open Text
open Numeral (language)

/-- A capital is a letter that reading leaves as it is. -/
theorem isAlpha_of_isUpper {c : Char} (hc : c.isUpper = true) :
    c.isAlpha = true ∧ c.toUpper = c := by
  have alpha : c.isAlpha = true := by
    rw [Char.isAlpha, hc, Bool.true_or]
  have upper := forall_isAlpha (P := fun c => c.isUpper = true → c.toUpper = c) (by decide) alpha
  exact ⟨alpha, upper hc⟩

section Text

variable {c : Char} {x : Float}

/-- The text of a word is read as a word, with its letter and the value of its numeral, and nothing
is left. -/
theorem next?_text (hc : c.isUpper = true) (hx : x.isFinite = true) (rest : Text) :
    next? {} (text ⟨[c], x, rest⟩) = .ok (some ⟨[c], Numeral.value (Significant.write x), []⟩) := by
  obtain ⟨alpha, upper⟩ := isAlpha_of_isUpper hc
  obtain ⟨d, hd⟩ := exists_of_isFinite hx
  have numeral : Significant.write x ∈ language := (Significant.spells_write hd).mem
  have next := next?_text_of_stops (.bare c _ alpha numeral) (Numeral.stops_nil _)
  rw [List.append_nil, WrittenWord.wordBefore] at next
  simp only [WrittenWord.bare, upper] at next
  exact next

/-- A word that is printed and read is the word with the same letter and some finite value, and it
is printed as before, unless the value was one of two. -/
theorem exists_next?_text (hc : c.isUpper = true) (hx : x.isFinite = true) (rest : Text) :
    ∃ y, next? {} (text ⟨[c], x, rest⟩) = .ok (some ⟨[c], y, []⟩) ∧ y.isFinite = true ∧
      (text ⟨[c], y, []⟩ = text ⟨[c], x, rest⟩ ↔ x ≠ 1.000004e-318 ∧ x ≠ -1.000004e-318) := by
  obtain ⟨finite, again⟩ := Significant.write_value_write hx
  refine ⟨_, next?_text hc hx rest, finite, ?_⟩
  rw [← again]
  exact List.append_right_inj [c]

end Text

/-- A letter that could be an exponent mark, and a number with an exponent: `E1e+22`. -/
theorem exists_next?_text_e : 'E'.isUpper = true ∧ Float.isFinite 1e22 = true ∧
    ∃ y, next? {} (text ⟨['E'], 1e22, []⟩) = .ok (some ⟨['E'], y, []⟩) ∧ y.isFinite = true ∧
      (text ⟨['E'], y, []⟩ = text ⟨['E'], 1e22, []⟩
        ↔ (1e22 : Float) ≠ 1.000004e-318 ∧ (1e22 : Float) ≠ -1.000004e-318) := by
  have upper : 'E'.isUpper = true := by decide
  have finite : Float.isFinite 1e22 = true := by decide +kernel
  exact ⟨upper, finite, exists_next?_text upper finite []⟩

/-- One of the two: the word is printed as `G1e-318`, and the word that is read from that as
`G9.99999e-319`. -/
theorem text_ne_of_next?_text : 'G'.isUpper = true ∧ Float.isFinite 1.000004e-318 = true ∧
    text ⟨['G'], 1.000004e-318, []⟩ = "G1e-318".toList ∧
    ∃ w, next? {} (text ⟨['G'], 1.000004e-318, []⟩) = .ok (some w) ∧
      text w = "G9.99999e-319".toList ∧ text w ≠ text ⟨['G'], 1.000004e-318, []⟩ := by
  have upper : 'G'.isUpper = true := by decide
  have finite : Float.isFinite 1.000004e-318 = true := by decide +kernel
  have written : text ⟨['G'], 1.000004e-318, []⟩ = "G1e-318".toList := by decide +kernel
  have read : text ⟨['G'], Numeral.value (Significant.write 1.000004e-318), []⟩
      = "G9.99999e-319".toList := by decide +kernel
  refine ⟨upper, finite, written, _, next?_text upper finite [], read, ?_⟩
  rw [read, written]
  decide

end Toolpath.Word
