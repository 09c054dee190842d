/-
Toolpath/Proofs/Word/Appended.lean

More text at the end of a line that begins no word and goes on with no numeral: a remark, or the
line break.  Blanks before it are skipped as without it, and numerals end before it; so the line has
the same words (`nextAlike_append`).  Where a letter has no number, the number would have to come
from the text that was appended, and there it is missing, too.
-/
import Toolpath.Proofs.Word.Alike
import Toolpath.Proofs.Word.Reading

namespace Toolpath

open Text Numeral

/-- Blanks are skipped up to what is not blank, also if that was appended. -/
theorem Text.trimStart_append (t s : Text) :
    trimStart (t ++ s) = if trimStart t = [] then trimStart s else trimStart t ++ s := by
  have skipped : trimStart (t ++ s)
      = if (trimStart t).isEmpty then trimStart s else trimStart t ++ s := List.dropWhile_append
  simp only [skipped, List.isEmpty_iff]

/-- Blanks at the front make no difference to the first word. -/
theorem Word.next?_congr (d : Dialect) {t t' : Text} (h : trimStart t = trimStart t') :
    next? d t = next? d t' := by
  rw [next?, next?, h]

/-- A text reads with `s` after it as it reads without, if `s` begins no word, goes on with no
numeral and is no number; what is said of broken words, and which texts come after a word, has to be
allowed by `E` and `S`. -/
theorem nextAlike_append {d : Dialect} {s : Text} {S : Text → Text → Prop}
    {E : WordError → WordError → Prop} (stops : Stops isNumeralChar s)
    (none : Word.next? d s = .ok none)
    (missing : ∀ letter, ∃ e, Word.ofLetter letter (trimStart s) = .error e ∧
      E (.missingValue letter) e)
    (invalid : ∀ letter t, E (.invalidNumber letter t) (.invalidNumber letter (t ++ s)))
    (rest : ∀ t, S (trimStart t) (trimStart (t ++ s))) (t : Text) :
    Word.NextAlike d S E t (t ++ s) := by
  have trim := Text.trimStart_append t s
  rcases ht : trimStart t with - | ⟨c, after⟩ <;> rw [ht] at trim
  · -- nothing but what was appended
    exact .none (Word.next?_of_end ht) ((Word.next?_congr d trim).trans none)
  rw [if_neg (List.cons_ne_nil c after), List.cons_append] at trim
  by_cases hc : Word.EndsLine d c
  · exact .none (Word.next?_of_mark ht hc) (Word.next?_of_mark trim hc)
  have first := Word.next?_of_letter ht hc
  have second := Word.next?_of_letter trim hc
  rw [Text.trimStart_append after s] at second
  by_cases ha : trimStart after = []
  · -- the number is missing
    obtain ⟨e, he, allowed⟩ := missing (upperChar c)
    rw [if_pos ha, he] at second
    rw [ha] at first
    exact .error first second allowed
  · rw [if_neg ha] at second
    obtain ⟨v, r, hw, hw'⟩ | ⟨he, he'⟩ := Word.ofLetter_append (upperChar c) stops ha
    · rw [hw] at first
      rw [hw'] at second
      exact .word first second ⟨rfl, rfl, rest r⟩
    · rw [he] at first
      rw [he'] at second
      exact .error first second (invalid _ _)

end Toolpath
