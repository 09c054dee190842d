/-
Toolpath/Proofs/Word/Remark.lean

What a remark at the end of a line changes for the reader of words.  A remark begins with a mark
that ends the line: with `;`, with `%` or with `*`.  The mark is neither blank nor part of a
numeral, so blanks are skipped and numerals are read as without it, and where a word could begin it
ends the line.  So a line reads with the remark as it reads without (`Remark.readsAlike`).

The mark can come where a number is looked for.  Then a word is broken that was broken before, since
without the remark the line ended there; only what is said about it is different.
-/
import Toolpath.Proofs.Word.Appended
import Toolpath.Proofs.Word.Rendering

namespace Toolpath

open Text Numeral

/-- What may stand at the end of a line and is no part of it: nothing, or a mark and whatever
text. -/
inductive Remark : Text → Prop
  | nothing : Remark []
  | mark {c : Char} (t : Text) (hc : c ∈ [';', '%', '*']) : Remark (c :: t)

/-- The second text is the first with `s` after it. -/
def Followed (s t t' : Text) : Prop :=
  t' = t ++ s

/-- Broken words with the same letter, of which the second has `s` after its text. -/
structure WordError.Followed (s : Text) (e e' : WordError) : Prop where
  letter : e'.letter = e.letter
  rest : e'.rest = e.rest ++ s

namespace Remark

variable {s : Text} (h : Remark s)

include h

theorem trimStart_eq : trimStart s = s := by
  cases h with
  | nothing => rfl
  | mark t hc => exact trimStart_cons_of_not_blank (ends_of_mem_marks hc).1 t

/-- Blanks are skipped up to the remark. -/
theorem trimStart_append (t : Text) : trimStart (t ++ s) = trimStart t ++ s := by
  rw [Text.trimStart_append, h.trimStart_eq]
  split
  · next ht => rw [ht, List.nil_append]
  · rfl

/-- A numeral does not reach into a remark. -/
theorem stops : Stops isNumeralChar s := by
  cases h with
  | nothing => exact stops_nil _
  | mark t hc => exact stops_cons.2 (ends_of_mem_marks hc).2.1

/-- Behind the last letter of a line the number is missing, with a remark and without. -/
theorem ofLetter_error (letter : Text) :
    ∃ e, Word.ofLetter letter s = .error e ∧
      WordError.Followed s (.missingValue letter) e := by
  obtain ⟨e, he, sameLetter, rest⟩ := Word.exists_ofLetter_error letter (t := s)
    fun _ hp => not_mem_language_of_stops h.stops hp
  exact ⟨e, he, sameLetter, rest⟩

/-- No word begins in a remark. -/
theorem next?_eq_none : Word.next? {} s = .ok none := by
  cases h with
  | nothing => exact Word.next?_of_end rfl
  | mark u hc => exact Word.next?_of_mark (mark u hc).trimStart_eq (ends_of_mem_marks hc).2.2

/-- A remark after a text changes nothing about its words. -/
theorem readsAlike : ReadsAlike {} (Followed s) (WordError.Followed s) where
  letter he := he.letter
  rest he := he.rest
  next := by
    rintro t _ rfl
    refine nextAlike_append h.stops h.next?_eq_none (fun letter => ?_) (fun _ _ => ⟨rfl, rfl⟩)
      h.trimStart_append t
    rw [h.trimStart_eq]
    exact h.ofLetter_error letter

end Remark

end Toolpath
