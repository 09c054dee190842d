/-
Toolpath/Proofs/Word/Alike.lean

Two texts that read alike.  A relation `S` between texts is kept by the reader of words when related
texts begin with the same word and are related behind it, or are both at their end, or both begin
with a broken word (`ReadsAlike`).  What is said about broken words may differ, as far as a second
relation `E` allows; only the letter is the same, and the texts after it are related again.

Then every reader of several words takes the same words from both texts, and leaves them related:
the words as far as a condition holds (`span`), a setting (`setting?`), the names of axes
(`axisNames`).
-/
import Mathlib.Data.List.Forall2
import Toolpath.Word.Reader

namespace Toolpath

namespace Word

/-! ### One word -/

/-- Words with the same letter and number, and related texts after them. -/
structure Alike (S : Text → Text → Prop) (w w' : Word) : Prop where
  letter : w'.letter = w.letter
  value : w'.value = w.value
  rest : S w.rest w'.rest

theorem Alike.text {S : Text → Text → Prop} {w w' : Word} (h : Alike S w w') :
    w'.text = w.text := by
  rw [Word.text, Word.text, h.letter, h.value]

/-- What two texts begin with when they read alike. -/
inductive NextAlike (d : Dialect) (S : Text → Text → Prop) (E : WordError → WordError → Prop)
    (t t' : Text) : Prop
  | none (hn : next? d t = .ok none) (hn' : next? d t' = .ok none)
  | word {w w' : Word} (hn : next? d t = .ok (some w)) (hn' : next? d t' = .ok (some w'))
      (hw : Alike S w w')
  | error {e e' : WordError} (hn : next? d t = .error e) (hn' : next? d t' = .error e')
      (he : E e e')

end Word

/-- Broken words of the same kind with the same letter, and related texts after it. -/
inductive WordError.Alike (S : Text → Text → Prop) : WordError → WordError → Prop
  | missingValue (letter : Text) : Alike S (.missingValue letter) (.missingValue letter)
  | invalidNumber (letter : Text) {rest rest' : Text} (h : S rest rest') :
      Alike S (.invalidNumber letter rest) (.invalidNumber letter rest')

/-- Related texts read alike, and are related again behind each word, be it broken or not. -/
structure ReadsAlike (d : Dialect) (S : Text → Text → Prop) (E : WordError → WordError → Prop) :
    Prop where
  next : ∀ {t t' : Text}, S t t' → Word.NextAlike d S E t t'
  letter : ∀ {e e' : WordError}, E e e' → e'.letter = e.letter
  rest : ∀ {e e' : WordError}, E e e' → S e.rest e'.rest

/-! ### Several words -/

namespace ReadsAlike

open Word (next?)

variable {d : Dialect} {S : Text → Text → Prop} {E : WordError → WordError → Prop}

/-- A loop takes the same words, when its condition does not look at the text after a word. -/
theorem span (h : ReadsAlike d S E) {p : Word → Bool}
    (hp : ∀ {w w' : Word}, Word.Alike S w w' → p w' = p w) {t t' : Text}
    (ht : S t t') :
    List.Forall₂ (Word.Alike S) (Word.span d p t).1 (Word.span d p t').1 ∧
      S (Word.span d p t).2 (Word.span d p t').2 := by
  cases h.next ht with
  | none hn hn' | error hn hn' he =>
    rw [Word.span_of_stop (t := t) (by simp [hn]), Word.span_of_stop (t := t') (by simp [hn'])]
    exact ⟨.nil, ht⟩
  | @word w w' hn hn' hw =>
    have hlt := Word.length_rest_of_next? hn
    by_cases hpw : p w = true
    · have more := h.span hp hw.rest
      rw [Word.span_of_word hn hpw, Word.span_of_word hn' ((hp hw).trans hpw)]
      exact ⟨.cons hw more.1, more.2⟩
    · rw [Word.span_of_stop (t := t) (by simp [hn, hpw]),
        Word.span_of_stop (t := t') (by simp [hn', hp hw, hpw])]
      exact ⟨.nil, ht⟩
termination_by t.length
decreasing_by exact hlt

/-- A setting is found in neither, or in both with the same number. -/
theorem setting? (h : ReadsAlike d S E) {t t' : Text} (ht : S t t') :
    (Word.setting? d t = none ∧ Word.setting? d t' = none) ∨
      ∃ v r r', Word.setting? d t = some (v, r) ∧ Word.setting? d t' = some (v, r') ∧ S r r' := by
  cases h.next ht with
  | none hn hn' | error hn hn' he =>
    exact .inl ⟨Word.setting?_of_stop (by simp [hn]), Word.setting?_of_stop (by simp [hn'])⟩
  | @word w w' hn hn' hw =>
    rw [Word.setting?_of_word hn, Word.setting?_of_word hn', hw.letter, hw.value]
    split
    · exact .inr ⟨_, _, _, rfl, rfl, hw.rest⟩
    · exact .inl ⟨rfl, rfl⟩

/-- The same axes are named, by words and by bare letters. -/
theorem axisNames (h : ReadsAlike d S E) {t t' : Text} (ht : S t t') :
    (Word.axisNames d t').1 = (Word.axisNames d t).1 ∧
      S (Word.axisNames d t).2 (Word.axisNames d t').2 := by
  cases h.next ht with
  | none hn hn' =>
    rw [Word.axisNames_of_stop (t := t) (by simp [hn]) (by simp [hn]),
      Word.axisNames_of_stop (t := t') (by simp [hn']) (by simp [hn'])]
    exact ⟨rfl, ht⟩
  | @word w w' hn hn' hw =>
    have hlt := Word.length_rest_of_next? hn
    rcases hi : Axis.ofLetter? w.letter with - | i
    · rw [Word.axisNames_of_stop (t := t) (by simp [hn, hi]) (by simp [hn]),
        Word.axisNames_of_stop (t := t') (by simp [hn', hw.letter, hi]) (by simp [hn'])]
      exact ⟨rfl, ht⟩
    · have more := h.axisNames hw.rest
      rw [Word.axisNames_of_word hn hi, Word.axisNames_of_word hn' (hw.letter ▸ hi)]
      exact ⟨congrArg (i :: ·) more.1, more.2⟩
  | @error e e' hn hn' he =>
    have hlt := Word.length_rest_of_next?_error hn
    have letter := h.letter he
    rcases hi : Axis.ofLetter? e.letter with - | i
    · rw [Word.axisNames_of_stop (t := t) (by simp [hn]) (by simp [hn, hi]),
        Word.axisNames_of_stop (t := t') (by simp [hn']) (by simp [hn', letter, hi])]
      exact ⟨rfl, ht⟩
    · have more := h.axisNames (h.rest he)
      rw [Word.axisNames_of_error hn hi, Word.axisNames_of_error hn' (letter ▸ hi)]
      exact ⟨congrArg (i :: ·) more.1, more.2⟩
termination_by t.length
decreasing_by
  · exact hlt
  · exact hlt

end ReadsAlike

end Toolpath
