/-
Toolpath/Proofs/Word/Trailing.lean

A line may come with the break that ended it, or without.  Every break is blank, and no character of
a numeral, so blanks are skipped over it and numerals end before it: a line reads with its break as
it reads without (`readsAlike_upToBreak`).

The break is seen in the text after a word only.  Where that text is blank as a whole, it is skipped
to its end and the break with it; so the two texts are equal, or the second one has the break.
-/
import Toolpath.Proofs.Text.Unlines
import Toolpath.Proofs.Word.Appended

namespace Toolpath

open Text Numeral

/-! ### Line breaks -/

namespace Text

/-- A text that is one line break. -/
inductive LineBreak : Text → Prop
  | char {c : Char} (hc : isLineBreak c = true) : LineBreak [c]
  | returnAndFeed : LineBreak ['\r', '\n']

theorem LineBreak.isBlank {b : Text} (h : LineBreak b) : ∀ c ∈ b, Text.isBlank c = true := by
  cases h with
  | char hc => exact List.forall_mem_singleton.2 (isBlank_of_isLineBreak hc)
  | returnAndFeed =>
    exact List.forall_mem_cons.2 ⟨by decide, List.forall_mem_singleton.2 (by decide)⟩

/-- A break is skipped as a whole. -/
theorem LineBreak.trimStart_eq {b : Text} (h : LineBreak b) : trimStart b = [] := by
  rw [← List.append_nil b, trimStart_append_of_blank h.isBlank, trimStart_nil]

/-- A line that is cut off has no break of its own, and ends with one break or with the text. -/
theorem unbroken_cutLines (t : Text) :
    ∀ l ∈ cutLines isLineBreak t, Unbroken l.1 ∧ (l.2 = [] ∨ LineBreak l.2) := by
  induction t with
  | nil => exact List.forall_mem_nil _
  | cons c t ih =>
    show ∀ l ∈ consLine isLineBreak c (cutLines isLineBreak t), _
    unfold consLine
    split
    · next hc =>
      split
      · -- the line feed that ends the empty line is joined
        next hl =>
        rw [hl] at ih
        exact List.forall_mem_cons.2 ⟨⟨List.forall_mem_nil _, .inr .returnAndFeed⟩,
          (List.forall_mem_cons.1 ih).2⟩
      · exact List.forall_mem_cons.2 ⟨⟨List.forall_mem_nil _, .inr (.char hc)⟩, ih⟩
    · next hc =>
      have hc := Bool.eq_false_iff.2 hc
      split
      · exact List.forall_mem_singleton.2 ⟨List.forall_mem_singleton.2 hc, .inl rfl⟩
      · next hl =>
        rw [hl] at ih
        obtain ⟨first, more⟩ := List.forall_mem_cons.1 ih
        exact List.forall_mem_cons.2 ⟨⟨first.1.cons hc, first.2⟩, more⟩

end Text

/-! ### Texts with and without a break -/

/-- The second text is the first, or the first with a line break after it. -/
def UpToBreak (t t' : Text) : Prop :=
  t' = t ∨ ∃ b, LineBreak b ∧ t' = t ++ b

namespace UpToBreak

theorem refl (t : Text) : UpToBreak t t :=
  .inl rfl

/-- A text that is blank as a whole is skipped with the break, any other keeps the break. -/
theorem trimStart_append {b : Text} (hb : LineBreak b) (t : Text) :
    UpToBreak (trimStart t) (trimStart (t ++ b)) := by
  rw [Text.trimStart_append, hb.trimStart_eq]
  split
  · next ht => exact .inl ht.symm
  · exact .inr ⟨b, hb, rfl⟩

end UpToBreak

theorem WordError.Alike.refl {S : Text → Text → Prop} (hS : ∀ t, S t t) (e : WordError) :
    WordError.Alike S e e := by
  cases e with
  | missingValue letter => exact .missingValue letter
  | invalidNumber letter rest => exact .invalidNumber letter (hS rest)

theorem Word.NextAlike.refl {S : Text → Text → Prop} {E : WordError → WordError → Prop}
    (hS : ∀ t, S t t) (hE : ∀ e, E e e) (d : Dialect) (t : Text) : Word.NextAlike d S E t t := by
  rcases hn : Word.next? d t with e | - | w
  · exact .error hn hn (hE e)
  · exact .none hn hn
  · exact .word hn hn ⟨rfl, rfl, hS w.rest⟩

/-- With a break after it a text begins with the same word, or is broken at the same letter, or
ends where it ended. -/
theorem nextAlike_append_break (d : Dialect) {b : Text} (hb : LineBreak b) (t : Text) :
    Word.NextAlike d UpToBreak (WordError.Alike UpToBreak) t (t ++ b) := by
  have stops : Stops isNumeralChar b := by
    cases hb with
    | char hc => exact stops_cons.2 (isNumeralChar_of_isBlank (isBlank_of_isLineBreak hc))
    | returnAndFeed => exact stops_cons.2 (by decide)
  refine nextAlike_append stops (Word.next?_of_end hb.trimStart_eq) (fun letter => ?_)
    (fun letter u => .invalidNumber letter (.inr ⟨b, hb, rfl⟩)) (UpToBreak.trimStart_append hb) t
  rw [hb.trimStart_eq]
  exact ⟨_, rfl, .missingValue letter⟩

/-- A line reads with its break as it reads without. -/
theorem readsAlike_upToBreak (d : Dialect) :
    ReadsAlike d UpToBreak (WordError.Alike UpToBreak) where
  next := by
    rintro t _ (rfl | ⟨b, hb, rfl⟩)
    · exact .refl .refl (.refl .refl) d _
    · exact nextAlike_append_break d hb t
  letter := by
    rintro _ _ (- | -) <;> rfl
  rest := by
    rintro _ _ (- | ⟨-, h⟩)
    · exact .refl _
    · exact h

/-- The lines of a text and the same lines with their breaks. -/
theorem upToBreak_lines (t : Text) : List.Forall₂ UpToBreak (lines t) (linesWithBreaks t) := by
  refine List.forall₂_map_left_iff.2 (List.forall₂_map_right_iff.2 (List.forall₂_same.2 ?_))
  intro l hl
  rcases (unbroken_cutLines t l hl).2 with hb | hb
  · exact .inl (by rw [hb, List.append_nil])
  · exact .inr ⟨l.2, hb, rfl⟩

end Toolpath
