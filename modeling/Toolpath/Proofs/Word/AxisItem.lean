/-
Toolpath/Proofs/Word/AxisItem.lean

The axes after a `G28`, as they are written: the letter of an axis, with a number or without, and
blanks in front of it.  A letter with a number is read as a word.  A bare letter is a broken word,
with whatever comes after it in the place of the number; it names its axis all the same, and the
reader goes on right behind it.  So the items are read one by one, in any mixture of the two kinds
(`axisNames_texts`).

A bare letter must not come before a number, which would be its own.  The blank in front of each
item keeps the items apart, and after the last one a letter or a mark comes, or nothing
(`EndsItems`).
-/
import Toolpath.Proofs.Word.Spaced

namespace Toolpath

open Text Numeral

/-! ### Items -/

theorem Axis.isAlpha_letter (i : Axis) : i.letter.isAlpha = true ∧ i.letter.toUpper = i.letter := by
  cases i <;> decide

/-- A word with the letter of an axis. -/
def axisWord (i : Axis) (n : NumeralText) : WrittenWord :=
  WrittenWord.spaced i.letter i.isAlpha_letter.1 n

/-- An axis as it is written behind blanks: its letter in either case, and a number if one likes. -/
structure AxisItem where
  before : Text
  letter : Char
  axis : Axis
  number : Text
  isBlank_before : ∀ c ∈ before, isBlank c = true
  before_ne_nil : before ≠ []
  isAlpha_letter : letter.isAlpha = true
  toUpper_letter : letter.toUpper = axis.letter
  number_eq : number = [] ∨
    ∃ gap n, (∀ c ∈ gap, isBlank c = true) ∧ n ∈ language ∧ number = gap ++ n

namespace AxisItem

/-- A written word for an axis. -/
def ofWord (p : WrittenWord) (hp : p.before ≠ []) (i : Axis) (hi : p.letter.toUpper = i.letter) :
    AxisItem where
  before := p.before
  letter := p.letter
  axis := i
  number := p.gap ++ p.numeral
  isBlank_before := p.isBlank_before
  before_ne_nil := hp
  isAlpha_letter := p.isAlpha_letter
  toUpper_letter := hi
  number_eq := .inr ⟨p.gap, p.numeral, p.isBlank_gap, p.mem_numeral, rfl⟩

/-- The letter of an axis with a number, after one blank. -/
def spaced (i : Axis) (n : NumeralText) : AxisItem :=
  ofWord (axisWord i n) (List.cons_ne_nil _ _) i i.isAlpha_letter.2

@[simp] theorem axis_spaced (i : Axis) (n : NumeralText) : (spaced i n).axis = i := rfl

theorem number_spaced_ne_nil (i : Axis) (n : NumeralText) : (spaced i n).number ≠ [] := by
  intro h
  exact nil_not_mem_language (h ▸ n.2)

/-- The text of an item. -/
def text (x : AxisItem) : Text :=
  x.before ++ x.letter :: x.number

/-- The text of items, one after the other. -/
def texts (xs : List AxisItem) : Text :=
  xs.flatMap text

theorem texts_cons (x : AxisItem) (xs : List AxisItem) : texts (x :: xs) = x.text ++ texts xs :=
  List.flatMap_cons

/-- An item begins with a blank. -/
theorem stops_texts (xs : List AxisItem) {t : Text} (ht : Stops isNumeralChar t) :
    Stops isNumeralChar (texts xs ++ t) := by
  rcases xs with - | ⟨x, xs⟩
  · exact ht
  · obtain ⟨c, b, hb⟩ := List.exists_cons_of_ne_nil x.before_ne_nil
    rw [texts_cons, text, hb]
    exact stops_of_blank (x.isBlank_before c (by simp [hb])) _

theorem trimStart_text (x : AxisItem) (t : Text) :
    trimStart (x.text ++ t) = x.letter :: (x.number ++ t) := by
  rw [text, List.append_assoc, trimStart_append_of_blank x.isBlank_before]
  exact trimStart_cons_of_not_blank (begins_of_isAlpha x.isAlpha_letter).1 _

/-- Behind its blanks it begins with a letter, which is no number. -/
theorem not_mem_language_texts (xs : List AxisItem) {t : Text}
    (ht : ∀ p, p <+: trimStart t → p ∉ language) :
    ∀ p, p <+: trimStart (texts xs ++ t) → p ∉ language := by
  rcases xs with - | ⟨x, xs⟩
  · exact ht
  · intro p hp
    rw [texts_cons, List.append_assoc, trimStart_text] at hp
    exact Word.not_mem_language_of_letter (s := []) (Or.inl rfl) x.isAlpha_letter _ hp

/-- What comes first in the text of an item: a word for its axis, or a broken one. -/
theorem next?_text (x : AxisItem) {t : Text} (ht : Stops isNumeralChar t)
    (hb : x.number = [] → ∀ p, p <+: trimStart t → p ∉ language) :
    (∃ v, Word.next? {} (x.text ++ t) = .ok (some ⟨[x.axis.letter], v, trimStart t⟩)) ∨
      ∃ e, Word.next? {} (x.text ++ t) = .error e ∧ e.letter = [x.axis.letter] ∧
        e.rest = trimStart t := by
  obtain ⟨-, upper, begins⟩ := begins_of_isAlpha x.isAlpha_letter
  rw [x.toUpper_letter] at upper
  rcases x.number_eq with none | ⟨gap, n, hg, hn, number⟩
  · -- the letter is bare
    obtain ⟨e, he, letter, rest⟩ := Word.exists_ofLetter_error [x.axis.letter] (hb none)
    have first := x.trimStart_text t
    rw [none, List.nil_append] at first
    refine .inr ⟨e, ?_, letter, rest⟩
    rw [Word.next?_of_letter first begins, upper, he]
    rfl
  · let p : WrittenWord :=
      ⟨x.before, x.letter, gap, n, x.isBlank_before, x.isAlpha_letter, hg, hn⟩
    have word := next?_text_of_stops p ht
    have same : p.text = x.text := by rw [WrittenWord.text, text, number]
    rw [same, WrittenWord.wordBefore, show [p.letter.toUpper] = [x.axis.letter] from
      congrArg (fun c => [c]) x.toUpper_letter] at word
    exact .inl ⟨_, word⟩

/-- An item names its axis, and reading goes on with the text after it. -/
theorem axisNames_text (x : AxisItem) {t : Text} (ht : Stops isNumeralChar t)
    (hb : x.number = [] → ∀ p, p <+: trimStart t → p ∉ language) :
    Word.axisNames {} (trimStart (x.text ++ t))
      = (x.axis :: (Word.axisNames {} (trimStart t)).1,
          (Word.axisNames {} (trimStart t)).2) := by
  have named := Axis.ofLetter?_letter x.axis
  obtain ⟨v, word⟩ | ⟨e, error, letter, rest⟩ := x.next?_text ht hb
  · exact Word.axisNames_of_word ((next?_trimStart _).trans word) named
  · rw [Word.axisNames_of_error ((next?_trimStart _).trans error) (letter ▸ named), rest]

/-- Items are read one by one, and then the axes that the text after them names. -/
theorem axisNames_texts (xs : List AxisItem) {t : Text} (ht : Stops isNumeralChar t)
    (hb : ∀ x ∈ xs, x.number = [] → ∀ p, p <+: trimStart t → p ∉ language) :
    Word.axisNames {} (trimStart (texts xs ++ t))
      = (xs.map axis ++ (Word.axisNames {} (trimStart t)).1,
          (Word.axisNames {} (trimStart t)).2) := by
  induction xs with
  | nil => rfl
  | cons x xs ih =>
    obtain ⟨bare, hb'⟩ := List.forall_mem_cons.1 hb
    -- behind a bare letter comes the next item, or what comes after all of them
    have apart := x.axisNames_text (stops_texts xs ht)
      fun none => not_mem_language_texts xs (bare none)
    rw [texts_cons, List.append_assoc, apart, ih hb']
    rfl

end AxisItem

/-! ### After the items -/

/-- The letters of the axes are those that name one. -/
theorem Axis.ofLetter?_toUpper {c : Char} (hc : c.isAlpha = true) {i : Axis} :
    ofLetter? [c.toUpper] = some i ↔ c.toUpper = i.letter := by
  constructor
  · intro h
    have upper : Text.upper [c.toUpper] = [c.toUpper] :=
      Word.forall_isAlpha (P := fun c => Text.upper [c.toUpper] = [c.toUpper]) (by decide) hc
    exact List.singleton_inj.1 (upper.symm.trans (upper_eq_of_ofLetter? h))
  · intro h
    rw [h, ofLetter?_letter]

/-- What may stand after the items: the tail of the line, or blanks and a letter that is not that of
an axis, with whatever text. -/
inductive EndsItems : Text → Prop
  | tail {t : Text} (ht : LineTail t) : EndsItems t
  | letter {b : Text} {c : Char} (u : Text) (hb : ∀ c ∈ b, isBlank c = true) (hne : b ≠ [])
      (hc : c.isAlpha = true) (hi : ∀ i : Axis, c.toUpper ≠ i.letter) : EndsItems (b ++ c :: u)

namespace EndsItems

variable {t : Text} (h : EndsItems t)

include h

theorem stops : Stops isNumeralChar t := by
  cases h with
  | tail ht => exact ht.stops
  | @letter b c u hb hne =>
    obtain ⟨c', b', rfl⟩ := List.exists_cons_of_ne_nil hne
    exact stops_of_blank (hb c' List.mem_cons_self) _

/-- No number comes first that could belong to a bare letter before it. -/
theorem not_mem_language : ∀ p, p <+: trimStart t → p ∉ language := by
  intro p hp
  cases h with
  | tail ht => exact not_mem_language_of_stops ht.stops_trimStart hp
  | letter u hb hne hc =>
    rw [trimStart_append_of_blank hb, trimStart_cons_of_not_blank (begins_of_isAlpha hc).1] at hp
    exact Word.not_mem_language_of_letter (s := []) (Or.inl rfl) hc u hp

/-- No axis is named there. -/
theorem axisNames_eq : Word.axisNames {} (trimStart t) = ([], trimStart t) := by
  cases h with
  | tail ht =>
    have stop := (next?_trimStart t).trans ht.next?_eq_none
    apply Word.axisNames_of_stop
    · intro w hw
      cases stop.symm.trans hw
    · intro e he
      cases stop.symm.trans he
  | @letter b c u hb hne hc hi =>
    obtain ⟨notBlank, upper, -⟩ := begins_of_isAlpha hc
    have noAxis : Axis.ofLetter? (upperChar c) = none := by
      rw [upper]
      exact Option.eq_none_iff_forall_ne_some.2
        fun i named => hi i ((Axis.ofLetter?_toUpper hc).1 named)
    have first : trimStart (trimStart (b ++ c :: u)) = c :: u := by
      rw [trimStart_trimStart, trimStart_append_of_blank hb,
        trimStart_cons_of_not_blank notBlank]
    apply Word.axisNames_of_stop
    · intro w hw
      rw [Word.letter_of_next? first hw, noAxis]
    · intro e he
      rw [Word.letter_of_next?_error first he, noAxis]

end EndsItems

end Toolpath
