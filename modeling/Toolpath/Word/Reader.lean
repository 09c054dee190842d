/-
Toolpath/Word/Reader.lean

Reading words off the front of a line.  `Word.next?` reads one: it skips blanks, stops at
the end of the line, at a comment and at a checksum, and otherwise takes a letter and
the longest numeral after it.  Reading is pure, so looking ahead is reading without
keeping the rest.

What is left after a word is an end of the text, shorter by at least the letter and one
character of the number (`length_rest_of_next?`); after a broken word it is shorter by at
least the letter (`length_rest_of_next?_error`).  These two bounds are why every reader of
lines comes to an end.
-/
import Toolpath.Dialect
import Toolpath.Number.Numeral
import Toolpath.Word.Basic

namespace Toolpath

open Text

namespace Word

/-! ### One word -/

/-- The text in which the number of a word is looked for.  A number ends before an `x`
that is its second character, which would make it a hexadecimal one. -/
def numberSpan : Text → Text
  | c :: x :: t => if x = 'x' ∨ x = 'X' then [c] else c :: x :: t
  | t => t

/-- The word of a letter whose number is to begin at the front of `t`. -/
def ofLetter (letter t : Text) : Except WordError Word :=
  if t = [] then
    .error (.missingValue letter)
  else
    match Numeral.split? (numberSpan t) with
    | none => .error (.invalidNumber letter t)
    | some (numeral, _) =>
      .ok ⟨letter, Numeral.value numeral, trimStart (t.drop numeral.length)⟩

/-- The first word of a text.  There is none at the end of the text, at a character
that ends the line, and at a checksum. -/
def next? (d : Dialect) (t : Text) : Except WordError (Option Word) :=
  match trimStart t with
  | [] => .ok none
  | c :: after =>
    if c ∈ d.lineEnds ∨ upperChar c = d.checksumMark then
      .ok none
    else
      (ofLetter (upperChar c) (trimStart after)).map some

/-! ### What is left after a word -/

theorem length_numberSpan_le (t : Text) : (numberSpan t).length ≤ t.length := by
  unfold numberSpan
  split
  · split
    · exact Nat.le_add_left 1 _
    · exact Nat.le_refl _
  · exact Nat.le_refl _

theorem ofLetter_ok {letter t : Text} {w : Word} (h : ofLetter letter t = .ok w) :
    w.rest <:+ t ∧ w.rest.length + 1 ≤ t.length := by
  rw [ofLetter] at h
  split at h
  · cases h
  · split at h
    · cases h
    · next numeral r hs =>
        cases h
        have hp : numeral.length ≤ t.length := by
          have := length_numberSpan_le t
          rw [← Numeral.append_of_split? hs, List.length_append] at this
          omega
        have hn := List.length_pos_iff.2 (Numeral.ne_nil_of_split? hs)
        have hr := length_trimStart_le (t.drop numeral.length)
        rw [List.length_drop] at hr
        refine ⟨(trimStart_suffix _).trans (List.drop_suffix _ _), ?_⟩
        show (trimStart (t.drop numeral.length)).length + 1 ≤ t.length
        omega

theorem ofLetter_error {letter t : Text} {e : WordError} (h : ofLetter letter t = .error e) :
    e.rest <:+ t := by
  rw [ofLetter] at h
  split at h
  · cases h
    exact List.nil_suffix
  · split at h
    · cases h
      exact List.suffix_refl _
    · cases h

/-- The text after a word is an end of the text, at least two characters shorter. -/
theorem rest_of_next? {d : Dialect} {t : Text} {w : Word} (h : next? d t = .ok (some w)) :
    w.rest <:+ t ∧ w.rest.length + 2 ≤ t.length := by
  have ht := trimStart_suffix t
  rw [next?] at h
  split at h
  · -- the end of the text
    cases h
  · next c after hc =>
      rw [hc] at ht
      split at h
      · -- a character that ends the line
        cases h
      · rcases hw : ofLetter (upperChar c) (trimStart after) with e | w'
        · rw [hw] at h
          cases h
        · rw [hw] at h
          cases h
          obtain ⟨hs, hl⟩ := ofLetter_ok hw
          have ha := length_trimStart_le after
          have hlen := ht.length_le
          rw [List.length_cons] at hlen
          refine ⟨?_, ?_⟩
          · exact (hs.trans (trimStart_suffix after)).trans ((List.suffix_cons c after).trans ht)
          · omega

theorem length_rest_of_next? {d : Dialect} {t : Text} {w : Word} (h : next? d t = .ok (some w)) :
    w.rest.length < t.length := by
  have := (rest_of_next? h).2
  omega

/-- The text after a broken word is an end of the text, at least one character shorter. -/
theorem rest_of_next?_error {d : Dialect} {t : Text} {e : WordError} (h : next? d t = .error e) :
    e.rest <:+ t ∧ e.rest.length + 1 ≤ t.length := by
  have ht := trimStart_suffix t
  rw [next?] at h
  split at h
  · -- the end of the text
    cases h
  · next c after hc =>
      rw [hc] at ht
      split at h
      · -- a character that ends the line
        cases h
      · rcases hw : ofLetter (upperChar c) (trimStart after) with e' | w
        · rw [hw] at h
          cases h
          have hs := ofLetter_error hw
          have ha := hs.trans (trimStart_suffix after)
          have hlen := ht.length_le
          have hal := ha.length_le
          rw [List.length_cons] at hlen
          exact ⟨ha.trans ((List.suffix_cons c after).trans ht), by omega⟩
        · rw [hw] at h
          cases h

theorem length_rest_of_next?_error {d : Dialect} {t : Text} {e : WordError}
    (h : next? d t = .error e) : e.rest.length < t.length := by
  have := (rest_of_next?_error h).2
  omega

/-! ### Several words -/

/-- All words of a text, and the error that ended the reading, if one did. -/
def readAll (d : Dialect) (t : Text) : List Word × Option WordError :=
  match _h : next? d t with
  | .ok none => ([], none)
  | .error e => ([], some e)
  | .ok (some w) =>
    let more := readAll d w.rest
    (w :: more.1, more.2)
termination_by t.length
decreasing_by exact length_rest_of_next? ‹_›

/-- The words at the front of a text as far as they all satisfy `p`, and the text from
the first one that does not.  A broken word is left where it is. -/
def span (d : Dialect) (p : Word → Bool) (t : Text) : List Word × Text :=
  match _h : next? d t with
  | .ok (some w) =>
    if p w then
      let more := span d p w.rest
      (w :: more.1, more.2)
    else
      ([], t)
  | _ => ([], t)
termination_by t.length
decreasing_by exact length_rest_of_next? ‹_›

/-- The number of a word with the letter `S` at the front of a text, and the text after
that word. -/
def setting? (d : Dialect) (t : Text) : Option (Float × Text) :=
  match next? d t with
  | .ok (some w) => if w.letter = ['S'] then some (w.value, w.rest) else none
  | _ => none

/-- The axes named at the front of a text, in order, and the text after them.  A number
after the letter makes no difference, nor does its absence. -/
def axisNames (d : Dialect) (t : Text) : List Axis × Text :=
  match _h : next? d t with
  | .ok none => ([], t)
  | .ok (some w) =>
    match Axis.ofLetter? w.letter with
    | none => ([], t)
    | some i =>
      let more := axisNames d w.rest
      (i :: more.1, more.2)
  | .error e =>
    match Axis.ofLetter? e.letter with
    | none => ([], t)
    | some i =>
      let more := axisNames d e.rest
      (i :: more.1, more.2)
termination_by t.length
decreasing_by
  · exact length_rest_of_next? ‹_›
  · exact length_rest_of_next?_error ‹_›

/-! ### The first word of several -/

theorem readAll_of_none {d : Dialect} {t : Text} (h : next? d t = .ok none) :
    readAll d t = ([], none) := by
  rw [readAll]
  split
  · rfl
  · next h' => exact nomatch h.symm.trans h'
  · next h' => exact nomatch h.symm.trans h'

theorem readAll_of_error {d : Dialect} {t : Text} {e : WordError} (h : next? d t = .error e) :
    readAll d t = ([], some e) := by
  rw [readAll]
  split
  · next h' => exact nomatch h.symm.trans h'
  · next e' h' =>
      obtain rfl : e = e' := Except.error.inj (h.symm.trans h')
      rfl
  · next h' => exact nomatch h.symm.trans h'

theorem readAll_of_word {d : Dialect} {t : Text} {w : Word} (h : next? d t = .ok (some w)) :
    readAll d t = (w :: (readAll d w.rest).1, (readAll d w.rest).2) := by
  rw [readAll]
  split
  · next h' => exact nomatch h.symm.trans h'
  · next h' => exact nomatch h.symm.trans h'
  · next w' h' =>
      obtain rfl : w = w' := Option.some.inj (Except.ok.inj (h.symm.trans h'))
      rfl

theorem span_of_word {d : Dialect} {p : Word → Bool} {t : Text} {w : Word}
    (h : next? d t = .ok (some w)) (hp : p w = true) :
    span d p t = (w :: (span d p w.rest).1, (span d p w.rest).2) := by
  rw [span]
  split
  · next w' h' =>
      obtain rfl : w = w' := Option.some.inj (Except.ok.inj (h.symm.trans h'))
      exact if_pos hp
  · next h' => exact absurd h (h' w)

/-- Nothing is taken where the text does not begin with a word that satisfies `p`. -/
theorem span_of_stop {d : Dialect} {p : Word → Bool} {t : Text}
    (h : ∀ w, next? d t = .ok (some w) → p w = false) : span d p t = ([], t) := by
  rw [span]
  split
  · next w hw => rw [if_neg (by simp [h w hw])]
  · rfl

theorem setting?_of_word {d : Dialect} {t : Text} {w : Word} (h : next? d t = .ok (some w)) :
    setting? d t = if w.letter = ['S'] then some (w.value, w.rest) else none := by
  rw [setting?, h]

theorem setting?_of_stop {d : Dialect} {t : Text}
    (h : ∀ w, next? d t = .ok (some w) → w.letter ≠ ['S']) : setting? d t = none := by
  rw [setting?]
  split
  · next w hw => exact if_neg (h w hw)
  · rfl

theorem axisNames_of_word {d : Dialect} {t : Text} {w : Word} {i : Axis}
    (h : next? d t = .ok (some w)) (hi : Axis.ofLetter? w.letter = some i) :
    axisNames d t = (i :: (axisNames d w.rest).1, (axisNames d w.rest).2) := by
  rw [axisNames]
  split
  · next h' => exact nomatch h.symm.trans h'
  · next w' h' =>
      obtain rfl : w = w' := Option.some.inj (Except.ok.inj (h.symm.trans h'))
      simp [hi]
  · next h' => exact nomatch h.symm.trans h'

theorem axisNames_of_error {d : Dialect} {t : Text} {e : WordError} {i : Axis}
    (h : next? d t = .error e) (hi : Axis.ofLetter? e.letter = some i) :
    axisNames d t = (i :: (axisNames d e.rest).1, (axisNames d e.rest).2) := by
  rw [axisNames]
  split
  · next h' => exact nomatch h.symm.trans h'
  · next h' => exact nomatch h.symm.trans h'
  · next e' h' =>
      obtain rfl : e = e' := Except.error.inj (h.symm.trans h')
      simp [hi]

/-- No axis is named where the text begins neither with a word for an axis nor with the bare
letter of one. -/
theorem axisNames_of_stop {d : Dialect} {t : Text}
    (hw : ∀ w, next? d t = .ok (some w) → Axis.ofLetter? w.letter = none)
    (he : ∀ e, next? d t = .error e → Axis.ofLetter? e.letter = none) :
    axisNames d t = ([], t) := by
  rw [axisNames]
  split
  · rfl
  · next w h => simp [hw w h]
  · next e h => simp [he e h]

/-! ### What is left after several words -/

/-- The text after the broken word that ended the reading is shorter than the whole. -/
theorem length_rest_of_readAll {d : Dialect} {t : Text} {e : WordError}
    (h : (readAll d t).2 = some e) : e.rest.length < t.length := by
  rcases hn : next? d t with e' | - | w
  · rw [readAll_of_error hn] at h
    obtain rfl : e' = e := Option.some.inj h
    exact length_rest_of_next?_error hn
  · rw [readAll_of_none hn] at h
    cases h
  · rw [readAll_of_word hn] at h
    exact Nat.lt_trans (length_rest_of_readAll h) (length_rest_of_next? hn)
termination_by t.length
decreasing_by exact length_rest_of_next? ‹_›

/-- The text after the words taken by `span` is an end of the text. -/
theorem span_suffix (d : Dialect) (p : Word → Bool) (t : Text) : (span d p t).2 <:+ t := by
  rw [span]
  split
  · next w h =>
      split
      · -- the word is taken, and more after it
        exact (span_suffix d p w.rest).trans (rest_of_next? h).1
      · exact List.suffix_refl t
  · exact List.suffix_refl t
termination_by t.length
decreasing_by exact length_rest_of_next? ‹_›

/-- The text after a setting is an end of the text. -/
theorem setting?_suffix {d : Dialect} {t r : Text} {v : Float} (h : setting? d t = some (v, r)) :
    r <:+ t := by
  rw [setting?] at h
  split at h
  · next w hw =>
      split at h
      · cases h
        exact (rest_of_next? hw).1
      · cases h
  · cases h

/-- The text after the named axes is an end of the text. -/
theorem axisNames_suffix (d : Dialect) (t : Text) : (axisNames d t).2 <:+ t := by
  rw [axisNames]
  split
  · exact List.suffix_refl t
  · next w h =>
      split
      · exact List.suffix_refl t
      · exact (axisNames_suffix d w.rest).trans (rest_of_next? h).1
  · next e h =>
      split
      · exact List.suffix_refl t
      · exact (axisNames_suffix d e.rest).trans (rest_of_next?_error h).1
termination_by t.length
decreasing_by
  · exact length_rest_of_next? ‹_›
  · exact length_rest_of_next?_error ‹_›

end Word

end Toolpath
