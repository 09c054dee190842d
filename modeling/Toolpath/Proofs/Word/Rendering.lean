/-
Toolpath/Proofs/Word/Rendering.lean

Words that are written one after the other, with blanks where one likes or with none at all, are
read back as they were written.  What could go wrong is that a numeral goes on in the text after
it.  A numeral is prolonged by a digit, by the point and by an exponent only, and the words after
it begin with a letter; so the one case is a word with the letter `E` whose number can be the
exponent of the number before (`Fuses`).

Where no word fuses with the one before, all words are read back; where the first one does, the
two are read as one word, and the words before it as they were written (`readings_text`).
-/
import Mathlib.Data.List.Chain
import Toolpath.Proofs.Word.Reading

namespace Toolpath

open Text Numeral

/-! ### Written words -/

/-- A word as it is written: a letter and a numeral, each after blanks if one likes. -/
structure WrittenWord where
  before : Text
  letter : Char
  gap : Text
  numeral : Text
  isBlank_before : ∀ c ∈ before, isBlank c = true
  isAlpha_letter : letter.isAlpha = true
  isBlank_gap : ∀ c ∈ gap, isBlank c = true
  mem_numeral : numeral ∈ language

/-- What may stand after the last word: blanks, and then nothing, or a character that ends the line
and whatever text. -/
inductive LineTail : Text → Prop
  | blanks {b : Text} (hb : ∀ c ∈ b, isBlank c = true) : LineTail b
  | mark {b t : Text} {c : Char} (hb : ∀ c ∈ b, isBlank c = true) (hc : c ∈ [';', '%', '*']) :
      LineTail (b ++ c :: t)

namespace WrittenWord

/-- The text of a written word. -/
def text (p : WrittenWord) : Text :=
  p.before ++ p.letter :: (p.gap ++ p.numeral)

/-- The text of written words, one after the other. -/
def texts (ps : List WrittenWord) : Text :=
  ps.flatMap text

@[simp] theorem texts_cons (p : WrittenWord) (ps : List WrittenWord) :
    texts (p :: ps) = p.text ++ texts ps :=
  List.flatMap_cons

@[simp] theorem texts_append (ps qs : List WrittenWord) :
    texts (ps ++ qs) = texts ps ++ texts qs :=
  List.flatMap_append

/-- What a written word stands for: its letter in upper case, and the value of its numeral. -/
def reading (p : WrittenWord) : Text × Float :=
  ([p.letter.toUpper], value p.numeral)

/-- A word that is written without blanks. -/
def bare (letter : Char) (numeral : Text) (hl : letter.isAlpha = true) (hn : numeral ∈ language) :
    WrittenWord :=
  ⟨[], letter, [], numeral, List.forall_mem_nil _, hl, List.forall_mem_nil _, hn⟩

/-- The number of `q` can be the exponent of the number of `p`: `q` is an `E` with no blanks
around it and a number that begins with a digit, after a sign or without, and `p` has no exponent
of its own. -/
structure Fuses (p q : WrittenWord) : Prop where
  letter : isExponentMark q.letter = true
  before : q.before = []
  gap : q.gap = []
  noExponent : ∀ c ∈ p.numeral, isExponentMark c = false
  digits : ∃ s ∈ optional sign, ∃ c t, isDigit c = true ∧ q.numeral = s ++ c :: t

end WrittenWord

/-- The letters and values of the words of a text, and the error that ended the reading. -/
def readings (t : Text) : List (Text × Float) × Option WordError :=
  ((Word.readAll {} t).1.map fun w => (w.letter, w.value), (Word.readAll {} t).2)

open WrittenWord

/-! ### Characters -/

/-- No blank occurs in a numeral. -/
theorem isNumeralChar_of_isBlank {c : Char} (h : isBlank c = true) : isNumeralChar c = false := by
  -- the ranges of the blanks and those of the digits do not meet
  have apart : ∀ r ∈ blankRanges, ∀ z ∈ digitZeros, r.2 < z ∨ z + 10 ≤ r.1 := by decide
  obtain ⟨r, hr, hc⟩ := List.any_eq_true.1 h
  simp only [Bool.and_eq_true, decide_eq_true_eq] at hc
  have noDigit : isDigit c = false := by
    apply Bool.eq_false_iff.2
    intro hd
    obtain ⟨n, hn⟩ := Option.isSome_iff_exists.1 hd
    obtain ⟨z, hz, -⟩ := Option.map_eq_some_iff.1 hn
    have hcz := List.find?_some hz
    simp only [Bool.and_eq_true, decide_eq_true_eq] at hcz
    have := apart r hr z (List.mem_of_find?_eq_some hz)
    omega
  apply Bool.eq_false_iff.2
  intro hn
  simp only [isNumeralChar, noDigit, isSign, isExponentMark, Bool.false_or, Bool.or_eq_true,
    beq_iff_eq] at hn
  rcases hn with ((rfl | rfl) | rfl) | (rfl | rfl) <;> exact absurd h (by decide)

/-- No numeral begins blank. -/
theorem trimStart_of_mem_language {n : Text} (hn : n ∈ language) (t : Text) :
    trimStart (n ++ t) = n ++ t := by
  obtain ⟨c, u, rfl⟩ := List.exists_cons_of_ne_nil fun h => nil_not_mem_language (h ▸ hn)
  refine trimStart_cons_of_not_blank (Bool.eq_false_iff.2 fun hb => ?_) _
  have char := isNumeralChar_of_mem_language hn (c := c) List.mem_cons_self
  exact absurd char (Bool.eq_false_iff.1 (isNumeralChar_of_isBlank hb))

theorem trimStart_append_of_blank {b : Text} (hb : ∀ c ∈ b, isBlank c = true) (t : Text) :
    trimStart (b ++ t) = trimStart t :=
  List.dropWhile_append_of_pos hb

/-- A letter begins a word. -/
theorem begins_of_isAlpha {c : Char} (hc : c.isAlpha = true) :
    isBlank c = false ∧ upperChar c = [c.toUpper] ∧ ¬Word.EndsLine {} c := by
  have facts : c.toNat < 128 ∧ isBlank c = false ∧ c ∉ [';', '%'] ∧ [c.toUpper] ≠ ['*'] :=
    Word.forall_isAlpha
      (P := fun c => c.toNat < 128 ∧ isBlank c = false ∧ c ∉ [';', '%'] ∧ [c.toUpper] ≠ ['*'])
      (by decide) hc
  have upper := upperChar_of_ascii facts.1
  refine ⟨facts.2.1, upper, ?_⟩
  rintro (h | h)
  · exact facts.2.2.1 h
  · exact facts.2.2.2 (upper.symm.trans h)

/-- A mark ends the line, and no numeral has it. -/
theorem ends_of_mem_marks {c : Char} (hc : c ∈ [';', '%', '*']) :
    isBlank c = false ∧ isNumeralChar c = false ∧ Word.EndsLine {} c := by
  rcases (by simpa using hc : c = ';' ∨ c = '%' ∨ c = '*') with rfl | rfl | rfl
  · exact ⟨by decide, by decide, Or.inl (by simp)⟩
  · exact ⟨by decide, by decide, Or.inl (by simp)⟩
  · exact ⟨by decide, by decide, Or.inr (by decide)⟩

/-! ### Where a numeral ends -/

/-- No mantissa goes on in the text. -/
structure Halts (t : Text) : Prop where
  digit : Stops isDigit t
  point : Stops (· == '.') t

/-- A character of no numeral ends every numeral. -/
theorem halts_of_not_isNumeralChar {c : Char} (h : isNumeralChar c = false) (t : Text) :
    Halts (c :: t) ∧ Stops isExponentMark (c :: t) ∧ Stops isSign (c :: t) := by
  simp only [isNumeralChar, Bool.or_eq_false_iff] at h
  obtain ⟨⟨⟨hd, hs⟩, hp⟩, hx⟩ := h
  exact ⟨⟨stops_cons.2 hd, stops_cons.2 hp⟩, stops_cons.2 hx, stops_cons.2 hs⟩

/-- A numeral is read as it is where no mantissa goes on, and no exponent comes that it could
take. -/
theorem split?_numeral {n t : Text} (hn : n ∈ language) (ht : Halts t)
    (hx : (∀ c ∈ n, isExponentMark c = false) → splitExponent t = ([], t)) :
    split? (n ++ t) = some (n, t) := by
  obtain ⟨s, m, x, hs, hm, h, rfl⟩ := mem_language.1 hn
  rcases h with rfl | h
  · -- without an exponent of its own it might take one
    have unmarked : ∀ c ∈ s ++ m ++ [], isExponentMark c = false := by
      intro c hc
      rw [List.append_nil] at hc
      rcases List.mem_append.1 hc with hc | hc
      · exact not_isExponentMark_of_optional_sign hs hc
      · exact not_isExponentMark_of_mem_mantissa hm hc
    rw [List.append_nil, split?_append hs hm ht.digit ht.point, hx unmarked, List.append_nil]
  · rw [split?_append_of_exponent hs hm h, splitDigits_of_stops ht.digit, List.append_nil]

/-- A numeral without an exponent takes one that comes after it. -/
theorem split?_numeral_append_exponent {n x t : Text} (hn : n ∈ language)
    (hne : ∀ c ∈ n, isExponentMark c = false) (hx : x ∈ exponent) (ht : Stops isDigit t) :
    split? (n ++ (x ++ t)) = some (n ++ x, t) := by
  obtain ⟨s, m, x', hs, hm, h, rfl⟩ := mem_language.1 hn
  rcases h with rfl | h
  · have found := split?_append_of_exponent hs hm hx t
    rw [splitDigits_of_stops ht, List.append_nil, List.append_assoc _ x t] at found
    rwa [List.append_nil]
  · obtain ⟨c, s', ds, hc, -, -, -, rfl⟩ := mem_exponent.1 h
    exact absurd hc (Bool.eq_false_iff.1 (hne c (by simp)))

namespace WrittenWord

variable (p q : WrittenWord)

/-- A written word begins with a blank or with its letter. -/
theorem halts_text (t : Text) : Halts (p.text ++ t) := by
  rcases hb : p.before with - | ⟨c, b⟩
  · obtain ⟨-, hd, hp⟩ := Word.not_begins_of_isAlpha p.isAlpha_letter
    rw [text, hb]
    exact ⟨stops_cons.2 hd, stops_cons.2 hp⟩
  · have blank := p.isBlank_before c (by simp [hb])
    rw [text, hb]
    exact (halts_of_not_isNumeralChar (isNumeralChar_of_isBlank blank) _).1

/-- What comes after a mark that is no exponent, in a word that does not fuse with a number before
it. -/
theorem splitExponent_text {p q : WrittenWord} (h : ¬Fuses p q)
    (hp : ∀ c ∈ p.numeral, isExponentMark c = false) (t : Text) :
    splitExponent (q.text ++ t) = ([], q.text ++ t) := by
  rcases hb : q.before with - | ⟨c, b⟩
  · by_cases hl : isExponentMark q.letter = true
    · rcases hg : q.gap with - | ⟨c, g⟩
      · -- the number after the mark does not begin with a digit
        obtain ⟨s, m, x, hs, hm, -, hn⟩ := mem_language.1 q.mem_numeral
        obtain ⟨c, m', rfl⟩ := List.exists_cons_of_ne_nil fun h => nil_not_mem_mantissa (h ▸ hm)
        have noDigit : isDigit c = false := by
          refine Bool.eq_false_iff.2 fun hc => h ⟨hl, hb, hg, hp, s, hs, c, m' ++ x, hc, ?_⟩
          rw [hn, List.append_assoc]
          rfl
        have none := splitExponent_of_no_digit q.letter hs
          (stops_isSign_of_mantissa hm (x ++ t)) (stops_cons.2 noDigit)
        rw [text, hb, hg, hn]
        simpa using none
      · -- a blank comes after the mark
        have blank := q.isBlank_gap c (by simp [hg])
        have stops := halts_of_not_isNumeralChar (isNumeralChar_of_isBlank blank)
          (g ++ q.numeral ++ t)
        have none := splitExponent_of_no_digit q.letter (Or.inl rfl) stops.2.2 stops.1.digit
        rw [text, hb, hg]
        simpa using none
    · rw [text, hb]
      exact splitExponent_of_stops (stops_cons.2 (Bool.eq_false_iff.2 hl))
  · have blank := q.isBlank_before c (by simp [hb])
    rw [text, hb]
    exact splitExponent_of_stops
      (halts_of_not_isNumeralChar (isNumeralChar_of_isBlank blank) _).2.1

end WrittenWord

/-- The tail of a line prolongs no numeral. -/
theorem LineTail.halts {t : Text} (ht : LineTail t) : Halts t ∧ Stops isExponentMark t := by
  have blank : ∀ {c : Char} (u : Text), isBlank c = true →
      Halts (c :: u) ∧ Stops isExponentMark (c :: u) := by
    intro c u hc
    have stops := halts_of_not_isNumeralChar (isNumeralChar_of_isBlank hc) u
    exact ⟨stops.1, stops.2.1⟩
  cases ht with
  | blanks hb =>
    rcases t with - | ⟨c, t⟩
    · exact ⟨⟨stops_nil _, stops_nil _⟩, stops_nil _⟩
    · exact blank t (hb c List.mem_cons_self)
  | @mark b u c hb hc =>
    rcases b with - | ⟨c', b⟩
    · have stops := halts_of_not_isNumeralChar (ends_of_mem_marks hc).2.1 u
      exact ⟨stops.1, stops.2.1⟩
    · exact blank _ (hb c' List.mem_cons_self)

/-! ### Reading what was written -/

/-- Blanks at the front make no difference. -/
theorem next?_trimStart (t : Text) : Word.next? {} (trimStart t) = Word.next? {} t := by
  rw [Word.next?, Word.next?, trimStart_trimStart]

theorem readings_trimStart (t : Text) : readings (trimStart t) = readings t := by
  have same := next?_trimStart t
  rw [readings, readings]
  rcases hn : Word.next? {} t with e | - | w
  · rw [Word.readAll_of_error hn, Word.readAll_of_error (same.trans hn)]
  · rw [Word.readAll_of_none hn, Word.readAll_of_none (same.trans hn)]
  · rw [Word.readAll_of_word hn, Word.readAll_of_word (same.trans hn)]

/-- No word is read in the tail of a line. -/
theorem LineTail.next?_eq_none {t : Text} (ht : LineTail t) : Word.next? {} t = .ok none := by
  cases ht with
  | blanks hb => exact Word.next?_of_end (List.dropWhile_eq_nil_iff.2 hb)
  | @mark b u c hb hc =>
    have ends := ends_of_mem_marks hc
    have first : trimStart (b ++ c :: u) = c :: u := by
      rw [trimStart_append_of_blank hb, trimStart_cons_of_not_blank ends.1]
    exact Word.next?_of_mark first ends.2.2

theorem LineTail.readings_eq {t : Text} (ht : LineTail t) : readings t = ([], none) := by
  rw [readings, Word.readAll_of_none ht.next?_eq_none]
  rfl

/-- The first word is read with as much of a numeral as there is. -/
theorem next?_text_append (p : WrittenWord) {t n r : Text}
    (h : split? (p.numeral ++ t) = some (n, r)) :
    Word.next? {} (p.text ++ t) = .ok (some ⟨[p.letter.toUpper], value n, trimStart r⟩) := by
  obtain ⟨notBlank, upper, notEnd⟩ := begins_of_isAlpha p.isAlpha_letter
  -- the letter comes behind the blanks, and the numeral behind the blanks after it
  have first : trimStart (p.text ++ t) = p.letter :: (p.gap ++ (p.numeral ++ t)) := by
    rw [WrittenWord.text, List.append_assoc, trimStart_append_of_blank p.isBlank_before,
      List.cons_append, trimStart_cons_of_not_blank notBlank, List.append_assoc]
  have second : trimStart (p.gap ++ (p.numeral ++ t)) = p.numeral ++ t := by
    rw [trimStart_append_of_blank p.isBlank_gap, trimStart_of_mem_language p.mem_numeral]
  have rest : (p.numeral ++ t).drop n.length = r := by
    rw [← append_of_split? h, List.drop_left]
  rw [Word.next?_of_letter first notEnd, second,
    Word.ofLetter_of_longestPrefix _ (longestPrefix_of_split? h), rest, upper]
  rfl

/-- And after it the words of the text that the numeral leaves. -/
theorem readings_text_append (p : WrittenWord) {t n r : Text}
    (h : split? (p.numeral ++ t) = some (n, r)) :
    readings (p.text ++ t)
      = (([p.letter.toUpper], value n) :: (readings r).1, (readings r).2) := by
  rw [← readings_trimStart r, readings, Word.readAll_of_word (next?_text_append p h)]
  rfl

/-- Words of which none fuses with the one before are read as they were written, if the last numeral
ends where it was meant to. -/
theorem readings_texts_append {ps : List WrittenWord} {t : Text}
    (h : ps.IsChain fun p q => ¬p.Fuses q)
    (hl : ∀ p ∈ ps.getLast?, split? (p.numeral ++ t) = some (p.numeral, t)) :
    readings (WrittenWord.texts ps ++ t)
      = (ps.map WrittenWord.reading ++ (readings t).1, (readings t).2) := by
  induction ps with
  | nil => rfl
  | cons p ps ih =>
    have ends : split? (p.numeral ++ (texts ps ++ t)) = some (p.numeral, texts ps ++ t) := by
      rcases ps with - | ⟨q, qs⟩
      · exact hl p rfl
      · -- the next word does not prolong the numeral
        rw [texts_cons, List.append_assoc]
        exact split?_numeral p.mem_numeral (q.halts_text _)
          fun hp => splitExponent_text (List.isChain_cons_cons.1 h).1 hp _
    have last : ∀ q ∈ ps.getLast?, split? (q.numeral ++ t) = some (q.numeral, t) := by
      intro q hq
      obtain ⟨r, rs, rfl⟩ := List.exists_cons_of_ne_nil fun h : ps = [] => by simp [h] at hq
      exact hl q (by simpa using hq)
    rw [texts_cons, List.append_assoc, readings_text_append p ends, ih h.tail last]
    rfl

/-- What comes after a word is the next one, or the tail of the line. -/
theorem halts_texts (ps : List WrittenWord) {t : Text} (ht : LineTail t) :
    Halts (texts ps ++ t) := by
  rcases ps with - | ⟨q, qs⟩
  · exact ht.halts.1
  · rw [texts_cons, List.append_assoc]
    exact q.halts_text _

/-- A word that fuses with the one before gives it an exponent. -/
theorem split?_of_fuses {p q : WrittenWord} (h : p.Fuses q) {s ds rest t : Text}
    (hq : q.numeral = s ++ ds ++ rest) (hs : s ∈ optional sign) (hne : ds ≠ [])
    (hd : ∀ c ∈ ds, isDigit c = true) (hr : Stops isDigit (rest ++ t)) :
    split? (p.numeral ++ (q.text ++ t))
      = some (p.numeral ++ q.letter :: (s ++ ds), rest ++ t) := by
  have taken : q.letter :: s ++ ds ∈ exponent :=
    mem_exponent.2 ⟨q.letter, s, ds, h.letter, hs, hne, hd, rfl⟩
  have found := split?_numeral_append_exponent p.mem_numeral h.noExponent taken hr
  have written : q.text ++ t = (q.letter :: s ++ ds) ++ (rest ++ t) := by
    rw [text, h.before, h.gap, hq]
    simp
  rw [written]
  exact found

/-! ### The lines -/

/-- A line of written words is read as it was written if no word fuses with the one before.  Where
the first one does, the words before the two are read as they were written, and the two as one word:
that of the first letter, and of the first numeral with the second letter, the sign and the digits
after it as its exponent. -/
theorem readings_line (ps : List WrittenWord) {t : Text} (ht : LineTail t) :
    ((ps.IsChain fun p q => ¬p.Fuses q) → readings (texts ps ++ t) = (ps.map reading, none)) ∧
      ∀ before p q after s ds rest, ps = before ++ p :: q :: after →
        ((before ++ [p]).IsChain fun p q => ¬p.Fuses q) → p.Fuses q →
        q.numeral = s ++ ds ++ rest → s ∈ optional sign → ds ≠ [] →
        (∀ c ∈ ds, isDigit c = true) → Stops isDigit rest →
        readings (texts ps ++ t)
          = (before.map reading ++ ([p.letter.toUpper], value (p.numeral ++ q.letter :: (s ++ ds)))
              :: (readings (rest ++ (texts after ++ t))).1,
            (readings (rest ++ (texts after ++ t))).2) := by
  constructor
  · intro h
    have last : ∀ p ∈ ps.getLast?, split? (p.numeral ++ t) = some (p.numeral, t) := fun p _ =>
      split?_numeral p.mem_numeral ht.halts.1 fun _ => splitExponent_of_stops ht.halts.2
    rw [readings_texts_append h last, ht.readings_eq, List.append_nil]
  · rintro before p q after s ds rest rfl h hpq hq hs hne hd hr
    -- the exponent ends where the digits of the second number end
    have halt : Stops isDigit (rest ++ (texts after ++ t)) := by
      rcases rest with - | ⟨c, r⟩
      · exact (halts_texts after ht).digit
      · exact stops_cons.2 (stops_cons.1 hr)
    have fused := split?_of_fuses hpq hq hs hne hd halt
    -- the words before the two do not fuse, and the last of them ends before the first of the two
    obtain ⟨chain, -, apart⟩ := List.isChain_append.1 h
    have last : ∀ o ∈ before.getLast?,
        split? (o.numeral ++ (p.text ++ (q.text ++ (texts after ++ t))))
          = some (o.numeral, p.text ++ (q.text ++ (texts after ++ t))) := fun o ho =>
      split?_numeral o.mem_numeral (p.halts_text _)
        fun hx => splitExponent_text (apart o ho p rfl) hx _
    rw [texts_append, texts_cons, texts_cons, List.append_assoc, List.append_assoc,
      List.append_assoc, readings_texts_append chain last, readings_text_append p fused]

/-- Three words without blanks of which the last fuses with the one before: `G1X1E2` is read as
`G1` and `X100`. -/
theorem readings_g1x1e2 :
    readings ['G', '1', 'X', '1', 'E', '2'] = ([(['G'], 1.0), (['X'], 100.0)], none) := by
  have one : ['1'] ∈ language := mem_language_of_split? (t := ['1']) (r := []) (by decide)
  have two : ['2'] ∈ language := mem_language_of_split? (t := ['2']) (r := []) (by decide)
  have empty : LineTail [] := .blanks (by simp)
  have apart : ¬(bare 'G' ['1'] rfl one).Fuses (bare 'X' ['1'] rfl one) := fun h =>
    nomatch (show isExponentMark 'X' = true from h.letter)
  have plain : ∀ c ∈ ['1'], isExponentMark c = false := List.forall_mem_singleton.2 (by decide)
  have digit : ∀ c ∈ ['2'], isDigit c = true := List.forall_mem_singleton.2 (by decide)
  have fuses : (bare 'X' ['1'] rfl one).Fuses (bare 'E' ['2'] rfl two) :=
    ⟨rfl, rfl, rfl, plain, [], Or.inl rfl, '2', [], by decide, rfl⟩
  have line := (readings_line
    [bare 'G' ['1'] rfl one, bare 'X' ['1'] rfl one, bare 'E' ['2'] rfl two] empty).2
    [bare 'G' ['1'] rfl one] _ _ [] [] ['2'] [] rfl
    (List.isChain_pair.2 apart) fuses rfl (Or.inl rfl) (by simp) digit (stops_nil _)
  have values : value ['1'] = 1.0 ∧ value ['1', 'E', '2'] = 100.0 := by decide +kernel
  rw [← values.1, ← values.2]
  rw [show ([] : Text) ++ (texts [] ++ []) = [] by rfl, empty.readings_eq] at line
  exact line

end Toolpath
