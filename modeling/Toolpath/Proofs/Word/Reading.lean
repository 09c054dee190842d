/-
Toolpath/Proofs/Word/Reading.lean

What `Word.next?` reads, said without a procedure.  Behind the blanks at the front of a line
there is nothing, or a character that ends the line, or a letter; and behind the blanks after a
letter there is nothing, or no numeral, or a longest numeral (`Reads`).  Every line is in exactly
one of these cases, and `next?` tells which (`reads_iff_eq_next`).

That a number is looked for before an `x` in second position only, and not in the whole text,
makes no difference: no numeral has an `x` in it (`prefix_numberSpan_iff`).
-/
import Toolpath.Proofs.Numeral.Value
import Toolpath.Word.Reader

namespace Toolpath.Word

open Text Numeral

/-! ### The cases -/

/-- Where a word could begin, the character ends the line. -/
def EndsLine (d : Dialect) (c : Char) : Prop :=
  c ∈ d.lineEnds ∨ upperChar c = d.checksumMark

/-- What a line begins with. -/
inductive Reads (d : Dialect) (line : Text) : Except WordError (Option Word) → Prop
  | atEnd (ht : trimStart line = []) : Reads d line (.ok none)
  | atMark {c : Char} {after : Text} (ht : trimStart line = c :: after) (hc : EndsLine d c) :
      Reads d line (.ok none)
  | missingValue {c : Char} {after : Text} (ht : trimStart line = c :: after)
      (hc : ¬EndsLine d c) (ha : trimStart after = []) :
      Reads d line (.error (.missingValue (upperChar c)))
  | invalidNumber {c : Char} {after : Text} (ht : trimStart line = c :: after)
      (hc : ¬EndsLine d c) (ha : trimStart after ≠ [])
      (hn : ∀ p, p <+: trimStart after → p ∉ language) :
      Reads d line (.error (.invalidNumber (upperChar c) (trimStart after)))
  | word {c : Char} {after p : Text} {negative : Bool} {size : ℚ} {x : Float}
      (ht : trimStart line = c :: after) (hc : ¬EndsLine d c)
      (hp : LongestPrefix language (trimStart after) p) (hs : Spells p negative size)
      (hx : Double.Rounds negative size x) :
      Reads d line
        (.ok (some ⟨upperChar c, x, trimStart ((trimStart after).drop p.length)⟩))

/-! ### The text in which a number is looked for -/

theorem isPrefix_numberSpan (t : Text) : numberSpan t <+: t := by
  unfold numberSpan
  split
  · split
    · exact ⟨_, rfl⟩
    · exact List.prefix_rfl
  · exact List.prefix_rfl

/-- A numeral is not cut short. -/
theorem prefix_numberSpan_iff {p : Text} (hp : p ∈ language) (t : Text) :
    p <+: numberSpan t ↔ p <+: t := by
  refine ⟨fun h => h.trans (isPrefix_numberSpan t), fun h => ?_⟩
  unfold numberSpan
  split
  · next c x u =>
      split
      · next hx =>
          -- a numeral of two characters or more would have the `x` in it
          rcases p with - | ⟨c', - | ⟨x', q⟩⟩
          · exact List.nil_prefix
          · obtain ⟨rfl, -⟩ := List.cons_prefix_cons.1 h
            exact List.prefix_rfl
          · have same := (List.cons_prefix_cons.1 (List.cons_prefix_cons.1 h).2).1
            have char : isNumeralChar x = true :=
              isNumeralChar_of_mem_language hp (by simp [same])
            rcases hx with rfl | rfl
            · exact absurd char (by decide)
            · exact absurd char (by decide)
      · exact h
  · exact h

theorem longestPrefix_numberSpan_iff {p t : Text} :
    LongestPrefix language (numberSpan t) p ↔ LongestPrefix language t p := by
  constructor
  · rintro ⟨hp, hm, hl⟩
    exact ⟨(prefix_numberSpan_iff hm t).1 hp, hm,
      fun q hq hmq => hl q ((prefix_numberSpan_iff hmq t).2 hq) hmq⟩
  · rintro ⟨hp, hm, hl⟩
    exact ⟨(prefix_numberSpan_iff hm t).2 hp, hm,
      fun q hq hmq => hl q ((prefix_numberSpan_iff hmq t).1 hq) hmq⟩

/-- Looking in the whole text finds the same numeral. -/
theorem split?_numberSpan (t : Text) :
    (split? (numberSpan t)).map Prod.fst = (split? t).map Prod.fst := by
  rcases hs : split? t with - | ⟨p, r⟩
  · have none : split? (numberSpan t) = none := by
      apply split?_eq_none_iff.2
      intro p hp hm
      exact split?_eq_none_iff.1 hs p (hp.trans (isPrefix_numberSpan t)) hm
    rw [none]
  · have longest := longestPrefix_numberSpan_iff.2 (longestPrefix_of_split? hs)
    obtain ⟨r', hr'⟩ := longest.isPrefix
    rw [split?_eq_some_iff.2 ⟨longest, hr'⟩]
    rfl

/-! ### Behind a letter -/

theorem ofLetter_of_longestPrefix (letter : Text) {t p : Text}
    (hp : LongestPrefix language t p) :
    ofLetter letter t = .ok ⟨letter, Numeral.value p, trimStart (t.drop p.length)⟩ := by
  have hne : t ≠ [] := by
    rintro rfl
    obtain rfl := List.prefix_nil.1 hp.isPrefix
    exact absurd hp.mem nil_not_mem_language
  obtain ⟨r, hr⟩ := (longestPrefix_numberSpan_iff.2 hp).isPrefix
  have found := split?_eq_some_iff.2 ⟨longestPrefix_numberSpan_iff.2 hp, hr⟩
  rw [ofLetter, if_neg hne]
  simp only [found]

theorem ofLetter_of_no_numeral (letter : Text) {t : Text} (hne : t ≠ [])
    (hn : ∀ p, p <+: t → p ∉ language) :
    ofLetter letter t = .error (.invalidNumber letter t) := by
  have none : split? (numberSpan t) = none :=
    split?_eq_none_iff.2 fun p hp => hn p (hp.trans (isPrefix_numberSpan t))
  rw [ofLetter, if_neg hne]
  simp only [none]

/-- Where no numeral comes after a letter, the word is broken, and only the letter is read. -/
theorem exists_ofLetter_error (letter : Text) {t : Text} (hn : ∀ p, p <+: t → p ∉ language) :
    ∃ e, ofLetter letter t = .error e ∧ e.letter = letter ∧ e.rest = t := by
  by_cases ht : t = []
  · exact ⟨.missingValue letter, if_pos ht, rfl, ht.symm⟩
  · exact ⟨.invalidNumber letter t, ofLetter_of_no_numeral letter ht hn, rfl, rfl⟩

/-- More text that begins with no character of a numeral leaves the numeral as it is. -/
theorem ofLetter_append (letter : Text) {t s : Text} (hs : Stops isNumeralChar s) (hne : t ≠ []) :
    (∃ v r, ofLetter letter t = .ok ⟨letter, v, trimStart r⟩ ∧
        ofLetter letter (t ++ s) = .ok ⟨letter, v, trimStart (r ++ s)⟩) ∨
      ofLetter letter t = .error (.invalidNumber letter t) ∧
        ofLetter letter (t ++ s) = .error (.invalidNumber letter (t ++ s)) := by
  rcases hn : split? t with - | ⟨p, r⟩
  · have none := split?_eq_none_iff.1 hn
    refine .inr ⟨ofLetter_of_no_numeral letter hne none, ?_⟩
    exact ofLetter_of_no_numeral letter (by simp [hne])
      fun p hp hm => none p ((prefix_append_iff hs hm).1 hp) hm
  · have longest := longestPrefix_of_split? hn
    refine .inl ⟨_, _, ofLetter_of_longestPrefix letter longest, ?_⟩
    rw [ofLetter_of_longestPrefix letter (longest.append hs),
      List.drop_append_of_le_length longest.isPrefix.length_le]

/-! ### Reading -/

section Cases

variable {d : Dialect} {line after : Text} {c : Char}

theorem next?_of_end (ht : trimStart line = []) : next? d line = .ok none := by
  rw [next?, ht]

theorem next?_of_mark (ht : trimStart line = c :: after) (hc : EndsLine d c) :
    next? d line = .ok none := by
  rw [next?, ht]
  exact if_pos hc

theorem next?_of_letter (ht : trimStart line = c :: after) (hc : ¬EndsLine d c) :
    next? d line = (ofLetter (upperChar c) (trimStart after)).map some := by
  rw [next?, ht]
  exact if_neg hc

end Cases

/-- Every line is read as one of the cases. -/
theorem reads_next? (d : Dialect) (line : Text) : Reads d line (next? d line) := by
  rcases ht : trimStart line with - | ⟨c, after⟩
  · rw [next?_of_end ht]
    exact .atEnd ht
  by_cases hc : EndsLine d c
  · rw [next?_of_mark ht hc]
    exact .atMark ht hc
  rw [next?_of_letter ht hc]
  by_cases ha : trimStart after = []
  · rw [ofLetter, if_pos ha]
    exact .missingValue ht hc ha
  rcases hs : split? (trimStart after) with - | ⟨p, r⟩
  · have hn := split?_eq_none_iff.1 hs
    rw [ofLetter_of_no_numeral _ ha hn]
    exact .invalidNumber ht hc ha hn
  · have hp := longestPrefix_of_split? hs
    obtain ⟨negative, size, spells⟩ := exists_spells hp.mem
    rw [ofLetter_of_longestPrefix _ hp]
    exact .word ht hc hp spells (rounds_value spells)

/-- The cases exclude one another, and each tells what is read. -/
theorem Reads.next?_eq {d : Dialect} {line : Text} {o : Except WordError (Option Word)}
    (h : Reads d line o) : next? d line = o := by
  cases h with
  | atEnd ht => exact next?_of_end ht
  | atMark ht hc => exact next?_of_mark ht hc
  | missingValue ht hc ha =>
    rw [next?_of_letter ht hc, ofLetter, if_pos ha]
    rfl
  | invalidNumber ht hc ha hn =>
    rw [next?_of_letter ht hc, ofLetter_of_no_numeral _ ha hn]
    rfl
  | word ht hc hp hs hx =>
    rw [next?_of_letter ht hc, ofLetter_of_longestPrefix _ hp,
      (rounds_value hs).unique hx]
    rfl

/-- A word has the letter that comes first, -/
theorem letter_of_next? {d : Dialect} {line after : Text} {c : Char} {w : Word}
    (ht : trimStart line = c :: after) (h : next? d line = .ok (some w)) :
    w.letter = upperChar c := by
  have reads := reads_next? d line
  rw [h] at reads
  cases reads with
  | word ht' =>
    obtain ⟨rfl, -⟩ := List.cons.inj (ht.symm.trans ht')
    rfl

/-- and so has a broken word. -/
theorem letter_of_next?_error {d : Dialect} {line after : Text} {c : Char} {e : WordError}
    (ht : trimStart line = c :: after) (h : next? d line = .error e) : e.letter = upperChar c := by
  have reads := reads_next? d line
  rw [h] at reads
  cases reads with
  | missingValue ht' | invalidNumber ht' =>
    obtain ⟨rfl, -⟩ := List.cons.inj (ht.symm.trans ht')
    rfl

/-! ### All words of a text -/

/-- The value of a word is a number that was rounded. -/
theorem exists_rounds_of_mem_readAll {d : Dialect} {t : Text} {w : Word}
    (h : w ∈ (readAll d t).1) : ∃ negative r, Double.Rounds negative r w.value := by
  rcases hn : next? d t with e | - | v
  · rw [readAll_of_error hn] at h
    cases h
  · rw [readAll_of_none hn] at h
    cases h
  · rw [readAll_of_word hn] at h
    rcases List.mem_cons.1 h with rfl | more
    · have reads := reads_next? d t
      rw [hn] at reads
      cases reads with
      | word _ _ _ _ hx => exact ⟨_, _, hx⟩
    · exact exists_rounds_of_mem_readAll more
termination_by t.length
decreasing_by exact length_rest_of_next? hn

/-- If no word of a text is broken and all of them satisfy `q`, they are taken up to its end. -/
theorem exists_span_of_readAll {d : Dialect} {q : Word → Bool} {t : Text} {ws : List Word}
    (h : readAll d t = (ws, none)) (hq : ∀ w ∈ ws, q w = true) :
    ∃ rest, span d q t = (ws, rest) ∧ next? d rest = .ok none := by
  rcases hn : next? d t with e | - | w
  · rw [readAll_of_error hn] at h
    cases h
  · rw [readAll_of_none hn] at h
    cases h
    refine ⟨t, span_of_stop (fun w hw => ?_), hn⟩
    cases hn.symm.trans hw
  · rw [readAll_of_word hn] at h
    obtain ⟨rfl, none⟩ := Prod.mk.inj h
    obtain ⟨first, others⟩ := List.forall_mem_cons.1 hq
    obtain ⟨rest, taken, done⟩ := exists_span_of_readAll (Prod.ext rfl none) others
    refine ⟨rest, ?_, done⟩
    rw [span_of_word hn first, taken]
termination_by t.length
decreasing_by exact length_rest_of_next? hn

/-! ### What is no numeral -/

/-- A zero before an `x` is read alone. -/
theorem longestPrefix_zero {s : Text} (hs : s ∈ optional sign) {x : Char} (hx : x = 'x' ∨ x = 'X')
    (t : Text) : LongestPrefix language (s ++ '0' :: x :: t) (s ++ ['0']) := by
  have zero : ['0'] ∈ mantissa := by
    refine mem_mantissa.2 (Or.inl ⟨by simp, ?_⟩)
    exact List.forall_mem_singleton.2 (by decide)
  have other : isDigit x = false ∧ (x == '.') = false ∧ isExponentMark x = false := by
    rcases hx with rfl | rfl
    · decide
    · decide
  have found := split?_append (t := x :: t) hs zero (stops_cons.2 other.1)
    (stops_cons.2 other.2.1)
  rw [splitExponent_of_stops (stops_cons.2 other.2.2), List.append_nil] at found
  rw [show s ++ '0' :: x :: t = s ++ ['0'] ++ x :: t by simp]
  exact longestPrefix_of_split? found

/-- A decidable property of the ASCII letters holds of all of them if it holds of each. -/
theorem forall_isAlpha {P : Char → Prop} [DecidablePred P]
    (h : ∀ n : Fin 128, (Char.ofNat n).isAlpha = true → P (Char.ofNat n)) {c : Char}
    (hc : c.isAlpha = true) : P c := by
  have ascii : c.toNat < 128 := by
    simp only [Char.isAlpha, Char.isUpper, Char.isLower, Bool.or_eq_true, Bool.and_eq_true,
      decide_eq_true_eq] at hc
    rcases hc with ⟨-, hu⟩ | ⟨-, hu⟩
    · exact lt_of_le_of_lt (UInt32.le_iff_toNat_le.1 hu) (by decide)
    · exact lt_of_le_of_lt (UInt32.le_iff_toNat_le.1 hu) (by decide)
  have same : Char.ofNat c.toNat = c := Char.ofNat_toNat c
  have hn := h ⟨c.toNat, ascii⟩
  rw [same] at hn
  exact hn hc

/-- A letter does not begin a numeral. -/
theorem not_begins_of_isAlpha {c : Char} (hc : c.isAlpha = true) :
    isSign c = false ∧ isDigit c = false ∧ (c == '.') = false :=
  forall_isAlpha (P := fun c => isSign c = false ∧ isDigit c = false ∧ (c == '.') = false)
    (by decide) hc

/-- Where a number is to begin, a letter is no number. -/
theorem not_mem_language_of_letter {s : Text} (hs : s ∈ optional sign) {c : Char}
    (hc : c.isAlpha = true) (t : Text) {p : Text} (hp : p <+: s ++ c :: t) : p ∉ language := by
  obtain ⟨hsign, hdigit, hpoint⟩ := not_begins_of_isAlpha hc
  -- after the sign neither a digit nor the point comes
  have none : split? (s ++ c :: t) = none := by
    rw [split?, splitSign_append hs (stops_cons.2 hsign)]
    simp only [splitMantissa?_of_stops (stops_cons.2 hdigit) (stops_cons.2 hpoint)]
    rfl
  exact split?_eq_none_iff.1 none p hp

/-! ### The grammar of words -/

/-- Reading is by the cases of `Reads`, and the word that is read holds the double nearest to the
longest numeral.  Stopping before an `x` in second position changes nothing; a hexadecimal number
is read as its zero, and the names of the special values are no numbers. -/
theorem reads_iff_eq_next (d : Dialect) (line : Text) :
    (∀ o, next? d line = o ↔ Reads d line o) ∧
      (∀ t, (split? (numberSpan t)).map Prod.fst = (split? t).map Prod.fst) ∧
      (∀ s ∈ optional sign, ∀ x t, x = 'x' ∨ x = 'X' →
        LongestPrefix language (s ++ '0' :: x :: t) (s ++ ['0'])) ∧
      (∀ s ∈ optional sign, ∀ c t p, c.isAlpha = true → p <+: s ++ c :: t → p ∉ language) := by
  refine ⟨fun o => ⟨?_, Reads.next?_eq⟩, split?_numberSpan, ?_, ?_⟩
  · rintro rfl
    exact reads_next? d line
  · intro s hs x t hx
    exact longestPrefix_zero hs hx t
  · intro s hs c t p hc hp
    exact not_mem_language_of_letter hs hc t hp

end Toolpath.Word
