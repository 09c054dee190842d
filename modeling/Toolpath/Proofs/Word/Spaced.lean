/-
Toolpath/Proofs/Word/Spaced.lean

Words that are written with a blank in front of each.  Such a word never runs into the number
before it, so a loop over words takes them one by one as they were written (`span_texts`), up to the
first word that it does not take.
-/
import Toolpath.Proofs.Word.Rendering

namespace Toolpath

open Text Numeral WrittenWord

/-! ### Where a number ends -/

/-- A numeral ends where no character of a numeral comes. -/
theorem split?_numeral_of_stops {n t : Text} (hn : n ∈ language) (ht : Stops isNumeralChar t) :
    split? (n ++ t) = some (n, t) := by
  rcases t with - | ⟨c, t⟩
  · exact split?_numeral hn ⟨stops_nil _, stops_nil _⟩ fun _ => rfl
  · have stops := halts_of_not_isNumeralChar (stops_cons.1 ht) t
    exact split?_numeral hn stops.1 fun _ => splitExponent_of_stops stops.2.1

theorem stops_of_blank {c : Char} (hc : isBlank c = true) (t : Text) :
    Stops isNumeralChar (c :: t) :=
  stops_cons.2 (isNumeralChar_of_isBlank hc)

/-- A word as it is read with the text `t` after it. -/
def WrittenWord.wordBefore (p : WrittenWord) (t : Text) : Word :=
  ⟨[p.letter.toUpper], value p.numeral, trimStart t⟩

theorem next?_text_of_stops (p : WrittenWord) {t : Text} (ht : Stops isNumeralChar t) :
    Word.next? {} (p.text ++ t) = .ok (some (p.wordBefore t)) :=
  next?_text_append p (split?_numeral_of_stops p.mem_numeral ht)

/-! ### Words after blanks -/

/-- A numeral, as a text that is one. -/
abbrev NumeralText := { n : Text // n ∈ language }

namespace WrittenWord

/-- A word after one blank. -/
def spaced (letter : Char) (hl : letter.isAlpha = true) (n : NumeralText) : WrittenWord :=
  { bare letter n.1 hl n.2 with
    before := [' ']
    isBlank_before := List.forall_mem_singleton.2 (by decide) }

/-- Written words as they are read with the text `t` after the last of them. -/
def wordsBefore (t : Text) : List WrittenWord → List Word
  | [] => []
  | p :: ps => p.wordBefore (texts ps ++ t) :: wordsBefore t ps

/-- What is true of every word with whatever text after it is true of all of them. -/
theorem forall_mem_wordsBefore {P : Word → Prop} {ps : List WrittenWord}
    (h : ∀ p ∈ ps, ∀ t, P (p.wordBefore t)) (t : Text) : ∀ w ∈ wordsBefore t ps, P w := by
  induction ps with
  | nil => exact List.forall_mem_nil _
  | cons p ps ih =>
    obtain ⟨first, others⟩ := List.forall_mem_cons.1 h
    exact List.forall_mem_cons.2 ⟨first _, ih others⟩

theorem stops_text {p : WrittenWord} (hp : p.before ≠ []) (t : Text) :
    Stops isNumeralChar (p.text ++ t) := by
  obtain ⟨c, b, hb⟩ := List.exists_cons_of_ne_nil hp
  rw [text, hb]
  exact stops_of_blank (p.isBlank_before c (by simp [hb])) _

theorem stops_texts {ps : List WrittenWord} (hps : ∀ p ∈ ps, p.before ≠ []) {t : Text}
    (ht : Stops isNumeralChar t) : Stops isNumeralChar (texts ps ++ t) := by
  rcases ps with - | ⟨p, ps⟩
  · exact ht
  · rw [texts_cons, List.append_assoc]
    exact stops_text (hps p List.mem_cons_self) _

end WrittenWord

/-- No numeral goes on in the tail of a line. -/
theorem LineTail.stops {t : Text} (ht : LineTail t) : Stops isNumeralChar t := by
  cases ht with
  | blanks hb =>
    rcases t with - | ⟨c, t⟩
    · exact stops_nil _
    · exact stops_of_blank (hb c List.mem_cons_self) t
  | @mark b u c hb hc =>
    rcases b with - | ⟨c', b⟩
    · exact stops_cons.2 (ends_of_mem_marks hc).2.1
    · exact stops_of_blank (hb c' List.mem_cons_self) _

/-- Behind its blanks a mark comes, or nothing. -/
theorem LineTail.stops_trimStart {t : Text} (ht : LineTail t) :
    Stops isNumeralChar (trimStart t) := by
  cases ht with
  | blanks hb =>
    rw [show trimStart t = [] from List.dropWhile_eq_nil_iff.2 hb]
    exact stops_nil _
  | mark hb hc =>
    obtain ⟨notBlank, notNumeral, -⟩ := ends_of_mem_marks hc
    rw [trimStart_append_of_blank hb, trimStart_cons_of_not_blank notBlank]
    exact stops_cons.2 notNumeral

/-! ### Loops over words -/

/-- A loop takes the words as they were written, and then what it takes of the text after them. -/
theorem span_texts_append {q : Word → Bool} {ps : List WrittenWord} {t : Text}
    (hps : ∀ p ∈ ps, p.before ≠ []) (hq : ∀ w ∈ wordsBefore t ps, q w = true)
    (ht : Stops isNumeralChar t) :
    Word.span {} q (trimStart (texts ps ++ t))
      = (wordsBefore t ps ++ (Word.span {} q (trimStart t)).1,
          (Word.span {} q (trimStart t)).2) := by
  induction ps with
  | nil => rfl
  | cons p ps ih =>
    obtain ⟨-, hps'⟩ := List.forall_mem_cons.1 hps
    obtain ⟨hp, hq'⟩ := List.forall_mem_cons.1 hq
    have first : Word.next? {} (trimStart (texts (p :: ps) ++ t))
        = .ok (some (p.wordBefore (texts ps ++ t))) := by
      rw [next?_trimStart, texts_cons, List.append_assoc]
      exact next?_text_of_stops p (stops_texts hps' ht)
    rw [Word.span_of_word first hp]
    show (_ :: (Word.span {} q (trimStart (texts ps ++ t))).1,
      (Word.span {} q (trimStart (texts ps ++ t))).2) = _
    rw [ih hps' hq']
    rfl

/-- What may stand after the words that a loop takes: the tail of the line, or blanks and then no
word that it takes, as where the next word is broken or has another letter. -/
inductive EndsWords (q : Word → Bool) : Text → Prop
  | tail {t : Text} (ht : LineTail t) : EndsWords q t
  | other {c : Char} {t : Text} (hc : isBlank c = true)
      (hn : ∀ w, Word.next? {} t = .ok (some w) → q w = false) : EndsWords q (c :: t)

namespace EndsWords

variable {q : Word → Bool} {t : Text} (h : EndsWords q t)

include h

theorem stops : Stops isNumeralChar t := by
  cases h with
  | tail ht => exact ht.stops
  | other hc => exact stops_of_blank hc _

theorem span_eq : Word.span {} q (trimStart t) = ([], trimStart t) := by
  apply Word.span_of_stop
  intro w hw
  cases h with
  | tail ht => cases ht.next?_eq_none.symm.trans ((next?_trimStart t).symm.trans hw)
  | @other c t hc hn =>
    rw [trimStart_cons_of_blank hc, next?_trimStart] at hw
    exact hn w hw

end EndsWords

/-- It stops after them where no word comes that it takes. -/
theorem span_texts {q : Word → Bool} {ps : List WrittenWord} {t : Text}
    (hps : ∀ p ∈ ps, p.before ≠ []) (hq : ∀ w ∈ wordsBefore t ps, q w = true)
    (ht : EndsWords q t) :
    Word.span {} q (trimStart (texts ps ++ t)) = (wordsBefore t ps, trimStart t) := by
  rw [span_texts_append hps hq ht.stops, ht.span_eq, List.append_nil]

end Toolpath
