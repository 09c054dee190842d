/-
Toolpath/Proofs/Word/Capitals.lean

A text in capitals: the letters of ASCII in upper case, and all else as it is.  A word may be read
first and put in capitals then, or the other way round (`Word.next?_capitals`).

The reader looks at single characters only: whether one is blank, which digit it is, whether it is a
sign, the point, an exponent mark, an `x` or a mark that ends the line, and which upper case it has.
None of this tells the two cases of a letter apart (`apply_toUpper`).  So every part of the reader
commutes with capitals, and texts that differ in the case of letters read alike
(`readsAlike_sameButCase`).
-/
import Toolpath.Proofs.Word.Alike
import Toolpath.Proofs.Word.Reading

namespace Toolpath

open Text Numeral
open scoped Computability

/-! ### Characters -/

/-- What does not tell the two cases of an ASCII letter apart is the same for every character and
its upper case in ASCII. -/
theorem apply_toUpper {β : Type} [DecidableEq β] (f : Char → β)
    (h : ∀ n : Fin 128, (Char.ofNat n).isAlpha = true →
      f (Char.ofNat n).toUpper = f (Char.ofNat n)) (c : Char) : f c.toUpper = f c := by
  by_cases hc : c.isAlpha = true
  · exact Word.forall_isAlpha (P := fun c => f c.toUpper = f c) h hc
  · -- other characters have no upper case in ASCII
    have same : c.toUpper = c := by
      unfold Char.toUpper
      refine dif_neg fun lower => hc ?_
      rw [Char.isAlpha, Bool.or_eq_true, Char.isLower, Bool.and_eq_true]
      exact .inr ⟨decide_eq_true lower.1, decide_eq_true lower.2⟩
    rw [same]

section

variable (c : Char)

theorem isBlank_toUpper : isBlank c.toUpper = isBlank c :=
  apply_toUpper isBlank (by decide) c

theorem digit?_toUpper : digit? c.toUpper = digit? c :=
  apply_toUpper digit? (by decide +kernel) c

theorem isDigit_toUpper : isDigit c.toUpper = isDigit c :=
  congrArg Option.isSome (digit?_toUpper c)

theorem isSign_toUpper : isSign c.toUpper = isSign c :=
  apply_toUpper isSign (by decide) c

theorem isExponentMark_toUpper : isExponentMark c.toUpper = isExponentMark c :=
  apply_toUpper isExponentMark (by decide) c

theorem isPoint_toUpper : (c.toUpper == '.') = (c == '.') :=
  apply_toUpper (· == '.') (by decide) c

/-- The upper case in every script is the same. -/
theorem upperChar_toUpper : upperChar c.toUpper = upperChar c :=
  apply_toUpper upperChar (by decide +kernel) c

end

/-! ### Texts -/

namespace Text

/-- The text with its ASCII letters in upper case. -/
def capitals (t : Text) : Text :=
  t.map Char.toUpper

/-- Texts that differ in the case of ASCII letters, and in nothing else. -/
def SameButCase (t t' : Text) : Prop :=
  capitals t' = capitals t

instance (t t' : Text) : Decidable (SameButCase t t') :=
  inferInstanceAs (Decidable (_ = _))

@[simp] theorem capitals_cons (c : Char) (t : Text) : capitals (c :: t) = c.toUpper :: capitals t :=
  rfl

@[simp] theorem capitals_append (s t : Text) : capitals (s ++ t) = capitals s ++ capitals t :=
  List.map_append

@[simp] theorem capitals_eq_nil {t : Text} : capitals t = [] ↔ t = [] :=
  List.map_eq_nil_iff

@[simp] theorem length_capitals (t : Text) : (capitals t).length = t.length :=
  List.length_map _

theorem takeWhile_capitals {p : Char → Bool} (h : ∀ c, p c.toUpper = p c) (t : Text) :
    (capitals t).takeWhile p = capitals (t.takeWhile p) := by
  rw [capitals, List.takeWhile_map, show p ∘ Char.toUpper = p from funext h]
  rfl

theorem dropWhile_capitals {p : Char → Bool} (h : ∀ c, p c.toUpper = p c) (t : Text) :
    (capitals t).dropWhile p = capitals (t.dropWhile p) := by
  rw [capitals, List.dropWhile_map, show p ∘ Char.toUpper = p from funext h]
  rfl

theorem drop_capitals (n : Nat) (t : Text) : (capitals t).drop n = capitals (t.drop n) :=
  List.map_drop.symm

theorem trimStart_capitals (t : Text) : trimStart (capitals t) = capitals (trimStart t) :=
  dropWhile_capitals isBlank_toUpper t

end Text

/-! ### Numerals -/

namespace Numeral

/-- A language that does not tell the two cases of a letter apart. -/
def CaseBlind (l : Language Char) : Prop :=
  ∀ t, capitals t ∈ l ↔ t ∈ l

namespace CaseBlind

variable {l m : Language Char} {p : Char → Bool}

theorem one : CaseBlind 1 := fun _ => capitals_eq_nil

theorem anyOf (h : ∀ c, p c.toUpper = p c) : CaseBlind (anyOf p) := by
  intro t
  constructor
  · rintro ⟨c, hc, ht⟩
    obtain ⟨c', rfl, rfl⟩ := List.map_eq_singleton_iff.1 ht
    exact ⟨c', (h c').symm.trans hc, rfl⟩
  · rintro ⟨c, hc, rfl⟩
    exact ⟨c.toUpper, (h c).trans hc, rfl⟩

theorem kstar_anyOf (h : ∀ c, p c.toUpper = p c) : CaseBlind (Numeral.anyOf p)∗ := by
  intro t
  rw [mem_kstar_anyOf, mem_kstar_anyOf, capitals, List.forall_mem_map]
  simp only [h]

theorem add (hl : CaseBlind l) (hm : CaseBlind m) : CaseBlind (l + m) :=
  fun t => or_congr (hl t) (hm t)

/-- A text in capitals is cut in two where the text itself can be cut. -/
theorem mul (hl : CaseBlind l) (hm : CaseBlind m) : CaseBlind (l * m) := by
  intro t
  constructor
  · rintro ⟨_, ha, _, hb, ht⟩
    obtain ⟨a, b, rfl, rfl, rfl⟩ := List.map_eq_append_iff.1 ht.symm
    exact ⟨a, (hl a).1 ha, b, (hm b).1 hb, rfl⟩
  · rintro ⟨a, ha, b, hb, rfl⟩
    exact ⟨capitals a, (hl a).2 ha, capitals b, (hm b).2 hb, (capitals_append a b).symm⟩

end CaseBlind

/-- Nothing in the grammar of numerals depends on the case of letters. -/
theorem caseBlind_language : CaseBlind language := by
  have sign : CaseBlind (optional sign) := .add .one (.anyOf isSign_toUpper)
  have one : CaseBlind digit := .anyOf isDigit_toUpper
  have many : CaseBlind digit∗ := .kstar_anyOf isDigit_toUpper
  have point : CaseBlind point := .anyOf isPoint_toUpper
  have mark : CaseBlind (anyOf isExponentMark) := .anyOf isExponentMark_toUpper
  have mantissa : CaseBlind mantissa :=
    .add (.mul (.mul (.mul one many) (.add .one point)) many) (.mul point (.mul one many))
  have exponent : CaseBlind exponent := .mul (.mul mark sign) (.mul one many)
  exact .mul (.mul sign mantissa) (.add .one exponent)

/-- Whatever a text in capitals begins with is in capitals, too. -/
theorem exists_prefix_of_prefix_capitals {q t : Text} (h : q <+: capitals t) :
    ∃ p, p <+: t ∧ q = capitals p := by
  refine ⟨t.take q.length, List.take_prefix _ t, ?_⟩
  rw [capitals, List.map_take]
  exact List.prefix_iff_eq_take.1 h

theorem LongestPrefix.capitals {l : Language Char} (hl : CaseBlind l) {t p : Text}
    (h : LongestPrefix l t p) : LongestPrefix l (capitals t) (capitals p) where
  isPrefix := h.isPrefix.map _
  mem := (hl p).2 h.mem
  longest := by
    intro q hq hm
    obtain ⟨q', hq', rfl⟩ := exists_prefix_of_prefix_capitals hq
    rw [length_capitals, length_capitals]
    exact h.longest q' hq' ((hl q').1 hm)

/-! ### Values -/

theorem natural_capitals (ds : Text) : natural (capitals ds) = natural ds := by
  rw [natural, natural, Text.capitals, List.foldl_map]
  simp only [digit?_toUpper]

/-- A sign is no letter. -/
theorem splitSign_capitals (t : Text) :
    splitSign (capitals t) = ((splitSign t).1, capitals (splitSign t).2) := by
  rcases t with - | ⟨c, t⟩
  · rfl
  rw [capitals_cons, splitSign, splitSign, isSign_toUpper]
  split
  · next hc =>
    obtain rfl | rfl : c = '+' ∨ c = '-' := by simpa [isSign] using hc
    · rfl
    · rfl
  · rfl

theorem integer_capitals (t : Text) : integer (capitals t) = integer t := by
  rw [integer, integer, splitSign_capitals]
  simp only [natural_capitals]

theorem value_capitals (p : Text) : value (capitals p) = value p := by
  have mark (t : Text) := takeWhile_capitals (p := (! isExponentMark ·))
    (fun c => congrArg not (isExponentMark_toUpper c)) t
  have afterMark (t : Text) := dropWhile_capitals (p := (! isExponentMark ·))
    (fun c => congrArg not (isExponentMark_toUpper c)) t
  have point (t : Text) := takeWhile_capitals (p := (· != '.'))
    (fun c => congrArg not (isPoint_toUpper c)) t
  have afterPoint (t : Text) := dropWhile_capitals (p := (· != '.'))
    (fun c => congrArg not (isPoint_toUpper c)) t
  have same : toDecimal (capitals p) = toDecimal p := by
    rw [toDecimal, toDecimal, splitSign_capitals]
    simp only [mark, afterMark, point, afterPoint, drop_capitals, ← capitals_append,
      natural_capitals, integer_capitals, length_capitals]
  rw [value, value, same]

end Numeral

/-! ### Words -/

/-- The word with its text in capitals. -/
def Word.capitals (w : Word) : Word :=
  { w with rest := Text.capitals w.rest }

/-- The broken word with its text in capitals. -/
def WordError.capitals : WordError → WordError
  | .missingValue letter => .missingValue letter
  | .invalidNumber letter rest => .invalidNumber letter (Text.capitals rest)

namespace Word

theorem ofLetter_capitals (letter t : Text) :
    ofLetter letter (Text.capitals t)
      = ((ofLetter letter t).map capitals).mapError WordError.capitals := by
  by_cases ht : t = []
  · rw [ofLetter, ofLetter, if_pos ht, if_pos (capitals_eq_nil.2 ht)]
    rfl
  rcases hs : split? t with - | ⟨p, r⟩
  · have none := split?_eq_none_iff.1 hs
    have none' : ∀ p, p <+: Text.capitals t → p ∉ language := by
      intro p hp hm
      obtain ⟨p', hp', rfl⟩ := exists_prefix_of_prefix_capitals hp
      exact none p' hp' ((caseBlind_language p').1 hm)
    rw [ofLetter_of_no_numeral letter ht none,
      ofLetter_of_no_numeral letter (fun h => ht (capitals_eq_nil.1 h)) none']
    rfl
  · have longest := longestPrefix_of_split? hs
    rw [ofLetter_of_longestPrefix letter longest,
      ofLetter_of_longestPrefix letter (longest.capitals caseBlind_language), value_capitals,
      length_capitals, drop_capitals, trimStart_capitals]
    rfl

/-- The first word of a text in capitals is that of the text, in capitals. -/
theorem next?_capitals (t : Text) :
    next? {} (Text.capitals t)
      = ((next? {} t).map (Option.map capitals)).mapError WordError.capitals := by
  have trim := trimStart_capitals t
  rcases ht : trimStart t with - | ⟨c, after⟩ <;> rw [ht] at trim
  · rw [next?_of_end ht, next?_of_end trim]
    rfl
  have mark : EndsLine {} c.toUpper ↔ EndsLine {} c := by
    have same := apply_toUpper (fun c => decide (c ∈ ([';', '%'] : Text))) (by decide) c
    exact or_congr (decide_eq_decide.1 same) (by rw [upperChar_toUpper])
  by_cases hc : EndsLine {} c
  · rw [next?_of_mark ht hc, next?_of_mark trim (mark.2 hc)]
    rfl
  · rw [next?_of_letter ht hc, next?_of_letter trim (fun h => hc (mark.1 h)), upperChar_toUpper]
    show (ofLetter _ (trimStart (Text.capitals after))).map some = _
    rw [trimStart_capitals, ofLetter_capitals]
    cases ofLetter (upperChar c) (trimStart after) <;> rfl

end Word

/-! ### Texts that read alike -/

/-- Words that are the same in capitals have the same letter and number. -/
theorem Word.alike_of_capitals_eq {w w' : Word} (h : w'.capitals = w.capitals) :
    Word.Alike SameButCase w w' := by
  obtain ⟨letter, value, rest⟩ := Word.mk.inj h
  exact ⟨letter, value, rest⟩

theorem WordError.alike_of_capitals_eq {e e' : WordError} (h : e'.capitals = e.capitals) :
    WordError.Alike SameButCase e e' := by
  cases e with
  | missingValue letter =>
    cases e' with
    | missingValue letter' =>
      obtain rfl := WordError.missingValue.inj h
      exact .missingValue letter'
    | invalidNumber letter' rest' => cases h
  | invalidNumber letter rest =>
    cases e' with
    | missingValue letter' => cases h
    | invalidNumber letter' rest' =>
      obtain ⟨rfl, hr⟩ := WordError.invalidNumber.inj h
      exact .invalidNumber letter' hr

/-- Lines that differ in the case of letters have the same words, and are broken at the same
letters. -/
theorem readsAlike_sameButCase : ReadsAlike {} SameButCase (WordError.Alike SameButCase) where
  next := by
    intro t t' h
    have first := Word.next?_capitals t
    have second := Word.next?_capitals t'
    rw [h, first] at second
    rcases hn : Word.next? {} t with e | - | w <;>
      rcases hn' : Word.next? {} t' with e' | - | w' <;> rw [hn, hn'] at second
    · exact .error hn hn' (WordError.alike_of_capitals_eq (Except.error.inj second).symm)
    · cases second
    · cases second
    · cases second
    · exact .none hn hn'
    · cases second
    · cases second
    · cases second
    · have same := Option.some.inj (Except.ok.inj second)
      exact .word hn hn' (Word.alike_of_capitals_eq same.symm)
  letter := by
    rintro _ _ (- | -) <;> rfl
  rest := by
    rintro _ _ (- | ⟨-, h⟩)
    · rfl
    · exact h

end Toolpath
