/-
Toolpath/Proofs/Unbroken.lean

What is shown of a line stays on one line.  The upper case of a character that ends no line ends no
line either (`unbroken_upperChar`), and neither does a number that is written; so letters, values
and texts that come from a line without a break are written without one, in the listing of an action
(`Action.unbroken_listing`) and in the message of a diagnostic (`Diagnostic.unbroken_message`).
-/
import Toolpath.Listing
import Toolpath.Proofs.Numeral.Written
import Toolpath.Proofs.Text.Unlines
import Toolpath.Proofs.Word.Capitals
import Toolpath.Proofs.WellFormed

namespace Toolpath

open Text

/-! ### Texts -/

namespace Text.Unbroken

variable {s t : Text}

theorem nil : Unbroken [] := List.forall_mem_nil _

theorem of_subset (ht : Unbroken t) (h : s ⊆ t) : Unbroken s := fun c hc => ht c (h hc)

theorem replicate {c : Char} (hc : isLineBreak c = false) (n : ℕ) :
    Unbroken (List.replicate n c) := by
  intro x hx
  rw [List.eq_of_mem_replicate hx, hc]

theorem intercalate {ts : List Text} (hs : Unbroken s) (ht : ∀ t ∈ ts, Unbroken t) :
    Unbroken (s.intercalate ts) := by
  induction ts with
  | nil => exact nil
  | cons t ts ih =>
    obtain ⟨first, more⟩ := List.forall_mem_cons.1 ht
    rcases ts with - | ⟨u, ts⟩
    · rwa [List.intercalate_singleton]
    · rw [List.intercalate_cons_cons]
      exact (first.append hs).append (ih more)

end Text.Unbroken

/-! ### Upper case -/

namespace Text

/-- A code point that is no break's, or stands for no character, gives no break. -/
theorem isLineBreak_ofNat {n : ℕ} (h : breakPoints.contains n = false) :
    isLineBreak (Char.ofNat n) = false := by
  rw [isLineBreak, Char.toNat_ofNat]
  split
  · exact h
  · decide

/-- No character becomes a line break. -/
theorem unbroken_upperChar {c : Char} (hc : isLineBreak c = false) : Unbroken (upperChar c) := by
  have expansions : ∀ p ∈ Uppercase.expansions, ∀ n ∈ p.2, breakPoints.contains n = false := by
    decide +kernel
  have runs : ∀ r ∈ Uppercase.runs, ∀ b ∈ breakPoints,
      b < r.image ∨ r.image + (r.last - r.first) < b := by
    decide +kernel
  unfold upperChar
  split
  · refine List.forall_mem_singleton.2 ?_
    rw [apply_toUpper isLineBreak (by decide) c, hc]
  split
  · next image h =>
    obtain ⟨before, after, table, -⟩ := List.lookup_eq_some_iff.1 h
    have entry : (c.toNat, image) ∈ Uppercase.expansions := by simp [table]
    intro x hx
    obtain ⟨n, hn, rfl⟩ := List.mem_map.1 hx
    exact isLineBreak_ofNat (expansions _ entry n hn)
  split
  · next n h =>
    obtain ⟨r, hr, hn⟩ := List.exists_of_findSome?_eq_some h
    rw [Uppercase.Run.image?] at hn
    split at hn
    · next on =>
      -- all images of a run lie between two breaks
      obtain rfl := Option.some.inj hn
      refine List.forall_mem_singleton.2 (isLineBreak_ofNat ?_)
      rw [← Bool.not_eq_true, List.contains_iff_mem]
      intro hb
      rcases runs r hr _ hb with below | above <;> omega
    · cases hn
  · exact List.forall_mem_singleton.2 hc

end Text

/-! ### Numbers -/

theorem unbroken_digits (n : ℕ) : Unbroken (Decimal.digits n) :=
  .of_isNumeralChar (Layout.plain_digits n)

/-- A double is written without a break, if its decimal is; the special values have their names. -/
theorem unbroken_writeReading {finite : Decimal → Text} (h : ∀ d, Layout.Plain (finite d))
    (r : Reading) : Unbroken (Layout.writeReading finite r) := by
  cases r with
  | undefined => exact (by decide : Unbroken ['n', 'a', 'n'])
  | infinite negative =>
    exact (Unbroken.of_isNumeralChar (Layout.plain_sign negative)).append
      (by decide : Unbroken ['i', 'n', 'f'])
  | finite d => exact .of_isNumeralChar (h d)

theorem unbroken_significant (x : Float) : Unbroken (Significant.write x) :=
  unbroken_writeReading (fun d => Layout.plain_write _ (Significant.round d)) _

theorem unbroken_fixed (places : ℕ) (x : Float) : Unbroken (Fixed.write places x) :=
  unbroken_writeReading (fun d _ hc =>
    Numeral.isNumeralChar_of_mem_language (Fixed.spells_writeDecimal places d).mem hc) _

/-! ### Words -/

/-- The letter of a word and the text after it come without a break. -/
def Word.Unbroken (w : Word) : Prop :=
  Text.Unbroken w.letter ∧ Text.Unbroken w.rest

/-- The same of a broken word. -/
def WordError.Unbroken (e : WordError) : Prop :=
  Text.Unbroken e.letter ∧ Text.Unbroken e.rest

/-- A word is read so from a text without a break, -/
theorem Word.unbroken_of_next? {d : Dialect} {t : Text} {w : Word} (ht : Text.Unbroken t)
    (h : Word.next? d t = .ok (some w)) : w.Unbroken := by
  have rest := (Word.rest_of_next? h).1
  have reads := Word.reads_next? d t
  rw [h] at reads
  cases reads with
  | word hc =>
    have letter := (trimStart_suffix t).subset (hc ▸ List.mem_cons_self)
    exact ⟨unbroken_upperChar (ht _ letter), ht.of_subset rest.subset⟩

/-- and so is a broken word. -/
theorem WordError.unbroken_of_next? {d : Dialect} {t : Text} {e : WordError}
    (ht : Text.Unbroken t) (h : Word.next? d t = .error e) : e.Unbroken := by
  have rest := (Word.rest_of_next?_error h).1
  have reads := Word.reads_next? d t
  rw [h] at reads
  cases reads with
  | missingValue hc | invalidNumber hc =>
    have letter := (trimStart_suffix t).subset (hc ▸ List.mem_cons_self)
    exact ⟨unbroken_upperChar (ht _ letter), ht.of_subset rest.subset⟩

/-! ### What is shown -/

namespace Action

theorem unbroken_name (a : Action) : Unbroken a.name.toList := by
  have names : ∀ n ∈ ["rapid_move", "coordinated_move", "set_feedrate", "set_temperature",
      "set_fanspeed", "wait_temperature", "disable_motors", "go_home", "unprocessed"],
      Unbroken n.toList := by decide +kernel
  refine names a.name ?_
  cases a <;> simp [name]

theorem unbroken_column (a : Action) : Unbroken a.column :=
  (a.unbroken_name.append (.replicate (by decide) _)).append (by decide : Unbroken [' '])

theorem unbroken_positionText (p : PerAxis Float) : Unbroken (positionText p) := by
  refine .intercalate (by decide) fun t ht => ?_
  obtain ⟨i, -, rfl⟩ := List.mem_map.1 ht
  have letter : isLineBreak i.letter = false := by cases i <;> decide
  exact .cons letter (unbroken_fixed 3 _)

theorem unbroken_maskText (s : AxisSet) : Unbroken s.maskText := by
  rcases s with ⟨x, y, z, e, a, b, c⟩
  revert x y z e a b c
  decide +kernel

/-- An action is listed on one line, if the word that it hands over came from one. -/
theorem unbroken_listing {a : Action} (h : ∀ w, a = .handOver w → w.Unbroken) :
    Unbroken a.listing := by
  cases a with
  | rapidMove target | coordinatedMove target =>
    exact (unbroken_column _).append (unbroken_positionText target)
  | setFeedrate v | setTemperature v | setFanSpeed v =>
    exact (unbroken_column _).append (unbroken_significant v)
  | waitTemperature | disableMotors => exact unbroken_name _
  | goHome axes => exact (unbroken_column _).append (unbroken_maskText axes)
  | handOver w =>
    obtain ⟨letter, rest⟩ := h w rfl
    have text : Unbroken w.text := letter.append (unbroken_significant w.value)
    exact ((((unbroken_column _).append text).append (by decide)).append rest).append (by decide)

end Action

/-- A diagnostic is said in one line, if the broken word came from one. -/
theorem Diagnostic.unbroken_message {g : Diagnostic} (h : g.cause.Unbroken) :
    Unbroken g.message := by
  have cause : Unbroken g.cause.message := by
    obtain ⟨letter, rest⟩ := h
    cases hg : g.cause with
    | missingValue l =>
      rw [hg] at letter
      exact (Unbroken.append (by decide) letter).append (by decide)
    | invalidNumber l r =>
      rw [hg] at letter rest
      exact (((Unbroken.append (by decide) letter).append (by decide)).append rest).append
        (by decide)
  exact ((Unbroken.append (by decide) (unbroken_digits g.line)).append (by decide)).append cause

end Toolpath
