/-
Toolpath/Proofs/Text/Unlines.lean

Lines that are put together are cut again where they met.  It takes that no line has a break of its
own (`Unbroken`); which lines there are, and whether some are empty, does not matter.
-/
import Toolpath.Proofs.Word.Rendering
import Toolpath.Text.Line

namespace Toolpath.Text

/-- No line ends in the text. -/
def Unbroken (t : Text) : Prop :=
  ∀ c ∈ t, isLineBreak c = false

-- by the length of the text: of `∀ c` alone all characters would be tried
instance (t : Text) : Decidable (Unbroken t) :=
  List.decidableBAll (fun c => isLineBreak c = false) t

namespace Unbroken

variable {s t : Text}

theorem append (hs : Unbroken s) (ht : Unbroken t) : Unbroken (s ++ t) :=
  List.forall_mem_append.2 ⟨hs, ht⟩

theorem cons {c : Char} (hc : isLineBreak c = false) (ht : Unbroken t) : Unbroken (c :: t) :=
  List.forall_mem_cons.2 ⟨hc, ht⟩

/-- What can stand in a numeral ends no line. -/
theorem of_isNumeralChar (h : ∀ c ∈ t, Numeral.isNumeralChar c = true) : Unbroken t := by
  intro c hc
  apply Bool.eq_false_iff.2
  intro hb
  exact Bool.eq_false_iff.1 (isNumeralChar_of_isBlank (isBlank_of_isLineBreak hb)) (h c hc)

end Unbroken

/-- A character that ends no line is put before the first one. -/
theorem consLine_of_not_break {isBreak : Char → Bool} {c : Char} (h : isBreak c = false)
    (line ending : Text) (more : List (Text × Text)) :
    consLine isBreak c ((line, ending) :: more) = (c :: line, ending) :: more := by
  unfold consLine
  rw [if_neg (Bool.eq_false_iff.1 h)]

/-- A line with its break is cut off. -/
theorem cutLines_append_newline {l : Text} (h : Unbroken l) (t : Text) :
    cutLines isLineBreak (l ++ '\n' :: t) = (l, ['\n']) :: cutLines isLineBreak t := by
  induction l with
  | nil => rfl
  | cons c l ih =>
    obtain ⟨hc, hl⟩ := List.forall_mem_cons.1 h
    show consLine isLineBreak c (cutLines isLineBreak (l ++ '\n' :: t)) = _
    rw [ih hl, consLine_of_not_break hc]

/-- The lines that were put together. -/
theorem lines_unlines {ls : List Text} (h : ∀ l ∈ ls, Unbroken l) : lines (unlines ls) = ls := by
  induction ls with
  | nil => rfl
  | cons l ls ih =>
    obtain ⟨hl, hls⟩ := List.forall_mem_cons.1 h
    have text : unlines (l :: ls) = l ++ '\n' :: unlines ls := by
      rw [unlines, List.flatMap_cons, List.append_assoc]
      rfl
    rw [text, lines, cutLines_append_newline hl, List.map_cons]
    exact congrArg (l :: ·) (ih hls)

end Toolpath.Text
