/-
Toolpath/Proofs/WrittenCommand.lean

Commands as they are written.  A command is named by a letter in either case and by the integer part
of a number, so there are many ways to write it: `G1`, `g01`, `G 1.5` (`WrittenWord.Names`).  They
are all the same to the interpreter.  It runs the command on the text after its word, skips what the
command has used of it, and goes on reading (`Interpreter.read_named`).
-/
import Toolpath.Proofs.Course
import Toolpath.Proofs.Numeral.Written
import Toolpath.Proofs.Word.Spaced

namespace Toolpath

open Text Numeral WrittenWord

/-- The word names the command `c`. -/
def WrittenWord.Names (g : WrittenWord) (c : Command) : Prop :=
  Command.ofWord? ⟨[g.letter.toUpper], value g.numeral, []⟩ = some c

namespace Command

/-! ### The usual names -/

/-- The word that names a command, as it is written. -/
def text (c : Command) : Text :=
  c.code.1 :: Decimal.digits c.code.2.natAbs

/-- The numbers of the commands are read back. -/
theorem integerPart?_digits :
    ∀ c ∈ all, integerPart? (value (Decimal.digits c.code.2.natAbs)) = some c.code.2 := by
  decide +kernel

theorem mem_all (c : Command) : c ∈ all := by
  cases c <;> decide

theorem isAlpha_code (c : Command) : c.code.1.isAlpha = true ∧ c.code.1.toUpper = c.code.1 := by
  cases c <;> decide

/-- The name of a command as a written word. -/
def word (c : Command) : WrittenWord :=
  bare c.code.1 (Decimal.digits c.code.2.natAbs) c.isAlpha_code.1 (spells_digits _).mem

/-- A command that is written is read back. -/
theorem names_word (c : Command) : c.word.Names c := by
  rw [Names, ofWord?]
  simp only [word, bare, c.isAlpha_code.2, integerPart?_digits c c.mem_all]
  exact ofCode?_code c

end Command

/-! ### Reading -/

namespace Interpreter

variable {σ : Type}

/-- Blanks at the front are skipped. -/
theorem read_trimStart (k : Device σ) (i : Interpreter σ) (t : Text) :
    i.read {} k (trimStart t) = i.read {} k t := by
  have same := next?_trimStart t
  rcases hn : Word.next? {} t with e | - | w
  · rw [read_of_error hn, read_of_error (same.trans hn)]
  · rw [read_of_none hn, read_of_none (same.trans hn)]
  · rw [read_of_word hn, read_of_word (same.trans hn)]

/-- A command is run on the text after its word, and the line goes on with what it leaves. -/
theorem read_named (k : Device σ) (i : Interpreter σ) {g : WrittenWord}
    {c : Command} (hg : g.Names c) {t : Text} (ht : Stops isNumeralChar t) {o : Command.Outcome}
    (hr : c.run {} i.machine (trimStart t) = o) :
    i.read {} k (g.text ++ t) = (i.proceed k o.machine o.actions).read {} k o.rest := by
  subst hr
  have next := next?_text_of_stops g ht
  have step := step_of_command (d := {}) (w := g.wordBefore t) hg k i
  rw [read_of_rest next (congrArg Prod.snd step), step]
  rfl

end Interpreter

end Toolpath
