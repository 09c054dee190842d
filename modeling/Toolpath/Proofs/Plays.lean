/-
Toolpath/Proofs/Plays.lean

What a line does, as a contract.  A line plays the actions `as` from the registers `m` to the
registers `m'` if an interpreter with the registers `m` tells its device these actions, comes to the
registers `m'`, and has nothing to report (`Plays`).  Contracts of lines that follow one another
make up the contract of the whole program (`PlaysAll`), which is how a program is followed from its
first line to its last.

The contract is for one device, since a device decides how a line goes on after a word that is
handed over.  Devices differ over the codes of the bed only in what they are told: a recorder is
told the code and the setting, and the others the code alone (`TakesBed`).
-/
import Toolpath.Proofs.FirstHandOver
import Toolpath.Proofs.Replay
import Toolpath.Proofs.WrittenCommand

namespace Toolpath

open Text Numeral WrittenWord

variable {σ : Type} {d : Dialect} {k : Device σ} {m m' m'' : Machine} {as bs : List Action}

/-! ### One line -/

/-- From the registers `m`, the line leads to the registers `m'`, and the device is told the actions
`as`.  No word of it is broken. -/
def Plays (d : Dialect) (k : Device σ) (m : Machine) (line : Text) (m' : Machine)
    (as : List Action) : Prop :=
  ∀ i : Interpreter σ, i.machine = m → i.read d k line = i.proceed k m' as

namespace Plays

/-- A course to the end of the line. -/
theorem of_course {t u : Text} (h : Course d m t m' as u) (hu : Word.next? d u = .ok none) :
    Plays d k m t m' as := by
  intro i hi
  rw [h.read_eq k hi, Interpreter.read_of_none hu]

/-- A line with a tail only: blanks, or a comment. -/
theorem of_tail {t : Text} (h : LineTail t) : Plays {} k m t m [] :=
  of_course (.stay m t) h.next?_eq_none

end Plays

/-! ### Several lines -/

/-- The same of lines that are read one after the other. -/
def PlaysAll (d : Dialect) (k : Device σ) (m : Machine) (lines : List Text) (m' : Machine)
    (as : List Action) : Prop :=
  ∀ i : Interpreter σ, i.machine = m →
    lines.foldl (Interpreter.readLine d k) i
      = { i.proceed k m' as with lineCount := i.lineCount + lines.length }

namespace PlaysAll

theorem nil : PlaysAll d k m [] m [] := by
  rintro i rfl
  rw [Interpreter.proceed_nil]
  rfl

theorem cons {line : Text} {lines : List Text} (h : Plays d k m line m' as)
    (hs : PlaysAll d k m' lines m'' bs) : PlaysAll d k m (line :: lines) m'' (as ++ bs) := by
  intro i hi
  have first : i.readLine d k line
      = Interpreter.proceed k { i with lineCount := i.lineCount + 1 } m' as := h _ hi
  rw [List.foldl_cons, first, hs _ rfl, Interpreter.proceed_proceed]
  have count : i.lineCount + 1 + lines.length = i.lineCount + (line :: lines).length := by
    rw [List.length_cons]
    omega
  exact congrArg (fun n => { i.proceed k m'' (as ++ bs) with lineCount := n }) count

theorem append {lines more : List Text} (h : PlaysAll d k m lines m' as)
    (hs : PlaysAll d k m' more m'' bs) : PlaysAll d k m (lines ++ more) m'' (as ++ bs) := by
  intro i hi
  rw [List.foldl_append, h i hi, hs _ rfl]
  have count : i.lineCount + lines.length + more.length = i.lineCount + (lines ++ more).length := by
    rw [List.length_append]
    omega
  have told := Interpreter.proceed_proceed k i m' m'' as bs
  rw [← told]
  exact congrArg
    (fun n => { (i.proceed k m' as).proceed k m'' bs with lineCount := n }) count

/-- A program from its beginning. -/
theorem readLines {lines : List Text} (h : PlaysAll d k m lines m' as) {i : Interpreter σ}
    (hi : i.machine = m) :
    i.readLines d k lines
      = { i.proceed k m' as with lineCount := lines.length, diagnostics := #[] } := by
  rw [Interpreter.readLines, h { i with lineCount := 0, diagnostics := #[] } hi]
  exact congrArg (fun n => { i.proceed k m' as with lineCount := n, diagnostics := #[] })
    (Nat.zero_add _)

end PlaysAll

/-! ### Lines with a command -/

/-- A line with one command, from what the command does with the text after it. -/
theorem Plays.of_command {c : Command} {t : Text} {o : Command.Outcome}
    (ht : Stops isNumeralChar t) (hr : c.run {} m (trimStart t) = o)
    (ho : Word.next? {} o.rest = .ok none) : Plays {} k m (c.text ++ t) o.machine o.actions := by
  rintro i rfl
  have line := Interpreter.read_named k i c.names_word ht hr
  exact line.trans (Interpreter.read_of_none ho)

end Toolpath
