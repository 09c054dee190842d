/-
Toolpath/Proofs/Past.lean

What an interpreter has behind it: the lines it has counted, the diagnostics it has given and its
journal.  All three are written and never read, so an interpreter with a past does what it does
without one, and the past stays in front of what comes (`Interpreter.readLine_withPast`).  Only the
numbers of the lines are others: they go on from those that were counted.

A program forgets the count and the diagnostics before its first line, and keeps the journal.  So a
program that is read by any interpreter is the same program read afresh, with a past that has no
lines and no diagnostics (`Interpreter.readLines_eq_withPast`).
-/
import Toolpath.Proofs.Course

namespace Toolpath

/-! ### Line numbers -/

/-- The diagnostic when `n` more lines stand in front of its line. -/
def Diagnostic.later (n : Nat) (g : Diagnostic) : Diagnostic :=
  { g with line := n + g.line }

/-- The same of an event; actions have no line. -/
def Event.later (n : Nat) : Event → Event
  | .action a => .action a
  | .diagnostic g => .diagnostic (g.later n)

@[simp] theorem Diagnostic.later_zero : Diagnostic.later 0 = id := by
  funext g
  simp [Diagnostic.later]

@[simp] theorem Event.later_zero : Event.later 0 = id := by
  funext e
  cases e <;> simp [Event.later]

/-! ### The past -/

/-- What is behind an interpreter. -/
structure Past where
  lines : Nat
  diagnostics : Array Diagnostic
  journal : Array Event

namespace Interpreter

variable {σ : Type}

/-- An interpreter with nothing behind it. -/
def afresh (m : Machine) (s : σ) : Interpreter σ where
  machine := m
  device := s
  lineCount := 0
  diagnostics := #[]
  journal := #[]

/-- The interpreter with a past in front of its own. -/
def withPast (p : Past) (i : Interpreter σ) : Interpreter σ where
  machine := i.machine
  device := i.device
  lineCount := p.lines + i.lineCount
  diagnostics := p.diagnostics ++ i.diagnostics.map (Diagnostic.later p.lines)
  journal := p.journal ++ i.journal.map (Event.later p.lines)

/-- Every interpreter is one with nothing behind it, and a past. -/
theorem eq_withPast (i : Interpreter σ) :
    i = (afresh i.machine i.device).withPast ⟨i.lineCount, i.diagnostics, i.journal⟩ := by
  simp [withPast, afresh]

/-! ### One word, one line -/

theorem proceed_withPast (k : Device σ) (p : Past) (i : Interpreter σ) (m : Machine)
    (as : List Action) :
    (i.withPast p).proceed k m as = (i.proceed k m as).withPast p := by
  have journal : p.journal ++ i.journal.map (Event.later p.lines) ++ as.map Event.action
      = p.journal ++ (i.journal ++ as.map Event.action).map (Event.later p.lines) := by
    apply Array.toList_inj.1
    simp [Event.later]
  simp only [proceed, withPast, journal]

theorem report_withPast (p : Past) (i : Interpreter σ) (e : WordError) :
    (i.withPast p).report e = (i.report e).withPast p := by
  simp [report, withPast, Diagnostic.later, Event.later]

/-- A word does the same whatever is behind. -/
theorem step_withPast (d : Dialect) (k : Device σ) (p : Past) (i : Interpreter σ) (w : Word) :
    (i.withPast p).step d k w = ((i.step d k w).1.withPast p, (i.step d k w).2) := by
  rcases hc : Command.ofWord? w with - | c
  · by_cases hl : isLineNumber w = true
    · rw [step_of_number hc hl, step_of_number hc hl]
    · have hl := Bool.eq_false_iff.2 hl
      rw [step_of_other hc hl, step_of_other hc hl, ← proceed_withPast]
      rfl
  · rw [step_of_command hc, step_of_command hc, ← proceed_withPast]
    rfl

theorem read_withPast (d : Dialect) (k : Device σ) (p : Past) (i : Interpreter σ) (t : Text) :
    (i.withPast p).read d k t = (i.read d k t).withPast p := by
  induction i, t using read_induction d k with
  | broken i t e hn => rw [read_of_error hn, read_of_error hn, report_withPast]
  | finished i t hn => rw [read_of_none hn, read_of_none hn]
  | stop i t w hn ht =>
    rw [read_of_stop hn ht, read_of_stop hn (by rw [step_withPast, ht]), step_withPast]
  | goesOn i t w rest hn ht ih =>
    rw [read_of_rest hn ht, read_of_rest hn (by rw [step_withPast, ht]), step_withPast]
    exact ih

theorem readLine_withPast (d : Dialect) (k : Device σ) (p : Past) (i : Interpreter σ)
    (line : Text) : (i.withPast p).readLine d k line = (i.readLine d k line).withPast p :=
  read_withPast d k p { i with lineCount := i.lineCount + 1 } line

theorem foldl_readLine_withPast (d : Dialect) (k : Device σ) (p : Past) (i : Interpreter σ)
    (lines : List Text) :
    lines.foldl (readLine d k) (i.withPast p) = (lines.foldl (readLine d k) i).withPast p := by
  induction lines generalizing i with
  | nil => rfl
  | cons line lines ih => rw [List.foldl_cons, List.foldl_cons, readLine_withPast, ih]

/-! ### Programs -/

/-- A program is read afresh, whatever was read before it. -/
theorem readLines_eq_withPast (d : Dialect) (k : Device σ) (i : Interpreter σ)
    (lines : List Text) :
    i.readLines d k lines
      = (lines.foldl (readLine d k) (afresh i.machine i.device)).withPast ⟨0, #[], i.journal⟩ := by
  rw [← foldl_readLine_withPast, readLines]
  simp [withPast, afresh]

/-- So is the second of two programs that are put together, but for the numbers of its lines. -/
theorem readLines_append_eq_withPast (d : Dialect) (k : Device σ) (i : Interpreter σ)
    (lines more : List Text) :
    let p := i.readLines d k lines
    i.readLines d k (lines ++ more)
      = (more.foldl (readLine d k) (afresh p.machine p.device)).withPast
          ⟨p.lineCount, p.diagnostics, p.journal⟩ := by
  intro p
  rw [← foldl_readLine_withPast, ← eq_withPast, readLines, List.foldl_append]
  rfl

end Interpreter

end Toolpath
