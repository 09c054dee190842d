/-
Toolpath/Proofs/Reachable.lean

The moments through which an interpreter goes, and the commands it has run so far.  A moment lies
between two words: in the middle of a line, with the text that is left of it, or between two lines.
Which moments can be reached from power-on is said by one rule for each way in which reading goes on
(`Reachable`), and every rule but one leaves the history as it is.

Whatever an interpreter is used for, line by line or program by program, it is reached with the
lines it was given (`reachable_session`).
-/
import Toolpath.Proofs.Session

namespace Toolpath

/-! ### Histories -/

/-- A command that was run: with the registers before it, and the text after its word. -/
structure Execution where
  command : Command
  before : Machine
  text : Text

/-- An interpreter on its way. -/
structure Moment (σ : Type) where
  interpreter : Interpreter σ
  /-- What is left of the line, if the interpreter is in a line. -/
  pending : Option Text
  /-- The lines that were begun, in order. -/
  lines : List Text
  /-- The commands that were run, in order. -/
  history : List Execution

/-! ### Reaching a moment -/

/-- The moments that an interpreter with the device `k` can reach from power-on, when the device
begins in the state `s`. -/
inductive Reachable {σ : Type} (d : Dialect) (k : Device σ) (s : σ) : Moment σ → Prop
  | start : Reachable d k s ⟨.start d s, none, [], []⟩
  /-- A program begins: the count of its lines and its diagnostics are empty. -/
  | program {i : Interpreter σ} {ls : List Text} {h : List Execution}
      (hr : Reachable d k s ⟨i, none, ls, h⟩) :
      Reachable d k s ⟨{ i with lineCount := 0, diagnostics := #[] }, none, ls, h⟩
  /-- A line begins. -/
  | line {i : Interpreter σ} {ls : List Text} {h : List Execution} (t : Text)
      (hr : Reachable d k s ⟨i, none, ls, h⟩) :
      Reachable d k s ⟨{ i with lineCount := i.lineCount + 1 }, some t, ls ++ [t], h⟩
  /-- The line has no more words. -/
  | finished {i : Interpreter σ} {t : Text} {ls : List Text} {h : List Execution}
      (hn : Word.next? d t = .ok none) (hr : Reachable d k s ⟨i, some t, ls, h⟩) :
      Reachable d k s ⟨i, none, ls, h⟩
  /-- The next word is broken. -/
  | broken {i : Interpreter σ} {t : Text} {e : WordError} {ls : List Text} {h : List Execution}
      (hn : Word.next? d t = .error e) (hr : Reachable d k s ⟨i, some t, ls, h⟩) :
      Reachable d k s ⟨i.report e, none, ls, h⟩
  /-- The next word is a command, which is run. -/
  | command {i : Interpreter σ} {t : Text} {w : Word} {c : Command} {ls : List Text}
      {h : List Execution} (hn : Word.next? d t = .ok (some w)) (hc : Command.ofWord? w = some c)
      (hr : Reachable d k s ⟨i, some t, ls, h⟩) :
      Reachable d k s
        ⟨(i.step d k w).1, (i.step d k w).2, ls, h ++ [⟨c, i.machine, w.rest⟩]⟩
  /-- The next word is no command. -/
  | other {i : Interpreter σ} {t : Text} {w : Word} {ls : List Text} {h : List Execution}
      (hn : Word.next? d t = .ok (some w)) (hc : Command.ofWord? w = none)
      (hr : Reachable d k s ⟨i, some t, ls, h⟩) :
      Reachable d k s ⟨(i.step d k w).1, (i.step d k w).2, ls, h⟩

/-! ### Lines, programs and sessions -/

/-- The lines of a call. -/
def Call.texts : Call → List Text
  | .line t => [t]
  | .lines ts => ts
  | .program t => Text.lines t

namespace Reachable

variable {σ : Type} {d : Dialect} {k : Device σ} {s : σ} {i : Interpreter σ} {ls : List Text}
  {h : List Execution}

/-- A word takes the interpreter on, be it a command or not. -/
theorem word {t : Text} {w : Word} (hn : Word.next? d t = .ok (some w))
    (hr : Reachable d k s ⟨i, some t, ls, h⟩) :
    ∃ h', Reachable d k s ⟨(i.step d k w).1, (i.step d k w).2, ls, h'⟩ := by
  rcases hc : Command.ofWord? w with - | c
  · exact ⟨h, .other hn hc hr⟩
  · exact ⟨_, .command hn hc hr⟩

/-- The rest of a line is read to its end. -/
theorem read {t : Text} (hr : Reachable d k s ⟨i, some t, ls, h⟩) :
    ∃ h', Reachable d k s ⟨i.read d k t, none, ls, h'⟩ := by
  induction i, t using Interpreter.read_induction d k generalizing h with
  | broken i t e hn =>
    rw [Interpreter.read_of_error hn]
    exact ⟨h, .broken hn hr⟩
  | finished i t hn =>
    rw [Interpreter.read_of_none hn]
    exact ⟨h, .finished hn hr⟩
  | stop i t w hn ht =>
    rw [Interpreter.read_of_stop hn ht]
    obtain ⟨h', next⟩ := hr.word hn
    rw [ht] at next
    exact ⟨h', next⟩
  | goesOn i t w rest hn ht ih =>
    rw [Interpreter.read_of_rest hn ht]
    obtain ⟨h', next⟩ := hr.word hn
    rw [ht] at next
    exact ih next

theorem readLine (t : Text) (hr : Reachable d k s ⟨i, none, ls, h⟩) :
    ∃ h', Reachable d k s ⟨i.readLine d k t, none, ls ++ [t], h'⟩ :=
  (hr.line t).read

theorem foldl_readLine (ts : List Text) (hr : Reachable d k s ⟨i, none, ls, h⟩) :
    ∃ h', Reachable d k s ⟨ts.foldl (Interpreter.readLine d k) i, none, ls ++ ts, h'⟩ := by
  induction ts generalizing i ls h with
  | nil => exact ⟨h, by rwa [List.append_nil]⟩
  | cons t ts ih =>
    obtain ⟨h', next⟩ := hr.readLine t
    obtain ⟨h'', last⟩ := ih next
    rw [List.append_assoc] at last
    exact ⟨h'', last⟩

theorem call (c : Call) (hr : Reachable d k s ⟨i, none, ls, h⟩) :
    ∃ h', Reachable d k s ⟨i.call d k c, none, ls ++ c.texts, h'⟩ := by
  cases c with
  | line t => exact hr.readLine t
  | lines ts => exact hr.program.foldl_readLine ts
  | program t => exact hr.program.foldl_readLine (Text.lines t)

theorem session (calls : List Call) (hr : Reachable d k s ⟨i, none, ls, h⟩) :
    ∃ h', Reachable d k s ⟨i.session d k calls, none, ls ++ calls.flatMap Call.texts, h'⟩ := by
  induction calls generalizing i ls h with
  | nil => exact ⟨h, by rwa [List.flatMap_nil, List.append_nil]⟩
  | cons c calls ih =>
    obtain ⟨h', next⟩ := hr.call c
    obtain ⟨h'', last⟩ := ih next
    rw [List.append_assoc, ← List.flatMap_cons] at last
    exact ⟨h'', last⟩

end Reachable

/-- After every session the interpreter is at a moment that can be reached, with all the lines that
it was given behind it. -/
theorem reachable_session {σ : Type} (d : Dialect) (k : Device σ) (s : σ) (calls : List Call) :
    ∃ h, Reachable d k s
      ⟨(Interpreter.start d s).session d k calls, none, calls.flatMap Call.texts, h⟩ :=
  Reachable.start.session calls

/-! ### What commands keep -/

namespace Reachable

variable {σ : Type} {d : Dialect} {k : Device σ} {s : σ}

/-- What holds at power-on of the registers and the device with no command run, and is kept by every
command and by every word that is handed over, holds at every moment of the registers, the device
and the history.  No other rule touches any of them. -/
theorem device_invariant {P : Machine → σ → List Execution → Prop}
    (start : P (Machine.powerOn d) s [])
    (command : ∀ {m p h} (c : Command) (t : Text), P m p h →
      P (c.run d m t).machine (k.acceptAll (c.run d m t).actions p) (h ++ [⟨c, m, t⟩]))
    (handOver : ∀ {m p h} (w : Word), P m p h → P m (k.accept (.handOver w) p) h)
    {x : Moment σ} (hr : Reachable d k s x) :
    P x.interpreter.machine x.interpreter.device x.history := by
  induction hr with
  | start => exact start
  | program _ ih | line _ _ ih | finished _ _ ih | broken _ _ ih => exact ih
  | @command i t w c ls h hn hc _ ih =>
    have kept := command c w.rest ih
    rw [Interpreter.step_of_command hc]
    exact kept
  | @other i t w ls h hn hc _ ih =>
    by_cases hl : Interpreter.isLineNumber w = true
    · rw [Interpreter.step_of_number hc hl]
      exact ih
    · rw [Interpreter.step_of_other hc (Bool.eq_false_iff.2 hl)]
      exact handOver w ih

/-- The same of what is not about the device. -/
theorem invariant {P : Machine → List Execution → Prop} (start : P (Machine.powerOn d) [])
    (command : ∀ {m h} (c : Command) (t : Text), P m h →
      P (c.run d m t).machine (h ++ [⟨c, m, t⟩]))
    {x : Moment σ} (hr : Reachable d k s x) : P x.interpreter.machine x.history :=
  device_invariant (P := fun m _ h => P m h) start command (fun _ h => h) hr

end Reachable

end Toolpath
