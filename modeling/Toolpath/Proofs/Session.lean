/-
Toolpath/Proofs/Session.lean

Sessions: the calls by which an interpreter is used, line by line and program by program.  The
actions it has asked for since it was made are its log.  What holds of the registers, the device and
the log at power-on, and is kept by each command and by each word that is handed over, holds after
every session (`Traced.start_session`).  Diagnostics, counts and line numbers are no concern of it,
and neither is the point where a line stops.
-/
import Toolpath.Proofs.Course

namespace Toolpath

/-! ### Calls -/

/-- One use of the interpreter. -/
inductive Call
  /-- A line on its own. -/
  | line (t : Text)
  /-- A program, given by its lines. -/
  | lines (ts : List Text)
  /-- A program, given as a text. -/
  | program (t : Text)
  deriving DecidableEq

namespace Interpreter

variable {σ : Type}

/-- The interpreter after one call. -/
def call (d : Dialect) (k : Device σ) (i : Interpreter σ) : Call → Interpreter σ
  | .line t => i.readLine d k t
  | .lines ts => i.readLines d k ts
  | .program t => i.readProgram d k t

/-- The interpreter after several calls. -/
def session (d : Dialect) (k : Device σ) (i : Interpreter σ) (calls : List Call) :
    Interpreter σ :=
  calls.foldl (call d k) i

end Interpreter

/-! ### The log -/

/-- The action that an event is, if it is one. -/
def Event.action? : Event → Option Action
  | .action a => some a
  | .diagnostic _ => none

namespace Interpreter

variable {σ : Type}

/-- The actions in the journal. -/
def log (i : Interpreter σ) : List Action :=
  i.journal.toList.filterMap Event.action?

theorem log_proceed (k : Device σ) (i : Interpreter σ) (m : Machine) (as : List Action) :
    (i.proceed k m as).log = i.log ++ as := by
  have told : (as.map Event.action).filterMap Event.action? = as := by
    rw [List.filterMap_map]
    exact List.filterMap_some
  show (i.journal ++ as.map Event.action).toList.filterMap Event.action? = _
  rw [Array.toList_appendList, List.filterMap_append, told]
  rfl

theorem log_report (i : Interpreter σ) (e : WordError) : (i.report e).log = i.log := by
  show (i.journal.push _).toList.filterMap Event.action? = _
  rw [Array.toList_push, List.filterMap_append]
  exact List.append_nil _

end Interpreter

/-! ### What every call keeps -/

/-- `P` is kept by every command and by every word that is handed over. -/
structure Traced {σ : Type} (d : Dialect) (k : Device σ)
    (P : Machine → σ → List Action → Prop) : Prop where
  command : ∀ {m s log} (c : Command) (t : Text), P m s log →
    P (c.run d m t).machine (k.acceptAll (c.run d m t).actions s) (log ++ (c.run d m t).actions)
  handOver : ∀ {m s log} (w : Word), Command.ofWord? w = none →
    Interpreter.isLineNumber w = false → P m s log →
    P m (k.accept (.handOver w) s) (log ++ [.handOver w])

namespace Traced

variable {σ : Type} {d : Dialect} {k : Device σ} {P : Machine → σ → List Action → Prop}

theorem step (h : Traced d k P) {i : Interpreter σ} (hi : P i.machine i.device i.log) (w : Word) :
    let j := (i.step d k w).1
    P j.machine j.device j.log := by
  rcases hc : Command.ofWord? w with - | c
  · by_cases hl : Interpreter.isLineNumber w = true
    · rw [Interpreter.step_of_number hc hl]
      exact hi
    · have hl := Bool.eq_false_iff.2 hl
      rw [Interpreter.step_of_other hc hl]
      have kept := h.handOver w hc hl hi
      rwa [← Interpreter.log_proceed k i i.machine] at kept
  · rw [Interpreter.step_of_command hc]
    have kept := h.command c w.rest hi
    rwa [← Interpreter.log_proceed k i (c.run d i.machine w.rest).machine] at kept

theorem read (h : Traced d k P) {i : Interpreter σ} (hi : P i.machine i.device i.log) (t : Text) :
    let j := i.read d k t
    P j.machine j.device j.log := by
  induction i, t using Interpreter.read_induction d k with
  | broken i t e hn =>
    rw [Interpreter.read_of_error hn]
    show P i.machine i.device (i.report e).log
    rw [Interpreter.log_report]
    exact hi
  | finished i t hn =>
    rw [Interpreter.read_of_none hn]
    exact hi
  | stop i t w hn ht =>
    rw [Interpreter.read_of_stop hn ht]
    exact h.step hi w
  | goesOn i t w rest hn ht ih =>
    rw [Interpreter.read_of_rest hn ht]
    exact ih (h.step hi w)

theorem readLine (h : Traced d k P) {i : Interpreter σ} (hi : P i.machine i.device i.log)
    (t : Text) :
    let j := i.readLine d k t
    P j.machine j.device j.log :=
  h.read (i := { i with lineCount := i.lineCount + 1 }) hi t

theorem readLines (h : Traced d k P) {i : Interpreter σ} (hi : P i.machine i.device i.log)
    (ts : List Text) :
    let j := i.readLines d k ts
    P j.machine j.device j.log := by
  -- counts and diagnostics are cleared first, and then the lines are read one by one
  have lines : ∀ (ts : List Text) (i : Interpreter σ), P i.machine i.device i.log →
      let j := ts.foldl (Interpreter.readLine d k) i
      P j.machine j.device j.log := by
    intro ts
    induction ts with
    | nil =>
        intro i hi
        exact hi
    | cons t ts ih =>
        intro i hi
        exact ih _ (h.readLine hi t)
  exact lines ts { i with lineCount := 0, diagnostics := #[] } hi

theorem call (h : Traced d k P) {i : Interpreter σ} (hi : P i.machine i.device i.log) (c : Call) :
    let j := i.call d k c
    P j.machine j.device j.log := by
  cases c with
  | line t => exact h.readLine hi t
  | lines ts => exact h.readLines hi ts
  | program t => exact h.readLines hi (Text.lines t)

theorem session (h : Traced d k P) {i : Interpreter σ} (hi : P i.machine i.device i.log)
    (calls : List Call) :
    let j := i.session d k calls
    P j.machine j.device j.log := by
  induction calls generalizing i with
  | nil => exact hi
  | cons c calls ih => exact ih (h.call hi c)

/-- What holds at power-on, and is kept, holds after every session. -/
theorem start_session (h : Traced d k P) {s : σ} (hs : P (Machine.powerOn d) s [])
    (calls : List Call) :
    let i := (Interpreter.start d s).session d k calls
    P i.machine i.device i.log :=
  h.session (i := Interpreter.start d s) hs calls

end Traced

/-- The device is where its log leads it. -/
theorem traced_acceptAll {σ : Type} (d : Dialect) (k : Device σ) (s : σ) :
    Traced d k fun _ x log => x = k.acceptAll log s where
  command c t := by
    rintro rfl
    exact (k.acceptAll_append _ _ s).symm
  handOver w _ _ := by
    rintro rfl
    exact (k.acceptAll_append _ [.handOver w] s).symm

/-! ### Without the log -/

/-- `P` is kept by every command and by every word that is handed over, and is not about the log. -/
structure Kept {σ : Type} (d : Dialect) (k : Device σ) (P : Machine → σ → Prop) : Prop where
  command : ∀ {m s} (c : Command) (t : Text), P m s →
    P (c.run d m t).machine (k.acceptAll (c.run d m t).actions s)
  handOver : ∀ {m s} (w : Word), Command.ofWord? w = none → Interpreter.isLineNumber w = false →
    P m s → P m (k.accept (.handOver w) s)

/-- What holds at power-on, and is kept, holds after every session. -/
theorem Kept.start_session {σ : Type} {d : Dialect} {k : Device σ} {P : Machine → σ → Prop}
    (h : Kept d k P) {s : σ} (hs : P (Machine.powerOn d) s) (calls : List Call) :
    P ((Interpreter.start d s).session d k calls).machine
      ((Interpreter.start d s).session d k calls).device :=
  have traced : Traced d k fun m s _ => P m s := ⟨h.command, h.handOver⟩
  traced.start_session hs calls

end Toolpath
