/-
Toolpath/Interpreter.lean

The interpreter: it reads a program line by line and drives a device.  A word that names a
command runs it; a line number is dropped; every other word is handed over to the device,
which says where reading goes on.  A broken word ends its line with a diagnostic, and what
the words before it did stays done.

All that happens is kept in a journal, in order.  A line ends because each word is followed
by less text than it stood in: a command leaves an end of the text after it, and so does a
device.
-/
import Toolpath.Command
import Toolpath.Device.Basic
import Toolpath.Text.Line

namespace Toolpath

/-! ### Diagnostics and the journal -/

/-- A broken word, and the line it stands in. -/
structure Diagnostic where
  line : Nat
  cause : WordError
  deriving DecidableEq

/-- What a diagnostic says. -/
def Diagnostic.message (g : Diagnostic) : Text :=
  "Line ".toList ++ Decimal.digits g.line ++ ": ".toList ++ g.cause.message

theorem Diagnostic.message_mk (line : Nat) (cause : WordError) :
    Diagnostic.message ⟨line, cause⟩
      = "Line ".toList ++ Decimal.digits line ++ ": ".toList ++ cause.message := rfl

/-- Something that happened. -/
inductive Event
  | action (a : Action)
  | diagnostic (g : Diagnostic)
  deriving DecidableEq

/-- What the log says about an event: of an action, what the device says, and each
diagnostic as a warning. -/
def Event.entries {σ : Type} (k : Device σ) : Event → List LogEntry
  | .action a => k.entries a
  | .diagnostic g => [⟨.warning, g.message⟩]

/-! ### The interpreter -/

/-- The interpreter between two lines. -/
structure Interpreter (σ : Type) where
  machine : Machine
  device : σ
  /-- The number of lines read of the program. -/
  lineCount : Nat
  /-- The diagnostics of the program, in order. -/
  diagnostics : Array Diagnostic
  /-- All that happened since the interpreter was made. -/
  journal : Array Event

namespace Interpreter

variable {σ : Type}

/-- An interpreter at power-on, with the device in the state `s`. -/
def start (d : Dialect) (s : σ) : Interpreter σ where
  machine := Machine.powerOn d
  device := s
  lineCount := 0
  diagnostics := #[]
  journal := #[]

/-- The machine put back, and no program read.  The device is left as it is. -/
def reset (d : Dialect) (i : Interpreter σ) : Interpreter σ :=
  { i with machine := i.machine.reset d, lineCount := 0, diagnostics := #[] }

/-- An action given to the device. -/
def emit (k : Device σ) (i : Interpreter σ) (a : Action) : Interpreter σ :=
  { i with device := k.accept a i.device, journal := i.journal.push (.action a) }

/-- A diagnostic for the line that is being read. -/
def report (i : Interpreter σ) (e : WordError) : Interpreter σ :=
  let g : Diagnostic := ⟨i.lineCount, e⟩
  { i with diagnostics := i.diagnostics.push g, journal := i.journal.push (.diagnostic g) }

/-- The registers and actions of a command taken over. -/
def settle (k : Device σ) (i : Interpreter σ) (o : Command.Outcome) : Interpreter σ :=
  o.actions.foldl (emit k) { i with machine := o.machine }

/-- What a command leaves: its registers, and its actions with the device and in the
journal.  Counts and diagnostics are not touched. -/
theorem settle_eq (k : Device σ) (i : Interpreter σ) (o : Command.Outcome) :
    i.settle k o =
      { i with
        machine := o.machine
        device := k.acceptAll o.actions i.device
        journal := i.journal ++ o.actions.map Event.action } := by
  rcases o with ⟨m, actions, rest⟩
  show actions.foldl (emit k) { i with machine := m } = _
  -- the actions are given to the device one by one, whatever was given to it before
  suffices h : ∀ j : Interpreter σ, actions.foldl (emit k) j =
      { j with
        device := k.acceptAll actions j.device
        journal := j.journal ++ actions.map Event.action } from h { i with machine := m }
  induction actions with
  | nil =>
      intro j
      simp
  | cons a actions ih =>
      intro j
      have hj : j.journal.push (.action a) ++ actions.map Event.action
          = j.journal ++ (a :: actions).map Event.action := by
        apply Array.toList_inj.1
        simp
      rw [List.foldl_cons, ih]
      exact congrArg (Interpreter.mk j.machine _ j.lineCount j.diagnostics) hj

/-- Whether a word is the number of its line. -/
def isLineNumber (w : Word) : Bool :=
  w.letter = ['N']

/-- One word of a line: the interpreter after it, and the text with which the line goes
on, if it does. -/
def step (d : Dialect) (k : Device σ) (i : Interpreter σ) (w : Word) :
    Interpreter σ × Option Text :=
  match Command.ofWord? w with
  | some c =>
    let o := c.run d i.machine w.rest
    (i.settle k o, some o.rest)
  | none =>
    if isLineNumber w then
      (i, some w.rest)
    else
      let rest := k.resume w i.device
      (i.emit k (.handOver w), rest)

theorem length_of_step {d : Dialect} {k : Device σ} {i : Interpreter σ} {w : Word} {t : Text}
    (h : (i.step d k w).2 = some t) : t.length ≤ w.rest.length := by
  rw [step] at h
  split at h
  · next c hc =>
      -- a command leaves an end of the text
      cases h
      exact (Command.rest_suffix d i.machine w.rest c).length_le
  · split at h
    · -- a line number leaves all of the text
      cases h
      exact Nat.le_refl _
    · -- the device leaves no more than there was
      exact k.length_resume_le h

/-- The text of a line read to its end. -/
def read (d : Dialect) (k : Device σ) (i : Interpreter σ) (t : Text) : Interpreter σ :=
  match _hw : Word.next? d t with
  | .error e => i.report e
  | .ok none => i
  | .ok (some w) =>
    match _ht : i.step d k w with
    | (i, none) => i
    | (i, some rest) => read d k i rest
termination_by t.length
decreasing_by
  have hw := Word.length_rest_of_next? ‹_›
  have ht := length_of_step (congrArg Prod.snd ‹_›)
  omega

/-! ### One word at a time -/

theorem read_of_error {d : Dialect} {k : Device σ} {i : Interpreter σ} {t : Text} {e : WordError}
    (h : Word.next? d t = .error e) : read d k i t = i.report e := by
  rw [read]
  split
  · next e' h' => exact congrArg i.report (Except.error.inj (h'.symm.trans h))
  · next h' => exact nomatch h'.symm.trans h
  · next w h' => exact nomatch h'.symm.trans h

theorem read_of_none {d : Dialect} {k : Device σ} {i : Interpreter σ} {t : Text}
    (h : Word.next? d t = .ok none) : read d k i t = i := by
  rw [read]
  split
  · next e h' => exact nomatch h'.symm.trans h
  · rfl
  · next w h' => exact nomatch h'.symm.trans h

/-- A word is dealt with first, and then what it leaves of the line. -/
theorem read_of_word {d : Dialect} {k : Device σ} {i : Interpreter σ} {t : Text} {w : Word}
    (h : Word.next? d t = .ok (some w)) :
    read d k i t = match (i.step d k w).2 with
      | none => (i.step d k w).1
      | some rest => read d k (i.step d k w).1 rest := by
  rw [read]
  split
  · next e h' => exact nomatch h'.symm.trans h
  · next h' => exact nomatch h'.symm.trans h
  · next w' h' =>
      obtain rfl : w' = w := Option.some.inj (Except.ok.inj (h'.symm.trans h))
      rcases hs : i.step d k w' with ⟨j, - | rest⟩ <;> rfl

/-! ### Whole lines and programs -/

/-- The next line of a program. -/
def readLine (d : Dialect) (k : Device σ) (i : Interpreter σ) (line : Text) : Interpreter σ :=
  read d k { i with lineCount := i.lineCount + 1 } line

/-- A program, given by its lines.  Counts and diagnostics begin anew; the machine and the
device are left from what was read before. -/
def readLines (d : Dialect) (k : Device σ) (i : Interpreter σ) (lines : List Text) :
    Interpreter σ :=
  lines.foldl (readLine d k) { i with lineCount := 0, diagnostics := #[] }

/-- A program, given as a text. -/
def readProgram (d : Dialect) (k : Device σ) (i : Interpreter σ) (program : Text) :
    Interpreter σ :=
  readLines d k i (Text.lines program)

/-- The log of all that happened after the first `seen` events. -/
def logSince (k : Device σ) (i : Interpreter σ) (seen : Nat) : List LogEntry :=
  (i.journal.toList.drop seen).flatMap (Event.entries k)

end Interpreter

end Toolpath
