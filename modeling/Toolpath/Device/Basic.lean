/-
Toolpath/Device/Basic.lean

Devices: what the actions of a program go to.  A device takes each action into its own
state, may put lines into the log about it, and decides where reading goes on after a
word that was handed over.  It may skip text then but never make any, so a line always
comes to an end.
-/
import Toolpath.Action

namespace Toolpath

/-! ### The log -/

/-- How grave an entry of the log is. -/
inductive Severity
  | debug
  | info
  | warning
  deriving DecidableEq, Repr

/-- The name of a severity. -/
def Severity.name : Severity → String
  | .debug => "DEBUG"
  | .info => "INFO"
  | .warning => "WARNING"

/-- A line of the log. -/
structure LogEntry where
  severity : Severity
  message : Text
  deriving DecidableEq, Repr

/-! ### Devices -/

/-- A device whose state is of type `σ`. -/
structure Device (σ : Type) where
  /-- The state after an action. -/
  accept : Action → σ → σ
  /-- The text with which reading goes on after a word that was handed over, or none if
  the rest of the line is dropped.  The state is that before the word. -/
  resume : Word → σ → Option Text
  /-- What the log says about an action. -/
  entries : Action → List LogEntry
  /-- The text to go on with is no longer than the text after the word. -/
  length_resume_le : ∀ {w : Word} {s : σ} {t : Text},
    resume w s = some t → t.length ≤ w.rest.length

namespace Device

variable {σ : Type}

/-- The state after several actions. -/
def acceptAll (k : Device σ) (actions : List Action) (s : σ) : σ :=
  actions.foldl (fun s a => k.accept a s) s

@[simp] theorem acceptAll_nil (k : Device σ) (s : σ) : k.acceptAll [] s = s := rfl

@[simp] theorem acceptAll_cons (k : Device σ) (a : Action) (as : List Action) (s : σ) :
    k.acceptAll (a :: as) s = k.acceptAll as (k.accept a s) := rfl

theorem acceptAll_append (k : Device σ) (as bs : List Action) (s : σ) :
    k.acceptAll (as ++ bs) s = k.acceptAll bs (k.acceptAll as s) :=
  List.foldl_append

end Device

end Toolpath
