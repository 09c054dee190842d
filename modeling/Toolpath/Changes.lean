/-
Toolpath/Changes.lean

The changes that a program makes to the registers of the machine, one after the other.  A
command makes its changes in the order of its parameters, a line those of its commands, and a
program those of its lines.
-/
import Toolpath.Interpreter
import Toolpath.Machine.Step

namespace Toolpath

open Machine (Step)

namespace Command

/-- The changes by the parameters of a move. -/
def moveChanges (m : Machine) : List Word → List Step
  | [] => []
  | w :: ws =>
    let v := w.value * m.unitScale
    if w.letter = ['F'] then
      if v != m.feedrate then .setFeedrate v :: moveChanges { m with feedrate := v } ws
      else moveChanges m ws
    else
      match Axis.ofLetter? w.letter with
      | some i => .moveAxis i v :: moveChanges (m.moveAxis i v) ws
      | none => moveChanges m ws

/-- The changes by the parameters of a change of origin.  The unit stays as it is meanwhile. -/
def originChanges (m : Machine) (ws : List Word) : List Step :=
  ws.filterMap fun w =>
    (Axis.ofLetter? w.letter).map fun i => .rebaseAxis i (w.value * m.unitScale)

/-- The changes by a command that is run on the registers `m`, with `t` the text after it. -/
def changes (d : Dialect) (m : Machine) (t : Text) : Command → List Step
  | .rapidMove => moveChanges m (Word.span d isMoveWord t).1
  | .coordinatedMove => moveChanges m (Word.span d isMoveWord t).1
  | .useInches => [.setUnitScale d.inchScale]
  | .useMillimetres => [.setUnitScale d.millimetreScale]
  | .home => [.home]
  | .absolute => [.setAllAbsolute true]
  | .relative => [.setAllAbsolute false]
  | .rebase => originChanges m (Word.span d isAxisWord t).1
  | .absoluteExtruder => [.setAbsolute d.extruder true]
  | .relativeExtruder => [.setAbsolute d.extruder false]
  | _ => []

end Command

namespace Interpreter

variable {σ : Type}

/-- The changes by one word of a line. -/
def wordChanges (d : Dialect) (m : Machine) (w : Word) : List Step :=
  match Command.ofWord? w with
  | some c => c.changes d m w.rest
  | none => []

/-- The changes while a text is read to its end. -/
def changes (d : Dialect) (k : Device σ) (i : Interpreter σ) (t : Text) : List Step :=
  match _hw : Word.next? d t with
  | .error _ => []
  | .ok none => []
  | .ok (some w) =>
    wordChanges d i.machine w ++
      match _ht : i.step d k w with
      | (_, none) => []
      | (j, some rest) => changes d k j rest
termination_by t.length
decreasing_by
  have hw := Word.length_rest_of_next? ‹_›
  have ht := length_of_step (congrArg Prod.snd ‹_›)
  omega

end Interpreter

end Toolpath
