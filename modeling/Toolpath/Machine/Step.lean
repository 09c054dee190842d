/-
Toolpath/Machine/Step.lean

The changes that can be made to the registers of a machine, as data, so that a course of
changes is a list of them.
-/
import Toolpath.Machine.Basic

namespace Toolpath

namespace Machine

/-- One change to the registers. -/
inductive Step
  | moveAxis (i : Axis) (v : Float)
  | rebaseAxis (i : Axis) (v : Float)
  | setAbsolute (i : Axis) (b : Bool)
  | setAllAbsolute (b : Bool)
  | setUnitScale (v : Float)
  | setFeedrate (v : Float)
  | home
  | reset
  deriving DecidableEq

namespace Step

/-- The registers after the change. -/
def apply (d : Dialect) (m : Machine) : Step → Machine
  | .moveAxis i v => m.moveAxis i v
  | .rebaseAxis i v => m.rebaseAxis i v
  | .setAbsolute i b => m.setAbsolute i b
  | .setAllAbsolute b => m.setAllAbsolute b
  | .setUnitScale v => { m with unitScale := v }
  | .setFeedrate v => { m with feedrate := v }
  | .home => m.home
  | .reset => m.reset d

/-- What the change answers: a move, the position it leads to, and the others nothing. -/
def result? (m : Machine) : Step → Option Float
  | .moveAxis i v => some (m.target i v)
  | _ => none

/-- The axis that the change is addressed to, unless it is for the whole machine. -/
def axis? : Step → Option Axis
  | .moveAxis i _ => some i
  | .rebaseAxis i _ => some i
  | .setAbsolute i _ => some i
  | _ => none

end Step

/-- The registers after a course of changes. -/
def applyAll (d : Dialect) (m : Machine) (steps : List Step) : Machine :=
  steps.foldl (Step.apply d) m

/-- A change, with the registers before it. -/
structure AppliedStep where
  before : Machine
  step : Step
  deriving DecidableEq

/-- The changes of a course, each with the registers to which it is made. -/
def appliedSteps (d : Dialect) (m : Machine) : List Step → List AppliedStep
  | [] => []
  | s :: more => ⟨m, s⟩ :: appliedSteps d (s.apply d m) more

/-- What a move answers is where it leaves the axis. -/
theorem get_position_of_result? {d : Dialect} {m : Machine} {i : Axis} {v : Float} :
    (Step.moveAxis i v).result? m = some ((Step.apply d m (.moveAxis i v)).position.get i) := by
  show some (m.target i v) = some ((m.moveAxis i v).position.get i)
  rw [get_position_moveAxis, if_pos rfl]

end Machine

end Toolpath
