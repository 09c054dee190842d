/-
Toolpath/Action.lean

What a program makes the machine do.  The last kind of action is not the machine's own:
it hands over a word for which there is no command.
-/
import Toolpath.Axis.Mask
import Toolpath.Word.Basic

namespace Toolpath

/-- One thing the machine is told to do.  Positions hold all seven axes, in machine
units. -/
inductive Action
  | rapidMove (target : PerAxis Float)
  | coordinatedMove (target : PerAxis Float)
  | setFeedrate (value : Float)
  | setTemperature (value : Float)
  | setFanSpeed (value : Float)
  | waitTemperature
  | disableMotors
  | goHome (axes : AxisSet)
  | handOver (word : Word)
  deriving DecidableEq

namespace Action

/-- The name under which an action is listed. -/
def name : Action → String
  | .rapidMove _ => "rapid_move"
  | .coordinatedMove _ => "coordinated_move"
  | .setFeedrate _ => "set_feedrate"
  | .setTemperature _ => "set_temperature"
  | .setFanSpeed _ => "set_fanspeed"
  | .waitTemperature => "wait_temperature"
  | .disableMotors => "disable_motors"
  | .goHome _ => "go_home"
  | .handOver _ => "unprocessed"

/-- The position that an action leads to, if it is a move. -/
def target? : Action → Option (PerAxis Float)
  | .rapidMove target => some target
  | .coordinatedMove target => some target
  | _ => none

end Action

end Toolpath
