/-
Toolpath/Machine/Basic.lean

The registers of the machine: the size of the unit in force, and for each axis whether
it reads positions absolutely, where its origin is, and where it stands.  A register is
changed for one axis at a time or for all of them at once, and a change for one axis is
invisible on the others.
-/
import Toolpath.Dialect

namespace Toolpath

/-- The registers of the machine.  Lengths are in machine units. -/
structure Machine where
  /-- Machine units for one unit of the program. -/
  unitScale : Float
  /-- Whether the axis reads a position from its origin, or as a distance. -/
  absolute : PerAxis Bool
  /-- The position that reads as zero. -/
  origin : PerAxis Float
  /-- The position last commanded. -/
  position : PerAxis Float
  /-- The feed rate in force. -/
  feedrate : Float
  deriving DecidableEq

namespace Machine

/-! ### Operations -/

/-- The machine at power-on. -/
def powerOn (d : Dialect) : Machine where
  unitScale := d.millimetreScale
  absolute := PerAxis.fill true
  origin := PerAxis.fill 0.0
  position := PerAxis.fill 0.0
  feedrate := d.startFeedrate

/-- All registers put back. -/
def reset (d : Dialect) (m : Machine) : Machine :=
  { m with
    unitScale := d.millimetreScale
    absolute := PerAxis.fill true
    origin := PerAxis.fill 0.0
    position := PerAxis.fill 0.0
    feedrate := d.startFeedrate }

/-- No register is forgotten. -/
theorem reset_eq (d : Dialect) (m : Machine) : m.reset d = powerOn d := rfl

/-- The position that the number `v` means on the axis `i`. -/
def target (m : Machine) (i : Axis) (v : Float) : Float :=
  if m.absolute.get i then m.origin.get i + v else m.position.get i + v

/-- The axis `i` commanded to `v`. -/
def moveAxis (m : Machine) (i : Axis) (v : Float) : Machine :=
  { m with position := m.position.set i (m.target i v) }

/-- The origin of the axis `i` moved so that its position reads as `v`. -/
def rebaseAxis (m : Machine) (i : Axis) (v : Float) : Machine :=
  { m with origin := m.origin.set i (m.position.get i - v) }

/-- The mode of one axis. -/
def setAbsolute (m : Machine) (i : Axis) (b : Bool) : Machine :=
  { m with absolute := m.absolute.set i b }

/-- One mode for all axes. -/
def setAllAbsolute (m : Machine) (b : Bool) : Machine :=
  { m with absolute := PerAxis.fill b }

/-- All axes at zero, which is the origin of each. -/
def home (m : Machine) : Machine :=
  { m with position := PerAxis.fill 0.0, origin := PerAxis.fill 0.0 }

/-- The positions as the program reads them, from the origins. -/
def logicalPosition (m : Machine) : PerAxis Float :=
  PerAxis.zipWith (· - ·) m.position m.origin

/-! ### What a command to one axis changes -/

theorem get_position_moveAxis (m : Machine) (i j : Axis) (v : Float) :
    (m.moveAxis i v).position.get j = if j = i then m.target i v else m.position.get j :=
  PerAxis.get_set _ i j _

theorem get_origin_rebaseAxis (m : Machine) (i j : Axis) (v : Float) :
    (m.rebaseAxis i v).origin.get j = if j = i then m.position.get i - v else m.origin.get j :=
  PerAxis.get_set _ i j _

theorem get_absolute_setAbsolute (m : Machine) (i j : Axis) (b : Bool) :
    (m.setAbsolute i b).absolute.get j = if j = i then b else m.absolute.get j :=
  PerAxis.get_set _ i j _

end Machine

end Toolpath
