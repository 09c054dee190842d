/-
Toolpath/Dialect.lean

What may differ from one machine to the next in how it reads its programs: the sizes of
its units, its feed rate at power-on, the axis that is its extruder, and the marks that
end a line.
-/
import Toolpath.Axis.Basic

namespace Toolpath

/-- The settings that a reader of programs and its machine share. -/
structure Dialect where
  /-- Machine units for one millimetre. -/
  millimetreScale : Float := 1.0
  /-- Machine units for one inch. -/
  inchScale : Float := 25.4
  /-- The feed rate in force at power-on, in machine units. -/
  startFeedrate : Float := 0.0
  /-- The axis whose mode can be switched on its own. -/
  extruder : Axis := .e
  /-- The characters that end a line where a word could begin. -/
  lineEnds : Text := [';', '%']
  /-- The letter, in upper case, that announces a checksum and so ends a line. -/
  checksumMark : Text := ['*']
  deriving DecidableEq, Repr

end Toolpath
