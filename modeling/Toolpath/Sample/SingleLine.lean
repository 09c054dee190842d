/-
Toolpath/Sample/SingleLine.lean

A sample program: one straight line, printed with relative moves and a relative extruder,
so that each number is a distance.
-/
import Toolpath.Sample.Extrusion
import Toolpath.Sample.Writing

namespace Toolpath.Sample

/-- What can be chosen about the line.  Lengths are in millimetres, the temperature in
degrees Celsius, and the speed is in millimetres a second. -/
structure SingleLine where
  length : Float := 100.0
  layerHeight : Float := 0.2
  nozzleTemperature : Float := 210.0
  speed : Float := 30.0

namespace SingleLine

/-- The feed rate for printing, in millimetres a minute. -/
def feedrate (s : SingleLine) : Float :=
  s.speed * 60.0

/-- The filament for the line. -/
def filament (s : SingleLine) : Float :=
  filamentLength s.length s.layerHeight segmentWidth

/-- The lines of the program. -/
def lines (s : SingleLine) : List Text :=
  ["; Single line test".toList,
   "M109 ".toList ++ word 'S' 0 s.nozzleTemperature,
   "G28".toList,
   "G91".toList,
   "M83".toList,
   "G1 ".toList ++ word 'Z' 3 s.layerHeight ++ " F300".toList,
   "G1 ".toList ++ word 'X' 3 s.length ++ [' '] ++ word 'E' 5 s.filament ++ [' ']
     ++ word 'F' 0 s.feedrate,
   "G90".toList,
   "M82".toList,
   "; End".toList,
   "M104 S0".toList,
   "M84".toList]

/-- The program for the line. -/
def text (s : SingleLine) : Text :=
  Text.unlines s.lines

end SingleLine

end Toolpath.Sample
