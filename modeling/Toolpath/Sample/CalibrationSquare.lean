/-
Toolpath/Sample/CalibrationSquare.lean

A sample program: a hollow square tower, one perimeter for each layer.  The program sets
up the machine, prints the layers from the bed upwards, and turns everything off.
-/
import Toolpath.Number.Shortest
import Toolpath.Sample.Extrusion
import Toolpath.Sample.Writing

namespace Toolpath.Sample

/-- What can be chosen about the tower.  Lengths are in millimetres, temperatures in
degrees Celsius, and the speed is in millimetres a second. -/
structure CalibrationSquare where
  size : Float := 20.0
  layerHeight : Float := 0.2
  layers : Int := 10
  nozzleTemperature : Float := 210.0
  bedTemperature : Float := 60.0
  speed : Float := 60.0

namespace CalibrationSquare

/-- The square's corner nearest to the origin has this for both coordinates. -/
def corner : Float := 90.0

/-- The feed rate for printing, in millimetres a minute. -/
def feedrate (s : CalibrationSquare) : Float :=
  s.speed * 60.0

/-- The feed rate for moving without printing. -/
def travelFeedrate : Float := 120.0 * 60.0

/-- The feed rate for lifting the nozzle. -/
def liftFeedrate : Float := 300.0

/-- The corners of the square, in the order in which they are printed. -/
def corners (s : CalibrationSquare) : List (Float × Float) :=
  [(corner + s.size, corner), (corner + s.size, corner + s.size), (corner, corner + s.size),
   (corner, corner)]

/-- The filament for one side. -/
def sideFilament (s : CalibrationSquare) : Float :=
  filamentLength s.size s.layerHeight segmentWidth

/-- What goes before the layers. -/
def opening (s : CalibrationSquare) : List Text :=
  ["; Calibration square".toList,
   "; Size: ".toList ++ Shortest.write s.size ++ " mm, Layers: ".toList ++ integer s.layers
     ++ ", Layer height: ".toList ++ Shortest.write s.layerHeight ++ " mm".toList,
   "G21 ; millimetres".toList,
   "M104 ".toList ++ word 'S' 0 s.nozzleTemperature ++ " ; set hotend temp".toList,
   "M140 ".toList ++ word 'S' 0 s.bedTemperature ++ " ; set bed temp".toList,
   "M109 ".toList ++ word 'S' 0 s.nozzleTemperature ++ " ; wait for hotend".toList,
   "M190 ".toList ++ word 'S' 0 s.bedTemperature ++ " ; wait for bed".toList,
   "G28 ; home all axes".toList,
   "G90 ; absolute positioning".toList,
   "M82 ; absolute extrusion".toList,
   "G92 E0 ; reset extruder".toList,
   "M106 S255 ; fan on full".toList,
   []]

/-- The sides of one layer.  The extruder is absolute, so the filament adds up; `used` is
what was used before, and the total is given back with the lines. -/
def sides (s : CalibrationSquare) : List (Float × Float) → Float → List Text × Float
  | [], used => ([], used)
  | (x, y) :: more, used =>
    let used := used + s.sideFilament
    let line := "G1 ".toList ++ word 'X' 3 x ++ [' '] ++ word 'Y' 3 y ++ [' ']
      ++ word 'E' 5 used ++ [' '] ++ word 'F' 0 s.feedrate
    let rest := sides s more used
    (line :: rest.1, rest.2)

/-- The layer with the given number, counted from zero: the nozzle is lifted, goes to the
corner, and then round the square. -/
def layer (s : CalibrationSquare) (number : Nat) (used : Float) : List Text × Float :=
  let height := Float.ofNat (number + 1) * s.layerHeight
  let printed := sides s s.corners used
  (["; Layer ".toList ++ Decimal.digits number,
    "G1 ".toList ++ word 'Z' 3 height ++ [' '] ++ word 'F' 0 liftFeedrate,
    "G0 ".toList ++ word 'X' 3 corner ++ [' '] ++ word 'Y' 3 corner ++ [' ']
      ++ word 'F' 0 travelFeedrate] ++ printed.1 ++ [[]],
   printed.2)

/-- The layers from the one with the given number on. -/
def tower (s : CalibrationSquare) : (count number : Nat) → (used : Float) → List Text
  | 0, _, _ => []
  | count + 1, number, used =>
    let l := s.layer number used
    l.1 ++ tower s count (number + 1) l.2

/-- What goes after the layers. -/
def closing : List Text :=
  ["; End".toList, "M104 S0 ; hotend off".toList, "M140 S0 ; bed off".toList,
   "M107 ; fan off".toList, "G28 X0 Y0 ; home X Y".toList, "M84 ; disable steppers".toList]

/-- The program for the tower; a negative number of layers is none. -/
def text (s : CalibrationSquare) : Text :=
  Text.unlines (s.opening ++ s.tower s.layers.toNat 0 0.0 ++ closing)

end CalibrationSquare

end Toolpath.Sample
