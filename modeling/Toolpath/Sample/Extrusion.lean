/-
Toolpath/Sample/Extrusion.lean

How much filament a printed segment takes.  The segment and the filament have the same
volume, so the length of filament is the volume over the area of its cross-section.
-/
namespace Toolpath.Sample

/-- The radius of the filament, in millimetres. -/
def filamentRadius : Float := 1.75 / 2.0

/-- The area of the filament's cross-section, in square millimetres. -/
def filamentArea : Float := 3.141592653589793 * (filamentRadius * filamentRadius)

/-- The width of a printed segment, in millimetres, where none is given. -/
def segmentWidth : Float := 0.4

/-- The length of filament for a segment of the given length, height and width. -/
def filamentLength (length height width : Float) : Float :=
  length * height * width / filamentArea

end Toolpath.Sample
